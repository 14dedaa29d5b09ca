/-
What conditionals leave of a header that is read for the first time.

Each enumeration type stands in a guard of its own, because another header may declare the
same type.  So it does not matter which types the header takes to be new: a type that was met
before vanishes, and before a structure each type that it needs has been met, in this header
or in an earlier one.  The types that are declared are those whose guards are defined; every
piece of a header keeps this up (`Advances`), and pieces follow each other.
-/
import DeviceGen.Proofs.Can.HeaderLines

namespace DeviceGen.Can

open DeviceGen.C (Preprocessor Typedef directive? enumBase enumGuard enumType guarded sizeMacro
  typedefs)
open DeviceGen.Schema (Enumeration)
open DeviceGen.Text (IsWord)

/-! ### What lines declare -/

/-- No two enumerations have one guard. -/
def Apart (needed : Enumeration → Prop) : Prop :=
  ∀ e e', needed e → needed e' → enumGuard e.name = enumGuard e'.name → e = e'

/-- Enumeration types are declared once, and those are declared whose guards are defined. -/
def EnumsDeclared (needed : Enumeration → Prop) (defined lines : List String) : Prop :=
  ∃ es : List Enumeration, C.Declares lines (es.map typedefOf) ∧ es.Nodup
    ∧ ∀ e, e ∈ es ↔ needed e ∧ enumGuard e.name ∈ defined

/-- The line that opens a structure. -/
def structOpening : String := "typedef struct \x7b"

/-- The first character of a line may say that it opens no structure. -/
theorem ne_structOpening {line : String} (h : line.toList.head? ≠ some 't') :
    line ≠ structOpening := by
  rintro rfl
  exact h (by decide)

/-- No structure begins in these lines. -/
def Quiet (lines : List String) : Prop := ∀ line ∈ lines, line ≠ structOpening

instance (lines : List String) : Decidable (Quiet lines) :=
  inferInstanceAs (Decidable (∀ line ∈ lines, line ≠ structOpening))

theorem quiet_commentLines : Quiet commentLines := by decide

theorem quiet_includeLines : Quiet includeLines := by decide

theorem Quiet.append {lines others : List String} (h : Quiet lines) (h' : Quiet others) :
    Quiet (lines ++ others) :=
  List.forall_mem_append.mpr ⟨h, h'⟩

/-- `Declared earlier ms part`: after the lines `earlier`, the lines of `part` hold the whole
structures of the messages `ms` and no others, in order, each after the types that its members
have. -/
inductive Declared : List String → List Message → List String → Prop where
  | nil {earlier part : List String} (quiet : Quiet part) : Declared earlier [] part
  | cons {earlier before after : List String} {m : Message} {ms : List Message}
      (quiet : Quiet before) (types : ∀ e ∈ m.enums, typedefOf e ∈ typedefs (earlier ++ before))
      (rest : Declared (earlier ++ before ++ structLines m.name m.bindings) ms after) :
      Declared earlier (m :: ms) (before ++ structLines m.name m.bindings ++ after)

/-- Lines may follow. -/
theorem Declared.append {earlier part others : List String} {ms : List Message}
    (h : Declared earlier ms part) (hothers : Quiet others) :
    Declared earlier ms (part ++ others) := by
  induction h with
  | nil quiet => exact .nil (quiet.append hothers)
  | cons quiet types _ ih =>
      rw [List.append_assoc]
      exact .cons quiet types ih

/-- Lines may stand in front. -/
theorem Declared.prepend {earlier part others : List String} {ms : List Message}
    (hothers : Quiet others) (h : Declared (earlier ++ others) ms part) :
    Declared earlier ms (others ++ part) := by
  cases h with
  | nil quiet => exact .nil (hothers.append quiet)
  | @cons _ before after m ms quiet types rest =>
      rw [List.append_assoc earlier] at types rest
      rw [List.append_assoc before, ← List.append_assoc others, ← List.append_assoc]
      exact .cons (hothers.append quiet) types rest

/-! ### One piece of a header -/

section Pieces

variable {needed : Enumeration → Prop}

/-- What reading lines of a header does inside its guard: conditionals are closed again, no
guard of a header is defined, and the types that are declared are again those whose guards
are defined. -/
structure Advances (needed : Enumeration → Prop) (s : Preprocessor) (lines : List String)
    (t : Preprocessor) (kept : List String) : Prop where
  run : s.run lines = some (t, kept)
  taken : t.taken = s.taken
  mono : ∀ x ∈ s.defined, x ∈ t.defined
  news : ∀ x ∈ t.defined, x ∈ s.defined ∨ x.toList.getLast? ≠ some 'H'
  enums : ∀ {earlier}, EnumsDeclared needed s.defined earlier →
    EnumsDeclared needed t.defined (earlier ++ kept)

variable {s t u : Preprocessor} {lines others kept more : List String}

theorem Advances.keeps (h : Advances needed s lines t kept) : t.keeps = s.keeps := by
  unfold Preprocessor.keeps
  rw [h.taken]

theorem Advances.append (h : Advances needed s lines t kept)
    (h' : Advances needed t others u more) :
    Advances needed s (lines ++ others) u (kept ++ more) where
  run := Preprocessor.run_append_of h.run h'.run
  taken := h'.taken.trans h.taken
  mono := fun x hx => h'.mono x (h.mono x hx)
  news := fun x hx => by
    rcases h'.news x hx with hx | hx
    · exact h.news x hx
    · exact Or.inr hx
  enums := fun hearlier => by
    rw [← List.append_assoc]
    exact h'.enums (h.enums hearlier)

theorem EnumsDeclared.plain {defined earlier : List String}
    (h : EnumsDeclared needed defined earlier) (hlines : ∀ line ∈ lines, line ≠ Typedef.opening) :
    EnumsDeclared needed defined (earlier ++ lines) := by
  obtain ⟨es, hdeclares, hnodup, hmem⟩ := h
  have hplain := hdeclares.append (C.Declares.of_plain hlines)
  rw [List.append_nil] at hplain
  exact ⟨es, hplain, hnodup, hmem⟩

/-- A macro that guards no type makes no difference. -/
theorem EnumsDeclared.define {defined earlier : List String} {x : String}
    (h : EnumsDeclared needed defined earlier) (hx : ∀ name, enumGuard name ≠ x) :
    EnumsDeclared needed (x :: defined) earlier := by
  obtain ⟨es, hdeclares, hnodup, hmem⟩ := h
  refine ⟨es, hdeclares, hnodup, fun e => ?_⟩
  rw [hmem, List.mem_cons]
  simp [hx e.name]

/-- A type that was not declared is declared, and its guard is defined. -/
theorem EnumsDeclared.declare {defined earlier : List String} {e : Enumeration}
    (h : EnumsDeclared needed defined earlier) (hapart : Apart needed) (he : needed e)
    (hnew : enumGuard e.name ∉ defined) :
    EnumsDeclared needed (enumGuard e.name :: defined) (earlier ++ (typedefOf e).lines) := by
  obtain ⟨es, hdeclares, hnodup, hmem⟩ := h
  refine ⟨es ++ [e], ?_, ?_, fun e' => ?_⟩
  · rw [List.map_append]
    exact hdeclares.append (declares_typedef e)
  · rw [List.nodup_append]
    refine ⟨hnodup, by simp, ?_⟩
    intro a ha b hb hab
    rw [List.mem_singleton.mp hb] at hab
    exact hnew (hab ▸ ((hmem a).mp ha).2)
  · rw [List.mem_append, List.mem_singleton, hmem, List.mem_cons]
    constructor
    · rintro (⟨hneeded, hdefined⟩ | rfl)
      · exact ⟨hneeded, Or.inr hdefined⟩
      · exact ⟨he, Or.inl rfl⟩
    · rintro ⟨hneeded, hguard | hdefined⟩
      · exact Or.inr (hapart e' e hneeded he hguard)
      · exact Or.inl ⟨hneeded, hdefined⟩

theorem advances_plain (hs : s.keeps = true) (h : ∀ line ∈ lines, Plain line) :
    Advances needed s lines s lines where
  run := Preprocessor.run_plain hs fun line hline => (h line hline).directive
  taken := rfl
  mono := fun _ hx => hx
  news := fun _ hx => Or.inl hx
  enums := fun hearlier => hearlier.plain fun line hline => (h line hline).opening

theorem quiet_enumLines (e : Enumeration) : Quiet (enumLines e) := by
  intro line hline
  simp only [enumLines, List.mem_append, List.mem_cons, List.not_mem_nil, or_false,
    List.mem_map] at hline
  rcases hline with ((rfl | rfl | rfl | rfl) | ⟨v, -, rfl⟩) | rfl | rfl
  · decide
  · exact ne_structOpening (by simp)
  · exact ne_structOpening (by simp)
  · decide
  · exact ne_structOpening (by simp [enumeratorLine])
  · exact ne_structOpening (by simp)
  · exact ne_structOpening (by simp)

theorem quiet_flatMap_enumLines (es : List Enumeration) : Quiet (es.flatMap enumLines) := by
  intro line hline
  obtain ⟨e, -, hline⟩ := List.mem_flatMap.mp hline
  exact quiet_enumLines e line hline

/-- A type that was met before is left out. -/
theorem advances_type_again {e : Enumeration} (hdefined : enumGuard e.name ∈ s.defined) :
    Advances needed s (guarded (enumGuard e.name) (typeBody e)) s [] where
  run := Preprocessor.run_guarded_of_defined ((isWord_enumGuard e.name).not_mem (by decide))
    hdefined (balanced_typeBody e)
  taken := rfl
  mono := fun _ hx => hx
  news := fun _ hx => Or.inl hx
  enums := fun hearlier => by
    rw [List.append_nil]
    exact hearlier

/-- A type that is met for the first time is kept, and its guard is defined. -/
theorem advances_type_first (hapart : Apart needed) {e : Enumeration} (he : needed e)
    (hs : s.keeps = true) (hdefined : enumGuard e.name ∉ s.defined) :
    Advances needed s (guarded (enumGuard e.name) (typeBody e))
      ⟨enumGuard e.name :: s.defined, s.taken⟩ (typeBody e) where
  run := by
    have hguard := isWord_enumGuard e.name
    have hinner : Preprocessor.keeps ⟨s.defined, true :: s.taken⟩ = true := by
      simpa [Preprocessor.keeps] using hs
    have hrun := Preprocessor.run_append_of
      (Preprocessor.run_define hinner (directive?_guard hguard))
      (Preprocessor.run_plain (s := ⟨enumGuard e.name :: s.defined, true :: s.taken⟩) hinner
        (directive?_typedef e))
    exact Preprocessor.run_guarded_of_not_defined (hguard.not_mem (by decide)) hdefined hrun
  taken := rfl
  mono := fun _ hx => List.mem_cons_of_mem _ hx
  news := fun x hx => by
    rcases List.mem_cons.mp hx with rfl | hx
    · exact Or.inr (by rw [getLast?_enumGuard]; decide)
    · exact Or.inl hx
  enums := fun {earlier} hearlier => by
    have hdefine : ∀ line ∈ ["#define " ++ enumGuard e.name], line ≠ Typedef.opening := by
      intro line hline
      rw [List.mem_singleton.mp hline]
      exact ne_opening (by simp)
    have hdeclare := (hearlier.plain hdefine).declare hapart he hdefined
    rw [List.append_assoc] at hdeclare
    exact hdeclare

/-- The type of an enumeration has been met afterwards. -/
theorem advances_enumLines (hapart : Apart needed) {e : Enumeration} (he : needed e)
    (hs : s.keeps = true) :
    ∃ t kept, Advances needed s (enumLines e) t kept ∧ enumGuard e.name ∈ t.defined := by
  have hempty : Advances needed s [""] s [""] :=
    advances_plain hs fun line hline => List.mem_singleton.mp hline ▸ plain_empty
  rw [enumLines_eq]
  by_cases hdefined : enumGuard e.name ∈ s.defined
  · exact ⟨s, _, hempty.append (advances_type_again hdefined), hdefined⟩
  · exact ⟨_, _, hempty.append (advances_type_first hapart he hs hdefined), List.mem_cons_self⟩

/-- All types that a message is the first of its header to need. -/
theorem advances_flatMap_enumLines
    (hapart : Apart needed) {es : List Enumeration} (hes : ∀ e ∈ es, needed e)
    (hs : s.keeps = true) :
    ∃ t kept, Advances needed s (es.flatMap enumLines) t kept
      ∧ ∀ e ∈ es, enumGuard e.name ∈ t.defined := by
  induction es generalizing s with
  | nil => exact ⟨s, [], advances_plain hs (by simp), by simp⟩
  | cons e es ih =>
      obtain ⟨t, kept, hfirst, hdefined⟩ := advances_enumLines hapart (hes e List.mem_cons_self) hs
      obtain ⟨u, more, hrest, hall⟩ := ih (fun e' he' => hes e' (List.mem_cons_of_mem e he'))
        (hfirst.keeps.trans hs)
      refine ⟨u, kept ++ more, hfirst.append hrest, fun e' he' => ?_⟩
      rcases List.mem_cons.mp he' with rfl | he'
      · exact hrest.mono _ hdefined
      · exact hall e' he'

/-- The structure of a message is kept as it is. -/
theorem advances_structLines {m : Message} (hm : m.Clear) (hs : s.keeps = true) :
    ∃ t, Advances needed s (structLines m.name m.bindings) t (structLines m.name m.bindings) := by
  have hsize : Advances needed s [sizeLine m.name m.bindings]
      ⟨sizeMacro m.name :: s.defined, s.taken⟩ [sizeLine m.name m.bindings] :=
    { run := Preprocessor.run_define hs (directive?_sizeLine hm.name m.bindings)
      taken := rfl
      mono := fun _ hx => List.mem_cons_of_mem _ hx
      news := fun x hx => by
        rcases List.mem_cons.mp hx with rfl | hx
        · exact Or.inr (by rw [getLast?_sizeMacro]; decide)
        · exact Or.inl hx
      enums := fun hearlier => by
        refine (hearlier.plain fun line hline => ?_).define (enumGuard_ne_sizeMacro · m.name)
        rw [List.mem_singleton.mp hline]
        exact ne_opening (by simp [sizeLine]) }
  have hmembers : Advances needed s (membersLines m.name m.bindings) s _ :=
    advances_plain hs (plain_membersLines m.name m.bindings)
  have hfunctions : Advances needed _ (functionLines m.name) _ _ :=
    advances_plain (hsize.keeps.trans hs) (plain_functionLines m.name)
  rw [structLines_eq]
  exact ⟨_, (hmembers.append hsize).append hfunctions⟩

/-! ### The declarations of a header -/

/-- What a message chooses from is declared before it or was seen. -/
theorem mem_freshEnums {e : Enumeration} {bindings : List Binding} {b : Binding}
    (hb : b ∈ bindings) (hchoice : enumOf? b.representation = some e) (seen : List String) :
    e.name ∈ seen ∨ ∃ e' ∈ freshEnums seen bindings, e'.name = e.name := by
  induction bindings generalizing seen with
  | nil => cases hb
  | cons c cs ih =>
      unfold freshEnums
      rcases List.mem_cons.mp hb with rfl | hb
      · simp only [hchoice]
        by_cases hseen : seen.contains e.name = true
        · exact Or.inl (List.contains_iff_mem.mp hseen)
        · rw [if_neg hseen]
          exact Or.inr ⟨e, List.mem_cons_self, rfl⟩
      · cases hother : enumOf? c.representation with
        | none => exact ih hb seen
        | some found =>
            simp only
            by_cases hseen : seen.contains found.name = true
            · rw [if_pos hseen]
              exact ih hb seen
            · rw [if_neg hseen]
              rcases ih hb (found.name :: seen) with hmem | ⟨e', he', hname⟩
              · rcases List.mem_cons.mp hmem with hname | hmem
                · exact Or.inr ⟨found, List.mem_cons_self, hname.symm⟩
                · exact Or.inl hmem
              · exact Or.inr ⟨e', List.mem_cons_of_mem found he', hname⟩

/-- The guards of the types that a header has met are defined. -/
def Met (s : Preprocessor) (seen : List String) : Prop := ∀ name ∈ seen, enumGuard name ∈ s.defined

/-- The declarations of messages are kept, but for types that were declared before. -/
theorem advances_declarationLines
    (hapart : Apart needed) {ms : List Message} (hclear : ∀ m ∈ ms, m.Clear)
    (hneeded : ∀ m ∈ ms, ∀ e ∈ m.enums, needed e)
    {seen : List String} (hseen : Met s seen) (hs : s.keeps = true) :
    ∃ t kept, Advances needed s (declarationLines seen ms) t kept
      ∧ (∀ m ∈ ms, ∀ e ∈ m.enums, enumGuard e.name ∈ t.defined)
      ∧ ∀ earlier, EnumsDeclared needed s.defined earlier → Declared earlier ms kept := by
  induction ms generalizing s seen with
  | nil =>
      exact ⟨s, [], advances_plain hs (by simp [declarationLines]), by simp,
        fun _ _ => .nil (by simp [Quiet])⟩
  | cons m ms ih =>
      have hm := hclear m List.mem_cons_self
      have hfresh : ∀ e ∈ freshEnums seen m.bindings, needed e := fun e he =>
        hneeded m List.mem_cons_self e (List.mem_filterMap.mpr (mem_enums_of_mem_freshEnums he))
      obtain ⟨t, types, htypes, hdefined⟩ := advances_flatMap_enumLines hapart hfresh hs
      obtain ⟨u, hstruct⟩ : ∃ u, Advances needed t _ u (structLines m.name m.bindings) :=
        advances_structLines hm (htypes.keeps.trans hs)
      have hboth := htypes.append hstruct
      -- whatever the message chooses from has been met by now
      have hmet : ∀ e ∈ m.enums, enumGuard e.name ∈ t.defined := by
        intro e he
        obtain ⟨b, hb, hchoice⟩ := List.mem_filterMap.mp he
        rcases mem_freshEnums hb hchoice seen with hmem | ⟨e', he', hname⟩
        · exact htypes.mono _ (hseen e.name hmem)
        · rw [← hname]
          exact hdefined e' he'
      have hnext : Met u ((freshEnums seen m.bindings).map Enumeration.name ++ seen) := by
        intro name hname
        rcases List.mem_append.mp hname with hname | hname
        · obtain ⟨e, he, rfl⟩ := List.mem_map.mp hname
          exact hstruct.mono _ (hdefined e he)
        · exact hboth.mono _ (hseen name hname)
      obtain ⟨v, kept, hrest, hall, hdeclared⟩ := ih
        (fun n hn => hclear n (List.mem_cons_of_mem m hn))
        (fun n hn => hneeded n (List.mem_cons_of_mem m hn)) hnext (hboth.keeps.trans hs)
      refine ⟨v, _, hboth.append hrest, ?_, ?_⟩
      · intro n hn e he
        rcases List.mem_cons.mp hn with rfl | hn
        · exact hrest.mono _ (hstruct.mono _ (hmet e he))
        · exact hall n hn e he
      · intro earlier hearlier
        have hquiet : Quiet types := fun line hline => quiet_flatMap_enumLines _ line
          ((Preprocessor.sublist_of_run htypes.run).mem hline)
        refine .cons hquiet (fun e he => ?_) (hdeclared _ ?_)
        · obtain ⟨es, hdeclares, -, hmem⟩ := htypes.enums hearlier
          rw [hdeclares.typedefs]
          exact List.mem_map_of_mem
            ((hmem e).mpr ⟨hneeded m List.mem_cons_self e he, hmet e he⟩)
        · rw [List.append_assoc]
          exact hboth.enums hearlier

end Pieces

end DeviceGen.Can
