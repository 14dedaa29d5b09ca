/-
What mixed case keeps of a name.

An underscore gives way to a capital only in front of a lowercase letter, so a capital of a name
in mixed case that has none by itself always stands for an underscore and a letter.  Spelling
the capitals out gives the name back, and different names have different forms in mixed case.

No underscore of the result gives way again.  Where one is kept, what follows it stays what it
was or becomes a capital, and a capital makes no underscore in front of it give way.  So the names
in mixed case are those that mixed case leaves as they are.
-/
import DeviceGen.Proofs.Text.Lines

namespace DeviceGen.Text

/-- A capital letter as an underscore and the lowercase letter; other characters as they are. -/
def spelledOut (c : Char) : List Char := if c.isUpper then ['_', c.toLower] else [c]

/-- A text with every capital letter spelled out. -/
def spellOut (text : String) : String := String.ofList (text.toList.flatMap spelledOut)

/-- Whether a text is without capital letters. -/
def HasNoCapitals (text : String) : Prop := ∀ c ∈ text.toList, c.isUpper = false

instance (text : String) : Decidable (HasNoCapitals text) := List.decidableBAll _ _

theorem spelledOut_of_not_isUpper {c : Char} (h : c.isUpper = false) : spelledOut c = [c] := by
  simp [spelledOut, h]

theorem isWordChar_of_isLower {c : Char} (h : c.isLower = true) : isWordChar c = true := by
  show (((c.isUpper || c.isLower) || c.isDigit) || c == '_') = true
  simp [h]

/-- The capital of a lowercase letter stands for that letter. -/
theorem spelledOut_toUpper {c : Char} (h : c.isLower = true) : spelledOut c.toUpper = ['_', c] :=
  forall_isWordChar (P := fun c => c.isLower = true → spelledOut c.toUpper = ['_', c])
    (by decide) (isWordChar_of_isLower h) h

theorem isLower_of_folds {next : Char} {rest : List Char} (h : folds (next :: rest) = true) :
    next.isLower = true := by
  cases rest with
  | nil => exact h
  | cons after rest => exact (Bool.and_eq_true_iff.mp h).1

theorem flatMap_spelledOut_camelRest {cs : List Char} (h : ∀ c ∈ cs, c.isUpper = false) :
    (camelRest cs).flatMap spelledOut = cs := by
  -- the cases are those of the scan: it takes two characters where an underscore gives way
  fun_induction camelRest cs with
  | case1 => rfl
  | case2 next rest hfolds ih =>
      have hrest := ih fun c hc => h c (List.mem_cons_of_mem _ (List.mem_cons_of_mem _ hc))
      rw [List.flatMap_cons, spelledOut_toUpper (isLower_of_folds hfolds), hrest]
      rfl
  | case3 next rest _ ih =>
      have hrest := ih fun c hc => h c (List.mem_cons_of_mem _ hc)
      rw [List.flatMap_cons, spelledOut_of_not_isUpper rfl, hrest]
      rfl
  | case4 c rest _ ih =>
      have hrest := ih fun d hd => h d (List.mem_cons_of_mem _ hd)
      rw [List.flatMap_cons, spelledOut_of_not_isUpper (h c List.mem_cons_self), hrest]
      rfl

theorem flatMap_spelledOut_camelChars {cs : List Char} (h : ∀ c ∈ cs, c.isUpper = false) :
    (camelChars cs).flatMap spelledOut = cs := by
  cases cs with
  | nil => rfl
  | cons c cs =>
      have hrest := flatMap_spelledOut_camelRest fun d hd => h d (List.mem_cons_of_mem c hd)
      rw [camelChars, List.flatMap_cons, spelledOut_of_not_isUpper (h c List.mem_cons_self), hrest]
      rfl

/-- **Spelling out the capitals of a name in mixed case gives the name back.** -/
theorem spellOut_camelCase {name : String} (h : HasNoCapitals name) :
    spellOut (camelCase name) = name := by
  unfold spellOut camelCase
  rw [String.toList_ofList, flatMap_spelledOut_camelChars h, String.ofList_toList]

example : spellOut (camelCase "_build__id_x_1_") = "_build__id_x_1_" := by decide

/-! ### Names in mixed case -/

/-- Characters that make an underscore in front of them give way: a lowercase letter, which is the
last character or in front of another lowercase letter. -/
inductive GivesWay : List Char → Prop where
  | last {next : Char} (lower : next.isLower = true) : GivesWay [next]
  | inside {next after : Char} {rest : List Char} (lower : next.isLower = true)
      (followed : after.isLower = true) : GivesWay (next :: after :: rest)

/-- No underscore but the first character gives way. -/
def IsMixedCase (text : String) : Prop :=
  ∀ first before after, text.toList = first :: (before ++ '_' :: after) → ¬ GivesWay after

theorem folds_cons (next : Char) (rest : List Char) :
    folds (next :: rest) = (next.isLower && rest.head?.all Char.isLower) := by
  cases rest with
  | nil => exact (Bool.and_true next.isLower).symm
  | cons after rest => rfl

theorem folds_iff (cs : List Char) : folds cs = true ↔ GivesWay cs := by
  constructor
  · intro h
    match cs with
    | [] => cases h
    | [_] => exact .last h
    | _ :: _ :: _ => exact .inside (Bool.and_eq_true_iff.mp h).1 (Bool.and_eq_true_iff.mp h).2
  · rintro (lower | ⟨lower, followed⟩)
    · exact lower
    · exact Bool.and_eq_true_iff.mpr ⟨lower, followed⟩

/-- No underscore among the characters gives way. -/
def IsSettled (cs : List Char) : Prop :=
  ∀ before after, cs = before ++ '_' :: after → folds after = false

theorem isSettled_nil : IsSettled [] := by
  intro before after h
  cases before <;> cases h

theorem isSettled_cons_iff {c : Char} {cs : List Char} :
    IsSettled (c :: cs) ↔ (c = '_' → folds cs = false) ∧ IsSettled cs := by
  constructor
  · intro h
    refine ⟨?_, fun before after hcs => h (c :: before) after (congrArg (c :: ·) hcs)⟩
    rintro rfl
    exact h [] cs rfl
  · rintro ⟨hfirst, hrest⟩ before after h
    cases before with
    | nil =>
        cases h
        exact hfirst rfl
    | cons d before => exact hrest before after (List.cons.inj h).2

theorem isMixedCase_iff_of_toList {text : String} {first : Char} {rest : List Char}
    (h : text.toList = first :: rest) : IsMixedCase text ↔ IsSettled rest := by
  have hfolds (cs : List Char) : folds cs = false ↔ ¬ GivesWay cs := by
    rw [← folds_iff, Bool.not_eq_true]
  unfold IsMixedCase IsSettled
  rw [h]
  simp only [List.cons.injEq, hfolds]
  exact ⟨fun hmixed before after hrest => hmixed first before after ⟨rfl, hrest⟩,
    fun hsettled _ before after hcs => hsettled before after hcs.2⟩

/-- A capital is neither lowercase nor an underscore. -/
theorem toUpper_of_isLower {c : Char} (h : c.isLower = true) :
    c.toUpper.isLower = false ∧ c.toUpper ≠ '_' :=
  forall_isWordChar
    (P := fun c => c.isLower = true → c.toUpper.isLower = false ∧ c.toUpper ≠ '_')
    (by decide) (isWordChar_of_isLower h) h

/-- What comes first stays lowercase if it was, and nothing else becomes lowercase. -/
theorem all_head?_camelRest (cs : List Char) :
    (camelRest cs).head?.all Char.isLower = cs.head?.all Char.isLower := by
  fun_cases camelRest cs with
  | case1 => rfl
  | case2 next rest hfolds => exact (toUpper_of_isLower (isLower_of_folds hfolds)).1
  | case3 | case4 => rfl

/-- Whether an underscore gives way is the same in front of the result of the scan. -/
theorem folds_camelRest (cs : List Char) : folds (camelRest cs) = folds cs := by
  fun_cases camelRest cs with
  | case1 => rfl
  | case2 next rest hfolds =>
      have hcapital := (toUpper_of_isLower (isLower_of_folds hfolds)).1
      rw [folds_cons, folds_cons, hcapital]
      rfl
  | case3 next rest | case4 next rest => rw [folds_cons, folds_cons, all_head?_camelRest]

/-- **In the result of the scan no underscore gives way.** -/
theorem isSettled_camelRest (cs : List Char) : IsSettled (camelRest cs) := by
  fun_induction camelRest cs with
  | case1 => exact isSettled_nil
  | case2 next rest hfolds ih =>
      have hcapital := (toUpper_of_isLower (isLower_of_folds hfolds)).2
      exact isSettled_cons_iff.mpr ⟨fun h => absurd h hcapital, ih⟩
  | case3 next rest hfolds ih =>
      refine isSettled_cons_iff.mpr ⟨fun _ => ?_, ih⟩
      rw [folds_camelRest]
      exact Bool.not_eq_true _ ▸ hfolds
  | case4 c rest hother ih =>
      refine isSettled_cons_iff.mpr ⟨fun hc => ?_, ih⟩
      -- an underscore gets here as the last character only
      cases rest with
      | nil => rfl
      | cons next rest => exact (hother next rest hc rfl).elim

theorem camelRest_eq_self {cs : List Char} (h : IsSettled cs) : camelRest cs = cs := by
  fun_induction camelRest cs with
  | case1 => rfl
  | case2 next rest hfolds =>
      have hkept := (isSettled_cons_iff.mp h).1 rfl
      rw [hfolds] at hkept
      cases hkept
  | case3 next rest _ ih | case4 next rest _ ih => rw [ih (isSettled_cons_iff.mp h).2]

theorem isMixedCase_camelCase (name : String) : IsMixedCase (camelCase name) := by
  cases hname : name.toList with
  | nil =>
      intro first before after h
      rw [camelCase, hname, String.toList_ofList] at h
      cases h
  | cons c cs =>
      have hresult : (camelCase name).toList = c :: camelRest cs := by
        rw [camelCase, hname, String.toList_ofList, camelChars]
      exact (isMixedCase_iff_of_toList hresult).mpr (isSettled_camelRest cs)

theorem camelCase_eq_self {name : String} (h : IsMixedCase name) : camelCase name = name := by
  rw [← String.toList_inj, camelCase, String.toList_ofList]
  cases hname : name.toList with
  | nil => rfl
  | cons c cs =>
      rw [camelChars, camelRest_eq_self ((isMixedCase_iff_of_toList hname).mp h)]

/-- **Mixed case is stable.**  In the mixed case of a name no underscore behind the first character
gives way again, so a second time nothing changes; and exactly such names are left as they are. -/
theorem camelCase_camelCase (name : String) :
    camelCase (camelCase name) = camelCase name
      ∧ IsMixedCase (camelCase name)
      ∧ (camelCase name = name ↔ IsMixedCase name) :=
  ⟨camelCase_eq_self (isMixedCase_camelCase name), isMixedCase_camelCase name,
    fun h => h ▸ isMixedCase_camelCase name, camelCase_eq_self⟩

-- the second underscore of `_b_c` gives way; then the first one stands in front of a capital
example : camelCase "a_b_c" = "a_bC" ∧ camelCase "a_bC" = "a_bC" ∧ camelCase "_a" = "_a" := by
  decide

end DeviceGen.Text
