/-
The patterns of entries and of module paths.

An entry is matched by one pattern, whose parts leave a choice: blanks behind an equals sign may be
passed over or belong to the value, and the value may go on into the blanks at the end.  Blanks are
passed over first and values are as short as can be, so what is found is the value without the
blanks around it (`captures?_eq_some_iff`).  A line break in a value cannot be matched, however the
blanks are distributed.
-/
import DeviceGen.Proofs.Options.Entries
import DeviceGen.Proofs.Text.Lines
import DeviceGen.Proofs.Text.Pattern

namespace DeviceGen.Options

open DeviceGen.Text (isBlank pieces_eq_splitOn trim trim_append exists_trim trim_subset_rdropWhile
  take_length_rdropWhile drop_length_rdropWhile dropWhile_append_of_boundary
  takeWhile_append_of_boundary Cursor Groups Pattern)
open DeviceGen.Text.Pattern

/-! ### The patterns -/

/-- The characters from one to another. -/
def between (first last c : Char) : Bool := first ≤ c && c ≤ last

/-- The class `[A-Za-z_]`. -/
def keyStartClass (c : Char) : Bool := between 'A' 'Z' c || between 'a' 'z' c || c == '_'

/-- The class `[A-Za-z0-9_]`. -/
def keyClass (c : Char) : Bool :=
  between 'A' 'Z' c || between 'a' 'z' c || between '0' '9' c || c == '_'

/-- The characters of `keyClass`, and the at sign, the dot, the slash and the minus. -/
def pathClass (c : Char) : Bool := keyClass c || c == '@' || c == '.' || c == '/' || c == '-'

/-- The pattern `[A-Za-z_][A-Za-z0-9_]*`. -/
def keyPattern : Pattern := one keyStartClass ++ most keyClass

/-- The pattern `=\s*(.*?)`, in which `.` is no line break. -/
def valuePattern : Pattern := one (· == '=') ++ most isBlank ++ group 2 (fewest (· != '\n'))

/-- The pattern `^\s*([A-Za-z_][A-Za-z0-9_]*)\s*(?:=\s*(.*?))?\s*$`. -/
def optionPattern : Pattern :=
  start ++ most isBlank ++ group 1 keyPattern ++ most isBlank ++ maybe valuePattern
    ++ most isBlank ++ finish

/-- One or more characters of paths between `^` and `$`. -/
def modulePathPattern : Pattern := start ++ one pathClass ++ most pathClass ++ finish

/-- The key and the value that are found in an entry. -/
def captures? (entry : List Char) : Option (String × Option String) :=
  (optionPattern.find? entry).map fun found =>
    (String.ofList ((found.lookup 1).getD []), (found.lookup 2).map String.ofList)

/-! ### Classes of characters -/

theorem between_upper (c : Char) : between 'A' 'Z' c = c.isUpper := (Bool.decide_and _ _).symm

theorem keyStartClass_eq : keyStartClass = isKeyStart := by
  funext c
  rw [keyStartClass, between_upper]
  rfl

theorem keyClass_eq : keyClass = isKeyChar := by
  funext c
  rw [keyClass, between_upper]
  rfl

theorem pathClass_eq : pathClass = isPathChar := by
  funext c
  rw [pathClass, keyClass_eq, isKeyChar, isPathChar, Bool.eq_iff_iff]
  simp [or_assoc]

theorem isKeyChar_of_isKeyStart {c : Char} (h : isKeyStart c = true) : isKeyChar c = true := by
  rw [isKeyStart, Bool.or_eq_true] at h
  rw [isKeyChar, Char.isAlphanum, Bool.or_eq_true, Bool.or_eq_true]
  exact h.imp_left Or.inl

theorem isKeyChar_of_mem {key : List Char} (h : isKey key = true) :
    ∀ c ∈ key, isKeyChar c = true := by
  cases key with
  | nil => cases h
  | cons c cs =>
      rw [isKey, Bool.and_eq_true, List.all_eq_true] at h
      rw [List.forall_mem_cons]
      exact ⟨isKeyChar_of_isKeyStart h.1, h.2⟩

theorem isBlank_of_isKeyChar {c : Char} (h : isKeyChar c = true) : isBlank c = false :=
  Text.forall_isWordChar (P := fun c => isKeyChar c = true → isBlank c = false) (by decide) h h

theorem ne_equals_of_isKeyChar {c : Char} (h : isKeyChar c = true) : c ≠ '=' := by
  intro heq
  rw [heq] at h
  cases h

theorem ne_equals_of_isBlank {c : Char} (h : isBlank c = true) : c ≠ '=' := by
  intro heq
  rw [heq] at h
  cases h

/-! ### Module paths -/

/-- Nothing is found in the middle of a text if the end has to follow. -/
theorem run_finish_skip (p : Char → Bool) (there : Cursor)
    (h : finish.run (some ·.found) (there.skip p) = none) :
    finish.run (some ·.found) there = none := by
  by_cases hrest : there.rest = []
  · simp [run, hrest] at h
  · rw [run, if_neg hrest]

theorem run_most_finish (p : Char → Bool) (here : Cursor) :
    (most p).run (finish.run (some ·.found)) here
      = if here.rest.all p then some here.found else none := by
  rw [run_most (run_finish_skip p), run]
  simp [List.dropWhile_eq_nil_iff]

/-- What the second pattern matches is a module path. -/
theorem isSome_find?_modulePathPattern (cs : List Char) :
    (modulePathPattern.find? cs).isSome = isModulePath cs := by
  have hanchored : ∀ next (here : Cursor), here.position ≠ 0 →
      modulePathPattern.run (α := Groups) next here = none := fun next here h => if_neg h
  have hrun : modulePathPattern.run (some ·.found) ⟨0, cs, []⟩
      = (one pathClass).run ((most pathClass).run (finish.run (some ·.found))) ⟨0, cs, []⟩ := rfl
  rw [find?_of_anchored hanchored, hrun, run, run_most_finish, pathClass_eq]
  cases cs with
  | nil => rfl
  | cons c cs =>
      by_cases hc : isPathChar c = true
      · by_cases hcs : cs.all isPathChar = true <;>
          simp [isModulePath, Cursor.sees, hc, hcs]
      · simp [isModulePath, Cursor.sees, hc]

/-! ### Behind the key -/

/-- What is found behind the value. -/
def behindValue : Cursor → Option Groups := (most isBlank).run (finish.run (some ·.found))

/-- What is found behind the key and the blanks that follow it. -/
def behindKey : Cursor → Option Groups := (maybe valuePattern).run behindValue

theorem behindValue_eq (here : Cursor) :
    behindValue here = if here.rest.all isBlank then some here.found else none :=
  run_most_finish isBlank here

/-- The value is found as it stands but for the blanks at its end. -/
theorem run_group_fewest (here : Cursor) :
    (group 2 (fewest (· != '\n'))).run behindValue here
      = if '\n' ∈ here.rest.rdropWhile isBlank then none
        else some ((2, here.rest.rdropWhile isBlank) :: here.found) := by
  have hnext : ∀ there : Cursor,
      (behindValue (there.withGroup 2 here)).isSome = there.rest.all isBlank := by
    intro there
    rw [behindValue_eq]
    by_cases hall : there.rest.all isBlank = true <;> simp [Cursor.withGroup, hall]
  have hblanks : (here.rest.drop (here.rest.rdropWhile isBlank).length).all isBlank = true := by
    rw [drop_length_rdropWhile, List.all_eq_true]
    exact fun c => List.mem_rtakeWhile_imp
  rw [run, run_fewest hnext]
  by_cases hline : '\n' ∈ here.rest.rdropWhile isBlank
  · rw [if_pos hline, if_neg]
    simpa using hline
  · have hall : (here.rest.rdropWhile isBlank).all (· != '\n') = true := by
      rw [List.all_eq_true]
      intro c hc
      rw [bne_iff_ne]
      intro heq
      exact hline (heq ▸ hc)
    rw [if_neg hline, if_pos hall, behindValue_eq, if_pos]
    · simp [Cursor.withGroup, Cursor.forth, take_length_rdropWhile]
    · exact hblanks

/-- Behind an equals sign the value is found without the blanks around it. -/
theorem behindKey_of_equals {here : Cursor} {after : List Char} (h : here.rest = '=' :: after) :
    behindKey here
      = if '\n' ∈ trim after then none else some ((2, trim after) :: here.found) := by
  have htrim (cs : List Char) : (cs.dropWhile isBlank).rdropWhile isBlank = trim cs := rfl
  -- A line break in the value without the blanks before it is also in the value with them.
  have hblanks : ∀ there : Cursor,
      (group 2 (fewest (· != '\n'))).run behindValue (there.skip isBlank) = none →
      (group 2 (fewest (· != '\n'))).run behindValue there = none := by
    intro there hskip
    rw [run_group_fewest, Cursor.skip_rest, htrim] at hskip
    rw [run_group_fewest]
    by_cases hline : '\n' ∈ trim there.rest
    · rw [if_pos (trim_subset_rdropWhile there.rest hline)]
    · simp [hline] at hskip
  have hend : behindValue here = none := by
    rw [behindValue_eq, h]
    rfl
  have hequals : here.sees (· == '=') = true := by
    rw [Cursor.sees, h]
    rfl
  rw [behindKey, run, hend, Option.or_none, valuePattern, run_append, run_append, run,
    if_pos hequals, run_most hblanks, run_group_fewest, Cursor.skip_rest, htrim]
  simp [Cursor.forth, h]

theorem behindKey_of_ne {here : Cursor} (h : here.rest.head? ≠ some '=') :
    behindKey here = behindValue here := by
  have hequals : ¬ here.sees (· == '=') = true := by
    rw [Cursor.sees_iff]
    rintro ⟨c, cs, hrest, hc⟩
    rw [beq_iff_eq] at hc
    exact h (by rw [hrest, hc, List.head?_cons])
  rw [behindKey, run, valuePattern, run_append, run_append, run, if_neg hequals, Option.none_or]

/-- All blanks behind the key are passed over. -/
theorem run_most_behindKey (here : Cursor) :
    (most isBlank).run behindKey here = behindKey (here.skip isBlank) := by
  refine run_most (fun there hskip => ?_) here
  by_cases hsees : there.sees isBlank = true
  · obtain ⟨c, cs, hrest, hblank⟩ := Cursor.sees_iff.mp hsees
    rw [behindKey_of_ne (by simpa [hrest] using ne_equals_of_isBlank hblank), behindValue_eq]
    by_cases hall : there.rest.all isBlank = true
    · have hend : (there.skip isBlank).rest = [] := by
        rw [Cursor.skip_rest, List.dropWhile_eq_nil_iff]
        simpa using hall
      rw [behindKey_of_ne (by rw [hend]; simp), behindValue_eq, hend] at hskip
      cases hskip
    · rw [if_neg hall]
  · rwa [Cursor.skip_eq_self hsees] at hskip

/-! ### Entries in parts -/

/-- The whole key is taken. -/
theorem run_group_key (here : Cursor) :
    (group 1 keyPattern).run ((most isBlank).run behindKey) here
      = if here.sees isKeyStart then
          behindKey ((((here.forth 1).skip isKeyChar).withGroup 1 here).skip isBlank)
        else none := by
  have hkey : ∀ there : Cursor, there.sees isKeyChar = true →
      (most isBlank).run behindKey (there.withGroup 1 here) = none := by
    intro there hsees
    obtain ⟨c, cs, hrest, hchar⟩ := Cursor.sees_iff.mp hsees
    have hblank : ¬ (there.withGroup 1 here).sees isBlank = true := by
      simp [Cursor.sees, hrest, isBlank_of_isKeyChar hchar]
    rw [run_most_behindKey, Cursor.skip_eq_self hblank, behindKey_of_ne, behindValue_eq]
    · simp [hrest, isBlank_of_isKeyChar hchar]
    · simpa [hrest] using ne_equals_of_isKeyChar hchar
  rw [run, keyPattern, run_append, run, keyStartClass_eq, keyClass_eq]
  by_cases hsees : here.sees isKeyStart = true
  · rw [if_pos hsees, if_pos hsees, run_most_of_head hkey, run_most_behindKey]
  · rw [if_neg hsees, if_neg hsees]

/-- All blanks before the key are passed over. -/
theorem find?_optionPattern (entry : List Char) :
    optionPattern.find? entry
      = (group 1 keyPattern).run ((most isBlank).run behindKey)
          (Cursor.skip ⟨0, entry, []⟩ isBlank) := by
  have hanchored : ∀ next (here : Cursor), here.position ≠ 0 →
      optionPattern.run (α := Groups) next here = none := fun next here h => if_neg h
  have hrun : optionPattern.run (some ·.found) ⟨0, entry, []⟩
      = (most isBlank).run ((group 1 keyPattern).run ((most isBlank).run behindKey))
        ⟨0, entry, []⟩ := rfl
  rw [find?_of_anchored hanchored, hrun]
  refine run_most_of_head (fun there hsees => ?_) _
  obtain ⟨c, cs, hrest, hblank⟩ := Cursor.sees_iff.mp hsees
  have hstart : ¬ there.sees isKeyStart = true := by
    rw [Cursor.sees, hrest]
    intro hstart
    rw [isBlank_of_isKeyChar (isKeyChar_of_isKeyStart hstart)] at hblank
    cases hblank
  rw [run_group_key, if_neg hstart]

/-- What is found in an entry that starts as a key does. -/
theorem find?_of_start {entry : List Char} {c : Char} {cs : List Char}
    (h : entry.dropWhile isBlank = c :: cs) (hc : isKeyStart c = true) :
    ∃ here : Cursor, optionPattern.find? entry = behindKey here
      ∧ here.rest = (cs.dropWhile isKeyChar).dropWhile isBlank
      ∧ here.found = [(1, c :: cs.takeWhile isKeyChar)] := by
  have hrest : (Cursor.skip ⟨0, entry, []⟩ isBlank).rest = c :: cs := by
    rw [Cursor.skip_rest]
    exact h
  have hfound : (Cursor.skip ⟨0, entry, []⟩ isBlank).found = [] := rfl
  rw [find?_optionPattern]
  generalize Cursor.skip ⟨0, entry, []⟩ isBlank = first at hrest hfound ⊢
  have hsees : first.sees isKeyStart = true := Cursor.sees_iff.mpr ⟨c, cs, hrest, hc⟩
  have hposition : ((first.forth 1).skip isKeyChar).position
      = first.position + (1 + (cs.takeWhile isKeyChar).length) := by
    simp [Cursor.skip, Cursor.forth, hrest, Nat.add_assoc]
  have htake : (c :: cs).take (1 + (cs.takeWhile isKeyChar).length)
      = c :: cs.takeWhile isKeyChar := by
    rw [Nat.add_comm, List.take_succ_cons,
      ← List.prefix_iff_eq_take.mp (List.takeWhile_prefix isKeyChar)]
  rw [run_group_key, if_pos hsees]
  refine ⟨_, rfl, ?_, ?_⟩
  · simp [hrest]
  · rw [Cursor.skip_found, Cursor.withGroup_found hposition, hrest, htake]
    simp [hfound]

/-- Nothing is found in an entry that does not start as a key does. -/
theorem exists_start {entry : List Char} (h : optionPattern.find? entry ≠ none) :
    ∃ c cs, entry.dropWhile isBlank = c :: cs ∧ isKeyStart c = true := by
  rw [find?_optionPattern, run_group_key] at h
  by_cases hsees : (Cursor.skip ⟨0, entry, []⟩ isBlank).sees isKeyStart = true
  · obtain ⟨c, cs, hrest, hc⟩ := Cursor.sees_iff.mp hsees
    rw [Cursor.skip_rest] at hrest
    exact ⟨c, cs, hrest, hc⟩
  · rw [if_neg hsees] at h
    exact absurd rfl h

/-- A key between blanks. -/
structure IsKeyBetween (before key gap : List Char) : Prop where
  before : ∀ c ∈ before, isBlank c = true
  key : isKey key = true
  gap : ∀ c ∈ gap, isBlank c = true

/-- What is found in an entry that is put together from a key between blanks and a value. -/
theorem find?_of_parts {before key gap tail : List Char} (h : IsKeyBetween before key gap)
    (htail : ∀ c ∈ tail.head?, c = '=') :
    ∃ here : Cursor, optionPattern.find? (before ++ key ++ gap ++ tail) = behindKey here
      ∧ here.rest = tail ∧ here.found = [(1, key)] := by
  obtain ⟨hbefore, hkey, hgap⟩ := h
  cases key with
  | nil => cases hkey
  | cons c cs =>
      rw [isKey, Bool.and_eq_true, List.all_eq_true] at hkey
      obtain ⟨hc, hcs⟩ := hkey
      have hstart : (before ++ (c :: cs) ++ gap ++ tail).dropWhile isBlank
          = c :: (cs ++ (gap ++ tail)) := by
        rw [List.append_assoc, List.append_assoc]
        refine dropWhile_append_of_boundary hbefore fun d hd => ?_
        obtain rfl : c = d := Option.some_inj.mp hd
        exact isBlank_of_isKeyChar (isKeyChar_of_isKeyStart hc)
      have hgapEnds : ∀ d ∈ tail.head?, isBlank d = false := by
        intro d hd
        rw [htail d hd]
        rfl
      have hkeyEnds : ∀ d ∈ (gap ++ tail).head?, isKeyChar d = false := by
        intro d hd
        cases gap with
        | nil =>
            rw [htail d hd]
            rfl
        | cons b bs =>
            obtain rfl : b = d := Option.some_inj.mp hd
            rw [← Bool.not_eq_true]
            intro hchar
            simpa [isBlank_of_isKeyChar hchar] using hgap b List.mem_cons_self
      obtain ⟨here, hfind, hrest, hfound⟩ := find?_of_start hstart hc
      refine ⟨here, hfind, ?_, ?_⟩
      · rw [hrest, dropWhile_append_of_boundary hcs hkeyEnds,
          dropWhile_append_of_boundary hgap hgapEnds]
      · rw [hfound, takeWhile_append_of_boundary hcs hkeyEnds]

/-- An entry in which something is found is put together that way. -/
theorem exists_parts {entry : List Char} {found : Groups}
    (h : optionPattern.find? entry = some found) :
    ∃ before key gap tail, entry = before ++ key ++ gap ++ tail
      ∧ IsKeyBetween before key gap ∧ ∀ c ∈ tail.head?, c = '=' := by
  obtain ⟨c, cs, hstart, hc⟩ := exists_start (by rw [h]; exact Option.some_ne_none found)
  obtain ⟨here, hfind, hrest, -⟩ := find?_of_start hstart hc
  refine ⟨entry.takeWhile isBlank, c :: cs.takeWhile isKeyChar,
    (cs.dropWhile isKeyChar).takeWhile isBlank, here.rest, ?_, ⟨?_, ?_, ?_⟩, ?_⟩
  · rw [hrest, List.append_assoc, List.takeWhile_append_dropWhile, List.append_assoc,
      List.cons_append, List.takeWhile_append_dropWhile, ← hstart,
      List.takeWhile_append_dropWhile]
  · exact fun d => List.mem_takeWhile_imp
  · rw [isKey, hc, Bool.true_and, List.all_eq_true]
    exact fun d => List.mem_takeWhile_imp
  · exact fun d => List.mem_takeWhile_imp
  · intro d hd
    by_contra hne
    have hblank : isBlank d = false := by
      have := List.head?_dropWhile_not isBlank (cs.dropWhile isKeyChar)
      rwa [← hrest, hd] at this
    have hequals : here.rest.head? ≠ some '=' := by
      intro heq
      rw [heq] at hd
      exact hne (Option.some_inj.mp hd).symm
    have hall : ¬ here.rest.all isBlank = true := by
      rw [List.all_eq_true]
      intro hall
      rw [hall d (List.mem_of_mem_head? hd)] at hblank
      cases hblank
    rw [hfind, behindKey_of_ne hequals, behindValue_eq, if_neg hall] at h
    cases h

namespace IsKeyBetween

variable {before key gap : List Char}

theorem notMem (h : IsKeyBetween before key gap) : '=' ∉ before ++ key ++ gap := by
  intro hmem
  rw [List.mem_append, List.mem_append] at hmem
  rcases hmem with (hmem | hmem) | hmem
  · exact ne_equals_of_isBlank (h.before _ hmem) rfl
  · exact ne_equals_of_isKeyChar (isKeyChar_of_mem h.key _ hmem) rfl
  · exact ne_equals_of_isBlank (h.gap _ hmem) rfl

theorem trim_eq (h : IsKeyBetween before key gap) : trim (before ++ key ++ gap) = key :=
  trim_append h.before (fun c hc => isBlank_of_isKeyChar (isKeyChar_of_mem h.key c hc)) h.gap

theorem captures?_eq (h : IsKeyBetween before key gap) :
    captures? (before ++ key ++ gap) = some (String.ofList key, none) := by
  have htail : ∀ c ∈ ([] : List Char).head?, c = '=' := by simp
  obtain ⟨here, hfind, hrest, hfound⟩ := find?_of_parts h htail
  rw [List.append_nil] at hfind
  rw [captures?, hfind, behindKey_of_ne (by simp [hrest]), behindValue_eq, hrest, hfound]
  rfl

theorem captures?_append (h : IsKeyBetween before key gap) (after : List Char) :
    captures? (before ++ key ++ gap ++ '=' :: after)
      = if '\n' ∈ trim after then none
        else some (String.ofList key, some (String.ofList (trim after))) := by
  have htail : ∀ c ∈ ('=' :: after).head?, c = '=' := by simp
  obtain ⟨here, hfind, hrest, hfound⟩ := find?_of_parts h htail
  rw [captures?, hfind, behindKey_of_equals hrest, hfound]
  by_cases hline : '\n' ∈ trim after
  · rw [if_pos hline, if_pos hline]
    rfl
  · rw [if_neg hline, if_neg hline]
    rfl

end IsKeyBetween

/-- **What the first pattern finds in an entry is what the entry reads as.** -/
theorem captures?_eq_some_iff {entry : List Char} {key : String} {value : Option String} :
    captures? entry = some (key, value) ↔ Reads entry key value := by
  constructor
  · intro h
    obtain ⟨found, hfound, -⟩ := Option.map_eq_some_iff.mp h
    obtain ⟨before, name, gap, tail, rfl, hparts, htail⟩ := exists_parts hfound
    have hname : isKey (trim (before ++ name ++ gap)) = true := by
      rw [hparts.trim_eq]
      exact hparts.key
    cases tail with
    | nil =>
        rw [List.append_nil, hparts.captures?_eq] at h
        cases h
        rw [List.append_nil]
        have hreads := Reads.flag hparts.notMem hname
        rwa [hparts.trim_eq] at hreads
    | cons c after =>
        obtain rfl : c = '=' := htail c rfl
        rw [hparts.captures?_append] at h
        by_cases hline : '\n' ∈ trim after
        · rw [if_pos hline] at h
          cases h
        · rw [if_neg hline] at h
          cases h
          have hreads := Reads.assignment hparts.notMem hname hline
          rwa [hparts.trim_eq] at hreads
  · intro h
    cases h with
    | flag hequals hkey =>
        obtain ⟨before, gap, hentry, hbefore, hgap⟩ := exists_trim entry
        have hfound := IsKeyBetween.captures?_eq ⟨hbefore, hkey, hgap⟩
        rwa [← hentry] at hfound
    | @assignment text after hequals hkey hline =>
        obtain ⟨before, gap, htext, hbefore, hgap⟩ := exists_trim text
        have hfound := IsKeyBetween.captures?_append ⟨hbefore, hkey, hgap⟩ after
        rwa [← htext, if_neg hline] at hfound

theorem captures?_eq (entry : List Char) : captures? entry = assignment? entry := by
  ext ⟨key, value⟩
  exact captures?_eq_some_iff.trans assignment?_eq_some_iff.symm

/-! ### Parameters -/

/-- What is chosen and what is complained about after one more entry. -/
def step (before : Options × List Complaint) (entry : List Char) : Options × List Complaint :=
  let (options, complaints) := before
  let shown := String.ofList entry
  match captures? entry with
  | none => (options, complaints ++ [.malformed shown])
  | some (key, value) =>
    if key = "client_module" then
      match value with
      | some path =>
        if (modulePathPattern.find? path.toList).isSome then
          ({ options with clientModule := path }, complaints)
        else (options, complaints ++ [.noModulePath shown])
      | none => (options, complaints ++ [.noModulePath shown])
    else if key = "keep_case" then
      match value with
      | none | some "true" => ({ options with keepCase := true }, complaints)
      | some "false" => ({ options with keepCase := false }, complaints)
      | some _ => (options, complaints ++ [.noTruthValue shown])
    else (options, complaints ++ [.unknownKey key])

/-- The entries of a parameter: what stands between its commas, unless it is blank. -/
def parts (parameter : String) : List (List Char) :=
  (parameter.toList.splitOn ',').filter fun entry => trim entry ≠ []

/-- What is chosen and what is complained about when the entries of a parameter are matched one
after another. -/
def matchAll (parameter : String) : Options × List Complaint :=
  (parts parameter).foldl step (default, [])

/-- What an entry does when it is matched is what its verdict says. -/
theorem step_eq (options : Options) (complaints : List Complaint) (entry : List Char) :
    step (options, complaints) entry
      = match verdict entry with
        | .ok setting => (choose options setting, complaints)
        | .error complaint => (options, complaints ++ [complaint]) := by
  unfold step verdict
  rw [captures?_eq]
  cases assignment? entry with
  | none => rfl
  | some pair =>
      obtain ⟨key, value⟩ := pair
      by_cases hmodule : key = "client_module"
      · subst hmodule
        cases value with
        | none => rfl
        | some path =>
            by_cases hpath : isModulePath path.toList = true <;>
              simp [setting, isSome_find?_modulePathPattern, hpath, choose]
      · by_cases hkeep : key = "keep_case"
        · subst hkeep
          cases value with
          | none => rfl
          | some text =>
              by_cases htrue : text = "true"
              · subst htrue
                rfl
              · by_cases hfalse : text = "false"
                · subst hfalse
                  rfl
                · simp [setting]
        · simp [setting, hmodule, hkeep]

theorem foldl_step (before : Options × List Complaint) (entries : List (List Char)) :
    entries.foldl step before
      = ((entries.filterMap fun entry => (verdict entry).toOption).foldl choose before.1,
        before.2 ++ entries.filterMap fun entry =>
          match verdict entry with
          | .error complaint => some complaint
          | .ok _ => none) := by
  induction entries generalizing before with
  | nil => simp
  | cons entry entries ih =>
      obtain ⟨options, complaints⟩ := before
      rw [List.foldl_cons, ih, step_eq]
      cases hverdict : verdict entry with
      | ok setting => simp [hverdict, Except.toOption]
      | error complaint => simp [hverdict, Except.toOption]

theorem entries_eq (parameter : String) : entries (some parameter) = parts parameter := by
  rw [entries, parts, pieces_eq_splitOn]
  congr 1
  funext entry
  cases trim entry <;> rfl

/-- **Entries that are matched do what the parameter chooses and complains about.** -/
theorem matchAll_eq (parameter : String) :
    matchAll parameter = (ofParameter (some parameter), complaints (some parameter)) := by
  rw [matchAll, ← entries_eq, foldl_step]
  rfl

end DeviceGen.Options
