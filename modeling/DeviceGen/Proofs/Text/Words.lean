/-
The words of a name.

A name is cut at its underscores and in front of each letter that begins a new word.  Upper
case puts the words together again, in capitals and with an underscore between any two.  So it
tells two names apart unless they consist of the same words but for the case of letters:
`AdcTlm` and `ADCTlm` are one name in upper case, and so are `PumpCtl` and `Pump_Ctl`.
-/
import DeviceGen.Proofs.Text.Lines

namespace DeviceGen.Text

/-- Characters with an underscore in front of each word that begins, given the character
before them. -/
def spaced (previous : Char) : List Char → List Char
  | [] => []
  | c :: cs => (if beginsWord previous c cs then ['_'] else []) ++ c :: spaced c cs

/-- The words of a name.  No word begins right after an underscore, so the name is cut as if it
followed one. -/
def words (name : String) : List (List Char) := (spaced '_' name.toList).splitOn '_'

/-- The same words, but for the case of their letters. -/
def SameWords (name other : String) : Prop :=
  (words name).map (·.map Char.toUpper) = (words other).map (·.map Char.toUpper)

instance (name other : String) : Decidable (SameWords name other) :=
  inferInstanceAs (Decidable (_ = _))

theorem SameWords.symm {name other : String} (h : SameWords name other) : SameWords other name :=
  Eq.symm h

/-! ### Upper case of words -/

theorem upperSnakeAfter_eq {cs : List Char} (h : ∀ c ∈ cs, isWordChar c = true) (previous : Char) :
    upperSnakeAfter previous cs = (spaced previous cs).map Char.toUpper := by
  induction cs generalizing previous with
  | nil => rfl
  | cons c cs ih =>
      have hcapital : Letter.capital c = [c.toUpper] := by
        rw [Letter.capital, if_pos (lt_of_isWordChar (h c List.mem_cons_self))]
      have hbreak : (if beginsWord previous c cs then ['_'] else []).map Char.toUpper
          = if beginsWord previous c cs then ['_'] else [] := by
        split <;> rfl
      rw [upperSnakeAfter, spaced, hcapital, ih fun d hd => h d (List.mem_cons_of_mem c hd),
        List.map_append, List.map_cons, hbreak, List.append_assoc]
      rfl

/-- The first character begins no word that has to be set apart. -/
theorem upperSnakeChars_eq (cs : List Char) : upperSnakeChars cs = upperSnakeAfter '_' cs := by
  cases cs with
  | nil => rfl
  | cons c cs =>
      have hfirst : beginsWord '_' c cs = false := by
        unfold beginsWord
        rw [if_neg (by decide)]
        simp
      rw [upperSnakeChars, upperSnakeAfter, hfirst]
      rfl

theorem toList_upperSnake {name : String} (h : IsWord name) :
    (upperSnake name).toList = (spaced '_' name.toList).map Char.toUpper := by
  rw [upperSnake, String.toList_ofList, upperSnakeChars_eq, upperSnakeAfter_eq h]

theorem isWordChar_of_mem_spaced {cs : List Char} (h : ∀ c ∈ cs, isWordChar c = true)
    (previous : Char) : ∀ d ∈ spaced previous cs, isWordChar d = true := by
  induction cs generalizing previous with
  | nil => simp [spaced]
  | cons c cs ih =>
      intro d hd
      rw [spaced, List.mem_append, List.mem_cons] at hd
      rcases hd with hd | rfl | hd
      · split at hd
        · rw [List.mem_singleton.mp hd]
          decide
        · cases hd
      · exact h d List.mem_cons_self
      · exact ih (fun e he => h e (List.mem_cons_of_mem c he)) c d hd

/-! ### Cutting capitals -/

theorem toUpper_eq_underscore_iff {c : Char} (h : isWordChar c = true) :
    c.toUpper = '_' ↔ c = '_' :=
  forall_isWordChar (P := fun c => c.toUpper = '_' ↔ c = '_') (by decide) h

/-- Capitals are cut where their letters are. -/
theorem splitOn_map_toUpper {cs : List Char} (h : ∀ c ∈ cs, isWordChar c = true) :
    (cs.map Char.toUpper).splitOn '_' = (cs.splitOn '_').map (·.map Char.toUpper) := by
  simp only [List.splitOn_eq_splitOnP]
  induction cs with
  | nil => rfl
  | cons c cs ih =>
      have hc := toUpper_eq_underscore_iff (h c List.mem_cons_self)
      have hcs := ih fun d hd => h d (List.mem_cons_of_mem c hd)
      rw [List.map_cons, List.splitOnP_cons_eq_if_modifyHead, List.splitOnP_cons_eq_if_modifyHead,
        hcs]
      by_cases hunderscore : c = '_'
      · subst hunderscore
        rfl
      · have hupper : c.toUpper ≠ '_' := mt hc.mp hunderscore
        obtain ⟨w, ws, hsplit⟩ := List.exists_cons_of_ne_nil (List.splitOnP_ne_nil (· == '_') cs)
        simp [hunderscore, hupper, hsplit]

/-- **Upper case tells names apart iff they are not of the same words.** -/
theorem upperSnake_eq_iff {name other : String} (hname : IsWord name) (hother : IsWord other) :
    upperSnake name = upperSnake other ↔ SameWords name other := by
  have hcut {name : String} (h : IsWord name) :
      (upperSnake name).toList.splitOn '_' = (words name).map (·.map Char.toUpper) := by
    rw [toList_upperSnake h, splitOn_map_toUpper (isWordChar_of_mem_spaced h '_'), words]
  unfold SameWords
  rw [← hcut hname, ← hcut hother]
  constructor
  · intro h
    rw [h]
  · intro h
    have hjoined := congrArg (List.intercalate ['_']) h
    rw [List.intercalate_splitOn, List.intercalate_splitOn] at hjoined
    exact String.toList_inj.mp hjoined

example : SameWords "AdcTlm" "ADCTlm" ∧ SameWords "PumpCtl" "Pump_Ctl"
    ∧ ¬ SameWords "PumpCtl" "PumPCtl" := by decide +kernel

end DeviceGen.Text
