/-
Texts cut into lines, and lines made of words.

Generated texts are printed line by line, and what is said about them is said about their
lines.  Cutting a printed text gives the lines back if none of them contains an end of line,
and texts one after the other have the lines of the one and then those of the other.

Names in a schema consist of letters, digits and underscores alone.  This is what keeps the
lines apart in which they are printed, so it is named here: such a text is a word.
-/
import DeviceGen.Text.Case
import DeviceGen.Text.Lines

namespace DeviceGen.Text

/-! ### Lines -/

/-- Characters cut at each end of line; what follows the last one is a line of its own. -/
def lineChars : List Char → List (List Char)
  | [] => []
  | c :: cs =>
    if c = '\n' then [] :: lineChars cs
    else
      match lineChars cs with
      | [] => [[c]]
      | line :: lines => (c :: line) :: lines

/-- The lines of a text, without their ends. -/
def lines (text : String) : List String := (lineChars text.toList).map String.ofList

theorem lineChars_line {line : List Char} (h : '\n' ∉ line) (rest : List Char) :
    lineChars (line ++ '\n' :: rest) = line :: lineChars rest := by
  induction line with
  | nil => simp [lineChars]
  | cons c line ih =>
      have hc : c ≠ '\n' := fun heq => h (heq ▸ List.mem_cons_self)
      have hline : '\n' ∉ line := fun hmem => h (List.mem_cons_of_mem c hmem)
      rw [List.cons_append, lineChars, if_neg hc, ih hline]

theorem unlines_cons (line : String) (ls : List String) :
    unlines (line :: ls) = line ++ "\n" ++ unlines ls := by
  unfold unlines
  rw [List.map_cons, String.join_cons]

theorem unlines_append (ls others : List String) :
    unlines (ls ++ others) = unlines ls ++ unlines others := by
  induction ls with
  | nil => simp [unlines]
  | cons line ls ih =>
      rw [List.cons_append, unlines_cons, unlines_cons, ih]
      simp only [String.append_assoc]

/-- Printed lines are found again in front of whatever follows them. -/
theorem lines_unlines_append {ls : List String} (h : ∀ line ∈ ls, '\n' ∉ line.toList)
    (rest : String) : lines (unlines ls ++ rest) = ls ++ lines rest := by
  induction ls with
  | nil => simp [unlines]
  | cons line ls ih =>
      have hline : '\n' ∉ line.toList := h line List.mem_cons_self
      have hls := ih fun l hl => h l (List.mem_cons_of_mem line hl)
      have hchars : (unlines (line :: ls) ++ rest).toList
          = line.toList ++ '\n' :: (unlines ls ++ rest).toList := by
        simp [unlines_cons, List.append_assoc]
      unfold lines at hls ⊢
      rw [hchars, lineChars_line hline, List.map_cons, String.ofList_toList, hls,
        List.cons_append]

theorem lines_unlines {ls : List String} (h : ∀ line ∈ ls, '\n' ∉ line.toList) :
    lines (unlines ls) = ls := by
  have happend := lines_unlines_append h ""
  rw [String.append_empty] at happend
  rw [happend]
  exact List.append_nil ls

/-- Texts one after the other have the lines of each of them, in order. -/
theorem lines_join {texts : List (List String)}
    (h : ∀ ls ∈ texts, ∀ line ∈ ls, '\n' ∉ line.toList) :
    lines (String.join (texts.map unlines)) = texts.flatten := by
  induction texts with
  | nil => rfl
  | cons ls texts ih =>
      rw [List.map_cons, String.join_cons, lines_unlines_append (h ls List.mem_cons_self),
        ih fun others hothers => h others (List.mem_cons_of_mem ls hothers), List.flatten_cons]

/-! ### Words -/

/-- A letter, a digit or an underscore. -/
def isWordChar (c : Char) : Bool := c.isAlphanum || c == '_'

/-- Letters, digits and underscores alone, as identifiers have them. -/
def IsWord (text : String) : Prop := ∀ c ∈ text.toList, isWordChar c = true

-- over the characters of the text, and not over all characters
instance (text : String) : Decidable (IsWord text) := List.decidableBAll _ _

theorem IsWord.append {a b : String} (ha : IsWord a) (hb : IsWord b) : IsWord (a ++ b) := by
  intro c hc
  rw [String.toList_append, List.mem_append] at hc
  rcases hc with hc | hc
  · exact ha c hc
  · exact hb c hc

theorem IsWord.not_mem {text : String} (h : IsWord text) {c : Char} (hc : isWordChar c = false) :
    c ∉ text.toList := by
  intro hmem
  rw [h c hmem] at hc
  cases hc

/-! Numbers are written in digits. -/

theorem toList_toString (n : Nat) : (toString n).toList = Nat.toDigits 10 n := by
  rw [Nat.toString_eq_repr, Nat.toList_repr]

theorem isDigit_of_mem_toString {n : Nat} {c : Char} (h : c ∈ (toString n).toList) :
    c.isDigit = true := by
  rw [toList_toString] at h
  exact Nat.isDigit_of_mem_toDigits (by decide) (by decide) h

theorem isWord_toString (n : Nat) : IsWord (toString n) := by
  intro c hc
  simp [isWordChar, Char.isAlphanum, isDigit_of_mem_toString hc]

theorem toList_toString_ne_nil (n : Nat) : (toString n).toList ≠ [] := by
  rw [toList_toString]
  exact Nat.toDigits_ne_nil

/-! Letters, digits and underscores stand below 128. -/

theorem lt_of_isWordChar {c : Char} (h : isWordChar c = true) : c.toNat < 128 := by
  have hval : c.toNat = c.val.toNat := rfl
  have hZ : 'Z'.val.toNat = 90 := rfl
  have hz : 'z'.val.toNat = 122 := rfl
  have h9 : '9'.val.toNat = 57 := rfl
  simp only [isWordChar, Bool.or_eq_true, beq_iff_eq] at h
  rcases h with h | rfl
  · delta Char.isAlphanum Char.isAlpha Char.isUpper Char.isLower Char.isDigit at h
    simp only [Bool.or_eq_true, Bool.and_eq_true, decide_eq_true_eq, UInt32.le_iff_toNat_le,
      ge_iff_le] at h
    omega
  · decide

/-- The characters below 128 can be looked at one by one. -/
theorem forall_of_lt {P : Char → Prop} (h : ∀ n < 128, P (Char.ofNat n)) {c : Char}
    (hc : c.toNat < 128) : P c := by
  have := h c.toNat hc
  rwa [Char.ofNat_toNat] at this

/-- What holds of each of the first 128 characters holds of every word character. -/
theorem forall_isWordChar {P : Char → Prop} (h : ∀ n < 128, P (Char.ofNat n)) {c : Char}
    (hc : isWordChar c = true) : P c :=
  forall_of_lt h (lt_of_isWordChar hc)

theorem isWordChar_toUpper {c : Char} (h : isWordChar c = true) :
    isWordChar c.toUpper = true :=
  forall_isWordChar (P := fun c => isWordChar c = true → isWordChar c.toUpper = true)
    (by decide) h h

/-- The capital of a word character is one. -/
theorem isWordChar_of_mem_capital {c d : Char} (hc : isWordChar c = true)
    (hd : d ∈ Letter.capital c) : isWordChar d = true := by
  rw [Letter.capital, if_pos (lt_of_isWordChar hc), List.mem_singleton] at hd
  subst hd
  exact isWordChar_toUpper hc

private theorem isWordChar_of_mem_upperSnakeAfter {cs : List Char}
    (h : ∀ c ∈ cs, isWordChar c = true) (previous : Char) :
    ∀ d ∈ upperSnakeAfter previous cs, isWordChar d = true := by
  induction cs generalizing previous with
  | nil => simp [upperSnakeAfter]
  | cons c cs ih =>
      intro d hd
      simp only [upperSnakeAfter, List.mem_append] at hd
      rcases hd with (hd | hd) | hd
      · split at hd
        · rw [List.mem_singleton.mp hd]
          decide
        · cases hd
      · exact isWordChar_of_mem_capital (h c List.mem_cons_self) hd
      · exact ih (fun e he => h e (List.mem_cons_of_mem c he)) c d hd

/-- Upper case of a word is a word. -/
theorem IsWord.upperSnake {name : String} (h : IsWord name) : IsWord (upperSnake name) := by
  unfold IsWord Text.upperSnake at *
  rw [String.toList_ofList]
  cases hcs : name.toList with
  | nil => simp [upperSnakeChars]
  | cons c cs =>
      rw [hcs] at h
      intro d hd
      simp only [upperSnakeChars, List.mem_append] at hd
      rcases hd with hd | hd
      · exact isWordChar_of_mem_capital (h c List.mem_cons_self) hd
      · exact isWordChar_of_mem_upperSnakeAfter (fun e he => h e (List.mem_cons_of_mem c he)) c d hd

end DeviceGen.Text
