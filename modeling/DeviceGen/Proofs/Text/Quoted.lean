/-
Quoted texts among other characters.

A quoted text ends where its literal ends.  A reader of JSON texts that starts at its first
quotation mark reads the text that was quoted, and leaves what follows.

Between the outer quotation marks every other one is escaped, and so there is nothing at which a
reader could stop too early.  Whether a character is escaped is a matter of counting: a backslash
escapes what stands behind it, unless it is escaped itself, so an odd number of them has to stand
right in front of the character.  A text is quoted character by character, and none of the written
characters leaves an odd number behind.
-/
import DeviceGen.Proofs.Text.Json.Printed
import Mathlib.Algebra.Ring.Parity

namespace DeviceGen.Text

/-! ### Escapes -/

/-- The number of backslashes at the end of characters. -/
def backslashesAtEnd (cs : List Char) : Nat := (cs.reverse.takeWhile (· = '\\')).length

/-- What stands behind these characters is escaped. -/
def Escapes (cs : List Char) : Prop := Odd (backslashesAtEnd cs)

instance (cs : List Char) : Decidable (Escapes cs) := inferInstanceAs (Decidable (Odd _))

theorem not_escapes_nil : ¬ Escapes [] := by decide

/-- One backslash more escapes what was not escaped, and the other way round. -/
theorem escapes_concat_backslash {cs : List Char} : Escapes (cs ++ ['\\']) ↔ ¬ Escapes cs := by
  have hmore : backslashesAtEnd (cs ++ ['\\']) = backslashesAtEnd cs + 1 := by
    simp [backslashesAtEnd]
  rw [Escapes, hmore, Nat.odd_add_one, Escapes]

theorem not_escapes_concat {cs : List Char} {c : Char} (hc : c ≠ '\\') : ¬ Escapes (cs ++ [c]) := by
  have hnone : backslashesAtEnd (cs ++ [c]) = 0 := by simp [backslashesAtEnd, hc]
  rw [Escapes, hnone]
  decide

/-! ### Written characters -/

/-- What is written for a character between quotation marks: a letter behind a backslash, the code
of a control character, or the character itself. -/
inductive IsWritten : List Char → Prop where
  | letter {letter : Char} (noControl : 0x20 ≤ letter.toNat) : IsWritten ['\\', letter]
  | code {high low : Nat} (highFits : high < 16) (lowFits : low < 16) :
      IsWritten ['\\', 'u', '0', '0', Text.hexDigit high, Text.hexDigit low]
  | plain {c : Char} (noControl : 0x20 ≤ c.toNat) (noMark : c ≠ '"') (noBackslash : c ≠ '\\') :
      IsWritten [c]

theorem isWritten_quotedChar (c : Char) : IsWritten (quotedChar c) := by
  unfold quotedChar
  -- seven characters have letters of their own
  iterate 7
    split
    · exact .letter (by decide)
  split
  · exact .code (by omega) (by omega)
  · next hmark hbackslash _ _ _ _ _ hcontrol =>
      exact .plain (Nat.not_lt.mp hcontrol) hmark hbackslash

theorem hexDigit_proper : ∀ n < 16, Text.hexDigit n ≠ '"' ∧ Text.hexDigit n ≠ '\\'
    ∧ 0x20 ≤ (Text.hexDigit n).toNat := by decide

namespace IsWritten

variable {cs done : List Char}

/-- There are no control characters in what is written for a character. -/
theorem le_toNat (h : IsWritten cs) : ∀ d ∈ cs, 0x20 ≤ d.toNat := by
  cases h with
  | letter hletter => simpa using hletter
  | code hhigh hlow => simpa using ⟨(hexDigit_proper _ hhigh).2.2, (hexDigit_proper _ hlow).2.2⟩
  | plain hplain => simpa using hplain

/-- A written character does not escape what comes next. -/
theorem not_escapes_append (h : IsWritten cs) (hdone : ¬ Escapes done) :
    ¬ Escapes (done ++ cs) := by
  cases h with
  | @letter letter _ =>
      rw [← List.singleton_append, ← List.append_assoc]
      by_cases hbackslash : letter = '\\'
      · rw [hbackslash, escapes_concat_backslash, not_not]
        exact escapes_concat_backslash.mpr hdone
      · exact not_escapes_concat hbackslash
  | @code high low _ hlow =>
      have hsplit : done ++ ['\\', 'u', '0', '0', Text.hexDigit high, Text.hexDigit low]
          = done ++ ['\\', 'u', '0', '0', Text.hexDigit high] ++ [Text.hexDigit low] := by
        rw [List.append_assoc]
        rfl
      rw [hsplit]
      exact not_escapes_concat (hexDigit_proper low hlow).2.1
  | plain _ _ hbackslash => exact not_escapes_concat hbackslash

/-- A quotation mark in a written character is escaped. -/
theorem escapes_append (h : IsWritten cs) (hdone : ¬ Escapes done) {before after : List Char}
    (hmark : cs = before ++ '"' :: after) : Escapes (done ++ before) := by
  have hmem : '"' ∈ cs := hmark ▸ List.mem_append_right before List.mem_cons_self
  cases h with
  | letter _ =>
      match before with
      | [] => cases hmark
      | [_] =>
          cases hmark
          exact escapes_concat_backslash.mpr hdone
      | _ :: _ :: before =>
          have hnone := congrArg List.length hmark
          simp at hnone
  | code hhigh hlow =>
      have hdigits := And.intro (hexDigit_proper _ hhigh).1.symm (hexDigit_proper _ hlow).1.symm
      simp [hdigits] at hmem
  | plain _ hne _ => exact absurd (List.mem_singleton.mp hmem) hne.symm

end IsWritten

/-! ### Quoted texts -/

/-- Every quotation mark among written characters is escaped, and what comes behind them is not. -/
theorem escapes_quoted (cs : List Char) {done : List Char} (hdone : ¬ Escapes done) :
    (∀ before after, cs.flatMap quotedChar = before ++ '"' :: after → Escapes (done ++ before))
      ∧ ¬ Escapes (done ++ cs.flatMap quotedChar) := by
  induction cs generalizing done with
  | nil =>
      refine ⟨fun before after h => ?_, by rwa [List.flatMap_nil, List.append_nil]⟩
      simp at h
  | cons c cs ih =>
      have hc := isWritten_quotedChar c
      obtain ⟨hmarks, hend⟩ := ih (hc.not_escapes_append hdone)
      rw [List.flatMap_cons]
      refine ⟨fun before after h => ?_, by rwa [← List.append_assoc]⟩
      rcases List.append_eq_append_iff.mp h with ⟨inner, rfl, hrest⟩ | ⟨inner, hcs, hrest⟩
      · rw [← List.append_assoc]
        exact hmarks inner after hrest
      · cases inner with
        | nil =>
            -- the mark is the first character after what is written for `c`
            have hbefore : before = quotedChar c := by rw [hcs, List.append_nil]
            have hmark := hmarks [] after hrest.symm
            rwa [List.append_nil, ← hbefore] at hmark
        | cons d inner =>
            obtain ⟨rfl, -⟩ := List.cons.inj hrest
            exact hc.escapes_append hdone hcs

/-- **A quoted text cannot be left too early.**  In front of anything, a quoted text is read as the
text that was quoted, and what follows is left as it is.  There are no control characters in it, and
its quotation marks are escaped but for the first and the last. -/
theorem quote_self_contained (text rest : String) :
    Json.quoted (quote text ++ rest).toList = some (text, rest.toList)
      ∧ (∀ c ∈ (quote text).toList, 0x20 ≤ c.toNat)
      ∧ ∃ inner, (quote text).toList = '"' :: inner ++ ['"']
        ∧ (∀ before after, inner = before ++ '"' :: after → Escapes before)
        ∧ ¬ Escapes inner := by
  have hchars : (quote text).toList = quotedChars text.toList := String.toList_ofList
  have hmarks := escapes_quoted text.toList not_escapes_nil
  refine ⟨?_, ?_, text.toList.flatMap quotedChar, hchars, hmarks⟩
  · rw [String.toList_append]
    exact Json.exact_quoted.reads (Json.isText_quote text) trivial
  · intro c hc
    rw [hchars, quotedChars, List.mem_append, List.mem_cons, List.mem_singleton] at hc
    rcases hc with (rfl | hc) | rfl
    · decide
    · obtain ⟨d, -, hd⟩ := List.mem_flatMap.mp hc
      exact (isWritten_quotedChar d).le_toNat c hd
    · decide

-- the backslash of the text does not escape the last quotation mark
example : Json.quoted (quote "a\"\\" ++ "\", b").toList = some ("a\"\\", "\", b".toList) := by
  decide +kernel

end DeviceGen.Text
