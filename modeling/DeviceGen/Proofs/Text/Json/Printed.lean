/-
Printed documents.

What is printed for a document is that document by the grammar, and so it is read as that
document (`read_print`).  The lines and their indentation are blanks between the pieces.
-/
import DeviceGen.Proofs.Text.Json.Reader
import DeviceGen.Text.Json
import Mathlib.Data.List.Forall2

namespace DeviceGen.Text.Json

/-! ### Printed documents as documents -/

mutual

/-- A document of those that are printed. -/
def toDocument : Json → Document
  | null => .null
  | number value => .number value 0
  | text value => .text value
  | array items => .array (toDocuments items)
  | object members => .object (toMembers members)

/-- The items of an array. -/
def toDocuments : List Json → List Document
  | [] => []
  | item :: items => item.toDocument :: toDocuments items

/-- The members of an object. -/
def toMembers : List (String × Json) → List (String × Document)
  | [] => []
  | (key, value) :: members => (key, value.toDocument) :: toMembers members

end

theorem toDocuments_eq (items : List Json) : toDocuments items = items.map toDocument := by
  induction items with
  | nil => rfl
  | cons item items ih => rw [toDocuments, ih, List.map_cons]

/-! ### Numbers -/

theorem eq_zero_of_head?_toDigits {n : Nat} (h : (Nat.toDigits 10 n).head? = some '0') : n = 0 := by
  induction n using Nat.strongRecOn with
  | ind n ih =>
      by_cases hn : n < 10
      · rw [Nat.toDigits_of_lt_base hn] at h
        exact Nat.digitChar_eq_zero.mp (Option.some.inj h)
      · -- the first digit is that of the number without its last digit
        rw [Nat.toDigits_of_base_le (by decide) (by omega),
          List.head?_append_of_ne_nil _ Nat.toDigits_ne_nil] at h
        have := ih (n / 10) (by omega) h
        omega

theorem isWhole_toDigits (n : Nat) : IsWhole (Nat.toDigits 10 n) (Nat.toDigits 10 n) where
  same := rfl
  digits := ⟨Nat.toDigits_ne_nil, fun _ hd =>
    Nat.isDigit_of_mem_toDigits (by decide) (by decide) hd⟩
  zero h := by rw [eq_zero_of_head?_toDigits h, Nat.toDigits_zero]

theorem isNumber_toString (n : Int) : IsNumber (n, 0) (toString n).toList := by
  have hnumber {negative : Bool} {s : List Char} (hs : IsSign negative s) (m : Nat) :
      IsNumber (signed negative m, 0) (s ++ Nat.toDigits 10 m) := by
    have h := IsNumber.mk hs (isWhole_toDigits m) .none .none
    simpa [value, Nat.ofDigitChars_ten_toDigits] using h
  rw [Int.toString_eq_repr, Int.repr_eq_if]
  by_cases hn : 0 ≤ n
  · rw [if_pos hn, Nat.toList_repr]
    have h := hnumber .none n.toNat
    rwa [signed, if_neg Bool.false_ne_true, Int.toNat_of_nonneg hn] at h
  · rw [if_neg hn, String.toList_append, Nat.toList_repr]
    have h := hnumber .minus (-n).toNat
    rwa [signed, if_pos rfl, Int.toNat_of_nonneg (by omega), Int.neg_neg] at h

/-! ### Texts -/

theorem hexValue?_hexDigit : ∀ n < 16, hexValue? (Text.hexDigit n) = some n := by decide

/-- A control character is written by its code. -/
theorem isChar_control {c : Char} (hc : c.toNat < 0x20) :
    IsChar c ['\\', 'u', '0', '0', Text.hexDigit (c.toNat / 16), Text.hexDigit (c.toNat % 16)] := by
  have hzero : hexValue? '0' = some 0 := rfl
  have hcode := IsCode.mk hzero hzero (hexValue?_hexDigit (c.toNat / 16) (by omega))
    (hexValue?_hexDigit (c.toNat % 16) (by omega))
  have hsum : ((0 * 16 + 0) * 16 + c.toNat / 16) * 16 + c.toNat % 16 = c.toNat := by omega
  rw [hsum] at hcode
  have hhigh : isHigh c.toNat = false := by
    simp only [isHigh, Bool.and_eq_false_iff, decide_eq_false_iff_not]
    omega
  have hlow : isLow c.toNat = false := by
    simp only [isLow, Bool.and_eq_false_iff, decide_eq_false_iff_not]
    omega
  have hcoded := IsCoded.one hcode hhigh hlow
  rw [Char.ofNat_toNat] at hcoded
  exact .coded hcoded

theorem isChar_quotedChar (c : Char) : IsChar c (quotedChar c) := by
  unfold quotedChar
  split_ifs with h₁ h₂ h₃ h₄ h₅ h₆ h₇ h₈
  · subst h₁
    exact .escape rfl
  · subst h₂
    exact .escape rfl
  · subst h₃
    exact .escape rfl
  · subst h₄
    exact .escape rfl
  · subst h₅
    exact .escape rfl
  · subst h₆
    exact .escape rfl
  · subst h₇
    exact .escape rfl
  · exact isChar_control h₈
  · refine .plain ?_
    simp only [isPlain, Bool.and_eq_true, decide_eq_true_eq]
    exact ⟨⟨Nat.not_lt.mp h₈, h₁⟩, h₂⟩

/-- **A quoted text is that text by the grammar.** -/
theorem isText_quote (t : String) : IsText t (quote t).toList := by
  have hrow : ∀ cs : List Char, IsRow IsChar '"' cs (cs.flatMap quotedChar ++ ['"']) := by
    intro cs
    induction cs with
    | nil => exact .nil
    | cons c cs ih =>
        rw [List.flatMap_cons, List.append_assoc]
        exact .cons (isChar_quotedChar c) ih
  rw [quote, String.toList_ofList]
  have h := IsText.mk (hrow t.toList)
  rwa [String.ofList_toList] at h

/-! ### Arrays and objects -/

theorem areBlank_nil : AreBlank [] := fun _ h => nomatch h

theorem areBlank_blanks (n : Nat) : AreBlank (blanks n).toList := by
  intro c hc
  rw [blanks, String.toList_ofList] at hc
  rw [List.eq_of_mem_replicate hc]
  rfl

theorem AreBlank.cons {c : Char} {cs : List Char} (hc : isBlank c = true) (h : AreBlank cs) :
    AreBlank (c :: cs) := by
  intro d hd
  rcases List.mem_cons.mp hd with rfl | hd
  · exact hc
  · exact h d hd

section Block

variable {α : Type} {g : Grammar α} {closing : Char} {as : List α} {parts : List String}

/-- Parts with a comma and blanks between them are things with commas between them.  The blanks may
stand in front of the parts, and then stand in front of the first part as well. -/
theorem isSeparated_joined (closing : Char) {separator indent : String} {gap tail : List Char}
    (hseparator : (separator ++ indent).toList = ',' :: gap) (hgap : AreBlank gap)
    (htail : AreBlank tail) (h : List.Forall₂ (fun a part => g a part.toList) as parts)
    (hne : parts ≠ []) :
    ∃ body, (String.intercalate separator (parts.map (indent ++ ·))).toList ++ (tail ++ [closing])
          = indent.toList ++ body
        ∧ IsSeparated g closing as body := by
  induction h with
  | nil => exact absurd rfl hne
  | @cons a part as parts ha hrest ih =>
      cases hrest with
      | nil =>
          refine ⟨part.toList ++ tail ++ [closing], ?_, .last (.mk ha htail)⟩
          simp [String.intercalate_singleton, String.toList_append]
      | @cons a' part' as parts ha' hrest =>
          obtain ⟨body, htext, hbody⟩ := ih (List.cons_ne_nil _ _)
          have hwritten := IsSeparated.more (.mk ha areBlank_nil) hgap hbody
          refine ⟨_, ?_, hwritten⟩
          rw [List.map_cons, List.map_cons, String.intercalate_cons_cons, ← List.map_cons]
          rw [String.toList_append] at hseparator
          simp only [String.toList_append, List.append_assoc, htext, List.append_nil]
          rw [← List.append_assoc separator.toList, hseparator]

theorem isList_block (opening closing : Char) (indent : Nat)
    (h : List.Forall₂ (fun a part => g a part.toList) as parts) :
    IsList opening closing g as
      (block (String.singleton opening) (String.singleton closing) indent parts).toList := by
  unfold block
  cases h with
  | nil =>
      have hwritten : IsList opening closing g [] (opening :: [] ++ [closing]) :=
        .empty areBlank_nil
      simpa using hwritten
  | @cons a part as parts ha hrest =>
      have htail : AreBlank ('\n' :: (blanks indent).toList) := (areBlank_blanks indent).cons rfl
      have hline : AreBlank ('\n' :: (blanks (indent + 2)).toList) :=
        (areBlank_blanks (indent + 2)).cons rfl
      have hseparator : (",\n" ++ blanks (indent + 2)).toList
          = ',' :: '\n' :: (blanks (indent + 2)).toList := by simp [String.toList_append]
      obtain ⟨body, htext, hbody⟩ := isSeparated_joined closing hseparator hline htail
        (.cons ha hrest) (List.cons_ne_nil _ _)
      have hwritten : IsList opening closing g (a :: as) _ := .filled hline hbody
      have hsame : opening :: '\n' :: (blanks (indent + 2)).toList ++ body = _ :=
        congrArg (opening :: '\n' :: ·) htext.symm
      rw [hsame] at hwritten
      simpa [String.toList_append] using hwritten

/-- Parts in one line between brackets are a list of things. -/
theorem isList_row (opening closing : Char)
    (h : List.Forall₂ (fun a part => g a part.toList) as parts) :
    IsList opening closing g as
      (opening :: (String.intercalate ", " parts).toList ++ [closing]) := by
  cases h with
  | nil => exact .empty areBlank_nil
  | @cons a part as parts ha hrest =>
      have hgap : AreBlank [' '] := areBlank_nil.cons rfl
      have hseparator : (", " ++ "").toList = ',' :: [' '] := by simp
      obtain ⟨body, htext, hbody⟩ := isSeparated_joined closing hseparator hgap areBlank_nil
        (.cons ha hrest) (List.cons_ne_nil _ _)
      have hwritten : IsList opening closing g (a :: as) _ := .filled areBlank_nil hbody
      have hparts : (part :: parts).map ("" ++ ·) = part :: parts := by simp
      rw [hparts] at htext
      simp only [String.toList_empty, List.nil_append] at htext
      rwa [← htext] at hwritten

end Block

/-! ### Documents -/

theorem isMember_line (key : String) {d : Document} {text : String}
    (h : IsValue d text.toList) :
    IsMember IsValue (key, d) (quote key ++ ": " ++ text).toList := by
  have hblank : AreBlank [' '] := AreBlank.cons rfl areBlank_nil
  have hwritten := IsMember.mk (.mk (isText_quote key) areBlank_nil) hblank h
  rw [List.append_nil] at hwritten
  rw [String.toList_append, String.toList_append, List.append_assoc]
  exact hwritten

mutual

/-- What is printed for a document is that document by the grammar, whatever its indentation. -/
theorem isValue_pretty (indent : Nat) : ∀ d : Json, IsValue d.toDocument (d.pretty indent).toList
  | null => by
      rw [pretty, toDocument]
      exact isValue_iff.mpr .null
  | number n => isValue_iff.mpr (.number (isNumber_toString n))
  | text t => isValue_iff.mpr (.text (isText_quote t))
  | array items => isValue_iff.mpr (.array (isList_block '[' ']' indent
      (forall₂_prettyItems (indent + 2) items)))
  | object members => isValue_iff.mpr (.object (isList_block '\x7b' '\x7d' indent
      (forall₂_prettyMembers (indent + 2) members)))

theorem forall₂_prettyItems (indent : Nat) : ∀ items : List Json,
    List.Forall₂ (fun d part => IsValue d part.toList) (toDocuments items)
      (prettyItems indent items)
  | [] => .nil
  | item :: items => .cons (isValue_pretty indent item) (forall₂_prettyItems indent items)

theorem forall₂_prettyMembers (indent : Nat) : ∀ members : List (String × Json),
    List.Forall₂ (fun m part => IsMember IsValue m part.toList) (toMembers members)
      (prettyMembers indent members)
  | [] => .nil
  | (key, value) :: members => .cons (isMember_line key (isValue_pretty indent value))
      (forall₂_prettyMembers indent members)

end

/-- **A printed document is a well-formed JSON text**, and it says that document. -/
theorem isDocument_print (d : Json) : IsDocument d.toDocument d.print.toList := by
  have h := IsDocument.mk areBlank_nil (.mk (isValue_pretty 0 d) areBlank_nil)
  rwa [List.append_nil] at h

/-- **A printed document is read as the document that was printed.** -/
theorem read_print (d : Json) : read d.print = some d.toDocument :=
  read_eq_some_iff.mpr (isDocument_print d)

end DeviceGen.Text.Json
