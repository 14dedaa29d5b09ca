/-
Names that are identifiers.

An identifier is a word that does not begin with a digit.  What is put behind an identifier may
be any word, so the names that end in something of their own are identifiers if they are made
of one; capitals and escapes keep the first character what it is.

Escapes tell names apart unless one of them is what the other is escaped to: a reserved word
meets the name that has an underscore more (`memberName_eq_iff`).

A generated function has its own name, and those of its parameter's structure and of the size
that it checks; its statements have the names of members and of enumeration types.
-/
import Mathlib.Data.List.Nodup
import DeviceGen.C.Body
import DeviceGen.Proofs.Text.Lines

namespace DeviceGen.C

open DeviceGen.Text (IsWord isWordChar forall_isWordChar)

/-! ### Identifiers -/

/-- A letter or an underscore, and then letters, digits and underscores. -/
def areIdentifierChars : List Char → Bool
  | [] => false
  | c :: cs => (c.isAlpha || c == '_') && cs.all isWordChar

/-- A letter or an underscore, and then letters, digits and underscores. -/
def IsIdentifier (text : String) : Prop := areIdentifierChars text.toList = true

instance (text : String) : Decidable (IsIdentifier text) := inferInstanceAs (Decidable (_ = true))

theorem isFirst_iff {c : Char} (h : isWordChar c = true) :
    (c.isAlpha || c == '_') = true ↔ c.isDigit = false :=
  forall_isWordChar
    (P := fun c => isWordChar c = true → ((c.isAlpha || c == '_') = true ↔ c.isDigit = false))
    (by decide) h h

theorem isWordChar_of_isFirst {c : Char} (h : (c.isAlpha || c == '_') = true) :
    isWordChar c = true := by
  simp only [isWordChar, Char.isAlphanum, Bool.or_eq_true] at h ⊢
  rcases h with h | h
  · exact .inl (.inl h)
  · exact .inr h

/-- An identifier is a word that begins with something other than a digit. -/
theorem isIdentifier_iff {text : String} :
    IsIdentifier text ↔ IsWord text ∧ ∃ c, text.toList.head? = some c ∧ c.isDigit = false := by
  unfold IsIdentifier IsWord
  cases text.toList with
  | nil => simp [areIdentifierChars]
  | cons c cs =>
      rw [areIdentifierChars, Bool.and_eq_true, List.all_eq_true, List.forall_mem_cons]
      constructor
      · rintro ⟨hfirst, hrest⟩
        have hc := isWordChar_of_isFirst hfirst
        exact ⟨⟨hc, hrest⟩, c, rfl, (isFirst_iff hc).mp hfirst⟩
      · rintro ⟨⟨hc, hrest⟩, d, hd, hdigit⟩
        cases hd
        exact ⟨(isFirst_iff hc).mpr hdigit, hrest⟩

namespace IsIdentifier

variable {name text : String}

theorem isWord (h : IsIdentifier name) : IsWord name := (isIdentifier_iff.mp h).1

/-- Any word may follow. -/
theorem append (h : IsIdentifier name) (htext : IsWord text) : IsIdentifier (name ++ text) := by
  obtain ⟨hword, c, hc, hdigit⟩ := isIdentifier_iff.mp h
  refine isIdentifier_iff.mpr ⟨hword.append htext, c, ?_, hdigit⟩
  rw [String.toList_append, List.head?_append, hc, Option.some_or]

theorem memberName (h : IsIdentifier name) : IsIdentifier (memberName name) := by
  unfold C.memberName
  split
  · exact h.append (by decide)
  · exact h

theorem isDigit_toUpper {c : Char} (h : isWordChar c = true) : c.toUpper.isDigit = c.isDigit :=
  forall_isWordChar (P := fun c => c.toUpper.isDigit = c.isDigit) (by decide) h

theorem upperSnake (h : IsIdentifier name) : IsIdentifier (Text.upperSnake name) := by
  obtain ⟨hword, c, hc, hdigit⟩ := isIdentifier_iff.mp h
  obtain ⟨cs, hcs⟩ := List.head?_eq_some_iff.mp hc
  have hchar : isWordChar c = true := hword c (hcs ▸ List.mem_cons_self)
  refine isIdentifier_iff.mpr ⟨hword.upperSnake, c.toUpper, ?_, ?_⟩
  · rw [Text.upperSnake, String.toList_ofList, hcs, Text.upperSnakeChars, Text.Letter.capital,
      if_pos (Text.lt_of_isWordChar hchar)]
    rfl
  · rw [isDigit_toUpper hchar, hdigit]

theorem sizeMacro (h : IsIdentifier name) : IsIdentifier (sizeMacro name) :=
  h.upperSnake.append (by decide)

end IsIdentifier

/-! ### Members -/

theorem append_underscore_not_mem (name : String) : name ++ "_" ∉ reservedWords := by
  intro h
  have hlast : ∀ word ∈ reservedWords, word.toList.getLast? ≠ some '_' := by decide
  apply hlast _ h
  simp

theorem memberName_of_mem {name : String} (h : name ∈ reservedWords) :
    memberName name = name ++ "_" := if_pos (List.contains_iff_mem.mpr h)

theorem memberName_of_not_mem {name : String} (h : name ∉ reservedWords) :
    memberName name = name := if_neg (mt List.contains_iff_mem.mp h)

/-- No member is a reserved word. -/
theorem memberName_not_mem (name : String) : memberName name ∉ reservedWords := by
  by_cases h : name ∈ reservedWords
  · rw [memberName_of_mem h]
    exact append_underscore_not_mem name
  · rwa [memberName_of_not_mem h]

/-- **Members meet iff one name is what the other is escaped to.** -/
theorem memberName_eq_iff {name other : String} :
    memberName name = memberName other ↔
      name = other ∨ (name ∈ reservedWords ∧ other = name ++ "_")
        ∨ (other ∈ reservedWords ∧ name = other ++ "_") := by
  have hescaped (word : String) : memberName (word ++ "_") = word ++ "_" :=
    memberName_of_not_mem (append_underscore_not_mem word)
  constructor
  · intro h
    by_cases hname : name ∈ reservedWords <;> by_cases hother : other ∈ reservedWords
    · rw [memberName_of_mem hname, memberName_of_mem hother, String.append_left_inj] at h
      exact .inl h
    · rw [memberName_of_mem hname, memberName_of_not_mem hother] at h
      exact .inr (.inl ⟨hname, h.symm⟩)
    · rw [memberName_of_not_mem hname, memberName_of_mem hother] at h
      exact .inr (.inr ⟨hother, h⟩)
    · rw [memberName_of_not_mem hname, memberName_of_not_mem hother] at h
      exact .inl h
  · rintro (rfl | ⟨hname, rfl⟩ | ⟨hother, rfl⟩)
    · rfl
    · rw [memberName_of_mem hname, hescaped]
    · rw [memberName_of_mem hother, hescaped]

/-- Different names have different members iff none of them is another one escaped. -/
theorem nodup_map_memberName_iff {names : List String} (hnames : names.Nodup) :
    (names.map memberName).Nodup ↔ ∀ word ∈ names, word ∈ reservedWords → word ++ "_" ∉ names := by
  rw [List.nodup_map_iff_inj_on hnames]
  constructor
  · intro hinj word hword hreserved hescaped
    have heq := hinj word hword _ hescaped (memberName_eq_iff.mpr (.inr (.inl ⟨hreserved, rfl⟩)))
    have hlength := congrArg String.length heq
    simp at hlength
  · intro hapart name hname other hother heq
    rcases memberName_eq_iff.mp heq with h | ⟨hreserved, rfl⟩ | ⟨hreserved, rfl⟩
    · exact h
    · exact absurd hother (hapart name hname hreserved)
    · exact absurd hname (hapart other hother hreserved)

/-! ### Names in functions -/

/-- The members that an expression reads. -/
def Expr.members : Expr → List String
  | member name => [name]
  | byte _ => []
  | get _ _ => []
  | cast _ e => e.members
  | oneIf e => e.members
  | nonzero e => e.members

/-- The members that a statement reads or sets. -/
def Stmt.members : Stmt → List String
  | put _ _ e => e.members
  | setByte _ e => e.members
  | setMember name e => name :: e.members

/-- The enumeration type that a type is, if it is one. -/
def CType.enumType? : CType → Option String
  | enumeration enumName => some (enumType enumName)
  | _ => none

/-- The enumeration types that an expression casts to. -/
def Expr.enumTypes : Expr → List String
  | member _ => []
  | byte _ => []
  | get _ _ => []
  | cast type e => type.enumType?.toList ++ e.enumTypes
  | oneIf e => e.enumTypes
  | nonzero e => e.enumTypes

/-- The enumeration types that a statement casts to. -/
def Stmt.enumTypes : Stmt → List String
  | put _ _ e => e.enumTypes
  | setByte _ e => e.enumTypes
  | setMember _ e => e.enumTypes

/-- The function that copies a message in a direction. -/
def Direction.function (direction : Direction) (message : String) : String :=
  match direction with
  | pack => "pack_" ++ message
  | unpack => "unpack_" ++ message

/-- The names of the schema that a function has in it. -/
def Routine.names (routine : Routine) : List String :=
  [routine.direction.function routine.message, routine.message ++ "_t", sizeMacro routine.message]
    ++ routine.body.flatMap fun s => s.members ++ s.enumTypes

theorem IsIdentifier.function {message : String} (h : IsIdentifier message)
    (direction : Direction) : IsIdentifier (direction.function message) := by
  have hpack : IsIdentifier "pack_" := by decide
  have hunpack : IsIdentifier "unpack_" := by decide
  cases direction with
  | pack => exact hpack.append h.isWord
  | unpack => exact hunpack.append h.isWord

end DeviceGen.C
