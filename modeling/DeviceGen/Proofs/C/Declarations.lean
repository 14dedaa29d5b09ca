/-
Declarations as they are read.

A message is declared as a structure, with types and names for its members, and with what the
functions begin with that there are for it.  This is read from the tokens of a text, which
directives are no part of.  What was printed is read back, whatever stands behind it.
-/
import DeviceGen.Proofs.C.ReadBack

namespace DeviceGen.C

open DeviceGen.Text (anyNext isWordChar noNext unlines)
open TokenReader (expect expectWord takes whole word)

/-! ### Reading -/

/-- A member of a structure. -/
structure Member where
  type : String
  name : String
  deriving DecidableEq, Repr

/-- A structure that has a name as a type. -/
structure Structure where
  name : String
  members : List Member
  deriving DecidableEq, Repr

/-- A structure, and the functions that are declared behind it. -/
structure Declaration where
  type : Structure
  functions : List Signature
  deriving DecidableEq, Repr

/-- Reads members up to the brace behind them. -/
def Member.readAll : Nat → TokenReader (List Member)
  | 0 => failure
  | turns + 1 => do
    if ← takes .closeBrace then return []
    let type ← word
    let name ← word
    expect .semicolon
    return ⟨type, name⟩ :: (← readAll turns)

/-- Reads a structure. -/
def Structure.read : TokenReader Structure := do
  expectWord "typedef"
  expectWord "struct"
  expect .openBrace
  let members ← Member.readAll (← get).length
  let name ← word
  expect .semicolon
  return ⟨name, members⟩

/-- Reads what functions begin with, up to the end. -/
def Signature.readAll : Nat → TokenReader (List Signature)
  | _, [] => some ([], [])
  | 0, _ => none
  | turns + 1, t :: ts => (do
      let signature ← read
      expect .semicolon
      return signature :: (← readAll turns) : TokenReader (List Signature)) (t :: ts)

/-- Reads a declaration. -/
def Declaration.read : TokenReader Declaration := do
  let type ← Structure.read
  return ⟨type, ← Signature.readAll (← get).length⟩

/-- The declaration that a text is. -/
def declaration? (text : String) : Option Declaration :=
  whole Declaration.read (Token.ofText text)

/-! ### What is printed -/

/-- The tokens of a member. -/
def Member.tokens (member : Member) : List Token :=
  [wordToken member.type, wordToken member.name, .mark .semicolon]

/-- The tokens of a structure. -/
def Structure.tokens (s : Structure) : List Token :=
  wordToken "typedef" :: wordToken "struct" :: .mark .openBrace
    :: (s.members.flatMap Member.tokens
      ++ [.mark .closeBrace, wordToken s.name, .mark .semicolon])

theorem Member.length_tokens (members : List Member) :
    (members.flatMap tokens).length = 3 * members.length := by
  induction members with
  | nil => rfl
  | cons member members ih =>
      rw [List.flatMap_cons, List.length_append, ih, List.length_cons, Nat.mul_succ, Nat.add_comm]
      rfl

theorem Member.readAll_tokens (members : List Member) {turns : Nat} (h : members.length < turns)
    (rest : List Token) :
    readAll turns (members.flatMap tokens ++ .mark .closeBrace :: rest) = some (members, rest) := by
  induction members generalizing turns with
  | nil =>
      obtain ⟨turns, rfl⟩ := Nat.exists_eq_add_one_of_ne_zero (Nat.ne_zero_of_lt h)
      simp [readAll]
  | cons member members ih =>
      obtain ⟨turns, rfl⟩ := Nat.exists_eq_add_one_of_ne_zero (Nat.ne_zero_of_lt h)
      have hrest := ih (Nat.lt_of_succ_lt_succ h)
      simp [readAll, tokens, hrest]

/-- A structure is read with anything behind it. -/
theorem Structure.read_tokens (s : Structure) (rest : List Token) :
    Structure.read (s.tokens ++ rest) = some (s, rest) := by
  have hlength : s.members.length < (s.members.flatMap Member.tokens
      ++ .mark .closeBrace :: wordToken s.name :: .mark .semicolon :: rest).length := by
    simp only [List.length_append, List.length_cons, Member.length_tokens]
    omega
  have hmembers := Member.readAll_tokens s.members hlength
    (wordToken s.name :: .mark .semicolon :: rest)
  simp [-List.length_append, Structure.read, tokens, hmembers]

theorem Signature.readAll_cons {signature : Signature} {signatures : List Signature}
    {turns : Nat} {ts us : List Token}
    (h : Signature.read ts = some (signature, .mark .semicolon :: us))
    (hs : readAll turns us = some (signatures, [])) :
    readAll (turns + 1) ts = some (signature :: signatures, []) := by
  cases ts with
  | nil => cases h
  | cons t ts => simp [readAll, h, hs]

namespace Routine

variable {message : String}

/-- The tokens of what declares a function of a message. -/
def prototypeTokens (direction : Direction) (message : String) : List Token :=
  headTokens direction message ++ [.mark .semicolon]

theorem readAll_prototypes (turns : Nat) (message : String) :
    Signature.readAll (turns + 2) (prototypeTokens .pack message ++ prototypeTokens .unpack message)
      = some ([signature .pack message, signature .unpack message], []) := by
  have hunpack : Signature.readAll (turns + 1) (prototypeTokens .unpack message)
      = some ([signature .unpack message], []) :=
    Signature.readAll_cons (read_signature .unpack message [.mark .semicolon])
      (by cases turns <;> rfl)
  have hpack := read_signature .pack message (.mark .semicolon :: prototypeTokens .unpack message)
  refine Signature.readAll_cons ?_ hunpack
  rw [prototypeTokens, List.append_assoc]
  exact hpack

/-- A structure with the functions behind it is the declaration of a message. -/
theorem read_declaration (s : Structure) (message : String) :
    Declaration.read
        (s.tokens ++ (prototypeTokens .pack message ++ prototypeTokens .unpack message))
      = some (⟨s, [signature .pack message, signature .unpack message]⟩, []) := by
  obtain ⟨turns, hturns⟩ : ∃ turns,
      (prototypeTokens .pack message ++ prototypeTokens .unpack message).length = turns + 2 :=
    ⟨_, rfl⟩
  have hprototypes := readAll_prototypes turns message
  rw [← hturns] at hprototypes
  simp [-List.length_append, Declaration.read, s.read_tokens, hprototypes]

end Routine

/-! ### Spelling -/

/-- A line that declares a member. -/
theorem Member.spells_line {type name : String} (htype : IsIdentifier type)
    (hname : IsIdentifier name) :
    Spells ("  " ++ type ++ " " ++ name ++ ";").toList (tokens ⟨type, name⟩) anyNext := by
  have hindent : Spells "  ".toList [] anyNext := .literal (by decide)
  have hblank : Spells " ".toList [] anyNext := .literal (by decide)
  have hsemicolon : Spells ";".toList [.mark .semicolon] anyNext := .literal (by decide)
  have hdeclared := (hindent.join (.identifier htype)).stop hblank (by decide)
  exact (hdeclared.join (.identifier hname)).stop hsemicolon (by decide)

/-- The lines before the members of a structure. -/
theorem Structure.spells_opening : Spells (unlines ["", "typedef struct \x7b"]).toList
    [wordToken "typedef", wordToken "struct", .mark .openBrace] anyNext := by
  have hstruct : Spells "typedef struct \x7b".toList
      [wordToken "typedef", wordToken "struct", .mark .openBrace] anyNext := .literal (by decide)
  exact Spells.empty.line hstruct.oneLine

/-- The lines behind the members of a structure. -/
theorem Structure.spells_closing {message : String} (h : IsIdentifier (message ++ "_t")) :
    Spells (unlines ["\x7d " ++ message ++ "_t;", ""]).toList
      [.mark .closeBrace, wordToken (message ++ "_t"), .mark .semicolon] anyNext := by
  have hbrace : Spells "\x7d ".toList [.mark .closeBrace] anyNext := .literal (by decide)
  have hsemicolon : Spells ";".toList [.mark .semicolon] anyNext := .literal (by decide)
  have hline := hbrace.join ((Spells.identifier h).stop hsemicolon (by decide))
  have htext : "\x7d " ++ message ++ "_t;" = "\x7d " ++ (message ++ "_t" ++ ";") := by
    show ("\x7d " ++ message) ++ ("_t" ++ ";") = _
    simp only [String.append_assoc]
  rw [htext]
  exact hline.anywhere.line Spells.empty.oneLine

/-- A line that declares a function of a message. -/
theorem Routine.spells_prototype (direction : Direction) {message : String}
    (h : IsIdentifier message) :
    Spells (head direction message ++ ";").toList (prototypeTokens direction message) anyNext := by
  have hsemicolon : Spells ";".toList [.mark .semicolon] anyNext := .literal (by decide)
  exact (spells_head direction h).join hsemicolon

end DeviceGen.C
