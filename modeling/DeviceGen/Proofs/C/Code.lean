/-
Code as it is read.

Generated code needs little of C: expressions over a structure, a buffer and a few variables,
and functions of statements in a row.  The reader goes by the tokens of a text and knows nothing
of how they came to be written.  It cuts them into functions and these into statements first, so
that each is read by itself.  In an expression it takes casts before operators, and of these first
those that bind most; it gives up where something else stands than it expects.
-/
import Mathlib.Data.List.Basic
import DeviceGen.Proofs.C.Execution
import DeviceGen.Proofs.C.Tokens

namespace DeviceGen.C

/-! ### Phrases and commands -/

/-- What stands between two operands. -/
inductive Operator where
  | or
  | unequal
  | less
  | shiftLeft
  | shiftRight
  | add
  deriving DecidableEq, Repr

/-- Expressions. -/
inductive Phrase where
  /-- A number, which may be marked as unsigned. -/
  | number (n : Nat) (unsigned : Bool)
  /-- A variable or a macro. -/
  | name (text : String)
  /-- A member of the structure that something points to. -/
  | member (object : Phrase) (field : String)
  /-- A byte behind the one that something points to. -/
  | item (array index : Phrase)
  /-- The result of a function. -/
  | call (function : String) (argument : Phrase)
  | address (e : Phrase)
  | negate (e : Phrase)
  | cast (type : String) (e : Phrase)
  | sizeOf (name : String)
  | binary (operator : Operator) (a b : Phrase)
  | conditional (condition a b : Phrase)
  deriving DecidableEq, Repr

/-- Statements. -/
inductive Command where
  /-- A variable, which may have a value from the beginning. -/
  | declare (type name : String) (value : Option Phrase)
  | assign (target value : Phrase)
  | call (function : String) (arguments : List Phrase)
  | give (value : Phrase)
  /-- Returns a value under a condition. -/
  | giveIf (condition value : Phrase)
  deriving DecidableEq, Repr

/-- A parameter of a function, which may be a pointer to something of the type. -/
structure Parameter where
  type : String
  isPointer : Bool
  name : String
  deriving DecidableEq, Repr

/-- What a function begins with. -/
structure Signature where
  result : String
  name : String
  parameters : List Parameter
  deriving DecidableEq, Repr

/-- A function. -/
structure Function extends Signature where
  body : List Command
  deriving DecidableEq, Repr

/-! ### Pieces -/

/-- The number of open braces behind a token that goes on with a piece; nothing behind one that
ends it, which is a semicolon outside of braces, or the brace that closes the first one. -/
def Token.goesOn : Nat → Token → Option Nat
  | depth, .mark .openBrace => some (depth + 1)
  | depth + 2, .mark .closeBrace => some (depth + 1)
  | 1, .mark .closeBrace => none
  | 0, .mark .semicolon => none
  | depth, _ => some depth

/-- A token in front of pieces belongs to the first one. -/
def Token.lead (t : Token) : List (List Token) → List (List Token)
  | [] => [[t]]
  | piece :: others => (t :: piece) :: others

/-- Tokens cut into pieces, where so many braces are open in front of them.  Pieces are functions,
or the statements of one. -/
def pieces : Nat → List Token → List (List Token)
  | _, [] => []
  | depth, t :: ts =>
    match t.goesOn depth with
    | none => [t] :: pieces 0 ts
    | some depth => t.lead (pieces depth ts)

/-! ### Reading -/

/-- Reads something from the front of tokens, or fails. -/
abbrev TokenReader (α : Type) := StateT (List Token) Option α

namespace TokenReader

variable {α β : Type}

@[simp] theorem run_pure (a : α) (ts : List Token) :
    (pure a : TokenReader α) ts = some (a, ts) := rfl

@[simp] theorem run_bind (r : TokenReader α) (f : α → TokenReader β) (ts : List Token) :
    (r >>= f) ts = (r ts).bind fun p => f p.1 p.2 := rfl

@[simp] theorem run_map (f : α → β) (r : TokenReader α) (ts : List Token) :
    (f <$> r) ts = (r ts).map fun p => (f p.1, p.2) := by
  show ((r ts).bind fun p => some (f p.1, p.2)) = _
  rw [Option.map_eq_bind]
  rfl

@[simp] theorem run_get (ts : List Token) :
    (get : TokenReader (List Token)) ts = some (ts, ts) := rfl

/-- Insists on a mark. -/
def expect (m : Mark) : TokenReader Unit
  | .mark m' :: ts => if m' = m then some ((), ts) else none
  | _ => none

/-- Whether a mark is next, which is then taken. -/
def takes (m : Mark) : TokenReader Bool
  | .mark m' :: ts => if m' = m then some (true, ts) else some (false, .mark m' :: ts)
  | ts => some (false, ts)

/-- The next word. -/
def word : TokenReader String
  | .word cs :: ts => some (String.ofList cs, ts)
  | _ => none

/-- Insists on a word. -/
def expectWord (w : String) : TokenReader Unit
  | .word cs :: ts => if cs = w.toList then some ((), ts) else none
  | _ => none

/-- Whether a word is next, which is then taken. -/
def takesWord (w : String) : TokenReader Bool
  | .word cs :: ts => if cs = w.toList then some (true, ts) else some (false, .word cs :: ts)
  | ts => some (false, ts)

/-- Things with commas between them, up to the end of a list. -/
def listed (item : TokenReader α) : Nat → TokenReader (List α)
  | 0 => failure
  | turns + 1 => do
    let a ← item
    if ← takes .comma then return a :: (← listed item turns)
    expect .closeParen
    return [a]

@[simp] theorem expect_mark (m : Mark) (ts : List Token) :
    expect m (.mark m :: ts) = some ((), ts) := if_pos rfl

@[simp] theorem takes_mark (m : Mark) (ts : List Token) :
    takes m (.mark m :: ts) = some (true, ts) := if_pos rfl

theorem takes_other {m m' : Mark} (h : m' ≠ m) (ts : List Token) :
    takes m (.mark m' :: ts) = some (false, .mark m' :: ts) := if_neg h

@[simp] theorem takes_word (m : Mark) (cs : List Char) (ts : List Token) :
    takes m (.word cs :: ts) = some (false, .word cs :: ts) := rfl

@[simp] theorem word_word (x : String) (ts : List Token) :
    word (.word x.toList :: ts) = some (x, ts) := by
  rw [word, String.ofList_toList]

@[simp] theorem expectWord_word (w : String) (ts : List Token) :
    expectWord w (.word w.toList :: ts) = some ((), ts) := if_pos rfl

theorem takesWord_other {w x : String} (h : x ≠ w) (ts : List Token) :
    takesWord w (.word x.toList :: ts) = some (false, .word x.toList :: ts) :=
  if_neg (mt String.toList_inj.mp h)

theorem listed_comma {item : TokenReader α} {a : α} {as : List α} {turns : Nat}
    {ts us rest : List Token} (h : item ts = some (a, .mark .comma :: us))
    (hs : listed item turns us = some (as, rest)) :
    listed item (turns + 1) ts = some (a :: as, rest) := by
  simp [listed, h, hs]

theorem listed_last {item : TokenReader α} {a : α} {ts rest : List Token}
    (h : item ts = some (a, .mark .closeParen :: rest)) (turns : Nat) :
    listed item (turns + 1) ts = some ([a], rest) := by
  simp [listed, h, takes_other]

/-- What is read from all tokens. -/
def whole (r : TokenReader α) (ts : List Token) : Option α :=
  match r ts with
  | some (a, []) => some a
  | _ => none

theorem whole_of_run {r : TokenReader α} {ts : List Token} {a : α} (h : r ts = some (a, [])) :
    whole r ts = some a := by
  rw [whole, h]

end TokenReader

open TokenReader

/-! ### Reading phrases -/

/-- The number that a word is, and whether it is marked as unsigned. -/
def number? (cs : List Char) : Option (Nat × Bool) :=
  if cs.all Char.isDigit then some (Nat.ofDigitChars 10 cs 0, false)
  else (unsigned? cs).map (·, true)

/-- Whether a word is the name of a type. -/
def isType (cs : List Char) : Bool :=
  ["int".toList, "float".toList, "double".toList, "bool".toList].contains cs
    || "_t".toList.isSuffixOf cs

namespace Phrase

/-- What begins with a name. -/
def ofName (whole : TokenReader Phrase) (x : String) : TokenReader Phrase := do
  if ← takes .openParen then
    let argument ← whole
    expect .closeParen
    return .call x argument
  if ← takes .openBracket then
    let index ← whole
    expect .closeBracket
    return .item (.name x) index
  if ← takes .arrow then return .member (.name x) (← word)
  return .name x

section Names

variable {x y : String} {whole : TokenReader Phrase} {ts rest : List Token} {e : Phrase}

theorem ofName_call (h : whole ts = some (e, .mark .closeParen :: rest)) :
    ofName whole x (.mark .openParen :: ts) = some (.call x e, rest) := by
  simp [ofName, h]

theorem ofName_item (h : whole ts = some (e, .mark .closeBracket :: rest)) :
    ofName whole x (.mark .openBracket :: ts) = some (.item (.name x) e, rest) := by
  simp [ofName, takes_other, h]

theorem ofName_member :
    ofName whole x (.mark .arrow :: .word y.toList :: ts) = some (.member (.name x) y, ts) := by
  simp [ofName, takes_other]

theorem ofName_name {m : Mark} (hcall : m ≠ .openParen) (hitem : m ≠ .openBracket)
    (hmember : m ≠ .arrow) :
    ofName whole x (.mark m :: ts) = some (.name x, .mark m :: ts) := by
  simp [ofName, takes_other, hcall, hitem, hmember]

end Names

/-- What begins with a word. -/
def ofWord (whole : TokenReader Phrase) (cs : List Char) : TokenReader Phrase :=
  if cs.head?.any Char.isDigit then fun ts =>
    (number? cs).map fun (n, unsigned) => (.number n unsigned, ts)
  else if cs = "sizeof".toList then .sizeOf <$> word
  else ofName whole (String.ofList cs)

/-- An operand, given how the operands and the phrases inside of it are read. -/
def operand (inner whole : TokenReader Phrase) : TokenReader Phrase
  | .word cs :: ts => ofWord whole cs ts
  | .mark .ampersand :: ts => (.address <$> inner) ts
  | .mark .minus :: ts => (.negate <$> inner) ts
  | .mark .openParen :: .word cs :: ts =>
    if isType cs then (do
      expect .closeParen
      return .cast (String.ofList cs) (← inner) : TokenReader Phrase) ts
    else (whole <* expect .closeParen) (.word cs :: ts)
  | .mark .openParen :: ts => (whole <* expect .closeParen) ts
  | _ => none

/-- The operators, those last that bind most. -/
def operators : List (List (Mark × Operator)) := [
  [(.bar, .or)],
  [(.unequal, .unequal)],
  [(.less, .less)],
  [(.shiftLeft, .shiftLeft), (.shiftRight, .shiftRight)],
  [(.plus, .add)]]

/-- More operands behind one, with operators that bind alike. -/
def more (level : List (Mark × Operator)) (next : TokenReader Phrase) :
    Nat → Phrase → TokenReader Phrase
  | turns + 1, a, .mark m :: ts =>
    match level.lookup m with
    | some operator => do
      let (b, ts) ← next ts
      more level next turns (.binary operator a b) ts
    | none => some (a, .mark m :: ts)
  | _, a, ts => some (a, ts)

/-- An operand with an operator before it. -/
theorem more_operator {level : List (Mark × Operator)} {m : Mark} {operator : Operator}
    (h : level.lookup m = some operator) (next : TokenReader Phrase) (turns : Nat) (a : Phrase)
    (ts : List Token) :
    more level next (turns + 1) a (.mark m :: ts)
      = (next ts).bind fun p => more level next turns (.binary operator a p.1) p.2 := by
  rw [more, h]
  rfl

/-- Operands with operators between them. -/
def operation (next : TokenReader Phrase) : List (List (Mark × Operator)) → TokenReader Phrase
  | [] => next
  | level :: levels => fun ts => do
    let (a, ts) ← operation next levels ts
    more level (operation next levels) ts.length a ts

theorem operation_cons (next : TokenReader Phrase) (level : List (Mark × Operator))
    (levels : List (List (Mark × Operator))) (ts : List Token) :
    operation next (level :: levels) ts
      = (operation next levels ts).bind fun p =>
        more level (operation next levels) p.2.length p.1 p.2 := rfl

/-- An operation, or a choice between two phrases. -/
def choice (next whole : TokenReader Phrase) : TokenReader Phrase := do
  let condition ← operation next operators
  if ← takes .question then
    let a ← whole
    expect .colon
    return .conditional condition a (← whole)
  return condition

/-- An operand and a phrase, with so much inside of each other. -/
def readers : Nat → TokenReader Phrase × TokenReader Phrase
  | 0 => (failure, failure)
  | depth + 1 =>
    (operand (readers depth).1 (readers depth).2,
      choice (operand (readers depth).1 (readers depth).2) (readers depth).2)

/-- Reads an operand; there are not more things inside of each other than tokens. -/
def readOperand : TokenReader Phrase := fun ts => (readers ts.length).1 ts

/-- Reads a phrase. -/
def read : TokenReader Phrase := fun ts => (readers ts.length).2 ts

end Phrase

/-! ### Reading functions -/

namespace Command

/-- What returns a value. -/
def readGive : TokenReader Phrase := do
  let value ← Phrase.read
  expect .semicolon
  return value

/-- What returns a value under a condition. -/
def readGiveIf : TokenReader Command := do
  expect .openParen
  let condition ← Phrase.read
  expect .closeParen
  expect .openBrace
  expectWord "return"
  let value ← readGive
  expect .closeBrace
  return .giveIf condition value

/-- What begins with the name of a type or of a function. -/
def readNamed (x : String) : TokenReader Command := do
  if ← takes .openParen then
    let arguments ← listed Phrase.read (← get).length
    expect .semicolon
    return .call x arguments
  let name ← word
  let value ← if ← takes .equals then some <$> Phrase.read else pure none
  expect .semicolon
  return .declare x name value

/-- What begins with what is assigned to. -/
def readAssign : TokenReader Command := do
  let target ← Phrase.readOperand
  expect .equals
  let value ← Phrase.read
  expect .semicolon
  return .assign target value

/-- Reads a statement; what it begins with tells which one it is. -/
def read : TokenReader Command
  | .word cs :: ts =>
    if cs = "return".toList then (.give <$> readGive) ts
    else if cs = "if".toList then readGiveIf ts
    else
      match ts with
      | .word _ :: _ | .mark .openParen :: _ => readNamed (String.ofList cs) ts
      | _ => readAssign (.word cs :: ts)
  | ts => readAssign ts

end Command

/-- Reads a parameter. -/
def Parameter.read : TokenReader Parameter := do
  let _ ← takesWord "const"
  let type ← word
  let isPointer ← takes .star
  return ⟨type, isPointer, ← word⟩

/-- Reads what a function begins with. -/
def Signature.read : TokenReader Signature := do
  let result ← word
  let name ← word
  expect .openParen
  return ⟨result, name, ← listed Parameter.read (← get).length⟩

/-- Reads the body of a function, which ends with a brace and with nothing behind it. -/
def Function.readBody : TokenReader (List Command) := fun ts =>
  if ts.getLast? = some (.mark .closeBrace) then
    ((pieces 0 ts.dropLast).mapM (whole Command.read)).map (·, [])
  else none

/-- Reads a function. -/
def Function.read : TokenReader Function := do
  let _ ← takesWord "static"
  let _ ← takesWord "inline"
  let signature ← Signature.read
  expect .openBrace
  return ⟨signature, ← Function.readBody⟩

/-- The functions in a text, if it is nothing but functions. -/
def functions? (text : String) : Option (List Function) :=
  (pieces 0 (Token.ofText text)).mapM (whole Function.read)

/-! ### Texts of functions -/

/-- The number of open braces behind tokens that go on with a piece. -/
def within (depth : Nat) (ts : List Token) : Option Nat := ts.foldlM Token.goesOn depth

/-- Whether tokens are one piece. -/
def isPiece (ts : List Token) : Bool :=
  ts.getLast?.any fun t => (within 0 ts.dropLast).any fun depth => (t.goesOn depth).isNone

theorem within_append {depth inner : Nat} {ts us : List Token} (h : within depth ts = some inner) :
    within depth (ts ++ us) = within inner us := by
  unfold within at *
  rw [List.foldlM_append, h]
  rfl

theorem pieces_within {depth inner : Nat} {ts : List Token} {t : Token}
    (h : within depth ts = some inner) (ht : t.goesOn inner = none) (rest : List Token) :
    pieces depth (ts ++ t :: rest) = (ts ++ [t]) :: pieces 0 rest := by
  induction ts generalizing depth with
  | nil =>
      cases h
      rw [List.nil_append, pieces, ht]
      rfl
  | cons u ts ih =>
      obtain ⟨next, hnext, hrest⟩ := Option.bind_eq_some_iff.mp h
      rw [List.cons_append, pieces, hnext]
      show u.lead (pieces next (ts ++ t :: rest)) = _
      rw [ih hrest]
      rfl

theorem pieces_append {piece : List Token} (h : isPiece piece = true) (rest : List Token) :
    pieces 0 (piece ++ rest) = piece :: pieces 0 rest := by
  obtain ⟨t, ht, hwithin⟩ := (Option.any_eq_true _ _).mp h
  obtain ⟨depth, hdepth, hends⟩ := (Option.any_eq_true _ _).mp hwithin
  have hpieces := pieces_within hdepth (Option.isNone_iff_eq_none.mp hends) rest
  rw [List.append_cons, List.dropLast_append_getLast? t ht] at hpieces
  exact hpieces

theorem pieces_flatten {ps : List (List Token)} (h : ∀ p ∈ ps, isPiece p = true) :
    pieces 0 ps.flatten = ps := by
  induction ps with
  | nil => rfl
  | cons p ps ih =>
      rw [List.forall_mem_cons] at h
      rw [List.flatten_cons, pieces_append h.1, ih h.2]

theorem flatten_pieces (depth : Nat) (ts : List Token) : (pieces depth ts).flatten = ts := by
  induction ts generalizing depth with
  | nil => rfl
  | cons t ts ih =>
      rw [pieces]
      cases t.goesOn depth with
      | none => exact congrArg (t :: ·) (ih 0)
      | some inner =>
          have htail := ih inner
          show (t.lead (pieces inner ts)).flatten = t :: ts
          cases hpieces : pieces inner ts with
          | nil | cons piece others =>
              rw [hpieces] at htail
              exact congrArg (t :: ·) htail

/-- The characters of lines that are given as characters. -/
def charsOf (css : List (List Char)) : List Char := css.flatMap (· ++ ['\n'])

theorem toList_unlines_map (css : List (List Char)) :
    (Text.unlines (css.map String.ofList)).toList = charsOf css := by
  induction css with
  | nil => rfl
  | cons cs css ih =>
      rw [List.map_cons, Text.unlines_cons, String.toList_append, String.toList_append,
        String.toList_ofList, ih]
      rfl

theorem lines_eq_nil : ([] : List String) = ([] : List (List Char)).map String.ofList := rfl

theorem lines_eq_cons {cs : List Char} {css : List (List Char)} {lines : List String}
    (h : lines = css.map String.ofList) :
    String.ofList cs :: lines = (cs :: css).map String.ofList :=
  congrArg (String.ofList cs :: ·) h

/-- Lines that are the text of functions. -/
def Defines (lines : List String) (functions : List Function) : Prop :=
  ∃ ps : List (List Token), Spells (Text.unlines lines).toList ps.flatten Text.anyNext
    ∧ (∀ p ∈ ps, isPiece p = true) ∧ ps.mapM (whole Function.read) = some functions

namespace Defines

variable {lines others : List String} {functions further : List Function}

theorem append (h : Defines lines functions) (h' : Defines others further) :
    Defines (lines ++ others) (functions ++ further) := by
  obtain ⟨ps, hspells, hpieces, hread⟩ := h
  obtain ⟨qs, hspells', hpieces', hread'⟩ := h'
  refine ⟨ps ++ qs, ?_, List.forall_mem_append.mpr ⟨hpieces, hpieces'⟩, ?_⟩
  · rw [Text.unlines_append, String.toList_append, List.flatten_append]
    exact hspells.andThen hspells'
  · rw [List.mapM_append, hread, hread']
    rfl

/-- The text of one function. -/
theorem of_piece {function : Function} {ts : List Token}
    (h : Spells (Text.unlines lines).toList ts Text.anyNext) (hpiece : isPiece ts = true)
    (hread : whole Function.read ts = some function) : Defines lines [function] := by
  refine ⟨[ts], ?_, List.forall_mem_singleton.mpr hpiece, ?_⟩
  · rwa [List.flatten_singleton]
  · rw [List.mapM_cons, hread]
    rfl

/-- An empty line says nothing. -/
theorem blank (h : Defines lines functions) : Defines ("" :: lines) functions := by
  obtain ⟨ps, hspells, hpieces, hread⟩ := h
  exact ⟨ps, Spells.empty.line hspells, hpieces, hread⟩

/-- The characters of lines that are given are looked through. -/
theorem of_chars {css : List (List Char)} (hlines : lines = css.map String.ofList)
    (hcloses : Token.closes .code (charsOf css) = true)
    (hpieces : (pieces 0 (Token.scan .code (charsOf css))).all isPiece = true)
    (hread : (pieces 0 (Token.scan .code (charsOf css))).mapM (whole Function.read)
      = some functions) : Defines lines functions := by
  refine ⟨_, ?_, List.all_eq_true.mp hpieces, hread⟩
  rw [hlines, toList_unlines_map, flatten_pieces]
  exact .of_closes hcloses

/-- What was read is read off the text. -/
theorem functions?_unlines (h : Defines lines functions) :
    functions? (Text.unlines lines) = some functions := by
  obtain ⟨ps, hspells, hpieces, hread⟩ := h
  rw [functions?, hspells.ofText, pieces_flatten hpieces, hread]

end Defines

end DeviceGen.C
