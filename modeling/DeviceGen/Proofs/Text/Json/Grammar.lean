/-
The grammar of JSON.

A text is a JSON document if it is made up as the grammar says, and the document is what it says.
Blanks may stand in front of a document and behind each of its pieces.  A document may hold
others; how deep they are nested makes no difference, but it is counted here, because facts about
documents are proved by induction on it (`IsNested`).

Numbers are kept as they are written, as an integer and a power of ten; characters that are
written by their codes have to be characters, so a half of a surrogate pair cannot stand alone.
-/
import DeviceGen.Proofs.Text.Reader

namespace DeviceGen.Text

/-- What a JSON text says. -/
inductive Document where
  | null
  | boolean (value : Bool)
  /-- The number `mantissa * 10 ^ exponent`. -/
  | number (mantissa exponent : Int)
  | text (value : String)
  | array (items : List Document)
  | object (members : List (String × Document))

namespace Json

variable {α : Type}

/-! ### Blanks -/

/-- A character that may stand between the pieces of a document. -/
def isBlank (c : Char) : Bool := c = ' ' || c = '\t' || c = '\n' || c = '\r'

/-- Blanks, or nothing. -/
def AreBlank (cs : List Char) : Prop := ∀ c ∈ cs, isBlank c = true

/-- Something with blanks behind it. -/
inductive IsPiece (g : Grammar α) : Grammar α
  | mk {a : α} {cs blanks : List Char} (written : g a cs) (blank : AreBlank blanks) :
      IsPiece g a (cs ++ blanks)

/-! ### Numbers -/

/-- At least one decimal digit. -/
def AreDigits (ds : List Char) : Prop := ds ≠ [] ∧ ∀ d ∈ ds, d.isDigit = true

/-- The number that decimal digits say. -/
def value (ds : List Char) : Int := Nat.ofDigitChars 10 ds 0

/-- A sign, which says whether a number is negative. -/
inductive IsSign : Grammar Bool
  | none : IsSign false []
  | minus : IsSign true ['-']

/-- The digits in front of the point, without needless zeros. -/
structure IsWhole (ds cs : List Char) : Prop where
  same : cs = ds
  digits : AreDigits ds
  zero : ds.head? = some '0' → ds = ['0']

/-- The digits behind the point, if there is one. -/
inductive IsFraction : Grammar (List Char)
  | none : IsFraction [] []
  | some {ds : List Char} (digits : AreDigits ds) : IsFraction ds ('.' :: ds)

/-- The letter in front of a power of ten. -/
def isPowerLetter (c : Char) : Bool := c = 'e' || c = 'E'

/-- The sign of a power of ten, which may be there for nothing. -/
inductive IsPowerSign : Grammar Bool
  | none : IsPowerSign false []
  | plus : IsPowerSign false ['+']
  | minus : IsPowerSign true ['-']

/-- A number with its sign. -/
def signed (negative : Bool) (n : Int) : Int := if negative then -n else n

/-- A power of ten, if there is one. -/
inductive IsPower : Grammar Int
  | none : IsPower 0 []
  | some {letter : Char} {negative : Bool} {sign ds : List Char}
      (isLetter : isPowerLetter letter = true) (isSign : IsPowerSign negative sign)
      (digits : AreDigits ds) :
      IsPower (signed negative (value ds)) (letter :: (sign ++ ds))

/-- A number: its digits, and by how many places the point is moved. -/
inductive IsNumber : Grammar (Int × Int)
  | mk {negative : Bool} {power : Int} {whole fraction s w f p : List Char}
      (isSign : IsSign negative s) (isWhole : IsWhole whole w) (isFraction : IsFraction fraction f)
      (isPower : IsPower power p) :
      IsNumber (signed negative (value (whole ++ fraction)), power - fraction.length)
        (s ++ (w ++ (f ++ p)))

/-! ### Texts -/

/-- The letters that stand for characters behind a backslash. -/
def escapes : List (Char × Char) :=
  [('"', '"'), ('\\', '\\'), ('/', '/'), ('b', '\x08'), ('f', '\x0c'), ('n', '\n'), ('r', '\r'),
    ('t', '\t')]

/-- The number that a hexadecimal digit says. -/
def hexValue? (c : Char) : Option Nat :=
  if c.isDigit then some (c.toNat - '0'.toNat)
  else if 'a' ≤ c ∧ c ≤ 'f' then some (c.toNat - 'a'.toNat + 10)
  else if 'A' ≤ c ∧ c ≤ 'F' then some (c.toNat - 'A'.toNat + 10)
  else none

/-- Four hexadecimal digits behind an `u`. -/
inductive IsCode : Grammar Nat
  | mk {a b c d : Char} {i j k l : Nat} (ha : hexValue? a = some i) (hb : hexValue? b = some j)
      (hc : hexValue? c = some k) (hd : hexValue? d = some l) :
      IsCode (((i * 16 + j) * 16 + k) * 16 + l) ['u', a, b, c, d]

/-- The first half of a surrogate pair. -/
def isHigh (n : Nat) : Bool := 0xd800 ≤ n && n < 0xdc00

/-- The second half of a surrogate pair. -/
def isLow (n : Nat) : Bool := 0xdc00 ≤ n && n < 0xe000

/-- The character that both halves of a surrogate pair say. -/
def pairChar (high low : Nat) : Char :=
  Char.ofNat (0x10000 + (high - 0xd800) * 0x400 + (low - 0xdc00))

/-- A character by its code, or by the codes of a surrogate pair. -/
inductive IsCoded : Grammar Char
  | one {n : Nat} {cs : List Char} (isCode : IsCode n cs) (high : isHigh n = false)
      (low : isLow n = false) : IsCoded (Char.ofNat n) cs
  | pair {m n : Nat} {cs others : List Char} (first : IsCode m cs) (second : IsCode n others)
      (high : isHigh m = true) (low : isLow n = true) :
      IsCoded (pairChar m n) (cs ++ ('\\' :: others))

/-- A character that stands for itself between quotation marks. -/
def isPlain (c : Char) : Bool := 0x20 ≤ c.toNat && c ≠ '"' && c ≠ '\\'

/-- A character between quotation marks. -/
inductive IsChar : Grammar Char
  | plain {c : Char} (isPlain : isPlain c = true) : IsChar c [c]
  | escape {letter c : Char} (found : escapes.lookup letter = some c) : IsChar c ['\\', letter]
  | coded {c : Char} {cs : List Char} (isCoded : IsCoded c cs) : IsChar c ('\\' :: cs)

/-- Things one after the other, up to a mark. -/
inductive IsRow (g : Grammar α) (mark : Char) : Grammar (List α)
  | nil : IsRow g mark [] [mark]
  | cons {a : α} {as : List α} {cs others : List Char} (first : g a cs)
      (rest : IsRow g mark as others) : IsRow g mark (a :: as) (cs ++ others)

/-- A text between quotation marks. -/
inductive IsText : Grammar String
  | mk {cs body : List Char} (row : IsRow IsChar '"' cs body) :
      IsText (String.ofList cs) ('"' :: body)

/-! ### Arrays and objects -/

/-- Things with commas between them, and a bracket behind the last one. -/
inductive IsSeparated (g : Grammar α) (closing : Char) : Grammar (List α)
  | last {a : α} {cs : List Char} (piece : IsPiece g a cs) :
      IsSeparated g closing [a] (cs ++ [closing])
  | more {a : α} {as : List α} {cs blanks others : List Char} (piece : IsPiece g a cs)
      (blank : AreBlank blanks) (rest : IsSeparated g closing as others) :
      IsSeparated g closing (a :: as) (cs ++ (',' :: blanks ++ others))

/-- Any number of things between brackets. -/
inductive IsList (opening closing : Char) (g : Grammar α) : Grammar (List α)
  | empty {blanks : List Char} (blank : AreBlank blanks) :
      IsList opening closing g [] (opening :: blanks ++ [closing])
  | filled {as : List α} {blanks body : List Char} (blank : AreBlank blanks)
      (separated : IsSeparated g closing as body) :
      IsList opening closing g as (opening :: blanks ++ body)

/-- A key and what stands under it. -/
inductive IsMember (g : Grammar Document) : Grammar (String × Document)
  | mk {key : String} {d : Document} {k blanks v : List Char} (isKey : IsPiece IsText key k)
      (blank : AreBlank blanks) (isValue : g d v) :
      IsMember g (key, d) (k ++ (':' :: blanks ++ v))

/-! ### Documents -/

/-- A document, made up of documents that are written in some way. -/
inductive IsMade (g : Grammar Document) : Grammar Document
  | null : IsMade g .null ['n', 'u', 'l', 'l']
  | true : IsMade g (.boolean true) ['t', 'r', 'u', 'e']
  | false : IsMade g (.boolean false) ['f', 'a', 'l', 's', 'e']
  | number {mantissa exponent : Int} {cs : List Char}
      (isNumber : IsNumber (mantissa, exponent) cs) : IsMade g (.number mantissa exponent) cs
  | text {text : String} {cs : List Char} (isText : IsText text cs) : IsMade g (.text text) cs
  | array {items : List Document} {cs : List Char} (isList : IsList '[' ']' g items cs) :
      IsMade g (.array items) cs
  | object {members : List (String × Document)} {cs : List Char}
      (isList : IsList '\x7b' '\x7d' (IsMember g) members cs) : IsMade g (.object members) cs

/-- A document that is nested less deep than `depth`. -/
def IsNested : (depth : Nat) → Grammar Document
  | 0 => fun _ _ => False
  | depth + 1 => IsMade (IsNested depth)

/-- A document, nested in any way. -/
def IsValue (d : Document) (cs : List Char) : Prop := ∃ depth, IsNested depth d cs

/-- **A JSON text**: a document with blanks around it. -/
inductive IsDocument : Grammar Document
  | mk {d : Document} {blanks cs : List Char} (blank : AreBlank blanks)
      (piece : IsPiece IsValue d cs) : IsDocument d (blanks ++ cs)

end Json

end DeviceGen.Text
