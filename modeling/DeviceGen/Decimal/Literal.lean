/-
How a double is written in generated code.

The digits are the shortest that mean the double.  Numbers from 10⁻⁴ up to but not
including 10¹⁶ are written with a point and at least one digit on either side of it;
others have one digit before the point, no point if nothing follows it, and an exponent
without sign for the plus.
-/
import DeviceGen.Decimal.Shortest

namespace DeviceGen.Decimal

/-- The digits of a natural number. -/
def digitChars (n : Nat) : List Char := Nat.toDigits 10 n

/-- A number with a point inside or at the ends of its digits. -/
def positional (d : Decimal) : List Char :=
  let digits := digitChars d.digits
  let point := d.exponent + digits.length
  if 0 ≤ d.exponent then digits ++ List.replicate d.exponent.toNat '0' ++ ['.', '0']
  else if 0 < point then digits.take point.toNat ++ '.' :: digits.drop point.toNat
  else '0' :: '.' :: List.replicate (-point).toNat '0' ++ digits

/-- A point after the first of several digits. -/
def pointed : List Char → List Char
  | [] => []
  | [digit] => [digit]
  | digit :: rest => digit :: '.' :: rest

/-- A number with a single digit before its point, and an exponent. -/
def scientific (d : Decimal) : List Char :=
  let digits := digitChars d.digits
  let exponent := d.exponent + digits.length - 1
  pointed digits ++ 'e' :: (toString exponent).toList

/-- Whether a number is written without an exponent. -/
def isPositional (d : Decimal) : Bool :=
  let first := d.exponent + (digitChars d.digits).length - 1
  decide (-4 ≤ first) && decide (first < 16)

end DeviceGen.Decimal

namespace DeviceGen.Double

/-- A double as a literal. -/
def literal (d : Double) : String :=
  let sign := if d.isNegative then ['-'] else []
  match d.magnitude with
  | .notANumber => "NaN"
  | .infinite => String.ofList (sign ++ ['i', 'n', 'f'])
  | .finite 0 _ _ => String.ofList (sign ++ ['0', '.', '0'])
  | .finite mantissa exponent edge =>
    let decimal := (Decimal.Interval.around mantissa exponent edge).shortest
    String.ofList (sign ++ if decimal.isPositional then decimal.positional else decimal.scientific)

end DeviceGen.Double
