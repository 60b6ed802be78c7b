import Frely.Core.Text

/-!
# Numbers and their texts

`Number(text)` of the source, and the texts it writes numbers as.  The value of a text is exact;
`JsNumber.rounded` gives the number next to it.
-/

namespace Frely

/-- A number, with its value as a rational where it is finite. -/
inductive JsNumber where
  | finite (value : Rat)
  | infinite (negative : Bool)
  | nan
deriving DecidableEq

namespace JsNumber

def neg : JsNumber → JsNumber
  | finite value => finite (-value)
  | infinite negative => infinite !negative
  | nan => nan

/-- The number next to a value, where `round` says `none` for what is infinite. -/
def rounded (round : Rat → Option Rat) : JsNumber → JsNumber
  | finite value => match round value with
    | some rounded => .finite rounded
    | none => .infinite (decide (value < 0))
  | other => other

/-- The integer that a number is. -/
def integer? : JsNumber → Option Int
  | finite value => if value.den = 1 then some value.num else none
  | _ => none

end JsNumber

/-- The text without white space around it is empty. -/
def isBlank (text : String) : Bool := (trimmed text.toList).isEmpty

/-! ### Reading -/

/-- The value of decimal digits, of which there is at least one. -/
def decimalDigits (digits : List Char) : Option Nat :=
  if digits ≠ [] ∧ digits.all Char.isDigit then some (Nat.ofDigitChars 10 digits 0) else none

/-- The exponent that the rest of a decimal literal gives, zero if there is no rest. -/
def exponentOf : List Char → Option Int
  | [] => some 0
  | mark :: rest =>
    if mark = 'e' ∨ mark = 'E' then
      match rest with
      | '+' :: digits => (decimalDigits digits).map fun n => (n : Int)
      | '-' :: digits => (decimalDigits digits).map fun n => -(n : Int)
      | digits => (decimalDigits digits).map fun n => (n : Int)
    else none

/-- The digits after the decimal point of a text that starts with one, and what follows them. -/
def fractionOf : List Char → List Char × List Char
  | '.' :: rest => (rest.takeWhile Char.isDigit, rest.dropWhile Char.isDigit)
  | rest => ([], rest)

/-- A decimal literal without a sign. -/
def decimalLiteral (text : List Char) : JsNumber :=
  if text = "Infinity".toList then .infinite false
  else
    let whole := text.takeWhile Char.isDigit
    let (fraction, rest) := fractionOf (text.dropWhile Char.isDigit)
    if whole = [] ∧ fraction = [] then .nan
    else match exponentOf rest with
      | none => .nan
      | some exponent => .finite ((Nat.ofDigitChars 10 (whole ++ fraction) 0 : Nat) *
          (10 : Rat) ^ (exponent - fraction.length))

def digitValue (c : Char) : Option Nat :=
  if c.isDigit then some (c.toNat - 48)
  else if 'a' ≤ c ∧ c ≤ 'f' then some (c.toNat - 87)
  else if 'A' ≤ c ∧ c ≤ 'F' then some (c.toNat - 55)
  else none

/-- An integer literal after `0x`, `0o` or `0b`. -/
def integerLiteral (base : Nat) (digits : List Char) : JsNumber :=
  match digits.mapM fun c => (digitValue c).filter (· < base) with
  | some (first :: rest) =>
    .finite ((first :: rest).foldl (fun value digit => base * value + digit) 0 : Nat)
  | _ => .nan

/-- `Number(text)`, before it is rounded. -/
def number (text : String) : JsNumber :=
  match trimmed text.toList with
  | [] => .finite 0
  | '0' :: 'x' :: digits => integerLiteral 16 digits
  | '0' :: 'X' :: digits => integerLiteral 16 digits
  | '0' :: 'o' :: digits => integerLiteral 8 digits
  | '0' :: 'O' :: digits => integerLiteral 8 digits
  | '0' :: 'b' :: digits => integerLiteral 2 digits
  | '0' :: 'B' :: digits => integerLiteral 2 digits
  | '-' :: literal => (decimalLiteral literal).neg
  | '+' :: literal => decimalLiteral literal
  | literal => decimalLiteral literal

example : number " 12.50 " = .finite (25 / 2) ∧ number "1e3" = .finite 1000 ∧
    number "." = .nan ∧ number "0x1F" = .finite 31 := by
  decide +kernel

/-! ### Writing -/

/-- `value.toFixed(fractionDigits)`, for at least one digit: the nearest decimal, of two the one
further from zero. -/
def toFixed (value : Rat) (fractionDigits : Nat) : List Char :=
  let magnitude := if value < 0 then -value else value
  let scaled := (magnitude * 10 ^ fractionDigits + 1 / 2).floor.toNat
  let fraction := Nat.toDigits 10 (scaled % 10 ^ fractionDigits)
  (if value < 0 then ['-'] else []) ++ Nat.toDigits 10 (scaled / 10 ^ fractionDigits) ++
    '.' :: (List.replicate (fractionDigits - fraction.length) '0' ++ fraction)

/-- `text.replace(/0+$/g, "")`. -/
def withoutTrailingZeros (text : List Char) : List Char :=
  (text.reverse.dropWhile (· = '0')).reverse

/-- `text.replace(/\.$/, "")`. -/
def withoutTrailingPoint (text : List Char) : List Char :=
  if text.getLast? = some '.' then text.dropLast else text

end Frely
