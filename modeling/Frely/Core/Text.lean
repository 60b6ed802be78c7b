import Mathlib.Algebra.Ring.Int.Defs
import Mathlib.Algebra.Ring.Nat
import Mathlib.Tactic.Common

/-!
# Text helpers

The string operations of the source that the checks on stored and requested words use.
-/

namespace Frely

/-- The white space and line terminators that `trim` removes. -/
def isTrimmed (c : Char) : Bool :=
  c ∈ ['\t', '\n', '\u000b', '\u000c', '\r', ' ', '\u00a0', '\u1680', '\u2028', '\u2029', '\u202f',
    '\u205f', '\u3000', '\ufeff'] || (0x2000 ≤ c.toNat && c.toNat ≤ 0x200a)

/-- `trim` on the characters of a string. -/
def trimmed (text : List Char) : List Char :=
  ((text.dropWhile isTrimmed).reverse.dropWhile isTrimmed).reverse

/-- `String(value).trim().toLowerCase().replaceAll("-", "_")`.  The results are only compared with
lower-case ASCII words, to whose letters no other character is lowered. -/
def normalizedWord (value : String) : String :=
  String.ofList ((trimmed value.toList).map fun c => if c = '-' then '_' else c.toLower)

/-- `/^[A-Za-z0-9][A-Za-z0-9_.-]{0,191}$/`. -/
def isSafeRequestId (value : String) : Bool :=
  match value.toList with
  | [] => false
  | c :: rest => c.isAlphanum && decide (rest.length ≤ 191) &&
    rest.all fun c => c.isAlphanum || c = '_' || c = '.' || c = '-'

/-- The length of a string in UTF-16 code units. -/
def utf16Length (text : String) : Nat :=
  (text.toList.map fun c => if 0xffff < c.toNat then 2 else 1).sum

end Frely
