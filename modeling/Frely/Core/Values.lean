import Mathlib.Tactic.Common

/-!
# Values of the host language

Points in time are milliseconds: the source compares ISO 8601 texts of millisecond resolution,
whose order is the order of the times they name.
-/

namespace Frely

/-- A point in time, in milliseconds. -/
abbrev Timestamp := Int

/-- `Number.isSafeInteger` on an integer. -/
def IsSafeInteger (value : Int) : Prop := -9007199254740991 ≤ value ∧ value ≤ 9007199254740991

instance (value : Int) : Decidable (IsSafeInteger value) :=
  inferInstanceAs (Decidable (-9007199254740991 ≤ value ∧ value ≤ 9007199254740991))

/-- An optional text as a condition reads it: the empty text counts as absent. -/
def truthy (value : Option String) : Option String := value.filter (· ≠ "")

end Frely
