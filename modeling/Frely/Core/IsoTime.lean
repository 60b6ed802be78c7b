import Frely.Core.Values

/-!
# Times with ordered texts

The texts of times are ordered as the times are while their years have four digits.  The text of a
later time sorts before them all, so that no period ends there.
-/

namespace Frely

/-- A time of the years 0 to 9999. -/
structure IsoTime where
  ms : Int
  first_le : -62167219200000 ≤ ms
  le_last : ms ≤ 253402300799999
deriving DecidableEq

namespace IsoTime

def ofMs? (ms : Int) : Option IsoTime :=
  if h : -62167219200000 ≤ ms ∧ ms ≤ 253402300799999 then some ⟨ms, h.1, h.2⟩ else none

theorem ext_ms {time other : IsoTime} (h : time.ms = other.ms) : time = other := by
  cases time
  cases other
  cases h
  rfl

theorem ofMs?_eq_some {ms : Int} {time : IsoTime} (h : ofMs? ms = some time) :
    time.ms = ms := by
  unfold ofMs? at h
  split at h
  · cases h
    rfl
  · cases h

end IsoTime

/-- A half-open period; without an end it lasts forever. -/
structure Span where
  effectiveStart : IsoTime
  effectiveEnd : Option IsoTime
  ordered : ∀ last ∈ effectiveEnd, effectiveStart.ms < last.ms
deriving DecidableEq

def Span.Contains (span : Span) (ms : Int) : Prop :=
  span.effectiveStart.ms ≤ ms ∧ ∀ last ∈ span.effectiveEnd, ms < last.ms

end Frely
