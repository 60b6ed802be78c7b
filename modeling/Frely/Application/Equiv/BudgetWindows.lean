import Frely.Application.BudgetWindows

/-!
# Billed windows and shown windows

While a subscription lasts, every moment is in the window that is billed for it, the windows of two
moments are one or share no moment (`disjoint_or_eq_of_fixed`), and what is shown starts where the
billed window starts (`planBudgetWindow_of_contains`).  A fixed window is shown to its end; a
cumulative one is shown up to now (`budgetWindows_agree`).
-/

namespace Frely.Application

open Frely.Postgres Billing

variable {span : Span} {at' : IsoTime}

/-! ### Dates -/

theorem dated_of_isDate {time : Timestamp} (h : IsDate time) : dated time = some time := if_pos h

theorem isDate_ms (time : IsoTime) : IsDate time.ms := by
  have hfirst := time.first_le
  have hlast := time.le_last
  constructor
  · show -8640000000000000 ≤ time.ms
    omega
  · show time.ms ≤ 8640000000000000
    omega

/-! ### Fixed windows -/

/-- The number of the window that a moment falls in. -/
def windowIndex (start size moment : Int) : Int := max 0 ((moment - start) / size)

/-- The window with this index, counted from the start. -/
def windowAt (start size index : Int) : BudgetWindow :=
  ⟨start + index * size, start + (index + 1) * size⟩

theorem windowIndex_of_le {start size moment : Int} (hsize : 0 < size) (h : start ≤ moment) :
    windowIndex start size moment = (moment - start) / size := by
  have hnonneg : 0 ≤ (moment - start) / size :=
    Int.ediv_nonneg (by omega) (Int.le_of_lt hsize)
  exact Int.max_eq_right hnonneg

theorem contains_windowAt {start size moment : Int} (hsize : 0 < size) (h : start ≤ moment) :
    (windowAt start size (windowIndex start size moment)).contains moment := by
  rw [windowIndex_of_le hsize h]
  have hlower : (moment - start) / size * size ≤ moment - start :=
    Int.ediv_mul_le _ (Int.ne_of_gt hsize)
  have hupper : moment - start < ((moment - start) / size + 1) * size :=
    Int.lt_ediv_add_one_mul_self _ hsize
  constructor
  · show start + (moment - start) / size * size ≤ moment
    omega
  · show moment < start + ((moment - start) / size + 1) * size
    omega

/-- Windows of different numbers share no moment. -/
theorem not_contains_both {start size : Int} (hsize : 0 < size) {index other : Int}
    (h : index < other) (moment : Int) :
    ¬((windowAt start size index).contains moment ∧
      (windowAt start size other).contains moment) := by
  rintro ⟨⟨-, hbefore⟩, hafter, -⟩
  have hmul : (index + 1) * size ≤ other * size :=
    Int.mul_le_mul_of_nonneg_right (by omega) (Int.le_of_lt hsize)
  have hlt : moment < start + (index + 1) * size := hbefore
  have hle : start + other * size ≤ moment := hafter
  clear hbefore hafter
  omega

theorem disjoint_or_eq_of_fixed {start size : Int} (hsize : 0 < size) (index other : Int) :
    windowAt start size index = windowAt start size other ∨
      ∀ moment, ¬((windowAt start size index).contains moment ∧
        (windowAt start size other).contains moment) := by
  rcases Int.lt_trichotomy index other with hlt | heq | hgt
  · exact .inr (not_contains_both hsize hlt)
  · exact .inl (congrArg _ heq)
  · refine .inr fun moment hboth => ?_
    exact not_contains_both hsize hgt moment hboth.symm

/-- A window of a stored length that has a moment of the years 0 to 9999 in it, and starts in these
years, has dates. -/
theorem isDate_windowAt {start size : Int} (hstart : -62167219200000 ≤ start) (hsize : 0 < size)
    (hle : size ≤ 2147483647000) (h : start ≤ at'.ms) :
    IsDate (windowAt start size (windowIndex start size at'.ms)).startAt ∧
      IsDate (windowAt start size (windowIndex start size at'.ms)).endAt := by
  have hindex : 0 ≤ windowIndex start size at'.ms := Int.le_max_left _ _
  have hmul : 0 ≤ windowIndex start size at'.ms * size := Int.mul_nonneg hindex (Int.le_of_lt hsize)
  have hlower : start + windowIndex start size at'.ms * size ≤ at'.ms :=
    (contains_windowAt hsize h).1
  have hlast := at'.le_last
  have hnext : (windowIndex start size at'.ms + 1) * size =
      windowIndex start size at'.ms * size + size := by
    rw [Int.add_mul, Int.one_mul]
  have hdates : ∀ time : Int, -62167219200000 ≤ time → time ≤ 255549884446999 → IsDate time := by
    intro time hfirst hend
    constructor
    · show -8640000000000000 ≤ time
      omega
    · show time ≤ 8640000000000000
      omega
  constructor
  · apply hdates
    · show -62167219200000 ≤ start + windowIndex start size at'.ms * size
      omega
    · show start + windowIndex start size at'.ms * size ≤ 255549884446999
      omega
  · apply hdates
    · show -62167219200000 ≤ start + (windowIndex start size at'.ms + 1) * size
      omega
    · show start + (windowIndex start size at'.ms + 1) * size ≤ 255549884446999
      omega

/-! ### What is billed -/

/-- The end of a span, in milliseconds. -/
def endMs (span : Span) : Option Timestamp := span.effectiveEnd.map IsoTime.ms

/-- The window that billing counts in. -/
def billedWindow (policy : StoredWindow) (span : Span) (moment : Timestamp) :
    Except RelayError BudgetWindow :=
  fixedBudgetWindow span.effectiveStart.ms (endMs span) policy.windowType policy.windowSeconds
    moment

/-- The window that the user is shown. -/
def shownWindow (policy : StoredWindow) (span : Span) (moment : Timestamp) :
    Option PlanBudgetWindow :=
  planBudgetWindow policy.windowType policy.windowSeconds span.effectiveStart.ms (endMs span) moment

/-- A stored window is cumulative, or fixed with a length of its own. -/
theorem StoredWindow.cases (policy : StoredWindow) :
    policy.windowType = .cumulative ∨ policy.windowType = .fixed ∧
      ∃ seconds, policy.windowSeconds = some seconds ∧ 0 < seconds ∧ seconds ≤ 2147483647 := by
  obtain ⟨windowType, windowSeconds, hchecked⟩ := policy
  cases windowType with
  | cumulative => exact .inl rfl
  | fixed => exact .inr ⟨rfl, hchecked⟩
  | rolling => exact hchecked.elim

theorem fixedBudgetWindow_fixed {start moment : Timestamp} {last : Option Timestamp} {seconds : Int}
    (h : 0 < seconds) :
    fixedBudgetWindow start last .fixed (some seconds) moment =
      .ok (windowAt start (seconds * 1000) (windowIndex start (seconds * 1000) moment)) := by
  have hfilter : (some seconds).filter (0 < ·) = some seconds := by simp [h]
  rw [fixedBudgetWindow, hfilter]
  rfl

theorem min_getD_endMs (h : span.Contains at'.ms) :
    min at'.ms ((endMs span).getD at'.ms) = at'.ms := by
  cases hlast : span.effectiveEnd with
  | none => simp [endMs, hlast]
  | some last =>
    have hlt := h.2 last hlast
    simp only [endMs, hlast, Option.map_some, Option.getD_some]
    omega

theorem all_endMs (h : span.Contains at'.ms) : (endMs span).all (at'.ms < ·) = true := by
  cases hlast : span.effectiveEnd with
  | none => simp [endMs, hlast]
  | some last =>
    have hlt := h.2 last hlast
    simp [endMs, hlast, hlt]

/-- What is shown at a moment of the subscription. -/
theorem planBudgetWindow_of_contains (policy : StoredWindow) (h : span.Contains at'.ms)
    {window : BudgetWindow} (hwindow : billedWindow policy span at'.ms = .ok window)
    (hstart : IsDate window.startAt) (hend : IsDate window.endAt) :
    shownWindow policy span at'.ms = some (if policy.windowType = .fixed then
      ⟨window.startAt, at'.ms, window.endAt, some window.endAt⟩
      else ⟨window.startAt, at'.ms, at'.ms, none⟩) := by
  have hmin := min_getD_endMs h
  have hall := all_endMs h
  have hdated := dated_of_isDate (isDate_ms at')
  rcases policy.cases with hcumulative | ⟨hfixed, seconds, hseconds, hpos, -⟩
  · have hbilled : window = ⟨span.effectiveStart.ms, (endMs span).getD endOfTime⟩ := by
      rw [billedWindow, hcumulative] at hwindow
      exact (Except.ok.inj hwindow).symm
    subst hbilled
    simp only [shownWindow, hcumulative, planBudgetWindow, hmin, hdated]
    rfl
  · have hbilled := hwindow
    rw [billedWindow, hfixed, hseconds, fixedBudgetWindow_fixed hpos] at hbilled
    have hbilled := (Except.ok.inj hbilled).symm
    have hsize : seconds * 1000 ≠ 0 := by omega
    have hindex : max 0 ((at'.ms - span.effectiveStart.ms).fdiv (seconds * 1000)) =
        windowIndex span.effectiveStart.ms (seconds * 1000) at'.ms := by
      rw [windowIndex, Int.fdiv_eq_ediv_of_nonneg _ (by omega)]
    have hreset : ∀ index : Int, span.effectiveStart.ms + index * (seconds * 1000) + seconds *
      1000 =
        (windowAt span.effectiveStart.ms (seconds * 1000) index).endAt := by
      intro index
      simp only [windowAt, Int.add_mul, Int.one_mul, Int.add_assoc]
    subst hbilled
    simp only [shownWindow, hfixed, hseconds, planBudgetWindow, hmin, hall, hdated, hindex, hreset,
      Option.getD_some, if_neg hsize, ↓reduceIte]
    rw [show span.effectiveStart.ms +
        windowIndex span.effectiveStart.ms (seconds * 1000) at'.ms * (seconds * 1000) =
      (windowAt span.effectiveStart.ms (seconds * 1000)
        (windowIndex span.effectiveStart.ms (seconds * 1000) at'.ms)).startAt from rfl,
      dated_of_isDate hstart, dated_of_isDate hend]
    rfl

/-! ### Billed and shown -/

/-- The cumulative window of a subscription without an end is over with the years of four digits. -/
def Reaches (policy : StoredWindow) (span : Span) (moment : Timestamp) : Prop :=
  policy.windowType = .cumulative → span.effectiveEnd = none → moment < endOfTime

/-- The billed window of a moment of the subscription. -/
theorem billedWindow_of_contains (policy : StoredWindow) (h : span.Contains at'.ms)
    (hreaches : Reaches policy span at'.ms) :
    ∃ window, billedWindow policy span at'.ms = .ok window ∧ window.contains at'.ms ∧
      IsDate window.startAt ∧ IsDate window.endAt := by
  rcases policy.cases with hcumulative | ⟨hfixed, seconds, hseconds, hpos, hle⟩
  · refine ⟨⟨span.effectiveStart.ms, (endMs span).getD endOfTime⟩, ?_, ⟨h.1, ?_⟩,
      isDate_ms _, ?_⟩
    · rw [billedWindow, hcumulative]
      rfl
    · cases hlast : span.effectiveEnd with
      | none => simpa [endMs, hlast] using hreaches hcumulative hlast
      | some last => simpa [endMs, hlast] using h.2 last hlast
    · cases hlast : span.effectiveEnd with
      | none => simp [endMs, hlast, IsDate, endOfTime, Date.maximumTime]
      | some last => simpa [endMs, hlast] using isDate_ms last
  · have hsize : 0 < seconds * 1000 := by omega
    refine ⟨_, ?_, contains_windowAt hsize h.1,
      isDate_windowAt span.effectiveStart.first_le hsize (by omega) h.1⟩
    rw [billedWindow, hfixed, hseconds, fixedBudgetWindow_fixed hpos]

theorem disjoint_or_eq (policy : StoredWindow) {moment other : Timestamp}
    {window otherWindow : BudgetWindow} (h : billedWindow policy span moment = .ok window)
    (hother : billedWindow policy span other = .ok otherWindow) :
    window = otherWindow ∨
      ∀ shared, ¬(window.contains shared ∧ otherWindow.contains shared) := by
  rcases policy.cases with hcumulative | ⟨hfixed, seconds, hseconds, hpos, -⟩
  · rw [billedWindow, hcumulative] at h hother
    exact .inl ((Except.ok.inj h).symm.trans (Except.ok.inj hother))
  · rw [billedWindow, hfixed, hseconds, fixedBudgetWindow_fixed hpos] at h hother
    rw [← Except.ok.inj h, ← Except.ok.inj hother]
    exact disjoint_or_eq_of_fixed (by omega) _ _

/-- **Billed windows partition the subscription, and are shown from their start.** -/
theorem budgetWindows_agree (policy : StoredWindow) (span : Span) (at' : IsoTime)
    (h : span.Contains at'.ms) (hreaches : Reaches policy span at'.ms) :
    ∃ window shown, billedWindow policy span at'.ms = .ok window ∧
      shownWindow policy span at'.ms = some shown ∧
      window.contains at'.ms ∧ IsDate window.startAt ∧ IsDate window.endAt ∧
      shown.startAt = window.startAt ∧
      (policy.windowType = .fixed → shown.periodEnd = window.endAt) ∧
      (policy.windowType = .cumulative → shown.periodEnd = at'.ms) ∧
      ∀ other otherWindow, billedWindow policy span other = .ok otherWindow →
        window = otherWindow ∨
          ∀ shared, ¬(window.contains shared ∧ otherWindow.contains shared) := by
  obtain ⟨window, hwindow, hcontains, hstart, hend⟩ := billedWindow_of_contains policy h hreaches
  refine ⟨window, _, hwindow, planBudgetWindow_of_contains policy h hwindow hstart hend,
    hcontains, hstart, hend, ?_, ?_, ?_, ?_⟩
  · split <;> rfl
  · intro hfixed
    rw [if_pos hfixed]
  · intro hcumulative
    rw [hcumulative]
    rfl
  · intro other otherWindow hother
    exact disjoint_or_eq policy hwindow hother

/-! ### A cumulative window, and a weekly one that outlasts its subscription -/

/-- From the start of 2026 to the start of 2027. -/
def yearSpan : Span where
  effectiveStart := ⟨1767225600000, by decide, by decide⟩
  effectiveEnd := some ⟨1798761600000, by decide, by decide⟩
  ordered := by
    rintro last ⟨⟩
    decide

def cumulativeLimit : StoredWindow := ⟨.cumulative, none, rfl⟩

def weeklyLimit : StoredWindow := ⟨.fixed, some 604800, 604800, rfl, by decide, by decide⟩

/-- The first of June 2026. -/
def june : IsoTime := ⟨1780272000000, by decide, by decide⟩

/-- The noon of the last day of 2026. -/
def newYearsEve : IsoTime := ⟨1798718400000, by decide, by decide⟩

theorem contains_yearSpan {at' : IsoTime} (hstart : 1767225600000 ≤ at'.ms)
    (hend : at'.ms < 1798761600000) : yearSpan.Contains at'.ms := by
  refine ⟨hstart, ?_⟩
  rintro last ⟨⟩
  exact hend

theorem budgetWindows_agree_june :
    (∃ window shown, billedWindow cumulativeLimit yearSpan june.ms = .ok window ∧
      shownWindow cumulativeLimit yearSpan june.ms = some shown ∧
      window.contains june.ms ∧ shown.startAt = window.startAt ∧ shown.periodEnd = june.ms) ∧
    ∃ window shown, billedWindow weeklyLimit yearSpan newYearsEve.ms = .ok window ∧
      shownWindow weeklyLimit yearSpan newYearsEve.ms = some shown ∧
      window.contains newYearsEve.ms ∧ shown.startAt = window.startAt ∧
      shown.periodEnd = window.endAt ∧ window = ⟨1798675200000, 1799280000000⟩ := by
  obtain ⟨window, shown, hwindow, hshown, hin, -, -, hstart, -, hperiod, -⟩ :=
    budgetWindows_agree cumulativeLimit yearSpan june
      (contains_yearSpan (by decide) (by decide)) fun _ hnone => nomatch hnone
  obtain ⟨week, shownWeek, hweek, hshownWeek, hinWeek, -, -, hweekStart, hweekEnd, -⟩ :=
    budgetWindows_agree weeklyLimit yearSpan newYearsEve
      (contains_yearSpan (by decide) (by decide)) fun _ hnone => nomatch hnone
  exact ⟨⟨window, shown, hwindow, hshown, hin, hstart, hperiod rfl⟩, week, shownWeek, hweek,
    hshownWeek, hinWeek, hweekStart, hweekEnd rfl, (Except.ok.inj hweek).symm⟩

/-- The part of a time before the end of a subscription. -/
def clipped (span : Span) (time : Timestamp) : Timestamp := (endMs span).elim time (min time)

/-- The end that is shown for a cumulative window is not the end of the window. -/
theorem not_shown_to_end :
    ¬∀ (policy : StoredWindow) (span : Span) (at' : IsoTime), span.Contains at'.ms →
      ∃ window shown, billedWindow policy span at'.ms = .ok window ∧
        shownWindow policy span at'.ms = some shown ∧ shown.startAt = window.startAt ∧
        clipped span shown.periodEnd = clipped span window.endAt := by
  intro hall
  obtain ⟨window, shown, hwindow, hshown, -, hend⟩ :=
    hall cumulativeLimit yearSpan june (contains_yearSpan (by decide) (by decide))
  have hbilled : window = ⟨1767225600000, 1798761600000⟩ := (Except.ok.inj hwindow).symm
  have hseen : shown = ⟨1767225600000, 1780272000000, 1780272000000, none⟩ :=
    (Option.some.inj (hshown.symm.trans (by decide)))
  subst hbilled hseen
  revert hend
  decide

end Frely.Application
