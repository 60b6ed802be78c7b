import Frely.Application.Equiv.Runs

/-!
# The state machine of request execution

`WellExecuted` is what every database of a run says about executions and their attempts, and
`Extends` what a later database keeps of an earlier one.  `requestExecution_stateMachine` states
both for every run.
-/

namespace Frely.Application

open Frely.Billing Frely.Postgres Frely.RequestExecution

/-- The attempts of an execution. -/
def IsAttemptOf (db : Database) (execution : RequestExecution)
    (attempt : RequestProviderAttempt) : Prop :=
  attempt ∈ db.requestProviderAttempts ∧ attempt.identity.requestId = execution.requestId

/-- The attempts of every execution have the indices `0, …, attemptCount - 1`, once each; while it
runs all but the last are settled with an outcome; and all are on its one Plan source. -/
structure WellExecuted (db : Database) : Prop where
  execution : ∀ attempt ∈ db.requestProviderAttempts, ∃ execution ∈ db.requestExecutions,
    IsAttemptOf db execution attempt
  indices : ∀ execution ∈ db.requestExecutions, ∀ index, 0 ≤ index →
    index < execution.attemptCount →
    ∃! attempt, IsAttemptOf db execution attempt ∧ attempt.identity.attemptIndex = index
  inRange : ∀ execution ∈ db.requestExecutions, ∀ attempt, IsAttemptOf db execution attempt →
    0 ≤ attempt.identity.attemptIndex ∧ attempt.identity.attemptIndex < execution.attemptCount
  settled : ∀ execution ∈ db.requestExecutions, execution.status = .running →
    ∀ attempt, IsAttemptOf db execution attempt →
      attempt.identity.attemptIndex ≠ execution.attemptCount - 1 →
      attempt.usageSettled = true ∧ attempt.finalUsageEvidence = .final ∧ attempt.outcome ≠ none
  source : ∀ execution ∈ db.requestExecutions, ∀ attempt, IsAttemptOf db execution attempt →
    ∀ source, RecordedSource db attempt source ↔ source = execution.selectedPlanSubscriptionId

/-- What stays: the source of an execution, all of an execution that has ended and its attempts,
and all of an attempt with final usage. -/
structure Extends (db later : Database) : Prop where
  source : ∀ execution ∈ db.requestExecutions, ∃ execution' ∈ later.requestExecutions,
    execution'.requestId = execution.requestId ∧
      execution'.selectedPlanSubscriptionId = execution.selectedPlanSubscriptionId
  ended : ∀ execution ∈ db.requestExecutions, execution.status.terminal? ≠ none →
    later.requestExecutions.find? execution.requestId = some execution ∧
      ∀ attempt, IsAttemptOf later execution attempt →
        ∃ old, IsAttemptOf db execution old ∧ old.id = attempt.id
  final : ∀ attempt ∈ db.requestProviderAttempts, attempt.finalUsageEvidence = .final →
    attempt.usageSettled = true ∧ attempt.outcome ≠ none ∧
      later.requestProviderAttempts.find? attempt.id = some attempt

variable {initial : Table CreditAccount} {db : Database} {settings : Settings}

/-! ### In one database -/

/-- Every attempt names a source: in its terms, or in the claim or the fact it has. -/
theorem OccupationsOf.exists_recordedSource (h : OccupationsOf db)
    {attempt : RequestProviderAttempt} (hattempt : attempt ∈ db.requestProviderAttempts) :
    ∃ source, RecordedSource db attempt source := by
  cases hterms : attempt.material.terms with
  | cpaBasicV1 terms => exact ⟨_, .terms terms hterms⟩
  | protectedV1 terms =>
    have hprotected : attempt.invocationContract = .protectedV1 := by
      rw [RequestProviderAttempt.invocationContract, hterms]
    cases hsettled : attempt.usageSettled with
    | false =>
      obtain ⟨claim, hclaim⟩ := h.claimed attempt hattempt hprotected hsettled
      exact ⟨_, .claim claim hclaim⟩
    | true =>
      have hsome := h.settled attempt hattempt
      rw [hsettled] at hsome
      obtain ⟨fact, hfact⟩ := Option.isSome_iff_exists.mp hsome.symm
      exact ⟨_, .fact fact hfact⟩

theorem Coherent.wellExecuted (h : Coherent initial db) : WellExecuted db := by
  have hcount : ∀ execution ∈ db.requestExecutions,
      attemptCountOf db.requestExecutions execution.requestId = execution.attemptCount := by
    intro execution hexecution
    have hfind := Table.find?_of_mem hexecution
    change db.requestExecutions.find? execution.requestId = some execution at hfind
    rw [attemptCountOf, hfind]
    rfl
  constructor
  · intro attempt hattempt
    obtain ⟨source, hsource⟩ := h.occupations.exists_recordedSource hattempt
    obtain ⟨execution, hfind, -⟩ :=
      selectedSourceOf_eq_some (h.sources.recorded attempt hattempt source hsource)
    have hkey : execution.requestId = attempt.identity.requestId := Table.key_of_find? hfind
    exact ⟨execution, Table.mem_of_find? hfind, hattempt, hkey.symm⟩
  · intro execution hexecution index hnonneg hlt
    rw [← hcount execution hexecution] at hlt
    obtain ⟨attempt, hattempt, hrequest, hindex⟩ :=
      h.numbered.gapless execution.requestId index hnonneg hlt
    refine ⟨attempt, ⟨⟨hattempt, hrequest⟩, hindex⟩, ?_⟩
    rintro other ⟨⟨hother, hrequest'⟩, hindex'⟩
    exact h.numbered.unique other hother attempt hattempt (hrequest'.trans hrequest.symm)
      (hindex'.trans hindex.symm)
  · rintro execution hexecution attempt ⟨hattempt, hrequest⟩
    have hindex := h.numbered.index attempt hattempt
    rwa [hrequest, hcount execution hexecution] at hindex
  · intro execution hexecution hrunning attempt hattempt hnotLast
    -- an earlier attempt: its index is below the count, so it has been settled
    obtain ⟨hmem, hrequest⟩ := hattempt
    have hindex := h.numbered.index attempt hmem
    have hsettled : attempt.usageSettled = true := by
      apply h.numbered.settled attempt hmem
      rw [hrequest, hcount execution hexecution] at hindex ⊢
      omega
    have hended := h.wellEnded attempt hmem
    exact ⟨hsettled, hended.final.mpr hsettled, hended.outcome hsettled⟩
  · intro execution hexecution attempt hattempt source
    obtain ⟨hmem, hrequest⟩ := hattempt
    have hfind : db.requestExecutions.find? execution.requestId = some execution :=
      Table.find?_of_mem hexecution
    have hselected : ∀ source, RecordedSource db attempt source →
        source = execution.selectedPlanSubscriptionId := by
      intro source hsource
      have hrecorded := h.sources.recorded attempt hmem source hsource
      rw [hrequest, selectedSourceOf, hfind] at hrecorded
      exact (Option.some.inj hrecorded).symm
    constructor
    · exact hselected source
    · rintro rfl
      obtain ⟨named, hnamed⟩ := h.occupations.exists_recordedSource hmem
      rw [← hselected named hnamed]
      exact hnamed

/-! ### Later -/

/-- What a run keeps of a database. -/
theorem Coherent.extends_final (h : Coherent initial db) (inputs : List Input) :
    Extends db (Machine.final (step settings) db inputs) := by
  constructor
  · intro execution hexecution
    have hfind : db.requestExecutions.find? execution.requestId = some execution :=
      Table.find?_of_mem hexecution
    have hselected : selectedSourceOf db.requestExecutions execution.requestId =
        some execution.selectedPlanSubscriptionId := by
      rw [selectedSourceOf, hfind]
      rfl
    have hkept := @final_keeps initial db settings
      (fun later => selectedSourceOf later.requestExecutions execution.requestId =
        some execution.selectedPlanSubscriptionId)
      (fun _ htransition => htransition.coreChange.keeps_selected) h hselected inputs
    obtain ⟨execution', hfind', hsource⟩ := selectedSourceOf_eq_some hkept
    exact ⟨execution', Table.mem_of_find? hfind', Table.key_of_find? hfind', hsource⟩
  · intro execution hexecution hended
    -- the row is there, and every attempt of the request is an old one
    let P : Database → Prop := fun later =>
      later.requestExecutions.find? execution.requestId = some execution ∧
        ∀ attempt, IsAttemptOf later execution attempt →
          ∃ old, IsAttemptOf db execution old ∧ old.id = attempt.id
    have hstart : P db :=
      ⟨Table.find?_of_mem hexecution, fun attempt hattempt => ⟨attempt, hattempt, rfl⟩⟩
    refine @final_keeps initial db settings P ?_ h hstart inputs
    rintro input before after - htransition ⟨hrow, hattempts⟩
    refine ⟨htransition.coreChange.keeps_ended hrow hended, ?_⟩
    rintro attempt ⟨hattempt, hrequest⟩
    obtain ⟨previous, hprevious, hid, hsame⟩ :=
      htransition.coreChange.no_attempt_after_end hrow hended hattempt hrequest
    obtain ⟨old, hold, hid'⟩ := hattempts previous ⟨hprevious, hsame⟩
    exact ⟨old, hold, hid'.trans hid⟩
  · intro attempt hattempt hfinal
    have hended := h.wellEnded attempt hattempt
    have hsettled := hended.final.mp hfinal
    refine ⟨hsettled, hended.outcome hsettled, ?_⟩
    exact @final_keeps initial db settings
      (fun later => later.requestProviderAttempts.find? attempt.id = some attempt)
      (fun _ htransition hfind => htransition.coreChange.keeps_settled hfind hsettled) h
      (Table.find?_of_mem hattempt) inputs

/-- **The state machine.** After every run the executions and their attempts are well formed, and
every run that goes on keeps what has ended. -/
theorem requestExecution_stateMachine (settings : Settings) (configuration : Configuration)
    (creditAccounts : Table CreditAccount) (requestLogs : Table RequestLog)
    (inputs more : List Input) :
    WellExecuted (reached settings configuration creditAccounts requestLogs inputs) ∧
      Extends (reached settings configuration creditAccounts requestLogs inputs)
        (reached settings configuration creditAccounts requestLogs (inputs ++ more)) := by
  have hcoherent := reached_coherent settings configuration creditAccounts requestLogs inputs
  refine ⟨hcoherent.wellExecuted, ?_⟩
  have hextends := @Coherent.extends_final creditAccounts _ settings hcoherent more
  rw [reached, reached, Machine.final_append]
  exact hextends

end Frely.Application
