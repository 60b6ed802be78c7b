import Frely.Application.Equiv.Transition

/-!
# Executions and their attempts

What the transitions do to the two tables of request execution: `CoreChange` has three cases, and
`AttemptChange` three ways to rewrite an attempt.  From them: `Numbered` (the attempts of an
execution are numbered without gaps, and all but the last are settled) is kept, an execution that
has ended and an attempt that is settled are never rewritten (`CoreChange.keeps_ended`,
`CoreChange.keeps_settled`), and terminal evidence stays (`AttemptChange.keeps_evidence`).
-/

namespace Frely.Application

open Frely.Billing Frely.Postgres Frely.RequestExecution Checked Transaction

/-! ### Rewriting an attempt -/

variable {db : Database}

/-- The three ways an attempt is rewritten. -/
inductive AttemptChange (old : RequestProviderAttempt) : RequestProviderAttempt → Prop where
  | dispatched (hpending : old.outcome = none) : AttemptChange old (dispatchedAttempt old)
  | suspended (new : RequestProviderAttempt) (costExposure : ReconciledCostExposure)
      (hsuspends : Suspends old new costExposure) : AttemptChange old new
  | finalized (command : SettleProviderInvocationCommand) (expected : ExpectedEvidence)
      (conflict : RelayError) (now : Timestamp)
      (hexpected : expectedEvidence old command.toProviderAttemptEvidence conflict =
        .ok expected) :
      AttemptChange old (finalizedAttempt (finalizationDecision old expected)
        (finalizeCommand command) now old)

namespace AttemptChange

variable {old new : RequestProviderAttempt}

/-- What an attempt was admitted with is never rewritten. -/
theorem keeps (h : AttemptChange old new) : new.id = old.id ∧ new.identity = old.identity ∧
    new.startedAt = old.startedAt ∧ new.material = old.material := by
  cases h with
  | dispatched hpending => exact ⟨rfl, rfl, rfl, rfl⟩
  | suspended _ costExposure hsuspends =>
    cases hsuspends with
    | abandoned now hpending => exact ⟨rfl, rfl, rfl, rfl⟩
    | reconciling command expected now conflict hreason hexpected hnot hexposure =>
      exact ⟨rfl, rfl, rfl, rfl⟩
  | finalized command expected conflict now hexpected => exact ⟨rfl, rfl, rfl, rfl⟩

/-- An attempt that is rewritten has started. -/
theorem costExposure_ne (h : AttemptChange old new) : new.costExposure ≠ .notStarted := by
  cases h with
  | dispatched hpending => exact ProviderCostExposure.noConfusion
  | suspended _ costExposure hsuspends =>
    cases hsuspends with
    | abandoned now hpending => exact ProviderCostExposure.noConfusion
    | reconciling command expected now conflict hreason hexpected hnot hexposure =>
      change command.costExposure.costExposure ≠ .notStarted
      cases command.costExposure <;> exact ProviderCostExposure.noConfusion
  | finalized command expected conflict now hexpected => exact ProviderCostExposure.noConfusion

/-- **Terminal evidence stays.** An attempt that has an outcome keeps it, with the rest of its
evidence. -/
theorem keeps_evidence (h : AttemptChange old new) (hended : old.outcome ≠ none) :
    new.outcome = old.outcome ∧ new.failureClass = old.failureClass ∧
      new.failureReason = old.failureReason ∧ new.outputCommitted = old.outputCommitted := by
  cases h with
  | dispatched hpending => exact absurd hpending hended
  | suspended _ costExposure hsuspends =>
    cases hsuspends with
    | abandoned now hpending => exact absurd hpending hended
    | reconciling command expected now conflict hreason hexpected hnot hexposure =>
      obtain ⟨-, -, hkeeps⟩ := expectedEvidence_eq_ok.mp hexpected
      obtain ⟨houtcome, hclass, hreason, houtput⟩ := hkeeps.resolve_left hended
      exact ⟨houtcome.symm, hclass.symm, hreason.symm, houtput.symm⟩
  | finalized command expected conflict now hexpected =>
    obtain ⟨-, -, hkeeps⟩ := expectedEvidence_eq_ok.mp hexpected
    obtain ⟨houtcome, hclass, hreason, houtput⟩ := hkeeps.resolve_left hended
    exact ⟨houtcome.symm, hclass.symm, hreason.symm, houtput.symm⟩

/-- The database rewrites no attempt that is settled. -/
theorem unsettled (h : AttemptChange old new) (haccepted : acceptsAttemptUpdate db old new) :
    old.usageSettled = false := by
  unfold acceptsAttemptUpdate at haccepted
  cases h with
  | dispatched hpending =>
    have hnew : (dispatchedAttempt old).outcome = none := hpending
    rw [hnew] at haccepted
    simp only [Bool.and_eq_true, Bool.not_eq_true'] at haccepted
    exact haccepted.1.2
  | suspended _ costExposure hsuspends =>
    cases hsuspends with
    | abandoned now hpending =>
      simp only [abandonedAttempt, Bool.and_eq_true, Bool.not_eq_true'] at haccepted
      exact haccepted.1.1.1.1.1
    | reconciling command expected now conflict hreason hexpected hnot hexposure =>
      simp only [reconcilingAttempt, Bool.and_eq_true, Bool.not_eq_true'] at haccepted
      exact haccepted.1.1.1.1.1
  | finalized command expected conflict now hexpected =>
    simp only [finalizedAttempt, Bool.and_eq_true, Bool.not_eq_true'] at haccepted
    exact haccepted.1.1.1.1.1

end AttemptChange

/-! ### Settled attempts -/

variable {attempt old new : RequestProviderAttempt}

/-- A settled attempt has final evidence, an outcome and no exposure any more; one that has an
outcome and is not settled waits for its usage; and only a failure has a reason. -/
structure WellEnded (attempt : RequestProviderAttempt) : Prop where
  final : attempt.finalUsageEvidence = .final ↔ attempt.usageSettled = true
  outcome : attempt.usageSettled = true → attempt.outcome ≠ none
  exposure : attempt.usageSettled = true → attempt.costExposure = .stopped
  waiting : attempt.outcome ≠ none → attempt.usageSettled = true ∨
    truthy attempt.reconciliationReason ≠ none
  reason : attempt.outcome = some .failed ∨ attempt.failureReason = none

theorem WellEnded.of_unsettled (hunsettled : attempt.usageSettled = false)
    (hfinal : attempt.finalUsageEvidence ≠ .final)
    (hwaiting : attempt.outcome ≠ none → truthy attempt.reconciliationReason ≠ none)
    (hreason : attempt.outcome = some .failed ∨ attempt.failureReason = none) :
    WellEnded attempt where
  final := by
    rw [hunsettled]
    exact iff_of_false hfinal Bool.false_ne_true
  outcome h := absurd (hunsettled.symm.trans h) Bool.false_ne_true
  exposure h := absurd (hunsettled.symm.trans h) Bool.false_ne_true
  waiting h := .inr (hwaiting h)
  reason := hreason

/-- A reason that reconciliation accepts is not empty. -/
theorem truthy_reconciliationReason {reason : String}
    (h : assertReconciliationReason reason = .ok ()) : truthy (some reason) ≠ none := by
  have hne : reason ≠ "" := by
    rintro rfl
    exact rejectIf_eq_ok.mp h rfl
  have hkept : truthy (some reason) = some reason := if_pos (decide_eq_true hne)
  rw [hkept]
  exact Option.some_ne_none reason

theorem AttemptChange.wellEnded (h : AttemptChange old new) (hunsettled : old.usageSettled = false)
    (hold : WellEnded old) : WellEnded new := by
  have hnot : old.finalUsageEvidence ≠ .final := by
    intro hfinal
    exact Bool.false_ne_true (hunsettled.symm.trans (hold.final.mp hfinal))
  cases h with
  | dispatched hpending =>
    exact .of_unsettled hunsettled hnot (fun hended => absurd hpending hended) hold.reason
  | suspended _ costExposure hsuspends =>
    cases hsuspends with
    | abandoned now hpending =>
      exact .of_unsettled hunsettled ProviderFinalUsageEvidence.noConfusion
        (fun _ => (by decide : truthy (some "execution_ownership_lost") ≠ none)) (.inl rfl)
    | reconciling command expected now conflict hreason hexpected hnot hexposure =>
      refine .of_unsettled hunsettled ProviderFinalUsageEvidence.noConfusion
        (fun _ => truthy_reconciliationReason hreason) ?_
      exact (expectedEvidence_eq_ok.mp hexpected).2.1.imp_left (congrArg some)
  | finalized command expected conflict now hexpected =>
    exact ⟨iff_of_true rfl rfl, fun _ => Option.some_ne_none _, fun _ => rfl, fun _ => .inl rfl,
      (expectedEvidence_eq_ok.mp hexpected).2.1.imp_left (congrArg some)⟩

/-! ### The two tables -/

variable {db' : Database}

/-- What a transition does to executions and attempts: it ends at most one execution, it persists
an attempt, or it rewrites one and ends at most its execution. -/
inductive CoreChange (db db' : Database) : Prop where
  | ended (harbitrated : Arbitrated db.requestExecutions db'.requestExecutions)
      (hattempts : db'.requestProviderAttempts = db.requestProviderAttempts)
  | persisted (command : AdmissionCommand) (decision : NewAdmissionDecision) (id : String)
      (startedAt : Timestamp) (material : ProviderAttemptPersistenceMaterial)
      (execution : RequestExecution) (db₁ : Database) (hindex : 0 ≤ command.attemptIndex)
      (hadmissible : Admissible db command decision)
      (hpersisted : PersistedAttempt db command.toProviderAttemptAdmissionIdentity decision
        (newProviderAttempt id command.toProviderAttemptAdmissionIdentity decision startedAt
          material) execution db₁)
      (hexecutions : db'.requestExecutions = db₁.requestExecutions)
      (hattempts : db'.requestProviderAttempts = db₁.requestProviderAttempts)
  | updated (old new : RequestProviderAttempt) (hchange : AttemptChange old new)
      (hunsettled : old.usageSettled = false)
      (hfind : db.requestProviderAttempts.find? old.id = some old)
      (hattempts : db.requestProviderAttempts.Sets new db'.requestProviderAttempts)
      (harbitrated : Arbitrated db.requestExecutions db'.requestExecutions)

theorem AttemptChange.coreChange (hchange : AttemptChange old new)
    (h : UpdatedAttempt db old new db') : CoreChange db db' :=
  .updated old new hchange (hchange.unsettled h.accepted) h.find h.attempts h.executions

/-- The other tables of the new database do not matter. -/
theorem CoreChange.congr {db₁ : Database} (h : CoreChange db db₁)
    (hexecutions : db'.requestExecutions = db₁.requestExecutions)
    (hattempts : db'.requestProviderAttempts = db₁.requestProviderAttempts) :
    CoreChange db db' := by
  cases h with
  | ended harbitrated hsame => exact .ended (hexecutions ▸ harbitrated) (hattempts.trans hsame)
  | persisted command decision id startedAt material execution db₂ hindex hadmissible hpersisted
      hexecutions' hattempts' =>
    exact .persisted command decision id startedAt material execution db₂ hindex hadmissible
      hpersisted (hexecutions.trans hexecutions') (hattempts.trans hattempts')
  | updated old new hchange hunsettled hfind hset harbitrated =>
    exact .updated old new hchange hunsettled hfind (hattempts ▸ hset) (hexecutions ▸ harbitrated)

theorem Suspended.coreChange (h : Suspended db db') : CoreChange db db' := by
  obtain ⟨old, new, costExposure, now, db₁, _, hsuspends, hupdated, hmarked⟩ := h
  have hcore := AttemptChange.coreChange (.suspended new costExposure hsuspends) hupdated
  -- marking the reservation leaves the two tables alone
  cases hmarked with
  | nothing hclosed => exact hcore
  | reconciling reservation hfind hopen => exact hcore.congr rfl rfl

theorem FinalUsage.coreChange {command : SettleProviderInvocationCommand}
    {zeroReservationOutcome : ZeroReservationOutcome} {now : Timestamp}
    {fact : ProviderInvocationUsageFact}
    (h : FinalUsage db command zeroReservationOutcome now fact db') : CoreChange db db' := by
  obtain ⟨attempt, expected, conflict, db₁, _, hfind, hunsettled, hexpected, hsettled,
    hupdated⟩ := h
  have hattempts := hupdated.attempts
  have hexecutions := hupdated.executions
  have hfound := hupdated.find
  rw [hsettled.frame] at hattempts hexecutions hfound
  exact .updated attempt _ (.finalized command expected conflict now hexpected) hunsettled hfound
    hattempts hexecutions

theorem Transition.coreChange {input : Input} (h : Transition input db db') :
    CoreChange db db' := by
  cases h with
  | idle => exact .ended .unchanged rfl
  | leased leases hcommand => exact .ended .unchanged rfl
  | logged row haccepts => exact .ended .unchanged rfl
  | reconfigured configuration hcommand => exact .ended .unchanged rfl
  | admittedProtected command hcommand id _ hadmitted =>
    obtain ⟨admission, execution, db₁, usageReservationId, hadmissible, hpersisted, hoccupied⟩ :=
      hadmitted
    refine .persisted _ admission.decision id input.environment.now admission.material execution
      db₁ hadmissible.index hadmissible.admissible hpersisted ?_ ?_
    · rw [hoccupied.frame]
    · rw [hoccupied.frame]
  | admittedCpaBasic command hcommand id _ hadmitted =>
    obtain ⟨admission, execution, hadmissible, hpersisted⟩ := hadmitted
    exact .persisted _ admission.decision id input.environment.now admission.material execution
      db' hadmissible.index hadmissible.admissible hpersisted rfl rfl
  | dispatched attempt _ hpending hupdated =>
    exact AttemptChange.coreChange (.dispatched hpending) hupdated
  | suspended _ hsuspended => exact hsuspended.coreChange
  | settled command zeroReservationOutcome now fact _ hfinal => exact hfinal.coreChange
  | failed executions harbitrated => exact .ended harbitrated rfl

/-! ### What has ended stays -/

namespace CoreChange

variable {db db' : Database} {requestId id : String} {execution : RequestExecution}
  {attempt : RequestProviderAttempt}

/-- **An execution that has ended is never rewritten.** -/
theorem keeps_ended (h : CoreChange db db')
    (hfind : db.requestExecutions.find? requestId = some execution)
    (hended : execution.status.terminal? ≠ none) :
    db'.requestExecutions.find? requestId = some execution := by
  cases h with
  | ended harbitrated hattempts => exact harbitrated.keeps_ended hfind hended
  | persisted command decision id startedAt material started db₁ hindex hadmissible hpersisted
      hexecutions hattempts =>
    rw [hexecutions]
    exact (hpersisted.keeps_ended hadmissible hfind hended).2
  | updated old new hchange hunsettled hold hattempts harbitrated =>
    exact harbitrated.keeps_ended hfind hended

/-- It gets no attempt either. -/
theorem no_attempt_after_end (h : CoreChange db db')
    (hfind : db.requestExecutions.find? requestId = some execution)
    (hended : execution.status.terminal? ≠ none) (hattempt : attempt ∈ db'.requestProviderAttempts)
    (hrequest : attempt.identity.requestId = requestId) :
    ∃ old ∈ db.requestProviderAttempts, old.id = attempt.id ∧
      old.identity.requestId = requestId := by
  cases h with
  | ended harbitrated hattempts =>
    rw [hattempts] at hattempt
    exact ⟨attempt, hattempt, rfl, hrequest⟩
  | persisted command decision id startedAt material started db₁ hindex hadmissible hpersisted
      hexecutions hattempts =>
    rw [hattempts] at hattempt
    rcases (Table.mem_insert hpersisted.attempts).mp hattempt with rfl | hold
    · exact absurd hrequest.symm (hpersisted.keeps_ended hadmissible hfind hended).1
    · exact ⟨attempt, hold, rfl, hrequest⟩
  | updated old new hchange hunsettled hold hattempts harbitrated =>
    rcases hattempts.mem_iff.mp hattempt with rfl | ⟨hmem, -⟩
    · obtain ⟨hid, hidentity, -, -⟩ := hchange.keeps
      exact ⟨old, Table.mem_of_find? hold, hid.symm, hidentity ▸ hrequest⟩
    · exact ⟨attempt, hmem, rfl, hrequest⟩

/-- **An attempt that is settled is never rewritten.** -/
theorem keeps_settled (h : CoreChange db db')
    (hfind : db.requestProviderAttempts.find? id = some attempt)
    (hsettled : attempt.usageSettled = true) :
    db'.requestProviderAttempts.find? id = some attempt := by
  cases h with
  | ended harbitrated hattempts =>
    rw [hattempts]
    exact hfind
  | persisted command decision newId startedAt material started db₁ hindex hadmissible hpersisted
      hexecutions hattempts =>
    obtain ⟨hfree, -⟩ := Table.insert?_eq_some.mp hpersisted.attempts
    rw [hattempts, Table.find?_insert hpersisted.attempts]
    split_ifs with hid
    · rw [← hid, hfind] at hfree
      cases hfree
    · exact hfind
  | updated old new hchange hunsettled hold hattempts harbitrated =>
    rw [hattempts id]
    split_ifs with hid
    · have hkey : id = old.id := hid.trans hchange.keeps.1
      rw [hkey] at hfind
      cases hold.symm.trans hfind
      rw [hunsettled] at hsettled
      cases hsettled
    · exact hfind

/-- Every attempt stays, with what it was admitted with and with its evidence once it has any. -/
theorem keeps_attempt (h : CoreChange db db')
    (hfind : db.requestProviderAttempts.find? id = some attempt) :
    db'.requestProviderAttempts.find? id = some attempt ∨
      ∃ new, db'.requestProviderAttempts.find? id = some new ∧ AttemptChange attempt new := by
  cases h with
  | ended harbitrated hattempts =>
    rw [hattempts]
    exact .inl hfind
  | persisted command decision newId startedAt material started db₁ hindex hadmissible hpersisted
      hexecutions hattempts =>
    obtain ⟨hfree, -⟩ := Table.insert?_eq_some.mp hpersisted.attempts
    rw [hattempts, Table.find?_insert hpersisted.attempts]
    split_ifs with hid
    · rw [← hid, hfind] at hfree
      cases hfree
    · exact .inl hfind
  | updated old new hchange hunsettled hold hattempts harbitrated =>
    rw [hattempts id]
    split_ifs with hid
    · have hkey : id = old.id := hid.trans hchange.keeps.1
      rw [hkey] at hfind
      cases hold.symm.trans hfind
      exact .inr ⟨new, rfl, hchange⟩
    · exact .inl hfind

end CoreChange

theorem CoreChange.wellEnded (h : CoreChange db db')
    (hdb : ∀ attempt ∈ db.requestProviderAttempts, WellEnded attempt) :
    ∀ attempt ∈ db'.requestProviderAttempts, WellEnded attempt := by
  intro attempt hattempt
  cases h with
  | ended harbitrated hattempts =>
    rw [hattempts] at hattempt
    exact hdb attempt hattempt
  | persisted command decision id startedAt material started db₁ hindex hadmissible hpersisted
      hexecutions hattempts =>
    rw [hattempts] at hattempt
    rcases (Table.mem_insert hpersisted.attempts).mp hattempt with rfl | hold
    · exact .of_unsettled rfl ProviderFinalUsageEvidence.noConfusion (fun h => absurd rfl h)
        (.inr rfl)
    · exact hdb attempt hold
  | updated old new hchange hunsettled hfind hattempts harbitrated =>
    rcases hattempts.mem_iff.mp hattempt with rfl | ⟨hmem, -⟩
    · exact hchange.wellEnded hunsettled (hdb old (Table.mem_of_find? hfind))
    · exact hdb attempt hmem

/-! ### Owners -/

/-- Every attempt is of the owner of its execution. -/
def Owned (executions : Table RequestExecution) (attempts : Table RequestProviderAttempt) : Prop :=
  ∀ attempt ∈ attempts, ownerOf executions attempt.identity.requestId =
    some attempt.identity.executionOwnerId

theorem CoreChange.owned (h : CoreChange db db')
    (hdb : Owned db.requestExecutions db.requestProviderAttempts) :
    Owned db'.requestExecutions db'.requestProviderAttempts := by
  intro attempt hattempt
  cases h with
  | ended harbitrated hattempts =>
    rw [hattempts] at hattempt
    rw [harbitrated.ownerOf]
    exact hdb attempt hattempt
  | persisted command decision id startedAt material started db₁ hindex hadmissible hpersisted
      hexecutions hattempts =>
    rw [hattempts] at hattempt
    rw [hexecutions, hpersisted.ownerOf_after hadmissible]
    rcases (Table.mem_insert hpersisted.attempts).mp hattempt with rfl | hold
    · exact if_pos rfl
    · have hbefore := hdb attempt hold
      split_ifs with hrequest
      · -- the execution was there, so the admission was a fallback of its owner
        rw [hrequest] at hbefore
        obtain ⟨execution, hfind, howner⟩ := Option.map_eq_some_iff.mp hbefore
        cases hadmissible with
        | first hkind hnone => cases hnone.symm.trans hfind
        | fallback hkind found hfound hrunning howner' =>
          cases hfound.symm.trans hfind
          exact congrArg some (howner'.symm.trans howner)
      · exact hbefore
  | updated old new hchange hunsettled hfind hattempts harbitrated =>
    rw [harbitrated.ownerOf]
    rcases hattempts.mem_iff.mp hattempt with rfl | ⟨hmem, -⟩
    · rw [hchange.keeps.2.1]
      exact hdb old (Table.mem_of_find? hfind)
    · exact hdb attempt hmem

/-! ### Numbering -/

/-- The attempts of every request have the indices `0, …, count - 1`, each once, and every one but
the last is settled. -/
structure Numbered (executions : Table RequestExecution)
    (attempts : Table RequestProviderAttempt) : Prop where
  index : ∀ attempt ∈ attempts, 0 ≤ attempt.identity.attemptIndex ∧
    attempt.identity.attemptIndex < attemptCountOf executions attempt.identity.requestId
  gapless : ∀ requestId index, 0 ≤ index → index < attemptCountOf executions requestId →
    ∃ attempt ∈ attempts, attempt.identity.requestId = requestId ∧
      attempt.identity.attemptIndex = index
  unique : ∀ attempt ∈ attempts, ∀ other ∈ attempts,
    attempt.identity.requestId = other.identity.requestId →
    attempt.identity.attemptIndex = other.identity.attemptIndex → attempt = other
  settled : ∀ attempt ∈ attempts, attempt.identity.attemptIndex + 1 <
    attemptCountOf executions attempt.identity.requestId → attempt.usageSettled = true

namespace Numbered

variable {executions executions' : Table RequestExecution}
  {attempts attempts' : Table RequestProviderAttempt}

/-- Only the counts of the executions matter. -/
theorem congr (h : Numbered executions attempts)
    (hcount : ∀ requestId, attemptCountOf executions' requestId =
      attemptCountOf executions requestId) : Numbered executions' attempts where
  index attempt hattempt := by
    rw [hcount]
    exact h.index attempt hattempt
  gapless requestId index hindex hlt := h.gapless requestId index hindex (hcount requestId ▸ hlt)
  unique := h.unique
  settled attempt hattempt hlt := h.settled attempt hattempt (hcount _ ▸ hlt)

/-- Rewriting an attempt keeps its number, and does not take back a settlement. -/
theorem updated (h : Numbered executions attempts) (hfind : attempts.find? old.id = some old)
    (hchange : AttemptChange old new) (hunsettled : old.usageSettled = false)
    (hset : attempts.Sets new attempts') : Numbered executions attempts' := by
  obtain ⟨hid, hidentity, -, -⟩ := hchange.keeps
  have hold : old ∈ attempts := Table.mem_of_find? hfind
  -- an attempt of the new table has the number of an attempt of the old one with the same id
  have hback : ∀ attempt ∈ attempts', ∃ before ∈ attempts, before.id = attempt.id ∧
      before.identity = attempt.identity ∧ (before = attempt ∨ before = old) := by
    intro attempt hattempt
    rcases hset.mem_iff.mp hattempt with rfl | ⟨hmem, -⟩
    · exact ⟨old, hold, hid.symm, hidentity.symm, .inr rfl⟩
    · exact ⟨attempt, hmem, rfl, rfl, .inl rfl⟩
  constructor
  · intro attempt hattempt
    obtain ⟨before, hmem, -, hsame, -⟩ := hback attempt hattempt
    rw [← hsame]
    exact h.index before hmem
  · intro requestId index hindex hlt
    obtain ⟨before, hmem, hrequest, hnumber⟩ := h.gapless requestId index hindex hlt
    by_cases hkey : before.id = old.id
    · cases Table.eq_of_key_eq hmem hold hkey
      refine ⟨new, hset.mem_iff.mpr (.inl rfl), ?_⟩
      rw [hidentity]
      exact ⟨hrequest, hnumber⟩
    · have hne : before.id ≠ new.id := fun heq => hkey (heq.trans hid)
      exact ⟨before, hset.mem_iff.mpr (.inr ⟨hmem, hne⟩), hrequest, hnumber⟩
  · intro attempt hattempt other hother hrequest hnumber
    obtain ⟨before, hmem, hsameId, hsame, -⟩ := hback attempt hattempt
    obtain ⟨before', hmem', hsameId', hsame', -⟩ := hback other hother
    rw [← hsame, ← hsame'] at hrequest hnumber
    cases h.unique before hmem before' hmem' hrequest hnumber
    exact Table.eq_of_key_eq hattempt hother (hsameId.symm.trans hsameId')
  · intro attempt hattempt hlt
    obtain ⟨before, hmem, -, hsame, hwhich⟩ := hback attempt hattempt
    rw [← hsame] at hlt
    have hsettled := h.settled before hmem hlt
    rcases hwhich with rfl | rfl
    · exact hsettled
    · rw [hunsettled] at hsettled
      cases hsettled

/-- A persisted attempt has the next number, and the one before it is settled. -/
theorem persisted {db db' : Database} {command : AdmissionCommand}
    {decision : NewAdmissionDecision} {attempt : RequestProviderAttempt}
    {execution : RequestExecution} (h : Numbered db.requestExecutions db.requestProviderAttempts)
    (hindex : 0 ≤ command.attemptIndex) (hadmissible : Admissible db command decision)
    (hidentity : attempt.identity = command.toProviderAttemptAdmissionIdentity)
    (hpersisted : PersistedAttempt db command.toProviderAttemptAdmissionIdentity decision attempt
      execution db') : Numbered db'.requestExecutions db'.requestProviderAttempts := by
  have hbefore := PersistedAttempt.attemptCountOf_before hadmissible
  have hafter := hpersisted.attemptCountOf_after hadmissible
  have hmem : ∀ other, other ∈ db'.requestProviderAttempts ↔
      other = attempt ∨ other ∈ db.requestProviderAttempts :=
    fun other => Table.mem_insert hpersisted.attempts
  have hrequest : attempt.identity.requestId = command.requestId := by rw [hidentity]
  have hnumber : attempt.identity.attemptIndex = command.attemptIndex := by rw [hidentity]
  -- the attempts that were there before are below the new one
  have hbelow : ∀ other ∈ db.requestProviderAttempts,
      other.identity.requestId = command.requestId →
        other.identity.attemptIndex < command.attemptIndex := by
    intro other hother hsame
    have := (h.index other hother).2
    rw [hsame, hbefore] at this
    exact this
  constructor
  · intro other hother
    rw [hafter]
    rcases (hmem other).mp hother with rfl | hold
    · rw [if_pos hrequest, hnumber]
      omega
    · have hold' := h.index other hold
      split_ifs with hsame
      · have := hbelow other hold hsame
        omega
      · exact hold'
  · intro requestId index hnonneg hlt
    rw [hafter] at hlt
    by_cases hnew : requestId = command.requestId ∧ index = command.attemptIndex
    · exact ⟨attempt, (hmem attempt).mpr (.inl rfl), hrequest.trans hnew.1.symm,
        hnumber.trans hnew.2.symm⟩
    · have hlt' : index < attemptCountOf db.requestExecutions requestId := by
        split_ifs at hlt with hsame
        · rw [hsame, hbefore]
          have hne : index ≠ command.attemptIndex := fun heq => hnew ⟨hsame, heq⟩
          omega
        · exact hlt
      obtain ⟨other, hother, hfound⟩ := h.gapless requestId index hnonneg hlt'
      exact ⟨other, (hmem other).mpr (.inr hother), hfound⟩
  · intro first hfirst second hsecond hsame hindices
    rcases (hmem first).mp hfirst with rfl | hfirst'
    · rcases (hmem second).mp hsecond with rfl | hsecond'
      · rfl
      · have := hbelow second hsecond' (hsame.symm.trans hrequest)
        omega
    · rcases (hmem second).mp hsecond with rfl | hsecond'
      · have := hbelow first hfirst' (hsame.trans hrequest)
        omega
      · exact h.unique first hfirst' second hsecond' hsame hindices
  · intro other hother hlt
    rw [hafter] at hlt
    rcases (hmem other).mp hother with rfl | hold
    · rw [if_pos hrequest, hnumber] at hlt
      omega
    · split_ifs at hlt with hsame
      · by_cases hlast : other.identity.attemptIndex + 1 < command.attemptIndex
        · apply h.settled other hold
          rw [hsame, hbefore]
          exact hlast
        · -- the attempt right before the new one, which the admission found settled
          have hbelow' := hbelow other hold hsame
          cases hadmissible with
          | first hkind hnone hzero =>
            have := (h.index other hold).1
            omega
          | fallback hkind found hfind hrunning howner hcount hselected previous hprevious
              hprevRequest hprevIndex hsettled =>
            have hsameIndex : other.identity.attemptIndex = previous.identity.attemptIndex := by
              omega
            cases h.unique other hold previous hprevious (hsame.trans hprevRequest.symm) hsameIndex
            exact hsettled
      · exact h.settled other hold hlt

end Numbered

theorem CoreChange.numbered (h : CoreChange db db')
    (hnumbered : Numbered db.requestExecutions db.requestProviderAttempts) :
    Numbered db'.requestExecutions db'.requestProviderAttempts := by
  cases h with
  | ended harbitrated hattempts =>
    rw [hattempts]
    exact hnumbered.congr harbitrated.attemptCountOf
  | persisted command decision id startedAt material started db₁ hindex hadmissible hpersisted
      hexecutions hattempts =>
    rw [hexecutions, hattempts]
    exact hnumbered.persisted hindex hadmissible rfl hpersisted
  | updated old new hchange hunsettled hfind hattempts harbitrated =>
    exact (hnumbered.updated hfind hchange hunsettled hattempts).congr harbitrated.attemptCountOf

end Frely.Application
