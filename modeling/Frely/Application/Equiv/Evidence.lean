import Frely.Application.Equiv.Release

/-!
# The evidence of a live settlement that failed

When the transaction of a live claimless settlement fails, `settleCpaBasicLive` moves the attempt to
reconciliation in a second transaction, so that the settlement can be tried again.  It hands over
outcome, failure class and committed output, but not the failure reason: an attempt that failed for
a reason waits without it, and every finalization that names the reason is refused.
`failedLiveSettlement_keepsEvidence_iff` says exactly when the evidence is kept.
-/

namespace Frely.Application

open Frely.Billing Frely.Postgres Frely.RequestExecution Checked Transaction

variable {initial : Table CreditAccount} {db db' : Database} {settings : Settings} {input : Input}
  {s s' : Session Database}

/-! ### Evidence that the database accepts -/

variable {attempt : RequestProviderAttempt} {expected : ExpectedEvidence} {conflict : RelayError}
  {evidence : ProviderAttemptEvidence} {command : SettleProviderInvocationCommand} {now : Timestamp}

/-- Evidence that a command may give fits the checks of the database. -/
theorem acceptsFailure_of_expected {row : RequestProviderAttempt}
    (h : expectedEvidence attempt evidence conflict = .ok expected)
    (hclass : row.failureClass = expected.failureClass)
    (hreason : row.failureReason = expected.failureReason) :
    acceptsFailure evidence.outcome row := by
  obtain ⟨hexpected, hfailed, -⟩ := expectedEvidence_eq_ok.mp h
  have hclass' : row.failureClass =
      providerAttemptFailureClass evidence.outcome evidence.failureClass := by
    rw [hclass, hexpected]
    rfl
  unfold acceptsFailure
  cases houtcome : evidence.outcome with
  | failed =>
    rw [houtcome] at hclass'
    dsimp only
    rw [hclass']
    rfl
  | succeeded =>
    rw [houtcome] at hclass' hfailed
    have hnone := hfailed.resolve_left ProviderAttemptOutcome.noConfusion
    dsimp only
    rw [hclass', hreason, hnone]
    rfl
  | aborted =>
    rw [houtcome] at hclass' hfailed
    have hnone := hfailed.resolve_left ProviderAttemptOutcome.noConfusion
    dsimp only
    rw [hclass', hreason, hnone]
    rfl

/-- Neither does it change a reason that is there. -/
theorem keeps_failureReason (h : expectedEvidence attempt evidence conflict = .ok expected) :
    attempt.outcome = none ∨ expected.failureReason = attempt.failureReason := by
  obtain ⟨-, -, hkeeps⟩ := expectedEvidence_eq_ok.mp h
  exact hkeeps.imp_right fun hevidence => hevidence.2.2.1.symm

theorem acceptsAttemptUpdate_reconciling {attempt : RequestProviderAttempt}
    {command : ReconcileProviderInvocationCommand} {conflict : RelayError}
    {expected : ExpectedEvidence} {now : Timestamp}
    (h : expectedEvidence attempt command.toProviderAttemptEvidence conflict = .ok expected)
    (hunsettled : attempt.usageSettled = false) :
    acceptsAttemptUpdate db attempt (reconcilingAttempt command expected now attempt) := by
  have hfailure : acceptsFailure command.outcome
      (reconcilingAttempt command expected now attempt) := acceptsFailure_of_expected h rfl rfl
  have hreason := keeps_failureReason h
  simp only [acceptsAttemptUpdate, reconcilingAttempt, hunsettled] at hfailure ⊢
  simpa [hfailure] using hreason

theorem acceptsAttemptUpdate_finalized
    (h : expectedEvidence attempt command.toProviderAttemptEvidence conflict = .ok expected)
    (hunsettled : attempt.usageSettled = false) :
    acceptsAttemptUpdate db attempt (finalizedAttempt (finalizationDecision attempt expected)
      (finalizeCommand command) now attempt) := by
  have hfailure : acceptsFailure command.outcome (finalizedAttempt
      (finalizationDecision attempt expected) (finalizeCommand command) now attempt) :=
    acceptsFailure_of_expected h rfl rfl
  have hreason := keeps_failureReason h
  simp only [acceptsAttemptUpdate, finalizedAttempt, finalizeCommand, finalizationDecision,
    hunsettled] at hfailure ⊢
  simpa [hfailure] using hreason

/-! ### The fallback -/

variable {execution : RequestExecution}

/-- The arbiter ends an open execution for its owner. -/
theorem requestExecutionTerminalArbiter_ends {command : CompleteRequestExecutionCommand}
    {allowMissing : Bool}
    (hfind : s.database.requestExecutions.find? command.requestId = some execution)
    (hopen : execution.status.terminal? = none)
    (howner : execution.ownerId = command.executionOwnerId) (hwrites : s.writesLeft ≠ some 0) :
    ∃ s', requestExecutionTerminalArbiter command allowMissing s = .ok ((), s') ∧
      s'.database.usageReservations = s.database.usageReservations := by
  obtain ⟨s', hupdate, hsame⟩ : ∃ s' : Session Database,
      updateRequestExecution command.requestId (completedExecution command) (fun _ => rfl) s =
        .ok ((), s') ∧ s'.database.usageReservations = s.database.usageReservations :=
    ⟨_, update_of_accepted hfind rfl hwrites, rfl⟩
  refine ⟨s', ?_, hsame⟩
  unfold requestExecutionTerminalArbiter
  refine run_read_bind.mpr ⟨some execution, congrArg Except.ok hfind, ?_⟩
  simp only [hopen]
  exact run_check_bind.mpr ⟨(), rejectIf_eq_ok.mpr (not_not.mpr howner), hupdate⟩

/-- The reconciliation of an attempt without final usage and without reservation goes through when
its evidence is accepted and the connection holds for two writes. -/
theorem enterReconciliation_returns {command : ReconcileProviderInvocationCommand}
    {now : Timestamp} {attempt : RequestProviderAttempt} {expected : ExpectedEvidence}
    (hreason : assertReconciliationReason command.reason = .ok ())
    (hstopped : command.costExposure = .stopped)
    (hfind : s.database.requestProviderAttempts.find? command.providerAttemptRef = some attempt)
    (hunsettled : attempt.usageSettled = false)
    (hexpected : ∀ conflict,
      expectedEvidence attempt command.toProviderAttemptEvidence conflict = .ok expected)
    (howned : Owned s.database.requestExecutions s.database.requestProviderAttempts)
    (hfree : s.database.usageReservations.find? command.providerAttemptRef = none)
    (hwrites : ∀ left, s.writesLeft = some left → 2 ≤ left) :
    ∃ s', enterReconciliation command now s = .ok ((), s') := by
  obtain ⟨execution, hexecution, howner⟩ :=
    Option.map_eq_some_iff.mp (howned attempt (Table.mem_of_find? hfind))
  have hlock : lockReconciliation s.database command =
      .ok (attempt, expected, execution.status) := by
    unfold lockReconciliation
    refine bind_eq_ok.mpr ⟨(), hreason, ?_⟩
    simp only [hfind, hexecution]
    exact bind_eq_ok.mpr ⟨expected, hexpected _, rfl⟩
  obtain ⟨decision, s', hreconciled, hreservations⟩ : ∃ decision s',
      reconcileProviderInvocation command now s = .ok (decision, s') ∧
        s'.database.usageReservations = s.database.usageReservations := by
    unfold reconcileProviderInvocation
    -- a replay writes nothing; otherwise the attempt is the first write
    by_cases halready : alreadyReconciling attempt command
    · refine ⟨⟨false, now⟩, s, run_read_bind.mpr ⟨_, hlock, ?_⟩, rfl⟩
      dsimp only
      rw [if_pos halready]
      exact run_pure.mpr ⟨rfl, rfl⟩
    · have hwrite : s.writesLeft ≠ some 0 := by
        intro hzero
        have := hwrites 0 hzero
        omega
      have haccepted := @acceptsAttemptUpdate_reconciling s.database attempt command _ expected now
        (hexpected ⟨"", "", 0⟩) hunsettled
      obtain ⟨s₁, hupdate, hsame₁, hsame₂, hleft⟩ : ∃ s₁ : Session Database,
          updateRequestProviderAttempt command.providerAttemptRef
            (reconcilingAttempt command expected now) (fun _ => rfl) s = .ok ((), s₁) ∧
          s₁.database.requestExecutions = s.database.requestExecutions ∧
          s₁.database.usageReservations = s.database.usageReservations ∧
          s₁.writesLeft = s.writesLeft.map (· - 1) :=
        ⟨_, update_of_accepted hfind haccepted hwrite, rfl, rfl, rfl⟩
      have hwrite₁ : s₁.writesLeft ≠ some 0 := by
        rw [hleft]
        intro hzero
        obtain ⟨left, hsome, hone⟩ := Option.map_eq_some_iff.mp hzero
        have := hwrites left hsome
        omega
      obtain ⟨s₂, hended, hsame⟩ : ∃ s₂, completeReconciledRequest command expected attempt
          execution.status now s₁ = .ok ((), s₂) ∧
            s₂.database.usageReservations = s₁.database.usageReservations := by
        unfold completeReconciledRequest
        cases hstatus : execution.status.terminal? with
        | some status => exact ⟨s₁, run_pure.mpr ⟨rfl, rfl⟩, rfl⟩
        -- the end of the execution is the second write
        | none =>
          refine requestExecutionTerminalArbiter_ends ?_ hstatus howner hwrite₁
          rw [hsame₁]
          exact hexecution
      refine ⟨⟨true, now⟩, s₂, run_read_bind.mpr ⟨_, hlock, ?_⟩, hsame.trans hsame₂⟩
      dsimp only
      rw [if_neg halready]
      refine run_check_bind.mpr ⟨(), rejectIf_eq_ok.mpr ?_, run_bind.mpr ⟨_, s₁, hupdate,
        run_bind.mpr ⟨_, s₂, hended, run_pure.mpr ⟨rfl, rfl⟩⟩⟩⟩
      rintro ⟨-, haccruing⟩
      cases hstopped.symm.trans haccruing
  unfold enterReconciliation
  -- there is no reservation that billing could mark
  by_cases htransition : decision.transitionToReconciliation
  · refine ⟨s', run_bind.mpr ⟨decision, s', hreconciled, ?_⟩⟩
    rw [if_pos htransition]
    unfold markInvocationBillingReconciliation
    refine run_read_bind.mpr ⟨none, ?_, run_pure.mpr ⟨rfl, rfl⟩⟩
    rw [hreservations, hfree]
  · refine ⟨s', run_bind.mpr ⟨decision, s', hreconciled, ?_⟩⟩
    rw [if_neg htransition]
    exact run_pure.mpr ⟨rfl, rfl⟩

/-! ### A later finalization -/

variable {new : RequestProviderAttempt}

/-- A finalization that ends the request ends it the way its execution has ended. -/
def TerminalAgrees (db : Database) (attempt : RequestProviderAttempt)
    (command : SettleProviderInvocationCommand) : Prop :=
  ∀ status ∈ command.requestTerminalStatus, ∃ execution,
    db.requestExecutions.find? attempt.identity.requestId = some execution ∧
      execution.status = .ended status ∧
      execution.terminalErrorCode = command.requestTerminalErrorCode ∧
      execution.outputCommitted = command.outputCommitted.getD false

/-- Whenever billing can book the usage, the finalization of an attempt goes through. -/
theorem settleFinalUsage_returns {requireReconciliation : Bool}
    {contract : Option InvocationContract} {log : RequestLog}
    {settled : InvocationBillingSettlementResult} {s₁ : Session Database}
    (hmatch : FactsMatch s.database) (hvalid : validateUsage command.usage = .ok ())
    (hfind : s.database.requestProviderAttempts.find? command.providerAttemptId = some attempt)
    (hlog : s.database.requestLogs.find? attempt.identity.requestId = some log)
    (hready : requireReconciliation = true → attempt.usageSettled = false →
      truthy attempt.reconciliationReason ≠ none ∧ reconciliationReady s.database attempt log)
    (hcontract : ∀ c ∈ contract, attempt.invocationContract = c)
    (hexpected : ∀ conflict, expectedEvidence attempt command.toProviderAttemptEvidence conflict =
      .ok expected)
    (hterminal : TerminalAgrees s.database attempt command)
    (hbilling : settleInvocationBilling settings.localeCompare
      (settlementInput s.database command .settled now attempt) s = .ok (settled, s₁))
    (hwrites : s₁.writesLeft ≠ some 0) :
    ∃ s', settleFinalUsage settings command .settled requireReconciliation contract now s =
      .ok (settled, s') := by
  have hid : attempt.id = command.providerAttemptId := Table.key_of_find? hfind
  have hsame : s₁.database.requestProviderAttempts = s.database.requestProviderAttempts ∧
      s₁.database.requestExecutions = s.database.requestExecutions := by
    rcases settleInvocationBilling_eq_ok rfl hbilling with
      ⟨fact, -, -, -, rfl⟩ | ⟨-, fact, hsettled, -⟩
    · exact ⟨rfl, rfl⟩
    · rw [hsettled.frame]
      exact ⟨rfl, rfl⟩
  -- what billing wrote leaves attempts and executions alone, so the attempt can still be finalized
  obtain ⟨s', hcomplete⟩ : ∃ s', completeFinalization (finalizationDecision attempt expected)
      (finalizeCommand command) now s₁ = .ok ((), s') := by
    unfold completeFinalization
    -- a replay has nothing left to finalize
    by_cases hsettled : attempt.usageSettled
    · exact ⟨s₁, (if_pos hsettled).symm ▸ run_pure.mpr ⟨rfl, rfl⟩⟩
    · have hunsettled : attempt.usageSettled = false := Bool.eq_false_of_not_eq_true hsettled
      have hfind₁ : s₁.database.requestProviderAttempts.find? attempt.id = some attempt := by
        rw [hsame.1, hid]
        exact hfind
      obtain ⟨s₂, hupdate, hexecutions, hfind₂⟩ : ∃ s₂ : Session Database,
          updateRequestProviderAttempt attempt.id (finalizedAttempt
            (finalizationDecision attempt expected) (finalizeCommand command) now)
            (fun _ => rfl) s₁ = .ok ((), s₂) ∧
          s₂.database.requestExecutions = s.database.requestExecutions ∧
          s₂.database.requestProviderAttempts.find? attempt.id = some (finalizedAttempt
            (finalizationDecision attempt expected) (finalizeCommand command) now attempt) :=
        ⟨_, update_of_accepted hfind₁
          (acceptsAttemptUpdate_finalized (hexpected ⟨"", "", 0⟩) hunsettled) hwrites, hsame.2,
          (Table.sets_modify hfind₁ (finalizedAttempt (finalizationDecision attempt expected)
            (finalizeCommand command) now) fun _ => rfl).find?_self⟩
      refine ⟨s₂, ?_⟩
      have hnot : (finalizationDecision attempt expected).alreadyFinalized ≠ true := hsettled
      rw [if_neg hnot]
      refine run_bind.mpr ⟨(), s₂, hupdate, ?_⟩
      unfold completeFinalizedRequest
      cases hstatus : command.requestTerminalStatus with
      | none =>
        simp only [finalizeCommand, hstatus]
        exact run_pure.mpr ⟨rfl, rfl⟩
      -- the request has to end as the command says, and it has
      | some status =>
        obtain ⟨execution, hexecution, hended, hcode, houtput⟩ := hterminal status hstatus
        simp only [finalizeCommand, hstatus]
        refine run_read_bind.mpr ⟨attempt.identity.executionOwnerId, ?_, ?_⟩
        · simp only [finalizationDecision, hfind₂]
          rfl
        · unfold requestExecutionTerminalArbiter
          have hexecution₂ : s₂.database.requestExecutions.find? attempt.identity.requestId =
              some execution := by
            rw [hexecutions]
            exact hexecution
          refine run_read_bind.mpr ⟨some execution, congrArg Except.ok hexecution₂, ?_⟩
          have hterminal' : execution.status.terminal? = some status := by
            rw [hended]
            rfl
          simp only [hterminal']
          refine check_eq_ok.mpr ⟨rejectIf_eq_ok.mpr ?_, rfl⟩
          exact not_not.mpr ⟨trivial, hcode, houtput⟩
  refine ⟨s', ?_⟩
  unfold settleFinalUsage
  exact run_check_bind.mpr ⟨(), hvalid, run_read_bind.mpr ⟨_, rfl, run_read_bind.mpr
    ⟨_, lockSettlement_of_expected hfind hlog hready hcontract hexpected, run_bind.mpr
      ⟨settled, s₁, hbilling, run_bind.mpr ⟨(), s', hcomplete, run_pure.mpr ⟨rfl, rfl⟩⟩⟩⟩⟩⟩

/-- The attempt of a command waits for its final usage, with the evidence of the command, and its
request has ended the way the command ends it, if the command does. -/
def Waits (db : Database) (command : SettleProviderInvocationCommand) : Prop :=
  ∃ attempt, db.requestProviderAttempts.find? command.providerAttemptId = some attempt ∧
    attempt.usageSettled = false ∧ truthy attempt.reconciliationReason ≠ none ∧
    HasEvidence attempt command.outcome (command.toProviderAttemptEvidence.expected attempt) ∧
    TerminalAgrees db attempt command

/-- A finalization, live or by reconciliation (once the request has ended), settles the attempt
whenever billing can book its usage. -/
def Accepts (settings : Settings) (db : Database) (command : SettleProviderInvocationCommand) :
    Prop :=
  ∀ (attempt : RequestProviderAttempt) (log : RequestLog) (requireReconciliation : Bool)
    (now : Timestamp) (s s₁ : Session Database) (settled : InvocationBillingSettlementResult),
    db.requestProviderAttempts.find? command.providerAttemptId = some attempt →
    db.requestLogs.find? attempt.identity.requestId = some log →
    (requireReconciliation = true → log.endedAt.isSome) →
    validateUsage command.usage = .ok () → s.database = db →
    settleInvocationBilling settings.localeCompare
      (settlementInput db command .settled now attempt) s = .ok (settled, s₁) →
    s₁.writesLeft ≠ some 0 →
    ∃ s', settleFinalUsage settings command .settled requireReconciliation
        (if requireReconciliation then none else some .cpaBasicV1) now s = .ok (settled, s') ∧
      ∃ fact, SettledAs s'.database command none fact

/-- A finalization of the same attempt with the same evidence, that ends the request as the command
does or not at all.  The usage may be another one. -/
structure FinalizesAgain (command again : SettleProviderInvocationCommand) : Prop where
  attempt : again.providerAttemptId = command.providerAttemptId
  evidence : again.toProviderAttemptEvidence = command.toProviderAttemptEvidence
  terminal : again.requestTerminalStatus = none ∨
    again.requestTerminalStatus = command.requestTerminalStatus ∧
      again.requestTerminalErrorCode = command.requestTerminalErrorCode

/-- A live settlement that failed leaves the attempt in reconciliation with the evidence of the
command, and every later finalization with this evidence, the command itself included, is
accepted. -/
def KeepsEvidence (settings : Settings) (db : Database)
    (command : SettleProviderInvocationCommand) : Prop :=
  Waits db command ∧ ∀ (more : List Input) (again : SettleProviderInvocationCommand),
    FinalizesAgain command again → Accepts settings (Machine.final (step settings) db more) again

/-- A claimless attempt has the evidence of a command. -/
def HasCommandEvidence (db : Database) (command : SettleProviderInvocationCommand) : Prop :=
  ∃ attempt, db.requestProviderAttempts.find? command.providerAttemptId = some attempt ∧
    attempt.invocationContract = .cpaBasicV1 ∧
    HasEvidence attempt command.outcome (command.toProviderAttemptEvidence.expected attempt) ∧
    TerminalAgrees db attempt command

theorem HasCommandEvidence.again {again : SettleProviderInvocationCommand}
    (h : HasCommandEvidence db command) (hagain : FinalizesAgain command again) :
    HasCommandEvidence db again := by
  obtain ⟨attempt, hfind, hcontract, hevidence, hterminal⟩ := h
  have houtcome : again.outcome = command.outcome :=
    congrArg ProviderAttemptEvidence.outcome hagain.evidence
  have houtput : again.outputCommitted = command.outputCommitted :=
    congrArg ProviderAttemptEvidence.outputCommitted hagain.evidence
  refine ⟨attempt, hagain.attempt ▸ hfind, hcontract, ?_, ?_⟩
  · rw [houtcome, hagain.evidence]
    exact hevidence
  · intro status hstatus
    rcases hagain.terminal with hnone | ⟨hsame, hcode⟩
    · rw [hnone] at hstatus
      cases hstatus
    · rw [hcode, houtput]
      exact hterminal status (hsame ▸ hstatus)

/-- An execution that has ended stays so. -/
theorem TerminalAgrees.step (h : TerminalAgrees db attempt command) (hchange : CoreChange db db')
    (hidentity : new.identity = attempt.identity) : TerminalAgrees db' new command := by
  intro status hstatus
  obtain ⟨execution, hfind, hended, hrest⟩ := h status hstatus
  refine ⟨execution, ?_, hended, hrest⟩
  rw [hidentity]
  refine hchange.keeps_ended hfind ?_
  rw [hended]
  exact Option.some_ne_none _

/-- No step takes the evidence back. -/
theorem Transition.keeps_commandEvidence (h : Transition input db db')
    (hdb : HasCommandEvidence db command) : HasCommandEvidence db' command := by
  obtain ⟨attempt, hfind, hcontract, hevidence, hterminal⟩ := hdb
  rcases h.coreChange.keeps_attempt hfind with hsame | ⟨new, hnew, hchange⟩
  · exact ⟨attempt, hsame, hcontract, hevidence, hterminal.step h.coreChange rfl⟩
  · obtain ⟨houtcome, hclass, hreason, houtput⟩ := hevidence
    have hended : attempt.outcome ≠ none := by
      rw [houtcome]
      exact Option.some_ne_none _
    obtain ⟨houtcome', hclass', hreason', houtput'⟩ := hchange.keeps_evidence hended
    have hmaterial := hchange.keeps.2.2.2
    refine ⟨new, hnew, (Occupations.contract_eq hmaterial).trans hcontract,
      ⟨houtcome'.trans houtcome, hclass'.trans hclass, ?_, houtput'.trans houtput⟩,
      hterminal.step h.coreChange hchange.keeps.2.1⟩
    rw [hreason', hreason]
    change _ = (command.failureReason <|> new.failureReason)
    rw [hreason', hreason]
    change (command.failureReason <|> attempt.failureReason) =
      (command.failureReason <|> (command.failureReason <|> attempt.failureReason))
    cases command.failureReason <;> rfl

/-- An attempt with the evidence of a command accepts the command. -/
theorem Coherent.accepts (hdb : Coherent initial db) (hevidence : HasCommandEvidence db command) :
    Accepts settings db command := by
  obtain ⟨attempt, hfind, hcontract, hhas, hterminal⟩ := hevidence
  intro found log requireReconciliation now s s₁ settled hfound hlog hended hvalid hsame hbilling
    hwrites
  cases hfind.symm.trans hfound
  have hwell := hdb.wellEnded attempt (Table.mem_of_find? hfind)
  have houtcome : attempt.outcome ≠ none := by
    rw [hhas.1]
    exact Option.some_ne_none _
  have hexpected : ∀ conflict, expectedEvidence attempt command.toProviderAttemptEvidence conflict =
      .ok (command.toProviderAttemptEvidence.expected attempt) := by
    intro conflict
    refine expectedEvidence_eq_ok.mpr ⟨rfl, ?_, .inr hhas⟩
    rw [← hhas.2.2.1]
    rcases hwell.reason with hfailed | hnone
    · exact .inl (Option.some.inj (hhas.1.symm.trans hfailed))
    · exact .inr hnone
  have hready : requireReconciliation = true → attempt.usageSettled = false →
      truthy attempt.reconciliationReason ≠ none ∧ reconciliationReady db attempt log := by
    intro hrequire hunsettled
    have hreason := (hwell.waiting houtcome).resolve_left (by simp [hunsettled])
    refine ⟨hreason, ?_⟩
    simp only [reconciliationReady, hcontract]
    exact hended hrequire
  have hcontracts : ∀ c ∈ (if requireReconciliation then none else
      some InvocationContract.cpaBasicV1), attempt.invocationContract = c := by
    intro c hc
    cases requireReconciliation with
    | true => cases hc
    | false =>
      cases hc
      exact hcontract
  subst hsame
  obtain ⟨s', hsettle⟩ := settleFinalUsage_returns hdb.occupations.factsMatch hvalid hfind hlog
    hready hcontracts hexpected hterminal hbilling hwrites
  obtain ⟨fact, replayed, hsettledAs, -⟩ :=
    settleFinalUsage_settledAs hdb.occupations.factsMatch hsettle
  obtain ⟨attempt', hfind', hsettled', -, hexpected'⟩ := hsettledAs.attempt
  exact ⟨s', hsettle, fact, hsettledAs.valid, hsettledAs.stored, hsettledAs.usage,
    attempt', hfind', hsettled', fun c hc => (nomatch hc), hexpected'⟩

/-- A waiting claimless attempt accepts its evidence in every later database. -/
theorem Coherent.keepsEvidence (hdb : Coherent initial db)
    {command : SettleProviderInvocationCommand} (hwaits : Waits db command)
    (hcontract : ∀ attempt,
      db.requestProviderAttempts.find? command.providerAttemptId = some attempt →
        attempt.invocationContract = .cpaBasicV1) : KeepsEvidence settings db command := by
  refine ⟨hwaits, ?_⟩
  intro more again hagain
  obtain ⟨attempt, hfind, -, -, hhas, hterminal⟩ := hwaits
  refine (coherent_final hdb more).accepts (HasCommandEvidence.again ?_ hagain)
  refine @final_keeps initial db settings (fun later => HasCommandEvidence later command) ?_ hdb
    ⟨attempt, hfind, hcontract attempt hfind, hhas, hterminal⟩ more
  intro input before after _ htransition hbefore
  exact htransition.keeps_commandEvidence hbefore

/-! ### The evidence that is kept -/

variable {failure : Transaction.Failure RelayError}

/-- A live settlement that failed changed nothing; its fallback ran on the same database. -/
theorem step_failedLiveSettlement {fallback : Environment}
    (hcommand : input.command = .settleCpaBasicLive command fallback)
    (hfailed : (step settings input db).1 = .error failure) :
    (step settings input db).2 = (commit (transitionFailedCpaBasicSettlement
      command.providerAttemptId (fallbackEvidence command) fallback.now)
      (fallback.session db)).2 := by
  unfold step at hfailed ⊢
  simp only [hcommand] at hfailed ⊢
  unfold settleCpaBasicLive at hfailed ⊢
  dsimp only at hfailed ⊢
  split at hfailed
  · cases hfailed
  · next first hsettled =>
      have hsame := commit_error hsettled
      change _ = db at hsame
      simp only [hsame]
      split <;> rfl

/-- What the fallback leaves of the attempt. -/
theorem Entered.attempt_after {command : ReconcileProviderInvocationCommand}
    (h : Entered db command now db')
    (hfind : db.requestProviderAttempts.find? command.providerAttemptRef = some attempt) :
    (db' = db ∧ alreadyReconciling attempt command) ∨
      ∃ expected, expected = command.toProviderAttemptEvidence.expected attempt ∧
        ¬alreadyReconciling attempt command ∧ assertReconciliationReason command.reason = .ok () ∧
        (attempt.outcome = none ∨ HasEvidence attempt command.outcome expected) ∧
        db'.requestProviderAttempts.find? command.providerAttemptRef =
          some (reconcilingAttempt command expected now attempt) := by
  cases h with
  | already found expected conflict hfound hexpected halready =>
    cases hfind.symm.trans hfound
    exact .inl ⟨rfl, halready⟩
  | transitioned found expected conflict hreason hfound hexpected hnot hexposure db₁ _ hupdated
      hmarked =>
    cases hfind.symm.trans hfound
    obtain ⟨hsame, -, hkeeps⟩ := expectedEvidence_eq_ok.mp hexpected
    refine .inr ⟨expected, hsame, hnot, hreason, hkeeps, ?_⟩
    have hattempts : db'.requestProviderAttempts = db₁.requestProviderAttempts := by
      cases hmarked <;> rfl
    have hid : attempt.id = command.providerAttemptRef := Table.key_of_find? hfind
    rw [hattempts, ← hid]
    exact hupdated.attempts.find?_self

/-! ### The request of the attempt -/

/-- What a reconciliation makes of the execution of its attempt: an open one is ended. -/
def reconciledExecution (command : ReconcileProviderInvocationCommand) (expected : ExpectedEvidence)
    (attempt : RequestProviderAttempt) (now : Timestamp) (execution : RequestExecution) :
    RequestExecution :=
  match execution.status.terminal? with
  | some _ => execution
  | none =>
    completedExecution {
      requestId := attempt.identity.requestId
      executionOwnerId := attempt.identity.executionOwnerId
      status := reconciledRequestStatus command.outcome
      terminalErrorCode := if command.outcome = .succeeded then none else some command.reason
      outputCommitted := expected.outputCommitted
      completedAt := now } execution

theorem completeReconciledRequest_after {command : ReconcileProviderInvocationCommand} {u : Unit}
    (hfind : s.database.requestExecutions.find? attempt.identity.requestId = some execution)
    (h : completeReconciledRequest command expected attempt execution.status now s = .ok (u, s')) :
    s'.database.requestExecutions.find? attempt.identity.requestId =
      some (reconciledExecution command expected attempt now execution) := by
  unfold completeReconciledRequest at h
  unfold reconciledExecution
  cases hstatus : execution.status.terminal? with
  | some status =>
    simp only [hstatus] at h
    obtain ⟨-, rfl⟩ := run_pure.mp h
    exact hfind
  | none =>
    simp only [hstatus] at h
    unfold requestExecutionTerminalArbiter at h
    obtain ⟨found, hfound, h⟩ := run_read_bind.mp h
    cases hfound
    simp only [hfind, hstatus] at h
    obtain ⟨_, -, h⟩ := run_check_bind.mp h
    obtain ⟨_, -, -, hset⟩ := update_eq_ok h
    rw [hset]
    have hkey : execution.requestId = attempt.identity.requestId := Table.key_of_find? hfind
    rw [← hkey] at hfind ⊢
    exact (Table.sets_modify hfind (completedExecution _) fun _ => rfl).find?_self

/-- A reconciliation that was not there already leaves the execution so. -/
theorem enterReconciliation_execution {command : ReconcileProviderInvocationCommand} {u : Unit}
    (hfind : s.database.requestProviderAttempts.find? command.providerAttemptRef = some attempt)
    (hexecution : s.database.requestExecutions.find? attempt.identity.requestId = some execution)
    (hnot : ¬alreadyReconciling attempt command)
    (h : enterReconciliation command now s = .ok (u, s')) :
    s'.database.requestExecutions.find? attempt.identity.requestId =
      some (reconciledExecution command (command.toProviderAttemptEvidence.expected attempt) attempt
        now execution) := by
  unfold enterReconciliation reconcileProviderInvocation at h
  obtain ⟨decision, s₁, hreconcile, h⟩ := run_bind.mp h
  obtain ⟨⟨found, expected, status⟩, hlock, hreconcile⟩ := run_read_bind.mp hreconcile
  obtain ⟨-, hfound, ⟨other, hother, hstatus⟩, hexpected⟩ := lockReconciliation_eq_ok hlock
  cases hfind.symm.trans hfound
  cases hexecution.symm.trans hother
  subst hstatus
  dsimp only at hreconcile
  rw [if_neg hnot] at hreconcile
  obtain ⟨_, -, hreconcile⟩ := run_check_bind.mp hreconcile
  obtain ⟨_, s₂, hupdate, hreconcile⟩ := run_bind.mp hreconcile
  obtain ⟨_, s₃, hended, hreconcile⟩ := run_bind.mp hreconcile
  obtain ⟨rfl, rfl⟩ := run_pure.mp hreconcile
  obtain ⟨_, -, -, hset⟩ := updateRequestProviderAttempt_eq_ok hupdate
  have hexecution₂ : s₂.database.requestExecutions.find? attempt.identity.requestId =
      some execution := by
    rw [hset]
    exact hexecution
  have hexecutions : s'.database.requestExecutions = s₁.database.requestExecutions := by
    have hmarked := markInvocationBillingReconciliation_eq_ok h
    generalize s'.database = after at hmarked ⊢
    cases hmarked <;> rfl
  rw [hexecutions, ← (expectedEvidence_eq_ok.mp hexpected).1]
  exact completeReconciledRequest_after hexecution₂ hended

/-- The command ends its request, if it does, the way the fallback leaves it: an ended execution as
it is, and an open one with the outcome of the command and a code of the fallback's own. -/
def EndsAlike (db : Database) (attempt : RequestProviderAttempt)
    (command : SettleProviderInvocationCommand) : Prop :=
  ∀ status ∈ command.requestTerminalStatus, ∃ execution,
    db.requestExecutions.find? attempt.identity.requestId = some execution ∧
    match execution.status.terminal? with
    | some ended => ended = status ∧
        execution.terminalErrorCode = command.requestTerminalErrorCode ∧
        execution.outputCommitted = command.outputCommitted.getD false
    | none => (attempt.outcome = none ∨ attempt.costExposure ≠ .stopped) ∧
        reconciledRequestStatus command.outcome = status ∧
        (if command.outcome = .succeeded then none else some "provider_usage_settlement_failed") =
          command.requestTerminalErrorCode ∧
        (execution.outputCommitted = true → command.outputCommitted.getD false = true)

theorem terminal?_eq_some {status : RequestExecutionStatus} {ended : RequestTerminalStatus} :
    status.terminal? = some ended ↔ status = .ended ended := by
  cases status <;> simp [RequestExecutionStatus.terminal?]

theorem TerminalAgrees.endsAlike (h : TerminalAgrees db attempt command) :
    EndsAlike db attempt command := by
  intro status hstatus
  obtain ⟨execution, hfind, hended, hrest⟩ := h status hstatus
  refine ⟨execution, hfind, ?_⟩
  rw [terminal?_eq_some.mpr hended]
  exact ⟨rfl, hrest⟩

/-- While the attempt is waiting already, both say the same. -/
theorem EndsAlike.terminalAgrees (h : EndsAlike db attempt command)
    (houtcome : attempt.outcome ≠ none) (hstopped : attempt.costExposure = .stopped) :
    TerminalAgrees db attempt command := by
  intro status hstatus
  obtain ⟨execution, hfind, hmatch⟩ := h status hstatus
  refine ⟨execution, hfind, ?_⟩
  cases hterminal : execution.status.terminal? with
  | some ended =>
    rw [hterminal] at hmatch
    obtain ⟨rfl, hrest⟩ := hmatch
    exact ⟨terminal?_eq_some.mp hterminal, hrest⟩
  | none =>
    rw [hterminal] at hmatch
    exact absurd hmatch.1 (not_or.mpr ⟨houtcome, not_not.mpr hstopped⟩)

/-- The reconciliation that a live settlement falls back on. -/
abbrev fallbackReconciliation (command : SettleProviderInvocationCommand) :
    ReconcileProviderInvocationCommand :=
  { fallbackEvidence command with
    providerAttemptRef := command.providerAttemptId
    costExposure := .stopped
    reason := "provider_usage_settlement_failed" }

/-- What the condition says of an execution before the fallback is what the agreement says of it
afterwards. -/
theorem terminalAgrees_iff_endsAlike {attempt new : RequestProviderAttempt}
    {command : SettleProviderInvocationCommand} {execution : RequestExecution} {now : Timestamp}
    (hidentity : new.identity = attempt.identity)
    (hpending : attempt.outcome = none ∨ attempt.costExposure ≠ .stopped)
    (hexecution : db.requestExecutions.find? attempt.identity.requestId = some execution)
    (hafter : db'.requestExecutions.find? attempt.identity.requestId =
      some (reconciledExecution (fallbackReconciliation command)
        ((fallbackEvidence command).expected attempt) attempt now execution)) :
    TerminalAgrees db' new command ↔ EndsAlike db attempt command := by
  refine forall₂_congr fun status _ => ?_
  rw [hidentity, hexecution, hafter]
  simp only [Option.some.injEq, exists_eq_left', reconciledExecution]
  cases hterminal : execution.status.terminal? with
  | some ended =>
    dsimp only
    rw [← terminal?_eq_some, hterminal, Option.some.injEq]
  | none =>
    have houtput : ∀ output before : Bool,
        (output || before) = output ↔ (before = true → output = true) := by decide
    simp only [completedExecution, RequestExecutionStatus.ended.injEq, hpending, true_and]
    exact and_congr_right fun _ => and_congr_right fun _ => houtput _ _

/-- A claimless attempt has no reservation. -/
theorem Coherent.unreserved (hdb : Coherent initial db) {id : String}
    (hfind : db.requestProviderAttempts.find? id = some attempt)
    (hcontract : attempt.invocationContract = .cpaBasicV1) :
    db.usageReservations.find? id = none := by
  cases hreservation : db.usageReservations.find? id with
  | none => rfl
  | some reservation =>
    obtain ⟨owner, howner, hprotected, -⟩ :=
      hdb.occupations.reservation reservation (Table.mem_of_find? hreservation)
    have hkey : reservation.providerAttemptId = id := Table.key_of_find? hreservation
    rw [hkey, hfind] at howner
    cases howner
    cases hcontract.symm.trans hprotected

theorem Coherent.keepsEvidence_iff (hdb : Coherent initial db) {fallback : Environment}
    (hfind : db.requestProviderAttempts.find? command.providerAttemptId = some attempt)
    (hcontract : attempt.invocationContract = .cpaBasicV1)
    (hcommand : input.command = .settleCpaBasicLive command fallback)
    (hfailed : (step settings input db).1 = .error failure)
    (hwrites : ∀ left, fallback.writesLeft = some left → 2 ≤ left) :
    KeepsEvidence settings (step settings input db).2 command ↔
      attempt.usageSettled = false ∧
        (attempt.outcome = none ∧ command.failureReason = none ∨
          HasEvidence attempt command.outcome
            (command.toProviderAttemptEvidence.expected attempt)) ∧
        EndsAlike db attempt command := by
  have hafter : Coherent initial (step settings input db).2 := step_coherent hdb
  have hkept := (hdb.transition settings input).coreChange.keeps_attempt hfind
  have hwell := hdb.wellEnded attempt (Table.mem_of_find? hfind)
  have hpending : attempt.outcome = none → attempt.failureReason = none := by
    intro hnone
    refine hwell.reason.resolve_left ?_
    rw [hnone]
    exact (Option.some_ne_none _).symm
  have hstep := step_failedLiveSettlement hcommand hfailed
  obtain ⟨execution, hexecution, -⟩ :=
    Option.map_eq_some_iff.mp (hdb.owned attempt (Table.mem_of_find? hfind))
  -- an attempt with an outcome that is not waiting yet has not stopped its cost
  have hpendingOr : attempt.usageSettled = false →
      ¬alreadyReconciling attempt (fallbackReconciliation command) →
        attempt.outcome = none ∨ attempt.costExposure ≠ .stopped := by
    intro hunsettled hnot
    by_contra hneither
    obtain ⟨houtcome, hstopped⟩ := not_or.mp hneither
    refine hnot (.inr ⟨houtcome, ?_, not_not.mp hstopped⟩)
    exact (hwell.waiting houtcome).resolve_left (by simp [hunsettled])
  generalize (step settings input db).2 = db' at hafter hkept hstep ⊢
  constructor
  · rintro ⟨⟨attempt', hfind', hunsettled, hreason, hhas, hterminal⟩, -⟩
    have hunchanged : db' = db → attempt.usageSettled = false ∧
        (attempt.outcome = none ∧ command.failureReason = none ∨
          HasEvidence attempt command.outcome
            (command.toProviderAttemptEvidence.expected attempt)) ∧
        EndsAlike db attempt command := by
      rintro rfl
      cases hfind.symm.trans hfind'
      exact ⟨hunsettled, .inr hhas, hterminal.endsAlike⟩
    cases hcommit : commit (transitionFailedCpaBasicSettlement command.providerAttemptId
        (fallbackEvidence command) fallback.now) (fallback.session db) with
    | mk result after =>
    rw [hcommit] at hstep
    subst hstep
    cases result with
    | error second =>
      have hsame := commit_error (congrArg Prod.fst hcommit)
      rw [hcommit] at hsame
      exact hunchanged hsame
    | ok u =>
      obtain ⟨s', hrun, hdb'⟩ := commit_ok (congrArg Prod.fst hcommit)
      rw [hcommit] at hdb'
      dsimp only at hdb'
      subst hdb'
      rcases (enterReconciliation_eq_ok hrun).attempt_after hfind with
        ⟨hsame, -⟩ | ⟨expected, hexpected, hnot, -, hkeeps, hreconciling⟩
      · exact hunchanged hsame
      · cases hreconciling.symm.trans hfind'
        have hends : EndsAlike db attempt command :=
          (terminalAgrees_iff_endsAlike rfl (hpendingOr hunsettled hnot) hexecution
            (enterReconciliation_execution hfind hexecution hnot hrun)).mp hterminal
        refine ⟨hunsettled, ?_, hends⟩
        obtain ⟨-, hclass, hsameReason, houtput⟩ := hhas
        -- the fallback left the reason of the attempt as it was
        have hold : attempt.failureReason =
            (command.failureReason <|> attempt.failureReason) := by
          have hleft : expected.failureReason = attempt.failureReason := by
            rw [hexpected]
            rfl
          have hright : expected.failureReason =
            (command.failureReason <|> expected.failureReason) := hsameReason
          rw [hleft] at hright
          exact hright
        rcases hkeeps with hnone | ⟨houtcome, hclass', -, houtput'⟩
        · refine .inl ⟨hnone, ?_⟩
          rw [hpending hnone] at hold
          cases hcommandReason : command.failureReason with
          | none => rfl
          | some reason =>
            rw [hcommandReason] at hold
            cases hold
        · exact .inr ⟨houtcome, hclass'.trans hclass, hold, houtput'.trans houtput⟩
  · rintro ⟨hunsettled, hcondition, hends⟩
    have hold : attempt.failureReason = (command.failureReason <|> attempt.failureReason) := by
      rcases hcondition with ⟨hnone, hcommandReason⟩ | ⟨-, -, hreason, -⟩
      · rw [hcommandReason]
        rfl
      · exact hreason
    have hexpected : ∀ conflict, expectedEvidence attempt (fallbackEvidence command) conflict =
        .ok ((fallbackEvidence command).expected attempt) := by
      intro conflict
      refine expectedEvidence_eq_ok.mpr ⟨rfl, ?_, ?_⟩
      · change command.outcome = .failed ∨ attempt.failureReason = none
        rcases hcondition with ⟨hnone, -⟩ | ⟨houtcome, -⟩
        · exact .inr (hpending hnone)
        · rcases hwell.reason with hfailed | hnone
          · exact .inl (Option.some.inj (houtcome.symm.trans hfailed))
          · exact .inr hnone
      · rcases hcondition with ⟨hnone, -⟩ | ⟨houtcome, hclass, -, houtput⟩
        · exact .inl hnone
        · exact .inr ⟨houtcome, hclass, rfl, houtput⟩
    have hreason : assertReconciliationReason "provider_usage_settlement_failed" = .ok () :=
      rejectIf_eq_ok.mpr (by decide)
    obtain ⟨s', hrun⟩ : ∃ s', transitionFailedCpaBasicSettlement command.providerAttemptId
        (fallbackEvidence command) fallback.now (fallback.session db) = .ok ((), s') :=
      @enterReconciliation_returns (fallback.session db) _ _ attempt _ hreason rfl hfind hunsettled
        hexpected hdb.owned (hdb.unreserved hfind hcontract) hwrites
    rw [commit_of_ok hrun] at hstep
    dsimp only at hstep
    subst hstep
    refine hafter.keepsEvidence ?_ ?_
    · rcases (enterReconciliation_eq_ok hrun).attempt_after hfind with
        ⟨hsame, halready⟩ | ⟨expected, rfl, hnot, hreason, -, hreconciling⟩
      · obtain ⟨hended, hreason, hstopped⟩ := halready.resolve_left (by simp [hunsettled])
        rw [hsame]
        exact ⟨attempt, hfind, hunsettled, hreason,
          hcondition.resolve_left fun hnone => hended hnone.1,
          hends.terminalAgrees hended hstopped⟩
      · refine ⟨_, hreconciling, hunsettled, truthy_reconciliationReason hreason,
          ⟨rfl, rfl, hold, rfl⟩, ?_⟩
        exact (terminalAgrees_iff_endsAlike rfl (hpendingOr hunsettled hnot) hexecution
          (enterReconciliation_execution hfind hexecution hnot hrun)).mpr hends
    · intro attempt' hfind'
      rcases hkept with hsame | ⟨new, hnew, hchange⟩
      · cases hsame.symm.trans hfind'
        exact hcontract
      · cases hnew.symm.trans hfind'
        exact (Occupations.contract_eq hchange.keeps.2.2.2).trans hcontract

/-- **Evidence.** After every run, a live settlement that fails keeps its evidence exactly when the
attempt is unsettled, is either pending while the command names no failure reason or has this very
evidence already, and the command ends its request, if at all, as the fallback leaves it. -/
theorem failedLiveSettlement_keepsEvidence_iff (settings : Settings)
    (configuration : Configuration) (creditAccounts : Table CreditAccount)
    (requestLogs : Table RequestLog) (inputs : List Input) (input : Input)
    (command : SettleProviderInvocationCommand) (fallback : Environment)
    (attempt : RequestProviderAttempt) (failure : Transaction.Failure RelayError)
    (hfind : (reached settings configuration creditAccounts requestLogs
      inputs).requestProviderAttempts.find? command.providerAttemptId = some attempt)
    (hcontract : attempt.invocationContract = .cpaBasicV1)
    (hcommand : input.command = .settleCpaBasicLive command fallback)
    (hfailed : (step settings input
      (reached settings configuration creditAccounts requestLogs inputs)).1 = .error failure)
    (hwrites : ∀ left, fallback.writesLeft = some left → 2 ≤ left) :
    KeepsEvidence settings (step settings input
        (reached settings configuration creditAccounts requestLogs inputs)).2 command ↔
      attempt.usageSettled = false ∧
        (attempt.outcome = none ∧ command.failureReason = none ∨
          HasEvidence attempt command.outcome
            (command.toProviderAttemptEvidence.expected attempt)) ∧
        EndsAlike (reached settings configuration creditAccounts requestLogs inputs) attempt
          command :=
  (reached_coherent settings configuration creditAccounts requestLogs inputs).keepsEvidence_iff
    hfind hcontract hcommand hfailed hwrites

/-! ### A failure reason that is lost -/

/-- A claimless admission on the plain catalogue. -/
def plainBasicAdmission (requestId : String) : AdmitCpaBasicProviderInvocationCommand :=
  { plainIdentity requestId with
    providerAttemptId := none
    planId := "plan"
    planSubscriptionId := "subscription"
    apiKeyId := "key"
    userId := "user"
    requestedServiceTier := "standard"
    requireServiceTier := false
    billablePriceSource := .accessPoint
    billablePriceId := "price"
    providerModelCostId := "cost"
    accessPointPriceIds := ["price"]
    usageChargeAccountId := none }

/-- A request that is admitted and dispatched. -/
def dispatchedInputs : List Input := [
  ⟨plainEnvironment "1" 1, .acquireLease "request" "owner" 60⟩,
  ⟨plainEnvironment "2" 2, .admitCpaBasic (plainBasicAdmission "request")⟩,
  ⟨plainEnvironment "3" 3, .assertDispatchOwnership "provider_attempt_2" "request" "owner"⟩]

/-- A settlement of a failed attempt, with its reason. -/
def unauthorizedSettlement : SettleProviderInvocationCommand where
  outcome := .failed
  failureClass := some .nonRetryable
  failureReason := some .authUnauthorized
  outputCommitted := none
  providerAttemptId := "provider_attempt_2"
  usage := zeroUsage
  requestTerminalStatus := none
  requestTerminalErrorCode := none

/-- The settlement loses its connection before the first write. -/
def interruptedSettlement : Input :=
  ⟨{ plainEnvironment "4" 4 with writesLeft := some 0 },
    .settleCpaBasicLive unauthorizedSettlement (plainEnvironment "5" 5)⟩

/-- The database in which the settlement is interrupted. -/
def dispatchedDatabase : Database :=
  reached plainSettings (plainConfiguration "prepaid") Table.empty
    (Table.empty.put (plainLog "request")) dispatchedInputs

/-- The same settlement again, over a connection that holds. -/
def repeatedSettlement : Input :=
  ⟨plainEnvironment "6" 6, .settleCpaBasicLive unauthorizedSettlement (plainEnvironment "7" 7)⟩

/-- The attempt was dispatched, its settlement fails and so does the same one again, since the
reason was not kept. -/
theorem failureReason_lost :
    (dispatchedDatabase.requestProviderAttempts.find? "provider_attempt_2").map
        (·.costExposure) = some .accruing ∧
      (step plainSettings interruptedSettlement dispatchedDatabase).1.toOption.isNone ∧
      ¬KeepsEvidence plainSettings (step plainSettings interruptedSettlement dispatchedDatabase).2
        unauthorizedSettlement ∧
      (step plainSettings repeatedSettlement
        (step plainSettings interruptedSettlement dispatchedDatabase).2).1.toOption.isNone := by
  refine ⟨by decide, by decide, ?_, by decide⟩
  rintro ⟨⟨attempt, hfind, -, -, ⟨-, -, hreason, -⟩, -⟩, -⟩
  have hlost : ((step plainSettings interruptedSettlement
      dispatchedDatabase).2.requestProviderAttempts.find? "provider_attempt_2").map
        (·.failureReason) = some none := by
    decide
  have hfind' : (step plainSettings interruptedSettlement
      dispatchedDatabase).2.requestProviderAttempts.find? "provider_attempt_2" = some attempt :=
    hfind
  rw [hfind'] at hlost
  have hnone : attempt.failureReason = none := Option.some.inj hlost
  rw [hnone] at hreason
  cases hreason

/-- The condition decides the run above. -/
theorem failedLiveSettlement_keepsEvidence_iff_unauthorized :
    ∃ attempt, attempt.usageSettled = false ∧
      (KeepsEvidence plainSettings (step plainSettings interruptedSettlement
        dispatchedDatabase).2 unauthorizedSettlement ↔ attempt.usageSettled = false ∧
        (attempt.outcome = none ∧ unauthorizedSettlement.failureReason = none ∨
          HasEvidence attempt unauthorizedSettlement.outcome
            (unauthorizedSettlement.toProviderAttemptEvidence.expected attempt)) ∧
        EndsAlike dispatchedDatabase attempt unauthorizedSettlement) := by
  have hsome : ((dispatchedDatabase.requestProviderAttempts.find?
      unauthorizedSettlement.providerAttemptId).map fun attempt =>
        (attempt.invocationContract, attempt.usageSettled)) = some (.cpaBasicV1, false) := by
    decide
  obtain ⟨attempt, hfind, hshape⟩ := Option.map_eq_some_iff.mp hsome
  have hfailed : ∃ failure, (step plainSettings interruptedSettlement dispatchedDatabase).1 =
      .error failure := by
    have hnone : (step plainSettings interruptedSettlement
        dispatchedDatabase).1.toOption.isNone := by
      decide
    cases hresult : (step plainSettings interruptedSettlement dispatchedDatabase).1 with
    | error failure => exact ⟨failure, rfl⟩
    | ok answer =>
      rw [hresult] at hnone
      cases hnone
  obtain ⟨failure, hfailed⟩ := hfailed
  refine ⟨attempt, congrArg Prod.snd hshape, ?_⟩
  refine failedLiveSettlement_keepsEvidence_iff plainSettings (plainConfiguration "prepaid")
    Table.empty (Table.empty.put (plainLog "request")) dispatchedInputs interruptedSettlement
    unauthorizedSettlement (plainEnvironment "5" 5) attempt failure hfind
    (congrArg Prod.fst hshape) rfl hfailed ?_
  intro left hleft
  cases hleft

end Frely.Application
