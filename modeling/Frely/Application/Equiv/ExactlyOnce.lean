import Frely.Application.Equiv.StateMachine

/-!
# Settlement, exactly once

`SettledOnce` is what every database of a run says about facts, billing events, the ledger and
claims.  A settlement of an attempt that has a fact changes nothing: it answers the stored result or
fails (`ReplaysStored`), and the command that was answered once is answered again, in every later
database, with the result that was stored (`RepeatsStored`).
-/

namespace Frely.Application

open Frely.Billing Frely.Postgres Frely.RequestExecution Checked Transaction

/-- The settlement that a command asks for. -/
def Command.settlement? : Command → Option SettleProviderInvocationCommand
  | .settleFinalUsage command => some command
  | .settleCpaBasicLive command _ => some command
  | .reconcileFinalUsage command => some command.toSettleProviderInvocationCommand
  | .releaseNotStarted command => some (releaseCommand command)
  | _ => none

/-- The same command with another environment for the fallback of a live settlement. -/
def Command.withFallback (fallback : Environment) : Command → Command
  | .settleCpaBasicLive command _ => .settleCpaBasicLive command fallback
  | command => command

/-- Every attempt has at most one fact, billing event and ledger event; their amounts agree, the
balances are the ledger, and a protected attempt has a claim exactly when it has no fact. -/
structure SettledOnce (initial : Table CreditAccount) (db : Database) : Prop where
  fact : ∀ fact ∈ db.providerInvocationUsageFacts, ∀ other ∈ db.providerInvocationUsageFacts,
    fact.providerAttemptId = other.providerAttemptId → fact = other
  event : ∀ fact ∈ db.providerInvocationUsageFacts, ∃! event, event ∈ db.billingEvents ∧
    event.id = fact.billingEventId
  ofEvent : ∀ event ∈ db.billingEvents, ∃! fact, fact ∈ db.providerInvocationUsageFacts ∧
    fact.billingEventId = event.id
  entry : ∀ entry ∈ db.creditLedgerEvents, ∀ other ∈ db.creditLedgerEvents,
    entry.providerAttemptId = other.providerAttemptId → entry = other
  amount : ∀ entry ∈ db.creditLedgerEvents, ∃ fact,
    db.providerInvocationUsageFacts.find? entry.providerAttemptId = some fact ∧
      entry.amountUnits = -fact.actualChargeUnits
  balanced : Balanced initial db.creditAccounts db.creditLedgerEvents
  claim : ∀ attempt ∈ db.requestProviderAttempts, attempt.invocationContract = .protectedV1 →
    ((db.budgetClaims.find? attempt.id).isSome ↔
      db.providerInvocationUsageFacts.find? attempt.id = none)

/-- A settlement of an attempt that has a fact fails or repeats the fact. -/
def ReplaysStored (settings : Settings) (db : Database) : Prop :=
  ∀ input command fact, input.command.settlement? = some command →
    db.providerInvocationUsageFacts.find? command.providerAttemptId = some fact →
    (step settings input db).2 = db ∧
      ((∃ failure, (step settings input db).1 = .error failure) ∨
        fact.usage = command.usage ∧
          (step settings input db).1 = .ok (.settled (storedSettlement fact)))

/-- A settlement that was answered stores the answer, and is answered so from then on. -/
def RepeatsStored (settings : Settings) (db : Database) : Prop :=
  ∀ input command answer, input.command.settlement? = some command →
    (step settings input db).1 = .ok answer →
    ∃ fact replayed,
      (step settings input db).2.providerInvocationUsageFacts.find? command.providerAttemptId =
        some fact ∧
      fact.usage = command.usage ∧
      answer = .settled { storedSettlement fact with replayed := replayed } ∧
      ∀ (more : List Input) (fallback : Environment) (again : Input),
        again.command = input.command.withFallback fallback →
        again.environment.writesLeft ≠ some 0 →
        step settings again (Machine.final (step settings) (step settings input db).2 more) =
          (.ok (.settled (storedSettlement fact)),
            Machine.final (step settings) (step settings input db).2 more)

variable {initial : Table CreditAccount} {db db' : Database} {settings : Settings} {input : Input}

/-! ### In one database -/

theorem Coherent.settledOnce (h : Coherent initial db) : SettledOnce initial db := by
  constructor
  · intro fact hfact other hother hsame
    exact Table.eq_of_key_eq hfact hother hsame
  · intro fact hfact
    obtain ⟨event, hfind, -, -⟩ := h.books.billed fact hfact
    have hid : event.id = fact.billingEventId := Table.key_of_find? hfind
    refine ⟨event, ⟨Table.mem_of_find? hfind, hid⟩, ?_⟩
    rintro other ⟨hother, hid'⟩
    exact Table.eq_of_key_eq hother (Table.mem_of_find? hfind) (hid'.trans hid.symm)
  · intro event hevent
    obtain ⟨fact, hfact, hid⟩ := h.books.ofEvent event hevent
    refine ⟨fact, ⟨hfact, hid⟩, ?_⟩
    rintro other ⟨hother, hid'⟩
    exact h.books.once other hother fact hfact (hid'.trans hid.symm)
  · intro entry hentry other hother hsame
    exact h.books.one_entry hentry hother hsame
  · intro entry hentry
    obtain ⟨fact, hfind, -, -, hamount⟩ := h.books.ofEntry entry hentry
    exact ⟨fact, hfind, hamount⟩
  · exact h.balanced
  · intro attempt hattempt hprotected
    have hsettled := h.occupations.settled attempt hattempt
    constructor
    · intro hclaim
      obtain ⟨claim, hfind⟩ := Option.isSome_iff_exists.mp hclaim
      obtain ⟨found, hfound, -, hunsettled⟩ :=
        h.occupations.claim claim (Table.mem_of_find? hfind)
      have hkey : claim.providerAttemptId = attempt.id := Table.key_of_find? hfind
      rw [hkey] at hfound
      cases (Table.find?_of_mem hattempt).symm.trans hfound
      rw [hunsettled] at hsettled
      exact Option.isNone_iff_eq_none.mp (Option.isSome_eq_false_iff.mp hsettled.symm)
    · intro hnone
      rw [hnone] at hsettled
      obtain ⟨claim, hclaim⟩ := h.occupations.claimed attempt hattempt hprotected hsettled
      exact Option.isSome_iff_exists.mpr ⟨claim, hclaim⟩

/-! ### Replays -/

variable {fact : ProviderInvocationUsageFact} {now : Timestamp}
  {command : SettleProviderInvocationCommand} {zeroReservationOutcome : ZeroReservationOutcome}
  {result : InvocationBillingSettlementResult}

/-- An attempt with final usage does not go back to reconciliation. -/
theorem Entered.eq_of_fact {command : ReconcileProviderInvocationCommand}
    (h : Entered db command now db') (hmatch : FactsMatch db)
    (hfact : db.providerInvocationUsageFacts.find? command.providerAttemptRef = some fact) :
    db' = db := by
  cases h with
  | already attempt expected conflict hfind hexpected halready => rfl
  | transitioned attempt expected conflict hreason hfind hexpected hnot hexposure db₁ _ hupdated
      hmarked =>
    have hsettled := hmatch attempt (Table.mem_of_find? hfind)
    have hid : attempt.id = command.providerAttemptRef := Table.key_of_find? hfind
    rw [hid, hfact] at hsettled
    exact absurd (Or.inl hsettled) hnot

/-- What a settlement of an attempt that has a fact answers. -/
def AnswersStored (db : Database) (command : SettleProviderInvocationCommand)
    (fact : ProviderInvocationUsageFact)
    (answered : Result InvocationBillingSettlementResult × Database) : Prop :=
  answered.2 = db ∧ ((∃ failure, answered.1 = .error failure) ∨
    fact.usage = command.usage ∧ answered.1 = .ok (storedSettlement fact))

theorem SettlementAnswered.answersStored
    (h : SettlementAnswered db command zeroReservationOutcome now result db')
    (hmatch : FactsMatch db)
    (hfact : db.providerInvocationUsageFacts.find? command.providerAttemptId = some fact) :
    db' = db ∧ fact.usage = command.usage ∧ result = storedSettlement fact := by
  cases h with
  | replayed found hfind husage =>
    cases hfact.symm.trans hfind
    exact ⟨rfl, husage, rfl⟩
  | settled found _ hfinal =>
    obtain ⟨attempt, expected, conflict, db₁, _, hfind, hunsettled, -, -, -⟩ := hfinal
    have hsettled := hmatch attempt (Table.mem_of_find? hfind)
    have hid : attempt.id = command.providerAttemptId := Table.key_of_find? hfind
    rw [hid, hfact, hunsettled] at hsettled
    cases hsettled

theorem settleCpaBasicLive_answersStored {command : SettleProviderInvocationCommand}
    {environment fallback : Environment} {fact : ProviderInvocationUsageFact}
    (hmatch : FactsMatch db)
    (hfact : db.providerInvocationUsageFacts.find? command.providerAttemptId = some fact) :
    AnswersStored db command fact
      (settleCpaBasicLive settings command environment fallback db) := by
  unfold settleCpaBasicLive
  dsimp only
  split
  · next result hsettled =>
      obtain ⟨s', hrun, hcommitted⟩ := commit_ok hsettled
      obtain ⟨hsame, husage, rfl⟩ :=
        (settleFinalUsage_eq_ok hmatch hrun).answersStored hmatch hfact
      exact ⟨hcommitted.trans hsame, .inr ⟨husage, rfl⟩⟩
  · next failure hsettled =>
      have hsame := commit_error hsettled
      change _ = db at hsame
      rw [hsame]
      -- the fallback finds the attempt settled
      have hkept : db = (commit (transitionFailedCpaBasicSettlement command.providerAttemptId
          (fallbackEvidence command) fallback.now) (fallback.session db)).2 := by
        refine commit_preserves rfl fun {u s'} h => ?_
        exact ((enterReconciliation_eq_ok h).eq_of_fact hmatch hfact).symm
      split
      · exact ⟨hkept.symm, .inl ⟨_, rfl⟩⟩
      · exact ⟨hkept.symm, .inl ⟨_, rfl⟩⟩

/-- The result of a release is the stored one: without tokens there is no charge. -/
theorem releaseResult_eq (hdb : BooksOf db) (hfact : fact ∈ db.providerInvocationUsageFacts)
    (husage : fact.usage = zeroUsage) (replayed : Bool) :
    (⟨0, none, fact.billingEventId, replayed⟩ : InvocationBillingSettlementResult) =
      { storedSettlement fact with replayed := replayed } := by
  have hnone : NoTokens fact.usage := by
    rw [husage]
    exact ⟨rfl, rfl, rfl, rfl⟩
  obtain ⟨hcharge, hposting⟩ := Books.nothing_posted hdb hfact hnone
  rw [storedSettlement, hcharge, hposting]

/-- A settlement run as one transaction. -/
theorem execute_answersStored {command : SettleProviderInvocationCommand}
    {fact : ProviderInvocationUsageFact} {environment : Environment}
    {transaction : TransactionClient InvocationBillingSettlementResult}
    (h : ∀ {result : InvocationBillingSettlementResult} {s' : Session Database},
      transaction (environment.session db) = .ok (result, s') →
        s'.database = db ∧ fact.usage = command.usage ∧ result = storedSettlement fact) :
    (execute environment db .settled transaction).2 = db ∧
      ((∃ failure, (execute environment db .settled transaction).1 = .error failure) ∨
        fact.usage = command.usage ∧ (execute environment db .settled transaction).1 =
          .ok (.settled (storedSettlement fact))) := by
  rcases execute_cases environment db .settled transaction with
    ⟨failure, hrun⟩ | ⟨result, s', hok, hrun⟩
  · rw [hrun]
    exact ⟨rfl, .inl ⟨failure, rfl⟩⟩
  · obtain ⟨hsame, husage, rfl⟩ := h hok
    rw [hrun]
    exact ⟨hsame, .inr ⟨husage, rfl⟩⟩

/-- **Replays.** -/
theorem Coherent.replaysStored (hdb : Coherent initial db) (settings : Settings) :
    ReplaysStored settings db := by
  have hmatch := hdb.occupations.factsMatch
  intro input command fact hsettlement hfact
  unfold step
  dsimp only
  cases hcommand : input.command with
  | settleFinalUsage command' =>
    rw [hcommand] at hsettlement
    cases hsettlement
    exact execute_answersStored fun h =>
      (settleFinalUsage_eq_ok hmatch h).answersStored hmatch hfact
  | settleCpaBasicLive command' fallback =>
    rw [hcommand] at hsettlement
    cases hsettlement
    obtain ⟨hsame, hanswer⟩ := @settleCpaBasicLive_answersStored db settings command
      input.environment fallback fact hmatch hfact
    refine ⟨hsame, ?_⟩
    rcases hanswer with ⟨failure, herror⟩ | ⟨husage, hok⟩
    · exact .inl ⟨failure, congrArg (Except.map Answer.settled) herror⟩
    · exact .inr ⟨husage, congrArg (Except.map Answer.settled) hok⟩
  | reconcileFinalUsage command' =>
    rw [hcommand] at hsettlement
    cases hsettlement
    exact execute_answersStored fun h =>
      (reconcileFinalUsage_eq_ok hmatch h).answersStored hmatch hfact
  | releaseNotStarted command' =>
    rw [hcommand] at hsettlement
    cases hsettlement
    refine execute_answersStored fun h => ?_
    obtain ⟨settled, hanswered, rfl⟩ := releaseNotStarted_eq_ok hmatch h
    obtain ⟨hsame, husage, rfl⟩ := hanswered.answersStored hmatch hfact
    have hmem : fact ∈ db.providerInvocationUsageFacts := Table.mem_of_find? hfact
    exact ⟨hsame, husage, releaseResult_eq hdb.books hmem husage true⟩
  | _ =>
    rw [hcommand] at hsettlement
    cases hsettlement

/-! ### Repeats -/

variable {attempt : RequestProviderAttempt} {expected : ExpectedEvidence}
  {requireReconciliation : Bool}

/-- An attempt was settled with the usage and the evidence of a command. -/
structure SettledAs (db : Database) (command : SettleProviderInvocationCommand)
    (contract : Option InvocationContract) (fact : ProviderInvocationUsageFact) : Prop where
  valid : validateUsage command.usage = .ok ()
  stored : db.providerInvocationUsageFacts.find? command.providerAttemptId = some fact
  usage : fact.usage = command.usage
  attempt : ∃ attempt, db.requestProviderAttempts.find? command.providerAttemptId = some attempt ∧
    attempt.usageSettled = true ∧ (∀ c ∈ contract, attempt.invocationContract = c) ∧
    ∃ expected, ∀ conflict,
      expectedEvidence attempt command.toProviderAttemptEvidence conflict = .ok expected

/-- No later command takes that back. -/
theorem SettledAs.final {command : SettleProviderInvocationCommand}
    {contract : Option InvocationContract} {fact : ProviderInvocationUsageFact}
    (h : SettledAs db command contract fact) (hdb : Coherent initial db) (inputs : List Input) :
    SettledAs (Machine.final (step settings) db inputs) command contract fact := by
  refine @final_keeps initial db settings
    (fun later => SettledAs later command contract fact) ?_ hdb h inputs
  intro input before after _ htransition hbefore
  obtain ⟨attempt, hfind, hsettled, hevidence⟩ := hbefore.attempt
  exact {
    valid := hbefore.valid
    stored := htransition.billingChange.keeps_fact hbefore.stored
    usage := hbefore.usage
    attempt := ⟨attempt, htransition.coreChange.keeps_settled hfind hsettled, hsettled,
      hevidence⟩ }

/-- The finalized attempt has the evidence of the command that finalized it. -/
theorem expectedEvidence_finalizedAttempt {conflict : RelayError}
    (h : expectedEvidence attempt command.toProviderAttemptEvidence conflict = .ok expected)
    (conflict' : RelayError) :
    expectedEvidence (finalizedAttempt (finalizationDecision attempt expected)
      (finalizeCommand command) now attempt) command.toProviderAttemptEvidence conflict' =
        .ok expected := by
  obtain ⟨hexpected, hreason, -⟩ := expectedEvidence_eq_ok.mp h
  have hsame : expected = ProviderAttemptEvidence.expected command.toProviderAttemptEvidence
      (finalizedAttempt (finalizationDecision attempt expected) (finalizeCommand command) now
        attempt) := by
    rw [hexpected]
    unfold ProviderAttemptEvidence.expected
    congr 1
    change _ = (command.failureReason <|> (command.failureReason <|> attempt.failureReason))
    cases command.failureReason <;> rfl
  exact expectedEvidence_eq_ok.mpr ⟨hsame, hreason, .inr ⟨rfl, rfl, rfl, rfl⟩⟩

theorem settleFinalUsage_settledAs {command : SettleProviderInvocationCommand}
    {zeroReservationOutcome : ZeroReservationOutcome} {requireReconciliation : Bool}
    {contract : Option InvocationContract} {now : Timestamp} {s s' : Session Database}
    {result : InvocationBillingSettlementResult} (hmatch : FactsMatch s.database)
    (h : settleFinalUsage settings command zeroReservationOutcome requireReconciliation contract
      now s = .ok (result, s')) :
    ∃ fact replayed, SettledAs s'.database command contract fact ∧
      result = { storedSettlement fact with replayed := replayed } := by
  have hanswered := settleFinalUsage_eq_ok hmatch h
  unfold settleFinalUsage at h
  obtain ⟨_, hvalid, h⟩ := run_check_bind.mp h
  obtain ⟨account, -, h⟩ := run_read_bind.mp h
  obtain ⟨⟨decision, snapshot⟩, hlock, -⟩ := run_read_bind.mp h
  obtain ⟨locked, hlocked, hlock'⟩ := bind_eq_ok.mp hlock
  obtain ⟨_, hcontract, -⟩ := bind_eq_ok.mp hlock'
  obtain ⟨attempt, request, expected, hfind, -, -, hexpected, rfl⟩ := lockFinalization_eq_ok hlocked
  have hcontract' : ∀ c ∈ contract, attempt.invocationContract = c := by
    intro c hc
    by_contra hne
    exact rejectIf_eq_ok.mp hcontract ⟨c, hc, hne⟩
  have hfind' : s.database.requestProviderAttempts.find? command.providerAttemptId =
      some attempt := hfind
  generalize hdb : s'.database = db' at hanswered ⊢
  cases hanswered with
  | replayed fact hfact husage =>
    have hsettled := hmatch attempt (Table.mem_of_find? hfind')
    have hid : attempt.id = command.providerAttemptId := Table.key_of_find? hfind'
    rw [hid, hfact] at hsettled
    refine ⟨fact, true, ⟨hvalid, hfact, husage, attempt, hfind', hsettled, hcontract',
      expected, ?_⟩, rfl⟩
    -- what is accepted does not depend on the error
    intro conflict
    exact expectedEvidence_eq_ok.mpr (expectedEvidence_eq_ok.mp hexpected)
  | settled fact _ hfinal =>
    obtain ⟨found, expected', conflict, db₁, _, hfound, hunsettled, hexpected', hsettled,
      hupdated⟩ := hfinal
    cases hfind'.symm.trans hfound
    have hid : attempt.id = command.providerAttemptId := Table.key_of_find? hfind'
    refine ⟨fact, false, ⟨hvalid, ?_, hsettled.usage,
      finalizedAttempt (finalizationDecision attempt expected') (finalizeCommand command) now
        attempt, ?_, rfl, hcontract', expected', ?_⟩, rfl⟩
    · have hself := Table.find?_insert_self hsettled.facts
      have hfacts : db'.providerInvocationUsageFacts = db₁.providerInvocationUsageFacts := by
        rw [hupdated.frame]
      have hkey : Keyed.key fact = command.providerAttemptId := hsettled.attempt
      rw [hfacts, ← hkey]
      exact hself
    · rw [← hid]
      exact hupdated.attempts.find?_self
    · exact expectedEvidence_finalizedAttempt hexpected'

/-- Every attempt has a request log. -/
theorem Coherent.exists_requestLog (h : Coherent initial db)
    (hattempt : attempt ∈ db.requestProviderAttempts) :
    ∃ log, db.requestLogs.find? attempt.identity.requestId = some log := by
  obtain ⟨source, hsource⟩ := h.occupations.exists_recordedSource hattempt
  obtain ⟨log, hlog, -⟩ :=
    h.sources.logged _ _ (h.sources.recorded attempt hattempt source hsource)
  exact ⟨log, hlog⟩

/-- The locks of a settlement whose evidence is accepted are granted. -/
theorem lockSettlement_of_expected {command : SettleProviderInvocationCommand}
    {requireReconciliation : Bool} {contract : Option InvocationContract}
    {attempt : RequestProviderAttempt} {log : RequestLog} {expected : ExpectedEvidence}
    (hfind : db.requestProviderAttempts.find? command.providerAttemptId = some attempt)
    (hlog : db.requestLogs.find? attempt.identity.requestId = some log)
    (hready : requireReconciliation = true → attempt.usageSettled = false →
      truthy attempt.reconciliationReason ≠ none ∧ reconciliationReady db attempt log)
    (hcontract : ∀ c ∈ contract, attempt.invocationContract = c)
    (hexpected : ∀ conflict,
      expectedEvidence attempt command.toProviderAttemptEvidence conflict = .ok expected) :
    lockSettlement db command requireReconciliation contract =
      .ok (finalizationDecision attempt expected,
        billingAttemptSnapshot attempt attempt.startedAt) := by
  have hid : attempt.id = command.providerAttemptId := Table.key_of_find? hfind
  have hlocked : lockFinalization db (finalizeCommand command) requireReconciliation =
      .ok (finalizationDecision attempt expected) := by
    have hfind' : db.requestProviderAttempts.find?
        (finalizeCommand command).providerAttemptRef = some attempt := hfind
    unfold lockFinalization
    simp only [hfind', hlog]
    refine bind_eq_ok.mpr ⟨(), rejectIf_eq_ok.mpr ?_, ?_⟩
    · rintro ⟨hrequire, hunsettled, hnot⟩
      obtain ⟨hreason, hready⟩ := hready hrequire hunsettled
      rcases hnot with hnone | hnot
      · exact hreason hnone
      · exact Bool.false_ne_true (hnot.symm.trans hready)
    · exact bind_eq_ok.mpr ⟨expected, hexpected _, rfl⟩
  have hread : readInvocationBillingAttemptSnapshot db attempt.id attempt.startedAt =
      .ok (billingAttemptSnapshot attempt attempt.startedAt) := by
    unfold readInvocationBillingAttemptSnapshot
    rw [hid, hfind]
  refine bind_eq_ok.mpr ⟨_, hlocked, bind_eq_ok.mpr ⟨(), rejectIf_eq_ok.mpr ?_, ?_⟩⟩
  · rintro ⟨c, hc, hne⟩
    exact hne (hcontract c hc)
  · exact bind_eq_ok.mpr ⟨_, hread, rfl⟩

/-- The command is answered again, without a write. -/
theorem SettledAs.answers {command : SettleProviderInvocationCommand}
    {contract : Option InvocationContract} {fact : ProviderInvocationUsageFact}
    {s : Session Database} (h : SettledAs s.database command contract fact)
    (hdb : Coherent initial s.database) (zeroReservationOutcome : ZeroReservationOutcome)
    (requireReconciliation : Bool) (now : Timestamp) :
    settleFinalUsage settings command zeroReservationOutcome requireReconciliation contract now s =
      .ok (storedSettlement fact, s) := by
  obtain ⟨attempt, hfind, hsettled, hcontract, expected, hexpected⟩ := h.attempt
  obtain ⟨log, hlog⟩ := hdb.exists_requestLog (Table.mem_of_find? hfind)
  have hready : requireReconciliation = true → attempt.usageSettled = false →
      truthy attempt.reconciliationReason ≠ none ∧
        reconciliationReady s.database attempt log := by
    intro _ hunsettled
    cases hsettled.symm.trans hunsettled
  have hlock := lockSettlement_of_expected hfind hlog hready hcontract hexpected
  unfold settleFinalUsage
  refine run_check_bind.mpr ⟨(), h.valid, run_read_bind.mpr ⟨_, rfl, run_read_bind.mpr
    ⟨_, hlock, run_bind.mpr ⟨storedSettlement fact, s, ?_, run_bind.mpr ⟨(), s, ?_, ?_⟩⟩⟩⟩⟩
  · unfold settleInvocationBilling
    refine run_read_bind.mpr ⟨some fact, congrArg Except.ok h.stored, ?_⟩
    refine run_check_bind.mpr ⟨(), rejectIf_eq_ok.mpr ?_, run_pure.mpr ⟨rfl, rfl⟩⟩
    exact not_not.mpr h.usage
  · have hfinal : (finalizationDecision attempt expected).alreadyFinalized = true := hsettled
    unfold completeFinalization
    rw [if_pos hfinal]
    exact run_pure.mpr ⟨rfl, rfl⟩
  · exact run_pure.mpr ⟨rfl, rfl⟩

/-- The contract that a command wants an attempt to have. -/
def Command.contract : Command → Option InvocationContract
  | .settleCpaBasicLive _ _ => some .cpaBasicV1
  | _ => none

/-- A reconciliation comes with evidence that is accepted. -/
def Command.Evidenced (settings : Settings) (command : Command) : Prop :=
  ∀ reconcile, command = .reconcileFinalUsage reconcile →
    assertReconciliationEvidence settings reconcile = .ok ()

/-- A settlement that was answered. -/
theorem Coherent.settledAs_of_answer (hdb : Coherent initial db) {answer : Answer}
    (hsettlement : input.command.settlement? = some command)
    (hok : (step settings input db).1 = .ok answer) :
    ∃ fact replayed, SettledAs (step settings input db).2 command input.command.contract fact ∧
      input.command.Evidenced settings ∧
      answer = .settled { storedSettlement fact with replayed := replayed } := by
  have hmatch := hdb.occupations.factsMatch
  have hafter : Coherent initial (step settings input db).2 := step_coherent hdb
  unfold step at hok hafter ⊢
  dsimp only at hok hafter ⊢
  cases hcommand : input.command with
  | settleFinalUsage command' =>
    simp only [hcommand] at hok hsettlement ⊢
    cases hsettlement
    rcases execute_cases input.environment db .settled (settleFinalUsage settings command .settled
      false none input.environment.now) with ⟨failure, hrun⟩ | ⟨result, s', hresult, hrun⟩
    · rw [hrun] at hok
      cases hok
    · rw [hrun] at hok ⊢
      cases hok
      obtain ⟨fact, replayed, hsettled, rfl⟩ := settleFinalUsage_settledAs hmatch hresult
      exact ⟨fact, replayed, hsettled, fun _ h => (nomatch h), rfl⟩
  -- only the first transaction answers; when it fails, the fallback throws
  | settleCpaBasicLive command' fallback =>
    simp only [hcommand] at hok hsettlement ⊢
    cases hsettlement
    unfold settleCpaBasicLive at hok ⊢
    dsimp only at hok ⊢
    split at hok
    · next result hsettled =>
        cases hok
        obtain ⟨s', hrun, hcommitted⟩ := commit_ok hsettled
        obtain ⟨fact, replayed, hsettledAs, rfl⟩ := settleFinalUsage_settledAs hmatch hrun
        rw [hcommitted]
        exact ⟨fact, replayed, hsettledAs, fun _ h => (nomatch h), rfl⟩
    · split at hok
      · cases hok
      · cases hok
  -- the audit row after the settlement changes none of its tables
  | reconcileFinalUsage command' =>
    simp only [hcommand] at hok hsettlement ⊢
    cases hsettlement
    rcases execute_cases input.environment db .settled (reconcileFinalUsage settings command'
      input.environment.now) with ⟨failure, hrun⟩ | ⟨result, s', hresult, hrun⟩
    · rw [hrun] at hok
      cases hok
    · rw [hrun] at hok ⊢
      cases hok
      unfold reconcileFinalUsage at hresult
      obtain ⟨_, hevidence, hresult⟩ := run_check_bind.mp hresult
      obtain ⟨settled, s₁, hsettle, hresult⟩ := run_bind.mp hresult
      obtain ⟨_, s₂, haudit, hresult⟩ := run_bind.mp hresult
      obtain ⟨rfl, rfl⟩ := run_pure.mp hresult
      have hsame : s₁.database = s'.database := Option.some.inj (write_eq_ok haudit)
      obtain ⟨fact, replayed, hsettled, rfl⟩ := settleFinalUsage_settledAs hmatch hsettle
      refine ⟨fact, replayed, hsame ▸ hsettled, ?_, rfl⟩
      rintro _ ⟨⟩
      exact hevidence
  -- the answer of a release is the one of its settlement without usage
  | releaseNotStarted command' =>
    simp only [hcommand] at hok hsettlement hafter ⊢
    cases hsettlement
    rcases execute_cases input.environment db .settled (releaseNotStarted settings command'
      input.environment.now) with ⟨failure, hrun⟩ | ⟨result, s', hresult, hrun⟩
    · rw [hrun] at hok
      cases hok
    · rw [hrun] at hok hafter ⊢
      cases hok
      unfold releaseNotStarted at hresult
      obtain ⟨settled, s₁, hsettle, hresult⟩ := run_bind.mp hresult
      obtain ⟨rfl, rfl⟩ := run_pure.mp hresult
      obtain ⟨fact, replayed, hsettled, rfl⟩ := settleFinalUsage_settledAs hmatch hsettle
      have hmem : fact ∈ s'.database.providerInvocationUsageFacts :=
        Table.mem_of_find? hsettled.stored
      refine ⟨fact, replayed, hsettled, fun _ h => (nomatch h), ?_⟩
      exact congrArg Answer.settled (releaseResult_eq hafter.books hmem hsettled.usage replayed)
  | _ =>
    rw [hcommand] at hsettlement
    cases hsettlement

/-- And answered again. -/
theorem SettledAs.step {command : SettleProviderInvocationCommand}
    {fact : ProviderInvocationUsageFact}
    (h : SettledAs db command input.command.contract fact) (hdb : Coherent initial db)
    (hsettlement : input.command.settlement? = some command)
    (hevidence : input.command.Evidenced settings)
    (hwrites : input.environment.writesLeft ≠ some 0) :
    step settings input db = (.ok (.settled (storedSettlement fact)), db) := by
  unfold Application.step
  dsimp only
  have hrun : ∀ {environment : Environment}
      {transaction : TransactionClient InvocationBillingSettlementResult} {s' : Session Database},
      transaction (environment.session db) = .ok (storedSettlement fact, s') → s'.database = db →
        execute environment db .settled transaction =
          (.ok (.settled (storedSettlement fact)), db) := by
    intro environment transaction s' hok hsame
    unfold execute
    rw [commit_of_ok hok, hsame]
    rfl
  cases hcommand : input.command with
  | settleFinalUsage command' =>
    rw [hcommand] at h hsettlement
    cases hsettlement
    exact hrun (@SettledAs.answers initial settings command none fact
      (input.environment.session db) h hdb .settled false _) rfl
  | settleCpaBasicLive command' fallback =>
    rw [hcommand] at h hsettlement
    cases hsettlement
    have hok := @SettledAs.answers initial settings command (some .cpaBasicV1) fact
      (input.environment.session db) h hdb .settled false input.environment.now
    simp only [settleCpaBasicLive, commit_of_ok hok]
    rfl
  -- the audit row is written once more, and is not part of the state
  | reconcileFinalUsage command' =>
    rw [hcommand] at h hsettlement hevidence
    cases hsettlement
    have hok := @SettledAs.answers initial settings _ none fact (input.environment.session db) h
      hdb .settled true input.environment.now
    obtain ⟨s', haudit, hsame⟩ : ∃ s' : Session Database,
        recordAuditEvent (input.environment.session db) = .ok ((), s') ∧ s'.database = db := by
      unfold recordAuditEvent write
      exact ⟨_, if_neg hwrites, rfl⟩
    refine hrun (run_check_bind.mpr ⟨(), hevidence command' rfl, ?_⟩) hsame
    exact run_bind.mpr ⟨_, _, hok, run_bind.mpr ⟨_, _, haudit, run_pure.mpr ⟨rfl, rfl⟩⟩⟩
  | releaseNotStarted command' =>
    rw [hcommand] at h hsettlement
    cases hsettlement
    have hok := @SettledAs.answers initial settings _ none fact (input.environment.session db) h
      hdb .released false input.environment.now
    have hmem : fact ∈ db.providerInvocationUsageFacts := Table.mem_of_find? h.stored
    refine hrun (run_bind.mpr ⟨_, _, hok, run_pure.mpr ⟨?_, rfl⟩⟩) rfl
    exact (releaseResult_eq hdb.books hmem h.usage true).symm
  | _ =>
    rw [hcommand] at hsettlement
    cases hsettlement

/-- **Repeats.** -/
theorem Coherent.repeatsStored (hdb : Coherent initial db) (settings : Settings) :
    RepeatsStored settings db := by
  intro input command answer hsettlement hok
  obtain ⟨fact, replayed, hsettled, hevidence, rfl⟩ :=
    hdb.settledAs_of_answer hsettlement hok
  refine ⟨fact, replayed, hsettled.stored, hsettled.usage, rfl, ?_⟩
  intro more fallback again hagain hwrites
  have hafter : Coherent initial (step settings input db).2 := step_coherent hdb
  -- the fallback environment does not matter
  have hsame : again.command.settlement? = some command ∧
      again.command.contract = input.command.contract ∧ again.command.Evidenced settings := by
    rw [hagain]
    cases hcommand : input.command with
    | settleCpaBasicLive command' _ =>
      rw [hcommand] at hsettlement
      exact ⟨hsettlement, rfl, fun _ h => (nomatch h)⟩
    | _ =>
      rw [hcommand] at hsettlement hevidence
      exact ⟨hsettlement, rfl, hevidence⟩
  obtain ⟨hsettlement', hcontract, hevidence'⟩ := hsame
  have hlater := @SettledAs.final initial _ settings command _ fact hsettled hafter more
  rw [← hcontract] at hlater
  exact hlater.step (coherent_final hafter more) hsettlement' hevidence' hwrites

/-- **Exactly once.** After every run, whatever was settled is settled once and stays so. -/
theorem settlement_exactlyOnce (settings : Settings) (configuration : Configuration)
    (creditAccounts : Table CreditAccount) (requestLogs : Table RequestLog)
    (inputs : List Input) :
    SettledOnce creditAccounts
        (reached settings configuration creditAccounts requestLogs inputs) ∧
      ReplaysStored settings (reached settings configuration creditAccounts requestLogs inputs) ∧
      RepeatsStored settings (reached settings configuration creditAccounts requestLogs
        inputs) := by
  have hcoherent := reached_coherent settings configuration creditAccounts requestLogs inputs
  exact ⟨hcoherent.settledOnce, hcoherent.replaysStored settings,
    hcoherent.repeatsStored settings⟩

end Frely.Application
