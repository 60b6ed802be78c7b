import Frely.Lib.Transaction
import Frely.Postgres.Schema

/-!
# Writes and the checks of the database

Every write of the invocation tables goes through `create` or `update`, which refuse it when the
primary key is taken (or missing) or when a unique index, a check or a trigger of the migrations
rejects it.  The `accepts…` functions are those rules, one for each kind of write.
-/

namespace Frely.Postgres

open Frely.Billing Frely.RequestExecution Transaction

abbrev TransactionClient := Txn Database RelayError

/-- One table of the database. -/
structure TableOf (ρ : Type) [Keyed ρ String] where
  get : Database → Table ρ
  set : Database → Table ρ → Database

variable {ρ : Type} [Keyed ρ String]

def create (table : TableOf ρ) (accepts : Database → ρ → Bool) (row : ρ) :
    TransactionClient Unit :=
  write fun db =>
    if accepts db row then ((table.get db).insert? row).map (table.set db) else none

def update (table : TableOf ρ) (accepts : Database → ρ → ρ → Bool) (key : String) (f : ρ → ρ)
    (hf : ∀ row, Keyed.key (f row) = Keyed.key row) : TransactionClient Unit :=
  write fun db =>
    match (table.get db).find? key with
    | none => none
    | some row =>
      if accepts db row (f row) then some (table.set db ((table.get db).modify key f hf)) else none

variable {table : TableOf ρ} {s : Session Database}

theorem create_eq_ok {accepts : Database → ρ → Bool} {row : ρ} {u : Unit} {s' : Session Database}
    (h : create table accepts row s = .ok (u, s')) :
    accepts s.database row ∧ ∃ rows, (table.get s.database).insert? row = some rows ∧
      s'.database = table.set s.database rows := by
  have hwrite := write_eq_ok h
  split_ifs at hwrite with haccepts
  obtain ⟨rows, hrows, hset⟩ := Option.map_eq_some_iff.mp hwrite
  exact ⟨haccepts, rows, hrows, hset.symm⟩

variable {accepts : Database → ρ → ρ → Bool}

theorem update_eq_ok {key : String} {f : ρ → ρ} {hf : ∀ row, Keyed.key (f row) = Keyed.key row}
    {u : Unit} {s' : Session Database} (h : update table accepts key f hf s = .ok (u, s')) :
    ∃ row, (table.get s.database).find? key = some row ∧ accepts s.database row (f row) ∧
      s'.database = table.set s.database ((table.get s.database).modify key f hf) := by
  have hwrite := write_eq_ok h
  split at hwrite
  · cases hwrite
  · next row hrow =>
      split_ifs at hwrite with haccepts
      exact ⟨row, hrow, haccepts, (Option.some.inj hwrite).symm⟩

theorem update_of_accepted {key : String} {f : ρ → ρ}
    {hf : ∀ row, Keyed.key (f row) = Keyed.key row} {row : ρ}
    (hfind : (table.get s.database).find? key = some row)
    (haccepts : accepts s.database row (f row)) (hwrites : s.writesLeft ≠ some 0) :
    update table accepts key f hf s = .ok ((), { s with
      database := table.set s.database ((table.get s.database).modify key f hf)
      writesLeft := s.writesLeft.map (· - 1) }) := by
  apply write_of_some _ hwrites
  rw [hfind]
  exact if_pos haccepts

/-- A write that no rule but the keys restricts. -/
def acceptsAny (_ : Database) (_ : ρ) : Bool := true

/-! ### Request execution -/

def requestExecutions : TableOf RequestExecution where
  get := Database.requestExecutions
  set db rows := { db with requestExecutions := rows }

def requestProviderAttempts : TableOf RequestProviderAttempt where
  get := Database.requestProviderAttempts
  set db rows := { db with requestProviderAttempts := rows }

/-- `friday_relay_guard_request_execution_plan_source`. -/
def acceptsExecution (db : Database) (row : RequestExecution) : Bool :=
  match db.requestLogs.find? row.requestId with
  | none => true
  | some log => log.planSubscriptionId.all (· = row.selectedPlanSubscriptionId)

def createRequestExecution : RequestExecution → TransactionClient Unit :=
  create requestExecutions acceptsExecution

def updateRequestExecution (requestId : String) (f : RequestExecution → RequestExecution)
    (hf : ∀ row, (f row).requestId = row.requestId) : TransactionClient Unit :=
  update requestExecutions (fun _ _ _ => true) requestId f hf

/-- The length of a text in characters, as the checks of the database count. -/
def characterLength (text : String) : Nat := text.toList.length

/-- The checks of the two shapes of an attempt. -/
def acceptsTerms (material : ProviderAttemptPersistenceMaterial) : Bool :=
  match material.terms with
  | .protectedV1 terms =>
    0 ≤ terms.inputTokens && 0 < terms.maxOutputTokens && 1 ≤ terms.tokenizerVersion &&
      1 ≤ characterLength terms.preparationEvidenceId &&
      characterLength terms.preparationEvidenceId ≤ 256 && 1 ≤ terms.preparationEvidenceVersion &&
      1 ≤ characterLength terms.preparedPayloadId && characterLength terms.preparedPayloadId ≤ 256
  | .cpaBasicV1 terms =>
    (if material.planBillingMode = "paygo" then terms.usageChargeAccountId.isSome
      else terms.usageChargeAccountId.isNone) &&
      terms.accessPointPriceProfilesJson.length ≠ 0

/-- Its index and its candidate are new in its request, its Provider model is the one of its
Provider and model name, and its terms have one of the two shapes. -/
def acceptsAttempt (db : Database) (row : RequestProviderAttempt) : Bool :=
  (db.requestProviderAttempts.rows.all fun other =>
    other.identity.requestId ≠ row.identity.requestId ||
      (other.identity.attemptIndex ≠ row.identity.attemptIndex &&
        other.identity.candidate.candidateId ≠ row.identity.candidate.candidateId)) &&
  (match db.configuration.providerModels.find? fun model =>
      model.providerId = row.identity.candidate.providerId &&
        model.providerModelName = row.identity.candidate.providerModelName with
    | none => false
    | some model => model.id = row.identity.candidate.providerModelId) &&
  (row.material.planBillingMode = "prepaid" || row.material.planBillingMode = "paygo") &&
  acceptsTerms row.material

def createRequestProviderAttempt : RequestProviderAttempt → TransactionClient Unit :=
  create requestProviderAttempts acceptsAttempt

/-- The fields that a failed, an aborted and a succeeded attempt may have. -/
def acceptsFailure (outcome : ProviderAttemptOutcome) (row : RequestProviderAttempt) : Bool :=
  match outcome with
  | .failed => row.failureClass.isSome
  | .succeeded => row.failureClass.isNone && row.failureReason.isNone
  | .aborted => row.failureClass.isNone && row.failureReason.isNone

/-- `friday_relay_validate_provider_attempt_terminal`. -/
def acceptsAttemptUpdate (_ : Database) (old new : RequestProviderAttempt) : Bool :=
  match new.outcome with
  | none =>
    old.outcome = none && old.costExposure = .notStarted && new.costExposure = .accruing &&
      new.endedAt = none && new.failureClass = none && new.failureReason = none &&
      new.trustedUsageSource = none && !new.usageSettled && new.finalUsageEvidence = .pending
  | some outcome =>
    !old.usageSettled && new.endedAt.isSome && acceptsFailure outcome new &&
      (old.outcome = none || new.failureReason = old.failureReason) &&
      (new.usageSettled || new.finalUsageEvidence = .pending ||
        (new.invocationContract = .cpaBasicV1 && new.costExposure = .notStarted &&
          new.finalUsageEvidence = .absent)) &&
      (!new.usageSettled || (new.costExposure = .stopped && new.finalUsageEvidence = .final &&
        new.trustedUsageSource.isSome))

def updateRequestProviderAttempt (id : String)
    (f : RequestProviderAttempt → RequestProviderAttempt) (hf : ∀ row, (f row).id = row.id) :
    TransactionClient Unit :=
  update requestProviderAttempts acceptsAttemptUpdate id f hf

/-! ### Billing -/

def budgetClaims : TableOf BudgetClaim where
  get := Database.budgetClaims
  set db rows := { db with budgetClaims := rows }

/-- `friday_relay_sync_request_execution_plan_source` for a claim or a fact. -/
def acceptsPlanSource (db : Database) (providerAttemptId : String)
    (references : FinalBillingReferences) (isFact : Bool) : Bool :=
  match db.requestProviderAttempts.find? providerAttemptId with
  | none => false
  | some attempt =>
    references.requestId = attempt.identity.requestId &&
      match attempt.material.terms with
      | .cpaBasicV1 terms => isFact && references.planSubscriptionId = terms.planSubscriptionId
      | .protectedV1 _ =>
        match db.requestExecutions.find? attempt.identity.requestId with
        | none => false
        | some execution => references.planSubscriptionId = execution.selectedPlanSubscriptionId

/-- `friday_relay_guard_budget_claim_lifecycle` for an insert. -/
def acceptsClaim (db : Database) (row : BudgetClaim) : Bool :=
  (match db.requestProviderAttempts.find? row.providerAttemptId with
    | none => false
    | some attempt =>
      attempt.invocationContract = .protectedV1 && row.createdAt = attempt.startedAt) &&
  0 < row.maxTotalTokens && 0 ≤ row.maxChargeUnits &&
  acceptsPlanSource db row.providerAttemptId row.references false

def createBudgetClaim : BudgetClaim → TransactionClient Unit := create budgetClaims acceptsClaim

/-- A claim can be deleted only when final usage replaces it. -/
def deleteBudgetClaim (providerAttemptId : String) : TransactionClient Unit :=
  write fun db =>
    if (db.budgetClaims.find? providerAttemptId).isSome &&
        (db.providerInvocationUsageFacts.find? providerAttemptId).isSome then
      some { db with budgetClaims := db.budgetClaims.erase providerAttemptId }
    else none

def usageReservations : TableOf UsageReservation where
  get := Database.usageReservations
  set db rows := { db with usageReservations := rows }

/-- `friday_relay_guard_usage_reservation_lifecycle` for an insert. -/
def acceptsReservation (db : Database) (row : UsageReservation) : Bool :=
  (db.usageReservations.rows.all fun other => other.id ≠ row.id) &&
  (match db.requestProviderAttempts.find? row.providerAttemptId with
    | none => false
    | some attempt =>
      row.createdAt = attempt.startedAt &&
        match attempt.material.terms with
        | .cpaBasicV1 _ => false
        | .protectedV1 terms =>
          row.inputTokens = terms.inputTokens && row.maxOutputTokens = terms.maxOutputTokens &&
            row.tokenizerId = terms.tokenizerId &&
            row.tokenizerVersion = terms.tokenizerVersion &&
            row.preparationEvidenceId = terms.preparationEvidenceId &&
            row.preparationEvidenceVersion = terms.preparationEvidenceVersion &&
            row.preparedPayloadId = terms.preparedPayloadId) &&
  row.status = .active && 0 ≤ row.reservationUnits && row.heldUnits = row.reservationUnits

def createUsageReservation : UsageReservation → TransactionClient Unit :=
  create usageReservations acceptsReservation

/-- What the final usage has to say for a reservation to end. -/
def acceptsReservationEnd (db : Database) (new : UsageReservation) : Bool :=
  match db.providerInvocationUsageFacts.find? new.providerAttemptId with
  | none => false
  | some fact =>
    new.postingLedgerEventId = fact.postingLedgerEventId &&
      (new.status ≠ .released ||
        (fact.usage.inputTokens = 0 && fact.usage.cachedInputTokens = 0 &&
          fact.usage.cacheWriteTokens = 0 && fact.usage.outputTokens = 0 &&
          fact.usage.totalTokens = 0 && fact.actualChargeUnits = 0 &&
          fact.postingLedgerEventId = none))

/-- `friday_relay_guard_usage_reservation_lifecycle` for an update. -/
def acceptsReservationUpdate (db : Database) (old new : UsageReservation) : Bool :=
  old.status.isOpen && (old.status = .active || new.status ≠ .active) &&
    0 ≤ new.heldUnits && new.heldUnits ≤ new.reservationUnits &&
    (new.status.isOpen || (new.heldUnits = 0 && acceptsReservationEnd db new))

def updateUsageReservation (providerAttemptId : String) (f : UsageReservation → UsageReservation)
    (hf : ∀ row, (f row).providerAttemptId = row.providerAttemptId) : TransactionClient Unit :=
  update usageReservations acceptsReservationUpdate providerAttemptId f hf

def providerInvocationUsageFacts : TableOf ProviderInvocationUsageFact where
  get := Database.providerInvocationUsageFacts
  set db rows := { db with providerInvocationUsageFacts := rows }

def acceptsFact (db : Database) (row : ProviderInvocationUsageFact) : Bool :=
  (db.providerInvocationUsageFacts.rows.all fun other =>
    other.billingEventId ≠ row.billingEventId) &&
  0 ≤ row.usage.inputTokens && 0 ≤ row.usage.cachedInputTokens &&
  0 ≤ row.usage.cacheWriteTokens && 0 ≤ row.usage.outputTokens && 0 ≤ row.usage.totalTokens &&
  0 ≤ row.actualChargeUnits && row.usage.totalTokens =
    row.usage.inputTokens + row.usage.outputTokens &&
  acceptsPlanSource db row.providerAttemptId row.references true

def createProviderInvocationUsageFact : ProviderInvocationUsageFact → TransactionClient Unit :=
  create providerInvocationUsageFacts acceptsFact

def billingEvents : TableOf BillingEvent where
  get := Database.billingEvents
  set db rows := { db with billingEvents := rows }

def createBillingEvent : BillingEvent → TransactionClient Unit := create billingEvents acceptsAny

def billingHistoryRefs : TableOf BillingHistoryRef where
  get := Database.billingHistoryRefs
  set db rows := { db with billingHistoryRefs := rows }

def createBillingHistoryRef : BillingHistoryRef → TransactionClient Unit :=
  create billingHistoryRefs acceptsAny

def billingProviderCostEvents : TableOf BillingProviderCostEvent where
  get := Database.billingProviderCostEvents
  set db rows := { db with billingProviderCostEvents := rows }

/-- An attempt has one cost event. -/
def createBillingProviderCostEvent : BillingProviderCostEvent → TransactionClient Unit :=
  create billingProviderCostEvents fun db row =>
    db.billingProviderCostEvents.rows.all fun other =>
      other.providerAttemptId ≠ row.providerAttemptId

def billingAccessPointEdges : TableOf BillingAccessPointEdge where
  get := Database.billingAccessPointEdges
  set db rows := { db with billingAccessPointEdges := rows }

def createBillingAccessPointEdge : BillingAccessPointEdge → TransactionClient Unit :=
  create billingAccessPointEdges acceptsAny

def sellerSettlementEvents : TableOf SellerSettlementEvent where
  get := Database.sellerSettlementEvents
  set db rows := { db with sellerSettlementEvents := rows }

/-- A source has one settlement of each type in a window. -/
def createSellerSettlementEvent : SellerSettlementEvent → TransactionClient Unit :=
  create sellerSettlementEvents fun db row =>
    db.sellerSettlementEvents.rows.all fun other =>
      other.eventType ≠ row.eventType || other.sourceId ≠ row.sourceId ||
        other.windowStart ≠ row.windowStart

def creditLedgerEvents : TableOf CreditLedgerEvent where
  get := Database.creditLedgerEvents
  set db rows := { db with creditLedgerEvents := rows }

/-- An attempt is charged once. -/
def acceptsLedgerEvent (db : Database) (row : CreditLedgerEvent) : Bool :=
  db.creditLedgerEvents.rows.all fun other => other.providerAttemptId ≠ row.providerAttemptId

def createCreditLedgerEvent : CreditLedgerEvent → TransactionClient Unit :=
  create creditLedgerEvents acceptsLedgerEvent

def creditAccounts : TableOf CreditAccount where
  get := Database.creditAccounts
  set db rows := { db with creditAccounts := rows }

def updateCreditAccount (id : String) (f : CreditAccount → CreditAccount)
    (hf : ∀ row, (f row).id = row.id) : TransactionClient Unit :=
  update creditAccounts (fun _ _ _ => true) id f hf

end Frely.Postgres
