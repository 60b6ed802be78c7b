import Frely.Application.Equiv.ExactlyOnce
import Frely.Application.Equiv.Leases

/-!
# Releasing an attempt that did not start

`releaseNotStarted` closes an attempt with zero usage on the word of its caller: the gateway sends
it when the transport says that the Provider was not reached, which it learns after the dispatch
was owned (`released_after_dispatch`).  `release_closes` says what a release leaves: no charge, no
ledger event, no open reservation, and an attempt that no dispatch owns any more.
-/

namespace Frely.Application

open Frely.Billing Frely.Postgres Frely.RequestExecution Checked Transaction

variable {initial : Table CreditAccount} {db db' : Database} {settings : Settings} {input : Input}

/-- What a release leaves of an attempt. -/
structure Released (db : Database) (command : ReleaseNotStartedCommand) (db' : Database) :
    Prop where
  /-- it repeats an earlier settlement without usage, or closes an attempt that has none -/
  first : db' = db ∨ ∃ attempt, attempt.usageSettled = false ∧
    db.requestProviderAttempts.find? command.providerAttemptId = some attempt
  fact : ∃ fact, db'.providerInvocationUsageFacts.find? command.providerAttemptId = some fact ∧
    fact.usage = zeroUsage ∧ fact.actualChargeUnits = 0 ∧ fact.postingLedgerEventId = none
  uncharged : ∀ entry ∈ db'.creditLedgerEvents,
    entry.providerAttemptId ≠ command.providerAttemptId
  ledger : db'.creditLedgerEvents = db.creditLedgerEvents
  balances : db'.creditAccounts = db.creditAccounts
  reservation : ∀ reservation,
    db'.usageReservations.find? command.providerAttemptId = some reservation →
      reservation.status.isOpen = false ∧ reservation.heldUnits = 0
  attempt : ∃ attempt, db'.requestProviderAttempts.find? command.providerAttemptId = some attempt ∧
    attempt.usageSettled = true ∧ attempt.outcome ≠ none ∧ attempt.costExposure = .stopped

theorem zeroUsage_noTokens : NoTokens zeroUsage := ⟨rfl, rfl, rfl, rfl⟩

variable {fact : ProviderInvocationUsageFact}

/-- A settlement without tokens posts nothing. -/
theorem Settled.unposted {settlement : SettleInvocationBillingInput}
    (h : Settled db settlement fact db') (hnone : NoTokens settlement.usage) :
    db'.creditLedgerEvents = db.creditLedgerEvents ∧ db'.creditAccounts = db.creditAccounts := by
  have hcharge := h.charge
  have hfree := h.free hnone
  generalize db'.creditLedgerEvents = ledger' at hcharge ⊢
  generalize db'.creditAccounts = accounts' at hcharge ⊢
  cases hcharge with
  | nothing hposting hunreserved => exact ⟨rfl, rfl⟩
  | posted posting hposting hpositive => omega

variable {result : InvocationBillingSettlementResult}

/-- What a settlement without tokens leaves of ledger and balances. -/
theorem SettlementAnswered.unposted {command : SettleProviderInvocationCommand}
    {zeroReservationOutcome : ZeroReservationOutcome} {now : Timestamp}
    (h : SettlementAnswered db command zeroReservationOutcome now result db')
    (hnone : NoTokens command.usage) :
    (db' = db ∨ ∃ attempt, attempt.usageSettled = false ∧
      db.requestProviderAttempts.find? command.providerAttemptId = some attempt) ∧
      db'.creditLedgerEvents = db.creditLedgerEvents ∧
      db'.creditAccounts = db.creditAccounts := by
  cases h with
  | replayed fact hfind husage => exact ⟨.inl rfl, rfl, rfl⟩
  | settled fact _ hfinal =>
    obtain ⟨attempt, expected, conflict, db₁, _, hfind, hunsettled, hexpected, hsettled,
      hupdated⟩ := hfinal
    obtain ⟨hledger, haccounts⟩ := Settled.unposted hsettled hnone
    have hframe := hupdated.frame
    refine ⟨.inr ⟨attempt, hunsettled, hfind⟩, ?_, ?_⟩
    · rw [hframe]
      exact hledger
    · rw [hframe]
      exact haccounts

variable {command : ReleaseNotStartedCommand}

/-- An attempt that was settled without tokens. -/
theorem SettledAs.released (h : SettledAs db' (releaseCommand command) none fact)
    (hdb' : Coherent initial db') {now : Timestamp}
    (hanswered : SettlementAnswered db (releaseCommand command) .released now result db') :
    Released db command db' := by
  have husage : fact.usage = zeroUsage := h.usage
  have hstored : db'.providerInvocationUsageFacts.find? command.providerAttemptId = some fact :=
    h.stored
  obtain ⟨hcharge, hposting⟩ := Books.nothing_posted hdb'.books (Table.mem_of_find? hstored)
    (husage ▸ zeroUsage_noTokens)
  obtain ⟨hfirst, hledger, haccounts⟩ := hanswered.unposted zeroUsage_noTokens
  obtain ⟨attempt, hfind, hsettled, -⟩ := h.attempt
  have hended := hdb'.wellEnded attempt (Table.mem_of_find? hfind)
  refine ⟨hfirst, ⟨fact, hstored, husage, hcharge, hposting⟩, ?_, hledger, haccounts, ?_,
    ⟨attempt, hfind, hsettled, hended.outcome hsettled, hended.exposure hsettled⟩⟩
  · intro entry hentry hsame
    obtain ⟨booked, hbooked, hposted, -, -⟩ := hdb'.books.ofEntry entry hentry
    rw [hsame] at hbooked
    cases hstored.symm.trans hbooked
    rw [hposting] at hposted
    cases hposted
  · intro reservation hreservation
    have hmem : reservation ∈ db'.usageReservations := Table.mem_of_find? hreservation
    obtain ⟨owner, howner, -, hopen⟩ := hdb'.occupations.reservation reservation hmem
    have hkey : reservation.providerAttemptId = command.providerAttemptId :=
      Table.key_of_find? hreservation
    rw [hkey] at howner
    cases hfind.symm.trans howner
    rw [hsettled] at hopen
    exact ⟨hopen, (hdb'.occupations.held reservation hmem).2 hopen⟩

/-- What a release that was answered did. -/
theorem Coherent.released (hdb : Coherent initial db)
    (hcommand : input.command = .releaseNotStarted command) {answer : Answer}
    (hok : (step settings input db).1 = .ok answer) :
    Released db command (step settings input db).2 := by
  have hafter : Coherent initial (step settings input db).2 := step_coherent hdb
  have hsettlement : input.command.settlement? = some (releaseCommand command) := by
    rw [hcommand]
    rfl
  obtain ⟨fact, replayed, hsettled, -, -⟩ := hdb.settledAs_of_answer hsettlement hok
  rw [hcommand] at hsettled
  unfold step at hok hafter hsettled ⊢
  simp only [hcommand] at hok hafter hsettled ⊢
  rcases execute_cases input.environment db .settled
    (releaseNotStarted settings command input.environment.now) with
    ⟨failure, hrun⟩ | ⟨result, s', hresult, hrun⟩
  · rw [hrun] at hok
    cases hok
  · rw [hrun] at hafter hsettled ⊢
    obtain ⟨settled, hanswered, -⟩ := releaseNotStarted_eq_ok hdb.occupations.factsMatch hresult
    exact SettledAs.released hsettled hafter hanswered

/-- An attempt whose exposure has not started was not owned, nor given up, by any step. -/
theorem not_owned_of_notStarted (hdb : Coherent initial db) {inputs : List Input} {id : String}
    (hnot : ¬Started id (Machine.final (step settings) db inputs)) :
    ∀ taken ∈ Machine.trace (step settings) db inputs, answersOwned id taken = false := by
  intro taken htaken
  by_contra howned
  exact hnot (started_of_owned hdb ⟨taken, htaken, Bool.eq_true_of_not_eq_false howned⟩)

/-- **Release.** A release that is answered closes the attempt for good without a charge; while the
exposure of the attempt has not started, no dispatch has been owned.  The arbitration asks for one
on the evidence that nothing started. -/
theorem release_closes (settings : Settings) (configuration : Configuration)
    (creditAccounts : Table CreditAccount) (requestLogs : Table RequestLog) (inputs : List Input) :
    let start := initialDatabase configuration creditAccounts requestLogs
    let db := Machine.final (step settings) start inputs
    (∀ (input : Input) (command : ReleaseNotStartedCommand) (answer : Answer),
      input.command = .releaseNotStarted command → (step settings input db).1 = .ok answer →
      Released db command (step settings input db).2 ∧
        ∀ more, (Machine.trace (step settings) (step settings input db).2 more).countP
          (answersOwned command.providerAttemptId) = 0) ∧
      (∀ id, ¬Started id db →
        ∀ taken ∈ Machine.trace (step settings) start inputs, answersOwned id taken = false) ∧
      ∀ evidence : ProviderAttemptFailureArbitrationInput,
        (arbitrateProviderAttemptFailure evidence).settlement = .releaseNotStarted ↔
          evidence.costExposure = .notStarted ∧ evidence.finalUsageEvidence = .absent ∧
            evidence.hasTrustedFinalUsage = false := by
  intro start db
  have hstart : Coherent creditAccounts start :=
    initialDatabase_coherent configuration creditAccounts requestLogs
  have hdb : Coherent creditAccounts db := coherent_final hstart inputs
  refine ⟨?_, ?_, arbitrateProviderAttemptFailure_release⟩
  · intro input command answer hcommand hok
    have hreleased := hdb.released hcommand hok
    refine ⟨hreleased, ?_⟩
    obtain ⟨attempt, hfind, -, -, hexposure⟩ := hreleased.attempt
    have hstarted : Started command.providerAttemptId (step settings input db).2 := by
      refine ⟨attempt, hfind, ?_⟩
      rw [hexposure]
      exact ProviderCostExposure.noConfusion
    exact never_owned_of_started (step_coherent hdb) hstarted
  · intro id hnot
    exact not_owned_of_notStarted hstart hnot

/-! ### A release after a dispatch -/

/-- A step that answers a release of an attempt. -/
def answersReleased (id : String) (taken : TakenStep) : Bool :=
  match taken.input.command, taken.output with
  | .releaseNotStarted command, .ok _ => command.providerAttemptId = id
  | _, _ => false

/-- Attempts are dispatched, or released, but not both. -/
def NeverBoth (settings : Settings) (db : Database) (inputs : List Input) : Prop :=
  ∀ id, (∃ taken ∈ Machine.trace (step settings) db inputs, answersReleased id taken) →
    ¬∃ taken ∈ Machine.trace (step settings) db inputs, answersOwned id taken

/-- A request that is admitted, dispatched and released. -/
def releasedInputs : List Input := [
  ⟨plainEnvironment "1" 1, .acquireLease "request" "owner" 60⟩,
  ⟨plainEnvironment "2" 2, .admitProtected (plainAdmission "request" 100 (some "account"))⟩,
  ⟨plainEnvironment "3" 3, .assertDispatchOwnership "provider_attempt_2" "request" "owner"⟩,
  ⟨plainEnvironment "4" 4, .releaseNotStarted
    ⟨⟨.failed, none, none, none⟩, "provider_attempt_2", none, none⟩⟩]

theorem released_after_dispatch :
    ¬NeverBoth plainSettings (plainDatabase (plainConfiguration "paygo") 100 ["request"])
      releasedInputs := by
  intro h
  have hcount : (Machine.trace (step plainSettings)
      (plainDatabase (plainConfiguration "paygo") 100 ["request"]) releasedInputs).countP
        (answersReleased "provider_attempt_2") = 1 ∧
      (Machine.trace (step plainSettings)
        (plainDatabase (plainConfiguration "paygo") 100 ["request"]) releasedInputs).countP
        (answersOwned "provider_attempt_2") = 1 := by
    decide +kernel
  obtain ⟨hreleased, howned⟩ := hcount
  refine h "provider_attempt_2" (List.countP_pos_iff.mp ?_) (List.countP_pos_iff.mp ?_)
  · rw [hreleased]
    exact Nat.one_pos
  · rw [howned]
    exact Nat.one_pos

end Frely.Application
