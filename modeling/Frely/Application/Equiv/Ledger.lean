import Frely.Application.Equiv.Occupations

/-!
# Facts, billing events and the ledger

Every billing event and every ledger event belongs to one fact, with its
amounts (`Books`), and every balance is the initial one plus the ledger events of its account
(`Balanced`).  Only a settlement writes these tables (`Transition.books`, `Transition.balanced`).
-/

namespace Frely.Application

open Frely.Billing Frely.Postgres Frely.RequestExecution Checked Transaction

/-- The tables that settlements book in, tied to the facts. -/
structure Books (facts : Table ProviderInvocationUsageFact) (events : Table BillingEvent)
    (ledger : Table CreditLedgerEvent) : Prop where
  billed : ∀ fact ∈ facts, ∃ event, events.find? fact.billingEventId = some event ∧
    event.billableAmountUnits = fact.actualChargeUnits ∧ event.usage = fact.usage
  ofEvent : ∀ event ∈ events, ∃ fact ∈ facts, fact.billingEventId = event.id
  once : ∀ fact ∈ facts, ∀ other ∈ facts, fact.billingEventId = other.billingEventId → fact = other
  free : ∀ fact ∈ facts, NoTokens fact.usage → fact.actualChargeUnits = 0
  posted : ∀ fact ∈ facts, ∀ id, fact.postingLedgerEventId = some id →
    0 < fact.actualChargeUnits ∧ ∃ entry, ledger.find? id = some entry
  ofEntry : ∀ entry ∈ ledger, ∃ fact, facts.find? entry.providerAttemptId = some fact ∧
    fact.postingLedgerEventId = some entry.id ∧ entry.billingEventId = fact.billingEventId ∧
    entry.amountUnits = -fact.actualChargeUnits

variable {fact : ProviderInvocationUsageFact}

namespace Books

variable {facts facts' : Table ProviderInvocationUsageFact} {events events' : Table BillingEvent}
  {ledger ledger' : Table CreditLedgerEvent} {reservations : Table UsageReservation}
  {accounts accounts' : Table CreditAccount}

/-- An attempt has at most one ledger event. -/
theorem one_entry (h : Books facts events ledger) {entry other : CreditLedgerEvent}
    (hentry : entry ∈ ledger) (hother : other ∈ ledger)
    (hattempt : entry.providerAttemptId = other.providerAttemptId) : entry = other := by
  obtain ⟨fact, hfact, hposting, -, -⟩ := h.ofEntry entry hentry
  obtain ⟨fact', hfact', hposting', -, -⟩ := h.ofEntry other hother
  rw [hattempt] at hfact
  cases hfact.symm.trans hfact'
  exact Table.eq_of_key_eq hentry hother (Option.some.inj (hposting.symm.trans hposting'))

/-- A fact without tokens is free and posts nothing. -/
theorem nothing_posted (h : Books facts events ledger) (hfact : fact ∈ facts)
    (hnone : NoTokens fact.usage) :
    fact.actualChargeUnits = 0 ∧ fact.postingLedgerEventId = none := by
  have hfree := h.free fact hfact hnone
  refine ⟨hfree, ?_⟩
  cases hposting : fact.postingLedgerEventId with
  | none => rfl
  | some id =>
    have hpositive := (h.posted fact hfact id hposting).1
    omega

/-- Booking a fact with its event and its charge. -/
theorem booked (h : Books facts events ledger) {event : BillingEvent}
    (hfact : facts.insert? fact = some facts')
    (hnew : ∀ other ∈ facts, other.billingEventId ≠ fact.billingEventId)
    (hid : event.id = fact.billingEventId)
    (hamount : event.billableAmountUnits = fact.actualChargeUnits)
    (husage : event.usage = fact.usage) (hevent : events.insert? event = some events')
    (hfree : NoTokens fact.usage → fact.actualChargeUnits = 0)
    (hcharge : PostedCharge reservations ledger accounts fact ledger' accounts') :
    Books facts' events' ledger' := by
  -- an entry of the ledger stays
  have hledger : ∀ {id : String} {entry : CreditLedgerEvent}, ledger.find? id = some entry →
      ledger'.find? id = some entry := by
    intro id entry hentry
    cases hcharge with
    | nothing hposting hfree => exact hentry
    | posted posting hposting hpositive hcharged hattempt hbilling hreserved _ hinsert hunique
        account
        account' hfind hkey hbalance _ hset => exact Table.find?_insert_of_some hinsert hentry
  constructor
  · intro other hother
    rcases (Table.mem_insert hfact).mp hother with rfl | hmem
    · rw [← hid]
      exact ⟨event, Table.find?_insert_self hevent, hamount, husage⟩
    · obtain ⟨before, hbefore, hsame⟩ := h.billed other hmem
      exact ⟨before, Table.find?_insert_of_some hevent hbefore, hsame⟩
  · intro other hother
    rcases (Table.mem_insert hevent).mp hother with rfl | hmem
    · exact ⟨fact, (Table.mem_insert hfact).mpr (.inl rfl), hid.symm⟩
    · obtain ⟨before, hbefore, hsame⟩ := h.ofEvent other hmem
      exact ⟨before, (Table.mem_insert hfact).mpr (.inr hbefore), hsame⟩
  · -- no two facts share an event, since the new one brings its own
    intro first hfirst second hsecond hsame
    rcases (Table.mem_insert hfact).mp hfirst with rfl | hfirst'
    · rcases (Table.mem_insert hfact).mp hsecond with rfl | hsecond'
      · rfl
      · exact absurd hsame.symm (hnew second hsecond')
    · rcases (Table.mem_insert hfact).mp hsecond with rfl | hsecond'
      · exact absurd hsame (hnew first hfirst')
      · exact h.once first hfirst' second hsecond' hsame
  · intro other hother hnone
    rcases (Table.mem_insert hfact).mp hother with rfl | hmem
    · exact hfree hnone
    · exact h.free other hmem hnone
  · intro other hother id hposting
    rcases (Table.mem_insert hfact).mp hother with rfl | hmem
    · cases hcharge with
      | nothing hnone hfree =>
        rw [hnone] at hposting
        cases hposting
      | posted posting hposted hpositive hcharged hattempt hbilling hreserved _ hinsert hunique
          account
          account' hfind hkey hbalance _ hset =>
        cases hposted.symm.trans hposting
        exact ⟨hpositive, posting, Table.find?_insert_self hinsert⟩
    · obtain ⟨hpositive, entry, hentry⟩ := h.posted other hmem id hposting
      exact ⟨hpositive, entry, hledger hentry⟩
  · -- the new entry is the one of the new fact
    intro entry hentry
    have hbefore : entry ∈ ledger → ∃ fact, facts'.find? entry.providerAttemptId = some fact ∧
        fact.postingLedgerEventId = some entry.id ∧ entry.billingEventId = fact.billingEventId ∧
        entry.amountUnits = -fact.actualChargeUnits := by
      intro hmem
      obtain ⟨before, hfind, hsame⟩ := h.ofEntry entry hmem
      exact ⟨before, Table.find?_insert_of_some hfact hfind, hsame⟩
    cases hcharge with
    | nothing hnone hfree => exact hbefore hentry
    | posted posting hposted hpositive hcharged hattempt hbilling hreserved _ hinsert hunique
        account
        account' hfind hkey hbalance _ hset =>
      rcases (Table.mem_insert hinsert).mp hentry with rfl | hmem
      · rw [hattempt]
        exact ⟨fact, Table.find?_insert_self hfact, hposted, hbilling, hcharged⟩
      · exact hbefore hmem

end Books

/-! ### Balances -/

/-- What the ledger events of an account add up to. -/
def ledgerSum (ledger : Table CreditLedgerEvent) (accountId : String) : Int :=
  Table.sumOf (fun entry => if entry.accountId = accountId then entry.amountUnits else 0) ledger

/-- Every account of the start is there, with its initial balance plus its ledger events. -/
def Balanced (initial accounts : Table CreditAccount) (ledger : Table CreditLedgerEvent) : Prop :=
  ∀ accountId, (accounts.find? accountId).map (·.balanceSnapUnits) =
    (initial.find? accountId).map fun account =>
      account.balanceSnapUnits + ledgerSum ledger accountId

/-- A charge changes the balance of its account by the ledger event it posts. -/
theorem Balanced.charged {initial accounts accounts' : Table CreditAccount}
    {ledger ledger' : Table CreditLedgerEvent} {reservations : Table UsageReservation}
    (h : Balanced initial accounts ledger)
    (hcharge : PostedCharge reservations ledger accounts fact ledger' accounts') :
    Balanced initial accounts' ledger' := by
  cases hcharge with
  | nothing hposting hfree => exact h
  | posted event hposting hpositive hamount hattempt hevent hreserved _ hinsert hunique account
      account' hfind hkey hbalance _ hset =>
    intro accountId
    have hbefore := h accountId
    have haccount : Keyed.key account' = event.accountId :=
      Eq.trans hkey (Table.key_of_find? hfind)
    have hsum : ledgerSum ledger' accountId =
        (if event.accountId = accountId then event.amountUnits else 0) +
          ledgerSum ledger accountId := Table.sumOf_insert hinsert _
    rw [hset accountId, hsum, haccount]
    by_cases hsame : accountId = event.accountId
    · subst hsame
      rw [hfind] at hbefore
      rw [if_pos rfl, if_pos rfl]
      cases hinitial : initial.find? event.accountId with
      | none =>
        rw [hinitial] at hbefore
        cases hbefore
      | some start =>
        rw [hinitial] at hbefore
        have hbalance₀ : account.balanceSnapUnits =
            start.balanceSnapUnits + ledgerSum ledger event.accountId := Option.some.inj hbefore
        have hbalance₁ : account'.balanceSnapUnits = start.balanceSnapUnits +
            (event.amountUnits + ledgerSum ledger event.accountId) := by
          rw [hbalance, hbalance₀]
          omega
        exact congrArg some hbalance₁
    · rw [if_neg hsame, if_neg (fun heq => hsame heq.symm), hbefore, zero_add]

/-! ### Transitions -/

/-- The books of a database. -/
def BooksOf (db : Database) : Prop :=
  Books db.providerInvocationUsageFacts db.billingEvents db.creditLedgerEvents

variable {db db' : Database} {initial : Table CreditAccount}

/-- A transition books one settlement or nothing. -/
inductive BillingChange (db db' : Database) : Prop where
  | nothing (haccounts : db'.creditAccounts = db.creditAccounts)
      (hfacts : db'.providerInvocationUsageFacts = db.providerInvocationUsageFacts)
      (hevents : db'.billingEvents = db.billingEvents)
      (hledger : db'.creditLedgerEvents = db.creditLedgerEvents)
  | settled (input : SettleInvocationBillingInput) (fact : ProviderInvocationUsageFact)
      (db₁ : Database) (hsettled : Settled db input fact db₁)
      (haccounts : db'.creditAccounts = db₁.creditAccounts)
      (hfacts : db'.providerInvocationUsageFacts = db₁.providerInvocationUsageFacts)
      (hevents : db'.billingEvents = db₁.billingEvents)
      (hledger : db'.creditLedgerEvents = db₁.creditLedgerEvents)

theorem Suspended.billingChange (h : Suspended db db') : BillingChange db db' := by
  obtain ⟨old, new, costExposure, now, db₁, _, hsuspends, hupdated, hmarked⟩ := h
  have hframe := hupdated.frame
  have hquiet : BillingChange db db₁ := by
    rw [hframe]
    exact .nothing rfl rfl rfl rfl
  cases hmarked with
  | nothing hclosed => exact hquiet
  | reconciling reservation hfind hopen =>
    rw [hframe]
    exact .nothing rfl rfl rfl rfl

theorem FinalUsage.billingChange {command : SettleProviderInvocationCommand}
    {zeroReservationOutcome : ZeroReservationOutcome} {now : Timestamp}
    (h : FinalUsage db command zeroReservationOutcome now fact db') : BillingChange db db' := by
  obtain ⟨attempt, expected, conflict, db₁, _, hfind, hunsettled, hexpected, hsettled,
    hupdated⟩ := h
  refine .settled _ fact db₁ hsettled ?_ ?_ ?_ ?_ <;> rw [hupdated.frame]

theorem Transition.billingChange {input : Input} (h : Transition input db db') :
    BillingChange db db' := by
  cases h with
  | idle => exact .nothing rfl rfl rfl rfl
  | leased leases hcommand => exact .nothing rfl rfl rfl rfl
  | logged row haccepts => exact .nothing rfl rfl rfl rfl
  | reconfigured configuration hcommand => exact .nothing rfl rfl rfl rfl
  | admittedProtected command hcommand id _ hadmitted =>
    obtain ⟨admission, execution, db₁, usageReservationId, hadmissible, hpersisted, hoccupied⟩ :=
      hadmitted
    rw [hoccupied.frame, hpersisted.frame]
    exact .nothing rfl rfl rfl rfl
  | admittedCpaBasic command hcommand id _ hadmitted =>
    obtain ⟨admission, execution, hadmissible, hpersisted⟩ := hadmitted
    rw [hpersisted.frame]
    exact .nothing rfl rfl rfl rfl
  | dispatched attempt _ hpending hupdated =>
    rw [hupdated.frame]
    exact .nothing rfl rfl rfl rfl
  | suspended _ hsuspended => exact hsuspended.billingChange
  | settled command zeroReservationOutcome now fact _ hfinal => exact hfinal.billingChange
  | failed executions harbitrated => exact .nothing rfl rfl rfl rfl

theorem BillingChange.books (h : BillingChange db db') (hdb : BooksOf db) : BooksOf db' := by
  unfold BooksOf
  cases h with
  | nothing haccounts hfacts hevents hledger =>
    rw [hfacts, hevents, hledger]
    exact hdb
  | settled input fact db₁ hsettled haccounts hfacts hevents hledger =>
    obtain ⟨event, hid, hamount, husage, hevent⟩ := hsettled.event
    have hnew : ∀ other ∈ db.providerInvocationUsageFacts,
        other.billingEventId ≠ fact.billingEventId := by
      intro other hother
      have haccepted := hsettled.accepted
      simp only [acceptsFact, Bool.and_eq_true] at haccepted
      exact of_decide_eq_true (List.all_eq_true.mp haccepted.1.1.1.1.1.1.1.1 other hother)
    rw [hfacts, hevents, hledger]
    have hfree : NoTokens fact.usage → fact.actualChargeUnits = 0 :=
      hsettled.usage ▸ hsettled.free
    exact Books.booked hdb hsettled.facts hnew hid hamount husage hevent hfree hsettled.charge

theorem BillingChange.balanced (h : BillingChange db db')
    (hdb : Balanced initial db.creditAccounts db.creditLedgerEvents) :
    Balanced initial db'.creditAccounts db'.creditLedgerEvents := by
  cases h with
  | nothing haccounts hfacts hevents hledger =>
    rw [haccounts, hledger]
    exact hdb
  | settled input fact db₁ hsettled haccounts hfacts hevents hledger =>
    rw [haccounts, hledger]
    exact hdb.charged hsettled.charge

/-- **Facts stay.** A fact is never rewritten. -/
theorem BillingChange.keeps_fact (h : BillingChange db db') {id : String}
    (hfact : db.providerInvocationUsageFacts.find? id = some fact) :
    db'.providerInvocationUsageFacts.find? id = some fact := by
  cases h with
  | nothing haccounts hfacts hevents hledger => rw [hfacts, hfact]
  | settled input new db₁ hsettled haccounts hfacts hevents hledger =>
    rw [hfacts]
    exact Table.find?_insert_of_some hsettled.facts hfact

end Frely.Application
