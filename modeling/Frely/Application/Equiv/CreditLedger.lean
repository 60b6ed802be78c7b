import Frely.Application.CreditLedger
import Frely.Lib.Machine

/-!
# Balances and their ledger

A post adds an event to the ledger and its amount to the account (`Posted`), and takes nothing that
is held unless it may.  `ledger_kept`: in every run the balance of an account stays what it opened
with and its events, a transfer leaves the sum of all balances as it is, and what is held on an
account stays covered but for what posts could overdraw.
-/

namespace Frely.CreditLedger

open Checked Frely.Postgres Frely.SellerSettlement Transaction

variable {accepts : LedgerDatabase → CreditLedgerEvent → Bool} {now : Timestamp}
  {accountId : String} {db db' : LedgerDatabase} {event : CreditLedgerEvent}
  {overdraws : Bool}

/-- The balance of an account. -/
def balanceUnits (db : LedgerDatabase) (accountId : String) : Int :=
  ((db.creditAccounts.find? accountId).map CreditAccount.balanceSnapUnits).getD 0

/-- The balances of all accounts together. -/
def totalUnits (db : LedgerDatabase) : Int :=
  Table.sumOf CreditAccount.balanceSnapUnits db.creditAccounts

/-- The events of an account together. -/
def ledgerUnits (db : LedgerDatabase) (accountId : String) : Int :=
  Table.sumOf (fun event => if event.accountId = accountId then event.amountUnits else 0)
    db.creditLedgerEvents

/-- What is held on an account beyond its balance. -/
def uncovered (accountId : String) (db : LedgerDatabase) : Int :=
  Billing.heldUnits db.usageReservations accountId - balanceUnits db accountId

/-- What a post changes, and that it reaches nothing that is held unless it may. -/
structure Posted (overdraws : Bool) (db : LedgerDatabase) (event : CreditLedgerEvent)
    (db' : LedgerDatabase) : Prop where
  account : ∃ account, db.creditAccounts.find? event.accountId = some account
  accounts : db'.creditAccounts = db.creditAccounts.modify event.accountId
    (addToBalance event.amountUnits event.id event.createdAt) fun _ => rfl
  events : db.creditLedgerEvents.insert? event = some db'.creditLedgerEvents
  reservations : db'.usageReservations = db.usageReservations
  covered : overdraws = false → event.amountUnits < 0 →
    uncovered event.accountId db ≤ event.amountUnits

variable {s s' : Session LedgerDatabase}

theorem givenOrCreated_eq_ok {kind id : String} {given : Option String}
    (h : givenOrCreated kind given s = .ok (id, s')) : s'.database = s.database := by
  cases given with
  | none => exact createId_eq_ok h
  | some _ => rw [(run_pure.mp h).2]

theorem getCreditAccount_eq_ok {message : String} {account : CreditAccount}
    (h : (match db.creditAccounts.find? accountId with
      | some account => .ok account
      | none => reject "credit_account_not_found" message 404) = Except.ok account) :
    db.creditAccounts.find? accountId = some account := by
  cases hfind : db.creditAccounts.find? accountId with
  | none => rw [hfind] at h; cases h
  | some found => rw [hfind] at h; rw [Except.ok.inj h]

variable {input : CreditLedgerEventInput}

theorem createCreditLedgerEvent_eq_ok
    (h : createCreditLedgerEvent accepts now input s = .ok (event, s')) :
    Posted input.allowNegativeBalance s.database event s'.database ∧
      event.toCreditLedgerEntry = input.toCreditLedgerEntry := by
  obtain ⟨id, s₁, hid, h⟩ := run_bind.mp h
  rw [← givenOrCreated_eq_ok hid]
  obtain ⟨_, -, h⟩ := run_check_bind.mp h
  obtain ⟨account, haccount, h⟩ := run_read_bind.mp h
  obtain ⟨_, -, h⟩ := run_check_bind.mp h
  obtain ⟨held, hheld, h⟩ := run_read_bind.mp h
  obtain ⟨_, hcovered, h⟩ := run_check_bind.mp h
  obtain ⟨_, s₂, hinsert, h⟩ := run_bind.mp h
  obtain ⟨_, s₃, hmodify, h⟩ := run_bind.mp h
  obtain ⟨rfl, rfl⟩ := run_pure.mp h
  have haccount := getCreditAccount_eq_ok haccount
  have hstored := write_eq_ok hinsert
  have hmodified := write_some_eq_ok hmodify
  dsimp only at hstored
  split_ifs at hstored
  obtain ⟨events, hevents, hstored⟩ := Option.map_eq_some_iff.mp hstored
  rw [← hstored] at hmodified
  refine ⟨⟨?_, ?_, ?_, ?_, fun hallowed hdebit => ?_⟩, rfl⟩ <;> dsimp only at *
  · exact ⟨account, haccount⟩
  · rw [hmodified]
  · rw [hmodified]
    exact hevents
  · rw [hmodified]
  · have hnegative : ¬input.allowNegativeBalance := hallowed ▸ Bool.false_ne_true
    rw [if_pos ⟨hdebit, hnegative⟩] at hheld
    obtain ⟨_, -, hheld⟩ := bind_eq_ok.mp hheld
    obtain rfl := Except.ok.inj hheld
    have hcovered := not_lt.mp fun hlt => rejectIf_eq_ok.mp hcovered ⟨hnegative, hdebit, hlt⟩
    have hbalance : balanceUnits s₁.database input.accountId = account.balanceSnapUnits := by
      rw [balanceUnits, haccount]
      rfl
    rw [uncovered, hbalance]
    omega

/-! ### What a post keeps -/

theorem Posted.balance (h : Posted overdraws db event db') (accountId : String) :
    balanceUnits db' accountId = balanceUnits db accountId +
      if event.accountId = accountId then event.amountUnits else 0 := by
  obtain ⟨account, haccount⟩ := h.account
  have hfind : db'.creditAccounts.find? accountId = if accountId = event.accountId then
      (db.creditAccounts.find? event.accountId).map
        (addToBalance event.amountUnits event.id event.createdAt)
      else db.creditAccounts.find? accountId := by
    rw [h.accounts]
    exact Table.find?_modify db.creditAccounts _ _ _ _
  rw [balanceUnits, hfind, balanceUnits]
  by_cases hkey : accountId = event.accountId
  · subst hkey
    rw [if_pos rfl, if_pos rfl, haccount]
    rfl
  · rw [if_neg hkey, if_neg (Ne.symm hkey), Int.add_zero]

theorem Posted.opening (h : Posted overdraws db event db') (accountId : String) :
    balanceUnits db' accountId - ledgerUnits db' accountId =
      balanceUnits db accountId - ledgerUnits db accountId := by
  have hledger : ledgerUnits db' accountId = _ + ledgerUnits db accountId :=
    Table.sumOf_insert h.events _
  rw [h.balance, hledger]
  omega

theorem Posted.total (h : Posted overdraws db event db') :
    totalUnits db' = totalUnits db + event.amountUnits := by
  obtain ⟨account, haccount⟩ := h.account
  have hsum : totalUnits db' = totalUnits db - account.balanceSnapUnits +
      (account.balanceSnapUnits + event.amountUnits) := by
    rw [totalUnits, h.accounts]
    exact Table.sumOf_modify haccount CreditAccount.balanceSnapUnits
  omega

theorem Posted.uncovered_le (h : Posted overdraws db event db') (accountId : String) :
    uncovered accountId db' ≤ max 0 (uncovered accountId db) +
      if event.accountId = accountId ∧ overdraws then max 0 (-event.amountUnits) else 0 := by
  have hafter : uncovered accountId db' = uncovered accountId db -
      if event.accountId = accountId then event.amountUnits else 0 := by
    rw [uncovered, h.reservations, h.balance, uncovered]
    omega
  by_cases haccount : event.accountId = accountId
  · subst haccount
    rw [if_pos rfl] at hafter
    cases overdraws with
    | true =>
      rw [if_pos ⟨rfl, rfl⟩]
      omega
    | false =>
      have hcovered := h.covered rfl
      rw [if_neg (by simp)]
      omega
  · rw [if_neg haccount] at hafter
    rw [if_neg fun h => haccount h.1]
    omega

/-! ### Runs -/

/-- What a command may take from an account although it is held. -/
def overdraft (accountId : String) : LedgerCommand → Int
  | .createCreditLedgerEvent input =>
    if input.accountId = accountId ∧ input.allowNegativeBalance then max 0 (-input.amountUnits)
    else 0
  | .transferCredit _ => 0

theorem overdraft_nonneg (accountId : String) (command : LedgerCommand) :
    0 ≤ overdraft accountId command := by
  unfold overdraft
  split
  · split_ifs <;> omega
  · exact le_refl _

/-- What a command keeps of the balances and the ledger. -/
structure Kept (command : LedgerCommand) (db db' : LedgerDatabase) : Prop where
  opening : ∀ accountId, balanceUnits db' accountId - ledgerUnits db' accountId =
    balanceUnits db accountId - ledgerUnits db accountId
  total : ∀ input, command = .transferCredit input → totalUnits db' = totalUnits db
  covered : ∀ accountId,
    uncovered accountId db' ≤ max 0 (uncovered accountId db) + overdraft accountId command

theorem createCreditLedgerEvent_kept
    (h : createCreditLedgerEvent accepts now input s = .ok (event, s')) :
    Kept (.createCreditLedgerEvent input) s.database s'.database := by
  obtain ⟨hposted, hentry⟩ := createCreditLedgerEvent_eq_ok h
  refine ⟨hposted.opening, fun _ hcommand => ?_, fun accountId => ?_⟩
  · cases hcommand
  · have hle := hposted.uncovered_le accountId
    rw [hentry] at hle
    exact hle

theorem transferCredit_kept {input : TransferCreditInput}
    {events : CreditLedgerEvent × CreditLedgerEvent}
    (h : transferCredit accepts now input s = .ok (events, s')) :
    Kept (.transferCredit input) s.database s'.database := by
  obtain ⟨_, -, h⟩ := run_check_bind.mp h
  obtain ⟨_, -, h⟩ := run_check_bind.mp h
  obtain ⟨source, -, h⟩ := run_read_bind.mp h
  obtain ⟨target, -, h⟩ := run_read_bind.mp h
  obtain ⟨_, -, h⟩ := run_check_bind.mp h
  obtain ⟨_, -, h⟩ := run_read_bind.mp h
  obtain ⟨_, -, h⟩ := run_check_bind.mp h
  obtain ⟨transferId, s₁, hid, h⟩ := run_bind.mp h
  obtain ⟨outEvent, s₂, hout, h⟩ := run_bind.mp h
  obtain ⟨inEvent, s₃, hin, h⟩ := run_bind.mp h
  rw [← givenOrCreated_eq_ok hid, (run_pure.mp h).2]
  obtain ⟨hposted, hentry⟩ := createCreditLedgerEvent_eq_ok hout
  obtain ⟨hposted', hentry'⟩ := createCreditLedgerEvent_eq_ok hin
  refine ⟨fun accountId => (hposted'.opening accountId).trans (hposted.opening accountId),
    fun _ _ => ?_, fun accountId => ?_⟩
  · rw [hposted'.total, hposted.total, hentry, hentry']
    exact Int.neg_add_cancel_right _ _
  · have hle := hposted.uncovered_le accountId
    have hle' := hposted'.uncovered_le accountId
    simp only [TransferCreditInput.entry, Bool.false_eq_true, and_false, if_false] at hle hle'
    change _ ≤ _ + 0
    omega

theorem ledgerStep_kept (input : LedgerInput) (db : LedgerDatabase) :
    Kept input.command db (ledgerStep accepts input db).2 := by
  refine commit_preserves ?_ fun {events s'} h => ?_
  · refine ⟨fun _ => rfl, fun _ _ => rfl, fun accountId => ?_⟩
    have hnonneg := overdraft_nonneg accountId input.command
    omega
  · cases hcommand : input.command with
    | createCreditLedgerEvent command =>
      rw [hcommand] at h
      obtain ⟨event, s₁, hrun, h⟩ := run_bind.mp h
      rw [(run_pure.mp h).2]
      exact createCreditLedgerEvent_kept hrun
    | transferCredit command =>
      rw [hcommand] at h
      obtain ⟨events, s₁, hrun, h⟩ := run_bind.mp h
      rw [(run_pure.mp h).2]
      exact transferCredit_kept hrun

/-- **Balances and holds.** In every run balances are what accounts opened with and their events,
transfers leave their sum, and what is held stays covered but for what commands could overdraw. -/
theorem ledger_kept (accepts : LedgerDatabase → CreditLedgerEvent → Bool) (start : LedgerDatabase)
    (inputs : List LedgerInput) :
    let last := Machine.final (ledgerStep accepts) start inputs
    let steps := Machine.trace (ledgerStep accepts) start inputs
    (∀ accountId, balanceUnits last accountId - ledgerUnits last accountId =
      balanceUnits start accountId - ledgerUnits start accountId) ∧
    (∀ taken ∈ steps, ∀ input, taken.input.command = .transferCredit input →
      totalUnits taken.after = totalUnits taken.before) ∧
    ∀ accountId, uncovered accountId last ≤ max 0 (uncovered accountId start) +
      (steps.map fun taken => overdraft accountId taken.input.command).sum := by
  refine ⟨fun accountId => ?_, fun taken htaken => ?_, fun accountId => ?_⟩
  · refine @Machine.invariant_final _ _ _ (ledgerStep accepts) (fun db =>
      balanceUnits db accountId - ledgerUnits db accountId =
        balanceUnits start accountId - ledgerUnits start accountId) (fun input db h => ?_) start
          rfl inputs
    exact ((ledgerStep_kept input db).opening accountId).trans h
  · rw [Machine.eq_stepOf_of_mem htaken]
    exact (ledgerStep_kept taken.input taken.before).total
  · exact @Machine.bounded_final _ _ _ (ledgerStep accepts) (fun _ => True) (fun _ => True)
      (uncovered accountId) _ 0 (fun _ => overdraft_nonneg accountId _) (fun _ _ _ _ => trivial)
      (fun input db _ _ => (ledgerStep_kept input db).covered accountId) start trivial inputs
      fun _ _ => trivial

end Frely.CreditLedger
