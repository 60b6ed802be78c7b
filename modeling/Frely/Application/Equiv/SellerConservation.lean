import Frely.Application.Equiv.SellerSettlement
import Frely.Lib.Machine
import Mathlib.Data.List.Dedup

/-!
# Conservation of seller settlements

The step rule of the settlement machine is `Preserved.step`: what facts and settled windows
preserve, every command preserves.  With it `settlement_conserved` follows the releases, the
sellers' credit and the windows that are closed over any run.
-/

namespace Frely.SellerSettlement

open Checked Frely.Application Frely.Postgres Transaction

variable {events : List SellerSettlementEvent} {window : WindowKey}
  {windows : Table SellerSettlementWindow} {row : SellerSettlementWindow}

/-! ### Conservation -/

variable {db db' start : SettlementDatabase} {event : SellerSettlementEvent}
  {result : Option SellerSettlementEvent} {windowEvents : List SellerSettlementEvent}

/-- What the ledger has released from a source. -/
def ledgerReleased (source : SettlementSource) (ledger : Table CreditLedgerEvent) : Int :=
  ledger.sumOf fun event =>
    if event.eventType = .sellerSettlementRelease ∧ event.source = source then event.amountUnits
    else 0

/-- The accounts of a seller. -/
def ofSeller (sellerScopeRef : String) : String → String → Bool :=
  fun _ scopeRef => scopeRef = sellerScopeRef

/-- What a seller has been paid. -/
def releasedTo (sellerScopeRef : String) (events : List SellerSettlementEvent) : Int :=
  releasedUnits (events.filter (·.window.sellerScopeRef = sellerScopeRef))

/-- What a source has paid out. -/
def releasedFrom (source : SettlementSource) (events : List SellerSettlementEvent) : Int :=
  releasedUnits (events.filter (·.window.source = source))

/-- Sellers are credited, and the ledger posts, what the releases add up to. -/
structure Credits (start db : SettlementDatabase) : Prop where
  credited : ∀ seller, balanceWhere (ofSeller seller) db.creditAccounts =
    balanceWhere (ofSeller seller) start.creditAccounts + releasedTo seller db.events
  posted : ∀ source, ledgerReleased source db.creditLedgerEvents =
    ledgerReleased source start.creditLedgerEvents + releasedFrom source db.events

theorem releasedUnits_filter_append (select : SellerSettlementEvent → Bool)
    (events : List SellerSettlementEvent) (event : SellerSettlementEvent) :
    releasedUnits ((events ++ [event]).filter select) =
      releasedUnits (events.filter select) + if select event then event.releasedUnits else 0 := by
  rw [List.filter_append, releasedUnits_append]
  by_cases hselect : select event
  · simp [hselect, releasedUnits_singleton]
  · simp [hselect, releasedUnits]

theorem Credits.fact (h : Credits start db) (hfact : event.eventType ≠ .release)
    (hinserted : EventInserted event db db' result) : Credits start db' := by
  have hzero : event.releasedUnits = 0 := if_neg hfact
  cases hinserted with
  | skipped hdb =>
    rw [hdb]
    exact h
  | ignored windows _ _ hdb =>
    rw [hdb]
    exact ⟨h.credited, h.posted⟩
  | inserted windows _ _ hdb =>
    rw [hdb]
    refine ⟨fun seller => ?_, fun source => ?_⟩
    · have hcredited := h.credited seller
      unfold releasedTo at hcredited ⊢
      rw [releasedUnits_filter_append, hzero, ite_self, Int.add_zero]
      exact hcredited
    · have hposted := h.posted source
      unfold releasedFrom at hposted ⊢
      rw [releasedUnits_filter_append, hzero, ite_self, Int.add_zero]
      exact hposted

theorem Credits.settled (h : Credits start db) (hsettled : WindowSettled db db') :
    Credits start db' := by
  cases hsettled with
  | nothing hsame =>
    rw [hsame]
    exact h
  | moved _ _ _ _ _ _ _ _ _ hdb =>
    rw [hdb]
    exact ⟨h.credited, h.posted⟩
  | released event row old windows posted htype _ _ _ _ _ _ _ _ _ _ _ _ _ hpaid =>
    have hreleased : event.releasedUnits = event.amountUnits := if_pos htype
    refine ⟨fun seller => ?_, fun source => ?_⟩
    · have hcredited := h.credited seller
      have hpayment := hpaid.accounts (ofSeller seller)
      unfold releasedTo at hcredited ⊢
      rw [hpaid.events, releasedUnits_filter_append, hreleased, hpayment, hcredited]
      simp only [ofSeller, decide_eq_true_eq]
      omega
    · have hposted := h.posted source
      unfold releasedFrom at hposted ⊢
      rw [hpaid.events, releasedUnits_filter_append, hreleased]
      have hledger : ledgerReleased source db'.creditLedgerEvents =
          (if event.window.source = source then event.amountUnits else 0) +
            ledgerReleased source db.creditLedgerEvents := by
        have hsum := Table.sumOf_insert hpaid.ledger fun event =>
          if event.eventType = .sellerSettlementRelease ∧ event.source = source then
            event.amountUnits
          else 0
        rw [hpaid.eventType, hpaid.source, hpaid.amount] at hsum
        simp only [true_and] at hsum
        exact hsum
      rw [hledger, hposted]
      simp only [decide_eq_true_eq]
      omega

/-- A window that is not open keeps its events. -/
structure Closed (window : WindowKey) (windowEvents : List SellerSettlementEvent)
    (db : SettlementDatabase) : Prop where
  closed : ∃ row, db.windows.find? window = some row ∧ row.status ≠ .open
  events : eventsOf window db.events = windowEvents

theorem eventsOf_append_of_ne (h : window ≠ event.window) :
    eventsOf window (events ++ [event]) = eventsOf window events := by
  rw [eventsOf_append]
  have hnone : eventsOf window [event] = [] := by simp [eventsOf, h.symm]
  rw [hnone, List.append_nil]

/-- The row of another window is set, and an event of that window may be added. -/
theorem Closed.set (h : Closed window windowEvents db) (hne : window ≠ row.windowKey)
    (hsets : db.windows.Sets row db'.windows)
    (hevents : eventsOf window db'.events = eventsOf window db.events) :
    Closed window windowEvents db' := by
  obtain ⟨⟨closed, hclosed, hstatus⟩, hsame⟩ := h
  exact ⟨⟨closed, (hsets.find?_of_ne hne).trans hclosed, hstatus⟩, hevents.trans hsame⟩

theorem Closed.fact (h : Closed window windowEvents db) (hfact : event.eventType ≠ .release)
    (hinserted : EventInserted event db db' result) : Closed window windowEvents db' := by
  obtain ⟨closed, hclosed, hstatus⟩ := h.closed
  have hprojects : ∀ (windows : Table SellerSettlementWindow) (after : List SellerSettlementEvent),
      Projects db.events event db.windows windows →
      (conflicts db.events event → after = db.events) →
      after = db.events ∨ after = db.events ++ [event] →
      Closed window windowEvents { db with windows, events := after } := by
    intro windows after hprojects hknown hafter
    have hother : window ≠ event.window → eventsOf window after = eventsOf window db.events := by
      intro hne
      rcases hafter with hafter | hafter
      · rw [hafter]
      · rw [hafter, eventsOf_append_of_ne hne]
    cases hprojects with
    | known hconflicts hsame =>
      rw [hsame, hknown hconflicts]
      exact h
    | opened row _ hnone hkey _ hsets =>
      have hne : window ≠ event.window := by
        rintro rfl
        rw [hclosed] at hnone
        cases hnone
      exact h.set (hkey ▸ hne) hsets (hother hne)
    | touched row old _ hfind hold hkey _ hsets =>
      have hne : window ≠ event.window := by
        rintro rfl
        rw [hclosed] at hfind
        cases hfind
        exact hstatus hold.1
      exact h.set (hkey ▸ hne) hsets (hother hne)
    | released _ _ hrelease => exact absurd hrelease hfact
  cases hinserted with
  | skipped hdb =>
    rw [hdb]
    exact h
  | ignored windows _ hproject hdb =>
    rw [hdb]
    exact hprojects windows db.events hproject (fun _ => rfl) (.inl rfl)
  | inserted windows hfree hproject hdb =>
    rw [hdb]
    exact hprojects windows _ hproject (fun hconflicts => absurd hconflicts hfree) (.inr rfl)

theorem Closed.settled (h : Closed window windowEvents db) (hsettled : WindowSettled db db') :
    Closed window windowEvents db' := by
  obtain ⟨closed, hclosed, hstatus⟩ := h.closed
  have hne : ∀ key old, db.windows.find? key = some old → old.status = .open → window ≠ key := by
    rintro key old hfind hopen rfl
    rw [hclosed] at hfind
    cases hfind
    exact hstatus hopen
  cases hsettled with
  | nothing hsame =>
    rw [hsame]
    exact h
  | moved row old windows hfind hopen _ _ _ hsets hdb =>
    rw [hdb]
    exact h.set (hne _ old hfind hopen) hsets rfl
  | released event row old windows posted _ _ _ _ _ hfind hopen hkey _ _ _ _ _ hsets hpaid =>
    have hother := hne _ old hfind hopen
    apply h.set (hkey ▸ hother)
    · rw [hpaid.windows]
      exact hsets
    · rw [hpaid.events]
      exact eventsOf_append_of_ne hother

/-! ### Runs -/

/-- What facts and the windows of a batch preserve. -/
structure Preserved (P : SettlementDatabase → Prop) : Prop where
  inv : ∀ ⦃db⦄, P db → SettlementInv db.events db.windows
  fact : ∀ ⦃db db' event result⦄, P db → event.eventType ≠ .release → 0 < event.amountUnits →
    EventInserted event db db' result → P db'
  settled : ∀ ⦃db db'⦄, P db → WindowSettled db db' → P db'

variable {P : SettlementDatabase → Prop}

theorem Preserved.releaseDue (hP : Preserved P) (input : ReleaseInput) :
    Stateful.Keeps (fun s : Session SettlementDatabase => P s.database)
      (releaseDueSellerSettlements input) := by
  intro s result s' h hs
  obtain ⟨_, -, h⟩ := run_check_bind.mp h
  obtain ⟨windows, -, h⟩ := run_read_bind.mp h
  obtain ⟨outcomes, s₁, houtcomes, h⟩ := run_bind.mp h
  obtain ⟨-, rfl⟩ := run_pure.mp h
  have hwindow : ∀ candidate, Stateful.Keeps (fun s : Session SettlementDatabase => P s.database)
      (releaseWindow input candidate) := by
    intro candidate s outcome s' hrun hs
    exact hP.settled hs (releaseWindow_eq_ok (hP.inv hs) hrun)
  exact Stateful.keeps_traverse hwindow windows houtcomes hs

/-- **One command.** -/
theorem Preserved.step (hP : Preserved P) (input : SettlementInput) (db : SettlementDatabase)
    (hdb : P db) : P (settlementStep input db).2 := by
  unfold settlementStep
  have hcommit := @commit_preserves _ _ _ (fun _ after => P after)
    (runSettlementCommand input.command) ⟨db, input.freshId, 0, input.writesLeft⟩ hdb
  apply hcommit
  intro answer s' h
  cases hcommand : input.command with
  | recordFact factType eventInput lease =>
    rw [hcommand] at h
    obtain ⟨result, s₁, hinsert, h⟩ := run_bind.mp h
    obtain ⟨-, rfl⟩ := run_pure.mp h
    obtain ⟨source, event, -, hevent, hamount, hinserted⟩ :=
      insertSellerSettlementEvent_eq_ok hinsert
    have htype : event.eventType = factType.eventType := by rw [hevent]; rfl
    have hpositive : 0 < event.amountUnits := by rw [hevent]; exact hamount
    apply hP.fact hdb _ hpositive hinserted
    rw [htype]
    cases factType <;> exact nofun
  | releaseDue releaseInput =>
    rw [hcommand] at h
    obtain ⟨result, s₁, hrelease, h⟩ := run_bind.mp h
    obtain ⟨-, rfl⟩ := run_pure.mp h
    exact hP.releaseDue releaseInput hrelease hdb

theorem preserved_credits (start : SettlementDatabase) :
    Preserved fun db => SettlementInv db.events db.windows ∧ Credits start db where
  inv _ h := h.1
  fact _ _ _ _ h hfact hamount hinserted :=
    ⟨h.1.fact hfact hamount hinserted, h.2.fact hfact hinserted⟩
  settled _ _ h hsettled := ⟨hsettled.keeps h.1, h.2.settled hsettled⟩

theorem preserved_closed (window : WindowKey) (windowEvents : List SellerSettlementEvent) :
    Preserved fun db => SettlementInv db.events db.windows ∧ Closed window windowEvents db where
  inv _ h := h.1
  fact _ _ _ _ h hfact hamount hinserted :=
    ⟨h.1.fact hfact hamount hinserted, h.2.fact hfact hinserted⟩
  settled _ _ h hsettled := ⟨hsettled.keeps h.1, h.2.settled hsettled⟩

/-! ### The balance of a seller -/

variable {evaluatedAt : Timestamp} {balance : SellerSettlementBalance}
  {rows : List (Timestamp × Int × Int)}

/-- The windows of a seller that have events. -/
def windowsOf (sellerScopeRef : String) (events : List SellerSettlementEvent) : List WindowKey :=
  ((events.filter (·.window.sellerScopeRef = sellerScopeRef)).map
    SellerSettlementEvent.window).dedup

/-- The three parts of a balance together. -/
def SellerSettlementBalance.total (balance : SellerSettlementBalance) : Int :=
  balance.frozenUnits + balance.releasableUnits + balance.releasedUnits

/-- No part of the balance is negative. -/
def SellerSettlementBalance.Nonneg (balance : SellerSettlementBalance) : Prop :=
  0 ≤ balance.frozenUnits ∧ 0 ≤ balance.releasableUnits ∧ 0 ≤ balance.releasedUnits

/-- What is left of a window is no more than what it adds up to, and so exact. -/
theorem max_roundedNumber {net released : Int} (hnet : IsSafeInteger net)
    (hreleased : 0 ≤ released) :
    max 0 (roundedNumber (net - released)) = max 0 (net - released) := by
  by_cases hle : net ≤ released
  · have hrounded := roundedNumber_nonpos (show net - released ≤ 0 by omega)
    omega
  · obtain ⟨hlow, hhigh⟩ := hnet
    rw [roundedNumber_of_safe ⟨by omega, by omega⟩]

theorem addBalanceRow_total {next : SellerSettlementBalance} {row : Timestamp × Int × Int}
    (h : addBalanceRow evaluatedAt balance row = .ok next) (hnonneg : balance.Nonneg)
    (hreleased : 0 ≤ row.2.2) (hsafe : IsSafeInteger (balance.total + max row.2.2 row.2.1)) :
    next.Nonneg ∧ next.total = balance.total + max row.2.2 row.2.1 := by
  obtain ⟨net, hnet, h⟩ := bind_eq_ok.mp h
  obtain ⟨released, hfound, h⟩ := bind_eq_ok.mp h
  obtain ⟨rfl, hnetSafe⟩ := safePostgresInteger_eq_ok hnet
  obtain ⟨rfl, -⟩ := safePostgresInteger_eq_ok hfound
  cases h
  obtain ⟨hfrozen, hreleasable, hreleasedUnits⟩ := hnonneg
  obtain ⟨-, hhigh⟩ := hsafe
  unfold SellerSettlementBalance.total at hhigh
  have hexact : ∀ value, 0 ≤ value → value ≤ balance.frozenUnits + balance.releasableUnits +
      balance.releasedUnits + max row.2.2 row.2.1 → roundedNumber value = value :=
    fun value hlow hle => roundedNumber_of_safe ⟨by omega, by omega⟩
  unfold SellerSettlementBalance.total SellerSettlementBalance.Nonneg
  dsimp only
  rw [max_roundedNumber hnetSafe hreleased, hexact (balance.releasedUnits + row.2.2) (by omega)
    (by omega)]
  split
  · rw [hexact (balance.releasableUnits + max 0 (row.2.1 - row.2.2)) (by omega) (by omega)]
    omega
  · rw [hexact (balance.frozenUnits + max 0 (row.2.1 - row.2.2)) (by omega) (by omega)]
    omega

theorem foldlM_addBalanceRow_total {last : SellerSettlementBalance}
    (h : rows.foldlM (addBalanceRow evaluatedAt) balance = .ok last) (hnonneg : balance.Nonneg)
    (hreleased : ∀ row ∈ rows, 0 ≤ row.2.2)
    (hsafe : IsSafeInteger (balance.total + (rows.map fun row => max row.2.2 row.2.1).sum)) :
    last.total = balance.total + (rows.map fun row => max row.2.2 row.2.1).sum := by
  induction rows generalizing balance with
  | nil =>
    cases h
    simp
  | cons row rows ih =>
    rw [List.foldlM_cons] at h
    rw [List.map_cons, List.sum_cons] at hsafe ⊢
    obtain ⟨next, hnext, h⟩ := bind_eq_ok.mp h
    obtain ⟨hrow, hrows⟩ := List.forall_mem_cons.mp hreleased
    -- the rest of the rows only adds
    have hrest : 0 ≤ (rows.map fun row => max row.2.2 row.2.1).sum := by
      refine List.sum_nonneg fun value hvalue => ?_
      obtain ⟨other, hother, rfl⟩ := List.mem_map.mp hvalue
      exact le_max_of_le_left (hrows other hother)
    obtain ⟨hlow, hhigh⟩ := hsafe
    have htotal : 0 ≤ balance.total := by
      obtain ⟨hfrozen, hreleasable, hreleasedUnits⟩ := hnonneg
      unfold SellerSettlementBalance.total
      omega
    obtain ⟨hnonneg', htotal'⟩ :=
      addBalanceRow_total hnext hnonneg hrow ⟨by omega, by omega⟩
    rw [ih h hnonneg' hrows ⟨by omega, by omega⟩, htotal']
    omega

theorem foldlM_addBalanceRow_returns (balance : SellerSettlementBalance)
    (h : ∀ row ∈ rows, IsSafeInteger row.2.1 ∧ IsSafeInteger row.2.2) :
    ∃ last, rows.foldlM (addBalanceRow evaluatedAt) balance = .ok last := by
  induction rows generalizing balance with
  | nil => exact ⟨balance, rfl⟩
  | cons row rows ih =>
    obtain ⟨hnet, hreleased⟩ := h row List.mem_cons_self
    have hsafe : ∀ {value : Int} {code : String}, IsSafeInteger value →
        safePostgresInteger value code = .ok value := by
      intro value code hvalue
      unfold safePostgresInteger
      rw [rejectIf_of_not (not_not.mpr hvalue)]
      rfl
    rw [List.foldlM_cons]
    unfold addBalanceRow
    rw [hsafe hnet, bind_ok, hsafe hreleased, bind_ok]
    exact ih _ fun other hother => h other (List.mem_cons_of_mem _ hother)

/-- The rows of the query are the windows. -/
theorem SettlementInv.balanceRows_eq (h : SettlementInv events windows) (seller : String) :
    balanceRows (events.filter (·.window.sellerScopeRef = seller)) =
      (windowsOf seller events).map fun window =>
        (((windows.find? window).map SellerSettlementWindow.releaseAt).getD 0,
          netUnits (eventsOf window events), releasedUnits (eventsOf window events)) := by
  have hreleaseAt : ∀ event ∈ events, event.releaseAt =
      ((windows.find? event.window).map SellerSettlementWindow.releaseAt).getD 0 := by
    intro event hmem
    obtain ⟨row, hrow, -, hrelease⟩ := h.projected event hmem
    rw [hrow]
    exact hrelease.symm
  have hgroups : ((events.filter (·.window.sellerScopeRef = seller)).map fun event =>
      (event.window, event.releaseAt)).dedup = (windowsOf seller events).map fun window =>
        (window, ((windows.find? window).map SellerSettlementWindow.releaseAt).getD 0) := by
    unfold windowsOf
    -- a window has one release time, so grouping by both is grouping by the window
    have hinjective : Function.Injective fun window : WindowKey =>
        (window, ((windows.find? window).map SellerSettlementWindow.releaseAt).getD 0) := by
      intro left right hsame
      exact congrArg Prod.fst hsame
    rw [← List.dedup_map_of_injective hinjective, List.map_map]
    congr 1
    apply List.map_congr_left
    intro event hmem
    rw [Function.comp_apply, hreleaseAt event (List.mem_of_mem_filter hmem)]
  unfold balanceRows
  rw [hgroups, List.map_map]
  apply List.map_congr_left
  intro window hwindow
  obtain ⟨sample, hsample, rfl⟩ := List.mem_map.mp (List.mem_dedup.mp hwindow)
  have hseller : sample.window.sellerScopeRef = seller :=
    of_decide_eq_true (List.mem_filter.mp hsample).2
  have hgrouped : ((events.filter (·.window.sellerScopeRef = seller)).filter fun event =>
      (event.window, event.releaseAt) = (sample.window,
        ((windows.find? sample.window).map SellerSettlementWindow.releaseAt).getD 0)) =
      eventsOf sample.window events := by
    unfold eventsOf
    rw [List.filter_filter]
    apply List.filter_congr
    intro event hmem
    by_cases hsame : event.window = sample.window
    · simp [hsame, hseller, hreleaseAt event hmem]
    · simp [hsame]
  rw [Function.comp_apply]
  dsimp only
  rw [hgrouped]

/-- What a window of some status has released is less than it adds up to only while it is open. -/
theorem SettlementInv.max_releasedUnits (h : SettlementInv events windows) (window : WindowKey) :
    max (releasedUnits (eventsOf window events)) (netUnits (eventsOf window events)) =
      max 0 (netUnits (eventsOf window events)) := by
  cases hfind : windows.find? window with
  | none =>
    rw [h.eventsOf_eq_nil hfind]
    rfl
  | some row =>
    have hsettled := h.settled window row hfind
    by_cases hopen : row.status = .open
    · rw [(h.noRelease hfind hopen).releasedUnits_eq]
    · rw [hsettled.releasedUnits_eq hopen]
      omega

theorem SettlementInv.releasedUnits_nonneg (h : SettlementInv events windows) (window : WindowKey) :
    0 ≤ releasedUnits (eventsOf window events) := by
  cases hfind : windows.find? window with
  | none =>
    rw [h.eventsOf_eq_nil hfind]
    exact le_refl 0
  | some row =>
    by_cases hopen : row.status = .open
    · rw [(h.noRelease hfind hopen).releasedUnits_eq]
    · rw [(h.settled window row hfind).releasedUnits_eq hopen]
      exact le_max_left _ _

theorem SettlementInv.balance_total (h : SettlementInv db.events db.windows) {seller : String}
    (hbalance : sellerSettlementBalance db seller evaluatedAt = .ok balance)
    (hsafe : IsSafeInteger ((windowsOf seller db.events).map fun window =>
      max 0 (netUnits (eventsOf window db.events))).sum) :
    balance.total = ((windowsOf seller db.events).map fun window =>
      max 0 (netUnits (eventsOf window db.events))).sum := by
  unfold sellerSettlementBalance at hbalance
  rw [h.balanceRows_eq] at hbalance
  have hsum : (((windowsOf seller db.events).map fun window =>
      (((db.windows.find? window).map SellerSettlementWindow.releaseAt).getD 0,
        netUnits (eventsOf window db.events), releasedUnits (eventsOf window db.events))).map
      fun row => max row.2.2 row.2.1) = (windowsOf seller db.events).map fun window =>
        max 0 (netUnits (eventsOf window db.events)) := by
    rw [List.map_map]
    exact List.map_congr_left fun window _ => h.max_releasedUnits window
  have hzero : SellerSettlementBalance.total ⟨0, 0, 0⟩ = 0 := rfl
  rw [foldlM_addBalanceRow_total hbalance ⟨le_refl _, le_refl _, le_refl _⟩ ?_ ?_, hsum, hzero,
    Int.zero_add]
  · intro row hrow
    obtain ⟨window, -, rfl⟩ := List.mem_map.mp hrow
    exact h.releasedUnits_nonneg window
  · rw [hsum, hzero, Int.zero_add]
    exact hsafe

theorem SettlementInv.balance_returns {db : SettlementDatabase}
    (h : SettlementInv db.events db.windows) (seller : String) (evaluatedAt : Timestamp)
    (hsafe : ∀ window ∈ windowsOf seller db.events,
      IsSafeInteger (netUnits (eventsOf window db.events)) ∧
        IsSafeInteger (releasedUnits (eventsOf window db.events))) :
    ∃ balance, sellerSettlementBalance db seller evaluatedAt = .ok balance := by
  unfold sellerSettlementBalance
  apply foldlM_addBalanceRow_returns
  rw [h.balanceRows_eq]
  intro row hrow
  obtain ⟨window, hwindow, rfl⟩ := List.mem_map.mp hrow
  exact hsafe window hwindow

/-! ### The result -/

/-- What holds in a state that a run from `start` leads to. -/
structure SettlementsConserved (start db : SettlementDatabase) : Prop where
  /-- at most one release -/
  once : ∀ window, releases (eventsOf window db.events) ≤ 1
  /-- a window that is not open has released what all its events add up to -/
  released : ∀ window row, db.windows.find? window = some row → row.status ≠ .open →
    releasedUnits (eventsOf window db.events) = max 0 (netUnits (eventsOf window db.events))
  /-- any other window has released nothing -/
  unreleased : ∀ window, (∀ row, db.windows.find? window = some row → row.status = .open) →
    releases (eventsOf window db.events) = 0
  credits : Credits start db
  /-- what is reported adds up, unless it is more than numbers can add exactly -/
  balance : ∀ seller evaluatedAt balance,
    sellerSettlementBalance db seller evaluatedAt = .ok balance →
    IsSafeInteger ((windowsOf seller db.events).map fun window =>
      max 0 (netUnits (eventsOf window db.events))).sum →
      balance.frozenUnits + balance.releasableUnits + balance.releasedUnits =
        ((windowsOf seller db.events).map fun window =>
          max 0 (netUnits (eventsOf window db.events))).sum
  balanceReturns : ∀ seller evaluatedAt, (∀ window ∈ windowsOf seller db.events,
      IsSafeInteger (netUnits (eventsOf window db.events)) ∧
        IsSafeInteger (releasedUnits (eventsOf window db.events))) →
    ∃ balance, sellerSettlementBalance db seller evaluatedAt = .ok balance

theorem SettlementInv.conserved (h : SettlementInv db.events db.windows)
    (hcredits : Credits start db) : SettlementsConserved start db where
  once window := by
    cases hfind : db.windows.find? window with
    | none =>
      rw [h.eventsOf_eq_nil hfind]
      exact Nat.zero_le 1
    | some row => exact (h.settled window row hfind).releases_le
  released window row hfind hstatus := (h.settled window row hfind).releasedUnits_eq hstatus
  unreleased window hopen := by
    cases hfind : db.windows.find? window with
    | none =>
      rw [h.eventsOf_eq_nil hfind]
      rfl
    | some row => exact (h.noRelease hfind (hopen row hfind)).releases_eq
  credits := hcredits
  balance _ _ _ hbalance hsafe := h.balance_total hbalance hsafe
  balanceReturns seller evaluatedAt hsafe := h.balance_returns seller evaluatedAt hsafe

theorem settlement_run (creditAccounts : Table CreditAccount)
    (creditLedgerEvents : Table CreditLedgerEvent) (inputs : List SettlementInput) :
    SettlementInv
        (Machine.final settlementStep (.initial creditAccounts creditLedgerEvents) inputs).events
        (Machine.final settlementStep (.initial creditAccounts creditLedgerEvents) inputs).windows ∧
      Credits (.initial creditAccounts creditLedgerEvents)
        (Machine.final settlementStep (.initial creditAccounts creditLedgerEvents) inputs) := by
  apply Machine.invariant_final
    (preserved_credits (.initial creditAccounts creditLedgerEvents)).step
  exact ⟨settlementInv_nil, fun _ => (Int.add_zero _).symm, fun _ => (Int.add_zero _).symm⟩

/-- **Conservation.** In every state of a run the settlements are conserved, and a window that is
not open keeps its events from then on. -/
theorem settlement_conserved (creditAccounts : Table CreditAccount)
    (creditLedgerEvents : Table CreditLedgerEvent) (inputs : List SettlementInput) :
    SettlementsConserved (.initial creditAccounts creditLedgerEvents)
        (Machine.final settlementStep (.initial creditAccounts creditLedgerEvents) inputs) ∧
      ∀ later window row,
        (Machine.final settlementStep (.initial creditAccounts creditLedgerEvents)
          inputs).windows.find? window = some row → row.status ≠ .open →
        eventsOf window (Machine.final settlementStep (.initial creditAccounts creditLedgerEvents)
          (inputs ++ later)).events =
          eventsOf window (Machine.final settlementStep
            (.initial creditAccounts creditLedgerEvents) inputs).events := by
  obtain ⟨hinv, hcredits⟩ := settlement_run creditAccounts creditLedgerEvents inputs
  refine ⟨hinv.conserved hcredits, ?_⟩
  intro later window row hfind hstatus
  rw [Machine.final_append]
  exact (Machine.invariant_final (preserved_closed window _).step
    ⟨hinv, ⟨row, hfind, hstatus⟩, rfl⟩ later).2.events

end Frely.SellerSettlement
