import Frely.Application.SellerSettlement
import Mathlib.Algebra.Order.BigOperators.Group.List
import Mathlib.Algebra.Order.Group.Int

/-!
# The windows of seller settlements

`SettlementInv`: every event has the row of its window, with the row's ends; an open window has no
release, a released one has one release of what its other events add up to, and a window that was
closed without a release adds up to nothing.  `SettlementInv.fact` and `WindowSettled.keeps` say
that a fact and a batch keep it.

An Authority purchase has one revenue (a unique index), so that a release that is due is never one
that the indexes have already.
-/

namespace Frely.SellerSettlement

open Checked Frely.Postgres Transaction

/-! ### Events and their sums -/

variable {events more : List SellerSettlementEvent} {window : WindowKey}

theorem eventsOf_append (window : WindowKey) (events more : List SellerSettlementEvent) :
    eventsOf window (events ++ more) = eventsOf window events ++ eventsOf window more :=
  List.filter_append events more

theorem mem_eventsOf {event : SellerSettlementEvent} :
    event ∈ eventsOf window events ↔ event ∈ events ∧ event.window = window := by
  unfold eventsOf
  rw [List.mem_filter, decide_eq_true_iff]

theorem netUnits_append (events more : List SellerSettlementEvent) :
    netUnits (events ++ more) = netUnits events + netUnits more := by
  unfold netUnits
  rw [List.map_append, List.sum_append]

theorem releasedUnits_append (events more : List SellerSettlementEvent) :
    releasedUnits (events ++ more) = releasedUnits events + releasedUnits more := by
  unfold releasedUnits
  rw [List.map_append, List.sum_append]

theorem netUnits_singleton (event : SellerSettlementEvent) : netUnits [event] = event.netUnits := by
  simp [netUnits]

theorem releasedUnits_singleton (event : SellerSettlementEvent) :
    releasedUnits [event] = event.releasedUnits := by
  simp [releasedUnits]

/-- Nothing has been released yet. -/
def NoRelease (events : List SellerSettlementEvent) : Prop :=
  ∀ event ∈ events, event.eventType ≠ .release

theorem NoRelease.releasedUnits_eq (h : NoRelease events) : releasedUnits events = 0 := by
  unfold releasedUnits
  apply List.sum_eq_zero
  intro units hmem
  obtain ⟨event, hevent, rfl⟩ := List.mem_map.mp hmem
  unfold SellerSettlementEvent.releasedUnits
  rw [if_neg (h event hevent)]

/-- What adds up to something has a revenue. -/
theorem exists_revenue (hamounts : ∀ event ∈ events, 0 < event.amountUnits)
    (h : 0 < netUnits events) : ∃ event ∈ events, event.eventType = .revenue := by
  by_contra hnone
  have hle : netUnits events ≤ (events.map fun _ => (0 : Int)).sum := by
    unfold netUnits
    apply List.sum_le_sum
    intro event hevent
    have hamount := hamounts event hevent
    have hother : event.eventType ≠ .revenue := fun htype => hnone ⟨event, hevent, htype⟩
    unfold SellerSettlementEvent.netUnits
    split
    · rename_i htype
      exact absurd htype hother
    all_goals omega
  have hzero : (events.map fun _ => (0 : Int)).sum = 0 := by simp
  omega

theorem releasedUnits_pos (hamounts : ∀ event ∈ events, 0 < event.amountUnits)
    {event : SellerSettlementEvent} (hmem : event ∈ events) (htype : event.eventType = .release) :
    0 < releasedUnits events := by
  have hone : event.releasedUnits ≤ releasedUnits events := by
    apply List.single_le_sum
    · intro units hunits
      obtain ⟨other, hother, rfl⟩ := List.mem_map.mp hunits
      have hamount := hamounts other hother
      unfold SellerSettlementEvent.releasedUnits
      split <;> omega
    · exact List.mem_map_of_mem hmem
  have hamount := hamounts event hmem
  unfold SellerSettlementEvent.releasedUnits at hone
  rw [if_pos htype] at hone
  omega

/-! ### The invariant -/

/-- How often something was released. -/
def releases (events : List SellerSettlementEvent) : Nat :=
  events.countP (·.eventType = .release)

/-- The events of a window in some status. -/
def SettledAs (status : WindowStatus) (events : List SellerSettlementEvent) : Prop :=
  match status with
  | .open => NoRelease events
  | .released => releases events = 1 ∧ releasedUnits events = max 0 (netUnits events)
  | .nonPositive => NoRelease events ∧ netUnits events ≤ 0

/-- The events and the windows that project them. -/
structure SettlementInv (events : List SellerSettlementEvent)
    (windows : Table SellerSettlementWindow) : Prop where
  amounts : ∀ event ∈ events, 0 < event.amountUnits
  projected : ∀ event ∈ events, ∃ row, windows.find? event.window = some row ∧
    row.windowEnd = event.windowEnd ∧ row.releaseAt = event.releaseAt
  settled : ∀ window row, windows.find? window = some row →
    SettledAs row.status (eventsOf window events)
  origins : ∀ event ∈ events, event.eventType = .release →
    event.origin = .settlementWindow event.window
  revenueOnce : ∀ event ∈ events, ∀ other ∈ events, event.eventType = .revenue →
    other.eventType = .revenue → event.window.source.isAuthorityPurchase →
    other.window.source = event.window.source → other.window = event.window

theorem NoRelease.releases_eq (h : NoRelease events) : releases events = 0 := by
  apply List.countP_eq_zero.mpr
  intro event hmem hrelease
  exact h event hmem (of_decide_eq_true hrelease)

theorem SettledAs.releases_le {status : WindowStatus} (h : SettledAs status events) :
    releases events ≤ 1 := by
  cases status with
  | «open» => exact (NoRelease.releases_eq h).le.trans (by omega)
  | released => exact h.1.le
  | nonPositive => exact h.1.releases_eq.le.trans (by omega)

/-- A window that is not open any more has released what its events add up to. -/
theorem SettledAs.releasedUnits_eq {status : WindowStatus} (h : SettledAs status events)
    (hstatus : status ≠ .open) : releasedUnits events = max 0 (netUnits events) := by
  cases status with
  | «open» => exact absurd rfl hstatus
  | released => exact h.2
  | nonPositive =>
    have hnet := h.2
    rw [h.1.releasedUnits_eq]
    omega

variable {windows windows' : Table SellerSettlementWindow} {row old : SellerSettlementWindow}

theorem settlementInv_nil : SettlementInv [] (Table.empty : Table SellerSettlementWindow) where
  amounts _ h := absurd h List.not_mem_nil
  projected _ h := absurd h List.not_mem_nil
  settled _ _ h := (nomatch h)
  origins _ h := absurd h List.not_mem_nil
  revenueOnce _ h := absurd h List.not_mem_nil

/-- A window without a row has no events. -/
theorem SettlementInv.eventsOf_eq_nil (h : SettlementInv events windows)
    (hnone : windows.find? window = none) : eventsOf window events = [] := by
  apply List.eq_nil_iff_forall_not_mem.mpr
  intro event hmem
  obtain ⟨hevent, rfl⟩ := mem_eventsOf.mp hmem
  obtain ⟨row, hrow, -⟩ := h.projected event hevent
  rw [hnone] at hrow
  cases hrow

/-- A release is of a window with a revenue. -/
theorem SettlementInv.revenue_of_release (h : SettlementInv events windows)
    {event : SellerSettlementEvent} (hmem : event ∈ events) (htype : event.eventType = .release) :
    ∃ revenue ∈ events, revenue.eventType = .revenue ∧ revenue.window = event.window := by
  have hin : event ∈ eventsOf event.window events := mem_eventsOf.mpr ⟨hmem, rfl⟩
  have hamounts : ∀ other ∈ eventsOf event.window events, 0 < other.amountUnits := by
    intro other hother
    exact h.amounts other (mem_eventsOf.mp hother).1
  obtain ⟨row, hrow, -⟩ := h.projected event hmem
  have hsettled := h.settled _ row hrow
  have hpos : 0 < netUnits (eventsOf event.window events) := by
    have hreleased := releasedUnits_pos hamounts hin htype
    cases hstatus : row.status with
    | «open» =>
      rw [hstatus] at hsettled
      exact absurd htype (hsettled event hin)
    | released =>
      rw [hsettled.releasedUnits_eq (by rw [hstatus]; exact nofun)] at hreleased
      omega
    | nonPositive =>
      rw [hstatus] at hsettled
      exact absurd htype (hsettled.1 event hin)
  obtain ⟨revenue, hrevenue, hrevenueType⟩ := exists_revenue hamounts hpos
  obtain ⟨hrevenueMem, hwindow⟩ := mem_eventsOf.mp hrevenue
  exact ⟨revenue, hrevenueMem, hrevenueType, hwindow⟩

/-- An event that the indexes let in. -/
structure Admissible (events : List SellerSettlementEvent) (row : SellerSettlementWindow)
    (new : SellerSettlementEvent) : Prop where
  window : new.window = row.windowKey
  windowEnd : row.windowEnd = new.windowEnd
  releaseAt : row.releaseAt = new.releaseAt
  amount : 0 < new.amountUnits
  origin : new.eventType = .release → new.origin = .settlementWindow new.window
  free : ∀ prior ∈ events, ¬prior.SameAuthorityFact new

/-- A row is set, and at most one event of its window is added. -/
theorem SettlementInv.update (h : SettlementInv events windows) (hsets : windows.Sets row windows')
    (hends : ∀ old, windows.find? row.windowKey = some old →
      row.windowEnd = old.windowEnd ∧ row.releaseAt = old.releaseAt)
    {new : Option SellerSettlementEvent} (hnew : ∀ event ∈ new, Admissible events row event)
    (hsettled : SettledAs row.status (eventsOf row.windowKey (events ++ new.toList))) :
    SettlementInv (events ++ new.toList) windows' where
  amounts event hmem := by
    rcases List.mem_append.mp hmem with hmem | hmem
    · exact h.amounts event hmem
    · exact (hnew event (Option.mem_toList.mp hmem)).amount
  projected event hmem := by
    rcases List.mem_append.mp hmem with hmem | hmem
    · obtain ⟨other, hother, hwindowEnd, hreleaseAt⟩ := h.projected event hmem
      by_cases hkey : event.window = row.windowKey
      · have hsame := hends other (hkey ▸ hother)
        rw [hkey]
        exact ⟨row, hsets.find?_self, hsame.1.trans hwindowEnd, hsame.2.trans hreleaseAt⟩
      · exact ⟨other, (hsets.find?_of_ne hkey).trans hother, hwindowEnd, hreleaseAt⟩
    · have hadmissible := hnew event (Option.mem_toList.mp hmem)
      rw [hadmissible.window]
      exact ⟨row, hsets.find?_self, hadmissible.windowEnd, hadmissible.releaseAt⟩
  settled window other hother := by
    by_cases hkey : window = row.windowKey
    · subst hkey
      have hself : windows'.find? row.windowKey = some row := hsets.find?_self
      rw [hself] at hother
      cases hother
      exact hsettled
    · rw [hsets.find?_of_ne hkey] at hother
      have hnone : eventsOf window new.toList = [] := by
        apply List.filter_eq_nil_iff.mpr
        intro event hmem hwindow
        have hadmissible := hnew event (Option.mem_toList.mp hmem)
        exact hkey ((of_decide_eq_true hwindow).symm.trans hadmissible.window)
      rw [eventsOf_append, hnone, List.append_nil]
      exact h.settled window other hother
  origins event hmem htype := by
    rcases List.mem_append.mp hmem with hmem | hmem
    · exact h.origins event hmem htype
    · exact (hnew event (Option.mem_toList.mp hmem)).origin htype
  revenueOnce event hmem other hother htype hotherType hauthority hsource := by
    rcases List.mem_append.mp hmem with hmem | hmem <;>
      rcases List.mem_append.mp hother with hother | hother
    · exact h.revenueOnce event hmem other hother htype hotherType hauthority hsource
    · -- an old and a new event: the unique index refuses the second one
      have hfree := (hnew other (Option.mem_toList.mp hother)).free event hmem
      exact absurd ⟨htype.trans hotherType.symm, by rw [hotherType]; exact nofun, hsource.symm,
        hsource ▸ hauthority⟩ hfree
    · have hfree := (hnew event (Option.mem_toList.mp hmem)).free other hother
      exact absurd ⟨hotherType.trans htype.symm, by rw [htype]; exact nofun, hsource,
        hauthority⟩ hfree
    · have hevent := Option.mem_toList.mp hmem
      cases Option.mem_unique hevent (Option.mem_toList.mp hother)
      rfl

/-! ### The trigger -/

theorem setWindow_sets (hfind : windows.find? row.windowKey = some old) :
    windows.Sets row (setWindow windows row) := by
  have hsets : windows.Sets { row with windowKey := old.windowKey } (setWindow windows row) :=
    Table.sets_modify hfind (fun old => { row with windowKey := old.windowKey }) fun _ => rfl
  have hkey : old.windowKey = row.windowKey := Table.key_of_find? hfind
  rw [hkey] at hsets
  exact hsets

/-- What the trigger does to the row of an event's window. -/
inductive Projects (events : List SellerSettlementEvent) (new : SellerSettlementEvent)
    (windows windows' : Table SellerSettlementWindow) : Prop
  | known : conflicts events new → windows' = windows → Projects events new windows windows'
  | opened (row : SellerSettlementWindow) : new.eventType ≠ .release →
      windows.find? new.window = none → row.windowKey = new.window → row.Accepts new →
      windows.Sets row windows' → Projects events new windows windows'
  | touched (row old : SellerSettlementWindow) : new.eventType ≠ .release →
      windows.find? new.window = some old → old.Accepts new → row.windowKey = new.window →
      row.Accepts new → windows.Sets row windows' → Projects events new windows windows'
  | released (row old : SellerSettlementWindow) : new.eventType = .release →
      windows.find? new.window = some old → old.status = .open → row.windowKey = new.window →
      row.status = .released → row.windowEnd = old.windowEnd → row.releaseAt = old.releaseAt →
      windows.Sets row windows' → Projects events new windows windows'

theorem projectSellerSettlementWindow_eq_some {new : SellerSettlementEvent}
    (h : projectSellerSettlementWindow events new windows = some windows') :
    Projects events new windows windows' := by
  have hknown : (if events.any (·.SameFact new) then some windows else none) = some windows' →
      Projects events new windows windows' := by
    intro hotherwise
    split_ifs at hotherwise with hany
    cases hotherwise
    refine .known ?_ rfl
    obtain ⟨prior, hprior, hsame⟩ := List.any_eq_true.mp hany
    exact List.any_eq_true.mpr ⟨prior, hprior, decide_eq_true (.inl (of_decide_eq_true hsame))⟩
  unfold projectSellerSettlementWindow at h
  dsimp only at h
  cases hfind : windows.find? new.window with
  | none =>
    rw [hfind] at h
    dsimp only at h
    split at h
    · exact hknown h
    · rename_i htype
      exact .opened _ htype hfind rfl ⟨rfl, rfl, rfl⟩ (Table.sets_insert h)
  | some old =>
    have hkey : old.windowKey = new.window := Table.key_of_find? hfind
    rw [hfind] at h
    dsimp only at h
    split at h
    · rename_i htype
      split at h
      · rename_i hopen
        cases h
        exact .released { old with status := .released, updatedAt := new.createdAt } old htype hfind
          hopen hkey rfl rfl rfl (setWindow_sets (hkey ▸ hfind))
      · exact hknown h
    · rename_i htype
      split at h
      · rename_i haccepts
        cases h
        exact .touched { old with updatedAt := new.createdAt } old htype hfind haccepts hkey
          haccepts (setWindow_sets (hkey ▸ hfind))
      · exact hknown h

/-! ### Inserting an event -/

variable {s s' : Session SettlementDatabase} {result : Option SellerSettlementEvent}
  {lease : Option LeaseView} {u : Unit}

/-- What an insert that is ignored on a conflict does, and what it returns. -/
inductive EventInserted (event : SellerSettlementEvent) (db db' : SettlementDatabase) :
    Option SellerSettlementEvent → Prop
  | skipped : db' = db → EventInserted event db db' none
  | ignored (windows : Table SellerSettlementWindow) : conflicts db.events event →
      Projects db.events event db.windows windows → db' = { db with windows } →
      EventInserted event db db' none
  | inserted (windows : Table SellerSettlementWindow) : ¬conflicts db.events event →
      Projects db.events event db.windows windows →
      db' = { db with windows, events := db.events ++ [event] } →
      EventInserted event db db' (some event)

theorem insertReturning_eq_ok {event : SellerSettlementEvent}
    (h : insertReturning event s = .ok (result, s')) :
    EventInserted event s.database s'.database result := by
  obtain ⟨taken, htaken, h⟩ := run_read_bind.mp h
  obtain ⟨_, s₁, hwrite, h⟩ := run_bind.mp h
  obtain ⟨rfl, rfl⟩ := run_pure.mp h
  cases htaken
  have hchange : insertOrIgnore event s.database = some s'.database := write_eq_ok hwrite
  obtain ⟨windows, hwindows, hdb⟩ := Option.map_eq_some_iff.mp hchange
  have hprojects := projectSellerSettlementWindow_eq_some hwindows
  split_ifs with hconflicts
  · rw [if_pos hconflicts] at hdb
    exact .ignored windows hconflicts hprojects hdb.symm
  · rw [if_neg hconflicts] at hdb
    exact .inserted windows hconflicts hprojects hdb.symm

theorem assertHeld_eq_ok (h : assertHeld lease s = .ok (u, s')) : s' = s := by
  cases lease with
  | none => exact (run_pure.mp h).2
  | some view => exact (check_eq_ok.mp h).2

/-- The row that is inserted for an input. -/
def SellerSettlementEventInput.event (input : SellerSettlementEventInput)
    (source : SettlementSource) : SellerSettlementEvent where
  window := ⟨source, input.sellerScopeRef, input.windowStart⟩
  windowEnd := input.windowEnd
  releaseAt := input.releaseAt
  eventType := input.eventType
  amountUnits := input.amountUnits
  origin := input.origin
  createdAt := input.createdAt

theorem insertSellerSettlementEvent_eq_ok {input : SellerSettlementEventInput}
    (h : insertSellerSettlementEvent input lease s = .ok (result, s')) :
    ∃ source event, typedSource input.planSubscriptionId input.authorityPurchaseId = .ok source ∧
      event = input.event source ∧ 0 < input.amountUnits ∧
      EventInserted event s.database s'.database result := by
  obtain ⟨_, hamount, h⟩ := run_check_bind.mp h
  obtain ⟨source, hsource, h⟩ := run_check_bind.mp h
  obtain ⟨row, s₁, hrow, h⟩ := run_bind.mp h
  have hpositive : 0 < input.amountUnits := by
    split_ifs at hamount with hinvalid
    · cases hamount
    · omega
  refine ⟨source, input.event source, hsource, rfl, hpositive, ?_⟩
  have hinserted : EventInserted (input.event source) s.database s₁.database row := by
    unfold insertGuarded at hrow
    split_ifs at hrow
    · exact insertReturning_eq_ok hrow
    · obtain ⟨rfl, rfl⟩ := run_pure.mp hrow
      exact .skipped rfl
  cases row with
  | some event =>
    obtain ⟨rfl, rfl⟩ := run_pure.mp h
    exact hinserted
  | none =>
    obtain ⟨_, s₂, hheld, h⟩ := run_bind.mp h
    obtain ⟨rfl, rfl⟩ := run_pure.mp h
    rw [assertHeld_eq_ok hheld]
    exact hinserted

theorem not_sameAuthorityFact {event prior : SellerSettlementEvent} (h : ¬conflicts events event)
    (hprior : prior ∈ events) : ¬prior.SameAuthorityFact event := by
  intro hsame
  exact h (List.any_eq_true.mpr ⟨prior, hprior, decide_eq_true (.inr hsame)⟩)

/-- A fact keeps the invariant, whether it is inserted or only projected. -/
theorem SettlementInv.fact {db db' : SettlementDatabase} {event : SellerSettlementEvent}
    (h : SettlementInv db.events db.windows) (hfact : event.eventType ≠ .release)
    (hamount : 0 < event.amountUnits) (hinserted : EventInserted event db db' result) :
    SettlementInv db'.events db'.windows := by
  -- a row that accepts the event, with or without the event
  have hset : ∀ (row : SellerSettlementWindow) (windows : Table SellerSettlementWindow)
      (new : Option SellerSettlementEvent), row.windowKey = event.window → row.Accepts event →
      db.windows.Sets row windows →
      (∀ old, db.windows.find? event.window = some old → old.Accepts event) →
      (∀ other ∈ new, other = event ∧ ¬conflicts db.events event) →
      SettlementInv (db.events ++ new.toList) windows := by
    intro row windows new hkey haccepts hsets hold hnew
    obtain ⟨hopen, hwindowEnd, hreleaseAt⟩ := haccepts
    apply h.update hsets
    · intro old hfind
      rw [hkey] at hfind
      obtain ⟨-, holdEnd, holdRelease⟩ := hold old hfind
      exact ⟨hwindowEnd.trans holdEnd.symm, hreleaseAt.trans holdRelease.symm⟩
    · intro other hother
      obtain ⟨rfl, hfree⟩ := hnew other hother
      exact ⟨hkey.symm, hwindowEnd, hreleaseAt, hamount, fun htype => absurd htype hfact,
        fun prior hprior => not_sameAuthorityFact hfree hprior⟩
    · rw [hopen, hkey, eventsOf_append]
      intro other hother
      rcases List.mem_append.mp hother with hother | hother
      · cases hfind : db.windows.find? event.window with
        | none =>
          rw [h.eventsOf_eq_nil hfind] at hother
          cases hother
        | some old =>
          have hsettled := h.settled event.window old hfind
          rw [(hold old hfind).1] at hsettled
          exact hsettled other hother
      · obtain ⟨hmem, -⟩ := mem_eventsOf.mp hother
        obtain ⟨rfl, -⟩ := hnew other (Option.mem_toList.mp hmem)
        exact hfact
  have hprojects : ∀ (windows : Table SellerSettlementWindow) (new : Option SellerSettlementEvent),
      Projects db.events event db.windows windows →
      (∀ other ∈ new, other = event ∧ ¬conflicts db.events event) →
      SettlementInv (db.events ++ new.toList) windows := by
    intro windows new hprojects hnew
    cases hprojects with
    | known hconflicts hsame =>
      cases new with
      | none =>
        rw [hsame, Option.toList_none, List.append_nil]
        exact h
      | some other => exact absurd hconflicts (hnew other rfl).2
    | opened row _ hnone hkey haccepts hsets =>
      apply hset row windows new hkey haccepts hsets _ hnew
      intro old hfind
      rw [hnone] at hfind
      cases hfind
    | touched row old _ hfind hold hkey haccepts hsets =>
      apply hset row windows new hkey haccepts hsets _ hnew
      intro other hother
      rw [hfind] at hother
      cases hother
      exact hold
    | released _ _ hrelease => exact absurd hrelease hfact
  cases hinserted with
  | skipped hdb =>
    rw [hdb]
    exact h
  | ignored windows _ hproject hdb =>
    have hkept := hprojects windows none hproject (fun _ hmem => (nomatch hmem))
    rw [Option.toList_none, List.append_nil] at hkept
    rw [hdb]
    exact hkept
  | inserted windows hfree hproject hdb =>
    rw [hdb]
    exact hprojects windows (some event) hproject fun other hmem =>
      ⟨(Option.mem_some_iff.mp hmem).symm, hfree⟩

/-! ### Paying the seller -/

variable {account : CreditAccount} {accounts : Table CreditAccount} {amountUnits : Int}
  {input : ReleaseInput} {outcome : WindowOutcome}

/-- The balances of the accounts with some identifiers and scopes. -/
def balanceWhere (select : String → String → Bool) (accounts : Table CreditAccount) : Int :=
  accounts.sumOf fun account =>
    if select account.id account.scopeRef then account.balanceSnapUnits else 0

/-- An amount is added to an account of a scope. -/
def Credited (accountId scopeRef : String) (amountUnits : Int)
    (before after : Table CreditAccount) :
    Prop :=
  ∀ select : String → String → Bool, balanceWhere select after =
    balanceWhere select before + if select accountId scopeRef then amountUnits else 0

theorem credited_modify (hfind : accounts.find? account.id = some account) (amountUnits : Int)
    (ledgerEventId : String) (updatedAt : Timestamp) :
    Credited account.id account.scopeRef amountUnits accounts
      (accounts.modify account.id (addToBalance amountUnits ledgerEventId updatedAt)
        fun _ => rfl) := by
  intro select
  unfold balanceWhere
  refine (Table.sumOf_modify hfind _).trans ?_
  unfold addToBalance
  dsimp only
  split <;> omega

/-- A new account has no balance. -/
theorem balanceWhere_insert {accounts' : Table CreditAccount}
    (h : accounts.insert? account = some accounts') (hzero : account.balanceSnapUnits = 0)
    (select : String → String → Bool) :
    balanceWhere select accounts' = balanceWhere select accounts := by
  unfold balanceWhere
  rw [Table.sumOf_insert h, hzero]
  split <;> omega

theorem getOrCreateActiveCreditAccount_eq_ok {scopeRef : String} {now : Timestamp}
    (h : getOrCreateActiveCreditAccount scopeRef now s = .ok (account, s')) :
    ∃ accounts, s'.database = { s.database with creditAccounts := accounts } ∧
      accounts.find? account.id = some account ∧ account.scopeRef = scopeRef ∧
      ∀ select, balanceWhere select accounts = balanceWhere select s.database.creditAccounts := by
  obtain ⟨found, hfound, h⟩ := run_read_bind.mp h
  cases hfound
  cases hfind : findCreditAccountForScope scopeRef s.database with
  | some existing =>
    rw [hfind] at h
    obtain ⟨rfl, rfl⟩ := run_pure.mp h
    unfold findCreditAccountForScope at hfind
    have hmem : account ∈ s'.database.creditAccounts := List.mem_of_find?_eq_some hfind
    have hmatch := List.find?_some hfind
    have hscope : account.scopeRef = scopeRef ∧ account.status = "active" :=
      of_decide_eq_true hmatch
    exact ⟨s'.database.creditAccounts, rfl, Table.find?_of_mem hmem, hscope.1, fun _ => rfl⟩
  | none =>
    rw [hfind] at h
    obtain ⟨id, s₁, hid, h⟩ := run_bind.mp h
    obtain ⟨taken, -, h⟩ := run_read_bind.mp h
    obtain ⟨_, -, h⟩ := run_check_bind.mp h
    obtain ⟨_, s₂, hwrite, h⟩ := run_bind.mp h
    obtain ⟨rfl, rfl⟩ := run_pure.mp h
    have hchange := write_eq_ok hwrite
    rw [createId_eq_ok hid] at hchange
    obtain ⟨accounts, hinsert, hdb⟩ := Option.map_eq_some_iff.mp hchange
    refine ⟨accounts, hdb.symm, Table.find?_insert_self hinsert, rfl, ?_⟩
    exact balanceWhere_insert hinsert rfl

theorem creditAccount_eq_ok {ledgerEventId : String} {updatedAt : Timestamp}
    (hfind : s.database.creditAccounts.find? account.id = some account)
    (h : creditAccount account.id amountUnits ledgerEventId updatedAt lease s = .ok (u, s')) :
    ∃ accounts, s'.database = { s.database with creditAccounts := accounts } ∧
      Credited account.id account.scopeRef amountUnits s.database.creditAccounts accounts := by
  obtain ⟨active, -, h⟩ := run_read_bind.mp h
  split_ifs at h
  · have hchange := write_eq_ok h
    exact ⟨_, (Option.some.inj hchange).symm, credited_modify hfind amountUnits ledgerEventId
      updatedAt⟩
  · obtain ⟨_, s₁, -, h⟩ := run_bind.mp h
    cases (check_eq_ok.mp h).1

theorem insertSellerSettlementLedgerEvent_eq_ok {event : CreditLedgerEvent}
    (h : insertSellerSettlementLedgerEvent event lease s = .ok (u, s')) :
    ∃ ledger, s.database.creditLedgerEvents.insert? event = some ledger ∧
      s'.database = { s.database with creditLedgerEvents := ledger } := by
  unfold insertSellerSettlementLedgerEvent at h
  split_ifs at h
  · have hchange := write_eq_ok h
    obtain ⟨ledger, hinsert, hdb⟩ := Option.map_eq_some_iff.mp hchange
    exact ⟨ledger, hinsert, hdb.symm⟩
  · obtain ⟨_, s₁, -, h⟩ := run_bind.mp h
    cases (check_eq_ok.mp h).1

/-- What the seller of a window is paid. -/
structure SellerPaid (window : WindowKey) (amountUnits : Int) (db db' : SettlementDatabase)
    (posted : CreditLedgerEvent) : Prop where
  events : db'.events = db.events
  windows : db'.windows = db.windows
  eventType : posted.eventType = .sellerSettlementRelease
  source : posted.source = window.source
  amount : posted.amountUnits = amountUnits
  ledger : db.creditLedgerEvents.insert? posted = some db'.creditLedgerEvents
  accounts : Credited posted.accountId window.sellerScopeRef amountUnits db.creditAccounts
    db'.creditAccounts

theorem paySeller_eq_ok (h : paySeller input window amountUnits s = .ok (outcome, s')) :
    ∃ posted, SellerPaid window amountUnits s.database s'.database posted := by
  obtain ⟨account, s₁, haccount, h⟩ := run_bind.mp h
  obtain ⟨ledgerId, s₂, hid, h⟩ := run_bind.mp h
  obtain ⟨_, s₃, hcredit, h⟩ := run_bind.mp h
  obtain ⟨_, s₄, hledger, h⟩ := run_bind.mp h
  obtain ⟨-, rfl⟩ := run_pure.mp h
  obtain ⟨accounts₁, hdb₁, hfind, hscope, hsame⟩ := getOrCreateActiveCreditAccount_eq_ok haccount
  have hdb₂ : s₂.database = s₁.database := createId_eq_ok hid
  rw [← hdb₂] at hdb₁
  have hfind₂ : s₂.database.creditAccounts.find? account.id = some account := by
    rw [hdb₁]
    exact hfind
  obtain ⟨accounts₃, hdb₃, hcredited⟩ := creditAccount_eq_ok hfind₂ hcredit
  obtain ⟨ledger, hinsert, hdb₄⟩ := insertSellerSettlementLedgerEvent_eq_ok hledger
  rw [hdb₃, hdb₁] at hinsert
  rw [hdb₁] at hcredited hdb₃
  rw [hdb₃] at hdb₄
  rw [hdb₄]
  refine ⟨_, rfl, rfl, rfl, rfl, rfl, hinsert, ?_⟩
  intro select
  rw [← hsame select, ← hscope]
  exact hcredited select

/-! ### One window of a batch -/

variable {windowEnd releaseAt : Option Timestamp}

/-- What a batch may do to one window. -/
inductive WindowSettled (db db' : SettlementDatabase) : Prop
  | nothing : db' = db → WindowSettled db db'
  | moved (row old : SellerSettlementWindow) (windows : Table SellerSettlementWindow) :
      db.windows.find? row.windowKey = some old → old.status = .open →
      row.windowEnd = old.windowEnd → row.releaseAt = old.releaseAt →
      row.status = .open ∨
        row.status = .nonPositive ∧ netUnits (eventsOf row.windowKey db.events) ≤ 0 →
      db.windows.Sets row windows → db' = { db with windows } → WindowSettled db db'
  | released (event : SellerSettlementEvent) (row old : SellerSettlementWindow)
      (windows : Table SellerSettlementWindow) (posted : CreditLedgerEvent) :
      event.eventType = .release → event.origin = .settlementWindow event.window →
      event.amountUnits = netUnits (eventsOf event.window db.events) → 0 < event.amountUnits →
      ¬conflicts db.events event →
      db.windows.find? event.window = some old → old.status = .open →
      row.windowKey = event.window → row.status = .released → row.windowEnd = old.windowEnd →
      row.releaseAt = old.releaseAt → row.windowEnd = event.windowEnd →
      row.releaseAt = event.releaseAt → db.windows.Sets row windows →
      SellerPaid event.window event.amountUnits
        { db with windows, events := db.events ++ [event] } db' posted → WindowSettled db db'

theorem updateWindow_eq_ok (h : updateWindow row lease s = .ok (u, s'))
    (hfind : s.database.windows.find? row.windowKey = some old) :
    s'.database = s.database ∨ ∃ windows, s.database.windows.Sets row windows ∧
      s'.database = { s.database with windows } := by
  unfold updateWindow at h
  split_ifs at h
  · have hchange := write_eq_ok h
    exact .inr ⟨_, setWindow_sets hfind, (Option.some.inj hchange).symm⟩
  · exact .inl (congrArg Session.database (assertHeld_eq_ok h))

theorem safePostgresInteger_eq_ok {value units : Int} {code : String}
    (h : safePostgresInteger value code = .ok units) : units = value ∧ IsSafeInteger value := by
  obtain ⟨_, hsafe, h⟩ := bind_eq_ok.mp h
  cases h
  exact ⟨rfl, not_not.mp (rejectIf_eq_ok.mp hsafe)⟩

theorem notNull_eq_ok {α : Type} {value : Option α} {a : α} (h : notNull value s = .ok (a, s')) :
    value = some a ∧ s' = s := by
  cases value with
  | none => cases h
  | some other =>
    obtain ⟨rfl, rfl⟩ := run_pure.mp h
    exact ⟨rfl, rfl⟩

/-- The release of an open window with something to release is not known to the indexes. -/
theorem SettlementInv.release_free (h : SettlementInv events windows)
    {event : SellerSettlementEvent} (hrelease : event.eventType = .release)
    (horigin : event.origin = .settlementWindow event.window)
    (hopen : NoRelease (eventsOf event.window events))
    (hnet : 0 < netUnits (eventsOf event.window events)) : ¬conflicts events event := by
  intro hconflicts
  obtain ⟨prior, hprior, hsame⟩ := List.any_eq_true.mp hconflicts
  rcases of_decide_eq_true hsame with hfact | hauthority
  · -- the same origin: a release of this window
    obtain ⟨htype, hsameOrigin, -⟩ := hfact
    have hpriorRelease : prior.eventType = .release := htype.trans hrelease
    rw [h.origins prior hprior hpriorRelease, horigin] at hsameOrigin
    have hwindow : prior.window = event.window := EventOrigin.settlementWindow.inj hsameOrigin
    exact hopen prior (mem_eventsOf.mpr ⟨hprior, hwindow⟩) hpriorRelease
  · -- the same purchase: its one revenue is of both windows
    obtain ⟨htype, -, hsource, hisAuthority⟩ := hauthority
    have hpriorRelease : prior.eventType = .release := htype.trans hrelease
    obtain ⟨revenue, hrevenue, hrevenueType, hrevenueWindow⟩ :=
      h.revenue_of_release hprior hpriorRelease
    have hamounts : ∀ other ∈ eventsOf event.window events, 0 < other.amountUnits := by
      intro other hother
      exact h.amounts other (mem_eventsOf.mp hother).1
    obtain ⟨own, hown, hownType⟩ := exists_revenue hamounts hnet
    obtain ⟨hownMem, hownWindow⟩ := mem_eventsOf.mp hown
    have hwindow : revenue.window = own.window := by
      apply h.revenueOnce own hownMem revenue hrevenue hownType hrevenueType
      · rw [hownWindow]
        exact hisAuthority
      · rw [hrevenueWindow, hownWindow]
        exact hsource
    have hpriorWindow : prior.window = event.window := by
      rw [← hrevenueWindow, hwindow, hownWindow]
    exact hopen prior (mem_eventsOf.mpr ⟨hprior, hpriorWindow⟩) hpriorRelease

/-- The earliest of the ends that all events share. -/
theorem min?_map_eq {f : SellerSettlementEvent → Timestamp} {value least : Timestamp}
    (hsame : ∀ event ∈ events, value = f event) (h : (events.map f).min? = some least) :
    value = least := by
  obtain ⟨event, hevent, rfl⟩ := List.mem_map.mp (List.min?_mem h)
  exact hsame event hevent

theorem deferWindow_eq_ok (hfind : s.database.windows.find? row.windowKey = some row)
    (hopen : row.status = .open) (h : deferWindow input row s = .ok (outcome, s')) :
    WindowSettled s.database s'.database := by
  obtain ⟨_, s₁, hupdate, h⟩ := run_bind.mp h
  obtain ⟨-, rfl⟩ := run_pure.mp h
  rcases updateWindow_eq_ok hupdate hfind with hsame | ⟨windows, hsets, hdb⟩
  · exact .nothing hsame
  · refine .moved _ row windows ?_ hopen ?_ ?_ ?_ hsets hdb
    · exact hfind
    · rfl
    · rfl
    · exact .inl hopen

theorem closeWindow_eq_ok (hfind : s.database.windows.find? row.windowKey = some row)
    (hopen : row.status = .open) (hnet : netUnits (eventsOf row.windowKey s.database.events) ≤ 0)
    (h : closeWindow input row s = .ok (outcome, s')) : WindowSettled s.database s'.database := by
  obtain ⟨_, s₁, hupdate, h⟩ := run_bind.mp h
  obtain ⟨-, rfl⟩ := run_pure.mp h
  rcases updateWindow_eq_ok hupdate hfind with hsame | ⟨windows, hsets, hdb⟩
  · exact .nothing hsame
  · refine .moved _ row windows ?_ hopen ?_ ?_ ?_ hsets hdb
    · exact hfind
    · rfl
    · rfl
    · exact .inr ⟨rfl, hnet⟩

theorem typedSource_of (source : SettlementSource) :
    typedSource (planSubscriptionIdOf source) (authorityPurchaseIdOf source) = .ok source := by
  cases source <;> rfl

/-- The event of a release. -/
structure IsRelease (event : SellerSettlementEvent) (window : WindowKey) (amountUnits : Int)
    (windowEnd releaseAt : Timestamp) : Prop where
  window : event.window = window
  eventType : event.eventType = .release
  origin : event.origin = .settlementWindow event.window
  amount : event.amountUnits = amountUnits
  windowEnd : event.windowEnd = windowEnd
  releaseAt : event.releaseAt = releaseAt

theorem releaseAmount_run
    (h : releaseAmount input window amountUnits windowEnd releaseAt s = .ok (outcome, s')) :
    ∃ event lastEnd lastRelease, windowEnd = some lastEnd ∧ releaseAt = some lastRelease ∧
      IsRelease event window amountUnits lastEnd lastRelease ∧
      (EventInserted event s.database s'.database none ∨
        ∃ db posted, EventInserted event s.database db (some event) ∧
          SellerPaid window amountUnits db s'.database posted) := by
  obtain ⟨lastEnd, s₁, hlastEnd, h⟩ := run_bind.mp h
  obtain ⟨lastRelease, s₂, hlastRelease, h⟩ := run_bind.mp h
  obtain ⟨settlement, s₃, hsettlement, h⟩ := run_bind.mp h
  obtain ⟨hsomeEnd, hs₁⟩ := notNull_eq_ok hlastEnd
  obtain ⟨hsomeRelease, hs₂⟩ := notNull_eq_ok hlastRelease
  rw [hs₂, hs₁] at hsettlement
  obtain ⟨source, event, hsource, hevent, -, hinserted⟩ :=
    insertSellerSettlementEvent_eq_ok hsettlement
  dsimp only at hsource
  rw [typedSource_of] at hsource
  cases hsource
  have hrelease : IsRelease event window amountUnits lastEnd lastRelease := by
    rw [hevent]
    exact ⟨rfl, rfl, rfl, rfl, rfl, rfl⟩
  refine ⟨event, lastEnd, lastRelease, hsomeEnd, hsomeRelease, hrelease, ?_⟩
  cases settlement with
  | none =>
    obtain ⟨-, rfl⟩ := run_pure.mp h
    exact .inl hinserted
  | some other =>
    obtain ⟨posted, hpaid⟩ := paySeller_eq_ok h
    have hsame := hinserted
    cases hsame with
    | inserted => exact .inr ⟨s₃.database, posted, hinserted, hpaid⟩

/-- A due window with something to release, which no other release keeps from its own. -/
theorem releaseAmount_eq_ok {input : ReleaseInput} {windowEnd releaseAt : Option Timestamp}
    {outcome : WindowOutcome} {s s' : Session SettlementDatabase}
    (hinv : SettlementInv s.database.events s.database.windows)
    (hfind : s.database.windows.find? row.windowKey = some row) (hopen : row.status = .open)
    (hnet : 0 < netUnits (eventsOf row.windowKey s.database.events))
    (hwindowEnd : ∀ time ∈ windowEnd, row.windowEnd = time)
    (hreleaseAt : ∀ time ∈ releaseAt, row.releaseAt = time)
    (h : releaseAmount input row.windowKey
      (netUnits (eventsOf row.windowKey s.database.events)) windowEnd releaseAt s =
        .ok (outcome, s')) :
    WindowSettled s.database s'.database := by
  obtain ⟨event, lastEnd, lastRelease, hlastEnd, hlastRelease, hrelease, h⟩ := releaseAmount_run h
  obtain ⟨hwindow, htype, horigin, hamount, hend, hat⟩ := hrelease
  have hsettled := hinv.settled row.windowKey row hfind
  rw [hopen] at hsettled
  have hfree : ¬conflicts s.database.events event := by
    apply hinv.release_free htype horigin
    · rw [hwindow]
      exact hsettled
    · rw [hwindow]
      exact hnet
  rcases h with hinserted | ⟨db, posted, hinserted, hpaid⟩
  · cases hinserted with
    | skipped hsame => exact .nothing hsame
    | ignored windows hconflicts => exact absurd hconflicts hfree
  · cases hinserted with
    | inserted windows _ hprojects hdb =>
      rw [hdb, ← hamount, ← hwindow] at hpaid
      rw [← hwindow] at hfind hamount hnet
      cases hprojects with
      | known hconflicts => exact absurd hconflicts hfree
      | opened _ hfact => exact absurd htype hfact
      | touched _ _ hfact => exact absurd htype hfact
      | released other old _ hold holdOpen hkey hstatus holdEnd holdRelease hsets =>
        have hsame : old = row := Option.some.inj (hold.symm.trans hfind)
        have hrowEnd : other.windowEnd = event.windowEnd := by
          rw [holdEnd, hsame, hend]
          exact hwindowEnd lastEnd hlastEnd
        have hrowRelease : other.releaseAt = event.releaseAt := by
          rw [holdRelease, hsame, hat]
          exact hreleaseAt lastRelease hlastRelease
        exact .released event other old windows posted htype horigin hamount (by omega) hfree hold
          holdOpen hkey hstatus holdEnd holdRelease hrowEnd hrowRelease hsets hpaid

theorem settleWindow_eq_ok (hinv : SettlementInv s.database.events s.database.windows)
    (hfind : s.database.windows.find? row.windowKey = some row) (hopen : row.status = .open)
    (h : settleWindow input row s = .ok (outcome, s')) : WindowSettled s.database s'.database := by
  obtain ⟨windowEvents, hevents, h⟩ := run_read_bind.mp h
  obtain ⟨net, hnet, h⟩ := run_check_bind.mp h
  obtain ⟨released, hreleased, h⟩ := run_check_bind.mp h
  cases hevents
  obtain ⟨rfl, -⟩ := safePostgresInteger_eq_ok hnet
  obtain ⟨rfl, -⟩ := safePostgresInteger_eq_ok hreleased
  have hsettled : NoRelease (eventsOf row.windowKey s.database.events) := by
    have hany := hinv.settled row.windowKey row hfind
    rw [hopen] at hany
    exact hany
  rw [hsettled.releasedUnits_eq] at h
  -- the row's ends are those of the window's events
  have hends : ∀ event ∈ eventsOf row.windowKey s.database.events,
      row.windowEnd = event.windowEnd ∧ row.releaseAt = event.releaseAt := by
    intro event hmem
    obtain ⟨hevent, hwindow⟩ := mem_eventsOf.mp hmem
    obtain ⟨other, hother, hwindowEnd, hreleaseAt⟩ := hinv.projected event hevent
    rw [hwindow, hfind] at hother
    cases hother
    exact ⟨hwindowEnd, hreleaseAt⟩
  split_ifs at h with hnothing
  · exact closeWindow_eq_ok hfind hopen (by omega) h
  · have hamount : max 0 (netUnits (eventsOf row.windowKey s.database.events) - 0) =
        netUnits (eventsOf row.windowKey s.database.events) := by
      omega
    rw [hamount] at h
    apply releaseAmount_eq_ok hinv hfind hopen (by omega) _ _ h
    · intro time htime
      exact min?_map_eq (fun event hmem => (hends event hmem).1) htime
    · intro time htime
      exact min?_map_eq (fun event hmem => (hends event hmem).2) htime

/-- **One window.** -/
theorem releaseWindow_eq_ok {candidate : SellerSettlementWindow}
    (hinv : SettlementInv s.database.events s.database.windows)
    (h : releaseWindow input candidate s = .ok (outcome, s')) :
    WindowSettled s.database s'.database := by
  obtain ⟨projection, hprojection, h⟩ := run_read_bind.mp h
  cases hprojection
  cases hlocked : (s.database.windows.find? candidate.windowKey).filter (·.status = .open) with
  | none =>
    rw [hlocked] at h
    obtain ⟨-, rfl⟩ := run_pure.mp h
    exact .nothing rfl
  | some row =>
    rw [hlocked] at h
    obtain ⟨_, -, h⟩ := run_check_bind.mp h
    obtain ⟨hcandidate, hopen⟩ := Option.filter_eq_some_iff.mp hlocked
    have hfind : s.database.windows.find? row.windowKey = some row := by
      rw [← Table.key_of_find? hcandidate] at hcandidate
      exact hcandidate
    split_ifs at h
    · exact deferWindow_eq_ok hfind (of_decide_eq_true hopen) h
    · exact settleWindow_eq_ok hinv hfind (of_decide_eq_true hopen) h

theorem SettlementInv.noRelease (h : SettlementInv events windows)
    (hfind : windows.find? window = some row) (hopen : row.status = .open) :
    NoRelease (eventsOf window events) := by
  have hsettled := h.settled window row hfind
  rw [hopen] at hsettled
  exact hsettled

theorem WindowSettled.keeps {db db' : SettlementDatabase} (h : WindowSettled db db')
    (hinv : SettlementInv db.events db.windows) : SettlementInv db'.events db'.windows := by
  cases h with
  | nothing hsame =>
    rw [hsame]
    exact hinv
  -- no event is added, and the net is nothing where the window is closed
  | moved row old windows hfind hopen hwindowEnd hreleaseAt hstatus hsets hdb =>
    have hnone := hinv.noRelease hfind hopen
    have hsettled : SettledAs row.status
        (eventsOf row.windowKey (db.events ++ (none : Option SellerSettlementEvent).toList)) := by
      rw [Option.toList_none, List.append_nil]
      rcases hstatus with hstatus | ⟨hstatus, hnet⟩
      · rw [hstatus]
        exact hnone
      · rw [hstatus]
        exact ⟨hnone, hnet⟩
    have hends : ∀ other, db.windows.find? row.windowKey = some other →
        row.windowEnd = other.windowEnd ∧ row.releaseAt = other.releaseAt := by
      intro other hother
      rw [hfind] at hother
      cases hother
      exact ⟨hwindowEnd, hreleaseAt⟩
    have hnew : ∀ other ∈ (none : Option SellerSettlementEvent),
        Admissible db.events row other := by
      intro other hmem
      cases hmem
    have hkept := hinv.update hsets hends hnew hsettled
    rw [Option.toList_none, List.append_nil] at hkept
    rw [hdb]
    exact hkept
  | released event row old windows posted htype horigin hamount hpositive hfree hfind hopen hkey
      hstatus hwindowEnd hreleaseAt hrowEnd hrowRelease hsets hpaid =>
    have hnone := hinv.noRelease hfind hopen
    have hself : eventsOf event.window [event] = [event] := by simp [eventsOf]
    -- the release is the window's first, and pays out its net
    have hsettled : SettledAs row.status
        (eventsOf row.windowKey (db.events ++ (some event).toList)) := by
      rw [hstatus, hkey, Option.toList_some, eventsOf_append, hself]
      refine ⟨?_, ?_⟩
      · have hone : releases [event] = 1 := by simp [releases, htype]
        unfold releases at hone ⊢
        rw [List.countP_append, hone]
        have hzero := hnone.releases_eq
        unfold releases at hzero
        omega
      · have hnet : event.netUnits = 0 := by simp [SellerSettlementEvent.netUnits, htype]
        have hreleased : event.releasedUnits = event.amountUnits := by
          simp [SellerSettlementEvent.releasedUnits, htype]
        rw [releasedUnits_append, netUnits_append, releasedUnits_singleton, netUnits_singleton,
          hnone.releasedUnits_eq, hnet, hreleased, hamount]
        omega
    have hends : ∀ other, db.windows.find? row.windowKey = some other →
        row.windowEnd = other.windowEnd ∧ row.releaseAt = other.releaseAt := by
      intro other hother
      rw [hkey, hfind] at hother
      cases hother
      exact ⟨hwindowEnd, hreleaseAt⟩
    have hnew : ∀ other ∈ some event, Admissible db.events row other := by
      intro other hmem
      cases hmem
      exact ⟨hkey.symm, hrowEnd, hrowRelease, hpositive, fun _ => horigin,
        fun prior hprior => not_sameAuthorityFact hfree hprior⟩
    have hkept := hinv.update hsets hends hnew hsettled
    rw [hpaid.events, hpaid.windows]
    exact hkept

end Frely.SellerSettlement
