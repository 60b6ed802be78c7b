import Frely.Entitlement.PersonalProviderSlots
import Frely.Lib.Machine

/-!
# Personal Provider slots keep every paid day

The periods of a slot, the newest first, form a chain: each starts where the one before it ends, or
at its own fulfilment when that is later (`Chained`).  With the subscriptions of a slot's Plan on
its periods (`SlotInv`), no renewal overlaps, and the lifecycle at a time after the last fulfilment
tells whether a period contains it.
-/

namespace Frely.PersonalProviderSlots

open Checked Frely.Entitlement Machine Transaction

/-! ### Chains of periods -/

/-- Where a period starts behind another one. -/
def startAfter (older : Option EntitlementPeriod) (fulfilledAt : IsoTime) : IsoTime :=
  match older with
  | none => fulfilledAt
  | some older => laterOf older.effectiveEnd fulfilledAt

/-- A period lasts as many days as were paid for. -/
def EntitlementPeriod.LastsItsDays (period : EntitlementPeriod) : Prop :=
  period.effectiveEnd.ms = period.effectiveStart.ms + period.durationDays * secondsPerDay * 1000

/-- The period is running at this time. -/
def EntitlementPeriod.Contains (period : EntitlementPeriod) (ms : Int) : Prop :=
  period.effectiveStart.ms ≤ ms ∧ ms < period.effectiveEnd.ms

/-- The periods of a slot, the newest first. -/
def Chained : List EntitlementPeriod → Prop
  | [] => True
  | period :: older =>
    period.effectiveStart = startAfter older.head? period.fulfillmentSucceededAt ∧
      period.LastsItsDays ∧ Chained older

theorem le_laterOf (left right : IsoTime) :
    left.ms ≤ (laterOf left right).ms ∧ right.ms ≤ (laterOf left right).ms := by
  unfold laterOf
  split <;> constructor <;> omega

variable {period : EntitlementPeriod} {older : List EntitlementPeriod}

theorem Chained.fulfilled_le (h : Chained (period :: older)) :
    period.fulfillmentSucceededAt.ms ≤ period.effectiveStart.ms := by
  rw [h.1]
  cases older with
  | nil => exact le_rfl
  | cons next rest => exact (le_laterOf _ _).2

/-- All older periods are over when a period starts. -/
theorem Chained.end_le (h : Chained (period :: older)) :
    ∀ q ∈ older, q.effectiveEnd.ms ≤ period.effectiveStart.ms := by
  induction older generalizing period with
  | nil => exact fun q hq => absurd hq List.not_mem_nil
  | cons next rest ih =>
    obtain ⟨hstart, -, hrest⟩ := h
    have hnext : next.effectiveEnd.ms ≤ period.effectiveStart.ms := by
      rw [hstart]
      exact (le_laterOf _ _).1
    intro q hq
    rcases List.mem_cons.mp hq with rfl | hq
    · exact hnext
    · have hle := ih hrest q hq
      have hordered := next.ordered
      omega

variable {periods : List EntitlementPeriod}

theorem Chained.pairwise (h : Chained periods) :
    periods.Pairwise fun newer older => older.effectiveEnd.ms ≤ newer.effectiveStart.ms := by
  induction periods with
  | nil => exact List.Pairwise.nil
  | cons period older ih => exact List.pairwise_cons.mpr ⟨h.end_le, ih h.2.2⟩

theorem Chained.of_mem (h : Chained periods) (hperiod : period ∈ periods) :
    period.LastsItsDays ∧ period.fulfillmentSucceededAt.ms ≤ period.effectiveStart.ms := by
  induction periods with
  | nil => cases hperiod
  | cons first older ih =>
    rcases List.mem_cons.mp hperiod with rfl | hperiod
    · exact ⟨h.2.1, h.fulfilled_le⟩
    · exact ih h.2.2 hperiod

/-- No gap opens before the last end once every period is fulfilled. -/
theorem Chained.exists_contains (h : Chained (period :: older)) {ms : Int}
    (hfulfilled : ∀ q ∈ period :: older, q.fulfillmentSucceededAt.ms ≤ ms)
    (hms : ms < period.effectiveEnd.ms) : ∃ q ∈ period :: older, q.Contains ms := by
  induction older generalizing period with
  | nil =>
    refine ⟨period, List.mem_cons_self, ?_, hms⟩
    rw [h.1]
    exact hfulfilled period List.mem_cons_self
  | cons next rest ih =>
    by_cases hstart : period.effectiveStart.ms ≤ ms
    · exact ⟨period, List.mem_cons_self, hstart, hms⟩
    · -- the period starts later than its fulfilment, so where the one before it ends
      have hbefore : ms < next.effectiveEnd.ms := by
        have hown := hfulfilled period List.mem_cons_self
        rw [h.1] at hstart
        dsimp only [List.head?_cons, startAfter] at hstart
        unfold laterOf at hstart
        split at hstart <;> omega
      obtain ⟨q, hq, hcontains⟩ := ih h.2.2
        (fun q hq => hfulfilled q (List.mem_cons_of_mem _ hq)) hbefore
      exact ⟨q, List.mem_cons_of_mem _ hq, hcontains⟩

theorem Chained.lt_end (h : Chained (period :: older)) {q : EntitlementPeriod}
    (hq : q ∈ period :: older) : q.effectiveEnd.ms ≤ period.effectiveEnd.ms := by
  rcases List.mem_cons.mp hq with rfl | hq
  · exact le_rfl
  · exact (h.end_le q hq).trans period.ordered.le

instance : Std.TransCmp compareLatestPeriod :=
  have : Std.TransCmp fun left right : EntitlementPeriod =>
      compare right.effectiveEnd.ms left.effectiveEnd.ms :=
    StableSort.transCmp_map (fun left right : Int => compare right left)
      fun period : EntitlementPeriod => period.effectiveEnd.ms
  have : Std.TransCmp fun left right : EntitlementPeriod => compare right.id left.id :=
    StableSort.transCmp_map (fun left right : String => compare right left) EntitlementPeriod.id
  inferInstanceAs (Std.TransCmp (compareLex _ _))

theorem le_of_compareLatestPeriod {left right : EntitlementPeriod}
    (h : (compareLatestPeriod left right).isLE) :
    right.effectiveEnd.ms ≤ left.effectiveEnd.ms := by
  unfold compareLatestPeriod at h
  by_contra hlt
  have hgt : compare right.effectiveEnd.ms left.effectiveEnd.ms = .gt :=
    compare_gt_iff_gt.mpr (by omega)
  rw [hgt] at h
  cases h

/-- The latest period of a chain ends when its newest one does. -/
theorem Chained.latest (h : Chained (period :: older)) :
    ∃ latest, StableSort.firstBy compareLatestPeriod (period :: older) = some latest ∧
      latest.effectiveEnd = period.effectiveEnd := by
  cases hfirst : StableSort.firstBy compareLatestPeriod (period :: older) with
  | none => cases StableSort.firstBy_eq_none_iff.mp hfirst
  | some latest =>
    refine ⟨latest, rfl, IsoTime.ext_ms (le_antisymm ?_ ?_)⟩
    · exact h.lt_end (StableSort.firstBy_mem hfirst)
    · exact le_of_compareLatestPeriod
        (StableSort.isLE_of_firstBy hfirst period List.mem_cons_self)

/-! ### The invariant -/

/-- How slots, Plans, subscriptions and periods hang together. -/
structure SlotsLinked (db : SlotDatabase) : Prop where
  chained : ∀ slot ∈ db.slots, Chained (periodsOf slot.id db)
  owned : ∀ period ∈ db.periods, ∃ slot ∈ db.slots, slot.id = period.providerSlotId
  planned : ∀ slot ∈ db.slots, ∃ plan ∈ db.plans, plan.id = slot.managedPlanId
  managed : ∀ slot ∈ db.slots, ∀ other ∈ db.slots, slot.managedPlanId = other.managedPlanId →
    slot = other
  subscribed : ∀ subscription ∈ db.subscriptions, ∃ slot ∈ db.slots,
    slot.managedPlanId = subscription.planId ∧
      ∃ period ∈ periodsOf slot.id db, period.effectiveEnd = subscription.effectiveEnd
  retained : ∀ slot ∈ db.slots, ∀ expired, slot.retentionExpiredAt = some expired →
    ∀ period ∈ periodsOf slot.id db, period.effectiveEnd.ms ≤ expired.ms

/-- After a command every slot has a period as well. -/
structure SlotInv (db : SlotDatabase) : Prop extends SlotsLinked db where
  filled : ∀ slot ∈ db.slots, periodsOf slot.id db ≠ []

theorem SlotInv.initial : SlotInv SlotDatabase.initial where
  chained slot hslot := absurd hslot (Table.not_mem_empty slot)
  owned period hperiod := absurd hperiod (Table.not_mem_empty period)
  planned slot hslot := absurd hslot (Table.not_mem_empty slot)
  managed slot hslot := absurd hslot (Table.not_mem_empty slot)
  subscribed subscription hsubscription := absurd hsubscription (Table.not_mem_empty subscription)
  retained slot hslot := absurd hslot (Table.not_mem_empty slot)
  filled slot hslot := absurd hslot (Table.not_mem_empty slot)

variable {db : SlotDatabase} {slot : UserProviderSlot}

/-- The snapshot of a slot: its latest end is the end of the newest period. -/
theorem SlotInv.snapshot (h : SlotInv db) (hslot : slot ∈ db.slots) (at' : IsoTime) :
    ∃ period older snapshot, periodsOf slot.id db = period :: older ∧ Chained (period :: older) ∧
      personalProviderSlotSnapshot db slot at' = .ok snapshot ∧
      snapshot.toUserProviderSlot = slot ∧ snapshot.scopeRef = "user:" ++ slot.userId ∧
      snapshot.latestEffectiveEnd = period.effectiveEnd ∧
      snapshot.lifecycle =
        personalProviderSlotLifecycle at' period.effectiveEnd slot.retentionExpiredAt := by
  have hchained := h.chained slot hslot
  obtain ⟨period, older, hperiods⟩ := List.exists_cons_of_ne_nil (h.filled slot hslot)
  rw [hperiods] at hchained
  obtain ⟨latest, hlatest, hend⟩ := hchained.latest
  unfold personalProviderSlotSnapshot
  rw [hperiods, hlatest]
  exact ⟨period, older, _, rfl, hchained, rfl, rfl, rfl, hend,
    congrArg (personalProviderSlotLifecycle at' · slot.retentionExpiredAt) hend⟩

variable {slotId : String} {at' : IsoTime} {snapshot : PersonalProviderSlotSnapshot}

/-- Where a slot that is there was read from. -/
theorem SlotInv.slotOr_eq_ok (h : SlotInv db) {error : EntitlementError}
    (hread : slotOr error db slotId at' = .ok snapshot) :
    ∃ slot ∈ db.slots, slot.id = slotId ∧ snapshot.toUserProviderSlot = slot ∧
      snapshot.scopeRef = "user:" ++ slot.userId ∧
      ∃ period older, periodsOf slot.id db = period :: older ∧ Chained (period :: older) ∧
        snapshot.latestEffectiveEnd = period.effectiveEnd ∧
        snapshot.lifecycle =
          personalProviderSlotLifecycle at' period.effectiveEnd slot.retentionExpiredAt := by
  unfold slotOr getPersonalProviderSlot at hread
  cases hfind : db.slots.find? slotId with
  | none => simp [hfind] at hread
  | some slot =>
    have hslot := Table.mem_of_find? hfind
    obtain ⟨period, older, found, hperiods, hchained, hfound, hsame, hscope, hend, hlifecycle⟩ :=
      h.snapshot hslot at'
    simp only [hfind, hfound, Functor.map, Except.map, bind_ok, Except.ok.injEq] at hread
    subst hread
    exact ⟨slot, hslot, Table.key_of_find? hfind, hsame, hscope, period, older, hperiods, hchained,
      hend, hlifecycle⟩

/-! ### Adding a period -/

variable {s s' : Session SlotDatabase}

theorem durationDaysFromSeconds_eq_ok {seconds days : Int}
    (h : durationDaysFromSeconds seconds = .ok days) : days * secondsPerDay = seconds := by
  unfold durationDaysFromSeconds positiveDurationDays at h
  obtain ⟨_, hseconds, h⟩ := bind_eq_ok.mp h
  obtain ⟨_, -, h⟩ := bind_eq_ok.mp h
  cases h
  have hwhole := rejectIf_eq_ok.mp hseconds
  unfold secondsPerDay at hwhole ⊢
  omega

variable {latestEnd fulfilledAt : IsoTime}

theorem personalProviderRenewalWindow_eq_ok {admittedAt : IsoTime} {durationDays : Int}
    {window : RenewalWindow}
    (h : personalProviderRenewalWindow latestEnd fulfilledAt admittedAt durationDays = .ok window) :
    window.effectiveStart = laterOf latestEnd fulfilledAt ∧ window.durationDays = durationDays ∧
      window.effectiveEndMs = window.effectiveStart.ms + durationDays * secondsPerDay * 1000 := by
  unfold personalProviderRenewalWindow positiveDurationDays at h
  obtain ⟨days, hdays, h⟩ := bind_eq_ok.mp h
  obtain ⟨_, -, hdays⟩ := bind_eq_ok.mp hdays
  obtain ⟨_, -, h⟩ := bind_eq_ok.mp h
  cases hdays
  cases h
  exact ⟨rfl, rfl, rfl⟩

variable {command : SlotSubscriptionCommand}

theorem prepareSlotSubscription_eq_ok {row : SlotSubscription}
    (h : prepareSlotSubscription db command = .ok row) :
    row.planId = command.planId ∧ row.effectiveStart = command.effectiveStart ∧
      row.effectiveEnd.ms = command.effectiveEndMs := by
  unfold prepareSlotSubscription at h
  split at h
  · cases h
  · obtain ⟨_, -, h⟩ := bind_eq_ok.mp h
    obtain ⟨_, -, h⟩ := bind_eq_ok.mp h
    split at h
    · cases h
    · next effectiveEnd hend =>
        obtain ⟨_, -, h⟩ := bind_eq_ok.mp h
        obtain ⟨_, -, h⟩ := bind_eq_ok.mp h
        cases h
        exact ⟨rfl, rfl, IsoTime.ofMs?_eq_some hend⟩

/-- A period that was added with its subscription. -/
structure PeriodCreated (before : SlotDatabase) (facts : PeriodFacts) (planId : String)
    (start : IsoTime) (period : EntitlementPeriod) (after : SlotDatabase) : Prop where
  subscriptions : ∃ subscription : SlotSubscription, subscription.planId = planId ∧
    subscription.effectiveEnd = period.effectiveEnd ∧
    before.subscriptions.insert? subscription = some after.subscriptions
  periods : before.periods.insert? period = some after.periods
  plans : after.plans = before.plans
  slots : after.slots = before.slots
  slotId : period.providerSlotId = facts.providerSlotId
  purchase : period.sourceAuthorityPurchaseId = facts.purchaseId
  days : period.durationDays = facts.durationDays
  fulfilled : period.fulfillmentSucceededAt = facts.fulfilledAt
  start : period.effectiveStart = start
  lasts : period.LastsItsDays

variable {facts : PeriodFacts} {subscription : SlotSubscription}

theorem newPeriod_eq_some {id : String} (h : newPeriod id facts subscription = some period) :
    period.providerSlotId = facts.providerSlotId ∧
      period.sourceAuthorityPurchaseId = facts.purchaseId ∧
      period.durationDays = facts.durationDays ∧
      period.fulfillmentSucceededAt = facts.fulfilledAt ∧
      period.effectiveStart = subscription.effectiveStart ∧
      period.effectiveEnd = subscription.effectiveEnd := by
  unfold newPeriod at h
  split at h
  · cases h
    exact ⟨rfl, rfl, rfl, rfl, rfl, rfl⟩
  · cases h

/-- A subscription from a start, for the days of a period, and then the period. -/
theorem periodCreated {s₁ : Session SlotDatabase}
    (hend : command.effectiveEndMs = command.effectiveStart.ms + facts.durationDays *
      secondsPerDay * 1000)
    (hsubscription : createSlotSubscription command s = .ok (subscription, s₁))
    (hperiod : createPeriod facts subscription s₁ = .ok (period, s')) :
    PeriodCreated s.database facts command.planId command.effectiveStart period s'.database := by
  obtain ⟨row, hprepare, hrest⟩ := run_read_bind.mp hsubscription
  obtain ⟨_, s₂, hwrite, hanswer⟩ := run_bind.mp hrest
  obtain ⟨rfl, rfl⟩ := run_pure.mp hanswer
  obtain ⟨hplan, hstart, hendMs⟩ := prepareSlotSubscription_eq_ok hprepare
  have hinsert := write_eq_ok hwrite
  obtain ⟨subscriptions, hsubscriptions, hdb⟩ := Option.map_eq_some_iff.mp hinsert
  unfold createPeriod at hperiod
  obtain ⟨id, s₃, hid, hrest⟩ := run_bind.mp hperiod
  have hdb₃ := createId_eq_ok hid
  cases hnew : newPeriod id facts subscription with
  | none =>
    simp only [hnew] at hrest
    cases hrest
  | some row =>
    simp only [hnew] at hrest
    obtain ⟨_, s₄, hwrite', hanswer⟩ := run_bind.mp hrest
    obtain ⟨rfl, rfl⟩ := run_pure.mp hanswer
    have hchange := write_eq_ok hwrite'
    rw [hdb₃, ← hdb] at hchange
    split at hchange
    · obtain ⟨periods, hperiods, hdb'⟩ := Option.map_eq_some_iff.mp hchange
      obtain ⟨hslotId, hpurchase, hdays, hfulfilled, hperiodStart, hperiodEnd⟩ :=
        newPeriod_eq_some hnew
      rw [← hdb']
      refine {
        subscriptions := ⟨subscription, hplan, hperiodEnd.symm, hsubscriptions⟩
        periods := hperiods
        plans := rfl
        slots := rfl
        slotId := hslotId
        purchase := hpurchase
        days := hdays
        fulfilled := hfulfilled
        start := hperiodStart.trans hstart
        lasts := ?_ }
      unfold EntitlementPeriod.LastsItsDays
      rw [hperiodEnd, hperiodStart, hdays, hstart, hendMs, hend]
    · cases hchange

variable {before after : SlotDatabase}

theorem PeriodCreated.periodsOf {planId : String} {start : IsoTime}
    (h : PeriodCreated before facts planId start period after) (slotId : String) :
    periodsOf slotId after = if period.providerSlotId = slotId
      then period :: PersonalProviderSlots.periodsOf slotId before
      else PersonalProviderSlots.periodsOf slotId before := by
  unfold PersonalProviderSlots.periodsOf
  rw [(Table.insert?_eq_some.mp h.periods).2, List.filter_cons]
  simp only [decide_eq_true_eq]

/-- A period of a slot that starts behind the slot's newest one keeps everything linked. -/
theorem PeriodCreated.linked {before after : SlotDatabase} {facts : PeriodFacts}
    {slot : UserProviderSlot} {start : IsoTime} {period : EntitlementPeriod}
    (h : PeriodCreated before facts slot.managedPlanId start period after)
    (hinv : SlotsLinked before) (hslot : slot ∈ before.slots)
    (hid : facts.providerSlotId = slot.id) (hretention : slot.retentionExpiredAt = none)
    (hstart : start = startAfter (PersonalProviderSlots.periodsOf slot.id before).head?
      facts.fulfilledAt) : SlotsLinked after := by
  have hperiodSlot : period.providerSlotId = slot.id := h.slotId.trans hid
  have hmem : ∀ {slotId q}, q ∈ PersonalProviderSlots.periodsOf slotId before →
      q ∈ PersonalProviderSlots.periodsOf slotId after := by
    intro slotId q hq
    rw [h.periodsOf]
    split
    · exact List.mem_cons_of_mem _ hq
    · exact hq
  have hown : period ∈ PersonalProviderSlots.periodsOf slot.id after := by
    rw [h.periodsOf, if_pos hperiodSlot]
    exact List.mem_cons_self
  constructor
  · intro other hother
    rw [h.slots] at hother
    rw [h.periodsOf]
    split
    · -- the new period is the newest of its slot, and the chain behind it is the old one
      next hsame =>
        have hid' : slot.id = other.id := hperiodSlot.symm.trans hsame
        rw [← hid']
        refine ⟨?_, h.lasts, hinv.chained slot hslot⟩
        rw [h.start, hstart, h.fulfilled]
    · exact hinv.chained other hother
  · intro q hq
    rw [h.slots]
    rcases (Table.mem_insert h.periods).mp hq with rfl | hq
    · exact ⟨slot, hslot, hperiodSlot.symm⟩
    · exact hinv.owned q hq
  · rw [h.slots, h.plans]
    exact hinv.planned
  · rw [h.slots]
    exact hinv.managed
  · intro subscription hsubscription
    rw [h.slots]
    obtain ⟨added, hplan, hend, hinsert⟩ := h.subscriptions
    rcases (Table.mem_insert hinsert).mp hsubscription with rfl | hsubscription
    · exact ⟨slot, hslot, hplan.symm, period, hown, hend.symm⟩
    · obtain ⟨other, hother, hmanaged, q, hq, hqend⟩ := hinv.subscribed subscription hsubscription
      exact ⟨other, hother, hmanaged, q, hmem hq, hqend⟩
  · intro other hother expired hexpired q hq
    rw [h.slots] at hother
    rw [h.periodsOf] at hq
    split at hq
    · next hsame =>
        have hid' : slot.id = other.id := hperiodSlot.symm.trans hsame
        rw [Table.eq_of_key_eq hother hslot hid'.symm, hretention] at hexpired
        cases hexpired
    · exact hinv.retained other hother expired hexpired q hq

/-! ### What the commands do -/

/-- A slot that was purchased: with its Plan, and then with its first period. -/
structure SlotPurchased (before : SlotDatabase) (input : PurchasedSlotInput)
    (period : EntitlementPeriod) (after : SlotDatabase) : Prop where
  created : ∃ (plan : ManagedPlan) (slot : UserProviderSlot) (middle : SlotDatabase)
    (facts : PeriodFacts), slot.managedPlanId = plan.id ∧ slot.retentionExpiredAt = none ∧
      before.plans.insert? plan = some middle.plans ∧
      before.slots.insert? slot = some middle.slots ∧
      middle.subscriptions = before.subscriptions ∧ middle.periods = before.periods ∧
      facts.providerSlotId = slot.id ∧ facts.fulfilledAt = input.fulfilledAt ∧
      PeriodCreated middle facts slot.managedPlanId input.fulfilledAt period after
  purchase : period.sourceAuthorityPurchaseId = input.purchaseId
  paid : period.durationDays * secondsPerDay = input.durationSeconds
  fulfilled : period.fulfillmentSucceededAt = input.fulfilledAt

variable {fulfillment : SlotFulfillment} {input : PurchasedSlotInput}

theorem fulfillSlotPurchase_eq_ok (h : fulfillSlotPurchase input s = .ok (fulfillment, s')) :
    fulfillment.replayed = false ∧
      SlotPurchased s.database input fulfillment.period s'.database := by
  unfold fulfillSlotPurchase at h
  obtain ⟨durationDays, hdays, h⟩ := run_check_bind.mp h
  obtain ⟨slotId, s₁, hslotId, h⟩ := run_bind.mp h
  obtain ⟨planId, s₂, hplanId, h⟩ := run_bind.mp h
  obtain ⟨subscriptionId, s₃, hsubscriptionId, h⟩ := run_bind.mp h
  obtain ⟨_, s₄, hplan, h⟩ := run_bind.mp h
  obtain ⟨_, s₅, hslot, h⟩ := run_bind.mp h
  obtain ⟨subscription, s₆, hsubscription, h⟩ := run_bind.mp h
  obtain ⟨period, s₇, hperiod, h⟩ := run_bind.mp h
  obtain ⟨slot, -, hanswer⟩ := run_read_bind.mp h
  obtain ⟨rfl, rfl⟩ := run_pure.mp hanswer
  have hdb₃ : s₃.database = s.database :=
    (createId_eq_ok hsubscriptionId).trans
      ((createId_eq_ok hplanId).trans (createId_eq_ok hslotId))
  have hplanWrite := write_eq_ok hplan
  rw [hdb₃] at hplanWrite
  obtain ⟨plans, hplans, hdb₄⟩ := Option.map_eq_some_iff.mp hplanWrite
  have hslotWrite := write_eq_ok hslot
  rw [← hdb₄] at hslotWrite
  split at hslotWrite
  · obtain ⟨slots, hslots, hdb₅⟩ := Option.map_eq_some_iff.mp hslotWrite
    have hcreated := periodCreated rfl hsubscription hperiod
    rw [show plans = s₅.database.plans by rw [← hdb₅]] at hplans
    rw [show slots = s₅.database.slots by rw [← hdb₅]] at hslots
    refine ⟨rfl, ⟨⟨_, _, s₅.database, _, ?_, ?_, hplans, hslots, ?_, ?_, ?_, ?_, hcreated⟩,
      hcreated.purchase, ?_, hcreated.fulfilled⟩⟩
    · rfl
    · rfl
    · rw [← hdb₅]
    · rw [← hdb₅]
    · rfl
    · rfl
    · rw [hcreated.days]
      exact durationDaysFromSeconds_eq_ok hdays
  · cases hslotWrite

/-- A new slot with its first period. -/
theorem SlotPurchased.inv (h : SlotPurchased before input period after) (hinv : SlotInv before) :
    SlotInv after := by
  obtain ⟨plan, slot, middle, facts, hmanaged, hretention, hplans, hslots, hsubscriptions,
    hperiods, hid, hfulfilled, hcreated⟩ := h.created
  have hfresh : ∀ other ∈ before.slots, other.id ≠ slot.id :=
    Table.find?_eq_none.mp (Table.insert?_eq_some.mp hslots).1
  have hfreshPlan : ∀ other ∈ before.plans, other.id ≠ plan.id :=
    Table.find?_eq_none.mp (Table.insert?_eq_some.mp hplans).1
  have hnotManaged : ∀ other ∈ before.slots, other.managedPlanId ≠ slot.managedPlanId := by
    intro other hother hsame
    obtain ⟨found, hfound, hfoundId⟩ := hinv.planned other hother
    exact hfreshPlan found hfound (hfoundId.trans (hsame.trans hmanaged))
  have hsamePeriods : ∀ slotId, periodsOf slotId middle = periodsOf slotId before := by
    intro slotId
    rw [periodsOf, periodsOf, hperiods]
  have hempty : periodsOf slot.id middle = [] := by
    rw [hsamePeriods, periodsOf, List.filter_eq_nil_iff]
    intro found hfound hsame
    obtain ⟨owner, howner, hownerId⟩ := hinv.owned found hfound
    exact hfresh owner howner (hownerId.trans (of_decide_eq_true hsame))
  have hmem : ∀ other, other ∈ middle.slots ↔ other = slot ∨ other ∈ before.slots :=
    fun other => Table.mem_insert hslots
  -- the slot and its Plan are linked before there is a period
  have hlinked : SlotsLinked middle := by
    constructor
    · intro other hother
      rcases (hmem other).mp hother with rfl | hother
      · rw [hempty]
        exact trivial
      · rw [hsamePeriods]
        exact hinv.chained other hother
    · intro found hfound
      rw [hperiods] at hfound
      obtain ⟨owner, howner, hownerId⟩ := hinv.owned found hfound
      exact ⟨owner, (hmem owner).mpr (.inr howner), hownerId⟩
    · intro other hother
      rcases (hmem other).mp hother with rfl | hother
      · exact ⟨plan, (Table.mem_insert hplans).mpr (.inl rfl), hmanaged.symm⟩
      · obtain ⟨found, hfound, hfoundId⟩ := hinv.planned other hother
        exact ⟨found, (Table.mem_insert hplans).mpr (.inr hfound), hfoundId⟩
    · intro left hleft right hright hsame
      rcases (hmem left).mp hleft with rfl | hleft
      · rcases (hmem right).mp hright with rfl | hright
        · rfl
        · exact absurd hsame.symm (hnotManaged right hright)
      · rcases (hmem right).mp hright with rfl | hright
        · exact absurd hsame (hnotManaged left hleft)
        · exact hinv.managed left hleft right hright hsame
    · intro subscription hsubscription
      rw [hsubscriptions] at hsubscription
      obtain ⟨other, hother, hplan, found, hfound, hend⟩ :=
        hinv.subscribed subscription hsubscription
      refine ⟨other, (hmem other).mpr (.inr hother), hplan, found, ?_, hend⟩
      rw [hsamePeriods]
      exact hfound
    · intro other hother expired hexpired found hfound
      rcases (hmem other).mp hother with rfl | hother
      · rw [hretention] at hexpired
        cases hexpired
      · rw [hsamePeriods] at hfound
        exact hinv.retained other hother expired hexpired found hfound
  have hslot : slot ∈ middle.slots := (hmem slot).mpr (.inl rfl)
  -- the first period is behind no other one
  refine ⟨hcreated.linked hlinked hslot hid hretention ?_, ?_⟩
  · rw [hempty, hfulfilled]
    rfl
  · intro other hother
    rw [hcreated.slots] at hother
    rw [hcreated.periodsOf]
    split
    · exact List.cons_ne_nil _ _
    · next hne =>
        rcases (hmem other).mp hother with rfl | hother
        · exact absurd (hcreated.slotId.trans hid) hne
        · rw [hsamePeriods]
          exact hinv.filled other hother

/-- A slot that was renewed, behind its newest period. -/
structure SlotRenewed (before : SlotDatabase) (input : RenewSlotInput)
    (period : EntitlementPeriod) (after : SlotDatabase) : Prop where
  created : ∃ (slot : UserProviderSlot) (facts : PeriodFacts), slot ∈ before.slots ∧
    slot.id = input.slotId ∧ slot.retentionExpiredAt = none ∧ facts.providerSlotId = slot.id ∧
    facts.fulfilledAt = input.fulfilledAt ∧
    PeriodCreated before facts slot.managedPlanId
      (startAfter (periodsOf slot.id before).head? input.fulfilledAt) period after
  purchase : period.sourceAuthorityPurchaseId = input.purchaseId
  paid : period.durationDays * secondsPerDay = input.durationSeconds
  fulfilled : period.fulfillmentSucceededAt = input.fulfilledAt

theorem retentionExpiredAt_of_lifecycle {retentionExpiredAt : Option IsoTime}
    (h : personalProviderSlotLifecycle at' latestEnd retentionExpiredAt ≠ .retentionExpired) :
    retentionExpiredAt = none ∧ at'.ms < renewalCutoff latestEnd := by
  unfold personalProviderSlotLifecycle at h
  split at h
  · exact absurd rfl h
  · next hnot =>
      rw [not_or, not_not] at hnot
      exact ⟨hnot.1, by omega⟩

/-- A slot whose renewal is admitted. -/
theorem SlotInv.lock_eq_ok (h : SlotInv db) {userId : String} {admittedAt : IsoTime}
    (hlock : lockPersonalProviderSlotForRenewal db slotId userId admittedAt = .ok snapshot) :
    ∃ slot ∈ db.slots, slot.id = slotId ∧ snapshot.toUserProviderSlot = slot ∧
      snapshot.scopeRef = "user:" ++ slot.userId ∧ slot.retentionExpiredAt = none ∧
      ∃ period older, periodsOf slot.id db = period :: older ∧ Chained (period :: older) ∧
        snapshot.latestEffectiveEnd = period.effectiveEnd := by
  unfold lockPersonalProviderSlotForRenewal at hlock
  obtain ⟨found, hread, hlock⟩ := bind_eq_ok.mp hlock
  obtain ⟨_, -, hlock⟩ := bind_eq_ok.mp hlock
  obtain ⟨_, hlifecycle, hlock⟩ := bind_eq_ok.mp hlock
  cases hlock
  obtain ⟨slot, hslot, hid, hsame, hscope, period, older, hperiods, hchained, hend, hstate⟩ :=
    h.slotOr_eq_ok hread
  have hnot := rejectIf_eq_ok.mp hlifecycle
  rw [hstate] at hnot
  exact ⟨slot, hslot, hid, hsame, hscope, (retentionExpiredAt_of_lifecycle hnot).1, period, older,
    hperiods, hchained, hend⟩

theorem fulfillSlotRenewal_eq_ok {input : RenewSlotInput} (hinv : SlotInv s.database)
    (h : fulfillSlotRenewal input s = .ok (fulfillment, s')) :
    fulfillment.replayed = false ∧
      SlotRenewed s.database input fulfillment.period s'.database := by
  unfold fulfillSlotRenewal at h
  obtain ⟨snapshot, hlock, h⟩ := run_read_bind.mp h
  obtain ⟨durationDays, hdays, h⟩ := run_check_bind.mp h
  obtain ⟨window, hwindow, h⟩ := run_check_bind.mp h
  obtain ⟨subscriptionId, s₁, hsubscriptionId, h⟩ := run_bind.mp h
  obtain ⟨subscription, s₂, hsubscription, h⟩ := run_bind.mp h
  obtain ⟨period, s₃, hperiod, h⟩ := run_bind.mp h
  obtain ⟨renewed, -, hanswer⟩ := run_read_bind.mp h
  obtain ⟨rfl, rfl⟩ := run_pure.mp hanswer
  obtain ⟨slot, hslot, hid, hsame, -, hretention, newest, older, hperiods, -, hend⟩ :=
    hinv.lock_eq_ok hlock
  obtain ⟨hstart, hwindowDays, hendMs⟩ := personalProviderRenewalWindow_eq_ok hwindow
  have hcreated := periodCreated (by rw [hendMs, hwindowDays]) hsubscription hperiod
  rw [createId_eq_ok hsubscriptionId, hstart, hend, hsame] at hcreated
  have hpaid : period.durationDays * secondsPerDay = input.durationSeconds := by
    rw [hcreated.days, hwindowDays]
    exact durationDaysFromSeconds_eq_ok hdays
  have hbehind : startAfter (periodsOf slot.id s.database).head? input.fulfilledAt =
      laterOf newest.effectiveEnd input.fulfilledAt := by
    rw [hperiods]
    rfl
  rw [← hbehind] at hcreated
  exact ⟨rfl, ⟨slot, _, hslot, hid, hretention, rfl, rfl, hcreated⟩, hcreated.purchase, hpaid,
    hcreated.fulfilled⟩

theorem SlotRenewed.inv {input : RenewSlotInput} (h : SlotRenewed before input period after)
    (hinv : SlotInv before) : SlotInv after := by
  obtain ⟨slot, facts, hslot, -, hretention, hfactsId, hfulfilled, hcreated⟩ := h.created
  refine ⟨hcreated.linked hinv.toSlotsLinked hslot hfactsId hretention (by rw [hfulfilled]), ?_⟩
  intro other hother
  rw [hcreated.slots] at hother
  rw [hcreated.periodsOf]
  split
  · exact List.cons_ne_nil _ _
  · exact hinv.filled other hother

/-- A slot whose retention was finalized: it is over for all its periods. -/
structure RetentionFinalized (before : SlotDatabase) (slotId : String) (at' : IsoTime)
    (after : SlotDatabase) : Prop where
  ended : ∀ period ∈ periodsOf slotId before, period.effectiveEnd.ms ≤ at'.ms
  unexpired : ∀ slot ∈ before.slots, slot.id = slotId → slot.retentionExpiredAt = none
  slots : after = { before with
    slots := before.slots.modify slotId (setRetentionExpired at') fun _ => rfl }

theorem finalizePersonalProviderSlotRetention_eq_ok {replayed : Bool} (hinv : SlotInv s.database)
    (h : finalizePersonalProviderSlotRetention slotId at' s = .ok ((snapshot, replayed), s')) :
    s'.database = s.database ∨ RetentionFinalized s.database slotId at' s'.database := by
  unfold finalizePersonalProviderSlotRetention at h
  obtain ⟨current, hread, h⟩ := run_read_bind.mp h
  obtain ⟨slot, hslot, hid, hsame, -, newest, older, hperiods, hchained, hend, hlifecycle⟩ :=
    hinv.slotOr_eq_ok hread
  split at h
  · obtain ⟨-, rfl⟩ := run_pure.mp h
    exact .inl rfl
  · next hnone =>
      right
      unfold expireRetention at h
      obtain ⟨_, hdue, h⟩ := run_check_bind.mp h
      obtain ⟨_, s₁, hwrite, h⟩ := run_bind.mp h
      obtain ⟨renewed, -, hanswer⟩ := run_read_bind.mp h
      obtain ⟨-, rfl⟩ := run_pure.mp hanswer
      have hchange := write_eq_ok hwrite
      have hdue := not_not.mp (rejectIf_eq_ok.mp hdue)
      have hretention : slot.retentionExpiredAt = none := by
        rw [not_not, hsame] at hnone
        exact hnone
      have hcurrentId : current.id = slotId := by
        rw [hsame]
        exact hid
      constructor
      · rw [← hid, hperiods]
        intro period hperiod
        have hle := hchained.lt_end hperiod
        rw [hlifecycle, hretention] at hdue
        unfold personalProviderSlotLifecycle at hdue
        split at hdue
        · next hover =>
            have hcutoff := hover.resolve_left (fun hne => hne rfl)
            unfold renewalCutoff retentionDays secondsPerDay at hcutoff
            omega
        · split at hdue <;> cases hdue
      · intro other hother hotherId
        rw [Table.eq_of_key_eq hother hslot (hotherId.trans hid.symm)]
        exact hretention
      · have hdb := Option.some.inj hchange
        rw [hcurrentId] at hdb
        exact hdb.symm

theorem RetentionFinalized.inv (h : RetentionFinalized before slotId at' after)
    (hinv : SlotInv before) : SlotInv after := by
  obtain ⟨hover, hunexpired, rfl⟩ := h
  -- the slots are those of before, with the same identifiers and Plans
  have origin : ∀ slot ∈ before.slots.modify slotId (setRetentionExpired at') (fun _ => rfl),
      ∃ old ∈ before.slots, old.id = slot.id ∧ old.managedPlanId = slot.managedPlanId ∧
        slot = if old.id = slotId then setRetentionExpired at' old else old := by
    intro slot hslot
    obtain ⟨old, hold, rfl⟩ := Table.mem_modify.mp hslot
    refine ⟨old, hold, ?_, ?_, rfl⟩
    · split <;> rfl
    · split <;> rfl
  have image : ∀ old ∈ before.slots,
      ∃ slot ∈ before.slots.modify slotId (setRetentionExpired at') (fun _ => rfl),
        slot.id = old.id ∧ slot.managedPlanId = old.managedPlanId := by
    intro old hold
    refine ⟨_, Table.mem_modify.mpr ⟨old, hold, rfl⟩, ?_, ?_⟩
    · split <;> rfl
    · split <;> rfl
  refine ⟨⟨?_, ?_, ?_, ?_, ?_, ?_⟩, ?_⟩
  · intro slot hslot
    obtain ⟨old, hold, hid, -, -⟩ := origin slot hslot
    rw [← hid]
    exact hinv.chained old hold
  · intro period hperiod
    obtain ⟨old, hold, hid⟩ := hinv.owned period hperiod
    obtain ⟨slot, hslot, hsame, -⟩ := image old hold
    exact ⟨slot, hslot, hsame.trans hid⟩
  · intro slot hslot
    obtain ⟨old, hold, -, hmanaged, -⟩ := origin slot hslot
    rw [← hmanaged]
    exact hinv.planned old hold
  · intro slot hslot other hother hsame
    obtain ⟨old, hold, -, hmanaged, rfl⟩ := origin slot hslot
    obtain ⟨old', hold', -, hmanaged', rfl⟩ := origin other hother
    rw [hinv.managed old hold old' hold' (hmanaged.trans (hsame.trans hmanaged'.symm))]
  · intro subscription hsubscription
    obtain ⟨old, hold, hplan, period, hperiod, hend⟩ := hinv.subscribed subscription hsubscription
    obtain ⟨slot, hslot, hid, hmanaged⟩ := image old hold
    refine ⟨slot, hslot, hmanaged.trans hplan, period, ?_, hend⟩
    rw [hid]
    exact hperiod
  · intro slot hslot expired hexpired period hperiod
    obtain ⟨old, hold, hid, -, rfl⟩ := origin slot hslot
    rw [← hid] at hperiod
    split at hexpired
    · next hold' =>
        cases hexpired
        rw [hold'] at hperiod
        exact hover period hperiod
    · exact hinv.retained old hold expired hexpired period hperiod
  · intro slot hslot
    obtain ⟨old, hold, hid, -, -⟩ := origin slot hslot
    rw [← hid]
    exact hinv.filled old hold

/-- The purchase that a command fulfills. -/
def SlotCommand.purchaseId? : SlotCommand → Option String
  | .purchase input => some input.purchaseId
  | .renew input => some input.purchaseId
  | .finalizeRetention _ _ => none

/-- What a command answers and the database it leaves. -/
inductive SlotEffect (command : SlotCommand) (before : SlotDatabase) :
    Except (Failure EntitlementError) SlotAnswer → SlotDatabase → Prop where
  | refused (failure : Failure EntitlementError) : SlotEffect command before (.error failure) before
  | replayed (fulfillment : SlotFulfillment) (hreplayed : fulfillment.replayed = true)
      (hstored : fulfillment.period ∈ before.periods)
      (hpurchase : command.purchaseId? = some fulfillment.period.sourceAuthorityPurchaseId) :
      SlotEffect command before (.ok (.fulfilled fulfillment)) before
  | purchased (input : PurchasedSlotInput) (fulfillment : SlotFulfillment) (after : SlotDatabase)
      (hcommand : command = .purchase input) (hreplayed : fulfillment.replayed = false)
      (h : SlotPurchased before input fulfillment.period after) :
      SlotEffect command before (.ok (.fulfilled fulfillment)) after
  | renewed (input : RenewSlotInput) (fulfillment : SlotFulfillment) (after : SlotDatabase)
      (hcommand : command = .renew input) (hreplayed : fulfillment.replayed = false)
      (h : SlotRenewed before input fulfillment.period after) :
      SlotEffect command before (.ok (.fulfilled fulfillment)) after
  | finalizedBefore (snapshot : PersonalProviderSlotSnapshot) (replayed : Bool) :
      SlotEffect command before (.ok (.finalized snapshot replayed)) before
  | finalized (slotId : String) (at' : IsoTime) (snapshot : PersonalProviderSlotSnapshot)
      (replayed : Bool) (after : SlotDatabase) (h : RetentionFinalized before slotId at' after) :
      SlotEffect command before (.ok (.finalized snapshot replayed)) after

theorem replayFulfillment_eq_ok
    (h : replayFulfillment slotId period fulfilledAt s = .ok (fulfillment, s')) :
    fulfillment.replayed = true ∧ fulfillment.period = period ∧ s' = s := by
  obtain ⟨slot, -, hanswer⟩ := run_read_bind.mp h
  obtain ⟨rfl, rfl⟩ := run_pure.mp hanswer
  exact ⟨rfl, rfl, rfl⟩

theorem findPeriodForPurchase_eq_some {purchaseId : String}
    (h : findPeriodForPurchase db purchaseId = some period) :
    period ∈ db.periods ∧ period.sourceAuthorityPurchaseId = purchaseId :=
  ⟨List.mem_of_find?_eq_some h, by simpa using List.find?_some h⟩

theorem purchase_effect
    (h : createPurchasedPersonalProviderSlotFulfillment input s = .ok (fulfillment, s')) :
    SlotEffect (.purchase input) s.database (.ok (.fulfilled fulfillment)) s'.database := by
  unfold createPurchasedPersonalProviderSlotFulfillment at h
  obtain ⟨existing, hexisting, h⟩ := run_read_bind.mp h
  cases existing with
  | some period =>
    obtain ⟨hstored, hpurchase⟩ := findPeriodForPurchase_eq_some (Except.ok.inj hexisting)
    obtain ⟨hreplayed, rfl, rfl⟩ := replayFulfillment_eq_ok h
    exact .replayed fulfillment hreplayed hstored (congrArg some hpurchase.symm)
  | none =>
    obtain ⟨hreplayed, hpurchased⟩ := fulfillSlotPurchase_eq_ok h
    exact .purchased input fulfillment s'.database rfl hreplayed hpurchased

theorem renew_effect {input : RenewSlotInput} (hinv : SlotInv s.database)
    (h : renewPurchasedPersonalProviderSlotFulfillment input s = .ok (fulfillment, s')) :
    SlotEffect (.renew input) s.database (.ok (.fulfilled fulfillment)) s'.database := by
  unfold renewPurchasedPersonalProviderSlotFulfillment at h
  obtain ⟨existing, hexisting, h⟩ := run_read_bind.mp h
  cases existing with
  | some period =>
    obtain ⟨hstored, hpurchase⟩ := findPeriodForPurchase_eq_some (Except.ok.inj hexisting)
    dsimp only [replayRenewal] at h
    obtain ⟨_, -, h⟩ := run_check_bind.mp h
    obtain ⟨hreplayed, rfl, rfl⟩ := replayFulfillment_eq_ok h
    exact .replayed fulfillment hreplayed hstored (congrArg some hpurchase.symm)
  | none =>
    obtain ⟨hreplayed, hrenewed⟩ := fulfillSlotRenewal_eq_ok hinv h
    exact .renewed input fulfillment s'.database rfl hreplayed hrenewed

theorem slotStep_effect {input : SlotInput} {db : SlotDatabase} (hinv : SlotInv db) :
    SlotEffect input.command db (slotStep input db).1 (slotStep input db).2 := by
  unfold slotStep commit
  split
  · next answer s' h =>
      revert h
      cases input.command with
      | purchase purchaseInput =>
        intro h
        obtain ⟨fulfillment, s₁, hpurchase, hrest⟩ := run_bind.mp h
        obtain ⟨rfl, rfl⟩ := run_pure.mp hrest
        exact purchase_effect hpurchase
      | renew renewInput =>
        intro h
        obtain ⟨fulfillment, s₁, hrenew, hrest⟩ := run_bind.mp h
        obtain ⟨rfl, rfl⟩ := run_pure.mp hrest
        exact renew_effect hinv hrenew
      | finalizeRetention slotId at' =>
        intro h
        obtain ⟨⟨snapshot, replayed⟩, s₁, hfinalize, hrest⟩ := run_bind.mp h
        obtain ⟨rfl, rfl⟩ := run_pure.mp hrest
        rcases finalizePersonalProviderSlotRetention_eq_ok hinv hfinalize with hsame | hfinalized
        · rw [hsame]
          exact .finalizedBefore snapshot replayed
        · exact .finalized slotId at' snapshot replayed s'.database hfinalized
  · next failure h => exact .refused failure

variable {output : Except (Failure EntitlementError) SlotAnswer}

theorem SlotEffect.inv {command : SlotCommand} (h : SlotEffect command before output after)
    (hinv : SlotInv before) : SlotInv after := by
  cases h with
  | refused failure => exact hinv
  | replayed fulfillment hreplayed hstored hpurchase => exact hinv
  | purchased input fulfillment after hcommand hreplayed hpurchased => exact hpurchased.inv hinv
  | renewed input fulfillment after hcommand hreplayed hrenewed => exact hrenewed.inv hinv
  | finalizedBefore snapshot replayed => exact hinv
  | finalized slotId at' snapshot replayed after hfinalized => exact hfinalized.inv hinv

theorem slotStep_inv (input : SlotInput) (db : SlotDatabase) (hinv : SlotInv db) :
    SlotInv (slotStep input db).2 :=
  (slotStep_effect hinv).inv hinv

/-! ### No renewal overlaps -/

theorem durationDaysFromSeconds_ne_overlap (seconds : Int) :
    durationDaysFromSeconds seconds ≠ .error subscriptionOverlap := by
  unfold durationDaysFromSeconds positiveDurationDays
  refine bind_ne_error (rejectIf_relay_ne (by decide)) fun _ _ => ?_
  exact bind_ne_error (rejectIf_relay_ne (by decide)) fun _ _ => nofun

theorem personalProviderRenewalWindow_ne_overlap (latestEnd fulfilledAt admittedAt : IsoTime)
    (durationDays : Int) :
    personalProviderRenewalWindow latestEnd fulfilledAt admittedAt durationDays ≠
      .error subscriptionOverlap := by
  unfold personalProviderRenewalWindow positiveDurationDays
  refine bind_ne_error ?_ fun _ _ => ?_
  · exact bind_ne_error (rejectIf_relay_ne (by decide)) fun _ _ => nofun
  · exact bind_ne_error (rejectIf_relay_ne (by decide)) fun _ _ => nofun

theorem slotOr_ne_overlap {error : EntitlementError} (herror : error ≠ subscriptionOverlap)
    (db : SlotDatabase) (slotId : String) (at' : IsoTime) :
    slotOr error db slotId at' ≠ .error subscriptionOverlap := by
  refine bind_ne_error ?_ fun found _ => ?_
  · unfold getPersonalProviderSlot personalProviderSlotSnapshot
    split
    · nofun
    · split
      · exact fun h => relay_ne (by decide) (Except.error.inj h)
      · nofun
  · cases found with
    | some slot => nofun
    | none => exact fun h => herror (Except.error.inj h)

theorem lock_ne_overlap (db : SlotDatabase) (slotId userId : String) (admittedAt : IsoTime) :
    lockPersonalProviderSlotForRenewal db slotId userId admittedAt ≠
      .error subscriptionOverlap := by
  unfold lockPersonalProviderSlotForRenewal
  refine bind_ne_error (slotOr_ne_overlap (relay_ne (by decide)) _ _ _) fun _ _ => ?_
  refine bind_ne_error (rejectIf_relay_ne (by decide)) fun _ _ => ?_
  exact bind_ne_error (rejectIf_relay_ne (by decide)) fun _ _ => nofun

theorem requireSubscriptionScope_ne_overlap (scopeRef : String) :
    requireSubscriptionScope scopeRef ≠ .error subscriptionOverlap := by
  unfold requireSubscriptionScope
  dsimp only
  split
  · exact fun h => relay_ne (by decide) (Except.error.inj h)
  · split
    · next error hparse =>
        unfold parseScopeType at hparse
        dsimp only at hparse
        split at hparse
        · cases hparse
        · split_ifs at hparse
          cases hparse
          exact fun h => relay_ne (by simp) (Except.error.inj h)
    · exact rejectIf_relay_ne (by decide)

variable {start : IsoTime} {planId : String}

/-- No subscription of a Plan lasts longer than up to a start. -/
def EndsBefore (planId : String) (start : IsoTime) (db : SlotDatabase) : Prop :=
  ∀ row ∈ db.subscriptions, row.planId = planId → row.effectiveEnd.ms ≤ start.ms

/-- Only the query for an overlap makes a subscription overlap. -/
theorem prepareSlotSubscription_ne_overlap {command : SlotSubscriptionCommand}
    (hends : EndsBefore command.planId command.effectiveStart db) :
    prepareSlotSubscription db command ≠ .error subscriptionOverlap := by
  unfold prepareSlotSubscription
  split
  · exact fun h => relay_ne (by simp) (Except.error.inj h)
  refine bind_ne_error (rejectIf_relay_ne (by decide)) fun _ _ => ?_
  refine bind_ne_error (requireSubscriptionScope_ne_overlap _) fun _ _ => ?_
  split
  · exact fun h => relay_ne (by decide) (Except.error.inj h)
  refine bind_ne_error (rejectIf_relay_ne (by decide)) fun _ _ => ?_
  refine bind_ne_error (rejectIf_ne_error fun hany => ?_) fun _ _ => nofun
  obtain ⟨row, hrow, hoverlaps⟩ := List.any_eq_true.mp hany
  simp only [overlapsSlot, Bool.and_eq_true, decide_eq_true_eq] at hoverlaps
  exact absurd hoverlaps.2 (not_lt.mpr (hends row hrow hoverlaps.1.1.1))

/-- A subscription that does not overlap, and what comes after it in a fulfilment. -/
theorem fulfillment_ne_overlap {command : SlotSubscriptionCommand} {facts : PeriodFacts}
    {slotId message : String} {at' : IsoTime} {answer : PersonalProviderSlotSnapshot →
      EntitlementPeriod → SlotFulfillment}
    (hends : EndsBefore command.planId command.effectiveStart s.database) :
    (createSlotSubscription command >>= fun subscription =>
      createPeriod facts subscription >>= fun period =>
        read (fun db => slotOr (slotCorrupt message) db slotId at') >>= fun slot =>
          pure (answer slot period)) s ≠ .error (.rejected subscriptionOverlap) := by
  refine run_bind_ne ?_ fun subscription s₁ _ => run_bind_ne ?_ fun period s₂ _ => ?_
  · exact run_read_bind_ne (prepareSlotSubscription_ne_overlap hends) fun row _ =>
      run_write_bind_ne fun _ _ => nofun
  · unfold createPeriod
    refine run_createId_bind_ne fun id s₂ _ => ?_
    cases newPeriod id facts subscription with
    | none => nofun
    | some row => exact run_write_bind_ne fun _ _ => nofun
  · exact run_read_bind_ne (slotOr_ne_overlap (relay_ne (by simp)) _ _ _) fun _ _ => nofun

theorem fulfillSlotRenewal_ne_overlap {input : RenewSlotInput} (hinv : SlotInv s.database) :
    fulfillSlotRenewal input s ≠ .error (.rejected subscriptionOverlap) := by
  refine run_read_bind_ne (lock_ne_overlap _ _ _ _) fun snapshot hlock => ?_
  refine run_check_bind_ne (durationDaysFromSeconds_ne_overlap _) fun durationDays _ => ?_
  refine run_check_bind_ne (personalProviderRenewalWindow_ne_overlap _ _ _ _)
    fun window hwindow => ?_
  refine run_createId_bind_ne fun id s₁ hdb => fulfillment_ne_overlap fun row hrow hplan => ?_
  rw [hdb] at hrow
  -- the row is on a period of the slot, and those are over when the window starts
  obtain ⟨slot, hslot, -, hsame, -, -, newest, older, hperiods, hchained, hend⟩ :=
    hinv.lock_eq_ok hlock
  obtain ⟨other, hother, hmanaged, period, hperiod, hperiodEnd⟩ := hinv.subscribed row hrow
  have hsamePlan : other.managedPlanId = slot.managedPlanId := by
    rw [hmanaged, hplan, ← hsame]
  rw [hinv.managed other hother slot hslot hsamePlan, hperiods] at hperiod
  have hle := hchained.lt_end hperiod
  have hstart := (le_laterOf snapshot.latestEffectiveEnd input.fulfilledAt).1
  rw [← (personalProviderRenewalWindow_eq_ok hwindow).1, hend] at hstart
  rw [← hperiodEnd]
  exact hle.trans hstart

theorem fulfillSlotPurchase_ne_overlap (hinv : SlotInv s.database) :
    fulfillSlotPurchase input s ≠ .error (.rejected subscriptionOverlap) := by
  refine run_check_bind_ne (durationDaysFromSeconds_ne_overlap _) fun durationDays _ => ?_
  refine run_createId_bind_ne fun slotId s₁ hdb₁ => run_createId_bind_ne fun planId s₂ hdb₂ =>
    run_createId_bind_ne fun subscriptionId s₃ hdb₃ => ?_
  refine run_write_bind_ne fun s₄ hplan => run_write_bind_ne fun s₅ hslot => ?_
  refine fulfillment_ne_overlap fun row hrow hrowPlan => ?_
  -- the Plan is new, so that no row belongs to it
  rw [hdb₃, hdb₂, hdb₁] at hplan
  obtain ⟨plans, hplans, hdb₄⟩ := Option.map_eq_some_iff.mp hplan
  split at hslot
  · obtain ⟨slots, -, hdb₅⟩ := Option.map_eq_some_iff.mp hslot
    rw [← hdb₅, ← hdb₄] at hrow
    obtain ⟨other, hother, hmanaged, -⟩ := hinv.subscribed row hrow
    obtain ⟨found, hfound, hfoundId⟩ := hinv.planned other hother
    have hfresh := Table.find?_eq_none.mp (Table.insert?_eq_some.mp hplans).1
    exact absurd (hfoundId.trans (hmanaged.trans hrowPlan)) (hfresh found hfound)
  · cases hslot

theorem replayFulfillment_ne_overlap :
    replayFulfillment slotId period fulfilledAt s ≠ .error (.rejected subscriptionOverlap) :=
  have hcorrupt : purchaseCorrupt ≠ subscriptionOverlap := relay_ne (by decide)
  run_read_bind_ne (slotOr_ne_overlap hcorrupt _ _ _) fun _ _ => nofun

theorem finalizeRetention_ne_overlap :
    finalizePersonalProviderSlotRetention slotId at' s ≠
      .error (.rejected subscriptionOverlap) := by
  have hslot : slotNotFound ≠ subscriptionOverlap := relay_ne (by decide)
  refine run_read_bind_ne (slotOr_ne_overlap hslot _ _ _) fun current _ => ?_
  split
  · nofun
  · refine run_check_bind_ne (rejectIf_relay_ne (by decide)) fun _ _ => ?_
    refine run_write_bind_ne fun _ _ => ?_
    exact run_read_bind_ne (slotOr_ne_overlap hslot _ _ _) fun _ _ => nofun

theorem runSlotCommand_ne_overlap (command : SlotCommand) (hinv : SlotInv s.database) :
    runSlotCommand command s ≠ .error (.rejected subscriptionOverlap) := by
  cases command with
  | purchase input =>
    refine run_bind_ne (run_read_bind_ne nofun fun existing _ => ?_) fun _ _ _ => nofun
    cases existing with
    | none => exact fulfillSlotPurchase_ne_overlap hinv
    | some period => exact replayFulfillment_ne_overlap
  | renew input =>
    refine run_bind_ne (run_read_bind_ne nofun fun existing _ => ?_) fun _ _ _ => nofun
    cases existing with
    | none => exact fulfillSlotRenewal_ne_overlap hinv
    | some period =>
      exact run_check_bind_ne (rejectIf_relay_ne (by decide)) fun _ _ =>
        replayFulfillment_ne_overlap
  | finalizeRetention slotId at' =>
    exact run_bind_ne finalizeRetention_ne_overlap fun _ _ _ => nofun

theorem slotStep_ne_overlap (input : SlotInput) (hinv : SlotInv db) :
    (slotStep input db).1 ≠ .error (.rejected subscriptionOverlap) := by
  unfold slotStep commit
  split
  · nofun
  · next failure hrun =>
      intro h
      cases h
      exact runSlotCommand_ne_overlap input.command hinv hrun

/-! ### The lifecycle -/

theorem lifecycle_active_iff :
    personalProviderSlotLifecycle at' latestEnd none = .active ↔ at'.ms < latestEnd.ms := by
  unfold personalProviderSlotLifecycle renewalCutoff retentionDays secondsPerDay
  split
  · next hover =>
      have hcutoff := hover.resolve_left (fun hne => hne rfl)
      exact iff_of_false (by simp) (by omega)
  · split
    · next hbefore => exact iff_of_true rfl hbefore
    · next hafter => exact iff_of_false (by simp) hafter

theorem lifecycle_of_expired (at' latestEnd expired : IsoTime) :
    personalProviderSlotLifecycle at' latestEnd (some expired) = .retentionExpired :=
  if_pos (.inl (Option.some_ne_none expired))

/-- From the last fulfilment on, and once retention is finalized from then on, a slot is active
while one of its periods runs. -/
theorem SlotInv.lifecycle (h : SlotInv db) (hslot : slot ∈ db.slots)
    (hfulfilled : ∀ period ∈ periodsOf slot.id db, period.fulfillmentSucceededAt.ms ≤ at'.ms)
    (hexpired : ∀ expired, slot.retentionExpiredAt = some expired → expired.ms ≤ at'.ms) :
    ∃ snapshot, getPersonalProviderSlot db slot.id at' = .ok (some snapshot) ∧
      (snapshot.lifecycle = .active ↔
        ∃ period ∈ periodsOf slot.id db, period.Contains at'.ms) := by
  obtain ⟨newest, older, snapshot, hperiods, hchained, hread, -, -, -, hlifecycle⟩ :=
    h.snapshot hslot at'
  have hfind : db.slots.find? slot.id = some slot := Table.find?_of_mem hslot
  refine ⟨snapshot, ?_, ?_⟩
  · rw [getPersonalProviderSlot, hfind]
    dsimp only
    rw [hread]
    rfl
  · rw [hlifecycle]
    cases hretention : slot.retentionExpiredAt with
    | none =>
      rw [lifecycle_active_iff, hperiods]
      constructor
      · intro hbefore
        rw [hperiods] at hfulfilled
        exact hchained.exists_contains hfulfilled hbefore
      · rintro ⟨period, hperiod, -, hend⟩
        exact lt_of_lt_of_le hend (hchained.lt_end hperiod)
    | some expired =>
      rw [lifecycle_of_expired]
      refine iff_of_false (by simp) ?_
      rintro ⟨period, hperiod, -, hend⟩
      have hover := h.retained slot hslot expired hretention period hperiod
      have hlater := hexpired expired hretention
      omega

/-! ### After retention -/

/-- The retention of a slot has been finalized. -/
def RetentionExpired (slotId : String) (db : SlotDatabase) : Prop :=
  ∃ slot ∈ db.slots, slot.id = slotId ∧ slot.retentionExpiredAt ≠ none

theorem SlotEffect.retentionExpired {command : SlotCommand}
    (h : SlotEffect command before output after) (hexpired : RetentionExpired slotId before) :
    RetentionExpired slotId after := by
  obtain ⟨slot, hslot, hid, hretention⟩ := hexpired
  cases h with
  | refused failure => exact ⟨slot, hslot, hid, hretention⟩
  | replayed fulfillment hreplayed hstored hpurchase => exact ⟨slot, hslot, hid, hretention⟩
  | finalizedBefore snapshot replayed => exact ⟨slot, hslot, hid, hretention⟩
  | purchased input fulfillment after hcommand hreplayed hpurchased =>
    obtain ⟨plan, added, middle, facts, -, -, -, hslots, -, -, -, -, hcreated⟩ :=
      hpurchased.created
    refine ⟨slot, ?_, hid, hretention⟩
    rw [hcreated.slots]
    exact (Table.mem_insert hslots).mpr (.inr hslot)
  | renewed input fulfillment after hcommand hreplayed hrenewed =>
    obtain ⟨_, facts, -, -, -, -, -, hcreated⟩ := hrenewed.created
    refine ⟨slot, ?_, hid, hretention⟩
    rw [hcreated.slots]
    exact hslot
  | finalized otherId at' snapshot replayed after hfinalized =>
    obtain ⟨-, hunexpired, rfl⟩ := hfinalized
    have hother : slot.id ≠ otherId := fun hsame => hretention (hunexpired slot hslot hsame)
    have hkept : slot ∈ before.slots.modify otherId (setRetentionExpired at') (fun _ => rfl) :=
      Table.mem_modify.mpr ⟨slot, hslot, (if_neg hother).symm⟩
    exact ⟨slot, hkept, hid, hretention⟩

/-- No renewal of the slot is admitted, and it is not active. -/
structure NeverActive (slotId : String) (db : SlotDatabase) : Prop where
  lock : ∀ userId admittedAt, ∃ error,
    lockPersonalProviderSlotForRenewal db slotId userId admittedAt = .error error
  lifecycle : ∀ at' snapshot, getPersonalProviderSlot db slotId at' = .ok (some snapshot) →
    snapshot.lifecycle = .retentionExpired

theorem SlotInv.neverActive (h : SlotInv db) (hexpired : RetentionExpired slotId db) :
    NeverActive slotId db := by
  obtain ⟨slot, hslot, hid, hretention⟩ := hexpired
  obtain ⟨expired, hsome⟩ := Option.ne_none_iff_exists'.mp hretention
  constructor
  · intro userId admittedAt
    cases hlock : lockPersonalProviderSlotForRenewal db slotId userId admittedAt with
    | error error => exact ⟨error, rfl⟩
    | ok snapshot =>
      obtain ⟨other, hother, hotherId, -, -, hnone, -⟩ := h.lock_eq_ok hlock
      rw [Table.eq_of_key_eq hother hslot (hotherId.trans hid.symm), hsome] at hnone
      cases hnone
  · intro at' snapshot hread
    obtain ⟨newest, older, found, -, -, hfound, -, -, -, hlifecycle⟩ := h.snapshot hslot at'
    have hfind : db.slots.find? slot.id = some slot := Table.find?_of_mem hslot
    rw [getPersonalProviderSlot, ← hid, hfind] at hread
    dsimp only at hread
    rw [hfound] at hread
    cases hread
    rw [hlifecycle, hsome]
    exact lifecycle_of_expired at' newest.effectiveEnd expired

/-! ### Runs -/

abbrev SlotStep := Step SlotInput (Except (Failure EntitlementError) SlotAnswer) SlotDatabase

/-- The period that a purchase or renewal created. -/
def createdPeriod (t : SlotStep) : Option EntitlementPeriod :=
  match t.output with
  | .ok (.fulfilled fulfillment) => if fulfillment.replayed then none else some fulfillment.period
  | _ => none

/-- A period is what its command paid for. -/
def Pays : SlotCommand → EntitlementPeriod → Prop
  | .purchase input, period =>
    period.sourceAuthorityPurchaseId = input.purchaseId ∧
      period.durationDays * secondsPerDay = input.durationSeconds ∧
      period.fulfillmentSucceededAt = input.fulfilledAt
  | .renew input, period =>
    period.providerSlotId = input.slotId ∧ period.sourceAuthorityPurchaseId = input.purchaseId ∧
      period.durationDays * secondsPerDay = input.durationSeconds ∧
      period.fulfillmentSucceededAt = input.fulfilledAt
  | .finalizeRetention _ _, _ => False

theorem createdPeriod_spec {input : SlotInput} (hinv : SlotInv db) :
    (slotStep input db).2.periods.rows =
        (createdPeriod (stepOf slotStep db input)).toList ++ db.periods.rows ∧
      ∀ period, createdPeriod (stepOf slotStep db input) = some period →
        Pays input.command period := by
  have heffect := @slotStep_effect input db hinv
  have hnone : ∀ period, (none : Option EntitlementPeriod) = some period →
      Pays input.command period := by
    intro period hperiod
    cases hperiod
  unfold createdPeriod
  dsimp only [stepOf]
  generalize (slotStep input db).1 = output at heffect ⊢
  generalize (slotStep input db).2 = after at heffect ⊢
  cases heffect with
  | refused failure => exact ⟨rfl, hnone⟩
  | finalizedBefore snapshot replayed => exact ⟨rfl, hnone⟩
  | finalized slotId at' snapshot replayed after hfinalized =>
    rw [hfinalized.slots]
    exact ⟨rfl, hnone⟩
  | replayed fulfillment hreplayed hstored hpurchase =>
    dsimp only
    rw [if_pos hreplayed]
    exact ⟨rfl, hnone⟩
  | purchased purchaseInput fulfillment after hcommand hreplayed hpurchased =>
    dsimp only
    rw [if_neg (by rw [hreplayed]; exact Bool.false_ne_true), hcommand]
    obtain ⟨plan, added, middle, facts, -, -, -, -, -, hperiods, -, -, hcreated⟩ :=
      hpurchased.created
    refine ⟨?_, fun period hperiod => ?_⟩
    · rw [(Table.insert?_eq_some.mp hcreated.periods).2, hperiods]
      rfl
    · obtain rfl := Option.some.inj hperiod
      exact ⟨hpurchased.purchase, hpurchased.paid, hpurchased.fulfilled⟩
  | renewed renewInput fulfillment after hcommand hreplayed hrenewed =>
    dsimp only
    rw [if_neg (by rw [hreplayed]; exact Bool.false_ne_true), hcommand]
    obtain ⟨slot, facts, -, hid, -, hfacts, -, hcreated⟩ := hrenewed.created
    refine ⟨?_, fun period hperiod => ?_⟩
    · rw [(Table.insert?_eq_some.mp hcreated.periods).2]
      rfl
    · obtain rfl := Option.some.inj hperiod
      exact ⟨hcreated.slotId.trans (hfacts.trans hid), hrenewed.purchase, hrenewed.paid,
        hrenewed.fulfilled⟩

/-- The period of an answer is stored and is the one of the command's purchase; a replay answers one
that was there. -/
theorem fulfilled_spec {input : SlotInput} (hinv : SlotInv db) {fulfillment : SlotFulfillment}
    (h : (slotStep input db).1 = .ok (.fulfilled fulfillment)) :
    fulfillment.period ∈ (slotStep input db).2.periods ∧
      input.command.purchaseId? = some fulfillment.period.sourceAuthorityPurchaseId ∧
      (fulfillment.replayed = true → fulfillment.period ∈ db.periods) := by
  have heffect := @slotStep_effect input db hinv
  rw [h] at heffect
  generalize (slotStep input db).2 = after at heffect ⊢
  cases heffect with
  | replayed _ hreplayed hstored hpurchase => exact ⟨hstored, hpurchase, fun _ => hstored⟩
  | purchased purchaseInput _ after hcommand hreplayed hpurchased =>
    obtain ⟨plan, added, middle, facts, -, -, -, -, -, -, -, -, hcreated⟩ := hpurchased.created
    rw [hcommand, hreplayed]
    exact ⟨(Table.mem_insert hcreated.periods).mpr (.inl rfl),
      congrArg some hpurchased.purchase.symm, nofun⟩
  | renewed renewInput _ after hcommand hreplayed hrenewed =>
    obtain ⟨slot, facts, -, -, -, -, -, hcreated⟩ := hrenewed.created
    rw [hcommand, hreplayed]
    exact ⟨(Table.mem_insert hcreated.periods).mpr (.inl rfl),
      congrArg some hrenewed.purchase.symm, nofun⟩

/-- What holds of a run of purchases, renewals and finalizations. -/
structure PaidDaysKept (inputs : List SlotInput) : Prop where
  periods : (final slotStep .initial inputs).periods.rows =
    ((trace slotStep .initial inputs).filterMap createdPeriod).reverse
  paid : ∀ t ∈ trace slotStep .initial inputs, ∀ period, createdPeriod t = some period →
    Pays t.input.command period
  answered : ∀ t ∈ trace slotStep .initial inputs, ∀ fulfillment,
    t.output = .ok (.fulfilled fulfillment) → fulfillment.period ∈ t.after.periods ∧
      t.input.command.purchaseId? = some fulfillment.period.sourceAuthorityPurchaseId ∧
      (fulfillment.replayed = true → fulfillment.period ∈ t.before.periods)
  lasting : ∀ period ∈ (final slotStep .initial inputs).periods,
    period.LastsItsDays ∧ period.fulfillmentSucceededAt.ms ≤ period.effectiveStart.ms
  ordered : ∀ slotId, (periodsOf slotId (final slotStep .initial inputs)).Pairwise
    fun newer older => older.effectiveEnd.ms ≤ newer.effectiveStart.ms
  admitted : ∀ t ∈ trace slotStep .initial inputs,
    t.output ≠ .error (.rejected subscriptionOverlap)
  lifecycle : ∀ slot ∈ (final slotStep .initial inputs).slots, ∀ at',
    (∀ period ∈ periodsOf slot.id (final slotStep .initial inputs),
      period.fulfillmentSucceededAt.ms ≤ at'.ms) →
    (∀ expired, slot.retentionExpiredAt = some expired → expired.ms ≤ at'.ms) →
    ∃ snapshot, getPersonalProviderSlot (final slotStep .initial inputs) slot.id at' =
        .ok (some snapshot) ∧
      (snapshot.lifecycle = .active ↔
        ∃ period ∈ periodsOf slot.id (final slotStep .initial inputs), period.Contains at'.ms)
  retention : ∀ slotId, RetentionExpired slotId (final slotStep .initial inputs) →
    ∀ more, NeverActive slotId (final slotStep (final slotStep .initial inputs) more)

/-- **Personal Provider slots keep every paid day**, in every run. -/
theorem run_keeps_paid_days (inputs : List SlotInput) : PaidDaysKept inputs := by
  have hsteps := (@invariant _ _ _ slotStep SlotInv (fun _ => True)
    (fun input db h _ => slotStep_inv input db h) _ SlotInv.initial inputs fun _ _ => trivial).2
  have hinv : SlotInv (final slotStep .initial inputs) :=
    invariant_final slotStep_inv SlotInv.initial inputs
  constructor
  · have hperiods := @part_final _ _ _ slotStep _ (fun db : SlotDatabase => db.periods.rows)
      createdPeriod SlotInv slotStep_inv (fun input db h => (createdPeriod_spec h).1) _
      SlotInv.initial inputs
    rw [hperiods]
    exact List.append_nil _
  · intro t ht period hperiod
    rw [eq_stepOf_of_mem ht] at hperiod
    exact (createdPeriod_spec (hsteps t ht).1).2 period hperiod
  · intro t ht fulfillment hfulfilled
    rw [eq_stepOf_of_mem ht] at hfulfilled ⊢
    exact fulfilled_spec (hsteps t ht).1 hfulfilled
  · intro period hperiod
    obtain ⟨slot, hslot, hid⟩ := hinv.owned period hperiod
    exact (hinv.chained slot hslot).of_mem
      (List.mem_filter.mpr ⟨hperiod, decide_eq_true hid.symm⟩)
  · intro slotId
    by_cases hslot : ∃ slot ∈ (final slotStep .initial inputs).slots, slot.id = slotId
    · obtain ⟨slot, hslot, rfl⟩ := hslot
      exact (hinv.chained slot hslot).pairwise
    · -- without a slot there are no periods
      have hempty : periodsOf slotId (final slotStep .initial inputs) = [] := by
        refine List.filter_eq_nil_iff.mpr fun period hperiod hsame => hslot ?_
        obtain ⟨slot, hslot, hid⟩ := hinv.owned period hperiod
        exact ⟨slot, hslot, hid.trans (of_decide_eq_true hsame)⟩
      rw [hempty]
      exact List.Pairwise.nil
  · intro t ht
    rw [eq_stepOf_of_mem ht]
    exact slotStep_ne_overlap t.input (hsteps t ht).1
  · intro slot hslot at' hfulfilled hexpired
    exact hinv.lifecycle hslot hfulfilled hexpired
  · intro slotId hexpired more
    have hmore := @flag_final _ _ _ slotStep SlotInv (RetentionExpired slotId) slotStep_inv
      (fun input db h => (slotStep_effect h).retentionExpired) _ hinv hexpired more
    exact (invariant_final slotStep_inv hinv more).neverActive hmore

end Frely.PersonalProviderSlots
