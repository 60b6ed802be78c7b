import Frely.Entitlement.Subscriptions
import Frely.Lib.Machine

/-!
# Periods of subscriptions

The commands keep the active subscriptions of a Plan and a scope apart by the order of their texts.
`run_disjoint`: they are apart in time as long as no text order says that a period is over before
another begins when by their times it is not; a command that is rejected changes nothing.
-/

namespace Frely.Entitlement

open Checked Transaction

variable {env : Environment} {s s' : Session (Table PlanSubscription)}

/-! ### Spans of time -/

variable {parse : String → Option Timestamp}

/-- A moment of a half-open period; without an end it lasts forever. -/
def Period.Covers (parse : String → Option Timestamp) (period : Period) (time : Timestamp) : Prop :=
  (∃ start, parse period.effectiveStart = some start ∧ start ≤ time) ∧
    ∀ last ∈ period.effectiveEnd, ∃ ending, parse last = some ending ∧ time < ending

/-- No time lies in both periods. -/
def DisjointSpans (parse : String → Option Timestamp) (p q : Period) : Prop :=
  ∀ time, ¬(p.Covers parse time ∧ q.Covers parse time)

theorem DisjointSpans.symm {p q : Period} (h : DisjointSpans parse p q) : DisjointSpans parse q p :=
  fun time hboth => h time hboth.symm

/-- When the texts say that `p` is over before `q` begins, so do the times they name. -/
def EndsRightly (parse : String → Option Timestamp) (p q : Period) : Prop :=
  ∀ last ∈ p.effectiveEnd, ¬bytesBefore q.effectiveStart last →
    ∀ ending start, parse last = some ending → parse q.effectiveStart = some start → ending ≤ start

/-- The texts of two periods do not put one behind the other wrongly. -/
def ComparedRightly (parse : String → Option Timestamp) (p q : Period) : Prop :=
  EndsRightly parse p q ∧ EndsRightly parse q p

theorem ComparedRightly.symm {p q : Period} (h : ComparedRightly parse p q) :
    ComparedRightly parse q p :=
  And.symm h

theorem EndsRightly.disjoint {p q : Period} {last : String} (h : EndsRightly parse p q)
    (hlast : last ∈ p.effectiveEnd) (hbytes : ¬bytesBefore q.effectiveStart last) :
    DisjointSpans parse p q := by
  rintro time ⟨⟨-, hp⟩, ⟨start, hstart, hle⟩, -⟩
  obtain ⟨ending, hending, hlt⟩ := hp last hlast
  have hover := h last hlast hbytes ending start hending hstart
  exact absurd (lt_of_lt_of_le hlt (le_trans hover hle)) (lt_irrefl _)

/-! ### The invariant -/

variable {row : PlanSubscription} {period : Period} {excludingId : Option String}

/-- Two subscriptions of one Plan and scope that are both active. -/
def Competing (row other : PlanSubscription) : Prop :=
  row.planId = other.planId ∧ row.scopeRef = other.scopeRef ∧
    row.subscriptionLifecycle = .active ∧ other.subscriptionLifecycle = .active

theorem Competing.symm {other : PlanSubscription} (h : Competing row other) : Competing other row :=
  ⟨h.1.symm, h.2.1.symm, h.2.2.2, h.2.2.1⟩

/-- Active subscriptions of one Plan and scope cover disjoint spans of time. -/
def NeverOverlap (parse : String → Option Timestamp) (subscriptions : Table PlanSubscription) :
    Prop :=
  ∀ row ∈ subscriptions, ∀ other ∈ subscriptions, row.id ≠ other.id → Competing row other →
    DisjointSpans parse row.toPeriod other.toPeriod

/-- Setting a row that is disjoint from its competitors keeps the subscriptions apart. -/
theorem NeverOverlap.sets {parse : String → Option Timestamp} {t t' : Table PlanSubscription}
    {row : PlanSubscription} (h : NeverOverlap parse t) (hset : t.Sets row t')
    (hrow : ∀ other ∈ t, other.id ≠ row.id → Competing row other →
      DisjointSpans parse row.toPeriod other.toPeriod) : NeverOverlap parse t' := by
  intro left hleft right hright hne hcompeting
  rcases hset.mem_iff.mp hleft with rfl | ⟨hleft, hleftKey⟩
  · rcases hset.mem_iff.mp hright with rfl | ⟨hright, hrightKey⟩
    · exact absurd rfl hne
    · exact hrow right hright hrightKey hcompeting
  · rcases hset.mem_iff.mp hright with rfl | ⟨hright, hrightKey⟩
    · exact (hrow left hleft hleftKey hcompeting.symm).symm
    · exact h left hleft right hright hne hcompeting

theorem NeverOverlap.erase {t : Table PlanSubscription} (h : NeverOverlap parse t)
    (subscriptionId : String) : NeverOverlap parse (t.erase subscriptionId) := by
  intro row hrow other hother
  exact h row (Table.mem_erase.mp hrow).1 other (Table.mem_erase.mp hother).1

/-- What the overlap query did not find is apart in time, if it was compared rightly. -/
theorem disjointSpans_of_not_overlaps {parse : String → Option Timestamp} {planId scopeRef : String}
    {period : Period} {excludingId : Option String} {row : PlanSubscription}
    (h : ¬overlaps planId scopeRef period excludingId row) (hplan : row.planId = planId)
    (hscope : row.scopeRef = scopeRef) (hactive : row.subscriptionLifecycle = .active)
    (hother : some row.id ≠ truthy excludingId)
    (hright : ComparedRightly parse period row.toPeriod) :
    DisjointSpans parse period row.toPeriod := by
  by_cases hbefore : period.effectiveEnd.all (bytesBefore row.effectiveStart) = true
  · have hafter : ¬row.effectiveEnd.all (bytesBefore period.effectiveStart) = true := by
      intro hall
      apply h
      simp [overlaps, hplan, hscope, hactive, hother, hbefore, hall]
    cases hend : row.effectiveEnd with
    | none => simp [hend] at hafter
    | some last =>
      simp only [hend, Option.all_some] at hafter
      exact (hright.2.disjoint hend hafter).symm
  · cases hend : period.effectiveEnd with
    | none => simp [hend] at hbefore
    | some last =>
      simp only [hend, Option.all_some] at hbefore
      exact hright.1.disjoint hend hbefore

/-! ### The commands -/

variable {command : CreatePlanSubscriptionCommand} {subscriptionId : String}
  {effectiveEnd : Option String}

/-- What creating a subscription checked and wrote. -/
structure Created (env : Environment) (command : CreatePlanSubscriptionCommand)
    (before : Table PlanSubscription) (row : PlanSubscription) (after : Table PlanSubscription) :
    Prop where
  prepared : prepareSubscription env command = .ok row.toPeriod
  planId : row.planId = command.planId
  scopeRef : row.scopeRef = command.scopeRef
  apart : ∀ other ∈ before,
    ¬overlaps command.planId command.scopeRef row.toPeriod none other
  sets : before.Sets row after

theorem assertNoSubscriptionOverlap_eq_ok {subscriptions : Table PlanSubscription}
    {planId scopeRef : String} {u : Unit}
    (h : assertNoSubscriptionOverlap subscriptions planId scopeRef period excludingId = .ok u) :
    ∀ row ∈ subscriptions, ¬overlaps planId scopeRef period excludingId row := by
  intro row hrow hoverlaps
  exact rejectIf_eq_ok.mp h ⟨row, hrow, hoverlaps⟩

theorem givenOrCreatedId_eq_ok {id : Option String} {given : String}
    (h : givenOrCreatedId id s = .ok (given, s')) : s'.database = s.database := by
  cases id with
  | some id =>
    obtain ⟨-, rfl⟩ := run_pure.mp h
    rfl
  | none => exact createId_eq_ok h

theorem createSubscriptionInTransaction_eq_ok
    (h : createSubscriptionInTransaction env command s = .ok (row, s')) :
    Created env command s.database row s'.database := by
  unfold createSubscriptionInTransaction at h
  obtain ⟨period, hprepared, h⟩ := run_check_bind.mp h
  obtain ⟨_, hapart, h⟩ := run_read_bind.mp h
  obtain ⟨at', -, h⟩ := run_check_bind.mp h
  obtain ⟨id, s₁, hid, h⟩ := run_bind.mp h
  obtain ⟨source, -, h⟩ := run_check_bind.mp h
  obtain ⟨priority, -, h⟩ := run_check_bind.mp h
  obtain ⟨_, s₂, hinsert, h⟩ := run_bind.mp h
  obtain ⟨rfl, rfl⟩ := run_pure.mp h
  have hchange := write_eq_ok hinsert
  rw [givenOrCreatedId_eq_ok hid] at hchange
  split_ifs at hchange
  exact {
    prepared := hprepared
    planId := rfl
    scopeRef := rfl
    apart := assertNoSubscriptionOverlap_eq_ok hapart
    sets := Table.sets_insert hchange }

theorem findSubscription_eq_ok (h : findSubscription subscriptionId s = .ok (row, s')) :
    s.database.find? subscriptionId = some row ∧ s' = s := by
  obtain ⟨hfound, rfl⟩ := read_eq_ok.mp h
  split at hfound
  · next found hfind =>
    cases hfound
    exact ⟨hfind, rfl⟩
  · cases hfound

theorem putSubscription_eq_ok {u : Unit} (h : putSubscription row s = .ok (u, s')) :
    s.database.Sets row s'.database := by
  have hchange := write_eq_ok h
  rw [← Option.some.inj hchange]
  exact Table.sets_put s.database row

/-- Canceling leaves the rows, or sets a canceled one. -/
theorem cancelSubscription_eq_ok
    (h : cancelSubscription env subscriptionId effectiveEnd s = .ok (row, s')) :
    s'.database = s.database ∨
      row.subscriptionLifecycle = .canceled ∧ s.database.Sets row s'.database := by
  unfold cancelSubscription at h
  obtain ⟨existing, s₁, hfind, hrest⟩ := run_bind.mp h
  obtain ⟨-, rfl⟩ := findSubscription_eq_ok hfind
  split at hrest
  · obtain ⟨-, rfl⟩ := run_pure.mp hrest
    exact .inl rfl
  · obtain ⟨at', -, hrest⟩ := run_check_bind.mp hrest
    obtain ⟨canceled, hcanceled, hrest⟩ := run_check_bind.mp hrest
    obtain ⟨_, s₂, hput, hrest⟩ := run_bind.mp hrest
    obtain ⟨rfl, rfl⟩ := run_pure.mp hrest
    unfold canceledSubscription at hcanceled
    obtain ⟨_, -, hcanceled⟩ := bind_eq_ok.mp hcanceled
    refine .inr ⟨?_, putSubscription_eq_ok hput⟩
    cases hcanceled
    rfl

/-- What revising a subscription checked and wrote. -/
structure Revised (subscriptionId : String) (command : ReviseSubscriptionCompatibilityCommand)
    (before : Table PlanSubscription) (row : PlanSubscription) (after : Table PlanSubscription) :
    Prop where
  existing : ∃ existing at', before.find? subscriptionId = some existing ∧
    row = revisedSubscription command existing at'
  apart : row.subscriptionLifecycle = .active → ∀ other ∈ before,
    ¬overlaps row.planId row.scopeRef row.toPeriod (some subscriptionId) other
  sets : before.Sets row after

theorem reviseSubscriptionCompatibility_eq_ok {command : ReviseSubscriptionCompatibilityCommand}
    (h : reviseSubscriptionCompatibility env subscriptionId command s = .ok (row, s')) :
    Revised subscriptionId command s.database row s'.database := by
  unfold reviseSubscriptionCompatibility at h
  obtain ⟨existing, s₁, hfind, hrest⟩ := run_bind.mp h
  obtain ⟨hexisting, rfl⟩ := findSubscription_eq_ok hfind
  obtain ⟨at', -, hrest⟩ := run_check_bind.mp hrest
  obtain ⟨_, -, hrest⟩ := run_check_bind.mp hrest
  obtain ⟨_, hapart, hrest⟩ := run_read_bind.mp hrest
  obtain ⟨_, s₂, hput, hrest⟩ := run_bind.mp hrest
  obtain ⟨rfl, rfl⟩ := run_pure.mp hrest
  refine ⟨⟨existing, at', hexisting, rfl⟩, ?_, putSubscription_eq_ok hput⟩
  intro hactive
  rw [if_pos hactive] at hapart
  exact assertNoSubscriptionOverlap_eq_ok hapart

theorem deleteSubscriptionCompatibility_eq_ok {deleted : Bool}
    (h : deleteSubscriptionCompatibility subscriptionId s = .ok (deleted, s')) :
    s'.database = s.database ∨ s'.database = s.database.erase subscriptionId := by
  unfold deleteSubscriptionCompatibility at h
  obtain ⟨existing, -, h⟩ := run_read_bind.mp h
  cases existing with
  | none =>
    obtain ⟨-, rfl⟩ := run_pure.mp h
    exact .inl rfl
  | some row =>
    obtain ⟨_, -, h⟩ := run_check_bind.mp h
    obtain ⟨_, s₁, hwrite, h⟩ := run_bind.mp h
    obtain ⟨-, rfl⟩ := run_pure.mp h
    have hchange := write_eq_ok hwrite
    exact .inr (Option.some.inj hchange).symm

/-! ### What a command would write -/

/-- The periods of a series of subscriptions. -/
def unitPeriods (env : Environment) (plan : Plan) :
    Nat → String → Except EntitlementError (List Period)
  | 0, _ => .ok []
  | units + 1, start => do
    let last ← addSeconds env start plan.durationSeconds
    let rest ← unitPeriods env plan units last
    return ⟨start, some last⟩ :: rest

/-- Periods of active subscriptions of one Plan and scope, beside the row they replace. -/
structure Writing where
  planId : String
  scopeRef : String
  replaced : Option String
  periods : List Period
deriving DecidableEq

/-- The active subscriptions a command is about to write. -/
def writing (env : Environment) (subscriptions : Table PlanSubscription) :
    Command → Option Writing
  | .createSubscription command => do
    let period ← (prepareSubscription env command).toOption
    return ⟨command.planId, command.scopeRef, none, [period]⟩
  | .createSubscriptionUnits command units => do
    let (plan, start) ← (prepareUnits env command units).toOption
    let periods ← (unitPeriods env plan units.toNat start).toOption
    return ⟨command.planId, command.scopeRef, none, periods⟩
  | .reviseSubscriptionCompatibility subscriptionId command => do
    let existing ← subscriptions.find? subscriptionId
    let revised := revisedSubscription command existing ""
    if revised.subscriptionLifecycle = .active then
      return ⟨revised.planId, revised.scopeRef, some subscriptionId, [revised.toPeriod]⟩
    else none
  | .cancelSubscription _ _ => none
  | .deleteSubscriptionCompatibility _ => none

/-- The texts of the periods a command is about to write are compared rightly, with those of the
active subscriptions of the Plan and the scope and with each other. -/
def ReadsRightly (env : Environment) (subscriptions : Table PlanSubscription)
    (command : Command) : Prop :=
  ∀ write ∈ writing env subscriptions command,
    (∀ period ∈ write.periods, ∀ row ∈ subscriptions, row.planId = write.planId →
      row.scopeRef = write.scopeRef → row.subscriptionLifecycle = .active →
      some row.id ≠ write.replaced → ComparedRightly env.parse period row.toPeriod) ∧
    write.periods.Pairwise (ComparedRightly env.parse)

/-! ### Every command keeps the subscriptions apart -/

variable {start : String} {rows : List PlanSubscription}

/-- One new subscription, given that its period is compared rightly. -/
theorem Created.neverOverlap {command : CreatePlanSubscriptionCommand}
    {before after : Table PlanSubscription} {row : PlanSubscription}
    (h : Created env command before row after) (hinv : NeverOverlap env.parse before)
    (hright : ∀ other ∈ before, other.planId = command.planId →
      other.scopeRef = command.scopeRef → other.subscriptionLifecycle = .active →
      ComparedRightly env.parse row.toPeriod other.toPeriod) :
    NeverOverlap env.parse after := by
  apply hinv.sets h.sets
  intro other hother _ hcompeting
  have hplan : other.planId = command.planId := hcompeting.1.symm.trans h.planId
  have hscope : other.scopeRef = command.scopeRef := hcompeting.2.1.symm.trans h.scopeRef
  exact disjointSpans_of_not_overlaps (h.apart other hother) hplan hscope hcompeting.2.2.2
    nofun (hright other hother hplan hscope hcompeting.2.2.2)

theorem writing_createSubscription (h : prepareSubscription env command = .ok period)
    (subscriptions : Table PlanSubscription) :
    writing env subscriptions (.createSubscription command) =
      some ⟨command.planId, command.scopeRef, none, [period]⟩ := by
  rw [writing, h]
  rfl

theorem createSubscription_neverOverlap
    (h : createSubscriptionInTransaction env command s = .ok (row, s'))
    (hinv : NeverOverlap env.parse s.database)
    (hright : ReadsRightly env s.database (.createSubscription command)) :
    NeverOverlap env.parse s'.database := by
  have hcreated := createSubscriptionInTransaction_eq_ok h
  apply hcreated.neverOverlap hinv
  intro other hother hplan hscope hactive
  have hwriting := writing_createSubscription hcreated.prepared s.database
  exact (hright _ hwriting).1 row.toPeriod List.mem_cons_self other hother hplan hscope hactive
    nofun

/-- A subscription with given bounds gets them. -/
theorem prepareSubscription_given {command : CreatePlanSubscriptionCommand} {start last : String}
    {period : Period} (h : prepareSubscription env { command with
      effectiveStart := some start
      effectiveEnd := some (some last) } = .ok period) : period = ⟨start, some last⟩ := by
  unfold prepareSubscription at h
  dsimp only at h
  split at h
  · cases h
  · obtain ⟨_, -, h⟩ := bind_eq_ok.mp h
    obtain ⟨_, -, h⟩ := bind_eq_ok.mp h
    obtain ⟨given, hgiven, h⟩ := bind_eq_ok.mp h
    obtain ⟨_, -, h⟩ := bind_eq_ok.mp h
    cases h
    cases hgiven
    rfl

/-- Each subscription of a series is apart from the rows and from the ones before it. -/
theorem createUnitsFrom_neverOverlap {plan : Plan} {units : Nat} {periods : List Period}
    (h : createUnitsFrom env plan command units start s = .ok (rows, s'))
    (hperiods : unitPeriods env plan units start = .ok periods)
    (hinv : NeverOverlap env.parse s.database)
    (hrows : ∀ period ∈ periods, ∀ row ∈ s.database, row.planId = command.planId →
      row.scopeRef = command.scopeRef → row.subscriptionLifecycle = .active →
        ComparedRightly env.parse period row.toPeriod)
    (hpairwise : periods.Pairwise (ComparedRightly env.parse)) :
    NeverOverlap env.parse s'.database := by
  induction units generalizing start rows periods s with
  | zero =>
    obtain ⟨-, rfl⟩ := run_pure.mp h
    exact hinv
  | succ units ih =>
    obtain ⟨last, hlast, h⟩ := run_check_bind.mp h
    obtain ⟨row, s₁, hcreate, h⟩ := run_bind.mp h
    obtain ⟨rest, s₂, hrest, h⟩ := run_bind.mp h
    obtain ⟨-, rfl⟩ := run_pure.mp h
    have hcreated := createSubscriptionInTransaction_eq_ok hcreate
    have hperiod := prepareSubscription_given hcreated.prepared
    obtain ⟨last', hlast', hperiods⟩ := bind_eq_ok.mp hperiods
    cases hlast.symm.trans hlast'
    obtain ⟨later, hlater, hperiods⟩ := bind_eq_ok.mp hperiods
    cases hperiods
    obtain ⟨hfirst, hpairwise⟩ := List.pairwise_cons.mp hpairwise
    have hinv₁ : NeverOverlap env.parse s₁.database := by
      apply hcreated.neverOverlap hinv
      intro other hother hplan hscope hactive
      rw [hperiod]
      exact hrows _ List.mem_cons_self other hother hplan hscope hactive
    apply ih hrest hlater hinv₁ _ hpairwise
    intro period hmem other hother hplan hscope hactive
    rcases hcreated.sets.mem_iff.mp hother with rfl | ⟨hother, -⟩
    · rw [hperiod]
      exact (hfirst period hmem).symm
    · exact hrows period (List.mem_cons_of_mem _ hmem) other hother hplan hscope hactive

theorem exists_unitPeriods {plan : Plan} {units : Nat}
    (h : createUnitsFrom env plan command units start s = .ok (rows, s')) :
    ∃ periods, unitPeriods env plan units start = .ok periods := by
  induction units generalizing start rows s with
  | zero => exact ⟨[], rfl⟩
  | succ units ih =>
    obtain ⟨last, hlast, h⟩ := run_check_bind.mp h
    obtain ⟨row, s₁, -, h⟩ := run_bind.mp h
    obtain ⟨rest, s₂, hrest, h⟩ := run_bind.mp h
    obtain ⟨-, rfl⟩ := run_pure.mp h
    obtain ⟨periods, hperiods⟩ := ih hrest
    exact ⟨⟨start, some last⟩ :: periods, bind_eq_ok.mpr ⟨last, hlast,
      bind_eq_ok.mpr ⟨periods, hperiods, rfl⟩⟩⟩

theorem createSubscriptionUnits_neverOverlap {units : Int}
    (h : createSubscriptionUnits env command units s = .ok (rows, s'))
    (hinv : NeverOverlap env.parse s.database)
    (hright : ReadsRightly env s.database (.createSubscriptionUnits command units)) :
    NeverOverlap env.parse s'.database := by
  unfold createSubscriptionUnits at h
  obtain ⟨⟨plan, start⟩, hprepared, h⟩ := run_check_bind.mp h
  obtain ⟨periods, hperiods⟩ := exists_unitPeriods h
  have hwriting : writing env s.database (.createSubscriptionUnits command units) =
      some ⟨command.planId, command.scopeRef, none, periods⟩ := by
    rw [writing, hprepared]
    show (unitPeriods env plan units.toNat start).toOption.bind _ = _
    rw [hperiods]
    rfl
  obtain ⟨hrows, hpairwise⟩ := hright _ hwriting
  apply createUnitsFrom_neverOverlap h hperiods hinv _ hpairwise
  intro period hmem row hrow hplan hscope hactive
  exact hrows period hmem row hrow hplan hscope hactive nofun

theorem reviseSubscription_neverOverlap {subscriptionId : String}
    {command : ReviseSubscriptionCompatibilityCommand} {row : PlanSubscription}
    (h : reviseSubscriptionCompatibility env subscriptionId command s = .ok (row, s'))
    (hinv : NeverOverlap env.parse s.database)
    (hright : ReadsRightly env s.database
      (.reviseSubscriptionCompatibility subscriptionId command)) :
    NeverOverlap env.parse s'.database := by
  have hrevised := reviseSubscriptionCompatibility_eq_ok h
  obtain ⟨existing, at', hfind, hrow⟩ := hrevised.existing
  have hid : row.id = subscriptionId := by
    rw [hrow]
    exact Table.key_of_find? hfind
  apply hinv.sets hrevised.sets
  intro other hother hne hcompeting
  have hactive : (revisedSubscription command existing "").subscriptionLifecycle = .active := by
    have := hcompeting.2.2.1
    rw [hrow] at this
    exact this
  have hwriting : writing env s.database
      (.reviseSubscriptionCompatibility subscriptionId command) =
        some ⟨row.planId, row.scopeRef, some subscriptionId, [row.toPeriod]⟩ := by
    rw [hrow]
    simp only [writing, hfind, Option.bind_eq_bind, Option.bind_some, if_pos hactive]
    rfl
  have hother' : some other.id ≠ some subscriptionId := by
    rw [← hid]
    exact fun h => hne (Option.some.inj h)
  have hexcluded : some other.id ≠ truthy (some subscriptionId) := by
    intro heq
    have hmem := Option.eq_some_of_filter_eq_some heq.symm
    exact hother' hmem.symm
  exact disjointSpans_of_not_overlaps (hrevised.apart hcompeting.2.2.1 other hother)
    hcompeting.1.symm hcompeting.2.1.symm hcompeting.2.2.2 hexcluded
    ((hright _ hwriting).1 row.toPeriod List.mem_cons_self other hother hcompeting.1.symm
      hcompeting.2.1.symm hcompeting.2.2.2 hother')

theorem cancelSubscription_neverOverlap
    (h : cancelSubscription env subscriptionId effectiveEnd s = .ok (row, s'))
    (hinv : NeverOverlap env.parse s.database) : NeverOverlap env.parse s'.database := by
  rcases cancelSubscription_eq_ok h with hsame | ⟨hcanceled, hset⟩
  · rw [hsame]
    exact hinv
  · apply hinv.sets hset
    intro other _ _ hcompeting
    have hactive := hcompeting.2.2.1
    rw [hcanceled] at hactive
    cases hactive

/-- A command whose texts are compared rightly keeps the subscriptions apart. -/
theorem runCommand_neverOverlap {command : Command} {answer : Answer}
    (h : runCommand env command s = .ok (answer, s')) (hinv : NeverOverlap env.parse s.database)
    (hright : ReadsRightly env s.database command) : NeverOverlap env.parse s'.database := by
  cases command with
  | createSubscription command =>
    obtain ⟨row, s₁, hcreate, h⟩ := run_bind.mp h
    obtain ⟨-, rfl⟩ := run_pure.mp h
    exact createSubscription_neverOverlap hcreate hinv hright
  | createSubscriptionUnits command units =>
    obtain ⟨rows, s₁, hcreate, h⟩ := run_bind.mp h
    obtain ⟨-, rfl⟩ := run_pure.mp h
    exact createSubscriptionUnits_neverOverlap hcreate hinv hright
  | cancelSubscription subscriptionId effectiveEnd =>
    obtain ⟨row, s₁, hcancel, h⟩ := run_bind.mp h
    obtain ⟨-, rfl⟩ := run_pure.mp h
    exact cancelSubscription_neverOverlap hcancel hinv
  | reviseSubscriptionCompatibility subscriptionId command =>
    obtain ⟨row, s₁, hrevise, h⟩ := run_bind.mp h
    obtain ⟨-, rfl⟩ := run_pure.mp h
    exact reviseSubscription_neverOverlap hrevise hinv hright
  | deleteSubscriptionCompatibility subscriptionId =>
    obtain ⟨deleted, s₁, hdelete, h⟩ := run_bind.mp h
    obtain ⟨-, rfl⟩ := run_pure.mp h
    rcases deleteSubscriptionCompatibility_eq_ok hdelete with hsame | herased
    · rw [hsame]
      exact hinv
    · rw [herased]
      exact hinv.erase subscriptionId

/-! ### Runs -/

section

variable {parseOther : String → Option Timestamp}

/-- A step whose texts are compared rightly. -/
def RightStep (parseOther : String → Option Timestamp)
    (taken : Machine.Step Input (Except (Failure EntitlementError) Answer)
      (Table PlanSubscription)) : Prop :=
  ReadsRightly (taken.input.environment parseOther) taken.before taken.input.command

theorem step_neverOverlap (input : Input) (subscriptions : Table PlanSubscription)
    (hinv : NeverOverlap (Date.parse parseOther) subscriptions)
    (hright : RightStep parseOther (Machine.stepOf (step parseOther) subscriptions input)) :
    NeverOverlap (Date.parse parseOther) (step parseOther input subscriptions).2 :=
  commit_preserves (R := fun _ after => NeverOverlap (Date.parse parseOther) after) hinv
    fun h => runCommand_neverOverlap h hinv hright

/-- In a run in which no text order puts one period wrongly behind another, active subscriptions of
a Plan and a scope never cover the same moment; and a rejected command changes nothing. -/
theorem run_disjoint {inputs : List Input}
    (hright : ∀ taken ∈ Machine.trace (step parseOther) Table.empty inputs,
      RightStep parseOther taken) :
    NeverOverlap (Date.parse parseOther) (Machine.final (step parseOther) Table.empty inputs) ∧
      ∀ taken ∈ Machine.trace (step parseOther) Table.empty inputs,
        NeverOverlap (Date.parse parseOther) taken.before ∧
        NeverOverlap (Date.parse parseOther) taken.after ∧
        ∀ failure, taken.output = .error failure → taken.after = taken.before := by
  have hempty : NeverOverlap (Date.parse parseOther) Table.empty :=
    fun row hrow => absurd hrow (Table.not_mem_empty row)
  obtain ⟨hfinal, htrace⟩ := Machine.invariant step_neverOverlap hempty hright
  refine ⟨hfinal, fun taken htaken => ?_⟩
  obtain ⟨hbefore, hafter⟩ := htrace taken htaken
  refine ⟨hbefore, hafter, fun failure hfailure => ?_⟩
  rw [Machine.eq_stepOf_of_mem htaken] at hfailure ⊢
  exact commit_error hfailure

end

/-! ### A start with an offset -/

/-- A subscription of one user to one Plan. -/
def plainCommand (id effectiveStart : String) (effectiveEnd : Option String) :
    CreatePlanSubscriptionCommand where
  id := some id
  planId := "plan"
  scopeRef := "user:user"
  source := "owner"
  effectiveStart := some effectiveStart
  effectiveEnd := some effectiveEnd

def plainInput (command : CreatePlanSubscriptionCommand) : Input :=
  ⟨[⟨"plan", "enabled", 2678400⟩], 1767225600000, fun _ => "", none, .createSubscription command⟩

def january : CreatePlanSubscriptionCommand :=
  plainCommand "january" "2026-01-01T00:00:00.000Z" (some "2026-02-01T00:00:00.000Z")

/-- From the first moment of February on. -/
def nextMonth : CreatePlanSubscriptionCommand :=
  plainCommand "february" "2026-02-01T00:00:00.000Z" none

theorem january_nextMonth_rightStep :
    ∀ taken ∈ Machine.trace (step fun _ => none) Table.empty
      [plainInput january, plainInput nextMonth], RightStep (fun _ => none) taken := by
  have hjanuary : prepareSubscription ((plainInput january).environment fun _ => none) january =
      .ok ⟨"2026-01-01T00:00:00.000Z", some "2026-02-01T00:00:00.000Z"⟩ := by
    decide
  have hnext : prepareSubscription ((plainInput nextMonth).environment fun _ => none) nextMonth =
      .ok ⟨"2026-02-01T00:00:00.000Z", none⟩ := by
    decide
  have hrows : (step (fun _ => none) (plainInput january) Table.empty).2.rows =
      [newSubscription january ⟨"2026-01-01T00:00:00.000Z", some "2026-02-01T00:00:00.000Z"⟩
        "january" "owner" 100 "2026-01-01T00:00:00.000Z"] := by
    decide
  intro taken htaken
  rcases List.mem_cons.mp htaken with rfl | htaken
  · intro write hwrite
    cases (writing_createSubscription hjanuary _).symm.trans hwrite
    exact ⟨fun _ _ row hrow => absurd hrow (Table.not_mem_empty row), List.pairwise_singleton _ _⟩
  · obtain rfl := List.mem_singleton.mp htaken
    intro write hwrite
    cases (writing_createSubscription hnext _).symm.trans hwrite
    refine ⟨?_, List.pairwise_singleton _ _⟩
    intro period hperiod row hrow _ _ _ _
    cases List.mem_singleton.mp hperiod
    have hmem : row ∈ (step (fun _ => none) (plainInput january) Table.empty).2.rows := hrow
    rw [hrows] at hmem
    cases List.mem_singleton.mp hmem
    -- the end of the one is the start of the other
    refine ⟨nofun, ?_⟩
    rintro _ ⟨⟩ _ ending start hending hstart
    exact le_of_eq (Option.some.inj (hending.symm.trans hstart))

theorem january_nextMonth_disjoint :
    NeverOverlap (Date.parse fun _ => none)
      (Machine.final (step fun _ => none) Table.empty [plainInput january, plainInput nextMonth]) :=
  (run_disjoint january_nextMonth_rightStep).1

/-- From the first hour of February on, five hours east of Greenwich. -/
def february : CreatePlanSubscriptionCommand :=
  plainCommand "february" "2026-02-01T01:00:00+05:00" none

theorem january_february_rows :
    (Machine.final (step fun _ => none) Table.empty
      [plainInput january, plainInput february]).rows =
      [newSubscription february ⟨"2026-02-01T01:00:00+05:00", none⟩ "february" "owner" 100
          "2026-01-01T00:00:00.000Z",
        newSubscription january ⟨"2026-01-01T00:00:00.000Z", some "2026-02-01T00:00:00.000Z"⟩
          "january" "owner" 100 "2026-01-01T00:00:00.000Z"] := by
  decide

/-- Two subscriptions are accepted that both cover the evening of the 31st of January. -/
theorem january_february_overlap :
    ¬NeverOverlap (Date.parse fun _ => none)
      (Machine.final (step fun _ => none) Table.empty
        [plainInput january, plainInput february]) := by
  intro h
  have hmem := fun row => Table.mem_rows.trans
    (iff_of_eq (congrArg (row ∈ ·) january_february_rows))
  refine h _ ((hmem _).mpr List.mem_cons_self) _
    ((hmem _).mpr (List.mem_cons_of_mem _ List.mem_cons_self)) (by decide) ⟨rfl, rfl, rfl, rfl⟩
    1769889600000 ⟨⟨?_, nofun⟩, ?_, ?_⟩
  · exact ⟨1769889600000, by decide, by decide⟩
  · exact ⟨1767225600000, by decide, by decide⟩
  · rintro _ ⟨⟩
    exact ⟨1769904000000, by decide, by decide⟩

end Frely.Entitlement
