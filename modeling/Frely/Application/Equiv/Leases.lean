import Frely.Application.Equiv.Runs

/-!
# Leases and dispatch

An owner learns from the answers of the service which leases it holds: `Grants` is what the owners
were granted last and have not given back.  In a run whose time does not go back, a grant that has
not run out is the lease in the table (`GrantsHeld`), so that two owners never both have one
(`LeaseSafe.exclusive`), and a dispatch is owned at most once, by the owner that has the lease.
-/

namespace Frely.Application

open Frely.Billing Frely.Postgres Frely.RequestExecution Transaction

variable {initial : Table CreditAccount} {db db' : Database} {settings : Settings} {input : Input}

/-- Settings with the order of the characters as the collation, and every reference safe. -/
def plainSettings : Settings where
  userPaygoConcurrencyLimit := 10
  localeCompare := compare
  isSafeExternalEvidenceRef := fun _ => true
  concurrencyLimitCheck := by decide

/-- An environment without failures, whose identifiers start with a seed. -/
def plainEnvironment (seed : String) (now : Timestamp) : Environment :=
  ⟨now, fun n => seed ++ String.ofList (List.replicate n 'i'), none⟩

/-! ### The commands on leases -/

/-- What a request for a lease answers: a lease that no other owner stands against, or nothing. -/
inductive LeaseAnswered (db : Database) (requestId ownerId : String) (now : Timestamp) :
    Result Answer × Database → Prop where
  | refused (failure : Failure RelayError) :
      LeaseAnswered db requestId ownerId now (.error failure, db)
  | granted (lease : RequestExecutionLease) (hrequest : lease.requestId = requestId)
      (howner : lease.ownerId = ownerId) (huntil : now < lease.leaseUntil)
      (hfree : ∀ other, db.requestExecutionLeases.find? requestId = some other →
        other.ownerId = ownerId ∨ other.leaseUntil ≤ now) :
      LeaseAnswered db requestId ownerId now (.ok (.lease lease),
        { db with requestExecutionLeases := db.requestExecutionLeases.put lease })

theorem acquireLease_answered {requestId ownerId : String} {leaseTtlSeconds : Int}
    (hcommand : input.command = .acquireLease requestId ownerId leaseTtlSeconds) :
    LeaseAnswered db requestId ownerId input.environment.now (step settings input db) := by
  unfold step
  simp only [hcommand]
  rcases execute_cases input.environment db .lease
    (acquireRequestExecutionLease requestId ownerId leaseTtlSeconds input.environment.now) with
    ⟨failure, hrun⟩ | ⟨lease, s', hok, hrun⟩
  · rw [hrun]
    exact .refused failure
  · obtain ⟨hrequest, howner, huntil, hfree, hset⟩ := acquireRequestExecutionLease_eq_ok hok
    rw [hrun, hset]
    exact .granted lease hrequest howner huntil hfree

/-- A renewal is for the owner that holds the lease. -/
theorem renewLease_answered {requestId ownerId : String} {leaseTtlSeconds : Int}
    (hcommand : input.command = .renewLease requestId ownerId leaseTtlSeconds) :
    LeaseAnswered db requestId ownerId input.environment.now (step settings input db) ∧
      ((∃ failure, step settings input db = (.error failure, db)) ∨
        ∃ held, HoldsLease db requestId ownerId input.environment.now held) := by
  unfold step
  simp only [hcommand]
  rcases execute_cases input.environment db .lease
    (renewRequestExecutionLease requestId ownerId leaseTtlSeconds input.environment.now) with
    ⟨failure, hrun⟩ | ⟨lease, s', hok, hrun⟩
  · rw [hrun]
    exact ⟨.refused failure, .inl ⟨failure, rfl⟩⟩
  · obtain ⟨hrequest, howner, huntil, ⟨held, hholds⟩, hset⟩ :=
      renewRequestExecutionLease_eq_ok hok
    rw [hrun, hset]
    refine ⟨.granted lease hrequest howner huntil ?_, .inr ⟨held, hholds⟩⟩
    intro other hother
    cases hholds.1.symm.trans hother
    exact .inl hholds.2.1

/-- What giving a lease back answers. -/
inductive LeaseReleased (db : Database) (requestId ownerId : String) :
    Result Answer × Database → Prop where
  | failed (failure : Failure RelayError)
      (hheld : ∃ lease, db.requestExecutionLeases.find? requestId = some lease ∧
        lease.ownerId = ownerId) :
      LeaseReleased db requestId ownerId (.error failure, db)
  | nothing : LeaseReleased db requestId ownerId (.ok (.released false), db)
  | released (hheld : ∃ lease, db.requestExecutionLeases.find? requestId = some lease ∧
        lease.ownerId = ownerId) :
      LeaseReleased db requestId ownerId (.ok (.released true),
        { db with requestExecutionLeases := db.requestExecutionLeases.erase requestId })

theorem releaseLease_released {requestId ownerId : String}
    (hcommand : input.command = .releaseLease requestId ownerId) :
    LeaseReleased db requestId ownerId (step settings input db) := by
  unfold step
  simp only [hcommand]
  rcases execute_cases input.environment db .released
    (releaseRequestExecutionLease requestId ownerId) with ⟨failure, hrun⟩ |
      ⟨released, s', hok, hrun⟩
  · rw [hrun]
    apply LeaseReleased.failed
    -- only the write of an owner can fail
    by_contra hnot
    have hany : ¬(db.requestExecutionLeases.find? requestId).any (·.ownerId = ownerId) := by
      intro hany
      obtain ⟨lease, hlease, howner⟩ := (Option.any_eq_true _ _).mp hany
      exact hnot ⟨lease, hlease, of_decide_eq_true howner⟩
    have hok : releaseRequestExecutionLease requestId ownerId (input.environment.session db) =
        .ok (false, input.environment.session db) := by
      unfold releaseRequestExecutionLease
      refine run_read_bind.mpr ⟨false, ?_, run_pure.mpr ⟨rfl, rfl⟩⟩
      exact congrArg Except.ok (Bool.eq_false_iff.mpr hany)
    unfold execute at hrun
    rw [commit_of_ok hok] at hrun
    cases congrArg Prod.fst hrun
  · rcases releaseRequestExecutionLease_eq_ok hok with ⟨rfl, hsame⟩ | ⟨hheld, rfl, hset⟩
    · rw [hrun, hsame]
      exact .nothing
    · rw [hrun, hset]
      exact .released hheld

/-- Every other command leaves the leases alone. -/
theorem Transition.keeps_leases (h : Transition input db db') (hcommand : ¬input.command.isLease) :
    db'.requestExecutionLeases = db.requestExecutionLeases := by
  cases h with
  | idle => rfl
  | leased leases hlease => exact absurd hlease hcommand
  | logged row haccepts => rfl
  | reconfigured configuration hcommand' => rfl
  | admittedProtected command hcommand' id _ hadmitted =>
    obtain ⟨admission, execution, db₁, usageReservationId, hadmissible, hpersisted, hoccupied⟩ :=
      hadmitted
    rw [hoccupied.frame, hpersisted.frame]
  | admittedCpaBasic command hcommand' id _ hadmitted =>
    obtain ⟨admission, execution, hadmissible, hpersisted⟩ := hadmitted
    rw [hpersisted.frame]
  | dispatched attempt _ hpending hupdated => rw [hupdated.frame]
  | suspended _ hsuspended =>
    obtain ⟨old, new, costExposure, now, db₁, _, hsuspends, hupdated, hmarked⟩ := hsuspended
    have hframe := hupdated.frame
    cases hmarked with
    | nothing hclosed => rw [hframe]
    | reconciling reservation hfind hopen => rw [hframe]
  | settled command zeroReservationOutcome now fact _ hfinal =>
    obtain ⟨attempt, expected, conflict, db₁, _, hfind, hunsettled, hexpected, hsettled,
      hupdated⟩ := hfinal
    rw [hupdated.frame, hsettled.frame]
  | failed executions harbitrated => rfl

/-! ### Grants -/

/-- The lease each owner was granted last for a request and has not given back. -/
abbrev Grants := String → String → Option RequestExecutionLease

/-- The grants after one more answer to an owner. -/
def Grants.set (grants : Grants) (requestId ownerId : String)
    (lease : Option RequestExecutionLease) : Grants := fun requestId' ownerId' =>
  if requestId' = requestId ∧ ownerId' = ownerId then lease else grants requestId' ownerId'

/-- What an owner makes of the answer to its command. -/
def Grants.answered (grants : Grants) (command : Command) (output : Result Answer) : Grants :=
  match command, output with
  | .acquireLease requestId ownerId _, .ok (.lease lease) =>
    grants.set requestId ownerId (some lease)
  | .renewLease requestId ownerId _, .ok (.lease lease) =>
    grants.set requestId ownerId (some lease)
  | .releaseLease requestId ownerId, .ok (.released true) => grants.set requestId ownerId none
  | _, _ => grants

abbrev TakenStep := Machine.Step Input (Result Answer) Database

/-- The grants after the steps of a run. -/
def grantsOf (steps : List TakenStep) : Grants :=
  steps.foldl (fun grants taken => grants.answered taken.input.command taken.output)
    fun _ _ => none

/-- A grant that has not run out is the lease of the request. -/
def GrantsHeld (now : Timestamp) (grants : Grants) (db : Database) : Prop :=
  ∀ requestId ownerId lease, grants requestId ownerId = some lease → now < lease.leaseUntil →
    HoldsLease db requestId ownerId now lease

namespace GrantsHeld

variable {now later : Timestamp} {grants : Grants} {requestId ownerId : String}

/-- Time passes, and the leases stay. -/
theorem mono (h : GrantsHeld now grants db) (htime : now ≤ later)
    (hleases : db'.requestExecutionLeases = db.requestExecutionLeases) :
    GrantsHeld later grants db' := by
  intro requestId ownerId lease hgrant huntil
  obtain ⟨hfind, howner, -⟩ := h requestId ownerId lease hgrant (htime.trans_lt huntil)
  exact ⟨hleases ▸ hfind, howner, huntil⟩

theorem granted (h : GrantsHeld now grants db) (htime : now ≤ later) {lease : RequestExecutionLease}
    (hrequest : lease.requestId = requestId) (howner : lease.ownerId = ownerId)
    (hfree : ∀ other, db.requestExecutionLeases.find? requestId = some other →
      other.ownerId = ownerId ∨ other.leaseUntil ≤ later) :
    GrantsHeld later (grants.set requestId ownerId (some lease))
      { db with requestExecutionLeases := db.requestExecutionLeases.put lease } := by
  intro requestId' ownerId' lease' hgrant huntil
  have hput := Table.sets_put db.requestExecutionLeases lease
  by_cases hsame : requestId' = requestId ∧ ownerId' = ownerId
  · obtain ⟨rfl, rfl⟩ := hsame
    have hgranted : lease = lease' := by
      rw [Grants.set, if_pos ⟨rfl, rfl⟩] at hgrant
      exact Option.some.inj hgrant
    subst hgranted
    refine ⟨?_, howner, huntil⟩
    rw [← hrequest]
    exact hput.find?_self
  · rw [Grants.set, if_neg hsame] at hgrant
    obtain ⟨hfind, howner', -⟩ := h requestId' ownerId' lease' hgrant (htime.trans_lt huntil)
    have hother : requestId' ≠ requestId := by
      -- the grant of another owner would have run out
      rintro rfl
      rcases hfree lease' hfind with howned | hexpired
      · exact hsame ⟨rfl, howner'.symm.trans howned⟩
      · exact absurd huntil (not_lt.mpr hexpired)
    refine ⟨?_, howner', huntil⟩
    have hkey : requestId' ≠ Keyed.key lease := fun heq => hother (heq.trans hrequest)
    exact (hput.find?_of_ne hkey).trans hfind

theorem released (h : GrantsHeld now grants db) (htime : now ≤ later)
    (hheld : ∃ lease, db.requestExecutionLeases.find? requestId = some lease ∧
      lease.ownerId = ownerId) :
    GrantsHeld later (grants.set requestId ownerId none)
      { db with requestExecutionLeases := db.requestExecutionLeases.erase requestId } := by
  intro requestId' ownerId' lease' hgrant huntil
  rw [Grants.set] at hgrant
  split_ifs at hgrant with hsame
  obtain ⟨hfind, howner', -⟩ := h requestId' ownerId' lease' hgrant (htime.trans_lt huntil)
  have hother : requestId' ≠ requestId := by
    rintro rfl
    obtain ⟨lease, hlease, howner⟩ := hheld
    cases hlease.symm.trans hfind
    exact hsame ⟨rfl, howner'.symm.trans howner⟩
  refine ⟨?_, howner', huntil⟩
  change (db.requestExecutionLeases.erase requestId).find? requestId' = some lease'
  rw [Table.find?_erase, if_neg hother]
  exact hfind

/-- **One step.** The answers of a step tell the owners what the table says. -/
theorem answered (h : GrantsHeld now grants db) (hdb : Coherent initial db)
    (htime : now ≤ input.environment.now) :
    GrantsHeld input.environment.now
      (grants.answered input.command (step settings input db).1) (step settings input db).2 := by
  have hkeeps : ¬input.command.isLease →
      (step settings input db).2.requestExecutionLeases = db.requestExecutionLeases :=
    (hdb.transition settings input).keeps_leases
  cases hcommand : input.command with
  | acquireLease requestId ownerId leaseTtlSeconds =>
    have hanswered := @acquireLease_answered db settings input _ _ _ hcommand
    generalize step settings input db = result at hanswered ⊢
    cases hanswered with
    | refused failure => exact h.mono htime rfl
    | granted lease hrequest howner huntil hfree => exact h.granted htime hrequest howner hfree
  | renewLease requestId ownerId leaseTtlSeconds =>
    have hanswered := (@renewLease_answered db settings input _ _ _ hcommand).1
    generalize step settings input db = result at hanswered ⊢
    cases hanswered with
    | refused failure => exact h.mono htime rfl
    | granted lease hrequest howner huntil hfree => exact h.granted htime hrequest howner hfree
  | releaseLease requestId ownerId =>
    have hreleased := @releaseLease_released db settings input _ _ hcommand
    generalize step settings input db = result at hreleased ⊢
    cases hreleased with
    | failed failure hheld => exact h.mono htime rfl
    | nothing => exact h.mono htime rfl
    | released hheld => exact h.released htime hheld
  | _ => exact h.mono htime (hkeeps (hcommand ▸ not_false))

end GrantsHeld

/-! ### Dispatch -/

variable {id : String}

/-- A step that answers `owned: true` for an attempt. -/
def answersOwned (id : String) (taken : TakenStep) : Bool :=
  match taken.input.command, taken.output with
  | .assertDispatchOwnership providerAttemptId _ _, .ok (.owned true) => providerAttemptId = id
  | _, _ => false

theorem answersOwned_iff {taken : TakenStep} :
    answersOwned id taken ↔ ∃ requestId ownerId,
      taken.input.command = .assertDispatchOwnership id requestId ownerId ∧
        taken.output = .ok (.owned true) := by
  unfold answersOwned
  split
  · next providerAttemptId requestId ownerId hcommand houtput =>
      rw [decide_eq_true_eq, hcommand]
      constructor
      · rintro rfl
        exact ⟨requestId, ownerId, rfl, houtput⟩
      · rintro ⟨_, _, heq, -⟩
        cases heq
        rfl
  · next hnot =>
      constructor
      · intro hfalse
        cases hfalse
      · rintro ⟨requestId, ownerId, hcommand, houtput⟩
        exact (hnot id requestId ownerId hcommand houtput).elim

/-- What a step that answers `owned: true` found and left. -/
theorem owned_of_step {requestId ownerId : String}
    (hcommand : input.command = .assertDispatchOwnership id requestId ownerId)
    (howned : (step settings input db).1 = .ok (.owned true)) :
    ∃ attempt execution lease, dispatchState db id requestId = some (attempt, execution, lease) ∧
      ownsDispatch attempt execution lease ownerId input.environment.now ∧
      UpdatedAttempt db attempt (dispatchedAttempt attempt) (step settings input db).2 := by
  unfold step at howned ⊢
  simp only [hcommand] at howned ⊢
  rcases execute_cases input.environment db .owned
    (assertDispatchOwnership id requestId ownerId input.environment.now) with
    ⟨failure, hrun⟩ | ⟨owned, s', hok, hrun⟩
  · rw [hrun] at howned
    cases howned
  · rw [hrun] at howned ⊢
    cases howned
    have hasserted := assertDispatchOwnership_eq_ok hok
    cases hasserted with
    | owned attempt execution lease hstate howns _ hupdated =>
      exact ⟨attempt, execution, lease, hstate, howns, hupdated⟩

/-- An attempt that has been dispatched or given up. -/
def Started (id : String) (db : Database) : Prop :=
  ∃ attempt, db.requestProviderAttempts.find? id = some attempt ∧
    attempt.costExposure ≠ .notStarted

theorem CoreChange.keeps_started (h : CoreChange db db') (hstarted : Started id db) :
    Started id db' := by
  obtain ⟨attempt, hfind, hexposure⟩ := hstarted
  rcases h.keeps_attempt hfind with hsame | ⟨new, hnew, hchange⟩
  · exact ⟨attempt, hsame, hexposure⟩
  · exact ⟨new, hnew, hchange.costExposure_ne⟩

theorem step_keeps_started (input : Input) (db : Database) (hdb : Coherent initial db)
    (hstarted : Started id db) : Started id (step settings input db).2 :=
  (hdb.transition settings input).coreChange.keeps_started hstarted

/-- A dispatch is owned only before the attempt started, and starts it. -/
theorem not_started_of_owned (input : Input) (db : Database)
    (howned : answersOwned id (Machine.stepOf (step settings) db input)) :
    ¬Started id db ∧ Started id (step settings input db).2 := by
  obtain ⟨requestId, ownerId, hcommand, houtput⟩ := answersOwned_iff.mp howned
  obtain ⟨attempt, execution, lease, hstate, howns, hupdated⟩ := owned_of_step hcommand houtput
  have hfind := (dispatchState_eq_some hstate).1
  constructor
  · rintro ⟨found, hfound, hexposure⟩
    cases hfind.symm.trans hfound
    exact hexposure howns.2.2.2.2.2.2
  · have hid : attempt.id = id := Table.key_of_find? hfind
    refine ⟨dispatchedAttempt attempt, ?_, ProviderCostExposure.noConfusion⟩
    rw [← hid]
    exact hupdated.attempts.find?_self

/-- **At most once.** An attempt is owned by at most one dispatch of a run. -/
theorem owned_at_most_once (hdb : Coherent initial db) (inputs : List Input) (id : String) :
    (Machine.trace (step settings) db inputs).countP (answersOwned id) ≤ 1 :=
  @Machine.countP_le_one Input (Result Answer) Database (step settings) (Coherent initial)
    (Started id) (answersOwned id) (fun _ _ => step_coherent) step_keeps_started
    (fun input db _ howned => (not_started_of_owned input db howned).1)
    (fun input db _ howned => (not_started_of_owned input db howned).2) db hdb inputs

/-- A started attempt is not owned any more. -/
theorem never_owned_of_started (hdb : Coherent initial db) (hstarted : Started id db)
    (inputs : List Input) :
    (Machine.trace (step settings) db inputs).countP (answersOwned id) = 0 :=
  @Machine.countP_eq_zero Input (Result Answer) Database (step settings) (Coherent initial)
    (Started id) (answersOwned id) (fun _ _ => step_coherent) step_keeps_started
    (fun input db _ howned => (not_started_of_owned input db howned).1) db hdb hstarted inputs

/-- An attempt that was owned has started. -/
theorem started_of_owned (hdb : Coherent initial db) {inputs : List Input}
    (howned : ∃ taken ∈ Machine.trace (step settings) db inputs, answersOwned id taken) :
    Started id (Machine.final (step settings) db inputs) :=
  @Machine.flag_of_event Input (Result Answer) Database (step settings) (Coherent initial)
    (Started id) (answersOwned id) (fun _ _ => step_coherent) step_keeps_started
    (fun input db _ howned => (not_started_of_owned input db howned).2) db hdb inputs howned

/-! ### Runs -/

/-- What a run, from a database and a time on, says about leases and dispatches. -/
structure LeaseSafe (settings : Settings) (db : Database) (now : Timestamp) (inputs : List Input) :
    Prop where
  /-- a dispatch is owned at most once -/
  once : ∀ id, (Machine.trace (step settings) db inputs).countP (answersOwned id) ≤ 1
  /-- and only by the owner that has the lease of the request -/
  holder : ∀ taken ∈ Machine.trace (step settings) db inputs, ∀ id requestId ownerId,
    taken.input.command = .assertDispatchOwnership id requestId ownerId →
    taken.output = .ok (.owned true) →
    ∃ attempt lease, taken.before.requestProviderAttempts.find? id = some attempt ∧
      attempt.identity.requestId = requestId ∧
      HoldsLease taken.before requestId ownerId taken.input.environment.now lease ∧
      HoldsLease taken.after requestId ownerId taken.input.environment.now lease
  /-- a grant that has not run out is the lease of the request -/
  held : ∀ later, Machine.lastTime (·.environment.now) now inputs ≤ later →
    GrantsHeld later (grantsOf (Machine.trace (step settings) db inputs))
      (Machine.final (step settings) db inputs)
  /-- two owners never both have one -/
  exclusive : ∀ later, Machine.lastTime (·.environment.now) now inputs ≤ later →
    ∀ requestId ownerId ownerId' lease lease',
      grantsOf (Machine.trace (step settings) db inputs) requestId ownerId = some lease →
      grantsOf (Machine.trace (step settings) db inputs) requestId ownerId' = some lease' →
      later < lease.leaseUntil → later < lease'.leaseUntil → ownerId = ownerId'
  /-- a renewal by anyone but the holder fails -/
  renewal : ∀ taken ∈ Machine.trace (step settings) db inputs, ∀ requestId ownerId leaseTtlSeconds,
    taken.input.command = .renewLease requestId ownerId leaseTtlSeconds →
    (¬∃ lease, HoldsLease taken.before requestId ownerId taken.input.environment.now lease) →
    (∃ failure, taken.output = .error failure) ∧ taken.after = taken.before
  /-- and so does a release by anyone but the owner -/
  release : ∀ taken ∈ Machine.trace (step settings) db inputs, ∀ requestId ownerId,
    taken.input.command = .releaseLease requestId ownerId →
    (∀ lease, taken.before.requestExecutionLeases.find? requestId = some lease →
      lease.ownerId ≠ ownerId) →
    taken.output = .ok (.released false) ∧ taken.after = taken.before

theorem grantsHeld_final (hdb : Coherent initial db) {now : Timestamp} {inputs : List Input}
    (htime : Machine.Timed (·.environment.now) now inputs) :
    GrantsHeld (Machine.lastTime (·.environment.now) now inputs)
      (grantsOf (Machine.trace (step settings) db inputs))
      (Machine.final (step settings) db inputs) := by
  have hrun := @Machine.timed Input (Result Answer) Database (step settings) Grants
    (·.environment.now) (fun grants taken => grants.answered taken.input.command taken.output)
    (fun now grants db => GrantsHeld now grants db ∧ Coherent initial db) (fun _ => True)
    (fun now input grants db hinv htime _ =>
      ⟨hinv.1.answered hinv.2 htime, step_coherent hinv.2⟩)
    now (fun _ _ => none) db ⟨fun _ _ _ hgrant => (nomatch hgrant), hdb⟩ inputs htime
    fun _ _ => trivial
  exact hrun.1

/-- **Dispatch under a lease.** Whatever the owners send, in any order, while time does not go
back. -/
theorem dispatch_under_lease (settings : Settings) (configuration : Configuration)
    (creditAccounts : Table CreditAccount) (requestLogs : Table RequestLog) (now : Timestamp)
    (inputs : List Input) (htime : Machine.Timed (·.environment.now) now inputs) :
    LeaseSafe settings (initialDatabase configuration creditAccounts requestLogs) now inputs := by
  have hdb := initialDatabase_coherent configuration creditAccounts requestLogs
  -- the one invariant of the run: a lease that was granted and has time left is still the row
  have hheld : ∀ later, Machine.lastTime (·.environment.now) now inputs ≤ later →
      GrantsHeld later _ _ := fun later hlater =>
    (@grantsHeld_final _ _ settings hdb now inputs htime).mono hlater rfl
  constructor
  · exact owned_at_most_once hdb inputs
  · intro taken htaken id requestId ownerId hcommand houtput
    obtain ⟨hbefore, htransition⟩ := transition_of_mem hdb htaken
    have hleases := htransition.keeps_leases (hcommand ▸ not_false)
    rw [Machine.eq_stepOf_of_mem htaken] at houtput
    obtain ⟨attempt, execution, lease, hstate, howns, -⟩ := owned_of_step hcommand houtput
    obtain ⟨hfind, hrequest, -, hlease⟩ := dispatchState_eq_some hstate
    obtain ⟨-, -, -, -, howner, huntil, -⟩ := howns
    exact ⟨attempt, lease, hfind, hrequest, ⟨hlease, howner, huntil⟩,
      ⟨hleases ▸ hlease, howner, huntil⟩⟩
  · exact hheld
  · intro later hlater requestId ownerId ownerId' lease lease' hgrant hgrant' huntil huntil'
    obtain ⟨hfind, rfl, -⟩ := hheld later hlater requestId ownerId lease hgrant huntil
    obtain ⟨hfind', rfl, -⟩ := hheld later hlater requestId ownerId' lease' hgrant' huntil'
    cases hfind.symm.trans hfind'
    rfl
  · intro taken htaken requestId ownerId leaseTtlSeconds hcommand hnot
    rcases (@renewLease_answered taken.before settings taken.input _ _ _ hcommand).2 with
      ⟨failure, hstep⟩ | hholds
    · rw [Machine.eq_stepOf_of_mem htaken]
      exact ⟨⟨failure, congrArg Prod.fst hstep⟩, congrArg Prod.snd hstep⟩
    · exact absurd hholds hnot
  · intro taken htaken requestId ownerId hcommand hnot
    have hreleased := @releaseLease_released taken.before settings taken.input _ _ hcommand
    rw [Machine.eq_stepOf_of_mem htaken]
    change (step settings taken.input taken.before).1 = _ ∧
      (step settings taken.input taken.before).2 = _
    generalize step settings taken.input taken.before = result at hreleased ⊢
    cases hreleased with
    | failed failure hheld =>
      obtain ⟨lease, hlease, howner⟩ := hheld
      exact absurd howner (hnot lease hlease)
    | nothing => exact ⟨rfl, rfl⟩
    | released hheld =>
      obtain ⟨lease, hlease, howner⟩ := hheld
      exact absurd howner (hnot lease hlease)

/-! ### A lease that is taken over -/

/-- A price of one unit for each output token. -/
def unitOutputPrice : InvocationPriceProfileInput where
  inputPriceUnitsPer1M := 0
  cachedInputPriceUnitsPer1M := 0
  cacheWritePriceUnitsPer1M := none
  outputPriceUnitsPer1M := 1000000
  status := "enabled"
  tiers := []

/-- A catalogue with one Plan, on one AccessPoint that leads to one Provider model. -/
def plainConfiguration (billingMode : String) : Configuration where
  planSubscriptions := [⟨"subscription", "plan", "user:user", 0, none, "active"⟩]
  plans := [⟨"plan", "global:", billingMode, "enabled"⟩]
  apiKeys := [⟨"key", "user", "enabled", none, none⟩]
  userControls := [⟨"user", "enabled"⟩]
  accessPoints := [⟨"point", "global:", "enabled", none, "direct", 1, 1⟩]
  accessPointTargets := [⟨"edge", "point", .providerModel, none, some "provider", some "name",
    some "model", "enabled", none⟩]
  providerModels := [⟨"model", "provider", "name", "enabled"⟩]
  providers := [⟨"provider", "global:", "enabled"⟩]
  providerBindings := [⟨"provider", "ready"⟩]
  accessPointPrices := [{ unitOutputPrice with id := "price", accessPointId := "point" }]
  providerModelCosts := [{ unitOutputPrice with
    id := "cost", providerId := "provider", providerModelName := "name" }]
  planAccessPoints := [⟨"plan", "point"⟩]

/-- The first attempt of a request, over its path. -/
def plainIdentity (requestId : String) : ProviderAttemptAdmissionIdentity where
  requestId := requestId
  executionOwnerId := "owner"
  attemptIndex := 0
  candidate := ⟨"candidate", "model", "provider", "name"⟩
  routing := ⟨"point", "direct", 1, 1, [⟨"point", 1⟩], "edge", ["edge"], ["point"]⟩

/-- A protected admission that claims as many units as output tokens. -/
def plainAdmission (requestId : String) (maxOutputTokens : Int)
    (usageChargeAccountId : Option String) : AdmitProviderInvocationCommand :=
  { plainIdentity requestId with
    planId := "plan"
    planSubscriptionId := "subscription"
    apiKeyId := "key"
    userId := "user"
    inputTokens := 0
    maxOutputTokens := maxOutputTokens
    tokenizerId := "tokenizer"
    tokenizerVersion := 1
    preparationEvidenceId := "evidence"
    preparationEvidenceVersion := 1
    preparedPayloadId := "payload"
    serviceTier := "standard"
    billablePriceSource := .accessPoint
    billablePriceId := "price"
    providerModelCostId := "cost"
    accessPointPriceIds := ["price"]
    usageChargeAccountId := usageChargeAccountId }

def plainLog (requestId : String) : RequestLog :=
  ⟨requestId, "key", "user", some "plan", some "subscription", some "point", some "user:user", none⟩

def plainAccount (balanceSnapUnits : Int) : CreditAccount :=
  ⟨"account", "user:user", "active", balanceSnapUnits, none, none, 0⟩

/-- A database with one account and the logs of some requests. -/
def plainDatabase (configuration : Configuration) (balanceSnapUnits : Int)
    (requestIds : List String) : Database :=
  initialDatabase configuration (Table.empty.put (plainAccount balanceSnapUnits))
    (requestIds.foldl (fun logs requestId => logs.put (plainLog requestId)) Table.empty)

/-- A request that is admitted and dispatched; then the lease runs out and another owner takes
it. -/
def takenOverInputs : List Input := [
  ⟨plainEnvironment "1" 1, .acquireLease "request" "owner" 2⟩,
  ⟨plainEnvironment "2" 2, .admitProtected (plainAdmission "request" 100 (some "account"))⟩,
  ⟨plainEnvironment "3" 3, .assertDispatchOwnership "provider_attempt_2" "request" "owner"⟩,
  ⟨plainEnvironment "4" 3000, .acquireLease "request" "other" 60⟩,
  ⟨plainEnvironment "5" 3001, .assertDispatchOwnership "provider_attempt_2" "request" "other"⟩,
  ⟨plainEnvironment "6" 3002, .renewLease "request" "owner" 60⟩]

theorem dispatch_under_lease_twoOwners :
    LeaseSafe plainSettings (plainDatabase (plainConfiguration "paygo") 100 ["request"]) 0
        takenOverInputs ∧
      (Machine.trace (step plainSettings)
          (plainDatabase (plainConfiguration "paygo") 100 ["request"])
        takenOverInputs).countP (answersOwned "provider_attempt_2") = 1 ∧
      ((Machine.final (step plainSettings)
          (plainDatabase (plainConfiguration "paygo") 100 ["request"])
        takenOverInputs).requestExecutionLeases.find? "request").map (·.ownerId) = some "other" :=
  ⟨dispatch_under_lease plainSettings (plainConfiguration "paygo") _ _ 0 takenOverInputs
    (by decide),
    by decide +kernel, by decide +kernel⟩

end Frely.Application
