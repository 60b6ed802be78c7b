import Frely.Application.TaskLeases
import Frely.Lib.Machine

/-!
# Task leases fence stale owners

`grantedUntil` is until when the statements of a run have given each holder its lease.  In a run
whose time does not go back, whoever has a lease that has not run out is the holder of the row
(`GrantsHeld`), and the token of a row only grows (`Fenced`), so that a statement that a holder
before the last one guards finds no row.
-/

namespace Frely.TaskLeases

open Checked Frely.SellerSettlement Machine Transaction

abbrev LeaseStep := Step LeaseInput LeaseOutput LeaseDatabase

/-- A task with one of its owners and the token of its lease. -/
structure LeaseHolder where
  taskKey : String
  ownerId : String
  fencingToken : Int
deriving DecidableEq

def TaskLeaseRow.holder (row : TaskLeaseRow) : LeaseHolder :=
  ⟨row.taskKey, row.ownerId, row.fencingToken⟩

def PostgresTaskLease.holder (lease : PostgresTaskLease) : LeaseHolder :=
  ⟨lease.taskKey, lease.ownerId, lease.fencingToken⟩

/-- Until when each holder has its lease after a step, from what the step answered. -/
def recordGrant (granted : LeaseHolder → Int) (t : LeaseStep) : LeaseHolder → Int :=
  match t.input.command, t.output with
  | _, .granted row _ => Function.update granted row.holder row.leaseUntilMs
  | .release lease, .done => Function.update granted lease.holder 0
  | _, _ => granted

/-- Until when each holder has been granted its lease. -/
def grantedUntil (steps : List LeaseStep) : LeaseHolder → Int :=
  steps.foldl recordGrant fun _ => 0

/-- The row that an `acquire` wrote. -/
def acquired (t : LeaseStep) : Option TaskLeaseRow :=
  match t.input.command, t.output with
  | .acquire _, .granted row _ => some row
  | _, _ => none

/-! ### What the statements return -/

variable {row : TaskLeaseRow} {lease : PostgresTaskLease} {leases : Table TaskLeaseRow}
  {nowMs : Int} {input : AcquirePostgresTaskLeaseInput}

theorem findOwned_eq_some : findOwned leases lease = some row ↔
      leases.find? lease.taskKey = some row ∧ row.holder = lease.holder := by
  unfold findOwned
  rw [Option.filter_eq_some_iff]
  constructor
  · rintro ⟨hfind, howned⟩
    have hkey : row.taskKey = lease.taskKey := Table.key_of_find? hfind
    obtain ⟨howner, htoken⟩ := of_decide_eq_true howned
    refine ⟨hfind, ?_⟩
    rw [TaskLeaseRow.holder, hkey, howner, htoken]
    rfl
  · rintro ⟨hfind, hholder⟩
    exact ⟨hfind, decide_eq_true ⟨congrArg LeaseHolder.ownerId hholder,
      congrArg LeaseHolder.fencingToken hholder⟩⟩

theorem findHeld_eq_some : findHeld leases lease nowMs = some row ↔
      leases.find? lease.taskKey = some row ∧ row.holder = lease.holder ∧
        nowMs < row.leaseUntilMs := by
  unfold findHeld
  rw [Option.filter_eq_some_iff, findOwned_eq_some, decide_eq_true_eq, and_assoc]

/-- A lease is taken when there is none or the one there has run out. -/
theorem acquireRow_eq_some (h : acquireRow leases input nowMs = some row) :
    row.taskKey = input.taskKey ∧ row.ownerId = input.ownerId ∧
      ∀ old, leases.find? input.taskKey = some old →
        old.leaseUntilMs ≤ nowMs ∧ old.fencingToken < row.fencingToken := by
  unfold acquireRow at h
  split at h
  · next hfind =>
      cases h
      refine ⟨rfl, rfl, fun old hold => ?_⟩
      rw [hfind] at hold
      cases hold
  · next old hfind =>
      have hkey : old.taskKey = input.taskKey := Table.key_of_find? hfind
      split at h
      · next hexpired =>
          cases h
          refine ⟨hkey, rfl, fun old' hold' => ?_⟩
          obtain rfl := Option.some.inj (hfind.symm.trans hold')
          exact ⟨hexpired, Int.lt_succ old.fencingToken⟩
      · cases h

theorem renewRow_eq_some {leaseDurationMs : Int}
    (h : renewRow leases lease leaseDurationMs nowMs = some row) :
    row.holder = lease.holder ∧
      ∃ old, leases.find? lease.taskKey = some old ∧ old.holder = lease.holder ∧
        nowMs < old.leaseUntilMs := by
  obtain ⟨old, hheld, rfl⟩ := Option.map_eq_some_iff.mp h
  obtain ⟨hfind, hholder, huntil⟩ := findHeld_eq_some.mp hheld
  exact ⟨hholder, old, hfind, hholder, huntil⟩

theorem releaseRow_eq_some (h : releaseRow leases lease nowMs = some row) :
    row.holder = ⟨lease.taskKey, "", lease.fencingToken⟩ ∧ row.leaseUntilMs = 0 ∧
      ∃ old, leases.find? lease.taskKey = some old ∧ old.holder = lease.holder := by
  obtain ⟨old, howned, rfl⟩ := Option.map_eq_some_iff.mp h
  obtain ⟨hfind, hholder⟩ := findOwned_eq_some.mp howned
  refine ⟨?_, rfl, old, hfind, hholder⟩
  have hkey : old.taskKey = lease.taskKey := congrArg LeaseHolder.taskKey hholder
  have htoken : old.fencingToken = lease.fencingToken := congrArg LeaseHolder.fencingToken hholder
  simp only [TaskLeaseRow.holder, hkey, htoken]

/-! ### What a step does to the leases -/

/-- What a step answers and the leases it leaves. -/
inductive LeaseEffect (input : LeaseInput) (leases : Table TaskLeaseRow) :
    LeaseOutput → Table TaskLeaseRow → Prop where
  | failed (error : String) : LeaseEffect input leases (.failed error) leases
  | wrote (answer : Except (Failure SettlementError) Unit) :
      LeaseEffect input leases (.wrote answer) leases
  | took (acquireInput : AcquirePostgresTaskLeaseInput) (row : TaskLeaseRow)
      (hcommand : input.command = .acquire acquireInput) (howner : acquireInput.ownerId ≠ "")
      (hrow : acquireRow leases acquireInput input.nowMs = some row) :
      LeaseEffect input leases (.granted row (mapLease row)) (leases.put row)
  | renewed (lease : PostgresTaskLease) (leaseDurationMs : Int) (row : TaskLeaseRow)
      (hcommand : input.command = .renew lease leaseDurationMs) (howner : lease.ownerId ≠ "")
      (hrow : renewRow leases lease leaseDurationMs input.nowMs = some row) :
      LeaseEffect input leases (.granted row (mapLease row)) (leases.put row)
  | held (lease : PostgresTaskLease) (row : TaskLeaseRow)
      (hcommand : input.command = .assertHeld lease)
      (hrow : findHeld leases lease input.nowMs = some row) : LeaseEffect input leases .done leases
  | released (lease : PostgresTaskLease) (row : TaskLeaseRow)
      (hcommand : input.command = .release lease)
      (hrow : releaseRow leases lease input.nowMs = some row) :
      LeaseEffect input leases .done (leases.put row)

theorem owner_of_assertLeaseInput (h : assertLeaseInput input = .ok ()) : input.ownerId ≠ "" := by
  unfold assertLeaseInput at h
  obtain ⟨_, hidentity, -⟩ := bind_eq_ok.mp h
  exact fun howner => rejectIf_eq_ok.mp hidentity (.inr howner)

theorem leaseStep_effect (input : LeaseInput) (db : LeaseDatabase) :
    LeaseEffect input db.leases (leaseStep input db).1 (leaseStep input db).2.leases := by
  unfold leaseStep
  cases hcommand : input.command with
  | acquire acquireInput =>
    dsimp only [acquire]
    split
    · exact .failed _
    · next hinput =>
        split
        · exact .failed _
        · next row hrow =>
            exact .took acquireInput row hcommand (owner_of_assertLeaseInput hinput) hrow
  | renew lease leaseDurationMs =>
    dsimp only [renew]
    split
    · exact .failed _
    · next hinput =>
        split
        · exact .failed _
        · next row hrow =>
            exact .renewed lease leaseDurationMs row hcommand
              (owner_of_assertLeaseInput hinput) hrow
  | assertHeld lease =>
    dsimp only [assertHeld]
    split
    · exact .failed _
    · next row hrow => exact .held lease row hcommand hrow
  | release lease =>
    dsimp only [release]
    split
    · exact .failed _
    · next row hrow => exact .released lease row hcommand hrow
  | write statement lease stillHeld => exact .wrote _

/-! ### Grants and rows -/

/-- Whoever has a lease that has not run out is the holder of the task's row. -/
structure GrantsHeld (now : Int) (granted : LeaseHolder → Int) (leases : Table TaskLeaseRow) :
    Prop where
  held : ∀ key row, leases.find? key = some row → granted row.holder = row.leaseUntilMs
  owned : ∀ holder, now < granted holder →
    ∃ row, leases.find? holder.taskKey = some row ∧ row.holder = holder
  ownerless : ∀ holder, holder.ownerId = "" → granted holder = 0

namespace GrantsHeld

variable {now now' : Int} {granted granted' : LeaseHolder → Int} {leases : Table TaskLeaseRow}

theorem initial : GrantsHeld 0 (fun _ => 0) Table.empty where
  held key row hfind := by cases hfind
  owned holder hnow := absurd hnow (lt_irrefl 0)
  ownerless _ _ := rfl

theorem mono (h : GrantsHeld now granted leases) (hnow : now ≤ now') :
    GrantsHeld now' granted leases where
  held := h.held
  owned holder hholder := h.owned holder (lt_of_le_of_lt hnow hholder)
  ownerless := h.ownerless

/-- A new row for a task, whose holder alone has a lease on the task from now on. -/
theorem put (h : GrantsHeld now granted leases) (hnow : now ≤ now')
    (hrow : granted' row.holder = row.leaseUntilMs)
    (hothers : ∀ holder, holder.taskKey ≠ row.taskKey → granted' holder = granted holder)
    (hkey : ∀ holder, holder.taskKey = row.taskKey → now' < granted' holder → holder = row.holder)
    (hownerless : ∀ holder, holder.ownerId = "" → granted' holder = 0) :
    GrantsHeld now' granted' (leases.put row) := by
  refine ⟨fun key found hfind => ?_, fun holder hholder => ?_, hownerless⟩
  · rw [Table.find?_put] at hfind
    split at hfind
    · obtain rfl := Option.some.inj hfind
      exact hrow
    · next hne =>
        have hfound : found.taskKey = key := Table.key_of_find? hfind
        rw [hothers found.holder (by rw [← hfound] at hne; exact hne)]
        exact h.held key found hfind
  · rw [Table.find?_put]
    by_cases htask : holder.taskKey = row.taskKey
    · exact ⟨row, if_pos htask, (hkey holder htask hholder).symm⟩
    · rw [hothers holder htask] at hholder
      obtain ⟨found, hfind, hfound⟩ := h.owned holder (lt_of_le_of_lt hnow hholder)
      exact ⟨found, (if_neg htask).trans hfind, hfound⟩

/-- Taking a lease: the one that was there has run out. -/
theorem took (h : GrantsHeld now granted leases) (hnow : now ≤ now') (howner : input.ownerId ≠ "")
    (hrow : acquireRow leases input now' = some row) :
    GrantsHeld now' (Function.update granted row.holder row.leaseUntilMs) (leases.put row) := by
  obtain ⟨htask, hrowner, hold⟩ := acquireRow_eq_some hrow
  refine h.put hnow (Function.update_self ..) (fun holder hne => ?_) (fun holder heq hholder => ?_)
    fun holder hempty => ?_
  · exact Function.update_of_ne (fun hsame => hne (congrArg LeaseHolder.taskKey hsame)) ..
  · by_contra hne
    rw [Function.update_of_ne hne] at hholder
    obtain ⟨old, hfind, holdHolder⟩ := h.owned holder (lt_of_le_of_lt hnow hholder)
    have hexpired := (hold old (by rw [← htask, ← heq]; exact hfind)).1
    have hgranted := h.held _ old hfind
    rw [holdHolder] at hgranted
    omega
  · have hne : holder ≠ row.holder := by
      rintro rfl
      exact howner (hrowner.symm.trans hempty)
    rw [Function.update_of_ne hne]
    exact h.ownerless holder hempty

theorem renewed (h : GrantsHeld now granted leases) (hnow : now ≤ now') {leaseDurationMs : Int}
    (howner : lease.ownerId ≠ "") (hrow : renewRow leases lease leaseDurationMs now' = some row) :
    GrantsHeld now' (Function.update granted row.holder row.leaseUntilMs) (leases.put row) := by
  obtain ⟨hholder, old, hfind, hold, -⟩ := renewRow_eq_some hrow
  have htask : row.taskKey = lease.taskKey := congrArg LeaseHolder.taskKey hholder
  refine h.put hnow (Function.update_self ..) (fun other hne => ?_) (fun other heq hother => ?_)
    fun other hempty => ?_
  · exact Function.update_of_ne (fun hsame => hne (congrArg LeaseHolder.taskKey hsame)) ..
  · by_contra hne
    rw [Function.update_of_ne hne] at hother
    obtain ⟨found, hfound, hsame⟩ := h.owned other (lt_of_le_of_lt hnow hother)
    rw [heq, htask, hfind] at hfound
    obtain rfl := Option.some.inj hfound
    exact hne (hsame.symm.trans (hold.trans hholder.symm))
  · have hne : other ≠ row.holder := by
      rintro rfl
      exact howner ((congrArg LeaseHolder.ownerId hholder).symm.trans hempty)
    rw [Function.update_of_ne hne]
    exact h.ownerless other hempty

theorem released (h : GrantsHeld now granted leases) (hnow : now ≤ now') (hepoch : 0 ≤ now')
    (hrow : releaseRow leases lease now' = some row) :
    GrantsHeld now' (Function.update granted lease.holder 0) (leases.put row) := by
  obtain ⟨hholder, huntil, old, hfind, hold⟩ := releaseRow_eq_some hrow
  have htask : row.taskKey = lease.taskKey := congrArg LeaseHolder.taskKey hholder
  have hownerless : ∀ other : LeaseHolder, other.ownerId = "" →
      Function.update granted lease.holder 0 other = 0 := by
    intro other hempty
    by_cases hsame : other = lease.holder
    · rw [hsame, Function.update_self]
    · rw [Function.update_of_ne hsame]
      exact h.ownerless other hempty
  refine h.put hnow ?_ (fun other hne => ?_) (fun other heq hother => ?_) hownerless
  · rw [huntil]
    exact hownerless row.holder (congrArg LeaseHolder.ownerId hholder)
  · refine Function.update_of_ne (fun hsame => hne ?_) ..
    rw [hsame, htask]
    rfl
  · by_cases hsame : other = lease.holder
    · rw [hsame, Function.update_self] at hother
      omega
    · rw [Function.update_of_ne hsame] at hother
      obtain ⟨found, hfound, hfoundHolder⟩ := h.owned other (lt_of_le_of_lt hnow hother)
      rw [heq, htask, hfind] at hfound
      obtain rfl := Option.some.inj hfound
      exact absurd (hfoundHolder.symm.trans hold) hsame

end GrantsHeld

variable {granted : LeaseHolder → Int}

/-- One step keeps the grants and the rows together. -/
theorem GrantsHeld.step {now : Int} (input : LeaseInput) (db : LeaseDatabase)
    (h : GrantsHeld now granted db.leases) (hnow : now ≤ input.nowMs) :
    GrantsHeld input.nowMs (recordGrant granted (stepOf leaseStep db input))
      (leaseStep input db).2.leases := by
  have heffect := leaseStep_effect input db
  unfold recordGrant
  dsimp only [stepOf]
  revert heffect
  generalize (leaseStep input db).1 = output
  generalize (leaseStep input db).2.leases = leases'
  intro heffect
  cases heffect with
  | failed error => cases input.command <;> exact h.mono hnow
  | wrote answer => cases input.command <;> exact h.mono hnow
  | took acquireInput row hcommand howner hrow =>
    rw [hcommand]
    exact h.took hnow howner hrow
  | renewed lease leaseDurationMs row hcommand howner hrow =>
    rw [hcommand]
    exact h.renewed hnow howner hrow
  | held lease row hcommand hrow =>
    rw [hcommand]
    exact h.mono hnow
  | released lease row hcommand hrow =>
    rw [hcommand]
    exact h.released hnow (Int.natCast_nonneg _) hrow

theorem run_grantsHeld (settlements : SettlementDatabase) {inputs : List LeaseInput}
    (htime : Timed (fun input => (input.nowMs : Int)) 0 inputs) :
    GrantsHeld (lastTime (fun input => (input.nowMs : Int)) 0 inputs)
      (grantedUntil (trace leaseStep (.initial settlements) inputs))
      (final leaseStep (.initial settlements) inputs).leases :=
  @timed _ _ _ leaseStep _ _ recordGrant (fun now granted db => GrantsHeld now granted db.leases)
    (fun _ => True) (fun _ input _ db h hnow _ => h.step input db hnow) _ _ _ .initial _ htime
    fun _ _ => trivial

/-! ### Tokens -/

variable {current : TaskLeaseRow} {db : LeaseDatabase}

/-- The row that a step wrote for a holder. -/
def grantedRow (t : LeaseStep) : Option TaskLeaseRow :=
  match t.output with
  | .granted row _ => some row
  | _ => none

/-- The token of a task's row has reached the token of a row that a step wrote. -/
def TokenReached (t : LeaseStep) (db : LeaseDatabase) : Prop :=
  ∀ row, grantedRow t = some row →
    ∃ current, db.leases.find? row.taskKey = some current ∧ row.fencingToken ≤ current.fencingToken

/-- The token of a row that stands for another never goes down. -/
theorem tokens_put
    (hrow : ∀ old, leases.find? row.taskKey = some old → old.fencingToken ≤ row.fencingToken)
    {key : String} (hcurrent : leases.find? key = some current) :
    ∃ next, (leases.put row).find? key = some next ∧ current.fencingToken ≤ next.fencingToken := by
  rw [Table.find?_put]
  by_cases hkey : key = row.taskKey
  · exact ⟨row, if_pos hkey, hrow current (by rw [← hkey]; exact hcurrent)⟩
  · exact ⟨current, (if_neg hkey).trans hcurrent, le_rfl⟩

theorem tokens_step (input : LeaseInput) (db : LeaseDatabase) {key : String}
    (hcurrent : db.leases.find? key = some current) :
    ∃ next, (leaseStep input db).2.leases.find? key = some next ∧
      current.fencingToken ≤ next.fencingToken := by
  have heffect := leaseStep_effect input db
  revert heffect
  generalize (leaseStep input db).1 = output
  generalize (leaseStep input db).2.leases = leases'
  intro heffect
  cases heffect with
  | failed error => exact ⟨current, hcurrent, le_rfl⟩
  | wrote answer => exact ⟨current, hcurrent, le_rfl⟩
  | held lease row hcommand hrow => exact ⟨current, hcurrent, le_rfl⟩
  | took acquireInput row hcommand howner hrow =>
    obtain ⟨htask, -, hold⟩ := acquireRow_eq_some hrow
    exact tokens_put (fun old hfind => (hold old (by rw [← htask]; exact hfind)).2.le) hcurrent
  | renewed lease leaseDurationMs row hcommand howner hrow =>
    obtain ⟨hholder, old, hfind, hold, -⟩ := renewRow_eq_some hrow
    refine tokens_put (fun old' hfind' => ?_) hcurrent
    rw [show row.taskKey = lease.taskKey from congrArg LeaseHolder.taskKey hholder, hfind] at hfind'
    obtain rfl := Option.some.inj hfind'
    exact (congrArg LeaseHolder.fencingToken (hold.trans hholder.symm)).le
  | released lease row hcommand hrow =>
    obtain ⟨hholder, -, old, hfind, hold⟩ := releaseRow_eq_some hrow
    refine tokens_put (fun old' hfind' => ?_) hcurrent
    rw [show row.taskKey = lease.taskKey from congrArg LeaseHolder.taskKey hholder, hfind] at hfind'
    obtain rfl := Option.some.inj hfind'
    exact ((congrArg LeaseHolder.fencingToken hold).trans
      (congrArg LeaseHolder.fencingToken hholder).symm).le

theorem tokenReached_stepOf (input : LeaseInput) (db : LeaseDatabase) :
    TokenReached (stepOf leaseStep db input) (leaseStep input db).2 := by
  have heffect := leaseStep_effect input db
  intro row hrow
  unfold grantedRow at hrow
  dsimp only [stepOf] at hrow
  revert heffect hrow
  generalize (leaseStep input db).1 = output
  generalize (leaseStep input db).2.leases = leases'
  intro heffect hrow
  cases heffect with
  | failed error => cases hrow
  | wrote answer => cases hrow
  | held lease row hcommand hheld => cases hrow
  | released lease row hcommand hreleased => cases hrow
  | took acquireInput row' hcommand howner htook =>
    obtain rfl := Option.some.inj hrow
    exact ⟨row', (Table.find?_put ..).trans (if_pos rfl), le_rfl⟩
  | renewed lease leaseDurationMs row' hcommand howner hrenewed =>
    obtain rfl := Option.some.inj hrow
    exact ⟨row', (Table.find?_put ..).trans (if_pos rfl), le_rfl⟩

/-- The rows written for a task have tokens that later rows of the task reach. -/
theorem trace_tokenReached (db : LeaseDatabase) (inputs : List LeaseInput) :
    (trace leaseStep db inputs).Pairwise fun t t' => TokenReached t t'.before :=
  pairwise_trace tokenReached_stepOf (fun t input db hreached row hrow => by
    obtain ⟨current, hcurrent, hle⟩ := hreached row hrow
    obtain ⟨next, hnext, hle'⟩ := tokens_step input db hcurrent
    exact ⟨next, hnext, hle.trans hle'⟩) db inputs

/-- A lease that is taken has a token above the ones before. -/
theorem token_lt_of_acquired {t : LeaseStep} {input : LeaseInput} (hreached : TokenReached t db)
    {row' : TaskLeaseRow} (hrow : grantedRow t = some row)
    (hacquired : acquired (stepOf leaseStep db input) = some row')
    (htask : row.taskKey = row'.taskKey) : row.fencingToken < row'.fencingToken := by
  have heffect := leaseStep_effect input db
  unfold acquired at hacquired
  dsimp only [stepOf] at hacquired
  revert heffect hacquired
  generalize (leaseStep input db).1 = output
  generalize (leaseStep input db).2.leases = leases'
  intro hacquired heffect
  cases heffect with
  | took acquireInput taken hcommand howner htook =>
    rw [hcommand] at hacquired
    obtain rfl := Option.some.inj hacquired
    obtain ⟨hkey, -, hold⟩ := acquireRow_eq_some htook
    obtain ⟨current, hcurrent, hle⟩ := hreached row hrow
    exact lt_of_le_of_lt hle (hold current (by rw [← hkey, ← htask]; exact hcurrent)).2
  | failed error =>
    cases hcommand : input.command <;> rw [hcommand] at hacquired <;> cases hacquired
  | wrote answer =>
    cases hcommand : input.command <;> rw [hcommand] at hacquired <;> cases hacquired
  | held lease found hcommand hheld =>
    rw [hcommand] at hacquired
    cases hacquired
  | released lease found hcommand hreleased =>
    rw [hcommand] at hacquired
    cases hacquired
  | renewed lease leaseDurationMs found hcommand howner hrenewed =>
    rw [hcommand] at hacquired
    cases hacquired

/-! ### Guarded writes -/

/-- A statement that does not see its lease writes nothing. -/
theorem run_unguarded {statement : GuardedWrite} {view : LeaseView} (hview : view.held = false)
    {u : Unit} {s s' : Session SettlementDatabase} (h : statement.run view s = .ok (u, s')) :
    s'.database = s.database := by
  have hguarded : guarded (some view) = false := hview
  have assertHeld_same : ∀ {u : Unit} {s s' : Session SettlementDatabase},
      SellerSettlement.assertHeld (some view) s = .ok (u, s') → s' = s :=
    fun hheld => (check_eq_ok.mp hheld).2
  cases statement with
  | insertEvent input =>
    obtain ⟨event, s₁, hinsert, hpure⟩ := run_bind.mp h
    obtain ⟨-, rfl⟩ := run_pure.mp hpure
    obtain ⟨_, -, hinsert⟩ := run_check_bind.mp hinsert
    obtain ⟨_, -, hinsert⟩ := run_check_bind.mp hinsert
    obtain ⟨row, s₂, hrow, hcheck⟩ := run_bind.mp hinsert
    unfold insertGuarded at hrow
    rw [hguarded] at hrow
    obtain ⟨rfl, rfl⟩ := run_pure.mp hrow
    obtain ⟨_, s₃, hheld, hnone⟩ := run_bind.mp hcheck
    obtain ⟨-, rfl⟩ := run_pure.mp hnone
    rw [assertHeld_same hheld]
  | updateWindow row =>
    dsimp only [GuardedWrite.run, SellerSettlement.updateWindow] at h
    rw [hguarded] at h
    rw [assertHeld_same h]
  | creditAccount accountId amountUnits ledgerEventId updatedAt =>
    dsimp only [GuardedWrite.run, SellerSettlement.creditAccount] at h
    obtain ⟨active, -, h⟩ := run_read_bind.mp h
    rw [hguarded, Bool.and_false] at h
    obtain ⟨_, s₁, -, hreject⟩ := run_bind.mp h
    cases (check_eq_ok.mp hreject).1
  | insertLedgerEvent event =>
    dsimp only [GuardedWrite.run, insertSellerSettlementLedgerEvent] at h
    rw [hguarded] at h
    obtain ⟨_, s₁, -, hreject⟩ := run_bind.mp h
    cases (check_eq_ok.mp hreject).1

/-- A write with a token below that of the row changes nothing. -/
theorem write_stale {input : LeaseInput} {statement : GuardedWrite} {stillHeld : Bool}
    (hcommand : input.command = .write statement lease stillHeld)
    (hcurrent : db.leases.find? lease.taskKey = some current)
    (htoken : lease.fencingToken < current.fencingToken) : (leaseStep input db).2 = db := by
  have hheld : findHeld db.leases lease input.nowMs = none := by
    rw [Option.eq_none_iff_forall_not_mem]
    intro row hrow
    obtain ⟨hfind, hholder, -⟩ := findHeld_eq_some.mp hrow
    obtain rfl := Option.some.inj (hcurrent.symm.trans hfind)
    have hsame : current.fencingToken = lease.fencingToken :=
      congrArg LeaseHolder.fencingToken hholder
    omega
  unfold leaseStep
  simp only [hcommand, hheld]
  have hsame := @commit_preserves _ _ _ (fun before after => after = before)
    (statement.run ⟨(none : Option TaskLeaseRow).isSome, stillHeld⟩)
    ⟨db.settlements, input.freshId, 0, input.writesLeft⟩ rfl (run_unguarded rfl)
  rw [hsame]

/-! ### Whole runs -/

/-- The lease that a `renew` or an `assertHeld` found to be held. -/
def confirmed (t : LeaseStep) : Option PostgresTaskLease :=
  match t.input.command, t.output with
  | .renew lease _, .granted _ _ => some lease
  | .assertHeld lease, .done => some lease
  | _, _ => none

/-- A lease that is confirmed is the one its holder was given, and has not run out. -/
theorem granted_of_confirmed {now : Int} {input : LeaseInput} (h : GrantsHeld now granted db.leases)
    (hconfirmed : confirmed (stepOf leaseStep db input) = some lease) :
    input.nowMs < granted lease.holder := by
  have heffect := leaseStep_effect input db
  unfold confirmed at hconfirmed
  dsimp only [stepOf] at hconfirmed
  revert heffect hconfirmed
  generalize (leaseStep input db).1 = output
  generalize (leaseStep input db).2.leases = leases'
  intro hconfirmed heffect
  cases heffect with
  | failed error =>
    cases hcommand : input.command <;> rw [hcommand] at hconfirmed <;> cases hconfirmed
  | wrote answer =>
    cases hcommand : input.command <;> rw [hcommand] at hconfirmed <;> cases hconfirmed
  | took acquireInput row hcommand howner hrow =>
    rw [hcommand] at hconfirmed
    cases hconfirmed
  | released lease' row hcommand hrow =>
    rw [hcommand] at hconfirmed
    cases hconfirmed
  | renewed lease' leaseDurationMs row hcommand howner hrow =>
    rw [hcommand] at hconfirmed
    obtain rfl := Option.some.inj hconfirmed
    obtain ⟨-, old, hfind, hold, huntil⟩ := renewRow_eq_some hrow
    rw [← hold, h.held _ old hfind]
    exact huntil
  | held lease' row hcommand hrow =>
    rw [hcommand] at hconfirmed
    obtain rfl := Option.some.inj hconfirmed
    obtain ⟨hfind, hholder, huntil⟩ := findHeld_eq_some.mp hrow
    rw [← hholder, h.held _ row hfind]
    exact huntil

/-- What fencing asks of a run: a lease that is taken has a higher token than every row written for
its task before, no two holders of a task have a lease at the time of the last call or later, a
lease is confirmed only to the holder that has it, and a guarded write with a token lower than one
that was taken before changes nothing. -/
structure Fenced (db : LeaseDatabase) (inputs : List LeaseInput) : Prop where
  tokens : (trace leaseStep db inputs).Pairwise fun t t' => ∀ row row',
    grantedRow t = some row → acquired t' = some row' → row.taskKey = row'.taskKey →
      row.fencingToken < row'.fencingToken
  exclusive : ∀ now, lastTime (fun input => (input.nowMs : Int)) 0 inputs ≤ now →
    ∀ holder holder', holder.taskKey = holder'.taskKey →
      now < grantedUntil (trace leaseStep db inputs) holder →
      now < grantedUntil (trace leaseStep db inputs) holder' → holder = holder'
  confirmed : ∀ input : LeaseInput,
    lastTime (fun input => (input.nowMs : Int)) 0 inputs ≤ input.nowMs →
    ∀ lease, confirmed (stepOf leaseStep (final leaseStep db inputs) input) = some lease →
      input.nowMs < grantedUntil (trace leaseStep db inputs) lease.holder
  stale : (trace leaseStep db inputs).Pairwise fun t t' => ∀ row statement lease stillHeld,
    acquired t = some row → t'.input.command = .write statement lease stillHeld →
      lease.taskKey = row.taskKey → lease.fencingToken < row.fencingToken → t'.after = t'.before

theorem grantedRow_of_acquired {t : LeaseStep} (h : acquired t = some row) :
    grantedRow t = some row := by
  unfold acquired at h
  unfold grantedRow
  split at h
  · next houtput => rw [houtput]; exact h
  · cases h

/-- **Task leases fence stale owners**, in every run whose time does not go back. -/
theorem run_fenced (settlements : SettlementDatabase) (inputs : List LeaseInput)
    (htime : Timed (fun input => (input.nowMs : Int)) 0 inputs) :
    Fenced (.initial settlements) inputs := by
  have hgrants := run_grantsHeld settlements htime
  have hreached := List.Pairwise.and_mem.mp (trace_tokenReached (.initial settlements) inputs)
  refine ⟨hreached.imp ?_, ?_, ?_, hreached.imp ?_⟩
  · rintro t t' ⟨-, ht', hmark⟩ row row' hrow hacquired htask
    rw [eq_stepOf_of_mem ht'] at hacquired
    exact token_lt_of_acquired hmark hrow hacquired htask
  · intro now hnow holder holder' htask hholder hholder'
    obtain ⟨row, hfind, hrow⟩ := hgrants.owned holder (lt_of_le_of_lt hnow hholder)
    obtain ⟨row', hfind', hrow'⟩ := hgrants.owned holder' (lt_of_le_of_lt hnow hholder')
    rw [htask, hfind'] at hfind
    obtain rfl := Option.some.inj hfind
    exact hrow.symm.trans hrow'
  · intro input hnow lease hconfirmed
    exact granted_of_confirmed hgrants hconfirmed
  · rintro t t' ⟨-, ht', hmark⟩ row statement lease stillHeld hacquired hcommand htask htoken
    obtain ⟨current, hcurrent, hle⟩ := hmark row (grantedRow_of_acquired hacquired)
    rw [eq_stepOf_of_mem ht']
    exact write_stale hcommand (by rw [htask]; exact hcurrent) (by omega)

/-- Two workers on one task: the second takes over when the first one's lease runs out, and the
first then writes once more. -/
def takeover : List LeaseInput :=
  let call (command : LeaseCommand) (nowMs : Nat) : LeaseInput :=
    ⟨command, nowMs, fun _ => "a", none⟩
  [call (.acquire ⟨"seller-settlement-release", "first", 5000⟩) 1000,
    call (.acquire ⟨"seller-settlement-release", "second", 5000⟩) 6000,
    call (.write (.creditAccount "account" 100 "ledger" 6001)
      ⟨"seller-settlement-release", "first", 1, 6000⟩ false) 6001]

theorem run_fenced_takeover :
    Fenced (.initial (.initial Table.empty Table.empty)) takeover ∧
      (trace leaseStep (.initial (.initial Table.empty Table.empty)) takeover).map
        (fun t => (acquired t).map TaskLeaseRow.fencingToken) = [some 1, some 2, none] :=
  ⟨run_fenced _ takeover (by decide), by decide⟩

end Frely.TaskLeases
