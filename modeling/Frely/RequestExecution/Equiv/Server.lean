import Frely.RequestExecution.Server

/-!
# What the request-execution operations do

One lemma for each operation of the package: what a transaction that returned has checked, and
which rows it wrote.  Everything about runs is derived from these, without unfolding an operation
again.
-/

namespace Frely.RequestExecution

open Frely.Postgres Checked Transaction

variable {s s' : Session Database}

/-! ### Leases -/

/-- The lease of a request, when its owner holds it at a moment. -/
def HoldsLease (db : Database) (requestId ownerId : String) (now : Timestamp)
    (lease : RequestExecutionLease) : Prop :=
  db.requestExecutionLeases.find? requestId = some lease ∧ lease.ownerId = ownerId ∧
    now < lease.leaseUntil

theorem requestExecutionLeaseUntil_eq_ok {value leaseUntil : Timestamp} {seconds : Int}
    (h : requestExecutionLeaseUntil value seconds = .ok leaseUntil) : value < leaseUntil := by
  simp only [requestExecutionLeaseUntil, bind_eq_ok, rejectIf_eq_ok, pure_eq_ok,
    Except.ok.injEq] at h
  obtain ⟨_, hseconds, rfl⟩ := h
  rw [not_or, not_lt] at hseconds
  exact Int.lt_add_of_pos_right value (Int.mul_pos (by omega) (by decide))

variable {requestId ownerId : String} {lease : RequestExecutionLease}

theorem acquireRequestExecutionLease_eq_ok {leaseTtlSeconds : Int} {now : Timestamp}
    (h : acquireRequestExecutionLease requestId ownerId leaseTtlSeconds now s = .ok (lease, s')) :
    lease.requestId = requestId ∧ lease.ownerId = ownerId ∧ now < lease.leaseUntil ∧
      (∀ other, s.database.requestExecutionLeases.find? requestId = some other →
        other.ownerId = ownerId ∨ other.leaseUntil ≤ now) ∧
      s'.database = { s.database with
        requestExecutionLeases := s.database.requestExecutionLeases.put lease } := by
  unfold acquireRequestExecutionLease at h
  obtain ⟨leaseUntil, huntil, h⟩ := run_check_bind.mp h
  obtain ⟨held, hheld, h⟩ := run_read_bind.mp h
  obtain ⟨_, hfree, h⟩ := run_check_bind.mp h
  obtain ⟨_, s₁, hwrite, h⟩ := run_bind.mp h
  obtain ⟨rfl, rfl⟩ := run_pure.mp h
  refine ⟨rfl, rfl, requestExecutionLeaseUntil_eq_ok huntil, ?_, ?_⟩
  · intro other hother
    cases hheld
    have hnot := rejectIf_eq_ok.mp hfree
    by_contra hconflict
    rw [not_or, not_le] at hconflict
    exact hnot ⟨other, hother, hconflict⟩
  · have hset := write_eq_ok hwrite
    exact (Option.some.inj hset).symm

theorem renewRequestExecutionLease_eq_ok {leaseTtlSeconds : Int} {now : Timestamp}
    (h : renewRequestExecutionLease requestId ownerId leaseTtlSeconds now s = .ok (lease, s')) :
    lease.requestId = requestId ∧ lease.ownerId = ownerId ∧ now < lease.leaseUntil ∧
      (∃ held, HoldsLease s.database requestId ownerId now held) ∧
      s'.database = { s.database with
        requestExecutionLeases := s.database.requestExecutionLeases.put lease } := by
  unfold renewRequestExecutionLease at h
  obtain ⟨leaseUntil, huntil, h⟩ := run_check_bind.mp h
  obtain ⟨held, hheld, h⟩ := run_read_bind.mp h
  obtain ⟨_, s₁, hwrite, h⟩ := run_bind.mp h
  obtain ⟨rfl, rfl⟩ := run_pure.mp h
  have hholds : HoldsLease s.database requestId ownerId now held := by
    split at hheld
    · cases hheld
    · next found hfound =>
        cases hheld
        obtain ⟨hfind, howner⟩ := Option.filter_eq_some_iff.mp hfound
        rw [Bool.and_eq_true, decide_eq_true_eq, decide_eq_true_eq] at howner
        exact ⟨hfind, howner⟩
  refine ⟨Table.key_of_find? hholds.1, hholds.2.1, requestExecutionLeaseUntil_eq_ok huntil,
    ⟨held, hholds⟩, ?_⟩
  have hset := write_eq_ok hwrite
  exact (Option.some.inj hset).symm

theorem releaseRequestExecutionLease_eq_ok {released : Bool}
    (h : releaseRequestExecutionLease requestId ownerId s = .ok (released, s')) :
    (released = false ∧ s'.database = s.database) ∨
      (∃ lease, s.database.requestExecutionLeases.find? requestId = some lease ∧
        lease.ownerId = ownerId) ∧ released = true ∧
      s'.database = { s.database with
        requestExecutionLeases := s.database.requestExecutionLeases.erase requestId } := by
  unfold releaseRequestExecutionLease at h
  obtain ⟨held, hheld, h⟩ := run_read_bind.mp h
  cases hheld
  split_ifs at h with hany
  · obtain ⟨_, s₁, hwrite, h⟩ := run_bind.mp h
    obtain ⟨rfl, rfl⟩ := run_pure.mp h
    obtain ⟨lease, hlease, howner⟩ := (Option.any_eq_true _ _).mp hany
    have hset := write_eq_ok hwrite
    exact .inr ⟨⟨lease, hlease, of_decide_eq_true howner⟩, rfl, (Option.some.inj hset).symm⟩
  · obtain ⟨rfl, rfl⟩ := run_pure.mp h
    exact .inl ⟨rfl, rfl⟩

/-! ### Ending an execution -/

/-- What the arbiter leaves of the executions: nothing changes, or one open execution of a
command's owner ends. -/
inductive Arbitrated (executions : Table RequestExecution) : Table RequestExecution → Prop where
  | unchanged : Arbitrated executions executions
  | ended (command : CompleteRequestExecutionCommand) (execution : RequestExecution)
      (hfind : executions.find? command.requestId = some execution)
      (hopen : execution.status.terminal? = none)
      (howner : execution.ownerId = command.executionOwnerId)
      (executions' : Table RequestExecution)
      (hset : executions.Sets (completedExecution command execution) executions') :
      Arbitrated executions executions'

namespace Arbitrated

variable {executions executions' : Table RequestExecution} {requestId : String}
  {execution : RequestExecution}

/-- An execution that has ended is left alone. -/
theorem keeps_ended (h : Arbitrated executions executions')
    (hfind : executions.find? requestId = some execution)
    (hended : execution.status.terminal? ≠ none) :
    executions'.find? requestId = some execution := by
  cases h with
  | unchanged => exact hfind
  | ended command other hother hopen howner _ hset =>
    rw [hset requestId]
    split_ifs with hrequest
    · have hkey : command.requestId = requestId :=
        (Table.key_of_find? hother).symm.trans hrequest.symm
      rw [hkey] at hother
      cases hfind.symm.trans hother
      exact absurd hopen hended
    · exact hfind

/-- Whatever the arbiter does not write is as it was. -/
theorem map_find? {α : Type} (h : Arbitrated executions executions') {view : RequestExecution → α}
    (hview : ∀ command execution, view (completedExecution command execution) = view execution)
    (requestId : String) :
    (executions'.find? requestId).map view = (executions.find? requestId).map view := by
  cases h with
  | unchanged => rfl
  | ended command other hother hopen howner _ hset =>
    rw [hset requestId]
    split_ifs with hrequest
    · have hkey : command.requestId = requestId :=
        (Table.key_of_find? hother).symm.trans hrequest.symm
      rw [← hkey, hother]
      exact congrArg some (hview command other)
    · rfl

end Arbitrated

variable {u : Unit}

theorem requestExecutionTerminalArbiter_eq_ok {command : CompleteRequestExecutionCommand}
    {allowMissing : Bool} {u : Unit}
    (h : requestExecutionTerminalArbiter command allowMissing s = .ok (u, s')) :
    ∃ executions, Arbitrated s.database.requestExecutions executions ∧
      s'.database = { s.database with requestExecutions := executions } := by
  unfold requestExecutionTerminalArbiter at h
  obtain ⟨found, hfound, h⟩ := run_read_bind.mp h
  cases hfound
  cases hfind : s.database.requestExecutions.find? command.requestId with
  | none =>
    rw [hfind] at h
    obtain ⟨-, rfl⟩ := check_eq_ok.mp h
    exact ⟨_, .unchanged, rfl⟩
  | some execution =>
    rw [hfind] at h
    cases hstatus : execution.status.terminal? with
    | some status =>
      simp only [hstatus] at h
      obtain ⟨-, rfl⟩ := check_eq_ok.mp h
      exact ⟨_, .unchanged, rfl⟩
    | none =>
      simp only [hstatus] at h
      obtain ⟨_, howner, h⟩ := run_check_bind.mp h
      obtain ⟨row, hrow, -, hset⟩ := update_eq_ok h
      cases hfind.symm.trans hrow
      exact ⟨_, .ended command execution hfind hstatus (not_not.mp (rejectIf_eq_ok.mp howner)) _
        (Table.sets_modify hfind (completedExecution command) fun _ => rfl), hset⟩

/-! ### Executions at a glance -/

/-- The number of attempts of a request. -/
def attemptCountOf (executions : Table RequestExecution) (requestId : String) : Int :=
  ((executions.find? requestId).map (·.attemptCount)).getD 0

/-- The Plan source that the execution of a request selected. -/
def selectedSourceOf (executions : Table RequestExecution) (requestId : String) : Option String :=
  (executions.find? requestId).map (·.selectedPlanSubscriptionId)

/-- The owner of the execution of a request. -/
def ownerOf (executions : Table RequestExecution) (requestId : String) : Option String :=
  (executions.find? requestId).map (·.ownerId)

variable {executions executions' : Table RequestExecution}

theorem Arbitrated.ownerOf (h : Arbitrated executions executions') (requestId : String) :
    ownerOf executions' requestId = ownerOf executions requestId :=
  h.map_find? (fun _ _ => rfl) requestId

theorem Arbitrated.attemptCountOf (h : Arbitrated executions executions') (requestId : String) :
    attemptCountOf executions' requestId = attemptCountOf executions requestId :=
  congrArg (Option.getD · 0) (h.map_find? (fun _ _ => rfl) requestId)

theorem Arbitrated.selectedSourceOf (h : Arbitrated executions executions') (requestId : String) :
    selectedSourceOf executions' requestId = selectedSourceOf executions requestId :=
  h.map_find? (fun _ _ => rfl) requestId

/-! ### Admission -/

/-- What an admission that is allowed found: no execution, for the first attempt of a request, or
the running execution of its owner with final usage of the attempt before. -/
inductive Admissible (db : Database) (command : AdmissionCommand)
    (decision : NewAdmissionDecision) : Prop where
  | first (hkind : decision.kind = .first)
      (hnone : db.requestExecutions.find? command.requestId = none)
      (hindex : command.attemptIndex = 0)
      (hselected : command.selectedSourceRef = some decision.selectedSourceRef)
  | fallback (hkind : decision.kind = .fallback) (execution : RequestExecution)
      (hfind : db.requestExecutions.find? command.requestId = some execution)
      (hrunning : execution.status = .running)
      (howner : execution.ownerId = command.executionOwnerId)
      (hcount : execution.attemptCount = command.attemptIndex)
      (hselected : execution.selectedPlanSubscriptionId = decision.selectedSourceRef)
      (previous : RequestProviderAttempt) (hprevious : previous ∈ db.requestProviderAttempts)
      (hrequest : previous.identity.requestId = command.requestId)
      (hindex : previous.identity.attemptIndex = command.attemptIndex - 1)
      (hsettled : previous.usageSettled = true)

variable {db : Database} {decision : NewAdmissionDecision} {command : AdmissionCommand}

theorem inspectFirstAdmission_eq_ok (h : inspectFirstAdmission db command lease = .ok decision) :
    Admissible db command decision ∧ decision.leaseUntil = lease.leaseUntil := by
  unfold inspectFirstAdmission at h
  split at h
  · next selected hnone hselected =>
      obtain ⟨_, hindex, hdecision⟩ := bind_eq_ok.mp h
      cases hdecision
      exact ⟨.first rfl hnone (not_not.mp (rejectIf_eq_ok.mp hindex)) hselected, rfl⟩
  · cases h

theorem inspectFallbackAdmission_eq_ok
    (h : inspectFallbackAdmission db command lease = .ok decision) :
    Admissible db command decision ∧ decision.leaseUntil = lease.leaseUntil := by
  unfold inspectFallbackAdmission at h
  split at h
  · cases h
  · next execution hfind =>
      obtain ⟨_, hmatches, h⟩ := bind_eq_ok.mp h
      obtain ⟨_, hprevious, hdecision⟩ := bind_eq_ok.mp h
      cases hdecision
      have hnot := rejectIf_eq_ok.mp hmatches
      rw [not_or, not_or, not_not, not_not, not_not] at hnot
      obtain ⟨hrunning, howner, hcount⟩ := hnot
      have hany := not_not.mp (rejectIf_eq_ok.mp hprevious)
      obtain ⟨previous, hfound, hsettled⟩ := (Option.any_eq_true _ _).mp hany
      have hcondition := List.find?_some hfound
      rw [Bool.and_eq_true, decide_eq_true_eq, decide_eq_true_eq] at hcondition
      exact ⟨.fallback rfl execution hfind hrunning howner hcount rfl previous
        (List.mem_of_find?_eq_some hfound) hcondition.1 hcondition.2 hsettled, rfl⟩

theorem inspectNewAdmission_eq_ok {inspectedAt : Timestamp} {kind : AdmissionKind}
    (h : inspectNewAdmission db command inspectedAt kind = .ok decision) :
    0 ≤ command.attemptIndex ∧ Admissible db command decision ∧
      ∃ lease, HoldsLease db command.requestId command.executionOwnerId inspectedAt lease ∧
        decision.leaseUntil = lease.leaseUntil := by
  unfold inspectNewAdmission at h
  obtain ⟨_, hidentity, h⟩ := bind_eq_ok.mp h
  obtain ⟨_, hindex, -⟩ := bind_eq_ok.mp hidentity
  have hnonneg := rejectIf_eq_ok.mp hindex
  rw [not_or, not_lt] at hnonneg
  refine ⟨hnonneg.2, ?_⟩
  split at h
  · cases h
  · next lease hfound =>
      obtain ⟨hfind, howner⟩ := Option.filter_eq_some_iff.mp hfound
      rw [Bool.and_eq_true, decide_eq_true_eq, decide_eq_true_eq] at howner
      have hadmissible : Admissible db command decision ∧
          decision.leaseUntil = lease.leaseUntil := by
        cases kind with
        | first => exact inspectFirstAdmission_eq_ok h
        | fallback => exact inspectFallbackAdmission_eq_ok h
      exact ⟨hadmissible.1, lease, ⟨hfind, howner⟩, hadmissible.2⟩

/-- The execution of a request after an attempt of it was persisted. -/
inductive StartedExecution (db : Database) (identity : ProviderAttemptAdmissionIdentity)
    (decision : NewAdmissionDecision) (startedAt : Timestamp) : RequestExecution → Prop where
  | first (hkind : decision.kind = .first)
      (hnone : db.requestExecutions.find? identity.requestId = none)
      (haccepts : acceptsExecution db (newRequestExecution identity decision startedAt)) :
      StartedExecution db identity decision startedAt
        (countedExecution (newRequestExecution identity decision startedAt))
  | fallback (hkind : decision.kind = .fallback) (execution : RequestExecution)
      (hfind : db.requestExecutions.find? identity.requestId = some execution) :
      StartedExecution db identity decision startedAt (countedExecution execution)

/-- What persisting an attempt changes. -/
structure PersistedAttempt (db : Database) (identity : ProviderAttemptAdmissionIdentity)
    (decision : NewAdmissionDecision) (attempt : RequestProviderAttempt)
    (execution : RequestExecution) (db' : Database) : Prop where
  started : StartedExecution db identity decision attempt.startedAt execution
  executions : db.requestExecutions.Sets execution db'.requestExecutions
  attempts : db.requestProviderAttempts.insert? attempt = some db'.requestProviderAttempts
  accepted : acceptsAttempt db attempt
  frame : db' = { db with
    requestExecutions := db'.requestExecutions
    requestProviderAttempts := db'.requestProviderAttempts }

namespace PersistedAttempt

variable {db db' : Database} {command : AdmissionCommand} {decision : NewAdmissionDecision}
  {attempt : RequestProviderAttempt} {execution : RequestExecution}

/-- The execution of the persisted attempt has one attempt more than its index. -/
theorem execution_eq (h : PersistedAttempt db command.toProviderAttemptAdmissionIdentity decision
    attempt execution db') (hadmissible : Admissible db command decision) :
    execution.requestId = command.requestId ∧
      execution.attemptCount = command.attemptIndex + 1 ∧
      execution.selectedPlanSubscriptionId = decision.selectedSourceRef ∧
      execution.status = .running := by
  cases hadmissible with
  | first hkind hnone hindex hselected =>
    cases h.started with
    | first _ _ haccepts =>
      rw [hindex]
      exact ⟨rfl, rfl, rfl, rfl⟩
    | fallback hkind' => exact absurd (hkind.symm.trans hkind') AdmissionKind.noConfusion
  | fallback hkind found hfind hrunning howner hcount hselected =>
    cases h.started with
    | first hkind' => exact absurd (hkind.symm.trans hkind') AdmissionKind.noConfusion
    | fallback _ started hstarted =>
      cases hfind.symm.trans hstarted
      exact ⟨Table.key_of_find? hfind, congrArg (· + 1) hcount, hselected, hrunning⟩

/-- The admission found as many attempts as its index says. -/
theorem attemptCountOf_before (hadmissible : Admissible db command decision) :
    attemptCountOf db.requestExecutions command.requestId = command.attemptIndex := by
  cases hadmissible with
  | first hkind hnone hindex hselected =>
    rw [attemptCountOf, hnone, hindex]
    rfl
  | fallback hkind found hfind hrunning howner hcount hselected =>
    rw [attemptCountOf, hfind]
    exact hcount

theorem attemptCountOf_after (h : PersistedAttempt db command.toProviderAttemptAdmissionIdentity
    decision attempt execution db') (hadmissible : Admissible db command decision)
    (requestId : String) :
    attemptCountOf db'.requestExecutions requestId =
      if requestId = command.requestId then command.attemptIndex + 1
      else attemptCountOf db.requestExecutions requestId := by
  obtain ⟨hrequest, hcount, -, -⟩ := h.execution_eq hadmissible
  have hkey : Keyed.key execution = command.requestId := hrequest
  rw [attemptCountOf, h.executions requestId, hkey]
  split_ifs
  · exact hcount
  · rfl

theorem selectedSourceOf_after (h : PersistedAttempt db command.toProviderAttemptAdmissionIdentity
    decision attempt execution db') (hadmissible : Admissible db command decision)
    (requestId : String) :
    selectedSourceOf db'.requestExecutions requestId =
      if requestId = command.requestId then some decision.selectedSourceRef
      else selectedSourceOf db.requestExecutions requestId := by
  obtain ⟨hrequest, -, hselected, -⟩ := h.execution_eq hadmissible
  have hkey : Keyed.key execution = command.requestId := hrequest
  rw [selectedSourceOf, h.executions requestId, hkey]
  split_ifs
  · exact congrArg some hselected
  · rfl

/-- The attempts of an execution are of its owner. -/
theorem ownerOf_after (h : PersistedAttempt db command.toProviderAttemptAdmissionIdentity
    decision attempt execution db') (hadmissible : Admissible db command decision)
    (requestId : String) :
    ownerOf db'.requestExecutions requestId =
      if requestId = command.requestId then some command.executionOwnerId
      else ownerOf db.requestExecutions requestId := by
  have hkey : Keyed.key execution = command.requestId := (h.execution_eq hadmissible).1
  have howner : execution.ownerId = command.executionOwnerId := by
    cases hadmissible with
    | first hkind hnone hindex hselected =>
      cases h.started with
      | first => rfl
      | fallback hkind' => exact absurd (hkind.symm.trans hkind') AdmissionKind.noConfusion
    | fallback hkind found hfind hrunning howner hcount hselected =>
      cases h.started with
      | first hkind' => exact absurd (hkind.symm.trans hkind') AdmissionKind.noConfusion
      | fallback _ started hstarted =>
        cases hfind.symm.trans hstarted
        exact howner
  rw [ownerOf, h.executions requestId, hkey]
  split_ifs
  · exact congrArg some howner
  · rfl

/-- An execution that has ended gets no attempt. -/
theorem keeps_ended
    (h : PersistedAttempt db command.toProviderAttemptAdmissionIdentity decision attempt
      execution db')
    (hadmissible : Admissible db command decision) {ended : RequestExecution}
    (hfind : db.requestExecutions.find? requestId = some ended)
    (hended : ended.status.terminal? ≠ none) :
    requestId ≠ command.requestId ∧ db'.requestExecutions.find? requestId = some ended := by
  have hne : requestId ≠ command.requestId := by
    rintro rfl
    cases hadmissible with
    | first hkind hnone => cases hnone.symm.trans hfind
    | fallback hkind found hfound hrunning =>
      cases hfound.symm.trans hfind
      rw [hrunning] at hended
      exact hended rfl
  have hkey : Keyed.key execution = command.requestId := (h.execution_eq hadmissible).1
  refine ⟨hne, ?_⟩
  rw [h.executions.find?_of_ne (hkey ▸ hne)]
  exact hfind

end PersistedAttempt

variable {identity : ProviderAttemptAdmissionIdentity}

theorem startRequestExecution_eq_ok {startedAt : Timestamp}
    (h : startRequestExecution identity decision startedAt s = .ok (u, s')) :
    (decision.kind = .fallback ∧ s'.database = s.database) ∨ decision.kind = .first ∧
      acceptsExecution s.database (newRequestExecution identity decision startedAt) ∧
      ∃ executions, s.database.requestExecutions.insert?
          (newRequestExecution identity decision startedAt) = some executions ∧
        s'.database = { s.database with requestExecutions := executions } := by
  unfold startRequestExecution at h
  cases hkind : decision.kind with
  | first =>
    rw [hkind] at h
    obtain ⟨haccepts, executions, hinsert, hset⟩ := create_eq_ok h
    exact .inr ⟨rfl, haccepts, executions, hinsert, hset⟩
  | fallback =>
    rw [hkind] at h
    obtain ⟨-, rfl⟩ := run_pure.mp h
    exact .inl ⟨rfl, rfl⟩

variable {providerAttemptRef : Option String}

theorem createProviderAttemptRef_eq_ok {id : String}
    (h : createProviderAttemptRef providerAttemptRef s = .ok (id, s')) :
    s'.database = s.database ∧ ∀ ref ∈ providerAttemptRef, id = ref := by
  cases providerAttemptRef with
  | none => exact ⟨createId_eq_ok h, fun ref href => by cases href⟩
  | some ref =>
    obtain ⟨rfl, rfl⟩ := run_pure.mp h
    refine ⟨rfl, ?_⟩
    rintro _ ⟨⟩
    rfl

theorem persistProviderAttempt_eq_ok {identity : ProviderAttemptAdmissionIdentity}
    {decision : NewAdmissionDecision} {startedAt : Timestamp}
    {material : ProviderAttemptPersistenceMaterial} {providerAttemptRef : Option String}
    {snapshot : ProviderAttemptIdentitySnapshot}
    (h : persistProviderAttempt identity decision startedAt material providerAttemptRef s =
      .ok (snapshot, s')) :
    ∃ id execution, snapshot = ⟨identity, id, startedAt⟩ ∧ (∀ ref ∈ providerAttemptRef, id = ref) ∧
      PersistedAttempt s.database identity decision
        (newProviderAttempt id identity decision startedAt material) execution s'.database := by
  unfold persistProviderAttempt at h
  obtain ⟨_, s₁, hstart, h⟩ := run_bind.mp h
  obtain ⟨id, s₂, hid, h⟩ := run_bind.mp h
  obtain ⟨_, s₃, hattempt, h⟩ := run_bind.mp h
  obtain ⟨_, s₄, hcount, h⟩ := run_bind.mp h
  obtain ⟨rfl, rfl⟩ := run_pure.mp h
  obtain ⟨hsame, href⟩ := createProviderAttemptRef_eq_ok hid
  obtain ⟨haccepts, attempts, hinsert, hset₃⟩ := create_eq_ok hattempt
  obtain ⟨execution, hfind, -, hset₄⟩ := update_eq_ok hcount
  rw [hsame] at haccepts hinsert hset₃
  rw [hset₃] at hfind hset₄
  refine ⟨id, countedExecution execution, rfl, href, ?_⟩
  rcases startRequestExecution_eq_ok hstart with
    ⟨hkind, hset₁⟩ | ⟨hkind, hexecution, executions, hstarted, hset₁⟩
  · rw [hset₁] at haccepts hinsert hfind hset₄
    exact {
      started := .fallback hkind execution hfind
      executions := hset₄ ▸ Table.sets_modify hfind countedExecution fun _ => rfl
      attempts := hset₄ ▸ hinsert
      accepted := haccepts
      frame := by rw [hset₄]; rfl }
  · rw [hset₁] at haccepts hinsert hfind hset₄
    -- the counted execution is the one that was just created
    have hcreated := (Table.sets_insert hstarted).find?_self
    have hexecution' : execution = newRequestExecution identity decision startedAt :=
      Option.some.inj (hfind.symm.trans hcreated)
    subst hexecution'
    have hcounted := Table.sets_modify hcreated countedExecution fun _ => rfl
    exact {
      started := .first hkind (Table.insert?_eq_some.mp hstarted).1 hexecution
      executions := hset₄ ▸ (Table.sets_insert hstarted).trans hcounted rfl
      attempts := hset₄ ▸ hinsert
      accepted := haccepts
      frame := by rw [hset₄]; rfl }

/-! ### Dispatch -/

/-- What an update of an attempt and, at most, the end of its execution change. -/
structure UpdatedAttempt (db : Database) (old new : RequestProviderAttempt) (db' : Database) :
    Prop where
  find : db.requestProviderAttempts.find? old.id = some old
  accepted : acceptsAttemptUpdate db old new
  attempts : db.requestProviderAttempts.Sets new db'.requestProviderAttempts
  executions : Arbitrated db.requestExecutions db'.requestExecutions
  frame : db' = { db with
    requestExecutions := db'.requestExecutions
    requestProviderAttempts := db'.requestProviderAttempts }

variable {f : RequestProviderAttempt → RequestProviderAttempt}

theorem updateRequestProviderAttempt_eq_ok {id : String} {hf : ∀ row, (f row).id = row.id}
    (h : updateRequestProviderAttempt id f hf s = .ok (u, s')) :
    ∃ attempt, s.database.requestProviderAttempts.find? id = some attempt ∧
      acceptsAttemptUpdate s.database attempt (f attempt) ∧
      s'.database = { s.database with
        requestProviderAttempts := s.database.requestProviderAttempts.modify id f hf } :=
  update_eq_ok h

variable {attempt : RequestProviderAttempt}

/-- An attempt that is updated alone. -/
theorem UpdatedAttempt.of_update {id : String} {hf : ∀ row, (f row).id = row.id}
    (hfind : s.database.requestProviderAttempts.find? id = some attempt)
    (h : updateRequestProviderAttempt id f hf s = .ok (u, s')) :
    UpdatedAttempt s.database attempt (f attempt) s'.database := by
  obtain ⟨found, hfound, haccepted, hset⟩ := updateRequestProviderAttempt_eq_ok h
  cases hfind.symm.trans hfound
  have hid : attempt.id = id := Table.key_of_find? hfind
  exact {
    find := hid ▸ hfind
    accepted := haccepted
    attempts := hset ▸ Table.sets_modify hfind f hf
    executions := by
      rw [hset]
      exact .unchanged
    frame := by rw [hset] }

/-- An updated attempt whose execution is ended next. -/
theorem UpdatedAttempt.arbitrated {old new : RequestProviderAttempt}
    (h : UpdatedAttempt db old new s.database)
    (hsame : s.database.requestExecutions = db.requestExecutions)
    (harbitrated : Arbitrated s.database.requestExecutions executions)
    (hset : s'.database = { s.database with requestExecutions := executions }) :
    UpdatedAttempt db old new s'.database where
  find := h.find
  accepted := h.accepted
  attempts := hset ▸ h.attempts
  executions := by
    rw [hset]
    exact hsame ▸ harbitrated
  frame := by
    rw [hset, h.frame]

theorem dispatchState_eq_some {providerAttemptRef : String} {execution : RequestExecution}
    (h : dispatchState db providerAttemptRef requestId = some (attempt, execution, lease)) :
    db.requestProviderAttempts.find? providerAttemptRef = some attempt ∧
      attempt.identity.requestId = requestId ∧
      db.requestExecutions.find? requestId = some execution ∧
      db.requestExecutionLeases.find? requestId = some lease := by
  simp only [dispatchState, bind, Option.bind_eq_some_iff, Option.filter_eq_some_iff,
    decide_eq_true_eq] at h
  obtain ⟨_, ⟨hattempt, hrequest⟩, _, hexecution, _, hlease, heq⟩ := h
  cases heq
  exact ⟨hattempt, hrequest, hexecution, hlease⟩

/-- What a dispatch assertion does: nothing, or it lets the owner dispatch, or it gives up an
attempt that its owner can no longer dispatch. -/
inductive Dispatched (db : Database) (providerAttemptRef requestId executionOwnerId : String)
    (checkedAt : Timestamp) : ProviderInvocationDispatchDecision → Database → Prop where
  | refused : Dispatched db providerAttemptRef requestId executionOwnerId checkedAt
      ⟨false, false, checkedAt⟩ db
  | owned (attempt : RequestProviderAttempt) (execution : RequestExecution)
      (lease : RequestExecutionLease)
      (hstate : dispatchState db providerAttemptRef requestId = some (attempt, execution, lease))
      (howns : ownsDispatch attempt execution lease executionOwnerId checkedAt) (db' : Database)
      (hupdated : UpdatedAttempt db attempt (dispatchedAttempt attempt) db')
      (hexecutions : db'.requestExecutions = db.requestExecutions) :
      Dispatched db providerAttemptRef requestId executionOwnerId checkedAt
        ⟨true, false, checkedAt⟩ db'
  | abandoned (attempt : RequestProviderAttempt) (execution : RequestExecution)
      (lease : RequestExecutionLease)
      (hstate : dispatchState db providerAttemptRef requestId = some (attempt, execution, lease))
      (hnot : ¬ownsDispatch attempt execution lease executionOwnerId checkedAt)
      (hpending : attempt.outcome = none) (db' : Database)
      (hupdated : UpdatedAttempt db attempt (abandonedAttempt checkedAt attempt) db') :
      Dispatched db providerAttemptRef requestId executionOwnerId checkedAt
        ⟨false, true, checkedAt⟩ db'

theorem assertProviderInvocationDispatch_eq_ok
    {providerAttemptRef requestId executionOwnerId : String} {checkedAt : Timestamp}
    {decision : ProviderInvocationDispatchDecision}
    (h : assertProviderInvocationDispatch providerAttemptRef requestId executionOwnerId
      checkedAt s =
      .ok (decision, s')) :
    Dispatched s.database providerAttemptRef requestId executionOwnerId checkedAt decision
      s'.database := by
  unfold assertProviderInvocationDispatch at h
  obtain ⟨state, hstate, h⟩ := run_read_bind.mp h
  cases hstate
  cases hstate : dispatchState s.database providerAttemptRef requestId with
  | none =>
    simp only [hstate] at h
    obtain ⟨rfl, rfl⟩ := run_pure.mp h
    exact .refused
  | some found =>
    obtain ⟨attempt, execution, lease⟩ := found
    simp only [hstate] at h
    have hfind := (dispatchState_eq_some hstate).1
    split_ifs at h with howns hpending
    · obtain ⟨_, s₁, hupdate, h⟩ := run_bind.mp h
      obtain ⟨rfl, rfl⟩ := run_pure.mp h
      refine .owned attempt execution lease hstate howns _ (.of_update hfind hupdate) ?_
      obtain ⟨_, -, -, hset⟩ := updateRequestProviderAttempt_eq_ok hupdate
      rw [hset]
    · obtain ⟨_, s₁, hupdate, h⟩ := run_bind.mp h
      obtain ⟨_, s₂, hended, h⟩ := run_bind.mp h
      obtain ⟨rfl, rfl⟩ := run_pure.mp h
      obtain ⟨_, -, -, hset₁⟩ := updateRequestProviderAttempt_eq_ok hupdate
      obtain ⟨executions, harbitrated, hset₂⟩ := requestExecutionTerminalArbiter_eq_ok hended
      have hupdated := UpdatedAttempt.of_update hfind hupdate
      exact .abandoned attempt execution lease hstate howns hpending _
        (hupdated.arbitrated (by rw [hset₁]) harbitrated hset₂)
    · obtain ⟨rfl, rfl⟩ := run_pure.mp h
      exact .refused

/-! ### Terminal evidence -/

theorem providerAttemptFailureReason_eq_ok {outcome : ProviderAttemptOutcome}
    {reason reason' : Option ProviderCredentialFailureReason} :
    providerAttemptFailureReason outcome reason = .ok reason' ↔
      reason' = reason ∧ (outcome = .failed ∨ reason = none) := by
  unfold providerAttemptFailureReason
  rw [eq_comm (a := reason')]
  by_cases houtcome : outcome = .failed
  · simp [houtcome]
  · cases reason with
    | none => simp [houtcome]
    | some reason => simp [houtcome]

/-- The evidence that a command gives an attempt. -/
def ProviderAttemptEvidence.expected (evidence : ProviderAttemptEvidence)
    (attempt : RequestProviderAttempt) : ExpectedEvidence :=
  ⟨providerAttemptFailureClass evidence.outcome evidence.failureClass,
    evidence.failureReason <|> attempt.failureReason, evidence.outputCommitted.getD false⟩

/-- An attempt has the outcome and the evidence of a command. -/
def HasEvidence (attempt : RequestProviderAttempt) (outcome : ProviderAttemptOutcome)
    (expected : ExpectedEvidence) : Prop :=
  attempt.outcome = some outcome ∧ attempt.failureClass = expected.failureClass ∧
    attempt.failureReason = expected.failureReason ∧
    attempt.outputCommitted = expected.outputCommitted

variable {expected : ExpectedEvidence}

/-- A command's evidence is accepted when only a failure has a reason and the attempt has no
evidence yet, or this one. -/
theorem expectedEvidence_eq_ok {evidence : ProviderAttemptEvidence} {conflict : RelayError} :
    expectedEvidence attempt evidence conflict = .ok expected ↔
      expected = evidence.expected attempt ∧
      (evidence.outcome = .failed ∨ expected.failureReason = none) ∧
      (attempt.outcome = none ∨ HasEvidence attempt evidence.outcome expected) := by
  unfold expectedEvidence
  simp only [bind_eq_ok, rejectIf_eq_ok, pure_eq_ok, Except.ok.injEq,
    providerAttemptFailureReason_eq_ok]
  constructor
  · rintro ⟨_, ⟨rfl, hreason⟩, _, hkeeps, rfl⟩
    refine ⟨rfl, hreason, ?_⟩
    by_cases hpending : attempt.outcome = none
    · exact .inl hpending
    · exact .inr (not_not.mp fun hnot => hkeeps ⟨hpending, hnot⟩)
  · rintro ⟨rfl, hreason, hkeeps⟩
    refine ⟨_, ⟨rfl, hreason⟩, (), ?_, rfl⟩
    rintro ⟨hended, hnot⟩
    exact hnot (hkeeps.resolve_left hended)

/-! ### Finalization -/

theorem lockFinalization_eq_ok {command : FinalizeProviderInvocationCommand}
    {requireReconciliation : Bool} {decision : ProviderInvocationFinalizationDecision}
    (h : lockFinalization db command requireReconciliation = .ok decision) :
    ∃ attempt request expected,
      db.requestProviderAttempts.find? command.providerAttemptRef = some attempt ∧
      db.requestLogs.find? attempt.identity.requestId = some request ∧
      (requireReconciliation = true → attempt.usageSettled = false →
        truthy attempt.reconciliationReason ≠ none ∧ reconciliationReady db attempt request) ∧
      expectedEvidence attempt command.toProviderAttemptEvidence
        ⟨"provider_attempt_settlement_conflict",
          "ProviderAttempt terminal evidence does not match the finalization command", 409⟩ =
        .ok expected ∧
      decision = ⟨attempt.id, attempt.identity.requestId, attempt.invocationContract,
        attempt.startedAt, expected, attempt.usageSettled⟩ := by
  unfold lockFinalization at h
  split at h
  · cases h
  · next attempt hfind =>
      split at h
      · cases h
      · next request hrequest =>
          obtain ⟨_, hready, h⟩ := bind_eq_ok.mp h
          obtain ⟨expected, hexpected, hdecision⟩ := bind_eq_ok.mp h
          cases hdecision
          refine ⟨attempt, request, expected, hfind, hrequest, ?_, hexpected, rfl⟩
          intro hrequire hunsettled
          have hnot := rejectIf_eq_ok.mp hready
          rw [not_and, not_and] at hnot
          have hreason := hnot hrequire hunsettled
          rw [not_or, Bool.not_eq_false] at hreason
          exact hreason

/-- What finalizing an attempt that has no final usage changes. -/
theorem completeFinalization_eq_ok {decision : ProviderInvocationFinalizationDecision}
    {command : FinalizeProviderInvocationCommand} {completedAt : Timestamp}
    (hfind : s.database.requestProviderAttempts.find? decision.providerAttemptRef = some attempt)
    (hunsettled : decision.alreadyFinalized = false)
    (h : completeFinalization decision command completedAt s = .ok (u, s')) :
    UpdatedAttempt s.database attempt (finalizedAttempt decision command completedAt attempt)
      s'.database := by
  unfold completeFinalization at h
  rw [hunsettled, if_neg Bool.false_ne_true] at h
  obtain ⟨_, s₁, hupdate, h⟩ := run_bind.mp h
  obtain ⟨_, -, -, hset₁⟩ := updateRequestProviderAttempt_eq_ok hupdate
  have hupdated := UpdatedAttempt.of_update hfind hupdate
  unfold completeFinalizedRequest at h
  cases hstatus : command.requestTerminalStatus with
  | none =>
    simp only [hstatus] at h
    obtain ⟨-, rfl⟩ := run_pure.mp h
    exact hupdated
  | some status =>
    simp only [hstatus] at h
    obtain ⟨owner, -, h⟩ := run_read_bind.mp h
    obtain ⟨executions, harbitrated, hset₂⟩ := requestExecutionTerminalArbiter_eq_ok h
    exact hupdated.arbitrated (by rw [hset₁]) harbitrated hset₂

/-! ### Reconciliation -/

theorem lockReconciliation_eq_ok {command : ReconcileProviderInvocationCommand}
    {status : RequestExecutionStatus}
    (h : lockReconciliation db command = .ok (attempt, expected, status)) :
    assertReconciliationReason command.reason = .ok () ∧
      db.requestProviderAttempts.find? command.providerAttemptRef = some attempt ∧
      (∃ execution, db.requestExecutions.find? attempt.identity.requestId = some execution ∧
        status = execution.status) ∧
      expectedEvidence attempt command.toProviderAttemptEvidence
        ⟨"provider_attempt_reconciliation_conflict",
          "ProviderAttempt terminal evidence cannot be rewritten while usage is pending", 409⟩ =
        .ok expected := by
  unfold lockReconciliation at h
  obtain ⟨_, hreason, h⟩ := bind_eq_ok.mp h
  split at h
  · cases h
  · next found hfind =>
      split at h
      · cases h
      · next execution hexecution =>
          obtain ⟨_, hexpected, hresult⟩ := bind_eq_ok.mp h
          cases hresult
          exact ⟨hreason, hfind, ⟨execution, hexecution, rfl⟩, hexpected⟩

/-- What a reconciliation does: nothing when the attempt waits for its usage already, else the
attempt waits for it from now on. -/
inductive Reconciled (db : Database) (command : ReconcileProviderInvocationCommand)
    (transitionedAt : Timestamp) :
    ProviderInvocationReconciliationDecision → Database → Prop where
  | already (attempt : RequestProviderAttempt) (expected : ExpectedEvidence)
      (status : RequestExecutionStatus)
      (hlock : lockReconciliation db command = .ok (attempt, expected, status))
      (halready : alreadyReconciling attempt command) :
      Reconciled db command transitionedAt ⟨false, transitionedAt⟩ db
  | transitioned (attempt : RequestProviderAttempt) (expected : ExpectedEvidence)
      (status : RequestExecutionStatus)
      (hlock : lockReconciliation db command = .ok (attempt, expected, status))
      (hnot : ¬alreadyReconciling attempt command)
      (hexposure : ¬(attempt.costExposure = .stopped ∧ command.costExposure = .accruing))
      (db' : Database) (hupdated : UpdatedAttempt db attempt
        (reconcilingAttempt command expected transitionedAt attempt) db') :
      Reconciled db command transitionedAt ⟨true, transitionedAt⟩ db'

theorem reconcileProviderInvocation_eq_ok {command : ReconcileProviderInvocationCommand}
    {transitionedAt : Timestamp} {decision : ProviderInvocationReconciliationDecision}
    (h : reconcileProviderInvocation command transitionedAt s = .ok (decision, s')) :
    Reconciled s.database command transitionedAt decision s'.database := by
  unfold reconcileProviderInvocation at h
  obtain ⟨⟨attempt, expected, status⟩, hlock, h⟩ := run_read_bind.mp h
  dsimp only at h
  have hfind := (lockReconciliation_eq_ok hlock).2.1
  split_ifs at h with halready
  · obtain ⟨rfl, rfl⟩ := run_pure.mp h
    exact .already attempt expected status hlock halready
  · obtain ⟨_, hexposure, h⟩ := run_check_bind.mp h
    obtain ⟨_, s₁, hupdate, h⟩ := run_bind.mp h
    obtain ⟨_, s₂, hended, h⟩ := run_bind.mp h
    obtain ⟨rfl, rfl⟩ := run_pure.mp h
    obtain ⟨_, -, -, hset₁⟩ := updateRequestProviderAttempt_eq_ok hupdate
    have hupdated := UpdatedAttempt.of_update hfind hupdate
    refine .transitioned attempt expected status hlock halready (rejectIf_eq_ok.mp hexposure) _ ?_
    unfold completeReconciledRequest at hended
    cases hstatus : status.terminal? with
    | some terminal =>
      simp only [hstatus] at hended
      obtain ⟨-, rfl⟩ := run_pure.mp hended
      exact hupdated
    | none =>
      simp only [hstatus] at hended
      obtain ⟨executions, harbitrated, hset₂⟩ := requestExecutionTerminalArbiter_eq_ok hended
      exact hupdated.arbitrated (by rw [hset₁]) harbitrated hset₂

/-! ### Failure -/

/-- The gateway asks for a release on this evidence alone. -/
theorem arbitrateProviderAttemptFailure_release (input : ProviderAttemptFailureArbitrationInput) :
    (arbitrateProviderAttemptFailure input).settlement = .releaseNotStarted ↔
      input.costExposure = .notStarted ∧ input.finalUsageEvidence = .absent ∧
        input.hasTrustedFinalUsage = false := by
  unfold arbitrateProviderAttemptFailure
  dsimp only
  split_ifs with hrelease hfinal
  · exact iff_of_true rfl ⟨hrelease.1, hrelease.2.1, Bool.eq_false_iff.mpr hrelease.2.2⟩
  · refine iff_of_false not_false ?_
    rintro ⟨hexposure, -⟩
    cases hexposure.symm.trans hfinal.1
  · refine iff_of_false not_false ?_
    rintro ⟨hexposure, habsent, htrusted⟩
    exact hrelease ⟨hexposure, habsent, Bool.eq_false_iff.mp htrusted⟩

theorem failRequestExecution_eq_ok {executionOwnerId errorCode : String} {failedAt : Timestamp}
    (h : failRequestExecution requestId executionOwnerId errorCode failedAt s = .ok (u, s')) :
    ∃ executions, Arbitrated s.database.requestExecutions executions ∧
      s'.database = { s.database with requestExecutions := executions } := by
  unfold failRequestExecution at h
  obtain ⟨found, hfound, h⟩ := run_read_bind.mp h
  cases hfound
  cases hfind : s.database.requestExecutions.find? requestId with
  | none =>
    rw [hfind] at h
    obtain ⟨-, rfl⟩ := run_pure.mp h
    exact ⟨_, .unchanged, rfl⟩
  | some execution =>
    rw [hfind] at h
    cases hstatus : execution.status.terminal? with
    | some status =>
      simp only [hstatus] at h
      obtain ⟨-, rfl⟩ := check_eq_ok.mp h
      exact ⟨_, .unchanged, rfl⟩
    | none =>
      simp only [hstatus] at h
      exact requestExecutionTerminalArbiter_eq_ok h

end Frely.RequestExecution
