import Frely.ModelAccess.Equiv.RoutingKernel

/-!
# Failover runs

A request attempts one candidate of its plan after the other: each time the selector decides from
all attempts so far, and from what is available then, on the next one.  `failover` is such a run,
over rounds that say what is available and how an attempt would end.

* `selectNextRoutingCandidate_returns`: the decision never fails, and what a selected candidate is.
* `IsFailoverRun.attempt`: one more attempt keeps a run a run.
* `failover_run`: every run ends, and makes its attempts as the selector allows.
-/

namespace Frely.ModelAccess

open Frely.RequestExecution Checked StableSort Stateful

variable {host : Host} {graph : RoutingGraphSnapshot} {plan : CompiledRoutingPlan}

/-! ### Runs -/

/-- What a call of the selector finds available, and how the attempt ends if it selects one. -/
structure FailoverRound where
  candidates : List EvaluatedRoutingCandidate
  outcome : ProviderAttemptOutcome
  failureClass : Option ProviderFailureClass
  outputCommitted : Bool

/-- An attempt of a run, with the candidates it chose from. -/
structure FailoverAttempt where
  candidates : List EvaluatedRoutingCandidate
  candidate : EvaluatedRoutingCandidate
  result : SelectorAttemptResult

/-- The attempt that a round makes. -/
def FailoverRound.attempt (round : FailoverRound) (attemptIndex : Nat)
    (candidate : EvaluatedRoutingCandidate) : FailoverAttempt where
  candidates := round.candidates
  candidate
  result :=
    { candidateId := candidate.candidateId
      targetEdgeId := candidate.selectorTargetEdgeId
      attemptIndex
      outcome := round.outcome
      failureClass := round.failureClass
      outputCommitted := round.outputCommitted }

/-- The attempts that are made, with the selector called before each. -/
def failover (host : Host) (plan : CompiledRoutingPlan) :
    List FailoverRound → List FailoverAttempt → Except RelayError (List FailoverAttempt)
  | [], attempts => .ok attempts
  | round :: rounds, attempts => do
    let selection ← selectNextRoutingCandidate host plan round.candidates
      (attempts.map FailoverAttempt.result)
    match selection.selectedCandidate with
    | none => return attempts
    | some candidate =>
      failover host plan rounds (attempts ++ [round.attempt attempts.length candidate])

/-- The attempts a configuration allows. -/
def AccessPointSelectorConfig.maximumAttempts : AccessPointSelectorConfig → Nat
  | direct => 1
  | orderedFallback maxAttempts _ => maxAttempts.toNat

/-- An attempt after which another one may be made. -/
structure MayRetry (config : AccessPointSelectorConfig) (result : SelectorAttemptResult) :
    Prop where
  failed : result.outcome = .failed
  notCommitted : result.outputCommitted = false
  retryable : ∃ failureClass ∈ result.failureClass, ∃ retryOn ∈ config.retryOn,
    failureClass ∈ retryOn

/-- What a run has been so far. -/
structure IsFailoverRun (plan : CompiledRoutingPlan) (attempts : List FailoverAttempt) : Prop where
  matching : ∀ attempt ∈ attempts, attempt.candidates.map
    EvaluatedRoutingCandidate.toCompiledRoutingCandidate = plan.candidates
  available : ∀ attempt ∈ attempts, attempt.candidate ∈ attempt.candidates ∧
    attempt.candidate.available
  facts : ∀ (i : Nat) attempt, attempts[i]? = some attempt →
    attempt.result.candidateId = attempt.candidate.candidateId ∧
    attempt.result.targetEdgeId = attempt.candidate.selectorTargetEdgeId ∧
    attempt.result.attemptIndex = i
  distinct : (attempts.map fun attempt => attempt.candidate.candidateId).Nodup
  bounded : attempts.length ≤ plan.selectorConfig.maximumAttempts
  least : ∀ attempt ∈ attempts, ∀ other ∈ attempt.candidates, other.available →
    other.candidateId ∉ attempts.map (fun attempt => attempt.candidate.candidateId) →
    attempt.candidate.selectorPosition ≤ other.selectorPosition
  ordered : attempts.Pairwise fun earlier later =>
    earlier.candidate.selectorPosition < later.candidate.selectorPosition ∨
      ∃ candidate ∈ earlier.candidates, candidate.candidateId = later.candidate.candidateId ∧
        candidate.available = false
  retried : ∀ attempt ∈ attempts.dropLast, MayRetry plan.selectorConfig attempt.result

/-! ### Candidates of a plan -/

theorem IsCompiledPlan.nodup_positions {selector : RoutingGraphAccessPoint} {rule : CompiledRule}
    (h : IsCompiledPlan host graph plan selector rule) :
    (plan.candidates.map CompiledRoutingCandidate.selectorPosition).Nodup := by
  have hpositions : plan.candidates.map CompiledRoutingCandidate.selectorPosition =
      rule.targets.map RoutingGraphTarget.position := by
    apply forall₂_map_eq
    refine h.candidates.imp ?_
    rintro target candidate ⟨path, hcandidate, -⟩
    rw [hcandidate]
    rfl
  rw [hpositions]
  exact h.compiled.positions

section Matching

variable {candidates : List EvaluatedRoutingCandidate}
  (hmatch : candidates.map EvaluatedRoutingCandidate.toCompiledRoutingCandidate = plan.candidates)

include hmatch

theorem map_of_matching {β : Type} (f : CompiledRoutingCandidate → β) :
    candidates.map (fun candidate => f candidate.toCompiledRoutingCandidate) =
      plan.candidates.map f := by
  rw [← hmatch, List.map_map]
  rfl

/-- Candidates of a plan with one id are one candidate. -/
theorem eq_of_candidateId_eq (hids : (plan.candidates.map
    CompiledRoutingCandidate.candidateId).Nodup)
    {left right : EvaluatedRoutingCandidate} (hleft : left ∈ candidates)
    (hright : right ∈ candidates)
    (h : left.candidateId = right.candidateId) : left = right := by
  rw [← map_of_matching hmatch] at hids
  exact List.inj_on_of_nodup_map hids hleft hright h

theorem find?_candidateId (hids : (plan.candidates.map CompiledRoutingCandidate.candidateId).Nodup)
    {candidate : EvaluatedRoutingCandidate} (hmem : candidate ∈ candidates)
    {l : List EvaluatedRoutingCandidate} (hl : ∀ other, other ∈ l ↔ other ∈ candidates) :
    l.find? (fun other => other.candidateId = candidate.candidateId) = some candidate := by
  cases hfind : l.find? (fun other => other.candidateId = candidate.candidateId) with
  | none => simpa using List.find?_eq_none.mp hfind candidate ((hl candidate).mpr hmem)
  | some found =>
    have hid : found.candidateId = candidate.candidateId := by simpa using List.find?_some hfind
    have hfound := (hl found).mp (List.mem_of_find?_eq_some hfind)
    rw [eq_of_candidateId_eq hmatch hids hfound hmem hid]

end Matching

/-! ### Decisions -/

/-- A candidate that may be attempted next. -/
structure CanAttempt (config : AccessPointSelectorConfig)
    (candidates : List EvaluatedRoutingCandidate)
    (attempts : List SelectorAttemptResult) (candidate : EvaluatedRoutingCandidate) : Prop where
  mem : candidate ∈ candidates
  available : candidate.available
  new : candidate.candidateId ∉ attempts.map SelectorAttemptResult.candidateId
  bounded : attempts.length < config.maximumAttempts
  retried : ∀ previous ∈ attempts.getLast?, MayRetry config previous
  least : ∀ other ∈ candidates, other.available →
    other.candidateId ∉ attempts.map SelectorAttemptResult.candidateId →
    candidate.selectorPosition ≤ other.selectorPosition

theorem permitsFallback_orderedFallback {maxAttempts : Int}
    {retryOn : List ProviderFailureClass} (previous : SelectorAttemptResult) :
    ∃ permitted, permitsFallback (.orderedFallback maxAttempts retryOn) previous = .ok permitted ∧
      (permitted = true → MayRetry (.orderedFallback maxAttempts retryOn) previous) := by
  unfold permitsFallback
  split_ifs with hrefused
  · exact ⟨false, rfl, by simp⟩
  · push Not at hrefused
    cases hclass : previous.failureClass with
    | none => exact ⟨false, rfl, by simp⟩
    | some failureClass =>
      refine ⟨decide (failureClass ∈ retryOn), rfl, ?_⟩
      intro hretryable
      exact ⟨hrefused.1, by simpa using hrefused.2, failureClass, hclass, retryOn, rfl,
        of_decide_eq_true hretryable⟩

theorem permitsNext_orderedFallback {maxAttempts : Int} {retryOn : List ProviderFailureClass}
    {attempts : List SelectorAttemptResult} :
    ∃ permitted, permitsNext (.orderedFallback maxAttempts retryOn) attempts = .ok permitted ∧
      (permitted = true → ∀ previous ∈ attempts.getLast?,
        MayRetry (.orderedFallback maxAttempts retryOn) previous) := by
  unfold permitsNext
  cases attempts.getLast? with
  | none => exact ⟨true, rfl, by simp⟩
  | some previous =>
    obtain ⟨permitted, hpermitted, hretry⟩ := permitsFallback_orderedFallback previous
    refine ⟨permitted, hpermitted, ?_⟩
    intro htrue other hother
    cases hother
    exact hretry htrue

/-- The candidates that the ordered fallback chooses from, and how it sorts them. -/
def openCandidates (candidates : List EvaluatedRoutingCandidate)
    (attempts : List SelectorAttemptResult) : List EvaluatedRoutingCandidate :=
  candidates.filter fun candidate =>
    candidate.available && !attempts.any (·.candidateId = candidate.candidateId)

theorem mem_openCandidates {candidates : List EvaluatedRoutingCandidate}
    {attempts : List SelectorAttemptResult} {candidate : EvaluatedRoutingCandidate} :
    candidate ∈ openCandidates candidates attempts ↔ candidate ∈ candidates ∧
      candidate.available ∧ candidate.candidateId ∉ attempts.map
        SelectorAttemptResult.candidateId := by
  simp [openCandidates, List.mem_filter]

/-- The order of the candidates of one selector. -/
def byPosition (host : Host) (left right : EvaluatedRoutingCandidate) : Ordering :=
  (compare left.selectorPosition right.selectorPosition).then
    (host.localeCompare left.selectorTargetEdgeId right.selectorTargetEdgeId)

/-- Of candidates with different positions the first is the one of the least position, whatever
`localeCompare` says. -/
theorem le_of_firstBy_position {candidates : List EvaluatedRoutingCandidate}
    (hpositions : (candidates.map fun candidate => candidate.selectorPosition).Nodup)
    {attempts : List SelectorAttemptResult} {candidate other : EvaluatedRoutingCandidate}
    (h : firstBy (byPosition host) (openCandidates candidates attempts) = some candidate)
    (hother : other ∈ openCandidates candidates attempts) :
    candidate.selectorPosition ≤ other.selectorPosition := by
  have hnodup : ((openCandidates candidates attempts).map fun candidate =>
      candidate.selectorPosition).Nodup :=
    hpositions.sublist (List.filter_sublist.map _)
  have hpairwise : (openCandidates candidates attempts).Pairwise fun left right =>
      byPosition host left right = compare left.selectorPosition right.selectorPosition := by
    refine (List.pairwise_map.mp hnodup).imp ?_
    intro left right hne
    unfold byPosition
    cases hcompare : compare left.selectorPosition right.selectorPosition with
    | lt => rfl
    | gt => rfl
    | eq => exact absurd (Std.compare_eq_iff_eq.mp hcompare) hne
  rw [firstBy_congr hpairwise] at h
  have := transCmp_map (compare : Int → Int → Ordering)
    fun candidate : EvaluatedRoutingCandidate => candidate.selectorPosition
  exact Int.isLE_compare.mp (isLE_of_firstBy h other hother)

theorem decideOrderedFallback_returns {maxAttempts : Int} {retryOn : List ProviderFailureClass}
    {candidates : List EvaluatedRoutingCandidate} {attempts : List SelectorAttemptResult}
    (hpositions : (candidates.map fun candidate => candidate.selectorPosition).Nodup) :
    ∃ selected : Option EvaluatedRoutingCandidate,
      decideOrderedFallback host.localeCompare
          (candidates.map EvaluatedRoutingCandidate.toSelectorCandidate) attempts
          (.orderedFallback maxAttempts retryOn) =
        .ok (selected.map fun candidate => candidate.candidateId) ∧
      ∀ candidate ∈ selected,
        CanAttempt (.orderedFallback maxAttempts retryOn) candidates attempts candidate := by
  obtain ⟨permitted, hpermitted, hretry⟩ :=
    @permitsNext_orderedFallback maxAttempts retryOn attempts
  unfold decideOrderedFallback
  split_ifs with hexhausted
  · exact ⟨none, rfl, by simp⟩
  · rw [hpermitted, bind_ok]
    cases permitted with
    | false => exact ⟨none, rfl, by simp⟩
    | true =>
      refine ⟨firstBy (byPosition host) (openCandidates candidates attempts), ?_, ?_⟩
      · rw [if_pos rfl]
        dsimp only
        rw [List.filter_map, head?_sortBy, firstBy_map, Option.map_map]
        rfl
      · intro candidate hcandidate
        obtain ⟨hmem, havailable, hnew⟩ := mem_openCandidates.mp (firstBy_mem hcandidate)
        refine ⟨hmem, havailable, hnew, ?_, hretry rfl, ?_⟩
        · simp only [AccessPointSelectorConfig.maxAttempts, Option.any_some, decide_eq_true_eq]
            at hexhausted
          simp only [AccessPointSelectorConfig.maximumAttempts]
          omega
        · intro other hother hotherAvailable hotherNew
          exact le_of_firstBy_position hpositions hcandidate
            (mem_openCandidates.mpr ⟨hother, hotherAvailable, hotherNew⟩)

/-- The direct selector attempts its single candidate once. -/
theorem decideDirect_returns {candidate : EvaluatedRoutingCandidate}
    {attempts : List SelectorAttemptResult}
    (hattempts : ∀ attempt ∈ attempts, attempt.candidateId = candidate.candidateId) :
    ∃ selected : Option EvaluatedRoutingCandidate,
      decideDirect [candidate.toSelectorCandidate] attempts =
        selected.map (fun candidate => candidate.candidateId) ∧
      ∀ other ∈ selected, CanAttempt .direct [candidate] attempts other := by
  cases havailable : candidate.available with
  | false =>
    refine ⟨none, ?_, by simp⟩
    simp [decideDirect, EvaluatedRoutingCandidate.toSelectorCandidate, havailable]
  | true =>
    cases attempts with
    | nil =>
      refine ⟨some candidate, ?_, ?_⟩
      · simp [decideDirect, EvaluatedRoutingCandidate.toSelectorCandidate, havailable]
      · intro other hother
        cases hother
        exact ⟨List.mem_singleton_self _, havailable, by simp, Nat.one_pos, by simp, by simp⟩
    | cons attempt rest =>
      refine ⟨none, ?_, by simp⟩
      have hid := hattempts attempt List.mem_cons_self
      simp [decideDirect, EvaluatedRoutingCandidate.toSelectorCandidate, havailable, hid]

/-- Attempt facts that are of candidates of the plan, in order. -/
def AreFacts (candidates : List EvaluatedRoutingCandidate) (attempts : List SelectorAttemptResult) :
    Prop :=
  ∀ (i : Nat) attempt, attempts[i]? = some attempt → attempt.attemptIndex = i ∧
    ∃ candidate ∈ candidates, attempt.candidateId = candidate.candidateId ∧
      attempt.targetEdgeId = candidate.selectorTargetEdgeId

section Selection

variable {candidates : List EvaluatedRoutingCandidate} {attempts : List SelectorAttemptResult}
  {selector : RoutingGraphAccessPoint} {rule : CompiledRule}

theorem validateAttemptFacts_eq_ok
    (hmatch : candidates.map EvaluatedRoutingCandidate.toCompiledRoutingCandidate = plan.candidates)
    (hids : (plan.candidates.map CompiledRoutingCandidate.candidateId).Nodup)
    (hfacts : AreFacts candidates attempts) : validateAttemptFacts candidates attempts =
      .ok () := by
  refine forAll_eq_ok.mpr ?_
  rintro ⟨attempt, index⟩ hmem
  obtain ⟨hindex, candidate, hcandidate, hid, hedge⟩ :=
    hfacts index attempt (List.mem_zipIdx_iff_getElem?.mp hmem)
  have hfind := find?_candidateId hmatch hids hcandidate (l := candidates.reverse)
    fun other => List.mem_reverse
  refine rejectIf_eq_ok.mpr ?_
  rw [hid, hfind, hindex, hedge]
  simp

theorem selectorDecision_returns (hplan : IsCompiledPlan host graph plan selector rule)
    (hmatch : candidates.map EvaluatedRoutingCandidate.toCompiledRoutingCandidate = plan.candidates)
    (hfacts : AreFacts candidates attempts) :
    ∃ selected : Option EvaluatedRoutingCandidate,
      selectorDecision host plan candidates attempts =
        .ok (selected.map fun candidate => candidate.candidateId) ∧
      ∀ candidate ∈ selected, CanAttempt plan.selectorConfig candidates attempts candidate := by
  have hlength : candidates.length = rule.targets.length := by
    rw [hplan.candidates.length_eq, ← hmatch, List.length_map]
  have hpositions : (candidates.map fun candidate => candidate.selectorPosition).Nodup := by
    rw [map_of_matching hmatch]
    exact hplan.nodup_positions
  have hconfig := hplan.compiled.config
  unfold selectorDecision
  rw [hplan.selectorId, hplan.selectorBehaviorVersion, hplan.compiled.behaviorVersion,
    hplan.selectorConfig]
  generalize selector.routingRuleId = id at hconfig
  generalize rule.config = config at hconfig
  cases hconfig with
  | direct hone =>
    rw [hone] at hlength
    obtain ⟨candidate, rfl⟩ := List.length_eq_one_iff.mp hlength
    have hattempts : ∀ attempt ∈ attempts, attempt.candidateId = candidate.candidateId := by
      intro attempt hmem
      obtain ⟨i, hi⟩ := List.mem_iff_getElem?.mp hmem
      obtain ⟨-, other, hother, hid, -⟩ := hfacts i attempt hi
      rw [hid, List.mem_singleton.mp hother]
    obtain ⟨selected, hdecide, hselected⟩ := decideDirect_returns hattempts
    refine ⟨selected, ?_, hselected⟩
    rw [← hdecide]
    rfl
  | @orderedFallback maxAttempts retryOn _ _ _ =>
    obtain ⟨selected, hdecide, hselected⟩ :=
      @decideOrderedFallback_returns host maxAttempts retryOn candidates attempts hpositions
    exact ⟨selected, mapError_eq_ok.mpr hdecide, hselected⟩

/-- With facts of the plan the selector always decides, and selects what may be attempted next. -/
theorem selectNextRoutingCandidate_returns (hplan : IsCompiledPlan host graph plan selector rule)
    (hmatch : candidates.map EvaluatedRoutingCandidate.toCompiledRoutingCandidate = plan.candidates)
    (hfacts : AreFacts candidates attempts) :
    ∃ selected : Option EvaluatedRoutingCandidate,
      selectNextRoutingCandidate host plan candidates attempts =
        .ok ⟨selected.map fun candidate => candidate.candidateId, selected⟩ ∧
      ∀ candidate ∈ selected, CanAttempt plan.selectorConfig candidates attempts candidate := by
  have hids := hplan.nodup_candidateIds
  obtain ⟨selected, hdecision, hselected⟩ := selectorDecision_returns hplan hmatch hfacts
  refine ⟨selected, ?_, hselected⟩
  have hknown : ¬∃ id ∈ selected.map fun candidate => candidate.candidateId,
      ∀ candidate ∈ candidates, candidate.candidateId ≠ id := by
    rintro ⟨id, hid, hunknown⟩
    obtain ⟨candidate, hcandidate, rfl⟩ := Option.mem_map.mp hid
    exact hunknown candidate (hselected candidate hcandidate).mem rfl
  have hfind : candidates.find? (fun candidate => some candidate.candidateId =
      selected.map fun candidate => candidate.candidateId) = selected := by
    cases selected with
    | none => simp
    | some candidate =>
      simp only [Option.map_some, Option.some.injEq]
      exact find?_candidateId hmatch hids (hselected candidate rfl).mem fun other => Iff.rfl
  unfold selectNextRoutingCandidate validateEvaluatedCandidates
  rw [rejectIf_of_not (not_not.mpr hmatch), bind_ok,
    validateAttemptFacts_eq_ok hmatch hids hfacts, bind_ok, hdecision, bind_ok,
    rejectIf_of_not hknown, bind_ok, hfind]
  rfl

end Selection

/-! ### The run -/

theorem IsFailoverRun.start : IsFailoverRun plan [] where
  matching := by simp
  available := by simp
  facts := by simp
  distinct := List.nodup_nil
  bounded := Nat.zero_le _
  least := by simp
  ordered := .nil
  retried := by simp

theorem IsFailoverRun.map_candidateId {attempts : List FailoverAttempt}
    (h : IsFailoverRun plan attempts) :
    (attempts.map FailoverAttempt.result).map SelectorAttemptResult.candidateId =
      attempts.map fun attempt => attempt.candidate.candidateId := by
  rw [List.map_map]
  apply List.map_congr_left
  intro attempt hmem
  obtain ⟨i, hi⟩ := List.mem_iff_getElem?.mp hmem
  exact (h.facts i attempt hi).1

/-- The facts of a run are facts for every evaluation of its plan. -/
theorem IsFailoverRun.areFacts {attempts : List FailoverAttempt} (h : IsFailoverRun plan attempts)
    {candidates : List EvaluatedRoutingCandidate}
    (hmatch : candidates.map EvaluatedRoutingCandidate.toCompiledRoutingCandidate =
      plan.candidates) :
    AreFacts candidates (attempts.map FailoverAttempt.result) := by
  intro i result hresult
  rw [List.getElem?_map] at hresult
  obtain ⟨attempt, hattempt, rfl⟩ := Option.map_eq_some_iff.mp hresult
  obtain ⟨hid, hedge, hindex⟩ := h.facts i attempt hattempt
  have hmem := List.mem_of_getElem? hattempt
  have hcompiled := List.mem_map_of_mem
    (f := EvaluatedRoutingCandidate.toCompiledRoutingCandidate) (h.available attempt hmem).1
  rw [h.matching attempt hmem, ← hmatch] at hcompiled
  obtain ⟨candidate, hcandidate, hsame⟩ := List.mem_map.mp hcompiled
  refine ⟨hindex, candidate, hcandidate, ?_, ?_⟩
  · rw [hid, ← hsame]
  · rw [hedge, ← hsame]

/-- A candidate that is attempted later was not available at an earlier call, or comes after the one
attempted there. -/
theorem IsFailoverRun.lt_or_unavailable {attempts : List FailoverAttempt}
    (h : IsFailoverRun plan attempts)
    (hpositions : (plan.candidates.map CompiledRoutingCandidate.selectorPosition).Nodup)
    {earlier : FailoverAttempt} (hearlier : earlier ∈ attempts) {later : EvaluatedRoutingCandidate}
    (hlater : later.toCompiledRoutingCandidate ∈ plan.candidates)
    (hnew : later.candidateId ∉ attempts.map fun attempt => attempt.candidate.candidateId) :
    earlier.candidate.selectorPosition < later.selectorPosition ∨
      ∃ candidate ∈ earlier.candidates, candidate.candidateId = later.candidateId ∧
        candidate.available = false := by
  have hmatch := h.matching earlier hearlier
  rw [← hmatch] at hlater
  obtain ⟨same, hsame, hcompiled⟩ := List.mem_map.mp hlater
  have hid : same.candidateId = later.candidateId := by rw [hcompiled]
  have hposition : same.selectorPosition = later.selectorPosition := by rw [hcompiled]
  cases havailable : same.available with
  | false => exact .inr ⟨same, hsame, hid, havailable⟩
  | true =>
    have hle := h.least earlier hearlier same hsame havailable (by rw [hid]; exact hnew)
    have hne : earlier.candidate.selectorPosition ≠ same.selectorPosition := by
      intro heq
      rw [← map_of_matching hmatch] at hpositions
      have hcandidate :=
        List.inj_on_of_nodup_map hpositions (h.available earlier hearlier).1 hsame heq
      refine hnew (List.mem_map.mpr ⟨earlier, hearlier, ?_⟩)
      rw [hcandidate, hid]
    rw [hposition] at hle hne
    exact .inl (lt_of_le_of_ne hle hne)

/-- One more attempt that may be made keeps a run a run. -/
theorem IsFailoverRun.attempt {attempts : List FailoverAttempt} {round : FailoverRound}
    {candidate : EvaluatedRoutingCandidate} (h : IsFailoverRun plan attempts)
    (hpositions : (plan.candidates.map CompiledRoutingCandidate.selectorPosition).Nodup)
    (hmatch : round.candidates.map EvaluatedRoutingCandidate.toCompiledRoutingCandidate =
      plan.candidates)
    (hcan : CanAttempt plan.selectorConfig round.candidates (attempts.map FailoverAttempt.result)
      candidate) :
    IsFailoverRun plan (attempts ++ [round.attempt attempts.length candidate]) := by
  have hnew := hcan.new
  rw [h.map_candidateId] at hnew
  have hcompiled : candidate.toCompiledRoutingCandidate ∈ plan.candidates := by
    rw [← hmatch]
    exact List.mem_map_of_mem hcan.mem
  constructor
  · exact List.forall_mem_append.mpr ⟨h.matching, List.forall_mem_singleton.mpr hmatch⟩
  · exact List.forall_mem_append.mpr
      ⟨h.available, List.forall_mem_singleton.mpr ⟨hcan.mem, hcan.available⟩⟩
  · -- the facts that the next call is given are those of the attempts
    intro i attempt hi
    rw [List.getElem?_append] at hi
    split_ifs at hi with hlt
    · exact h.facts i attempt hi
    · obtain ⟨hzero, hattempt⟩ := List.getElem?_eq_some_iff.mp hi
      have hindex : i = attempts.length := by
        simp only [List.length_singleton] at hzero
        omega
      subst hindex
      simp only [Nat.sub_self, List.getElem_cons_zero] at hattempt
      rw [← hattempt]
      exact ⟨rfl, rfl, rfl⟩
  · rw [List.map_append, List.map_singleton]
    exact List.nodup_append.mpr ⟨h.distinct, List.nodup_singleton _, fun id hid other hother => by
      rw [List.mem_singleton.mp hother]
      exact fun heq => hnew (heq ▸ hid)⟩
  · have hbounded := hcan.bounded
    rw [List.length_map] at hbounded
    rw [List.length_append, List.length_singleton]
    exact hbounded
  · -- the candidate is the first of those that are left
    intro attempt hmem other hother havailable hopen
    rw [List.map_append, List.mem_append, not_or] at hopen
    obtain hmem | hmem := List.mem_append.mp hmem
    · exact h.least attempt hmem other hother havailable hopen.1
    · rw [List.mem_singleton.mp hmem] at hother ⊢
      exact hcan.least other hother havailable (by rw [h.map_candidateId]; exact hopen.1)
  · rw [List.pairwise_append]
    refine ⟨h.ordered, List.pairwise_singleton _ _, ?_⟩
    intro earlier hearlier later hlater
    rw [List.mem_singleton.mp hlater]
    exact h.lt_or_unavailable hpositions hearlier hcompiled hnew
  · -- the attempt before it allows another one
    rw [List.dropLast_concat]
    obtain rfl | ⟨front, last, rfl⟩ := attempts.eq_nil_or_concat
    · simp
    · rw [List.concat_eq_append] at h hcan ⊢
      have hretried := h.retried
      rw [List.dropLast_concat] at hretried
      refine List.forall_mem_append.mpr ⟨hretried, List.forall_mem_singleton.mpr ?_⟩
      exact hcan.retried last.result (by simp)

/-- A run over rounds that evaluate the plan always returns: it is over once the selector selects
nothing, or the rounds are. -/
theorem failover_returns {selector : RoutingGraphAccessPoint} {rule : CompiledRule}
    (hplan : IsCompiledPlan host graph plan selector rule) {rounds : List FailoverRound} :
    ∀ {attempts : List FailoverAttempt}, IsFailoverRun plan attempts →
      (∀ round ∈ rounds, round.candidates.map
        EvaluatedRoutingCandidate.toCompiledRoutingCandidate = plan.candidates) →
      ∃ run, failover host plan rounds attempts = .ok run ∧ IsFailoverRun plan run ∧
        (∀ attempt ∈ run, attempt ∈ attempts ∨
          ∃ round ∈ rounds, attempt.candidates = round.candidates) ∧
        (run.length < attempts.length + rounds.length → ∃ round ∈ rounds,
          selectNextRoutingCandidate host plan round.candidates (run.map FailoverAttempt.result) =
            .ok ⟨none, none⟩) := by
  induction rounds with
  | nil =>
    intro attempts hrun _
    exact ⟨attempts, rfl, hrun, fun attempt hmem => .inl hmem, by simp⟩
  | cons round rounds ih =>
    intro attempts hrun hmatch
    obtain ⟨hround, hrounds⟩ := List.forall_mem_cons.mp hmatch
    obtain ⟨selected, hselect, hcan⟩ :=
      selectNextRoutingCandidate_returns hplan hround (hrun.areFacts hround)
    unfold failover
    rw [hselect, bind_ok]
    cases selected with
    | none =>
      exact ⟨attempts, rfl, hrun, fun attempt hmem => .inl hmem,
        fun _ => ⟨round, List.mem_cons_self, hselect⟩⟩
    | some candidate =>
      have hnext := hrun.attempt hplan.nodup_positions hround (hcan candidate rfl)
      obtain ⟨run, hreturns, hisRun, horigin, hover⟩ := ih hnext hrounds
      refine ⟨run, hreturns, hisRun, ?_, ?_⟩
      · intro attempt hmem
        obtain hold | ⟨other, hother, hsame⟩ := horigin attempt hmem
        · obtain hold | hnew := List.mem_append.mp hold
          · exact .inl hold
          · rw [List.mem_singleton.mp hnew]
            exact .inr ⟨round, List.mem_cons_self, rfl⟩
        · exact .inr ⟨other, List.mem_cons_of_mem _ hother, hsame⟩
      · intro hshort
        rw [List.length_append, List.length_singleton] at hover
        rw [List.length_cons] at hshort
        obtain ⟨last, hlast, hnone⟩ := hover (by omega)
        exact ⟨last, List.mem_cons_of_mem _ hlast, hnone⟩

/-- While the availability stays the same, the positions increase. -/
theorem IsFailoverRun.increasing {run : List FailoverAttempt} (h : IsFailoverRun plan run)
    (hids : (plan.candidates.map CompiledRoutingCandidate.candidateId).Nodup)
    (hsame : ∀ left ∈ run, ∀ right ∈ run, left.candidates = right.candidates) :
    run.Pairwise fun earlier later =>
      earlier.candidate.selectorPosition < later.candidate.selectorPosition := by
  refine h.ordered.imp_of_mem ?_
  intro earlier later hearlier hlater hordered
  obtain hlt | ⟨candidate, hcandidate, hid, hunavailable⟩ := hordered
  · exact hlt
  · rw [hsame earlier hearlier later hlater] at hcandidate
    obtain ⟨hmem, havailable⟩ := h.available later hlater
    rw [eq_of_candidateId_eq (h.matching later hlater) hids hcandidate hmem hid, havailable]
      at hunavailable
    cases hunavailable

/-- Every run of a compiled plan ends within the attempts its selector allows.  It attempts
available candidates only, each at most once, in the order of their positions as far as they were
available, and goes on only after a failure that the selector retries on. -/
theorem failover_run {input : CompileRoutingPlanInput} {budget budget' : GraphCompilationBudget}
    (hplan : compileRoutingPlan host input budget = .ok (plan, budget'))
    {rounds : List FailoverRound}
    (hrounds : ∀ round ∈ rounds, round.candidates.map
      EvaluatedRoutingCandidate.toCompiledRoutingCandidate = plan.candidates) :
    ∃ run, failover host plan rounds [] = .ok run ∧
      run.length ≤ plan.selectorConfig.maximumAttempts ∧
      (run.length < rounds.length → ∃ round ∈ rounds,
        selectNextRoutingCandidate host plan round.candidates (run.map FailoverAttempt.result) =
          .ok ⟨none, none⟩) ∧
      (run.map fun attempt => attempt.candidate.candidateId).Nodup ∧
      (∀ attempt ∈ run, attempt.candidate ∈ attempt.candidates ∧ attempt.candidate.available) ∧
      (run.Pairwise fun earlier later =>
        earlier.candidate.selectorPosition < later.candidate.selectorPosition ∨
          ∃ candidate ∈ earlier.candidates,
            candidate.candidateId = later.candidate.candidateId ∧ candidate.available = false) ∧
      ((∀ left ∈ rounds, ∀ right ∈ rounds, left.candidates = right.candidates) →
        run.Pairwise fun earlier later =>
          earlier.candidate.selectorPosition < later.candidate.selectorPosition) ∧
      ∀ attempt ∈ run.dropLast, MayRetry plan.selectorConfig attempt.result := by
  obtain ⟨-, -, selector, rule, hcompiled⟩ := compileRoutingPlan_returns hplan
  obtain ⟨run, hreturns, hrun, horigin, hover⟩ := failover_returns hcompiled .start hrounds
  have horigin : ∀ attempt ∈ run, ∃ round ∈ rounds, attempt.candidates = round.candidates := by
    intro attempt hmem
    exact (horigin attempt hmem).resolve_left List.not_mem_nil
  refine ⟨run, hreturns, hrun.bounded, by simpa using hover, hrun.distinct, hrun.available,
    hrun.ordered, ?_, hrun.retried⟩
  intro hsame
  apply hrun.increasing hcompiled.nodup_candidateIds
  intro left hleft right hright
  obtain ⟨leftRound, hleftRound, heqLeft⟩ := horigin left hleft
  obtain ⟨rightRound, hrightRound, heqRight⟩ := horigin right hright
  rw [heqLeft, heqRight]
  exact hsame leftRound hleftRound rightRound hrightRound

/-! ### A candidate that recovers -/

def orderedInput : CompileRoutingPlanInput where
  entryAccessPointId := "entry"
  requestedModel := "model"
  graph := ⟨⟨[orderedAccessPoint "entry"], by decide⟩, referringInput.graph.providerModels⟩

/-- A round in which only candidates from a position on are available, and an attempt times out. -/
def timeoutRound (plan : CompiledRoutingPlan) (position : Int) : FailoverRound where
  candidates := plan.candidates.map fun candidate =>
    { candidate with available := position ≤ candidate.selectorPosition, unavailableReason := none }
  outcome := .failed
  failureClass := some .timeout
  outputCommitted := false

theorem timeoutRound_matches (plan : CompiledRoutingPlan) (position : Int) :
    (timeoutRound plan position).candidates.map
      EvaluatedRoutingCandidate.toCompiledRoutingCandidate = plan.candidates := by
  simp [timeoutRound, Function.comp_def]

/-- The candidate of position 0 is only available at the second call, and is attempted after the one
of position 1. -/
theorem recoveredCandidate_attempted :
    ∃ plan budget', compileRoutingPlan plainHost orderedInput plainBudget = .ok (plan, budget') ∧
      ∃ run, failover plainHost plan [timeoutRound plan 1, timeoutRound plan 0] [] = .ok run ∧
        ¬run.Pairwise fun earlier later =>
          earlier.candidate.selectorPosition < later.candidate.selectorPosition := by
  have hrun : (compileRoutingPlan plainHost orderedInput plainBudget).toOption.any (fun compiled =>
      (failover plainHost compiled.1 [timeoutRound compiled.1 1, timeoutRound compiled.1 0]
        []).toOption.any fun run =>
          run.map (fun attempt => attempt.candidate.selectorPosition) = [1, 0]) = true := by
    decide +kernel
  obtain ⟨⟨plan, budget'⟩, hcompiled, htest⟩ := exists_of_test hrun
  obtain ⟨run, hreturns, hpositions⟩ := exists_of_test htest
  refine ⟨plan, budget', hcompiled, run, hreturns, ?_⟩
  intro hincreasing
  have hsorted := List.pairwise_map.mpr hincreasing
  rw [of_decide_eq_true hpositions] at hsorted
  revert hsorted
  decide

theorem failover_run_recovered :
    ∃ plan budget', compileRoutingPlan plainHost orderedInput plainBudget = .ok (plan, budget') ∧
      ∃ run, failover plainHost plan [timeoutRound plan 1, timeoutRound plan 0] [] = .ok run ∧
        run.length ≤ plan.selectorConfig.maximumAttempts := by
  have hrun : (compileRoutingPlan plainHost orderedInput plainBudget).toOption.any
      (fun _ => true) = true := by
    decide +kernel
  obtain ⟨⟨plan, budget'⟩, hcompiled, -⟩ := exists_of_test hrun
  have hrounds : ∀ round ∈ [timeoutRound plan 1, timeoutRound plan 0], round.candidates.map
      EvaluatedRoutingCandidate.toCompiledRoutingCandidate = plan.candidates := by
    intro round hmem
    simp only [List.mem_cons, List.not_mem_nil, or_false] at hmem
    obtain rfl | rfl := hmem
    · exact timeoutRound_matches plan 1
    · exact timeoutRound_matches plan 0
  obtain ⟨run, hreturns, hbounded, -⟩ := failover_run hcompiled hrounds
  exact ⟨plan, budget', hcompiled, run, hreturns, hbounded⟩

end Frely.ModelAccess
