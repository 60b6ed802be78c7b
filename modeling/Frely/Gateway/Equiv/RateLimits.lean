import Frely.Gateway.RateLimits
import Frely.Lib.TokenBucket

/-!
# What requests take from their buckets

A request takes a token from every bucket it checks before one that is empty (`consumeAll_spec`): an
accepted request has taken one from each of its buckets, a rejected one from those before the one
that rejects it.  A bucket is `TokenBucket.Filled` along every run, which bounds the requests that
are accepted in any time (`rateLimits_bounded`).
-/

namespace Frely.Gateway

open TokenBucket Machine

variable {policies : String → RateLimitPolicy} {buckets : Buckets} {nowMs : Int}

/-! ### Requests -/

/-- Only policies on requests are limits here. -/
def isLimited (assignment : ScopeRateLimitPolicyAssignment) : Bool :=
  assignment.rateLimitPolicy.metric = "requests"

/-- The assignments that a request takes tokens for. -/
def limited (call : RateLimitCall) : List ScopeRateLimitPolicyAssignment :=
  (call.assignments.filter isGovernance).filter isLimited

/-- How many of the assignments have a bucket. -/
def takes (key : String) (assignments : List ScopeRateLimitPolicyAssignment) : Nat :=
  assignments.countP (bucketKey · = key)

/-- Every bucket belongs to one policy. -/
def Consistent (policies : String → RateLimitPolicy)
    (assignments : List ScopeRateLimitPolicyAssignment) : Prop :=
  ∀ assignment ∈ assignments, assignment.rateLimitPolicy = policies (bucketKey assignment)

abbrev RateLimitStep := Step RateLimitCall (Except RelayError Unit) Buckets

/-- When the requests of a bucket were accepted. -/
def acceptances (key : String) (steps : List RateLimitStep) : List Int :=
  steps.flatMap fun t =>
    match t.output with
    | .ok () => if 0 < takes key (limited t.input) then [t.input.nowMs] else []
    | .error _ => []

/-! ### Levels -/

variable {key : String}

/-- The tokens of a bucket at a moment. -/
def level (policies : String → RateLimitPolicy) (buckets : Buckets) (key : String) (nowMs : Int) :
    ℚ :=
  refilled buckets key (policies key) nowMs

theorem refillPerMs_nonneg (policy : RateLimitPolicy) : 0 ≤ policy.refillPerMs := by
  have hwindow : (0 : ℚ) ≤ policy.windowSeconds * 1000 := by
    have hpos : (0 : ℚ) < policy.windowSeconds := Int.cast_pos.mpr policy.windowSeconds_pos
    linarith
  exact div_nonneg policy.limitValue_nonneg hwindow

theorem level_le_burst (key : String) : level policies buckets key nowMs ≤
    (policies key).burstValue :=
  min_le_left _ _

theorem level_noBuckets (key : String) :
    level policies noBuckets key nowMs = (policies key).burstValue := by
  simp [level, refilled, noBuckets]

theorem Buckets.set_self (key : String) (bucket : RateLimitBucket) :
    buckets.set key bucket key = some bucket := if_pos rfl

theorem Buckets.set_of_ne {other : String} (h : other ≠ key) (bucket : RateLimitBucket) :
    buckets.set key bucket other = buckets other := if_neg h

/-- What time adds to a bucket. -/
theorem level_later {key : String} {later : Int} (hlater : nowMs ≤ later)
    (hpast : ∀ bucket ∈ buckets key, bucket.updatedAtMs ≤ nowMs) :
    level policies buckets key nowMs ≤ level policies buckets key later ∧
      level policies buckets key later ≤
        level policies buckets key nowMs + (policies key).refillPerMs * (later - nowMs) := by
  have hrate := refillPerMs_nonneg (policies key)
  have hspan : (0 : ℚ) ≤ later - nowMs := sub_nonneg.mpr (Int.cast_le.mpr hlater)
  have hgain : 0 ≤ (policies key).refillPerMs * ((later : ℚ) - nowMs) := mul_nonneg hrate hspan
  cases hbucket : buckets key with
  | none =>
    have hfull : ∀ moment, level policies buckets key moment = (policies key).burstValue := by
      intro moment
      simp [level, refilled, hbucket]
    rw [hfull, hfull]
    exact ⟨le_refl _, by linarith⟩
  | some bucket =>
    have hupdated := hpast bucket hbucket
    have hlevel : ∀ moment, bucket.updatedAtMs ≤ moment →
        level policies buckets key moment = min (policies key).burstValue
          (bucket.tokens + ((moment : ℚ) - bucket.updatedAtMs) * (policies key).refillPerMs) := by
      intro moment hmoment
      have helapsed : max 0 (moment - bucket.updatedAtMs) = moment - bucket.updatedAtMs :=
        max_eq_right (by omega)
      simp only [level, refilled, hbucket, Option.getD_some, helapsed]
      push_cast
      rfl
    rw [hlevel nowMs hupdated, hlevel later (by omega)]
    have hsplit : ((later : ℚ) - bucket.updatedAtMs) * (policies key).refillPerMs =
        (nowMs - bucket.updatedAtMs) * (policies key).refillPerMs +
          (policies key).refillPerMs * (later - nowMs) := by
      rw [mul_comm (policies key).refillPerMs, ← add_mul]
      congr 1
      linarith
    constructor
    · apply min_le_min (le_refl _)
      linarith
    · rw [← min_add_add_right]
      apply min_le_min
      · linarith
      · linarith

/-! ### Taking tokens -/

variable {after : Buckets} {assignment : ScopeRateLimitPolicyAssignment}

/-- Some tokens are gone from the buckets with these keys, and nothing else has changed. -/
structure Taken (policies : String → RateLimitPolicy) (nowMs : Int) (before after : Buckets)
    (amount : String → Nat) (keys : List String) : Prop where
  level_eq : ∀ key, level policies after key nowMs = level policies before key nowMs - amount key
  unchanged : ∀ key ∉ keys, after key = before key
  updated : ∀ key ∈ keys, ∀ bucket ∈ after key, bucket.updatedAtMs ≤ nowMs

theorem taken_nil : Taken policies nowMs buckets buckets (fun _ => 0) [] where
  level_eq := by simp
  unchanged := fun _ _ => rfl
  updated := by simp

theorem Taken.trans {before between : Buckets} {amount more : String → Nat}
    {keys others : List String} (h : Taken policies nowMs before between amount keys)
    (hmore : Taken policies nowMs between after more others) :
    Taken policies nowMs before after (fun key => amount key + more key) (keys ++ others) where
  level_eq := by
    intro key
    rw [hmore.level_eq, h.level_eq]
    push_cast
    linarith
  unchanged := by
    intro key hkey
    rw [List.mem_append, not_or] at hkey
    rw [hmore.unchanged key hkey.2, h.unchanged key hkey.1]
  updated := by
    intro key hkey
    by_cases hother : key ∈ others
    · exact hmore.updated key hother
    · rw [hmore.unchanged key hother]
      have hmem : key ∈ keys := (List.mem_append.mp hkey).resolve_right hother
      exact h.updated key hmem

/-- A bucket is written with what is left of it. -/
theorem taken_set {amount : Nat} {tokens : ℚ}
    (h : tokens = level policies buckets key nowMs - amount) :
    Taken policies nowMs buckets (buckets.set key ⟨tokens, nowMs⟩)
      (fun other => if other = key then amount else 0) [key] where
  level_eq := by
    intro other
    rcases eq_or_ne other key with rfl | hne
    · have hle : tokens ≤ (policies other).burstValue := by
        have hburst : level policies buckets other nowMs ≤ (policies other).burstValue :=
          level_le_burst other
        have hamount : (0 : ℚ) ≤ amount := Nat.cast_nonneg amount
        linarith
      have hset : level policies (buckets.set other ⟨tokens, nowMs⟩) other nowMs = tokens := by
        simp only [level, refilled, Buckets.set_self, Option.getD_some, sub_self, max_self,
          Int.cast_zero, zero_mul, add_zero]
        exact min_eq_right hle
      rw [hset, h, if_pos rfl]
    · have hset : level policies (buckets.set key ⟨tokens, nowMs⟩) other nowMs =
          level policies buckets other nowMs := by
        simp only [level, refilled, Buckets.set_of_ne hne]
      rw [hset, if_neg hne]
      simp
  unchanged := by
    intro other hother
    exact Buckets.set_of_ne (by simpa using hother) _
  updated := by
    intro other hother bucket hbucket
    rw [List.mem_singleton.mp hother, Buckets.set_self] at hbucket
    cases hbucket
    exact le_refl _

/-- A token is taken if there is one. -/
theorem consume_cases (key : String) :
    (1 ≤ level policies buckets key nowMs ∧
      ∃ after, consume buckets key (policies key) nowMs = (true, after) ∧
        Taken policies nowMs buckets after (fun other => if other = key then 1 else 0) [key]) ∨
    (level policies buckets key nowMs < 1 ∧
      ∃ after, consume buckets key (policies key) nowMs = (false, after) ∧
        Taken policies nowMs buckets after (fun other => if other = key then 0 else 0) [key]) := by
  unfold consume
  by_cases hempty : refilled buckets key (policies key) nowMs < 1
  · refine .inr ⟨hempty, _, by rw [if_pos hempty], taken_set ?_⟩
    simp [level]
  · refine .inl ⟨not_lt.mp hempty, _, by rw [if_neg hempty], taken_set ?_⟩
    simp [level]

/-- The buckets could pay for what was taken. -/
def Affords (policies : String → RateLimitPolicy) (nowMs : Int) (buckets : Buckets)
    (assignments : List ScopeRateLimitPolicyAssignment) : Prop :=
  ∀ key, 0 < takes key assignments →
    (takes key assignments : ℚ) ≤ level policies buckets key nowMs

theorem takes_cons (key : String) (assignment : ScopeRateLimitPolicyAssignment)
    (rest : List ScopeRateLimitPolicyAssignment) :
    takes key (assignment :: rest) = takes key rest + if key =
      bucketKey assignment then 1 else 0 := by
  rw [takes, List.countP_cons]
  by_cases hkey : key = bucketKey assignment
  · simp [takes, hkey]
  · simp [takes, hkey, Ne.symm hkey]

theorem affords_cons {rest : List ScopeRateLimitPolicyAssignment}
    (hlevel : 1 ≤ level policies buckets (bucketKey assignment) nowMs)
    (htaken : Taken policies nowMs buckets after
      (fun other => if other = bucketKey assignment then 1 else 0) [bucketKey assignment])
    (h : Affords policies nowMs after rest) :
    Affords policies nowMs buckets (assignment :: rest) := by
  intro key hpos
  have hafter := htaken.level_eq key
  rw [takes_cons] at hpos ⊢
  rcases Nat.eq_zero_or_pos (takes key rest) with hzero | hrest
  · rw [hzero] at hpos ⊢
    by_cases hkey : key = bucketKey assignment
    · subst hkey
      simpa using hlevel
    · simp [hkey] at hpos
  · have hle := h key hrest
    push_cast at hafter ⊢
    linarith

theorem consumeAll_of_consume (hlimited : isLimited assignment = true) {taken : Bool}
    (h : consume buckets (bucketKey assignment) assignment.rateLimitPolicy nowMs = (taken, after))
    (rest : List ScopeRateLimitPolicyAssignment) :
    consumeAll nowMs (assignment :: rest) buckets =
      if taken then consumeAll nowMs rest after
      else (.error (rateLimitExceeded assignment.scopeRef), after) := by
  have hmetric : ¬assignment.rateLimitPolicy.metric ≠ "requests" := by
    simpa [isLimited] using hlimited
  rw [consumeAll, if_neg hmetric, h]

/-- What a request takes: a token from each bucket it checks, up to the one that rejects it. -/
theorem consumeAll_spec {assignments : List ScopeRateLimitPolicyAssignment}
    (h : Consistent policies (assignments.filter isLimited)) (buckets : Buckets) :
    (∃ after, consumeAll nowMs assignments buckets = (.ok (), after) ∧
      Affords policies nowMs buckets (assignments.filter isLimited) ∧
      Taken policies nowMs buckets after (fun key => takes key (assignments.filter isLimited))
        ((assignments.filter isLimited).map bucketKey)) ∨
    (∃ earlier rejecting later after, assignments.filter isLimited = earlier ++ rejecting :: later ∧
      consumeAll nowMs assignments buckets = (.error (rateLimitExceeded rejecting.scopeRef),
        after) ∧
      Affords policies nowMs buckets earlier ∧
      level policies buckets (bucketKey rejecting) nowMs - takes (bucketKey rejecting) earlier < 1 ∧
      Taken policies nowMs buckets after (fun key => takes key earlier)
        ((earlier ++ [rejecting]).map bucketKey)) := by
  induction assignments generalizing buckets with
  | nil =>
    refine .inl ⟨buckets, rfl, ?_, taken_nil⟩
    intro key hpos
    simp [takes] at hpos
  | cons assignment rest ih =>
    by_cases hlimited : isLimited assignment = true
    · rw [List.filter_cons_of_pos hlimited] at h ⊢
      have hpolicy : assignment.rateLimitPolicy = policies (bucketKey assignment) :=
        h assignment List.mem_cons_self
      have hconsistent : Consistent policies (rest.filter isLimited) :=
        fun other hmem => h other (List.mem_cons_of_mem _ hmem)
      rcases @consume_cases policies buckets nowMs (bucketKey assignment) with
        ⟨hlevel, between, hconsume, htaken⟩ | ⟨hlevel, after, hconsume, htaken⟩
      · -- a token is taken, and the loop goes on
        rw [← hpolicy] at hconsume
        rw [consumeAll_of_consume hlimited hconsume, if_pos rfl]
        rcases ih hconsistent between with ⟨after, hall, hafford, hmore⟩ |
            ⟨earlier, rejecting, later, after, hsplit, hall, hafford, hshort, hmore⟩
        · refine .inl ⟨after, hall, affords_cons hlevel htaken hafford, ?_⟩
          have hboth := htaken.trans hmore
          simp only [takes_cons, List.map_cons, Nat.add_comm (takes _ _)]
          exact hboth
        · refine .inr ⟨assignment :: earlier, rejecting, later, after, ?_, hall,
            affords_cons hlevel htaken hafford, ?_, ?_⟩
          · rw [hsplit]
            rfl
          · rw [htaken.level_eq] at hshort
            rw [takes_cons]
            push_cast at hshort ⊢
            linarith
          · have hboth := htaken.trans hmore
            simp only [takes_cons, List.cons_append, List.map_cons, Nat.add_comm (takes _ _)]
            exact hboth
      · -- the loop is over
        refine .inr ⟨[], assignment, rest.filter isLimited, after, rfl, ?_, ?_, ?_, ?_⟩
        · rw [← hpolicy] at hconsume
          rw [consumeAll_of_consume hlimited hconsume, if_neg (by decide)]
        · intro key hpos
          simp [takes] at hpos
        · simpa [takes] using hlevel
        · simpa [takes] using htaken
    · rw [List.filter_cons_of_neg hlimited] at h ⊢
      have hmetric : assignment.rateLimitPolicy.metric ≠ "requests" := by
        simpa [isLimited] using hlimited
      have hstep : consumeAll nowMs (assignment :: rest) buckets =
        consumeAll nowMs rest buckets := by
        rw [consumeAll, if_pos hmetric]
      rw [hstep]
      exact ih h buckets

/-! ### Runs -/

variable {accepted : List Int}

/-- The steps of a gateway that started without buckets. -/
def requests (calls : List RateLimitCall) : List RateLimitStep :=
  trace checkGovernance noBuckets calls

/-- A bucket that was last written before now, and the times its requests were accepted at. -/
structure BucketInv (policies : String → RateLimitPolicy) (key : String) (nowMs : Int)
    (accepted : List Int) (buckets : Buckets) : Prop where
  past : ∀ bucket ∈ buckets key, bucket.updatedAtMs ≤ nowMs
  filled : Filled (policies key).burstValue (policies key).refillPerMs nowMs
    (level policies buckets key nowMs) accepted

theorem bucketInv_noBuckets (key : String) : BucketInv policies key nowMs [] noBuckets where
  past := by simp [noBuckets]
  filled := by
    rw [level_noBuckets]
    exact filled_nil (policies key).burstValue_nonneg (refillPerMs_nonneg _)

theorem BucketInv.wait {later : Int} (h : BucketInv policies key nowMs accepted buckets)
    (hlater : nowMs ≤ later) : BucketInv policies key later accepted buckets where
  past := fun bucket hbucket => le_trans (h.past bucket hbucket) hlater
  filled := by
    obtain ⟨hmore, hgain⟩ := @level_later policies _ _ _ _ hlater h.past
    have hnonneg := h.filled.level_nonneg
    exact h.filled.wait (refillPerMs_nonneg _) hlater (by linarith) (level_le_burst key) hgain

/-- What is left after some tokens were taken, one of them for an accepted request or none. -/
theorem BucketInv.taken {assignments : List ScopeRateLimitPolicyAssignment} {keys : List String}
    {isAccepted : Bool} (h : BucketInv policies key nowMs accepted buckets)
    (hafford : Affords policies nowMs buckets assignments)
    (htaken : Taken policies nowMs buckets after (fun other => takes other assignments) keys)
    (haccepted : isAccepted = true → 0 < takes key assignments) :
    BucketInv policies key nowMs (accepted ++ if isAccepted then [nowMs] else []) after where
  past := by
    by_cases hkey : key ∈ keys
    · exact htaken.updated key hkey
    · rw [htaken.unchanged key hkey]
      exact h.past
  filled := by
    have hlevel := htaken.level_eq key
    have hrate := refillPerMs_nonneg (policies key)
    have hleft : 0 ≤ level policies after key nowMs := by
      rcases Nat.eq_zero_or_pos (takes key assignments) with hzero | hpos
      · have hnonneg := h.filled.level_nonneg
        rw [hlevel, hzero]
        push_cast
        linarith
      · have hle := hafford key hpos
        linarith
    cases isAccepted with
    | false =>
      have hamount : (0 : ℚ) ≤ takes key assignments := Nat.cast_nonneg _
      rw [if_neg (by decide), List.append_nil]
      exact h.filled.lose hleft (by linarith)
    | true =>
      have hone : (1 : ℚ) ≤ takes key assignments := by
        exact_mod_cast haccepted rfl
      rw [if_pos rfl]
      exact (h.filled.spend hrate (by linarith)).lose hleft (by linarith)

theorem bucketInv_step {call : RateLimitCall} (h : BucketInv policies key nowMs accepted buckets)
    (hnow : nowMs ≤ call.nowMs) (hconsistent : Consistent policies (limited call)) :
    BucketInv policies key call.nowMs
      (accepted ++ acceptances key [stepOf checkGovernance buckets call])
      (checkGovernance call buckets).2 := by
  have hwait := h.wait hnow
  have hspec := @consumeAll_spec _ call.nowMs _ hconsistent buckets
  have hstep : checkGovernance call buckets =
    consumeAll call.nowMs (call.assignments.filter isGovernance) buckets := rfl
  rcases hspec with ⟨after, hall, hafford, htaken⟩ |
      ⟨earlier, rejecting, later, after, -, hall, hafford, -, htaken⟩
  · have haccepted : acceptances key [stepOf checkGovernance buckets call] =
        if decide (0 < takes key (limited call)) then [call.nowMs] else [] := by
      simp [acceptances, stepOf, hstep, hall]
    rw [haccepted, hstep, hall]
    exact hwait.taken hafford htaken fun hpos => of_decide_eq_true hpos
  · have hrejected : acceptances key [stepOf checkGovernance buckets call] =
        if false then [call.nowMs] else [] := by
      simp [acceptances, stepOf, hstep, hall]
    rw [hrejected, hstep, hall]
    exact hwait.taken hafford htaken nofun

theorem bucketInv_run (key : String) {calls : List RateLimitCall} {start : Int}
    (htimed : Timed RateLimitCall.nowMs start calls)
    (hconsistent : ∀ call ∈ calls, Consistent policies (limited call)) :
    BucketInv policies key (lastTime RateLimitCall.nowMs start calls)
      (acceptances key (requests calls)) (final checkGovernance noBuckets calls) := by
  have hallowed : ∀ t ∈ requests calls, Consistent policies (limited t.input) := by
    intro t ht
    exact hconsistent _ (input_mem ht)
  have hstart : BucketInv policies key start [] noBuckets := bucketInv_noBuckets key
  have hrun := @timed _ _ _ checkGovernance _ _ (fun accepted t => accepted ++ acceptances key [t])
    (BucketInv policies key) _
    (fun now call accepted buckets h hnow hall => bucketInv_step h hnow hall) _ _ _ hstart _ htimed
    hallowed
  have hrecord : (requests calls).foldl (fun accepted t => accepted ++ acceptances key [t]) [] =
      acceptances key (requests calls) := by
    rw [acceptances, List.flatMap_eq_foldl]
    simp [acceptances]
  rw [← hrecord]
  exact hrun

/-- What a rejected request leaves behind: the buckets it checked before the one that rejects it
have lost a token for each check, and no other bucket has lost any. -/
def LeavesEarlierTaken (policies : String → RateLimitPolicy) (t : RateLimitStep) : Prop :=
  ∃ earlier rejecting later, limited t.input = earlier ++ rejecting :: later ∧
    t.output = .error (rateLimitExceeded rejecting.scopeRef) ∧
    level policies t.before (bucketKey rejecting) t.input.nowMs -
      takes (bucketKey rejecting) earlier < 1 ∧
    ∀ key, level policies t.after key t.input.nowMs =
      level policies t.before key t.input.nowMs - takes key earlier

/-- **Rate limits along a run**: how many requests of a bucket are accepted in a stretch of time,
and what a rejected request takes. -/
theorem rateLimits_bounded (policies : String → RateLimitPolicy) (calls : List RateLimitCall)
    (start : Int) (htimed : Timed RateLimitCall.nowMs start calls)
    (hconsistent : ∀ call ∈ calls, Consistent policies (limited call)) :
    (∀ key first last, first ≤ last →
      (between first last (acceptances key (requests calls)) : ℚ) ≤
        (policies key).burstValue + (policies key).refillPerMs * (last - first)) ∧
    ∀ t ∈ requests calls, t.output ≠ .ok () → LeavesEarlierTaken policies t := by
  constructor
  · intro key first last hle
    exact (bucketInv_run key htimed hconsistent).filled.between_le first last hle
  · intro t ht hrejected
    have hstep := eq_stepOf_of_mem ht
    have hspec := @consumeAll_spec _ t.input.nowMs _ (hconsistent _ (input_mem ht)) t.before
    have hcall : checkGovernance t.input t.before =
      consumeAll t.input.nowMs (t.input.assignments.filter isGovernance) t.before := rfl
    rw [← hcall] at hspec
    have houtput : t.output = (checkGovernance t.input t.before).1 := congrArg Step.output hstep
    have hafter : t.after = (checkGovernance t.input t.before).2 := congrArg Step.after hstep
    rcases hspec with ⟨after, hall, -, -⟩ |
        ⟨earlier, rejecting, later, after, hsplit, hall, -, hshort, htaken⟩
    · rw [houtput, hall] at hrejected
      exact absurd rfl hrejected
    · refine ⟨earlier, rejecting, later, hsplit, ?_, hshort, ?_⟩
      · rw [houtput, hall]
      · intro key
        rw [hafter, hall]
        exact htaken.level_eq key

/-! ### A request that is rejected by its second bucket -/

/-- Ten requests a minute, and as many at once. -/
def teamPolicy : RateLimitPolicy :=
  ⟨"rl_team", "requests", "governance", "enabled", 10, 60, 10, by decide, by decide, by decide⟩

/-- One request a minute. -/
def userPolicy : RateLimitPolicy :=
  ⟨"rl_user", "requests", "governance", "enabled", 1, 60, 1, by decide, by decide, by decide⟩

def samplePolicies (key : String) : RateLimitPolicy :=
  if key = "rl_user:user:u" then userPolicy else teamPolicy

def sampleCall (nowMs : Int) : RateLimitCall :=
  ⟨nowMs, [⟨"team:t", "enabled", teamPolicy⟩, ⟨"user:u", "enabled", userPolicy⟩]⟩

def sampleCalls : List RateLimitCall := [sampleCall 0, sampleCall 0]

theorem consistent_sample (nowMs : Int) : Consistent samplePolicies
    (limited (sampleCall nowMs)) := by
  intro assignment hmem
  simp only [limited, sampleCall] at hmem
  have hmem := List.mem_of_mem_filter (List.mem_of_mem_filter hmem)
  simp only [List.mem_cons, List.not_mem_nil, or_false] at hmem
  rcases hmem with rfl | rfl
  · decide
  · decide

theorem rateLimits_bounded_sample :
    (∀ key first last, first ≤ last →
      (between first last (acceptances key (requests sampleCalls)) : ℚ) ≤
        (samplePolicies key).burstValue + (samplePolicies key).refillPerMs * (last - first)) ∧
    ∀ t ∈ requests sampleCalls, t.output ≠ .ok () → LeavesEarlierTaken samplePolicies t := by
  apply rateLimits_bounded samplePolicies sampleCalls 0 (by decide)
  intro call hcall
  simp only [sampleCalls, List.mem_cons, List.not_mem_nil, or_false, or_self] at hcall
  rw [hcall]
  exact consistent_sample 0

/-- A rejected request takes a token from a bucket that does not reject it. -/
theorem rejected_takes :
    ¬∀ (policies : String → RateLimitPolicy) (calls : List RateLimitCall) (start : Int),
      Timed RateLimitCall.nowMs start calls →
      (∀ call ∈ calls, Consistent policies (limited call)) →
      ∀ t ∈ requests calls, ∀ rejecting ∈ limited t.input,
        t.output = .error (rateLimitExceeded rejecting.scopeRef) →
        ∀ key ≠ bucketKey rejecting, level policies t.after key t.input.nowMs =
          level policies t.before key t.input.nowMs := by
  intro hall
  have hconsistent : ∀ call ∈ sampleCalls, Consistent samplePolicies (limited call) := by
    intro call hcall
    simp only [sampleCalls, List.mem_cons, List.not_mem_nil, or_false, or_self] at hcall
    rw [hcall]
    exact consistent_sample 0
  have hlast := hall samplePolicies sampleCalls 0 (by decide) hconsistent
    (stepOf checkGovernance (checkGovernance (sampleCall 0) noBuckets).2 (sampleCall 0))
    (List.mem_cons_of_mem _ List.mem_cons_self) ⟨"user:u", "enabled", userPolicy⟩
    (by decide +kernel) (by decide +kernel) "rl_team:team:t" (by decide +kernel)
  revert hlast
  decide +kernel

end Frely.Gateway
