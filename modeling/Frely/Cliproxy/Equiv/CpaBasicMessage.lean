import Frely.Cliproxy.Equiv.CpaBasicForms

/-!
# The usage of a message

The usage of a message comes in two events.  What the middleware puts together of them
(`trustedUsage_merged`) is the usage of the body (`messageUsage_agrees`).
-/

namespace Frely.CpaBasic

open Frely.RequestExecution Frely.ProviderRuntime

variable {ν : Type} (runtime : GoRuntime ν)

/-! ### Events of a message -/

variable {kind name : String} {event : List (String × Json ν)} {silent : List String}

/-- What the event of a message says. -/
theorem messageEvent_says (h : EventOf runtime kind name event silent)
    (hkind : kind ∈ ["message_start", "message_delta", "message_stop"])
    (hsilent : "object" ∈ silent ∧ "response" ∈ silent)
    (hchoices : kind = "message_stop" ∨ "choices" ∈ silent) :
    (inspectSSEEvent runtime name (some event)).terminal = decide (kind = "message_stop") ∧
      (inspectSSEEvent runtime name (some event)).failed = false ∧
      (inspectSSEEvent runtime name (some event)).usage =
        usageFromObject runtime (objectValue (valueAt (some event) "usage")) ∧
      (inspectSSEEvent runtime name (some event)).anthropicUsage =
        anthropicSSEUsage runtime kind (some event) := by
  have hobject := loweredField_null runtime (h.silent "object" hsilent.1)
  have husage : normalizedUsage runtime (some event) =
      usageFromObject runtime (objectValue (valueAt (some event) "usage")) := by
    unfold normalizedUsage
    rw [h.silent "response" hsilent.2]
    rfl
  have hkinds : kind = "message_start" ∨ kind = "message_delta" ∨ kind = "message_stop" := by
    simpa using hkind
  have hmem : kind ∈ usageEvents := by
    unfold usageEvents
    rcases hkinds with rfl | rfl | rfl <;> simp
  have hauthoritative : ∀ terminal,
      authoritativeSSEUsageEvent runtime kind (some event) terminal = true := by
    intro terminal
    simp only [authoritativeSSEUsageEvent, hmem, decide_true, Bool.true_or]
  -- `message_stop` ends the stream by its name, and the others have no finish reason
  have hfinish : kind = "message_stop" ∨
      hasFinishReason (valueAt (some event) "choices") = false := by
    refine hchoices.imp_right fun hmem => ?_
    rw [h.silent "choices" hmem]
    rfl
  unfold inspectSSEEvent
  dsimp only
  rw [h.name, hauthoritative]
  refine ⟨?_, ?_, ?_, rfl⟩
  · unfold inspectNormalizedObject
    dsimp only
    rw [h.type, hobject]
    rcases hkinds with rfl | rfl | rfl
    · simp [hfinish.resolve_left (by decide)]
    · simp [hfinish.resolve_left (by decide)]
    · simp
  · unfold inspectNormalizedObject
    dsimp only
    rw [h.type, hobject]
    rcases hkinds with rfl | rfl | rfl <;> simp
  · exact husage

/-! ### The usage of a message -/

variable {usage : List (String × Json ν)} {merged : AnthropicUsageParts}

/-- The usage of a message from the values of its dimensions. -/
def messageUsage (input cached cacheWrite output : Option Nat) : Option TrustedUsage := do
  let input ← input
  let cached ← cached
  let cacheWrite ← cacheWrite
  let output ← output
  trustedAnthropicUsage input output cached cacheWrite

theorem messageUsage_eq_none {input cached cacheWrite output : Option Nat}
    (h : input = none ∨ cached = none ∨ cacheWrite = none ∨ output = none) :
    messageUsage input cached cacheWrite output = none := by
  unfold messageUsage
  rcases h with rfl | rfl | rfl | rfl
  · rfl
  · cases input <;> rfl
  · cases input <;> cases cached <;> rfl
  · cases input <;> cases cached <;> cases cacheWrite <;> rfl

/-- The parts that an event reports, with the values of the dimensions it has. -/
def partsOf (input cached cacheWrite output : Option (Option Nat)) (final : Bool) :
    AnthropicUsageParts where
  seen := [input, cached, cacheWrite, output].any Option.isSome
  invalid := [input, cached, cacheWrite, output].any fun dimension => dimension = some none
  input := input.join
  cached := cached.join
  cacheWrite := cacheWrite.join
  output := output.join
  outputFinal := final && output.join.isSome

/-- The dimensions of the parts of an object. -/
def objectParts (usage : List (String × Json ν)) (final : Bool) : AnthropicUsageParts :=
  partsOf (anthropicDimension runtime usage "input_tokens")
    (anthropicDimension runtime usage "cache_read_input_tokens")
    (anthropicDimension runtime usage "cache_creation_input_tokens")
    (anthropicDimension runtime usage "output_tokens") final

/-- Parts without dimensions change nothing. -/
theorem merge_partsOf_none (usage : AnthropicUsageParts) (final : Bool) :
    usage.merge (some (partsOf none none none none final)) = usage := by
  simp [AnthropicUsageParts.merge, partsOf]

theorem merge_event (h : EventOf runtime kind name event silent)
    (hobject : anthropicUsageObject kind (some event) = some usage)
    (hshape : knownUsageShape usage = true) (merged : AnthropicUsageParts) :
    merged.merge (anthropicSSEUsage runtime kind (some event)) =
      merged.merge (some (objectParts runtime usage
        (decide (kind = "message_delta" ∨ kind = "message_stop")))) := by
  have hsame : anthropicKind runtime kind (some event) = kind := by
    unfold anthropicKind
    rw [h.type, ite_self]
  unfold anthropicSSEUsage
  rw [hsame]
  dsimp only
  rw [hobject, if_neg (by simp)]
  unfold anthropicUsagePartsFromObject
  dsimp only
  rw [if_pos hshape]
  unfold objectParts
  by_cases hany : [anthropicDimension runtime usage "input_tokens",
      anthropicDimension runtime usage "cache_read_input_tokens",
      anthropicDimension runtime usage "cache_creation_input_tokens",
      anthropicDimension runtime usage "output_tokens"].any Option.isSome = true
  · rw [if_pos hany]
    simp [partsOf, hany]
  · rw [if_neg hany]
    simp only [List.any_cons, List.any_nil, Bool.or_false, Bool.or_eq_true, not_or,
      Option.not_isSome_iff_eq_none] at hany
    obtain ⟨hinput, hcached, hwrite, houtput⟩ := hany
    rw [hinput, hcached, hwrite, houtput, merge_partsOf_none]
    rfl

/-- A shape that is not known spoils what is put together. -/
theorem merge_event_unknown (h : EventOf runtime kind name event silent)
    (hobject : anthropicUsageObject kind (some event) = some usage)
    (hshape : knownUsageShape usage = false) (merged : AnthropicUsageParts) :
    (merged.merge (anthropicSSEUsage runtime kind (some event))).seen = true ∧
      (merged.merge (anthropicSSEUsage runtime kind (some event))).invalid = true := by
  have hsame : anthropicKind runtime kind (some event) = kind := by
    unfold anthropicKind
    rw [h.type, ite_self]
  unfold anthropicSSEUsage
  rw [hsame]
  dsimp only
  rw [hobject, if_neg (by simp)]
  unfold anthropicUsagePartsFromObject
  dsimp only
  rw [if_neg (by rw [hshape]; exact Bool.false_ne_true)]
  exact ⟨Bool.or_true _, Bool.or_true _⟩

/-- **Two events give the usage of the message**: the later one may repeat what the first one said,
and has the count of the output. -/
theorem trustedUsage_merged {input cached cacheWrite output : Option (Option Nat)}
    {laterInput laterCached laterWrite earlierOutput : Option (Option Nat)}
    (hinput : laterInput = none ∨ laterInput = input)
    (hcached : laterCached = none ∨ laterCached = cached)
    (hwrite : laterWrite = none ∨ laterWrite = cacheWrite) (houtput : earlierOutput ≠ some none)
    {merged : AnthropicUsageParts}
    (hmerged : merged = (AnthropicUsageParts.merge {}
      (some (partsOf input cached cacheWrite earlierOutput false))).merge
        (some (partsOf laterInput laterCached laterWrite output true))) :
    (merged.seen = false → input = none ∧ laterInput = none) ∧
      (merged.seen = true → merged.trustedUsage =
        messageUsage input.join cached.join cacheWrite.join output.join) := by
  -- what comes later is the same count or none
  have hlast : ∀ {earlier later : Option (Option Nat)}, later = none ∨ later = earlier →
      later.join.or (earlier.join.or none) = earlier.join := by
    intro earlier later h
    rcases h with rfl | rfl
    · exact Option.or_none
    · rw [Option.or_none, Option.or_self]
  have hbad : ∀ {earlier later : Option (Option Nat)}, later = none ∨ later = earlier →
      later = some none → earlier = some none := by
    intro earlier later h hlater
    rcases h with rfl | rfl
    · cases hlater
    · exact hlater
  have hjoin : ∀ {dimension : Option (Option Nat)}, dimension = some none →
      dimension.join = none := by
    rintro dimension rfl
    rfl
  refine ⟨fun hseen => ?_, fun hseen => ?_⟩
  · rw [hmerged] at hseen
    simp only [AnthropicUsageParts.merge, partsOf, List.any_cons, List.any_nil, Bool.or_false,
      Bool.false_or, Bool.or_eq_false_iff, Option.isSome_eq_false_iff,
      Option.isNone_iff_eq_none] at hseen
    exact ⟨hseen.1.1, hseen.2.1⟩
  · have hparts : merged.input = input.join ∧ merged.cached = cached.join ∧
        merged.cacheWrite = cacheWrite.join ∧
        merged.output = output.join.or (earlierOutput.join.or none) ∧
        merged.outputFinal = output.join.isSome := by
      rw [hmerged]
      refine ⟨hlast hinput, hlast hcached, hlast hwrite, rfl, ?_⟩
      simp [AnthropicUsageParts.merge, partsOf]
    obtain ⟨hin, hread, hcreate, hout, hfinal⟩ := hparts
    unfold AnthropicUsageParts.trustedUsage
    rw [hseen, hin, hread, hcreate, hout, hfinal]
    cases hinvalid : merged.invalid with
    | true =>
      rw [if_pos (by simp)]
      -- the one of the two events that has a bad count has it from the message
      have hnone : input = some none ∨ cached = some none ∨ cacheWrite = some none ∨
          output = some none := by
        rw [hmerged] at hinvalid
        simp only [AnthropicUsageParts.merge, partsOf, List.any_cons, List.any_nil, Bool.or_false,
          Bool.false_or, Bool.or_eq_true, decide_eq_true_eq] at hinvalid
        rcases hinvalid with (h | h | h | h) | h | h | h | h
        · exact .inl h
        · exact .inr (.inl h)
        · exact .inr (.inr (.inl h))
        · exact absurd h houtput
        · exact .inl (hbad hinput h)
        · exact .inr (.inl (hbad hcached h))
        · exact .inr (.inr (.inl (hbad hwrite h)))
        · exact .inr (.inr (.inr h))
      exact (messageUsage_eq_none
        (hnone.imp hjoin (Or.imp hjoin (Or.imp hjoin hjoin)))).symm
    | false =>
      cases hknown : output.join with
      | none =>
        rw [if_pos (by simp)]
        exact (messageUsage_eq_none (.inr (.inr (.inr rfl)))).symm
      | some count =>
        rw [if_neg (by simp)]
        rfl

theorem integerValue_dimension (usage : List (String × Json ν)) (key : String) :
    integerValue runtime (valueAt (some usage) key) =
      (anthropicDimension runtime usage key).join := by
  unfold anthropicDimension valueAt
  cases hmember : Json.member? usage key with
  | none => simp [hmember, integerValue]
  | some value => simp [hmember]

theorem usageFromObject_message {usage : List (String × Json ν)}
    (hdialect : ∀ key ∈ ["prompt_tokens", "completion_tokens", "total_tokens"],
      Json.member? usage key = none) :
    usageFromObject runtime (some usage) =
      if knownUsageShape usage then
        messageUsage (anthropicDimension runtime usage "input_tokens").join
          (anthropicDimension runtime usage "cache_read_input_tokens").join
          (anthropicDimension runtime usage "cache_creation_input_tokens").join
          (anthropicDimension runtime usage "output_tokens").join
      else none := by
  have habsent : ∀ key ∈ ["prompt_tokens", "completion_tokens", "total_tokens"],
      integerValue runtime (valueAt (some usage) key) = none := by
    intro key hkey
    rw [integerValue_dimension, anthropicDimension, hdialect key hkey]
    rfl
  have hfirst : ∀ key other, other ∈ ["prompt_tokens", "completion_tokens", "total_tokens"] →
      firstInteger runtime (some usage) [key, other] =
        (anthropicDimension runtime usage key).join := by
    intro key other hother
    unfold firstInteger
    rw [List.findSome?_cons, List.findSome?_cons, habsent other hother, integerValue_dimension]
    cases (anthropicDimension runtime usage key).join <;> rfl
  unfold usageFromObject
  dsimp only
  rw [hfirst _ _ (by simp), hfirst _ _ (by simp), habsent "total_tokens" (by simp)]
  dsimp only
  rw [integerValue_dimension, integerValue_dimension]
  congr 1
  unfold messageUsage
  generalize (anthropicDimension runtime usage "input_tokens").join = input
  generalize (anthropicDimension runtime usage "cache_read_input_tokens").join = cached
  generalize (anthropicDimension runtime usage "cache_creation_input_tokens").join = cacheWrite
  generalize (anthropicDimension runtime usage "output_tokens").join = output
  cases input <;> cases output <;> cases cached <;> cases cacheWrite <;> rfl

theorem usageFromObject_of_input_none
    (hdialect : ∀ key ∈ ["prompt_tokens", "completion_tokens", "total_tokens"],
      Json.member? usage key = none)
    (hinput : anthropicDimension runtime usage "input_tokens" = none) :
    usageFromObject runtime (some usage) = none := by
  rw [usageFromObject_message runtime hdialect, hinput, Option.join_none,
    messageUsage_eq_none (.inl rfl), ite_self]

/-- The usage of a message from its two events is the one of its body. -/
theorem messageUsage_agrees {usage started changed : List (String × Json ν)}
    (h : SameUsage runtime usage started changed)
    {start delta : List (String × Json ν)} {startName deltaName : String}
    {startSilent deltaSilent : List String}
    (hstart : EventOf runtime "message_start" startName start startSilent)
    (hdelta : EventOf runtime "message_delta" deltaName delta deltaSilent)
    (hstarted : anthropicUsageObject "message_start" (some start) = some started)
    (hchanged : anthropicUsageObject "message_delta" (some delta) = some changed)
    {merged : AnthropicUsageParts}
    (hmerged : merged = (AnthropicUsageParts.merge {}
      (anthropicSSEUsage runtime "message_start" (some start))).merge
        (anthropicSSEUsage runtime "message_delta" (some delta))) :
    (if merged.seen then merged.trustedUsage else usageFromObject runtime (some changed)) =
      usageFromObject runtime (some usage) := by
  -- one event of an unknown shape spoils the usage, as it does in the body
  have hspoiled : merged.seen = true → merged.invalid = true →
      knownUsageShape usage = false →
      (if merged.seen then merged.trustedUsage else usageFromObject runtime (some changed)) =
        usageFromObject runtime (some usage) := by
    intro hseen hinvalid hshape
    rw [usageFromObject_message runtime (h.dialect usage (by simp)), hshape, if_pos hseen]
    unfold AnthropicUsageParts.trustedUsage
    rw [hinvalid]
    simp
  cases hchangedShape : knownUsageShape changed with
  | false =>
    obtain ⟨hseen, hinvalid⟩ := merge_event_unknown runtime hdelta hchanged hchangedShape
      (AnthropicUsageParts.merge {} (anthropicSSEUsage runtime "message_start" (some start)))
    rw [← hmerged] at hseen hinvalid
    exact hspoiled hseen hinvalid (by rw [h.shape, hchangedShape, Bool.and_false])
  | true =>
    rw [merge_event runtime hdelta hchanged hchangedShape] at hmerged
    cases hstartedShape : knownUsageShape started with
    | false =>
      obtain ⟨hseen, hinvalid⟩ := merge_event_unknown runtime hstart hstarted hstartedShape {}
      refine hspoiled ?_ ?_ (by rw [h.shape, hstartedShape, Bool.false_and])
      · rw [hmerged]
        exact Bool.or_eq_true_iff.mpr (.inl hseen)
      · rw [hmerged]
        exact Bool.or_eq_true_iff.mpr (.inl hinvalid)
    | true =>
      have hshape : knownUsageShape usage = true := by
        rw [h.shape, hstartedShape, hchangedShape, Bool.and_self]
      rw [merge_event runtime hstart hstarted hstartedShape] at hmerged
      -- the counts of the first event are those of the body, and the second one may repeat them
      have hof : ∀ key ∈ messageDimensions,
          anthropicDimension runtime started key = anthropicDimension runtime usage key := by
        intro key hkey
        unfold anthropicDimension
        rw [h.ofStarted key hkey]
      have hlater : ∀ key ∈ messageDimensions, anthropicDimension runtime changed key = none ∨
          anthropicDimension runtime changed key = anthropicDimension runtime usage key := by
        intro key hkey
        unfold anthropicDimension
        rcases h.ofChanged key hkey with hnone | hsame
        · exact .inl (by rw [hnone]; rfl)
        · exact .inr (by rw [hsame])
      have hout : anthropicDimension runtime changed "output_tokens" =
          anthropicDimension runtime usage "output_tokens" := by
        unfold anthropicDimension
        rw [h.changedOutput]
      unfold objectParts at hmerged
      rw [hof _ (by decide), hof _ (by decide), hof _ (by decide), hout] at hmerged
      obtain ⟨hunseen, hseen⟩ := trustedUsage_merged (hlater _ (by decide)) (hlater _ (by decide))
        (hlater _ (by decide)) h.startedOutput hmerged
      rw [usageFromObject_message runtime (h.dialect usage (by simp)), if_pos hshape]
      -- without the count of the input, what the second event says alone is no usage either
      cases hany : merged.seen with
      | true =>
        rw [if_pos rfl]
        exact hseen hany
      | false =>
        obtain ⟨hinput, hnone⟩ := hunseen hany
        rw [if_neg Bool.false_ne_true, hinput,
          usageFromObject_of_input_none runtime (h.dialect changed (by simp)) hnone]
        exact (messageUsage_eq_none (.inl rfl)).symm

end Frely.CpaBasic
