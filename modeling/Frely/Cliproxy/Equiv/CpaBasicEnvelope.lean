import Frely.Cliproxy.CpaBasicWriter
import Frely.ProviderRuntime.CpaBasicEnvelope

/-!
# Envelopes are accepted

`parse_evidenceJson`: what the middleware says about an attempt is taken as it is, as long as it is
sound, and what it says before a frame is (`frameEvidence_sound`).  Trusted usage was
explicit in every dimension (`Explicit`).
-/

namespace Frely.CpaBasic

open Frely.RequestExecution Frely.ProviderRuntime

variable {ν : Type}

/-! ### Usage -/

/-- Counts that fit together. -/
structure Consistent (usage : TrustedUsage) : Prop where
  source : usage.source = "provider"
  cached : usage.cachedInputTokens + usage.cacheWriteTokens ≤ usage.inputTokens
  total : usage.totalTokens = usage.inputTokens + usage.outputTokens
  safe : usage.totalTokens ≤ maxJSONSafeInteger

theorem consistent_trustedAnthropicUsage {input output cached cacheWrite : Nat}
    {usage : TrustedUsage}
    (h : trustedAnthropicUsage input output cached cacheWrite = some usage)
    (houtput : output ≤ maxJSONSafeInteger) :
    Consistent usage ∧ usage.outputTokens = output ∧ usage.cachedInputTokens = cached ∧
      usage.cacheWriteTokens = cacheWrite ∧ usage.inputTokens = input + cached + cacheWrite := by
  unfold trustedAnthropicUsage at h
  split_ifs at h with hfirst hsecond hthird
  obtain rfl := Option.some.inj h
  refine ⟨⟨rfl, ?_, rfl, ?_⟩, rfl, rfl, rfl, rfl⟩
  · dsimp only
    omega
  · dsimp only
    omega

variable (runtime : GoRuntime ν)

theorem integerValue_le {value : Json ν} {parsed : Nat}
    (h : integerValue runtime value = some parsed) : parsed ≤ maxJSONSafeInteger := by
  unfold integerValue at h
  split at h
  · split at h
    · split_ifs at h with hlarge
      exact Option.some.inj h ▸ Nat.not_lt.mp hlarge
    · cases h
  · cases h

theorem firstInteger_le {object : GoObject ν} {keys : List String} {parsed : Nat}
    (h : firstInteger runtime object keys = some parsed) : parsed ≤ maxJSONSafeInteger := by
  obtain ⟨key, -, hkey⟩ := List.exists_of_findSome?_eq_some h
  exact integerValue_le runtime hkey

/-- Every dimension of a trusted usage was there as an integer. -/
structure Explicit (usage : GoObject ν) (trusted : TrustedUsage) : Prop where
  output : firstInteger runtime usage ["output_tokens", "completion_tokens"] =
    some trusted.outputTokens
  input : (integerValue runtime (valueAt usage "total_tokens") = some trusted.totalTokens ∧
      firstInteger runtime usage ["input_tokens", "prompt_tokens"] = some trusted.inputTokens ∧
      firstNestedInteger runtime usage
        [["input_tokens_details", "cached_tokens"], ["prompt_tokens_details", "cached_tokens"]] =
          some trusted.cachedInputTokens ∧
      firstNestedInteger runtime usage
        [["input_tokens_details", "cache_write_tokens"],
          ["input_tokens_details", "cache_creation_tokens"],
          ["prompt_tokens_details", "cache_write_tokens"],
          ["prompt_tokens_details", "cache_creation_tokens"],
          ["prompt_tokens_details", "cached_creation_tokens"]] = some trusted.cacheWriteTokens) ∨
    (integerValue runtime (valueAt usage "cache_read_input_tokens") =
        some trusted.cachedInputTokens ∧
      integerValue runtime (valueAt usage "cache_creation_input_tokens") =
        some trusted.cacheWriteTokens ∧
      ∃ uncached, firstInteger runtime usage ["input_tokens", "prompt_tokens"] = some uncached ∧
        trusted.inputTokens = uncached + trusted.cachedInputTokens + trusted.cacheWriteTokens)

theorem usageFromObject_explicit {usage : GoObject ν} {trusted : TrustedUsage}
    (h : usageFromObject runtime usage = some trusted) :
    Consistent trusted ∧ Explicit runtime usage trusted := by
  cases usage with
  | none => cases h
  | some members =>
    unfold usageFromObject at h
    dsimp only at h
    split_ifs at h with hknown
    obtain ⟨input, hinput, h⟩ := Option.bind_eq_some_iff.mp h
    obtain ⟨output, houtput, h⟩ := Option.bind_eq_some_iff.mp h
    have hinputLe := firstInteger_le runtime hinput
    have houtputLe := firstInteger_le runtime houtput
    cases htotal : integerValue runtime (valueAt (some members) "total_tokens") with
    | some total =>
      rw [htotal] at h
      obtain ⟨cached, hcached, h⟩ := Option.bind_eq_some_iff.mp h
      obtain ⟨cacheWrite, hwrite, h⟩ := Option.bind_eq_some_iff.mp h
      split_ifs at h with hbad
      obtain rfl := Option.some.inj h
      simp only [not_or, Nat.not_lt, ne_eq, not_not] at hbad
      obtain ⟨hcachedLe, hwriteLe, hsafe, rfl⟩ := hbad
      refine ⟨⟨rfl, ?_, rfl, ?_⟩, houtput, .inl ⟨htotal, hinput, hcached, hwrite⟩⟩
      · dsimp only
        omega
      · dsimp only
        omega
    | none =>
      rw [htotal] at h
      obtain ⟨cached, hcached, h⟩ := Option.bind_eq_some_iff.mp h
      obtain ⟨cacheWrite, hwrite, h⟩ := Option.bind_eq_some_iff.mp h
      obtain ⟨hconsistent, hout, hread, hcreate, hin⟩ :=
        consistent_trustedAnthropicUsage h houtputLe
      refine ⟨hconsistent, ?_, .inr ⟨?_, ?_, input, hinput, ?_⟩⟩
      · rw [hout]
        exact houtput
      · rw [hread]
        exact hcached
      · rw [hcreate]
        exact hwrite
      · rw [hin, hread, hcreate]

theorem normalizedUsage_consistent {value : GoObject ν} {trusted : TrustedUsage}
    (h : normalizedUsage runtime value = some trusted) : Consistent trusted := by
  unfold normalizedUsage at h
  dsimp only at h
  split at h
  · next usage husage =>
    obtain rfl := Option.some.inj h
    obtain ⟨response, -, hresponse⟩ := Option.bind_eq_some_iff.mp husage
    exact (usageFromObject_explicit runtime hresponse).1
  · exact (usageFromObject_explicit runtime h).1

theorem trustedUsage_consistent {usage : AnthropicUsageParts} {trusted : TrustedUsage}
    (houtput : ∀ output, usage.output = some output → output ≤ maxJSONSafeInteger)
    (h : usage.trustedUsage = some trusted) : Consistent trusted := by
  unfold AnthropicUsageParts.trustedUsage at h
  split_ifs at h
  obtain ⟨input, -, h⟩ := Option.bind_eq_some_iff.mp h
  obtain ⟨cached, -, h⟩ := Option.bind_eq_some_iff.mp h
  obtain ⟨cacheWrite, -, h⟩ := Option.bind_eq_some_iff.mp h
  obtain ⟨output, hout, h⟩ := Option.bind_eq_some_iff.mp h
  exact (consistent_trustedAnthropicUsage h (houtput output hout)).1

/-! ### Sound evidence -/

/-- The class that a text stands for; the empty text is none. -/
def failureClassOf : String → Option ProviderFailureClass
  | "rate_limited" => some .rateLimited
  | "upstream_5xx" => some .upstream5xx
  | "non_retryable" => some .nonRetryable
  | _ => none

/-- Evidence as the receiver knows it. -/
def envelopeOf (evidence : Evidence) : CpaBasicEvidenceEnvelope where
  providerAttemptRef := evidence.providerAttemptRef
  costExposure := evidence.costExposure
  finalUsageEvidence := evidence.finalUsageEvidence
  failureClass := failureClassOf evidence.failureClass
  trustedUsage := evidence.trustedUsage.map fun usage =>
    ⟨usage.inputTokens, usage.cachedInputTokens, usage.cacheWriteTokens, usage.outputTokens,
      usage.totalTokens, usage.source⟩
  serviceTier := if evidence.serviceTier = "" then none else some evidence.serviceTier

/-- Evidence that the gateway can read and trust. -/
structure Sound (evidence : Evidence) : Prop where
  contract : evidence.contract = cpaBasicEvidenceContract
  version : evidence.version = 1
  failureClass : evidence.failureClass = "" ∨ ∃ status,
    evidence.failureClass = failureClassForStatus status
  usage : ∀ usage, evidence.trustedUsage = some usage → Consistent usage
  tier : byteLength evidence.serviceTier ≤ 64
  consistent : consistentEvidence evidence.costExposure evidence.finalUsageEvidence
    evidence.trustedUsage.isSome = true

theorem utf16Length_le (text : String) : utf16Length text ≤ byteLength text := by
  unfold utf16Length byteLength Utf8.encode
  induction text.toList with
  | nil => exact Nat.le_refl _
  | cons c rest ih =>
    rw [List.map_cons, List.sum_cons, List.flatMap_cons, List.length_append,
      String.length_utf8EncodeChar]
    have hone := Char.utf8Size_pos c
    have htwo : 0xffff < c.toNat → 2 ≤ c.utf8Size := by
      intro hlarge
      by_contra hsmall
      have hval : c.val ≤ 127 := Char.utf8Size_eq_one_iff.mp (by omega)
      have hle : c.toNat ≤ 127 := UInt32.le_iff_toNat_le.mp hval
      omega
    split_ifs with hlarge
    · have := htwo hlarge
      omega
    · omega

theorem utf16Length_pos {text : String} (h : text ≠ "") : 1 ≤ utf16Length text := by
  unfold utf16Length
  cases htext : text.toList with
  | nil => exact absurd (String.toList_eq_nil_iff.mp htext) h
  | cons c rest =>
    rw [List.map_cons, List.sum_cons]
    split_ifs <;> omega

theorem trustedProviderUsage_usageJson {usage : TrustedUsage} (h : Consistent usage) :
    trustedProviderUsage runtime.format (usageJson runtime usage) =
      some ⟨usage.inputTokens, usage.cachedInputTokens, usage.cacheWriteTokens, usage.outputTokens,
        usage.totalTokens, usage.source⟩ := by
  have hsafe := h.safe
  have htotal := h.total
  have hcached := h.cached
  have hcount : ∀ count ≤ maxJSONSafeInteger,
      safeCount runtime.format (some (.number (runtime.format.ofNat count))) = some count := by
    intro count hle
    have hle : count ≤ 9007199254740991 := hle
    simp [safeCount, runtime.format.toNat?_ofNat, hle]
  have hin : usage.inputTokens ≤ maxJSONSafeInteger := by omega
  have hread : usage.cachedInputTokens ≤ maxJSONSafeInteger := by omega
  have hwrite : usage.cacheWriteTokens ≤ maxJSONSafeInteger := by omega
  have hout : usage.outputTokens ≤ maxJSONSafeInteger := by omega
  simp [trustedProviderUsage, usageJson, stringField, Json.member?_cons, h.source,
    hcount _ hin, hcount _ hread, hcount _ hwrite, hcount _ hout, hcount _ hsafe, hcached,
    ← htotal]
  rfl

theorem member?_append (members more : List (String × Json ν)) (key : String) :
    Json.member? (members ++ more) key = (Json.member? members key).or (Json.member? more key) := by
  unfold Json.member?
  rw [List.lookup_append]

theorem member?_nonEmpty (name text key : String) :
    Json.member? (nonEmpty (ν := ν) name text) key =
      if key = name ∧ text ≠ "" then some (.string text) else none := by
  unfold nonEmpty Json.member?
  by_cases htext : text = ""
  · simp [htext]
  · by_cases hkey : key = name
    · simp [htext, hkey]
    · simp [htext, hkey, List.lookup_cons, beq_false_of_ne hkey]

theorem member?_usage (usage : Option TrustedUsage) (key : String) :
    Json.member? (usage.map fun usage => ("trustedUsage", usageJson runtime usage)).toList key =
      if key = "trustedUsage" then usage.map (usageJson runtime) else none := by
  unfold Json.member?
  cases usage with
  | none => simp
  | some usage =>
    by_cases hkey : key = "trustedUsage"
    · simp [hkey]
    · simp [hkey, List.lookup_cons, beq_false_of_ne hkey]

/-- The members of the evidence. -/
theorem member?_evidence (evidence : Evidence) {record : List (String × Json ν)}
    (hrecord : evidenceJson runtime evidence = .object record) :
    (record.any fun member => member.1 ∉ cpaBasicEnvelopeKeys) = false ∧
      stringField record "contract" = some evidence.contract ∧
      Json.member? record "version" = some (.number (runtime.format.ofNat evidence.version)) ∧
      stringField record "providerAttemptRef" = some evidence.providerAttemptRef ∧
      Json.member? record "costExposure" =
        some (.string (costExposureText evidence.costExposure)) ∧
      Json.member? record "finalUsageEvidence" =
        some (.string (finalUsageEvidenceText evidence.finalUsageEvidence)) ∧
      Json.member? record "failureClass" =
        (if evidence.failureClass ≠ "" then some (.string evidence.failureClass) else none) ∧
      Json.member? record "trustedUsage" = evidence.trustedUsage.map (usageJson runtime) ∧
      Json.member? record "serviceTier" =
        (if evidence.serviceTier ≠ "" then some (.string evidence.serviceTier) else none) := by
  unfold evidenceJson at hrecord
  obtain rfl := Json.object.inj hrecord
  simp only [stringField, member?_append, member?_nonEmpty, member?_usage]
  refine ⟨?_, rfl, rfl, rfl, rfl, rfl, ?_, ?_, ?_⟩
  · have hnone : ∀ name ∈ cpaBasicEnvelopeKeys, ∀ text : String,
        ((nonEmpty (ν := ν) name text).any fun member => member.1 ∉ cpaBasicEnvelopeKeys) =
          false := by
      intro name hname text
      unfold nonEmpty
      split_ifs <;> simp [hname]
    rw [List.any_append, List.any_append, List.any_append, hnone _ (by decide), hnone _ (by decide)]
    cases evidence.trustedUsage with
    | none => simp [cpaBasicEnvelopeKeys]
    | some usage => simp [cpaBasicEnvelopeKeys]
  · simp [Json.member?_cons, Json.member?_nil]
  · simp [Json.member?_cons, Json.member?_nil]
  · simp [Json.member?_cons, Json.member?_nil]

theorem isProviderFailureClass_eq {text : String} (h : text ≠ "")
    (hclass : ∃ status, text = failureClassForStatus status) :
    isProviderFailureClass (ν := ν) (.string text) = failureClassOf text ∧
      (failureClassOf text).isSome = true := by
  obtain ⟨status, rfl⟩ := hclass
  unfold failureClassForStatus
  split_ifs <;> exact ⟨rfl, rfl⟩

/-- **What is sound is accepted as it is.** -/
theorem parse_evidenceJson {evidence : Evidence} (h : Sound evidence) :
    parseCpaBasicEvidenceEnvelope runtime.format (evidenceJson runtime evidence)
      evidence.providerAttemptRef = some (envelopeOf evidence) := by
  obtain ⟨record, hrecord⟩ : ∃ record, evidenceJson runtime evidence = .object record := ⟨_, rfl⟩
  obtain ⟨hkeys, hcontract, hversion, href, hexposure, hfinal, hclass, husage, htier⟩ :=
    member?_evidence runtime evidence hrecord
  -- each field is read as the value it was written for
  have hone : safeCount runtime.format (some (.number (runtime.format.ofNat 1))) = some 1 := by
    simp [safeCount, runtime.format.toNat?_ofNat]
  have hexposureOk : isProviderCostExposure (textOf runtime.format
      (some (.string (costExposureText evidence.costExposure)))) = some evidence.costExposure := by
    cases evidence.costExposure <;> rfl
  have hfinalOk : isProviderFinalUsageEvidence (textOf runtime.format
      (some (.string (finalUsageEvidenceText evidence.finalUsageEvidence)))) =
        some evidence.finalUsageEvidence := by
    cases evidence.finalUsageEvidence <;> rfl
  have hclassOk : optionalField (if evidence.failureClass ≠ "" then
      some (Json.string (ν := ν) evidence.failureClass) else none) isProviderFailureClass =
        some (failureClassOf evidence.failureClass) := by
    split_ifs with hne
    · have hstatus := h.failureClass.resolve_left hne
      obtain ⟨hsame, hsome⟩ := isProviderFailureClass_eq (ν := ν) hne hstatus
      unfold optionalField
      dsimp only
      rw [hsame, Option.eq_some_of_isSome hsome]
      rfl
    · rw [not_not.mp hne]
      rfl
  have husageOk : optionalField (evidence.trustedUsage.map (usageJson runtime))
      (trustedProviderUsage runtime.format) = some (envelopeOf evidence).trustedUsage := by
    unfold envelopeOf
    cases hevidence : evidence.trustedUsage with
    | none => rfl
    | some usage =>
      simp only [Option.map_some, optionalField,
        trustedProviderUsage_usageJson runtime (h.usage usage hevidence)]
  have htierOk : optionalField (if evidence.serviceTier ≠ "" then
      some (Json.string (ν := ν) evidence.serviceTier) else none) boundedTier =
        some (envelopeOf evidence).serviceTier := by
    unfold envelopeOf
    by_cases hempty : evidence.serviceTier = ""
    · simp [hempty, optionalField]
    · have hle := utf16Length_le evidence.serviceTier
      have hpos := utf16Length_pos hempty
      have hmax := h.tier
      simp only [hempty, ne_eq, not_false_eq_true, if_true, if_false, optionalField, boundedTier]
      rw [if_neg (by omega)]
      rfl
  have hsome : (envelopeOf evidence).trustedUsage.isSome = evidence.trustedUsage.isSome := by
    unfold envelopeOf
    rw [Option.isSome_map]
  rw [hrecord, parseCpaBasicEvidenceEnvelope, hkeys, hcontract, hversion, href, hexposure, hfinal,
    hclass, husage, htier, h.contract, h.version, hone]
  rw [if_neg (by simp [cpaBasicEvidenceContract]), hexposureOk, hfinalOk, hclassOk, husageOk,
    htierOk]
  simp only [Option.bind_eq_bind, Option.bind_some, hsome, h.consistent]
  rfl

/-! ### What is said is sound -/

theorem boundedServiceTier_le (value : Json ν) : byteLength (boundedServiceTier value) ≤ 64 := by
  unfold boundedServiceTier
  split
  · split_ifs with hlong
    · decide
    · omega
  · decide

theorem normalizedServiceTier_le (value : GoObject ν) :
    byteLength (normalizedServiceTier value) ≤ 64 := by
  unfold normalizedServiceTier
  dsimp only
  split_ifs <;> exact boundedServiceTier_le _

/-- What an observation may hold. -/
structure SoundObservation (observation : FrameObservation) : Prop where
  usage : ∀ usage, observation.usage = some usage → Consistent usage
  output : ∀ parts output, observation.anthropicUsage = some parts → parts.output = some output →
    output ≤ maxJSONSafeInteger
  tier : byteLength observation.serviceTier ≤ 64

theorem soundObservation_empty : SoundObservation {} where
  usage _ h := nomatch h
  output _ _ h := nomatch h
  tier := by decide

theorem inspectNormalizedObject_sound (value : GoObject ν) :
    SoundObservation (inspectNormalizedObject runtime value) := by
  unfold inspectNormalizedObject
  split_ifs
  · exact soundObservation_empty
  · exact ⟨fun usage h => normalizedUsage_consistent runtime h, fun _ _ h => (nomatch h),
      normalizedServiceTier_le value⟩

theorem anthropicDimension_le {usage : List (String × Json ν)} {key : String} {value : Nat}
    (h : (anthropicDimension runtime usage key).join = some value) :
    value ≤ maxJSONSafeInteger := by
  unfold anthropicDimension at h
  cases hmember : Json.member? usage key with
  | none =>
    rw [hmember] at h
    cases h
  | some member =>
    rw [hmember] at h
    exact integerValue_le runtime h

theorem anthropicSSEUsage_output {eventName : String} {value : GoObject ν}
    {parts : AnthropicUsageParts} {output : Nat}
    (h : anthropicSSEUsage runtime eventName value = some parts)
    (hout : parts.output = some output) :
    output ≤ maxJSONSafeInteger := by
  have hparts : ∀ (usage : GoObject ν) (parts : AnthropicUsageParts),
      anthropicUsagePartsFromObject runtime usage = some parts → parts.output = some output →
      output ≤ maxJSONSafeInteger := by
    intro usage parts hparts hout
    cases usage with
    | none => cases hparts
    | some members =>
      unfold anthropicUsagePartsFromObject at hparts
      dsimp only at hparts
      split_ifs at hparts
      · obtain rfl := Option.some.inj hparts
        exact anthropicDimension_le runtime hout
      · obtain rfl := Option.some.inj hparts
        cases hout
  unfold anthropicSSEUsage at h
  split_ifs at h with hnone
  obtain ⟨found, hfound, rfl⟩ := Option.map_eq_some_iff.mp h
  exact hparts _ found hfound hout

theorem inspectSSEEvent_sound (name : String) (value : GoObject ν) :
    SoundObservation (inspectSSEEvent runtime name value) := by
  have hobject := inspectNormalizedObject_sound runtime value
  unfold inspectSSEEvent
  refine ⟨fun usage h => ?_, fun parts output h hout => ?_, ?_⟩
  · dsimp only at h
    split_ifs at h <;> exact hobject.usage usage h
  · dsimp only at h
    split_ifs at h <;> exact anthropicSSEUsage_output runtime h hout
  · dsimp only
    split_ifs
    · exact hobject.tier
    · decide

theorem inspectSSEFrame_sound (frame : List UInt8) :
    SoundObservation (inspectSSEFrame runtime frame) := by
  unfold inspectSSEFrame
  dsimp only
  split_ifs
  · exact soundObservation_empty
  · exact soundObservation_empty
  · exact inspectSSEEvent_sound runtime _ _

/-- What a writer knows. -/
structure SoundWriter (writer : EvidenceWriter) : Prop where
  usage : ∀ usage, writer.usage = some usage → Consistent usage
  output : ∀ output, writer.anthropicUsage.output = some output → output ≤ maxJSONSafeInteger
  tier : byteLength writer.serviceTier ≤ 64

theorem SoundWriter.observe {writer : EvidenceWriter} (h : SoundWriter writer)
    {observation : FrameObservation} (hobservation : SoundObservation observation) :
    SoundWriter (writer.observe observation) := by
  constructor
  · intro usage husage
    rcases Option.or_eq_some_iff.mp husage with hnew | ⟨-, hold⟩
    · exact hobservation.usage usage hnew
    · exact h.usage usage hold
  · intro output hout
    cases hparts : observation.anthropicUsage with
    | none =>
      have hsame : (writer.observe observation).anthropicUsage = writer.anthropicUsage := by
        unfold EvidenceWriter.observe
        rw [hparts]
        rfl
      rw [hsame] at hout
      exact h.output output hout
    | some parts =>
      have hmerge : (writer.observe observation).anthropicUsage.output =
          parts.output.or writer.anthropicUsage.output := by
        unfold EvidenceWriter.observe
        rw [hparts]
        rfl
      rw [hmerge] at hout
      rcases Option.or_eq_some_iff.mp hout with hnew | ⟨-, hold⟩
      · exact hobservation.output parts output hparts hnew
      · exact h.output output hold
  · unfold EvidenceWriter.observe
    dsimp only
    split_ifs
    · exact h.tier
    · exact hobservation.tier

variable (request : Negotiated)

theorem frameEvidence_sound {writer : EvidenceWriter} (h : SoundWriter writer)
    (observation : FrameObservation) : Sound (writer.frameEvidence request observation) := by
  have husage : ∀ usage, writer.trustedUsage = some usage → Consistent usage := by
    intro usage husage
    unfold EvidenceWriter.trustedUsage at husage
    split_ifs at husage
    · exact trustedUsage_consistent h.output husage
    · exact h.usage usage husage
  have hclass : ∀ status, failureClassForStatus status = "" ∨
      ∃ other, failureClassForStatus status = failureClassForStatus other :=
    fun status => .inr ⟨status, rfl⟩
  unfold EvidenceWriter.frameEvidence
  cases hknown : writer.trustedUsage with
  | none =>
    dsimp only
    split_ifs with hfailed
    · exact ⟨rfl, rfl, hclass _, fun _ h => (nomatch h), h.tier, rfl⟩
    · exact ⟨rfl, rfl, .inl rfl, fun _ h => (nomatch h), h.tier, rfl⟩
  | some known =>
    dsimp only
    have hsame : ∀ usage, some known = some usage → Consistent usage :=
      fun usage hsome => husage usage (hknown.trans hsome)
    split_ifs with hfailed
    · exact ⟨rfl, rfl, hclass _, hsame, h.tier, rfl⟩
    · exact ⟨rfl, rfl, .inl rfl, hsame, h.tier, rfl⟩

theorem bodyEvidence_error {status : Nat} (hstatus : 400 ≤ status) (cancelled : Bool)
    (observation : FrameObservation) :
    bodyEvidence request status cancelled observation =
      { contract := cpaBasicEvidenceContract
        version := 1
        providerAttemptRef := request.attemptRef
        costExposure := .accruing
        finalUsageEvidence := .pending
        failureClass := failureClassForStatus status
        serviceTier := observation.serviceTier } := by
  unfold bodyEvidence
  dsimp only
  rw [if_pos hstatus]
  split_ifs <;> rfl

theorem bodyEvidence_ok {status : Nat} (hstatus : ¬400 ≤ status) (cancelled : Bool)
    (observation : FrameObservation) :
    bodyEvidence request status cancelled observation =
      if !cancelled ∧ observation.terminal then
        { contract := cpaBasicEvidenceContract
          version := 1
          providerAttemptRef := request.attemptRef
          costExposure := .stopped
          finalUsageEvidence := if observation.usage.isSome then .final else .pending
          failureClass := if observation.failed then failureClassForStatus status else ""
          trustedUsage := observation.usage
          serviceTier := observation.serviceTier }
      else
        { contract := cpaBasicEvidenceContract
          version := 1
          providerAttemptRef := request.attemptRef
          costExposure := .accruing
          finalUsageEvidence := .pending
          serviceTier := observation.serviceTier } := by
  unfold bodyEvidence
  dsimp only
  rw [if_neg hstatus]

theorem bodyEvidence_sound (status : Nat) (cancelled : Bool) {observation : FrameObservation}
    (h : SoundObservation observation) :
    Sound (bodyEvidence request status cancelled observation) := by
  by_cases hstatus : 400 ≤ status
  · rw [bodyEvidence_error request hstatus]
    exact ⟨rfl, rfl, .inr ⟨status, rfl⟩, fun _ h => (nomatch h), h.tier, rfl⟩
  · rw [bodyEvidence_ok request hstatus]
    by_cases hterminal : (!cancelled) = true ∧ observation.terminal = true
    · rw [if_pos hterminal]
      refine ⟨rfl, rfl, ?_, h.usage, h.tier, ?_⟩
      · dsimp only
        split_ifs
        · exact .inr ⟨status, rfl⟩
        · exact .inl rfl
      · dsimp only
        cases observation.usage <;> rfl
    · rw [if_neg hterminal]
      exact ⟨rfl, rfl, .inl rfl, fun _ h => (nomatch h), h.tier, rfl⟩

end Frely.CpaBasic
