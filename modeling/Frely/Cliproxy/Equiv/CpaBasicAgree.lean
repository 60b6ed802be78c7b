import Frely.Cliproxy.Equiv.CpaBasicMessage

/-!
# When the two forms of a response agree

`forms_agree_iff`: the middleware says the same of a body and of the events that carry it unless an
inspection is cut off, or the branches for the two forms go different ways.
-/

namespace Frely.CpaBasic

open Frely.RequestExecution Frely.ProviderRuntime

variable {ν : Type} (runtime : GoRuntime ν)

/-! ### What is known of a response -/

variable {response : List (String × Json ν)} {frames : List (List UInt8)}

/-- The types of a body that count as a failure. -/
def failingTypes : List String := ["response.failed", "response.incomplete", "error"]

theorem inspect_response {ending : ResponseEnd}
    (hobject : loweredField runtime (some response) "object" = "response")
    (hstatus : loweredField runtime (some response) "status" = ending.status) :
    (inspectNormalizedObject runtime (some response)).terminal = true ∧
      (inspectNormalizedObject runtime (some response)).failed =
        (decide (loweredField runtime (some response) "type" ∈ failingTypes) || ending.fails) ∧
      (inspectNormalizedObject runtime (some response)).usage =
        normalizedUsage runtime (some response) := by
  unfold inspectNormalizedObject
  dsimp only
  rw [hobject, hstatus]
  refine ⟨?_, ?_, rfl⟩
  · cases ending <;> simp [ResponseEnd.status]
  · cases ending <;> simp [ResponseEnd.status, ResponseEnd.fails, failingTypes]

theorem inspect_message {message : List (String × Json ν)}
    (htype : loweredField runtime (some message) "type" = "message")
    (hreason : trimSpace (stringValue (valueAt (some message) "stop_reason")).toList ≠ [])
    (hobject : valueAt (some message) "object" = .null) :
    (inspectNormalizedObject runtime (some message)).terminal = true ∧
      (inspectNormalizedObject runtime (some message)).failed = false ∧
      (inspectNormalizedObject runtime (some message)).usage =
        normalizedUsage runtime (some message) := by
  unfold inspectNormalizedObject
  dsimp only
  rw [htype, loweredField_null runtime hobject]
  refine ⟨?_, ?_, rfl⟩
  · simp [hreason]
  · simp

/-- What a body in either form says. -/
theorem inspect_forms {failed : Bool} (h : Forms runtime failed response frames) :
    (inspectNormalizedObject runtime (some response)).terminal = true ∧
      (inspectNormalizedObject runtime (some response)).failed =
        (decide (loweredField runtime (some response) "type" ∈ failingTypes) || failed) ∧
      (inspectNormalizedObject runtime (some response)).usage =
        normalizedUsage runtime (some response) := by
  cases h with
  | response ending hobject hstatus => exact inspect_response runtime hobject hstatus
  | message htype hreason hsilent =>
    obtain ⟨hterminal, hfailed, husage⟩ :=
      inspect_message runtime htype hreason (hsilent "object" (by simp))
    refine ⟨hterminal, ?_, husage⟩
    rw [hfailed, htype]
    simp [failingTypes]

/-! ### What the frames say -/

variable {observation : FrameObservation} {writer : EvidenceWriter}

/-- The evidence of a stream whose last frame ends the response. -/
theorem streamEvidence_last {request : Negotiated} {writer : EvidenceWriter} {position : Nat}
    {frame : List UInt8} {observation : FrameObservation}
    (hframe : inspectSSEFrame runtime frame = observation)
    (hterminal : observation.terminal = true) :
    streamEvidence runtime request writer position [frame] =
      if frame.length ≤ maxSSEFrameInspectionBytes ∧
          request.cancelled (position + frame.length) = false then
        some ((writer.observe observation).frameEvidence request observation)
      else none := by
  have hclosing : Closing runtime frame ↔ frame.length ≤ maxSSEFrameInspectionBytes := by
    unfold Closing
    rw [hframe]
    exact and_iff_left hterminal
  rw [streamEvidence, hframe]
  by_cases hshort : frame.length ≤ maxSSEFrameInspectionBytes
  · rw [if_pos (hclosing.mpr hshort)]
    cases request.cancelled (position + frame.length) <;> simp [hshort]
  · rw [if_neg (fun h => hshort (hclosing.mp h)), if_neg hshort, if_neg (fun h => hshort h.1)]
    rfl

/-- A frame that does not end the response is observed. -/
theorem streamEvidence_open {request : Negotiated} {writer : EvidenceWriter} {position : Nat}
    {frame : List UInt8} {frames : List (List UInt8)} {observation : FrameObservation}
    (hframe : inspectSSEFrame runtime frame = observation)
    (hterminal : observation.terminal = false)
    (hshort : frame.length ≤ maxSSEFrameInspectionBytes) :
    streamEvidence runtime request writer position (frame :: frames) =
      streamEvidence runtime request (writer.observe observation) (position + frame.length)
        frames := by
  have hopen : ¬Closing runtime frame := by
    intro h
    have hboth := h.2
    rw [hframe, hterminal] at hboth
    exact Bool.false_ne_true hboth
  rw [streamEvidence, hframe, if_neg hopen, if_pos hshort]

/-- The evidence that a stream sends for a response. -/
theorem streamEvidence_forms {failed : Bool} (h : Forms runtime failed response frames)
    (request : Negotiated) (status : Nat) :
    ∃ (writer : EvidenceWriter) (observation : FrameObservation),
      SoundWriter writer ∧ observation.failed = failed ∧
      writer.trustedUsage = reportedUsage runtime response ∧
      streamEvidence runtime request { status := status } 0 frames =
        if (∀ frame ∈ frames, frame.length ≤ maxSSEFrameInspectionBytes) ∧
            request.cancelled frames.flatten.length = false then
          some (writer.frameEvidence request observation)
        else none := by
  have hstartSound : SoundWriter { status := status } :=
    ⟨fun _ h => (nomatch h), fun _ h => (nomatch h), Nat.zero_le _⟩
  cases h with
  -- one terminal frame carries the whole response
  | @response ending response event name frame hobject hstatus hevent hresponse hframe =>
    obtain ⟨hterminal, hfailed, husage, hanthropic⟩ := responseEvent_says runtime hevent hresponse
    have hsound := inspectSSEFrame_sound runtime frame
    unfold Carries at hframe
    obtain ⟨observation, hobservation⟩ :
        ∃ observation, inspectSSEEvent runtime name (some event) = observation := ⟨_, rfl⟩
    rw [hobservation] at hframe hterminal hfailed husage hanthropic
    rw [hframe] at hsound
    refine ⟨_, observation, hstartSound.observe hsound, hfailed, ?_, ?_⟩
    · unfold EvidenceWriter.trustedUsage EvidenceWriter.observe
      rw [husage, hanthropic]
      exact Option.or_none
    · rw [streamEvidence_last runtime hframe hterminal]
      simp
  -- the usage comes in two frames, whose counts are merged
  | @message _ usage started changed start inner delta stop startName deltaName stopName
      startFrame deltaFrame stopFrame htype hreason hsilent husage hsame hstart hinner hstarted
      hdelta hchanged hstop hframes hshort =>
    obtain ⟨hstartFrame, hdeltaFrame, hstopFrame⟩ := hframes
    obtain ⟨hstartTerminal, -, hstartUsage, hstartParts⟩ := messageEvent_says runtime hstart
      (by simp) (by simp) (.inr (by simp))
    obtain ⟨hdeltaTerminal, -, hdeltaUsage, hdeltaParts⟩ := messageEvent_says runtime hdelta
      (by simp) (by simp) (.inr (by simp))
    obtain ⟨hstopTerminal, hstopFailed, hstopUsage, hstopParts⟩ := messageEvent_says runtime hstop
      (by simp) (by simp) (.inl rfl)
    have hstartObject : anthropicUsageObject "message_start" (some start) = some started := by
      unfold anthropicUsageObject
      rw [if_pos rfl, hinner]
      exact congrArg objectValue hstarted
    have hdeltaObject : anthropicUsageObject "message_delta" (some delta) = some changed := by
      unfold anthropicUsageObject
      rw [if_neg (by simp), if_pos (.inl rfl), hchanged]
      rfl
    have hstopNone : anthropicSSEUsage runtime "message_stop" (some stop) = none := by
      have hkind : anthropicKind runtime "message_stop" (some stop) = "message_stop" := by
        unfold anthropicKind
        rw [hstop.type, ite_self]
      unfold anthropicSSEUsage
      rw [hkind]
      unfold anthropicUsageObject
      rw [hstop.silent "usage" (by simp)]
      rfl
    rw [hstart.silent "usage" (by simp)] at hstartUsage
    rw [hchanged] at hdeltaUsage
    rw [hstop.silent "usage" (by simp)] at hstopUsage
    rw [hstopNone] at hstopParts
    have hagrees := messageUsage_agrees runtime hsame hstart hdelta hstartObject hdeltaObject rfl
    have hstartSays := inspectSSEFrame_sound runtime startFrame
    have hdeltaSays := inspectSSEFrame_sound runtime deltaFrame
    have hstopSays := inspectSSEFrame_sound runtime stopFrame
    unfold Carries at hstartFrame hdeltaFrame hstopFrame
    obtain ⟨first, hfirst⟩ :
        ∃ first, inspectSSEEvent runtime startName (some start) = first := ⟨_, rfl⟩
    obtain ⟨second, hsecond⟩ :
        ∃ second, inspectSSEEvent runtime deltaName (some delta) = second := ⟨_, rfl⟩
    obtain ⟨last, hlast⟩ : ∃ last, inspectSSEEvent runtime stopName (some stop) = last := ⟨_, rfl⟩
    rw [hfirst] at hstartFrame hstartTerminal hstartUsage hstartParts
    rw [hsecond] at hdeltaFrame hdeltaTerminal hdeltaUsage hdeltaParts
    rw [hlast] at hstopFrame hstopTerminal hstopFailed hstopUsage hstopParts
    rw [hstartFrame] at hstartSays
    rw [hdeltaFrame] at hdeltaSays
    rw [hstopFrame] at hstopSays
    refine ⟨_, last,
      ((hstartSound.observe hstartSays).observe hdeltaSays).observe hstopSays, hstopFailed, ?_, ?_⟩
    · have hreported : reportedUsage runtime response = usageFromObject runtime (some usage) := by
        unfold reportedUsage
        rw [husage]
        rfl
      rw [hreported, ← hagrees]
      unfold EvidenceWriter.trustedUsage EvidenceWriter.observe
      dsimp only
      rw [hstopParts, hdeltaParts, hstartParts, hstopUsage, hdeltaUsage, hstartUsage]
      exact congrArg (ite _ _) Option.or_none
    · rw [streamEvidence_open runtime hstartFrame hstartTerminal hshort.1,
        streamEvidence_open runtime hdeltaFrame hdeltaTerminal hshort.2,
        streamEvidence_last runtime hstopFrame hstopTerminal]
      simp [hshort.1, hshort.2, Nat.add_assoc]

/-! ### Agreement -/

/-- Evidence that says the same of the cost. -/
structure Agree (left right : Evidence) : Prop where
  costExposure : left.costExposure = right.costExposure
  finalUsageEvidence : left.finalUsageEvidence = right.finalUsageEvidence
  failure : left.failureClass = "" ↔ right.failureClass = ""
  trustedUsage : left.trustedUsage = right.trustedUsage

/-- The objects in which a response can report its usage. -/
def usageObjects (response : List (String × Json ν)) : List (GoObject ν) :=
  [objectValue (valueAt (some response) "usage"),
    objectValue (valueAt (objectValue (valueAt (some response) "response")) "usage")]

/-- Evidence that the receiver takes as it is, with no usage but explicit and consistent one. -/
structure Trustworthy (response : List (String × Json ν)) (attemptRef : String)
    (evidence : Evidence) : Prop where
  accepted : parseCpaBasicEvidenceEnvelope runtime.format (evidenceJson runtime evidence)
    attemptRef = some (envelopeOf evidence)
  event : parseCpaBasicStreamEvidenceEvent runtime.format
    (.object [("type", .string "cpa.basic.evidence"), ("envelope", evidenceJson runtime evidence)])
    attemptRef = some (envelopeOf evidence)
  usage : ∀ usage, evidence.trustedUsage = some usage → Consistent usage ∧
    ∃ object ∈ usageObjects response, Explicit runtime object usage

/-- The evidence of both forms of a response is good. -/
structure Faithful (failed : Bool) (response : List (String × Json ν)) (attemptRef : String)
    (json stream : Evidence) : Prop where
  agree : Agree json stream
  accruing : failed = true → reportedUsage runtime response = none →
    json.costExposure = .accruing ∧ stream.costExposure = .accruing
  json : Trustworthy runtime response attemptRef json
  stream : Trustworthy runtime response attemptRef stream

/-- When the branches for the two forms go the same way, with nothing cut off. -/
def SameBranches (json sse : Negotiated) (status : Nat) (body : List UInt8) (failed : Bool)
    (response : List (String × Json ν)) (frames : List (List UInt8)) : Prop :=
  ((∀ frame ∈ frames, frame.length ≤ maxSSEFrameInspectionBytes) ∧
    sse.cancelled frames.flatten.length = false) ∧
  if 400 ≤ status then failed = true ∧ reportedUsage runtime response = none
  else (json.cancelled body.length = false ∧ body.length ≤ maxJSONInspectionBytes) ∧
    (loweredField runtime (some response) "type" ∈ failingTypes → failed = true) ∧
    normalizedUsage runtime (some response) = reportedUsage runtime response ∧
    (failed = true → reportedUsage runtime response ≠ none)

theorem normalizedUsage_explicit {usage : TrustedUsage}
    (h : normalizedUsage runtime (some response) = some usage) :
    Consistent usage ∧ ∃ object ∈ usageObjects response, Explicit runtime object usage := by
  unfold normalizedUsage at h
  dsimp only at h
  split at h
  · next found hfound =>
    obtain rfl := Option.some.inj h
    obtain ⟨inner, hinner, hexplicit⟩ := Option.bind_eq_some_iff.mp hfound
    obtain ⟨hconsistent, hexplicit⟩ := usageFromObject_explicit runtime hexplicit
    refine ⟨hconsistent, _, List.mem_cons_of_mem _ (List.mem_singleton.mpr ?_), hexplicit⟩
    rw [hinner]
  · obtain ⟨hconsistent, hexplicit⟩ := usageFromObject_explicit runtime h
    exact ⟨hconsistent, _, List.mem_cons_self, hexplicit⟩

theorem trustworthy_of_sound {response : List (String × Json ν)} {evidence : Evidence}
    (h : Sound evidence)
    (husage : ∀ usage, evidence.trustedUsage = some usage →
      ∃ object ∈ usageObjects response, Explicit runtime object usage) :
    Trustworthy runtime response evidence.providerAttemptRef evidence where
  accepted := parse_evidenceJson runtime h
  event := by
    have hlookup : Json.member? [("type", Json.string "cpa.basic.evidence"),
        ("envelope", evidenceJson runtime evidence)] "envelope" =
          some (evidenceJson runtime evidence) := by
      simp [Json.member?_cons]
    unfold parseCpaBasicStreamEvidenceEvent
    dsimp only
    rw [hlookup, if_neg (by simp [stringField, Json.member?])]
    exact parse_evidenceJson runtime h
  usage usage hsome := ⟨h.usage usage hsome, husage usage hsome⟩

/-- The evidence before a frame that ends the response, field by field. -/
theorem frameEvidence_eq (request : Negotiated) (writer : EvidenceWriter)
    (observation : FrameObservation) :
    (writer.frameEvidence request observation).providerAttemptRef = request.attemptRef ∧
      (writer.frameEvidence request observation).costExposure =
        (if observation.failed = true ∧ writer.trustedUsage = none then .accruing else .stopped) ∧
      (writer.frameEvidence request observation).finalUsageEvidence =
        (if writer.trustedUsage.isSome then .final else .pending) ∧
      ((writer.frameEvidence request observation).failureClass = "" ↔
        observation.failed = false) ∧
      (writer.frameEvidence request observation).trustedUsage = writer.trustedUsage := by
  have hclass : ∀ status, failureClassForStatus status ≠ "" := by
    intro status
    unfold failureClassForStatus
    split_ifs <;> decide
  unfold EvidenceWriter.frameEvidence
  cases writer.trustedUsage <;> cases observation.failed <;>
    simp [hclass]

/-- The evidence behind a body that could be inspected, field by field. -/
theorem bodyEvidence_eq (request : Negotiated) {status : Nat} (hstatus : ¬400 ≤ status)
    (hterminal : observation.terminal = true) :
    (bodyEvidence request status false observation).costExposure = .stopped ∧
      (bodyEvidence request status false observation).finalUsageEvidence =
        (if observation.usage.isSome then .final else .pending) ∧
      ((bodyEvidence request status false observation).failureClass = "" ↔
        observation.failed = false) ∧
      (bodyEvidence request status false observation).trustedUsage = observation.usage := by
  have hclass : failureClassForStatus status ≠ "" := by
    unfold failureClassForStatus
    split_ifs <;> decide
  rw [bodyEvidence_ok request hstatus, if_pos ⟨rfl, hterminal⟩]
  refine ⟨rfl, rfl, ?_, rfl⟩
  cases observation.failed <;> simp [hclass]

section Body

variable {failed : Bool} {response : List (String × Json ν)} {frames : List (List UInt8)}
  {body : List UInt8} (hvalid : runtime.valid body = true)
  (hbody : decodeJSONObject runtime body = some response) (json : Negotiated)

include hvalid hbody

/-- What the middleware reads in the body, unless it is cut off. -/
theorem inspectBody_eq :
    inspectBody runtime json body =
      if json.cancelled body.length = false ∧ body.length ≤ maxJSONInspectionBytes then
        inspectNormalizedObject runtime (some response)
      else {} := by
  unfold inspectBody inspectNormalizedJSON
  simp only [hvalid, and_true, hbody]

variable (h : Forms runtime failed response frames)

include h

theorem jsonBodyEvidence_trustworthy (status : Nat) :
    Trustworthy runtime response json.attemptRef (jsonBodyEvidence runtime json status body) := by
  have hread := inspectBody_eq runtime hvalid hbody json
  obtain ⟨-, -, husage⟩ := inspect_forms runtime h
  have hsound : SoundObservation (inspectBody runtime json body) := by
    rw [hread]
    split_ifs
    · exact inspectNormalizedObject_sound runtime _
    · exact soundObservation_empty
  have hevidence := bodyEvidence_sound json status (json.cancelled body.length) hsound
  have href : (jsonBodyEvidence runtime json status body).providerAttemptRef = json.attemptRef := by
    unfold jsonBodyEvidence
    by_cases hstatus : 400 ≤ status
    · rw [bodyEvidence_error json hstatus]
    · rw [bodyEvidence_ok json hstatus]
      split_ifs <;> rfl
  rw [← href]
  refine trustworthy_of_sound runtime hevidence ?_
  intro usage hsome
  unfold jsonBodyEvidence at hsome
  have hobserved : (inspectBody runtime json body).usage = some usage := by
    by_cases hstatus : 400 ≤ status
    · rw [bodyEvidence_error json hstatus] at hsome
      cases hsome
    · rw [bodyEvidence_ok json hstatus] at hsome
      by_cases hterminal : (!json.cancelled body.length) = true ∧
          (inspectBody runtime json body).terminal = true
      · rw [if_pos hterminal] at hsome
        exact hsome
      · rw [if_neg hterminal] at hsome
        cases hsome
  rw [hread] at hobserved
  split_ifs at hobserved
  rw [husage] at hobserved
  exact (normalizedUsage_explicit runtime hobserved).2

/-- The two branches agree exactly where they go the same way. -/
theorem agree_iff {sse : Negotiated} (hfailed : observation.failed = failed)
    (hreported : writer.trustedUsage = reportedUsage runtime response) (status : Nat) :
    (Agree (jsonBodyEvidence runtime json status body) (writer.frameEvidence sse observation) ∧
      (failed = true → reportedUsage runtime response = none →
        (jsonBodyEvidence runtime json status body).costExposure = .accruing ∧
          (writer.frameEvidence sse observation).costExposure = .accruing)) ↔
      if 400 ≤ status then failed = true ∧ reportedUsage runtime response = none
      else (json.cancelled body.length = false ∧ body.length ≤ maxJSONInspectionBytes) ∧
        (loweredField runtime (some response) "type" ∈ failingTypes → failed = true) ∧
        normalizedUsage runtime (some response) = reportedUsage runtime response ∧
        (failed = true → reportedUsage runtime response ≠ none) := by
  obtain ⟨-, hexposure, hfinal, hclass, husage⟩ := frameEvidence_eq sse writer observation
  rw [hreported, hfailed] at hexposure
  rw [hreported] at hfinal husage
  rw [hfailed] at hclass
  have hread := inspectBody_eq runtime hvalid hbody json
  by_cases hstatus : 400 ≤ status
  · rw [if_pos hstatus]
    have hother : failureClassForStatus status ≠ "" := by
      unfold failureClassForStatus
      split_ifs <;> decide
    unfold jsonBodyEvidence
    rw [bodyEvidence_error json hstatus]
    constructor
    · rintro ⟨hagree, -⟩
      have hboth := hagree.costExposure.trans hexposure
      by_contra hnot
      rw [if_neg hnot] at hboth
      cases hboth
    · intro hboth
      rw [if_pos hboth] at hexposure
      rw [hboth.2] at hfinal husage
      rw [hboth.1] at hclass
      refine ⟨⟨hexposure.symm, hfinal.symm, ?_, husage.symm⟩, fun _ _ => ⟨rfl, hexposure⟩⟩
      exact iff_of_false hother fun hempty => Bool.noConfusion (hclass.mp hempty)
  · rw [if_neg hstatus]
    by_cases hwhole : json.cancelled body.length = false ∧ body.length ≤ maxJSONInspectionBytes
    · -- the body is read, so its form says that the cost stopped
      obtain ⟨hterminal, hbodyFailed, hbodyUsage⟩ := inspect_forms runtime h
      obtain ⟨hstopped, hjsonFinal, hjsonClass, hjsonUsage⟩ :=
        bodyEvidence_eq json hstatus hterminal
      rw [hbodyFailed] at hjsonClass
      rw [hbodyUsage] at hjsonFinal hjsonUsage
      unfold jsonBodyEvidence
      rw [hread, if_pos hwhole, hwhole.1]
      constructor
      · rintro ⟨hagree, -⟩
        have hsame := hjsonUsage.symm.trans (hagree.trustedUsage.trans husage)
        refine ⟨⟨rfl, hwhole.2⟩, ?_, hsame, ?_⟩
        · intro htype
          have hnot : ¬(decide (loweredField runtime (some response) "type" ∈ failingTypes) ||
              failed) = false := by
            rw [decide_eq_true htype, Bool.true_or]
            exact Bool.noConfusion
          have hfails := mt (hjsonClass.mp ∘ hagree.failure.mpr) hnot
          exact (Bool.not_eq_false _).mp (mt hclass.mpr hfails)
        · intro hfails hnone
          have hboth := hstopped.symm.trans (hagree.costExposure.trans hexposure)
          rw [if_pos ⟨hfails, hnone⟩] at hboth
          cases hboth
      · rintro ⟨-, htype, hsame, hcomplete⟩
        have hnever : ¬(failed = true ∧ reportedUsage runtime response = none) :=
          fun hboth => hcomplete hboth.1 hboth.2
        rw [if_neg hnever] at hexposure
        rw [hsame] at hjsonFinal hjsonUsage
        refine ⟨⟨hstopped.trans hexposure.symm, hjsonFinal.trans hfinal.symm, ?_,
          hjsonUsage.trans husage.symm⟩, fun hfails hnone => absurd hnone (hcomplete hfails)⟩
        rw [hjsonClass, hclass, Bool.or_eq_false_iff, decide_eq_false_iff_not]
        refine ⟨And.right, fun hfails => ⟨fun hmem => ?_, hfails⟩⟩
        rw [htype hmem] at hfails
        cases hfails
    · -- the body is cut off: it tells of no failure, and of no end
      have hjson : jsonBodyEvidence runtime json status body =
          { contract := cpaBasicEvidenceContract
            version := 1
            providerAttemptRef := json.attemptRef
            costExposure := .accruing
            finalUsageEvidence := .pending } := by
        unfold jsonBodyEvidence
        rw [hread, if_neg hwhole, bodyEvidence_ok json hstatus, if_neg (by simp)]
      refine iff_of_false ?_ fun hall => hwhole hall.1
      rintro ⟨hagree, -⟩
      rw [hjson] at hagree
      have hnot := hclass.mp (hagree.failure.mp rfl)
      have hboth := hagree.costExposure.trans hexposure
      rw [hnot, if_neg (by simp)] at hboth
      cases hboth

end Body

/-- **The two forms of a response agree** exactly where the branches for them go the same way, with
nothing cut off.  They differ on a failed response without complete usage: the cost accrues in an
event stream, but has stopped in a JSON body whose status is no error. -/
theorem forms_agree_iff {failed : Bool} {response : List (String × Json ν)}
    {frames : List (List UInt8)} (h : Forms runtime failed response frames) {body : List UInt8}
    (hne : body ≠ []) (hvalid : runtime.valid body = true)
    (hbody : decodeJSONObject runtime body = some response) {json sse : Negotiated}
    (hjson : IsJSON runtime json) (hsse : mediaType runtime sse = "text/event-stream")
    (hfault : json.fault = none ∧ sse.fault = none) (href : sse.attemptRef = json.attemptRef)
    (status : Nat) {payloads streamPayloads : List (List UInt8)}
    (hpayloads : payloads.flatten = body)
    (hframes : framesFrom [] streamPayloads.flatten = (frames, [])) :
    respond runtime json status payloads =
        ascii cpaBasicJSONPrefix ++ body ++ (ascii ",\"evidence\":" ++
          marshal runtime (evidenceJson runtime (jsonBodyEvidence runtime json status body)) ++
          ascii "\x7d") ∧
      SentWith runtime frames (respond runtime sse status streamPayloads)
        (streamEvidence runtime sse { status := status } 0 frames) ∧
      ((∃ stream, streamEvidence runtime sse { status := status } 0 frames = some stream ∧
          Faithful runtime failed response json.attemptRef
            (jsonBodyEvidence runtime json status body) stream) ↔
        SameBranches runtime json sse status body failed response frames) := by
  subst hpayloads
  refine ⟨respond_json runtime json hjson hfault.1 status payloads hne,
    respond_stream runtime sse hsse hfault.2 status hframes, ?_⟩
  obtain ⟨writer, observation, hsound, hfailed, hreported, hstream⟩ :=
    streamEvidence_forms runtime h sse status
  unfold SameBranches
  -- a stream that is cut off, or has a frame too long to inspect, says nothing
  by_cases hwhole : (∀ frame ∈ frames, frame.length ≤ maxSSEFrameInspectionBytes) ∧
      sse.cancelled frames.flatten.length = false
  · rw [hstream, if_pos hwhole, and_iff_right hwhole,
      ← agree_iff runtime hvalid hbody json h hfailed hreported status]
    have hstreamRef : (writer.frameEvidence sse observation).providerAttemptRef = json.attemptRef :=
      (frameEvidence_eq sse writer observation).1.trans href
    have htrusted : Trustworthy runtime response json.attemptRef
        (writer.frameEvidence sse observation) := by
      rw [← hstreamRef]
      refine trustworthy_of_sound runtime (frameEvidence_sound sse hsound observation) ?_
      intro usage hsome
      rw [(frameEvidence_eq sse writer observation).2.2.2.2, hreported] at hsome
      exact ⟨_, List.mem_cons_self, (usageFromObject_explicit runtime hsome).2⟩
    constructor
    · rintro ⟨stream, hsame, hfaithful⟩
      obtain rfl := Option.some.inj hsame
      exact ⟨hfaithful.agree, hfaithful.accruing⟩
    · rintro ⟨hagree, haccruing⟩
      exact ⟨_, rfl, hagree, haccruing,
        jsonBodyEvidence_trustworthy runtime hvalid hbody json h status, htrusted⟩
  · rw [hstream, if_neg hwhole]
    refine iff_of_false ?_ fun hall => hwhole hall.1
    rintro ⟨stream, hnone, -⟩
    cases hnone

/-! ### A failed response -/

/-- A failed response that says nothing of usage. -/
def failedBody : List UInt8 := ascii "\x7b\"object\":\"response\",\"status\":\"failed\"\x7d"

def failedData : List UInt8 :=
  ascii "\x7b\"type\":\"response.failed\",\"response\":" ++ failedBody ++ ascii "\x7d"

/-- The same response as the last frame of a stream. -/
def failedFrame : List UInt8 :=
  ascii "event: response.failed\ndata: " ++ failedData ++ [10, 10]

def failedResponse : List (String × Json Nat) :=
  [("object", .string "response"), ("status", .string "failed")]

def failedEvent : List (String × Json Nat) :=
  [("type", .string "response.failed"), ("response", .object failedResponse)]

/-- The two texts are decoded here, and white space. -/
def failedRuntime : GoRuntime Nat :=
  { blankRuntime with
    decode := fun payload =>
      if payload = failedBody then .value (.object failedResponse) []
      else if payload = failedData then .value (.object failedEvent) []
      else blankRuntime.decode payload
    valid := fun payload => payload = failedBody ∨ payload = failedData }

def jsonRequest : Negotiated := { streamRequest with contentType := "application/json" }

theorem decode_failedBody : decodeJSONObject failedRuntime failedBody = some failedResponse := by
  have hdecode : failedRuntime.decode failedBody = .value (.object failedResponse) [] := by
    unfold failedRuntime
    dsimp only
    rw [if_pos rfl]
  unfold decodeJSONObject
  rw [hdecode]
  rfl

theorem carries_failedFrame : Carries failedRuntime failedFrame "response.failed" failedEvent := by
  have hparse : parseSSEFrame failedFrame = ("response.failed", failedData) := by
    decide
  have hdecode : decodeJSONObject failedRuntime failedData = some failedEvent := by
    have hvalue : failedRuntime.decode failedData = .value (.object failedEvent) [] := by
      have hother : failedData ≠ failedBody := by decide
      unfold failedRuntime
      dsimp only
      rw [if_neg hother, if_pos rfl]
    unfold decodeJSONObject
    rw [hvalue]
    rfl
  have hdone : trimSpace (Utf8.decodeAll failedData) ≠ "[DONE]".toList := by decide
  unfold Carries inspectSSEFrame
  rw [hparse]
  dsimp only
  rw [hdecode, if_neg hdone, if_neg]
  decide

theorem forms_failedResponse : Forms failedRuntime true failedResponse [failedFrame] := by
  have hevent : EventOf failedRuntime "response.failed" "response.failed" failedEvent
      ["usage", "object"] := by
    refine ⟨by decide, by decide, ?_⟩
    intro key hkey
    simp only [List.mem_cons, List.not_mem_nil, or_false] at hkey
    rcases hkey with rfl | rfl <;> rfl
  exact .response .failed (by decide) (by decide) hevent rfl carries_failedFrame

/-- With an error status, both forms of a failed response say that the cost accrues. -/
theorem failedResponse_agrees :
    ∃ stream, streamEvidence failedRuntime streamRequest { status := 500 } 0 [failedFrame] =
        some stream ∧
      Faithful failedRuntime true failedResponse "attempt-1"
        (jsonBodyEvidence failedRuntime jsonRequest 500 failedBody) stream := by
  have hjson : IsJSON failedRuntime jsonRequest := by
    unfold IsJSON
    decide
  have hmedia : mediaType failedRuntime streamRequest = "text/event-stream" := by decide
  have hpayloads : [failedBody].flatten = failedBody := List.append_nil _
  have hframes : framesFrom [] [failedFrame].flatten = ([failedFrame], []) := by decide
  have hbranches : SameBranches failedRuntime jsonRequest streamRequest 500 failedBody true
      failedResponse [failedFrame] :=
    ⟨⟨by decide, rfl⟩, rfl, rfl⟩
  exact (forms_agree_iff failedRuntime forms_failedResponse (by decide) (by decide)
    decode_failedBody
    hjson hmedia ⟨rfl, rfl⟩ rfl 500 hpayloads hframes).2.2.mpr hbranches

/-- A failed response without usage: as a body it says that the cost stopped, and in the event that
carries it that the cost accrues. -/
theorem failedResponse_differs :
    Forms failedRuntime true failedResponse [failedFrame] ∧
      decodeJSONObject failedRuntime failedBody = some failedResponse ∧
      (jsonBodyEvidence failedRuntime jsonRequest 200 failedBody).costExposure = .stopped ∧
      (streamEvidence failedRuntime streamRequest { status := 200 } 0 [failedFrame]).map
        (fun stream => stream.costExposure) = some .accruing ∧
      ¬∃ stream, streamEvidence failedRuntime streamRequest { status := 200 } 0 [failedFrame] =
          some stream ∧
        Faithful failedRuntime true failedResponse "attempt-1"
          (jsonBodyEvidence failedRuntime jsonRequest 200 failedBody) stream := by
  have hstopped : (jsonBodyEvidence failedRuntime jsonRequest 200 failedBody).costExposure =
      .stopped := by
    decide
  refine ⟨forms_failedResponse, decode_failedBody, hstopped, by decide +kernel, ?_⟩
  rintro ⟨stream, -, hfaithful⟩
  have haccruing := (hfaithful.accruing rfl rfl).1
  rw [hstopped] at haccruing
  cases haccruing

end Frely.CpaBasic
