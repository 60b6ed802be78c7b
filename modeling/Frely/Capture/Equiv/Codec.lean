import Frely.Capture.Codec
import Mathlib.Data.List.InsertIdx

/-!
# What an encoding leads back to

A JSON tree is safe when it nests at most 64 deep (`safeTree_eq`).  A patch keeps the keys of
objects distinct, so that comparing canonical texts compares JSON values.  Together: the encoding of
two bodies is always reconstructed to the second one (`reconstruct_encodeTrees`), whichever form it
takes.
-/

namespace Frely.Capture

open Checked Json

variable {ν : Type}

/-! ### Depth -/

variable {items : List (Json ν)} {members : List (String × Json ν)} {value : Json ν}

/-- The patch does not fit in the limits. -/
def limitExceeded : CaptureError := .codec "capture_patch_limit_exceeded"

/-- A value is visited without change, unless something in it is too deep. -/
def VisitSpec (value : Json ν) : Prop :=
  ∀ depth, visit depth value =
    if depth + value.nesting ≤ maxDepth then .ok value else .error limitExceeded

theorem visitItems_eq (h : ∀ item ∈ items, VisitSpec item) (depth : Nat) :
    visitItems depth items =
      if ∀ item ∈ items, depth + item.nesting ≤ maxDepth then .ok items
      else .error limitExceeded := by
  induction items with
  | nil => rfl
  | cons item rest ih =>
    obtain ⟨hitem, hrest⟩ := List.forall_mem_cons.mp h
    rw [visitItems, hitem depth, ih hrest]
    simp only [List.forall_mem_cons]
    by_cases hhead : depth + item.nesting ≤ maxDepth
    · by_cases htail : ∀ item ∈ rest, depth + item.nesting ≤ maxDepth
      · rw [if_pos hhead, if_pos htail, if_pos ⟨hhead, htail⟩]
        rfl
      · have hnot : ¬(depth + item.nesting ≤ maxDepth ∧
            ∀ item ∈ rest, depth + item.nesting ≤ maxDepth) := fun hall => htail hall.2
        rw [if_pos hhead, if_neg htail, if_neg hnot]
        rfl
    · have hnot : ¬(depth + item.nesting ≤ maxDepth ∧
          ∀ item ∈ rest, depth + item.nesting ≤ maxDepth) := fun hall => hhead hall.1
      rw [if_neg hhead, if_neg hnot]
      rfl

theorem visitMembers_eq (h : ∀ member ∈ members, VisitSpec member.2) (depth : Nat) :
    visitMembers depth members =
      if ∀ member ∈ members, depth + member.2.nesting ≤ maxDepth then .ok members
      else .error limitExceeded := by
  induction members with
  | nil => rfl
  | cons member rest ih =>
    obtain ⟨hmember, hrest⟩ := List.forall_mem_cons.mp h
    obtain ⟨key, value⟩ := member
    rw [visitMembers, hmember depth, ih hrest]
    simp only [List.forall_mem_cons]
    by_cases hhead : depth + value.nesting ≤ maxDepth
    · by_cases htail : ∀ member ∈ rest, depth + member.2.nesting ≤ maxDepth
      · rw [if_pos hhead, if_pos htail, if_pos ⟨hhead, htail⟩]
        rfl
      · have hnot : ¬(depth + value.nesting ≤ maxDepth ∧
            ∀ member ∈ rest, depth + member.2.nesting ≤ maxDepth) := fun hall => htail hall.2
        rw [if_pos hhead, if_neg htail, if_neg hnot]
        rfl
    · have hnot : ¬(depth + value.nesting ≤ maxDepth ∧
          ∀ member ∈ rest, depth + member.2.nesting ≤ maxDepth) := fun hall => hhead hall.1
      rw [if_neg hhead, if_neg hnot]
      rfl

/-- The depth of a tree is the deepest of what is in it. -/
theorem depth_le_iff {depth inner : Nat} (hdepth : depth ≤ maxDepth) :
    depth + inner ≤ maxDepth ↔ inner ≤ maxDepth - depth := by omega

theorem visit_eq (value : Json ν) : VisitSpec value := by
  induction value using Json.induction with
  | array items ih =>
    intro depth
    rw [visit.eq_def]
    by_cases hdepth : maxDepth < depth
    · rw [if_pos hdepth, if_neg (by omega)]
      rfl
    · have hiff : depth + (Json.array items).nesting ≤ maxDepth ↔
          ∀ item ∈ items, depth + 1 + item.nesting ≤ maxDepth := by
        rw [depth_le_iff (Nat.le_of_not_lt hdepth), nesting, nestingItems_le]
        refine forall₂_congr fun item _ => ?_
        omega
      simp only [if_neg hdepth, hiff]
      rw [visitItems_eq ih]
      split <;> rfl
  | object members ih =>
    intro depth
    rw [visit.eq_def]
    by_cases hdepth : maxDepth < depth
    · rw [if_pos hdepth, if_neg (by omega)]
      rfl
    · have hiff : depth + (Json.object members).nesting ≤ maxDepth ↔
          ∀ member ∈ members, depth + 1 + member.2.nesting ≤ maxDepth := by
        rw [depth_le_iff (Nat.le_of_not_lt hdepth), nesting, nestingMembers_le]
        refine forall₂_congr fun member _ => ?_
        omega
      simp only [if_neg hdepth, hiff]
      rw [visitMembers_eq ih]
      split <;> rfl
  | _ =>
    intro depth
    rw [visit.eq_def]
    by_cases hdepth : maxDepth < depth
    · rw [if_pos hdepth, if_neg (by omega)]
      rfl
    · rw [if_neg hdepth, if_pos (by simp only [nesting]; omega)]
      rfl

theorem safeTree_eq (value : Json ν) :
    safeTree value = if value.nesting ≤ maxDepth then .ok value else .error limitExceeded := by
  rw [safeTree, visit_eq value 0, Nat.zero_add]

theorem safeTree_eq_ok {tree : Json ν} :
    safeTree value = .ok tree ↔ value.nesting ≤ maxDepth ∧ tree = value := by
  rw [safeTree_eq]
  split_ifs with h
  · rw [Except.ok.injEq]
    exact ⟨fun heq => ⟨h, heq.symm⟩, fun heq => heq.2.symm⟩
  · constructor
    · intro heq
      cases heq
    · intro heq
      exact absurd heq.1 h

theorem toSafeJsonTree_eq_ok {value : Unknown ν} {tree : Json ν} :
    toSafeJsonTree value = .ok tree ↔
      ∃ distinct, value = .tree tree distinct ∧ tree.nesting ≤ maxDepth := by
  cases value with
  | tree value distinct =>
    rw [toSafeJsonTree, safeTree_eq_ok]
    constructor
    · rintro ⟨hnesting, rfl⟩
      exact ⟨distinct, rfl, hnesting⟩
    · rintro ⟨_, heq, hnesting⟩
      cases heq
      exact ⟨hnesting, rfl⟩
  | other =>
    constructor
    · intro h
      cases h
    · rintro ⟨_, heq, -⟩
      cases heq

/-! ### Patches keep keys distinct -/

variable {key : String} {op : PatchOp ν} {result patch : Json ν} {format : NumberFormat ν}
  {operations : List (PatchOperation ν)}

theorem distinct_array : (Json.array items).Distinct ↔ ∀ item ∈ items, item.Distinct :=
  distinctItems_iff

theorem distinct_object :
    (Json.object members).Distinct ↔
      (keys members).Nodup ∧ ∀ member ∈ members, member.2.Distinct :=
  and_congr_right fun _ => distinctMembers_iff

theorem mem_of_member? (h : member? members key = some value) : (key, value) ∈ members := by
  induction members with
  | nil => cases h
  | cons member rest ih =>
    obtain ⟨name, found⟩ := member
    rw [member?, List.lookup_cons] at h
    by_cases hname : key = name
    · subst hname
      rw [beq_self_eq_true] at h
      cases h
      exact List.mem_cons_self
    · rw [beq_false_of_ne hname] at h
      exact List.mem_cons_of_mem _ (ih h)

theorem mem_setMember {member : String × Json ν} (h : member ∈ setMember members key value) :
    member = (key, value) ∨ member ∈ members := by
  induction members with
  | nil => exact .inl (List.mem_singleton.mp h)
  | cons head rest ih =>
    rw [setMember] at h
    split_ifs at h with hkey
    · rcases List.mem_cons.mp h with rfl | h
      · exact .inl rfl
      · exact .inr (List.mem_cons_of_mem _ h)
    · rcases List.mem_cons.mp h with rfl | h
      · exact .inr List.mem_cons_self
      · exact (ih h).imp_right (List.mem_cons_of_mem _)

theorem nodup_setMember (h : (keys members).Nodup) (key : String) (value : Json ν) :
    (keys (setMember members key value)).Nodup := by
  induction members with
  | nil => exact List.nodup_cons.mpr ⟨List.not_mem_nil, List.nodup_nil⟩
  | cons head rest ih =>
    obtain ⟨hhead, hrest⟩ := List.nodup_cons.mp h
    rw [setMember]
    split_ifs with hkey
    · subst hkey
      exact h
    · refine List.nodup_cons.mpr ⟨fun hmem => ?_, ih hrest⟩
      obtain ⟨member, hmember, hname⟩ := List.mem_map.mp hmem
      rcases mem_setMember hmember with rfl | hmember
      · exact hkey hname.symm
      · exact hhead (hname ▸ List.mem_map_of_mem hmember)

theorem distinct_setMember (h : (Json.object members).Distinct) (key : String)
    (hvalue : value.Distinct) : (Json.object (setMember members key value)).Distinct := by
  obtain ⟨hkeys, hmembers⟩ := distinct_object.mp h
  refine distinct_object.mpr ⟨nodup_setMember hkeys key value, fun member hmember => ?_⟩
  rcases mem_setMember hmember with rfl | hmember
  · exact hvalue
  · exact hmembers member hmember

/-- What an operation puts in has distinct keys. -/
def PatchOp.Distinct : PatchOp ν → Prop
  | .add value => value.Distinct
  | .replace value => value.Distinct
  | .remove => True

theorem applyArrayOperation_distinct {items' : List (Json ν)}
    (hitems : ∀ item ∈ items, item.Distinct) (hop : op.Distinct)
    (h : applyArrayOperation items key op = .ok items') : ∀ item ∈ items', item.Distinct := by
  cases op with
  | add value =>
    obtain ⟨index, -, hrest⟩ := bind_eq_ok.mp h
    obtain ⟨tree, htree, hanswer⟩ := bind_eq_ok.mp hrest
    obtain ⟨-, rfl⟩ := safeTree_eq_ok.mp htree
    cases hanswer
    intro item hitem
    rcases List.eq_or_mem_of_mem_insertIdx hitem with rfl | hitem
    · exact hop
    · exact hitems item hitem
  | remove =>
    obtain ⟨index, -, h⟩ := bind_eq_ok.mp h
    cases h
    intro item hitem
    exact hitems item (List.mem_of_mem_eraseIdx hitem)
  | replace value =>
    obtain ⟨index, -, hrest⟩ := bind_eq_ok.mp h
    obtain ⟨tree, htree, hanswer⟩ := bind_eq_ok.mp hrest
    obtain ⟨-, rfl⟩ := safeTree_eq_ok.mp htree
    cases hanswer
    intro item hitem
    rcases List.mem_or_eq_of_mem_set hitem with hitem | rfl
    · exact hitems item hitem
    · exact hop

theorem applyObjectOperation_distinct {members' : List (String × Json ν)}
    (hmembers : (Json.object members).Distinct) (hop : op.Distinct)
    (h : applyObjectOperation members key op = .ok members') : (Json.object members').Distinct := by
  cases op with
  | add value =>
    obtain ⟨tree, htree, hanswer⟩ := bind_eq_ok.mp h
    obtain ⟨-, rfl⟩ := safeTree_eq_ok.mp htree
    cases hanswer
    exact distinct_setMember hmembers key hop
  | remove =>
    obtain ⟨_, -, h⟩ := bind_eq_ok.mp h
    cases h
    obtain ⟨hkeys, hvalues⟩ := distinct_object.mp hmembers
    refine distinct_object.mpr ⟨?_, fun member hmember =>
      hvalues member (List.mem_filter.mp hmember).1⟩
    exact hkeys.sublist (List.filter_sublist.map _)
  | replace value =>
    obtain ⟨_, -, hrest⟩ := bind_eq_ok.mp h
    obtain ⟨tree, htree, hanswer⟩ := bind_eq_ok.mp hrest
    obtain ⟨-, rfl⟩ := safeTree_eq_ok.mp htree
    cases hanswer
    exact distinct_setMember hmembers key hop

theorem applyAt_distinct (hop : op.Distinct) {tokens : List String} (hvalue : value.Distinct)
    (h : applyAt op tokens value = .ok result) : result.Distinct := by
  fun_induction applyAt op tokens value generalizing result with
  | case1 value => cases h
  | case2 _ tree hadd =>
    obtain ⟨-, rfl⟩ := safeTree_eq_ok.mp h
    rw [hadd] at hop
    exact hop
  | case3 _ tree hreplace =>
    obtain ⟨-, rfl⟩ := safeTree_eq_ok.mp h
    rw [hreplace] at hop
    exact hop
  | case4 key items =>
    obtain ⟨items', hitems, hanswer⟩ := bind_eq_ok.mp h
    cases hanswer
    exact distinct_array.mpr
      (applyArrayOperation_distinct (distinct_array.mp hvalue) hop hitems)
  | case5 key members =>
    obtain ⟨members', hmembers, hanswer⟩ := bind_eq_ok.mp h
    cases hanswer
    exact applyObjectOperation_distinct hvalue hop hmembers
  | case6 token next tokens items ih =>
    obtain ⟨index, -, hrest⟩ := bind_eq_ok.mp h
    have hitems := distinct_array.mp hvalue
    cases hchild : items[index]? with
    | none =>
      rw [hchild] at hrest
      cases hrest
    | some child =>
      rw [hchild] at hrest
      obtain ⟨child', hchild', hanswer⟩ := bind_eq_ok.mp hrest
      cases hanswer
      have hdistinct := ih child (hitems child (List.mem_of_getElem? hchild)) hchild'
      refine distinct_array.mpr fun item hitem => ?_
      rcases List.mem_or_eq_of_mem_set hitem with hitem | rfl
      · exact hitems item hitem
      · exact hdistinct
  | case7 token next tokens members child hchild ih =>
    obtain ⟨child', hchild', hanswer⟩ := bind_eq_ok.mp h
    cases hanswer
    have hdistinct := (distinct_object.mp hvalue).2 _ (mem_of_member? hchild)
    exact distinct_setMember hvalue token (ih hdistinct hchild')
  | case8 => cases h
  | case9 => cases h

theorem validateValue_distinct (hmembers : (Json.object members).Distinct)
    (h : validateValue members = .ok value) : value.Distinct := by
  unfold validateValue at h
  split at h
  · next found hfound =>
    obtain ⟨-, rfl⟩ := safeTree_eq_ok.mp h
    exact (distinct_object.mp hmembers).2 _ (mem_of_member? hfound)
  · cases h

theorem validateOperation_distinct {operation : PatchOperation ν} (hvalue : value.Distinct)
    (h : validateOperation value = .ok operation) : operation.op.Distinct := by
  unfold validateOperation at h
  split at h
  · next members =>
    split at h
    · obtain ⟨_, -, hrest⟩ := bind_eq_ok.mp h
      obtain ⟨path, -, hanswer⟩ := bind_eq_ok.mp hrest
      cases hanswer
      trivial
    · obtain ⟨_, -, hrest⟩ := bind_eq_ok.mp h
      obtain ⟨path, -, hrest⟩ := bind_eq_ok.mp hrest
      obtain ⟨tree, htree, hanswer⟩ := bind_eq_ok.mp hrest
      cases hanswer
      exact validateValue_distinct hvalue htree
    · obtain ⟨_, -, hrest⟩ := bind_eq_ok.mp h
      obtain ⟨path, -, hrest⟩ := bind_eq_ok.mp hrest
      obtain ⟨tree, htree, hanswer⟩ := bind_eq_ok.mp hrest
      cases hanswer
      exact validateValue_distinct hvalue htree
    · cases h
  · cases h

theorem validatePatch_distinct (hpatch : patch.Distinct)
    (h : validatePatch format patch = .ok operations) :
    ∀ operation ∈ operations, operation.op.Distinct := by
  unfold validatePatch at h
  split at h
  · next rows =>
    obtain ⟨_, -, hrest⟩ := bind_eq_ok.mp h
    obtain ⟨_, -, hrest⟩ := bind_eq_ok.mp hrest
    intro operation hoperation
    obtain ⟨row, hrow, hread⟩ := mem_of_mapM_eq_ok hrest operation hoperation
    exact validateOperation_distinct (distinct_array.mp hpatch row hrow) hread
  · cases h

theorem foldlM_distinct {operations : List (PatchOperation ν)}
    (hoperations : ∀ operation ∈ operations, operation.op.Distinct) {root result : Json ν}
    (hroot : root.Distinct) (h : operations.foldlM applyOperation root = .ok result) :
    result.Distinct := by
  induction operations generalizing root with
  | nil =>
    cases h
    exact hroot
  | cons operation rest ih =>
    obtain ⟨hoperation, hrest⟩ := List.forall_mem_cons.mp hoperations
    rw [List.foldlM_cons] at h
    obtain ⟨next, hnext, hfold⟩ := bind_eq_ok.mp h
    obtain ⟨tokens, -, happly⟩ := bind_eq_ok.mp hnext
    exact ih hrest (applyAt_distinct hoperation hroot happly) hfold

theorem applyRequestCapturePatch_distinct {original : Json ν} (horiginal : original.Distinct)
    (hpatch : patch.Distinct) (h : applyRequestCapturePatch format original patch = .ok result) :
    result.Distinct := by
  obtain ⟨operations, hoperations, hrest⟩ := bind_eq_ok.mp h
  obtain ⟨root, hroot, hfold⟩ := bind_eq_ok.mp hrest
  obtain ⟨-, rfl⟩ := safeTree_eq_ok.mp hroot
  exact foldlM_distinct (validatePatch_distinct hpatch hoperations) horiginal hfold

/-! ### Encoding and reconstruction -/

section

variable {runtime : CaptureRuntime ν} {original effective : Json ν}

theorem effectivePatch_eq_ok (h : effectivePatch runtime original effective = .ok patch) :
    runtime.compare original effective = some patch ∧
      ∃ body, applyRequestCapturePatch runtime.format original patch = .ok body ∧
        deepEqualJson runtime body effective = true ∧
        canonicalSha256 runtime body = canonicalSha256 runtime effective := by
  obtain ⟨answer, hcompare, hrest⟩ := bind_eq_ok.mp h
  obtain ⟨operations, -, hrest⟩ := bind_eq_ok.mp hrest
  obtain ⟨_, -, hrest⟩ := bind_eq_ok.mp hrest
  obtain ⟨body, hbody, hrest⟩ := bind_eq_ok.mp hrest
  obtain ⟨_, hsame, hanswer⟩ := bind_eq_ok.mp hrest
  cases hanswer
  have hsame := rejectIf_eq_ok.mp hsame
  rw [not_or, not_not, Bool.not_eq_false] at hsame
  refine ⟨?_, body, hbody, hsame.1, hsame.2⟩
  cases hanswer : runtime.compare original effective with
  | none =>
    rw [hanswer] at hcompare
    cases hcompare
  | some found =>
    rw [hanswer] at hcompare
    cases hcompare
    rfl

/-- A patch that the codec keeps: the bodies differ, they are small enough to be compared, and the
answer of the diff is a patch that is shorter than the effective body and leads to it. -/
structure KeepsPatch (runtime : CaptureRuntime ν) (original effective patch : Json ν) : Prop where
  differ : ¬(canonicalSha256 runtime original = canonicalSha256 runtime effective ∧
    deepEqualJson runtime original effective = true)
  small : jsonBytes runtime original + jsonBytes runtime effective ≤ maxCodecInputBytes
  compare : runtime.compare original effective = some patch
  valid : ∃ operations, validatePatch runtime.format patch = .ok operations
  shorter : jsonBytes runtime patch < jsonBytes runtime effective
  leads : ∃ body, applyRequestCapturePatch runtime.format original patch = .ok body ∧
    deepEqualJson runtime body effective = true ∧
    canonicalSha256 runtime body = canonicalSha256 runtime effective

theorem validatePatch_eq_ok (h : validatePatch format patch = .ok operations) :
    operations.length ≤ maxPatchOperations ∧ byteLength (stringify format patch) ≤
      maxPatchBytes := by
  unfold validatePatch at h
  split at h
  · next rows =>
    obtain ⟨_, hlength, hrest⟩ := bind_eq_ok.mp h
    obtain ⟨_, hbytes, hrest⟩ := bind_eq_ok.mp hrest
    have hlength := rejectIf_eq_ok.mp hlength
    have hbytes := rejectIf_eq_ok.mp hbytes
    have hrows := length_of_mapM_eq_ok hrest
    constructor <;> omega
  · cases h

theorem effectivePatch_of_keepsPatch (h : KeepsPatch runtime original effective patch) :
    effectivePatch runtime original effective = .ok patch := by
  obtain ⟨operations, hvalid⟩ := h.valid
  obtain ⟨body, hbody, hequal, hhash⟩ := h.leads
  obtain ⟨hlength, hbytes⟩ := validatePatch_eq_ok hvalid
  have hshorter := h.shorter
  have hlimits : ¬(maxPatchBytes < jsonBytes runtime patch ∨
      maxPatchOperations < operations.length ∨
      jsonBytes runtime effective ≤ jsonBytes runtime patch) := by
    rw [jsonBytes] at hshorter ⊢
    omega
  have hverify : ¬(deepEqualJson runtime body effective = false ∨
      canonicalSha256 runtime body ≠ canonicalSha256 runtime effective) := by
    rw [not_or, not_not, Bool.not_eq_false]
    exact ⟨hequal, hhash⟩
  rw [effectivePatch, h.compare, Option.elim, bind_ok, hvalid, bind_ok, rejectIf_of_not hlimits,
    bind_ok, hbody, bind_ok, rejectIf_of_not hverify]
  rfl

theorem encodeTrees_of_keepsPatch (h : KeepsPatch runtime original effective patch) :
    encodeTrees runtime original effective = patchEncoding runtime original effective patch := by
  rw [encodeTrees, if_neg h.differ, if_neg (Nat.not_lt.mpr h.small), effectivePatch_of_keepsPatch h]

/-- An encoding with a patch is one whose patch the codec keeps. -/
theorem keepsPatch_or_null (runtime : CaptureRuntime ν) (original effective : Json ν) :
    (encodeTrees runtime original effective).effectivePatch = .null ∨
      ∃ patch, KeepsPatch runtime original effective patch ∧
        (encodeTrees runtime original effective).effectivePatch = patch := by
  unfold encodeTrees
  split_ifs with hsame hlarge
  · exact .inl rfl
  · exact .inl rfl
  · cases hpatch : effectivePatch runtime original effective with
    | error e => exact .inl rfl
    | ok patch =>
      refine .inr ⟨patch, ?_, rfl⟩
      obtain ⟨hcompare, hleads⟩ := effectivePatch_eq_ok hpatch
      obtain ⟨answer, hanswer, hrest⟩ := bind_eq_ok.mp hpatch
      rw [hcompare] at hanswer
      cases hanswer
      obtain ⟨operations, hvalid, hrest⟩ := bind_eq_ok.mp hrest
      obtain ⟨_, hlimits, -⟩ := bind_eq_ok.mp hrest
      have hlimits := rejectIf_eq_ok.mp hlimits
      exact ⟨hsame, by omega, hcompare, ⟨operations, hvalid⟩, by omega, hleads⟩

/-- Where canonical texts agree, so do the values. -/
theorem same_of_deepEqualJson {other : Json ν} (hvalue : value.Distinct) (hother : other.Distinct)
    (h : deepEqualJson runtime value other = true) : value.Same other :=
  runtime.same_of_canonicalize value other hvalue hother (of_decide_eq_true h)

/-- The three forms that an encoding of two bodies takes. -/
theorem encodeTrees_cases (runtime : CaptureRuntime ν) (original effective : Json ν) :
    (encodeTrees runtime original effective = identityEncoding runtime original effective ∧
      canonicalSha256 runtime original = canonicalSha256 runtime effective ∧
      deepEqualJson runtime original effective = true) ∨
    encodeTrees runtime original effective = fullEncoding runtime original effective ∨
    ∃ patch, encodeTrees runtime original effective =
        patchEncoding runtime original effective patch ∧
      effectivePatch runtime original effective = .ok patch := by
  unfold encodeTrees
  split_ifs with hsame hlarge
  · exact .inl ⟨rfl, hsame⟩
  · exact .inr (.inl rfl)
  · cases hpatch : effectivePatch runtime original effective with
    | ok patch => exact .inr (.inr ⟨patch, rfl, rfl⟩)
    | error e => exact .inr (.inl rfl)

/-- An encoding that keeps its effective hash is reconstructed when its body has this hash. -/
theorem reconstruct_eq_ok {encoding : RequestCaptureEncoding ν} {body : Json ν}
    (hnesting : encoding.original.nesting ≤ maxDepth)
    (horiginal : encoding.originalSha256 = canonicalSha256 runtime encoding.original)
    (halgorithm : encoding.effectiveHashAlgorithm = some hashAlgorithm)
    (hunavailable : isWord encoding.effectiveRepresentation "unavailable" = false)
    (hbody : effectiveBody runtime encoding encoding.original = .ok body)
    (hhash : encoding.effectiveSha256 = some (canonicalSha256 runtime body)) :
    reconstructEffectiveCapture runtime encoding =
      .ok (.verified encoding.effectiveRepresentation body) := by
  have htree : safeTree encoding.original = .ok encoding.original :=
    safeTree_eq_ok.mpr ⟨hnesting, rfl⟩
  have hdigest : ¬canonicalSha256 runtime encoding.original ≠ encoding.originalSha256 :=
    not_not.mpr horiginal.symm
  have heffective : ¬(encoding.effectiveSha256 = none ∨
      encoding.effectiveHashAlgorithm ≠ some hashAlgorithm) := by
    rw [hhash, halgorithm]
    simp
  have hverified : ¬some (canonicalSha256 runtime body) ≠ encoding.effectiveSha256 :=
    not_not.mpr hhash.symm
  rw [reconstructEffectiveCapture, htree, bind_ok, rejectIf_of_not hdigest, bind_ok, hunavailable]
  simp only [Bool.false_eq_true, if_false]
  rw [rejectIf_of_not heffective, bind_ok, hbody, bind_ok, rejectIf_of_not hverified]
  rfl

theorem reconstruct_identityEncoding (horiginal : original.nesting ≤ maxDepth)
    (hsame : canonicalSha256 runtime original = canonicalSha256 runtime effective) :
    reconstructEffectiveCapture runtime (identityEncoding runtime original effective) =
      .ok (.verified (.string "identity") original) := by
  refine reconstruct_eq_ok horiginal rfl rfl (by simp [identityEncoding, isWord]) ?_
    (congrArg some hsame.symm)
  have hword : isWord (identityEncoding runtime original effective).effectiveRepresentation
      "identity" = true := by
    simp [identityEncoding, isWord]
  rw [effectiveBody, if_pos hword]
  exact safeTree_eq_ok.mpr ⟨horiginal, rfl⟩

theorem reconstruct_fullEncoding (horiginal : original.nesting ≤ maxDepth)
    (heffective : effective.nesting ≤ maxDepth) :
    reconstructEffectiveCapture runtime (fullEncoding runtime original effective) =
      .ok (.verified (.string "full") effective) := by
  refine reconstruct_eq_ok horiginal rfl rfl (by simp [fullEncoding, isWord]) ?_ rfl
  have hidentity : ¬isWord (fullEncoding runtime original effective).effectiveRepresentation
      "identity" = true := by
    simp [fullEncoding, isWord]
  have hfull : isWord (fullEncoding runtime original effective).effectiveRepresentation
      "full" = true := by
    simp [fullEncoding, isWord]
  rw [effectiveBody, if_neg hidentity, if_pos hfull]
  exact safeTree_eq_ok.mpr ⟨heffective, rfl⟩

theorem reconstruct_patchEncoding {body : Json ν} (horiginal : original.nesting ≤ maxDepth)
    (hbody : applyRequestCapturePatch runtime.format original patch = .ok body)
    (hhash : canonicalSha256 runtime body = canonicalSha256 runtime effective) :
    reconstructEffectiveCapture runtime (patchEncoding runtime original effective patch) =
      .ok (.verified (.string "rfc6902") body) := by
  refine reconstruct_eq_ok horiginal rfl rfl (by simp [patchEncoding, isWord]) ?_
    (congrArg some hhash.symm)
  have hidentity : ¬isWord (patchEncoding runtime original effective patch).effectiveRepresentation
      "identity" = true := by
    simp [patchEncoding, isWord]
  have hfull : ¬isWord (patchEncoding runtime original effective patch).effectiveRepresentation
      "full" = true := by
    simp [patchEncoding, isWord]
  have hformat : ¬(patchEncoding runtime original effective patch).effectivePatchFormat ≠
      some patchFormat := not_not.mpr rfl
  rw [effectiveBody, if_neg hidentity, if_neg hfull, rejectIf_of_not hformat, bind_ok]
  exact hbody

/-- Whatever form it takes, the encoding of two bodies leads back to the second one. -/
theorem reconstruct_encodeTrees (horiginal : original.nesting ≤ maxDepth)
    (heffective : effective.nesting ≤ maxDepth) (hdistinct : original.Distinct)
    (hdistinct' : effective.Distinct) :
    ∃ representation body,
      reconstructEffectiveCapture runtime (encodeTrees runtime original effective) =
        .ok (.verified representation body) ∧ body.Same effective := by
  rcases encodeTrees_cases runtime original effective with
    ⟨hform, hhash, hsame⟩ | hform | ⟨patch, hform, hpatch⟩
  · rw [hform]
    exact ⟨_, _, reconstruct_identityEncoding horiginal hhash,
      same_of_deepEqualJson hdistinct hdistinct' hsame⟩
  · rw [hform]
    exact ⟨_, _, reconstruct_fullEncoding horiginal heffective, Json.Same.refl effective⟩
  · obtain ⟨hcompare, body, hbody, hsame, hhash⟩ := effectivePatch_eq_ok hpatch
    have hpatchDistinct := runtime.distinct_compare original effective patch hdistinct
      hdistinct' hcompare
    have hbodyDistinct := applyRequestCapturePatch_distinct hdistinct hpatchDistinct hbody
    rw [hform]
    exact ⟨_, _, reconstruct_patchEncoding horiginal hbody hhash,
      same_of_deepEqualJson hbodyDistinct hdistinct' hsame⟩

end

end Frely.Capture
