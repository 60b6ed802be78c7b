import Frely.Core.AccessPointRequestOverrides

/-!
# Canonical request overrides

`normalize_eq_ok` says what is accepted and that the result is the value in its canonical order.
The order of the members that come in does not count for what is accepted.  It counts for the
result only where `localeCompare` does not tell two keys of one object apart (`KeysTie`), and an
accepted override is sent unless the transport forbids its key.
-/

namespace Frely.RequestOverrides

open Checked

variable {ν : Type} {α : Type}

/-! ### The order of members -/

theorem transCmp_indexOrder : Std.TransCmp indexOrder := by
  unfold indexOrder
  infer_instance

theorem eq_of_indexOrder {left right : String} (h : indexOrder left right = .eq) :
    left = right := by
  unfold indexOrder compareLex at h
  exact Std.LawfulEqOrd.eq_of_compare (Ordering.then_eq_eq.mp h).2

theorem arrange_perm (members : List (String × α)) : (arrange members).Perm members := by
  have hsorted : (arrange members).Perm
      (members.filter (fun member => isIndexKey member.1) ++
        members.filter fun member => ¬isIndexKey member.1) :=
    (StableSort.perm_sortBy _).append_right _
  have hsplit := List.filter_append_perm (fun member => isIndexKey member.1) members
  refine hsorted.trans ?_
  simpa using hsplit

variable (runtime : OverrideRuntime ν)

theorem sortedEntries_perm (members : List (String × α)) :
    (sortedEntries runtime members).Perm members :=
  StableSort.perm_sortBy _

/-- The members of an object in canonical order. -/
def canonicalMembers (members : List (String × α)) : List (String × α) :=
  arrange (sortedEntries runtime members)

theorem canonicalMembers_perm (members : List (String × α)) :
    (canonicalMembers runtime members).Perm members :=
  (arrange_perm _).trans (sortedEntries_perm runtime members)

/-- A value with every object in canonical order. -/
def canonical : Json ν → Json ν := Json.reorder (canonicalMembers runtime)

/-! ### What is accepted -/

variable {members : List (String × Json ν)}

theorem sortedEntries_map (f : Json ν → Json ν) (members : List (String × Json ν)) :
    (sortedEntries runtime members).map (fun member => (member.1, f member.2)) =
      sortedEntries runtime (members.map fun member => (member.1, f member.2)) := by
  unfold sortedEntries
  rw [StableSort.sortBy_map]

theorem keyCountMembers_sortedEntries (members : List (String × Json ν)) :
    Json.keyCountMembers (sortedEntries runtime members) = Json.keyCountMembers members := by
  rw [Json.keyCountMembers_eq, Json.keyCountMembers_eq,
    ((sortedEntries_perm runtime members).map _).sum_eq]

/-- What a child has to do for the entries around it. -/
def Normalizes (child : Json ν → Nat → Result (Json ν × Nat)) (P : Json ν → Prop)
    (f : Json ν → Json ν) (value : Json ν) : Prop :=
  ∀ count ≤ maxKeys, ∀ result, child value count = .ok result ↔
    P value ∧ count + Json.keyCount value ≤ maxKeys ∧
      result = (f value, count + Json.keyCount value)

variable {child : Json ν → Nat → Result (Json ν × Nat)} {P : Json ν → Prop} {f : Json ν → Json ν}

theorem normalizeEntries_eq_ok {check : String → Result Unit} {p : String → Prop}
    (hcheck : ∀ key, check key = .ok () ↔ p key)
    (hchild : ∀ member ∈ members, Normalizes child P f member.2) {count : Nat}
    (hcount : count ≤ maxKeys) (result : List (String × Json ν) × Nat) :
    normalizeEntries check child members count = .ok result ↔
      (∀ member ∈ members, p member.1 ∧ P member.2) ∧
        count + Json.keyCountMembers members ≤ maxKeys ∧
        result = (members.map fun member => (member.1, f member.2),
          count + Json.keyCountMembers members) := by
  induction members generalizing count result with
  | nil =>
    simp only [normalizeEntries, pure_eq_ok, Except.ok.injEq, Json.keyCountMembers, List.map_nil,
      Nat.add_zero]
    constructor
    · intro h
      exact ⟨fun _ hmember => absurd hmember List.not_mem_nil, hcount, h.symm⟩
    · intro h
      exact h.2.2.symm
  | cons member rest ih =>
    obtain ⟨key, value⟩ := member
    have hvalue : Normalizes child P f value := hchild (key, value) List.mem_cons_self
    have hrest : ∀ member ∈ rest, Normalizes child P f member.2 :=
      fun member hmember => hchild member (List.mem_cons_of_mem _ hmember)
    simp only [normalizeEntries, bind_eq_ok, rejectIf_eq_ok, pure_eq_ok, Except.ok.injEq,
      exists_and_left, exists_const, List.forall_mem_cons, List.map_cons, Json.keyCountMembers,
      Nat.not_lt]
    constructor
    · rintro ⟨hroom, ⟨⟩, hkey, first, hfirst, others, hothers, rfl⟩
      obtain ⟨hP, hfit, rfl⟩ := (hvalue _ hroom first).mp hfirst
      obtain ⟨hall, hfits, rfl⟩ := (ih hrest hfit others).mp hothers
      refine ⟨⟨⟨(hcheck key).mp hkey, hP⟩, hall⟩, ?_, ?_⟩
      · omega
      · simp only [Prod.mk.injEq, true_and]
        omega
    · rintro ⟨⟨⟨hkey, hP⟩, hall⟩, hfits, rfl⟩
      have hroom : count + 1 ≤ maxKeys := by omega
      have hfit : count + 1 + Json.keyCount value ≤ maxKeys := by omega
      refine ⟨hroom, (), (hcheck key).mpr hkey, _, (hvalue _ hroom _).mpr ⟨hP, hfit, rfl⟩, _,
        (ih hrest hfit _).mpr ⟨hall, by omega, rfl⟩, ?_⟩
      simp only [Prod.mk.injEq, true_and]
      omega

theorem normalizeItems_eq_ok {items : List (Json ν)}
    (hchild : ∀ item ∈ items, Normalizes child P f item) {count : Nat} (hcount : count ≤ maxKeys)
    (result : List (Json ν) × Nat) :
    normalizeItems child items count = .ok result ↔
      (∀ item ∈ items, P item) ∧ count + Json.keyCountItems items ≤ maxKeys ∧
        result = (items.map f, count + Json.keyCountItems items) := by
  induction items generalizing count result with
  | nil =>
    simp only [normalizeItems, pure_eq_ok, Except.ok.injEq, Json.keyCountItems, List.map_nil,
      Nat.add_zero]
    constructor
    · intro h
      exact ⟨fun _ hitem => absurd hitem List.not_mem_nil, hcount, h.symm⟩
    · intro h
      exact h.2.2.symm
  | cons item rest ih =>
    have hitem := hchild item List.mem_cons_self
    have hrest : ∀ item ∈ rest, Normalizes child P f item :=
      fun item hitem => hchild item (List.mem_cons_of_mem _ hitem)
    simp only [normalizeItems, bind_eq_ok, pure_eq_ok, Except.ok.injEq, List.forall_mem_cons,
      List.map_cons, Json.keyCountItems]
    constructor
    · rintro ⟨first, hfirst, others, hothers, rfl⟩
      obtain ⟨hP, hfit, rfl⟩ := (hitem _ hcount first).mp hfirst
      obtain ⟨hall, hfits, rfl⟩ := (ih hrest hfit others).mp hothers
      exact ⟨⟨hP, hall⟩, by omega, by rw [Nat.add_assoc]⟩
    · rintro ⟨⟨hP, hall⟩, hfits, rfl⟩
      have hfit : count + Json.keyCount item ≤ maxKeys := by omega
      exact ⟨_, (hitem _ hcount _).mpr ⟨hP, hfit, rfl⟩, _,
        (ih hrest hfit _).mpr ⟨hall, by omega, rfl⟩, by rw [Nat.add_assoc]⟩

theorem checkJsonKey_eq_ok (key : String) :
    checkJsonKey key = .ok () ↔ key ∉ forbiddenJsonKeys :=
  rejectIf_eq_ok

/-- What may stand inside an override, with `room` levels left. -/
def Fits (room : Nat) (value : Json ν) : Prop :=
  Json.nesting value < room ∧ Json.AllKeys (· ∉ forbiddenJsonKeys) value

theorem normalizeJsonValue_spec (room : Nat) (value : Json ν) :
    Normalizes (normalizeJsonValue runtime room) (Fits room) (canonical runtime) value := by
  induction room generalizing value with
  | zero =>
    intro count _ result
    simp [normalizeJsonValue, Fits]
  | succ room ih =>
    -- the members and items of a value have one level less
    intro count hcount result
    cases value with
    | null | bool _ | number _ | string _ =>
      simp [normalizeJsonValue, Fits, Json.nesting, Json.AllKeys, Json.keyCount, canonical,
        Json.reorder, hcount, eq_comm]
    | array items =>
      have hitems := normalizeItems_eq_ok (fun (item : Json ν) (_ : item ∈ items) => ih item) hcount
      simp only [normalizeJsonValue, bind_eq_ok, hitems, pure_eq_ok, Except.ok.injEq]
      have hfits : Fits (room + 1) (.array items) ↔ ∀ item ∈ items, Fits room item := by
        unfold Fits
        rw [Json.nesting, Json.AllKeys, Nat.lt_succ_iff, Json.nestingItems_le,
          Json.allKeysItems_iff,
          ← forall₂_and]
        rfl
      rw [hfits, canonical, Json.reorder, Json.reorderItems_eq, Json.keyCount]
      constructor
      · rintro ⟨_, ⟨hall, hfit, rfl⟩, rfl⟩
        exact ⟨hall, hfit, rfl⟩
      · rintro ⟨hall, hfit, rfl⟩
        exact ⟨_, ⟨hall, hfit, rfl⟩, rfl⟩
    | object members =>
      have hmembers := normalizeEntries_eq_ok checkJsonKey_eq_ok
        (fun member (_ : member ∈ sortedEntries runtime members) => ih member.2) hcount
      simp only [normalizeJsonValue, bind_eq_ok, hmembers, pure_eq_ok, Except.ok.injEq]
      have hfits : Fits (room + 1) (.object members) ↔
          ∀ member ∈ sortedEntries runtime members,
            member.1 ∉ forbiddenJsonKeys ∧ Fits room member.2 := by
        have hmem : ∀ member, member ∈ sortedEntries runtime members ↔ member ∈ members :=
          fun member => (sortedEntries_perm runtime members).mem_iff
        unfold Fits
        rw [Json.nesting, Json.AllKeys, Nat.lt_succ_iff, Json.nestingMembers_le,
          Json.allKeysMembers_iff, ← forall₂_and]
        simp only [hmem]
        exact forall₂_congr fun member _ => and_left_comm
      rw [hfits, keyCountMembers_sortedEntries, sortedEntries_map, canonical, Json.reorder,
        Json.reorderMembers_eq, Json.keyCount]
      constructor
      · rintro ⟨_, ⟨hall, hfit, rfl⟩, rfl⟩
        exact ⟨hall, hfit, rfl⟩
      · rintro ⟨hall, hfit, rfl⟩
        exact ⟨_, ⟨hall, hfit, rfl⟩, rfl⟩

/-- An object that is accepted as overrides, in any order of its members. -/
structure Accepted (members : List (String × Json ν)) : Prop where
  keys : ∀ key ∈ Json.keys members,
    key ≠ "" ∧ key ∉ forbiddenJsonKeys ∧ foldedKey runtime key ∉ forbiddenRequestOverrideKeys
  values : ∀ member ∈ members, Fits maxDepth member.2
  count : Json.keyCountMembers members ≤ maxKeys
  tier : ∀ member ∈ members, member.1 = "service_tier" → isServiceTier member.2 = true
  size : overridesBytes runtime members ≤ maxBytes

theorem checkOverrideKey_eq_ok (key : String) :
    checkOverrideKey runtime key = .ok () ↔
      key ≠ "" ∧ key ∉ forbiddenJsonKeys ∧
        foldedKey runtime key ∉ forbiddenRequestOverrideKeys := by
  unfold checkOverrideKey forbiddenKey
  rw [rejectIf_eq_ok]
  simp only [not_or, decide_eq_true_eq]

theorem isServiceTier_reorder (g : List (String × Json ν) → List (String × Json ν))
    (value : Json ν) : isServiceTier (Json.reorder g value) = isServiceTier value := by
  cases value <;> rfl

/-- The members of an accepted object as they are returned. -/
def normalized (members : List (String × Json ν)) : List (String × Json ν) :=
  canonicalMembers runtime (Json.reorderMembers (canonicalMembers runtime) members)

theorem canonical_object (members : List (String × Json ν)) :
    canonical runtime (.object members) = .object (normalized runtime members) := rfl

theorem mem_normalized {member : String × Json ν} :
    member ∈ normalized runtime members ↔
      ∃ found ∈ members, (found.1, canonical runtime found.2) = member := by
  unfold normalized
  rw [(canonicalMembers_perm runtime _).mem_iff, Json.mem_reorderMembers]
  rfl

theorem keys_normalized (members : List (String × Json ν)) :
    (Json.keys (normalized runtime members)).Perm (Json.keys members) := by
  have hperm : (Json.keys (normalized runtime members)).Perm
      (Json.keys (Json.reorderMembers (canonicalMembers runtime) members)) :=
    (canonicalMembers_perm runtime _).map _
  rwa [Json.keys_reorderMembers] at hperm

theorem overridesBytes_normalized (members : List (String × Json ν)) :
    overridesBytes runtime (normalized runtime members) = overridesBytes runtime members :=
  Json.bytes_reorder (canonicalMembers_perm runtime) runtime.format (.object members)

/-- The first member with a key is the only one. -/
theorem any_member? (hkeys : (Json.keys members).Nodup) {key : String} {p : Json ν → Bool} :
    (Json.member? members key).any p = true ↔ ∃ member ∈ members, member.1 = key ∧ p member.2 := by
  induction members with
  | nil => simp [Json.member?]
  | cons member rest ih =>
    have hnew : member.1 ∉ Json.keys rest := (List.nodup_cons.mp hkeys).1
    have hrest : (Json.keys rest).Nodup := (List.nodup_cons.mp hkeys).2
    unfold Json.member? at ih ⊢
    rw [List.lookup_cons]
    by_cases hkey : key = member.1
    · subst hkey
      have hothers : ∀ other ∈ rest, other.1 ≠ member.1 := by
        intro other hother heq
        have hmem : other.1 ∈ Json.keys rest := List.mem_map_of_mem hother
        exact hnew (heq ▸ hmem)
      simp only [BEq.rfl, Option.any_some, List.exists_mem_cons_iff, true_and]
      constructor
      · exact fun h => .inl h
      · rintro (h | ⟨other, hother, heq, -⟩)
        · exact h
        · exact absurd heq (hothers other hother)
    · rw [beq_false_of_ne hkey]
      dsimp only
      rw [ih hrest, List.exists_mem_cons_iff]
      have hne : ¬member.1 = key := fun heq => hkey heq.symm
      simp only [hne, false_and, false_or]

/-- **What is accepted.** -/
theorem normalize_eq_ok (hkeys : (Json.keys members).Nodup) (result : List (String × Json ν)) :
    normalizeAccessPointRequestOverrides runtime (.object members) = .ok result ↔
      Accepted runtime members ∧ result = normalized runtime members := by
  have hentries := normalizeEntries_eq_ok (checkOverrideKey_eq_ok runtime)
    (fun member (_ : member ∈ sortedEntries runtime members) =>
      normalizeJsonValue_spec runtime maxDepth member.2) (Nat.zero_le maxKeys)
  have hmem : ∀ member, member ∈ sortedEntries runtime members ↔ member ∈ members :=
    fun member => (sortedEntries_perm runtime members).mem_iff
  have hnormalized : arrange ((sortedEntries runtime members).map fun member =>
      (member.1, canonical runtime member.2)) = normalized runtime members := by
    unfold normalized
    rw [sortedEntries_map, Json.reorderMembers_eq]
    rfl
  have hnodup : (Json.keys (normalized runtime members)).Nodup :=
    (keys_normalized runtime members).nodup_iff.mpr hkeys
  -- the tier is looked up in the normalised members, whose values keep what it is
  have htier : ¬((Json.member? (normalized runtime members) "service_tier").any
      fun tier => isServiceTier tier = false) = true ↔
      ∀ member ∈ members, member.1 = "service_tier" → isServiceTier member.2 = true := by
    rw [any_member? hnodup]
    simp only [mem_normalized, decide_eq_true_eq, not_exists, not_and]
    constructor
    · intro h member hmember hkey
      have htier := h _ ⟨member, hmember, rfl⟩ hkey
      rw [canonical, isServiceTier_reorder] at htier
      exact (Bool.not_eq_false _).mp htier
    · rintro h _ ⟨member, hmember, rfl⟩ hkey
      rw [canonical, isServiceTier_reorder, h member hmember hkey]
      exact Bool.noConfusion
  simp only [normalizeAccessPointRequestOverrides, bind_eq_ok, hentries, hmem, zero_add,
    keyCountMembers_sortedEntries]
  constructor
  · rintro ⟨_, ⟨hall, hcount, rfl⟩, hrest⟩
    simp only [hnormalized, rejectIf_eq_ok, pure_eq_ok, Except.ok.injEq, htier,
      overridesBytes_normalized, Nat.not_lt] at hrest
    obtain ⟨_, htiers, _, hsize, rfl⟩ := hrest
    refine ⟨⟨?_, fun member hmember => (hall member hmember).2, hcount, htiers, hsize⟩, rfl⟩
    intro key hkey
    obtain ⟨member, hmember, rfl⟩ := List.mem_map.mp hkey
    exact (hall member hmember).1
  · rintro ⟨haccepted, rfl⟩
    refine ⟨_, ⟨?_, haccepted.count, rfl⟩, ?_⟩
    · intro member hmember
      exact ⟨haccepted.keys member.1 (List.mem_map_of_mem hmember), haccepted.values member hmember⟩
    · simp only [hnormalized, rejectIf_eq_ok, pure_eq_ok, htier, overridesBytes_normalized,
        Nat.not_lt]
      exact ⟨(), haccepted.tier, (), haccepted.size, trivial⟩

/-! ### The canonical order -/

variable {others : List (String × α)}

/-- The order of `localeCompare` on members, by their keys. -/
theorem transCmp_entries :
    Std.TransCmp fun left right : String × α => runtime.localeCompare left.1 right.1 :=
  @StableSort.transCmp_map _ _ runtime.localeCompare runtime.transCmp_localeCompare _

theorem transCmp_indices :
    Std.TransCmp fun left right : String × α => indexOrder left.1 right.1 :=
  @StableSort.transCmp_map _ _ indexOrder transCmp_indexOrder _

theorem filter_arrange_index (members : List (String × α)) :
    (arrange members).filter (fun member => isIndexKey member.1) =
      StableSort.sortBy (fun left right => indexOrder left.1 right.1)
        (members.filter fun member => isIndexKey member.1) := by
  unfold arrange
  rw [List.filter_append, List.filter_filter]
  have hindices : ∀ member ∈ StableSort.sortBy (fun left right => indexOrder left.1 right.1)
      (members.filter fun member => isIndexKey member.1), isIndexKey member.1 = true :=
    fun member hmember => (List.mem_filter.mp (StableSort.mem_sortBy.mp hmember)).2
  rw [List.filter_eq_self.mpr hindices]
  simp

theorem filter_arrange_name (members : List (String × α)) :
    (arrange members).filter (fun member => ¬isIndexKey member.1) =
      members.filter fun member => ¬isIndexKey member.1 := by
  unfold arrange
  rw [List.filter_append, List.filter_filter]
  have hnone : (StableSort.sortBy (fun left right => indexOrder left.1 right.1)
      (members.filter fun member => isIndexKey member.1)).filter
      (fun member => ¬isIndexKey member.1) = [] := by
    rw [List.filter_eq_nil_iff]
    intro member hmember
    simpa using (List.mem_filter.mp (StableSort.mem_sortBy.mp hmember)).2
  rw [hnone]
  simp

/-- Indices with different keys have one order. -/
theorem sortBy_indexOrder {members : List (String × α)} (hperm : members.Perm others)
    (hkeys : (members.map (·.1)).Nodup) :
    StableSort.sortBy (fun left right => indexOrder left.1 right.1) members =
      StableSort.sortBy (fun left right => indexOrder left.1 right.1) others := by
  have htrans := @transCmp_indices α
  refine StableSort.sortBy_eq_of_perm hperm fun left hleft right hright heq => ?_
  exact List.inj_on_of_nodup_map hkeys hleft hright (eq_of_indexOrder heq)

/-- Two members with names that `localeCompare` does not tell apart. -/
def KeysTie (left right : String) : Prop :=
  isIndexKey left = false ∧ isIndexKey right = false ∧ runtime.localeCompare left right = .eq

/-- Different names are told apart. -/
def Apart (keys : List String) : Prop :=
  ∀ left ∈ keys, ∀ right ∈ keys, KeysTie runtime left right → left = right

theorem apart_perm {keys others : List String} (hperm : keys.Perm others) :
    Apart runtime keys ↔ Apart runtime others := by
  unfold Apart
  simp only [hperm.mem_iff]

/-- No object inside a value has two keys that tie. -/
def NoTies : Json ν → Prop := Json.AllObjects (Apart runtime)

theorem nodup_filter {members : List (String × α)} (hkeys : (members.map (·.1)).Nodup)
    (p : String × α → Bool) : ((members.filter p).map (·.1)).Nodup :=
  hkeys.sublist (List.filter_sublist.map _)

/-- Without ties the order of the members that come in does not count. -/
theorem canonicalMembers_eq_of_perm {members : List (String × α)} (hperm : members.Perm others)
    (hkeys : (members.map (·.1)).Nodup) (hapart : Apart runtime (members.map (·.1))) :
    canonicalMembers runtime members = canonicalMembers runtime others := by
  have htrans := transCmp_entries (α := α) runtime
  unfold canonicalMembers arrange
  have hindices : ((sortedEntries runtime members).filter fun member => isIndexKey member.1).Perm
      ((sortedEntries runtime others).filter fun member => isIndexKey member.1) :=
    ((sortedEntries_perm runtime members).trans
      (hperm.trans (sortedEntries_perm runtime others).symm)).filter _
  have hsorted : ((sortedEntries runtime members).map (·.1)).Nodup :=
    ((sortedEntries_perm runtime members).map _).nodup_iff.mpr hkeys
  have hnames : (sortedEntries runtime members).filter (fun member => ¬isIndexKey member.1) =
      (sortedEntries runtime others).filter fun member => ¬isIndexKey member.1 := by
    unfold sortedEntries
    rw [StableSort.filter_sortBy, StableSort.filter_sortBy]
    refine StableSort.sortBy_eq_of_perm (hperm.filter _) fun left hleft right hright heq => ?_
    have hname : ∀ member ∈ members.filter (fun member => ¬isIndexKey member.1),
        member ∈ members ∧ isIndexKey member.1 = false := by
      intro member hmember
      have h := List.mem_filter.mp hmember
      exact ⟨h.1, by simpa using h.2⟩
    have hleft := hname left hleft
    have hright := hname right hright
    have hsame : left.1 = right.1 := hapart _ (List.mem_map_of_mem hleft.1) _
      (List.mem_map_of_mem hright.1) ⟨hleft.2, hright.2, heq⟩
    exact List.inj_on_of_nodup_map hkeys hleft.1 hright.1 hsame
  rw [sortBy_indexOrder hindices (nodup_filter hsorted _), hnames]

theorem arrange_canonicalMembers {members : List (String × α)}
    (hkeys : (members.map (·.1)).Nodup) :
    arrange (canonicalMembers runtime members) = canonicalMembers runtime members := by
  have hsorted : ((sortedEntries runtime members).map (·.1)).Nodup :=
    ((sortedEntries_perm runtime members).map _).nodup_iff.mpr hkeys
  have hindices : StableSort.sortBy (fun left right => indexOrder left.1 right.1)
      (StableSort.sortBy (fun left right => indexOrder left.1 right.1)
        ((sortedEntries runtime members).filter fun member => isIndexKey member.1)) =
      StableSort.sortBy (fun left right => indexOrder left.1 right.1)
        ((sortedEntries runtime members).filter fun member => isIndexKey member.1) :=
    (sortBy_indexOrder (StableSort.perm_sortBy _).symm (nodup_filter hsorted _)).symm
  unfold canonicalMembers
  rw [arrange, filter_arrange_index, filter_arrange_name, hindices]
  rfl

theorem canonicalMembers_canonicalMembers {members : List (String × α)}
    (hkeys : (members.map (·.1)).Nodup) :
    canonicalMembers runtime (canonicalMembers runtime members) =
      canonicalMembers runtime members := by
  have htrans := transCmp_entries (α := α) runtime
  have hcanonical : ((canonicalMembers runtime members).map (·.1)).Nodup :=
    ((canonicalMembers_perm runtime members).map _).nodup_iff.mpr hkeys
  have hindices : ((sortedEntries runtime (canonicalMembers runtime members)).filter
      fun member => isIndexKey member.1).Perm
      ((canonicalMembers runtime members).filter fun member => isIndexKey member.1) :=
    (sortedEntries_perm runtime _).filter _
  have hindexKeys : (((sortedEntries runtime (canonicalMembers runtime members)).filter
      fun member => isIndexKey member.1).map (·.1)).Nodup :=
    (hindices.map _).nodup_iff.mpr (nodup_filter hcanonical _)
  -- the names are sorted already
  have hnames : (sortedEntries runtime (canonicalMembers runtime members)).filter
      (fun member => ¬isIndexKey member.1) =
      (canonicalMembers runtime members).filter fun member => ¬isIndexKey member.1 := by
    have hfiltered : (canonicalMembers runtime members).filter
        (fun member => ¬isIndexKey member.1) =
        (sortedEntries runtime members).filter fun member => ¬isIndexKey member.1 :=
      filter_arrange_name _
    unfold sortedEntries at hfiltered ⊢
    rw [StableSort.filter_sortBy, hfiltered]
    exact StableSort.sortBy_of_pairwise ((StableSort.pairwise_sortBy members).filter _)
  calc canonicalMembers runtime (canonicalMembers runtime members)
      = arrange (canonicalMembers runtime members) := by
        rw [canonicalMembers, arrange, sortBy_indexOrder hindices hindexKeys, hnames]
        rfl
    _ = canonicalMembers runtime members := arrange_canonicalMembers runtime hkeys

/-! ### Texts -/

variable {value : Json ν} {g : List (String × Json ν) → List (String × Json ν)}

theorem canonical_canonical (h : value.Distinct) :
    canonical runtime (canonical runtime value) = canonical runtime value :=
  Json.reorder_reorder (canonicalMembers_perm runtime)
    (fun _ hkeys => canonicalMembers_canonicalMembers runtime hkeys) h

theorem arranged_canonical (h : value.Distinct) :
    arranged (canonical runtime value) = canonical runtime value :=
  Json.reorder_reorder (canonicalMembers_perm runtime)
    (fun _ hkeys => arrange_canonicalMembers runtime hkeys) h

/-- What is accepted is so in any order of the members. -/
theorem Accepted.reorder (hperm : ∀ members, (g members).Perm members)
    (h : Accepted runtime members) : Accepted runtime (g (Json.reorderMembers g members)) := by
  have hkeys : (Json.keys (g (Json.reorderMembers g members))).Perm (Json.keys members) := by
    rw [← Json.keys_reorderMembers (g := g) members]
    exact (hperm _).map _
  have hmem : ∀ member ∈ g (Json.reorderMembers g members),
      ∃ found ∈ members, (found.1, Json.reorder g found.2) = member :=
    fun member hmember => Json.mem_reorderMembers.mp ((hperm _).mem_iff.mp hmember)
  constructor
  · intro key hkey
    exact h.keys key (hkeys.mem_iff.mp hkey)
  · intro member hmember
    obtain ⟨found, hfound, rfl⟩ := hmem member hmember
    have hfits := h.values found hfound
    exact ⟨Json.nesting_reorder hperm found.2 ▸ hfits.1,
      (Json.allKeys_reorder hperm found.2).mpr hfits.2⟩
  · have hcount := Json.keyCount_reorder hperm (.object members)
    rw [Json.reorder, Json.keyCount, Json.keyCount] at hcount
    exact hcount ▸ h.count
  · intro member hmember hkey
    obtain ⟨found, hfound, rfl⟩ := hmem member hmember
    rw [isServiceTier_reorder]
    exact h.tier found hfound hkey
  · have hbytes := Json.bytes_reorder hperm runtime.format (.object members)
    have hsize := h.size
    unfold overridesBytes at hsize ⊢
    rw [Json.reorder] at hbytes
    rw [hbytes]
    exact hsize

/-- **Stored overrides are read back.** -/
theorem parse_normalized {members : List (String × Json ν)}
    (hdistinct : (Json.object members).Distinct) (h : Accepted runtime members) :
    parseAccessPointRequestOverridesJson runtime
      (Json.stringify runtime.format (.object (normalized runtime members))) =
        .ok (normalized runtime members) := by
  have hcanonical : (Json.object (normalized runtime members)).Distinct :=
    Json.distinct_reorder (canonicalMembers_perm runtime) hdistinct
  have harranged : arranged (.object (normalized runtime members)) =
      .object (normalized runtime members) := arranged_canonical runtime hdistinct
  have hagain : normalized runtime (normalized runtime members) = normalized runtime members := by
    have h := canonical_canonical runtime hdistinct
    rw [canonical_object, canonical_object] at h
    exact Json.object.inj h
  unfold parseAccessPointRequestOverridesJson
  rw [Json.parse_stringify hcanonical]
  dsimp only
  rw [harranged, normalize_eq_ok runtime hcanonical.1]
  exact ⟨h.reorder runtime (canonicalMembers_perm runtime), hagain.symm⟩

/-! ### One value, one text -/

theorem canonical_reorder (hperm : ∀ members, (g members).Perm members)
    (hg : ∀ (h : Json ν → Json ν) (members : List (String × Json ν)),
      g (members.map fun member => (member.1, h member.2)) = (g members).map fun member =>
        (member.1, h member.2))
    (hdistinct : value.Distinct) (hties : NoTies runtime value) :
    canonical runtime (Json.reorder g value) = canonical runtime value := by
  unfold canonical
  rw [Json.reorder_comp hg]
  refine Json.reorder_congr hdistinct hties fun members hkeys hapart => ?_
  have hmembers : ((g members).map (·.1)).Perm (members.map (·.1)) := (hperm members).map _
  exact canonicalMembers_eq_of_perm runtime (hperm members) (hmembers.nodup_iff.mpr hkeys)
    ((apart_perm runtime hmembers).mpr hapart)

theorem canonical_sorted (hdistinct : value.Distinct) (hties : NoTies runtime value) :
    canonical runtime value.sorted = canonical runtime value := by
  rw [Json.sorted_eq_reorder]
  refine canonical_reorder runtime (fun members => List.mergeSort_perm members _) ?_ hdistinct hties
  intro h members
  exact (List.map_mergeSort (f := fun member : String × Json ν => (member.1, h member.2))
    (r := fun a b => a.1 ≤ b.1) (s := fun a b => a.1 ≤ b.1) fun _ _ _ _ => rfl).symm

theorem canonical_eq_of_same {other : Json ν} (hvalue : value.Distinct) (hother : other.Distinct)
    (hsame : value.Same other) (hties : NoTies runtime value) :
    canonical runtime value = canonical runtime other := by
  have hsorted : ∀ value : Json ν, NoTies runtime value.sorted ↔ NoTies runtime value := by
    intro value
    rw [Json.sorted_eq_reorder]
    exact Json.allObjects_reorder (fun members => List.mergeSort_perm members _)
      (fun hperm => apart_perm runtime hperm) value
  have htiesOther : NoTies runtime other := by
    rw [← hsorted, ← hsame, hsorted]
    exact hties
  rw [← canonical_sorted runtime hvalue hties, hsame, canonical_sorted runtime hother htiesOther]

/-- A list of different elements that reads the same backwards has at most one. -/
theorem eq_of_reverse_eq {l : List α} (hnodup : l.Nodup) (h : l.reverse = l) {a b : α}
    (ha : a ∈ l) (hb : b ∈ l) : a = b := by
  have hshort : l.length ≤ 1 := by
    by_contra hlong
    have hfirst : 0 < l.length := by omega
    have hends : l[0]? = l[l.length - 1 - 0]? := by
      rw [← List.getElem?_reverse hfirst, h]
    have hindex := (List.getElem?_inj hfirst hnodup).mp hends
    omega
  obtain ⟨i, hi, rfl⟩ := List.getElem_of_mem ha
  obtain ⟨j, hj, rfl⟩ := List.getElem_of_mem hb
  have hindex : i = j := by omega
  subst hindex
  rfl

theorem arrange_map (h : Json ν → Json ν) (members : List (String × Json ν)) :
    arrange (members.map fun member => (member.1, h member.2)) =
      (arrange members).map fun member => (member.1, h member.2) := by
  unfold arrange
  rw [List.map_append, List.filter_map, List.filter_map, StableSort.sortBy_map]
  rfl

/-- The members of a value the other way round, as the language then arranges them. -/
def backwards (members : List (String × Json ν)) : List (String × Json ν) :=
  arrange members.reverse

theorem backwards_perm (members : List (String × Json ν)) : (backwards members).Perm members :=
  (arrange_perm _).trans (List.reverse_perm members)

theorem backwards_map (h : Json ν → Json ν) (members : List (String × Json ν)) :
    backwards (members.map fun member => (member.1, h member.2)) =
      (backwards members).map fun member => (member.1, h member.2) := by
  unfold backwards
  rw [← List.map_reverse, arrange_map]

theorem filter_names {p : String → Bool} (hname : ∀ key, p key → isIndexKey key = false)
    (members : List (String × α)) :
    members.filter (fun member => p member.1) =
      (members.filter fun member => ¬isIndexKey member.1).filter fun member => p member.1 := by
  rw [List.filter_filter]
  refine List.filter_congr fun member _ => ?_
  cases hp : p member.1 with
  | false => rfl
  | true => simp [hname _ hp]

/-- Names that tie keep the order in which they come in. -/
theorem filter_canonicalMembers {p : String → Bool} (hname : ∀ key, p key → isIndexKey key = false)
    (htie : ∀ left right, p left → p right → runtime.localeCompare left right = .eq)
    (members : List (String × α)) :
    (canonicalMembers runtime members).filter (fun member => p member.1) =
      members.filter fun member => p member.1 := by
  have htrans := transCmp_entries (α := α) runtime
  have hcanonical : (canonicalMembers runtime members).filter (fun member => ¬isIndexKey member.1) =
      (sortedEntries runtime members).filter fun member => ¬isIndexKey member.1 :=
    filter_arrange_name _
  rw [filter_names hname, hcanonical, ← filter_names hname]
  unfold sortedEntries
  rw [StableSort.filter_sortBy]
  refine StableSort.sortBy_of_pairwise (List.pairwise_of_forall_mem_list ?_)
  intro left hleft right hright
  rw [htie _ _ (List.mem_filter.mp hleft).2 (List.mem_filter.mp hright).2]
  rfl

/-- Names that tie come out in another order when they come in the other way round. -/
theorem apart_of_backwards (hkeys : (Json.keys members).Nodup)
    (h : canonicalMembers runtime (backwards members) = canonicalMembers runtime members) :
    Apart runtime (Json.keys members) := by
  intro left hleft right hright htie
  have htrans := runtime.transCmp_localeCompare
  let p : String → Bool := fun key =>
    isIndexKey key = false && runtime.localeCompare left key = .eq
  have hp : ∀ key, p key = true ↔
      isIndexKey key = false ∧ runtime.localeCompare left key = .eq := by
    intro key
    simp [p]
  have hname : ∀ key, p key → isIndexKey key = false := fun key hkey => ((hp key).mp hkey).1
  have hties : ∀ first second, p first → p second →
      runtime.localeCompare first second = .eq := by
    intro first second hfirst hsecond
    exact Std.TransCmp.eq_trans (Std.OrientedCmp.eq_symm ((hp first).mp hfirst).2)
      ((hp second).mp hsecond).2
  -- the names that tie with `left` keep their order, whichever it is
  have hreverse : (members.filter fun member => p member.1).reverse =
      members.filter fun member => p member.1 := by
    calc (members.filter fun member => p member.1).reverse
        = members.reverse.filter fun member => p member.1 := (List.filter_reverse).symm
      _ = (backwards members).filter fun member => p member.1 := by
          rw [filter_names hname, filter_names hname (backwards members), backwards,
            filter_arrange_name]
      _ = members.filter fun member => p member.1 := by
          rw [← filter_canonicalMembers runtime hname hties, h,
            filter_canonicalMembers runtime hname hties]
  have hmem : ∀ key ∈ Json.keys members, p key →
      key ∈ (members.filter fun member => p member.1).map (·.1) := by
    intro key hkey htrue
    obtain ⟨member, hmember, rfl⟩ := List.mem_map.mp hkey
    exact List.mem_map_of_mem (List.mem_filter.mpr ⟨hmember, htrue⟩)
  have hleftMem := hmem left hleft ((hp left).mpr ⟨htie.1, Std.ReflCmp.compare_self⟩)
  have hrightMem := hmem right hright ((hp right).mpr ⟨htie.2.1, htie.2.2⟩)
  exact eq_of_reverse_eq (nodup_filter hkeys _) (by rw [← List.map_reverse, hreverse]) hleftMem
    hrightMem

/-- Equal objects that are both accepted are stored as one text. -/
def OneText (members : List (String × Json ν)) : Prop :=
  ∀ others result otherResult, (Json.object others).Distinct →
    arranged (Json.object others) = .object others → (Json.object members).Same (.object others) →
    normalizeAccessPointRequestOverrides runtime (.object members) = .ok result →
    normalizeAccessPointRequestOverrides runtime (.object others) = .ok otherResult →
    Json.stringify runtime.format (.object result) =
      Json.stringify runtime.format (.object otherResult)

theorem oneText_iff (hdistinct : (Json.object members).Distinct) (h : Accepted runtime members) :
    OneText runtime members ↔ NoTies runtime (.object members) := by
  constructor
  · intro hone
    -- the same object with its members the other way round
    have hbackwards : (Json.reorder backwards (.object members)).Distinct :=
      Json.distinct_reorder backwards_perm hdistinct
    have harranged : arranged (Json.reorder backwards (.object members)) =
        Json.reorder backwards (.object members) := by
      refine Json.reorder_reorder backwards_perm (fun inner hkeys => ?_) hdistinct
      have hreverse : (inner.reverse.map (·.1)).Nodup :=
        ((List.reverse_perm inner).map _).nodup_iff.mpr hkeys
      unfold backwards
      rw [arrange, filter_arrange_index, filter_arrange_name,
        ← sortBy_indexOrder (StableSort.perm_sortBy _).symm (nodup_filter hreverse _)]
      rfl
    have hsame := Json.reorder_same backwards_perm hdistinct
    have htext := hone _ _ _ hbackwards harranged hsame.symm
      ((normalize_eq_ok runtime hdistinct.1 _).mpr ⟨h, rfl⟩)
      ((normalize_eq_ok runtime hbackwards.1 _).mpr ⟨h.reorder runtime backwards_perm, rfl⟩)
    have hcanonical := Json.eq_of_stringify_eq
      (Json.distinct_reorder (canonicalMembers_perm runtime) hdistinct)
      (Json.distinct_reorder (canonicalMembers_perm runtime) hbackwards) htext
    have hcomp : Json.reorder (canonicalMembers runtime)
        (Json.reorder backwards (.object members)) =
        Json.reorder (fun inner => canonicalMembers runtime (backwards inner)) (.object members) :=
      Json.reorder_comp backwards_map _
    refine Json.allObjects_of_reorder_eq
      (fun inner => (canonicalMembers_perm runtime _).trans (backwards_perm inner))
      (canonicalMembers_perm runtime) hdistinct (hcomp.symm.trans hcanonical.symm) ?_
    intro inner hkeys heq
    exact apart_of_backwards runtime hkeys heq
  · intro hties others result otherResult hothers _ hsame hresult hother
    obtain ⟨-, rfl⟩ := (normalize_eq_ok runtime hdistinct.1 _).mp hresult
    obtain ⟨-, rfl⟩ := (normalize_eq_ok runtime hothers.1 _).mp hother
    have hcanonical := canonical_eq_of_same runtime hdistinct hothers hsame hties
    exact congrArg (Json.stringify runtime.format) hcanonical

/-! ### Sending -/

variable {object : List (String × α)}

variable {payload : List (String × PayloadValue ν)}

theorem keys_assign (h : (object.map (·.1)).Nodup) (key : String) (value : α) :
    ((assign object key value).map (·.1)).Nodup ∧
      ∀ other ∈ (assign object key value).map (·.1), other = key ∨ other ∈ object.map (·.1) := by
  induction object with
  | nil => simp [assign]
  | cons member rest ih =>
    have hnew : member.1 ∉ rest.map (·.1) := (List.nodup_cons.mp h).1
    have hrest : (rest.map (·.1)).Nodup := (List.nodup_cons.mp h).2
    rw [assign]
    split_ifs with hkey
    · subst hkey
      exact ⟨h, fun other hother => .inr hother⟩
    · obtain ⟨hnodup, hmem⟩ := ih hrest
      constructor
      · refine List.nodup_cons.mpr ⟨fun hmember => ?_, hnodup⟩
        rcases hmem _ hmember with heq | hold
        · exact hkey heq
        · exact hnew hold
      · intro other hother
        rcases List.mem_cons.mp hother with rfl | hother
        · exact .inr List.mem_cons_self
        · exact (hmem other hother).imp_right (List.mem_cons_of_mem _)

theorem mem_assign (h : (object.map (·.1)).Nodup) (key : String) (value : α) (member : String × α) :
    member ∈ assign object key value ↔
      member = (key, value) ∨ member.1 ≠ key ∧ member ∈ object := by
  induction object with
  | nil => simp [assign]
  | cons first rest ih =>
    have hnew : ∀ other ∈ rest, other.1 ≠ first.1 := fun other hother heq =>
      (List.nodup_cons.mp h).1 (List.mem_map.mpr ⟨other, hother, heq⟩)
    have hrest : (rest.map (·.1)).Nodup := (List.nodup_cons.mp h).2
    rw [assign]
    split_ifs with hkey
    · rw [List.mem_cons, List.mem_cons]
      constructor
      · rintro (heq | hmem)
        · exact .inl heq
        · exact .inr ⟨hkey ▸ hnew member hmem, .inr hmem⟩
      · rintro (heq | ⟨hne, rfl | hmem⟩)
        · exact .inl heq
        · exact absurd hkey hne
        · exact .inr hmem
    · rw [List.mem_cons, List.mem_cons, ih hrest]
      constructor
      · rintro (rfl | heq | ⟨hne, hmem⟩)
        · exact .inr ⟨hkey, .inl rfl⟩
        · exact .inl heq
        · exact .inr ⟨hne, .inr hmem⟩
      · rintro (heq | ⟨hne, rfl | hmem⟩)
        · exact .inr (.inl heq)
        · exact .inl rfl
        · exact .inr (.inr ⟨hne, hmem⟩)

/-- Overrides take the places of the members with their keys. -/
theorem mem_apply (hpayload : (payload.map (·.1)).Nodup) {overrides : List (String × Json ν)}
    (hkeys : (Json.keys overrides).Nodup) (member : String × PayloadValue ν) :
    member ∈ applyAccessPointRequestOverrides payload overrides ↔
      (∃ found ∈ overrides, (found.1, PayloadValue.json found.2) = member) ∨
        member.1 ∉ Json.keys overrides ∧ member ∈ payload := by
  unfold applyAccessPointRequestOverrides
  induction overrides generalizing payload with
  | nil => simp [Json.keys]
  | cons first rest ih =>
    have hnew : first.1 ∉ Json.keys rest := (List.nodup_cons.mp hkeys).1
    have hrest : (Json.keys rest).Nodup := (List.nodup_cons.mp hkeys).2
    rw [List.foldl_cons, ih (keys_assign hpayload _ _).1 hrest, mem_assign hpayload,
      List.exists_mem_cons_iff]
    have hcons : member.1 ∉ Json.keys (first :: rest) ↔
        member.1 ≠ first.1 ∧ member.1 ∉ Json.keys rest := by
      unfold Json.keys
      rw [List.map_cons, List.mem_cons, not_or]
    rw [hcons]
    constructor
    · rintro (hfound | ⟨hmem, rfl | ⟨hne, hold⟩⟩)
      · exact .inl (.inr hfound)
      · exact .inl (.inl rfl)
      · exact .inr ⟨⟨hne, hmem⟩, hold⟩
    · rintro ((rfl | hfound) | ⟨⟨hne, hmem⟩, hold⟩)
      · exact .inr ⟨hnew, .inl rfl⟩
      · exact .inl hfound
      · exact .inr ⟨hmem, .inr ⟨hne, hold⟩⟩

/-- What of a payload is sent on. -/
def Sent (member : String × PayloadValue ν) : Prop :=
  member.1 ∉ cliproxyServerOwnedFields ∧ member.1 ≠ "__proto__" ∧ member.2 ≠ .dropped

theorem sanitize_eq_ok (sanitized : List (String × PayloadValue ν)) :
    sanitizeCliProxyPayload runtime payload = .ok sanitized →
      (∀ member ∈ payload, controlFieldName runtime member.1 ∉ cliproxyForbiddenControlFields) ∧
        ∀ member, member ∈ sanitized ↔ member ∈ payload ∧ Sent member := by
  intro h
  induction payload generalizing sanitized with
  | nil =>
    obtain rfl := Except.ok.inj h
    simp
  | cons first rest ih =>
    obtain ⟨key, value⟩ := first
    simp only [sanitizeCliProxyPayload, bind_eq_ok, rejectIf_eq_ok] at h
    obtain ⟨_, hkey, others, hothers, h⟩ := h
    obtain ⟨hall, hmem⟩ := ih others hothers
    refine ⟨List.forall_mem_cons.mpr ⟨hkey, hall⟩, fun member => ?_⟩
    rw [List.mem_cons]
    -- the first member is dropped or sent, by its key and its value alone
    have hkept : sanitized = others ∧ ¬Sent (key, value) ∨
        sanitized = (key, value) :: others ∧ Sent (key, value) := by
      by_cases howned : key ∈ cliproxyServerOwnedFields
      · rw [if_pos howned] at h
        exact .inl ⟨(Except.ok.inj h).symm, fun hsent => hsent.1 howned⟩
      · rw [if_neg howned] at h
        cases value with
        | dropped => exact .inl ⟨(Except.ok.inj h).symm, fun hsent => hsent.2.2 rfl⟩
        | json value | other =>
          dsimp only at h
          by_cases hproto : key = "__proto__"
          · rw [if_pos hproto] at h
            exact .inl ⟨(Except.ok.inj h).symm, fun hsent => hsent.2.1 hproto⟩
          · rw [if_neg hproto] at h
            exact .inr ⟨(Except.ok.inj h).symm, howned, hproto, fun heq => by cases heq⟩
    rcases hkept with ⟨rfl, hnot⟩ | ⟨rfl, hsent⟩
    · rw [hmem]
      constructor
      · rintro ⟨hold, hsent⟩
        exact ⟨.inr hold, hsent⟩
      · rintro ⟨rfl | hold, hsent⟩
        · exact absurd hsent hnot
        · exact ⟨hold, hsent⟩
    · rw [List.mem_cons, hmem]
      constructor
      · rintro (rfl | ⟨hold, hsent⟩)
        · exact ⟨.inl rfl, hsent⟩
        · exact ⟨.inr hold, hsent⟩
      · rintro ⟨rfl | hold, hsent⟩
        · exact .inl rfl
        · exact .inr ⟨hold, hsent⟩

theorem exists_sanitize
    (h : ∀ member ∈ payload,
      controlFieldName runtime member.1 ∉ cliproxyForbiddenControlFields) :
    ∃ sanitized, sanitizeCliProxyPayload runtime payload = .ok sanitized := by
  induction payload with
  | nil => exact ⟨[], rfl⟩
  | cons first rest ih =>
    obtain ⟨key, value⟩ := first
    obtain ⟨hkey, hrest⟩ := List.forall_mem_cons.mp h
    obtain ⟨others, hothers⟩ := ih hrest
    rw [sanitizeCliProxyPayload, rejectIf_of_not hkey, bind_ok, hothers, bind_ok]
    by_cases howned : key ∈ cliproxyServerOwnedFields
    · rw [if_pos howned]
      exact ⟨others, rfl⟩
    · rw [if_neg howned]
      cases value with
      | dropped => exact ⟨others, rfl⟩
      | json value | other =>
        dsimp only
        split_ifs <;> exact ⟨_, rfl⟩

theorem controlFieldName_eq (key : String) :
    controlFieldName runtime key = foldedKey runtime key := by
  unfold controlFieldName foldedKey
  rw [List.filter_filter]

/-- Entries that overrides leave as they are. -/
def payloadFields : List String :=
  ["model", "stream", "messages", "input", "tools", "instructions"]

/-- Overrides that can be sent with every payload. -/
def Dispatchable (overrides : List (String × Json ν)) : Prop :=
  ∀ payload : List (String × PayloadValue ν), (payload.map (·.1)).Nodup →
    ∀ sanitized, sanitizeCliProxyPayload runtime payload = .ok sanitized →
    ∃ result, sanitizeCliProxyPayload runtime
        (applyAccessPointRequestOverrides payload overrides) = .ok result ∧
      (∀ member ∈ overrides, (member.1, .json member.2) ∈ result) ∧
      ∀ key ∈ payloadFields, ∀ value : PayloadValue ν,
        ((key, value) ∈ applyAccessPointRequestOverrides payload overrides ↔
          (key, value) ∈ payload) ∧
        ((key, value) ∈ result ↔ (key, value) ∈ sanitized)

/-- The field of the transport that access points do not know to be forbidden. -/
def maxContextTokensField : String := "fridaymaxcontexttokens"

theorem mem_forbiddenControlFields {field : String} (h : field ∈ cliproxyForbiddenControlFields) :
    field ∈ forbiddenRequestOverrideKeys ∨ field = maxContextTokensField := by
  have hall : ∀ field ∈ cliproxyForbiddenControlFields,
      field ∈ forbiddenRequestOverrideKeys ∨ field = maxContextTokensField := by decide
  exact hall field h

/-- The entries of a payload that are never overridden are forbidden as overrides. -/
theorem foldedKey_forbidden {key : String}
    (h : key ∈ payloadFields ∨ key ∈ cliproxyServerOwnedFields) :
    foldedKey runtime key ∈ forbiddenRequestOverrideKeys := by
  have hkeys : ∀ key ∈ payloadFields ++ cliproxyServerOwnedFields,
      (String.ofList (key.toList.filter fun c => c ≠ '-' && c ≠ '_')).toList.all
        (fun c => decide (c.toNat < 128)) = true ∧
      String.ofList ((String.ofList (key.toList.filter fun c => c ≠ '-' && c ≠ '_')).toList.map
        Char.toLower) ∈ forbiddenRequestOverrideKeys := by decide
  obtain ⟨hascii, hforbidden⟩ := hkeys key (List.mem_append.mpr h)
  unfold foldedKey
  rw [runtime.toLowerCase_ascii _ fun c hc => of_decide_eq_true (List.all_eq_true.mp hascii c hc)]
  exact hforbidden

theorem dispatchable_iff {members : List (String × Json ν)}
    (hdistinct : (Json.object members).Distinct) (h : Accepted runtime members) :
    Dispatchable runtime (normalized runtime members) ↔
      ∀ key ∈ Json.keys members, foldedKey runtime key ≠ maxContextTokensField := by
  have hkeys := keys_normalized runtime members
  have hnodup : (Json.keys (normalized runtime members)).Nodup := hkeys.nodup_iff.mpr hdistinct.1
  constructor
  · intro hdispatch key hkey heq
    -- an empty payload is enough: the override itself is refused
    obtain ⟨result, hresult, -, -⟩ := hdispatch [] List.nodup_nil [] rfl
    have hallowed := (sanitize_eq_ok runtime result hresult).1
    obtain ⟨member, hmember, rfl⟩ := List.mem_map.mp (hkeys.mem_iff.mpr hkey)
    have happlied : (member.1, PayloadValue.json member.2) ∈
        applyAccessPointRequestOverrides [] (normalized runtime members) := by
      rw [mem_apply (by exact List.nodup_nil) hnodup]
      exact .inl ⟨member, hmember, rfl⟩
    refine hallowed _ happlied ?_
    rw [controlFieldName_eq, heq]
    decide
  · intro hfield payload hpayload sanitized hsanitized
    obtain ⟨hallowed, hsent⟩ := sanitize_eq_ok runtime sanitized hsanitized
    -- the accepted keys leave out the other forbidden fields
    have hoverride : ∀ member ∈ normalized runtime members,
        controlFieldName runtime member.1 ∉ cliproxyForbiddenControlFields := by
      intro member hmember hforbidden
      have hkey : member.1 ∈ Json.keys members := hkeys.mem_iff.mp (List.mem_map_of_mem hmember)
      rw [controlFieldName_eq] at hforbidden
      rcases mem_forbiddenControlFields hforbidden with hfolded | hfolded
      · exact (h.keys _ hkey).2.2 hfolded
      · exact hfield _ hkey hfolded
    have happlied := mem_apply hpayload hnodup
    have hfields : ∀ member ∈ applyAccessPointRequestOverrides payload (normalized runtime members),
        controlFieldName runtime member.1 ∉ cliproxyForbiddenControlFields := by
      intro member hmember
      rcases (happlied member).mp hmember with ⟨found, hfound, rfl⟩ | ⟨-, hold⟩
      · exact hoverride found hfound
      · exact hallowed member hold
    obtain ⟨result, hresult⟩ := exists_sanitize runtime hfields
    have hresultSent := (sanitize_eq_ok runtime result hresult).2
    refine ⟨result, hresult, ?_, ?_⟩
    · intro member hmember
      have hkey := h.keys member.1 (hkeys.mem_iff.mp (List.mem_map_of_mem hmember))
      refine (hresultSent _).mpr ⟨(happlied _).mpr (.inl ⟨member, hmember, rfl⟩), ?_, ?_,
        nofun⟩
      · exact fun howned => hkey.2.2 (foldedKey_forbidden runtime (.inr howned))
      · exact fun hproto => hkey.2.1 (hproto ▸ by decide)
    · -- the fields that Frely owns come from the payload alone
      intro key hkey value
      have hnew : key ∉ Json.keys (normalized runtime members) := by
        intro hmem
        exact (h.keys key (hkeys.mem_iff.mp hmem)).2.2 (foldedKey_forbidden runtime (.inl hkey))
      have hsame : (key, value) ∈ applyAccessPointRequestOverrides payload
          (normalized runtime members) ↔ (key, value) ∈ payload := by
        rw [happlied]
        constructor
        · rintro (⟨found, hfound, heq⟩ | ⟨-, hold⟩)
          · have hfoundKey : found.1 = key := congrArg Prod.fst heq
            have hmem : found.1 ∈ Json.keys (normalized runtime members) :=
              List.mem_map_of_mem hfound
            exact absurd (hfoundKey ▸ hmem) hnew
          · exact hold
        · exact fun hold => .inr ⟨hnew, hold⟩
      refine ⟨hsame, ?_⟩
      rw [hresultSent, hsent, hsame]

/-- **Accepted overrides.**  What is stored is read back in any case.  It is one text for one value
as long as no two keys of an object tie, and it can be sent with every payload as long as the
transport does not forbid a key of it. -/
theorem accepted_canonical_iff {members result : List (String × Json ν)}
    (hdistinct : (Json.object members).Distinct)
    (h : normalizeAccessPointRequestOverrides runtime (.object members) = .ok result) :
    (parseAccessPointRequestOverridesJson runtime
        (Json.stringify runtime.format (.object result)) = .ok result ∧
      OneText runtime members ∧ Dispatchable runtime result) ↔
    NoTies runtime (.object members) ∧
      ∀ key ∈ Json.keys members, foldedKey runtime key ≠ maxContextTokensField := by
  obtain ⟨haccepted, rfl⟩ := (normalize_eq_ok runtime hdistinct.1 result).mp h
  rw [oneText_iff runtime hdistinct haccepted, dispatchable_iff runtime hdistinct haccepted]
  exact and_iff_right (parse_normalized runtime hdistinct haccepted)

/-! ### Samples -/

/-- The text with the letter `é` taken apart, as `localeCompare` sees it. -/
def decomposed (text : String) : List Char :=
  text.toList.flatMap fun c => if c = 'é' then ['e', '\u0301'] else [c]

def sampleRuntime : OverrideRuntime Nat where
  format := Json.natFormat
  localeCompare left right := compare (decomposed left) (decomposed right)
  transCmp_localeCompare := StableSort.transCmp_map compare decomposed
  toLowerCase text := String.ofList (text.toList.map Char.toLower)
  toLowerCase_ascii _ _ := rfl

def reasoningOverrides : List (String × Json Nat) :=
  [("reasoning", .object [("effort", .string "high")])]

theorem reasoningOverrides_canonical :
    parseAccessPointRequestOverridesJson sampleRuntime
        (Json.stringify sampleRuntime.format (.object reasoningOverrides)) =
          .ok reasoningOverrides ∧
      OneText sampleRuntime reasoningOverrides ∧
      Dispatchable sampleRuntime reasoningOverrides := by
  have hdistinct : (Json.object reasoningOverrides).Distinct :=
    ⟨by decide, ⟨by decide, trivial, trivial⟩, trivial⟩
  have hties : NoTies sampleRuntime (.object reasoningOverrides) := by
    simp [NoTies, reasoningOverrides, Json.AllObjects, Json.AllObjectsMembers, Apart, Json.keys]
  exact (accepted_canonical_iff sampleRuntime hdistinct (by rfl)).mpr ⟨hties, by decide⟩

def contextOverrides : List (String × Json Nat) := [("friday_max_context_tokens", .number 1)]

/-- The letter as one character and as two. -/
def letterOverrides : List (String × Json Nat) := [("é", .number 1), ("e\u0301", .number 2)]

/-- Overrides that no payload can be sent with, and overrides that are stored as two texts. -/
theorem sampleOverrides_not_canonical :
    (∃ result, normalizeAccessPointRequestOverrides sampleRuntime (.object contextOverrides) =
        .ok result ∧ ¬Dispatchable sampleRuntime result) ∧
      ∃ result, normalizeAccessPointRequestOverrides sampleRuntime (.object letterOverrides) =
        .ok result ∧ ¬OneText sampleRuntime letterOverrides := by
  have hcontext : (Json.object contextOverrides).Distinct := ⟨by decide, trivial, trivial⟩
  have hletters : (Json.object letterOverrides).Distinct := ⟨by decide, trivial, trivial, trivial⟩
  have hcontextOk : normalizeAccessPointRequestOverrides sampleRuntime (.object contextOverrides) =
      .ok contextOverrides := by rfl
  have hlettersOk : normalizeAccessPointRequestOverrides sampleRuntime (.object letterOverrides) =
      .ok letterOverrides := by rfl
  refine ⟨⟨_, hcontextOk, ?_⟩, _, hlettersOk, ?_⟩
  · obtain ⟨haccepted, hresult⟩ := (normalize_eq_ok sampleRuntime hcontext.1 _).mp hcontextOk
    rw [hresult, dispatchable_iff sampleRuntime hcontext haccepted]
    intro hall
    exact hall "friday_max_context_tokens" (by decide) (by decide)
  · obtain ⟨haccepted, -⟩ := (normalize_eq_ok sampleRuntime hletters.1 _).mp hlettersOk
    rw [oneText_iff sampleRuntime hletters haccepted]
    intro hties
    have hsame := hties.1 "é" (by decide) "e\u0301" (by decide) ⟨by decide, by decide, by decide⟩
    exact absurd hsame (by decide)

end Frely.RequestOverrides
