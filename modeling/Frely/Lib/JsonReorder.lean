import Frely.Lib.Json
import Frely.Lib.Utf8
import Mathlib.Algebra.BigOperators.Group.List.Basic
import Mathlib.Algebra.Order.Group.Nat
import Mathlib.Data.List.Nodup

/-!
# The order of members

`reorder g` puts the members of every object of a value in the order that `g` gives them.  Whatever
does not look at the order is kept: how deep values nest, the number and the choice of keys, the
length of the text, and the value as a value (`reorder_same`).
-/

namespace Json

variable {ν : Type} {g : List (String × Json ν) → List (String × Json ν)}

mutual

def reorder (g : List (String × Json ν) → List (String × Json ν)) : Json ν → Json ν
  | .array items => .array (reorderItems g items)
  | .object members => .object (g (reorderMembers g members))
  | value => value

def reorderItems (g : List (String × Json ν) → List (String × Json ν)) :
    List (Json ν) → List (Json ν)
  | [] => []
  | item :: rest => reorder g item :: reorderItems g rest

def reorderMembers (g : List (String × Json ν) → List (String × Json ν)) :
    List (String × Json ν) → List (String × Json ν)
  | [] => []
  | (key, value) :: rest => (key, reorder g value) :: reorderMembers g rest

end

attribute [local simp] reorder reorderItems reorderMembers

theorem reorderItems_eq (items : List (Json ν)) : reorderItems g items = items.map (reorder g) := by
  induction items with
  | nil => rfl
  | cons item rest ih => rw [reorderItems, ih, List.map_cons]

theorem reorderMembers_eq (members : List (String × Json ν)) :
    reorderMembers g members = members.map fun member => (member.1, reorder g member.2) := by
  induction members with
  | nil => rfl
  | cons member rest ih => rw [reorderMembers, ih, List.map_cons]

theorem keys_reorderMembers (members : List (String × Json ν)) :
    keys (reorderMembers g members) = keys members := by
  rw [reorderMembers_eq, keys, keys, List.map_map]
  rfl

variable {members : List (String × Json ν)}

theorem mem_reorderMembers {member : String × Json ν} :
    member ∈ reorderMembers g members ↔
      ∃ found ∈ members, (found.1, reorder g found.2) = member := by
  rw [reorderMembers_eq, List.mem_map]

/-! ### Counts -/

mutual

/-- The number of members in all objects of a value. -/
def keyCount : Json ν → Nat
  | .array items => keyCountItems items
  | .object members => keyCountMembers members
  | _ => 0

def keyCountItems : List (Json ν) → Nat
  | [] => 0
  | item :: rest => keyCount item + keyCountItems rest

def keyCountMembers : List (String × Json ν) → Nat
  | [] => 0
  | (_, value) :: rest => 1 + keyCount value + keyCountMembers rest

end

attribute [local simp] keyCount keyCountItems keyCountMembers

theorem keyCountItems_eq (items : List (Json ν)) :
    keyCountItems items = (items.map keyCount).sum := by
  induction items with
  | nil => rfl
  | cons item rest ih => rw [keyCountItems, ih, List.map_cons, List.sum_cons]

theorem keyCountMembers_eq (members : List (String × Json ν)) :
    keyCountMembers members = (members.map fun member => 1 + keyCount member.2).sum := by
  induction members with
  | nil => rfl
  | cons member rest ih => rw [keyCountMembers, ih, List.map_cons, List.sum_cons]

mutual

/-- What holds of every key in a value. -/
def AllKeys (p : String → Prop) : Json ν → Prop
  | .array items => AllKeysItems p items
  | .object members => AllKeysMembers p members
  | _ => True

def AllKeysItems (p : String → Prop) : List (Json ν) → Prop
  | [] => True
  | item :: rest => AllKeys p item ∧ AllKeysItems p rest

def AllKeysMembers (p : String → Prop) : List (String × Json ν) → Prop
  | [] => True
  | (key, value) :: rest => p key ∧ AllKeys p value ∧ AllKeysMembers p rest

end

attribute [local simp] AllKeys AllKeysItems AllKeysMembers

theorem allKeysItems_iff {p : String → Prop} {items : List (Json ν)} :
    AllKeysItems p items ↔ ∀ item ∈ items, AllKeys p item := by
  induction items with
  | nil => simp
  | cons item rest ih => rw [AllKeysItems, ih, List.forall_mem_cons]

theorem allKeysMembers_iff {p : String → Prop} :
    AllKeysMembers p members ↔ ∀ member ∈ members, p member.1 ∧ AllKeys p member.2 := by
  induction members with
  | nil => simp
  | cons member rest ih => rw [AllKeysMembers, ih, List.forall_mem_cons, and_assoc]

/-! ### Lengths of texts -/

/-- The bytes of a text. -/
def bytes (text : List Char) : Nat := (Utf8.encode text).length

theorem bytes_append (text more : List Char) : bytes (text ++ more) = bytes text + bytes more := by
  rw [bytes, Utf8.encode_append, List.length_append]
  rfl

theorem bytes_cons (c : Char) (text : List Char) : bytes (c :: text) = bytes [c] + bytes text :=
  bytes_append [c] text

/-- The bytes of a member with the separator in front of it. -/
def memberBytes (format : NumberFormat ν) (member : String × Json ν) : Nat :=
  2 + bytes (quote member.1) + bytes (stringify format member.2)

theorem bytes_stringifyMembers (format : NumberFormat ν) (members : List (String × Json ν)) :
    bytes (stringifyMembers format members) = (members.map (memberBytes format)).sum + 1 := by
  have hchars : bytes [','] = 1 ∧ bytes [':'] = 1 ∧ bytes ['}'] = 1 := by decide
  induction members with
  | nil => exact hchars.2.2
  | cons member rest ih =>
    rw [stringifyMembers, bytes_append, ih, List.cons_append, bytes_cons, bytes_append,
      bytes_cons ':', List.map_cons, List.sum_cons, memberBytes, hchars.1, hchars.2.1]
    omega

theorem bytes_stringifyItems (format : NumberFormat ν) (items : List (Json ν)) :
    bytes (stringifyItems format items) =
      (items.map fun item => 1 + bytes (stringify format item)).sum + 1 := by
  have hchars : bytes [','] = 1 ∧ bytes [']'] = 1 := by decide
  induction items with
  | nil => exact hchars.2
  | cons item rest ih =>
    rw [stringifyItems, bytes_append, ih, bytes_cons, List.map_cons, List.sum_cons, hchars.1]
    omega

/-- The text of an object is as long as its members are, with a separator for each. -/
theorem bytes_object (format : NumberFormat ν) (members : List (String × Json ν)) :
    bytes (stringify format (.object members)) =
      max 2 ((members.map (memberBytes format)).sum + 1) := by
  have hchars : bytes ['{'] = 1 ∧ bytes [':'] = 1 ∧ bytes ['{', '}'] = 2 := by decide
  cases members with
  | nil => exact hchars.2.2
  | cons member rest =>
    rw [stringify, bytes_append, bytes_stringifyMembers, List.cons_append, bytes_cons, bytes_append,
      bytes_cons ':', List.map_cons, List.sum_cons, memberBytes, hchars.1, hchars.2.1]
    omega

theorem bytes_array (format : NumberFormat ν) (items : List (Json ν)) :
    bytes (stringify format (.array items)) =
      max 2 ((items.map fun item => 1 + bytes (stringify format item)).sum + 1) := by
  have hchars : bytes ['['] = 1 ∧ bytes ['[', ']'] = 2 := by decide
  cases items with
  | nil => exact hchars.2
  | cons item rest =>
    rw [stringify, bytes_append, bytes_stringifyItems, bytes_cons, List.map_cons, List.sum_cons,
      hchars.1]
    omega

/-! ### Sorting members by their keys -/

theorem mergeSort_eq_of_perm {others : List (String × Json ν)} (h : members.Perm others)
    (hnodup : (keys members).Nodup) :
    (members.mergeSort fun a b => a.1 ≤ b.1) = others.mergeSort fun a b => a.1 ≤ b.1 := by
  have hsorted : ∀ list : List (String × Json ν),
      (list.mergeSort fun a b => a.1 ≤ b.1).Pairwise fun a b => a.1 ≤ b.1 := by
    intro list
    have h := @List.pairwise_mergeSort (String × Json ν) (fun a b => a.1 ≤ b.1)
      (fun a b c hab hbc => by
        simp only [decide_eq_true_eq] at hab hbc ⊢
        exact String.le_trans hab hbc)
      (fun a b => by simpa using String.le_total a.1 b.1) list
    simpa using h
  have hsame : (members.mergeSort fun a b => a.1 ≤ b.1).Perm
      (others.mergeSort fun a b => a.1 ≤ b.1) :=
    (List.mergeSort_perm _ _).trans (h.trans (List.mergeSort_perm _ _).symm)
  refine hsame.eq_of_pairwise (fun a b ha hb hab hba => ?_) (hsorted members) (hsorted others)
  exact List.inj_on_of_nodup_map hnodup (List.mem_mergeSort.mp ha)
    (h.mem_iff.mpr (List.mem_mergeSort.mp hb)) (String.le_antisymm hab hba)

theorem sortedItems_eq (items : List (Json ν)) : sortedItems items = items.map sorted := by
  induction items with
  | nil => rfl
  | cons item rest ih => rw [sortedItems, ih, List.map_cons]

theorem sortedMembers_eq (members : List (String × Json ν)) :
    sortedMembers members = members.map fun member => (member.1, sorted member.2) := by
  induction members with
  | nil => rfl
  | cons member rest ih => rw [sortedMembers, ih, List.map_cons]

/-! ### What the order does not change -/

variable {value : Json ν} {f : List (String × Json ν) → List (String × Json ν)}

section Perm

variable (hperm : ∀ members, (g members).Perm members)

include hperm

theorem nesting_reorder (value : Json ν) : nesting (reorder g value) = nesting value := by
  have hle : ∀ {value other : Json ν}, (∀ bound, nesting value ≤ bound ↔ nesting other ≤ bound) →
      nesting value = nesting other := by
    intro value other h
    exact Nat.le_antisymm ((h _).mpr (Nat.le_refl _)) ((h _).mp (Nat.le_refl _))
  induction value using Json.induction with
  | null => rfl
  | bool value => rfl
  | number value => rfl
  | string value => rfl
  | array items ih =>
    refine hle fun bound => ?_
    rw [reorder, nesting, nesting, nestingItems_le, nestingItems_le, reorderItems_eq,
      List.forall_mem_map]
    exact forall₂_congr fun item hitem => by rw [ih item hitem]
  | object members ih =>
    refine hle fun bound => ?_
    rw [reorder, nesting, nesting, nestingMembers_le, nestingMembers_le, reorderMembers_eq]
    have hmem : (∀ member ∈ g (members.map fun member => (member.1, reorder g member.2)),
        nesting member.2 + 1 ≤ bound) ↔
        ∀ member ∈ members.map fun member => (member.1, reorder g member.2),
          nesting member.2 + 1 ≤ bound :=
      forall_congr' fun member => by rw [(hperm _).mem_iff]
    rw [hmem, List.forall_mem_map]
    exact forall₂_congr fun member hmember => by rw [ih member hmember]

theorem keyCount_reorder (value : Json ν) : keyCount (reorder g value) = keyCount value := by
  induction value using Json.induction with
  | null => rfl
  | bool value => rfl
  | number value => rfl
  | string value => rfl
  | array items ih =>
    rw [reorder, keyCount, keyCount, keyCountItems_eq, keyCountItems_eq, reorderItems_eq,
      List.map_map]
    exact congrArg List.sum (List.map_congr_left ih)
  | object members ih =>
    rw [reorder, keyCount, keyCount, keyCountMembers_eq, keyCountMembers_eq,
      ((hperm _).map _).sum_eq, reorderMembers_eq, List.map_map]
    exact congrArg List.sum (List.map_congr_left fun member hmember =>
      congrArg (1 + ·) (ih member hmember))

theorem allKeys_reorder {p : String → Prop} (value : Json ν) :
    AllKeys p (reorder g value) ↔ AllKeys p value := by
  induction value using Json.induction with
  | null => rfl
  | bool value => rfl
  | number value => rfl
  | string value => rfl
  | array items ih =>
    rw [reorder, AllKeys, AllKeys, allKeysItems_iff, allKeysItems_iff, reorderItems_eq,
      List.forall_mem_map]
    exact forall₂_congr ih
  | object members ih =>
    rw [reorder, AllKeys, AllKeys, allKeysMembers_iff, allKeysMembers_iff, reorderMembers_eq]
    have hmem : (∀ member ∈ g (members.map fun member => (member.1, reorder g member.2)),
        p member.1 ∧ AllKeys p member.2) ↔
        ∀ member ∈ members.map fun member => (member.1, reorder g member.2),
          p member.1 ∧ AllKeys p member.2 :=
      forall_congr' fun member => by rw [(hperm _).mem_iff]
    rw [hmem, List.forall_mem_map]
    exact forall₂_congr fun member hmember => and_congr_right fun _ => ih member hmember

theorem bytes_reorder (format : NumberFormat ν) (value : Json ν) :
    bytes (stringify format (reorder g value)) = bytes (stringify format value) := by
  induction value using Json.induction with
  | null => rfl
  | bool value => rfl
  | number value => rfl
  | string value => rfl
  | array items ih =>
    rw [reorder, bytes_array, bytes_array, reorderItems_eq, List.map_map]
    exact congrArg (fun sums => max 2 (List.sum sums + 1)) (List.map_congr_left fun item hitem =>
      congrArg (1 + ·) (ih item hitem))
  | object members ih =>
    rw [reorder, bytes_object, bytes_object, ((hperm _).map _).sum_eq, reorderMembers_eq,
      List.map_map]
    exact congrArg (fun sums => max 2 (List.sum sums + 1))
      (List.map_congr_left fun member hmember =>
        congrArg (2 + bytes (quote member.1) + ·) (ih member hmember))

theorem distinct_reorder (h : value.Distinct) : (reorder g value).Distinct := by
  induction value using Json.induction with
  | null => trivial
  | bool value => trivial
  | number value => trivial
  | string value => trivial
  | array items ih =>
    rw [reorder, Distinct, distinctItems_iff, reorderItems_eq, List.forall_mem_map]
    exact fun item hitem => ih item hitem (distinctItems_iff.mp h item hitem)
  | object members ih =>
    have hmembers := distinctMembers_iff.mp h.2
    refine ⟨?_, ?_⟩
    · have hkeys : (keys (reorderMembers g members)).Nodup := by
        rw [keys_reorderMembers]
        exact h.1
      have hkeysPerm : (keys (g (reorderMembers g members))).Perm
        (keys (reorderMembers g members)) :=
        (hperm (reorderMembers g members)).map _
      exact hkeysPerm.nodup_iff.mpr hkeys
    · rw [distinctMembers_iff]
      intro member hmember
      obtain ⟨found, hfound, rfl⟩ := mem_reorderMembers.mp ((hperm _).mem_iff.mp hmember)
      exact ih found hfound (hmembers found hfound)

/-- A value is the same one in any order of its members. -/
theorem reorder_same (h : value.Distinct) : (reorder g value).Same value := by
  unfold Same
  induction value using Json.induction with
  | null => rfl
  | bool value => rfl
  | number value => rfl
  | string value => rfl
  | array items ih =>
    have hitems := distinctItems_iff.mp h
    rw [reorder, sorted, sorted, reorderItems_eq, sortedItems_eq, sortedItems_eq, List.map_map]
    exact congrArg Json.array (List.map_congr_left fun item hitem =>
      ih item hitem (hitems item hitem))
  | object members ih =>
    have hmembers := distinctMembers_iff.mp h.2
    have hchildren : sortedMembers (reorderMembers g members) = sortedMembers members := by
      rw [reorderMembers_eq, sortedMembers_eq, sortedMembers_eq, List.map_map]
      exact List.map_congr_left fun member hmember =>
        congrArg (member.1, ·) (ih member hmember (hmembers member hmember))
    have hsame : (sortedMembers (g (reorderMembers g members))).Perm (sortedMembers members) := by
      rw [← hchildren, sortedMembers_eq, sortedMembers_eq]
      exact (hperm _).map _
    have hkeys : keys (sortedMembers members) = keys members := by
      rw [sortedMembers_eq, keys, keys, List.map_map]
      rfl
    rw [reorder, sorted, sorted]
    have hkeysPerm : (keys (sortedMembers (g (reorderMembers g members)))).Perm (keys members) :=
      hkeys ▸ hsame.map _
    exact congrArg Json.object (mergeSort_eq_of_perm hsame (hkeysPerm.nodup_iff.mpr h.1))

/-- An order that has nothing to do on an ordered value. -/
theorem reorder_reorder (hfix : ∀ members, (keys members).Nodup → f (g members) = g members)
    (h : value.Distinct) : reorder f (reorder g value) = reorder g value := by
  induction value using Json.induction with
  | null => rfl
  | bool value => rfl
  | number value => rfl
  | string value => rfl
  | array items ih =>
    have hitems := distinctItems_iff.mp h
    rw [reorder, reorder, reorderItems_eq, reorderItems_eq, List.map_map]
    exact congrArg Json.array (List.map_congr_left fun item hitem =>
      ih item hitem (hitems item hitem))
  | object members ih =>
    have hmembers := distinctMembers_iff.mp h.2
    have hchildren : reorderMembers f (g (reorderMembers g members)) =
        g (reorderMembers g members) := by
      rw [reorderMembers_eq]
      refine (List.map_congr_left ?_).trans (List.map_id _)
      intro member hmember
      obtain ⟨found, hfound, rfl⟩ := mem_reorderMembers.mp ((hperm _).mem_iff.mp hmember)
      exact congrArg (found.1, ·) (ih found hfound (hmembers found hfound))
    have hnodup : (keys (reorderMembers g members)).Nodup := by
      rw [keys_reorderMembers]
      exact h.1
    rw [reorder, reorder, hchildren, hfix _ hnodup]

end Perm

theorem sorted_eq_reorder (value : Json ν) :
    sorted value = reorder (fun members => members.mergeSort fun a b => a.1 ≤ b.1) value := by
  induction value using Json.induction with
  | null => rfl
  | bool value => rfl
  | number value => rfl
  | string value => rfl
  | array items ih =>
    rw [sorted, reorder, sortedItems_eq, reorderItems_eq]
    exact congrArg Json.array (List.map_congr_left ih)
  | object members ih =>
    have hchildren : sortedMembers members =
        reorderMembers (fun members => members.mergeSort fun a b => a.1 ≤ b.1) members := by
      rw [sortedMembers_eq, reorderMembers_eq]
      exact List.map_congr_left fun member hmember => congrArg (member.1, ·) (ih member hmember)
    rw [sorted, reorder, hchildren]

/-! ### Objects inside a value -/

mutual

/-- What holds of the keys of every object in a value. -/
def AllObjects (p : List String → Prop) : Json ν → Prop
  | .array items => AllObjectsItems p items
  | .object members => p (keys members) ∧ AllObjectsMembers p members
  | _ => True

def AllObjectsItems (p : List String → Prop) : List (Json ν) → Prop
  | [] => True
  | item :: rest => AllObjects p item ∧ AllObjectsItems p rest

def AllObjectsMembers (p : List String → Prop) : List (String × Json ν) → Prop
  | [] => True
  | (_, value) :: rest => AllObjects p value ∧ AllObjectsMembers p rest

end

variable {p : List String → Prop}

theorem allObjectsItems_iff {items : List (Json ν)} :
    AllObjectsItems p items ↔ ∀ item ∈ items, AllObjects p item := by
  induction items with
  | nil => simp [AllObjectsItems]
  | cons item rest ih => rw [AllObjectsItems, ih, List.forall_mem_cons]

theorem allObjectsMembers_iff :
    AllObjectsMembers p members ↔ ∀ member ∈ members, AllObjects p member.2 := by
  induction members with
  | nil => simp [AllObjectsMembers]
  | cons member rest ih => rw [AllObjectsMembers, ih, List.forall_mem_cons]

theorem allObjects_reorder (hperm : ∀ members, (g members).Perm members)
    (hp : ∀ {l m : List String}, l.Perm m → (p l ↔ p m)) (value : Json ν) :
    AllObjects p (reorder g value) ↔ AllObjects p value := by
  induction value using Json.induction with
  | null => rfl
  | bool value => rfl
  | number value => rfl
  | string value => rfl
  | array items ih =>
    rw [reorder, AllObjects, AllObjects, allObjectsItems_iff, allObjectsItems_iff, reorderItems_eq,
      List.forall_mem_map]
    exact forall₂_congr ih
  | object members ih =>
    have hkeys : (keys (g (reorderMembers g members))).Perm (keys members) := by
      rw [← keys_reorderMembers (g := g) members]
      exact (hperm _).map _
    rw [reorder, AllObjects, AllObjects, allObjectsMembers_iff, allObjectsMembers_iff, hp hkeys]
    refine and_congr_right fun _ => ?_
    have hmem : (∀ member ∈ g (reorderMembers g members), AllObjects p member.2) ↔
        ∀ member ∈ members.map fun member => (member.1, reorder g member.2),
          AllObjects p member.2 :=
      forall_congr' fun member => by rw [(hperm _).mem_iff, reorderMembers_eq]
    rw [hmem, List.forall_mem_map]
    exact forall₂_congr fun member hmember => ih member hmember

/-- Two reorderings in a row, where the first one does not look at the values. -/
theorem reorder_comp
    (hg : ∀ (h : Json ν → Json ν) (members : List (String × Json ν)),
      g (members.map fun member => (member.1, h member.2)) = (g members).map fun member =>
        (member.1, h member.2))
    (value : Json ν) :
    reorder f (reorder g value) = reorder (fun members => f (g members)) value := by
  induction value using Json.induction with
  | null => rfl
  | bool value => rfl
  | number value => rfl
  | string value => rfl
  | array items ih =>
    rw [reorder, reorder, reorder, reorderItems_eq, reorderItems_eq, reorderItems_eq, List.map_map]
    exact congrArg Json.array (List.map_congr_left ih)
  | object members ih =>
    have hchildren : (members.map fun member => (member.1, reorder f (reorder g member.2))) =
        members.map fun member => (member.1, reorder (fun members => f (g members)) member.2) :=
      List.map_congr_left fun member hmember => congrArg (member.1, ·) (ih member hmember)
    rw [reorder, reorder, reorder, reorderMembers_eq, reorderMembers_eq, reorderMembers_eq,
      ← hg (reorder f), List.map_map, ← hchildren]
    rfl

/-- Two orders that agree on the objects of a value give the same value. -/
theorem reorder_congr (h : value.Distinct) (hp : AllObjects p value)
    (hcongr : ∀ members, (keys members).Nodup → p (keys members) → f members = g members) :
    reorder f value = reorder g value := by
  induction value using Json.induction with
  | null => rfl
  | bool value => rfl
  | number value => rfl
  | string value => rfl
  | array items ih =>
    have hitems := distinctItems_iff.mp h
    have hpItems := allObjectsItems_iff.mp hp
    rw [reorder, reorder, reorderItems_eq, reorderItems_eq]
    exact congrArg Json.array (List.map_congr_left fun item hitem =>
      ih item hitem (hitems item hitem) (hpItems item hitem))
  | object members ih =>
    have hmembers := distinctMembers_iff.mp h.2
    have hpMembers := allObjectsMembers_iff.mp hp.2
    have hchildren : reorderMembers f members = reorderMembers g members := by
      rw [reorderMembers_eq, reorderMembers_eq]
      exact List.map_congr_left fun member hmember => congrArg (member.1, ·)
        (ih member hmember (hmembers member hmember) (hpMembers member hmember))
    have hkeys : keys (reorderMembers g members) = keys members := keys_reorderMembers members
    rw [reorder, reorder, hchildren, hcongr _ (hkeys ▸ h.1) (hkeys ▸ hp.1)]

/-- Where two orders give the same value, they agree on its objects. -/
theorem allObjects_of_reorder_eq (hf : ∀ members, (f members).Perm members)
    (hg : ∀ members, (g members).Perm members) (h : value.Distinct)
    (heq : reorder f value = reorder g value)
    (hp : ∀ members, (keys members).Nodup → f members = g members → p (keys members)) :
    AllObjects p value := by
  induction value using Json.induction with
  | null => trivial
  | bool value => trivial
  | number value => trivial
  | string value => trivial
  | array items ih =>
    have hitems := distinctItems_iff.mp h
    rw [reorder, reorder, Json.array.injEq, reorderItems_eq, reorderItems_eq] at heq
    exact allObjectsItems_iff.mpr fun item hitem =>
      ih item hitem (hitems item hitem) (List.map_inj_left.mp heq item hitem)
  | object members ih =>
    have hmembers := distinctMembers_iff.mp h.2
    rw [reorder, reorder, Json.object.injEq] at heq
    have hkeys : keys (reorderMembers g members) = keys members := keys_reorderMembers members
    have hnodup : (keys (reorderMembers g members)).Nodup := hkeys ▸ h.1
    have hchildren : ∀ member ∈ members, reorder f member.2 = reorder g member.2 := by
      intro member hmember
      have hleft : (member.1, reorder f member.2) ∈ reorderMembers g members := by
        rw [← (hg _).mem_iff, ← heq, (hf _).mem_iff]
        exact mem_reorderMembers.mpr ⟨member, hmember, rfl⟩
      have hright : (member.1, reorder g member.2) ∈ reorderMembers g members :=
        mem_reorderMembers.mpr ⟨member, hmember, rfl⟩
      exact congrArg Prod.snd (List.inj_on_of_nodup_map hnodup hleft hright rfl)
    have hsame : reorderMembers f members = reorderMembers g members := by
      rw [reorderMembers_eq, reorderMembers_eq]
      exact List.map_congr_left fun member hmember =>
        congrArg (member.1, ·) (hchildren member hmember)
    refine ⟨hkeys ▸ hp _ hnodup (hsame ▸ heq), allObjectsMembers_iff.mpr ?_⟩
    intro member hmember
    exact ih member hmember (hmembers member hmember) (hchildren member hmember)

end Json
