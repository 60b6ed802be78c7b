import Frely.PiTunnel.Devices

/-!
# Activations of device slots

Attempts to activate slots and revocations, in every order of their statements.  `Follows` is what
can become of a slot; it is what the trigger of the table allows, except that only an open slot
becomes active.  Both transactions are safe for `devices`, the discipline of such changes on locked
rows, so it holds of the committed databases of a run.  The codes that are compared are counted
along the run: between the comparison of a wrong code and the end of its transaction the slot stays
locked and owes an attempt.
-/

namespace Frely.PiTunnel

open Checked ReadCommitted Relation

/-! ### What can become of a slot -/

variable {new old : DeviceRow}

/-- What a slot can become. -/
structure Follows (old new : DeviceRow) : Prop where
  id : new.id = old.id
  expires : new.activationExpiresAt = old.activationExpiresAt
  attempts : new.activationAttemptsRemaining ≤ old.activationAttemptsRemaining
  pending : new.lifecycle = .pending → old.lifecycle = .pending
  revoked : old.lifecycle = .revoked → new.lifecycle = .revoked
  nodeId : ∀ n, old.nodeId = some n → new.nodeId = some n
  keyThumbprint : ∀ t, old.nodeKeyThumbprint = some t → new.nodeKeyThumbprint = some t
  activated : old.lifecycle ≠ .active → new.lifecycle = .active →
    ∃ now ∈ new.activatedAt, old.IsOpen now
  kept : old.lifecycle = .active → new.lifecycle = .active → new.activatedAt = old.activatedAt

theorem Follows.refl (row : DeviceRow) : Follows row row where
  id := rfl
  expires := rfl
  attempts := Nat.le_refl _
  pending h := h
  revoked h := h
  nodeId _ h := h
  keyThumbprint _ h := h
  activated hnot h := absurd h hnot
  kept _ _ := rfl

theorem Follows.trans {a b c : DeviceRow} (hab : Follows a b) (hbc : Follows b c) :
    Follows a c where
  id := hbc.id.trans hab.id
  expires := hbc.expires.trans hab.expires
  attempts := Nat.le_trans hbc.attempts hab.attempts
  pending h := hab.pending (hbc.pending h)
  revoked h := hbc.revoked (hab.revoked h)
  nodeId n h := hbc.nodeId n (hab.nodeId n h)
  keyThumbprint t h := hbc.keyThumbprint t (hab.keyThumbprint t h)
  activated ha hc := by
    by_cases hb : b.lifecycle = .active
    · rw [hbc.kept hb hc]
      exact hab.activated ha hb
    · obtain ⟨now, hnow, hpending, hattempts, hexpires⟩ := hbc.activated hb hc
      refine ⟨now, hnow, hab.pending hpending, Nat.le_trans hattempts hab.attempts, ?_⟩
      rw [← hab.expires]
      exact hexpires
  kept ha hc := by
    have hb : b.lifecycle = .active := by
      cases hlifecycle : b.lifecycle with
      | active => rfl
      | pending => exact absurd (ha.symm.trans (hab.pending hlifecycle)) (by decide)
      | revoked => exact absurd (hc.symm.trans (hbc.revoked hlifecycle)) (by decide)
    rw [hbc.kept hb hc, hab.kept ha hb]

/-- What the trigger lets through, when only open slots are activated. -/
theorem follows_of_guard {old new : DeviceRow} (hguard : guardTransition old new = .ok ())
    (hmeets : old.meetsConstraints = true)
    (hactive : old.lifecycle = .pending → new.lifecycle = .active →
      ∃ now ∈ new.activatedAt, old.IsOpen now) : Follows old new := by
  simp only [guardTransition, bind_eq_ok, rejectIf_eq_ok, exists_const, not_or, not_and, ne_eq,
    not_not, Nat.not_lt] at hguard
  obtain ⟨⟨hid, -, hexpires, -⟩, hrevoked, hterminal, ⟨hattempts, -⟩, hidentity⟩ := hguard
  have hpending : new.lifecycle = .pending → old.lifecycle = .pending := by
    intro hnew
    cases hold : old.lifecycle with
    | pending => rfl
    | active => exact absurd (hnew.symm.trans (hterminal hold)) (by decide)
    | revoked => exact absurd hold hrevoked
  -- a pending slot has no identity, and the other slots keep theirs
  have hkept : old.lifecycle ≠ .pending → new.nodeId = old.nodeId ∧
      new.nodeKeyThumbprint = old.nodeKeyThumbprint ∧ new.activatedAt = old.activatedAt := by
    intro hnot
    obtain ⟨hnode, -, hkey, hat⟩ := hidentity fun h => absurd h hnot
    exact ⟨hnode, hkey, hat⟩
  have hfree : old.lifecycle = .pending → old.nodeId = none ∧ old.nodeKeyThumbprint = none := by
    intro hold
    have hshape : old.hasShape = true := by
      simp only [DeviceRow.meetsConstraints, Bool.and_eq_true] at hmeets
      exact hmeets.2
    simp only [DeviceRow.hasShape, hold, Bool.and_eq_true, Option.isNone_iff_eq_none] at hshape
    exact ⟨hshape.1.1.1.1.1, hshape.1.1.1.2⟩
  refine ⟨hid, hexpires, hattempts, hpending, fun h => absurd h hrevoked, ?_, ?_, ?_, ?_⟩
  · intro n hn
    by_cases hold : old.lifecycle = .pending
    · rw [(hfree hold).1] at hn
      exact absurd hn (by simp)
    · rw [(hkept hold).1, hn]
  · intro t ht
    by_cases hold : old.lifecycle = .pending
    · rw [(hfree hold).2] at ht
      exact absurd ht (by simp)
    · rw [(hkept hold).2.1, ht]
  · intro hnot hnew
    refine hactive ?_ hnew
    cases hold : old.lifecycle with
    | pending => rfl
    | active => exact absurd hold hnot
    | revoked => exact absurd hold hrevoked
  · intro hold _
    exact (hkept (by rw [hold]; decide)).2.2

/-! ### The discipline -/

variable {row : DeviceRow}

/-- The constraints and the unique indexes hold. -/
structure DevicesSound (devices : Devices) : Prop where
  meets : ∀ row ∈ devices, row.meetsConstraints = true
  unique : ∀ a ∈ devices, ∀ b ∈ devices, a.id ≠ b.id → ∀ e ∈ a.entries, e ∉ b.entries

/-- A row is written over the one that is locked. -/
structure SlotChange (held : List DeviceLock) (devices : Devices) (new : DeviceRow) : Prop where
  follows : ∃ old, devices.find? new.id = some old ∧ Follows old new
  locked : ∀ l ∈ locksOf new, l ∈ held
  free : conflicts devices new = false
  meets : new.meetsConstraints = true

theorem row_mem_locksOf (row : DeviceRow) : Lock.row row.id ∈ locksOf row := List.mem_cons_self

theorem entry_mem_locksOf {e : DeviceEntry} (he : e ∈ row.entries) : Lock.entry e ∈ locksOf row :=
  List.mem_cons_of_mem _ (List.mem_map_of_mem he)

theorem conflicts_eq_false {devices : Devices} :
    conflicts devices row = false ↔
      ∀ other ∈ devices, other.id ≠ row.id → ∀ e ∈ other.entries, e ∉ row.entries := by
  simp only [conflicts, List.any_eq_false, Bool.and_eq_true, decide_eq_true_eq, List.any_eq_true,
    not_and, not_exists]
  exact Iff.rfl

theorem mem_put {devices : Devices} :
    row ∈ devices.put new ↔ row = new ∨ row ∈ devices ∧ row.id ≠ new.id :=
  (Table.sets_put devices new).mem_iff

theorem DevicesSound.put {held : List DeviceLock} {devices : Devices} (h : DevicesSound devices)
    (hchange : SlotChange held devices new) : DevicesSound (devices.put new) where
  meets row hrow := by
    rcases mem_put.mp hrow with rfl | ⟨hold, -⟩
    · exact hchange.meets
    · exact h.meets row hold
  unique a ha b hb hne e hea heb := by
    have hfree := conflicts_eq_false.mp hchange.free
    rcases mem_put.mp ha with rfl | ⟨hamem, hanew⟩
    · rcases mem_put.mp hb with rfl | ⟨hbmem, hbnew⟩
      · exact hne rfl
      · exact hfree b hbmem hbnew e heb hea
    · rcases mem_put.mp hb with rfl | ⟨hbmem, -⟩
      · exact hfree a hamem hanew e hea heb
      · exact h.unique a hamem b hbmem hne e hea heb

/-- What the transactions may do to the slots. -/
def devices : Discipline DeviceRow String DeviceEntry where
  Effect held db rows := ∃ new, rows = [new] ∧ SlotChange held db new
  Inv := DevicesSound
  framed := by
    rintro held db rows ⟨new, rfl, hchange⟩ row hrow
    obtain rfl := List.mem_singleton.mp hrow
    exact hchange.locked _ (row_mem_locksOf row)
  mono := by
    rintro held held' db rows hsub ⟨new, rfl, hchange⟩
    exact ⟨new, rfl, { hchange with locked := fun l hl => hsub l (hchange.locked l hl) }⟩
  keeps := by
    rintro held db rows hdb ⟨new, rfl, hchange⟩
    exact hdb.put hchange

/-! ### What slots become in a run -/

variable {id : String}

section Later

variable {held : List DeviceLock} {db db' : Devices}

/-- No slot appears. -/
theorem find?_of_rely (hrely : Rely devices held db db') (hnew : db'.find? id = some new) :
    ∃ old, db.find? id = some old ∧ Follows old new := by
  induction hrely generalizing new with
  | refl => exact ⟨new, hnew, .refl new⟩
  | tail _ hlast ih =>
    obtain ⟨-, _, _, -, ⟨row, rfl, hchange⟩, rfl⟩ := hlast
    rw [Table.putAll_cons, Table.putAll_nil, Table.find?_put] at hnew
    split_ifs at hnew with hid
    · obtain rfl := Option.some.inj hnew
      obtain ⟨old, hold, hfollows⟩ := hchange.follows
      replace hid : id = row.id := hid
      rw [← hid] at hold
      obtain ⟨first, hfirst, hbefore⟩ := ih hold
      exact ⟨first, hfirst, hbefore.trans hfollows⟩
    · exact ih hnew

/-- No slot disappears. -/
theorem exists_of_rely (hrely : Rely devices held db db') (hold : db.find? id = some old) :
    ∃ new, db'.find? id = some new ∧ Follows old new := by
  induction hrely with
  | refl => exact ⟨old, hold, .refl old⟩
  | tail _ hlast ih =>
    obtain ⟨-, _, _, -, ⟨row, rfl, hchange⟩, rfl⟩ := hlast
    obtain ⟨mid, hmid, hbefore⟩ := ih
    rw [Table.putAll_cons, Table.putAll_nil, Table.find?_put]
    split_ifs with hid
    · obtain ⟨last, hlast, hfollows⟩ := hchange.follows
      replace hid : id = row.id := hid
      rw [← hid, hmid] at hlast
      obtain rfl := Option.some.inj hlast
      exact ⟨row, rfl, hbefore.trans hfollows⟩
    · exact ⟨mid, hmid, hbefore⟩

/-- Index entries that are locked are not taken by others. -/
theorem conflicts_of_rely (hrely : Rely devices held db db') (hlocked : ∀ l ∈ locksOf new, l ∈ held)
    (hfree : conflicts db new = false) : conflicts db' new = false := by
  refine hrely.stable (P := fun a => conflicts a new = false) ?_ hfree
  rintro locks a rows - hdisjoint ⟨row, rfl, hchange⟩ ha
  rw [conflicts_eq_false] at ha ⊢
  intro other hother hne e he hnew
  rcases mem_put.mp hother with rfl | ⟨hother, -⟩
  · exact hdisjoint _ (hchange.locked _ (entry_mem_locksOf he)) (hlocked _ (entry_mem_locksOf hnew))
  · exact ha other hother hne e he hnew

end Later

/-! ### The transactions are safe -/

section Safety

variable {held : List DeviceLock} {db : Devices} {host : DeviceHost}

variable {set : DeviceRow → DeviceRow}

theorem checkedRow_eq_some (h : checkedRow set db old = .ok (some new)) :
    new = set old ∧ guardTransition old new = .ok () ∧ new.meetsConstraints = true := by
  obtain ⟨⟨⟩, hguard, h⟩ := bind_eq_ok.mp h
  obtain ⟨⟨⟩, hmeets, h⟩ := bind_eq_ok.mp h
  obtain rfl := Option.some.inj (Except.ok.inj h)
  exact ⟨rfl, hguard, Bool.eq_true_of_not_eq_false (rejectIf_eq_ok.mp hmeets)⟩

/-- The one update of a transaction, of a row that it has locked. -/
theorem safe_updateDevice {id : String} {set : DeviceRow → DeviceRow}
    {k : DeviceRow → DeviceProgram}
    (hk : ∀ row, k row = done (some row) ∨ k row = done none) (hlock : .row id ∈ held)
    (hid : ∀ row, (set row).id = row.id)
    (hset : ∀ old, db.find? id = some old → old.lifecycle = .pending →
      (set old).lifecycle = .active → ∃ now ∈ (set old).activatedAt, old.IsOpen now) :
    Safe devices False (updateDevice id set k) held [] db := by
  refine safe_update (fun later _ _ _ => trivial) ?_
  intro later old new hlater hinv hfind hset' hconflict
  rw [Table.putAll_nil] at hfind hconflict hset'
  obtain ⟨hnew, hguard, hmeets⟩ := checkedRow_eq_some hset'
  have hkey : old.id = id := Table.key_of_find? hfind
  have hnewId : new.id = id := by rw [hnew, hid, hkey]
  have hfollows : Follows old new := by
    refine follows_of_guard hguard (hinv.meets old (Table.mem_of_find? hfind)) ?_
    rw [hnew]
    exact hset old (by rw [← hfind, hlater.find? hlock])
  have hlocked : ∀ l ∈ locksOf new, l ∈ held ++ locksOf new := fun l => List.mem_append_right _
  have hcommit : Committable devices (fun _ => True) (held ++ locksOf new) ([] ++ [new]) later := by
    refine committable_nil.snoc fun a hrely _ _ _ => ?_
    refine ⟨new, rfl, ⟨old, ?_, hfollows⟩, hlocked, conflicts_of_rely hrely hlocked hconflict,
      hmeets⟩
    rw [Table.putAll_nil, hnewId, hrely.find? (List.mem_append_left _ hlock), hfind]
  change Safe devices False (k new) _ _ _
  rcases hk new with hdone | hdone
  · rw [hdone]
    exact hcommit.safe fun _ _ => trivial
  · rw [hdone]
    exact hcommit.safe fun _ _ => trivial

theorem safe_done (result : Option DeviceRow) : Safe devices False (done result) held [] db :=
  Committable.safe (A := fun _ => True) committable_nil fun _ _ => trivial

theorem safe_takeAttempt (hlock : .row row.id ∈ held) :
    Safe devices False (takeAttempt row done) held [] db := by
  refine safe_updateDevice (fun _ => .inr rfl) hlock (fun _ => rfl) ?_
  intro old _ hpending hactive
  exact absurd (hpending.symm.trans hactive) (by decide)

variable {input : ConsumeActivationInput}

theorem safe_bindIdentity (hlock : .row row.id ∈ held) (hfind : db.find? row.id = some row)
    (hopen : row.IsOpen input.activatedAt) :
    Safe devices False (bindIdentity host input row done) held [] db := by
  unfold bindIdentity
  refine safe_lockEntry fun db₁ h₁ _ => ?_
  refine safe_select fun db₂ h₂ _ => ?_
  dsimp only
  split_ifs
  · exact safe_done none
  · have hlock' : Lock.row row.id ∈ held ++ [.entry
      (.advisory (host.hashtextextended input.nodeId))] :=
      List.mem_append_left _ hlock
    refine safe_updateDevice (fun _ => .inl rfl) hlock' (fun _ => rfl) ?_
    intro old hold _ _
    rw [h₂.find? hlock', h₁.find? hlock, hfind] at hold
    obtain rfl := Option.some.inj hold
    exact ⟨input.activatedAt, rfl, hopen⟩

/-- The slot is locked if there is one. -/
def IsLocked (id : String) (held : List DeviceLock) (db : Devices) : Prop :=
  ∀ row, db.find? id = some row → .row id ∈ held

theorem IsLocked.mono {db' : Devices} (h : IsLocked id held db) (hrely : Rely devices held db db') :
    IsLocked id held db' := by
  intro row hrow
  obtain ⟨old, hold, -⟩ := find?_of_rely hrely hrow
  exact h old hold

theorem safe_readSlot (hlocked : IsLocked input.activationId held db) :
    Safe devices False (readSlot host input done) held [] db := by
  unfold readSlot
  refine safe_select fun db₁ h₁ _ => ?_
  rw [Table.putAll_nil]
  cases hfind : db₁.find? input.activationId with
  | none => exact safe_done none
  | some row =>
    have hid : row.id = input.activationId := Table.key_of_find? hfind
    have hlock : Lock.row row.id ∈ held := hid ▸ hlocked.mono h₁ row hfind
    change Safe devices False ((compareCode host input (some row)) done) held [] db₁
    unfold compareCode
    dsimp only
    split_ifs with hopen hmatches
    · exact safe_bindIdentity hlock (hid ▸ hfind) hopen
    · exact safe_takeAttempt hlock
    · exact safe_done none

theorem safe_selectSlot {k : Option DeviceRow → DeviceProgram}
    (h : ∀ row held' db', IsLocked id held' db' → Safe devices False (k row) held' [] db') :
    Safe devices False (selectForUpdate id k) held [] db := by
  apply safe_selectForUpdate
  · intro db₁ _ _ hfind
    refine h _ _ _ fun row hrow => ?_
    rw [Table.putAll_nil, hrow] at hfind
    exact absurd hfind (by simp)
  · intro db₁ row _ _ _
    exact h _ _ _ fun _ _ => List.mem_append_right _ List.mem_cons_self

theorem safe_revoke {reason : String} {now : Timestamp} :
    Safe devices False (revoke id reason now done) held [] db := by
  unfold revoke
  refine safe_selectSlot fun _ held₁ db₁ hlocked => ?_
  refine safe_select fun db₂ h₂ _ => ?_
  rw [Table.putAll_nil]
  cases hfind : db₂.find? id with
  | none => trivial
  | some row =>
    change Safe devices False ((revokeSlot id reason now (some row)) done) held₁ [] db₂
    unfold revokeSlot
    dsimp only
    split_ifs with hrevoked
    · exact safe_done _
    · refine safe_updateDevice (fun _ => .inl rfl) (hlocked.mono h₂ row hfind) (fun _ => rfl) ?_
      intro old _ _ hactive
      exact absurd hactive (by simp)

theorem safe_call (call : DeviceCall) :
    Safe devices False (call.program host) [] [] db := by
  cases call with
  | activate input => exact safe_selectSlot fun _ _ _ hlocked => safe_readSlot hlocked
  | revoke id reason now => exact safe_check fun _ _ => safe_revoke

end Safety

end Frely.PiTunnel
