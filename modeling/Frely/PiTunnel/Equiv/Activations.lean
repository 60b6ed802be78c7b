import Frely.PiTunnel.Equiv.Devices

/-!
# How often codes are compared

A transaction that compares a wrong code goes on to take an attempt off the slot and keeps the slot
locked until then, so at most one transaction owes a slot an attempt.  `Stands` says where an open
transaction stands in this, `Left` bounds the comparisons that are still to come, and
`activation_single_use` collects what holds of slots in every run.
-/

namespace Frely.PiTunnel

open Checked ReadCommitted Relation

abbrev DeviceSystem := System DeviceRow String DeviceEntry DeviceError

abbrev DeviceMove := Move DeviceCall

abbrev DeviceStep := Machine.Step DeviceMove (Outcome DeviceError) DeviceSystem

/-- A move of the database on the devices. -/
def deviceStep (host : DeviceHost) : DeviceMove → DeviceSystem →
    Outcome DeviceError × DeviceSystem :=
  ReadCommitted.step (DeviceCall.program host)

/-! ### Events -/

/-- A transaction, which has written nothing yet, finds an open slot and compares a code with it
that does not match. -/
def ComparesWrongCode (host : DeviceHost) (id : String) (t : DeviceStep) : Prop :=
  ∃ i session input row, t.input = .execute i ∧
    t.before.sessions[i]? = some (some session) ∧
    session.program = readSlot host input done ∧ input.activationId = id ∧
    t.before.committed.find? id = some row ∧ row.IsOpen input.activatedAt ∧
    host.activationCodeMatches row.activationCodeHash input.activationCode = false

open Classical in
/-- How many wrong codes are compared with a slot. -/
noncomputable def wrongCodes (host : DeviceHost) (id : String) (trace : List DeviceStep) : Nat :=
  trace.countP fun t => ComparesWrongCode host id t

/-- A slot becomes active. -/
def activates (id : String) (t : DeviceStep) : Bool :=
  (t.before.committed.find? id).any (·.lifecycle ≠ .active) &&
    (t.after.committed.find? id).any (·.lifecycle = .active)

/-- The move takes a session back. -/
def isCancelled : DeviceMove → Bool
  | .cancel _ => true
  | _ => false

/-! ### Transactions that take no attempt -/

variable {id : String} {db : Devices} {set : DeviceRow → DeviceRow}

/-- No statement leaves a pending slot. -/
def Quiet : DeviceProgram → Prop
  | .commit _ => True
  | .rollback _ => True
  | .statement _ _ writes next =>
    (∀ db, ∀ row ∈ writes db, row.lifecycle ≠ .pending) ∧ ∀ db, Quiet (next db)

theorem quiet_select {α : Type} {f : Devices → α} {k : α → DeviceProgram} (h : ∀ a, Quiet (k a)) :
    Quiet (select f k) :=
  ⟨fun _ _ hrow => absurd hrow List.not_mem_nil, fun db => h (f db)⟩

theorem quiet_lockEntry {entry : DeviceEntry} {k : Unit → DeviceProgram} (h : Quiet (k ())) :
    Quiet (lockEntry entry k) :=
  ⟨fun _ _ hrow => absurd hrow List.not_mem_nil, fun _ => h⟩

theorem quiet_check {α : Type} {x : Except DeviceError α} {k : α → DeviceProgram}
    (h : ∀ a, Quiet (k a)) : Quiet (check x k) := by
  cases x with
  | ok a => exact h a
  | error e => trivial

theorem written_updated {new : DeviceRow} (h : new ∈ written (updated id (checkedRow set) db)) :
    ∃ old, db.find? id = some old ∧ new = set old := by
  unfold updated at h
  cases hfind : db.find? id with
  | none => simp [hfind, written] at h
  | some old =>
    rw [hfind] at h
    refine ⟨old, rfl, ?_⟩
    cases hresult : checkedRow set db old with
    | error e => simp [hresult, written] at h
    | ok result =>
      cases result with
      | none => simp [hresult, written] at h
      | some row =>
        have hnew : new = row := by simpa [hresult, written] using h
        rw [hnew]
        exact (checkedRow_eq_some hresult).1

theorem quiet_updateDevice {k : DeviceRow → DeviceProgram}
    (hset : ∀ row, (set row).lifecycle ≠ .pending) (h : ∀ row, Quiet (k row)) :
    Quiet (updateDevice id set k) := by
  refine ⟨?_, ?_⟩
  · intro db new hnew
    obtain ⟨old, -, rfl⟩ := written_updated hnew
    exact hset old
  · intro db
    dsimp only
    split_ifs
    · trivial
    · refine quiet_check fun result => ?_
      cases result with
      | none => trivial
      | some row => exact h row

theorem quiet_bindIdentity (host : DeviceHost) (input : ConsumeActivationInput) (row : DeviceRow) :
    Quiet (bindIdentity host input row done) := by
  unfold bindIdentity
  refine quiet_lockEntry ?_
  refine quiet_select fun bound => ?_
  cases bound with
  | true => trivial
  | false => exact quiet_updateDevice (fun old => by simp) fun _ => trivial

theorem quiet_revoke (id reason : String) (now : Timestamp) :
    Quiet (revoke id reason now done) := by
  refine ⟨fun _ _ hrow => absurd hrow List.not_mem_nil, fun _ => quiet_select fun row => ?_⟩
  cases row with
  | none => trivial
  | some row =>
    change Quiet ((revokeSlot id reason now (some row)) done)
    unfold revokeSlot
    dsimp only
    split_ifs
    · trivial
    · exact quiet_updateDevice (fun old => by simp) fun _ => trivial

/-! ### Transactions that owe an attempt -/

variable {committed : Devices} {row : DeviceRow}

/-- The slot with one attempt less. -/
def taken (row : DeviceRow) : DeviceRow := withOneLess row row

/-- The slot is locked as it was read, and an attempt is about to be taken off. -/
structure Owes (committed : Devices) (session : DeviceSession) (row : DeviceRow) : Prop where
  lock : .row row.id ∈ session.held
  find : committed.find? row.id = some row
  pending : row.lifecycle = .pending
  attempts : 1 ≤ row.activationAttemptsRemaining
  stands : session.program = takeAttempt row done ∧ session.writes = [] ∨
    session.program = done none ∧ session.writes = [taken row]

/-- Where an open transaction stands. -/
inductive Stands (host : DeviceHost) (committed : Devices) (session : DeviceSession) : Prop where
  | lock (input : ConsumeActivationInput) (program :
      session.program = consumeActivation host input done)
      (held : session.held = []) (writes : session.writes = [])
  | read (input : ConsumeActivationInput) (program : session.program = readSlot host input done)
      (held : IsLocked input.activationId session.held committed) (writes : session.writes = [])
  | owes (row : DeviceRow) (owes : Owes committed session row)
  | quiet (program : Quiet session.program)

theorem Stands.mono {host : DeviceHost} {later : Devices} {session : DeviceSession}
    (h : Stands host committed session) (hrely : Rely devices session.held committed later) :
    Stands host later session := by
  cases h with
  | lock input program held writes => exact .lock input program held writes
  | read input program held writes => exact .read input program (held.mono hrely) writes
  | owes row owes => exact .owes row { owes with find := (hrely.find? owes.lock).trans owes.find }
  | quiet program => exact .quiet program

theorem checkedRow_of {old : DeviceRow} (hguard : guardTransition old (set old) = .ok ())
    (hmeets : (set old).meetsConstraints = true) :
    checkedRow set db old = .ok (some (set old)) := by
  unfold checkedRow
  rw [hguard, bind_ok, rejectIf_of_not fun h => absurd (hmeets.symm.trans h) (by decide)]
  rfl

theorem meets_taken (hmeets : row.meetsConstraints = true) :
    (taken row).meetsConstraints = true := by
  simp only [DeviceRow.meetsConstraints, Bool.and_eq_true, decide_eq_true_eq] at hmeets ⊢
  obtain ⟨⟨⟨hattempts, hidentity⟩, hreason⟩, hshape⟩ := hmeets
  refine ⟨⟨⟨?_, hidentity⟩, hreason⟩, hshape⟩
  exact Nat.le_trans (Nat.sub_le _ _) hattempts

/-- The trigger and the constraints let an attempt be taken off a slot that has one. -/
theorem checkedRow_taken (hmeets : row.meetsConstraints = true)
    (hpending : row.lifecycle = .pending) :
    checkedRow (withOneLess row) db row = .ok (some (taken row)) := by
  refine checkedRow_of ?_ (meets_taken hmeets)
  simp [guardTransition, withOneLess, hpending]

theorem entries_of_pending (hmeets : row.meetsConstraints = true)
    (hpending : row.lifecycle = .pending) : row.entries = [] := by
  have hshape : row.hasShape = true := by
    simp only [DeviceRow.meetsConstraints, Bool.and_eq_true] at hmeets
    exact hmeets.2
  simp only [DeviceRow.hasShape, hpending, Bool.and_eq_true, Option.isNone_iff_eq_none] at hshape
  simp [DeviceRow.entries, hshape.1.1.1.1.1, hshape.1.1.1.2]

theorem writes_takeAttempt (hsound : DevicesSound committed)
    (hfind : committed.find? row.id = some row) (hpending : row.lifecycle = .pending) :
    written (updated row.id (checkedRow (withOneLess row)) committed) = [taken row] := by
  have hmeets := hsound.meets row (Table.mem_of_find? hfind)
  simp only [updated, hfind, checkedRow_taken hmeets hpending, written]

/-- The rows of the next statement of a program. -/
def nextWrites (program : DeviceProgram) (db : Devices) : List DeviceRow :=
  match program with
  | .statement _ _ writes _ => writes db
  | _ => []

theorem nextWrites_takeAttempt (hsound : DevicesSound committed)
    (hfind : committed.find? row.id = some row) (hpending : row.lifecycle = .pending) :
    nextWrites (takeAttempt row done) committed = [taken row] :=
  writes_takeAttempt hsound hfind hpending

theorem Quiet.nextWrites {program : DeviceProgram} (h : Quiet program) (db : Devices) :
    ∀ row ∈ nextWrites program db, row.lifecycle ≠ .pending := by
  cases program with
  | commit relies => exact fun _ hrow => absurd hrow List.not_mem_nil
  | rollback e => exact fun _ hrow => absurd hrow List.not_mem_nil
  | statement relies locks writes next => exact h.1 db

section Advance

variable {host : DeviceHost} {committed : Devices} {session next : DeviceSession}

/-- What follows the taking of an attempt. -/
theorem Owes.advance (hsound : DevicesSound committed) (h : Owes committed session row)
    (hnext : session.advance committed = some next) : Owes committed next row := by
  obtain ⟨program, held, writes⟩ := session
  obtain ⟨hlock, hfind, hpending, hattempts, ⟨rfl, rfl⟩ | ⟨rfl, rfl⟩⟩ := h
  · have hwrites := writes_takeAttempt hsound hfind hpending
    have hmeets := hsound.meets row (Table.mem_of_find? hfind)
    have hfree : conflicts committed (taken row) = false := by
      rw [conflicts_eq_false]
      intro other _ _ e _ he
      have hnone : (taken row).entries = [] := entries_of_pending (meets_taken hmeets) hpending
      rw [hnone] at he
      exact List.not_mem_nil he
    obtain rfl := Option.some.inj hnext
    refine ⟨List.mem_append_left _ hlock, hfind, hpending, hattempts, .inr ⟨?_, ?_⟩⟩
    · change (if (written (updated row.id (checkedRow (withOneLess row)) committed)).any
          (conflicts committed) then _
        else check (updated row.id (checkedRow (withOneLess row)) committed) _) = _
      rw [hwrites]
      simp only [List.any_cons, hfree, List.any_nil, Bool.or_self, Bool.false_eq_true, if_false]
      simp only [updated, hfind, checkedRow_taken hmeets hpending]
      rfl
    · exact hwrites
  · exact absurd hnext (by simp [Session.advance, done])

/-- **The next statement** of a transaction. -/
theorem Stands.advance (hsound : DevicesSound committed) (h : Stands host committed session)
    (hnext : session.advance committed = some next) : Stands host committed next := by
  cases h with
  | lock input program held writes =>
    obtain ⟨program, held, writes⟩ := session
    subst program held writes
    obtain rfl := Option.some.inj hnext
    refine .read input rfl ?_ rfl
    intro row hrow
    have hview : Table.find? (Table.putAll committed []) input.activationId = some row := hrow
    simp [Session.view, hrow]
  | read input program hlocked writes =>
    obtain ⟨program, held, writes⟩ := session
    subst program writes
    obtain rfl := Option.some.inj hnext
    change Stands host committed ⟨compareCode host input (committed.find? input.activationId) done,
      held ++ [], [] ++ []⟩
    cases hfind : committed.find? input.activationId with
    | none => exact .quiet trivial
    | some row =>
      have hid : row.id = input.activationId := Table.key_of_find? hfind
      unfold compareCode
      dsimp only
      split_ifs with hopen hmatches
      · exact .quiet (quiet_bindIdentity host input row)
      · refine .owes row ⟨?_, hid ▸ hfind, hopen.1, hopen.2.1, .inl ⟨rfl, rfl⟩⟩
        exact List.mem_append_left _ (hid ▸ hlocked row hfind)
      · exact .quiet trivial
  | owes row owes => exact .owes row (owes.advance hsound hnext)
  | quiet program =>
    obtain ⟨p, held, writes⟩ := session
    cases p with
    | commit relies => exact absurd hnext (by simp [Session.advance])
    | rollback e => exact absurd hnext (by simp [Session.advance])
    | statement relies locks writes' rest =>
      obtain rfl := Option.some.inj hnext
      exact .quiet (program.2 _)

/-- A transaction that is about to take an attempt off owes it. -/
theorem Stands.owes_of_nextWrites (hsound : DevicesSound committed)
    (h : Stands host committed session) (hfind : committed.find? row.id = some row)
    (hpending : row.lifecycle = .pending)
    (hwrites : nextWrites session.program committed = [taken row]) :
    Owes committed session row := by
  cases h with
  | lock input program held writes =>
    rw [program] at hwrites
    exact absurd hwrites (List.cons_ne_nil _ _).symm
  | read input program held writes =>
    rw [program] at hwrites
    exact absurd hwrites (List.cons_ne_nil _ _).symm
  | owes other owes =>
    have hother : nextWrites session.program committed = [taken other] := by
      rcases owes.stands with ⟨hprogram, -⟩ | ⟨hprogram, -⟩
      · rw [hprogram]
        exact nextWrites_takeAttempt hsound owes.find owes.pending
      · rw [hprogram] at hwrites
        exact absurd hwrites (List.cons_ne_nil _ _).symm
    have hid : other.id = row.id := by
      have htaken : (taken other).id = (taken row).id :=
        congrArg DeviceRow.id (List.singleton_inj.mp (hother.symm.trans hwrites))
      exact htaken
    obtain rfl : other = row := by
      have hfound := owes.find
      rw [hid, hfind] at hfound
      exact (Option.some.inj hfound).symm
    exact owes
  | quiet program =>
    refine absurd hpending ?_
    exact program.nextWrites committed (taken row) (hwrites ▸ List.mem_cons_self)

variable {input : ConsumeActivationInput}

/-- A transaction that compares a code owes nothing yet. -/
theorem not_owes_of_readSlot (hsound : DevicesSound committed)
    (hprogram : session.program = readSlot host input done) (row : DeviceRow) :
    ¬Owes committed session row := by
  intro howes
  rcases howes.stands with ⟨htakes, -⟩ | ⟨hdone, -⟩
  · have hwrites := nextWrites_takeAttempt hsound howes.find howes.pending
    rw [← htakes, hprogram] at hwrites
    exact absurd hwrites (List.cons_ne_nil _ _).symm
  · exact absurd (hdone.symm.trans hprogram) nofun

/-- **After a wrong code** the transaction owes the slot an attempt. -/
theorem Stands.compares (hsound : DevicesSound committed) (h : Stands host committed session)
    (hprogram : session.program = readSlot host input done)
    (hfind : committed.find? input.activationId = some row) (hopen : row.IsOpen input.activatedAt)
    (hwrong : host.activationCodeMatches row.activationCodeHash input.activationCode = false) :
    ∃ next, session.advance committed = some next ∧ Owes committed next row := by
  have hid : row.id = input.activationId := Table.key_of_find? hfind
  have htake : compareCode host input (committed.find? input.activationId) done =
      takeAttempt row done := by
    rw [hfind]
    unfold compareCode
    simp only [hopen, hwrong, not_true_eq_false, if_false, Bool.false_eq_true, not_false_eq_true,
      if_true]
  have hwrites : session.writes = [] := by
    cases h with
    | lock _ _ _ writes => exact writes
    | read _ _ _ writes => exact writes
    | owes other owes => exact absurd owes (not_owes_of_readSlot hsound hprogram other)
    | quiet program =>
      rw [hprogram] at program
      have hquiet : Quiet (takeAttempt row done) := htake ▸ program.2 committed
      have htaken := nextWrites_takeAttempt hsound (hid ▸ hfind) hopen.1
      refine absurd hopen.1 ?_
      exact hquiet.nextWrites committed (taken row) (htaken ▸ List.mem_cons_self)
  obtain ⟨next, hnext, htakes⟩ : ∃ next, session.advance committed = some next ∧
      next.program = takeAttempt row done := by
    refine ⟨⟨takeAttempt row done, session.held ++ [], session.writes ++ []⟩, ?_, rfl⟩
    rw [← htake]
    unfold Session.advance
    rw [hprogram, Session.view, hwrites]
    rfl
  refine ⟨next, hnext, (h.advance hsound hnext).owes_of_nextWrites hsound (hid ▸ hfind) hopen.1 ?_⟩
  rw [htakes]
  exact nextWrites_takeAttempt hsound (hid ▸ hfind) hopen.1

end Advance

/-! ### The count -/

/-- Every session stands where its statements have brought it. -/
structure Counted (host : DeviceHost) (s : DeviceSystem) : Prop where
  inv : SystemInv devices False s
  stands : ∀ {i : Nat} {session}, s.sessions[i]? = some (some session) →
    Stands host s.committed session

section Count

variable {host : DeviceHost} {s : DeviceSystem}

theorem systemInv_step (h : SystemInv devices False s) (move : DeviceMove) :
    SystemInv devices False (deviceStep host move s).2 ∧
      Rely devices [] s.committed (deviceStep host move s).2.committed :=
  @step_sound _ _ _ _ _ _ _ devices False _ (DeviceCall.program host) (fun _ => True)
    (fun call _ _ _ => safe_call call) s h move (fun _ _ => trivial) nofun

/-- What the commit of a transaction is for another one. -/
theorem rely_of_commit (h : SystemInv devices False s) {i j : Nat} {session other : DeviceSession}
    {relies : Devices → Bool} (hij : i ≠ j) (hsession : s.sessions[i]? = some (some session))
    (hprogram : session.program = .commit relies) (hother : s.sessions[j]? = some (some other)) :
    Rely devices other.held s.committed (session.view s.committed) := by
  have hsafe := h.safe hsession
  rw [hprogram] at hsafe
  exact (hsafe s.committed .refl h.inv nofun).rely h.inv (h.disjoint hij hsession hother)

theorem Counted.step (h : Counted host s) (move : DeviceMove) :
    Counted host (deviceStep host move s).2 where
  inv := (systemInv_step h.inv move).1
  stands := by
    intro j other hother
    have hmoved := step_moved (DeviceCall.program host) move s
    change Moved _ s move (deviceStep host move s).2 at hmoved
    generalize deviceStep host move s = after at hmoved hother ⊢
    obtain ⟨output, after⟩ := after
    cases hmoved with
    | begun call =>
      rcases lt_or_ge j s.sessions.length with hj | hj
      · rw [List.getElem?_append_left hj] at hother
        exact h.stands hother
      · rw [List.getElem?_append_right hj, List.getElem?_singleton] at hother
        split_ifs at hother
        obtain rfl := Option.some.inj (Option.some.inj hother)
        cases call with
        | activate input => exact .lock input rfl rfl rfl
        | revoke id reason now => exact .quiet (quiet_check fun _ => quiet_revoke id reason now)
    | cancelled i =>
      rcases getElem?_set hother with ⟨-, hnone⟩ | ⟨-, hother⟩
      · exact absurd hnone (by simp)
      · exact h.stands hother
    | failed hsession hprogram =>
      rcases getElem?_set hother with ⟨-, hnone⟩ | ⟨-, hother⟩
      · exact absurd hnone (by simp)
      · exact h.stands hother
    | committed hsession hprogram =>
      rcases getElem?_set hother with ⟨-, hnone⟩ | ⟨hij, hother⟩
      · exact absurd hnone (by simp)
      · exact (h.stands hother).mono (rely_of_commit h.inv hij hsession hprogram hother)
    | advanced hsession hnext =>
      rcases getElem?_set hother with ⟨-, hsome⟩ | ⟨-, hother⟩
      · obtain rfl := Option.some.inj hsome
        exact (h.stands hsession).advance h.inv.inv hnext
      · exact h.stands hother
    | idle => exact h.stands hother

/-- At most so many wrong codes are compared with a slot from here on. -/
def Left (id : String) (n : Nat) (s : DeviceSystem) : Prop :=
  ∃ row, s.committed.find? id = some row ∧ (row.activationAttemptsRemaining ≤ n ∨
    ∃ (i : Nat) (session : DeviceSession), s.sessions[i]? = some (some session) ∧
      Owes s.committed session row ∧ row.activationAttemptsRemaining ≤ n + 1)

/-- A step in which no wrong code is compared; one that is cancelled may owe an attempt. -/
theorem Left.step (h : Counted host s) {n : Nat} (hleft : Left id n s) (move : DeviceMove) :
    Left id (if isCancelled move then n + 1 else n) (deviceStep host move s).2 := by
  obtain ⟨row, hfind, hleft⟩ := hleft
  have hle : n ≤ if isCancelled move then n + 1 else n := by
    split_ifs
    · exact Nat.le_succ n
    · exact Nat.le_refl n
  -- either the row has the attempts left, or a transaction owes it one
  rcases hleft with hattempts | ⟨i, session, hsession, howes, hattempts⟩
  · obtain ⟨new, hnew, hfollows⟩ := exists_of_rely (systemInv_step h.inv move).2 hfind
    exact ⟨new, hnew, .inl (Nat.le_trans hfollows.attempts (Nat.le_trans hattempts hle))⟩
  have hid : row.id = id := Table.key_of_find? hfind
  have hmoved := step_moved (DeviceCall.program host) move s
  change Moved _ s move (deviceStep host move s).2 at hmoved
  generalize deviceStep host move s = after at hmoved ⊢
  obtain ⟨output, after⟩ := after
  have hlength : i < s.sessions.length := (List.getElem?_eq_some_iff.mp hsession).1
  cases hmoved with
  | begun call =>
    refine ⟨row, hfind, .inr ⟨i, session, ?_, howes, hattempts⟩⟩
    exact (List.getElem?_append_left hlength).trans hsession
  | cancelled j => exact ⟨row, hfind, .inl hattempts⟩
  | @failed j other e hother hprogram =>
    have hij : j ≠ i := by
      rintro rfl
      obtain rfl : session = other := by simpa [hsession] using hother
      rcases howes.stands with ⟨htakes, -⟩ | ⟨hdone, -⟩
      · exact absurd (htakes.symm.trans hprogram) nofun
      · exact absurd (hdone.symm.trans hprogram) nofun
    refine ⟨row, hfind, .inr ⟨i, session, ?_, howes, hattempts⟩⟩
    exact (List.getElem?_set_ne hij).trans hsession
  -- the transaction that owes the attempt pays it, or another one leaves the locked row alone
  | @committed j other relies hother hprogram =>
    by_cases hij : j = i
    · subst hij
      obtain rfl : session = other := by simpa [hsession] using hother
      rcases howes.stands with ⟨htakes, -⟩ | ⟨-, hwrites⟩
      · exact absurd (htakes.symm.trans hprogram) nofun
      · refine ⟨taken row, ?_, .inl (Nat.sub_le_iff_le_add.mpr hattempts)⟩
        change (s.committed.putAll session.writes).find? id = _
        rw [hwrites, Table.putAll_cons, Table.putAll_nil, Table.find?_put]
        exact if_pos hid.symm
    · have hrely := rely_of_commit h.inv hij hother hprogram hsession
      have hkept := (hrely.find? howes.lock).trans howes.find
      refine ⟨row, hid ▸ hkept, .inr ⟨i, session, ?_, { howes with find := hkept }, hattempts⟩⟩
      exact (List.getElem?_set_ne hij).trans hsession
  | @advanced j other next hother hnext =>
    by_cases hij : j = i
    · subst hij
      obtain rfl : session = other := by simpa [hsession] using hother
      refine ⟨row, hfind, .inr ⟨j, next, ?_, howes.advance h.inv.inv hnext, hattempts⟩⟩
      exact List.getElem?_set_self hlength
    · refine ⟨row, hfind, .inr ⟨i, session, ?_, howes, hattempts⟩⟩
      exact (List.getElem?_set_ne hij).trans hsession
  | idle => exact ⟨row, hfind, .inr ⟨i, session, hsession, howes, hattempts⟩⟩

/-- A step in which a wrong code is compared. -/
theorem Left.compares (h : Counted host s) {n : Nat} (hleft : Left id n s) {move : DeviceMove}
    (hevent : ComparesWrongCode host id (Machine.stepOf (deviceStep host) s move)) :
    ∃ m, n = m + 1 ∧ Left id m (deviceStep host move s).2 := by
  obtain ⟨i, session, input, row, hinput, hsession, hprogram, rfl, hfind, hopen, hwrong⟩ := hevent
  change move = .execute i at hinput
  change s.sessions[i]? = some (some session) at hsession
  change s.committed.find? input.activationId = some row at hfind
  subst hinput
  obtain ⟨next, hnext, howes⟩ := (h.stands hsession).compares h.inv.inv hprogram hfind hopen hwrong
  have hid : row.id = input.activationId := Table.key_of_find? hfind
  have hlength : i < s.sessions.length := (List.getElem?_eq_some_iff.mp hsession).1
  have hafter : (deviceStep host (.execute i) s).2 =
      ⟨s.committed, s.sessions.set i (some next)⟩ := by
    have hmoved := step_moved (DeviceCall.program host) (.execute i) s
    change Moved _ s _ (deviceStep host (.execute i) s).2 at hmoved
    generalize (deviceStep host (.execute i) s).2 = after at hmoved ⊢
    cases hmoved with
    | @failed _ other e hother hrollback =>
      obtain rfl : session = other := by simpa [hsession] using hother
      exact absurd (hrollback.symm.trans hprogram) nofun
    | @committed _ other relies hother hcommit =>
      obtain rfl : session = other := by simpa [hsession] using hother
      exact absurd (hcommit.symm.trans hprogram) nofun
    | @advanced _ other next' hother hnext' =>
      obtain rfl : session = other := by simpa [hsession] using hother
      obtain rfl : next = next' := Option.some.inj (hnext.symm.trans hnext')
      rfl
    | idle hidle =>
      refine absurd ?_ (hidle session hsession)
      simp only [Session.needs, hprogram]
      rfl
  have hsession' : (deviceStep host (.execute i) s).2.sessions[i]? = some (some next) := by
    rw [hafter]
    exact List.getElem?_set_self hlength
  obtain ⟨other, hother, hleft⟩ := hleft
  obtain rfl : row = other := Option.some.inj (hfind.symm.trans hother)
  rcases hleft with hattempts | ⟨j, owing, howing, howes', -⟩
  · have hpositive := howes.attempts
    refine ⟨n - 1, by omega, row, by rw [hafter]; exact hfind,
      .inr ⟨i, next, hsession', ?_, by omega⟩⟩
    rw [hafter]
    exact howes
  · -- the slot would be locked twice
    have hij : i ≠ j := by
      rintro rfl
      obtain rfl : session = owing := by simpa [hsession] using howing
      exact not_owes_of_readSlot h.inv.inv hprogram row howes'
    have howing' : (deviceStep host (.execute i) s).2.sessions[j]? = some (some owing) := by
      rw [hafter]
      exact (List.getElem?_set_ne hij).trans howing
    exact absurd howes'.lock
      ((systemInv_step h.inv _).1.disjoint hij hsession' howing' _ howes.lock)

/-- **Attempts bound comparisons**, but for transactions that are given up. -/
theorem wrongCodes_le (h : Counted host s) {id : String} {n : Nat} (hleft : Left id n s)
    (moves : List DeviceMove) :
    wrongCodes host id (Machine.trace (deviceStep host) s moves) ≤ n + moves.countP
      isCancelled := by
  induction moves generalizing s n with
  | nil => exact Nat.zero_le _
  | cons move moves ih =>
    rw [Machine.trace, wrongCodes, List.countP_cons, List.countP_cons]
    by_cases hevent : ComparesWrongCode host id (Machine.stepOf (deviceStep host) s move)
    · obtain ⟨m, rfl, hleft'⟩ := hleft.compares h hevent
      have hrest := ih (h.step move) hleft'
      rw [wrongCodes] at hrest
      rw [if_pos (by simpa using hevent)]
      omega
    · have hrest := ih (h.step move) (hleft.step h move)
      rw [wrongCodes] at hrest
      rw [if_neg (by simpa using hevent)]
      split_ifs at hrest ⊢ <;> omega

end Count

/-! ### Slots in a run -/

/-- The slots after a run that starts with these. -/
def devicesAfter (host : DeviceHost) (db : Devices) (moves : List DeviceMove) : Devices :=
  (Machine.final (deviceStep host) (.start db) moves).committed

/-- A slot has been activated. -/
def WasActivated (id : String) (s : DeviceSystem) : Prop :=
  ∃ row, s.committed.find? id = some row ∧ row.lifecycle ≠ .pending

section Runs

variable {host : DeviceHost} {db : Devices}

/-- An activation finds an open slot and is the last one. -/
theorem activates_open {s : DeviceSystem} (h : SystemInv devices False s) {move : DeviceMove}
    (hevent : activates id (Machine.stepOf (deviceStep host) s move)) :
    ∃ old new, s.committed.find? id = some old ∧
      (deviceStep host move s).2.committed.find? id = some new ∧ new.lifecycle = .active ∧
      ∃ now ∈ new.activatedAt, old.IsOpen now := by
  simp only [activates, Bool.and_eq_true, Option.any_eq_true, decide_eq_true_eq] at hevent
  obtain ⟨⟨old, hold, hnot⟩, new, hnew, hactive⟩ := hevent
  change s.committed.find? id = some old at hold
  change (deviceStep host move s).2.committed.find? id = some new at hnew
  obtain ⟨other, hother, hfollows⟩ := find?_of_rely (systemInv_step h move).2 hnew
  obtain rfl : old = other := Option.some.inj (hold.symm.trans hother)
  exact ⟨old, new, hold, hnew, hactive, hfollows.activated hnot hactive⟩

theorem activates_le_one (hdb : DevicesSound db) (id : String) (moves : List DeviceMove) :
    (Machine.trace (deviceStep host) (.start db) moves).countP (activates id) ≤ 1 := by
  refine @Machine.countP_le_one _ _ _ (deviceStep host) (SystemInv devices False)
    (WasActivated id) (activates id) (fun move s h => (systemInv_step h move).1) ?_ ?_ ?_ _
    (SystemInv.start hdb) moves
  · rintro move s h ⟨row, hrow, hlifecycle⟩
    obtain ⟨new, hnew, hfollows⟩ := exists_of_rely (systemInv_step h move).2 hrow
    exact ⟨new, hnew, fun hpending => hlifecycle (hfollows.pending hpending)⟩
  · rintro move s h hevent ⟨row, hrow, hlifecycle⟩
    obtain ⟨old, new, hold, -, -, now, -, hpending, -⟩ := activates_open h hevent
    obtain rfl : row = old := Option.some.inj (hrow.symm.trans hold)
    exact hlifecycle hpending
  · intro move s h hevent
    obtain ⟨old, new, -, hnew, hactive, -⟩ := activates_open h hevent
    exact ⟨new, hnew, by rw [hactive]; decide⟩

theorem run_committed (hdb : DevicesSound db) (moves later : List DeviceMove) :
    DevicesSound (devicesAfter host db moves) ∧
      Rely devices [] (devicesAfter host db moves) (devicesAfter host db (moves ++ later)) := by
  obtain ⟨hinv, -, hrely⟩ := @run_sound _ _ _ _ _ _ _ devices False _ (DeviceCall.program host)
    (fun _ => True) (fun call _ _ _ => safe_call call) db hdb moves later (fun _ _ => trivial)
    False.elim
  exact ⟨hinv, hrely⟩

/-- An identity stays with its slot, and no other slot ever has it. -/
theorem identity_once (hdb : DevicesSound db) (moves later : List DeviceMove) {a b : DeviceRow}
    (ha : a ∈ devicesAfter host db moves) (hb : b ∈ devicesAfter host db (moves ++ later))
    (hidentity : ∃ e ∈ a.entries, e ∈ b.entries) : a.id = b.id := by
  obtain ⟨-, hrely⟩ := @run_committed host db hdb moves later
  obtain ⟨hlater, -⟩ := @run_committed host db hdb (moves ++ later) []
  obtain ⟨new, hnew, hfollows⟩ := exists_of_rely hrely (Table.find?_of_mem ha)
  obtain ⟨e, hea, heb⟩ := hidentity
  have henew : e ∈ new.entries := by
    simp only [DeviceRow.entries, List.mem_append, Option.mem_toList,
      Option.map_eq_some_iff] at hea ⊢
    rcases hea with ⟨n, hn, rfl⟩ | ⟨k, hk, rfl⟩
    · exact .inl ⟨n, hfollows.nodeId n hn, rfl⟩
    · exact .inr ⟨k, hfollows.keyThumbprint k hk, rfl⟩
  by_contra hne
  have hid : new.id ≠ b.id := fun h => hne (hfollows.id.symm.trans h)
  exact hlater.unique new (Table.mem_of_find? hnew) b hb hid e henew heb

theorem nodeId_mem_entries {n : String} (h : row.nodeId = some n) : .nodeId n ∈ row.entries := by
  simp [DeviceRow.entries, h]

theorem keyThumbprint_mem_entries {k : String} (h : row.nodeKeyThumbprint = some k) :
    .nodeKeyThumbprint k ∈ row.entries := by
  simp [DeviceRow.entries, h]

theorem findActiveByNodeId_eq_some {a : Devices} (ha : DevicesSound a) {nodeId : String}
    {slot : DeviceRow} :
    findActiveByNodeId a nodeId = some slot ↔ slot ∈ a ∧ slot.nodeId = some nodeId ∧
      slot.lifecycle = .active ∧ slot.revokedAt = none := by
  have honce : ∀ b ∈ a, ∀ c ∈ a, b.nodeId = some nodeId → c.nodeId = some nodeId → b = c := by
    intro b hb c hc hbn hcn
    refine Table.eq_of_key_eq hb hc ?_
    by_contra hne
    exact ha.unique b hb c hc hne _ (nodeId_mem_entries hbn) (nodeId_mem_entries hcn)
  constructor
  · intro h
    have htest := List.find?_some h
    simp only [Bool.and_eq_true, decide_eq_true_eq, Option.isNone_iff_eq_none] at htest
    exact ⟨List.mem_of_find?_eq_some h, htest.1.1, htest.1.2, htest.2⟩
  · rintro ⟨hmem, hnode, hactive, hrevoked⟩
    obtain ⟨other, hother⟩ := Option.isSome_iff_exists.mp
      (List.find?_isSome.mpr ⟨slot, hmem, by simp [hnode, hactive, hrevoked]⟩ :
        (findActiveByNodeId a nodeId).isSome)
    have htest := List.find?_some hother
    simp only [Bool.and_eq_true, decide_eq_true_eq] at htest
    rw [honce slot hmem other (List.mem_of_find?_eq_some hother) hnode htest.1.1]
    exact hother

/-- What holds of a slot in a run, and in its continuation. -/
structure SingleUse (host : DeviceHost) (db : Devices) (moves later : List DeviceMove)
    (id : String) : Prop where
  once : (Machine.trace (deviceStep host) (.start db) moves).countP (activates id) ≤ 1
  onlyOpen : ∀ t ∈ Machine.trace (deviceStep host) (.start db) moves, activates id t →
    ∃ old new, t.before.committed.find? id = some old ∧ t.after.committed.find? id = some new ∧
      ∃ now ∈ new.activatedAt, old.IsOpen now
  compared : ∀ slot, db.find? id = some slot →
    wrongCodes host id (Machine.trace (deviceStep host) (.start db) moves) ≤
      slot.activationAttemptsRemaining + moves.countP isCancelled
  identity : ∀ a ∈ devicesAfter host db moves, ∀ b ∈ devicesAfter host db (moves ++ later),
    (∃ n, a.nodeId = some n ∧ b.nodeId = some n) ∨
      (∃ k, a.nodeKeyThumbprint = some k ∧ b.nodeKeyThumbprint = some k) → a.id = b.id
  revoked : ∀ slot, (devicesAfter host db moves).find? id = some slot → slot.lifecycle = .revoked →
    ∃ last, (devicesAfter host db (moves ++ later)).find? id = some last ∧ last.lifecycle = .revoked
  active : ∀ nodeId slot, findActiveByNodeId (devicesAfter host db moves) nodeId = some slot ↔
    slot ∈ devicesAfter host db moves ∧ slot.nodeId = some nodeId ∧ slot.lifecycle = .active ∧
      slot.revokedAt = none

/-- **Activation is single-use and bounded**, in every run of attempts and revocations.  A
transaction that is given up may have compared a code without taking an attempt off. -/
theorem activation_single_use (host : DeviceHost) {db : Devices} (hdb : DevicesSound db)
    (moves later : List DeviceMove) (id : String) : SingleUse host db moves later id where
  once := activates_le_one hdb id moves
  onlyOpen t ht hevent := by
    have hinv := (@Machine.invariant _ _ _ (deviceStep host) (SystemInv devices False)
      (fun _ => True)
      (fun move s h _ => (systemInv_step h move).1) _ (SystemInv.start hdb) moves
      fun _ _ => trivial).2 t ht
    have hstep := Machine.eq_stepOf_of_mem ht
    rw [hstep] at hevent
    obtain ⟨old, new, hold, hnew, -, hopen⟩ := activates_open hinv.1 hevent
    refine ⟨old, new, hold, ?_, hopen⟩
    rw [hstep]
    exact hnew
  compared slot hslot := by
    have hcounted : Counted host (.start db) :=
      ⟨SystemInv.start hdb, fun h => absurd h (by simp [System.start])⟩
    exact wrongCodes_le hcounted ⟨slot, hslot, .inl (Nat.le_refl _)⟩ moves
  identity a ha b hb hidentity := by
    refine identity_once hdb moves later ha hb ?_
    rcases hidentity with ⟨n, han, hbn⟩ | ⟨k, hak, hbk⟩
    · exact ⟨_, nodeId_mem_entries han, nodeId_mem_entries hbn⟩
    · exact ⟨_, keyThumbprint_mem_entries hak, keyThumbprint_mem_entries hbk⟩
  revoked slot hslot hrevoked := by
    obtain ⟨last, hlast, hfollows⟩ := exists_of_rely (run_committed hdb moves later).2 hslot
    exact ⟨last, hlast, hfollows.revoked hrevoked⟩
  active nodeId slot := findActiveByNodeId_eq_some (run_committed hdb moves later).1

end Runs

/-! ### A slot and two attempts -/

def sampleHost : DeviceHost where
  hashActivationCode code := some ("sha256:" ++ code)
  hashtextextended _ := 0

def sampleSlot : DeviceRow where
  id := "slot"
  lifecycle := .pending
  activationCodeHash := "sha256:right"
  activationExpiresAt := 1000
  activationAttemptsRemaining := 2
  nodeId := none
  nodePublicKeySpki := none
  nodeKeyThumbprint := none
  activatedAt := none
  revokedAt := none
  revocationReason := none
  createdAt := 0

def sampleDevices : Devices := Table.empty.put sampleSlot

theorem sampleDevices_sound : DevicesSound sampleDevices where
  meets row hrow := by
    rcases mem_put.mp hrow with rfl | ⟨hempty, -⟩
    · decide
    · exact absurd hempty (Table.not_mem_empty row)
  unique a ha b hb hne := by
    rcases mem_put.mp ha with rfl | ⟨hempty, -⟩
    · rcases mem_put.mp hb with rfl | ⟨hempty, -⟩
      · exact absurd rfl hne
      · exact absurd hempty (Table.not_mem_empty b)
    · exact absurd hempty (Table.not_mem_empty a)

def sampleAttempt (activationCode : String) : DeviceCall :=
  .activate
    { nodeId := "node"
      publicKeySpki := "key"
      keyThumbprint := "node"
      activationId := "slot"
      activationCode
      activatedAt := 10 }

/-- A wrong and a right code at once; the second attempt waits for the slot. -/
def sampleMoves : List DeviceMove :=
  [.begin (sampleAttempt "wrong"), .begin (sampleAttempt "right"), .execute 0, .execute 1,
    .execute 0, .execute 1, .execute 0, .execute 0] ++ List.replicate 6 (.execute 1)

def sampleRevocation : List DeviceMove :=
  .begin (.revoke "slot" "device_replaced" 20) :: List.replicate 4 (.execute 2)

theorem sampleDevices_singleUse :
    SingleUse sampleHost sampleDevices sampleMoves sampleRevocation "slot" ∧
      (findActiveByNodeId (devicesAfter sampleHost sampleDevices sampleMoves) "node").map (·.id) =
        some "slot" ∧
      findActiveByNodeId (devicesAfter sampleHost sampleDevices (sampleMoves ++ sampleRevocation))
        "node" = none :=
  ⟨activation_single_use sampleHost sampleDevices_sound sampleMoves sampleRevocation "slot",
    by decide, by decide⟩

end Frely.PiTunnel
