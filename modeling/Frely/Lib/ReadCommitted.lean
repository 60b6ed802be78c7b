import Frely.Lib.Machine
import Frely.Lib.Table
import Mathlib.Logic.Relation

/-!
# Concurrent transactions at READ COMMITTED

A database is a table of keyed rows.  A transaction is a program of statements; every statement
sees the committed rows and its own writes, takes locks on rows and on entries of unique indexes,
and waits while another transaction holds one of them.  A lock is kept until the transaction ends,
and its writes are seen by others once it commits.

Proofs about all interleavings are by rely and guarantee.  A `Discipline` says by its `Effect`s
what a transaction may do to the database at once, given the locks it holds.  `Safe` is what one
program has to satisfy: whatever effects of others, on rows it has not locked, come between its
statements, its writes are a sequence of effects when it commits.  `run_sound` is the result: when
all programs are safe, the committed databases of a run are reached by effects alone, so what the
effects keep holds of all of them.

A statement may also note what the program counts on without a lock (`relies`).  This has no
effect on execution; a run is `Orderly` when everything counted on holds at the moment it is used.
-/

namespace Table

variable {ρ κ : Type} [Keyed ρ κ] [DecidableEq κ]

/-- Puts rows one after the other. -/
def putAll (t : Table ρ) (rows : List ρ) : Table ρ := rows.foldl put t

@[simp] theorem putAll_nil (t : Table ρ) : t.putAll [] = t := rfl

@[simp] theorem putAll_cons (t : Table ρ) (row : ρ) (rows : List ρ) :
    t.putAll (row :: rows) = (t.put row).putAll rows := rfl

theorem putAll_append (t : Table ρ) (rows rows' : List ρ) :
    t.putAll (rows ++ rows') = (t.putAll rows).putAll rows' :=
  List.foldl_append

/-- Rows put under other keys change nothing under this one. -/
theorem find?_putAll_of_ne {t : Table ρ} {k : κ} {rows : List ρ}
    (h : ∀ row ∈ rows, Keyed.key row ≠ k) : (t.putAll rows).find? k = t.find? k := by
  induction rows generalizing t with
  | nil => rfl
  | cons row rows ih =>
    rw [putAll_cons, ih fun other hother => h other (List.mem_cons_of_mem _ hother), find?_put,
      if_neg fun hk => h row List.mem_cons_self hk.symm]

end Table

namespace ReadCommitted

open Relation

variable {ρ κ ι ε α β γ : Type}

/-- A lock on the row of a key or on an entry of a unique index. -/
inductive Lock (κ ι : Type) where
  | row (key : κ)
  | entry (entry : ι)
deriving DecidableEq

/-- The entries of the unique indexes that a row takes. -/
class Indexed (ρ : Type) (ι : outParam Type) where
  entries : ρ → List ι

/-! ### Programs -/

section Programs

variable [Keyed ρ κ]

/-- What a transaction still has to do.  The locks a statement needs, the rows it writes and what
comes after it depend on the database it sees. -/
inductive Program (ρ κ ι ε : Type) [Keyed ρ κ] where
  | commit (relies : Table ρ → Bool)
  | rollback (error : ε)
  | statement (relies : Table ρ → Bool) (locks : Table ρ → List (Lock κ ι))
      (writes : Table ρ → List ρ) (next : Table ρ → Program ρ κ ι ε)

/-- What the next step of a program counts on. -/
def Program.relies : Program ρ κ ι ε → Table ρ → Bool
  | .commit relies => relies
  | .rollback _ => fun _ => true
  | .statement relies .. => relies

/-- A part of a transaction that answers with an `α`. -/
def Query (ρ κ ι ε : Type) [Keyed ρ κ] (α : Type) : Type :=
  (α → Program ρ κ ι ε) → Program ρ κ ι ε

instance : Monad (Query ρ κ ι ε) where
  pure a := fun k => k a
  bind q f := fun k => q fun a => f a k

/-- A plain `SELECT`. -/
def select (f : Table ρ → α) : Query ρ κ ι ε α := fun k =>
  .statement (fun _ => true) (fun _ => []) (fun _ => []) fun db => k (f db)

/-- A computation without a statement. -/
def check (x : Except ε α) : Query ρ κ ι ε α := fun k =>
  match x with
  | .ok a => k a
  | .error e => .rollback e

def fail (e : ε) : Query ρ κ ι ε α := fun _ => .rollback e

variable [DecidableEq κ]

/-- `SELECT … WHERE` key `FOR UPDATE`. -/
def selectForUpdate (key : κ) : Query ρ κ ι ε (Option ρ) := fun k =>
  .statement (fun _ => true) (fun db => if (db.find? key).isSome then [.row key] else [])
    (fun _ => []) fun db => k (db.find? key)

/-- A lock that stands for no row, such as an advisory lock. -/
def lockEntry (entry : ι) : Query ρ κ ι ε Unit := fun k =>
  .statement (fun _ => true) (fun _ => [.entry entry]) (fun _ => []) fun _ => k ()

variable [Indexed ρ ι] [DecidableEq ι]

/-- Another row has one of the index entries. -/
def conflicts (db : Table ρ) (row : ρ) : Bool :=
  db.rows.any fun other => Keyed.key other ≠ Keyed.key row &&
    (Indexed.entries other).any (· ∈ Indexed.entries row)

/-- The locks of a row that is written. -/
def locksOf (row : ρ) : List (Lock κ ι) :=
  .row (Keyed.key row) :: (Indexed.entries row).map .entry

/-- What an `UPDATE` does to the row of its key: nothing, when the `WHERE` fails, or the new row,
unless a trigger refuses it. -/
def updated (key : κ) (set : Table ρ → ρ → Except ε (Option ρ)) (db : Table ρ) :
    Except ε (Option ρ) :=
  match db.find? key with
  | none => .ok none
  | some row => set db row

/-- The rows that an `UPDATE` writes. -/
def written (result : Except ε (Option ρ)) : List ρ :=
  match result with
  | .ok (some row) => [row]
  | _ => []

/-- `UPDATE … WHERE` key `RETURNING *`.  The row that is locked is the one that is tested and
rewritten, also when a transaction that had the lock has changed it in the meantime. -/
def updateRelying (relies : Table ρ → Bool) (violated : ε) (key : κ)
    (set : Table ρ → ρ → Except ε (Option ρ)) : Query ρ κ ι ε (Option ρ) := fun k =>
  .statement relies (fun db => (written (updated key set db)).flatMap locksOf)
    (fun db => written (updated key set db)) fun db =>
      if (written (updated key set db)).any (conflicts db) then .rollback violated
      else check (updated key set db) k

def update (violated : ε) (key : κ) (set : Table ρ → ρ → Except ε (Option ρ)) :
    Query ρ κ ι ε (Option ρ) :=
  updateRelying (fun _ => true) violated key set

end Programs

/-! ### The system -/

section System

variable [Keyed ρ κ] [DecidableEq κ] [DecidableEq ι]

/-- An open transaction: the locks it holds and the rows it has written. -/
structure Session (ρ κ ι ε : Type) [Keyed ρ κ] where
  program : Program ρ κ ι ε
  held : List (Lock κ ι)
  writes : List ρ

/-- What an open transaction sees. -/
def Session.view (session : Session ρ κ ι ε) (committed : Table ρ) : Table ρ :=
  committed.putAll session.writes

/-- The committed rows, and the transactions begun so far; those that have ended are `none`. -/
structure System (ρ κ ι ε : Type) [Keyed ρ κ] where
  committed : Table ρ
  sessions : List (Option (Session ρ κ ι ε))

namespace System

def start (db : Table ρ) : System ρ κ ι ε := ⟨db, []⟩

def heldByOthers (s : System ρ κ ι ε) (i : Nat) : List (Lock κ ι) :=
  ((s.sessions.eraseIdx i).filterMap id).flatMap Session.held

def close (s : System ρ κ ι ε) (i : Nat) (committed : Table ρ) : System ρ κ ι ε :=
  ⟨committed, s.sessions.set i none⟩

end System

inductive Move (γ : Type) where
  /-- a transaction begins -/
  | begin (call : γ)
  /-- a transaction takes its next step, or waits -/
  | execute (i : Nat)
  /-- a transaction is given up: a timeout, a deadlock, a lost connection -/
  | cancel (i : Nat)
deriving DecidableEq

inductive Outcome (ε : Type) where
  | ran
  | waiting
  | committed
  | failed (error : ε)

/-- The next step of a transaction. -/
def System.execute (s : System ρ κ ι ε) (i : Nat) (session : Session ρ κ ι ε) :
    Outcome ε × System ρ κ ι ε :=
  match session.program with
  | .commit _ => (.committed, s.close i (session.view s.committed))
  | .rollback e => (.failed e, s.close i s.committed)
  | .statement _ locks writes next =>
    let view := session.view s.committed
    if (locks view).any (· ∈ s.heldByOthers i) then (.waiting, s)
    else
      let rest := ⟨next view, session.held ++ locks view, session.writes ++ writes view⟩
      (.ran, ⟨s.committed, s.sessions.set i (some rest)⟩)

variable (programs : γ → Program ρ κ ι ε)

def step : Move γ → System ρ κ ι ε → Outcome ε × System ρ κ ι ε
  | .begin call, s => (.ran, { s with sessions := s.sessions ++ [some ⟨programs call, [], []⟩] })
  | .cancel i, s => (.ran, s.close i s.committed)
  | .execute i, s =>
    match s.sessions[i]? with
    | some (some session) => s.execute i session
    | _ => (.ran, s)

/-- An open transaction after its next statement. -/
def Session.advance (session : Session ρ κ ι ε) (committed : Table ρ) :
    Option (Session ρ κ ι ε) :=
  match session.program with
  | .statement _ locks writes next =>
    let view := session.view committed
    some ⟨next view, session.held ++ locks view, session.writes ++ writes view⟩
  | _ => none

/-- The locks that an open transaction needs for its next statement. -/
def Session.needs (session : Session ρ κ ι ε) (committed : Table ρ) : List (Lock κ ι) :=
  match session.program with
  | .statement _ locks _ _ => locks (session.view committed)
  | _ => []

/-- What one move does. -/
inductive Moved (s : System ρ κ ι ε) : Move γ → System ρ κ ι ε → Prop where
  | begun (call : γ) :
    Moved s (.begin call) { s with sessions := s.sessions ++ [some ⟨programs call, [], []⟩] }
  | cancelled (i : Nat) : Moved s (.cancel i) (s.close i s.committed)
  | failed {i : Nat} {session : Session ρ κ ι ε} {e : ε}
    (hsession : s.sessions[i]? = some (some session)) (hprogram : session.program = .rollback e) :
    Moved s (.execute i) (s.close i s.committed)
  | committed {i : Nat} {session : Session ρ κ ι ε} {relies : Table ρ → Bool}
    (hsession : s.sessions[i]? = some (some session))
    (hprogram : session.program = .commit relies) :
    Moved s (.execute i) (s.close i (session.view s.committed))
  | advanced {i : Nat} {session next : Session ρ κ ι ε}
    (hsession : s.sessions[i]? = some (some session))
    (hnext : session.advance s.committed = some next) :
    Moved s (.execute i) ⟨s.committed, s.sessions.set i (some next)⟩
  /-- The transaction has ended, or waits for a lock. -/
  | idle {i : Nat} (hidle : ∀ session, s.sessions[i]? = some (some session) →
      session.needs s.committed ≠ []) : Moved s (.execute i) s

theorem step_moved (move : Move γ) (s : System ρ κ ι ε) :
    Moved programs s move (step programs move s).2 := by
  cases move with
  | begin call => exact .begun call
  | cancel i => exact .cancelled i
  | execute i =>
    simp only [step]
    cases hslot : s.sessions[i]? with
    | none => exact .idle fun session h => absurd (hslot.symm.trans h) (by simp)
    | some slot =>
      cases slot with
      | none => exact .idle fun session h => absurd (hslot.symm.trans h) (by simp)
      | some session =>
        dsimp only
        cases hprogram : session.program with
        | commit relies =>
          simp only [System.execute, hprogram]
          exact .committed hslot hprogram
        | rollback e =>
          simp only [System.execute, hprogram]
          exact .failed hslot hprogram
        | statement relies locks writes next =>
          simp only [System.execute, hprogram]
          split_ifs with hblocked
          · refine .idle fun other hother hnone => ?_
            obtain rfl : session = other := by simpa [hslot] using hother
            simp only [Session.needs, hprogram] at hnone
            rw [hnone] at hblocked
            exact absurd hblocked (by simp)
          · exact .advanced hslot (by simp only [Session.advance, hprogram])

/-- The databases that a run goes through. -/
def run (db : Table ρ) (moves : List (Move γ)) : System ρ κ ι ε :=
  Machine.final (step programs) (.start db) moves

/-- What a transaction counts on holds when it takes its next step. -/
def OrderlyMove (s : System ρ κ ι ε) : Move γ → Bool
  | .execute i =>
    match s.sessions[i]? with
    | some (some session) => session.program.relies (session.view s.committed)
    | _ => true
  | _ => true

/-- Every step of a run that did not have to wait finds what its transaction counts on. -/
def Orderly (db : Table ρ) (moves : List (Move γ)) : Prop :=
  ∀ t ∈ Machine.trace (step programs) (.start db) moves,
    t.output matches .waiting ∨ OrderlyMove t.before t.input = true

end System

/-! ### Disciplines -/

section Discipline

variable [Keyed ρ κ] [DecidableEq κ]

/-- What transactions may do to the database at once with the locks they hold, and what holds of
every database that is reached so. -/
structure Discipline (ρ κ ι : Type) [Keyed ρ κ] [DecidableEq κ] where
  Effect : List (Lock κ ι) → Table ρ → List ρ → Prop
  Inv : Table ρ → Prop
  framed : ∀ {held db rows}, Effect held db rows → ∀ row ∈ rows, Lock.row (Keyed.key row) ∈ held
  mono : ∀ {held held' db rows}, (∀ l ∈ held, l ∈ held') → Effect held db rows →
    Effect held' db rows
  keeps : ∀ {held db rows}, Inv db → Effect held db rows → Inv (db.putAll rows)

variable (D : Discipline ρ κ ι)

/-- Effects one after the other. -/
inductive Lawful (held : List (Lock κ ι)) (db : Table ρ) : List ρ → Prop where
  | nil : Lawful held db []
  | snoc {ws rows : List ρ} : Lawful held db ws → D.Effect held (db.putAll ws) rows →
      Lawful held db (ws ++ rows)

/-- One effect of a transaction that holds none of these locks. -/
def Interferes (held : List (Lock κ ι)) (db db' : Table ρ) : Prop :=
  D.Inv db ∧ ∃ locks rows, (∀ l ∈ locks, l ∉ held) ∧ D.Effect locks db rows ∧ db' = db.putAll rows

/-- What the database can become while a transaction holds these locks. -/
def Rely (held : List (Lock κ ι)) : Table ρ → Table ρ → Prop := ReflTransGen (Interferes D held)

/-- The writes of a transaction are effects, now and as long as it does nothing more, where the
committed rows are as the transaction counts on. -/
def Committable (A : Table ρ → Prop) (held : List (Lock κ ι)) (ws : List ρ) (db : Table ρ) : Prop :=
  ∀ db', Rely D held db db' → D.Inv db' → A db' → Lawful D held db' ws

/-- The rest of a transaction, with the locks it holds and the rows it has written, commits
effects only. -/
def Safe (orderly : Prop) : Program ρ κ ι ε → List (Lock κ ι) → List ρ → Table ρ → Prop
  | .commit relies, held, ws, db => ∀ db', Rely D held db db' → D.Inv db' →
      (orderly → relies (db'.putAll ws) = true) → Lawful D held db' ws
  | .rollback _, _, _, _ => True
  | .statement relies locks writes next, held, ws, db => ∀ db', Rely D held db db' → D.Inv db' →
      (orderly → relies (db'.putAll ws) = true) →
      Safe orderly (next (db'.putAll ws)) (held ++ locks (db'.putAll ws))
        (ws ++ writes (db'.putAll ws)) db'

variable {D} {held held' : List (Lock κ ι)} {ws ws' rows : List ρ} {db db' : Table ρ}
  {A : Table ρ → Prop}

theorem Lawful.keeps (hdb : D.Inv db) (h : Lawful D held db ws) : D.Inv (db.putAll ws) := by
  induction h with
  | nil => exact hdb
  | snoc _ heffect ih =>
    rw [Table.putAll_append]
    exact D.keeps ih heffect

/-- A transaction that holds other locks interferes by effects when it commits. -/
theorem Lawful.rely (hdb : D.Inv db) (h : Lawful D held db ws) (hdisjoint : ∀ l ∈ held, l ∉ held') :
    Rely D held' db (db.putAll ws) := by
  induction h with
  | nil => exact .refl
  | snoc hws heffect ih =>
    refine ih.tail ⟨hws.keeps hdb, held, _, hdisjoint, heffect, ?_⟩
    rw [Table.putAll_append]

/-- What every effect of others keeps stays true. -/
theorem Rely.stable {P : Table ρ → Prop}
    (hstep : ∀ {locks db rows}, D.Inv db → (∀ l ∈ locks, l ∉ held) → D.Effect locks db rows → P db →
      P (db.putAll rows)) (h : Rely D held db db') (hP : P db) : P db' := by
  induction h with
  | refl => exact hP
  | tail _ hlast ih =>
    obtain ⟨hinv, _, _, hdisjoint, heffect, rfl⟩ := hlast
    exact hstep hinv hdisjoint heffect ih

/-- A locked row stays as it is. -/
theorem Rely.find? (h : Rely D held db db') {k : κ} (hk : Lock.row k ∈ held) :
    db'.find? k = db.find? k := by
  refine h.stable (P := fun a => a.find? k = db.find? k) ?_ rfl
  intro locks a rows _ hdisjoint heffect ha
  rw [Table.find?_putAll_of_ne, ha]
  rintro row hrow rfl
  exact hdisjoint _ (D.framed heffect row hrow) hk

theorem committable_nil : Committable D A held [] db := fun _ _ _ _ => .nil

/-- One more effect, on what a transaction sees that satisfies the invariant. -/
theorem Committable.snoc (h : Committable D A held ws db)
    (heffect : ∀ later, Rely D held db later → D.Inv later → D.Inv (later.putAll ws) → A later →
      D.Effect held (later.putAll ws) rows) : Committable D A held (ws ++ rows) db := by
  intro later hlater hinv ha
  have hlawful := h later hlater hinv ha
  exact .snoc hlawful (heffect later hlater hinv (hlawful.keeps hinv) ha)

end Discipline

/-! ### The rules of safety -/

section Rules

variable [Keyed ρ κ] [DecidableEq κ] {D : Discipline ρ κ ι} {orderly : Prop}
  {held : List (Lock κ ι)} {ws : List ρ} {db db' : Table ρ} {k : α → Program ρ κ ι ε}

theorem Safe.mono {p : Program ρ κ ι ε} (h : Safe D orderly p held ws db)
    (hrely : Rely D held db db') : Safe D orderly p held ws db' := by
  cases p with
  | commit relies => exact fun later hlater => h later (hrely.trans hlater)
  | rollback e => trivial
  | statement relies locks writes next => exact fun later hlater => h later (hrely.trans hlater)

theorem safe_check {x : Except ε α} (h : ∀ a, x = .ok a → Safe D orderly (k a) held ws db) :
    Safe D orderly (check x k) held ws db := by
  cases x with
  | ok a => exact h a rfl
  | error e => trivial

theorem safe_select {f : Table ρ → α}
    (h : ∀ db', Rely D held db db' → D.Inv db' →
      Safe D orderly (k (f (db'.putAll ws))) held ws db') :
    Safe D orderly (select f k) held ws db := by
  intro later hlater hinv _
  rw [List.append_nil, List.append_nil]
  exact h later hlater hinv

theorem safe_selectForUpdate {key : κ} {k : Option ρ → Program ρ κ ι ε}
    (hnone : ∀ db', Rely D held db db' → D.Inv db' → (db'.putAll ws).find? key = none →
      Safe D orderly (k none) held ws db')
    (hsome : ∀ db' row, Rely D held db db' → D.Inv db' → (db'.putAll ws).find? key = some row →
      Safe D orderly (k (some row)) (held ++ [.row key]) ws db') :
    Safe D orderly (selectForUpdate key k) held ws db := by
  intro later hlater hinv _
  cases hfind : (later.putAll ws).find? key with
  | none =>
    simp only [hfind, Option.isSome_none, Bool.false_eq_true, if_false, List.append_nil]
    exact hnone later hlater hinv hfind
  | some row =>
    simp only [hfind, Option.isSome_some, if_true, List.append_nil]
    exact hsome later row hlater hinv hfind

theorem safe_lockEntry {entry : ι} {k : Unit → Program ρ κ ι ε}
    (h : ∀ db', Rely D held db db' → D.Inv db' →
      Safe D orderly (k ()) (held ++ [.entry entry]) ws db') :
    Safe D orderly (lockEntry entry k) held ws db := by
  intro later hlater hinv _
  rw [List.append_nil]
  exact h later hlater hinv

theorem Committable.safe {A : Table ρ → Prop} {relies : Table ρ → Bool}
    (h : Committable D A held ws db)
    (ha : ∀ later, (orderly → relies (later.putAll ws) = true) → A later) :
    Safe D orderly (.commit relies : Program ρ κ ι ε) held ws db :=
  fun later hlater hinv hrelies => h later hlater hinv (ha later hrelies)

variable [Indexed ρ ι] [DecidableEq ι]

theorem safe_updateRelying {relies : Table ρ → Bool} {violated : ε} {key : κ}
    {set : Table ρ → ρ → Except ε (Option ρ)} {k : Option ρ → Program ρ κ ι ε}
    (hnone : ∀ db', Rely D held db db' → D.Inv db' → updated key set (db'.putAll ws) = .ok none →
      Safe D orderly (k none) held ws db')
    (hsome : ∀ db' old new, Rely D held db db' → D.Inv db' →
      (orderly → relies (db'.putAll ws) = true) → (db'.putAll ws).find? key = some old →
      set (db'.putAll ws) old = .ok (some new) → conflicts (db'.putAll ws) new = false →
      Safe D orderly (k (some new)) (held ++ locksOf new) (ws ++ [new]) db') :
    Safe D orderly (updateRelying relies violated key set k) held ws db := by
  intro later hlater hinv hrelies
  dsimp only
  split_ifs with hconflict
  · trivial
  · apply safe_check
    intro result hresult
    cases result with
    | none =>
      simp only [hresult, written, List.flatMap_nil, List.append_nil]
      exact hnone later hlater hinv hresult
    | some new =>
      simp only [hresult, written, List.any_cons, List.any_nil, Bool.or_false,
        Bool.not_eq_true] at hconflict
      simp only [hresult, written, List.flatMap_cons, List.flatMap_nil, List.append_nil]
      cases hfind : (later.putAll ws).find? key with
      | none => simp [updated, hfind] at hresult
      | some old =>
        refine hsome later old new hlater hinv hrelies hfind ?_ hconflict
        simpa [updated, hfind] using hresult

theorem safe_update {violated : ε} {key : κ} {set : Table ρ → ρ → Except ε (Option ρ)}
    {k : Option ρ → Program ρ κ ι ε}
    (hnone : ∀ db', Rely D held db db' → D.Inv db' → updated key set (db'.putAll ws) = .ok none →
      Safe D orderly (k none) held ws db')
    (hsome : ∀ db' old new, Rely D held db db' → D.Inv db' →
      (db'.putAll ws).find? key = some old → set (db'.putAll ws) old = .ok (some new) →
      conflicts (db'.putAll ws) new = false →
      Safe D orderly (k (some new)) (held ++ locksOf new) (ws ++ [new]) db') :
    Safe D orderly (update violated key set k) held ws db :=
  safe_updateRelying hnone fun later old new hlater hinv _ => hsome later old new hlater hinv

end Rules

/-! ### Runs -/

section Runs

variable [Keyed ρ κ]

theorem mem_heldByOthers {s : System ρ κ ι ε} {i j : Nat} {other : Session ρ κ ι ε} (hij : i ≠ j)
    (hother : s.sessions[j]? = some (some other)) {l : Lock κ ι} (hl : l ∈ other.held) :
    l ∈ s.heldByOthers i := by
  have hmem : some other ∈ s.sessions.eraseIdx i := by
    rw [List.mem_eraseIdx_iff_getElem?]
    exact ⟨j, Ne.symm hij, hother⟩
  exact List.mem_flatMap.mpr ⟨other, List.mem_filterMap.mpr ⟨some other, hmem, rfl⟩, hl⟩

theorem getElem?_set {s : System ρ κ ι ε} {i j : Nat} {session : Session ρ κ ι ε}
    {new : Option (Session ρ κ ι ε)} (h : (s.sessions.set i new)[j]? = some (some session)) :
    (i = j ∧ new = some session) ∨ (i ≠ j ∧ s.sessions[j]? = some (some session)) := by
  rw [List.getElem?_set] at h
  split_ifs at h with hij hlen
  · exact .inl ⟨hij, Option.some.inj h⟩
  · exact .inr ⟨hij, h⟩

variable [DecidableEq κ] {D : Discipline ρ κ ι} {orderly : Prop}

/-- Every open transaction is safe where it stands, and no two hold the same lock. -/
structure SystemInv (D : Discipline ρ κ ι) (orderly : Prop) (s : System ρ κ ι ε) : Prop where
  inv : D.Inv s.committed
  safe : ∀ {i : Nat} {session}, s.sessions[i]? = some (some session) →
    Safe D orderly session.program session.held session.writes s.committed
  disjoint : ∀ {i j : Nat} {session other}, i ≠ j → s.sessions[i]? = some (some session) →
    s.sessions[j]? = some (some other) → ∀ l ∈ session.held, l ∉ other.held

namespace SystemInv

variable {s : System ρ κ ι ε}

theorem start {db : Table ρ} (hdb : D.Inv db) :
    SystemInv D orderly (System.start db : System ρ κ ι ε) where
  inv := hdb
  safe h := by simp [System.start] at h
  disjoint _ h := by simp [System.start] at h

theorem begin (h : SystemInv D orderly s) {p : Program ρ κ ι ε}
    (hp : Safe D orderly p [] [] s.committed) :
    SystemInv D orderly { s with sessions := s.sessions ++ [some ⟨p, [], []⟩] } where
  inv := h.inv
  safe := by
    intro i session hsession
    rcases lt_or_ge i s.sessions.length with hi | hi
    · rw [List.getElem?_append_left hi] at hsession
      exact h.safe hsession
    · rw [List.getElem?_append_right hi, List.getElem?_singleton] at hsession
      split_ifs at hsession
      cases hsession
      exact hp
  disjoint := by
    intro i j session other hij hsession hother l hl
    rcases lt_or_ge i s.sessions.length with hi | hi
    · rw [List.getElem?_append_left hi] at hsession
      rcases lt_or_ge j s.sessions.length with hj | hj
      · rw [List.getElem?_append_left hj] at hother
        exact h.disjoint hij hsession hother l hl
      · rw [List.getElem?_append_right hj, List.getElem?_singleton] at hother
        split_ifs at hother
        cases hother
        exact List.not_mem_nil
    · rw [List.getElem?_append_right hi, List.getElem?_singleton] at hsession
      split_ifs at hsession
      cases hsession
      cases hl

/-- A transaction that ends and leaves a database the others can live with. -/
theorem close (h : SystemInv D orderly s) {i : Nat} {db : Table ρ} (hdb : D.Inv db)
    (hrely : ∀ {j : Nat} {other}, i ≠ j → s.sessions[j]? = some (some other) →
      Rely D other.held s.committed db) : SystemInv D orderly (s.close i db) where
  inv := hdb
  safe := by
    intro j session hsession
    rcases getElem?_set hsession with ⟨-, hnew⟩ | ⟨hij, hsession⟩
    · cases hnew
    · exact (h.safe hsession).mono (hrely hij hsession)
  disjoint := by
    intro j k session other hjk hsession hother
    rcases getElem?_set hsession with ⟨-, hnew⟩ | ⟨-, hsession⟩
    · cases hnew
    rcases getElem?_set hother with ⟨-, hnew⟩ | ⟨-, hother⟩
    · cases hnew
    exact h.disjoint hjk hsession hother

variable [DecidableEq ι]

/-- A step of an open transaction, on what it counts on. -/
theorem execute (h : SystemInv D orderly s) {i : Nat} {session : Session ρ κ ι ε}
    (hsession : s.sessions[i]? = some (some session))
    (hrelies : orderly → (s.execute i session).1 matches .waiting ∨
      session.program.relies (session.view s.committed) = true) :
    SystemInv D orderly (s.execute i session).2 ∧
      Rely D [] s.committed (s.execute i session).2.committed := by
  have hsafe := h.safe hsession
  obtain ⟨program, held, writes⟩ := session
  cases program with
  | rollback e => exact ⟨h.close h.inv fun _ _ => .refl, .refl⟩
  | commit relies =>
    have hlawful : Lawful D held s.committed writes :=
      hsafe s.committed .refl h.inv fun horderly => (hrelies horderly).resolve_left (by
        simp [System.execute])
    refine ⟨h.close (hlawful.keeps h.inv) ?_, hlawful.rely h.inv fun _ _ => List.not_mem_nil⟩
    intro j other hij hother
    exact hlawful.rely h.inv (h.disjoint hij hsession hother)
  | statement relies locks writes' next =>
    simp only [System.execute] at hrelies ⊢
    split_ifs at hrelies ⊢ with hblocked
    · exact ⟨h, .refl⟩
    · refine ⟨?_, .refl⟩
      have hnext := hsafe s.committed .refl h.inv fun horderly =>
        (hrelies horderly).resolve_left (by simp)
      have hfree : ∀ l ∈ locks (Session.view ⟨.statement relies locks writes' next, held, writes⟩
          s.committed), l ∉ s.heldByOthers i := by
        simpa [List.any_eq_true] using hblocked
      constructor
      · exact h.inv
      · intro j other hother
        rcases getElem?_set hother with ⟨-, hnew⟩ | ⟨-, hother⟩
        · obtain rfl := Option.some.inj hnew
          exact hnext
        · exact h.safe hother
      · -- the new locks are free by the guard of the statement, and the old ones stay disjoint
        intro j k first second hjk hfirst hsecond l hl
        rcases getElem?_set hfirst with ⟨hij, hnew⟩ | ⟨hij, hfirst⟩
        · obtain rfl := Option.some.inj hnew
          rcases getElem?_set hsecond with ⟨hik, -⟩ | ⟨hik, hsecond⟩
          · exact absurd (hij.symm.trans hik) hjk
          · rcases List.mem_append.mp hl with hl | hl
            · exact h.disjoint hik hsession hsecond l hl
            · exact fun hheld => hfree l hl (mem_heldByOthers hik hsecond hheld)
        · rcases getElem?_set hsecond with ⟨hik, hnew⟩ | ⟨-, hsecond⟩
          · obtain rfl := Option.some.inj hnew
            rw [List.mem_append, not_or]
            constructor
            · exact h.disjoint (Ne.symm hij) hfirst hsession l hl
            · exact fun hlocks => hfree l hlocks (mem_heldByOthers hij hfirst hl)
          · exact h.disjoint hjk hfirst hsecond l hl

end SystemInv

variable [DecidableEq ι] {programs : γ → Program ρ κ ι ε} {Allowed : γ → Prop}

/-- One move of a run. -/
theorem step_sound
    (hsafe : ∀ call, Allowed call → ∀ db, D.Inv db → Safe D orderly (programs call) [] [] db)
    {s : System ρ κ ι ε} (h : SystemInv D orderly s) {move : Move γ}
    (hcall : ∀ call, move = .begin call → Allowed call)
    (horderly : orderly → (step programs move s).1 matches .waiting ∨
      OrderlyMove s move = true) :
    SystemInv D orderly (step programs move s).2 ∧
      Rely D [] s.committed (step programs move s).2.committed := by
  cases move with
  | begin call => exact ⟨h.begin (hsafe call (hcall call rfl) _ h.inv), .refl⟩
  | cancel i => exact ⟨h.close h.inv fun _ _ => .refl, .refl⟩
  | execute i =>
    simp only [step, OrderlyMove] at horderly ⊢
    cases hsession : s.sessions[i]? with
    | none => exact ⟨h, .refl⟩
    | some slot =>
      cases slot with
      | none => exact ⟨h, .refl⟩
      | some session =>
        simp only [hsession] at horderly
        exact h.execute hsession horderly

/-- **Soundness.**  From a state where all transactions are safe, moves lead to such states, and
the committed database changes by effects alone. -/
theorem final_sound
    (hsafe : ∀ call, Allowed call → ∀ db, D.Inv db → Safe D orderly (programs call) [] [] db)
    {s : System ρ κ ι ε} (h : SystemInv D orderly s) {moves : List (Move γ)}
    (hcalls : ∀ call, .begin call ∈ moves → Allowed call)
    (horderly : orderly → ∀ t ∈ Machine.trace (step programs) s moves,
      t.output matches .waiting ∨ OrderlyMove t.before t.input = true) :
    SystemInv D orderly (Machine.final (step programs) s moves) ∧
      Rely D [] s.committed (Machine.final (step programs) s moves).committed := by
  induction moves generalizing s with
  | nil => exact ⟨h, .refl⟩
  | cons move moves ih =>
    obtain ⟨hnext, hrely⟩ := step_sound hsafe h
      (fun call hcall => hcalls call (hcall ▸ List.mem_cons_self))
      (fun ho => horderly ho _ List.mem_cons_self)
    obtain ⟨hfinal, hrest⟩ := ih hnext (fun call hcall =>
      hcalls call (List.mem_cons_of_mem _ hcall))
      (fun ho t ht => horderly ho t (List.mem_cons_of_mem _ ht))
    exact ⟨hfinal, hrely.trans hrest⟩

/-- The databases that a run goes through, from its start and from one another. -/
theorem run_sound
    (hsafe : ∀ call, Allowed call → ∀ db, D.Inv db → Safe D orderly (programs call) [] [] db)
    {db : Table ρ} (hdb : D.Inv db) {moves later : List (Move γ)}
    (hcalls : ∀ call, .begin call ∈ moves ++ later → Allowed call)
    (horderly : orderly → Orderly programs db (moves ++ later)) :
    D.Inv (run programs db moves).committed ∧ Rely D [] db (run programs db moves).committed ∧
      Rely D [] (run programs db moves).committed (run programs db (moves ++ later)).committed := by
  have htrace := @Machine.trace_append _ _ _ (step programs) (System.start db) moves later
  obtain ⟨hmiddle, hfirst⟩ := final_sound hsafe (SystemInv.start hdb)
    (fun call hcall => hcalls call (List.mem_append_left _ hcall))
    (fun ho t ht => horderly ho t (htrace ▸ List.mem_append_left _ ht))
  obtain ⟨-, hsecond⟩ := final_sound hsafe hmiddle
    (fun call hcall => hcalls call (List.mem_append_right _ hcall))
    (fun ho t ht => horderly ho t (htrace ▸ List.mem_append_right _ ht))
  refine ⟨hmiddle.inv, hfirst, ?_⟩
  rw [run, run, Machine.final_append]
  exact hsecond

end Runs

end ReadCommitted
