import Frely.Lib.Stateful

/-!
# Database transactions

A transaction as a program over a database state: it reads, stops at the first failed check, draws
fresh identifiers and writes.  A write can be refused by a constraint, and the connection can be
lost before any of them; `commit` runs a transaction and rolls the database back unless all of it
went through.

The lemmas about the primitives are equivalences, so that a run that returned can be taken apart
write by write (`run_bind`, `write_eq_ok`) and a run of reads (`run_read_bind`, `run_check_bind`)
can be put together.
-/

namespace Transaction

variable {σ ε α β : Type}

/-- Why a transaction was rolled back. -/
inductive Failure (ε : Type) where
  /-- a check of the program -/
  | rejected (error : ε)
  /-- a constraint of the database -/
  | violated
  /-- the connection was lost -/
  | interrupted
deriving DecidableEq

/-- What a transaction runs on: the database it sees, the identifiers that will be drawn, and the
number of writes after which the connection is lost, if it is. -/
structure Session (σ : Type) where
  database : σ
  freshId : Nat → String
  issued : Nat
  writesLeft : Option Nat

abbrev Txn (σ ε : Type) := Stateful.Program (Session σ) (Failure ε)

def read (query : σ → Except ε α) : Txn σ ε α := fun s =>
  match query s.database with
  | .ok a => .ok (a, s)
  | .error e => .error (.rejected e)

def check (result : Except ε α) : Txn σ ε α := read fun _ => result

/-- A fresh identifier of some kind. -/
def createId (kind : String) : Txn σ ε String := fun s =>
  .ok (kind ++ "_" ++ s.freshId s.issued, { s with issued := s.issued + 1 })

/-- A write, which the database can refuse. -/
def write (change : σ → Option σ) : Txn σ ε Unit := fun s =>
  if s.writesLeft = some 0 then .error .interrupted
  else match change s.database with
    | none => .error .violated
    | some database =>
      .ok ((), { s with database := database, writesLeft := s.writesLeft.map (· - 1) })

/-- A loop over a list. -/
def forEach : List α → (α → Txn σ ε Unit) → Txn σ ε Unit
  | [], _ => pure ()
  | a :: l, f => f a >>= fun _ => forEach l f

/-- Runs a transaction: its result, and the database it leaves. -/
def commit (x : Txn σ ε α) (s : Session σ) : Except (Failure ε) α × σ :=
  match x s with
  | .ok (a, s') => (.ok a, s'.database)
  | .error e => (.error e, s.database)

/-! ### Taking a transaction apart -/

variable {s s' : Session σ} {a : α} {f : α → Txn σ ε β} {x : Txn σ ε α} {query : σ → Except ε α}
  {result : Except ε α}

theorem run_pure {b : α} : (pure a : Txn σ ε α) s = .ok (b, s') ↔ b = a ∧ s' = s :=
  Stateful.run_pure

theorem run_bind {b : β} {s'' : Session σ} :
    (x >>= f) s = .ok (b, s'') ↔ ∃ a s', x s = .ok (a, s') ∧ f a s' = .ok (b, s'') :=
  Stateful.run_bind

theorem read_eq_ok : read query s = .ok (a, s') ↔ query s.database = .ok a ∧ s' = s := by
  unfold read
  cases query s.database <;> simp [eq_comm]

theorem check_eq_ok : check result s = .ok (a, s') ↔ result = .ok a ∧ s' = s :=
  read_eq_ok

theorem run_read_bind {b : β} :
    (read query >>= f) s = .ok (b, s') ↔
      ∃ a, query s.database = .ok a ∧ f a s = .ok (b, s') := by
  rw [run_bind]
  constructor
  · rintro ⟨a, s₁, hread, hrest⟩
    obtain ⟨hquery, rfl⟩ := read_eq_ok.mp hread
    exact ⟨a, hquery, hrest⟩
  · rintro ⟨a, hquery, hrest⟩
    exact ⟨a, s, read_eq_ok.mpr ⟨hquery, rfl⟩, hrest⟩

theorem run_check_bind {b : β} :
    (check result >>= f) s = .ok (b, s') ↔ ∃ a, result = .ok a ∧ f a s = .ok (b, s') :=
  run_read_bind

theorem createId_eq_ok {kind id : String} (h : (createId kind : Txn σ ε String) s = .ok (id, s')) :
    s'.database = s.database := by
  cases h
  rfl

/-- What is drawn, and that the identifiers to come stay the same ones. -/
theorem createId_spec {kind id : String} (h : (createId kind : Txn σ ε String) s = .ok (id, s')) :
    id = kind ++ "_" ++ s.freshId s.issued ∧ s'.freshId = s.freshId := by
  cases h
  exact ⟨rfl, rfl⟩

theorem write_eq_ok {change : σ → Option σ} {u : Unit}
    (h : (write change : Txn σ ε Unit) s = .ok (u, s')) : change s.database = some s'.database := by
  unfold write at h
  split_ifs at h
  split at h
  · cases h
  · next database hchange =>
      cases h
      exact hchange

theorem write_some_eq_ok {change : σ → σ} {u : Unit}
    (h : (write (fun db => some (change db)) : Txn σ ε Unit) s = .ok (u, s')) :
    s'.database = change s.database := by
  have hchange := write_eq_ok h
  exact (Option.some.inj hchange).symm

/-- A write goes through when nothing refuses it and the connection is there. -/
theorem write_of_some {change : σ → Option σ} {database : σ}
    (hchange : change s.database = some database) (hwrites : s.writesLeft ≠ some 0) :
    (write change : Txn σ ε Unit) s =
      .ok ((), { s with database := database, writesLeft := s.writesLeft.map (· - 1) }) := by
  unfold write
  rw [if_neg hwrites, hchange]

/-! ### What a transaction is not rejected for -/

variable {e : ε}

theorem run_bind_ne (hx : x s ≠ .error (.rejected e))
    (hf : ∀ a s', x s = .ok (a, s') → f a s' ≠ .error (.rejected e)) :
    (x >>= f) s ≠ .error (.rejected e) :=
  Checked.bind_ne_error hx fun _ h => hf _ _ h

theorem run_read_bind_ne (hquery : query s.database ≠ .error e)
    (hf : ∀ a, query s.database = .ok a → f a s ≠ .error (.rejected e)) :
    (read query >>= f) s ≠ .error (.rejected e) := by
  refine run_bind_ne ?_ fun a s' hread => ?_
  · unfold read
    split
    · nofun
    · next e' he' =>
        rintro ⟨⟩
        exact hquery he'
  · obtain ⟨ha, rfl⟩ := read_eq_ok.mp hread
    exact hf a ha

theorem run_check_bind_ne (hresult : result ≠ .error e)
    (hf : ∀ a, result = .ok a → f a s ≠ .error (.rejected e)) :
    (check result >>= f) s ≠ .error (.rejected e) :=
  run_read_bind_ne hresult hf

theorem run_createId_bind_ne {kind : String} {f : String → Txn σ ε β}
    (hf : ∀ id s', s'.database = s.database → f id s' ≠ .error (.rejected e)) :
    (createId kind >>= f) s ≠ .error (.rejected e) :=
  run_bind_ne nofun fun id s' h => hf id s' (createId_eq_ok h)

/-- A constraint or a lost connection is no check of the program. -/
theorem run_write_bind_ne {change : σ → Option σ} {f : Unit → Txn σ ε β}
    (hf : ∀ s', change s.database = some s'.database → f () s' ≠ .error (.rejected e)) :
    (write change >>= f) s ≠ .error (.rejected e) := by
  refine run_bind_ne ?_ fun _ s' h => hf s' (write_eq_ok h)
  unfold write
  split_ifs
  · nofun
  · split <;> nofun

/-- A loop keeps what each of its rounds keeps. -/
theorem forEach_preserves {R : σ → σ → Prop} (hrefl : ∀ db, R db db)
    (htrans : ∀ {db₁ db₂ db₃}, R db₁ db₂ → R db₂ db₃ → R db₁ db₃) {f : α → Txn σ ε Unit}
    (hf : ∀ {a s u s'}, f a s = .ok (u, s') → R s.database s'.database) {l : List α} {u : Unit}
    (h : forEach l f s = .ok (u, s')) : R s.database s'.database := by
  induction l generalizing s with
  | nil =>
    obtain ⟨-, rfl⟩ := run_pure.mp h
    exact hrefl s'.database
  | cons a l ih =>
    obtain ⟨_, s₁, ha, hl⟩ := run_bind.mp h
    exact htrans (hf ha) (ih hl)

/-! ### Committing -/

theorem commit_ok (h : (commit x s).1 = .ok a) :
    ∃ s', x s = .ok (a, s') ∧ (commit x s).2 = s'.database := by
  unfold commit at h ⊢
  split at h
  · next a' s' hx =>
      cases h
      exact ⟨s', hx, rfl⟩
  · cases h

/-- **Rollback.** A transaction that fails leaves the database as it was. -/
theorem commit_error {e : Failure ε} (h : (commit x s).1 = .error e) :
    (commit x s).2 = s.database := by
  unfold commit at h ⊢
  split at h
  · cases h
  · rfl

theorem commit_of_ok (h : x s = .ok (a, s')) : commit x s = (.ok a, s'.database) := by
  rw [commit, h]

/-- What every returning run establishes between the database before and after, and rollback
establishes too, `commit` establishes. -/
theorem commit_preserves {R : σ → σ → Prop} {x : Txn σ ε α} {s : Session σ}
    (hrefl : R s.database s.database)
    (hx : ∀ {a s'}, x s = .ok (a, s') → R s.database s'.database) :
    R s.database (commit x s).2 := by
  unfold commit
  split
  · next a s' h => exact hx h
  · exact hrefl

end Transaction
