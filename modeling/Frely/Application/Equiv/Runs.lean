import Frely.Application.Equiv.Ledger
import Frely.Application.Equiv.Sources

/-!
# Runs of the service

`Coherent` collects what every transition keeps.  It holds in every database a run reaches
(`coherent_final`), so that every step of a run is one of the transitions (`transition_of_mem`),
and what the transitions of coherent databases keep, a run keeps (`final_keeps`).
-/

namespace Frely.Application

open Frely.Billing Frely.Postgres Frely.RequestExecution

/-- The invariant of the service, for accounts that started with the balances of `initial`. -/
structure Coherent (initial : Table CreditAccount) (db : Database) : Prop where
  numbered : Numbered db.requestExecutions db.requestProviderAttempts
  wellEnded : ∀ attempt ∈ db.requestProviderAttempts, WellEnded attempt
  owned : Owned db.requestExecutions db.requestProviderAttempts
  occupations : OccupationsOf db
  books : BooksOf db
  balanced : Balanced initial db.creditAccounts db.creditLedgerEvents
  sources : Sources db

variable {initial : Table CreditAccount} {db db' : Database} {settings : Settings} {input : Input}

theorem Transition.coherent (h : Transition input db db') (hdb : Coherent initial db) :
    Coherent initial db' where
  numbered := h.coreChange.numbered hdb.numbered
  wellEnded := h.coreChange.wellEnded hdb.wellEnded
  owned := h.coreChange.owned hdb.owned
  occupations := h.occupations hdb.occupations
  books := h.billingChange.books hdb.books
  balanced := h.billingChange.balanced hdb.balanced
  sources := h.sources hdb.occupations hdb.sources

/-- A step of a coherent database is a transition. -/
theorem Coherent.transition (hdb : Coherent initial db) (settings : Settings) (input : Input) :
    Transition input db (step settings input db).2 :=
  step_transition hdb.occupations.factsMatch

theorem step_coherent (hdb : Coherent initial db) :
    Coherent initial (step settings input db).2 :=
  (hdb.transition settings input).coherent hdb

/-! ### The start -/

theorem initialDatabase_coherent (configuration : Configuration)
    (creditAccounts : Table CreditAccount) (requestLogs : Table RequestLog) :
    Coherent creditAccounts (initialDatabase configuration creditAccounts requestLogs) where
  numbered := by
    constructor
    · intro attempt hattempt
      exact absurd hattempt (Table.not_mem_empty attempt)
    · intro requestId index hindex hlt
      have hzero : attemptCountOf (Table.empty : Table RequestExecution) requestId = 0 := by
        rw [attemptCountOf, Table.find?_empty]
        rfl
      have hlt' : index < 0 := hzero ▸ hlt
      omega
    · intro attempt hattempt
      exact absurd hattempt (Table.not_mem_empty attempt)
    · intro attempt hattempt
      exact absurd hattempt (Table.not_mem_empty attempt)
  wellEnded attempt hattempt := absurd hattempt (Table.not_mem_empty attempt)
  owned attempt hattempt := absurd hattempt (Table.not_mem_empty attempt)
  occupations := by
    constructor <;> intro row hrow <;> exact absurd hrow (Table.not_mem_empty row)
  books := by
    constructor <;> intro row hrow <;> exact absurd hrow (Table.not_mem_empty row)
  balanced := by
    intro accountId
    change (creditAccounts.find? accountId).map (·.balanceSnapUnits) = _
    simp only [ledgerSum, initialDatabase, Table.sumOf_empty, add_zero]
  sources := by
    constructor
    · intro attempt hattempt
      exact absurd hattempt (Table.not_mem_empty attempt)
    · intro requestId selected hselected
      have hnone : selectedSourceOf (Table.empty : Table RequestExecution) requestId = none := by
        rw [selectedSourceOf, Table.find?_empty]
        rfl
      cases hnone.symm.trans hselected

/-! ### Runs -/

/-- The database that a run of the service reaches. -/
def reached (settings : Settings) (configuration : Configuration)
    (creditAccounts : Table CreditAccount) (requestLogs : Table RequestLog)
    (inputs : List Input) : Database :=
  Machine.final (step settings) (initialDatabase configuration creditAccounts requestLogs) inputs

theorem coherent_final (hdb : Coherent initial db) (inputs : List Input) :
    Coherent initial (Machine.final (step settings) db inputs) :=
  Machine.invariant_final (fun _ _ => step_coherent) hdb inputs

/-- **Runs.** Every database that is reached is coherent. -/
theorem reached_coherent (settings : Settings) (configuration : Configuration)
    (creditAccounts : Table CreditAccount) (requestLogs : Table RequestLog)
    (inputs : List Input) :
    Coherent creditAccounts (reached settings configuration creditAccounts requestLogs inputs) :=
  coherent_final (initialDatabase_coherent configuration creditAccounts requestLogs) inputs

/-- What the transitions of coherent databases keep, a run keeps. -/
theorem final_keeps {P : Database → Prop}
    (hkeeps : ∀ {input : Input} {db db' : Database}, Coherent initial db →
      Transition input db db' → P db → P db') (hdb : Coherent initial db) (hstart : P db)
    (inputs : List Input) : P (Machine.final (step settings) db inputs) := by
  have hstep : ∀ input db, Coherent initial db ∧ P db →
      Coherent initial (step settings input db).2 ∧ P (step settings input db).2 := by
    rintro input db ⟨hcoherent, hprop⟩
    exact ⟨step_coherent hcoherent,
      hkeeps hcoherent (hcoherent.transition settings input) hprop⟩
  exact (Machine.invariant_final hstep ⟨hdb, hstart⟩ inputs).2

/-- Every step of a run is a transition of a coherent database. -/
theorem transition_of_mem (hdb : Coherent initial db) {inputs : List Input}
    {taken : Machine.Step Input (Result Answer) Database}
    (htaken : taken ∈ Machine.trace (step settings) db inputs) :
    Coherent initial taken.before ∧ Transition taken.input taken.before taken.after := by
  have hall := (@Machine.invariant Input (Result Answer) Database (step settings)
    (Coherent initial) (fun _ => True) (fun _ _ h _ => step_coherent h) db hdb inputs
    fun _ _ => trivial).2 taken htaken
  refine ⟨hall.1, ?_⟩
  have hstep := hall.1.transition settings taken.input
  rw [Machine.eq_stepOf_of_mem htaken] at hstep ⊢
  exact hstep

end Frely.Application
