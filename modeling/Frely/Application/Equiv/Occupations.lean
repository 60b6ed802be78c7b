import Frely.Application.Equiv.Executions

/-!
# Attempts and their occupations

`Occupations` ties an attempt to its billing rows: it is settled exactly when it has a fact; a
protected attempt has a claim exactly while it is not settled, and its reservation, if it has one,
is open just as long.  Every transition keeps it (`Transition.occupations`).
-/

namespace Frely.Application

open Frely.Billing Frely.Postgres Frely.RequestExecution Checked Transaction

/-- The rows that attempts occupy. -/
structure Occupations (attempts : Table RequestProviderAttempt)
    (facts : Table ProviderInvocationUsageFact) (claims : Table BudgetClaim)
    (reservations : Table UsageReservation) : Prop where
  settled : ∀ attempt ∈ attempts, attempt.usageSettled = (facts.find? attempt.id).isSome
  fact : ∀ fact ∈ facts, 0 ≤ fact.actualChargeUnits ∧ ∃ attempt,
    attempts.find? fact.providerAttemptId = some attempt ∧ fact.occurredAt = attempt.startedAt
  claim : ∀ claim ∈ claims, ∃ attempt, attempts.find? claim.providerAttemptId = some attempt ∧
    attempt.invocationContract = .protectedV1 ∧ attempt.usageSettled = false
  claimed : ∀ attempt ∈ attempts, attempt.invocationContract = .protectedV1 →
    attempt.usageSettled = false → ∃ claim, claims.find? attempt.id = some claim
  reservation : ∀ reservation ∈ reservations, ∃ attempt,
    attempts.find? reservation.providerAttemptId = some attempt ∧
    attempt.invocationContract = .protectedV1 ∧
    reservation.status.isOpen = !attempt.usageSettled
  held : ∀ reservation ∈ reservations, 0 ≤ reservation.heldUnits ∧
    (reservation.status.isOpen = false → reservation.heldUnits = 0)

variable {now : Timestamp} {fact : ProviderInvocationUsageFact}

namespace Occupations

variable {attempts attempts' : Table RequestProviderAttempt}
  {facts facts' : Table ProviderInvocationUsageFact} {claims claims' : Table BudgetClaim}
  {reservations reservations' : Table UsageReservation}

variable {old new : RequestProviderAttempt}

theorem contract_eq (h : new.material = old.material) :
    new.invocationContract = old.invocationContract := by
  rw [RequestProviderAttempt.invocationContract, RequestProviderAttempt.invocationContract, h]

/-- Rewriting an attempt that stays unsettled. -/
theorem updated (h : Occupations attempts facts claims reservations)
    (hfind : attempts.find? old.id = some old) (hchange : AttemptChange old new)
    (hsame : new.usageSettled = old.usageSettled) (hset : attempts.Sets new attempts') :
    Occupations attempts' facts claims reservations := by
  obtain ⟨hid, -, hstarted, hmaterial⟩ := hchange.keeps
  have hcontract := contract_eq hmaterial
  have hold : attempts.find? (Keyed.key new) = some old := by
    rw [← hfind]
    exact congrArg attempts.find? hid
  constructor
  · intro attempt hattempt
    rcases hset.mem_iff.mp hattempt with rfl | ⟨hmem, -⟩
    · rw [hsame, hid]
      exact h.settled old (Table.mem_of_find? hfind)
    · exact h.settled attempt hmem
  · intro fact hfact
    obtain ⟨hcharge, hattempt⟩ := h.fact fact hfact
    exact ⟨hcharge, hset.exists_find? hold (fun hstart => hstart.trans hstarted.symm) hattempt⟩
  · intro claim hclaim
    refine hset.exists_find? hold ?_ (h.claim claim hclaim)
    rintro ⟨hprotected, hunsettled⟩
    exact ⟨hcontract.trans hprotected, hsame.trans hunsettled⟩
  · intro attempt hattempt hprotected hunsettled
    rcases hset.mem_iff.mp hattempt with rfl | ⟨hmem, -⟩
    · rw [hid]
      exact h.claimed old (Table.mem_of_find? hfind) (hcontract ▸ hprotected)
        (hsame ▸ hunsettled)
    · exact h.claimed attempt hmem hprotected hunsettled
  · intro reservation hreservation
    refine hset.exists_find? hold ?_ (h.reservation reservation hreservation)
    rintro ⟨hprotected, hopen⟩
    exact ⟨hcontract.trans hprotected, hsame ▸ hopen⟩
  · exact h.held

/-- Marking the reservation of an attempt. -/
theorem marked (h : Occupations attempts facts claims reservations) {id : String}
    {costExposure : ReconciledCostExposure} {old : UsageReservation}
    (hfind : reservations.find? id = some old) (hopen : old.status.isOpen) :
    Occupations attempts facts claims
      (reconcilingReservations id costExposure now reservations) where
  settled := h.settled
  fact := h.fact
  claim := h.claim
  claimed := h.claimed
  reservation reservation hreservation := by
    obtain ⟨before, hbefore, heq⟩ := Table.mem_modify.mp hreservation
    subst heq
    split_ifs with hkey
    · have hsame := Table.find?_of_mem hbefore
      rw [hkey, hfind] at hsame
      cases hsame
      obtain ⟨attempt, hattempt, hprotected, hstatus⟩ := h.reservation old hbefore
      exact ⟨attempt, hattempt, hprotected, hopen.symm.trans hstatus⟩
    · exact h.reservation before hbefore
  held reservation hreservation := by
    obtain ⟨before, hbefore, heq⟩ := Table.mem_modify.mp hreservation
    subst heq
    split_ifs with hkey
    · refine ⟨?_, fun hclosed => absurd hclosed Bool.noConfusion⟩
      cases costExposure with
      | stopped => exact le_rfl
      | accruing => exact (h.held before hbefore).1
    · exact h.held before hbefore

variable {attempt : RequestProviderAttempt}

/-- A new attempt, with a claim when it is a protected one. -/
theorem persisted (h : Occupations attempts facts claims reservations)
    {attempt : RequestProviderAttempt} (hinsert : attempts.insert? attempt = some attempts')
    (hunsettled : attempt.usageSettled = false)
    (hclaims : attempt.invocationContract = .cpaBasicV1 ∧ claims' = claims ∨
      attempt.invocationContract = .protectedV1 ∧
        ∃ claim : BudgetClaim, claim.providerAttemptId = attempt.id ∧
          claims.insert? claim = some claims') :
    Occupations attempts' facts claims' reservations := by
  obtain ⟨hfree, -⟩ := Table.insert?_eq_some.mp hinsert
  have hkeep : ∀ {id : String} {P : RequestProviderAttempt → Prop},
      (∃ other, attempts.find? id = some other ∧ P other) →
        ∃ other, attempts'.find? id = some other ∧ P other := by
    rintro id P ⟨other, hother, hprop⟩
    exact ⟨other, Table.find?_insert_of_some hinsert hother, hprop⟩
  -- a fact has an attempt, so the new one has none
  have hunbilled : facts.find? attempt.id = none := by
    cases hfact : facts.find? attempt.id with
    | none => rfl
    | some fact =>
      obtain ⟨-, other, hother, -⟩ := h.fact fact (Table.mem_of_find? hfact)
      have hkey : fact.providerAttemptId = attempt.id := Table.key_of_find? hfact
      rw [hkey] at hother
      cases hfree.symm.trans hother
  constructor
  · intro other hother
    rcases (Table.mem_insert hinsert).mp hother with rfl | hmem
    · rw [hunsettled, hunbilled]
      rfl
    · exact h.settled other hmem
  · intro fact hfact
    exact ⟨(h.fact fact hfact).1, hkeep (h.fact fact hfact).2⟩
  · intro claim hclaim
    rcases hclaims with ⟨-, rfl⟩ | ⟨hprotected, new, hnew, hclaimed⟩
    · exact hkeep (h.claim claim hclaim)
    · rcases (Table.mem_insert hclaimed).mp hclaim with rfl | hmem
      · rw [hnew]
        exact ⟨attempt, Table.find?_insert_self hinsert, hprotected, hunsettled⟩
      · exact hkeep (h.claim claim hmem)
  · intro other hother hprotected hopen
    rcases (Table.mem_insert hinsert).mp hother with rfl | hmem
    · rcases hclaims with ⟨hbasic, -⟩ | ⟨-, new, hnew, hclaimed⟩
      · rw [hbasic] at hprotected
        cases hprotected
      · rw [← hnew]
        exact ⟨new, Table.find?_insert_self hclaimed⟩
    · obtain ⟨claim, hclaim⟩ := h.claimed other hmem hprotected hopen
      rcases hclaims with ⟨-, rfl⟩ | ⟨-, new, hnew, hclaimed⟩
      · exact ⟨claim, hclaim⟩
      · exact ⟨claim, Table.find?_insert_of_some hclaimed hclaim⟩
  · intro reservation hreservation
    exact hkeep (h.reservation reservation hreservation)
  · exact h.held

/-- A reservation of an unsettled attempt. -/
theorem reserved (h : Occupations attempts facts claims reservations)
    {reservation : UsageReservation}
    (hfind : attempts.find? reservation.providerAttemptId = some attempt)
    (hprotected : attempt.invocationContract = .protectedV1)
    (hunsettled : attempt.usageSettled = false) (hopen : reservation.status.isOpen)
    (hheld : 0 ≤ reservation.heldUnits)
    (hinsert : reservations.insert? reservation = some reservations') :
    Occupations attempts facts claims reservations' where
  settled := h.settled
  fact := h.fact
  claim := h.claim
  claimed := h.claimed
  reservation other hother := by
    rcases (Table.mem_insert hinsert).mp hother with rfl | hmem
    · exact ⟨attempt, hfind, hprotected, by rw [hopen, hunsettled]; rfl⟩
    · exact h.reservation other hmem
  held other hother := by
    rcases (Table.mem_insert hinsert).mp hother with rfl | hmem
    · exact ⟨hheld, fun hclosed => absurd (hopen.symm.trans hclosed) Bool.noConfusion⟩
    · exact h.held other hmem

/-- Final usage: the fact comes, the claim goes, the reservation ends and the attempt is
settled. -/
theorem finalized (h : Occupations attempts facts claims reservations)
    {input : SettleInvocationBillingInput} (hfind : attempts.find? old.id = some old)
    (hchange : AttemptChange old new) (hsettled : new.usageSettled = true)
    (hset : attempts.Sets new attempts') (hattempt : fact.providerAttemptId = old.id)
    (hinput : input.billableInvocationRef = old.id) (hoccurred : fact.occurredAt = old.startedAt)
    (hcharge : 0 ≤ fact.actualChargeUnits) (hinsert : facts.insert? fact = some facts') :
    Occupations attempts' facts' (claims.erase old.id)
      (endedReservations input fact.postingLedgerEventId reservations) := by
  obtain ⟨hid, -, hstarted, hmaterial⟩ := hchange.keeps
  have hcontract := contract_eq hmaterial
  have hold : attempts.find? (Keyed.key new) = some old := by
    rw [← hfind]
    exact congrArg attempts.find? hid
  -- the other attempts stay as they are
  have hother : ∀ {id : String} {attempt : RequestProviderAttempt}, id ≠ old.id →
      attempts.find? id = some attempt → attempts'.find? id = some attempt := by
    intro id attempt hne hother
    rw [← hother]
    exact hset.find?_of_ne fun heq => hne (heq.trans hid)
  constructor
  · -- an attempt is settled if and only if it has a fact
    intro attempt hattempt'
    rcases hset.mem_iff.mp hattempt' with rfl | ⟨hmem, hne⟩
    · have hself := Table.find?_insert_self hinsert
      have hkey : Keyed.key fact = attempt.id := hattempt.trans hid.symm
      rw [hkey] at hself
      rw [hsettled, hself]
      rfl
    · have hkey : attempt.id ≠ Keyed.key fact := fun heq =>
        hne (heq.trans (hattempt.trans hid.symm))
      rw [h.settled attempt hmem, Table.find?_insert hinsert, if_neg hkey]
  · intro other hmem
    rcases (Table.mem_insert hinsert).mp hmem with rfl | hmem
    · refine ⟨hcharge, new, ?_, hoccurred.trans hstarted.symm⟩
      rw [hattempt, ← hid]
      exact hset.find?_self
    · obtain ⟨hnonneg, hbefore⟩ := h.fact other hmem
      exact ⟨hnonneg, hset.exists_find? hold (fun hstart => hstart.trans hstarted.symm) hbefore⟩
  · -- the claim that is left belongs to another attempt
    intro claim hclaim
    obtain ⟨hmem, hne⟩ := Table.mem_erase.mp hclaim
    obtain ⟨attempt, hattempt', hrest⟩ := h.claim claim hmem
    exact ⟨attempt, hother hne hattempt', hrest⟩
  · intro attempt hattempt' hprotected hunsettled
    rcases hset.mem_iff.mp hattempt' with rfl | ⟨hmem, hne⟩
    · rw [hsettled] at hunsettled
      cases hunsettled
    · obtain ⟨claim, hclaim⟩ := h.claimed attempt hmem hprotected hunsettled
      have hkey : attempt.id ≠ old.id := fun heq => hne (heq.trans hid.symm)
      refine ⟨claim, ?_⟩
      rw [Table.find?_erase, if_neg hkey]
      exact hclaim
  · -- the reservation of this attempt ends, and the others do not change
    intro reservation hreservation
    obtain ⟨before, hbefore, heq⟩ := Table.mem_modify.mp hreservation
    obtain ⟨attempt, hattempt', hprotected, hopen⟩ := h.reservation before hbefore
    subst heq
    split_ifs with hkey
    · have hsame : before.providerAttemptId = old.id := Eq.trans hkey hinput
      rw [hsame] at hattempt'
      cases hfind.symm.trans hattempt'
      refine ⟨new, ?_, hcontract.trans hprotected, ?_⟩
      · change attempts'.find? before.providerAttemptId = some new
        rw [hsame, ← hid]
        exact hset.find?_self
      · rw [hsettled]
        cases input.zeroReservationOutcome <;> rfl
    · have hne : before.providerAttemptId ≠ old.id := fun heq => hkey (heq.trans hinput.symm)
      exact ⟨attempt, hother hne hattempt', hprotected, hopen⟩
  · intro reservation hreservation
    obtain ⟨before, hbefore, heq⟩ := Table.mem_modify.mp hreservation
    subst heq
    split_ifs with hkey
    · exact ⟨le_rfl, fun _ => rfl⟩
    · exact h.held before hbefore

end Occupations

/-- The rows of a database that attempts occupy. -/
def OccupationsOf (db : Database) : Prop :=
  Occupations db.requestProviderAttempts db.providerInvocationUsageFacts db.budgetClaims
    db.usageReservations

variable {db db' : Database}

theorem OccupationsOf.factsMatch (h : OccupationsOf db) : FactsMatch db := h.settled

theorem Suspended.occupations (h : Suspended db db') (hdb : OccupationsOf db) :
    OccupationsOf db' := by
  obtain ⟨old, new, costExposure, now, db₁, _, hsuspends, hupdated, hmarked⟩ := h
  have hchange : AttemptChange old new := .suspended new costExposure hsuspends
  have hsame : new.usageSettled = old.usageSettled := by
    cases hsuspends <;> rfl
  have hdb₁ : OccupationsOf db₁ := by
    have hrewritten := Occupations.updated hdb hupdated.find hchange hsame hupdated.attempts
    unfold OccupationsOf
    rw [hupdated.frame]
    exact hrewritten
  cases hmarked with
  | nothing hclosed => exact hdb₁
  | reconciling reservation hfind hopen => exact Occupations.marked hdb₁ hfind hopen

theorem FinalUsage.occupations {command : SettleProviderInvocationCommand}
    {zeroReservationOutcome : ZeroReservationOutcome}
    (h : FinalUsage db command zeroReservationOutcome now fact db') (hdb : OccupationsOf db) :
    OccupationsOf db' := by
  obtain ⟨attempt, expected, conflict, db₁, _, hfind, hunsettled, hexpected, hsettled,
    hupdated⟩ := h
  have hid : attempt.id = command.providerAttemptId := Table.key_of_find? hfind
  have hattempts := hupdated.attempts
  rw [hsettled.frame] at hattempts
  have hcharge : 0 ≤ fact.actualChargeUnits := by
    have haccepted := hsettled.accepted
    simp only [acceptsFact, Bool.and_eq_true, decide_eq_true_eq] at haccepted
    exact haccepted.1.1.2
  have hinput : (settlementInput db command zeroReservationOutcome now
      attempt).billableInvocationRef = attempt.id := hid.symm
  have hfinal := Occupations.finalized hdb (hid ▸ hfind)
    (.finalized command expected conflict now hexpected) rfl hattempts
    (hsettled.attempt.trans hinput) hinput hsettled.occurredAt hcharge hsettled.facts
  unfold OccupationsOf
  rw [hupdated.frame]
  change Occupations db'.requestProviderAttempts db₁.providerInvocationUsageFacts
    db₁.budgetClaims db₁.usageReservations
  rw [hsettled.claims, hsettled.reservations, hsettled.attempt, hinput]
  exact hfinal

theorem AdmittedCpaBasic.occupations {command : AdmitCpaBasicProviderInvocationCommand}
    {id : String} (h : AdmittedCpaBasic db command now id db') (hdb : OccupationsOf db) :
    OccupationsOf db' := by
  obtain ⟨admission, execution, hadmissible, hpersisted⟩ := h
  obtain ⟨terms, hterms, -⟩ := hadmissible.terms
  have hbasic : (newProviderAttempt id command.toProviderAttemptAdmissionIdentity
      admission.decision now admission.material).invocationContract = .cpaBasicV1 := by
    show RequestProviderAttempt.invocationContract _ = _
    simp only [RequestProviderAttempt.invocationContract, newProviderAttempt, hterms]
  have hpersisted' := Occupations.persisted hdb hpersisted.attempts rfl (.inl ⟨hbasic, rfl⟩)
  unfold OccupationsOf
  rw [hpersisted.frame]
  exact hpersisted'

theorem AdmittedProtected.occupations {command : AdmitProviderInvocationCommand} {id : String}
    (h : AdmittedProtected db command now id db') (hdb : OccupationsOf db) : OccupationsOf db' := by
  obtain ⟨admission, execution, db₁, usageReservationId, hadmissible, hpersisted, hoccupied⟩ := h
  have hprotected : (protectedAttempt id command admission now).invocationContract =
      .protectedV1 := by
    show RequestProviderAttempt.invocationContract _ = _
    simp only [RequestProviderAttempt.invocationContract, protectedAttempt, newProviderAttempt,
      hadmissible.terms]
  have hclaims := hoccupied.claims
  have hreservations := hoccupied.reservations
  rw [hpersisted.frame] at hclaims hreservations
  have hclaimed := Occupations.persisted hdb hpersisted.attempts rfl
    (.inr ⟨hprotected, _, rfl, hclaims⟩)
  unfold OccupationsOf
  rw [hoccupied.frame, hpersisted.frame]
  rcases hreservations with ⟨-, -, hnone⟩ | ⟨creditAccountId, reservationId, -, -, hinsert,
    haccepted⟩
  · change Occupations db₁.requestProviderAttempts db.providerInvocationUsageFacts
      db'.budgetClaims db'.usageReservations
    rw [hnone]
    exact hclaimed
  · have hunits : 0 ≤ admission.maximumChargeUnits := by
      simp only [acceptsReservation, Bool.and_eq_true, decide_eq_true_eq] at haccepted
      exact haccepted.1.2
    exact hclaimed.reserved (Table.find?_insert_self hpersisted.attempts) hprotected rfl rfl
      hunits hinsert

/-- **Occupations.** Every transition keeps the rows that attempts occupy. -/
theorem Transition.occupations {input : Input} (h : Transition input db db')
    (hdb : OccupationsOf db) : OccupationsOf db' := by
  cases h with
  | idle => exact hdb
  | leased leases hcommand => exact hdb
  | logged row haccepts => exact hdb
  | reconfigured configuration hcommand => exact hdb
  | admittedProtected command hcommand id _ hadmitted => exact hadmitted.occupations hdb
  | admittedCpaBasic command hcommand id _ hadmitted => exact hadmitted.occupations hdb
  | dispatched attempt _ hpending hupdated =>
    have hrewritten := Occupations.updated hdb hupdated.find (.dispatched hpending) rfl
      hupdated.attempts
    unfold OccupationsOf
    rw [hupdated.frame]
    exact hrewritten
  | suspended _ hsuspended => exact hsuspended.occupations hdb
  | settled command zeroReservationOutcome now fact _ hfinal => exact hfinal.occupations hdb
  | failed executions harbitrated => exact hdb

end Frely.Application
