import Frely.Application.Equiv.Occupations

/-!
# One Plan source for each execution

An attempt names its Plan source in its terms, its claim, its reservation or its fact
(`RecordedSource`).  `Sources`: all of them are the source that the execution of the request
selected, and so is the one on the request log.  For a `cpa-basic@1` attempt that goes through the
request log, which the database keeps on the selected source.
-/

namespace Frely.Application

open Frely.Billing Frely.Postgres Frely.RequestExecution Checked Transaction

/-- The Plan sources that the rows of an attempt name. -/
inductive RecordedSource (db : Database) (attempt : RequestProviderAttempt) : String → Prop where
  | terms (terms : ClaimlessInvocationTerms) (h : attempt.material.terms = .cpaBasicV1 terms) :
      RecordedSource db attempt terms.planSubscriptionId
  | claim (claim : BudgetClaim) (h : db.budgetClaims.find? attempt.id = some claim) :
      RecordedSource db attempt claim.references.planSubscriptionId
  | reservation (reservation : UsageReservation)
      (h : db.usageReservations.find? attempt.id = some reservation) :
      RecordedSource db attempt reservation.planSubscriptionId
  | fact (fact : ProviderInvocationUsageFact)
      (h : db.providerInvocationUsageFacts.find? attempt.id = some fact) :
      RecordedSource db attempt fact.references.planSubscriptionId

/-- Every execution has a request log, which names no other source. -/
def Logged (db : Database) : Prop :=
  ∀ requestId selected, selectedSourceOf db.requestExecutions requestId = some selected →
    ∃ log, db.requestLogs.find? requestId = some log ∧
      ∀ source, log.planSubscriptionId = some source → source = selected

/-- Every attempt is charged to the source that its request has selected. -/
structure Sources (db : Database) : Prop where
  recorded : ∀ attempt ∈ db.requestProviderAttempts, ∀ source, RecordedSource db attempt source →
    selectedSourceOf db.requestExecutions attempt.identity.requestId = some source
  logged : Logged db

variable {db db' : Database}

variable {source : String}

/-- An execution keeps the source it selected. -/
theorem CoreChange.keeps_selected (h : CoreChange db db') {requestId : String}
    (hselected : selectedSourceOf db.requestExecutions requestId = some source) :
    selectedSourceOf db'.requestExecutions requestId = some source := by
  cases h with
  | ended harbitrated hattempts =>
    rw [harbitrated.selectedSourceOf]
    exact hselected
  | persisted command decision id startedAt material started db₁ hindex hadmissible hpersisted
      hexecutions hattempts =>
    rw [hexecutions, hpersisted.selectedSourceOf_after hadmissible]
    split_ifs with hrequest
    · -- only a fallback meets an execution, and it takes over its source
      subst hrequest
      cases hadmissible with
      | first hkind hnone hzero _ =>
        rw [selectedSourceOf, hnone] at hselected
        cases hselected
      | fallback hkind found hfind hrunning howner hcount hsource =>
        rw [selectedSourceOf, hfind] at hselected
        rw [← hselected]
        exact congrArg some hsource.symm
    · exact hselected
  | updated old new hchange hunsettled hfind hattempts harbitrated =>
    rw [harbitrated.selectedSourceOf]
    exact hselected

variable {attempt old : RequestProviderAttempt}

/-- Rewriting an attempt adds no source to what its rows named. -/
theorem RecordedSource.of_change (hid : attempt.id = old.id)
    (hmaterial : attempt.material = old.material) (h : RecordedSource db attempt source) :
    RecordedSource db old source := by
  cases h with
  | terms terms h => exact .terms terms (hmaterial ▸ h)
  | claim claim h => exact .claim claim (hid ▸ h)
  | reservation reservation h => exact .reservation reservation (hid ▸ h)
  | fact fact h => exact .fact fact (hid ▸ h)

/-- The other tables do not matter. -/
theorem RecordedSource.of_tables (h : RecordedSource db' attempt source)
    (hclaims : db.budgetClaims = db'.budgetClaims)
    (hreservations : db.usageReservations = db'.usageReservations)
    (hfacts : db.providerInvocationUsageFacts = db'.providerInvocationUsageFacts) :
    RecordedSource db attempt source := by
  cases h with
  | terms terms h => exact .terms terms h
  | claim claim h => exact .claim claim (hclaims ▸ h)
  | reservation reservation h => exact .reservation reservation (hreservations ▸ h)
  | fact fact h => exact .fact fact (hfacts ▸ h)

/-- What a transition has to do to the sources that are named: every one was named before, on the
same request, or is the one its execution selected. -/
def NamesNoOther (db db' : Database) : Prop :=
  ∀ attempt ∈ db'.requestProviderAttempts, ∀ source, RecordedSource db' attempt source →
    (∃ before ∈ db.requestProviderAttempts, before.identity = attempt.identity ∧
      RecordedSource db before source) ∨
    selectedSourceOf db'.requestExecutions attempt.identity.requestId = some source

/-- A new attempt has no rows yet. -/
theorem OccupationsOf.no_rows (h : OccupationsOf db) {id : String}
    (hfree : db.requestProviderAttempts.find? id = none) :
    db.budgetClaims.find? id = none ∧ db.usageReservations.find? id = none ∧
      db.providerInvocationUsageFacts.find? id = none := by
  refine ⟨?_, ?_, ?_⟩
  · cases hfind : db.budgetClaims.find? id with
    | none => rfl
    | some claim =>
      obtain ⟨attempt, hattempt, -⟩ := h.claim claim (Table.mem_of_find? hfind)
      have hkey : claim.providerAttemptId = id := Table.key_of_find? hfind
      rw [hkey, hfree] at hattempt
      cases hattempt
  · cases hfind : db.usageReservations.find? id with
    | none => rfl
    | some reservation =>
      obtain ⟨attempt, hattempt, -⟩ := h.reservation reservation (Table.mem_of_find? hfind)
      have hkey : reservation.providerAttemptId = id := Table.key_of_find? hfind
      rw [hkey, hfree] at hattempt
      cases hattempt
  · cases hfind : db.providerInvocationUsageFacts.find? id with
    | none => rfl
    | some fact =>
      obtain ⟨-, attempt, hattempt, -⟩ := h.fact fact (Table.mem_of_find? hfind)
      have hkey : fact.providerAttemptId = id := Table.key_of_find? hfind
      rw [hkey, hfree] at hattempt
      cases hattempt

/-! ### Admissions -/

variable {now : Timestamp} {command : AdmitCpaBasicProviderInvocationCommand}

theorem AdmittedProtected.namesNoOther {command : AdmitProviderInvocationCommand} {id : String}
    (h : AdmittedProtected db command now id db') (hoccupations : OccupationsOf db) :
    NamesNoOther db db' := by
  obtain ⟨admission, execution, db₁, usageReservationId, hadmissible, hpersisted, hoccupied⟩ := h
  obtain ⟨hfree, -⟩ := Table.insert?_eq_some.mp hpersisted.attempts
  obtain ⟨-, hnoReservation, hnoFact⟩ := hoccupations.no_rows hfree
  have hclaims := hoccupied.claims
  have hreservations := hoccupied.reservations
  rw [hpersisted.frame] at hclaims hreservations
  have hexecutions : db'.requestExecutions = db₁.requestExecutions := by rw [hoccupied.frame]
  have hattempts : db'.requestProviderAttempts = db₁.requestProviderAttempts := by
    rw [hoccupied.frame]
  have hfacts : db'.providerInvocationUsageFacts = db.providerInvocationUsageFacts := by
    rw [hoccupied.frame, hpersisted.frame]
  have hselected : selectedSourceOf db'.requestExecutions command.requestId =
      some command.planSubscriptionId := by
    rw [hexecutions, hpersisted.selectedSourceOf_after hadmissible.admissible]
    exact (if_pos rfl).trans (congrArg some hadmissible.selected)
  intro attempt hattempt source hsource
  rw [hattempts] at hattempt
  rcases (Table.mem_insert hpersisted.attempts).mp hattempt with rfl | hold
  · right
    cases hsource with
    | terms terms hterms => cases hadmissible.terms.symm.trans hterms
    | claim claim hclaim =>
      cases (Table.find?_insert_self hclaims).symm.trans hclaim
      exact hselected
    | reservation reservation hreservation =>
      rcases hreservations with ⟨-, -, hnone⟩ | ⟨accountId, reservationId, -, -, hinsert, -⟩
      · rw [hnone] at hreservation
        cases hnoReservation.symm.trans hreservation
      · cases (Table.find?_insert_self hinsert).symm.trans hreservation
        exact hselected
    | fact fact hfact =>
      rw [hfacts] at hfact
      cases hnoFact.symm.trans hfact
  · left
    -- the rows of the other attempts are as they were
    have hne : attempt.id ≠ id := by
      rintro rfl
      have hfound := Table.find?_of_mem hold
      cases hfree.symm.trans hfound
    refine ⟨attempt, hold, rfl, ?_⟩
    cases hsource with
    | terms terms hterms => exact .terms terms hterms
    | claim claim hclaim =>
      exact .claim claim ((Table.find?_insert_of_ne hclaims hne).symm.trans hclaim)
    | reservation reservation hreservation =>
      rcases hreservations with ⟨-, -, hnone⟩ | ⟨accountId, reservationId, -, -, hinsert, -⟩
      · rw [hnone] at hreservation
        exact .reservation reservation hreservation
      · exact .reservation reservation
          ((Table.find?_insert_of_ne hinsert hne).symm.trans hreservation)
    | fact fact hfact =>
      rw [hfacts] at hfact
      exact .fact fact hfact

/-- A claimless admission names the source of the request log, which is the selected one. -/
theorem CpaBasicAdmissible.selected {admission : CpaBasicAdmission}
    (h : CpaBasicAdmissible db command admission) (hsources : Sources db) :
    admission.decision.selectedSourceRef = command.planSubscriptionId := by
  cases h.admissible with
  | first hkind hnone hindex hselected =>
    have hzero : command.attemptIndex = 0 := hindex
    have hsome : some command.planSubscriptionId = some admission.decision.selectedSourceRef := by
      rw [← hselected]
      exact (if_pos hzero).symm
    exact (Option.some.inj hsome).symm
  | fallback hkind found hfind hrunning howner hcount hselected =>
    have hsource : selectedSourceOf db.requestExecutions command.requestId =
        some found.selectedPlanSubscriptionId := by
      rw [selectedSourceOf]
      exact congrArg (Option.map _) hfind
    obtain ⟨log, hlog, hlogged⟩ := hsources.logged _ _ hsource
    obtain ⟨request, hrequest, hplan⟩ := h.request
    cases hrequest.symm.trans hlog
    exact hselected.symm.trans (hlogged _ hplan).symm

theorem AdmittedCpaBasic.namesNoOther {id : String} (h : AdmittedCpaBasic db command now id db')
    (hoccupations : OccupationsOf db) (hsources : Sources db) : NamesNoOther db db' := by
  obtain ⟨admission, execution, hadmissible, hpersisted⟩ := h
  obtain ⟨hfree, -⟩ := Table.insert?_eq_some.mp hpersisted.attempts
  obtain ⟨hnoClaim, hnoReservation, hnoFact⟩ := hoccupations.no_rows hfree
  obtain ⟨terms, hterms, hplan⟩ := hadmissible.terms
  have hclaims : db'.budgetClaims = db.budgetClaims := by rw [hpersisted.frame]
  have hreservations : db'.usageReservations = db.usageReservations := by rw [hpersisted.frame]
  have hfacts : db'.providerInvocationUsageFacts = db.providerInvocationUsageFacts := by
    rw [hpersisted.frame]
  intro attempt hattempt source hsource
  rcases (Table.mem_insert hpersisted.attempts).mp hattempt with rfl | hold
  · right
    cases hsource with
    | terms found hfound =>
      cases hterms.symm.trans hfound
      rw [hpersisted.selectedSourceOf_after hadmissible.admissible]
      refine (if_pos rfl).trans (congrArg some ?_)
      exact (hadmissible.selected hsources).trans hplan.symm
    | claim claim hclaim =>
      rw [hclaims] at hclaim
      cases hnoClaim.symm.trans hclaim
    | reservation reservation hreservation =>
      rw [hreservations] at hreservation
      cases hnoReservation.symm.trans hreservation
    | fact fact hfact =>
      rw [hfacts] at hfact
      cases hnoFact.symm.trans hfact
  · left
    refine ⟨attempt, hold, rfl, ?_⟩
    cases hsource with
    | terms terms hterms => exact .terms terms hterms
    | claim claim hclaim => exact .claim claim (hclaims ▸ hclaim)
    | reservation reservation hreservation =>
      exact .reservation reservation (hreservations ▸ hreservation)
    | fact fact hfact => exact .fact fact (hfacts ▸ hfact)

/-! ### Rewriting an attempt -/

/-- An attempt is rewritten, and no row names a source it did not name before. -/
theorem namesNoOther_of_updated {old new : RequestProviderAttempt}
    (hfind : db.requestProviderAttempts.find? old.id = some old) (hchange : AttemptChange old new)
    (hset : db.requestProviderAttempts.Sets new db'.requestProviderAttempts)
    (hrows : ∀ attempt ∈ db.requestProviderAttempts, ∀ source, RecordedSource db' attempt source →
      RecordedSource db attempt source) : NamesNoOther db db' := by
  obtain ⟨hid, hidentity, -, hmaterial⟩ := hchange.keeps
  intro attempt hattempt source hsource
  left
  rcases hset.mem_iff.mp hattempt with rfl | ⟨hmem, -⟩
  · have hold : old ∈ db.requestProviderAttempts := Table.mem_of_find? hfind
    exact ⟨old, hold, hidentity.symm, hrows old hold source (hsource.of_change hid hmaterial)⟩
  · exact ⟨attempt, hmem, rfl, hrows attempt hmem source hsource⟩

theorem Suspended.namesNoOther (h : Suspended db db') : NamesNoOther db db' := by
  obtain ⟨old, new, costExposure, now, db₁, _, hsuspends, hupdated, hmarked⟩ := h
  have hchange : AttemptChange old new := .suspended new costExposure hsuspends
  have hclaims : db₁.budgetClaims = db.budgetClaims := by rw [hupdated.frame]
  have hreservations : db₁.usageReservations = db.usageReservations := by rw [hupdated.frame]
  have hfacts : db₁.providerInvocationUsageFacts = db.providerInvocationUsageFacts := by
    rw [hupdated.frame]
  cases hmarked with
  | nothing hclosed =>
    refine namesNoOther_of_updated hupdated.find hchange hupdated.attempts ?_
    intro attempt _ source hsource
    cases hsource with
    | terms terms hterms => exact .terms terms hterms
    | claim claim hclaim => exact .claim claim (hclaims ▸ hclaim)
    | reservation reservation hreservation =>
      exact .reservation reservation (hreservations ▸ hreservation)
    | fact fact hfact => exact .fact fact (hfacts ▸ hfact)
  | reconciling marked hfind hopen =>
    refine namesNoOther_of_updated hupdated.find hchange hupdated.attempts ?_
    intro attempt _ source hsource
    cases hsource with
    | terms terms hterms => exact .terms terms hterms
    | claim claim hclaim => exact .claim claim (hclaims ▸ hclaim)
    | reservation reservation hreservation =>
      -- the marked reservation keeps its source
      have hmodified := Table.find?_modify db₁.usageReservations old.id
        (reconcilingReservation costExposure now) (fun _ => rfl) attempt.id
      have hfound := hmodified.symm.trans hreservation
      split_ifs at hfound with hkey
      · obtain ⟨before, hbefore, rfl⟩ := Option.map_eq_some_iff.mp hfound
        rw [← hkey, hreservations] at hbefore
        exact .reservation before hbefore
      · exact .reservation reservation (hreservations ▸ hfound)
    | fact fact hfact => exact .fact fact (hfacts ▸ hfact)

theorem FinalUsage.namesNoOther {command : SettleProviderInvocationCommand}
    {zeroReservationOutcome : ZeroReservationOutcome} {fact : ProviderInvocationUsageFact}
    (h : FinalUsage db command zeroReservationOutcome now fact db') : NamesNoOther db db' := by
  obtain ⟨attempt, expected, conflict, db₁, _, hfind, hunsettled, hexpected, hsettled,
    hupdated⟩ := h
  have hid : attempt.id = command.providerAttemptId := Table.key_of_find? hfind
  have hset := hupdated.attempts
  have hfound := hupdated.find
  have hattempts : db₁.requestProviderAttempts = db.requestProviderAttempts := by
    rw [hsettled.frame]
  rw [hattempts] at hset hfound
  have hclaims : db'.budgetClaims = db.budgetClaims.erase fact.providerAttemptId := by
    rw [hupdated.frame]
    exact hsettled.claims
  have hreservations : db'.usageReservations = endedReservations
      (settlementInput db command zeroReservationOutcome now attempt) fact.postingLedgerEventId
      db.usageReservations := by
    rw [hupdated.frame]
    exact hsettled.reservations
  have hfacts : db.providerInvocationUsageFacts.insert? fact =
      some db'.providerInvocationUsageFacts := by
    rw [hupdated.frame]
    exact hsettled.facts
  refine namesNoOther_of_updated hfound (.finalized command expected conflict now hexpected) hset ?_
  intro other hother source hsource
  cases hsource with
  | terms terms hterms => exact .terms terms hterms
  | claim claim hclaim =>
    rw [hclaims, Table.find?_erase] at hclaim
    split_ifs at hclaim
    exact .claim claim hclaim
  | reservation reservation hreservation =>
    have hmodified := Table.find?_modify db.usageReservations command.providerAttemptId
      (endedReservation zeroReservationOutcome fact.postingLedgerEventId now) (fun _ => rfl)
      other.id
    have hended := hmodified.symm.trans (hreservations ▸ hreservation)
    split_ifs at hended with hkey
    · obtain ⟨before, hbefore, rfl⟩ := Option.map_eq_some_iff.mp hended
      rw [← hkey] at hbefore
      exact .reservation before hbefore
    · exact .reservation reservation hended
  | fact found hfact =>
    rw [Table.find?_insert hfacts] at hfact
    split_ifs at hfact with hkey
    · -- the new fact names the source of the claim it replaces, or of the terms
      cases hfact
      have hkey' : other.id = command.providerAttemptId := hkey.trans hsettled.attempt
      have hsame : other = attempt :=
        Table.eq_of_key_eq hother (Table.mem_of_find? hfind) (hkey'.trans hid.symm)
      subst hsame
      have hoccupation := hsettled.occupation
      unfold SettledOccupation at hoccupation
      split at hoccupation
      · obtain ⟨claim, hclaim, hreferences⟩ := hoccupation
        rw [hreferences]
        exact .claim claim (hkey ▸ hclaim)
      · next terms hterms =>
          obtain ⟨-, -, hreferences⟩ := hoccupation
          rw [hreferences]
          exact .terms terms hterms
    · exact .fact found hfact

/-! ### Transitions -/

variable {input : Input}

theorem namesNoOther_of_same (hattempts : db'.requestProviderAttempts = db.requestProviderAttempts)
    (hrows : ∀ attempt source, RecordedSource db' attempt source →
      RecordedSource db attempt source) : NamesNoOther db db' := by
  intro attempt hattempt source hsource
  rw [hattempts] at hattempt
  exact .inl ⟨attempt, hattempt, rfl, hrows attempt source hsource⟩

theorem Transition.namesNoOther (h : Transition input db db') (hoccupations : OccupationsOf db)
    (hsources : Sources db) : NamesNoOther db db' := by
  cases h with
  | idle => exact namesNoOther_of_same rfl fun _ _ h => h
  | leased leases hcommand => exact namesNoOther_of_same rfl fun _ _ h => h.of_tables rfl rfl rfl
  | logged row haccepts => exact namesNoOther_of_same rfl fun _ _ h => h.of_tables rfl rfl rfl
  | reconfigured configuration hcommand =>
    exact namesNoOther_of_same rfl fun _ _ h => h.of_tables rfl rfl rfl
  | admittedProtected command hcommand id _ hadmitted => exact hadmitted.namesNoOther hoccupations
  | admittedCpaBasic command hcommand id _ hadmitted =>
    exact hadmitted.namesNoOther hoccupations hsources
  | dispatched attempt _ hpending hupdated =>
    refine namesNoOther_of_updated hupdated.find (.dispatched hpending) hupdated.attempts ?_
    intro other _ source hsource
    have hframe := hupdated.frame
    exact hsource.of_tables (by rw [hframe]) (by rw [hframe]) (by rw [hframe])
  | suspended _ hsuspended => exact hsuspended.namesNoOther
  | settled command zeroReservationOutcome now fact _ hfinal => exact hfinal.namesNoOther
  | failed executions harbitrated =>
    exact namesNoOther_of_same rfl fun _ _ h => h.of_tables rfl rfl rfl

/-! ### The request log -/

theorem Logged.of_arbitrated (h : Logged db)
    (harbitrated : Arbitrated db.requestExecutions db'.requestExecutions)
    (hlogs : db'.requestLogs = db.requestLogs) : Logged db' := by
  intro requestId selected hselected
  rw [harbitrated.selectedSourceOf] at hselected
  rw [hlogs]
  exact h requestId selected hselected

theorem selectedSourceOf_eq_some {executions : Table RequestExecution} {requestId selected : String}
    (h : selectedSourceOf executions requestId = some selected) :
    ∃ execution, executions.find? requestId = some execution ∧
      execution.selectedPlanSubscriptionId = selected :=
  Option.map_eq_some_iff.mp h

/-- The database refuses to create an execution, and to rewrite a request log, against this. -/
theorem Logged.of_persisted {db₁ : Database} (h : Logged db) {command : AdmissionCommand}
    {decision : NewAdmissionDecision} {execution : RequestExecution} {request : RequestLog}
    (hrequest : db.requestLogs.find? command.requestId = some request)
    (hadmissible : Admissible db command decision)
    (hpersisted : PersistedAttempt db command.toProviderAttemptAdmissionIdentity decision attempt
      execution db₁)
    (hexecutions : db'.requestExecutions = db₁.requestExecutions)
    (hlogs : db'.requestLogs = db.requestLogs) : Logged db' := by
  intro requestId selected hselected
  rw [hexecutions, hpersisted.selectedSourceOf_after hadmissible] at hselected
  rw [hlogs]
  split_ifs at hselected with hsame
  · subst hsame
    cases hselected
    refine ⟨request, hrequest, ?_⟩
    intro source hsource
    cases hpersisted.started with
    | first hkind hnone haccepts =>
      simp only [acceptsExecution, newRequestExecution] at haccepts
      rw [hrequest] at haccepts
      dsimp only at haccepts
      rw [hsource, Option.all_some] at haccepts
      exact of_decide_eq_true haccepts
    | fallback hkind found hfind =>
      cases hadmissible with
      | first hkind' => exact absurd (hkind'.symm.trans hkind) AdmissionKind.noConfusion
      | fallback _ execution' hfind' _ _ _ hsource' =>
        cases hfind'.symm.trans hfind
        have hselected' : selectedSourceOf db.requestExecutions command.requestId =
            some found.selectedPlanSubscriptionId := by
          rw [selectedSourceOf, hfind]
          rfl
        obtain ⟨log, hlog, hnames⟩ := h _ _ hselected'
        cases hrequest.symm.trans hlog
        exact (hnames source hsource).trans hsource'
  · exact h requestId selected hselected

theorem Logged.of_put {row : RequestLog} (h : Logged db)
    (haccepts : ∀ old, db.requestLogs.find? row.id = some old →
      acceptsRequestLogUpdate db old row) :
    Logged { db with requestLogs := db.requestLogs.put row } := by
  intro requestId selected hselected
  obtain ⟨old, hold, hnames⟩ := h requestId selected hselected
  by_cases hsame : requestId = row.id
  · subst hsame
    refine ⟨row, (Table.sets_put db.requestLogs row).find?_self, ?_⟩
    intro source hsource
    obtain ⟨execution, hfind, rfl⟩ := selectedSourceOf_eq_some hselected
    have haccepted := haccepts old hold
    simp only [acceptsRequestLogUpdate, Bool.and_eq_true] at haccepted
    have hall := haccepted.2
    rw [hfind] at hall
    dsimp only at hall
    rw [hsource, Option.all_some] at hall
    exact of_decide_eq_true hall
  · exact ⟨old, ((Table.sets_put db.requestLogs row).find?_of_ne hsame).trans hold, hnames⟩

theorem Transition.logged_step (h : Transition input db db') (hdb : Logged db) : Logged db' := by
  cases h with
  | idle => exact hdb
  | leased leases hcommand => exact hdb
  | logged row haccepts => exact hdb.of_put haccepts
  | reconfigured configuration hcommand => exact hdb
  | admittedProtected command hcommand id _ hadmitted =>
    obtain ⟨admission, execution, db₁, usageReservationId, hadmissible, hpersisted, hoccupied⟩ :=
      hadmitted
    obtain ⟨request, hrequest⟩ := hadmissible.request
    refine hdb.of_persisted hrequest hadmissible.admissible hpersisted ?_ ?_
    · rw [hoccupied.frame]
    · rw [hoccupied.frame, hpersisted.frame]
  | admittedCpaBasic command hcommand id _ hadmitted =>
    obtain ⟨admission, execution, hadmissible, hpersisted⟩ := hadmitted
    obtain ⟨request, hrequest, -⟩ := hadmissible.request
    refine hdb.of_persisted hrequest hadmissible.admissible hpersisted rfl ?_
    rw [hpersisted.frame]
  | dispatched attempt _ hpending hupdated =>
    refine hdb.of_arbitrated hupdated.executions ?_
    rw [hupdated.frame]
  | suspended _ hsuspended =>
    obtain ⟨old, new, costExposure, now, db₁, _, hsuspends, hupdated, hmarked⟩ := hsuspended
    have hdb₁ : Logged db₁ := by
      refine hdb.of_arbitrated hupdated.executions ?_
      rw [hupdated.frame]
    cases hmarked with
    | nothing hclosed => exact hdb₁
    | reconciling reservation hfind hopen => exact hdb₁
  | settled command zeroReservationOutcome now fact _ hfinal =>
    obtain ⟨attempt, expected, conflict, db₁, _, hfind, hunsettled, hexpected, hsettled,
      hupdated⟩ := hfinal
    have hexecutions := hupdated.executions
    rw [hsettled.frame] at hexecutions
    refine hdb.of_arbitrated hexecutions ?_
    rw [hupdated.frame, hsettled.frame]
  | failed executions harbitrated => exact hdb.of_arbitrated harbitrated rfl

/-- **Sources.** Every transition keeps one source for each execution. -/
theorem Transition.sources (h : Transition input db db') (hoccupations : OccupationsOf db)
    (hdb : Sources db) : Sources db' where
  recorded := by
    intro attempt hattempt source hsource
    rcases h.namesNoOther hoccupations hdb attempt hattempt source hsource with
      ⟨before, hbefore, hidentity, hnamed⟩ | hselected
    · rw [← hidentity]
      exact h.coreChange.keeps_selected (hdb.recorded before hbefore source hnamed)
    · exact hselected
  logged := h.logged_step hdb.logged

end Frely.Application
