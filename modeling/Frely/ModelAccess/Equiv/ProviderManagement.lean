import Frely.Lib.Machine
import Frely.ModelAccess.ProviderManagement

/-!
# Transitions of a Provider's binding are fenced

`providerStep_effect` says once what a step does to the row and the binding of one Provider; the
properties of runs follow from it.  Two facts carry them: a binding in transition has the revision
of the latest begun transition (`LatestBegun`), and a transition that has begun and is not completed
has left its binding in transition (`OpenTransition`).
-/

namespace Frely.ProviderManagement

open Checked Frely.ModelAccess Machine Transaction

/-! ### One Provider -/

/-- The row and the binding of a Provider. -/
structure ProviderView where
  provider : Option ProviderRow
  binding : Option ProviderBinding

/-- What the tables hold of one Provider. -/
def viewOf (p : String) (db : ProviderDatabase) : ProviderView :=
  ⟨db.providers.find? p, db.bindings.find? p⟩

/-- The Provider is there and enabled. -/
def ProviderView.isEnabled (view : ProviderView) : Bool :=
  view.provider.any (·.status = .enabled)

/-- What the credential depends on. -/
def ProviderView.material (view : ProviderView) : Option (String × String) × Option String :=
  (view.provider.map fun row => (row.kind, row.configJson), view.binding.map (·.authMethod))

/-- The revision of a transition that began with a command. -/
def begunRevision (p : String) : ProviderCommand → ProviderOutput → Option Int
  | .beginProviderBindingTransition id _, .ok (.transition view) =>
    if id = p then some view.revision else none
  | _, _ => none

/-- The revision of a transition that a command completed, and what it recorded. -/
def completion (p : String) : ProviderCommand → ProviderOutput →
    Option (Int × CompleteProviderBindingTransitionCommand)
  | .completeProviderBindingTransition id expectedRevision command, .ok _ =>
    if id = p then some (expectedRevision, command) else none
  | _, _ => none

/-- The command changes this Provider. -/
def isChangeOf (p : String) : ProviderCommand → Bool
  | .changeProvider id _ => id = p
  | _ => false

/-- What a command does to one Provider. -/
inductive ProviderEffect (p : String) :
    ProviderCommand → ProviderOutput → ProviderView → ProviderView → Prop where
  | quiet {command : ProviderCommand} {output : ProviderOutput} {view : ProviderView}
      (hbegun : begunRevision p command output = none)
      (hcompletion : completion p command output = none) :
      ProviderEffect p command output view view
  | statusSet {status : ProviderStatus} {output : ProviderOutput} {row row' : ProviderRow}
      {binding : Option ProviderBinding}
      (hsame : row'.kind = row.kind ∧ row'.configJson = row.configJson)
      (hready : row'.status = .enabled → binding.map (·.syncStatus) = some .ready) :
      ProviderEffect p (.changeProviderStatus p status) output ⟨some row, binding⟩
        ⟨some row', binding⟩
  | changed {command : ProviderDefinitionCommand} {output : ProviderOutput} {row : ProviderRow}
      {binding : Option ProviderBinding} {definition : ProviderDefinition}
      {status : ProviderStatus} {now : String}
      (hidle : binding.bind (·.errorCode) ≠ some transitionCode)
      (hready : status = .enabled → binding.map (·.syncStatus) = some .ready) :
      ProviderEffect p (.changeProvider p command) output ⟨some row, binding⟩
        ⟨some (definedProvider now definition status row),
          some (upsertedBinding binding p definition.authMethod now
            (materialChanged row binding definition))⟩
  | begun {options : BeginProviderBindingTransitionCommand} {row row' : ProviderRow}
      {binding : ProviderBinding} {now : String}
      (hsame : row'.kind = row.kind ∧ row'.configJson = row.configJson)
      (hstatus : row'.status = .enabled → row.status = .enabled) :
      ProviderEffect p (.beginProviderBindingTransition p options)
        (.ok (.transition
          { begunBinding now binding with previousSyncStatus := binding.syncStatus }))
        ⟨some row, some binding⟩ ⟨some row', some (begunBinding now binding)⟩
  | completed {command : CompleteProviderBindingTransitionCommand} {answer : ProviderAnswer}
      {row : ProviderRow} {binding : ProviderBinding} {now : String}
      (hopen : binding.InTransition) :
      ProviderEffect p (.completeProviderBindingTransition p binding.revision command) (.ok answer)
        ⟨some row, some binding⟩ ⟨some row, some (completedBinding now command binding)⟩
  | removed {output : ProviderOutput} {row : ProviderRow} {binding : Option ProviderBinding}
      (hcleared : binding.all credentialCleared) :
      ProviderEffect p (.removeProvider p) output ⟨some row, binding⟩ ⟨none, none⟩

/-! ### What the commands do -/

variable {id p : String} {db db' : ProviderDatabase} {row : ProviderRow} {binding : ProviderBinding}
  {output : ProviderOutput} {status : ProviderStatus}

theorem id_of_viewOf {binding : Option ProviderBinding} (h : viewOf id db = ⟨some row, binding⟩) :
    row.id = id :=
  Table.key_of_find? (congrArg ProviderView.provider h)

theorem providerId_of_viewOf {row : Option ProviderRow} (h : viewOf id db = ⟨row, some binding⟩) :
    binding.providerId = id :=
  Table.key_of_find? (congrArg ProviderView.binding h)

/-- A row and a binding of one Provider are put in their places. -/
theorem viewOf_put {p id : String} {db db' : ProviderDatabase} {row : ProviderRow}
    {binding : ProviderBinding} (hrow : row.id = id) (hbinding : binding.providerId = id)
    (hproviders : ∀ q, db'.providers.find? q = (db.providers.put row).find? q)
    (hbindings : db'.bindings = db.bindings.put binding) :
    viewOf p db' = if p = id then ⟨some row, some binding⟩ else viewOf p db := by
  dsimp only [viewOf]
  rw [hproviders, hbindings, Table.find?_put_of_key _ hrow, Table.find?_put_of_key _ hbinding]
  split <;> rfl

theorem viewOf_putProvider (hrow : row.id = id)
    (hproviders : ∀ q, db'.providers.find? q = (db.providers.put row).find? q)
    (hbindings : db'.bindings = db.bindings) :
    viewOf p db' = if p = id then ⟨some row, db.bindings.find? p⟩ else viewOf p db := by
  dsimp only [viewOf]
  rw [hproviders, hbindings, Table.find?_put_of_key _ hrow]
  split <;> rfl

theorem viewOf_putBinding {p id : String} {db db' : ProviderDatabase} {binding : ProviderBinding}
    (hbinding : binding.providerId = id) (hproviders : db'.providers = db.providers)
    (hbindings : db'.bindings = db.bindings.put binding) :
    viewOf p db' = if p = id then ⟨db.providers.find? p, some binding⟩ else viewOf p db := by
  dsimp only [viewOf]
  rw [hproviders, hbindings, Table.find?_put_of_key _ hbinding]
  split <;> rfl

theorem viewOf_erase (hproviders : db'.providers = db.providers.erase id)
    (hbindings : db'.bindings = db.bindings.erase id) :
    viewOf p db' = if p = id then ⟨none, none⟩ else viewOf p db := by
  dsimp only [viewOf]
  rw [hproviders, hbindings, Table.find?_erase, Table.find?_erase]
  split <;> rfl

/-- A command on one Provider: what it does to it, and that it leaves the other ones alone. -/
theorem ProviderEffect.of_view {command : ProviderCommand} {view' : ProviderView}
    (hview : viewOf p db' = if p = id then view' else viewOf p db)
    (hself : p = id → ProviderEffect p command output (viewOf p db) view')
    (hbegun : p ≠ id → begunRevision p command output = none)
    (hcompletion : p ≠ id → completion p command output = none) :
    ProviderEffect p command output (viewOf p db) (viewOf p db') := by
  by_cases hp : p = id
  · rw [hview, if_pos hp]
    exact hself hp
  · rw [hview, if_neg hp]
    exact .quiet (hbegun hp) (hcompletion hp)

section Commands

variable {env : ProviderEnvironment} {s s' : Session ProviderDatabase}

theorem run_lockProvider_bind {α : Type} {f : ProviderRow → ProviderTxn α} {a : α}
    (h : (lockProvider id >>= f) s = .ok (a, s')) :
    ∃ row, s.database.providers.find? id = some row ∧ f row s = .ok (a, s') := by
  obtain ⟨row, hquery, hrest⟩ := run_read_bind.mp h
  refine ⟨row, ?_, hrest⟩
  split at hquery
  · next provider hfind =>
      cases hquery
      exact hfind
  · cases hquery

theorem run_findBinding_bind {α : Type} {f : ProviderBinding → ProviderTxn α} {a : α}
    (h : (findBinding id >>= f) s = .ok (a, s')) :
    ∃ binding, s.database.bindings.find? id = some binding ∧ f binding s = .ok (a, s') := by
  obtain ⟨binding, hquery, hrest⟩ := run_read_bind.mp h
  refine ⟨binding, ?_, hrest⟩
  split at hquery
  · next found hfind =>
      cases hquery
      exact hfind
  · cases hquery

variable {u : Unit}

theorem putProvider_eq_ok (h : putProvider row s = .ok (u, s')) :
    s'.database = { s.database with providers := s.database.providers.put row } :=
  write_some_eq_ok h

theorem putBinding_eq_ok (h : putBinding binding s = .ok (u, s')) :
    s'.database = { s.database with bindings := s.database.bindings.put binding } :=
  write_some_eq_ok h

theorem requireProviderReady_eq_ok (h : requireProviderReady id db = .ok u) :
    (db.bindings.find? id).map (·.syncStatus) = some .ready := by
  unfold requireProviderReady at h
  obtain ⟨_, -, hready⟩ := bind_eq_ok.mp h
  by_contra hnot
  exact rejectIf_eq_ok.mp hready (.inl hnot)

theorem ready_of_check
    (h : (if status = .enabled then requireProviderReady id db else .ok ()) = .ok u) :
    status = .enabled → (db.bindings.find? id).map (·.syncStatus) = some .ready := by
  intro henabled
  rw [if_pos henabled] at h
  exact requireProviderReady_eq_ok h

theorem upsertedBinding_providerId {binding : Option ProviderBinding}
    (h : viewOf id db = ⟨some row, binding⟩) (authMethod now : String) (material : Bool) :
    (upsertedBinding binding id authMethod now material).providerId = id := by
  cases binding with
  | none => rfl
  | some binding =>
    have hid := providerId_of_viewOf h
    dsimp only [upsertedBinding, changedBinding]
    split <;> exact hid

theorem changeProvider_effect (p : String) {command : ProviderDefinitionCommand}
    {row' : ProviderRow} (h : changeProvider env id command s = .ok (row', s')) :
    ProviderEffect p (.changeProvider id command) output (viewOf p s.database)
      (viewOf p s'.database) := by
  unfold changeProvider at h
  obtain ⟨row, hfind, hrest⟩ := run_lockProvider_bind h
  obtain ⟨binding, hbinding, hrest⟩ := run_read_bind.mp hrest
  obtain ⟨definition, -, hrest⟩ := run_check_bind.mp hrest
  obtain ⟨_, -, hrest⟩ := run_check_bind.mp hrest
  obtain ⟨_, -, hrest⟩ := run_check_bind.mp hrest
  obtain ⟨_, -, hrest⟩ := run_check_bind.mp hrest
  obtain ⟨_, hidle, hrest⟩ := run_check_bind.mp hrest
  obtain ⟨_, hready, hrest⟩ := run_read_bind.mp hrest
  obtain ⟨_, s₂, hprovider, hrest⟩ := run_bind.mp hrest
  obtain ⟨_, s₃, hput, hrest⟩ := run_bind.mp hrest
  obtain ⟨-, rfl⟩ := run_pure.mp hrest
  have hview : viewOf id s.database = ⟨some row, binding⟩ :=
    congrArg₂ ProviderView.mk hfind (Except.ok.inj hbinding)
  have hdb := putBinding_eq_ok hput
  rw [putProvider_eq_ok hprovider] at hdb
  have hid : row.id = id := id_of_viewOf hview
  have hafter := @viewOf_put p _ _ _ _ _
    (show (definedProvider env.nowIso definition _ row).id = id from hid)
    (upsertedBinding_providerId hview definition.authMethod env.nowIso
      (materialChanged row binding definition))
    (fun q => congrArg (fun db : ProviderDatabase => db.providers.find? q) hdb)
    (congrArg ProviderDatabase.bindings hdb)
  refine .of_view hafter ?_ (fun _ => rfl) fun _ => rfl
  rintro rfl
  rw [hview]
  have hready := ready_of_check hready
  rw [Except.ok.inj hbinding] at hready
  exact .changed (rejectIf_eq_ok.mp hidle) hready

theorem changeProviderStatus_effect (p : String) {row' : ProviderRow}
    (h : changeProviderStatus env id status s = .ok (row', s')) :
    ProviderEffect p (.changeProviderStatus id status) output (viewOf p s.database)
      (viewOf p s'.database) := by
  unfold changeProviderStatus at h
  obtain ⟨row, hfind, hrest⟩ := run_lockProvider_bind h
  obtain ⟨binding, hbinding, hrest⟩ := run_read_bind.mp hrest
  obtain ⟨_, -, hrest⟩ := run_check_bind.mp hrest
  obtain ⟨_, hready, hrest⟩ := run_read_bind.mp hrest
  have hready := ready_of_check hready
  have hid : row.id = id := Table.key_of_find? hfind
  obtain ⟨hsame, hstatus, hproviders, hbindings⟩ : (row'.id = row.id ∧ row'.kind = row.kind ∧
      row'.configJson = row.configJson) ∧ row'.status = status ∧
      (∀ q, s'.database.providers.find? q = (s.database.providers.put row').find? q) ∧
      s'.database.bindings = s.database.bindings := by
    split at hrest
    · next hstatus =>
        obtain ⟨rfl, rfl⟩ := run_pure.mp hrest
        exact ⟨⟨rfl, rfl, rfl⟩, hstatus, fun q => (Table.find?_put_of_mem hfind q).symm, rfl⟩
    · obtain ⟨_, s₂, hput, hrest⟩ := run_bind.mp hrest
      obtain ⟨rfl, rfl⟩ := run_pure.mp hrest
      rw [putProvider_eq_ok hput]
      exact ⟨⟨rfl, rfl, rfl⟩, rfl, fun q => rfl, rfl⟩
  refine .of_view (viewOf_putProvider (hsame.1.trans hid) hproviders hbindings) ?_
    (fun _ => rfl) fun _ => rfl
  rintro rfl
  dsimp only [viewOf]
  rw [hfind]
  refine .statusSet hsame.2 ?_
  rw [hstatus]
  exact hready

variable {options : BeginProviderBindingTransitionCommand}

theorem disableForTransition_eq_ok {provider : ProviderRow}
    (hfind : s.database.providers.find? provider.id = some provider)
    (h : disableForTransition env provider options s = .ok (u, s')) :
    ∃ row', (row'.id = provider.id ∧ row'.kind = provider.kind ∧
        row'.configJson = provider.configJson) ∧
      (row'.status = .enabled → provider.status = .enabled) ∧
      (∀ q, s'.database.providers.find? q = (s.database.providers.put row').find? q) ∧
      s'.database.bindings = s.database.bindings := by
  unfold disableForTransition at h
  split at h
  · obtain ⟨_, s₁, hput, hrest⟩ := run_bind.mp h
    obtain ⟨-, rfl⟩ := check_eq_ok.mp hrest
    rw [putProvider_eq_ok hput]
    refine ⟨{ provider with status := .disabled, updatedAt := env.nowIso }, ⟨rfl, rfl, rfl⟩,
      fun henabled => ?_, fun q => rfl, rfl⟩
    cases henabled
  · obtain ⟨-, rfl⟩ := run_pure.mp h
    exact ⟨provider, ⟨rfl, rfl, rfl⟩, fun henabled => henabled,
      fun q => (Table.find?_put_of_mem hfind q).symm, rfl⟩

theorem beginProviderBindingTransition_effect (p : String) {view : ProviderBindingTransitionView}
    (h : beginProviderBindingTransition env id options s = .ok (view, s')) :
    ProviderEffect p (.beginProviderBindingTransition id options) (.ok (.transition view))
      (viewOf p s.database) (viewOf p s'.database) := by
  unfold beginProviderBindingTransition at h
  obtain ⟨row, hfind, hrest⟩ := run_lockProvider_bind h
  obtain ⟨binding, hbinding, hrest⟩ := run_findBinding_bind hrest
  obtain ⟨_, -, hrest⟩ := run_check_bind.mp hrest
  obtain ⟨_, -, hrest⟩ := run_check_bind.mp hrest
  obtain ⟨_, s₂, hdisable, hrest⟩ := run_bind.mp hrest
  obtain ⟨_, s₃, hput, hrest⟩ := run_bind.mp hrest
  obtain ⟨rfl, rfl⟩ := run_pure.mp hrest
  have hid : row.id = id := Table.key_of_find? hfind
  have hbindingId : binding.providerId = id := Table.key_of_find? hbinding
  obtain ⟨row', hsame, hstatus, hproviders, hbindings⟩ :=
    disableForTransition_eq_ok (by rw [hid]; exact hfind) hdisable
  have hdb := putBinding_eq_ok hput
  have hputProviders : ∀ q, s'.database.providers.find? q =
      (s.database.providers.put row').find? q := fun q => by
    rw [hdb]
    exact hproviders q
  have hputBindings :
      s'.database.bindings = s.database.bindings.put (begunBinding env.nowIso binding) := by
    rw [hdb, hbindings]
  have hafter := @viewOf_put p _ _ _ _ _ (hsame.1.trans hid)
    (show (begunBinding env.nowIso binding).providerId = id from hbindingId) hputProviders
    hputBindings
  refine .of_view hafter ?_ (fun hp => if_neg hp.symm) fun _ => rfl
  rintro rfl
  dsimp only [viewOf]
  rw [hfind, hbinding]
  exact .begun hsame.2 hstatus

theorem completeProviderBindingTransition_effect (p : String) {expectedRevision : Int}
    {command : CompleteProviderBindingTransitionCommand} {view : ProviderBindingTransitionView}
    {answer : ProviderAnswer}
    (h : completeProviderBindingTransition env id expectedRevision command s = .ok (view, s')) :
    ProviderEffect p (.completeProviderBindingTransition id expectedRevision command) (.ok answer)
      (viewOf p s.database) (viewOf p s'.database) := by
  unfold completeProviderBindingTransition at h
  obtain ⟨row, hfind, hrest⟩ := run_lockProvider_bind h
  obtain ⟨binding, hbinding, hrest⟩ := run_findBinding_bind hrest
  obtain ⟨_, hcurrent, hrest⟩ := run_check_bind.mp hrest
  obtain ⟨_, s₂, hput, hrest⟩ := run_bind.mp hrest
  obtain ⟨-, rfl⟩ := run_pure.mp hrest
  have hcurrent := rejectIf_eq_ok.mp hcurrent
  rw [not_or, not_not, not_not] at hcurrent
  obtain ⟨rfl, hopen⟩ := hcurrent
  have hdb := putBinding_eq_ok hput
  have hproviders : s'.database.providers = s.database.providers := by
    rw [hdb]
  have hputBindings : s'.database.bindings =
      s.database.bindings.put (completedBinding env.nowIso command binding) := by
    rw [hdb]
  have hafter := @viewOf_putBinding p _ _ _ _
    (show (completedBinding env.nowIso command binding).providerId = id from
      Table.key_of_find? hbinding) hproviders hputBindings
  refine .of_view hafter ?_ (fun _ => rfl) fun hp => if_neg hp.symm
  rintro rfl
  dsimp only [viewOf]
  rw [hfind, hbinding]
  exact .completed hopen

theorem removeProvider_effect (p : String) (h : removeProvider env id s = .ok (u, s')) :
    ProviderEffect p (.removeProvider id) output (viewOf p s.database) (viewOf p s'.database) := by
  unfold removeProvider at h
  obtain ⟨row, hfind, hrest⟩ := run_lockProvider_bind h
  obtain ⟨_, -, hrest⟩ := run_check_bind.mp hrest
  obtain ⟨_, -, hrest⟩ := run_check_bind.mp hrest
  obtain ⟨_, -, hrest⟩ := run_check_bind.mp hrest
  obtain ⟨_, -, hrest⟩ := run_check_bind.mp hrest
  obtain ⟨_, hcleared, hrest⟩ := run_read_bind.mp hrest
  obtain ⟨_, s₂, hmodels, hrest⟩ := run_bind.mp hrest
  obtain ⟨_, s₃, hbindings, hproviders⟩ := run_bind.mp hrest
  have hdb := write_some_eq_ok hproviders
  rw [write_some_eq_ok hbindings, write_some_eq_ok hmodels] at hdb
  refine .of_view (viewOf_erase (congrArg ProviderDatabase.providers hdb)
    (congrArg ProviderDatabase.bindings hdb)) ?_ (fun _ => rfl) fun _ => rfl
  rintro rfl
  dsimp only [viewOf]
  rw [hfind]
  have hcleared := rejectIf_eq_ok.mp hcleared
  rw [not_not] at hcleared
  exact .removed hcleared

/-- The commands on models leave Providers and bindings alone. -/
theorem registerProviderModel_effect (p : String) {providerId name displayName : String}
    {row : ProviderModelRow}
    (h : registerProviderModel env providerId name displayName s = .ok (row, s')) :
    ProviderEffect p (.registerProviderModel providerId name displayName) output
      (viewOf p s.database) (viewOf p s'.database) := by
  unfold registerProviderModel at h
  obtain ⟨_, -, hrest⟩ := run_lockProvider_bind h
  obtain ⟨_, -, hrest⟩ := run_check_bind.mp hrest
  obtain ⟨prior, -, hrest⟩ := run_read_bind.mp hrest
  cases prior with
  | some model =>
    obtain ⟨-, rfl⟩ := run_pure.mp hrest
    exact .quiet rfl rfl
  | none =>
    obtain ⟨id, s₁, hid, hrest⟩ := run_bind.mp hrest
    obtain ⟨_, -, hrest⟩ := run_check_bind.mp hrest
    obtain ⟨_, s₂, hinsert, hrest⟩ := run_bind.mp hrest
    obtain ⟨-, rfl⟩ := run_pure.mp hrest
    have hinsert := write_eq_ok hinsert
    rw [createId_eq_ok hid] at hinsert
    split at hinsert
    · cases hinsert
    · obtain ⟨models, -, hdb⟩ := Option.map_eq_some_iff.mp hinsert
      rw [← hdb]
      exact .quiet rfl rfl

theorem changeProviderModel_effect (p : String) {providerId name : String}
    {command : ChangeProviderModelCommand} {row : ProviderModelRow}
    (h : changeProviderModel env providerId name command s = .ok (row, s')) :
    ProviderEffect p (.changeProviderModel providerId name command) output (viewOf p s.database)
      (viewOf p s'.database) := by
  unfold changeProviderModel at h
  obtain ⟨_, -, hrest⟩ := run_lockProvider_bind h
  obtain ⟨_, -, hrest⟩ := run_check_bind.mp hrest
  obtain ⟨existing, -, hrest⟩ := run_read_bind.mp hrest
  obtain ⟨displayName, -, hrest⟩ := run_check_bind.mp hrest
  dsimp only at hrest
  split at hrest
  · obtain ⟨-, rfl⟩ := run_pure.mp hrest
    exact .quiet rfl rfl
  · obtain ⟨_, s₂, hput, hrest⟩ := run_bind.mp hrest
    obtain ⟨-, rfl⟩ := run_pure.mp hrest
    rw [write_some_eq_ok hput]
    exact .quiet rfl rfl

end Commands

/-- **What a step does to one Provider.** -/
theorem providerStep_effect (p : String) (input : ProviderInput) (db : ProviderDatabase) :
    ProviderEffect p input.command (providerStep input db).1 (viewOf p db)
      (viewOf p (providerStep input db).2) := by
  unfold providerStep
  cases hcommit : (commit (runProviderCommand input.environment input.command)
      ⟨db, input.freshId, 0, input.writesLeft⟩).1 with
  -- a refused or lost transaction leaves every row as it was
  | error failure =>
    rw [commit_error hcommit]
    cases input.command <;> exact .quiet rfl rfl
  | ok answer =>
    obtain ⟨s', hrun, hafter⟩ := commit_ok hcommit
    rw [hafter]
    clear hafter hcommit
    revert hrun
    cases input.command with
    | changeProvider id command =>
      intro hrun
      obtain ⟨row, s₁, hchange, hanswer⟩ := run_bind.mp hrun
      obtain ⟨-, rfl⟩ := run_pure.mp hanswer
      exact changeProvider_effect p hchange
    | changeProviderStatus id status =>
      intro hrun
      obtain ⟨row, s₁, hchange, hanswer⟩ := run_bind.mp hrun
      obtain ⟨-, rfl⟩ := run_pure.mp hanswer
      exact changeProviderStatus_effect p hchange
    | registerProviderModel providerId name displayName =>
      intro hrun
      obtain ⟨row, s₁, hmodel, hanswer⟩ := run_bind.mp hrun
      obtain ⟨-, rfl⟩ := run_pure.mp hanswer
      exact registerProviderModel_effect p hmodel
    | changeProviderModel providerId name command =>
      intro hrun
      obtain ⟨row, s₁, hmodel, hanswer⟩ := run_bind.mp hrun
      obtain ⟨-, rfl⟩ := run_pure.mp hanswer
      exact changeProviderModel_effect p hmodel
    | beginProviderBindingTransition id options =>
      intro hrun
      obtain ⟨view, s₁, hbegin, hanswer⟩ := run_bind.mp hrun
      obtain ⟨rfl, rfl⟩ := run_pure.mp hanswer
      exact beginProviderBindingTransition_effect p hbegin
    | completeProviderBindingTransition id expectedRevision command =>
      intro hrun
      obtain ⟨view, s₁, hcomplete, hanswer⟩ := run_bind.mp hrun
      obtain ⟨-, rfl⟩ := run_pure.mp hanswer
      exact completeProviderBindingTransition_effect p hcomplete
    | removeProvider id =>
      intro hrun
      obtain ⟨u, s₁, hremove, hanswer⟩ := run_bind.mp hrun
      obtain ⟨-, rfl⟩ := run_pure.mp hanswer
      exact removeProvider_effect p hremove

/-! ### Revisions -/

variable {r : Int} {c : CompleteProviderBindingTransitionCommand} {binding' : ProviderBinding}

/-- A binding has at least a revision, or its Provider is gone. -/
def ProviderView.IsPast (r : Int) (view : ProviderView) : Prop :=
  match view.binding with
  | some binding => r ≤ binding.revision
  | none => view.provider = none

/-- A transition of a revision is over: the binding is at a later one or not in transition. -/
def ProviderView.IsOver (r : Int) (view : ProviderView) : Prop :=
  view.IsPast r ∧ ∀ binding ∈ view.binding, binding.InTransition → r < binding.revision

/-- The revision is raised. -/
def ProviderView.Raises (view view' : ProviderView) : Prop :=
  ∃ binding' ∈ view'.binding, ∀ binding ∈ view.binding, binding.revision < binding'.revision

theorem ProviderView.isPast_some {binding : Option ProviderBinding} :
    ProviderView.IsPast r ⟨some row, binding⟩ ↔ ∃ b, binding = some b ∧ r ≤ b.revision := by
  cases binding with
  | none => simp [ProviderView.IsPast]
  | some b => simp [ProviderView.IsPast]

theorem ProviderView.isPast_of_binding {view : ProviderView}
    (hbinding : view.binding = some binding) (hle : r ≤ binding.revision) : view.IsPast r := by
  unfold ProviderView.IsPast
  rw [hbinding]
  exact hle

theorem ProviderView.IsPast.le_revision {view : ProviderView} (h : view.IsPast r)
    (hbinding : view.binding = some binding) : r ≤ binding.revision := by
  unfold ProviderView.IsPast at h
  rw [hbinding] at h
  exact h

/-- A changed binding is not in transition, and its revision goes up with a material change. -/
theorem changedBinding_spec (hidle : binding.errorCode ≠ some transitionCode)
    (authMethod now : String) (material : Bool) :
    ¬(changedBinding authMethod now material binding).InTransition ∧
      (changedBinding authMethod now material binding).revision =
        if material then binding.revision + 1 else binding.revision := by
  cases material with
  | true =>
    refine ⟨fun hopen => ?_, rfl⟩
    cases hopen.1
  | false => exact ⟨fun hopen => hidle hopen.2, rfl⟩

theorem upsertedBinding_not_inTransition {binding : Option ProviderBinding}
    (hidle : binding.bind (·.errorCode) ≠ some transitionCode) (id authMethod now : String)
    (material : Bool) : ¬(upsertedBinding binding id authMethod now material).InTransition := by
  cases binding with
  | none =>
    intro hopen
    cases hopen.1
  | some binding => exact (changedBinding_spec hidle authMethod now material).1

theorem not_inTransition_of_ready {binding : Option ProviderBinding}
    (h : binding.map (·.syncStatus) = some .ready) : ∀ b ∈ binding, ¬b.InTransition := by
  rintro b hb hopen
  rw [Option.mem_def.mp hb, Option.map_some, hopen.1] at h
  cases h

theorem not_inTransition_of_cleared (h : credentialCleared binding) : ¬binding.InTransition := by
  intro hopen
  have hcode : binding.errorCode = none := by
    unfold credentialCleared at h
    simp only [Bool.and_eq_true, decide_eq_true_eq] at h
    exact h.1.2
  rw [hopen.2] at hcode
  cases hcode

variable {p : String} {command : ProviderCommand} {output : ProviderOutput}
  {view view' : ProviderView}

theorem ProviderEffect.isPast (h : ProviderEffect p command output view view')
    (hpast : view.IsPast r) : view'.IsPast r := by
  cases h with
  | quiet hbegun hcompletion => exact hpast
  | statusSet hsame hready =>
    obtain hbinding := ProviderView.isPast_some.mp hpast
    exact ProviderView.isPast_some.mpr hbinding
  | changed hidle hready =>
    obtain ⟨binding, rfl, hle⟩ := ProviderView.isPast_some.mp hpast
    refine ProviderView.isPast_some.mpr ⟨_, rfl, ?_⟩
    dsimp only [upsertedBinding]
    rw [(changedBinding_spec hidle _ _ _).2]
    split <;> omega
  | begun hsame hstatus =>
    obtain ⟨binding, hbinding, hle⟩ := ProviderView.isPast_some.mp hpast
    obtain rfl := Option.some.inj hbinding
    refine ProviderView.isPast_some.mpr ⟨_, rfl, ?_⟩
    dsimp only [begunBinding]
    omega
  | completed hopen => exact hpast
  | removed hcleared => rfl

/-- Once over, a transition stays so. -/
theorem ProviderEffect.isOver (h : ProviderEffect p command output view view')
    (hover : view.IsOver r) : view'.IsOver r := by
  refine ⟨h.isPast hover.1, fun binding' hbinding' hopen' => ?_⟩
  obtain ⟨hpast, hopen⟩ := hover
  cases h with
  | quiet hbegun hcompletion => exact hopen binding' hbinding' hopen'
  | statusSet hsame hready => exact hopen binding' hbinding' hopen'
  | changed hidle hready =>
    obtain rfl := Option.some.inj hbinding'
    exact absurd hopen' (upsertedBinding_not_inTransition hidle _ _ _ _)
  | begun hsame hstatus =>
    obtain ⟨binding, hbinding, hle⟩ := ProviderView.isPast_some.mp hpast
    obtain rfl := Option.some.inj hbinding
    obtain rfl := Option.some.inj hbinding'
    dsimp only [begunBinding]
    omega
  | completed hold =>
    obtain rfl := Option.some.inj hbinding'
    have hlt := hopen _ (Option.mem_some_self _) hold
    exact hlt
  | removed hcleared => cases hbinding'

/-- A transition that a completion left behind is over, unless the completion recorded it again. -/
def CompleteProviderBindingTransitionCommand.RecordsTransition
    (command : CompleteProviderBindingTransitionCommand) : Prop :=
  command.syncStatus = .error ∧ command.errorCode = some transitionCode

theorem ProviderEffect.over_of_completion (h : ProviderEffect p command output view view')
    (hcompletion : completion p command output = some (r, c)) :
    (∃ row binding, view = ⟨some row, some binding⟩ ∧ binding.revision = r ∧
      binding.InTransition) ∧ (¬c.RecordsTransition → view'.IsOver r) := by
  cases h with
  | quiet hbegun hnone =>
    rw [hnone] at hcompletion
    cases hcompletion
  | statusSet hsame hready => cases hcompletion
  | changed hidle hready => cases hcompletion
  | begun hsame hstatus => cases hcompletion
  | completed hopen =>
    obtain ⟨rfl, rfl⟩ := Prod.mk.inj (Option.some.inj ((if_pos rfl).symm.trans hcompletion))
    refine ⟨⟨_, _, rfl, rfl, hopen⟩, fun hrecords => ⟨?_, fun binding' hbinding' hopen' => ?_⟩⟩
    · exact ProviderView.isPast_some.mpr ⟨_, rfl, le_refl _⟩
    · obtain rfl := Option.some.inj hbinding'
      exact absurd hopen' hrecords
  | removed hcleared => cases hcompletion

/-- A transition begins with a revision above the one before. -/
theorem ProviderEffect.of_begun (h : ProviderEffect p command output view view')
    (hbegun : begunRevision p command output = some r) :
    ∃ binding binding', view.binding = some binding ∧ view'.binding = some binding' ∧
      binding'.revision = r ∧ binding.revision < r := by
  cases h with
  | quiet hnone hcompletion =>
    rw [hnone] at hbegun
    cases hbegun
  | statusSet hsame hready => cases hbegun
  | changed hidle hready => cases hbegun
  | begun hsame hstatus =>
    obtain rfl := Option.some.inj ((if_pos rfl).symm.trans hbegun)
    exact ⟨_, _, rfl, rfl, rfl, Int.lt_succ _⟩
  | completed hopen => cases hbegun
  | removed hcleared => cases hbegun

theorem upsertedBinding_authMethod (binding : Option ProviderBinding)
    (id authMethod now : String) (material : Bool) :
    (upsertedBinding binding id authMethod now material).authMethod = authMethod := by
  cases binding with
  | none => rfl
  | some binding => cases material <;> rfl

/-- What the source calls a material change is a change of what the credential depends on. -/
theorem material_eq_iff {binding : Option ProviderBinding} {definition : ProviderDefinition}
    {now : String} (hauth : binding'.authMethod = definition.authMethod) :
    ProviderView.material ⟨some (definedProvider now definition status row), some binding'⟩ =
        ProviderView.material ⟨some row, binding⟩ ↔
      materialChanged row binding definition = false := by
  unfold ProviderView.material materialChanged definedProvider
  simp only [Option.map_some, hauth, Prod.mk.injEq, Option.some.injEq, ne_eq, Bool.or_eq_false_iff,
    decide_eq_false_iff_not, not_not]
  constructor
  · rintro ⟨⟨hkind, hconfig⟩, hmethod⟩
    exact ⟨⟨hkind.symm, hconfig.symm⟩, hmethod.symm⟩
  · rintro ⟨⟨hkind, hconfig⟩, hmethod⟩
    exact ⟨⟨hkind.symm, hconfig.symm⟩, hmethod.symm⟩

/-- A change of what the credential depends on raises the revision and clears the credential. -/
theorem ProviderEffect.of_material (h : ProviderEffect p command output view view')
    (hchange : isChangeOf p command) (hmaterial : view'.material ≠ view.material) :
    view.Raises view' ∧ ∀ binding' ∈ view'.binding, binding'.credentialRefsJson = "[]" := by
  cases h with
  | quiet hbegun hcompletion => exact absurd rfl hmaterial
  | statusSet hsame hready => cases hchange
  | @changed command output row binding definition status now hidle hready =>
    rw [ne_eq, material_eq_iff (upsertedBinding_authMethod _ _ _ _ _), Bool.not_eq_false]
      at hmaterial
    rw [hmaterial]
    cases binding with
    | none =>
      refine ⟨⟨_, rfl, fun binding hbinding => by cases hbinding⟩, fun binding' hbinding' => ?_⟩
      obtain rfl := Option.some.inj hbinding'
      rfl
    | some binding =>
      refine ⟨⟨_, rfl, fun old hold => ?_⟩, fun binding' hbinding' => ?_⟩
      · obtain rfl := Option.some.inj hold
        exact Int.lt_succ _
      · obtain rfl := Option.some.inj hbinding'
        rfl
  | begun hsame hstatus => cases hchange
  | completed hopen => cases hchange
  | removed hcleared => cases hchange

/-- The references of a credential change with a completion or a material change. -/
theorem ProviderEffect.of_references (h : ProviderEffect p command output view view')
    (hbinding : view.binding = some binding) (hbinding' : view'.binding = some binding')
    (hne : binding'.credentialRefsJson ≠ binding.credentialRefsJson) :
    (∃ c, completion p command output = some (binding.revision, c)) ∨
      isChangeOf p command ∧ view'.material ≠ view.material := by
  cases h with
  | quiet hbegun hcompletion =>
    obtain rfl := Option.some.inj (hbinding.symm.trans hbinding')
    exact absurd rfl hne
  | statusSet hsame hready =>
    obtain rfl := Option.some.inj (hbinding.symm.trans hbinding')
    exact absurd rfl hne
  | @changed command output row old definition status now hidle hready =>
    refine .inr ⟨decide_eq_true rfl, fun hsame => ?_⟩
    obtain rfl : old = some binding := hbinding
    obtain rfl := Option.some.inj hbinding'
    rw [material_eq_iff (upsertedBinding_authMethod _ _ _ _ _)] at hsame
    rw [hsame] at hne
    exact hne rfl
  | begun hsame hstatus =>
    obtain rfl := Option.some.inj hbinding
    obtain rfl := Option.some.inj hbinding'
    exact absurd rfl hne
  | completed hopen =>
    obtain rfl := Option.some.inj hbinding
    exact .inl ⟨_, if_pos rfl⟩
  | removed hcleared => cases hbinding'

/-- A Provider is enabled with a binding that is not in transition. -/
theorem ProviderEffect.of_enabled (h : ProviderEffect p command output view view')
    (hbefore : view.isEnabled = false) (hafter : view'.isEnabled = true) :
    ∀ binding ∈ view.binding, ¬binding.InTransition := by
  intro binding hbinding
  cases h with
  | quiet hbegun hcompletion => cases hbefore.symm.trans hafter
  | statusSet hsame hready =>
    exact not_inTransition_of_ready (hready (of_decide_eq_true hafter)) binding hbinding
  | changed hidle hready =>
    exact not_inTransition_of_ready (hready (of_decide_eq_true hafter)) binding hbinding
  | begun hsame hstatus =>
    exact absurd (hstatus (of_decide_eq_true hafter)) (of_decide_eq_false hbefore)
  | completed hopen => cases hbefore.symm.trans hafter
  | removed hcleared => cases hafter

/-! ### Runs -/

abbrev ProviderStep := Step ProviderInput ProviderOutput ProviderDatabase

namespace ProviderStep

/-- The revision of a transition that a step begins. -/
def begun (p : String) (t : ProviderStep) : Option Int := begunRevision p t.input.command t.output

/-- The transition that a step completes. -/
def completed (p : String) (t : ProviderStep) :
    Option (Int × CompleteProviderBindingTransitionCommand) :=
  completion p t.input.command t.output

/-- A change of the Provider's definition that the credential depends on. -/
def IsMaterial (p : String) (t : ProviderStep) : Prop :=
  isChangeOf p t.input.command ∧ (viewOf p t.after).material ≠ (viewOf p t.before).material

end ProviderStep

/-- The revision of a transition that a database is in. -/
def revisionInTransition (p : String) (db : ProviderDatabase) : Option Int :=
  ((db.bindings.find? p).filter fun binding => decide binding.InTransition).map (·.revision)

/-- The transition begun last. -/
def recordBegun (p : String) (latest : Option Int) (t : ProviderStep) : Option Int :=
  (t.begun p).or latest

/-- The transition that began last, with what the run started from. -/
def latestBegun (p : String) (db : ProviderDatabase) (run : List ProviderStep) : Option Int :=
  run.foldl (recordBegun p) (revisionInTransition p db)

/-- The transition begun and not completed. -/
def recordOpen (p : String) (current : Option Int) (t : ProviderStep) : Option Int :=
  match t.completed p with
  | some _ => none
  | none => (t.begun p).or current

/-- The transition that has begun and is not completed. -/
def openTransition (p : String) (db : ProviderDatabase) (run : List ProviderStep) : Option Int :=
  run.foldl (recordOpen p) (revisionInTransition p db)

/-- A binding in transition has the revision that began last. -/
def LatestBegun (p : String) (latest : Option Int) (db : ProviderDatabase) : Prop :=
  ∀ binding ∈ (viewOf p db).binding, binding.InTransition → latest = some binding.revision

/-- An open transition has its binding. -/
def OpenTransition (p : String) (current : Option Int) (db : ProviderDatabase) : Prop :=
  ∀ r ∈ current, ∃ binding, (viewOf p db).binding = some binding ∧ binding.InTransition ∧
    binding.revision = r

theorem revisionInTransition_eq_some :
    revisionInTransition p db = some r ↔
      ∃ binding, db.bindings.find? p = some binding ∧ binding.InTransition ∧
        binding.revision = r := by
  unfold revisionInTransition
  simp only [Option.map_eq_some_iff, Option.filter_eq_some_iff, decide_eq_true_eq, and_assoc]

theorem ProviderEffect.latestBegun (h : ProviderEffect p command output view view')
    {latest : Option Int} (hlatest : ∀ binding ∈ view.binding, binding.InTransition →
      latest = some binding.revision) :
    ∀ binding ∈ view'.binding, binding.InTransition →
      (begunRevision p command output).or latest = some binding.revision := by
  intro binding' hbinding' hopen'
  cases h with
  | quiet hbegun hcompletion =>
    rw [hbegun, Option.none_or]
    exact hlatest binding' hbinding' hopen'
  | statusSet hsame hready => exact hlatest binding' hbinding' hopen'
  | changed hidle hready =>
    obtain rfl := Option.some.inj hbinding'
    exact absurd hopen' (upsertedBinding_not_inTransition hidle _ _ _ _)
  | begun hsame hstatus =>
    obtain rfl := Option.some.inj hbinding'
    dsimp only [begunRevision]
    rw [if_pos rfl]
    rfl
  | completed hopen =>
    obtain rfl := Option.some.inj hbinding'
    have hsame := hlatest _ (Option.mem_some_self _) hopen
    exact hsame
  | removed hcleared => cases hbinding'

theorem ProviderEffect.openTransition (h : ProviderEffect p command output view view')
    {current : Option Int} (hcurrent : ∀ r ∈ current, ∃ binding, view.binding = some binding ∧
      binding.InTransition ∧ binding.revision = r) :
    ∀ r ∈ (match completion p command output with
        | some _ => none
        | none => (begunRevision p command output).or current),
      ∃ binding, view'.binding = some binding ∧ binding.InTransition ∧ binding.revision = r := by
  intro r hr
  cases h with
  | quiet hbegun hcompletion =>
    rw [hbegun, hcompletion] at hr
    exact hcurrent r hr
  | statusSet hsame hready => exact hcurrent r hr
  | changed hidle hready =>
    obtain ⟨binding, hbinding, hopen, -⟩ := hcurrent r hr
    obtain rfl : _ = some binding := hbinding
    exact absurd hopen.2 hidle
  | begun hsame hstatus =>
    dsimp only [begunRevision] at hr
    rw [if_pos rfl] at hr
    exact ⟨_, rfl, ⟨rfl, rfl⟩, Option.some.inj hr⟩
  | completed hopen =>
    dsimp only [completion] at hr
    rw [if_pos rfl] at hr
    cases hr
  | removed hcleared =>
    obtain ⟨binding, hbinding, hopen, -⟩ := hcurrent r hr
    obtain rfl : _ = some binding := hbinding
    exact absurd hopen (not_inTransition_of_cleared hcleared)

theorem run_latestBegun (p : String) (db : ProviderDatabase) (inputs : List ProviderInput) :
    LatestBegun p (latestBegun p db (trace providerStep db inputs))
      (final providerStep db inputs) := by
  refine @recorded _ _ _ providerStep _ (recordBegun p) (LatestBegun p) ?_ _ _ ?_ inputs
  · intro latest input db hlatest
    exact (providerStep_effect p input db).latestBegun hlatest
  · intro binding hbinding hopen
    exact revisionInTransition_eq_some.mpr ⟨binding, hbinding, hopen, rfl⟩

theorem run_openTransition (p : String) (db : ProviderDatabase) (inputs : List ProviderInput) :
    OpenTransition p (openTransition p db (trace providerStep db inputs))
      (final providerStep db inputs) := by
  refine @recorded _ _ _ providerStep _ (recordOpen p) (OpenTransition p) ?_ _ _ ?_ inputs
  · intro current input db hcurrent
    exact (providerStep_effect p input db).openTransition hcurrent
  · intro r hr
    exact revisionInTransition_eq_some.mp hr

theorem isPast_final (h : (viewOf p db).IsPast r) (inputs : List ProviderInput) :
    (viewOf p (final providerStep db inputs)).IsPast r :=
  @invariant_final _ _ _ providerStep (fun db => (viewOf p db).IsPast r)
    (fun input db hpast => (providerStep_effect p input db).isPast hpast) db h inputs

/-- What holds of the transitions of one Provider in a run from a database. -/
structure Fenced (p : String) (db : ProviderDatabase) (run : List ProviderStep) : Prop where
  never_decreases : ∀ older t newer, run = older ++ t :: newer → ∀ t' ∈ t :: newer,
    ∀ binding binding', (viewOf p t.before).binding = some binding →
      (viewOf p t'.after).binding = some binding' → binding.revision ≤ binding'.revision
  raised : ∀ t ∈ run, (t.begun p).isSome ∨ t.IsMaterial p →
    (viewOf p t.before).Raises (viewOf p t.after)
  completed_once : run.Pairwise fun t t' => ∀ r c c', t.completed p = some (r, c) →
    t'.completed p = some (r, c') → c.RecordsTransition
  superseded : ∀ older t newer, run = older ++ t :: newer → ∀ r, t.begun p = some r →
    ∀ older' t' newer', newer = older' ++ t' :: newer' → (t'.begun p).isSome →
      ∀ t'' ∈ newer', ∀ c, t''.input.command = .completeProviderBindingTransition p r c →
        t''.after = t''.before
  references : ∀ older t newer, run = older ++ t :: newer →
    ∀ binding binding', (viewOf p t.before).binding = some binding →
      (viewOf p t.after).binding = some binding' →
      binding'.credentialRefsJson ≠ binding.credentialRefsJson →
      (∃ r c, latestBegun p db older = some r ∧ t.completed p = some (r, c)) ∨
        t.IsMaterial p ∧ binding'.credentialRefsJson = "[]"
  enabled : ∀ older t newer, run = older ++ t :: newer →
    (viewOf p t.before).isEnabled = false → (viewOf p t.after).isEnabled = true →
      openTransition p db older = none ∧
        ∀ binding ∈ (viewOf p t.before).binding, ¬binding.InTransition

variable {inputs : List ProviderInput} {t : ProviderStep}

theorem isPast_of_mem (h : (viewOf p db).IsPast r) (ht : t ∈ trace providerStep db inputs) :
    (viewOf p t.before).IsPast r ∧ (viewOf p t.after).IsPast r := by
  have hrun := @invariant _ _ _ providerStep (fun db => (viewOf p db).IsPast r) (fun _ => True)
    (fun input db hpast _ => (providerStep_effect p input db).isPast hpast) db h inputs
    fun _ _ => trivial
  exact hrun.2 t ht

theorem run_neverDecreases {older newer : List ProviderStep}
    (hrun : trace providerStep db inputs = older ++ t :: newer) {t' : ProviderStep}
    (ht' : t' ∈ t :: newer) (hbinding : (viewOf p t.before).binding = some binding)
    (hbinding' : (viewOf p t'.after).binding = some binding') :
    binding.revision ≤ binding'.revision := by
  obtain ⟨is, i, js, -, ht, rfl⟩ := trace_split hrun
  have hpast : (viewOf p t.before).IsPast binding.revision :=
    ProviderView.isPast_of_binding hbinding (le_refl _)
  have hafter : (viewOf p t.after).IsPast binding.revision := by
    rw [ht] at hpast ⊢
    exact (providerStep_effect p i _).isPast hpast
  have hpast' : (viewOf p t'.after).IsPast binding.revision := by
    rcases List.mem_cons.mp ht' with rfl | ht'
    · exact hafter
    · exact (isPast_of_mem hafter ht').2
  exact hpast'.le_revision hbinding'

/-- The effect of a step of a run. -/
theorem effect_of_mem (p : String) (ht : t ∈ trace providerStep db inputs) :
    ProviderEffect p t.input.command t.output (viewOf p t.before) (viewOf p t.after) := by
  rw [eq_stepOf_of_mem ht]
  exact providerStep_effect p t.input t.before

theorem run_completedOnce (p : String) (db : ProviderDatabase) (inputs : List ProviderInput) :
    (trace providerStep db inputs).Pairwise fun t t' : ProviderStep => ∀ r c c',
      t.completed p = some (r, c) → t'.completed p = some (r, c') → c.RecordsTransition := by
  have hmarks := @pairwise_trace _ _ _ providerStep
    (fun t db => ∀ r c, ProviderStep.completed p t = some (r, c) →
      ¬c.RecordsTransition → (viewOf p db).IsOver r)
    (fun input db r c hcompleted hrecords =>
      ((providerStep_effect p input db).over_of_completion hcompleted).2 hrecords)
    (fun t input db hmark r c hcompleted hrecords =>
      (providerStep_effect p input db).isOver (hmark r c hcompleted hrecords)) db inputs
  refine hmarks.imp_of_mem ?_
  intro t t' ht ht' hmark r c c' hcompleted hcompleted'
  by_contra hrecords
  have hover := hmark r c hcompleted hrecords
  obtain ⟨⟨row, binding, hview, rfl, hopen⟩, -⟩ :=
    (effect_of_mem p ht').over_of_completion hcompleted'
  rw [hview] at hover
  have hlt := hover.2 binding rfl hopen
  omega

theorem run_superseded {p : String} {db : ProviderDatabase} {inputs : List ProviderInput}
    {older older' newer' : List ProviderStep} {t t' : ProviderStep}
    (hrun : trace providerStep db inputs = older ++ t :: (older' ++ t' :: newer')) {r : Int}
    (hbegun : t.begun p = some r) (hbegun' : (t'.begun p).isSome) {t'' : ProviderStep}
    (ht'' : t'' ∈ newer') {c : CompleteProviderBindingTransitionCommand}
    (hcommand : t''.input.command = .completeProviderBindingTransition p r c) :
    t''.after = t''.before := by
  obtain ⟨is, i, js, -, ht, hrest⟩ := trace_split hrun
  obtain ⟨is', i', js', -, ht', hnewer⟩ := trace_split hrest.symm
  -- the first transition leaves its revision, and the second one a later revision
  have hpast : (viewOf p t.after).IsPast r := by
    rw [ht] at hbegun ⊢
    obtain ⟨binding, binding', -, hbinding', hr, -⟩ :=
      (providerStep_effect p i (final providerStep db is)).of_begun hbegun
    exact ProviderView.isPast_of_binding hbinding' hr.ge
  have hlater : (viewOf p t'.after).IsPast (r + 1) := by
    obtain ⟨r', hr'⟩ := Option.isSome_iff_exists.mp hbegun'
    have hbefore := isPast_final hpast is'
    rw [ht'] at hr' ⊢
    obtain ⟨binding, binding', hbinding, hbinding', hr, hlt⟩ :=
      (providerStep_effect p i' (final providerStep t.after is')).of_begun hr'
    have hle := hbefore.le_revision hbinding
    exact ProviderView.isPast_of_binding hbinding' (by omega)
  rw [hnewer] at ht''
  have hpast'' : (viewOf p t''.before).IsPast (r + 1) := (isPast_of_mem hlater ht'').1
  cases houtput : t''.output with
  | error failure =>
    rw [eq_stepOf_of_mem ht''] at houtput ⊢
    exact commit_error houtput
  | ok answer =>
    have hcompleted : t''.completed p = some (r, c) := by
      unfold ProviderStep.completed
      rw [hcommand, houtput]
      exact if_pos rfl
    obtain ⟨⟨row, binding, hview, hrevision, -⟩, -⟩ :=
      (effect_of_mem p ht'').over_of_completion hcompleted
    have hle := hpast''.le_revision (congrArg ProviderView.binding hview)
    omega

/-- **The transitions of a Provider's binding are fenced.** -/
theorem run_transitions (p : String) (db : ProviderDatabase) (inputs : List ProviderInput) :
    Fenced p db (trace providerStep db inputs) where
  never_decreases older t newer hrun t' ht' binding binding' hbinding hbinding' :=
    run_neverDecreases hrun ht' hbinding hbinding'
  raised t ht hraise := by
    have heffect := effect_of_mem p ht
    rcases hraise with hbegun | ⟨hchange, hmaterial⟩
    · obtain ⟨r, hr⟩ := Option.isSome_iff_exists.mp hbegun
      obtain ⟨binding, binding', hbinding, hbinding', hr, hlt⟩ := heffect.of_begun hr
      refine ⟨binding', hbinding', fun old hold => ?_⟩
      obtain rfl := Option.some.inj (hbinding.symm.trans hold)
      omega
    · exact (heffect.of_material hchange hmaterial).1
  completed_once := run_completedOnce p db inputs
  superseded older t newer hrun r hbegun older' t' newer' hnewer hbegun' t'' ht'' c hcommand := by
    subst hnewer
    exact run_superseded hrun hbegun hbegun' ht'' hcommand
  references older t newer hrun binding binding' hbinding hbinding' hne := by
    obtain ⟨is, i, js, rfl, rfl, -⟩ := trace_split hrun
    have heffect := providerStep_effect p i (final providerStep db is)
    rcases heffect.of_references hbinding hbinding' hne with ⟨c, hc⟩ | ⟨hchange, hmaterial⟩
    · obtain ⟨⟨row, current, hview, hrevision, hopen⟩, -⟩ := heffect.over_of_completion hc
      refine .inl ⟨binding.revision, c, ?_, hc⟩
      rw [← hrevision]
      exact run_latestBegun p db is current (congrArg ProviderView.binding hview) hopen
    · exact .inr ⟨⟨hchange, hmaterial⟩, (heffect.of_material hchange hmaterial).2 _ hbinding'⟩
  enabled older t newer hrun hbefore hafter := by
    obtain ⟨is, i, js, rfl, rfl, -⟩ := trace_split hrun
    have hnot := (providerStep_effect p i (final providerStep db is)).of_enabled hbefore hafter
    refine ⟨?_, hnot⟩
    by_contra hopen
    obtain ⟨r, hr⟩ := Option.ne_none_iff_exists'.mp hopen
    obtain ⟨binding, hbinding, htransition, -⟩ := run_openTransition p db is r hr
    exact hnot binding hbinding htransition

/-! ### A completion that leaves its transition open -/

def plainProvider : ProviderRow where
  id := "prv_0"
  ownerId := "operator"
  scopeRef := "global:"
  name := "Codex"
  kind := "codex"
  status := .disabled
  baseUrlResolver := "literal:"
  credentialResolver := "oauth:"
  modelsResolver := "cliproxyapi:catalog"
  configJson := "\x7b\x7d"
  cpaInstanceId := "cpa_default"
  createdAt := "t0"
  updatedAt := "t0"

def plainProviderDatabase : ProviderDatabase where
  providers := ⟨[plainProvider], List.nodup_singleton _⟩
  bindings := ⟨[newBinding "prv_0" "oauth" "t0"], List.nodup_singleton _⟩
  models := Table.empty

def plainProviderEnvironment : ProviderEnvironment where
  now := 0
  nowIso := "t1"
  parseOther _ := none
  personalSlot _ := none
  cpaInstance _ := some "enabled"
  accessPointReference _ := false
  billingHistory _ := false

def plainProviderInput (command : ProviderCommand) : ProviderInput where
  environment := plainProviderEnvironment
  freshId _ := ""
  writesLeft := none
  command

/-- The second command records the code of a transition in progress as the error it failed with. -/
def recordedTransitionRun : List ProviderStep :=
  trace providerStep plainProviderDatabase
    ([.beginProviderBindingTransition "prv_0"
        { expectedRevision := 1, expectedAuthMethod := "oauth", expectedSyncStatus := .pending,
          expectedErrorCode := none, expectedBindingUpdatedAt := "t0",
          expectedProviderUpdatedAt := "t0" },
      .completeProviderBindingTransition "prv_0" 2
        { syncStatus := .error, errorCode := some transitionCode },
      .completeProviderBindingTransition "prv_0" 2
        { credentialRefsJson := some "[\"ref\"]", syncStatus := .ready }].map plainProviderInput)

/-- A transition can be completed twice. -/
theorem completed_twice :
    (recordedTransitionRun.map (ProviderStep.begun "prv_0")) = [some 2, none, none] ∧
      recordedTransitionRun.countP
        (fun t => ((ProviderStep.completed "prv_0" t).map Prod.fst) = some 2) = 2 := by
  decide

end Frely.ProviderManagement
