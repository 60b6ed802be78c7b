import Frely.Core.Dates
import Frely.Core.ScopeRef
import Frely.Lib.Transaction
import Frely.ModelAccess.RoutingDefinition

/-!
# Commands on Providers

A Provider has one binding to its credential.  An external operation on the credential runs between
two transactions, `beginProviderBindingTransition` and `completeProviderBindingTransition`, and the
other commands can come in between.

What a command reads besides the rows of Providers is its `ProviderEnvironment`, which may be
another one at every step.  The constraints of the database only stop more commands.
-/

namespace Frely.ProviderManagement

open Checked Frely.ModelAccess Transaction

/-! ### Rows -/

inductive ProviderStatus where
  | enabled
  | disabled
deriving DecidableEq

inductive SyncStatus where
  | pending
  | ready
  | error
  | cleared
deriving DecidableEq

structure ProviderRow where
  id : String
  ownerId : String
  scopeRef : String
  name : String
  kind : String
  status : ProviderStatus
  baseUrlResolver : String
  credentialResolver : String
  modelsResolver : String
  configJson : String
  cpaInstanceId : String
  createdAt : String
  updatedAt : String
deriving DecidableEq

structure ProviderBinding where
  providerId : String
  authMethod : String
  credentialOwnership : String
  credentialRefsJson : String
  credentialPreview : Option String
  revision : Int
  syncStatus : SyncStatus
  errorCode : Option String
  createdAt : String
  updatedAt : String
deriving DecidableEq

structure ProviderModelRow where
  id : String
  providerId : String
  providerModelName : String
  displayName : String
  status : ProviderStatus
  createdAt : String
  updatedAt : String
deriving DecidableEq

instance : Keyed ProviderRow String := ⟨ProviderRow.id⟩

instance : Keyed ProviderBinding String := ⟨ProviderBinding.providerId⟩

instance : Keyed ProviderModelRow String := ⟨ProviderModelRow.id⟩

structure ProviderDatabase where
  providers : Table ProviderRow
  bindings : Table ProviderBinding
  models : Table ProviderModelRow

/-- An error of the relay, or any other error with its text. -/
inductive ProviderError where
  | relay (error : RelayError)
  | error (message : String)
deriving DecidableEq

structure ProviderEnvironment where
  now : Timestamp
  nowIso : String
  /-- what the engine makes of texts that are no dates of the language -/
  parseOther : String → Option Timestamp
  /-- the user of the slot that a Provider is in -/
  personalSlot : String → Option String
  /-- the status of a CPA Instance -/
  cpaInstance : String → Option String
  accessPointReference : String → Bool
  billingHistory : String → Bool

abbrev ProviderTxn := Txn ProviderDatabase ProviderError

/-! ### Checks -/

variable (env : ProviderEnvironment)

def relay {α : Type} (code message : String) (status : Nat) : Except ProviderError α :=
  .error (.relay ⟨code, message, status⟩)

def required (value name : String) : Except ProviderError String :=
  (requiredTrimmed "invalid_provider" (some value) name).mapError .relay

/-- `PROVIDER_ID_PATTERN`: a tag and 24 hexadecimal digits. -/
def isGeneratedProviderId (id : String) : Bool :=
  id.toList.take 4 = "prv_".toList && (id.toList.drop 4).length = 24 &&
    (id.toList.drop 4).all fun c => c.isDigit || ('a' ≤ c && c ≤ 'f')

structure ProviderDefinitionCommand where
  ownerId : String
  scopeRef : String
  name : String
  kind : String
  status : String
  baseUrlResolver : String
  credentialResolver : String
  modelsResolver : String
  configJson : String
  cpaInstanceId : String
  authMethod : String

structure ProviderDefinition where
  ownerId : String
  scopeRef : String
  name : String
  kind : String
  status : ProviderStatus
  baseUrlResolver : String
  credentialResolver : String
  modelsResolver : String
  configJson : String
  cpaInstanceId : String
  authMethod : String

def providerStatusOf : String → Except ProviderError ProviderStatus
  | "enabled" => .ok .enabled
  | "disabled" => .ok .disabled
  | _ => relay "invalid_provider_status" "Provider status must be enabled or disabled" 400

def normalizeProviderDefinition (id : String) (command : ProviderDefinitionCommand) :
    Except ProviderError ProviderDefinition := do
  let status ← providerStatusOf command.status
  let scopeRef ← required command.scopeRef "scopeRef"
  rejectIf (¬isRuntimeScopeRef scopeRef)
    (.relay ⟨"invalid_scope_ref", "Provider scope must be a runtime scope", 400⟩)
  rejectIf (¬isGeneratedProviderId id)
    (.relay ⟨"provider_id_generation_failed", "Provider ID generator returned an invalid ID", 503⟩)
  let ownerId ← required command.ownerId "ownerId"
  let name ← required command.name "name"
  let kind ← required command.kind "kind"
  let baseUrlResolver ← required command.baseUrlResolver "baseUrlResolver"
  let credentialResolver ← required command.credentialResolver "credentialResolver"
  let modelsResolver ← required command.modelsResolver "modelsResolver"
  let configJson ← required command.configJson "configJson"
  let cpaInstanceId ← required command.cpaInstanceId "cpaInstanceId"
  let authMethod ← required command.authMethod "authMethod"
  pure { ownerId, scopeRef, name, kind, status, baseUrlResolver, credentialResolver,
         modelsResolver, configJson, cpaInstanceId, authMethod }

def providerNotFound (id : String) : ProviderError :=
  .relay ⟨"provider_not_found", "Provider " ++ id ++ " not found", 404⟩

/-- Locks the row of a Provider and reads it. -/
def lockProvider (id : String) : ProviderTxn ProviderRow :=
  read fun db => match db.providers.find? id with
    | some provider => .ok provider
    | none => .error (providerNotFound id)

def assertPersonalProviderDefinition (provider : ProviderRow) (binding : Option ProviderBinding)
    (userId : String) : Except ProviderError Unit :=
  rejectIf (provider.ownerId ≠ userId ∨ provider.scopeRef ≠ "user:" ++ userId ∨
      provider.kind ≠ "codex" ∨ provider.baseUrlResolver ≠ "literal:" ∨
      provider.credentialResolver ≠ "oauth:" ∨ provider.modelsResolver ≠ "cliproxyapi:catalog" ∨
      provider.configJson ≠ "\x7b\x7d" ∨ provider.cpaInstanceId ≠ "cpa_default" ∨
      binding.map (·.authMethod) ≠ some "oauth" ∨
      binding.map (·.credentialOwnership) ≠ some "cpa-managed")
    (.relay ⟨"personal_provider_definition_invalid",
      "Personal Provider does not satisfy the fixed server-managed Codex OAuth definition", 409⟩)

/-- The fields of a Provider in a slot stay as they are. -/
def assertPersonalProviderUnchanged (existing : ProviderRow) (binding : Option ProviderBinding)
    (definition : ProviderDefinition) : Except ProviderError Unit :=
  rejectIf (definition.ownerId ≠ existing.ownerId ∨ definition.scopeRef ≠ existing.scopeRef ∨
      definition.kind ≠ existing.kind ∨ definition.baseUrlResolver ≠ existing.baseUrlResolver ∨
      definition.credentialResolver ≠ existing.credentialResolver ∨
      definition.modelsResolver ≠ existing.modelsResolver ∨
      definition.configJson ≠ existing.configJson ∨
      definition.cpaInstanceId ≠ existing.cpaInstanceId ∨
      some definition.authMethod ≠ binding.map (·.authMethod))
    (.relay ⟨"personal_provider_definition_immutable",
      "Personal Provider owner, scope, Codex OAuth, CPA, resolver, and configuration fields are " ++
        "server-managed", 409⟩)

def requireAssignableCpaInstance (cpaInstanceId currentCpaInstanceId : String)
    (currentBindingStatus : Option SyncStatus) : Except ProviderError Unit :=
  match env.cpaInstance cpaInstanceId with
  | none => relay "cpa_instance_not_found" "CPA Instance is not registered" 409
  | some status => do
    rejectIf (currentCpaInstanceId ≠ "" ∧ currentCpaInstanceId ≠ cpaInstanceId ∧
        currentBindingStatus ≠ some .cleared)
      (.relay ⟨"cpa_instance_immutable",
        "Provider CPA Instance cannot change after credential lifecycle starts", 409⟩)
    rejectIf (status ≠ "enabled" ∧ currentCpaInstanceId ≠ cpaInstanceId)
      (.relay ⟨"cpa_instance_disabled", "CPA Instance is disabled", 409⟩)

def modelsOf (db : ProviderDatabase) (providerId : String) : List ProviderModelRow :=
  db.models.rows.filter (·.providerId = providerId)

/-- By the name, then by the identifier. -/
def compareModels (left right : ProviderModelRow) : Ordering :=
  (compare left.providerModelName right.providerModelName).then (compare left.id right.id)

def assertProviderModelRowsUnique : List String → List ProviderModelRow → Except ProviderError Unit
  | _, [] => .ok ()
  | keys, row :: rows => do
    rejectIf (row.providerModelName ∈ keys)
      (.relay ⟨"provider_model_identity_ambiguous", "Provider model " ++ row.providerId ++ "/" ++
        row.providerModelName ++ " has duplicate identities", 409⟩)
    assertProviderModelRowsUnique (row.providerModelName :: keys) rows

/-- The binding is ready and there is an enabled model. -/
def requireProviderReady (providerId : String) (db : ProviderDatabase) :
    Except ProviderError Unit := do
  let models := StableSort.sortBy compareModels (modelsOf db providerId)
  assertProviderModelRowsUnique [] models
  rejectIf ((db.bindings.find? providerId).map (·.syncStatus) ≠ some .ready ∨
      ¬models.any (·.status = .enabled))
    (.relay ⟨"cliproxy_provider_not_ready",
      "CLIProxyAPI Provider needs a ready binding and an enabled model before it can be enabled",
      409⟩)

/-! ### Changing a Provider -/

/-- `PROVIDER_BINDING_TRANSITION_CODE`. -/
def transitionCode : String := "provider_binding_transition_in_progress"

def definedProvider (now : String) (definition : ProviderDefinition) (status : ProviderStatus)
    (row : ProviderRow) : ProviderRow :=
  { row with
    scopeRef := definition.scopeRef
    name := definition.name
    kind := definition.kind
    status
    baseUrlResolver := definition.baseUrlResolver
    credentialResolver := definition.credentialResolver
    modelsResolver := definition.modelsResolver
    configJson := definition.configJson
    cpaInstanceId := definition.cpaInstanceId
    updatedAt := now }

def materialChanged (existing : ProviderRow) (binding : Option ProviderBinding)
    (definition : ProviderDefinition) : Bool :=
  existing.kind ≠ definition.kind || existing.configJson ≠ definition.configJson ||
    binding.map (·.authMethod) ≠ some definition.authMethod

def newBinding (providerId authMethod now : String) : ProviderBinding where
  providerId
  authMethod
  credentialOwnership := "cpa-managed"
  credentialRefsJson := "[]"
  credentialPreview := none
  revision := 1
  syncStatus := .pending
  errorCode := none
  createdAt := now
  updatedAt := now

/-- What a change of the definition makes of a binding. -/
def changedBinding (authMethod now : String) (material : Bool) (binding : ProviderBinding) :
    ProviderBinding :=
  if material then
    { binding with
      authMethod
      credentialOwnership := "cpa-managed"
      credentialRefsJson := "[]"
      credentialPreview := none
      revision := binding.revision + 1
      syncStatus := .pending
      errorCode := none
      updatedAt := now }
  else
    { binding with authMethod, credentialOwnership := "cpa-managed", updatedAt := now }

def upsertedBinding (existing : Option ProviderBinding) (id authMethod now : String)
    (material : Bool) : ProviderBinding :=
  match existing with
  | some binding => changedBinding authMethod now material binding
  | none => newBinding id authMethod now

def putProvider (row : ProviderRow) : ProviderTxn Unit :=
  write fun db => some { db with providers := db.providers.put row }

def putBinding (binding : ProviderBinding) : ProviderTxn Unit :=
  write fun db => some { db with bindings := db.bindings.put binding }

def changeProvider (id : String) (command : ProviderDefinitionCommand) :
    ProviderTxn ProviderRow := do
  let existing ← lockProvider id
  let binding ← read fun db => .ok (db.bindings.find? id)
  let definition ← check (normalizeProviderDefinition id command)
  check (rejectIf (definition.ownerId ≠ existing.ownerId)
    (.relay ⟨"provider_owner_immutable", "Provider owner cannot change", 409⟩))
  check (match env.personalSlot id with
    | none => .ok ()
    | some userId => do
      assertPersonalProviderDefinition existing binding userId
      assertPersonalProviderUnchanged existing binding definition)
  check (requireAssignableCpaInstance env definition.cpaInstanceId existing.cpaInstanceId
    (binding.map (·.syncStatus)))
  check (rejectIf (binding.bind (·.errorCode) = some transitionCode)
    (.relay ⟨transitionCode, "Provider binding operation is still in progress", 409⟩))
  let material := materialChanged existing binding definition
  let status := if material then .disabled else definition.status
  read fun db => if status = .enabled then requireProviderReady id db else .ok ()
  let row := definedProvider env.nowIso definition status existing
  putProvider row
  putBinding (upsertedBinding binding id definition.authMethod env.nowIso material)
  pure row

def changeProviderStatus (id : String) (status : ProviderStatus) : ProviderTxn ProviderRow := do
  let existing ← lockProvider id
  let binding ← read fun db => .ok (db.bindings.find? id)
  check (match env.personalSlot id with
    | none => .ok ()
    | some userId => assertPersonalProviderDefinition existing binding userId)
  read fun db => if status = .enabled then requireProviderReady id db else .ok ()
  if existing.status = status then pure existing
  else do
    let row := { existing with status, updatedAt := env.nowIso }
    putProvider row
    pure row

/-! ### Models -/

/-- The model of a Provider with a name; there is at most one. -/
def uniqueProviderModel (db : ProviderDatabase) (providerId name : String) :
    Option ProviderModelRow :=
  db.models.rows.find? fun model => model.providerId = providerId ∧ model.providerModelName = name

/-- A new model, unless its identifier or its name at the Provider is taken. -/
def insertModel (row : ProviderModelRow) : ProviderTxn Unit :=
  write fun db =>
    if (uniqueProviderModel db row.providerId row.providerModelName).isSome then none
    else (db.models.insert? row).map fun models => { db with models }

def registerProviderModel (providerId providerModelName displayName : String) :
    ProviderTxn ProviderModelRow := do
  let _ ← lockProvider providerId
  let name ← check (required providerModelName "providerModelName")
  let prior ← read fun db => .ok (uniqueProviderModel db providerId name)
  match prior with
  | some model => pure model
  | none => do
    let id ← createId "provider_model"
    let displayName ← check (required displayName "displayName")
    let row : ProviderModelRow :=
      { id, providerId, providerModelName := name, displayName, status := .disabled,
        createdAt := env.nowIso, updatedAt := env.nowIso }
    insertModel row
    pure row

structure ChangeProviderModelCommand where
  displayName : Option String
  status : Option ProviderStatus

def changeProviderModel (providerId providerModelName : String)
    (command : ChangeProviderModelCommand) : ProviderTxn ProviderModelRow := do
  let _ ← lockProvider providerId
  let name ← check (required providerModelName "providerModelName")
  let existing ← read fun db => match uniqueProviderModel db providerId name with
    | some model => .ok model
    | none => relay "provider_model_not_found"
      ("Provider model " ++ providerId ++ "/" ++ name ++ " not found") 404
  let displayName ← check (match command.displayName with
    | none => .ok existing.displayName
    | some displayName => required displayName "displayName")
  let status := command.status.getD existing.status
  if status = existing.status ∧ displayName = existing.displayName then pure existing
  else do
    let row := { existing with status, displayName, updatedAt := env.nowIso }
    write fun db => some { db with models := db.models.put row }
    pure row

/-! ### Transitions of a binding -/

/-- `PROVIDER_BINDING_TRANSITION_RECOVERY_MS`. -/
def transitionRecoveryMs : Int := 16 * 60000

structure BeginProviderBindingTransitionCommand where
  expectedRevision : Int
  expectedAuthMethod : String
  expectedSyncStatus : SyncStatus
  expectedErrorCode : Option String
  expectedBindingUpdatedAt : String
  expectedProviderUpdatedAt : String
  disableProvider : Bool := false
  /-- whether there is an audit entry to write -/
  audit : Bool := false
  allowStaleRecovery : Bool := false

/-- The fields that are given, the other ones stay; a preview can be given as `null`. -/
structure CompleteProviderBindingTransitionCommand where
  credentialRefsJson : Option String := none
  credentialPreview : Option (Option String) := none
  syncStatus : SyncStatus
  errorCode : Option String := none

structure ProviderBindingTransitionView extends ProviderBinding where
  previousSyncStatus : SyncStatus

def bindingMissing : ProviderError :=
  .relay ⟨"cliproxy_binding_not_found", "CLIProxyAPI Provider binding is missing", 409⟩

def findBinding (providerId : String) : ProviderTxn ProviderBinding :=
  read fun db => match db.bindings.find? providerId with
    | some binding => .ok binding
    | none => .error bindingMissing

/-- The binding has been in transition for too long. -/
def isStale (binding : ProviderBinding) : Bool :=
  (Date.parse env.parseOther binding.updatedAt).any fun updatedAt =>
    decide (transitionRecoveryMs ≤ env.now - updatedAt)

def begunBinding (now : String) (binding : ProviderBinding) : ProviderBinding :=
  { binding with
    revision := binding.revision + 1
    syncStatus := .error
    errorCode := some transitionCode
    updatedAt := now }

def disableForTransition (provider : ProviderRow)
    (options : BeginProviderBindingTransitionCommand) :
    ProviderTxn Unit :=
  if options.disableProvider ∧ provider.status ≠ .disabled then do
    putProvider { provider with status := .disabled, updatedAt := env.nowIso }
    check (rejectIf (¬options.audit) (.error "provider_binding_transition_audit_required"))
  else pure ()

def beginProviderBindingTransition (providerId : String)
    (options : BeginProviderBindingTransitionCommand) :
    ProviderTxn ProviderBindingTransitionView := do
  let provider ← lockProvider providerId
  let binding ← findBinding providerId
  check (rejectIf (binding.revision ≠ options.expectedRevision ∨
      binding.authMethod ≠ options.expectedAuthMethod ∨
      binding.syncStatus ≠ options.expectedSyncStatus ∨
      binding.errorCode ≠ options.expectedErrorCode ∨
      binding.updatedAt ≠ options.expectedBindingUpdatedAt ∨
      provider.updatedAt ≠ options.expectedProviderUpdatedAt)
    (.relay ⟨"provider_binding_revision_conflict",
      "Provider or binding changed before the external operation started", 409⟩))
  check (rejectIf (binding.errorCode = some transitionCode ∧
      (¬options.allowStaleRecovery ∨ ¬isStale env binding))
    (.relay ⟨transitionCode, "Provider binding operation is still in progress", 409⟩))
  disableForTransition env provider options
  let pending := begunBinding env.nowIso binding
  putBinding pending
  pure { pending with previousSyncStatus := binding.syncStatus }

/-- The binding is in the state that a transition leaves it in when it begins. -/
def ProviderBinding.InTransition (binding : ProviderBinding) : Prop :=
  binding.syncStatus = .error ∧ binding.errorCode = some transitionCode

instance (binding : ProviderBinding) : Decidable binding.InTransition :=
  inferInstanceAs (Decidable (_ ∧ _))

def completedBinding (now : String) (command : CompleteProviderBindingTransitionCommand)
    (binding : ProviderBinding) : ProviderBinding :=
  { binding with
    credentialRefsJson := command.credentialRefsJson.getD binding.credentialRefsJson
    credentialPreview := command.credentialPreview.getD binding.credentialPreview
    syncStatus := command.syncStatus
    errorCode := command.errorCode
    updatedAt := now }

def completeProviderBindingTransition (providerId : String) (expectedRevision : Int)
    (command : CompleteProviderBindingTransitionCommand) :
    ProviderTxn ProviderBindingTransitionView := do
  let _ ← lockProvider providerId
  let binding ← findBinding providerId
  check (rejectIf (binding.revision ≠ expectedRevision ∨ ¬binding.InTransition)
    (.relay ⟨"provider_binding_revision_conflict",
      "Provider binding changed while the external operation was in progress", 409⟩))
  let completed := completedBinding env.nowIso command binding
  putBinding completed
  pure { completed with previousSyncStatus := binding.syncStatus }

/-! ### Removing a Provider -/

def credentialCleared (binding : ProviderBinding) : Bool :=
  binding.credentialRefsJson = "[]" && binding.credentialPreview = none &&
    binding.errorCode = none && binding.syncStatus = .cleared

def removeProvider (id : String) : ProviderTxn Unit := do
  let provider ← lockProvider id
  check (rejectIf (env.personalSlot id ≠ none)
    (.relay ⟨"personal_provider_retirement_not_implemented",
      "Slot-bound personal Provider retirement and replacement are not implemented", 409⟩))
  check (rejectIf (provider.status ≠ .disabled)
    (.relay ⟨"provider_must_be_disabled",
      "Provider " ++ id ++ " must be disabled before deletion", 409⟩))
  check (rejectIf (env.accessPointReference id)
    (.relay ⟨"provider_in_use", "Provider " ++ id ++ " is used by an AccessPoint", 409⟩))
  check (rejectIf (env.billingHistory id)
    (.relay ⟨"provider_history_retained",
      "Provider " ++ id ++ " is retained by online billing history", 409⟩))
  read fun db => rejectIf (¬(db.bindings.find? id).all credentialCleared)
    (.relay ⟨"provider_credential_not_cleared",
      "Provider " ++ id ++ " credential must be cleared before deletion", 409⟩)
  write fun db => some { db with models := db.models.filter (·.providerId ≠ id) }
  write fun db => some { db with bindings := db.bindings.erase id }
  write fun db => some { db with providers := db.providers.erase id }

/-! ### Steps -/

inductive ProviderCommand where
  | changeProvider (id : String) (command : ProviderDefinitionCommand)
  | changeProviderStatus (id : String) (status : ProviderStatus)
  | registerProviderModel (providerId providerModelName displayName : String)
  | changeProviderModel (providerId providerModelName : String)
      (command : ChangeProviderModelCommand)
  | beginProviderBindingTransition (providerId : String)
      (options : BeginProviderBindingTransitionCommand)
  | completeProviderBindingTransition (providerId : String) (expectedRevision : Int)
      (command : CompleteProviderBindingTransitionCommand)
  | removeProvider (id : String)

inductive ProviderAnswer where
  | provider (row : ProviderRow)
  | model (row : ProviderModelRow)
  | transition (view : ProviderBindingTransitionView)
  | removed

def runProviderCommand : ProviderCommand → ProviderTxn ProviderAnswer
  | .changeProvider id command => do
    let row ← changeProvider env id command
    pure (.provider row)
  | .changeProviderStatus id status => do
    let row ← changeProviderStatus env id status
    pure (.provider row)
  | .registerProviderModel providerId providerModelName displayName => do
    let row ← registerProviderModel env providerId providerModelName displayName
    pure (.model row)
  | .changeProviderModel providerId providerModelName command => do
    let row ← changeProviderModel env providerId providerModelName command
    pure (.model row)
  | .beginProviderBindingTransition providerId options => do
    let view ← beginProviderBindingTransition env providerId options
    pure (.transition view)
  | .completeProviderBindingTransition providerId expectedRevision command => do
    let view ← completeProviderBindingTransition env providerId expectedRevision command
    pure (.transition view)
  | .removeProvider id => do
    removeProvider env id
    pure .removed

/-- A command with what it runs in. -/
structure ProviderInput where
  environment : ProviderEnvironment
  freshId : Nat → String
  writesLeft : Option Nat
  command : ProviderCommand

abbrev ProviderOutput := Except (Failure ProviderError) ProviderAnswer

def providerStep (input : ProviderInput) (db : ProviderDatabase) :
    ProviderOutput × ProviderDatabase :=
  commit (runProviderCommand input.environment input.command)
    ⟨db, input.freshId, 0, input.writesLeft⟩

end Frely.ProviderManagement
