import Mathlib.Data.List.Infix
import MaestroKernel.Library.Builtins
import MaestroKernel.Library.JsonLayouts
import MaestroKernel.Library.Records
import MaestroKernel.Market.Catalog

/-! # Readiness tracking

A case tracks which inputs and security controls of an integration have been provided and verified.
Every record checks itself when it is built. -/

namespace MaestroKernel.Readiness

open Checked JsonText Records
open JsonText.Dict (getOr truthyOr)
open Market (strip)

/-- The functions of the standard library: `str(value)`, `repr(text)`, `lower`, `title` and the text
of a float. -/
structure Platform where
  text : Value → String
  repr : String → String
  lower : String → String
  title : String → String
  floats : FloatText
  text_str : ∀ s, text (.str s) = s
  lower_small : ∀ s : String, s.toList.all (fun c => c.isLower || c = '_') → lower s = s

inductive TrackingError where
  | valueError (message : String)
  | keyError (message : String)
  | attributeError
  | typeError
  | jsonDecodeError

/-- `sorted(ALLOWED_ITEM_STATUSES)` -/
def ALLOWED_ITEM_STATUSES : List String := ["missing", "provided", "rejected", "verified"]

/-- `sorted(SAFE_REFERENCE_TYPES)` -/
def SAFE_REFERENCE_TYPES : List String :=
  ["customer_portal_ref", "document_ref", "manual_note", "ticket_ref", "vault_ref"]

def FORBIDDEN_REFERENCE_MARKERS : List String :=
  ["password", "client_secret", "secret=", "token=", "api_key=", "bearer ", "http://", "https://",
    "-----begin"]

/-- `fragment in text` -/
def mentions (text fragment : String) : Bool := decide (fragment.toList <:+: text.toList)

section Checks

variable (env : Platform)

def assertSafeReferenceText (value fieldName : String) : Except TrackingError Unit :=
  raiseIf (FORBIDDEN_REFERENCE_MARKERS.any fun marker => mentions (env.lower value) marker)
    (.valueError (fieldName ++ " contains a forbidden reference marker"))

def assertKnownStatus (status : String) : Except TrackingError Unit :=
  raiseIf (status ∉ ALLOWED_ITEM_STATUSES)
    (.valueError ("Unsupported readiness item status " ++ env.repr status ++
      "; expected one of: " ++ ", ".intercalate ALLOWED_ITEM_STATUSES))

def requireText (value message : String) : Except TrackingError Unit :=
  raiseIf (strip value = "") (.valueError message)

/-- `if note: _assert_safe_reference_text(note, …)` -/
def assertSafeNote (note fieldName : String) : Except TrackingError Unit :=
  if note = "" then .ok () else assertSafeReferenceText env note fieldName

end Checks

/-! ## Records -/

structure ReferenceFields where
  referenceType : String
  referenceLabel : String

def ReferenceFields.postInit (env : Platform) (r : ReferenceFields) :
    Except TrackingError Unit := do
  raiseIf (r.referenceType ∉ SAFE_REFERENCE_TYPES)
    (.valueError ("Unsupported safe reference type " ++ env.repr r.referenceType ++
      "; expected one of: " ++ ", ".intercalate SAFE_REFERENCE_TYPES))
  requireText r.referenceLabel "safe reference label must not be empty"
  assertSafeReferenceText env r.referenceLabel "safe reference label"

structure SafeEvidenceReference (env : Platform) extends ReferenceFields where
  checked : toReferenceFields.postInit env = .ok ()

def SafeEvidenceReference.make (env : Platform) (r : ReferenceFields) :
    Except TrackingError (SafeEvidenceReference env) :=
  construct (r.postInit env) fun h => ⟨r, h⟩

structure ItemFields (env : Platform) where
  key : String
  status : String := "missing"
  safeReference : Option (SafeEvidenceReference env) := none
  verifiedBy : Value := .null
  verifiedAt : Value := .null
  note : String := ""

def ItemFields.postInit {env : Platform} (i : ItemFields env) : Except TrackingError Unit := do
  requireText i.key "readiness item key must not be empty"
  assertKnownStatus env i.status
  assertSafeNote env i.note "readiness item note"
  raiseIf (i.status = "verified" ∧ ¬ i.verifiedBy.truthy)
    (.valueError "verified readiness items require verified_by")

structure ReadinessItemStatus (env : Platform) extends ItemFields env where
  checked : toItemFields.postInit = .ok ()

def ReadinessItemStatus.make {env : Platform} (i : ItemFields env) :
    Except TrackingError (ReadinessItemStatus env) :=
  construct i.postInit fun h => ⟨i, h⟩

structure EventFields where
  eventType : String
  actor : String
  safeSummary : String
  createdAt : String

def EventFields.postInit (env : Platform) (e : EventFields) : Except TrackingError Unit := do
  requireText e.eventType "timeline event type must not be empty"
  requireText e.actor "timeline event actor must not be empty"
  requireText e.safeSummary "timeline safe summary must not be empty"
  assertSafeReferenceText env e.safeSummary "timeline safe summary"

structure ReadinessTimelineEvent (env : Platform) extends EventFields where
  checked : toEventFields.postInit env = .ok ()

def ReadinessTimelineEvent.make (env : Platform) (e : EventFields) :
    Except TrackingError (ReadinessTimelineEvent env) :=
  construct (e.postInit env) fun h => ⟨e, h⟩

structure CaseFields (env : Platform) where
  caseId : String
  clientId : String
  requestId : String
  adapterContractId : String
  credentialProfileId : String
  operationalProfileId : String := ""
  status : String := "blocked"
  inputStatuses : List (ReadinessItemStatus env) := []
  securityControlStatuses : List (ReadinessItemStatus env) := []
  timeline : List (ReadinessTimelineEvent env) := []
  assignedSupervisor : String := ""
  sandboxReady : Bool := false
  productionAllowed : Bool := false
  runtimeConnectorApproved : Bool := false
  externalHttpEnabled : Bool := false
  rawSecretVisible : Bool := false
  createdAt : String
  updatedAt : String

def requireField (env : Platform) (fieldName value : String) : Except TrackingError Unit := do
  requireText value (fieldName ++ " must not be empty")
  assertSafeReferenceText env value fieldName

def CaseFields.postInit {env : Platform} (c : CaseFields env) : Except TrackingError Unit := do
  requireField env "case_id" c.caseId
  requireField env "client_id" c.clientId
  requireField env "request_id" c.requestId
  requireField env "adapter_contract_id" c.adapterContractId
  requireField env "credential_profile_id" c.credentialProfileId
  raiseIf c.productionAllowed
    (.valueError "production approval cannot be enabled by readiness tracking")
  raiseIf c.runtimeConnectorApproved
    (.valueError "runtime connector approval cannot be enabled by readiness tracking")
  raiseIf c.externalHttpEnabled
    (.valueError "external HTTP cannot be enabled by readiness tracking")
  raiseIf c.rawSecretVisible
    (.valueError "raw secret visibility cannot be enabled by readiness tracking")

structure IntegrationReadinessCase (env : Platform) extends CaseFields env where
  checked : toCaseFields.postInit = .ok ()

def IntegrationReadinessCase.make {env : Platform} (c : CaseFields env) :
    Except TrackingError (IntegrationReadinessCase env) :=
  construct c.postInit fun h => ⟨c, h⟩

/-! ## New cases -/

section Cases

variable (env : Platform)

def tupleOfStrings (value : Value) : List String :=
  let parts : List String := match value with
    | .null => []
    | .str s => (s.toList.splitOn ',').map String.ofList
    | .arr xs => xs.map env.text
    | v => [env.text v]
  (parts.map strip).filter (· ≠ "")

/-- `str(check.get(key, "")).strip()` -/
def checkText (check : List (String × Value)) (key : String) : String :=
  strip (env.text (getOr check key (.str "")))

def adapterContractIdOf (check : List (String × Value)) : String :=
  checkText env check "adapter_contract_id"

def credentialProfileIdOf (check : List (String × Value)) : String :=
  checkText env check "credential_profile_id"

def readinessCheckIdOf (check : List (String × Value)) : String :=
  let readinessCheckId := checkText env check "readiness_check_id"
  if readinessCheckId = "" then
    adapterContractIdOf env check ++ ":" ++ credentialProfileIdOf env check ++ ":readiness"
  else readinessCheckId

def missingInputsOf (check : List (String × Value)) : List String :=
  tupleOfStrings env (getOr check "missing_inputs" .null)

def missingSecurityControlsOf (check : List (String × Value)) : List String :=
  tupleOfStrings env (getOr check "missing_security_controls" .null)

/-- The id that `build_case_id` joins. -/
def joinedCaseId (clientId requestId readinessCheckId : String) : String :=
  strip clientId ++ ":" ++ strip requestId ++ ":" ++ strip readinessCheckId

def buildCaseId (clientId requestId readinessCheckId : String) : Except TrackingError String := do
  assertSafeReferenceText env (strip clientId) "case id component"
  assertSafeReferenceText env (strip requestId) "case id component"
  assertSafeReferenceText env (strip readinessCheckId) "case id component"
  pure (joinedCaseId clientId requestId readinessCheckId)

/-- What a case is made of beside the check. -/
structure CaseContext where
  clientId : String
  requestId : String
  operationalProfileId : String
  assignedSupervisor : String

def readinessCaseFromCheck (check : List (String × Value)) (context : CaseContext) (now : String) :
    Except TrackingError (IntegrationReadinessCase env) := do
  let inputStatuses ← (missingInputsOf env check).mapM fun key =>
    ReadinessItemStatus.make { key := key }
  let securityControlStatuses ← (missingSecurityControlsOf env check).mapM fun key =>
    ReadinessItemStatus.make { key := key }
  let created ← ReadinessTimelineEvent.make env
    { eventType := "case_created"
      actor := if context.assignedSupervisor = "" then "system" else context.assignedSupervisor
      safeSummary := "Readiness tracking case created from declarative readiness check."
      createdAt := now }
  let caseId ← buildCaseId env context.clientId context.requestId (readinessCheckIdOf env check)
  IntegrationReadinessCase.make
    { caseId := caseId
      clientId := context.clientId
      requestId := context.requestId
      adapterContractId := adapterContractIdOf env check
      credentialProfileId := credentialProfileIdOf env check
      operationalProfileId := context.operationalProfileId
      inputStatuses := inputStatuses
      securityControlStatuses := securityControlStatuses
      timeline := [created]
      assignedSupervisor := context.assignedSupervisor
      createdAt := now
      updatedAt := now }

end Cases

/-! ## Updates -/

section Updates

variable {env : Platform}

structure ItemUpdate (env : Platform) where
  itemKind : String
  itemKey : String
  status : String
  actor : String
  safeReference : Option (SafeEvidenceReference env)
  note : String

def ItemUpdate.item (u : ItemUpdate env) (now : String) : ItemFields env where
  key := u.itemKey
  status := u.status
  safeReference := u.safeReference
  verifiedBy := if u.status = "verified" then .str u.actor else .null
  verifiedAt := if u.status = "verified" then .str now else .null
  note := u.note

def updateItems (items : List (ReadinessItemStatus env)) (u : ItemUpdate env) (now : String) :
    Except TrackingError (List (ReadinessItemStatus env)) := do
  assertKnownStatus env u.status
  let updated ← items.mapM fun item =>
    if item.key = u.itemKey then ReadinessItemStatus.make (u.item now) else .ok item
  if items.any fun item => item.key = u.itemKey then pure updated
  else do
    let added ← ReadinessItemStatus.make (u.item now)
    pure (updated ++ [added])

def allItemsVerified (items : List (ReadinessItemStatus env)) : Bool :=
  !items.isEmpty && items.all fun item => item.status = "verified"

def computeSandboxReady (c : IntegrationReadinessCase env) : Bool :=
  allItemsVerified c.inputStatuses && allItemsVerified c.securityControlStatuses

def updatedInputs (c : IntegrationReadinessCase env) (u : ItemUpdate env) (now : String) :
    Except TrackingError (List (ReadinessItemStatus env)) :=
  if u.itemKind = "input" then updateItems c.inputStatuses u now else .ok c.inputStatuses

def updatedControls (c : IntegrationReadinessCase env) (u : ItemUpdate env) (now : String) :
    Except TrackingError (List (ReadinessItemStatus env)) :=
  if u.itemKind = "input" then .ok c.securityControlStatuses
  else updateItems c.securityControlStatuses u now

def updateReadinessCaseItem (c : IntegrationReadinessCase env) (u : ItemUpdate env)
    (now : String) : Except TrackingError (IntegrationReadinessCase env) := do
  raiseIf (u.itemKind ∉ ["input", "security_control"])
    (.valueError "item_kind must be input or security_control")
  requireText u.actor "actor must not be empty"
  assertSafeNote env u.note "readiness update note"
  let inputStatuses ← updatedInputs c u now
  let securityControlStatuses ← updatedControls c u now
  let event ← ReadinessTimelineEvent.make env
    { eventType := u.itemKind ++ "_" ++ u.status
      actor := u.actor
      safeSummary := u.itemKind ++ " " ++ u.itemKey ++ " marked as " ++ u.status ++ "."
      createdAt := now }
  let updated ← IntegrationReadinessCase.make
    { c.toCaseFields with
      inputStatuses := inputStatuses
      securityControlStatuses := securityControlStatuses
      timeline := c.timeline ++ [event]
      updatedAt := now }
  IntegrationReadinessCase.make
    { updated.toCaseFields with
      sandboxReady := computeSandboxReady updated
      status := if computeSandboxReady updated then "sandbox_ready" else "blocked"
      productionAllowed := false
      runtimeConnectorApproved := false
      externalHttpEnabled := false
      rawSecretVisible := false }

def readinessCaseSummary (c : IntegrationReadinessCase env) : List (String × Value) :=
  let items := c.inputStatuses ++ c.securityControlStatuses
  [("case_id", .str c.caseId),
   ("client_id", .str c.clientId),
   ("request_id", .str c.requestId),
   ("adapter_contract_id", .str c.adapterContractId),
   ("credential_profile_id", .str c.credentialProfileId),
   ("operational_profile_id", .str c.operationalProfileId),
   ("status", .str c.status),
   ("inputs_total", .int c.inputStatuses.length),
   ("security_controls_total", .int c.securityControlStatuses.length),
   ("status_counts", .obj (ALLOWED_ITEM_STATUSES.map fun status =>
      (status, .int (items.countP fun item => item.status = status)))),
   ("sandbox_ready", .bool c.sandboxReady),
   ("production_allowed", .bool false),
   ("runtime_connector_approved", .bool false),
   ("external_http_enabled", .bool false),
   ("raw_secret_visible", .bool false),
   ("timeline_events", .int c.timeline.length)]

end Updates

end MaestroKernel.Readiness
