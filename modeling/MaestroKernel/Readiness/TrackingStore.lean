import MaestroKernel.Readiness.Tracking

/-! # The readiness tracking store

Two interfaces keep the cases in one JSON file. The first one reads records and checks them; the
second one (12A) normalizes whatever it finds, and writes what it has normalized. -/

namespace MaestroKernel.Readiness

open Checked JsonText Records
open JsonText.Dict (getOr truthyOr)
open Market (strip)

/-! ## The first codec -/

section FirstCodec

variable (env : Platform)

/-- A dict, for `value.get(…)`. -/
def asDict : Value → Except TrackingError (List (String × Value))
  | .obj items => .ok items
  | _ => .error .attributeError

/-- `for element in value` -/
def elementsOf : Value → Except TrackingError (List Value)
  | .arr xs => .ok xs
  | .obj items => .ok ((Dict.entries items).map fun item => .str item.1)
  | .str s => .ok (s.toList.map fun c => .str (String.ofList [c]))
  | _ => .error .typeError

/-- `str(value.get(key, default))` -/
def textAt (record : List (String × Value)) (key : String) (default : String := "") : String :=
  env.text (getOr record key (.str default))

def safeReferenceFromDict (value : Value) :
    Except TrackingError (Option (SafeEvidenceReference env)) :=
  if value.truthy then do
    let record ← asDict value
    let reference ← SafeEvidenceReference.make env
      { referenceType := textAt env record "reference_type"
        referenceLabel := textAt env record "reference_label" }
    pure (some reference)
  else .ok none

def itemFromDict (value : Value) : Except TrackingError (ReadinessItemStatus env) := do
  let record ← asDict value
  let reference ← safeReferenceFromDict env (getOr record "safe_reference" .null)
  ReadinessItemStatus.make
    { key := textAt env record "key"
      status := textAt env record "status" "missing"
      safeReference := reference
      verifiedBy := getOr record "verified_by" .null
      verifiedAt := getOr record "verified_at" .null
      note := textAt env record "note" }

def timelineEventFromDict (value : Value) :
    Except TrackingError (ReadinessTimelineEvent env) := do
  let record ← asDict value
  ReadinessTimelineEvent.make env
    { eventType := textAt env record "event_type"
      actor := textAt env record "actor"
      safeSummary := textAt env record "safe_summary"
      createdAt := textAt env record "created_at" }

/-- `[read(element) for element in value.get(key, [])]` -/
def readList {α : Type} (read : Value → Except TrackingError α) (record : List (String × Value))
    (key : String) : Except TrackingError (List α) := do
  let elements ← elementsOf (getOr record key (.arr []))
  elements.mapM read

def caseFieldsFromDict (record : List (String × Value))
    (inputStatuses securityControlStatuses : List (ReadinessItemStatus env))
    (timeline : List (ReadinessTimelineEvent env)) : CaseFields env where
  caseId := textAt env record "case_id"
  clientId := textAt env record "client_id"
  requestId := textAt env record "request_id"
  adapterContractId := textAt env record "adapter_contract_id"
  credentialProfileId := textAt env record "credential_profile_id"
  operationalProfileId := textAt env record "operational_profile_id"
  status := textAt env record "status" "blocked"
  inputStatuses := inputStatuses
  securityControlStatuses := securityControlStatuses
  timeline := timeline
  assignedSupervisor := textAt env record "assigned_supervisor"
  sandboxReady := (getOr record "sandbox_ready" (.bool false)).truthy
  productionAllowed := (getOr record "production_allowed" (.bool false)).truthy
  runtimeConnectorApproved := (getOr record "runtime_connector_approved" (.bool false)).truthy
  externalHttpEnabled := (getOr record "external_http_enabled" (.bool false)).truthy
  rawSecretVisible := (getOr record "raw_secret_visible" (.bool false)).truthy
  createdAt := textAt env record "created_at"
  updatedAt := textAt env record "updated_at"

def readinessCaseFromDict (value : Value) :
    Except TrackingError (IntegrationReadinessCase env) := do
  let record ← asDict value
  let inputStatuses ← readList (itemFromDict env) record "input_statuses"
  let securityControlStatuses ← readList (itemFromDict env) record "security_control_statuses"
  let timeline ← readList (timelineEventFromDict env) record "timeline"
  IntegrationReadinessCase.make
    (caseFieldsFromDict env record inputStatuses securityControlStatuses timeline)

variable {env}

def referenceToDict : Option (SafeEvidenceReference env) → Value
  | none => .null
  | some r => .obj
      [("reference_type", .str r.referenceType), ("reference_label", .str r.referenceLabel)]

def itemToDict (i : ReadinessItemStatus env) : List (String × Value) :=
  [("key", .str i.key),
   ("status", .str i.status),
   ("safe_reference", referenceToDict i.safeReference),
   ("verified_by", i.verifiedBy),
   ("verified_at", i.verifiedAt),
   ("note", .str i.note)]

def eventToDict (e : ReadinessTimelineEvent env) : List (String × Value) :=
  [("event_type", .str e.eventType),
   ("actor", .str e.actor),
   ("safe_summary", .str e.safeSummary),
   ("created_at", .str e.createdAt)]

def readinessCaseToDict (c : IntegrationReadinessCase env) : List (String × Value) :=
  [("case_id", .str c.caseId),
   ("client_id", .str c.clientId),
   ("request_id", .str c.requestId),
   ("adapter_contract_id", .str c.adapterContractId),
   ("credential_profile_id", .str c.credentialProfileId),
   ("operational_profile_id", .str c.operationalProfileId),
   ("status", .str c.status),
   ("input_statuses", .arr (c.inputStatuses.map fun item => .obj (itemToDict item))),
   ("security_control_statuses",
     .arr (c.securityControlStatuses.map fun item => .obj (itemToDict item))),
   ("timeline", .arr (c.timeline.map fun event => .obj (eventToDict event))),
   ("assigned_supervisor", .str c.assignedSupervisor),
   ("sandbox_ready", .bool c.sandboxReady),
   ("production_allowed", .bool false),
   ("runtime_connector_approved", .bool false),
   ("external_http_enabled", .bool false),
   ("raw_secret_visible", .bool false),
   ("created_at", .str c.createdAt),
   ("updated_at", .str c.updatedAt)]

variable (env)

def loadReadinessCases (file : Option String) :
    Except TrackingError (List (IntegrationReadinessCase env)) :=
  match file with
  | none => .ok []
  | some text =>
    if strip text = "" then .ok []
    else do
      let payload ← demand (loads env.floats text) .jsonDecodeError
      let records ← elementsOf (match payload with
        | .obj items => getOr items "cases" (.arr [])
        | payload => payload)
      records.mapM (readinessCaseFromDict env)

/-- The text that `save_readiness_cases` writes. -/
def savedText (cases : List (IntegrationReadinessCase env)) : String :=
  String.ofList (writeIn indented env.floats 0 (Value.obj
    [("schema_version", .str "integration_readiness_tracking_11p"),
     ("cases", .arr (cases.map fun c => .obj (readinessCaseToDict c)))]).canonical ++ ['\n'])

end FirstCodec

/-! ## The first interface -/

section FirstInterface

variable (env : Platform)

def replaceCase (cases : List (IntegrationReadinessCase env)) (new : IntegrationReadinessCase env) :
    List (IntegrationReadinessCase env) :=
  if cases.any fun c => c.caseId = new.caseId then
    cases.map fun c => if c.caseId = new.caseId then new else c
  else cases ++ [new]

/-- The check of a payload, or the one that its own fields make. -/
def checkOf (payload : List (String × Value)) : Except TrackingError (List (String × Value)) :=
  let check := getOr payload "readiness_check" .null
  if check.truthy then asDict check
  else .ok
    [("readiness_check_id", getOr payload "readiness_check_id" (.str "")),
     ("adapter_contract_id", getOr payload "adapter_contract_id" (.str "")),
     ("credential_profile_id", getOr payload "credential_profile_id" (.str "")),
     ("missing_inputs", getOr payload "missing_inputs" (.arr [])),
     ("missing_security_controls", getOr payload "missing_security_controls" (.arr []))]

def contextOf (payload : List (String × Value)) : CaseContext where
  clientId := textAt env payload "client_id"
  requestId := textAt env payload "request_id"
  operationalProfileId := textAt env payload "operational_profile_id"
  assignedSupervisor := textAt env payload "assigned_supervisor"

/-- The text that is written and the case whose summary is returned. -/
def createTrackingCaseFromPayload (payload : List (String × Value)) (now : String)
    (file : Option String) : Except TrackingError (String × IntegrationReadinessCase env) := do
  let check ← checkOf payload
  let c ← readinessCaseFromCheck env check (contextOf env payload) now
  let cases ← loadReadinessCases env file
  pure (savedText env (replaceCase env cases c), c)

def updateTrackingCaseItemFromPayload (caseId : String) (payload : List (String × Value))
    (now : String) (file : Option String) :
    Except TrackingError (String × IntegrationReadinessCase env) := do
  let cases ← loadReadinessCases env file
  let target ← demand (cases.find? fun c => c.caseId = caseId)
    (.keyError ("readiness tracking case not found: " ++ caseId))
  let reference ← safeReferenceFromDict env (truthyOr payload "safe_reference" .null)
  let updated ← updateReadinessCaseItem target
    { itemKind := textAt env payload "item_kind"
      itemKey := textAt env payload "item_key"
      status := textAt env payload "status"
      actor := textAt env payload "actor"
      safeReference := reference
      note := textAt env payload "note" } now
  pure (savedText env (replaceCase env cases updated), updated)

end FirstInterface

/-! ## The second codec -/

def ALLOWED_ITEM_STATUSES_12A : List String :=
  ["missing", "pending", "provided", "verified", "rejected"]

def ACTION_ITEM_STATUSES_12A : List String := ["provided", "verified", "rejected"]

/-- `{"item_key": …, "label": …, "status": …}` -/
def defaultItem (itemKey label status : String) : Value :=
  .obj [("item_key", .str itemKey), ("label", .str label), ("status", .str status)]

def DEFAULT_INPUT_ITEMS_12A : List Value :=
  [defaultItem "enterprise_core_api_reference" "Enterprise core API reference" "missing",
   defaultItem "sandbox_access_reference" "Sandbox access reference" "missing",
   defaultItem "auth_method_reference" "Authentication method reference" "missing",
   defaultItem "allowed_scopes_reference" "Allowed API scopes reference" "missing",
   defaultItem "rate_limits_reference" "Rate limits reference" "missing",
   defaultItem "test_account_reference" "Test account reference" "missing"]

def DEFAULT_SECURITY_ITEMS_12A : List Value :=
  [defaultItem "no_raw_secrets" "No raw secrets supplied" "verified",
   defaultItem "sandbox_before_production" "Sandbox before production" "missing",
   defaultItem "read_only_first" "Read-only first integration posture" "missing",
   defaultItem "supervisor_approval_required" "Supervisor approval required" "missing"]

def FORBIDDEN_REFERENCE_FRAGMENTS_12A : List String :=
  ["http://", "https://", "sk-", "secret", "password", "passwd", "token=", "api_key", "apikey",
    "bearer ", "authorization:"]

structure Item12a where
  itemKey : String
  label : String
  status : String
  safeReference : String
  note : String
  updatedAt : String

structure Event12a where
  event : String
  itemKey : String
  status : String
  safeReference : String
  note : String
  at' : String

structure Case12a where
  caseId : String
  clientId : String
  requestId : String
  adapterId : String
  status : String
  inputStatuses : List Item12a
  securityControlStatuses : List Item12a
  timeline : List Event12a

section SecondCodec

variable (env : Platform)

/-- `v or w` -/
def orElse (v w : Value) : Value := if v.truthy then v else w

/-- `raw.get(key)` -/
def at? (raw : List (String × Value)) (key : String) : Value := getOr raw key .null

/-- `_sanitize_text_12a` -/
def sanitizeText (value : Value) (maxLen : ℕ := 240) : String :=
  if value = .null then ""
  else
    let text := strip (env.text value)
    if FORBIDDEN_REFERENCE_FRAGMENTS_12A.any fun fragment => mentions (env.lower text) fragment
    then ""
    else String.ofList (text.toList.take maxLen)

/-- `text.replace("_", " ").title()` -/
def titled (text : String) : String :=
  env.title (String.ofList (text.toList.map fun c => if c = '_' then ' ' else c))

/-- `_normalize_item_12a` -/
def normalizeItem (item : Value) (index : ℕ) (group : String) : Item12a :=
  let raw := match item with
    | .str s => [("item_key", .str s)]
    | .obj raw => raw
    | _ => []
  let numbered := group ++ "_" ++ toString (index + 1)
  let found := sanitizeText env (orElse (at? raw "item_key") (orElse (at? raw "key")
    (orElse (at? raw "id") (.str numbered)))) 120
  let itemKey := if found = "" then numbered else found
  let status := env.lower (strip (env.text (orElse (at? raw "status")
    (orElse (at? raw "state") (.str "missing")))))
  { itemKey := itemKey
    label := sanitizeText env (orElse (at? raw "label") (orElse (at? raw "title")
      (.str (titled env itemKey)))) 160
    status := if status ∈ ALLOWED_ITEM_STATUSES_12A then status else "missing"
    safeReference := sanitizeText env (orElse (at? raw "safe_reference") (at? raw "reference"))
    note := sanitizeText env (at? raw "note")
    updatedAt := sanitizeText env (at? raw "updated_at") 80 }

/-- The elements of a list, or the values of a dict under their keys. -/
def itemSource (value : Value) (defaults : List Value) : List Value :=
  let source := match value with
    | .arr xs => xs
    | .obj items => (Dict.entries items).map fun (key, v) => .obj (("item_key", .str key) ::
        match v with
        | .obj fields => fields
        | v => [("status", v)])
    | _ => []
  if source.isEmpty then defaults else source

/-- `_normalize_items_12a` -/
def normalizeItems (value : Value) (defaults : List Value) (group : String) : List Item12a :=
  (itemSource value defaults).mapIdx fun index item => normalizeItem env item index group

/-- `_case_id_12a` -/
def caseId12a (raw : List (String × Value)) : String :=
  let caseId := sanitizeText env (at? raw "case_id") 220
  if caseId ≠ "" then caseId
  else
    let clientId := sanitizeText env (orElse (at? raw "client_id") (.str "unknown_client")) 80
    let requestId := sanitizeText env (orElse (at? raw "request_id") (.str "unknown_request")) 80
    let adapterId := sanitizeText env (orElse (at? raw "adapter_id")
      (orElse (at? raw "integration_type") (.str "generic"))) 80
    clientId ++ ":" ++ requestId ++ ":" ++ adapterId ++ ":readiness"

/-- `_normalize_timeline_event_12a` -/
def normalizeTimelineEvent (event : List (String × Value)) (index : ℕ) : Event12a where
  event := sanitizeText env (orElse (at? event "event") (orElse (at? event "type")
    (.str ("event_" ++ toString (index + 1))))) 120
  itemKey := sanitizeText env (at? event "item_key") 120
  status := sanitizeText env (at? event "status") 40
  safeReference := sanitizeText env (at? event "safe_reference")
  note := sanitizeText env (at? event "note")
  at' := sanitizeText env (orElse (at? event "at") (at? event "created_at")) 80

/-- The events of a timeline; what is no dict is left out. -/
def normalizeTimeline (value : Value) : List Event12a :=
  match value with
  | .arr xs => (xs.mapIdx fun index event => match event with
      | .obj fields => some (normalizeTimelineEvent env fields index)
      | _ => none).reduceOption
  | _ => []

/-- `_normalize_case_12a` -/
def normalizeCase (value : Value) : Case12a :=
  let raw := match value with
    | .obj raw => raw
    | _ => []
  { caseId := caseId12a env raw
    clientId := sanitizeText env (at? raw "client_id") 100
    requestId := sanitizeText env (at? raw "request_id") 120
    adapterId := sanitizeText env (orElse (at? raw "adapter_id") (at? raw "integration_type")) 120
    status := sanitizeText env (orElse (at? raw "status") (.str "readiness_tracking")) 80
    inputStatuses := normalizeItems env
      (orElse (at? raw "input_statuses") (orElse (at? raw "inputs")
        (orElse (at? raw "required_inputs") (at? raw "provided_inputs"))))
      DEFAULT_INPUT_ITEMS_12A "input"
    securityControlStatuses := normalizeItems env
      (orElse (at? raw "security_control_statuses") (orElse (at? raw "security_controls")
        (at? raw "controls")))
      DEFAULT_SECURITY_ITEMS_12A "security"
    timeline := normalizeTimeline env
      (orElse (at? raw "timeline") (orElse (at? raw "timeline_events") (.arr []))) }

/-- `item.setdefault("case_id", str(key))` of the dicts among the values. -/
def keyedCases (items : List (String × Value)) : List Value :=
  (Dict.entries items).filterMap fun (key, v) => match v with
    | .obj fields => some (.obj (match Dict.get? "case_id" fields with
        | some _ => fields
        | none => fields ++ [("case_id", .str key)]))
    | _ => none

/-- `_cases_from_payload_12a` -/
def casesFromPayload (payload : Value) : List Value :=
  match payload with
  | .arr xs => xs
  | .obj items =>
    match getOr items "cases" .null with
    | .arr cases => cases
    | .obj cases => keyedCases cases
    | _ => keyedCases ((Dict.entries items).filter fun item => match item.2 with
        | .obj fields => ["case_id", "client_id", "request_id"].any fun key =>
          (Dict.get? key fields).isSome
        | _ => false)
  | _ => []

/-- `_read_tracking_payload_12a` -/
def readTrackingPayload (file : Option String) : Value :=
  match file with
  | none => .obj [("cases", .arr [])]
  | some text =>
    let raw := strip text
    if raw = "" then .obj [("cases", .arr [])]
    else (loads env.floats raw).getD (.obj [("cases", .arr [])])

/-- `_load_normalized_cases_12a` -/
def loadNormalizedCases (file : Option String) : List Case12a :=
  (casesFromPayload (readTrackingPayload env file)).map (normalizeCase env)

def Item12a.fields (i : Item12a) : List (String × Value) :=
  [("item_key", .str i.itemKey), ("label", .str i.label), ("status", .str i.status),
   ("safe_reference", .str i.safeReference), ("note", .str i.note),
   ("updated_at", .str i.updatedAt)]

def Event12a.fields (e : Event12a) : List (String × Value) :=
  [("event", .str e.event), ("item_key", .str e.itemKey), ("status", .str e.status),
   ("safe_reference", .str e.safeReference), ("note", .str e.note), ("at", .str e.at')]

/-- `_guardrails_12a` -/
def guardrails : List (String × Value) :=
  [("production_allowed", .bool false), ("runtime_connector_approved", .bool false),
   ("external_http_enabled", .bool false), ("raw_secret_visible", .bool false)]

def Case12a.fields (c : Case12a) : List (String × Value) :=
  [("case_id", .str c.caseId), ("client_id", .str c.clientId), ("request_id", .str c.requestId),
   ("adapter_id", .str c.adapterId), ("status", .str c.status),
   ("input_statuses", .arr (c.inputStatuses.map fun item => .obj item.fields)),
   ("security_control_statuses",
     .arr (c.securityControlStatuses.map fun item => .obj item.fields)),
   ("timeline", .arr (c.timeline.map fun event => .obj event.fields))] ++ guardrails

/-- The text that `_write_tracking_cases_12a` writes. -/
def writtenText (cases : List Case12a) (now : String) : String :=
  String.ofList (writeIn indented env.floats 0 (Value.obj
    [("cases", .arr (cases.map fun c => .obj c.fields)), ("guardrails", .obj guardrails),
     ("updated_at", .str now)]).canonical)

end SecondCodec

/-! ## The second interface -/

section SecondInterface

variable (env : Platform)

/-- The arguments of `update_tracking_case_item_12a`, once they are sanitized. -/
structure Target12a where
  caseId : String
  itemKey : String
  status : String
  safeReference : String
  note : String

structure Update12a where
  caseId : String
  itemKey : String
  status : String
  safeReference : String := ""
  note : String := ""

/-- `str(value or "").strip().lower()` -/
def actionStatus (status : String) : String := env.lower (strip status)

def Update12a.target (u : Update12a) : Target12a where
  caseId := sanitizeText env (.str u.caseId) 220
  itemKey := sanitizeText env (.str u.itemKey) 120
  status := actionStatus env u.status
  safeReference := sanitizeText env (.str u.safeReference)
  note := sanitizeText env (.str u.note)

def Target12a.mark (t : Target12a) (now : String) (item : Item12a) : Item12a :=
  if item.itemKey = t.itemKey then
    { item with
      status := t.status
      safeReference := t.safeReference
      note := t.note
      updatedAt := now }
  else item

/-- The case with the item marked, or added to the inputs where it is in neither list. -/
def Target12a.apply (t : Target12a) (now : String) (c : Case12a) : Case12a :=
  let known := (c.inputStatuses ++ c.securityControlStatuses).any fun item =>
    item.itemKey = t.itemKey
  { c with
    inputStatuses := c.inputStatuses.map (t.mark now) ++
      if known then []
      else
        [{ itemKey := t.itemKey
           label := titled env t.itemKey
           status := t.status
           safeReference := t.safeReference
           note := t.note
           updatedAt := now }]
    securityControlStatuses := c.securityControlStatuses.map (t.mark now)
    timeline := c.timeline ++
      [{ event := "item_" ++ t.status
         itemKey := t.itemKey
         status := t.status
         safeReference := t.safeReference
         note := t.note
         at' := now }] }

/-- The change to the first case with the id. -/
def applyFirst (p : Case12a → Bool) (f : Case12a → Case12a) : List Case12a → List Case12a
  | [] => []
  | c :: cases => if p c then f c :: cases else c :: applyFirst p f cases

/-- `update_tracking_case_item_12a` up to the write; it goes on to show the case that it reads back
from the text. -/
def updateTrackingCaseItem12a (u : Update12a) (now : String) (file : Option String) :
    Except TrackingError String := do
  let target := u.target env
  raiseIf (target.status ∉ ACTION_ITEM_STATUSES_12A)
    (.valueError ("Unsupported readiness item status: " ++ env.repr u.status))
  raiseIf (target.caseId = "") (.valueError "case_id is required")
  raiseIf (target.itemKey = "") (.valueError "item_key is required")
  let cases := loadNormalizedCases env file
  raiseIf (¬ cases.any fun c => c.caseId = target.caseId) (.keyError target.caseId)
  pure (writtenText env
    (applyFirst (fun c => c.caseId = target.caseId) (target.apply env now) cases) now)

end SecondInterface

end MaestroKernel.Readiness
