import MaestroKernel.Library.RowLocks
import MaestroKernel.Market.Catalog

/-! # Payment destinations

`PaymentDestinationAdministrationService` over the table of the destinations, whose constraints are
checked statement by statement. A flush updates rows in the order of their primary keys. All
destinations have the one country, currency and sales channel that the table allows. Instants are
counted in microseconds. -/

namespace MaestroKernel.Destinations

open Durable (isBlank)
open Interaction RowLocks
open Market (strip)

abbrev Uuid : Type := ℕ

inductive PaymentDestinationType where
  | bankAccount | postalAccount
deriving DecidableEq

inductive PaymentDestinationStatus where
  | draft | validated | active | inactive
deriving DecidableEq

inductive PaymentDestinationValidationMethod where
  | structural | provider
deriving DecidableEq

structure AdminMarketPaymentDestination where
  id : Uuid
  destinationRef : String
  displayName : String
  destinationType : PaymentDestinationType
  institutionName : String
  accountHolderName : String
  identifierCiphertext : List UInt8
  identifierKeyVersion : String
  maskedIdentifier : String
  creationIdempotencyKeyHash : Option String
  status : PaymentDestinationStatus
  validationMethod : Option PaymentDestinationValidationMethod
  validationReasonCode : Option String
  validatedAt : Option ℤ
  isActive : Bool
  isDefault : Bool
  effectiveAt : Option ℤ
  expiresAt : Option ℤ
  instructions : Option String
  createdAt : ℤ
  updatedAt : ℤ
deriving DecidableEq

/-! ## The table -/

namespace AdminMarketPaymentDestination

/-- The condition of the unique partial index on the active default. -/
def isActiveDefault (d : AdminMarketPaymentDestination) : Bool := d.isActive && d.isDefault

/-- The check constraints. -/
structure Allowed (d : AdminMarketPaymentDestination) : Prop where
  ciphertext : 12 < d.identifierCiphertext.length
  masked : 8 ≤ (strip d.maskedIdentifier).length
  effective_window : ∀ expiresAt ∈ d.expiresAt, ∀ effectiveAt ∈ d.effectiveAt, effectiveAt < expiresAt
  active_status : d.isActive = true → d.status = .active
  default_requires_active : d.isDefault = true → d.isActive = true ∧ d.status = .active
  validated_state : d.status ≠ .draft →
    d.validationMethod ≠ none ∧ d.validationReasonCode ≠ none ∧ d.validatedAt ≠ none

theorem allowed_iff (d : AdminMarketPaymentDestination) : d.Allowed ↔
    (12 < d.identifierCiphertext.length ∧ 8 ≤ (strip d.maskedIdentifier).length) ∧
    (∀ expiresAt ∈ d.expiresAt, ∀ effectiveAt ∈ d.effectiveAt, effectiveAt < expiresAt) ∧
    (d.isActive = true → d.status = .active) ∧
    (d.isDefault = true → d.isActive = true ∧ d.status = .active) ∧
    (d.status ≠ .draft →
      d.validationMethod ≠ none ∧ d.validationReasonCode ≠ none ∧ d.validatedAt ≠ none) :=
  ⟨fun h => ⟨⟨h.ciphertext, h.masked⟩, h.effective_window, h.active_status,
    h.default_requires_active, h.validated_state⟩,
    fun ⟨⟨a, b⟩, c, d, e, f⟩ => ⟨a, b, c, d, e, f⟩⟩

instance decidableAllowed : DecidablePred Allowed :=
  fun d => decidable_of_iff _ d.allowed_iff.symm

end AdminMarketPaymentDestination

open AdminMarketPaymentDestination (isActiveDefault)

/-- The constraints of the table: keys, unique columns, checks, and the unique partial index. -/
structure Valid (rows : List AdminMarketPaymentDestination) : Prop where
  id : (rows.map AdminMarketPaymentDestination.id).Nodup
  destination_ref : (rows.map AdminMarketPaymentDestination.destinationRef).Nodup
  create_idem_hash : (rows.filterMap AdminMarketPaymentDestination.creationIdempotencyKeyHash).Nodup
  allowed : ∀ d ∈ rows, d.Allowed
  active_default : ∀ d ∈ rows, ∀ d' ∈ rows,
    isActiveDefault d = true → isActiveDefault d' = true → d.id = d'.id

theorem valid_iff (rows : List AdminMarketPaymentDestination) : Valid rows ↔
    ((rows.map AdminMarketPaymentDestination.id).Nodup ∧
      (rows.map AdminMarketPaymentDestination.destinationRef).Nodup ∧
      (rows.filterMap AdminMarketPaymentDestination.creationIdempotencyKeyHash).Nodup) ∧
    (∀ d ∈ rows, d.Allowed) ∧
    ∀ d ∈ rows, ∀ d' ∈ rows,
      isActiveDefault d = true → isActiveDefault d' = true → d.id = d'.id :=
  ⟨fun ⟨a, b, c, d, e⟩ => ⟨⟨a, b, c⟩, d, e⟩, fun ⟨⟨a, b, c⟩, d, e⟩ => ⟨a, b, c, d, e⟩⟩

instance decidableValid : DecidablePred Valid := fun rows => decidable_of_iff _ (valid_iff rows).symm

def schema : Schema Uuid AdminMarketPaymentDestination where
  key := AdminMarketPaymentDestination.id
  Valid := Valid
  decValid := decidableValid
  nodup := Valid.id

/-! ## Authority and audit -/

inductive AdminMarketplaceAction where
  | createPaymentDestination | validatePaymentDestination | activatePaymentDestination
  | deactivatePaymentDestination | setDefaultPaymentDestination

def PROHIBITED_MARKETPLACE_AUTHORITIES : List String :=
  ["platform_supervisor", "billing_admin", "viewer_admin", "owner_admin", "admin", "*", "admin:*",
    "commercial:*", "marketplace:*"]

/-- The authorities of a context are stripped and in lower case. -/
structure AdminMarketplaceAuthorityContext where
  userId : String
  sessionId : String
  platformAuthorities : List String
  activePlatformAdmin : Bool
  recentMfaStepUp : Bool
  user_given : isBlank userId = false
  session_given : isBlank sessionId = false

inductive AdminMarketplaceError where
  | stepUpRequired (message : String)
  | authorityDenied (message : String)
  | conflict (message : String)
  | notFound (message : String)
  | valueError (message : String)
deriving DecidableEq

/-- `evaluate_admin_marketplace_authority`: all actions here are sensitive. -/
def evaluateAuthority (context : AdminMarketplaceAuthorityContext) : Bool × String :=
  let authorities := context.platformAuthorities
  if authorities.any fun authority => authority.toList.contains '*' then
    (false, "wildcard_authority_denied")
  else if authorities.any fun authority => PROHIBITED_MARKETPLACE_AUTHORITIES.contains authority then
    (false, "non_super_administrator_denied")
  else if !authorities.contains "platform_admin" || !context.activePlatformAdmin then
    (false, "active_platform_admin_required")
  else if !context.recentMfaStepUp then (false, "recent_mfa_step_up_required")
  else (true, "super_administrator_authorized")

inductive CommercialAuditAction where
  | created | validated | activated | deactivated | defaultSet

/-- What the digests of a state are taken from. -/
structure StateProjection where
  destinationRef : String
  destinationType : PaymentDestinationType
  status : PaymentDestinationStatus
  validationMethod : Option PaymentDestinationValidationMethod
  validationReasonCode : Option String
  isActive : Bool
  isDefault : Bool
  effectiveAt : Option ℤ
  expiresAt : Option ℤ

/-- An audit record under its new ids, with the states themselves in place of their digests. -/
structure CommercialAuditRecord where
  occurredAt : ℤ
  actorUserId : String
  actorSessionId : String
  action : CommercialAuditAction
  resourceId : String
  reasonCode : String
  correlationId : String
  previousState : Option StateProjection
  newState : Option StateProjection
  previousDefaultPresent : Option Bool := none

def stateProjection (d : AdminMarketPaymentDestination) : StateProjection :=
  ⟨d.destinationRef, d.destinationType, d.status, d.validationMethod, d.validationReasonCode,
    d.isActive, d.isDefault, d.effectiveAt, d.expiresAt⟩

structure EncryptedIdentifier where
  ciphertext : List UInt8
  keyVersion : String

inductive Question where
  | clock
  | id
  | encrypt (identifier : String) (destinationId : Uuid) (destinationRef : String)

def Answer : Question → Type
  | .clock => ℤ
  | .id => Uuid
  | .encrypt .. => EncryptedIdentifier

abbrev DestinationWork (α : Type) : Type :=
  Work Uuid AdminMarketPaymentDestination CommercialAuditRecord Answer AdminMarketplaceError α

def raiseError (e : AdminMarketplaceError) {α : Type} : DestinationWork α := throw (.raised e)

def clock : DestinationWork ℤ := ask Question.clock

def newId : DestinationWork Uuid := ask Question.id

def encrypt (identifier : String) (destinationId : Uuid) (destinationRef : String) :
    DestinationWork EncryptedIdentifier :=
  ask (Question.encrypt identifier destinationId destinationRef)

/-- The functions of the standard library on text. -/
structure Text where
  lower : String → String
  upper : String → String
  isAlnum : Char → Bool
  sha256 : String → String

structure PaymentDestinationCreateContract where
  destinationRef : String
  displayName : String
  destinationType : PaymentDestinationType
  institutionName : String
  accountHolderName : String
  rawAccountIdentifier : String
  instructions : Option String := none

structure PaymentDestinationValidationResult where
  valid : Bool
  normalizedIdentifier : Option String
  maskedIdentifier : Option String
  method : PaymentDestinationValidationMethod := .structural
  reasonCode : String

/-- `[A-Z0-9]{8,64}` -/
def isIdentifier (s : String) : Bool :=
  8 ≤ s.length && s.length ≤ 64 && s.toList.all fun c => c.isUpper || c.isDigit

def normalizePaymentIdentifier (text : Text) (value : String) : Option String :=
  let normalized := String.ofList ((text.upper value).toList.filter text.isAlnum)
  if isIdentifier normalized then some normalized else none

/-- `mask_payment_identifier` of a normalized identifier. -/
def maskPaymentIdentifier (normalized : String) : String :=
  let suffix := normalized.toList.drop (normalized.length - 4)
  String.ofList (List.replicate (max 4 (normalized.length - suffix.length)) '*' ++ suffix)

def minimumLength : PaymentDestinationType → ℕ
  | .bankAccount => 20
  | .postalAccount => 8

def validatePaymentDestinationIdentifier (text : Text) (value : String)
    (destinationType : PaymentDestinationType) : PaymentDestinationValidationResult :=
  match normalizePaymentIdentifier text value with
  | none => { valid := false, normalizedIdentifier := none, maskedIdentifier := none
              reasonCode := "identifier_format_invalid" }
  | some normalized =>
    let masked := maskPaymentIdentifier normalized
    if normalized.length < minimumLength destinationType then
      { valid := false, normalizedIdentifier := some normalized, maskedIdentifier := some masked
        reasonCode := "identifier_length_invalid" }
    else
      { valid := true, normalizedIdentifier := some normalized, maskedIdentifier := some masked
        reasonCode := "structurally_validated" }

def byRef (destinationRef : String) (d : AdminMarketPaymentDestination) : Bool :=
  d.destinationRef = destinationRef

def byCreationKey (keyHash : String) (d : AdminMarketPaymentDestination) : Bool :=
  d.creationIdempotencyKeyHash = some keyHash

/-- The `WHERE` of `get_active_default`. -/
def isCurrentDefault (d : AdminMarketPaymentDestination) : Bool :=
  d.status = .active && d.isActive && d.isDefault

/-- `SELECT … FOR UPDATE` of at most one row. -/
def lockedRow (p : AdminMarketPaymentDestination → Bool) :
    DestinationWork (Option AdminMarketPaymentDestination) := do
  let rows ← forUpdate AdminMarketPaymentDestination.id (List.filter p) p
  pure rows.head?

def getByRef (text : Text) (destinationRef : String) :
    DestinationWork (Option AdminMarketPaymentDestination) :=
  lockedRow (byRef (text.lower (strip destinationRef)))

def getByCreationIdempotencyKeyHash (keyHash : String) :
    DestinationWork (Option AdminMarketPaymentDestination) :=
  lockedRow (byCreationKey keyHash)

def getActiveDefault : DestinationWork (Option AdminMarketPaymentDestination) :=
  lockedRow isCurrentDefault

/-- The updates of a flush are sorted by the primary key. -/
def updates (changed : List AdminMarketPaymentDestination) :
    List (Write Uuid AdminMarketPaymentDestination) :=
  (changed.insertionSort fun a b => a.id ≤ b.id).map .update

/-! ## The service -/

structure PaymentDestinationAdministrationResult where
  destination : AdminMarketPaymentDestination
  reasonCode : String
deriving DecidableEq

def requireAdminMarketplaceAuthority (context : AdminMarketplaceAuthorityContext) :
    DestinationWork Unit := do
  let (allowed, reasonCode) := evaluateAuthority context
  raiseIf (!allowed && reasonCode = "recent_mfa_step_up_required")
    (.stepUpRequired "Recent MFA step-up is required.")
  raiseIf (!allowed) (.authorityDenied "Exclusive super-administrator authority is required.")

def required (value : String) (fieldName : String) : DestinationWork String := do
  raiseIf (isBlank value) (.valueError (fieldName ++ " must not be blank."))
  pure (strip value)

def idempotencyKeyHash (text : Text) (value : Option String) : DestinationWork (Option String) :=
  match value with
  | none => pure none
  | some value => do
      let normalized := strip value
      raiseIf (normalized.length < 16 || 128 < normalized.length)
        (.valueError "idempotency_key length is invalid.")
      pure (some (text.sha256 normalized))

def auditModel (authority : AdminMarketplaceAuthorityContext) (action : CommercialAuditAction)
    (destinationRef reasonCode correlationId : String) (previousState : Option StateProjection)
    (newState : AdminMarketPaymentDestination) (occurredAt : ℤ) : CommercialAuditRecord where
  occurredAt := occurredAt
  actorUserId := strip authority.userId
  actorSessionId := strip authority.sessionId
  action := action
  resourceId := strip destinationRef
  reasonCode := reasonCode
  correlationId := correlationId
  previousState := previousState
  newState := some (stateProjection newState)

def lockedDestination (text : Text) (destinationRef : String) :
    DestinationWork AdminMarketPaymentDestination := do
  match ← getByRef text destinationRef with
  | none => raiseError (.notFound "Payment destination was not found.")
  | some destination => pure destination

def buildDraft (command : PaymentDestinationCreateContract) (keyHash : Option String)
    (normalized masked : String) : DestinationWork (AdminMarketPaymentDestination × ℤ) := do
  let id ← newId
  let now ← clock
  let encrypted ← encrypt normalized id command.destinationRef
  pure ({ id := id
          destinationRef := command.destinationRef
          displayName := command.displayName
          destinationType := command.destinationType
          institutionName := command.institutionName
          accountHolderName := command.accountHolderName
          identifierCiphertext := encrypted.ciphertext
          identifierKeyVersion := encrypted.keyVersion
          maskedIdentifier := masked
          creationIdempotencyKeyHash := keyHash
          status := .draft
          validationMethod := none
          validationReasonCode := none
          validatedAt := none
          isActive := false
          isDefault := false
          effectiveAt := none
          expiresAt := none
          instructions := command.instructions
          createdAt := now
          updatedAt := now }, now)

def create (text : Text) (authority : AdminMarketplaceAuthorityContext)
    (command : PaymentDestinationCreateContract) (correlationId : String)
    (idempotencyKey : Option String) : DestinationWork PaymentDestinationAdministrationResult := do
  requireAdminMarketplaceAuthority authority
  let correlationId ← required correlationId "correlation_id"
  let keyHash ← idempotencyKeyHash text idempotencyKey
  let validation :=
    validatePaymentDestinationIdentifier text command.rawAccountIdentifier command.destinationType
  match validation.valid, validation.normalizedIdentifier, validation.maskedIdentifier with
  | true, some normalized, some masked => do
      let idempotent ← match keyHash with
        | none => pure none
        | some keyHash => getByCreationIdempotencyKeyHash keyHash
      match idempotent with
      | some destination => do
          raiseIf (destination.destinationRef ≠ command.destinationRef)
            (.conflict "Idempotency key is already bound to another destination.")
          pure ⟨destination, "payment_destination_create_idempotent"⟩
      | none => do
          let existing ← getByRef text command.destinationRef
          raiseIf existing.isSome (.conflict "Payment destination reference already exists.")
          let (destination, now) ← buildDraft command keyHash normalized masked
          commit [.insert destination]
            (auditModel authority .created destination.destinationRef "payment_destination_created"
              correlationId none destination now)
          pure ⟨destination, "payment_destination_created"⟩
  | _, _, _ => raiseError (.conflict
      ("Payment destination identifier rejected: " ++ validation.reasonCode ++ "."))

/-- What validating, activating and deactivating have in common: a destination whose state allows it
is changed under its lock. -/
def transition (text : Text) (allowed : AdminMarketPaymentDestination → Bool)
    (refusal : String) (change : ℤ → AdminMarketPaymentDestination → AdminMarketPaymentDestination)
    (action : CommercialAuditAction) (auditReason resultReason : String)
    (authority : AdminMarketplaceAuthorityContext) (destinationRef correlationId : String) :
    DestinationWork PaymentDestinationAdministrationResult := do
  requireAdminMarketplaceAuthority authority
  let destinationRef ← required destinationRef "destination_ref"
  let correlationId ← required correlationId "correlation_id"
  let now ← clock
  let destination ← lockedDestination text (text.lower destinationRef)
  raiseIf (!allowed destination) (.conflict refusal)
  let changed := change now destination
  commit (updates [changed])
    (auditModel authority action destination.destinationRef auditReason correlationId
      (some (stateProjection destination)) changed now)
  pure ⟨changed, resultReason⟩

def validate (text : Text) (authority : AdminMarketplaceAuthorityContext)
    (destinationRef correlationId : String) :
    DestinationWork PaymentDestinationAdministrationResult :=
  transition text (fun d => d.status = .draft) "Only a draft payment destination can be validated."
    (fun now d => { d with
      status := .validated, validationMethod := some .structural
      validationReasonCode := some "structurally_validated", validatedAt := some now
      updatedAt := now })
    .validated "payment_destination_structurally_validated"
    "payment_destination_structurally_validated" authority destinationRef correlationId

def activate (text : Text) (authority : AdminMarketplaceAuthorityContext)
    (destinationRef correlationId : String) :
    DestinationWork PaymentDestinationAdministrationResult :=
  transition text (fun d => d.status = .validated)
    "Only a validated payment destination can be activated."
    (fun now d => { d with
      status := .active, isActive := true, isDefault := false, effectiveAt := some now
      expiresAt := none, updatedAt := now })
    .activated "payment_destination_activated" "payment_destination_activated" authority
    destinationRef correlationId

def deactivate (text : Text) (authority : AdminMarketplaceAuthorityContext)
    (destinationRef correlationId : String) :
    DestinationWork PaymentDestinationAdministrationResult :=
  transition text (fun d => d.status = .active && d.isActive)
    "Only an active payment destination can be deactivated."
    (fun now d => { d with
      status := .inactive, isActive := false, isDefault := false, expiresAt := some now
      updatedAt := now })
    .deactivated "payment_destination_deactivated" "payment_destination_deactivated" authority
    destinationRef correlationId

/-- The rows that `set_default` changes: the current default, unless it is the destination. -/
def unsetDefault (now : ℤ) (destination : AdminMarketPaymentDestination) :
    Option AdminMarketPaymentDestination → List AdminMarketPaymentDestination
  | some current =>
    if current.id = destination.id then []
    else [{ current with isDefault := false, updatedAt := now }]
  | none => []

def setDefault (text : Text) (authority : AdminMarketplaceAuthorityContext)
    (destinationRef correlationId : String) :
    DestinationWork PaymentDestinationAdministrationResult := do
  requireAdminMarketplaceAuthority authority
  let destinationRef ← required destinationRef "destination_ref"
  let correlationId ← required correlationId "correlation_id"
  let now ← clock
  let destination ← lockedDestination text (text.lower destinationRef)
  raiseIf (destination.status ≠ .active || !destination.isActive)
    (.conflict "Only an active payment destination can become default.")
  let current ← getActiveDefault
  if (current.any fun current => current.id = destination.id) && destination.isDefault then
    pure ⟨destination, "payment_destination_already_default"⟩
  else
    let changed := { destination with isDefault := true, updatedAt := now }
    commit (updates (unsetDefault now destination current ++ [changed]))
      { auditModel authority .defaultSet destination.destinationRef
          "payment_destination_default_set" correlationId (some (stateProjection destination))
          changed now with previousDefaultPresent := some current.isSome }
    pure ⟨changed, "payment_destination_default_set"⟩

inductive Op where
  | create (command : PaymentDestinationCreateContract) (idempotencyKey : Option String)
  | validate (destinationRef : String)
  | activate (destinationRef : String)
  | deactivate (destinationRef : String)
  | setDefault (destinationRef : String)

/-- A call of the service. -/
structure Call where
  authority : AdminMarketplaceAuthorityContext
  correlationId : String
  op : Op

def body (text : Text) (call : Call) : DestinationWork PaymentDestinationAdministrationResult :=
  match call.op with
  | .create command idempotencyKey =>
    create text call.authority command call.correlationId idempotencyKey
  | .validate destinationRef => validate text call.authority destinationRef call.correlationId
  | .activate destinationRef => activate text call.authority destinationRef call.correlationId
  | .deactivate destinationRef => deactivate text call.authority destinationRef call.correlationId
  | .setDefault destinationRef => setDefault text call.authority destinationRef call.correlationId

def destinationMachine (text : Text) :
    Machine Call (Command Uuid AdminMarketPaymentDestination CommercialAuditRecord Question)
      (Reply Uuid AdminMarketPaymentDestination CommercialAuditRecord Answer)
      (Except (Raised AdminMarketplaceError) PaymentDestinationAdministrationResult) (Chance Answer)
      (World schema CommercialAuditRecord) :=
  machine schema fun call => unitOfWork (body text call)

end MaestroKernel.Destinations
