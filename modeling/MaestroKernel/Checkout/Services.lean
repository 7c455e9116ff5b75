import MaestroKernel.Library.Raising
import MaestroKernel.Market.Tables

/-! # Top-up checkouts

An order is bound to a checkout of the payment provider. The creation asks the provider between two
transactions, and the recovery looks for a checkout that an earlier creation may have left. -/

namespace MaestroKernel.Checkout

open Interaction Raising Checked MonadExcept
open Market (Uuid TopUpChannel TopUpOrderState CheckoutCreationStatus strip
  PLAN_FULFILLMENT_CATALOG_VERSION)

/-- The functions of the standard library on text: `str.isdigit`, `int`, whether `uuid.UUID`
accepts a text, and `str` of an id. -/
structure Platform where
  isdigit : String → Bool
  int : String → Option ℤ
  isUuid : String → Bool
  uuidText : Uuid → String

/-- A row of `commercial_top_up_orders`; the price is in hundredths, which the column holds. -/
structure CommercialTopUpOrder where
  id : Uuid
  customerRef : String
  planCatalogVersion : String
  totalPriceUsd : ℤ
  channel : TopUpChannel
  providerVariantId : Option String
  providerCheckoutId : Option String
  checkoutCreationStatus : CheckoutCreationStatus
  state : TopUpOrderState
deriving DecidableEq

/-- The constraints of the table. -/
def Valid (orders : List CommercialTopUpOrder) : Prop :=
  (orders.map CommercialTopUpOrder.id).Nodup ∧
    (orders.filterMap CommercialTopUpOrder.providerCheckoutId).Nodup ∧
    ∀ order ∈ orders, 0 < order.totalPriceUsd ∧
      (order.checkoutCreationStatus = .ready → order.providerCheckoutId.isSome)

instance : DecidablePred Valid := fun _ => inferInstanceAs (Decidable (_ ∧ _))

abbrev Orders : Type := { orders : List CommercialTopUpOrder // Valid orders }

/-! ## The machine -/

/-- The order reference is sent as text. -/
structure LemonSqueezyCheckoutRequest where
  storeId : String
  variantId : String
  customerRef : String
  orderRef : Uuid
  subtotalUsd : ℤ
  email : Option String
  successUrl : String

structure LemonSqueezyCheckoutResponse where
  checkoutId : String
  url : String

/-- The custom data gives the text under a name, empty where there is nothing. -/
structure LemonSqueezyCheckoutCandidate where
  checkoutId : String
  url : String
  storeId : String
  variantId : String
  customPrice : ℤ
  customData : String → String

/-- The committed orders, who holds the lock of which, which client has set an order to `creating`,
and what the provider has been asked to create. -/
structure World where
  orders : Orders
  locks : Uuid → Option ℕ
  starter : Uuid → Option ℕ
  calls : List LemonSqueezyCheckoutRequest

inductive Command where
  | get (orderId : Uuid)
  | getForUpdate (orderId : Uuid)
  | commit (order : CommercialTopUpOrder)
  | rollback
  | create (request : LemonSqueezyCheckoutRequest)
  | find (storeId variantId : String)

/-- An `Exception`, or what `except Exception` does not catch: a cancellation, or the end of the
process. -/
inductive Fault where
  | exception | crash
deriving DecidableEq

def Reply : Command → Type
  | .get _ => Except Fault (Option CommercialTopUpOrder)
  | .getForUpdate _ => Except Fault (Option CommercialTopUpOrder)
  | .commit _ => Except Fault Unit
  | .rollback => Unit
  | .create _ => Except Fault LemonSqueezyCheckoutResponse
  | .find _ _ => Except Fault (List LemonSqueezyCheckoutCandidate)

/-- What the provider answers, whether the step fails, and whether it took effect nevertheless. -/
structure Chance where
  response : LemonSqueezyCheckoutResponse := ⟨"", ""⟩
  candidates : List LemonSqueezyCheckoutCandidate := []
  fault : Option Fault := none
  applied : Bool := false

namespace World

def start (orders : Orders) : World := ⟨orders, fun _ => none, fun _ => none, []⟩

def get (w : World) (orderId : Uuid) : Option CommercialTopUpOrder :=
  Table.get? CommercialTopUpOrder.id w.orders.1 orderId

/-- The transaction of client `t` ends. -/
def release (t : ℕ) (w : World) : World :=
  { w with locks := fun id => if w.locks id = some t then none else w.locks id }

def acquire (t : ℕ) (orderId : Uuid) (w : World) : World :=
  { w with locks := Function.update w.locks orderId (some t) }

/-- The changed order is written. -/
def put (t : ℕ) (order : CommercialTopUpOrder) (orders : Orders) (w : World) : World :=
  { w.release t with
    orders := orders
    starter := if order.checkoutCreationStatus = .creating then
      Function.update w.starter order.id (some t) else w.starter }

/-- A commit fails where a constraint refuses the order. -/
def commit (t : ℕ) (order : CommercialTopUpOrder) (w : World) : Option World :=
  if h : Valid (Table.put CommercialTopUpOrder.id w.orders.1 order) then
    some (w.put t order ⟨_, h⟩)
  else none

end World

/-- A statement that locks an order waits as long as another client holds it. -/
def exec (e : Chance) (t : ℕ) (c : Command) (w : World) : Option (Reply c × World) :=
  match c with
  | .get orderId => some <| match e.fault with
      | some fault => (.error fault, w.release t)
      | none => (.ok (w.get orderId), w)
  | .getForUpdate orderId => match e.fault with
      | some fault => some (.error fault, w.release t)
      | none => match w.get orderId with
          | none => some (.ok none, w)
          | some order =>
            if w.locks orderId = none ∨ w.locks orderId = some t then
              some (.ok (some order), w.acquire t orderId)
            else none
  | .commit order => some <| match e.fault with
      | some fault =>
        (.error fault, if e.applied then (w.commit t order).getD (w.release t) else w.release t)
      | none => match w.commit t order with
          | none => (.error .exception, w.release t)
          | some w' => (.ok (), w')
  | .rollback => some ((), w.release t)
  | .create request => some (match e.fault with
      | some fault => .error fault
      | none => .ok e.response, { w with calls := w.calls ++ [request] })
  | .find _ _ => some (match e.fault with
      | some fault => .error fault
      | none => .ok e.candidates, w)

/-! ## The programs -/

inductive CheckoutError where
  | fault (fault : Fault)
  | valueError (message : String)
  | invalidLiteral (text : String)
  | checkout (message : String)
  | recovery (message : String)
deriving DecidableEq

abbrev CheckoutWork (α : Type) : Type := Raising.Client Command Reply CheckoutError α

/-- The reply of a command, or what it raises. -/
def replied {α : Type} (r : Except Fault α) : Except CheckoutError α := r.mapError .fault

def get (orderId : Uuid) : CheckoutWork (Option CommercialTopUpOrder) :=
  perform (.get orderId) replied

def getForUpdate (orderId : Uuid) : CheckoutWork (Option CommercialTopUpOrder) :=
  perform (.getForUpdate orderId) replied

def commit (order : CommercialTopUpOrder) : CheckoutWork Unit := perform (.commit order) replied

/-- What the creator returns or raises. -/
def checkoutCreator (request : LemonSqueezyCheckoutRequest) :
    CheckoutWork (Except Fault LemonSqueezyCheckoutResponse) := perform (.create request) .ok

def checkoutFinder (storeId variantId : String) :
    CheckoutWork (List LemonSqueezyCheckoutCandidate) := perform (.find storeId variantId) replied

/-- `async with unit_of_work_factory() as uow:` -/
def unitOfWork {α : Type} (body : CheckoutWork α) : CheckoutWork α :=
  andFinally body (.call .rollback fun _ => .done ())

section Services

variable (env : Platform)

/-- `if not text.isdigit() or int(text) <= 0: raise ValueError(message)` -/
def requirePositiveNumeric (text message : String) : Except CheckoutError Unit := do
  raiseIf (env.isdigit text = false) (.valueError message)
  let value ← demand (env.int text) (.invalidLiteral text)
  raiseIf (value ≤ 0) (.valueError message)

structure CreateTopUpCheckoutCommand where
  orderId : Uuid
  customerRef : String
  providerVariantId : String
  storeId : String
  successUrl : String
  email : Option String := none

structure CreateTopUpCheckoutResult where
  orderId : Uuid
  checkoutId : String
  url : String
  providerVariantId : String
  replayed : Bool
  committed : Bool
deriving DecidableEq

def validate (command : CreateTopUpCheckoutCommand) : Except CheckoutError Unit := do
  raiseIf (strip command.customerRef = "") (.valueError "customer_ref must not be blank.")
  requirePositiveNumeric env command.providerVariantId
    "provider_variant_id must be a positive numeric identifier."
  requirePositiveNumeric env command.storeId "store_id must be a positive numeric identifier."
  raiseIf (strip command.successUrl = "") (.valueError "success_url must not be blank.")

def validateProviderResponse (response : LemonSqueezyCheckoutResponse) :
    Except CheckoutError Unit := do
  raiseIf (env.isUuid response.checkoutId = false) (.checkout "provider checkout id is invalid.")
  raiseIf (response.url.startsWith "https://" = false)
    (.checkout "provider checkout URL is invalid.")

/-- What the first transaction of the creation checks. -/
def checkStart (command : CreateTopUpCheckoutCommand) (order : CommercialTopUpOrder) :
    Except CheckoutError Unit := do
  raiseIf (order.customerRef ≠ command.customerRef)
    (.checkout "top-up checkout customer conflicts with the order.")
  raiseIf (order.channel ≠ .lemonSqueezy)
    (.checkout "top-up order is not assigned to Lemon Squeezy.")
  raiseIf (order.planCatalogVersion ≠ PLAN_FULFILLMENT_CATALOG_VERSION)
    (.checkout "top-up order catalog snapshot is stale.")
  raiseIf (order.state ≠ .awaitingPayment) (.checkout "top-up order is not awaiting payment.")
  match order.checkoutCreationStatus with
  | .ready => do
      raiseIf (order.providerVariantId ≠ some command.providerVariantId)
        (.checkout "checkout replay conflicts with the bound variant.")
      raiseIf (order.providerCheckoutId.getD "" = "")
        (.checkout "ready checkout is missing provider checkout id.")
      throw (.checkout
        "checkout already exists; retrieve it from the provider instead of creating another.")
  | .creating => throw (.checkout
      "checkout creation state is uncertain; reconciliation is required.")
  | .uncertain => throw (.checkout
      "checkout creation state is uncertain; reconciliation is required.")
  | .notStarted => pure ()

/-- The first transaction of the creation returns the price. -/
def startCreation (command : CreateTopUpCheckoutCommand) : CheckoutWork ℤ := unitOfWork do
  let order ← ofExcept (demand (← getForUpdate command.orderId)
    (.checkout "top-up order was not found."))
  ofExcept (checkStart command order)
  commit { order with
    providerVariantId := some command.providerVariantId
    checkoutCreationStatus := .creating }
  pure order.totalPriceUsd

/-- The transaction after an exception of the provider. -/
def markUncertain (orderId : Uuid) : CheckoutWork Unit := unitOfWork do
  match ← getForUpdate orderId with
  | none => pure ()
  | some uncertain =>
    if uncertain.checkoutCreationStatus = .creating then
      commit { uncertain with checkoutCreationStatus := .uncertain }
    else pure ()

/-- What the last transaction of the creation checks. -/
def checkUnchanged (command : CreateTopUpCheckoutCommand) (order : CommercialTopUpOrder) :
    Except CheckoutError Unit :=
  raiseIf (order.customerRef ≠ command.customerRef ∨
      order.providerVariantId ≠ some command.providerVariantId ∨
      order.checkoutCreationStatus ≠ .creating)
    (.checkout "top-up order changed while checkout was being created.")

/-- The last transaction of the creation. -/
def bindCreated (command : CreateTopUpCheckoutCommand) (response : LemonSqueezyCheckoutResponse) :
    CheckoutWork Unit := unitOfWork do
  let order ← ofExcept (demand (← getForUpdate command.orderId)
    (.checkout "top-up order disappeared after checkout."))
  ofExcept (checkUnchanged command order)
  commit { order with
    providerCheckoutId := some response.checkoutId
    checkoutCreationStatus := .ready }

/-- The email is `command.email.strip() if command.email else None`. -/
def checkoutRequest (command : CreateTopUpCheckoutCommand) (subtotalUsd : ℤ) :
    LemonSqueezyCheckoutRequest where
  storeId := command.storeId
  variantId := command.providerVariantId
  customerRef := command.customerRef
  orderRef := command.orderId
  subtotalUsd := subtotalUsd
  email := (command.email.filter (· ≠ "")).map strip
  successUrl := command.successUrl

def create (command : CreateTopUpCheckoutCommand) : CheckoutWork CreateTopUpCheckoutResult := do
  ofExcept (validate env command)
  let subtotalUsd ← startCreation command
  match ← checkoutCreator (checkoutRequest command subtotalUsd) with
  | .error .crash => throw (.fault .crash)
  | .error .exception => do
      markUncertain command.orderId
      throw (.checkout "payment provider checkout creation outcome is uncertain.")
  | .ok response => do
      ofExcept (validateProviderResponse env response)
      bindCreated command response
      pure {
        orderId := command.orderId
        checkoutId := response.checkoutId
        url := response.url
        providerVariantId := command.providerVariantId
        replayed := false
        committed := true }

structure RecoverTopUpCheckoutCommand where
  orderId : Uuid
  customerRef : String
  storeId : String
  providerVariantId : String

structure RecoverTopUpCheckoutResult where
  orderId : Uuid
  checkoutId : String
  url : String
  recovered : Bool
  committed : Bool
deriving DecidableEq

def validateCommand (command : RecoverTopUpCheckoutCommand) : Except CheckoutError Unit := do
  raiseIf (strip command.customerRef = "") (.valueError "customer_ref must not be blank.")
  requirePositiveNumeric env command.storeId "store_id must be a positive numeric identifier."
  requirePositiveNumeric env command.providerVariantId
    "provider_variant_id must be a positive numeric identifier."

def validateOrder (command : RecoverTopUpCheckoutCommand) (order : CommercialTopUpOrder) :
    Except CheckoutError Unit := do
  raiseIf (order.customerRef ≠ command.customerRef)
    (.recovery "top-up checkout customer conflicts with the order.")
  raiseIf (order.channel ≠ .lemonSqueezy ∨ order.state ≠ .awaitingPayment)
    (.recovery "top-up order is not recoverable through Lemon Squeezy.")
  raiseIf (order.planCatalogVersion ≠ PLAN_FULFILLMENT_CATALOG_VERSION)
    (.recovery "top-up order catalog snapshot is stale.")
  raiseIf (order.providerVariantId ≠ some command.providerVariantId)
    (.recovery "top-up checkout variant conflicts with the order.")

def usdToCents (value : ℤ) : Except CheckoutError ℤ := do
  raiseIf (value ≤ 0) (.recovery "top-up checkout amount is invalid.")
  pure value

/-- What the first transaction of the recovery checks; it returns the checkout of the order, or the
price to look for. -/
def checkEligible (command : RecoverTopUpCheckoutCommand) (order : CommercialTopUpOrder) :
    Except CheckoutError (RecoverTopUpCheckoutResult ⊕ ℤ) := do
  validateOrder command order
  match order.checkoutCreationStatus with
  | .ready => do
      raiseIf (order.providerCheckoutId.getD "" = "")
        (.recovery "ready top-up checkout is missing provider checkout id.")
      pure (.inl {
        orderId := order.id
        checkoutId := order.providerCheckoutId.getD ""
        url := ""
        recovered := false
        committed := false })
  | .notStarted => throw (.recovery "top-up checkout is not eligible for recovery.")
  | .creating | .uncertain => do
      let expectedCents ← usdToCents order.totalPriceUsd
      pure (.inr expectedCents)

def startRecovery (command : RecoverTopUpCheckoutCommand) :
    CheckoutWork (RecoverTopUpCheckoutResult ⊕ ℤ) := unitOfWork do
  let order ← ofExcept (demand (← get command.orderId) (.recovery "top-up order was not found."))
  ofExcept (checkEligible command order)

def candidateMatches (command : RecoverTopUpCheckoutCommand) (expectedCents : ℤ)
    (candidate : LemonSqueezyCheckoutCandidate) : Bool :=
  candidate.storeId = command.storeId && candidate.variantId = command.providerVariantId &&
    candidate.customPrice = expectedCents &&
    candidate.customData "customer_ref" = command.customerRef &&
    candidate.customData "order_ref" = env.uuidText command.orderId &&
    candidate.customData "offer_ref" = "quota_top_up"

def validateCandidateIdentity (candidate : LemonSqueezyCheckoutCandidate) :
    Except CheckoutError Unit := do
  raiseIf (env.isUuid candidate.checkoutId = false)
    (.recovery "recovered provider checkout id is invalid.")
  raiseIf (candidate.url.startsWith "https://" = false)
    (.recovery "recovered provider checkout URL is invalid.")

/-- What the second transaction of the recovery checks; it returns whether the order is bound. -/
def checkRecoverable (command : RecoverTopUpCheckoutCommand)
    (found : LemonSqueezyCheckoutCandidate) (order : CommercialTopUpOrder) :
    Except CheckoutError Bool := do
  validateOrder command order
  match order.checkoutCreationStatus with
  | .ready => do
      raiseIf (order.providerCheckoutId ≠ some found.checkoutId)
        (.recovery "top-up checkout was rebound to a different provider checkout.")
      pure true
  | .notStarted => throw (.recovery "top-up checkout state changed during recovery.")
  | .creating | .uncertain => pure false

/-- The second transaction of the recovery. -/
def bindRecovered (command : RecoverTopUpCheckoutCommand) (found : LemonSqueezyCheckoutCandidate) :
    CheckoutWork RecoverTopUpCheckoutResult := unitOfWork do
  let order ← ofExcept (demand (← getForUpdate command.orderId)
    (.recovery "top-up order disappeared during recovery."))
  if ← ofExcept (checkRecoverable command found order) then
    pure ⟨order.id, found.checkoutId, found.url, false, false⟩
  else do
    commit { order with
      providerCheckoutId := some found.checkoutId
      checkoutCreationStatus := .ready }
    pure ⟨command.orderId, found.checkoutId, found.url, true, true⟩

def recover (command : RecoverTopUpCheckoutCommand) : CheckoutWork RecoverTopUpCheckoutResult := do
  ofExcept (validateCommand env command)
  match ← startRecovery command with
  | .inl bound => pure bound
  | .inr expectedCents => do
      let candidates ← checkoutFinder command.storeId command.providerVariantId
      match candidates.filter (candidateMatches env command expectedCents) with
      | [found] => do
          ofExcept (validateCandidateIdentity env found)
          bindRecovered command found
      | _ => throw (.recovery
          "provider checkout recovery requires exactly one authoritative match.")

inductive Op where
  | create (command : CreateTopUpCheckoutCommand)
  | recover (command : RecoverTopUpCheckoutCommand)

inductive Outcome where
  | created (result : CreateTopUpCheckoutResult)
  | recovered (result : RecoverTopUpCheckoutResult)
deriving DecidableEq

def Op.orderId : Op → Uuid
  | .create command => command.orderId
  | .recover command => command.orderId

def Outcome.checkoutId : Outcome → String
  | .created result => result.checkoutId
  | .recovered result => result.checkoutId

def body : Op → CheckoutWork Outcome
  | .create command => do
      let result ← create env command
      pure (.created result)
  | .recover command => do
      let result ← recover env command
      pure (.recovered result)

def checkoutMachine :
    Machine Op Command Reply (Except CheckoutError Outcome) Chance World :=
  ⟨exec, fun op => (body env op).run⟩

end Services

abbrev Calls : Type := Config Op Command Reply (Except CheckoutError Outcome) World

abbrev Step : Type := Interaction.Event Op Chance

end MaestroKernel.Checkout
