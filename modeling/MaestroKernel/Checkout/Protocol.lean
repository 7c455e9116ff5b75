import MaestroKernel.Checkout.Services

/-! # One checkout for an order

A client that has set an order to `creating` is the only one that may ask the provider to create a
checkout for it, and does so once. Whatever fails afterwards, the recovery accepts the order. -/

namespace MaestroKernel.Checkout

open Interaction Raising Checked
open Market (Uuid CheckoutCreationStatus strip PLAN_FULFILLMENT_CATALOG_VERSION)

/-- What the provider has been asked to create for an order. -/
def World.callsFor (w : World) (orderId : Uuid) : List LemonSqueezyCheckoutRequest :=
  w.calls.filter fun request => request.orderRef = orderId

/-- A recovery with fitting arguments gets to look for the checkout of the order. -/
def Recoverable (env : Platform) (order : CommercialTopUpOrder) : Prop :=
  (order.checkoutCreationStatus = .creating ∨ order.checkoutCreationStatus = .uncertain) ∧
    ∃ command, command.orderId = order.id ∧ validateCommand env command = .ok () ∧
      ∃ cents, checkEligible command order = .ok (.inr cents)

structure Sound (env : Platform) (order : CommercialTopUpOrder) : Prop where
  ready : order.checkoutCreationStatus = .ready ↔ order.providerCheckoutId.isSome
  recoverable : order.checkoutCreationStatus = .creating ∨
    order.checkoutCreationStatus = .uncertain → Recoverable env order

/-- An order is started once, and its calls are made by whoever has started it. -/
structure Consistent (env : Platform) (w : World) : Prop where
  sound : ∀ order ∈ w.orders.1, Sound env order
  unstarted : ∀ order ∈ w.orders.1, order.checkoutCreationStatus = .notStarted →
    w.starter order.id = none
  uncalled : ∀ id, w.starter id = none → w.callsFor id = []
  once : ∀ id, (w.callsFor id).length ≤ 1

/-! ## What a step does -/

section Steps

variable {env : Platform} {t u : ℕ} {w w' w'' : World} {old new : CommercialTopUpOrder}

/-- How a commit changes an order. -/
inductive Evolves (env : Platform) (old : CommercialTopUpOrder) : CommercialTopUpOrder → Prop where
  | start (variant : String) (hold : old.checkoutCreationStatus = .notStarted)
      (hnew : Recoverable env { old with
        providerVariantId := some variant
        checkoutCreationStatus := .creating }) :
      Evolves env old { old with
        providerVariantId := some variant
        checkoutCreationStatus := .creating }
  | uncertain (hold : old.checkoutCreationStatus = .creating) :
      Evolves env old { old with checkoutCreationStatus := .uncertain }
  | bind (checkoutId : String) (hold : old.checkoutCreationStatus = .creating ∨
        old.checkoutCreationStatus = .uncertain) :
      Evolves env old { old with
        providerCheckoutId := some checkoutId
        checkoutCreationStatus := .ready }

theorem Evolves.id_eq (h : Evolves env old new) : new.id = old.id := by
  cases h <;> rfl

theorem Evolves.not_ready (h : Evolves env old new) : old.checkoutCreationStatus ≠ .ready := by
  cases h with
  | start variant hold hnew => simp [hold]
  | uncertain hold => simp [hold]
  | bind checkoutId hold => rcases hold with hold | hold <;> simp [hold]

theorem Evolves.not_notStarted (h : Evolves env old new) :
    new.checkoutCreationStatus ≠ .notStarted := by
  cases h <;> simp

theorem Evolves.notStarted_of_creating (h : Evolves env old new)
    (hnew : new.checkoutCreationStatus = .creating) : old.checkoutCreationStatus = .notStarted := by
  cases h with
  | start variant hold _ => exact hold
  | uncertain hold => cases hnew
  | bind checkoutId hold => cases hnew

theorem Recoverable.uncertain (h : Recoverable env old)
    (hold : old.checkoutCreationStatus = .creating) :
    Recoverable env { old with checkoutCreationStatus := .uncertain } := by
  obtain ⟨-, command, hid, hvalid, cents, heligible⟩ := h
  refine ⟨.inr rfl, command, hid, hvalid, cents, ?_⟩
  simpa [checkEligible, validateOrder, hold] using heligible

theorem Evolves.sound (h : Evolves env old new) (hsound : Sound env old) : Sound env new := by
  have hnone : old.providerCheckoutId.isSome = false := by
    rw [← Bool.not_eq_true, ← hsound.ready]
    exact h.not_ready
  cases h with
  | start variant hold hnew =>
    refine ⟨?_, fun _ => hnew⟩
    simp [hnone]
  | uncertain hold =>
    refine ⟨?_, fun _ => (hsound.recoverable (.inl hold)).uncertain hold⟩
    simp [hnone]
  | bind checkoutId hold =>
    refine ⟨by simp, ?_⟩
    rintro (hnew | hnew)
    · cases hnew
    · cases hnew

/-- What one command of client `t` can do. -/
inductive Does (env : Platform) (t : ℕ) (w : World) : World → Prop where
  | locks (locks : Uuid → Option ℕ)
      (h : ∀ u id, u ≠ t → w.locks id = some u → locks id = some u) :
      Does env t w { w with locks := locks }
  | put (old new : CommercialTopUpOrder) (orders : Orders) (hmem : old ∈ w.orders.1)
      (hlock : w.locks old.id = some t) (hevolves : Evolves env old new)
      (horders : orders.1 = Table.put CommercialTopUpOrder.id w.orders.1 new) :
      Does env t w (w.put t new orders)
  | call (request : LemonSqueezyCheckoutRequest) (hmine : w.starter request.orderRef = some t)
      (hnone : w.callsFor request.orderRef = []) :
      Does env t w { w with calls := w.calls ++ [request] }

/-- What the others leave client `t`. -/
structure Rely (t : ℕ) (w w' : World) : Prop where
  locks : ∀ id, w.locks id = some t → w'.locks id = some t
  held : ∀ order ∈ w.orders.1, w.locks order.id = some t → order ∈ w'.orders.1
  bound : ∀ order ∈ w.orders.1, order.checkoutCreationStatus = .ready → order ∈ w'.orders.1
  started : ∀ id, w.starter id = some t → w'.starter id = some t ∧ w'.callsFor id = w.callsFor id

theorem Rely.refl (t : ℕ) (w : World) : Rely t w w :=
  ⟨fun _ h => h, fun _ h _ => h, fun _ h _ => h, fun _ h => ⟨h, rfl⟩⟩

theorem Rely.trans (h : Rely t w w') (h' : Rely t w' w'') : Rely t w w'' where
  locks := fun id hid => h'.locks id (h.locks id hid)
  held := fun order hmem hlock => h'.held order (h.held order hmem hlock) (h.locks _ hlock)
  bound := fun order hmem hready => h'.bound order (h.bound order hmem hready) hready
  started := by
    intro id hid
    obtain ⟨hmine, hcalls⟩ := h.started id hid
    obtain ⟨hmine', hcalls'⟩ := h'.started id hmine
    exact ⟨hmine', hcalls'.trans hcalls⟩

theorem Rely.of_locks {locks : Uuid → Option ℕ} (h : ∀ id, w.locks id = some t → locks id = some t) :
    Rely t w { w with locks := locks } :=
  ⟨h, fun _ hmem _ => hmem, fun _ hmem _ => hmem, fun _ hid => ⟨hid, rfl⟩⟩

theorem release_of_ne (hne : u ≠ t) {id : Uuid} (h : w.locks id = some u) :
    (w.release t).locks id = some u := by
  have hother : w.locks id ≠ some t := by
    rw [h]
    simpa using hne
  simpa [World.release, hother] using h

theorem callsFor_append_of_ne {request : LemonSqueezyCheckoutRequest} {id : Uuid}
    (hne : request.orderRef ≠ id) :
    World.callsFor { w with calls := w.calls ++ [request] } id = w.callsFor id := by
  simp [World.callsFor, hne]

theorem starter_put (hcreating : new.checkoutCreationStatus = .creating) (orders : Orders) :
    (w.put t new orders).starter = Function.update w.starter new.id (some t) := by
  simp [World.put, hcreating]

theorem starter_put_of_ne (hcreating : new.checkoutCreationStatus ≠ .creating) (orders : Orders) :
    (w.put t new orders).starter = w.starter := by
  simp [World.put, hcreating]

theorem Does.bound (h : Does env t w w') :
    ∀ order ∈ w.orders.1, order.checkoutCreationStatus = .ready → order ∈ w'.orders.1 := by
  intro order hmem hready
  cases h with
  | locks locks h => exact hmem
  | call request hmine hnone => exact hmem
  | put old new orders hold hlock hevolves horders =>
    change order ∈ orders.1
    rw [horders]
    apply Table.mem_put_of_ne hmem
    intro heq
    have hsame : order = old := List.inj_on_of_nodup_map w.orders.2.1 hmem hold
      (heq.trans hevolves.id_eq)
    subst hsame
    exact hevolves.not_ready hready

theorem Does.rely (h : Does env t w w') (hw : Consistent env w) (hne : u ≠ t) : Rely u w w' := by
  have hbound := h.bound
  cases h with
  | locks locks h => exact Rely.of_locks fun id => h u id hne
  | call request hmine hnone =>
    refine ⟨fun _ h => h, fun _ h _ => h, hbound, ?_⟩
    intro id hid
    refine ⟨hid, callsFor_append_of_ne ?_⟩
    rintro rfl
    exact hne (Option.some.inj (hid.symm.trans hmine))
  | put old new orders hold hlock hevolves horders =>
    refine ⟨fun id => release_of_ne hne, ?_, hbound, ?_⟩
    · intro order hmem horder
      change order ∈ orders.1
      rw [horders]
      apply Table.mem_put_of_ne hmem
      intro heq
      rw [heq, hevolves.id_eq] at horder
      exact hne (Option.some.inj (horder.symm.trans hlock))
    · intro id hid
      refine ⟨?_, rfl⟩
      by_cases hcreating : new.checkoutCreationStatus = .creating
      · -- nobody has started the order before
        have hnone := hw.unstarted old hold (hevolves.notStarted_of_creating hcreating)
        rw [starter_put hcreating, Function.update_of_ne]
        · exact hid
        · rintro rfl
          rw [hevolves.id_eq, hnone] at hid
          cases hid
      · rw [starter_put_of_ne hcreating]
        exact hid

theorem Does.consistent (h : Does env t w w') (hw : Consistent env w) : Consistent env w' := by
  cases h with
  | locks locks h => exact ⟨hw.sound, hw.unstarted, hw.uncalled, hw.once⟩
  | call request hmine hnone =>
    refine ⟨hw.sound, hw.unstarted, ?_, ?_⟩
    · intro id hid
      rw [callsFor_append_of_ne]
      · exact hw.uncalled id hid
      · rintro rfl
        change w.starter request.orderRef = none at hid
        rw [hmine] at hid
        cases hid
    · intro id
      by_cases hid : request.orderRef = id
      · subst hid
        have hcalls : World.callsFor { w with calls := w.calls ++ [request] } request.orderRef =
            w.callsFor request.orderRef ++ [request] := by
          simp [World.callsFor]
        rw [hcalls, hnone]
        exact Nat.le_refl 1
      · rw [callsFor_append_of_ne hid]
        exact hw.once id
  | put old new orders hold hlock hevolves horders =>
    have hsound : ∀ order ∈ orders.1, Sound env order := by
      rw [horders]
      exact Table.forall_put hw.sound (hevolves.sound (hw.sound old hold))
    have hkept : ∀ id, id ≠ new.id → (w.put t new orders).starter id = w.starter id := by
      intro id hid
      by_cases hcreating : new.checkoutCreationStatus = .creating
      · rw [starter_put hcreating, Function.update_of_ne hid]
      · rw [starter_put_of_ne hcreating]
    refine ⟨hsound, ?_, ?_, hw.once⟩
    · intro order hmem hstatus
      change order ∈ orders.1 at hmem
      rw [horders] at hmem
      rcases Table.mem_put_cases hmem with rfl | ⟨hbefore, hother⟩
      · exact absurd hstatus hevolves.not_notStarted
      · rw [hkept order.id hother]
        exact hw.unstarted order hbefore hstatus
    · intro id hid
      apply hw.uncalled id
      by_cases hcreating : new.checkoutCreationStatus = .creating
      · by_cases hself : id = new.id
        · rw [starter_put hcreating, hself, Function.update_self] at hid
          cases hid
        · rw [hkept id hself] at hid
          exact hid
      · rw [starter_put_of_ne hcreating] at hid
        exact hid

end Steps

/-! ## The contract -/

def World.Bound (w : World) (orderId : Uuid) (checkoutId : String) : Prop :=
  ∃ order ∈ w.orders.1, order.id = orderId ∧ order.checkoutCreationStatus = .ready ∧
    order.providerCheckoutId = some checkoutId

def contract (env : Platform) :
    Contract Op Command (Except CheckoutError Outcome) World where
  inv := Consistent env
  unborn := fun _ _ => True
  rely := Rely
  guar := fun t _ _ w w' => Does env t w w'
  post := fun _ op r w => ∀ outcome, r = .ok outcome → w.Bound op.orderId outcome.checkoutId

theorem contract_sound (env : Platform) : (contract env).Sound where
  rely_refl := Rely.refl
  rely_trans := fun _ _ _ _ => Rely.trans
  guar_rely := fun _ _ _ _ _ _ hne hw h => Does.rely h hw hne.symm
  guar_inv := fun _ _ _ _ _ hw h => Does.consistent h hw
  rely_unborn := fun _ _ _ _ _ => trivial

abbrev Known (env : Platform) (t : ℕ) : Type := Fact (contract env) t

section Facts

variable (env : Platform) (t : ℕ)

/-- The client has locked the order. -/
def holding (order : CommercialTopUpOrder) : Known env t where
  holds := fun w => order ∈ w.orders.1 ∧ w.locks order.id = some t
  stable := fun _ _ hr h => ⟨hr.held order h.1 h.2, hr.locks _ h.2⟩

/-- The client has started the order, and the provider has not been asked yet. -/
def starting (orderId : Uuid) : Known env t where
  holds := fun w => w.starter orderId = some t ∧ w.callsFor orderId = []
  stable := by
    intro w w' hr h
    obtain ⟨hmine, hcalls⟩ := hr.started orderId h.1
    exact ⟨hmine, hcalls.trans h.2⟩

def bound (orderId : Uuid) (checkoutId : String) : Known env t where
  holds := fun w => w.Bound orderId checkoutId
  stable := by
    rintro w w' hr ⟨order, hmem, hid, hready, hcheckout⟩
    exact ⟨order, hr.bound order hmem hready, hid, hready, hcheckout⟩

/-- An order that the client has seen ready stays so. -/
def seen (order : CommercialTopUpOrder) : Known env t where
  holds := fun w => order.checkoutCreationStatus = .ready → order ∈ w.orders.1
  stable := fun _ _ hr h hready => hr.bound order (h hready) hready

def anything : Known env t := .always (contract env) t True

end Facts

section Rules

variable {env : Platform} {t : ℕ} {op : Op} {P : Known env t} {β : Type}

abbrev Keeps (env : Platform) (t : ℕ) (op : Op) (P : Known env t) (p : CheckoutWork β)
    (Q : β → Known env t) : Prop :=
  Meets (checkoutMachine env) (contract env) t op P p Q

theorem does_release (w : World) : Does env t w (w.release t) :=
  .locks _ fun _ _ hne h => release_of_ne hne h

theorem does_acquire {w : World} {orderId : Uuid}
    (hfree : w.locks orderId = none ∨ w.locks orderId = some t) :
    Does env t w (w.acquire t orderId) := by
  refine .locks _ fun u id hne hid => ?_
  rw [Function.update_of_ne]
  · exact hid
  · rintro rfl
    rcases hfree with hnone | hown
    · rw [hnone] at hid
      cases hid
    · exact hne (Option.some.inj (hid.symm.trans hown))

theorem rely_acquire (w : World) (orderId : Uuid) : Rely t w (w.acquire t orderId) := by
  apply Rely.of_locks
  intro id hid
  by_cases hself : id = orderId
  · rw [hself, Function.update_self]
  · rw [Function.update_of_ne hself]
    exact hid

theorem get_keeps (orderId : Uuid) :
    Keeps env t op P (get orderId) fun found => match found with
      | none => P
      | some order => P.and ((seen env t order).and (.always _ t (order.id = orderId))) := by
  apply Meets.perform
  intro w e r w' hw _ hexec
  cases hfault : e.fault with
  | some fault =>
    simp only [checkoutMachine, exec, hfault] at hexec
    cases hexec
    exact ⟨does_release w, fun _ hb => by cases hb⟩
  | none =>
    simp only [checkoutMachine, exec, hfault] at hexec
    cases hexec
    refine ⟨.locks _ fun _ _ _ h => h, ?_⟩
    intro found hfound
    cases hget : w.get orderId with
    | none =>
      rw [hget] at hfound
      cases hfound
      exact hw
    | some order =>
      rw [hget] at hfound
      cases hfound
      exact ⟨hw, fun _ => Table.mem_of_get? hget, Table.key_of_get? hget⟩

theorem getForUpdate_keeps (orderId : Uuid) :
    Keeps env t op P (getForUpdate orderId) fun found => match found with
      | none => P
      | some order => P.and ((holding env t order).and (.always _ t (order.id = orderId))) := by
  apply Meets.perform
  intro w e r w' hw _ hexec
  cases hfault : e.fault with
  | some fault =>
    simp only [checkoutMachine, exec, hfault] at hexec
    cases hexec
    exact ⟨does_release w, fun _ hb => by cases hb⟩
  | none =>
    cases hget : w.get orderId with
    | none =>
      simp only [checkoutMachine, exec, hfault, hget] at hexec
      cases hexec
      refine ⟨.locks _ fun _ _ _ h => h, ?_⟩
      intro found hfound
      cases hfound
      exact hw
    | some order =>
      simp only [checkoutMachine, exec, hfault, hget] at hexec
      split at hexec
      · rename_i hfree
        cases hexec
        refine ⟨does_acquire hfree, ?_⟩
        intro found hfound
        cases hfound
        have hid : order.id = orderId := Table.key_of_get? hget
        refine ⟨P.stable w _ (rely_acquire w orderId) hw, ⟨Table.mem_of_get? hget, ?_⟩, hid⟩
        rw [hid]
        exact Function.update_self ..
      · cases hexec

theorem World.commit_eq_some {w w' : World} {order : CommercialTopUpOrder}
    (h : w.commit t order = some w') : ∃ orders : Orders,
      orders.1 = Table.put CommercialTopUpOrder.id w.orders.1 order ∧ w' = w.put t order orders := by
  unfold World.commit at h
  split at h
  · exact ⟨_, rfl, (Option.some.inj h).symm⟩
  · cases h

/-- A commit writes the order that the client has locked, or nothing. -/
theorem commit_keeps {old new : CommercialTopUpOrder} {Q : Unit → Known env t}
    (hevolves : Evolves env old new) (hlock : ∀ w, P.holds w → (holding env t old).holds w)
    (hQ : ∀ (w : World) (orders : Orders), Consistent env w → P.holds w →
      orders.1 = Table.put CommercialTopUpOrder.id w.orders.1 new →
      (Q ()).holds (w.put t new orders)) :
    Keeps env t op P (commit new) Q := by
  have hdoes : ∀ w w', P.holds w → w.commit t new = some w' → Does env t w w' := by
    intro w w' hw hcommit
    obtain ⟨orders, horders, rfl⟩ := World.commit_eq_some hcommit
    exact .put old new orders (hlock w hw).1 (hlock w hw).2 hevolves horders
  apply Meets.perform
  intro w e r w' hw hinv hexec
  cases hfault : e.fault with
  | some fault =>
    simp only [checkoutMachine, exec, hfault] at hexec
    cases hexec
    refine ⟨?_, fun _ hb => by cases hb⟩
    cases hcommit : w.commit t new with
    | none =>
      rw [Option.getD_none, ite_self]
      exact does_release w
    | some after =>
      cases e.applied with
      | false => exact does_release w
      | true => exact hdoes w after hw hcommit
  | none =>
    cases hcommit : w.commit t new with
    | none =>
      simp only [checkoutMachine, exec, hfault, hcommit] at hexec
      cases hexec
      exact ⟨does_release w, fun _ hb => by cases hb⟩
    | some after =>
      simp only [checkoutMachine, exec, hfault, hcommit] at hexec
      cases hexec
      refine ⟨hdoes w _ hw hcommit, ?_⟩
      intro _ _
      obtain ⟨orders, horders, rfl⟩ := World.commit_eq_some hcommit
      exact hQ w orders hinv hw horders

theorem checkoutCreator_keeps (request : LemonSqueezyCheckoutRequest)
    (hP : ∀ w, P.holds w → (starting env t request.orderRef).holds w) :
    Keeps env t op P (checkoutCreator request) fun _ => anything env t := by
  apply Meets.perform
  intro w e r w' hw _ hexec
  cases hexec
  exact ⟨.call request (hP w hw).1 (hP w hw).2, fun _ _ => trivial⟩

theorem checkoutFinder_keeps (storeId variantId : String) :
    Keeps env t op P (checkoutFinder storeId variantId) fun _ => P := by
  apply Meets.perform
  intro w e r w' hw _ hexec
  cases hexec
  exact ⟨.locks _ fun _ _ _ h => h, fun _ _ => hw⟩

theorem unitOfWork_keeps {body : CheckoutWork β} {Q : β → Known env t}
    (h : Keeps env t op P body Q)
    (hQ : ∀ b (w : World), (Q b).holds w → (Q b).holds (w.release t)) :
    Keeps env t op P (unitOfWork body) Q := by
  apply Meets.andFinally (Rely.refl t) h
  intro w e r w' _ hexec
  cases hexec
  exact ⟨does_release w, fun b => hQ b w⟩

/-! ## The creation -/

theorem recoverable_of_checked {command : CreateTopUpCheckoutCommand} {old : CommercialTopUpOrder}
    (hprice : 0 < old.totalPriceUsd) (hvalid : validate env command = .ok ())
    (hcheck : checkStart command old = .ok ()) :
    old.checkoutCreationStatus = .notStarted ∧ Recoverable env { old with
      providerVariantId := some command.providerVariantId
      checkoutCreationStatus := .creating } := by
  simp only [checkStart, raiseIf_bind_ok, not_not] at hcheck
  obtain ⟨hcustomer, hchannel, hcatalog, hstate, hstatus⟩ := hcheck
  have hnotStarted : old.checkoutCreationStatus = .notStarted := by
    cases hold : old.checkoutCreationStatus with
    | notStarted => rfl
    | creating => simp [hold] at hstatus
    | uncertain => simp [hold] at hstatus
    | ready => simp [hold] at hstatus
  refine ⟨hnotStarted, .inl rfl, ?_⟩
  let recovery : RecoverTopUpCheckoutCommand :=
    ⟨old.id, command.customerRef, command.storeId, command.providerVariantId⟩
  have hcommand : validateCommand env recovery = .ok () := by
    simp only [validate, bind_ok, raiseIf_eq_ok] at hvalid
    obtain ⟨_, hblank, _, hvariant, _, hstore, -⟩ := hvalid
    simp only [validateCommand, bind_ok, raiseIf_eq_ok]
    exact ⟨(), hblank, (), hstore, hvariant⟩
  refine ⟨recovery, rfl, hcommand, old.totalPriceUsd, ?_⟩
  have hcents : usdToCents old.totalPriceUsd = .ok old.totalPriceUsd := by
    simp only [usdToCents, raiseIf_bind_ok, pure_ok]
    exact ⟨Int.not_le.mpr hprice, trivial⟩
  simp [checkEligible, validateOrder, recovery, hcustomer, hchannel, hcatalog, hstate, hcents]

theorem locked_keeps {orderId : Uuid} {e : CheckoutError}
    {k : CommercialTopUpOrder → CheckoutWork β} {Q : β → Known env t}
    (h : ∀ order, order.id = orderId → Keeps env t op (P.and (holding env t order)) (k order) Q) :
    Keeps env t op P (do
      let order ← MonadExcept.ofExcept (demand (← getForUpdate orderId) e)
      k order) Q := by
  apply Meets.bind (Rely.refl t) (getForUpdate_keeps orderId)
  intro found
  cases found with
  | none => exact Meets.throw e
  | some order => exact Meets.given (fun _ hw => hw.2.2) fun hid =>
    (h order hid).pre fun _ hw => ⟨hw.1, hw.2.1⟩

theorem startCreation_keeps {command : CreateTopUpCheckoutCommand}
    (hvalid : validate env command = .ok ()) :
    Keeps env t op (anything env t) (startCreation command) fun _ =>
      starting env t command.orderId := by
  apply unitOfWork_keeps
  · apply locked_keeps
    intro order hid
    apply Meets.ofExcept_bind
    intro _ hcheck
    refine Meets.given (fun w hw => (w.orders.2.2.2 order hw.2.1).1) fun hprice => ?_
    obtain ⟨hnotStarted, hrecoverable⟩ := recoverable_of_checked hprice hvalid hcheck
    have hcommit : Keeps env t op
        ((anything env t).and (holding env t order))
        (commit { order with
          providerVariantId := some command.providerVariantId
          checkoutCreationStatus := .creating }) fun _ => starting env t command.orderId := by
      apply commit_keeps (.start _ hnotStarted hrecoverable)
      · exact fun w hw => hw.2
      · rintro w orders hconsistent ⟨-, hmem, -⟩ -
        have hunstarted := hconsistent.unstarted order hmem hnotStarted
        constructor
        · rw [starter_put rfl, ← hid]
          exact Function.update_self ..
        · rw [← hid]
          exact hconsistent.uncalled order.id hunstarted
    exact Meets.bind (Rely.refl t) hcommit fun _ => Meets.pure fun _ hw => hw
  · exact fun _ _ h => h

theorem markUncertain_keeps (orderId : Uuid) :
    Keeps env t op P (markUncertain orderId) fun _ => anything env t := by
  apply unitOfWork_keeps
  · apply Meets.bind (Rely.refl t) (getForUpdate_keeps orderId)
    intro found
    cases found with
    | none => exact Meets.pure fun _ _ => trivial
    | some order =>
      dsimp only
      split
      · rename_i hcreating
        exact commit_keeps (.uncertain hcreating) (fun _ hw => hw.2.1) fun _ _ _ _ _ => trivial
      · exact Meets.pure fun _ _ => trivial
  · exact fun _ _ h => h

theorem commit_bind_keeps {order : CommercialTopUpOrder} {orderId : Uuid} (checkoutId : String)
    (hid : order.id = orderId) (hstatus : order.checkoutCreationStatus = .creating ∨
      order.checkoutCreationStatus = .uncertain)
    (hP : ∀ w, P.holds w → (holding env t order).holds w) :
    Keeps env t op P (commit { order with
      providerCheckoutId := some checkoutId
      checkoutCreationStatus := .ready }) fun _ => bound env t orderId checkoutId := by
  apply commit_keeps (.bind checkoutId hstatus) hP
  intro w orders _ hw horders
  refine ⟨{ order with
    providerCheckoutId := some checkoutId
    checkoutCreationStatus := .ready }, ?_, hid, rfl, rfl⟩
  change _ ∈ orders.1
  rw [horders]
  exact Table.mem_put_self (hP w hw).1 rfl

theorem bindCreated_keeps (command : CreateTopUpCheckoutCommand)
    (response : LemonSqueezyCheckoutResponse) :
    Keeps env t op P (bindCreated command response) fun _ =>
      bound env t command.orderId response.checkoutId := by
  apply unitOfWork_keeps
  · apply locked_keeps
    intro order hid
    apply Meets.ofExcept_bind
    intro _ hcheck
    simp only [checkUnchanged, raiseIf_eq_ok, not_or, not_not] at hcheck
    exact commit_bind_keeps _ hid (.inl hcheck.2.2) fun _ hw => hw.2
  · exact fun _ _ h => h

theorem create_keeps (command : CreateTopUpCheckoutCommand) :
    Keeps env t op (anything env t) (create env command) fun result =>
      bound env t command.orderId result.checkoutId := by
  apply Meets.ofExcept_bind
  intro _ hvalid
  apply Meets.bind (Rely.refl t) (startCreation_keeps hvalid)
  intro subtotalUsd
  have hcall : Keeps env t op (starting env t command.orderId)
      (checkoutCreator (checkoutRequest command subtotalUsd)) fun _ => anything env t :=
    checkoutCreator_keeps _ fun _ hw => hw
  apply Meets.bind (Rely.refl t) hcall
  intro response
  match response with
  | .error .crash => exact Meets.throw _
  | .error .exception =>
    exact Meets.bind (Rely.refl t) (markUncertain_keeps command.orderId) fun _ => Meets.throw _
  | .ok response =>
    apply Meets.ofExcept_bind
    intro _ _
    apply Meets.bind (Rely.refl t) (bindCreated_keeps command response)
    intro _
    exact Meets.pure fun _ hw => hw

/-! ## The recovery -/

theorem checkEligible_bound {command : RecoverTopUpCheckoutCommand} {order : CommercialTopUpOrder}
    {result : RecoverTopUpCheckoutResult} (h : checkEligible command order = .ok (.inl result)) :
    order.checkoutCreationStatus = .ready ∧
      (order.providerCheckoutId.isSome → order.providerCheckoutId = some result.checkoutId) := by
  simp only [checkEligible, bind_ok] at h
  obtain ⟨_, -, h⟩ := h
  cases hstatus : order.checkoutCreationStatus with
  | ready =>
    simp only [hstatus, raiseIf_bind_ok, pure_ok, Sum.inl.injEq] at h
    obtain ⟨-, rfl⟩ := h
    refine ⟨rfl, fun hsome => ?_⟩
    obtain ⟨checkoutId, hcheckout⟩ := Option.isSome_iff_exists.mp hsome
    simp [hcheckout]
  | notStarted => simp [hstatus] at h
  | creating =>
    simp only [hstatus, bind_ok, pure_ok] at h
    obtain ⟨_, -, h⟩ := h
    cases h
  | uncertain =>
    simp only [hstatus, bind_ok, pure_ok] at h
    obtain ⟨_, -, h⟩ := h
    cases h

theorem startRecovery_keeps (command : RecoverTopUpCheckoutCommand) :
    Keeps env t op (anything env t) (startRecovery command) fun
      | .inl result => bound env t command.orderId result.checkoutId
      | .inr _ => anything env t := by
  apply unitOfWork_keeps
  · apply Meets.bind (Rely.refl t) (get_keeps command.orderId)
    intro found
    cases found with
    | none => exact Meets.throw _
    | some order =>
      apply Meets.ofExcept_bind
      intro found hfound
      obtain rfl : order = found := by simpa using hfound
      cases hcheck : checkEligible command order with
      | error e => exact Meets.throw e
      | ok eligible =>
        apply Meets.pure
        rintro w ⟨-, hseen, hid⟩
        cases eligible with
        | inr cents => trivial
        | inl result =>
          obtain ⟨hready, hcheckout⟩ := checkEligible_bound hcheck
          have hmem := hseen hready
          exact ⟨order, hmem, hid, hready, hcheckout ((w.orders.2.2.2 order hmem).2 hready)⟩
  · intro b w hw
    cases b with
    | inl result => exact hw
    | inr cents => trivial

theorem checkRecoverable_status {command : RecoverTopUpCheckoutCommand}
    {found : LemonSqueezyCheckoutCandidate} {order : CommercialTopUpOrder} {already : Bool}
    (h : checkRecoverable command found order = .ok already) :
    (already = true ∧ order.checkoutCreationStatus = .ready ∧
        order.providerCheckoutId = some found.checkoutId) ∨
      already = false ∧ (order.checkoutCreationStatus = .creating ∨
        order.checkoutCreationStatus = .uncertain) := by
  simp only [checkRecoverable, bind_ok] at h
  obtain ⟨_, -, h⟩ := h
  cases hstatus : order.checkoutCreationStatus with
  | ready =>
    simp only [hstatus, raiseIf_bind_ok, pure_ok, not_not] at h
    exact .inl ⟨h.2.symm, rfl, h.1⟩
  | notStarted => simp [hstatus] at h
  | creating =>
    simp only [hstatus, pure_ok] at h
    exact .inr ⟨h.symm, .inl rfl⟩
  | uncertain =>
    simp only [hstatus, pure_ok] at h
    exact .inr ⟨h.symm, .inr rfl⟩

theorem bindRecovered_keeps (command : RecoverTopUpCheckoutCommand)
    (found : LemonSqueezyCheckoutCandidate) :
    Keeps env t op P (bindRecovered command found) fun result =>
      bound env t command.orderId result.checkoutId := by
  apply unitOfWork_keeps
  · apply locked_keeps
    intro order hid
    apply Meets.ofExcept_bind
    intro already hcheck
    rcases checkRecoverable_status hcheck with ⟨rfl, hready, hcheckout⟩ | ⟨rfl, hstatus⟩
    · exact Meets.pure fun _ hw => ⟨order, hw.2.1, hid, hready, hcheckout⟩
    · refine Meets.bind (Rely.refl t)
        (commit_bind_keeps found.checkoutId hid hstatus fun _ hw => hw.2) fun _ => ?_
      exact Meets.pure fun _ hw => hw
  · exact fun _ _ h => h

theorem recover_keeps (command : RecoverTopUpCheckoutCommand) :
    Keeps env t op (anything env t) (recover env command) fun result =>
      bound env t command.orderId result.checkoutId := by
  apply Meets.ofExcept_bind
  intro _ _
  apply Meets.bind (Rely.refl t) (startRecovery_keeps command)
  intro eligible
  cases eligible with
  | inl result => exact Meets.pure fun _ hw => hw
  | inr expectedCents =>
    apply Meets.bind (Rely.refl t) (checkoutFinder_keeps command.storeId command.providerVariantId)
    intro candidates
    dsimp only
    split
    · apply Meets.ofExcept_bind
      intro _ _
      exact bindRecovered_keeps command _
    · exact Meets.throw _

end Rules

theorem contract_implemented (env : Platform) : (contract env).Implemented (checkoutMachine env) := by
  intro t op w _ _
  have hbody : Keeps env t op (anything env t) (body env op) fun outcome =>
      bound env t op.orderId outcome.checkoutId := by
    cases op with
    | create command =>
      exact Meets.bind (Rely.refl t) (create_keeps command) fun _ => Meets.pure fun _ hw => hw
    | recover command =>
      exact Meets.bind (Rely.refl t) (recover_keeps command) fun _ => Meets.pure fun _ hw => hw
  exact hbody w trivial

/-! ## Every run -/

section Runs

variable {env : Platform} {orders : Orders} {cfg later : Calls}
  {ok : Step → Calls → Prop}

theorem consistent_start (h : ∀ order ∈ orders.1, Sound env order) :
    Consistent env (World.start orders) :=
  ⟨h, fun _ _ _ => rfl, fun _ _ => rfl, fun _ => Nat.zero_le 1⟩

theorem safe_of_reaches (hstart : ∀ order ∈ orders.1, Sound env order)
    (h : (checkoutMachine env).Reaches ok (Machine.init (World.start orders)) cfg) :
    cfg.Safe (checkoutMachine env) (contract env) :=
  (Config.safe_init _ (consistent_start hstart) fun _ => trivial).reaches (contract_sound env)
    (contract_implemented env) h

theorem ready_of_reaches (hsafe : cfg.Safe (checkoutMachine env) (contract env))
    (h : (checkoutMachine env).Reaches ok cfg later) :
    ∀ order ∈ cfg.shared.orders.1, order.checkoutCreationStatus = .ready →
      order ∈ later.shared.orders.1 := by
  induction h with
  | refl => exact fun _ hmem _ => hmem
  | @tail a b ev hreach _ hnext ih =>
    have hmid := hsafe.reaches (contract_sound env) (contract_implemented env) hreach
    intro order hmem hready
    cases ev with
    | start t op =>
      obtain ⟨-, hshared, -⟩ := Machine.next_start hnext
      rw [hshared]
      exact ih order hmem hready
    | run t e =>
      obtain ⟨_, _, _, _, hdoes⟩ := hmid.guar (contract_sound env) hnext
      exact Does.bound hdoes order (ih order hmem hready) hready

/-- An order as the ordering service leaves it. -/
def CommercialTopUpOrder.Fresh (order : CommercialTopUpOrder) : Prop :=
  order.checkoutCreationStatus = .notStarted ∧ order.providerCheckoutId = none

instance : DecidablePred CommercialTopUpOrder.Fresh := fun _ => inferInstanceAs (Decidable (_ ∧ _))

theorem CommercialTopUpOrder.Fresh.sound {order : CommercialTopUpOrder} (h : order.Fresh) :
    Sound env order where
  ready := by simp [h.1, h.2]
  recoverable := by simp [h.1]

/-- Whatever fails and whoever interferes, an order gets one checkout at most, keeps the one that it
is bound to, and is otherwise either untouched or accepted by the recovery. -/
theorem one_checkout (env : Platform) {orders : Orders} {cfg later : Calls}
    (hstart : ∀ order ∈ orders.1, order.Fresh)
    (h : (checkoutMachine env).Reaches (fun _ _ => True) (Machine.init (World.start orders)) cfg)
    (hlater : (checkoutMachine env).Reaches (fun _ _ => True) cfg later) :
    (∀ orderId, (cfg.shared.callsFor orderId).length ≤ 1) ∧
      (∀ order ∈ cfg.shared.orders.1,
        (order.checkoutCreationStatus = .ready ↔ order.providerCheckoutId.isSome) ∧
        (∀ checkoutId, order.providerCheckoutId = some checkoutId →
          later.shared.Bound order.id checkoutId) ∧
        (order.checkoutCreationStatus ≠ .ready →
          (order.checkoutCreationStatus = .notStarted ∧ cfg.shared.callsFor order.id = []) ∨
            Recoverable env order)) ∧
      ∀ t op outcome, cfg.threads t = some (op, .done (.ok outcome)) →
        cfg.shared.Bound op.orderId outcome.checkoutId := by
  have hsafe := safe_of_reaches (fun order hmem => (hstart order hmem).sound) h
  have hconsistent : Consistent env cfg.shared := hsafe.1
  refine ⟨hconsistent.once, ?_, ?_⟩
  · intro order hmem
    have hsound := hconsistent.sound order hmem
    refine ⟨hsound.ready, ?_, ?_⟩
    · intro checkoutId hcheckout
      have hready : order.checkoutCreationStatus = .ready := by
        rw [hsound.ready, hcheckout]
        rfl
      exact ⟨order, ready_of_reaches hsafe hlater order hmem hready, rfl, hready, hcheckout⟩
    · intro hnotReady
      cases hstatus : order.checkoutCreationStatus with
      | ready => exact absurd hstatus hnotReady
      | notStarted =>
        exact .inl ⟨rfl, hconsistent.uncalled _ (hconsistent.unstarted order hmem hstatus)⟩
      | creating => exact .inr (hsound.recoverable (.inl hstatus))
      | uncertain => exact .inr (hsound.recoverable (.inr hstatus))
  · intro t op outcome hthread
    exact Config.Safe.post (contract_sound env) hsafe hthread outcome rfl

end Runs

namespace Sample

/-- Decimal digits, hexadecimal UUIDs with their dashes, and small ids. -/
def env : Platform where
  isdigit text := !text.toList.isEmpty && text.toList.all Char.isDigit
  int text := some (text.toList.foldl (fun n c => 10 * n + (c.toNat - 48 : ℕ)) 0)
  isUuid text := (text.toList.filter (· ≠ '-')).length = 32
  uuidText n := "00000000-0000-0000-0000-00000000000" ++ String.ofList (Nat.toDigits 16 n)

def order : CommercialTopUpOrder where
  id := 7
  customerRef := "customer"
  planCatalogVersion := PLAN_FULFILLMENT_CATALOG_VERSION
  totalPriceUsd := 1250
  channel := .lemonSqueezy
  providerVariantId := none
  providerCheckoutId := none
  checkoutCreationStatus := .notStarted
  state := .awaitingPayment

def start : Calls := Machine.init (World.start ⟨[order], by decide⟩)

def creation : CreateTopUpCheckoutCommand := ⟨7, "customer", "42", "5", "https://example.org", none⟩

def recovery : RecoverTopUpCheckoutCommand := ⟨7, "customer", "5", "42"⟩

def checkoutId : String := "00000000-0000-0000-0000-0000000000aa"

/-- The checkout that the provider has made for the order. -/
def candidate : LemonSqueezyCheckoutCandidate where
  checkoutId := checkoutId
  url := "https://example.org/checkout"
  storeId := "5"
  variantId := "42"
  customPrice := 1250
  customData
    | "customer_ref" => "customer"
    | "order_ref" => env.uuidText 7
    | "offer_ref" => "quota_top_up"
    | _ => ""

/-- The provider raises after the order has been started. -/
def failed : List Step :=
  .start 0 (.create creation) :: List.replicate 3 (.run 0 {}) ++
    [.run 0 { fault := some .exception }] ++ List.replicate 3 (.run 0 {})

theorem failed_runs : ((checkoutMachine env).run failed start).isSome = true := by
  decide +kernel

def afterFailed : Calls := ((checkoutMachine env).run failed start).get failed_runs

def recovered : List Step :=
  .start 1 (.recover recovery) :: List.replicate 5 (.run 1 { candidates := [candidate] })

theorem recovered_runs : ((checkoutMachine env).run recovered afterFailed).isSome = true := by
  decide +kernel

def afterRecovered : Calls := ((checkoutMachine env).run recovered afterFailed).get recovered_runs

theorem recovered_one_checkout :
    afterFailed.shared.orders.1.map CommercialTopUpOrder.checkoutCreationStatus = [.uncertain] ∧
      afterRecovered.shared.orders.1.map CommercialTopUpOrder.providerCheckoutId =
        [some checkoutId] ∧
      ∀ orderId, (afterRecovered.shared.callsFor orderId).length ≤ 1 := by
  have hfailed := Machine.run_reaches (Option.some_get failed_runs).symm
  have hrecovered := Machine.run_reaches (Option.some_get recovered_runs).symm
  exact ⟨by decide +kernel, by decide +kernel,
    (one_checkout env (by decide) (hfailed.trans hrecovered) (.refl afterRecovered)).1⟩

/-- A creation for an order of somebody else. -/
def refused : List Step :=
  .start 0 (.create { creation with customerRef := "other" }) :: List.replicate 2 (.run 0 {})

theorem refused_runs : ((checkoutMachine env).run refused start).isSome = true := by
  decide +kernel

def afterRefused : Calls := ((checkoutMachine env).run refused start).get refused_runs

def ended (cfg : Calls) (t : ℕ) : Option (Except CheckoutError Outcome) :=
  match cfg.threads t with
  | some (_, .done r) => some r
  | _ => none

/-- The creation has raised, and the order is not for the recovery. -/
theorem refused_not_recoverable :
    (checkoutMachine env).Reaches (fun _ _ => True) start afterRefused ∧
      ended afterRefused 0 =
        some (.error (.checkout "top-up checkout customer conflicts with the order.")) ∧
      afterRefused.shared.orders.1 = [order] ∧ order.checkoutCreationStatus ≠ .ready ∧
      ¬ Recoverable env order := by
  refine ⟨Machine.run_reaches (Option.some_get refused_runs).symm, by decide +kernel,
    by decide +kernel, by decide, ?_⟩
  rintro ⟨hstatus | hstatus, -⟩
  · cases hstatus
  · cases hstatus

end Sample

end MaestroKernel.Checkout
