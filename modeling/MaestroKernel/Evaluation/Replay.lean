import MaestroKernel.Evaluation.Delivery
import MaestroKernel.Market.Sample

/-! # Executions start at most once

The record of a claim guards its execution: it is found by every later claim of the same grant,
key and idempotency key. The table keeps its rows. A ledger file keeps its records as long as it
does not hold more than `EVALUATION_DELIVERY_MAX_RECORDS`. -/

namespace MaestroKernel.Evaluation

open Market (Platform Datetime strip)
open Checked Table

variable {env : Platform} {now : Datetime}

theorem settle_cases {R S : Type} (storage : Storage) (failure : DeliveryFailure) (s : S)
    (x : Except DeliveryFailure (R × S)) :
    (settle storage failure s x).2 = s ∨
      ∃ reply s', x = .ok (reply, s') ∧ (settle storage failure s x).2 = s' := by
  cases x with
  | error e => exact .inl rfl
  | ok found =>
    cases storage with
    | available => exact .inr ⟨found.1, found.2, rfl, rfl⟩
    | unavailable => exact .inl rfl
    | answerLost => exact .inr ⟨found.1, found.2, rfl, rfl⟩

theorem settle_ok {R S : Type} {storage : Storage} {failure : DeliveryFailure} {s : S}
    {x : Except DeliveryFailure (R × S)} {reply : R}
    (h : (settle storage failure s x).1 = .ok reply) :
    ∃ s', x = .ok (reply, s') ∧ (settle storage failure s x).2 = s' := by
  cases x with
  | error e => cases h
  | ok found =>
    cases storage with
    | available =>
      obtain rfl : found.1 = reply := Except.ok.inj h
      exact ⟨found.2, rfl, rfl⟩
    | unavailable => cases h
    | answerLost => cases h

/-! ## The table -/

namespace Postgres

variable {rows rows' : Rows} {reply : Reply}

theorem claim_ok {claim : Claim}
    (h : claimEvaluationExecution env claim now rows = .ok (reply, rows')) :
    (rows' = rows ∧ ∀ record, reply ≠ .claimed record) ∨
      (∀ row ∈ rows, row.recordId ≠ recordId env claim.ownerId claim.grantId claim.apiKeyId
        (strip claim.idempotencyKey)) ∧
      rows' = rows ++ [claimRow env claim (strip claim.idempotencyKey) now] := by
  unfold claimEvaluationExecution at h
  simp only [raiseIf_bind_ok] at h
  obtain ⟨-, -, h⟩ := h
  split at h
  · left
    simp only [bind_ok, demand_eq_ok, pure_ok] at h
    obtain ⟨existing, -, answer, hanswer, h⟩ := h
    obtain ⟨rfl, rfl⟩ := Prod.mk.inj h
    simp only [answerExisting, raiseIf_bind_ok, demand_bind_ok, pure_ok] at hanswer
    obtain ⟨-, -, replay, -, rfl⟩ := hanswer
    refine ⟨rfl, fun record he => ?_⟩
    cases he
  · rename_i hnew
    right
    obtain ⟨-, rfl⟩ := Prod.mk.inj (pure_ok.mp h)
    exact ⟨fun row hrow hid => hnew ⟨row, hrow, .inl hid⟩, rfl⟩

theorem ids_perform {request : Request} (h : perform env now rows request = .ok (reply, rows'))
    {id : String} (hid : id ∈ rows.map EvaluationRuntimeDelivery.recordId) :
    id ∈ rows'.map EvaluationRuntimeDelivery.recordId := by
  cases request with
  | claim claim =>
    rcases claim_ok h with ⟨rfl, -⟩ | ⟨-, rfl⟩
    · exact hid
    · rw [List.map_append]
      exact List.mem_append_left _ hid
  | complete ownerId recordId evidence replayResponse =>
    simp only [perform, completeEvaluationExecution, bind_ok, demand_eq_ok, pure_ok] at h
    obtain ⟨-, -, row, -, -, -, evidence, -, replay, -, h⟩ := h
    obtain ⟨-, rfl⟩ := Prod.mk.inj h
    rw [map_key_put]
    exact hid
  | fail ownerId recordId failureCode =>
    simp only [perform, failEvaluationExecution] at h
    split at h
    · obtain ⟨-, rfl⟩ := Prod.mk.inj (Except.ok.inj h)
      exact hid
    · split at h
      · obtain ⟨-, rfl⟩ := Prod.mk.inj (Except.ok.inj h)
        exact hid
      · obtain ⟨-, rfl⟩ := Prod.mk.inj (Except.ok.inj h)
        rw [map_key_put]
        exact hid

theorem grants_eq_some {call : Call} {answer : Except DeliveryFailure Reply} {k : Execution}
    (h : (table env).grants call answer = some k) : ∃ claim record,
      call.request = .claim claim ∧ answer = .ok (.claimed record) ∧ claim.execution = k := by
  unfold table at h
  dsimp only at h
  split at h
  · rename_i claim record hrequest
    exact ⟨claim, record, hrequest, rfl, Option.some.inj h⟩
  · cases h

theorem started {call : Call} {k : Execution}
    (h : (table env).grants call ((table env).step call rows).1 = some k) : ∃ claim,
      call.request = .claim claim ∧ claim.execution = k ∧
      (∀ row ∈ rows, row.recordId ≠ recordId env claim.ownerId k.1 k.2.1 k.2.2) ∧
      ((table env).step call rows).2 =
        rows ++ [claimRow env claim (strip claim.idempotencyKey) call.now] := by
  obtain ⟨claim, record, hrequest, hanswer, rfl⟩ := grants_eq_some h
  obtain ⟨rows', hperform, hsettled⟩ := settle_ok hanswer
  rw [hrequest] at hperform
  rcases claim_ok hperform with ⟨-, hother⟩ | ⟨hnew, rfl⟩
  · exact absurd rfl (hother record)
  · exact ⟨claim, hrequest, rfl, hnew, hsettled⟩

/-- The calls on a grant come from its owner. -/
def Owned (ownerOf : String → String) (call : Call) (_ : Rows) : Prop :=
  ∀ claim, call.request = .claim claim → claim.ownerId = ownerOf claim.grantId

theorem guards (env : Platform) (ownerOf : String → String) :
    (table env).Guards (Owned ownerOf) fun rows k =>
      recordId env (ownerOf k.1) k.1 k.2.1 k.2.2 ∈
        rows.map EvaluationRuntimeDelivery.recordId where
  kept call rows k _ hk := by
    rcases settle_cases call.storage unavailable rows (perform env call.now rows call.request) with
      hsame | ⟨reply, rows', hperform, hsettled⟩
    · exact hsame.symm ▸ hk
    · exact hsettled.symm ▸ ids_perform hperform hk
  refused call rows k hok hk hgrants := by
    obtain ⟨claim, hrequest, rfl, hnew, -⟩ := started hgrants
    obtain ⟨row, hrow, hid⟩ := List.mem_map.mp hk
    have howner : claim.ownerId = ownerOf claim.execution.1 := hok claim hrequest
    rw [← howner] at hid
    exact hnew row hrow hid
  left call rows k hok hgrants := by
    obtain ⟨claim, hrequest, rfl, -, hrows⟩ := started hgrants
    rw [hrows, List.map_append]
    refine List.mem_append_right _ ?_
    have howner : claim.ownerId = ownerOf claim.execution.1 := hok claim hrequest
    rw [← howner]
    exact List.mem_singleton_self _

end Postgres

/-! ## The ledger files -/

namespace File

variable {ledger ledger' : Ledger} {reply : Reply}

theorem trimFrom_of_le {order : List String} (h : order.length ≤ EVALUATION_DELIVERY_MAX_RECORDS) :
    trimFrom ledger order = { ledger with order := order } := by
  cases order with
  | nil => rfl
  | cons oldest order => rw [trimFrom, if_neg (by omega)]

theorem trim_of_le (h : ledger.order.length ≤ EVALUATION_DELIVERY_MAX_RECORDS) :
    trim ledger = ledger := trimFrom_of_le h

theorem claim_ok {claim : Claim}
    (h : claimEvaluationExecution env claim now ledger = .ok (reply, ledger')) :
    (ledger' = ledger ∧ ∀ record, reply ≠ .claimed record) ∨
      ledger.get? (recordId env claim.grantId claim.apiKeyId (strip claim.idempotencyKey)) = none ∧
      ledger' = trim ⟨ledger.records ++ [claimRecord env claim (strip claim.idempotencyKey) now],
        ledger.order ++ [recordId env claim.grantId claim.apiKeyId
          (strip claim.idempotencyKey)]⟩ := by
  unfold claimEvaluationExecution at h
  simp only [raiseIf_bind_ok] at h
  obtain ⟨-, h⟩ := h
  split at h
  · left
    rename_i existing hexisting
    obtain ⟨answer, hanswer, h⟩ := bind_ok.mp h
    obtain ⟨rfl, rfl⟩ := Prod.mk.inj (pure_ok.mp h)
    refine ⟨rfl, fun record he => ?_⟩
    subst he
    obtain ⟨-, hanswer⟩ := raiseIf_bind_ok.mp hanswer
    split at hanswer
    · simp only [demand_bind_ok, pure_ok] at hanswer
      obtain ⟨replay, -, hreply⟩ := hanswer
      cases hreply
    · exact throw_ok.mp hanswer
  · rename_i hnew
    obtain ⟨-, rfl⟩ := Prod.mk.inj (pure_ok.mp h)
    exact .inr ⟨hnew, rfl⟩

theorem ids_perform {request : Request} (h : perform env now ledger request = .ok (reply, ledger'))
    (hroom : ∀ claim, request = .claim claim → ledger.get? (recordId env claim.grantId
      claim.apiKeyId (strip claim.idempotencyKey)) = none →
        ledger.order.length < EVALUATION_DELIVERY_MAX_RECORDS)
    {id : String} (hid : id ∈ ledger.records.map Record.recordId) :
    id ∈ ledger'.records.map Record.recordId := by
  cases request with
  | claim claim =>
    rcases claim_ok h with ⟨rfl, -⟩ | ⟨hnew, rfl⟩
    · exact hid
    · have hlength := hroom claim rfl hnew
      rw [trim_of_le (by simp; omega), List.map_append]
      exact List.mem_append_left _ hid
  | complete ownerId recordId evidence replayResponse =>
    simp only [perform, completeEvaluationExecution, bind_ok, demand_eq_ok, pure_ok] at h
    obtain ⟨-, -, record, -, -, -, evidence, -, replay, -, h⟩ := h
    obtain ⟨-, rfl⟩ := Prod.mk.inj h
    rw [Ledger.put, map_key_put]
    exact hid
  | fail ownerId recordId failureCode =>
    simp only [perform, failEvaluationExecution] at h
    split at h
    · obtain ⟨-, rfl⟩ := Prod.mk.inj (Except.ok.inj h)
      exact hid
    · split at h
      · obtain ⟨-, rfl⟩ := Prod.mk.inj (Except.ok.inj h)
        exact hid
      · obtain ⟨-, rfl⟩ := Prod.mk.inj (Except.ok.inj h)
        rw [Ledger.put, map_key_put]
        exact hid

theorem grants_eq_some {call : Call} {answer : Except DeliveryFailure Reply} {k : Execution}
    (h : (files env).grants call answer = some k) : ∃ claim record,
      call.request = .claim claim ∧ answer = .ok (.claimed record) ∧ claim.execution = k := by
  unfold files at h
  dsimp only at h
  split at h
  · rename_i claim record hrequest
    exact ⟨claim, record, hrequest, rfl, Option.some.inj h⟩
  · cases h

theorem started {call : Call} {disk : Disk} {k : Execution}
    (h : (files env).grants call ((files env).step call disk).1 = some k) : ∃ claim,
      call.request = .claim claim ∧ claim.execution = k ∧
      (disk (env.sha256 claim.ownerId)).get? (recordId env k.1 k.2.1 k.2.2) = none ∧
      ((files env).step call disk).2 = Function.update disk (env.sha256 claim.ownerId)
        (trim ⟨(disk (env.sha256 claim.ownerId)).records ++
            [claimRecord env claim (strip claim.idempotencyKey) call.now],
          (disk (env.sha256 claim.ownerId)).order ++ [recordId env k.1 k.2.1 k.2.2]⟩) := by
  obtain ⟨claim, record, hrequest, hanswer, rfl⟩ := grants_eq_some h
  have hrespond : (respond env call (disk (env.sha256 call.request.ownerId))).1 =
      .ok (.claimed record) := hanswer
  obtain ⟨ledger, hperform, hsettled⟩ := settle_ok hrespond
  have howner : call.request.ownerId = claim.ownerId := by
    rw [hrequest]
    rfl
  have hstep : ((files env).step call disk).2 =
      Function.update disk (env.sha256 call.request.ownerId) ledger :=
    congrArg (Function.update disk (env.sha256 call.request.ownerId)) hsettled
  rw [howner] at hstep hperform
  rw [hrequest] at hperform
  rcases claim_ok hperform with ⟨-, hother⟩ | ⟨hnew, rfl⟩
  · exact absurd rfl (hother record)
  · exact ⟨claim, hrequest, rfl, hnew, hstep⟩

/-- The calls on a grant come from its owner, and a claim without a record finds room for one. -/
def Roomy (env : Platform) (ownerOf : String → String) (call : Call) (disk : Disk) : Prop :=
  ∀ claim, call.request = .claim claim → claim.ownerId = ownerOf claim.grantId ∧
    ((disk (env.sha256 claim.ownerId)).get? (recordId env claim.grantId claim.apiKeyId
      (strip claim.idempotencyKey)) = none →
        (disk (env.sha256 claim.ownerId)).order.length < EVALUATION_DELIVERY_MAX_RECORDS)

theorem guards (env : Platform) (ownerOf : String → String) :
    (files env).Guards (Roomy env ownerOf) fun disk k =>
      recordId env k.1 k.2.1 k.2.2 ∈
        (disk (env.sha256 (ownerOf k.1))).records.map Record.recordId where
  kept call disk k hok hk := by
    have hstep : ((files env).step call disk).2 = Function.update disk
      (env.sha256 call.request.ownerId)
      (respond env call (disk (env.sha256 call.request.ownerId))).2 := rfl
    rw [hstep]
    by_cases hpath : env.sha256 (ownerOf k.1) = env.sha256 call.request.ownerId
    · rw [hpath] at hk ⊢
      rw [Function.update_self]
      rcases settle_cases call.storage .osError (disk (env.sha256 call.request.ownerId))
          (perform env call.now (disk (env.sha256 call.request.ownerId)) call.request) with
        hsame | ⟨reply, ledger, hperform, hsettled⟩
      · rw [respond, hsame]
        exact hk
      · rw [respond, hsettled]
        refine ids_perform hperform (fun claim hrequest hnew => ?_) hk
        have howner : call.request.ownerId = claim.ownerId := by
          rw [hrequest]
          rfl
        rw [howner] at hnew ⊢
        exact (hok claim hrequest).2 hnew
    · rw [Function.update_of_ne hpath]
      exact hk
  refused call disk k hok hk hgrants := by
    obtain ⟨claim, hrequest, rfl, hnew, -⟩ := started hgrants
    have howner : claim.ownerId = ownerOf claim.execution.1 := (hok claim hrequest).1
    rw [← howner] at hk
    obtain ⟨record, hrecord, hid⟩ := List.mem_map.mp hk
    exact get?_eq_none.mp hnew record hrecord hid
  left call disk k hok hgrants := by
    obtain ⟨claim, hrequest, rfl, hnew, hstep⟩ := started hgrants
    have howner : claim.ownerId = ownerOf claim.execution.1 := (hok claim hrequest).1
    have hlength := (hok claim hrequest).2 hnew
    rw [hstep, ← howner, Function.update_self, trim_of_le (by simp; omega), List.map_append]
    exact List.mem_append_right _ (List.mem_singleton_self _)

/-! ### Full ledgers -/

/-- The ledger after claims with these record ids: it holds the newest of them. -/
structure Ledger.Holds (ledger : Ledger) (ids : List String) : Prop where
  order : ledger.order = ids.drop (ids.length - EVALUATION_DELIVERY_MAX_RECORDS)
  records : ledger.records.map Record.recordId = ledger.order

theorem Ledger.Holds.empty : Ledger.empty.Holds [] := ⟨rfl, rfl⟩

theorem Ledger.Holds.add {ids : List String} {record : Record} (h : ledger.Holds ids)
    (hnodup : (ids ++ [record.recordId]).Nodup) :
    (trim ⟨ledger.records ++ [record], ledger.order ++ [record.recordId]⟩).Holds
      (ids ++ [record.recordId]) := by
  have hlength : ledger.order.length =
      ids.length - (ids.length - EVALUATION_DELIVERY_MAX_RECORDS) := by
    rw [h.order, List.length_drop]
  have hdrop : ids.drop (ids.length - EVALUATION_DELIVERY_MAX_RECORDS) ++ [record.recordId] =
      (ids ++ [record.recordId]).drop (ids.length - EVALUATION_DELIVERY_MAX_RECORDS) := by
    rw [List.drop_append_of_le_length (by omega)]
  by_cases hroom : ids.length < EVALUATION_DELIVERY_MAX_RECORDS
  · rw [trim_of_le (by simp; omega)]
    refine ⟨?_, by rw [List.map_append, h.records]; rfl⟩
    have hnone : (ids ++ [record.recordId]).length - EVALUATION_DELIVERY_MAX_RECORDS =
        ids.length - EVALUATION_DELIVERY_MAX_RECORDS := by
      simp
      omega
    rw [hnone, ← hdrop, ← h.order]
  · cases horder : ledger.order with
    | nil =>
      rw [horder] at hlength
      simp [EVALUATION_DELIVERY_MAX_RECORDS] at hlength hroom
      omega
    | cons oldest order =>
      have hnew : (oldest :: (order ++ [record.recordId])).Nodup := by
        rw [← List.cons_append, ← horder, h.order, hdrop]
        exact hnodup.sublist (List.drop_sublist _ _)
      have hfull : (order ++ [record.recordId]).length = EVALUATION_DELIVERY_MAX_RECORDS := by
        rw [horder, List.length_cons] at hlength
        rw [List.length_append, List.length_singleton]
        omega
      have htrim : trim ⟨ledger.records ++ [record], oldest :: order ++ [record.recordId]⟩ =
          ⟨(ledger.records ++ [record]).filter fun r => r.recordId ≠ oldest,
            order ++ [record.recordId]⟩ := by
        rw [trim, List.cons_append, trimFrom, if_pos (by rw [List.length_cons]; omega)]
        exact trimFrom_of_le hfull.le
      rw [htrim]
      constructor
      · have hnext : (ids ++ [record.recordId]).length - EVALUATION_DELIVERY_MAX_RECORDS =
            ids.length - EVALUATION_DELIVERY_MAX_RECORDS + 1 := by
          simp
          omega
        rw [hnext, ← List.drop_drop, ← hdrop, ← h.order, horder]
        rfl
      · have hids : (ledger.records ++ [record]).map Record.recordId =
            oldest :: (order ++ [record.recordId]) := by
          rw [List.map_append, h.records, horder]
          rfl
        have hfilter : ((ledger.records ++ [record]).filter fun r => r.recordId ≠ oldest).map
            Record.recordId = ((ledger.records ++ [record]).map Record.recordId).filter
              fun id => id ≠ oldest := by
          rw [List.filter_map]
          rfl
        change (List.map _ _) = _
        rw [hfilter, hids, List.filter_cons_of_neg (by simp), List.filter_eq_self]
        intro id hid
        refine decide_eq_true fun he => ?_
        rw [he] at hid
        exact (List.nodup_cons.mp hnew).1 hid

def recordIdOf (env : Platform) (claim : Claim) : String :=
  recordId env claim.grantId claim.apiKeyId (strip claim.idempotencyKey)

theorem step_claim (now : Datetime) {claim : Claim} {disk : Disk}
    (hkey : strip claim.idempotencyKey ≠ "")
    (hnew : (disk (env.sha256 claim.ownerId)).get? (recordIdOf env claim) = none) :
    (files env).step (claim.call now) disk =
      (.ok (.claimed (claimRecord env claim (strip claim.idempotencyKey) now)),
        Function.update disk (env.sha256 claim.ownerId)
          (trim ⟨(disk (env.sha256 claim.ownerId)).records ++
              [claimRecord env claim (strip claim.idempotencyKey) now],
            (disk (env.sha256 claim.ownerId)).order ++ [recordIdOf env claim]⟩)) := by
  have hclaim : claimEvaluationExecution env claim now (disk (env.sha256 claim.ownerId)) =
      .ok (.claimed (claimRecord env claim (strip claim.idempotencyKey) now),
        trim ⟨(disk (env.sha256 claim.ownerId)).records ++
            [claimRecord env claim (strip claim.idempotencyKey) now],
          (disk (env.sha256 claim.ownerId)).order ++ [recordIdOf env claim]⟩) := by
    unfold recordIdOf at hnew ⊢
    unfold claimEvaluationExecution
    simp only [raiseIf_bind_ok, hnew]
    exact ⟨hkey, rfl⟩
  have hrespond : respond env (claim.call now) (disk (env.sha256 claim.ownerId)) =
      settle .available .osError (disk (env.sha256 claim.ownerId))
        (claimEvaluationExecution env claim now (disk (env.sha256 claim.ownerId))) := rfl
  change ((respond env (claim.call now) (disk (env.sha256 claim.ownerId))).1,
    Function.update disk (env.sha256 claim.ownerId)
      (respond env (claim.call now) (disk (env.sha256 claim.ownerId))).2) = _
  rw [hrespond, hclaim]
  rfl

theorem run_claims (now : Datetime) {path : String} (claims : List Claim) (disk : Disk)
    {ids : List String}
    (hclaims : ∀ claim ∈ claims, env.sha256 claim.ownerId = path ∧ strip claim.idempotencyKey ≠ "")
    (h : (disk path).Holds ids) (hnodup : (ids ++ claims.map (recordIdOf env)).Nodup) :
    ((files env).run (claims.map (Claim.call now)) disk path).Holds
        (ids ++ claims.map (recordIdOf env)) ∧
      (files env).granted (claims.map (Claim.call now)) disk = claims.map Claim.execution := by
  induction claims generalizing disk ids with
  | nil =>
    have hids : ids ++ [].map (recordIdOf env) = ids := List.append_nil ids
    rw [hids]
    exact ⟨h, rfl⟩
  | cons claim claims ih =>
    obtain ⟨rfl, hkey⟩ := hclaims claim List.mem_cons_self
    rw [List.map_cons, List.append_cons] at hnodup
    have hadd : (ids ++ [recordIdOf env claim]).Nodup := (List.nodup_append.mp hnodup).1
    have hnew : (disk (env.sha256 claim.ownerId)).get? (recordIdOf env claim) = none := by
      refine get?_eq_none.mpr fun record hrecord hid => ?_
      have hmem : recordIdOf env claim ∈ ids := by
        refine List.mem_of_mem_drop (i := ids.length - EVALUATION_DELIVERY_MAX_RECORDS) ?_
        rw [← h.order, ← h.records, ← hid]
        exact List.mem_map_of_mem hrecord
      exact (List.nodup_append.mp hadd).2.2 _ hmem _ (List.mem_singleton_self _) rfl
    have hstep := step_claim now hkey hnew
    have hheld : (((files env).step (claim.call now) disk).2 (env.sha256 claim.ownerId)).Holds
        (ids ++ [recordIdOf env claim]) := by
      rw [hstep]
      dsimp only
      rw [Function.update_self]
      exact h.add hadd
    obtain ⟨hrest, hgranted⟩ :=
      ih _ (fun c hc => hclaims c (List.mem_cons_of_mem _ hc)) hheld hnodup
    constructor
    · rw [List.map_cons, List.map_cons, List.append_cons]
      exact hrest
    · rw [List.map_cons, List.map_cons, Granter.granted, hgranted, hstep]
      rfl

end File

/-! ## Runs -/

/-- No execution starts twice, in the table and in ledgers with room. An execution that is still
in progress has started, so no claim starts it again. -/
theorem executions_start_once (env : Platform) (ownerOf : String → String) (calls : List Call) :
    (∀ rows, (table env).Meets (Postgres.Owned ownerOf) calls rows →
        ((table env).granted calls rows).Nodup) ∧
      ∀ disk, (files env).Meets (File.Roomy env ownerOf) calls disk →
        ((files env).granted calls disk).Nodup :=
  ⟨fun _ h => (Postgres.guards env ownerOf).nodup h,
    fun _ h => (File.guards env ownerOf).nodup h⟩

namespace Sample

/-- Different texts have different digests. -/
def platform : Platform := { Market.Sample.platform with sha256 := id }

/-- The two letters that number an idempotency key. -/
def letters (n : ℕ) : List Char := [Char.ofNat (97 + n / 26), Char.ofNat (97 + n % 26)]

/-- The claims of one key differ in their idempotency keys. -/
def claim (n : ℕ) : Claim where
  ownerId := "owner-a"
  grantId := "grant-a"
  apiKeyId := "key-a"
  idempotencyKey := String.ofList ("request-".toList ++ letters n ++ ['.'])
  requestFingerprint := "fingerprint"
  taskId := "crm.customer_context"
  bindingId := "binding-a"

/-- An execution fails and is claimed again. -/
def retried : List Call :=
  [(claim 0).call (Market.Sample.day 1 10),
   { request := .fail "owner-a" (File.recordIdOf platform (claim 0)) "Timeout"
     now := Market.Sample.day 1 10 },
   (claim 0).call (Market.Sample.day 1 11)]

theorem retried_starts_once :
    ((table platform).granted retried []).Nodup ∧
      ((files platform).granted retried fun _ => .empty).Nodup := by
  have howner : ∀ n, (claim n).ownerId = "owner-a" := fun _ => rfl
  constructor
  · refine (executions_start_once platform (fun _ => "owner-a") retried).1 [] ?_
    refine ⟨?_, ?_, ?_, trivial⟩
    · intro c hc
      cases hc
      exact howner 0
    · intro c hc
      cases hc
    · intro c hc
      cases hc
      exact howner 0
  · refine (executions_start_once platform (fun _ => "owner-a") retried).2 (fun _ => .empty) ?_
    refine ⟨?_, ?_, ?_, trivial⟩
    · intro c hc
      cases hc
      exact ⟨howner 0, fun _ => by decide⟩
    · intro c hc
      cases hc
    · intro c hc
      cases hc
      exact ⟨howner 0, fun _ => by decide +kernel⟩

def filling : List Claim := (List.range (EVALUATION_DELIVERY_MAX_RECORDS + 1)).map claim

/-- The first of them is repeated at the end. -/
def calls : List Call :=
  (filling ++ [claim 0]).map (Claim.call (Market.Sample.day 1 10))

theorem strip_key (n : ℕ) : strip (claim n).idempotencyKey = (claim n).idempotencyKey := by
  have htext : (claim n).idempotencyKey.toList = 'r' :: ("equest-".toList ++ letters n) ++ ['.'] := by
    unfold claim
    rw [String.toList_ofList]
    rfl
  have hfirst : ¬ Durable.pyIsSpace 'r' = true := by decide
  have hlast : ¬ Durable.pyIsSpace '.' = true := by decide
  unfold strip
  rw [htext, List.cons_append, List.dropWhile_cons_of_neg hfirst, ← List.cons_append,
    List.reverse_append, List.reverse_singleton, List.singleton_append,
    List.dropWhile_cons_of_neg hlast, ← List.singleton_append, ← List.reverse_singleton,
    ← List.reverse_append, List.reverse_reverse, ← htext, String.ofList_toList]

theorem letters_injective {m n : ℕ} (hm : m < 26 * 26) (hn : n < 26 * 26)
    (h : letters m = letters n) : m = n := by
  have hletter : ∀ x < 26, ∀ y < 26, Char.ofNat (97 + x) = Char.ofNat (97 + y) → x = y := by
    decide
  simp only [letters, List.cons.injEq, and_true] at h
  have hdiv := hletter (m / 26) (by omega) (n / 26) (by omega) h.1
  have hmod := hletter (m % 26) (by omega) (n % 26) (by omega) h.2
  omega

theorem recordIdOf_injective {m n : ℕ} (hm : m < 26 * 26) (hn : n < 26 * 26)
    (h : File.recordIdOf platform (claim m) = File.recordIdOf platform (claim n)) : m = n := by
  have htext : ∀ n, (File.recordIdOf platform (claim n)).toList =
      "grant-a\x00key-a\x00request-".toList ++ (letters n ++ ['.']) := by
    intro n
    unfold File.recordIdOf
    rw [strip_key]
    change ("grant-a" ++ "\x00" ++ "key-a" ++ "\x00" ++ (claim n).idempotencyKey).toList = _
    rw [String.toList_append]
    unfold claim
    rw [String.toList_ofList]
    rfl
  have hkeys := (htext m).symm.trans ((congrArg String.toList h).trans (htext n))
  exact letters_injective hm hn (List.append_cancel_right (List.append_cancel_left hkeys))

/-- The record that the last claim would find was trimmed, and its execution starts again. -/
theorem executes_twice : ¬ ((files platform).granted calls fun _ => .empty).Nodup := by
  have hids : (filling.map (File.recordIdOf platform)).Nodup := by
    unfold filling
    rw [List.map_map]
    refine (List.nodup_range).map_on fun m hm n hn h => ?_
    have hbound : EVALUATION_DELIVERY_MAX_RECORDS + 1 < 26 * 26 := by decide
    exact recordIdOf_injective ((List.mem_range.mp hm).trans hbound)
      ((List.mem_range.mp hn).trans hbound) h
  have hclaims : ∀ claim ∈ filling, platform.sha256 claim.ownerId = "owner-a" ∧
      strip claim.idempotencyKey ≠ "" := by
    intro c hc
    obtain ⟨n, -, rfl⟩ := List.mem_map.mp hc
    refine ⟨rfl, ?_⟩
    rw [strip_key]
    intro hempty
    have hlist := congrArg String.toList hempty
    unfold claim at hlist
    rw [String.toList_ofList] at hlist
    simp at hlist
  have hfirst : claim 0 ∈ filling := List.mem_map.mpr ⟨0, by simp, rfl⟩
  obtain ⟨hheld, hgranted⟩ := File.run_claims (Market.Sample.day 1 10) filling
    (fun _ => .empty) hclaims .empty (by rwa [List.nil_append])
  -- the ledger holds all records but the first
  have hcons : filling.map (File.recordIdOf platform) = File.recordIdOf platform (claim 0) ::
      (filling.map (File.recordIdOf platform)).drop 1 := by
    unfold filling
    rw [List.range_succ_eq_map]
    rfl
  have hnew : ((files platform).run (filling.map (Claim.call (Market.Sample.day 1 10)))
      (fun _ => .empty) (platform.sha256 (claim 0).ownerId)).get?
        (File.recordIdOf platform (claim 0)) = none := by
    refine get?_eq_none.mpr fun record hrecord hid => ?_
    have hmem : File.recordIdOf platform (claim 0) ∈
        (filling.map (File.recordIdOf platform)).drop 1 := by
      have hlength : (filling.map (File.recordIdOf platform)).length -
          EVALUATION_DELIVERY_MAX_RECORDS = 1 := by
        unfold filling
        simp
      rw [List.nil_append] at hheld
      rw [← hid, ← hlength, ← hheld.order, ← hheld.records]
      exact List.mem_map_of_mem hrecord
    rw [hcons] at hids
    exact (List.nodup_cons.mp hids).1 hmem
  have hstep := File.step_claim (Market.Sample.day 1 10) (hclaims _ hfirst).2 hnew
  have hlast : Claim.execution (claim 0) ∈ (files platform).granted
      ([claim 0].map (Claim.call (Market.Sample.day 1 10)))
      ((files platform).run (filling.map (Claim.call (Market.Sample.day 1 10)))
        fun _ => .empty) := by
    rw [List.map_singleton, Granter.granted, hstep]
    exact List.mem_cons_self
  intro hnodup
  rw [calls, List.map_append, Granter.granted_append, hgranted] at hnodup
  exact (List.nodup_append.mp hnodup).2.2 _ (List.mem_map_of_mem hfirst) _ hlast rfl

end Sample

end MaestroKernel.Evaluation
