import MaestroKernel.Connectivity.Intake
import MaestroKernel.Library.Builtins
import MaestroKernel.Library.JsonLayouts

/-! # The identity of a reference package

The fingerprint of a package leaves out the order of its secret references, and the review compares
them in order. The registry gives every binding one secret reference, so the review cannot tell two
packages with one fingerprint apart. -/

namespace MaestroKernel.Connectivity

open Checked JsonText Records

/-! ## The registry -/

def TELECOM_AUTHENTICATION_PROFILE : String := "telecom_operations_api_reference"

def DECLARED_ENVIRONMENTS : List String := ["sandbox", "production"]

def RUNTIME_CONNECTOR_CONTRACTS : List ConnectorRuntimeContract :=
  [{ connectorId := "telecom_crm_reference"
     supportedEnvironments := DECLARED_ENVIRONMENTS
     scopeIds := ["crm:read", "customer:update", "customer_record:update"]
     authenticationProfileIds := [TELECOM_AUTHENTICATION_PROFILE] },
   { connectorId := "telecom_billing_reference"
     supportedEnvironments := DECLARED_ENVIRONMENTS
     scopeIds := ["billing:read", "billing:adjust"]
     authenticationProfileIds := [TELECOM_AUTHENTICATION_PROFILE] },
   { connectorId := "telecom_ticketing_reference"
     supportedEnvironments := DECLARED_ENVIRONMENTS
     scopeIds :=
      ["ticket:read", "helpdesk:read", "ticket:create", "ticket:update", "helpdesk:create"]
     authenticationProfileIds := [TELECOM_AUTHENTICATION_PROFILE] },
   { connectorId := "telecom_order_management_reference"
     supportedEnvironments := DECLARED_ENVIRONMENTS
     scopeIds := ["order:preview", "order:create_with_approval", "order:execute"]
     authenticationProfileIds := [TELECOM_AUTHENTICATION_PROFILE] },
   { connectorId := "telecom_network_assurance_reference"
     supportedEnvironments := DECLARED_ENVIRONMENTS
     scopeIds := ["network:read", "network:diagnostics_read", "network:write"]
     authenticationProfileIds := [TELECOM_AUTHENTICATION_PROFILE] },
   { connectorId := "enterprise_document_reference"
     supportedEnvironments := DECLARED_ENVIRONMENTS
     scopeIds :=
      ["document:read", "document:classify", "compliance_document:read", "paper:read",
       "response:draft", "analysis_report:draft", "dataset:export_sensitive"]
     authenticationProfileIds := ["document_repository_reference"] },
   { connectorId := "enterprise_helpdesk_reference"
     supportedEnvironments := DECLARED_ENVIRONMENTS
     scopeIds :=
      ["helpdesk:read", "project:read", "knowledge_base:read", "helpdesk:create",
       "project_update:draft", "email_response:draft", "hr_record:update", "procurement:approve",
       "contract:sign"]
     authenticationProfileIds := ["enterprise_core_api_reference"] },
   { connectorId := "banking_kyc_reference"
     supportedEnvironments := DECLARED_ENVIRONMENTS
     scopeIds :=
      ["customer_case:read", "kyc_document:read", "risk_case:read", "risk_case:summarize",
       "compliance_document:read", "compliance_ticket:create", "internal_note:draft",
       "account:update", "transaction:execute", "credit_decision:approve", "kyc_status:finalize"]
     authenticationProfileIds := ["banking_kyc_api_reference"] },
   { connectorId := "government_case_reference"
     supportedEnvironments := DECLARED_ENVIRONMENTS
     scopeIds :=
      ["case:read", "case:summarize", "audit_record:read", "response:draft", "workflow:route",
       "status:update_with_approval", "permit:approve", "benefit:approve",
       "citizen_record:update", "case:close_final"]
     authenticationProfileIds := ["government_case_api_reference"] },
   { connectorId := "research_dataset_reference"
     supportedEnvironments := DECLARED_ENVIRONMENTS
     scopeIds :=
      ["dataset:read", "experiment:read", "project_status:read", "experiment_note:draft",
       "analysis_report:draft", "project_update:draft", "dataset:export_sensitive",
       "embargoed_result:publish", "access_grant:approve", "experiment_record:finalize"]
     authenticationProfileIds := ["research_dataset_api_reference"] },
   { connectorId := "university_student_reference"
     supportedEnvironments := DECLARED_ENVIRONMENTS
     scopeIds :=
      ["student_request:read", "course_catalog:read", "admission_case:read",
       "department_ticket:create", "admission_case:draft_response",
       "student_request:draft_response", "grade:update", "student_record:update",
       "admission_decision:approve", "disciplinary_case:update"]
     authenticationProfileIds := ["university_student_api_reference"] }]

/-- The functions of the environment with the connectors of the registry. -/
def deployed (env : Environment) : Environment :=
  { env with registry := RUNTIME_CONNECTOR_CONTRACTS }

theorem authenticationProfileIds_length :
    ∀ connector ∈ RUNTIME_CONNECTOR_CONTRACTS, connector.authenticationProfileIds.length = 1 := by
  simp [RUNTIME_CONNECTOR_CONTRACTS]

theorem secretReferenceIds_length {env : Environment} {id : String}
    {binding : ConnectorEnvironmentBinding}
    (h : environmentBinding? (deployed env) id = some binding) :
    binding.secretReferenceIds.length = 1 := by
  have hmem : binding ∈ environmentBindings (deployed env) :=
    List.mem_reverse.mp (Table.mem_of_get? h)
  obtain ⟨connector, hconnector, hbinding⟩ := List.mem_flatMap.mp hmem
  obtain ⟨environment, -, rfl⟩ := List.mem_map.mp hbinding
  rw [List.length_map]
  exact authenticationProfileIds_length connector hconnector

/-! ## Fingerprints -/

def SameButOrder (p q : CustomerReferencePackage) : Prop :=
  q.toPackageFields = { p.toPackageFields with secretReferenceIds := q.secretReferenceIds } ∧
    p.secretReferenceIds.Perm q.secretReferenceIds

section Fingerprints

variable {env : Environment} {p q : CustomerReferencePackage}

theorem insertionSort_eq_iff {xs ys : List String} :
    (xs.insertionSort fun a b => a ≤ b) = ys.insertionSort (fun a b => a ≤ b) ↔ xs.Perm ys := by
  constructor
  · intro h
    exact (List.perm_insertionSort _ xs).symm.trans (h ▸ List.perm_insertionSort _ ys)
  · intro h
    have hperm := (List.perm_insertionSort (fun a b : String => a ≤ b) xs).trans
      (h.trans (List.perm_insertionSort (fun a b : String => a ≤ b) ys).symm)
    exact hperm.eq_of_pairwise' (List.pairwise_insertionSort _ xs) (List.pairwise_insertionSort _ ys)

theorem fingerprint_of_sameButOrder (h : SameButOrder p q) :
    customerReferencePackageFingerprint env p = customerReferencePackageFingerprint env q := by
  have hpayload : p.payload = q.payload := by
    rw [h.1, PackageFields.payload, PackageFields.payload, insertionSort_eq_iff.mpr h.2]
  rw [customerReferencePackageFingerprint, customerReferencePackageFingerprint, hpayload]

def payloadItems (p : PackageFields) : List (String × Value) :=
  match p.payload with
  | .obj items => items
  | _ => []

theorem nodup_payloadKeys (p : PackageFields) : ((payloadItems p).map Prod.fst).Nodup := by
  have hkeys : (payloadItems p).map Prod.fst =
      ["package_id", "case_id", "client_id", "schema_version", "connector_id",
        "credential_profile_id", "target_environment", "target_reference_id",
        "secret_reference_ids", "dns_reference", "tls_policy_reference", "certificate_reference",
        "outbound_allowlist_reference", "submitted_at"] := rfl
  rw [hkeys]
  decide +kernel

theorem canonical_field {p q : PackageFields} (h : p.payload.Same q.payload) {key : String}
    {v w : Value} (i : ℕ) (hv : (payloadItems p)[i]? = some (key, v))
    (hw : (payloadItems q)[i]? = some (key, w)) : v.canonical = w.canonical := by
  have hitems : Dict.ordered (Value.canonicalItems (payloadItems p)) =
      Dict.ordered (Value.canonicalItems (payloadItems q)) := Value.obj.inj h
  have hget := congrArg (Dict.get? key) hitems
  rw [Dict.get?_ordered, Dict.get?_ordered, Value.canonicalItems_eq, Value.canonicalItems_eq,
    Dict.get?_map, Dict.get?_map, Dict.get?_of_getElem? (nodup_payloadKeys p) i hv,
    Dict.get?_of_getElem? (nodup_payloadKeys q) i hw] at hget
  exact Option.some.inj hget

theorem sameButOrder_of_payload (h : p.payload.Same q.payload) : SameButOrder p q := by
  have hsecrets := canonical_field h 8 rfl rfl
  rw [Value.canonical, Value.canonical, Value.canonicalList_eq, Value.canonicalList_eq,
    List.map_map, List.map_map] at hsecrets
  have hinjective : Function.Injective (Value.canonical ∘ Value.str) :=
    fun _ _ heq => Value.str.inj heq
  have hsorted := hinjective.list_map (Value.arr.inj hsecrets)
  refine ⟨?_, insertionSort_eq_iff.mp hsorted⟩
  have h₀ := Value.str.inj (canonical_field h 0 rfl rfl)
  have h₁ := Value.str.inj (canonical_field h 1 rfl rfl)
  have h₂ := Value.str.inj (canonical_field h 2 rfl rfl)
  have h₃ := Value.str.inj (canonical_field h 3 rfl rfl)
  have h₄ := Value.str.inj (canonical_field h 4 rfl rfl)
  have h₅ := Value.str.inj (canonical_field h 5 rfl rfl)
  have h₆ := Value.str.inj (canonical_field h 6 rfl rfl)
  have h₇ := Value.str.inj (canonical_field h 7 rfl rfl)
  have h₉ := Value.str.inj (canonical_field h 9 rfl rfl)
  have h₁₀ := Value.str.inj (canonical_field h 10 rfl rfl)
  have h₁₁ := Value.str.inj (canonical_field h 11 rfl rfl)
  have h₁₂ := Value.str.inj (canonical_field h 12 rfl rfl)
  have h₁₃ := Value.str.inj (canonical_field h 13 rfl rfl)
  dsimp only
  rw [h₀, h₁, h₂, h₃, h₄, h₅, h₆, h₇, h₉, h₁₀, h₁₁, h₁₂, h₁₃]

theorem dumps_ne_of_not_sameButOrder (h : ¬ SameButOrder p q) :
    dumps env.floats p.payload ≠ dumps env.floats q.payload :=
  fun htext => h (sameButOrder_of_payload (same_of_dumps env.floats htext))

end Fingerprints

/-! ## Reviews -/

section Reviews

variable {env : Environment} {p q : CustomerReferencePackage}

theorem eq_iff_of_perm {xs ys refs : List String} (href : refs.length = 1) (h : xs.Perm ys) :
    xs = refs ↔ ys = refs := by
  obtain ⟨ref, rfl⟩ := List.length_eq_one_iff.mp href
  constructor
  · rintro rfl
    exact List.perm_singleton.mp h.symm
  · rintro rfl
    exact List.perm_singleton.mp h

theorem evaluateBinding_of_sameButOrder (h : SameButOrder p q) (c : ConnectivityCase) :
    Intake.evaluateBinding (deployed env) c p = Intake.evaluateBinding (deployed env) c q := by
  unfold Intake.evaluateBinding
  cases hbinding : environmentBinding? (deployed env) (bindingId c.connectorId c.targetEnvironment)
      with
  | none => rfl
  | some binding =>
    have htarget : q.targetReferenceId = p.targetReferenceId := by rw [h.1]
    have hsecrets : (q.secretReferenceIds = binding.secretReferenceIds) =
        (p.secretReferenceIds = binding.secretReferenceIds) :=
      propext (eq_iff_of_perm (secretReferenceIds_length hbinding) h.2).symm
    simp only [htarget, hsecrets]

def exchange (p q : CustomerReferencePackage) (s : CaseStoreSnapshot env) : CaseStoreSnapshot env :=
  { s with customerReferencePackages := s.customerReferencePackages.map fun x =>
      if x = p then q else x }

theorem packageForCurrentFingerprint_exchange (h : SameButOrder p q) (s : CaseStoreSnapshot env)
    (c : ConnectivityCase) :
    Intake.packageForCurrentFingerprint (exchange p q s) c =
      (Intake.packageForCurrentFingerprint s c).map fun x => if x = p then q else x := by
  have hcase : q.caseId = p.caseId := by rw [h.1]
  have hsame : ((fun x : CustomerReferencePackage => decide (x.caseId = c.caseId) &&
        decide (customerReferencePackageFingerprint env x = c.customerPackageFingerprint)) ∘
        fun x => if x = p then q else x) =
      fun x => decide (x.caseId = c.caseId) &&
        decide (customerReferencePackageFingerprint env x = c.customerPackageFingerprint) := by
    funext x
    rw [Function.comp_apply]
    split
    · rename_i hx
      rw [hx, hcase, fingerprint_of_sameButOrder h]
    · rfl
  rw [Intake.packageForCurrentFingerprint, Intake.packageForCurrentFingerprint, exchange,
    List.filter_map, hsame]
  cases s.customerReferencePackages.filter fun x => decide (x.caseId = c.caseId) &&
      decide (customerReferencePackageFingerprint env x = c.customerPackageFingerprint) with
  | nil => rfl
  | cons x xs =>
    cases xs with
    | nil => rfl
    | cons y ys => rfl

theorem reviewPackage_exchange (h : SameButOrder p q) (s : CaseStoreSnapshot (deployed env))
    (caseId assessmentId : String) (expectedRevision : ℤ) (actor occurredAt : String) :
    Intake.reviewPackage (exchange p q s) caseId assessmentId expectedRevision actor occurredAt =
      (Intake.reviewPackage s caseId assessmentId expectedRevision actor occurredAt).map
        fun result => (exchange p q result.1, result.2) := by
  have hevaluation : ∀ c x, Intake.evaluateBinding (deployed env) c (if x = p then q else x) =
      Intake.evaluateBinding (deployed env) c x := by
    intro c x
    split
    · rename_i hx
      rw [hx, evaluateBinding_of_sameButOrder h]
    · rfl
  unfold Intake.reviewPackage
  refine bind_eq_map fun _ => bind_eq_map fun c => bind_eq_map fun _ => bind_eq_map fun _ =>
    bind_eq_map fun _ => ?_
  rw [packageForCurrentFingerprint_exchange h]
  cases Intake.packageForCurrentFingerprint s c with
  | error e => rfl
  | ok x =>
    simp only [Except.map, ok_bind, hevaluation]
    exact bind_eq_map fun _ => bind_eq_map fun _ => bind_eq_map fun _ => rfl

/-- Packages that differ in the order of their secret references have one fingerprint and are
reviewed alike; any others have different fingerprints, or show a collision of SHA-256. -/
theorem review_respects_identity (env : Environment) (p q : CustomerReferencePackage) :
    (SameButOrder p q →
      customerReferencePackageFingerprint (deployed env) p =
          customerReferencePackageFingerprint (deployed env) q ∧
        (∀ c, Intake.evaluateBinding (deployed env) c p =
          Intake.evaluateBinding (deployed env) c q) ∧
        ∀ (s : CaseStoreSnapshot (deployed env)) caseId assessmentId expectedRevision actor
          occurredAt,
          Intake.reviewPackage (exchange p q s) caseId assessmentId expectedRevision actor
              occurredAt =
            (Intake.reviewPackage s caseId assessmentId expectedRevision actor occurredAt).map
              fun result => (exchange p q result.1, result.2)) ∧
    (¬ SameButOrder p q →
      customerReferencePackageFingerprint (deployed env) p ≠
          customerReferencePackageFingerprint (deployed env) q ∨
        ∃ text text', text ≠ text' ∧ env.sha256 text = env.sha256 text') := by
  refine ⟨fun h => ⟨fingerprint_of_sameButOrder h, evaluateBinding_of_sameButOrder h,
    reviewPackage_exchange h⟩, fun h => ?_⟩
  by_cases hsame : customerReferencePackageFingerprint (deployed env) p =
      customerReferencePackageFingerprint (deployed env) q
  · exact .inr ⟨_, _, dumps_ne_of_not_sameButOrder h, hsame⟩
  · exact .inl hsame

end Reviews

end MaestroKernel.Connectivity
