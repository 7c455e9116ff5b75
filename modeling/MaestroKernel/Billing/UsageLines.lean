import MaestroKernel.Billing.UsageLog

/-! # Lines of the usage log

The line of a record is read back as the record, unless one of its texts has a line boundary that
JSON leaves as it is. -/

namespace MaestroKernel.Billing

open Checked JsonText
open JsonText.Dict (getOr truthyOr)
open Market (Datetime strip strip_ne_empty MAESTRO_UNIT_METRIC)

/-! ## Keys in endpoints -/

/-- A key starts somewhere in the text. -/
def containsKey : List Char → Bool
  | [] => false
  | c :: cs => startsKey (c :: cs) || containsKey cs

theorem startsKey_head {c : Char} {cs : List Char} (h : startsKey (c :: cs) = true) : c = 'p' := by
  unfold startsKey at h
  split at h
  · rename_i heq
    exact (List.cons.inj heq).1
  · cases h

theorem redact_eq_cons {cs out : List Char} {c : Char} (h : redact false cs = c :: out) :
    ∃ rest, cs = c :: rest ∧ (c ≠ 'p' → out = redact false rest) := by
  cases cs with
  | nil => cases h
  | cons d cs =>
    rw [redact, Bool.false_and, if_neg Bool.false_ne_true] at h
    split at h
    · rename_i hstart
      have hd := startsKey_head hstart
      have hc : c = 'p' := (List.cons.inj h).1.symm
      exact ⟨cs, by rw [hd, hc], fun hne => absurd hc hne⟩
    · obtain ⟨rfl, rfl⟩ := List.cons.inj h
      exact ⟨cs, rfl, fun _ => rfl⟩

theorem startsKey_redact {c : Char} {cs : List Char} (h : startsKey (c :: cs) = false) :
    startsKey (c :: redact false cs) = false := by
  rw [← Bool.not_eq_true] at h ⊢
  intro hstart
  apply h
  unfold startsKey at hstart
  split at hstart
  · rename_i d rest heq
    obtain ⟨rfl, hm⟩ := List.cons.inj heq
    obtain ⟨cs₁, rfl, hk⟩ := redact_eq_cons hm
    obtain ⟨cs₂, rfl, hunder⟩ := redact_eq_cons (hk (by decide)).symm
    obtain ⟨cs₃, rfl, hlast⟩ := redact_eq_cons (hunder (by decide)).symm
    obtain ⟨cs₄, rfl, -⟩ := redact_eq_cons (hlast (by decide)).symm
    exact hstart
  · cases hstart

theorem containsKey_redact (inKey : Bool) (cs : List Char) :
    containsKey (redact inKey cs) = false := by
  induction cs generalizing inKey with
  | nil => rfl
  | cons c cs ih =>
    rw [redact]
    split
    · exact ih true
    · split
      · have hbracket : isKeyChar '[' = false := by decide
        simpa [containsKey, startsKey, hbracket] using ih true
      · rename_i hstart
        rw [containsKey, startsKey_redact (Bool.not_eq_true _ ▸ hstart), Bool.false_or]
        exact ih false

theorem mem_redact {inKey : Bool} {cs : List Char} {c : Char} (h : c ∈ redact inKey cs) :
    c ∈ cs ∨ c ∈ "pmk_[redacted]".toList := by
  induction cs generalizing inKey with
  | nil => cases h
  | cons d cs ih =>
    rw [redact] at h
    split at h
    · exact (ih h).imp (List.mem_cons_of_mem _) id
    · split at h
      · rcases List.mem_append.mp h with hmem | hmem
        · exact .inr hmem
        · exact (ih hmem).imp (List.mem_cons_of_mem _) id
      · rcases List.mem_cons.mp h with rfl | hmem
        · exact .inl List.mem_cons_self
        · exact (ih hmem).imp (List.mem_cons_of_mem _) id

theorem unbroken_sanitize {endpoint : String} (h : Unbroken endpoint) :
    Unbroken (sanitizeUsageEndpoint endpoint) := by
  intro c hc
  rw [sanitizeUsageEndpoint, String.toList_ofList] at hc
  rcases mem_redact hc with hmem | hmem
  · exact h c hmem
  · have hliteral : Unbroken "pmk_[redacted]" := by decide
    exact hliteral c hmem

/-- What is written for a text that is not escaped in front starts with its first character. -/
theorem escaped_eq_cons {cs out : List Char} {c : Char} (hslash : c ≠ '\\') (hquote : c ≠ '"')
    (h : cs.flatMap escapeControl ++ ['"'] = c :: out) :
    ∃ rest, cs = c :: rest ∧ out = rest.flatMap escapeControl ++ ['"'] := by
  cases cs with
  | nil => exact absurd (List.cons.inj h).1.symm hquote
  | cons d rest =>
    rw [List.flatMap_cons, List.append_assoc] at h
    unfold escapeControl at h
    split at h
    · exact absurd (List.cons.inj h).1.symm hslash
    · split at h
      · obtain ⟨rfl, rfl⟩ := List.cons.inj h
        exact ⟨rest, rfl, rfl⟩
      · exact absurd (List.cons.inj h).1.symm hslash

theorem startsKey_escaped {c : Char} {cs : List Char} (h : startsKey (c :: cs) = false) :
    startsKey (c :: (cs.flatMap escapeControl ++ ['"'])) = false := by
  rw [← Bool.not_eq_true] at h ⊢
  intro hstart
  apply h
  unfold startsKey at hstart
  split at hstart
  · rename_i e out heq
    obtain ⟨rfl, hm⟩ := List.cons.inj heq
    obtain ⟨cs₁, rfl, hk⟩ := escaped_eq_cons (by decide) (by decide) hm
    obtain ⟨cs₂, rfl, hunder⟩ := escaped_eq_cons (by decide) (by decide) hk.symm
    obtain ⟨cs₃, rfl, hlast⟩ := escaped_eq_cons (by decide) (by decide) hunder.symm
    have hslash : e ≠ '\\' := by
      rintro rfl
      exact absurd hstart (by decide)
    have hquote : e ≠ '"' := by
      rintro rfl
      exact absurd hstart (by decide)
    obtain ⟨cs₄, rfl, -⟩ := escaped_eq_cons hslash hquote hlast.symm
    exact hstart
  · cases hstart

theorem containsKey_cons {c : Char} {cs : List Char} (hc : c ≠ 'p') :
    containsKey (c :: cs) = containsKey cs := by
  have hstart : startsKey (c :: cs) = false := by
    rw [← Bool.not_eq_true]
    exact fun h => hc (startsKey_head h)
  rw [containsKey, hstart, Bool.false_or]

theorem containsKey_append {escape cs : List Char} (h : ∀ c ∈ escape, c ≠ 'p') :
    containsKey (escape ++ cs) = containsKey cs := by
  induction escape with
  | nil => rfl
  | cons c escape ih =>
    rw [List.cons_append, containsKey_cons (h c List.mem_cons_self)]
    exact ih fun d hd => h d (List.mem_cons_of_mem c hd)

theorem escapeUnit_ne_p {u : ℕ} (h : u < 0x10000) : ∀ c ∈ escapeUnit u, c ≠ 'p' := by
  have hdigit : ∀ n, n < 16 → hexDigit n ≠ 'p' := by
    intro n hn
    interval_cases n <;> decide
  intro c hc
  simp only [escapeUnit, List.mem_cons, List.not_mem_nil, or_false] at hc
  rcases hc with rfl | rfl | rfl | rfl | rfl | rfl
  · decide
  · decide
  · exact hdigit _ (by omega)
  · exact hdigit _ (by omega)
  · exact hdigit _ (by omega)
  · exact hdigit _ (by omega)

theorem escapeControl_cases (c : Char) :
    escapeControl c = [c] ∨ ∀ d ∈ escapeControl c, d ≠ 'p' := by
  unfold escapeControl
  split
  · rename_i letter hlookup
    have hletters : shortEscapes.all (fun escape => escape.2 ≠ 'p') = true := by decide
    obtain ⟨before, after, hescapes, -⟩ := List.lookup_eq_some_iff.mp hlookup
    have hmem : (c, letter) ∈ shortEscapes :=
      hescapes ▸ List.mem_append_right _ List.mem_cons_self
    have hletter : letter ≠ 'p' := of_decide_eq_true (List.all_eq_true.mp hletters _ hmem)
    refine .inr (List.forall_mem_cons.mpr ⟨by decide, List.forall_mem_cons.mpr ⟨hletter, ?_⟩⟩)
    exact List.forall_mem_nil _
  · split
    · exact .inl rfl
    · exact .inr (escapeUnit_ne_p (by omega))

theorem containsKey_escaped {cs : List Char} (h : containsKey cs = false) :
    containsKey (cs.flatMap escapeControl ++ ['"']) = false := by
  induction cs with
  | nil => decide
  | cons c cs ih =>
    rw [containsKey, Bool.or_eq_false_iff] at h
    rw [List.flatMap_cons, List.append_assoc]
    rcases escapeControl_cases c with hsame | hescape
    · rw [hsame, List.singleton_append, containsKey, startsKey_escaped h.1, Bool.false_or]
      exact ih h.2
    · rw [containsKey_append hescape]
      exact ih h.2

theorem containsKey_writeText (endpoint : String) :
    containsKey (writeTextIn plain (sanitizeUsageEndpoint endpoint)) = false := by
  rw [writeTextIn, containsKey_cons (by decide)]
  apply containsKey_escaped
  rw [sanitizeUsageEndpoint, String.toList_ofList]
  exact containsKey_redact false endpoint.toList

/-! ## Lines that are read back -/

/-- The keys whose values the log keeps as they are. -/
def keptKeys : List String :=
  ["created_at", "request_id", "client_id", "user_id", "api_key_id", "api_key_prefix",
    "auth_method", "session_type", "method", "status_code", "latency_ms", "role",
    "pricing_version", "billing_policy", "billing_scope", "endpoint_class", "quota_scope",
    "quota_metric", "quota_period", "plan_id"]

/-- The other texts that the log writes by itself. -/
def ownTexts : List String :=
  ["", "endpoint", "provider_cost_included", "units_charged", "quota_limit", "quota_used",
    "quota_requested", "quota_remaining", "quota_before", "quota_after", "quota_rejected",
    "report_generation", "governance_evaluation", "analysis_evaluation", "metered_api_request",
    PRICING_VERSION, BILLING_POLICY, BILLING_SCOPE, MAESTRO_UNIT_METRIC]

theorem unbroken_texts : (∀ key ∈ keptKeys, Unbroken key) ∧ (∀ text ∈ ownTexts, Unbroken text) ∧
    ∀ rule ∈ MAESTRO_UNIT_RULES, Unbroken rule.endpointClass := by
  decide +kernel

theorem unbroken_own {text : String} (h : text ∈ ownTexts) : Unbroken text :=
  unbroken_texts.2.1 text h

/-- No text of the record has a line boundary that JSON leaves as it is, and its status code and its
latency are in the range of an int and of a float. -/
structure Loggable (env : Platform) (record : Record) : Prop where
  texts : ∀ key ∈ keptKeys, ∀ v, Dict.get? key record = some v → v.unbroken = true
  endpoint : Unbroken (env.text (getOr record "endpoint" (.str "")))
  status : (getOr record "status_code" (.int 0)).toInt env.parseInt ≠ .error .overflowError
  latency : safeFloat env (getOr record "latency_ms" (.int 0)) ≠ .error .overflowError

section Lines

theorem Value.unbrokenItems_iff {items : List (String × Value)} :
    Value.unbrokenItems items = true ↔ ∀ item ∈ items, Unbroken item.1 ∧ item.2.unbroken = true := by
  induction items with
  | nil => simp [Value.unbrokenItems]
  | cons item items ih =>
    rw [Value.unbrokenItems, Bool.and_eq_true, Bool.and_eq_true, decide_eq_true_eq, ih,
      List.forall_mem_cons]

variable {env : Platform} {record clean : Record} {now : Datetime}

theorem cleanRecord_eq_ok (h : cleanRecord env record now = .ok clean) :
    ∃ logged, loggedUnits env record = .ok logged ∧ clean = cleanFields env record now logged := by
  unfold cleanRecord at h
  cases hlogged : loggedUnits env record with
  | error e =>
    rw [hlogged] at h
    cases h
  | ok logged =>
    rw [hlogged] at h
    exact ⟨logged, rfl, (Except.ok.inj h).symm⟩

theorem unbroken_getOr {key : String} {default : Value} (h : Loggable env record)
    (hkey : key ∈ keptKeys) (hdefault : default.unbroken = true) :
    (getOr record key default).unbroken = true := by
  rw [getOr]
  cases hget : Dict.get? key record with
  | none => exact hdefault
  | some v => exact h.texts key hkey v hget

theorem unbroken_truthyOr {key : String} {default : Value} (h : Loggable env record)
    (hkey : key ∈ keptKeys) (hdefault : default.unbroken = true) :
    (truthyOr record key default).unbroken = true := by
  rw [truthyOr]
  cases hget : Dict.get? key record with
  | none => exact hdefault
  | some v =>
    simp only
    split
    · exact h.texts key hkey v hget
    · exact hdefault

theorem unbroken_str {s : String} (h : Unbroken s) : (Value.str s).unbroken = true := by
  rw [Value.unbroken]
  exact decide_eq_true h

theorem unbroken_int (n : ℤ) : (Value.int n).unbroken = true := by simp [Value.unbroken]

theorem unbroken_bool (b : Bool) : (Value.bool b).unbroken = true := by simp [Value.unbroken]

theorem unbroken_optionalInt (n : Option ℤ) : (optionalInt n).unbroken = true := by
  cases n with
  | none => rfl
  | some n => rfl

theorem mem_of_maestroUnitRule {path : String} {rule : MaestroUnitRule}
    (h : maestroUnitRule path = some rule) : rule ∈ MAESTRO_UNIT_RULES := by
  rw [maestroUnitRule] at h
  exact List.mem_of_find?_eq_some h

theorem unbroken_endpointClass (path : String) : Unbroken (maestroEndpointClass path) := by
  unfold maestroEndpointClass
  simp only
  cases hrule : maestroUnitRule (normalizeMaestroEndpoint path) with
  | some rule => exact unbroken_texts.2.2 rule (mem_of_maestroUnitRule hrule)
  | none =>
    simp only
    split
    · exact unbroken_own (by simp [ownTexts])
    · split
      · exact unbroken_own (by simp [ownTexts])
      · split
        · exact unbroken_own (by simp [ownTexts])
        · exact unbroken_own (by simp [ownTexts])

/-- A field whose key and value stay on one line. -/
def FieldUnbroken (item : String × Value) : Prop := Unbroken item.1 ∧ item.2.unbroken = true

theorem field_getOr {key : String} {default : Value} (h : Loggable env record)
    (hkey : key ∈ keptKeys) (hdefault : default.unbroken = true) :
    FieldUnbroken (key, getOr record key default) :=
  ⟨unbroken_texts.1 key hkey, unbroken_getOr h hkey hdefault⟩

theorem field_truthyOr {key : String} {default : Value} (h : Loggable env record)
    (hkey : key ∈ keptKeys) (hdefault : default.unbroken = true) :
    FieldUnbroken (key, truthyOr record key default) :=
  ⟨unbroken_texts.1 key hkey, unbroken_truthyOr h hkey hdefault⟩

theorem unbroken_requestFields (h : Loggable env record) (now : Datetime) :
    ∀ item ∈ requestFields env record now, FieldUnbroken item := by
  have hempty : (Value.str "").unbroken = true := unbroken_str (unbroken_own (by simp [ownTexts]))
  have hzero : (Value.int 0).unbroken = true := unbroken_int 0
  have htime : (Value.str (env.isoformat now)).unbroken = true :=
    unbroken_str (env.isoformat_unbroken now)
  have hendpoint : (Value.str (loggedEndpoint env record)).unbroken = true :=
    unbroken_str (unbroken_sanitize h.endpoint)
  have hkey : Unbroken "endpoint" := unbroken_own (by simp [ownTexts])
  rw [requestFields]
  refine List.forall_mem_cons.mpr ⟨field_truthyOr h (by simp [keptKeys]) htime, ?_⟩
  iterate 8
    refine List.forall_mem_cons.mpr ⟨field_getOr h (by simp [keptKeys]) hempty, ?_⟩
  refine List.forall_mem_cons.mpr ⟨⟨hkey, hendpoint⟩, ?_⟩
  iterate 2
    refine List.forall_mem_cons.mpr ⟨field_getOr h (by simp [keptKeys]) hzero, ?_⟩
  refine List.forall_mem_cons.mpr ⟨field_getOr h (by simp [keptKeys]) hempty, ?_⟩
  exact List.forall_mem_nil _

theorem unbroken_pricingDecision (path : String) :
    Unbroken (pricingDecision path).pricingVersion ∧ Unbroken (pricingDecision path).billingPolicy ∧
      Unbroken (pricingDecision path).billingScope ∧
      Unbroken (pricingDecision path).endpointClass := by
  dsimp only [pricingDecision]
  exact ⟨unbroken_own (by simp [ownTexts]), unbroken_own (by simp [ownTexts]),
    unbroken_own (by simp [ownTexts]),
    unbroken_endpointClass (normalizeMaestroEndpoint path)⟩

theorem unbroken_pricingFields (h : Loggable env record) (path : String) (unitsCharged : ℤ) :
    ∀ item ∈ pricingFields record (pricingDecision path) unitsCharged, FieldUnbroken item := by
  have hpricing := unbroken_pricingDecision path
  generalize pricingDecision path = pricing at hpricing ⊢
  obtain ⟨hversion, hpolicy, hscope, hclass⟩ := hpricing
  have hincluded : Unbroken "provider_cost_included" := unbroken_own (by simp [ownTexts])
  have hunits : Unbroken "units_charged" := unbroken_own (by simp [ownTexts])
  unfold pricingFields
  refine List.forall_mem_cons.mpr ⟨field_truthyOr h (by simp [keptKeys]) (unbroken_str hversion), ?_⟩
  refine List.forall_mem_cons.mpr ⟨field_truthyOr h (by simp [keptKeys]) (unbroken_str hpolicy), ?_⟩
  refine List.forall_mem_cons.mpr ⟨field_truthyOr h (by simp [keptKeys]) (unbroken_str hscope), ?_⟩
  refine List.forall_mem_cons.mpr ⟨⟨hincluded, unbroken_bool _⟩, ?_⟩
  refine List.forall_mem_cons.mpr ⟨field_truthyOr h (by simp [keptKeys]) (unbroken_str hclass), ?_⟩
  refine List.forall_mem_cons.mpr ⟨⟨hunits, unbroken_int _⟩, ?_⟩
  exact List.forall_mem_nil _

theorem unbroken_quotaFields (h : Loggable env record) (logged : LoggedUnits) :
    ∀ item ∈ quotaFields record logged, FieldUnbroken item := by
  have hempty : (Value.str "").unbroken = true := unbroken_str (unbroken_own (by simp [ownTexts]))
  have hmetric : (Value.str MAESTRO_UNIT_METRIC).unbroken = true :=
    unbroken_str (unbroken_own (by simp [ownTexts]))
  have hoptional (key : String) (n : Option ℤ) (hkey : key ∈ ownTexts) :
      FieldUnbroken (key, optionalInt n) :=
    ⟨unbroken_own hkey, unbroken_optionalInt n⟩
  unfold quotaFields
  refine List.forall_mem_cons.mpr ⟨field_getOr h (by simp [keptKeys]) hempty, ?_⟩
  refine List.forall_mem_cons.mpr ⟨field_truthyOr h (by simp [keptKeys]) hmetric, ?_⟩
  refine List.forall_mem_cons.mpr ⟨field_getOr h (by simp [keptKeys]) hempty, ?_⟩
  refine List.forall_mem_cons.mpr ⟨hoptional _ _ (by simp [ownTexts]), ?_⟩
  refine List.forall_mem_cons.mpr ⟨hoptional _ _ (by simp [ownTexts]), ?_⟩
  refine List.forall_mem_cons.mpr ⟨hoptional _ (some _) (by simp [ownTexts]), ?_⟩
  refine List.forall_mem_cons.mpr ⟨hoptional _ _ (by simp [ownTexts]), ?_⟩
  refine List.forall_mem_cons.mpr ⟨hoptional _ _ (by simp [ownTexts]), ?_⟩
  refine List.forall_mem_cons.mpr ⟨hoptional _ _ (by simp [ownTexts]), ?_⟩
  refine List.forall_mem_cons.mpr ⟨field_getOr h (by simp [keptKeys]) hempty, ?_⟩
  refine List.forall_mem_cons.mpr ⟨⟨unbroken_own (by simp [ownTexts]), unbroken_bool _⟩, ?_⟩
  exact List.forall_mem_nil _

theorem unbroken_cleanFields (h : Loggable env record) (now : Datetime) (logged : LoggedUnits) :
    ∀ item ∈ cleanFields env record now logged, FieldUnbroken item := by
  unfold cleanFields
  intro item hitem
  rcases List.mem_append.mp hitem with hitem | hitem
  · rcases List.mem_append.mp hitem with hitem | hitem
    · exact unbroken_requestFields h now item hitem
    · exact unbroken_pricingFields h _ _ item hitem
  · exact unbroken_quotaFields h logged item hitem

theorem onOneLine_logLine (h : Loggable env record) (hclean : cleanRecord env record now = .ok clean) :
    OnOneLine (logLine env clean) := by
  obtain ⟨logged, -, rfl⟩ := cleanRecord_eq_ok hclean
  apply onOneLine_writeIn
  exact Value.unbrokenItems_iff.mpr (unbroken_cleanFields h now logged)

theorem readLine_logLine (clean : Record) : readLine env (logLine env clean) = some clean := by
  have hread : loads env.floats (String.ofList (logLine env clean)) = some (.obj clean) :=
    loads_dumpsIn plain env.floats (.obj clean)
  obtain ⟨rest, hline⟩ : ∃ rest, logLine env clean = '{' :: rest := by
    cases clean with
    | nil => exact ⟨_, rfl⟩
    | cons item items => exact ⟨_, rfl⟩
  have hstrip : strip (String.ofList (logLine env clean)) ≠ "" :=
    strip_ne_empty (by rw [String.toList_ofList, hline]) (by decide)
  rw [readLine, if_neg hstrip, hread]
  rfl

end Lines

end MaestroKernel.Billing
