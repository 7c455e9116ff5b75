import Mathlib
import MaestroKernel.Billing.Reconciliation

/-! # Stored statements

A statement is stored under its reference once, and what is loaded is the statement. -/

namespace MaestroKernel.Billing

open Checked JsonText
open JsonText.Dict (getOr truthyOr)
open Market (Datetime strip strip_eq_self)

section Digests

variable {env : Platform}

theorem statementSha256_readBack (statement : Record) :
    statementSha256 env (Dict.readBack statement) = statementSha256 env statement := by
  have hsame : Dict.readBack ((Dict.readBack statement).filter fun item => item.1 ≠ "statement_sha256") =
      Dict.readBack (statement.filter fun item => item.1 ≠ "statement_sha256") := by
    refine Dict.ordered_ext (Dict.ordered_ordered _) (Dict.ordered_ordered _) fun key => ?_
    rw [Dict.get?_readBack, Dict.get?_readBack, Dict.get?_filter_ne, Dict.get?_filter_ne,
      Dict.get?_readBack]
    split
    · rfl
    · rw [Option.map_map]
      congr 1
      funext v
      exact Value.canonical_canonical v
  rw [statementSha256, statementSha256, dumpsSortedIn, dumpsSortedIn, Value.canonical,
    Value.canonical]
  exact congrArg (fun items => env.sha256 (dumpsIn dense env.floats (.obj items))) hsame

/-- The statement has its own digest. -/
def Signed (env : Platform) (statement : Record) : Prop :=
  getOr statement "statement_sha256" .null = .str (statementSha256 env statement)

theorem signed_readBack {statement : Record} (h : Signed env statement) :
    Signed env (Dict.readBack statement) := by
  rw [Signed, statementSha256_readBack, getOr, Dict.get?_readBack]
  rw [Signed, getOr] at h
  cases hget : Dict.get? "statement_sha256" statement with
  | none =>
    rw [hget] at h
    cases h
  | some v =>
    rw [hget] at h
    have hv : v = .str (statementSha256 env statement) := h
    rw [hv]
    rfl

theorem loads_fileText (statement : Record) :
    loads env.floats (fileText env statement) = some (.obj (Dict.readBack statement)) := by
  have hblank : Blank ['\n'] := by simp [Blank, isSpace]
  exact loads_written indented env.floats (Value.obj statement).canonical hblank

end Digests

section References

theorem isSafeChar_ascii {c : Char} (h : isSafeChar c = true) : 33 ≤ c.toNat ∧ c.toNat ≤ 126 := by
  simp only [isSafeChar, Char.isAlphanum, Char.isAlpha, Char.isUpper, Char.isLower, Char.isDigit,
    Bool.or_eq_true, Bool.and_eq_true, decide_eq_true_eq] at h
  rcases h with ((((⟨hlow, hhigh⟩ | ⟨hlow, hhigh⟩) | ⟨hlow, hhigh⟩) | rfl) | rfl) | rfl
  · have hlow' := UInt32.le_iff_toNat_le.mp hlow
    have hhigh' := UInt32.le_iff_toNat_le.mp hhigh
    simp at hlow' hhigh'
    omega
  · have hlow' := UInt32.le_iff_toNat_le.mp hlow
    have hhigh' := UInt32.le_iff_toNat_le.mp hhigh
    simp at hlow' hhigh'
    omega
  · have hlow' := UInt32.le_iff_toNat_le.mp hlow
    have hhigh' := UInt32.le_iff_toNat_le.mp hhigh
    simp at hlow' hhigh'
    omega
  · decide
  · decide
  · decide

theorem not_space_of_safe {c : Char} (h : isSafeChar c = true) : Durable.pyIsSpace c = false := by
  obtain ⟨hlow, hhigh⟩ := isSafeChar_ascii h
  simp only [Durable.pyIsSpace]
  simp
  omega

theorem strip_of_safe {ref : String} (h : isSafeRef ref = true) : strip ref = ref := by
  rw [isSafeRef, Bool.and_eq_true, List.all_eq_true] at h
  exact strip_eq_self fun c hc => not_space_of_safe (h.2 c hc)

end References

/-! ## Files -/

section Files

variable {env : Platform} {statement : Record} {files files' : Files} {kept : Value}

/-- Every file is one that was written for a statement with its own digest. -/
def Stored (env : Platform) (files : Files) : Prop :=
  ∀ ref text, files ref = some text →
    ∃ statement, Signed env statement ∧ text = fileText env statement

theorem loadStatement_fileText {ref : String} (hsigned : Signed env statement)
    (href : isSafeRef ref = true) (hfile : files ref = some (fileText env statement)) :
    loadStatement env files ref = .ok (.obj (Dict.readBack statement)) := by
  have hdigest : ¬ getOr (Dict.readBack statement) "statement_sha256" .null ≠
      .str (statementSha256 env (Dict.readBack statement)) := not_not.mpr (signed_readBack hsigned)
  rw [loadStatement, strip_of_safe href, raiseIf_bind_of_neg (not_not.mpr href), hfile,
    demand_some_bind, loads_fileText, demand_some_bind]
  change (demand (some (Dict.readBack statement)) _ >>= fun record => _) = _
  rw [demand_some_bind, raiseIf_bind_of_neg hdigest]
  rfl

/-- What the checks before storing leave, and what is stored. -/
theorem persistStatement_cases (h : persistStatement env statement files = .ok (kept, files')) :
    Signed env statement ∧ isSafeRef (textOf env statement "statement_ref") = true ∧
      ((∃ text, files (textOf env statement "statement_ref") = some text ∧
          loads env.floats text = some kept ∧ kept.equal (.obj statement) = true ∧
          files' = files) ∨
        (files (textOf env statement "statement_ref") = none ∧ kept = .obj statement ∧
          files' = Function.update files (textOf env statement "statement_ref")
            (some (fileText env statement)))) := by
  simp only [persistStatement, raiseIf_bind_ok] at h
  obtain ⟨hsigned, hsafe, h⟩ := h
  refine ⟨not_not.mp hsigned, not_not.mp hsafe, ?_⟩
  split at h
  · rename_i text htext
    simp only [demand_bind_ok, raiseIf_bind_ok, pure_ok, Prod.mk.injEq] at h
    obtain ⟨existing, hloads, hequal, rfl, rfl⟩ := h
    exact .inl ⟨text, htext, hloads, not_not.mp hequal, rfl⟩
  · rename_i hnone
    rw [pure_ok, Prod.mk.injEq] at h
    exact .inr ⟨hnone, h.1.symm, h.2.symm⟩

theorem persistStatement_stored (hstored : Stored env files)
    (h : persistStatement env statement files = .ok (kept, files')) : Stored env files' := by
  obtain ⟨hsigned, -, ⟨-, -, -, -, rfl⟩ | ⟨-, -, rfl⟩⟩ := persistStatement_cases h
  · exact hstored
  · intro ref text htext
    by_cases href : ref = textOf env statement "statement_ref"
    · rw [href, Function.update_self] at htext
      exact ⟨statement, hsigned, (Option.some.inj htext).symm⟩
    · rw [Function.update_of_ne href] at htext
      exact hstored ref text htext

theorem persistStatement_keeps {ref text : String} (hfile : files ref = some text)
    (h : persistStatement env statement files = .ok (kept, files')) : files' ref = some text := by
  obtain ⟨-, -, ⟨-, -, -, -, rfl⟩ | ⟨hnone, -, rfl⟩⟩ := persistStatement_cases h
  · exact hfile
  · have href : ref ≠ textOf env statement "statement_ref" := by
      rintro rfl
      rw [hfile] at hnone
      cases hnone
    rw [Function.update_of_ne href]
    exact hfile

theorem loadStatement_persisted (hstored : Stored env files)
    (h : persistStatement env statement files = .ok (kept, files')) :
    ∃ loaded, loadStatement env files' (textOf env statement "statement_ref") = .ok loaded ∧
      loaded.Same kept ∧ (kept = .obj statement ∨ kept.equal (.obj statement) = true) := by
  obtain ⟨hsigned, hsafe, ⟨text, htext, hloads, hequal, rfl⟩ | ⟨-, rfl, rfl⟩⟩ :=
    persistStatement_cases h
  · obtain ⟨stored, hstoredSigned, rfl⟩ := hstored _ _ htext
    rw [loads_fileText] at hloads
    rw [← Option.some.inj hloads] at hequal ⊢
    exact ⟨_, loadStatement_fileText hstoredSigned hsafe htext, rfl, .inr hequal⟩
  · refine ⟨_, loadStatement_fileText hsigned hsafe (Function.update_self ..), ?_, .inl rfl⟩
    exact Value.canonical_canonical (.obj statement)

/-- Where there is no file yet a statement with a digest and a safe reference is stored. -/
theorem persistStatement_fresh (hsigned : Signed env statement)
    (hsafe : isSafeRef (textOf env statement "statement_ref") = true)
    (hnone : files (textOf env statement "statement_ref") = none) :
    ∃ files', persistStatement env statement files = .ok (.obj statement, files') := by
  have hdigest : ¬ getOr statement "statement_sha256" .null ≠
      .str (statementSha256 env statement) := not_not.mpr hsigned
  rw [persistStatement, raiseIf_bind_of_neg hdigest]
  dsimp only
  rw [raiseIf_bind_of_neg (not_not.mpr hsafe), hnone]
  exact ⟨_, rfl⟩

variable (env) in
/-- The files after these statements were persisted, where a call that raises leaves them. -/
def persistAll (statements : List Record) : Files :=
  statements.foldl (fun files statement =>
    match persistStatement env statement files with
    | .ok (_, files') => files'
    | .error _ => files) fun _ => none

theorem foldl_stored (statements : List Record) (hstored : Stored env files) :
    Stored env (statements.foldl (fun files statement =>
      match persistStatement env statement files with
      | .ok (_, files') => files'
      | .error _ => files) files) := by
  induction statements generalizing files with
  | nil => exact hstored
  | cons statement statements ih =>
    rw [List.foldl_cons]
    apply ih
    split
    · rename_i kept files' hpersist
      exact persistStatement_stored hstored hpersist
    · exact hstored

theorem persistAll_stored (statements : List Record) : Stored env (persistAll env statements) :=
  foldl_stored statements fun _ _ hfile => by cases hfile

end Files

/-! ## Statements in files -/

section Kept

variable {env : Platform} {input : StatementInput} {now : Datetime} {s : Statement}

theorem nodup_fieldKeys (s : Statement) : ((s.fields env).map Prod.fst).Nodup := by
  have hkeys : (s.fields env).map Prod.fst =
      ["schema_version", "statement_ref", "statement_sha256", "issued_at", "client_id", "user_id",
        "billing_period", "commercial_contract", "plan", "balance", "additional_packages",
        "usage_line_items", "non_billable_activity", "reconciliation"] := rfl
  rw [hkeys]
  decide +kernel

theorem statementSha256_fields (s : Statement) (digest : String) :
    statementSha256 env ({ s with sha256 := digest }.fields env) =
      statementSha256 env (s.fields env) := by
  simp [statementSha256, Statement.fields]

theorem signed_fields (draft : Statement) : Signed env ((draft.signed env).fields env) := by
  have hdigest : Dict.get? "statement_sha256" ((draft.signed env).fields env) =
      some (.str (draft.signed env).sha256) :=
    Dict.get?_of_getElem? (nodup_fieldKeys _) 2 rfl
  rw [Signed, getOr, hdigest]
  exact congrArg Value.str (statementSha256_fields _ _).symm

theorem statementRef_fields (s : Statement) :
    textOf env (s.fields env) "statement_ref" = s.statementRef := by
  have href : Dict.get? "statement_ref" (s.fields env) = some (.str s.statementRef) :=
    Dict.get?_of_getElem? (nodup_fieldKeys _) 1 rfl
  rw [textOf, truthyOr, href]
  simp only [Value.truthy_str, decide_eq_true_eq]
  split
  · exact env.text_str _
  · rename_i hempty
    rw [not_not.mp hempty]
    exact env.text_str _

theorem exists_draft (h : buildBillingStatement env input now = .ok s) :
    ∃ draft : Statement, s = draft.signed env ∧ draft.period = input.period := by
  obtain ⟨bounds, items, ledger, -, -, h⟩ := buildBillingStatement_eq_ok.mp h
  unfold settle at h
  simp only [bind_ok, pure_ok] at h
  obtain ⟨-, -, base, -, rollover, -, topUp, -, packages, -, used, -, -, -, -, -, detailed, -,
    purchased, -, reversed, -, rfl⟩ := h
  exact ⟨_, rfl, rfl⟩

theorem dashed_safe (inRun : Bool) (cs : List Char) :
    ∀ c ∈ dashed inRun cs, isSafeChar c = true := by
  induction cs generalizing inRun with
  | nil => simp [dashed]
  | cons d cs ih =>
    intro c hc
    rw [dashed] at hc
    split at hc
    · rename_i hsafe
      rcases List.mem_cons.mp hc with rfl | hc
      · exact hsafe
      · exact ih false c hc
    · split at hc
      · exact ih true c hc
      · rcases List.mem_cons.mp hc with rfl | hc
        · decide
        · exact ih true c hc

theorem safeClient_safe (clientId : String) : ∀ c ∈ safeClient clientId, isSafeChar c = true := by
  intro c hc
  unfold safeClient at hc
  simp only at hc
  split at hc
  · have hclient : ∀ c ∈ "client".toList, isSafeChar c = true :=
      List.all_eq_true.mp (by decide +kernel)
    exact hclient c hc
  · have hmem := List.mem_reverse.mp hc
    have hmem := List.mem_reverse.mp ((List.dropWhile_sublist _).subset hmem)
    exact dashed_safe false _ c ((List.dropWhile_sublist _).subset hmem)

theorem isSafeRef_statementRefOf {clientId period digest : String}
    (hperiod : ∀ c ∈ period.toList, isSafeChar c = true)
    (hdigest : ∀ c ∈ digest.toList, isSafeChar c = true) :
    isSafeRef (statementRefOf clientId period digest) = true := by
  have hmus : ∀ c ∈ "MUS-".toList, isSafeChar c = true :=
    List.all_eq_true.mp (by decide +kernel)
  have hdash : ∀ c ∈ "-".toList, isSafeChar c = true :=
    List.all_eq_true.mp (by decide +kernel)
  have htext : (statementRefOf clientId period digest).toList =
      "MUS-".toList ++ period.toList ++ "-".toList ++ (safeClient clientId).take 24 ++ "-".toList ++
        digest.toList.take 12 := by
    simp [statementRefOf]
  rw [isSafeRef, Bool.and_eq_true, List.all_eq_true, htext]
  refine ⟨?_, ?_⟩
  · rw [decide_eq_true_eq]
    intro hempty
    rw [hempty] at htext
    simp at htext
  · intro c hc
    simp only [List.mem_append] at hc
    rcases hc with ((((hc | hc) | hc) | hc) | hc) | hc
    · exact hmus c hc
    · exact hperiod c hc
    · exact hdash c hc
    · exact safeClient_safe clientId c (List.mem_of_mem_take hc)
    · exact hdash c hc
    · exact hdigest c (List.mem_of_mem_take hc)

/-- A statement is stored under its reference once, and what is loaded is the statement. -/
structure Kept (env : Platform) (input : StatementInput) (s : Statement) (files : Files) :
    Prop where
  loaded : ∀ kept files', persistStatement env (s.fields env) files = .ok (kept, files') →
    ∃ loaded, loadStatement env files' s.statementRef = .ok loaded ∧ loaded.Same kept ∧
      (kept = .obj (s.fields env) ∨ kept.equal (.obj (s.fields env)) = true)
  stays : ∀ kept files', persistStatement env (s.fields env) files = .ok (kept, files') →
    ∀ ref text, files ref = some text → files' ref = some text
  fresh : (∀ c ∈ input.period.toList, isSafeChar c = true) →
    (∀ text, ∀ c ∈ (env.sha256 text).toList, isSafeChar c = true) →
    files s.statementRef = none →
    ∃ files', persistStatement env (s.fields env) files = .ok (.obj (s.fields env), files')

theorem kept_of_build (earlier : List Record) (h : buildBillingStatement env input now = .ok s) :
    Kept env input s (persistAll env earlier) := by
  obtain ⟨draft, rfl, hperiod⟩ := exists_draft h
  refine ⟨?_, ?_, ?_⟩
  · intro kept files' hpersist
    have hloaded := loadStatement_persisted (persistAll_stored earlier) hpersist
    rwa [statementRef_fields] at hloaded
  · intro kept files' hpersist ref text hfile
    exact persistStatement_keeps hfile hpersist
  · intro hsafe hdigest hnone
    apply persistStatement_fresh (signed_fields draft)
    · rw [statementRef_fields]
      refine isSafeRef_statementRefOf ?_ (hdigest _)
      rw [hperiod]
      exact hsafe
    · rw [statementRef_fields]
      exact hnone

end Kept

namespace Sample

/-- A cycle of ten thousand units with a package, and two requests of which one was rejected. -/
def input : StatementInput where
  clientId := "acme"
  userId := "acme"
  period := "2026-01"
  usageRecords :=
    [[("client_id", .str "acme"), ("endpoint", .str "/cgt/govern"),
      ("endpoint_class", .str "governance_evaluation"), ("units_charged", .int 1),
      ("quota_period", .str "2026-01"), ("status_code", .int 200)],
     [("client_id", .str "acme"), ("endpoint", .str "/cgt/govern"), ("units_charged", .int 5),
      ("quota_period", .str "2026-01"), ("status_code", .int 429),
      ("quota_rejected", .bool true)]]
  quotaCycle := some
    [("plan_code", .str "starter"), ("metric_code", .str "maestro_units"),
     ("base_limit_units", .int 10000), ("rollover_units", .int 0), ("top_up_units", .int 25000),
     ("used_units", .int 12)]
  grantedTopUps :=
    [.obj [("purchase_ref", .str "p"), ("grant_ref", .str "g"), ("bundle_units", .int 25000),
      ("bundle_count", .int 1), ("units_added", .int 25000), ("net_units_added", .int 25000)]]

theorem input_built :
    (buildBillingStatement platform input (Market.Sample.day 1 31)).toOption.isSome = true := by
  decide +kernel

end Sample

end MaestroKernel.Billing
