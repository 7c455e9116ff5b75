import Mathlib.Data.List.ReduceOption
import MaestroKernel.Readiness.TrackingStore

/-! # What the two codecs read of a saved file

The first codec reads back the cases that were saved, and the second one shows them. -/

namespace MaestroKernel.Readiness

open Checked JsonText Records
open JsonText.Dict (getOr)
open Market (strip strip_ne_empty strip_append_blanks strip_eq_self)

section Fields

variable {env : Platform} {record : List (String × Value)} {key s : String} {v : Value}

theorem getOr_readBack (hkeys : (record.map Prod.fst).Nodup) (i : ℕ)
    (h : record[i]? = some (key, v)) (default : Value) :
    getOr (Dict.readBack record) key default = v.canonical := by
  rw [getOr, Dict.get?_readBack, Dict.get?_of_getElem? hkeys i h]
  rfl

theorem getOr_readBack_of_not_mem (hkey : key ∉ record.map Prod.fst) (default : Value) :
    getOr (Dict.readBack record) key default = default := by
  have hnone : Dict.get? key record = none :=
    Dict.get?_eq_none.mpr fun item hitem heq => hkey (heq ▸ List.mem_map_of_mem hitem)
  rw [getOr, Dict.get?_readBack, hnone]
  rfl

theorem textAt_readBack (hkeys : (record.map Prod.fst).Nodup) (i : ℕ)
    (h : record[i]? = some (key, .str s)) (default : String) :
    textAt env (Dict.readBack record) key default = s := by
  rw [textAt, getOr_readBack hkeys i h]
  exact env.text_str s

theorem readBack_ne_nil (hkeys : (record.map Prod.fst).Nodup) (h : record[0]? = some (key, v)) :
    Dict.readBack record ≠ [] := by
  intro hnil
  have hget := Dict.get?_readBack key record
  rw [hnil, Dict.get?_of_getElem? hkeys 0 h] at hget
  cases hget

end Fields

/-! ## Records -/

section Records

variable {env : Platform}

theorem SafeEvidenceReference.make_self (r : SafeEvidenceReference env) :
    SafeEvidenceReference.make env r.toReferenceFields = .ok r :=
  construct_eq_ok.mpr ⟨r.checked, rfl⟩

theorem ReadinessItemStatus.make_eq_ok {i : ItemFields env} {item : ReadinessItemStatus env} :
    ReadinessItemStatus.make i = .ok item ↔ item.toItemFields = i :=
  construct_eq_ok_iff ItemFields.postInit ReadinessItemStatus.mk
    ReadinessItemStatus.toItemFields (fun _ _ => rfl) fun item => ⟨item.checked, rfl⟩

theorem ReadinessTimelineEvent.make_eq_ok {e : EventFields} {event : ReadinessTimelineEvent env} :
    ReadinessTimelineEvent.make env e = .ok event ↔ event.toEventFields = e :=
  construct_eq_ok_iff (EventFields.postInit env) ReadinessTimelineEvent.mk
    ReadinessTimelineEvent.toEventFields (fun _ _ => rfl) fun event => ⟨event.checked, rfl⟩

theorem IntegrationReadinessCase.make_eq_ok {c : CaseFields env}
    {made : IntegrationReadinessCase env} :
    IntegrationReadinessCase.make c = .ok made ↔ made.toCaseFields = c :=
  construct_eq_ok_iff CaseFields.postInit IntegrationReadinessCase.mk
    IntegrationReadinessCase.toCaseFields (fun _ _ => rfl) fun made => ⟨made.checked, rfl⟩

/-- The fields of an item that JSON keeps as they are. -/
def Plain (i : ItemFields env) : Prop :=
  i.verifiedBy.canonical = i.verifiedBy ∧ i.verifiedAt.canonical = i.verifiedAt

theorem nodup_referenceKeys (r : SafeEvidenceReference env) :
    (([("reference_type", .str r.referenceType), ("reference_label", .str r.referenceLabel)] :
      List (String × Value)).map Prod.fst).Nodup := by
  simp

theorem nodup_itemKeys (i : ReadinessItemStatus env) : ((itemToDict i).map Prod.fst).Nodup := by
  simp [itemToDict]

theorem nodup_eventKeys (e : ReadinessTimelineEvent env) :
    ((eventToDict e).map Prod.fst).Nodup := by
  simp [eventToDict]

theorem caseKeys (c : IntegrationReadinessCase env) : (readinessCaseToDict c).map Prod.fst =
    ["case_id", "client_id", "request_id", "adapter_contract_id", "credential_profile_id",
      "operational_profile_id", "status", "input_statuses", "security_control_statuses",
      "timeline", "assigned_supervisor", "sandbox_ready", "production_allowed",
      "runtime_connector_approved", "external_http_enabled", "raw_secret_visible", "created_at",
      "updated_at"] := rfl

theorem nodup_caseKeys (c : IntegrationReadinessCase env) :
    ((readinessCaseToDict c).map Prod.fst).Nodup := by
  rw [caseKeys]
  decide +kernel

/-! ## The first codec -/

theorem safeReferenceFromDict_saved (r : Option (SafeEvidenceReference env)) :
    safeReferenceFromDict env (referenceToDict r).canonical = .ok r := by
  cases r with
  | none => rfl
  | some r =>
    have hkeys := nodup_referenceKeys r
    have htruthy : (referenceToDict (some r)).canonical.truthy = true := by
      have hne := readBack_ne_nil hkeys rfl
      simpa [referenceToDict, Value.canonical, Value.truthy, Dict.readBack] using hne
    have htype := @textAt_readBack env _ _ _ hkeys 0 rfl ""
    have hlabel := @textAt_readBack env _ _ _ hkeys 1 rfl ""
    rw [safeReferenceFromDict, if_pos htruthy]
    change (SafeEvidenceReference.make env
      { referenceType := textAt env (Dict.readBack _) "reference_type"
        referenceLabel := textAt env (Dict.readBack _) "reference_label" } >>= fun reference =>
          pure (some reference)) = _
    rw [htype, hlabel, SafeEvidenceReference.make_self]
    rfl

theorem itemFromDict_saved {i : ReadinessItemStatus env} (h : Plain i.toItemFields) :
    itemFromDict env (Value.obj (itemToDict i)).canonical = .ok i := by
  have hkeys := nodup_itemKeys i
  change (safeReferenceFromDict env (getOr (Dict.readBack (itemToDict i)) "safe_reference" .null)
    >>= fun reference => ReadinessItemStatus.make
      { key := textAt env (Dict.readBack (itemToDict i)) "key"
        status := textAt env (Dict.readBack (itemToDict i)) "status" "missing"
        safeReference := reference
        verifiedBy := getOr (Dict.readBack (itemToDict i)) "verified_by" .null
        verifiedAt := getOr (Dict.readBack (itemToDict i)) "verified_at" .null
        note := textAt env (Dict.readBack (itemToDict i)) "note" }) = _
  rw [getOr_readBack hkeys 2 rfl, safeReferenceFromDict_saved, ok_bind,
    textAt_readBack hkeys 0 rfl, textAt_readBack hkeys 1 rfl, getOr_readBack hkeys 3 rfl,
    getOr_readBack hkeys 4 rfl, textAt_readBack hkeys 5 rfl, h.1, h.2]
  exact ReadinessItemStatus.make_eq_ok.mpr rfl

theorem timelineEventFromDict_saved (e : ReadinessTimelineEvent env) :
    timelineEventFromDict env (Value.obj (eventToDict e)).canonical = .ok e := by
  have hkeys := nodup_eventKeys e
  change ReadinessTimelineEvent.make env
    { eventType := textAt env (Dict.readBack (eventToDict e)) "event_type"
      actor := textAt env (Dict.readBack (eventToDict e)) "actor"
      safeSummary := textAt env (Dict.readBack (eventToDict e)) "safe_summary"
      createdAt := textAt env (Dict.readBack (eventToDict e)) "created_at" } = _
  rw [textAt_readBack hkeys 0 rfl, textAt_readBack hkeys 1 rfl, textAt_readBack hkeys 2 rfl,
    textAt_readBack hkeys 3 rfl]
  exact ReadinessTimelineEvent.make_eq_ok.mpr rfl

theorem readList_saved {α : Type} {read : Value → Except TrackingError α} {write : α → Value}
    {record : List (String × Value)} {key : String} {xs : List α}
    (hkeys : (record.map Prod.fst).Nodup) (i : ℕ) (h : record[i]? = some (key, .arr (xs.map write)))
    (hread : ∀ x ∈ xs, read (write x).canonical = .ok x) :
    readList read (Dict.readBack record) key = .ok xs := by
  rw [readList, getOr_readBack hkeys i h, Value.canonical, Value.canonicalList_eq, List.map_map]
  change (xs.map (Value.canonical ∘ write)).mapM read = _
  have hmap : xs.mapM (read ∘ Value.canonical ∘ write) = .ok (xs.map id) := mapM_ok hread
  rw [List.mapM_map, hmap, List.map_id]

/-- The items of a case are kept as they are. -/
def PlainCase (c : IntegrationReadinessCase env) : Prop :=
  ∀ i ∈ c.inputStatuses ++ c.securityControlStatuses, Plain i.toItemFields

theorem IntegrationReadinessCase.flags (c : IntegrationReadinessCase env) :
    c.productionAllowed = false ∧ c.runtimeConnectorApproved = false ∧
      c.externalHttpEnabled = false ∧ c.rawSecretVisible = false := by
  have hchecked := c.checked
  simp only [CaseFields.postInit, bind_ok, raiseIf_eq_ok] at hchecked
  obtain ⟨-, -, -, -, -, -, -, -, -, -, -, hproduction, -, hconnector, -, hhttp, hsecret⟩ := hchecked
  exact ⟨by simpa using hproduction, by simpa using hconnector, by simpa using hhttp,
    by simpa using hsecret⟩

theorem CaseFields.eq_of_flags {f : CaseFields env} (hproduction : f.productionAllowed = false)
    (hconnector : f.runtimeConnectorApproved = false) (hhttp : f.externalHttpEnabled = false)
    (hsecret : f.rawSecretVisible = false) :
    { f with
      productionAllowed := false
      runtimeConnectorApproved := false
      externalHttpEnabled := false
      rawSecretVisible := false } = f := by
  cases f
  subst hproduction hconnector hhttp hsecret
  rfl

theorem caseFieldsFromDict_saved (c : IntegrationReadinessCase env) :
    caseFieldsFromDict env (Dict.readBack (readinessCaseToDict c)) c.inputStatuses
      c.securityControlStatuses c.timeline = c.toCaseFields := by
  have hkeys := nodup_caseKeys c
  obtain ⟨hproduction, hconnector, hhttp, hsecret⟩ := c.flags
  rw [caseFieldsFromDict, textAt_readBack hkeys 0 rfl, textAt_readBack hkeys 1 rfl,
    textAt_readBack hkeys 2 rfl, textAt_readBack hkeys 3 rfl, textAt_readBack hkeys 4 rfl,
    textAt_readBack hkeys 5 rfl, textAt_readBack hkeys 6 rfl, textAt_readBack hkeys 10 rfl,
    getOr_readBack hkeys 11 rfl, getOr_readBack hkeys 12 rfl, getOr_readBack hkeys 13 rfl,
    getOr_readBack hkeys 14 rfl, getOr_readBack hkeys 15 rfl, textAt_readBack hkeys 16 rfl,
    textAt_readBack hkeys 17 rfl]
  exact CaseFields.eq_of_flags hproduction hconnector hhttp hsecret

theorem readinessCaseFromDict_saved {c : IntegrationReadinessCase env} (h : PlainCase c) :
    readinessCaseFromDict env (Value.obj (readinessCaseToDict c)).canonical = .ok c := by
  have hkeys := nodup_caseKeys c
  have hrecord : asDict (Value.obj (readinessCaseToDict c)).canonical =
      .ok (Dict.readBack (readinessCaseToDict c)) := rfl
  have hinputs : readList (itemFromDict env) (Dict.readBack (readinessCaseToDict c))
      "input_statuses" = .ok c.inputStatuses :=
    readList_saved hkeys 7 rfl fun i hi => itemFromDict_saved (h i (List.mem_append_left _ hi))
  have hcontrols : readList (itemFromDict env) (Dict.readBack (readinessCaseToDict c))
      "security_control_statuses" = .ok c.securityControlStatuses :=
    readList_saved hkeys 8 rfl fun i hi => itemFromDict_saved (h i (List.mem_append_right _ hi))
  have htimeline : readList (timelineEventFromDict env) (Dict.readBack (readinessCaseToDict c))
      "timeline" = .ok c.timeline :=
    readList_saved hkeys 9 rfl fun e _ => timelineEventFromDict_saved e
  rw [readinessCaseFromDict, hrecord, ok_bind, hinputs, ok_bind, hcontrols, ok_bind, htimeline,
    ok_bind, caseFieldsFromDict_saved]
  exact IntegrationReadinessCase.make_eq_ok.mpr rfl

/-! ## Files -/

section Files

variable (env) in
def savedValue (cases : List (IntegrationReadinessCase env)) : List (String × Value) :=
  [("schema_version", .str "integration_readiness_tracking_11p"),
   ("cases", .arr (cases.map fun c => .obj (readinessCaseToDict c)))]

variable (cases : List (IntegrationReadinessCase env))

theorem strip_savedText : strip (savedText env cases) = String.ofList
    (writeIn indented env.floats 0 (Value.obj (savedValue env cases)).canonical) := by
  obtain ⟨⟨rest, hbegin⟩, front, hend⟩ := writeIn_obj_ends indented env.floats 0
    (Dict.readBack (savedValue env cases))
  exact strip_append_blanks hbegin (by decide) hend (by decide)
    (List.all_eq_true.mp (by decide : ['\n'].all Durable.pyIsSpace = true))

theorem savedText_not_blank : strip (savedText env cases) ≠ "" := by
  obtain ⟨⟨rest, hbegin⟩, -⟩ := writeIn_obj_ends indented env.floats 0
    (Dict.readBack (savedValue env cases))
  have htext : (savedText env cases).toList = '\x7b' :: (rest ++ ['\n']) := by
    rw [savedText, String.toList_ofList]
    exact congrArg (· ++ ['\n']) hbegin
  exact strip_ne_empty htext (by decide)

theorem cases_savedValue (default : Value) :
    getOr (Dict.readBack (savedValue env cases)) "cases" default =
      .arr (cases.map fun c => (Value.obj (readinessCaseToDict c)).canonical) := by
  have hkeys : ((savedValue env cases).map Prod.fst).Nodup := by simp [savedValue]
  rw [getOr_readBack hkeys 1 rfl, Value.canonical, Value.canonicalList_eq, List.map_map]
  rfl

theorem loadReadinessCases_saved (h : ∀ c ∈ cases, PlainCase c) :
    loadReadinessCases env (some (savedText env cases)) = .ok cases := by
  have hblank : Blank ['\n'] := by simp [Blank, isSpace]
  have hloads : loads env.floats (savedText env cases) =
      some (.obj (Dict.readBack (savedValue env cases))) :=
    loads_written indented env.floats (Value.obj (savedValue env cases)).canonical hblank
  have hread : (cases.map fun c => (Value.obj (readinessCaseToDict c)).canonical).mapM
      (readinessCaseFromDict env) = .ok cases := by
    have hmap := mapM_ok (g := id) (f := fun c : IntegrationReadinessCase env =>
      readinessCaseFromDict env (Value.obj (readinessCaseToDict c)).canonical)
      fun c hc => readinessCaseFromDict_saved (h c hc)
    rw [List.map_id] at hmap
    rw [List.mapM_map]
    exact hmap
  rw [loadReadinessCases, if_neg (savedText_not_blank cases), hloads, demand_some_bind]
  dsimp only
  rw [cases_savedValue, elementsOf, ok_bind, hread]

theorem loadNormalizedCases_saved : loadNormalizedCases env (some (savedText env cases)) =
    cases.map fun c => normalizeCase env (Value.obj (readinessCaseToDict c)).canonical := by
  have hloads : loads env.floats (strip (savedText env cases)) =
      some (.obj (Dict.readBack (savedValue env cases))) := by
    rw [strip_savedText]
    exact loads_dumpsIn indented env.floats (Value.obj (savedValue env cases)).canonical
  rw [loadNormalizedCases, readTrackingPayload, if_neg (savedText_not_blank cases), hloads,
    Option.getD_some, casesFromPayload, cases_savedValue]
  dsimp only
  rw [List.map_map]
  rfl

end Files

/-! ## The second codec -/

section Normalized

theorem orElse_null (w : Value) : orElse .null w = w := rfl

theorem orElse_str {s : String} (h : s ≠ "") (w : Value) : orElse (.str s) w = .str s :=
  if_pos (decide_eq_true h)

theorem ne_empty_of_requireText {s message : String} (h : requireText s message = .ok ()) :
    s ≠ "" := by
  rintro rfl
  rw [requireText, raiseIf_eq_ok] at h
  exact h (by decide)

theorem ReadinessItemStatus.key_ne_empty (i : ReadinessItemStatus env) : i.key ≠ "" := by
  have hchecked := i.checked
  simp only [ItemFields.postInit, bind_ok] at hchecked
  obtain ⟨⟨⟩, hkey, -⟩ := hchecked
  exact ne_empty_of_requireText hkey

theorem ReadinessItemStatus.status_mem (i : ReadinessItemStatus env) :
    i.status ∈ ALLOWED_ITEM_STATUSES := by
  have hchecked := i.checked
  simp only [ItemFields.postInit, bind_ok, assertKnownStatus, raiseIf_eq_ok] at hchecked
  obtain ⟨-, -, -, hstatus, -⟩ := hchecked
  exact not_not.mp hstatus

theorem IntegrationReadinessCase.caseId_ne_empty (c : IntegrationReadinessCase env) :
    c.caseId ≠ "" := by
  have hchecked := c.checked
  simp only [CaseFields.postInit, requireField, bind_ok] at hchecked
  obtain ⟨-, ⟨⟨⟩, hcaseId, -⟩, -⟩ := hchecked
  exact ne_empty_of_requireText hcaseId

variable (env) in
theorem status_kept {status : String} (h : status ∈ ALLOWED_ITEM_STATUSES) :
    env.lower (strip status) = status ∧ status ≠ "" ∧ status ∈ ALLOWED_ITEM_STATUSES_12A := by
  have hall : ∀ s ∈ ALLOWED_ITEM_STATUSES, s.toList.all (fun c => c.isLower || c = '_') = true ∧
      s.toList.all (!Durable.pyIsSpace ·) = true ∧ s ≠ "" ∧ s ∈ ALLOWED_ITEM_STATUSES_12A := by
    decide +kernel
  obtain ⟨hsmall, hblank, hne, hmem⟩ := hall status h
  rw [strip_eq_self fun c hc => (Bool.not_eq_true' _).mp (List.all_eq_true.mp hblank c hc)]
  exact ⟨env.lower_small status hsmall, hne, hmem⟩

variable (env) in
/-- The second codec keeps the text as it is. -/
def KeptText (s : String) (maxLen : ℕ) : Prop := sanitizeText env (.str s) maxLen = s

instance (s : String) (maxLen : ℕ) : Decidable (KeptText env s maxLen) :=
  inferInstanceAs (Decidable (_ = _))

theorem normalizeItem_saved {i : ReadinessItemStatus env} (h : KeptText env i.key 120) (index : ℕ)
    (group : String) :
    (normalizeItem env (Value.obj (itemToDict i)).canonical index group).itemKey = i.key ∧
      (normalizeItem env (Value.obj (itemToDict i)).canonical index group).status = i.status := by
  have hkeys := nodup_itemKeys i
  have hitemKey : at? (Dict.readBack (itemToDict i)) "item_key" = .null :=
    getOr_readBack_of_not_mem (by simp [itemToDict]) .null
  have hkey : at? (Dict.readBack (itemToDict i)) "key" = .str i.key :=
    getOr_readBack hkeys 0 rfl .null
  have hstatus : at? (Dict.readBack (itemToDict i)) "status" = .str i.status :=
    getOr_readBack hkeys 1 rfl .null
  obtain ⟨hkept, hne, hmem⟩ := status_kept env i.status_mem
  have hfound : sanitizeText env (.str i.key) 120 = i.key := h
  have hvalue : (Value.obj (itemToDict i)).canonical = .obj (Dict.readBack (itemToDict i)) := rfl
  constructor
  · rw [hvalue, normalizeItem]
    dsimp only
    rw [hitemKey, hkey, orElse_null, orElse_str i.key_ne_empty, hfound, if_neg i.key_ne_empty]
  · rw [hvalue, normalizeItem]
    dsimp only
    rw [hstatus, orElse_str hne, env.text_str, hkept, if_pos hmem]

theorem mapIdx_map {α β γ : Type} (f : ℕ → β → γ) (g : α → β) (xs : List α) :
    (xs.map g).mapIdx f = xs.mapIdx fun index x => f index (g x) := by
  apply List.ext_getElem
  · simp
  · simp

theorem map_mapIdx {α β γ : Type} (g : β → γ) (f : ℕ → α → β) (xs : List α) :
    (xs.mapIdx f).map g = xs.mapIdx fun index x => g (f index x) := by
  apply List.ext_getElem
  · simp
  · simp

theorem map_mapIdx_eq {α β γ : Type} {f : ℕ → α → β} {read : β → γ} {read' : α → γ} {xs : List α}
    (h : ∀ index, ∀ x ∈ xs, read (f index x) = read' x) :
    (xs.mapIdx f).map read = xs.map read' := by
  apply List.ext_getElem
  · simp
  · intro index hleft hright
    simp only [List.getElem_map, List.getElem_mapIdx]
    exact h index _ (List.getElem_mem _)

/-- The second codec shows the items under their keys, or the default ones where there are none. -/
theorem normalizeItems_saved {items : List (ReadinessItemStatus env)}
    (h : ∀ i ∈ items, KeptText env i.key 120) (hne : items ≠ []) (others : Value)
    (defaults : List Value) (group : String) :
    (normalizeItems env
      (orElse (Value.arr (items.map fun i => .obj (itemToDict i))).canonical others) defaults
        group).map (fun i => (i.itemKey, i.status)) = items.map fun i => (i.key, i.status) := by
  have hvalue : (Value.arr (items.map fun i => .obj (itemToDict i))).canonical =
      .arr (items.map fun i => (Value.obj (itemToDict i)).canonical) := by
    rw [Value.canonical, Value.canonicalList_eq, List.map_map]
    rfl
  have htruthy : (Value.arr (items.map fun i => (Value.obj (itemToDict i)).canonical)).truthy =
      true := by
    simpa [Value.truthy] using hne
  have hsource : itemSource (.arr (items.map fun i => (Value.obj (itemToDict i)).canonical))
      defaults = items.map fun i => (Value.obj (itemToDict i)).canonical := by
    rw [itemSource]
    exact if_neg (by simpa using hne)
  rw [hvalue, orElse, if_pos htruthy, normalizeItems, hsource, mapIdx_map, map_mapIdx_eq]
  intro index i hi
  obtain ⟨hkey, hstatus⟩ := normalizeItem_saved (h i hi) index group
  exact Prod.ext hkey hstatus

/-- The time that the second codec shows. -/
def shownAt (env : Platform) (createdAt : String) : String := sanitizeText env (.str createdAt) 80

theorem normalizeTimelineEvent_saved (e : ReadinessTimelineEvent env) (index : ℕ) :
    (normalizeTimelineEvent env (Dict.readBack (eventToDict e)) index).at' =
      shownAt env e.createdAt := by
  have hat : at? (Dict.readBack (eventToDict e)) "at" = .null :=
    getOr_readBack_of_not_mem (by simp [eventToDict]) .null
  have hcreated : at? (Dict.readBack (eventToDict e)) "created_at" = .str e.createdAt :=
    getOr_readBack (nodup_eventKeys e) 3 rfl .null
  rw [normalizeTimelineEvent, hat, hcreated, orElse_null]
  rfl

theorem normalizeTimeline_saved (timeline : List (ReadinessTimelineEvent env)) :
    (normalizeTimeline env (orElse (Value.arr (timeline.map fun e => .obj (eventToDict e))).canonical
      (.arr []))).map (fun e => e.at') = timeline.map fun e => shownAt env e.createdAt := by
  have hvalue : orElse (Value.arr (timeline.map fun e => .obj (eventToDict e))).canonical (.arr []) =
      .arr (timeline.map fun e => .obj (Dict.readBack (eventToDict e))) := by
    rw [Value.canonical, Value.canonicalList_eq, List.map_map]
    cases timeline with
    | nil => rfl
    | cons e timeline => rfl
  have hsome : ∀ {α : Type} (xs : List α), (xs.map some).reduceOption = xs := by
    intro α xs
    rw [List.reduceOption, List.filterMap_map]
    exact List.filterMap_some
  have hevents : normalizeTimeline env
      (.arr (timeline.map fun e => .obj (Dict.readBack (eventToDict e)))) =
        timeline.mapIdx fun index e =>
          normalizeTimelineEvent env (Dict.readBack (eventToDict e)) index := by
    have hall := hsome (timeline.mapIdx fun index e =>
      normalizeTimelineEvent env (Dict.readBack (eventToDict e)) index)
    rw [map_mapIdx] at hall
    rw [normalizeTimeline, mapIdx_map]
    exact hall
  rw [hvalue, hevents, map_mapIdx_eq]
  intro index e he
  exact normalizeTimelineEvent_saved e index

/-- What the second codec makes of a record of the first. -/
structure ShownAs (c : IntegrationReadinessCase env) (shown : Case12a) : Prop where
  caseId : shown.caseId = c.caseId
  inputs : c.inputStatuses ≠ [] → shown.inputStatuses.map (fun i => (i.itemKey, i.status)) =
    c.inputStatuses.map fun i => (i.key, i.status)
  controls : c.securityControlStatuses ≠ [] →
    shown.securityControlStatuses.map (fun i => (i.itemKey, i.status)) =
      c.securityControlStatuses.map fun i => (i.key, i.status)
  timeline : shown.timeline.map (fun e => e.at') =
    c.timeline.map fun e => shownAt env e.createdAt

/-- The second codec keeps the id of the case and the keys of its items. -/
def KeptCase (c : IntegrationReadinessCase env) : Prop :=
  KeptText env c.caseId 220 ∧
    ∀ i ∈ c.inputStatuses ++ c.securityControlStatuses, KeptText env i.key 120

theorem normalizeCase_saved {c : IntegrationReadinessCase env} (h : KeptCase c) :
    ShownAs c (normalizeCase env (Value.obj (readinessCaseToDict c)).canonical) := by
  have hkeys := nodup_caseKeys c
  have hvalue : (Value.obj (readinessCaseToDict c)).canonical =
      .obj (Dict.readBack (readinessCaseToDict c)) := rfl
  have hcaseId : at? (Dict.readBack (readinessCaseToDict c)) "case_id" = .str c.caseId :=
    getOr_readBack hkeys 0 rfl .null
  have hinputs : at? (Dict.readBack (readinessCaseToDict c)) "input_statuses" =
      (Value.arr (c.inputStatuses.map fun i => .obj (itemToDict i))).canonical :=
    getOr_readBack hkeys 7 rfl .null
  have hcontrols : at? (Dict.readBack (readinessCaseToDict c)) "security_control_statuses" =
      (Value.arr (c.securityControlStatuses.map fun i => .obj (itemToDict i))).canonical :=
    getOr_readBack hkeys 8 rfl .null
  have htimeline : at? (Dict.readBack (readinessCaseToDict c)) "timeline" =
      (Value.arr (c.timeline.map fun e => .obj (eventToDict e))).canonical :=
    getOr_readBack hkeys 9 rfl .null
  have hevents : at? (Dict.readBack (readinessCaseToDict c)) "timeline_events" = .null :=
    getOr_readBack_of_not_mem (by rw [caseKeys]; decide +kernel) .null
  have hkept : sanitizeText env (.str c.caseId) 220 = c.caseId := h.1
  rw [hvalue, normalizeCase]
  refine ⟨?_, fun hne => ?_, fun hne => ?_, ?_⟩
  · dsimp only
    rw [caseId12a, hcaseId, hkept, if_pos c.caseId_ne_empty]
  · dsimp only
    rw [hinputs]
    exact normalizeItems_saved (fun i hi => h.2 i (List.mem_append_left _ hi)) hne _ _ _
  · dsimp only
    rw [hcontrols]
    exact normalizeItems_saved (fun i hi => h.2 i (List.mem_append_right _ hi)) hne _ _ _
  · dsimp only
    rw [htimeline, hevents, orElse_null]
    exact normalizeTimeline_saved c.timeline

end Normalized

end Records

end MaestroKernel.Readiness
