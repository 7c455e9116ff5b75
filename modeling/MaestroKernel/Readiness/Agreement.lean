import Mathlib
import MaestroKernel.Readiness.Board

/-! # Agreement of the two interfaces

Careful calls keep a file that both interfaces read. A call that the second interface accepts leaves
one that the first does not load. -/

namespace MaestroKernel.Readiness

open Checked JsonText Records
open JsonText.Dict (getOr)

/-! ## Cases -/

section Cases

variable {env : Platform} {cases : List (IntegrationReadinessCase env)}
  {c new : IntegrationReadinessCase env}

theorem replaceCase_eq : replaceCase env cases new =
    if new.caseId ∈ cases.map (fun c => c.caseId) then
      cases.map fun c => if c.caseId = new.caseId then new else c
    else cases ++ [new] := by
  have hany : (cases.any fun c => decide (c.caseId = new.caseId)) = true ↔
      new.caseId ∈ cases.map fun c => c.caseId := by
    simp only [List.any_eq_true, decide_eq_true_eq, List.mem_map]
  rw [replaceCase]
  exact if_congr hany rfl rfl

theorem mem_replaceCase :
    c ∈ replaceCase env cases new ↔ c = new ∨ c ∈ cases ∧ c.caseId ≠ new.caseId := by
  rw [replaceCase_eq]
  split
  · rename_i hmem
    obtain ⟨old, hold, hid⟩ := List.mem_map.mp hmem
    constructor
    · intro hc
      obtain ⟨c', hc', rfl⟩ := List.mem_map.mp hc
      by_cases heq : c'.caseId = new.caseId
      · exact .inl (if_pos heq)
      · rw [if_neg heq]
        exact .inr ⟨hc', heq⟩
    · rintro (rfl | ⟨hc, hne⟩)
      · exact List.mem_map.mpr ⟨old, hold, if_pos hid⟩
      · exact List.mem_map.mpr ⟨c, hc, if_neg hne⟩
  · rename_i hmem
    rw [List.mem_append, List.mem_singleton]
    constructor
    · rintro (hc | rfl)
      · exact .inr ⟨hc, fun heq => hmem (List.mem_map.mpr ⟨c, hc, heq⟩)⟩
      · exact .inl rfl
    · rintro (rfl | ⟨hc, -⟩)
      · exact .inr rfl
      · exact .inl hc

theorem caseIds_replaceCase : (replaceCase env cases new).map (fun c => c.caseId) =
    if new.caseId ∈ cases.map (fun c => c.caseId) then cases.map fun c => c.caseId
    else cases.map (fun c => c.caseId) ++ [new.caseId] := by
  rw [replaceCase_eq]
  split
  · rw [List.map_map]
    apply List.map_congr_left
    intro c _
    rw [Function.comp_apply]
    split
    · rename_i heq
      exact heq.symm
    · rfl
  · rw [List.map_append, List.map_singleton]

theorem nodup_replaceCase (h : (cases.map fun c => c.caseId).Nodup) :
    ((replaceCase env cases new).map fun c => c.caseId).Nodup := by
  rw [caseIds_replaceCase]
  split
  · exact h
  · rename_i hmem
    exact List.nodup_append.mpr ⟨h, List.nodup_singleton _, by
      intro id hid id' hid' heq
      rw [List.mem_singleton.mp hid'] at heq
      exact hmem (heq ▸ hid)⟩

theorem filter_replaceCase : (replaceCase env cases new).filter (fun c => c.caseId ≠ new.caseId) =
    cases.filter fun c => c.caseId ≠ new.caseId := by
  rw [replaceCase_eq]
  split
  · rw [List.filter_map, List.filter_congr (q := fun c => c.caseId ≠ new.caseId)]
    · conv_rhs => rw [← List.map_id (cases.filter fun c => c.caseId ≠ new.caseId)]
      apply List.map_congr_left
      intro c hc
      have hne := of_decide_eq_true (List.mem_filter.mp hc).2
      exact if_neg hne
    · intro c _
      rw [Function.comp_apply]
      split
      · rename_i heq
        simp [heq]
      · rfl
  · simp

end Cases

/-! ## Items -/

section Items

variable {env : Platform} {items items' : List (ReadinessItemStatus env)} {u : ItemUpdate env}
  {given : String → Option String} {now : String}

theorem mem_updateItems (h : updateItems items u now = .ok items') :
    ∃ new : ReadinessItemStatus env, new.toItemFields = u.item now ∧
      ∀ i, i ∈ items' ↔ i = new ∨ i ∈ items ∧ i.key ≠ u.itemKey := by
  have hany : (items.any fun i => decide (i.key = u.itemKey)) = true ↔
      ∃ i ∈ items, i.key = u.itemKey := by
    simp only [List.any_eq_true, decide_eq_true_eq]
  simp only [updateItems, bind_ok] at h
  obtain ⟨-, -, updated, hupdated, h⟩ := h
  rcases mapM_replace hupdated with ⟨hnone, rfl⟩ | ⟨new, hnew, rfl⟩
  · have habsent : ¬ (updated.any fun i => decide (i.key = u.itemKey)) = true := by
      rintro hsome
      obtain ⟨i, hi, hkey⟩ := hany.mp hsome
      exact hnone i hi hkey
    rw [if_neg habsent, bind_ok] at h
    obtain ⟨new, hnew, h⟩ := h
    obtain rfl := pure_ok.mp h
    refine ⟨new, ReadinessItemStatus.make_eq_ok.mp hnew, fun i => ?_⟩
    rw [List.mem_append, List.mem_singleton, or_comm]
    exact or_congr_right ⟨fun hi => ⟨hi, hnone i hi⟩, And.left⟩
  · refine ⟨new, ReadinessItemStatus.make_eq_ok.mp hnew, fun i => ?_⟩
    have hmap : i ∈ items.map (fun i => if i.key = u.itemKey then new else i) ↔
        (∃ i ∈ items, i.key = u.itemKey) ∧ i = new ∨ i ∈ items ∧ i.key ≠ u.itemKey := by
      rw [List.mem_map]
      constructor
      · rintro ⟨j, hj, rfl⟩
        by_cases hkey : j.key = u.itemKey
        · exact .inl ⟨⟨j, hj, hkey⟩, if_pos hkey⟩
        · rw [if_neg hkey]
          exact .inr ⟨hj, hkey⟩
      · rintro (⟨⟨j, hj, hkey⟩, rfl⟩ | ⟨hi, hkey⟩)
        · exact ⟨j, hj, if_pos hkey⟩
        · exact ⟨i, hi, if_neg hkey⟩
    split at h
    · rename_i hsome
      obtain rfl := pure_ok.mp h
      rw [hmap, and_iff_right (hany.mp hsome)]
    · rename_i habsent
      rw [hnew, ok_bind] at h
      obtain rfl := pure_ok.mp h
      rw [List.mem_append, List.mem_singleton, hmap]
      constructor
      · rintro ((⟨-, hi⟩ | hi) | hi)
        · exact .inl hi
        · exact .inr hi
        · exact .inl hi
      · rintro (hi | hi)
        · exact .inr hi
        · exact .inl (.inr hi)

theorem tracks_updateItems (h : updateItems items u now = .ok items')
    (htracks : Tracks (items.map fun i => (i.key, i.status)) given) :
    Tracks (items'.map fun i => (i.key, i.status))
      (Function.update given u.itemKey (some u.status)) := by
  obtain ⟨new, hnew, hmem⟩ := mem_updateItems h
  have hkey : new.key = u.itemKey := congrArg ItemFields.key hnew
  have hstatus : new.status = u.status := congrArg ItemFields.status hnew
  intro key status
  by_cases heq : key = u.itemKey
  · rw [heq, Function.update_self, Option.some.injEq, List.mem_map]
    constructor
    · rintro ⟨i, hi, hpair⟩
      obtain ⟨hikey, rfl⟩ := Prod.mk.inj hpair
      rcases (hmem i).mp hi with rfl | ⟨-, hne⟩
      · exact hstatus.symm
      · exact absurd hikey hne
    · rintro rfl
      exact ⟨new, (hmem new).mpr (.inl rfl), Prod.ext hkey hstatus⟩
  · rw [Function.update_of_ne heq, ← htracks key status, List.mem_map, List.mem_map]
    constructor
    · rintro ⟨i, hi, hpair⟩
      rcases (hmem i).mp hi with rfl | ⟨hold, -⟩
      · exact absurd ((Prod.mk.inj hpair).1.symm.trans hkey) heq
      · exact ⟨i, hold, hpair⟩
    · rintro ⟨i, hi, hpair⟩
      refine ⟨i, (hmem i).mpr (.inr ⟨hi, ?_⟩), hpair⟩
      rw [(Prod.mk.inj hpair).1]
      exact heq

theorem forall_updateItems {P : ItemFields env → Prop} (h : updateItems items u now = .ok items')
    (hnew : P (u.item now)) (hitems : ∀ i ∈ items, P i.toItemFields) :
    ∀ i ∈ items', P i.toItemFields := by
  obtain ⟨new, hfields, hmem⟩ := mem_updateItems h
  intro i hi
  rcases (hmem i).mp hi with rfl | ⟨hold, -⟩
  · rw [hfields]
    exact hnew
  · exact hitems i hold

theorem plain_item (u : ItemUpdate env) (now : String) : Plain (u.item now) := by
  constructor
  · rw [ItemUpdate.item]
    dsimp only
    split
    · rfl
    · rfl
  · rw [ItemUpdate.item]
    dsimp only
    split
    · rfl
    · rfl

theorem items_of_keys {keys : List String}
    (h : (keys.mapM fun key => ReadinessItemStatus.make { key := key }) = .ok items) :
    items.map (fun i => i.toItemFields) =
      keys.map fun key => ({ key := key } : ItemFields env) :=
  map_of_mapM (fun _ _ hmake => ReadinessItemStatus.make_eq_ok.mp hmake) h

theorem forall_items_of_keys {P : ItemFields env → Prop} {keys : List String}
    (h : (keys.mapM fun key => ReadinessItemStatus.make { key := key }) = .ok items)
    (hkeys : ∀ key ∈ keys, P { key := key }) : ∀ i ∈ items, P i.toItemFields := by
  intro i hi
  have hmem := List.mem_map_of_mem (f := fun i : ReadinessItemStatus env => i.toItemFields) hi
  rw [items_of_keys h] at hmem
  obtain ⟨key, hkey, hfields⟩ := List.mem_map.mp hmem
  rw [← hfields]
  exact hkeys key hkey

theorem tracks_of_keys {keys : List String}
    (h : (keys.mapM fun key => ReadinessItemStatus.make { key := key }) = .ok items) :
    Tracks (items.map fun i => (i.key, i.status))
      fun key => if key ∈ keys then some "missing" else none := by
  have hpairs : items.map (fun i => (i.key, i.status)) = keys.map fun key => (key, "missing") := by
    have hread := congrArg (List.map fun f : ItemFields env => (f.key, f.status)) (items_of_keys h)
    rw [List.map_map, List.map_map] at hread
    exact hread
  intro key status
  rw [hpairs, List.mem_map]
  constructor
  · rintro ⟨key', hkey, hpair⟩
    obtain ⟨rfl, rfl⟩ := Prod.mk.inj hpair
    exact if_pos hkey
  · intro hsome
    dsimp only at hsome
    split at hsome
    · rename_i hkey
      exact ⟨key, hkey, Prod.ext rfl (Option.some.inj hsome)⟩
    · cases hsome

end Items

/-! ## What a careful run keeps -/

section Held

variable {env : Platform} {s : State} {cases : List (IntegrationReadinessCase env)}

/-- The file holds these cases, and they are the ones that the calls have said. -/
structure Held (env : Platform) (s : State) (cases : List (IntegrationReadinessCase env)) :
    Prop where
  file : s.file = none ∧ cases = [] ∨ s.file = some (savedText env cases)
  ids : (cases.map fun c => c.caseId).Nodup
  plain : ∀ c ∈ cases, PlainCase c
  kept : ∀ c ∈ cases, KeptCase c
  said : ∀ c ∈ cases, ∃ v, s.board c.caseId = some v ∧ ShowsCase env v c
  shown : ∀ id v, s.board id = some v → ∃ c ∈ cases, c.caseId = id

theorem Held.start : Held env start [] where
  file := .inl ⟨rfl, rfl⟩
  ids := List.nodup_nil
  plain := List.forall_mem_nil _
  kept := List.forall_mem_nil _
  said := List.forall_mem_nil _
  shown _ _ h := by cases h

theorem Held.loads (h : Held env s cases) : loadReadinessCases env s.file = .ok cases := by
  rcases h.file with ⟨hnone, rfl⟩ | hsome
  · rw [hnone]
    rfl
  · rw [hsome]
    exact loadReadinessCases_saved cases h.plain

/-- What the second codec makes of a case of the first. -/
def shownAs (c : IntegrationReadinessCase env) : Case12a :=
  normalizeCase env (Value.obj (readinessCaseToDict c)).canonical

theorem Held.loads12a (h : Held env s cases) :
    loadNormalizedCases env s.file = cases.map shownAs := by
  rcases h.file with ⟨hnone, rfl⟩ | hsome
  · rw [hnone]
    rfl
  · rw [hsome]
    exact loadNormalizedCases_saved cases

theorem Held.shownAs_caseId (h : Held env s cases) :
    ∀ c ∈ cases, (shownAs c).caseId = c.caseId := fun c hc =>
  (normalizeCase_saved (h.kept c hc)).caseId

theorem shows_of_tracks {items shown : List (String × String)} {given : String → Option String}
    (htracks : Tracks items given) (hshown : items ≠ [] → shown = items) : Shows shown given := by
  intro key status hgiven
  have hmem := (htracks key status).mpr hgiven
  rw [hshown (List.ne_nil_of_mem hmem)]
  refine ⟨hmem, fun status' hmem' => ?_⟩
  exact Option.some.inj (((htracks key status').mp hmem').symm.trans hgiven)

theorem ShowsCase.shown {v : CaseView} {c : IntegrationReadinessCase env} {shown : Case12a}
    (h : ShowsCase env v c) (hshown : ShownAs c shown) : ShowsCase12a env v shown where
  inputs := shows_of_tracks h.inputs fun hne =>
    hshown.inputs fun hnil => hne (by rw [hnil, List.map_nil])
  controls := shows_of_tracks h.controls fun hne =>
    hshown.controls fun hnil => hne (by rw [hnil, List.map_nil])
  events := by
    rw [hshown.timeline, ← h.events, List.map_map]
    rfl

theorem Held.agreed (h : Held env s cases) : Agreed env s where
  first := by
    refine ⟨cases, h.loads, h.ids, fun c hc => ?_, fun id v hv => ?_⟩
    · obtain ⟨v, hv, -⟩ := h.said c hc
      rw [hv]
      rfl
    · obtain ⟨c, hc, rfl⟩ := h.shown id v hv
      obtain ⟨v', hv', hshows⟩ := h.said c hc
      obtain rfl := Option.some.inj (hv.symm.trans hv')
      exact ⟨c, hc, rfl, hshows⟩
  second := by
    rw [h.loads12a]
    refine ⟨?_, fun c hc => ?_, fun id v hv => ?_⟩
    · rw [List.map_map, List.map_congr_left (g := fun c => c.caseId)]
      · exact h.ids
      · exact h.shownAs_caseId
    · obtain ⟨c, hmem, rfl⟩ := List.mem_map.mp hc
      obtain ⟨v, hv, -⟩ := h.said c hmem
      rw [h.shownAs_caseId c hmem, hv]
      rfl
    · obtain ⟨c, hc, rfl⟩ := h.shown id v hv
      obtain ⟨v', hv', hshows⟩ := h.said c hc
      obtain rfl := Option.some.inj (hv.symm.trans hv')
      exact ⟨shownAs c, List.mem_map_of_mem hc, h.shownAs_caseId c hc,
        hshows.shown (normalizeCase_saved (h.kept c hc))⟩

theorem Held.replace {c : IntegrationReadinessCase env} {v : CaseView} (h : Held env s cases)
    (hplain : PlainCase c) (hkept : KeptCase c) (hshows : ShowsCase env v c) :
    Held env ⟨some (savedText env (replaceCase env cases c)),
      Function.update s.board c.caseId (some v)⟩ (replaceCase env cases c) where
  file := .inr rfl
  ids := nodup_replaceCase h.ids
  plain c' hc' := by
    rcases mem_replaceCase.mp hc' with rfl | ⟨hold, -⟩
    · exact hplain
    · exact h.plain c' hold
  kept c' hc' := by
    rcases mem_replaceCase.mp hc' with rfl | ⟨hold, -⟩
    · exact hkept
    · exact h.kept c' hold
  said c' hc' := by
    rcases mem_replaceCase.mp hc' with rfl | ⟨hold, hne⟩
    · exact ⟨v, Function.update_self .., hshows⟩
    · dsimp only
      rw [Function.update_of_ne hne]
      exact h.said c' hold
  shown id v' hv' := by
    dsimp only at hv'
    by_cases hid : id = c.caseId
    · exact ⟨c, mem_replaceCase.mpr (.inl rfl), hid.symm⟩
    · rw [Function.update_of_ne hid] at hv'
      obtain ⟨c', hc', rfl⟩ := h.shown id v' hv'
      exact ⟨c', mem_replaceCase.mpr (.inr ⟨hc', hid⟩), rfl⟩

end Held

/-! ## Accepted calls -/

section Accepted

variable {env : Platform} {c updated : IntegrationReadinessCase env} {now : String}

theorem buildCaseId_eq_ok {clientId requestId readinessCheckId caseId : String}
    (h : buildCaseId env clientId requestId readinessCheckId = .ok caseId) :
    caseId = joinedCaseId clientId requestId readinessCheckId := by
  simp only [buildCaseId, bind_ok, pure_ok] at h
  obtain ⟨-, -, -, -, -, -, rfl⟩ := h
  rfl

theorem readinessCaseFromCheck_cases {check : List (String × Value)} {context : CaseContext}
    (h : readinessCaseFromCheck env check context now = .ok c) :
    c.caseId = joinedCaseId context.clientId context.requestId (readinessCheckIdOf env check) ∧
      PlainCase c ∧ ShowsCase env (createdView env check now) c ∧
        ∀ P : String → Prop, (∀ key ∈ missingInputsOf env check ++
          missingSecurityControlsOf env check, P key) →
            ∀ i ∈ c.inputStatuses ++ c.securityControlStatuses, P i.key := by
  simp only [readinessCaseFromCheck, bind_ok] at h
  obtain ⟨inputs, hinputs, controls, hcontrols, event, hevent, caseId, hcaseId, hmake⟩ := h
  have hfields := IntegrationReadinessCase.make_eq_ok.mp hmake
  have hevent := ReadinessTimelineEvent.make_eq_ok.mp hevent
  have hcase : c.caseId = caseId := congrArg CaseFields.caseId hfields
  have hinputStatuses : c.inputStatuses = inputs := congrArg CaseFields.inputStatuses hfields
  have hcontrolStatuses : c.securityControlStatuses = controls :=
    congrArg CaseFields.securityControlStatuses hfields
  have htimeline : c.timeline = [event] := congrArg CaseFields.timeline hfields
  refine ⟨hcase.trans (buildCaseId_eq_ok hcaseId), ?_, ⟨?_, ?_, ?_⟩, ?_⟩
  · rw [PlainCase, hinputStatuses, hcontrolStatuses]
    exact List.forall_mem_append.mpr
      ⟨forall_items_of_keys hinputs fun _ _ => ⟨rfl, rfl⟩,
        forall_items_of_keys hcontrols fun _ _ => ⟨rfl, rfl⟩⟩
  · rw [hinputStatuses]
    exact tracks_of_keys hinputs
  · rw [hcontrolStatuses]
    exact tracks_of_keys hcontrols
  · rw [htimeline, List.map_singleton, hevent]
    rfl
  · intro P hP
    obtain ⟨hPinputs, hPcontrols⟩ := List.forall_mem_append.mp hP
    rw [hinputStatuses, hcontrolStatuses]
    exact List.forall_mem_append.mpr
      ⟨forall_items_of_keys (P := fun i => P i.key) hinputs hPinputs,
        forall_items_of_keys (P := fun i => P i.key) hcontrols hPcontrols⟩

theorem updateReadinessCaseItem_cases {u : ItemUpdate env}
    (h : updateReadinessCaseItem c u now = .ok updated) :
    updated.caseId = c.caseId ∧
      (u.itemKind = "input" ∧ updateItems c.inputStatuses u now = .ok updated.inputStatuses ∧
          updated.securityControlStatuses = c.securityControlStatuses ∨
        u.itemKind ≠ "input" ∧ updated.inputStatuses = c.inputStatuses ∧
          updateItems c.securityControlStatuses u now = .ok updated.securityControlStatuses) ∧
      ∃ event : ReadinessTimelineEvent env, updated.timeline = c.timeline ++ [event] ∧
        event.eventType = u.itemKind ++ "_" ++ u.status ∧ event.createdAt = now := by
  simp only [updateReadinessCaseItem, bind_ok] at h
  obtain ⟨-, -, -, -, -, -, inputs, hinputs, controls, hcontrols, event, hevent, middle, hmiddle,
    hmake⟩ := h
  have hfields := IntegrationReadinessCase.make_eq_ok.mp hmake
  have hmiddle := IntegrationReadinessCase.make_eq_ok.mp hmiddle
  have hevent := ReadinessTimelineEvent.make_eq_ok.mp hevent
  have hcase : updated.caseId = middle.caseId := by rw [hfields]
  have hmiddleCase : middle.caseId = c.caseId := by rw [hmiddle]
  have hinputStatuses : updated.inputStatuses = inputs :=
    (congrArg CaseFields.inputStatuses hfields).trans (congrArg CaseFields.inputStatuses hmiddle)
  have hcontrolStatuses : updated.securityControlStatuses = controls :=
    (congrArg CaseFields.securityControlStatuses hfields).trans
      (congrArg CaseFields.securityControlStatuses hmiddle)
  have htimeline : updated.timeline = c.timeline ++ [event] :=
    (congrArg CaseFields.timeline hfields).trans (congrArg CaseFields.timeline hmiddle)
  refine ⟨hcase.trans hmiddleCase, ?_, event, htimeline, by rw [hevent], by rw [hevent]⟩
  rw [hinputStatuses, hcontrolStatuses]
  by_cases hkind : u.itemKind = "input"
  · rw [updatedInputs, if_pos hkind] at hinputs
    rw [updatedControls, if_pos hkind] at hcontrols
    exact .inl ⟨hkind, hinputs, (Except.ok.inj hcontrols).symm⟩
  · rw [updatedInputs, if_neg hkind] at hinputs
    rw [updatedControls, if_neg hkind] at hcontrols
    exact .inr ⟨hkind, (Except.ok.inj hinputs).symm, hcontrols⟩

theorem ShowsCase.update {u : ItemUpdate env} {v : CaseView} (hshows : ShowsCase env v c)
    (h : updateReadinessCaseItem c u now = .ok updated) :
    ShowsCase env (v.given u.itemKind u.itemKey u.status now) updated := by
  obtain ⟨-, hitems, event, htimeline, hname, htime⟩ := updateReadinessCaseItem_cases h
  have hevents : updated.timeline.map (fun e => (⟨e.eventType, e.createdAt⟩ : Happened)) =
      (v.given u.itemKind u.itemKey u.status now).events := by
    rw [htimeline, List.map_append, List.map_singleton, hname, htime, hshows.events]
    rfl
  rcases hitems with ⟨hkind, hinputs, hcontrols⟩ | ⟨hkind, hinputs, hcontrols⟩
  · refine ⟨?_, ?_, hevents⟩
    · rw [CaseView.given]
      dsimp only
      rw [if_pos hkind]
      exact tracks_updateItems hinputs hshows.inputs
    · rw [CaseView.given, hcontrols]
      dsimp only
      rw [if_pos hkind]
      exact hshows.controls
  · refine ⟨?_, ?_, hevents⟩
    · rw [CaseView.given, hinputs]
      dsimp only
      rw [if_neg hkind]
      exact hshows.inputs
    · rw [CaseView.given]
      dsimp only
      rw [if_neg hkind]
      exact tracks_updateItems hcontrols hshows.controls

theorem forall_items_update {u : ItemUpdate env} {P : ItemFields env → Prop}
    (h : updateReadinessCaseItem c u now = .ok updated) (hnew : P (u.item now))
    (hitems : ∀ i ∈ c.inputStatuses ++ c.securityControlStatuses, P i.toItemFields) :
    ∀ i ∈ updated.inputStatuses ++ updated.securityControlStatuses, P i.toItemFields := by
  obtain ⟨hin, hcon⟩ := List.forall_mem_append.mp hitems
  obtain ⟨-, ⟨-, hinputs, hcontrols⟩ | ⟨-, hinputs, hcontrols⟩, -⟩ :=
    updateReadinessCaseItem_cases h
  · rw [hcontrols]
    exact List.forall_mem_append.mpr ⟨forall_updateItems hinputs hnew hin, hcon⟩
  · rw [hinputs]
    exact List.forall_mem_append.mpr ⟨hin, forall_updateItems hcontrols hnew hcon⟩

end Accepted

/-! ## Runs -/

section Steps

variable {env : Platform} {s : State} {cases : List (IntegrationReadinessCase env)} {call : Call}

theorem next_of_none (h : call.written env s.file = none) : next env s call = s := by
  rw [next, h]

/-- A creation puts the case that its check makes in its place. -/
theorem Held.create {payload : List (String × Value)} {now text : String}
    {c : IntegrationReadinessCase env} (h : Held env s cases)
    (hcareful : Careful env s (.create payload now))
    (hcall : createTrackingCaseFromPayload env payload now s.file = .ok (text, c)) :
    c.caseId = (Call.create payload now).caseId env ∧
      Held env ⟨some text, (Call.create payload now).say env s.board⟩ (replaceCase env cases c) := by
  simp only [createTrackingCaseFromPayload, bind_ok, pure_ok, Prod.mk.injEq] at hcall
  obtain ⟨check, hcheck, c', hcase, cases', hloads, rfl, rfl⟩ := hcall
  obtain rfl := Except.ok.inj (h.loads.symm.trans hloads)
  obtain ⟨hid, hplain, hshows, hkeys⟩ := readinessCaseFromCheck_cases hcase
  have hid : c'.caseId = createdId env payload check := hid
  rw [Careful, hcheck, KeepsCheck] at hcareful
  have hkept : KeptCase c' := ⟨hid ▸ hcareful.1, hkeys _ hcareful.2⟩
  have hheld := h.replace hplain hkept hshows
  rw [hid] at hheld
  rw [Call.caseId, Call.say, hcheck]
  exact ⟨hid, hheld⟩

theorem Held.update {caseId text now : String} {payload : List (String × Value)}
    {c : IntegrationReadinessCase env} (h : Held env s cases)
    (hcareful : Careful env s (.update caseId payload now))
    (hcall : updateTrackingCaseItemFromPayload env caseId payload now s.file = .ok (text, c)) :
    c.caseId = caseId ∧ Held env ⟨some text, (Call.update caseId payload now).say env s.board⟩
      (replaceCase env cases c) := by
  simp only [updateTrackingCaseItemFromPayload, bind_ok, demand_eq_ok, pure_ok,
    Prod.mk.injEq] at hcall
  obtain ⟨cases', hloads, target, htarget, reference, -, c', hupdated, rfl, rfl⟩ := hcall
  obtain rfl := Except.ok.inj (h.loads.symm.trans hloads)
  have hmem := List.mem_of_find?_eq_some htarget
  have hfound : target.caseId = caseId := by simpa using List.find?_some htarget
  have hid : c'.caseId = caseId := (updateReadinessCaseItem_cases hupdated).1.trans hfound
  obtain ⟨v, hv, hshows⟩ := h.said target hmem
  have hplain : PlainCase c' :=
    forall_items_update hupdated (plain_item _ now) (h.plain target hmem)
  have hkept : KeptCase c' := by
    refine ⟨?_, forall_items_update (P := fun i => KeptText env i.key 120) hupdated hcareful
      (h.kept target hmem).2⟩
    rw [hid, ← hfound]
    exact (h.kept target hmem).1
  have hheld := h.replace hplain hkept (hshows.update hupdated)
  rw [hfound] at hv
  rw [hid] at hheld
  rw [Call.say, hv]
  exact ⟨hid, hheld⟩

theorem Held.refused {u : Update12a} {now : String} (h : Held env s cases)
    (hcareful : Careful env s (.update12a u now)) :
    (Call.update12a u now).written env s.file = none := by
  rw [Call.written]
  cases hcall : updateTrackingCaseItem12a env u now s.file with
  | error e => rfl
  | ok text =>
    simp only [updateTrackingCaseItem12a, raiseIf_bind_ok, pure_ok] at hcall
    obtain ⟨hstatus, hcaseId, hitemKey, hfound, -⟩ := hcall
    rw [Careful] at hcareful
    rcases hcareful with hcareful | hcareful | hcareful | hcareful
    · exact absurd hcareful hstatus
    · exact absurd hcareful hcaseId
    · exact absurd hcareful hitemKey
    · obtain ⟨c, hc, hid⟩ := List.any_eq_true.mp (not_not.mp hfound)
      rw [h.loads12a] at hc
      obtain ⟨c', hc', rfl⟩ := List.mem_map.mp hc
      obtain ⟨v, hv, -⟩ := h.said c' hc'
      rw [← h.shownAs_caseId c' hc', of_decide_eq_true hid] at hv
      rw [hv] at hcareful
      cases hcareful

theorem Held.step (h : Held env s cases) (hcareful : Careful env s call) :
    ∃ cases', Held env (next env s call) cases' ∧
      cases'.filter (fun c => c.caseId ≠ call.caseId env) =
        cases.filter fun c => c.caseId ≠ call.caseId env := by
  cases hwritten : call.written env s.file with
  | none =>
    rw [next_of_none hwritten]
    exact ⟨cases, h, rfl⟩
  | some text =>
    rw [next, hwritten]
    cases call with
    | create payload now =>
      obtain ⟨⟨text', c⟩, hcall, rfl⟩ := Option.map_eq_some_iff.mp hwritten
      obtain ⟨hid, hheld⟩ := h.create hcareful (toOption_eq_some.mp hcall)
      rw [← hid]
      exact ⟨_, hheld, filter_replaceCase⟩
    | update caseId payload now =>
      obtain ⟨⟨text', c⟩, hcall, rfl⟩ := Option.map_eq_some_iff.mp hwritten
      obtain ⟨hid, hheld⟩ := h.update hcareful (toOption_eq_some.mp hcall)
      rw [Call.caseId, ← hid]
      rw [← hid] at hheld
      exact ⟨_, hheld, filter_replaceCase⟩
    | update12a u now =>
      rw [h.refused hcareful] at hwritten
      cases hwritten

theorem Held.untouched {cases' : List (IntegrationReadinessCase env)} (h : Held env s cases)
    (h' : Held env (next env s call) cases')
    (hothers : cases'.filter (fun c => c.caseId ≠ call.caseId env) =
      cases.filter fun c => c.caseId ≠ call.caseId env) : Untouched env s call where
  first := by
    rw [h.loads, h'.loads]
    exact congrArg Except.ok hothers
  second := by
    have hfilter : ∀ {s : State} {cases : List (IntegrationReadinessCase env)}, Held env s cases →
        (cases.map shownAs).filter (fun c => c.caseId ≠ call.caseId env) =
          (cases.filter fun c => c.caseId ≠ call.caseId env).map shownAs := by
      intro s cases h
      have hkeep : ∀ c ∈ cases, ((fun c : Case12a => decide (c.caseId ≠ call.caseId env)) ∘ shownAs) c =
          decide (c.caseId ≠ call.caseId env) := by
        intro c hc
        have hid := h.shownAs_caseId c hc
        simp only [Function.comp_apply, hid]
      rw [List.filter_map, List.filter_congr hkeep]
    rw [h.loads12a, h'.loads12a, hfilter h, hfilter h', hothers]

/-- Where every call is careful both interfaces show after every call what was said. -/
theorem interfaces_agree {calls : List Call}
    (h : Histories.Along (next env) (Careful env) start calls) : Lawful env calls := by
  refine h.imp (I := fun s => ∃ cases, Held env s cases) ⟨[], Held.start⟩ ?_ ?_
  · rintro s call ⟨cases, hheld⟩ hcareful
    obtain ⟨cases', hheld', -⟩ := hheld.step hcareful
    exact ⟨cases', hheld'⟩
  · rintro s call ⟨cases, hheld⟩ hcareful
    obtain ⟨cases', hheld', hothers⟩ := hheld.step hcareful
    exact ⟨hheld'.agreed, hheld.untouched hheld' hothers⟩

end Steps

/-! ## What an accepted call of the second interface leaves -/

section Broken

variable {env : Platform} {s : State} {cases : List Case12a} {now : String}

theorem itemFromDict_12a (i : Item12a) (item : ReadinessItemStatus env) :
    itemFromDict env (Value.obj i.fields).canonical ≠ .ok item := by
  intro h
  change (safeReferenceFromDict env (getOr (Dict.readBack i.fields) "safe_reference" .null)
    >>= fun reference => ReadinessItemStatus.make
      { key := textAt env (Dict.readBack i.fields) "key"
        status := textAt env (Dict.readBack i.fields) "status" "missing"
        safeReference := reference
        verifiedBy := getOr (Dict.readBack i.fields) "verified_by" .null
        verifiedAt := getOr (Dict.readBack i.fields) "verified_at" .null
        note := textAt env (Dict.readBack i.fields) "note" }) = _ at h
  rw [bind_ok] at h
  obtain ⟨reference, -, hmake⟩ := h
  have hkey : item.key = textAt env (Dict.readBack i.fields) "key" :=
    congrArg ItemFields.key (ReadinessItemStatus.make_eq_ok.mp hmake)
  rw [textAt, getOr_readBack_of_not_mem (by simp [Item12a.fields]), env.text_str] at hkey
  exact item.key_ne_empty hkey

theorem nodup_case12aKeys (c : Case12a) : (c.fields.map Prod.fst).Nodup := by
  have hkeys : c.fields.map Prod.fst =
      ["case_id", "client_id", "request_id", "adapter_id", "status", "input_statuses",
        "security_control_statuses", "timeline", "production_allowed",
        "runtime_connector_approved", "external_http_enabled", "raw_secret_visible"] := rfl
  rw [hkeys]
  decide +kernel

theorem readinessCaseFromDict_12a {c : Case12a} (hitems : c.inputStatuses ≠ [])
    (made : IntegrationReadinessCase env) :
    readinessCaseFromDict env (Value.obj c.fields).canonical ≠ .ok made := by
  intro h
  have hrecord : asDict (Value.obj c.fields).canonical = .ok (Dict.readBack c.fields) := rfl
  rw [readinessCaseFromDict, hrecord, ok_bind, bind_ok] at h
  obtain ⟨inputs, hinputs, -⟩ := h
  rw [readList, getOr_readBack (nodup_case12aKeys c) 5 rfl, Value.canonical, Value.canonicalList_eq,
    elementsOf, ok_bind] at hinputs
  obtain ⟨i, hi⟩ := List.exists_mem_of_ne_nil _ hitems
  obtain ⟨item, hitem⟩ := ok_of_mapM hinputs (Value.obj i.fields).canonical
    (List.mem_map_of_mem (List.mem_map_of_mem hi))
  exact itemFromDict_12a i item hitem

theorem loadReadinessCases_12a (hne : cases ≠ []) (hitems : ∀ c ∈ cases, c.inputStatuses ≠ [])
    (loaded : List (IntegrationReadinessCase env)) :
    loadReadinessCases env (some (writtenText env cases now)) ≠ .ok loaded := by
  intro h
  have hkeys : (([("cases", .arr (cases.map fun c => .obj c.fields)), ("guardrails", .obj guardrails),
      ("updated_at", .str now)] : List (String × Value)).map Prod.fst).Nodup := by
    simp
  obtain ⟨⟨rest, hbegin⟩, -⟩ := writeIn_obj_ends indented env.floats 0 (Dict.readBack
    [("cases", .arr (cases.map fun c => .obj c.fields)), ("guardrails", .obj guardrails),
      ("updated_at", .str now)])
  have hblank : Market.strip (writtenText env cases now) ≠ "" :=
    Market.strip_ne_empty (by rw [writtenText, String.toList_ofList]; exact hbegin) (by decide)
  have hloads : loads env.floats (writtenText env cases now) = some (.obj (Dict.readBack
      [("cases", .arr (cases.map fun c => .obj c.fields)), ("guardrails", .obj guardrails),
        ("updated_at", .str now)])) :=
    loads_dumpsSortedIn indented env.floats (.obj _)
  rw [loadReadinessCases, if_neg hblank, hloads, demand_some_bind] at h
  dsimp only at h
  rw [getOr_readBack hkeys 0 rfl, Value.canonical, Value.canonicalList_eq, elementsOf,
    ok_bind] at h
  obtain ⟨c, hc⟩ := List.exists_mem_of_ne_nil _ hne
  obtain ⟨made, hmade⟩ := ok_of_mapM h (Value.obj c.fields).canonical
    (List.mem_map_of_mem (List.mem_map_of_mem hc))
  exact readinessCaseFromDict_12a (hitems c hc) made hmade

theorem normalizeCase_items (value : Value) : (normalizeCase env value).inputStatuses ≠ [] := by
  have hsource : ∀ source : List Value,
      (if source.isEmpty then DEFAULT_INPUT_ITEMS_12A else source) ≠ [] := by
    intro source
    cases source with
    | nil => exact List.cons_ne_nil _ _
    | cons item source => exact List.cons_ne_nil _ _
  unfold normalizeCase
  dsimp only
  rw [normalizeItems]
  exact List.mapIdx_ne_nil_iff.mpr (hsource _)

theorem mem_applyFirst {p : Case12a → Bool} {f : Case12a → Case12a} {c : Case12a}
    (h : c ∈ applyFirst p f cases) : c ∈ cases ∨ ∃ c' ∈ cases, c = f c' := by
  induction cases with
  | nil => exact .inl h
  | cons c' cases ih =>
    rw [applyFirst] at h
    split at h
    · rcases List.mem_cons.mp h with rfl | h
      · exact .inr ⟨c', List.mem_cons_self, rfl⟩
      · exact .inl (List.mem_cons_of_mem _ h)
    · rcases List.mem_cons.mp h with rfl | h
      · exact .inl List.mem_cons_self
      · rcases ih h with h | ⟨c'', hc'', rfl⟩
        · exact .inl (List.mem_cons_of_mem _ h)
        · exact .inr ⟨c'', List.mem_cons_of_mem _ hc'', rfl⟩

theorem not_agreed_of_accepted {u : Update12a} {text : String}
    (h : updateTrackingCaseItem12a env u now s.file = .ok text) :
    ¬ Agreed env (next env s (.update12a u now)) := by
  have hnext : (next env s (.update12a u now)).file = some text := by
    rw [next, Call.written, h]
    rfl
  simp only [updateTrackingCaseItem12a, raiseIf_bind_ok, pure_ok] at h
  obtain ⟨-, -, -, hfound, rfl⟩ := h
  intro hagreed
  obtain ⟨loaded, hloaded, -⟩ := hagreed.first
  rw [hnext] at hloaded
  refine loadReadinessCases_12a ?_ ?_ loaded hloaded
  · obtain ⟨c, hc, -⟩ := List.any_eq_true.mp (not_not.mp hfound)
    cases hall : loadNormalizedCases env s.file with
    | nil =>
      rw [hall] at hc
      cases hc
    | cons c' rest =>
      rw [applyFirst]
      split
      · exact List.cons_ne_nil _ _
      · exact List.cons_ne_nil _ _
  · intro c hc
    have hitems : ∀ c ∈ loadNormalizedCases env s.file, c.inputStatuses ≠ [] := by
      intro c hc
      obtain ⟨value, -, rfl⟩ := List.mem_map.mp hc
      exact normalizeCase_items value
    rcases mem_applyFirst hc with hc | ⟨c', hc', rfl⟩
    · exact hitems c hc
    · rw [Target12a.apply]
      dsimp only
      intro hnil
      exact hitems c' hc' (List.map_eq_nil_iff.mp (List.append_eq_nil_iff.mp hnil).1)

theorem Held.accepted {cases : List (IntegrationReadinessCase env)} {u : Update12a}
    (h : Held env s cases) (hstatus : (u.target env).status ∈ ACTION_ITEM_STATUSES_12A)
    (hcaseId : (u.target env).caseId ≠ "") (hitemKey : (u.target env).itemKey ≠ "")
    (hboard : (s.board (u.target env).caseId).isSome) (now : String) :
    ∃ text, updateTrackingCaseItem12a env u now s.file = .ok text := by
  obtain ⟨v, hv⟩ := Option.isSome_iff_exists.mp hboard
  obtain ⟨c, hc, hid⟩ := h.shown _ v hv
  have hfound : ((loadNormalizedCases env s.file).any fun c =>
      decide (c.caseId = (u.target env).caseId)) = true := by
    rw [h.loads12a]
    refine List.any_eq_true.mpr ⟨shownAs c, List.mem_map_of_mem hc, ?_⟩
    exact decide_eq_true ((h.shownAs_caseId c hc).trans hid)
  rw [updateTrackingCaseItem12a]
  dsimp only
  rw [raiseIf_bind_of_neg (not_not.mpr hstatus), raiseIf_bind_of_neg hcaseId,
    raiseIf_bind_of_neg hitemKey, raiseIf_bind_of_neg (not_not.mpr hfound)]
  exact ⟨_, rfl⟩

end Broken

namespace Sample

theorem toLower_of_small {c : Char} (h : (c.isLower || decide (c = '_')) = true) :
    c.toLower = c := by
  rw [Bool.or_eq_true, decide_eq_true_eq] at h
  rcases h with h | rfl
  · rw [Char.toLower, dif_neg]
    rintro ⟨-, hhigh⟩
    simp only [Char.isLower, Bool.and_eq_true, decide_eq_true_eq] at h
    have hlow := UInt32.le_iff_toNat_le.mp h.1
    have hhigh := UInt32.le_iff_toNat_le.mp hhigh
    simp at hlow hhigh
    omega
  · decide

/-- The words of a text in ASCII with large first letters. -/
def titleChars (first : Bool) : List Char → List Char
  | [] => []
  | c :: cs => (if first then c.toUpper else c.toLower) :: titleChars (!c.isAlpha) cs

/-- The functions on text are right for the texts below. -/
def textOf : Value → String
  | .str s => s
  | .int n => toString n
  | .bool true => "True"
  | .bool false => "False"
  | .null => "None"
  | _ => ""

def platform : Platform where
  text := textOf
  repr := fun s => "'" ++ s ++ "'"
  lower := fun s => String.ofList (s.toList.map Char.toLower)
  title := fun s => String.ofList (titleChars true s.toList)
  floats := bitFloats
  text_str := fun _ => rfl
  lower_small := fun s hs => by
    have hchars : ∀ c ∈ s.toList, c.toLower = c := fun c hc =>
      toLower_of_small (List.all_eq_true.mp hs c hc)
    rw [List.map_congr_left (g := id) hchars, List.map_id, String.ofList_toList]

/-- A case with an input and a control that are missing. -/
def creation : Call :=
  .create [("client_id", .str "acme"), ("request_id", .str "r-1"),
    ("readiness_check_id", .str "check"), ("adapter_contract_id", .str "adapter"),
    ("credential_profile_id", .str "profile"), ("missing_inputs", .arr [.str "api_reference"]),
    ("missing_security_controls", .arr [.str "read_only"])] "2026-01-10T00:00:00+00:00"

def verification : Call :=
  .update "acme:r-1:check" [("item_kind", .str "input"), ("item_key", .str "api_reference"),
    ("status", .str "verified"), ("actor", .str "supervisor"),
    ("safe_reference", .obj [("reference_type", .str "ticket_ref"),
      ("reference_label", .str "T-1")])] "2026-01-11T00:00:00+00:00"

def provision : Update12a where
  caseId := "acme:r-1:check"
  itemKey := "api_reference"
  status := "provided"

theorem calls_lawful : (creation.written platform none).isSome ∧
    Lawful platform [creation, verification] :=
  ⟨by decide +kernel, interfaces_agree (by decide +kernel)⟩

/-- An update of the second interface on a case of the first one. -/
theorem update_not_lawful : ¬ Lawful platform
    [creation, .update12a provision "2026-01-12T00:00:00+00:00"] := by
  rintro ⟨-, hsecond, -⟩
  have hcareful : Careful platform start creation := by decide +kernel
  obtain ⟨cases, hheld, -⟩ := Held.start.step hcareful
  have hboard : ((next platform start creation).board (provision.target platform).caseId).isSome := by
    decide +kernel
  obtain ⟨text, haccepted⟩ := hheld.accepted (u := provision) (by decide +kernel)
    (by decide +kernel) (by decide +kernel) hboard "2026-01-12T00:00:00+00:00"
  exact not_agreed_of_accepted haccepted hsecond.1

end Sample

end MaestroKernel.Readiness
