import MaestroKernel.Evaluation.Authority
import MaestroKernel.Library.Histories

/-! # Revoked grants

A revocation closes the grant in the document and revokes its enabled keys. A save replaces the
document by one that was loaded before the revocation as well, and a key can be created after it: with
both, the grant is used again. The laws hold in the runs where no revoked grant is open in the document
while it has an enabled key. -/

namespace MaestroKernel.Evaluation.Authority

open Histories Transaction
open Market (strip)

abbrev Event := Call × Except Failure Reply

/-- The database, and the calls with their answers, newest first. -/
structure World (env : Platform) where
  db : (service env).Database
  history : List Event := []

def step (env : Platform) (w : World env) (call : Call × Draw) : World env :=
  let answer := (service env).respond call w.db
  ⟨answer.2, (call.1, answer.1) :: w.history⟩

/-- The owner and the grant, as it was requested, of a revocation that has committed. -/
def revokedGrant? : Event → Option (String × String)
  | (.revokeEvaluationAuthorityGrant ownerId grantId, .ok _) => some (ownerId, strip grantId)
  | _ => none

def loadedDocument? : Event → Option (String × Document)
  | (.loadEvaluationAuthorityState ownerId, .ok (.loaded authority)) => some (ownerId, authority)
  | _ => none

def revokedGrants (history : List Event) : List (String × String) :=
  history.filterMap revokedGrant?

def loadedDocuments (history : List Event) : List (String × Document) :=
  history.filterMap loadedDocument?

/-- The usage of a key stays within the limits of its grant and its own. -/
def Within (t : Tables) : Prop :=
  ∀ key ∈ t.keys, ∀ grant, t.grantOf key = some grant →
    key.usageCount ≤ effectiveLimit grant key.payload.quotaLimit

section Laws

variable {env : Platform}

/-- A key of a revoked grant is not verified. -/
def LawfulCall (w : World env) (call : Call × Draw) : Prop :=
  ∀ rawKey, call.1 = .verifyEvaluationApiKey rawKey → ∀ identity,
    ((service env).respond call w.db).1 = .ok (.verified (some identity)) →
      (identity.sub, strip identity.evaluationGrantId) ∉ revokedGrants w.history

/-- A save writes a document of the owner that was loaded earlier. -/
def Sourced (w : World env) (call : Call × Draw) : Prop :=
  match call.1 with
  | .saveEvaluationAuthorityState ownerId raw => (ownerId, raw) ∈ loadedDocuments w.history
  | _ => True

/-- The grant is not in the document, or is revoked or expired there. -/
def ClosedIn (env : Platform) (authority : Document) (requested : String) : Prop :=
  ∀ grant, findRequested authority requested = some grant → isClosed env grant = true

def EnabledKey (t : Tables) (ownerId requested : String) : Prop :=
  ∃ key ∈ t.keys, key.ownerId = ownerId ∧ strip key.grantId = requested ∧ key.status = "enabled"

/-- A save does not open a revoked grant that has an enabled key, no enabled key is created for a
revoked grant that is open, and a key starts within its limits. -/
def Careful (w : World env) (call : Call × Draw) : Prop :=
  match call.1 with
  | .saveEvaluationAuthorityState ownerId raw => ∀ requested,
      (ownerId, requested) ∈ revokedGrants w.history → EnabledKey w.db.1 ownerId requested →
        ClosedIn env raw requested
  | .createEvaluationAuthorityKey ownerId _ entry => ∀ row, w.db.1.state? ownerId = some row →
      ((ownerId, strip entry.evaluationGrantId) ∈ revokedGrants w.history →
        entry.status = "" ∨ entry.status = "enabled" →
          ClosedIn env row.authority (strip entry.evaluationGrantId)) ∧
      ∀ grant, findEvaluationGrant row.authority entry.evaluationGrantId = some grant →
        entry.usageCount ≤ effectiveLimit grant entry.payload.quotaLimit
  | _ => True

end Laws

/-! ## Documents -/

section Documents

variable {env : Platform} {authority other : Document} {grant : EvaluationGrant}
  {requested : String}

/-- What no revocation changes of a grant. -/
def EvaluationGrant.terms (grant : EvaluationGrant) : EvaluationGrant :=
  { grant with status := "", revokedAt := none }

theorem findRequested_terms :
    findRequested (authority.map EvaluationGrant.terms) requested =
      (findRequested authority requested).map EvaluationGrant.terms := by
  rw [findRequested, findRequested]
  split
  · rfl
  · exact List.find?_map

theorem exists_same_limit
    (hterms : authority.map EvaluationGrant.terms = other.map EvaluationGrant.terms)
    (hfound : findRequested authority requested = some grant) :
    ∃ grant', findRequested other requested = some grant' ∧
      grant'.maxRequests = grant.maxRequests := by
  have hmap : (findRequested authority requested).map EvaluationGrant.terms =
      (findRequested other requested).map EvaluationGrant.terms := by
    rw [← findRequested_terms, ← findRequested_terms, hterms]
  rw [hfound, Option.map_some] at hmap
  obtain ⟨grant', hgrant', hsame⟩ := Option.map_eq_some_iff.mp hmap.symm
  have hmax : grant'.terms.maxRequests = grant.terms.maxRequests :=
    congrArg EvaluationGrant.maxRequests hsame
  exact ⟨grant', hgrant', hmax⟩

theorem grantId_of_found (hfound : findRequested authority requested = some grant) :
    requested ≠ "" ∧ grant.grantId = requested ∧
      (authority.find? fun other => other.grantId = requested) = some grant := by
  rw [findRequested, Option.ite_none_left_eq_some] at hfound
  have hid : grant.grantId = requested := by simpa using List.find?_some hfound.2
  exact ⟨hfound.1, hid, hfound.2⟩

/-- The document after a revocation. -/
def revokedDocument (env : Platform) (draw : Draw) (grant : EvaluationGrant)
    (authority : Document) : Document :=
  First.replace (fun other => other.grantId = grant.grantId) (revokedGrant env draw grant) authority

theorem revokedGrant_closed (draw : Draw) (grant : EvaluationGrant) :
    isClosed env (revokedGrant env draw grant) = true := by
  have hlower : env.lower (strip "revoked") = "revoked" := by
    have hstrip : strip "revoked" = "revoked" := by decide +kernel
    rw [hstrip]
    exact env.lower_ascii "revoked" (by decide +kernel)
  have hstatus : grantStatus env (revokedGrant env draw grant) = "revoked" := by
    have hne : (revokedGrant env draw grant).status ≠ "" := by simp [revokedGrant]
    rw [grantStatus, if_neg hne]
    exact hlower
  rw [isClosed, hstatus]
  rfl

theorem not_closed_of_active (h : grant.status = "active") : isClosed env grant = false := by
  have hlower : env.lower (strip "active") = "active" := by
    have hstrip : strip "active" = "active" := by decide +kernel
    rw [hstrip]
    exact env.lower_ascii "active" (by decide +kernel)
  have hstatus : grantStatus env grant = "active" := by
    rw [grantStatus, h, if_neg (by decide), hlower]
  rw [isClosed, hstatus]
  decide

theorem revokedDocument_terms (draw : Draw)
    (hfound : findRequested authority requested = some grant) :
    (revokedDocument env draw grant authority).map EvaluationGrant.terms =
      authority.map EvaluationGrant.terms := by
  obtain ⟨-, hid, hfirst⟩ := grantId_of_found hfound
  rw [revokedDocument, hid]
  exact First.map_replace_of_eq hfirst rfl

theorem revokedDocument_found (draw : Draw) {other : String}
    (hfound : findRequested authority requested = some grant) :
    findRequested (revokedDocument env draw grant authority) other =
      if other = requested then some (revokedGrant env draw grant)
      else findRequested authority other := by
  obtain ⟨hne, hid, hfirst⟩ := grantId_of_found hfound
  rw [findRequested, revokedDocument, hid]
  by_cases hsame : other = requested
  · subst hsame
    rw [if_neg hne, if_pos rfl]
    exact First.find?_replace_self hfirst (decide_eq_true hid)
  · rw [if_neg hsame, findRequested]
    split
    · rfl
    · apply First.find?_replace_of_disjoint
      · intro grant' hgrant'
        rw [decide_eq_true_eq] at hgrant'
        rw [decide_eq_false_iff_not, hgrant']
        exact fun h => hsame h.symm
      · rw [decide_eq_false_iff_not]
        exact fun h => hsame (h.symm.trans hid)

end Documents

section Rows

variable {t : Tables} {row : EvaluationAuthorityState} {ownerId : String}

theorem ownerId_of_state (h : t.state? ownerId = some row) : row.ownerId = ownerId := by
  rw [Tables.state?] at h
  simpa using List.find?_some h

theorem state_putState_self (h : t.state? row.ownerId ≠ none) :
    (t.putState row).state? row.ownerId = some row := by
  obtain ⟨old, hold⟩ := Option.ne_none_iff_exists'.mp h
  exact First.find?_replace_self hold (decide_eq_true rfl)

theorem state_putState_of_ne (h : row.ownerId ≠ ownerId) :
    (t.putState row).state? ownerId = t.state? ownerId := by
  apply First.find?_replace_of_disjoint
  · intro other hother
    rw [decide_eq_true_eq] at hother
    rw [decide_eq_false_iff_not, hother]
    exact h
  · exact decide_eq_false h

theorem within_of_terms {t' : Tables}
    (hstates : ∀ ownerId row', t'.state? ownerId = some row' → ∃ row, t.state? ownerId = some row ∧
      row.authority.map EvaluationGrant.terms = row'.authority.map EvaluationGrant.terms)
    {key : EvaluationAuthorityKey} {grant' : EvaluationGrant}
    (hgrant : t'.grantOf key = some grant') :
    ∃ grant, t.grantOf key = some grant ∧ grant.maxRequests = grant'.maxRequests := by
  obtain ⟨row', hrow', hfound⟩ := Option.bind_eq_some_iff.mp hgrant
  obtain ⟨row, hrow, hterms⟩ := hstates key.ownerId row' hrow'
  obtain ⟨grant, hgrant, hlimit⟩ := exists_same_limit hterms.symm hfound
  refine ⟨grant, ?_, hlimit⟩
  rw [Tables.grantOf, hrow, Option.bind_some]
  exact hgrant

theorem effectiveLimit_congr {grant grant' : EvaluationGrant} {quotaLimit : ℤ}
    (h : grant.maxRequests = grant'.maxRequests) :
    effectiveLimit grant quotaLimit = effectiveLimit grant' quotaLimit := by
  rw [effectiveLimit, effectiveLimit, h]

end Rows

/-! ## One key -/

section Keys

variable {env : Platform} {draw : Draw} {rawKey : String} {t : Tables}
  {key key' : EvaluationAuthorityKey} {found : Option Identity}

/-- What a verification does to its key. -/
structure Verified (env : Platform) (t : Tables) (key key' : EvaluationAuthorityKey)
    (found : Option Identity) : Prop where
  ownerId : key'.ownerId = key.ownerId
  grantId : key'.grantId = key.grantId
  quotaLimit : key'.payload.quotaLimit = key.payload.quotaLimit
  enabled : key'.status = "enabled" → key.status = "enabled"
  usage : key'.usageCount = key.usageCount ∨ ∃ grant, t.grantOf key = some grant ∧
    key'.usageCount ≤ effectiveLimit grant key.payload.quotaLimit
  identity : ∀ identity, found = some identity → identity.sub = key.ownerId ∧
    identity.evaluationGrantId = key.grantId ∧ key.status = "enabled" ∧
      ∃ grant, t.grantOf key = some grant ∧ isClosed env grant = false

theorem Verified.same (key : EvaluationAuthorityKey) : Verified env t key key none :=
  ⟨rfl, rfl, rfl, id, .inl rfl, fun _ h => nomatch h⟩

theorem refresh_ok {now : ℤ} {grant refreshed : EvaluationGrant}
    (h : refreshEvaluationGrantStatus env now grant = .ok refreshed) :
    refreshed.maxRequests = grant.maxRequests ∧
      (refreshed.status = "active" → isClosed env grant = false) := by
  unfold refreshEvaluationGrantStatus at h
  split at h
  · obtain rfl := Except.ok.inj h
    exact ⟨rfl, not_closed_of_active⟩
  · rename_i hopen
    have hnot : isClosed env grant = false := Bool.eq_false_iff.mpr hopen
    split at h
    · cases h
    · obtain rfl := Except.ok.inj h
      exact ⟨rfl, fun _ => hnot⟩
    · obtain rfl := Except.ok.inj h
      exact ⟨rfl, fun _ => hnot⟩

theorem useKey_verified {now : ℤ} {grant refreshed : EvaluationGrant}
    (henabled : key.status = "enabled") (hgrant : t.grantOf key = some grant)
    (hrefresh : refreshEvaluationGrantStatus env now grant = .ok refreshed)
    (h : useKey env draw refreshed key = (key', found)) : Verified env t key key' found := by
  obtain ⟨hlimit, hactive⟩ := refresh_ok hrefresh
  unfold useKey at h
  split at h
  · obtain ⟨rfl, rfl⟩ := Prod.mk.inj h
    exact .same key
  · rename_i husable
    split at h
    · obtain ⟨rfl, rfl⟩ := Prod.mk.inj h
      exact ⟨rfl, rfl, rfl, id, .inl rfl, fun _ h => nomatch h⟩
    · rename_i hroom
      obtain ⟨rfl, rfl⟩ := Prod.mk.inj h
      have hstatus : refreshed.status = "active" := by
        simp only [isUsable, Bool.not_eq_false, Bool.and_eq_true, decide_eq_true_eq] at husable
        exact husable.1.1.1.2
      refine ⟨rfl, rfl, rfl, id, .inr ⟨grant, hgrant, ?_⟩, ?_⟩
      · rw [← effectiveLimit_congr hlimit]
        have hused : (usedKey env draw key).usageCount = key.usageCount + 1 := rfl
        omega
      · intro identity hidentity
        obtain rfl := Option.some.inj hidentity
        exact ⟨rfl, rfl, henabled, grant, hgrant, hactive hstatus⟩

theorem verifyKey_verified (h : verifyKey env draw rawKey t key = .ok (key', found)) :
    Verified env t key key' found := by
  unfold verifyKey at h
  split at h
  · obtain ⟨rfl, rfl⟩ := Prod.mk.inj (Except.ok.inj h)
    exact .same key
  · rename_i henabled
    rw [not_or, not_not] at henabled
    split at h
    · obtain ⟨rfl, rfl⟩ := Prod.mk.inj (Except.ok.inj h)
      refine ⟨rfl, rfl, rfl, fun _ => henabled.1, .inl rfl, fun _ h => nomatch h⟩
    · split at h
      · obtain ⟨rfl, rfl⟩ := Prod.mk.inj (Except.ok.inj h)
        exact .same key
      · split at h
        · obtain ⟨rfl, rfl⟩ := Prod.mk.inj (Except.ok.inj h)
          exact .same key
        · rename_i grant hgrant
          split at h
          · cases h
          · rename_i refreshed hrefresh
            exact useKey_verified henabled.1 hgrant hrefresh (Except.ok.inj h)

end Keys

/-! ## The invariant -/

/-- No revoked grant is open while it has an enabled key. Loaded documents have the terms of the
stored one. -/
structure Inv (env : Platform) (t : Tables) (history : List Event) : Prop where
  closed : ∀ ownerId requested, (ownerId, requested) ∈ revokedGrants history →
    (∀ row, t.state? ownerId = some row → ClosedIn env row.authority requested) ∨
      ¬ EnabledKey t ownerId requested
  sourced : ∀ ownerId authority, (ownerId, authority) ∈ loadedDocuments history →
    ∃ row, t.state? ownerId = some row ∧
      authority.map EvaluationGrant.terms = row.authority.map EvaluationGrant.terms
  within : Within t

section Inv

variable {env : Platform} {draw : Draw} {t t' : Tables} {history : List Event} {event : Event}

theorem Inv.cons (h : Inv env t history) (hrevoked : revokedGrant? event = none)
    (hloaded : loadedDocument? event = none) : Inv env t (event :: history) := by
  refine ⟨?_, ?_, h.within⟩
  · rw [revokedGrants, List.filterMap_cons_none hrevoked]
    exact h.closed
  · rw [loadedDocuments, List.filterMap_cons_none hloaded]
    exact h.sourced

theorem mem_filterMap_cons {α β : Type} {f : α → Option β} {x : α} {xs : List α} {y : β}
    (h : y ∈ (x :: xs).filterMap f) : f x = some y ∨ y ∈ xs.filterMap f := by
  obtain ⟨other, hmem, hother⟩ := List.mem_filterMap.mp h
  rcases List.mem_cons.mp hmem with rfl | hold
  · exact .inl hother
  · exact .inr (List.mem_filterMap.mpr ⟨other, hold, hother⟩)

theorem Inv.putState (h : Inv env t history) {row new : EvaluationAuthorityState}
    (hrow : t.state? new.ownerId = some row)
    (hterms : new.authority.map EvaluationGrant.terms = row.authority.map EvaluationGrant.terms)
    (hclosed : ∀ requested, (new.ownerId, requested) ∈ revokedGrants history →
      EnabledKey t new.ownerId requested → ClosedIn env new.authority requested) :
    Inv env (t.putState new) history := by
  have hself : (t.putState new).state? new.ownerId = some new :=
    state_putState_self (by rw [hrow]; exact Option.some_ne_none row)
  refine ⟨?_, ?_, ?_⟩
  · intro ownerId requested hrevoked
    by_cases hsame : new.ownerId = ownerId
    · subst hsame
      by_cases hkey : EnabledKey t new.ownerId requested
      · left
        intro row' hrow'
        obtain rfl := Option.some.inj (hself.symm.trans hrow')
        exact hclosed requested hrevoked hkey
      · exact .inr hkey
    · rw [state_putState_of_ne hsame]
      exact h.closed ownerId requested hrevoked
  · intro ownerId authority hloaded
    by_cases hsame : new.ownerId = ownerId
    · subst hsame
      obtain ⟨row', hrow', hterms'⟩ := h.sourced _ authority hloaded
      obtain rfl := Option.some.inj (hrow.symm.trans hrow')
      exact ⟨new, hself, hterms'.trans hterms.symm⟩
    · rw [state_putState_of_ne hsame]
      exact h.sourced ownerId authority hloaded
  · intro key hkey grant' hgrant'
    have hstates : ∀ ownerId row', (t.putState new).state? ownerId = some row' →
        ∃ row, t.state? ownerId = some row ∧ row.authority.map EvaluationGrant.terms =
          row'.authority.map EvaluationGrant.terms := by
      intro ownerId row' hrow'
      by_cases hsame : new.ownerId = ownerId
      · subst hsame
        obtain rfl := Option.some.inj (hself.symm.trans hrow')
        exact ⟨row, hrow, hterms.symm⟩
      · rw [state_putState_of_ne hsame] at hrow'
        exact ⟨row', hrow', rfl⟩
    obtain ⟨grant, hgrant, hlimit⟩ := within_of_terms hstates hgrant'
    rw [← effectiveLimit_congr hlimit]
    exact h.within key hkey grant hgrant

theorem Inv.putKeys (h : Inv env t history) {keys : List EvaluationAuthorityKey}
    (henabled : ∀ ownerId requested, EnabledKey ⟨t.states, keys⟩ ownerId requested →
      EnabledKey t ownerId requested ∨ ((ownerId, requested) ∈ revokedGrants history →
        ∀ row, t.state? ownerId = some row → ClosedIn env row.authority requested))
    (hwithin : ∀ key ∈ keys, ∀ grant, t.grantOf key = some grant →
      key.usageCount ≤ effectiveLimit grant key.payload.quotaLimit) :
    Inv env ⟨t.states, keys⟩ history := by
  refine ⟨?_, h.sourced, hwithin⟩
  intro ownerId requested hrevoked
  by_cases hkey : EnabledKey ⟨t.states, keys⟩ ownerId requested
  · rcases henabled ownerId requested hkey with hold | hclosed
    · exact .inl ((h.closed ownerId requested hrevoked).resolve_right fun hnot => hnot hold)
    · exact .inl (hclosed hrevoked)
  · exact .inr hkey

theorem Inv.loaded (h : Inv env t history) {ownerId : String} {row : EvaluationAuthorityState}
    (hrow : t.state? ownerId = some row) :
    Inv env t ((.loadEvaluationAuthorityState ownerId, .ok (.loaded row.authority)) :: history) := by
  refine ⟨?_, ?_, h.within⟩
  · intro owner requested hrevoked
    rcases mem_filterMap_cons hrevoked with hnew | hold
    · cases hnew
    · exact h.closed owner requested hold
  · intro owner authority hloaded
    rcases mem_filterMap_cons hloaded with hnew | hold
    · obtain ⟨rfl, rfl⟩ := Prod.mk.inj (Option.some.inj hnew)
      exact ⟨row, hrow, rfl⟩
    · exact h.sourced owner authority hold

theorem Inv.created (h : Inv env t history) {ownerId rawKey : String} {entry : KeyEntry}
    {expiresAt createdAt : Option ℤ} {row : EvaluationAuthorityState}
    (hrow : t.state? ownerId = some row)
    (hclosed : (ownerId, strip entry.evaluationGrantId) ∈ revokedGrants history →
      entry.status = "" ∨ entry.status = "enabled" →
        ClosedIn env row.authority (strip entry.evaluationGrantId))
    (hlimit : ∀ grant, findEvaluationGrant row.authority entry.evaluationGrantId = some grant →
      entry.usageCount ≤ effectiveLimit grant entry.payload.quotaLimit) :
    Inv env { t with keys := t.keys ++
      [keyRow env draw ownerId rawKey entry expiresAt createdAt] } history := by
  refine h.putKeys ?_ ?_
  · rintro owner requested ⟨key, hkey, howner, hgrant, hstatus⟩
    rcases List.mem_append.mp hkey with hold | hnew
    · exact .inl ⟨key, hold, howner, hgrant, hstatus⟩
    · obtain rfl := List.mem_singleton.mp hnew
      obtain rfl : ownerId = owner := howner
      obtain rfl : strip entry.evaluationGrantId = requested := hgrant
      right
      intro hrevoked row' hrow'
      obtain rfl := Option.some.inj (hrow.symm.trans hrow')
      refine hclosed hrevoked ?_
      by_cases hempty : entry.status = ""
      · exact .inl hempty
      · rw [keyRow, if_neg hempty] at hstatus
        exact .inr hstatus
  · intro key hkey grant hgrant
    rcases List.mem_append.mp hkey with hold | hnew
    · exact h.within key hold grant hgrant
    · obtain rfl := List.mem_singleton.mp hnew
      have hfound : findEvaluationGrant row.authority entry.evaluationGrantId = some grant := by
        obtain ⟨row', hrow', hfound⟩ := Option.bind_eq_some_iff.mp hgrant
        obtain rfl := Option.some.inj (hrow.symm.trans hrow')
        exact hfound
      exact hlimit grant hfound

theorem Inv.verified (h : Inv env t history) {key key' : EvaluationAuthorityKey}
    {found : Option Identity} (hkey : key ∈ t.keys) (hverified : Verified env t key key' found) :
    Inv env (t.putKey key') history := by
  have hmem : ∀ other ∈ (t.putKey key').keys, other = key' ∨ other ∈ t.keys :=
    fun other => First.mem_replace
  refine h.putKeys ?_ ?_
  · rintro ownerId requested ⟨other, hother, howner, hgrant, hstatus⟩
    left
    rcases hmem other hother with rfl | hold
    · exact ⟨key, hkey, hverified.ownerId.symm.trans howner,
        (congrArg strip hverified.grantId).symm.trans hgrant, hverified.enabled hstatus⟩
    · exact ⟨other, hold, howner, hgrant, hstatus⟩
  · intro other hother grant hgrant
    rcases hmem other hother with rfl | hold
    · rw [Tables.grantOf, hverified.ownerId, hverified.grantId] at hgrant
      rw [hverified.quotaLimit]
      rcases hverified.usage with hsame | ⟨grant', hgrant', hle⟩
      · rw [hsame]
        exact h.within key hkey grant hgrant
      · obtain rfl := Option.some.inj (hgrant'.symm.trans hgrant)
        exact hle
    · exact h.within other hold grant hgrant

/-- A revocation closes its grant, and disables keys only. -/
theorem Inv.revoked (h : Inv env t history) {ownerId grantId : String} {count : ℕ}
    {row : EvaluationAuthorityState} {grant : EvaluationGrant}
    (hrow : t.state? ownerId = some row)
    (hfound : findEvaluationGrant row.authority grantId = some grant) :
    let new : EvaluationAuthorityState :=
      ⟨row.ownerId, revokedDocument env draw grant row.authority, draw.now⟩
    Inv env
      { t.putState new with
        keys := (t.putState new).keys.map fun key =>
          if isRevocable ownerId grantId key then revokedKey env draw key else key }
      ((.revokeEvaluationAuthorityGrant ownerId grantId, .ok (.revoked count)) :: history) := by
  intro new
  obtain rfl : row.ownerId = ownerId := ownerId_of_state hrow
  have hself : (t.putState new).state? row.ownerId = some new :=
    state_putState_self (by rw [hrow]; exact Option.some_ne_none row)
  have hnew : ClosedIn env new.authority (strip grantId) := by
    intro other hother
    rw [revokedDocument_found draw hfound, if_pos rfl] at hother
    obtain rfl := Option.some.inj hother
    exact revokedGrant_closed draw grant
  -- A grant that was closed in the old document is closed in the new one.
  have hkept : ∀ requested, ClosedIn env row.authority requested →
      ClosedIn env new.authority requested := by
    intro requested hclosed other hother
    rw [revokedDocument_found draw hfound] at hother
    split at hother
    · obtain rfl := Option.some.inj hother
      exact revokedGrant_closed draw grant
    · exact hclosed other hother
  have hput : Inv env (t.putState new) history := by
    refine h.putState hrow (revokedDocument_terms draw hfound) ?_
    intro requested hrevoked hkey
    rcases h.closed row.ownerId requested hrevoked with hclosed | hnone
    · exact hkept requested (hclosed row hrow)
    · exact absurd hkey hnone
  have hkeys : Inv env { t.putState new with
      keys := (t.putState new).keys.map fun key =>
        if isRevocable row.ownerId grantId key then revokedKey env draw key else key } history := by
    refine hput.putKeys ?_ ?_
    · rintro owner requested ⟨key', hkey', howner, hgrant, hstatus⟩
      left
      obtain ⟨key, hkey, rfl⟩ := List.mem_map.mp hkey'
      split at howner
      · rename_i hrevocable
        rw [if_pos hrevocable] at hstatus
        exact absurd hstatus (by simp [revokedKey])
      · rename_i hother
        rw [if_neg hother] at hgrant hstatus
        exact ⟨key, hkey, howner, hgrant, hstatus⟩
    · intro key' hkey' grant' hgrant'
      obtain ⟨key, hkey, rfl⟩ := List.mem_map.mp hkey'
      split
      · rename_i hrevocable
        rw [if_pos hrevocable] at hgrant'
        exact hput.within key hkey grant' hgrant'
      · rename_i hother
        rw [if_neg hother] at hgrant'
        exact hput.within key hkey grant' hgrant'
  refine ⟨?_, ?_, hkeys.within⟩
  · intro owner requested hrevoked
    rcases mem_filterMap_cons hrevoked with hlast | hold
    · obtain ⟨rfl, rfl⟩ := Prod.mk.inj (Option.some.inj hlast)
      left
      intro row' hrow'
      obtain rfl := Option.some.inj (hself.symm.trans hrow')
      exact hnew
    · exact hkeys.closed owner requested hold
  · intro owner authority hloaded
    rcases mem_filterMap_cons hloaded with hlast | hold
    · cases hlast
    · exact hkeys.sourced owner authority hold

/-! ## One call -/

theorem revokedGrant_error (call : Call) (e : Failure) : revokedGrant? (call, .error e) = none := by
  cases call with
  | _ => rfl

theorem loadedDocument_error (call : Call) (e : Failure) :
    loadedDocument? (call, .error e) = none := by
  cases call with
  | _ => rfl

theorem commit_inj {tables tables' : Tables} {reply reply' : Except Failure Reply}
    (h : (Ending.commit tables reply : Work) = .commit tables' reply') :
    tables = tables' ∧ reply = reply' := Ending.commit.inj h

theorem verify_commit {rawKey : String} {reply : Except Failure Reply}
    (hwork : verifyEvaluationApiKey env draw rawKey t = .commit t' reply) :
    (t' = t ∧ reply = .ok (.verified none)) ∨ ∃ key ∈ t.keys, ∃ key' found,
      Verified env t key key' found ∧ t' = t.putKey key' ∧ reply = .ok (.verified found) := by
  unfold verifyEvaluationApiKey at hwork
  split at hwork
  · obtain ⟨rfl, rfl⟩ := commit_inj hwork
    exact .inl ⟨rfl, rfl⟩
  · split at hwork
    · obtain ⟨rfl, rfl⟩ := commit_inj hwork
      exact .inl ⟨rfl, rfl⟩
    · rename_i key hfound
      split at hwork
      · cases hwork
      · rename_i key' found hverify
        obtain ⟨rfl, rfl⟩ := commit_inj hwork
        exact .inr ⟨key, List.mem_of_find?_eq_some hfound, key', found,
          verifyKey_verified hverify, rfl, rfl⟩

/-- The invariant, of a database and the calls before. -/
def Sound (w : World env) : Prop := Inv env w.db.1 w.history

theorem Sound.step {w : World env} (h : Sound w) {call : Call × Draw}
    (hsourced : Sourced w call) (hcareful : Careful w call) : Sound (step env w call) := by
  rw [Authority.step, Sound]
  rcases Service.respond_error_or_commit (S := service env) call w.db with
    ⟨e, hrespond⟩ | ⟨tables, reply, hvalid, hwork, hrespond⟩
  · rw [hrespond]
    exact h.cons (revokedGrant_error call.1 e) (loadedDocument_error call.1 e)
  · rw [hrespond]
    dsimp only
    obtain ⟨call, draw⟩ := call
    cases call with
    | loadEvaluationAuthorityState ownerId =>
      have hload : loadEvaluationAuthorityState ownerId w.db.1 = .commit tables reply := hwork
      unfold loadEvaluationAuthorityState at hload
      split at hload
      · cases hload
      · rename_i row hrow
        obtain ⟨rfl, rfl⟩ := commit_inj hload
        exact h.loaded hrow
    | saveEvaluationAuthorityState ownerId raw =>
      have hsave : saveEvaluationAuthorityState draw ownerId raw w.db.1 = .commit tables reply :=
        hwork
      obtain ⟨row, hrow, hterms⟩ := h.sourced ownerId raw hsourced
      rw [saveEvaluationAuthorityState, hrow] at hsave
      obtain ⟨rfl, rfl⟩ := commit_inj hsave
      have hput : Inv env (w.db.1.putState ⟨ownerId, raw, draw.now⟩) w.history :=
        h.putState hrow hterms hcareful
      exact hput.cons rfl rfl
    | createEvaluationAuthorityKey ownerId rawKey entry =>
      have hcreate : createEvaluationAuthorityKey env draw ownerId rawKey entry w.db.1 =
        .commit tables reply := hwork
      unfold createEvaluationAuthorityKey at hcreate
      split at hcreate
      · dsimp only at hcreate
        split at hcreate
        · obtain ⟨rfl, rfl⟩ := commit_inj hcreate
          -- The foreign key of the new row is the state of its owner.
          obtain ⟨state, hstate, howner⟩ := hvalid.2.2.2.1 _
            (List.mem_append_right _ (List.mem_singleton_self _))
          have hsome : (w.db.1.state? ownerId).isSome = true := by
            rw [Tables.state?, List.find?_isSome]
            exact ⟨state, hstate, decide_eq_true howner⟩
          obtain ⟨row, hrow⟩ := Option.isSome_iff_exists.mp hsome
          obtain ⟨hclosed, hlimit⟩ := hcareful row hrow
          exact (h.created hrow hclosed hlimit).cons rfl rfl
        · cases hcreate
      · cases hcreate
    | revokeEvaluationAuthorityGrant ownerId grantId =>
      have hrevoke : revokeEvaluationAuthorityGrant env draw ownerId grantId w.db.1 =
        .commit tables reply := hwork
      unfold revokeEvaluationAuthorityGrant at hrevoke
      split at hrevoke
      · cases hrevoke
      · rename_i row hrow
        split at hrevoke
        · cases hrevoke
        · rename_i grant hgrant
          obtain ⟨rfl, rfl⟩ := commit_inj hrevoke
          exact h.revoked hrow hgrant
    | verifyEvaluationApiKey rawKey =>
      rcases verify_commit hwork with ⟨rfl, rfl⟩ | ⟨key, hkey, key', found, hverified, rfl, rfl⟩
      · exact h.cons rfl rfl
      · exact (h.verified hkey hverified).cons rfl rfl

theorem Sound.lawfulCall {w : World env} (h : Sound w) (call : Call × Draw) :
    LawfulCall w call := by
  obtain ⟨call, draw⟩ := call
  rintro rawKey rfl identity hreply hrevoked
  obtain ⟨tables, -, hwork, -⟩ := Service.commit_of_ok hreply
  rcases verify_commit hwork with ⟨-, hnone⟩ | ⟨key, hkey, key', found, hverified, -, hfound⟩
  · cases hnone
  · obtain rfl := Reply.verified.inj (Except.ok.inj hfound)
    obtain ⟨hsub, hgrantId, henabled, grant, hgrant, hopen⟩ := hverified.identity identity rfl
    rw [hsub, hgrantId] at hrevoked
    rcases h.closed _ _ hrevoked with hclosed | hnone
    · obtain ⟨row, hrow, hrequested⟩ := Option.bind_eq_some_iff.mp hgrant
      rw [hclosed row hrow grant hrequested] at hopen
      cases hopen
    · exact hnone ⟨key, hkey, rfl, rfl, henabled⟩

theorem sound_start {db : (service env).Database} (hwithin : Within db.1) :
    Sound (⟨db, []⟩ : World env) :=
  ⟨fun _ _ h => absurd h List.not_mem_nil, fun _ _ h => absurd h List.not_mem_nil, hwithin⟩

end Inv

/-- In every run of careful calls, revoked grants stay revoked and keys stay within their limits. -/
theorem revoked_stays_revoked (env : Platform) (db : (service env).Database) (hdb : Within db.1)
    (calls : List (Call × Draw))
    (h : Along (step env) (fun w call => Sourced w call ∧ Careful w call) ⟨db, []⟩ calls) :
    Along (step env) LawfulCall ⟨db, []⟩ calls ∧ Within (after (step env) ⟨db, []⟩ calls).db.1 := by
  have hstart : Sound (⟨db, []⟩ : World env) := sound_start hdb
  have hkeeps : ∀ (w : World env) call, Sound w → Sourced w call ∧ Careful w call →
      Sound (step env w call) := fun w call hsound hok => hsound.step hok.1 hok.2
  exact ⟨h.imp hstart hkeeps fun w call hsound _ => hsound.lawfulCall call,
    (h.invariant hstart hkeeps).within⟩

/-! ## Samples -/

namespace Sample

def january : ℤ := 739251 * Pilot.day

def firstHash : String :=
  "pbkdf2_sha256$600000$ABEiM0RVZneImaq7zN3u_w==$1GZQyALxfVOBHfpG7lCT6itfh08xNXKfBDR4Ff8ryG0="

def secondHash : String :=
  "pbkdf2_sha256$600000$ABEiM0RVZneImaq7zN3u_w==$lg_-V4r-SMJ_S-329aWBJ_1atSncjIhdPe816eV4fQY="

def platform : Platform where
  fromisoformat text :=
    if text = "2025-02-01T00:00:00+00:00" then some ⟨january + 31 * Pilot.day, true⟩ else none
  isoformat _ := "2025-01-01T00:00:00+00:00"
  lower text := text
  sha256 text :=
    if text = "pmk_first" then "792a927b7edb513331e2e549b27431f85f4c05eb6525131ba71ab20fcbd17dc6"
    else if text = "pmk_second" then
      "818c04ec65d6cb7fc27e104cace0ab51720707537599dbddf16efc06b2d52d38"
    else "5de99b0db512e18d98312ddff93be77ca07ebb04a3525164ed5da50dc4b07953"
  verifyStoredKey rawKey hashed :=
    rawKey = "pmk_first" && hashed = firstHash || rawKey = "pmk_second" && hashed = secondHash
  lower_ascii _ _ := rfl

def owner : String := "evaluation-owner"

def grantId : String := "eval_0011223344556677"

def grant : EvaluationGrant where
  grantId := grantId
  status := "active"
  expiresAt := "2025-02-01T00:00:00+00:00"
  maxRequests := 5
  executionMode := evaluationExecutionMode
  realRuntimeExecution := true
  productionAllowed := false
  governanceContract := some (evaluationGovernanceContract platform)
  allowedTaskIds := ["sandbox_capability_probe"]
  taskScopeIds := []
  allowedBindingIds := []
  allowedEndpoints := [("GET", "/health/live")]
  taskAuthoritySource := "integration_task_catalog"
  endpointAuthoritySource := "canonical_runtime_access_policy"

def db : (service platform).Database :=
  ⟨⟨[⟨owner, [grant], january⟩], []⟩, show Tables.Valid _ by decide +kernel⟩

theorem db_within : Within db.1 := fun _ hkey => absurd hkey List.not_mem_nil

def draw : Draw := ⟨january, january⟩

def load : Call × Draw := (.loadEvaluationAuthorityState owner, draw)

def save : Call × Draw := (.saveEvaluationAuthorityState owner [grant], draw)

def revoke : Call × Draw := (.revokeEvaluationAuthorityGrant owner grantId, draw)

def create (rawKey hashed : String) (usageCount : ℤ) : Call × Draw :=
  (.createEvaluationAuthorityKey owner rawKey
    { id := "evalkey_" ++ rawKey
      evaluationGrantId := grantId
      hashed := hashed
      usageCount := usageCount
      payload := { quotaLimit := 5 } }, draw)

def verify (rawKey : String) : Call × Draw := (.verifyEvaluationApiKey rawKey, draw)

/-- The document is loaded before the revocation and saved after it; then a key is created. -/
def reopened : List (Call × Draw) := [load, revoke, save, create "pmk_second" secondHash 0]

local instance lawful_grants : LawfulBEq (String × String) := inferInstance

/-- A key of a revoked grant is verified. -/
def verifiesRevoked (w : World platform) (call : Call × Draw) : Bool :=
  match ((service platform).respond call w.db).1 with
  | .ok (.verified (some identity)) =>
    (identity.sub, strip identity.evaluationGrantId) ∈ revokedGrants w.history
  | _ => false

theorem reopened_verifies :
    verifiesRevoked (after (step platform) ⟨db, []⟩ reopened) (verify "pmk_second") = true := by
  decide +kernel

theorem save_sourced :
    (owner, [grant]) ∈ loadedDocuments (after (step platform) ⟨db, []⟩ [load, revoke]).history := by
  decide +kernel

theorem overused_created :
    let t := (after (step platform) ⟨db, []⟩ [create "pmk_first" firstHash 6]).db.1
    t.keys.any (fun key => (t.grantOf key).any fun grant =>
      effectiveLimit grant key.payload.quotaLimit < key.usageCount) = true := by
  decide +kernel

/-- The stale document is saved, and no key is enabled. -/
def closed : List (Call × Draw) :=
  [load, create "pmk_first" firstHash 0, verify "pmk_first", revoke, save, verify "pmk_first"]

theorem closed_sourced : (owner, [grant]) ∈ loadedDocuments (after (step platform) ⟨db, []⟩
    [load, create "pmk_first" firstHash 0, verify "pmk_first", revoke]).history := by
  decide +kernel

theorem closed_disabled : ∀ key ∈ (after (step platform) ⟨db, []⟩
    [load, create "pmk_first" firstHash 0, verify "pmk_first", revoke]).db.1.keys,
    key.status ≠ "enabled" := by
  decide +kernel

theorem closed_not_enabled (requested : String) : ¬ EnabledKey (after (step platform) ⟨db, []⟩
    [load, create "pmk_first" firstHash 0, verify "pmk_first", revoke]).db.1 owner requested := by
  rintro ⟨key, hkey, -, -, hstatus⟩
  exact closed_disabled key hkey hstatus

theorem closed_careful :
    Along (step platform) (fun w call => Sourced w call ∧ Careful w call) ⟨db, []⟩ closed := by
  refine ⟨⟨trivial, trivial⟩, ⟨trivial, ?_⟩, ⟨trivial, trivial⟩, ⟨trivial, trivial⟩,
    ⟨closed_sourced, ?_⟩, ⟨trivial, trivial⟩, trivial⟩
  · intro row hrow
    have hstate : (step platform ⟨db, []⟩ load).db.1.state? owner =
        some ⟨owner, [grant], january⟩ := by decide +kernel
    obtain rfl := Option.some.inj (hstate.symm.trans hrow)
    constructor
    · intro hrevoked
      have hnone : revokedGrants (step platform ⟨db, []⟩ load).history = [] := by decide +kernel
      exact absurd (hnone ▸ hrevoked) List.not_mem_nil
    · intro found hfound
      have hgrant : findEvaluationGrant [grant] grantId = some grant := by decide +kernel
      obtain rfl := Option.some.inj (hgrant.symm.trans hfound)
      decide
  · intro requested _ henabled
    exact absurd henabled (closed_not_enabled requested)

theorem closed_stays_revoked :
    Along (step platform) LawfulCall ⟨db, []⟩ closed ∧
      Within (after (step platform) ⟨db, []⟩ closed).db.1 :=
  revoked_stays_revoked platform db db_within closed closed_careful

end Sample

/-- A revoked grant is used again after a save of a document that was loaded before; and a key is
created beyond its limits. -/
theorem revoked_is_reopened :
    (¬ ∀ (env : Platform) (db : (service env).Database), Within db.1 →
      ∀ calls : List (Call × Draw), Along (step env) Sourced ⟨db, []⟩ calls →
        Along (step env) LawfulCall ⟨db, []⟩ calls) ∧
    ¬ ∀ (env : Platform) (db : (service env).Database), Within db.1 →
      ∀ calls : List (Call × Draw), Along (step env) Sourced ⟨db, []⟩ calls →
        Within (after (step env) ⟨db, []⟩ calls).db.1 := by
  constructor
  · intro hclaim
    have hsourced : Along (step Sample.platform) Sourced ⟨Sample.db, []⟩
        (Sample.reopened ++ [Sample.verify "pmk_second"]) :=
      ⟨trivial, trivial, Sample.save_sourced, trivial, trivial, trivial⟩
    have hlawful := (hclaim Sample.platform Sample.db Sample.db_within _ hsourced).at
    have hverifies := Sample.reopened_verifies
    unfold Sample.verifiesRevoked at hverifies
    split at hverifies
    · rename_i identity hreply
      have hrevoked := of_decide_eq_true hverifies
      exact hlawful "pmk_second" rfl identity hreply hrevoked
    · cases hverifies
  · intro hclaim
    have hwithin := hclaim Sample.platform Sample.db Sample.db_within
      [Sample.create "pmk_first" Sample.firstHash 6] ⟨trivial, trivial⟩
    have hoverused := Sample.overused_created
    dsimp only at hoverused
    obtain ⟨key, hkey, hgrant⟩ := List.any_eq_true.mp hoverused
    obtain ⟨grant, hfound, hbeyond⟩ := (Option.any_eq_true _ _).mp hgrant
    exact absurd (hwithin key hkey grant hfound) (not_le.mpr (of_decide_eq_true hbeyond))

end MaestroKernel.Evaluation.Authority
