import MaestroKernel.ClaimKeys.Store

/-! # Overlapping calls on the claim keys

A save replaces the whole store by what its call has loaded and changed, and nothing ties it to that
load: the later of two saves undoes the earlier one. Keys are redeemed as issued in the runs whose
saves find the store as their call has loaded it. -/

namespace MaestroKernel.ClaimKeys

open Documents Interaction
open Pilot (Digest day)

abbrev KeyWorld := World (Call × Draw) Store Outcome

abbrev KeyClients := Clients (Call × Draw) Store Refusal Outcome

abbrev KeyEntry := Entry (Call × Draw) Store Outcome

namespace Outcome

def issued? : Outcome → Option SafeClaim
  | issued _ claimKey => some claimKey
  | _ => none

def opened? : Outcome → Option OnboardingCase
  | redeemed _ onboardingCase => some onboardingCase
  | _ => none

def revokes (claimKeyId : String) : Outcome → Prop
  | revoked claimKey => claimKey.claimKeyId = claimKeyId
  | _ => False

end Outcome

def issuedKeys (log : List KeyEntry) : List SafeClaim :=
  log.filterMap fun entry => entry.outcome.issued?

def openedCases (log : List KeyEntry) : List OnboardingCase :=
  log.filterMap fun entry => entry.outcome.opened?

/-- What no call changes of a key. -/
structure Claim.SameKey (k k' : Claim) : Prop where
  claimKeyId : k'.claimKeyId = k.claimKeyId
  issuedTo : k'.issuedTo = k.issuedTo
  operatorOrgId : k'.operatorOrgId = k.operatorOrgId
  expiresAt : k'.expiresAt = k.expiresAt
  oneTimeUse : k'.oneTimeUse = k.oneTimeUse
  issuedAt : k'.issuedAt = k.issuedAt
  issuedBy : k'.issuedBy = k.issuedBy

/-- Keys are redeemed as issued: of the calls that have saved, in their order, and of the store
behind them. -/
structure RedeemedAsIssued (w : KeyWorld) : Prop where
  one_case : ∀ key ∈ issuedKeys w.log, key.oneTimeUse = true →
    ((openedCases w.log).filter fun c => c.claimKeyId = key.claimKeyId).length ≤ 1
  revoked : w.log.Pairwise fun earlier later => ∀ claimKeyId,
    earlier.outcome.revokes claimKeyId →
      ∀ c, later.outcome.opened? = some c → c.claimKeyId ≠ claimKeyId
  case_kept : ∀ c ∈ openedCases w.log, c ∈ w.document.onboardingCases
  key_kept : ∀ key ∈ issuedKeys w.log, ∃ record ∈ w.document.claimKeys,
    key.toClaim.SameKey record.toClaim

/-- A key keeps what it was issued with, and stays revoked and claimed. -/
structure ClaimRecord.Later (k k' : ClaimRecord) : Prop where
  same : k.toClaim.SameKey k'.toClaim
  hash : k'.claimKeyHash = k.claimKeyHash
  revoked : k.revoked = true → k'.revoked = true
  claimed : k.claimed = true → k'.claimed = true

theorem Claim.SameKey.refl (k : Claim) : k.SameKey k := ⟨rfl, rfl, rfl, rfl, rfl, rfl, rfl⟩

theorem Claim.SameKey.trans {a b c : Claim} (hab : a.SameKey b) (hbc : b.SameKey c) :
    a.SameKey c where
  claimKeyId := hbc.claimKeyId.trans hab.claimKeyId
  issuedTo := hbc.issuedTo.trans hab.issuedTo
  operatorOrgId := hbc.operatorOrgId.trans hab.operatorOrgId
  expiresAt := hbc.expiresAt.trans hab.expiresAt
  oneTimeUse := hbc.oneTimeUse.trans hab.oneTimeUse
  issuedAt := hbc.issuedAt.trans hab.issuedAt
  issuedBy := hbc.issuedBy.trans hab.issuedBy

theorem ClaimRecord.Later.refl (k : ClaimRecord) : k.Later k :=
  ⟨.refl _, rfl, id, id⟩

theorem ClaimRecord.Later.trans {a b c : ClaimRecord} (hab : a.Later b) (hbc : b.Later c) :
    a.Later c where
  same := hab.same.trans hbc.same
  hash := hbc.hash.trans hab.hash
  revoked h := hbc.revoked (hab.revoked h)
  claimed h := hbc.claimed (hab.claimed h)

def Store.ids (store : Store) : List String := store.claimKeys.map fun record => record.claimKeyId

/-- A later store has the keys of an earlier one, in their places, and its cases. -/
structure Extends (s s' : Store) : Prop where
  ids : s.ids <+: s'.ids
  key : ∀ k ∈ s.claimKeys, ∃ k' ∈ s'.claimKeys, k.Later k'
  case : ∀ c ∈ s.onboardingCases, c ∈ s'.onboardingCases

theorem Extends.refl (s : Store) : Extends s s :=
  ⟨List.prefix_rfl, fun k hk => ⟨k, hk, .refl k⟩, fun _ hc => hc⟩

theorem Extends.trans {a b c : Store} (hab : Extends a b) (hbc : Extends b c) : Extends a c where
  ids := hab.ids.trans hbc.ids
  key k hk := by
    obtain ⟨k', hk', hlater⟩ := hab.key k hk
    obtain ⟨k'', hk'', hlater'⟩ := hbc.key k' hk'
    exact ⟨k'', hk'', hlater.trans hlater'⟩
  case x hx := hbc.case x (hab.case x hx)

section Calls

variable {env : Platform} {s s' : Store} {call : Call × Draw} {outcome : Outcome}

/-! ## One call -/

/-- What a call that saves does to the store that it has loaded. -/
inductive Move (s s' : Store) : Outcome → Prop where
  | issue (raw : String) (record : ClaimRecord)
      (hnext : s' = { s with claimKeys := s.claimKeys ++ [record] }) :
      Move s s' (.issued raw (sanitizeClaim record))
  | revoke (finds : ClaimRecord → Bool) (old new : ClaimRecord)
      (hfound : s.claimKeys.find? finds = some old) (hlater : old.Later new)
      (hrevoked : new.revoked = true) (hnext : s' = s.change finds new) :
      Move s s' (.revoked (sanitizeClaim new))
  | expire (finds : ClaimRecord → Bool) (old new : ClaimRecord)
      (hfound : s.claimKeys.find? finds = some old) (hlater : old.Later new)
      (hnext : s' = s.change finds new) :
      Move s s' (.expired (sanitizeClaim new))
  | redeem (finds : ClaimRecord → Bool) (old new : ClaimRecord) (opened : OnboardingCase)
      (hfound : s.claimKeys.find? finds = some old) (hlater : old.Later new)
      (hactive : old.revoked = false) (hfree : old.oneTimeUse = true → old.claimed = false)
      (hclaimed : new.claimed = true) (hid : opened.claimKeyId = new.claimKeyId)
      (hnext : s' = { s.change finds new with
        onboardingCases := s.onboardingCases ++ [opened] }) :
      Move s s' (.redeemed (sanitizeClaim new) opened)

theorem claimedRecord_claimed (draw : Draw) (payload : RedeemRequest) (record : ClaimRecord) :
    (claimedRecord env draw payload record).claimed = true := by
  simp [claimedRecord, Claim.claimed, env.iso_ne]

theorem claimedRecord_later (draw : Draw) (payload : RedeemRequest) (record : ClaimRecord) :
    record.Later (claimedRecord env draw payload record) :=
  ⟨⟨rfl, rfl, rfl, rfl, rfl, rfl, rfl⟩, rfl, id, fun _ => claimedRecord_claimed draw payload record⟩

theorem redeem_move {draw : Draw} {payload : RedeemRequest}
    (h : redeemIntegrationClaimKey env draw payload s = .ok (s', outcome)) :
    Move s s' outcome := by
  unfold redeemIntegrationClaimKey at h
  split at h
  · cases h
  · dsimp only at h
    split at h
    · cases h
    · rename_i record hfound
      split at h
      · cases h
      · rename_i hactive
        split at h
        · cases h
        · obtain ⟨rfl, rfl⟩ := Prod.mk.inj (Except.ok.inj h)
          have hlater : record.Later { record with status := .expired } :=
            ⟨⟨rfl, rfl, rfl, rfl, rfl, rfl, rfl⟩, rfl, id, id⟩
          exact .expire _ record _ hfound hlater rfl
        · split at h
          · cases h
          · rename_i hfree
            obtain ⟨rfl, rfl⟩ := Prod.mk.inj (Except.ok.inj h)
            refine .redeem _ record _ _ hfound (claimedRecord_later draw payload record)
              (Bool.eq_false_iff.mpr hactive) ?_ (claimedRecord_claimed draw payload record) rfl rfl
            intro honce
            rw [honce, Bool.true_and] at hfree
            exact Bool.eq_false_iff.mpr hfree

theorem move_of_service (h : claimKeyService env call s = .ok (s', outcome)) :
    Move s s' outcome := by
  obtain ⟨call, draw⟩ := call
  cases call with
  | issueIntegrationClaimKey payload issuedBy =>
    rw [claimKeyService, issueIntegrationClaimKey] at h
    split at h
    · cases h
    · obtain ⟨rfl, rfl⟩ := Prod.mk.inj (Except.ok.inj h)
      exact .issue _ _ rfl
  | revokeIntegrationClaimKey claimKeyId revokedBy reason =>
    rw [claimKeyService, revokeIntegrationClaimKey] at h
    dsimp only at h
    split at h
    · cases h
    · rename_i record hfound
      obtain ⟨rfl, rfl⟩ := Prod.mk.inj (Except.ok.inj h)
      have hlater : record.Later (revokedRecord env draw record revokedBy reason) :=
        ⟨⟨rfl, rfl, rfl, rfl, rfl, rfl, rfl⟩, rfl, fun _ => rfl, id⟩
      exact .revoke _ record _ hfound hlater rfl rfl
  | redeemIntegrationClaimKey payload => exact redeem_move h

/-! A record that is changed in place is the later version of the one that was found. -/

section Change

variable {finds : ClaimRecord → Bool} {old new : ClaimRecord}

theorem change_ids (hfound : s.claimKeys.find? finds = some old) (hlater : old.Later new) :
    (s.change finds new).ids = s.ids :=
  First.map_replace_of_eq hfound hlater.same.claimKeyId

theorem change_extends (hfound : s.claimKeys.find? finds = some old) (hlater : old.Later new) :
    Extends s (s.change finds new) where
  ids := (change_ids hfound hlater).symm ▸ List.prefix_rfl
  key := First.exists_replace hfound ClaimRecord.Later.refl hlater
  case _ hc := hc

end Change

theorem Move.extends (hmove : Move s s' outcome) : Extends s s' := by
  cases hmove with
  | issue raw record hnext =>
    subst hnext
    refine ⟨?_, fun k hk => ⟨k, List.mem_append_left _ hk, .refl k⟩, fun _ hc => hc⟩
    rw [Store.ids, Store.ids, List.map_append]
    exact List.prefix_append _ _
  | revoke finds old new hfound hlater _ hnext => exact hnext ▸ change_extends hfound hlater
  | expire finds old new hfound hlater hnext => exact hnext ▸ change_extends hfound hlater
  | redeem finds old new opened hfound hlater _ _ _ _ hnext =>
    have hchanged := change_extends hfound hlater
    subst hnext
    exact ⟨hchanged.ids, hchanged.key, fun _ hc => List.mem_append_left _ hc⟩

theorem Move.ids (hmove : Move s s' outcome) :
    s'.ids = s.ids ++ (outcome.issued?.map fun key => key.claimKeyId).toList := by
  cases hmove with
  | issue raw record hnext =>
    subst hnext
    exact List.map_append
  | revoke finds old new hfound hlater _ hnext =>
    subst hnext
    exact (change_ids hfound hlater).trans (List.append_nil _).symm
  | expire finds old new hfound hlater hnext =>
    subst hnext
    exact (change_ids hfound hlater).trans (List.append_nil _).symm
  | redeem finds old new opened hfound hlater _ _ _ _ hnext =>
    subst hnext
    exact (change_ids hfound hlater).trans (List.append_nil _).symm

theorem Move.issued_mem (hmove : Move s s' outcome) {key : SafeClaim}
    (hissued : outcome.issued? = some key) :
    ∃ record ∈ s'.claimKeys, key.toClaim = record.toClaim := by
  cases hmove with
  | issue raw record hnext =>
    obtain rfl := Option.some.inj hissued
    subst hnext
    exact ⟨record, List.mem_append_right _ (List.mem_singleton_self record), rfl⟩
  | revoke => cases hissued
  | expire => cases hissued
  | redeem => cases hissued

theorem Move.revoked_mem (hmove : Move s s' outcome) {claimKeyId : String}
    (hrevokes : outcome.revokes claimKeyId) :
    ∃ record ∈ s'.claimKeys, record.claimKeyId = claimKeyId ∧ record.revoked = true := by
  cases hmove with
  | revoke finds old new hfound _ hrevoked hnext =>
    subst hnext
    exact ⟨new, First.mem_replace_self hfound, hrevokes, hrevoked⟩
  | issue => exact hrevokes.elim
  | expire => exact hrevokes.elim
  | redeem => exact hrevokes.elim

theorem Move.opens (hmove : Move s s' outcome) {c : OnboardingCase}
    (hopened : outcome.opened? = some c) :
    c ∈ s'.onboardingCases ∧
      (∃ old ∈ s.claimKeys, old.claimKeyId = c.claimKeyId ∧ old.revoked = false ∧
        (old.oneTimeUse = true → old.claimed = false)) ∧
      ∃ new ∈ s'.claimKeys, new.claimKeyId = c.claimKeyId ∧ new.claimed = true := by
  cases hmove with
  | redeem finds old new opened hfound hlater hactive hfree hclaimed hid hnext =>
    obtain rfl := Option.some.inj hopened
    subst hnext
    refine ⟨List.mem_append_right _ (List.mem_singleton_self opened), ?_, ?_⟩
    · exact ⟨old, List.mem_of_find?_eq_some hfound, hlater.same.claimKeyId.symm.trans hid.symm,
        hactive, hfree⟩
    · exact ⟨new, First.mem_replace_self hfound, hid.symm, hclaimed⟩
  | issue => cases hopened
  | revoke => cases hopened
  | expire => cases hopened

end Calls

/-! ## Whole calls -/

section Runs

variable {env : Platform} {w : KeyWorld}

theorem service_extends (call : Call × Draw) (s next : Store) (outcome : Outcome) (_ : True)
    (h : claimKeyService env call s = .ok (next, outcome)) : True ∧ Extends s next :=
  ⟨trivial, (move_of_service h).extends⟩

theorem serial_ids (h : Serial (claimKeyService env) {} w) :
    w.document.ids = (issuedKeys w.log).map fun key => key.claimKeyId := by
  induction h with
  | start => rfl
  | @step w call next outcome _ hperform ih =>
    rw [(move_of_service hperform).ids, ih, issuedKeys, issuedKeys, List.filterMap_append,
      List.map_append]
    cases hissued : outcome.issued? with
    | none => simp [hissued]
    | some key => simp [hissued]

theorem ids_inj {s : Store} (hnodup : s.ids.Nodup) {k k' : ClaimRecord} (hk : k ∈ s.claimKeys)
    (hk' : k' ∈ s.claimKeys) (hid : k.claimKeyId = k'.claimKeyId) : k = k' :=
  List.inj_on_of_nodup_map hnodup hk hk' hid

theorem length_filter_le_one {α β : Type} {f : α → Option β} {p : β → Bool} {xs : List α}
    (h : xs.Pairwise fun x y => ∀ b, f x = some b → p b = true →
      ∀ c, f y = some c → p c = false) : ((xs.filterMap f).filter p).length ≤ 1 := by
  induction xs with
  | nil => exact Nat.zero_le 1
  | cons x xs ih =>
    obtain ⟨hx, hxs⟩ := List.pairwise_cons.mp h
    cases hfx : f x with
    | none =>
      rw [List.filterMap_cons_none hfx]
      exact ih hxs
    | some b =>
      rw [List.filterMap_cons_some hfx]
      by_cases hb : p b = true
      · have hrest : (xs.filterMap f).filter p = [] := by
          rw [List.filter_eq_nil_iff]
          intro c hc
          obtain ⟨y, hy, hfy⟩ := List.mem_filterMap.mp hc
          rw [hx y hy b hfx hb c hfy]
          exact Bool.false_ne_true
        rw [List.filter_cons_of_pos hb, hrest]
        exact le_rfl
      · rw [List.filter_cons_of_neg hb]
        exact ih hxs

/-- Keys are redeemed as issued when no two calls overlap in their saves. -/
theorem redeemed_as_issued {cfg : KeyClients}
    (h : (machine (claimKeyService env)).Reaches Undisturbed (Machine.init ⟨{}, []⟩) cfg)
    (hfresh : ((issuedKeys cfg.shared.log).map fun key => key.claimKeyId).Nodup) :
    RedeemedAsIssued cfg.shared := by
  have hserial := serial_of_undisturbed h
  have hkept := hserial.kept trivial Extends.refl (fun _ _ _ => Extends.trans) service_extends
  have hpairs := hserial.pairwise trivial Extends.refl (fun _ _ _ => Extends.trans) service_extends
  have hran := hserial.performed trivial fun call s next outcome hs hperform =>
    (service_extends call s next outcome hs hperform).1
  have hfinal : cfg.shared.document.ids.Nodup := (serial_ids hserial).symm ▸ hfresh
  have hkeys : ∀ key ∈ issuedKeys cfg.shared.log, ∃ record ∈ cfg.shared.document.claimKeys,
      key.toClaim.SameKey record.toClaim := by
    intro key hkey
    obtain ⟨entry, hentry, hissued⟩ := List.mem_filterMap.mp hkey
    obtain ⟨s, -, hperform⟩ := hran entry hentry
    obtain ⟨record, hrecord, hsame⟩ := (move_of_service hperform).issued_mem hissued
    obtain ⟨record', hrecord', hlater⟩ := (hkept entry hentry).key record hrecord
    exact ⟨record', hrecord', hsame ▸ hlater.same⟩
  have hcases : ∀ c ∈ openedCases cfg.shared.log, c ∈ cfg.shared.document.onboardingCases := by
    intro c hc
    obtain ⟨entry, hentry, hopened⟩ := List.mem_filterMap.mp hc
    obtain ⟨s, -, hperform⟩ := hran entry hentry
    exact (hkept entry hentry).case c ((move_of_service hperform).opens hopened).1
  refine ⟨?_, ?_, hcases, hkeys⟩
  · intro key hkey honce
    obtain ⟨final, hfinalMem, hsame⟩ := hkeys key hkey
    refine length_filter_le_one (hpairs.imp_of_mem fun {earlier later} hearlier hlater => ?_)
    rintro ⟨s, -, hextends, hperform⟩ c hc hcid c' hc'
    rw [decide_eq_true_eq] at hcid
    rw [decide_eq_false_iff_not]
    intro hcid'
    obtain ⟨s₀, -, hperform₀⟩ := hran earlier hearlier
    -- The first opening has left the record claimed, and the second one has found it free.
    obtain ⟨-, -, new, hnew, hnewId, hclaimed⟩ := (move_of_service hperform₀).opens hc
    obtain ⟨-, ⟨old, hold, holdId, -, hfree⟩, -⟩ := (move_of_service hperform).opens hc'
    obtain ⟨new', hnew', hnewLater⟩ := hextends.key new hnew
    have htoFinal : Extends s cfg.shared.document :=
      (move_of_service hperform).extends.trans (hkept later hlater)
    obtain rfl := ids_inj (hfinal.sublist htoFinal.ids.sublist) hnew' hold
      (hnewLater.same.claimKeyId.trans (hnewId.trans (hcid.trans
        (hcid'.symm.trans holdId.symm))))
    obtain ⟨record, hrecord, hrecordLater⟩ := htoFinal.key new' hnew'
    obtain rfl := ids_inj hfinal hrecord hfinalMem
      (hrecordLater.same.claimKeyId.trans (holdId.trans (hcid'.trans hsame.claimKeyId.symm)))
    have honce' : new'.oneTimeUse = true :=
      hrecordLater.same.oneTimeUse.symm.trans (hsame.oneTimeUse.trans honce)
    rw [hnewLater.claimed hclaimed] at hfree
    exact Bool.noConfusion (hfree honce')
  · refine hpairs.imp_of_mem fun {earlier later} hearlier hlater => ?_
    rintro ⟨s, -, hextends, hperform⟩ claimKeyId hrevokes c hc hcid
    obtain ⟨s₀, -, hperform₀⟩ := hran earlier hearlier
    obtain ⟨record, hrecord, hrecordId, hrevoked⟩ :=
      (move_of_service hperform₀).revoked_mem hrevokes
    obtain ⟨-, ⟨old, hold, holdId, hactive, -⟩, -⟩ := (move_of_service hperform).opens hc
    obtain ⟨record', hrecord', hrecordLater⟩ := hextends.key record hrecord
    have htoFinal : Extends s cfg.shared.document :=
      (move_of_service hperform).extends.trans (hkept later hlater)
    obtain rfl := ids_inj (hfinal.sublist htoFinal.ids.sublist) hrecord' hold
      (hrecordLater.same.claimKeyId.trans (hrecordId.trans (hcid.symm.trans holdId.symm)))
    rw [hrecordLater.revoked hrevoked] at hactive
    cases hactive

end Runs

/-! ## Two redemptions from one load -/

namespace Sample

def keyDigest : Digest :=
  ⟨"0212d2a75a86f26f8f6764128c67924ec6a66b34dc67ca216c41401ba73bf7a0", by decide +kernel⟩

def platform : Platform where
  fromisoformat _ := some ⟨739265 * day, true⟩
  iso _ := "2025-01-15T00:00:00Z"
  sha256 _ := keyDigest
  iso_ne _ := by decide

def draw (uuid : String) : Draw := ⟨739251 * day, 739251 * day, uuid, "secret"⟩

def issue : Call × Draw := (.issueIntegrationClaimKey {} "supervisor", draw "a")

def redeem (uuid : String) : Call × Draw :=
  (.redeemIntegrationClaimKey { claimKey := some ⟨"ick_a.secret", true⟩ }, draw uuid)

def revoke : Call × Draw := (.revokeIntegrationClaimKey "ick_a" "supervisor" "", draw "d")

/-- Both redemptions load the issued key, and then both save. -/
def overlapping : List (Event (Call × Draw) Unit) :=
  [.start 0 issue, .run 0 (), .run 0 (), .start 1 (redeem "b"), .start 2 (redeem "c"),
    .run 1 (), .run 2 (), .run 1 (), .run 2 ()]

def oneByOne : List (Event (Call × Draw) Unit) :=
  [.start 0 issue, .run 0 (), .run 0 (), .start 1 (redeem "b"), .run 1 (), .run 1 (),
    .start 2 revoke, .run 2 (), .run 2 (), .start 3 (redeem "c"), .run 3 ()]

structure Summary where
  issued : List (String × Bool)
  opened : List (String × String)
  kept : List String
deriving DecidableEq

def summary (cfg : KeyClients) : Summary where
  issued := (issuedKeys cfg.shared.log).map fun key => (key.claimKeyId, key.oneTimeUse)
  opened := (openedCases cfg.shared.log).map fun c => (c.caseId, c.claimKeyId)
  kept := cfg.shared.document.onboardingCases.map fun c => c.caseId

theorem overlapping_opens_twice :
    ((machine (claimKeyService platform)).run overlapping (Machine.init ⟨{}, []⟩)).map summary =
      some ⟨[("ick_a", true)], [("onb_b", "ick_a"), ("onb_c", "ick_a")], ["onb_c"]⟩ := by
  decide +kernel

theorem oneByOne_opens_once :
    ((machine (claimKeyService platform)).runIf undisturbedCheck oneByOne
      (Machine.init ⟨{}, []⟩)).map summary =
      some ⟨[("ick_a", true)], [("onb_b", "ick_a")], ["onb_b"]⟩ := by
  decide +kernel

end Sample

/-- Two redemptions of a one-time key from one load both open a case, and the first case is lost. -/
theorem not_redeemed_as_issued :
    ¬ ∀ (env : Platform) (cfg : KeyClients),
      (machine (claimKeyService env)).Reaches (fun _ _ => True) (Machine.init ⟨{}, []⟩) cfg →
        ((issuedKeys cfg.shared.log).map fun key => key.claimKeyId).Nodup →
          RedeemedAsIssued cfg.shared := by
  intro hclaim
  obtain ⟨cfg, hrun, hsummary⟩ := Option.map_eq_some_iff.mp Sample.overlapping_opens_twice
  have hissued := congrArg Sample.Summary.issued hsummary
  have hopened := congrArg Sample.Summary.opened hsummary
  have hkept := congrArg Sample.Summary.kept hsummary
  have hnodup : ((issuedKeys cfg.shared.log).map fun key => key.claimKeyId).Nodup := by
    have hids := congrArg (List.map Prod.fst) hissued
    simp only [Sample.summary, List.map_map] at hids
    have hfst : (issuedKeys cfg.shared.log).map (fun key => key.claimKeyId) = ["ick_a"] := hids
    rw [hfst]
    decide
  have hlost := (hclaim _ cfg (Machine.run_reaches hrun) hnodup).case_kept
  have hmem : ("onb_b", "ick_a") ∈ (openedCases cfg.shared.log).map fun c =>
      (c.caseId, c.claimKeyId) := by
    have hsame : (openedCases cfg.shared.log).map (fun c => (c.caseId, c.claimKeyId)) =
        [("onb_b", "ick_a"), ("onb_c", "ick_a")] := hopened
    rw [hsame]
    exact List.mem_cons_self
  obtain ⟨c, hc, hid⟩ := List.mem_map.mp hmem
  have hcaseId : c.caseId = "onb_b" := congrArg Prod.fst hid
  have hdocument : c.caseId ∈ cfg.shared.document.onboardingCases.map fun c => c.caseId :=
    List.mem_map_of_mem (hlost c hc)
  have hids : cfg.shared.document.onboardingCases.map (fun c => c.caseId) = ["onb_c"] := hkept
  rw [hids, hcaseId] at hdocument
  exact absurd hdocument (by decide)

/-- One call after the other, the key opens one case, and none after its revocation. -/
theorem oneByOne_redeemed_as_issued :
    ∃ cfg : KeyClients, Sample.summary cfg =
        ⟨[("ick_a", true)], [("onb_b", "ick_a")], ["onb_b"]⟩ ∧ RedeemedAsIssued cfg.shared := by
  obtain ⟨cfg, hrun, hsummary⟩ := Option.map_eq_some_iff.mp Sample.oneByOne_opens_once
  refine ⟨cfg, hsummary,
    redeemed_as_issued (Machine.runIf_reaches undisturbed_of_check hrun) ?_⟩
  have hids := congrArg (fun summary => summary.issued.map Prod.fst) hsummary
  simp only [Sample.summary, List.map_map] at hids
  have hfst : (issuedKeys cfg.shared.log).map (fun key => key.claimKeyId) = ["ick_a"] := hids
  rw [hfst]
  decide

end MaestroKernel.ClaimKeys
