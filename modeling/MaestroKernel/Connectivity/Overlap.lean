import MaestroKernel.Connectivity.Runs
import MaestroKernel.Library.Documents

/-! # Overlapping calls on the case store

A save replaces the whole store, and nothing ties it to the load of its call: the revision of the
case is compared with the snapshot that was loaded. No update is lost in the runs whose saves find
the store as their call has loaded it. -/

namespace MaestroKernel.Connectivity

open Checked Documents Interaction JsonText Records

variable {env : Environment} {s s' : CaseStoreSnapshot env} {call : Call} {outcome : Outcome env}

def lifecycle (env : Environment) : Service Call (CaseStoreSnapshot env) Error (Outcome env) :=
  fun call s => s.perform call

abbrev CaseWorld (env : Environment) := World Call (CaseStoreSnapshot env) (Outcome env)

/-! ## What later stores keep -/

/-- What no call changes of a key. -/
def QualificationKeyFields.terms (k : QualificationKeyFields) : QualificationKeyFields :=
  { k with
    status := .issued, redeemedAt := .null, redeemedBy := .null, revokedAt := .null
    revokedBy := .null }

def SandboxApiKeyFields.terms (k : SandboxApiKeyFields) : SandboxApiKeyFields :=
  { k with
    status := .issued, suspendedAt := .null, suspendedBy := .null, revokedAt := .null
    revokedBy := .null }

/-- A key goes from issued to redeemed or revoked and keeps the marks of both. -/
structure QualificationKeyFields.Later (k k' : QualificationKeyFields) : Prop where
  terms : k'.terms = k.terms
  redeemed : k.status ≠ .issued →
    k'.status ≠ .issued ∧ k'.redeemedAt = k.redeemedAt ∧ k'.redeemedBy = k.redeemedBy
  revoked : k.status = .revoked → k' = k

structure SandboxApiKeyFields.Later (k k' : SandboxApiKeyFields) : Prop where
  terms : k'.terms = k.terms
  suspended : k.status ≠ .issued →
    k'.status ≠ .issued ∧ k'.suspendedAt = k.suspendedAt ∧ k'.suspendedBy = k.suspendedBy
  revoked : k.status = .revoked → k' = k

theorem QualificationKeyFields.Later.refl (k : QualificationKeyFields) : k.Later k :=
  ⟨rfl, fun h => ⟨h, rfl, rfl⟩, fun _ => rfl⟩

theorem SandboxApiKeyFields.Later.refl (k : SandboxApiKeyFields) : k.Later k :=
  ⟨rfl, fun h => ⟨h, rfl, rfl⟩, fun _ => rfl⟩

theorem QualificationKeyFields.Later.trans {a b c : QualificationKeyFields} (hab : a.Later b)
    (hbc : b.Later c) : a.Later c := by
  refine ⟨hbc.terms.trans hab.terms, ?_, ?_⟩
  · intro ha
    obtain ⟨hb, hat, hby⟩ := hab.redeemed ha
    obtain ⟨hc, hat', hby'⟩ := hbc.redeemed hb
    exact ⟨hc, hat'.trans hat, hby'.trans hby⟩
  · intro ha
    obtain rfl := hab.revoked ha
    exact hbc.revoked ha

theorem SandboxApiKeyFields.Later.trans {a b c : SandboxApiKeyFields} (hab : a.Later b)
    (hbc : b.Later c) : a.Later c := by
  refine ⟨hbc.terms.trans hab.terms, ?_, ?_⟩
  · intro ha
    obtain ⟨hb, hat, hby⟩ := hab.suspended ha
    obtain ⟨hc, hat', hby'⟩ := hbc.suspended hb
    exact ⟨hc, hat'.trans hat, hby'.trans hby⟩
  · intro ha
    obtain rfl := hab.revoked ha
    exact hbc.revoked ha

/-- A later store has every record of an earlier one: papers as they are, cases under a revision that
is not smaller, keys under a later status. -/
structure Extends (s s' : CaseStoreSnapshot env) : Prop where
  case : ∀ c ∈ s.cases, ∃ c' ∈ s'.cases, c'.identity = c.identity ∧ c.revision ≤ c'.revision
  package : ∀ p ∈ s.customerReferencePackages, p ∈ s'.customerReferencePackages
  assessment : ∀ a ∈ s.readinessAssessments, a ∈ s'.readinessAssessments
  attestation : ∀ t ∈ s.supervisorReadinessAttestations, t ∈ s'.supervisorReadinessAttestations
  qualificationKey : ∀ k ∈ s.qualificationKeys, ∃ k' ∈ s'.qualificationKeys,
    k.toQualificationKeyFields.Later k'.toQualificationKeyFields
  sandboxApiKey : ∀ k ∈ s.sandboxApiKeys, ∃ k' ∈ s'.sandboxApiKeys,
    k.toSandboxApiKeyFields.Later k'.toSandboxApiKeyFields

theorem Extends.refl (s : CaseStoreSnapshot env) : Extends s s where
  case c hc := ⟨c, hc, rfl, le_rfl⟩
  package _ hp := hp
  assessment _ ha := ha
  attestation _ ht := ht
  qualificationKey k hk := ⟨k, hk, .refl _⟩
  sandboxApiKey k hk := ⟨k, hk, .refl _⟩

theorem Extends.trans {a b c : CaseStoreSnapshot env} (hab : Extends a b) (hbc : Extends b c) :
    Extends a c where
  case x hx := by
    obtain ⟨y, hy, hidentity, hrevision⟩ := hab.case x hx
    obtain ⟨z, hz, hidentity', hrevision'⟩ := hbc.case y hy
    exact ⟨z, hz, hidentity'.trans hidentity, hrevision.trans hrevision'⟩
  package p hp := hbc.package p (hab.package p hp)
  assessment a ha := hbc.assessment a (hab.assessment a ha)
  attestation t ht := hbc.attestation t (hab.attestation t ht)
  qualificationKey k hk := by
    obtain ⟨k', hk', hlater⟩ := hab.qualificationKey k hk
    obtain ⟨k'', hk'', hlater'⟩ := hbc.qualificationKey k' hk'
    exact ⟨k'', hk'', hlater.trans hlater'⟩
  sandboxApiKey k hk := by
    obtain ⟨k', hk', hlater⟩ := hab.sandboxApiKey k hk
    obtain ⟨k'', hk'', hlater'⟩ := hbc.sandboxApiKey k' hk'
    exact ⟨k'', hk'', hlater.trans hlater'⟩

/-- A row that is put over an old one is a later version of it; the others stay. -/
theorem exists_put {α : Type} {key : α → String} {xs : List α} {old row : α}
    {R : α → α → Prop} (hunique : (xs.map key).Nodup) (hold : old ∈ xs)
    (hkey : key row = key old) (hrefl : ∀ x, R x x) (hrow : R old row) :
    ∀ x ∈ xs, ∃ x' ∈ Table.put key xs row, R x x' := by
  intro x hx
  by_cases heq : key x = key row
  · obtain rfl := List.inj_on_of_nodup_map hunique hx hold (heq.trans hkey)
    exact ⟨row, Table.mem_put_self hold hkey, hrow⟩
  · exact ⟨x, Table.mem_put_of_ne hx heq, hrefl x⟩

section Moves

variable {old new : ConnectivityCase} {state : CaseState}

theorem replaceCase_case (hs : s.Distinct) (hold : old ∈ s.cases) (hmoved : Moved old new state) :
    ∀ c ∈ s.cases, ∃ c' ∈ (s.replaceCase new).cases,
      c'.identity = c.identity ∧ c.revision ≤ c'.revision := by
  apply exists_put (R := fun c c' => c'.identity = c.identity ∧ c.revision ≤ c'.revision)
    hs.cases hold hmoved.caseId
  · exact fun _ => ⟨rfl, le_rfl⟩
  · exact ⟨hmoved.identity, hmoved.revision.le⟩

theorem Move.extends (hs : s.Distinct) (hmove : Move s call s' outcome) : Extends s s' := by
  cases hmove with
  | create c _ _ _ _ =>
    exact { Extends.refl s with
      case := fun c hc => ⟨c, List.mem_append_left _ hc, rfl, le_rfl⟩ }
  | submit old new p hold _ hmoved _ _ _ =>
    exact { Extends.refl s with
      case := replaceCase_case hs hold hmoved
      package := fun _ hp => List.mem_append_left _ hp }
  | review old new a state hold _ hmoved _ _ _ _ _ _ =>
    exact { Extends.refl s with
      case := replaceCase_case hs hold hmoved
      assessment := fun _ ha => List.mem_append_left _ ha }
  | decide old new a t hold _ hmoved _ _ _ _ _ _ _ _ =>
    exact { Extends.refl s with
      case := replaceCase_case hs hold hmoved
      attestation := fun _ ht => List.mem_append_left _ ht }
  | issueQualificationKey old new t k raw hold _ hmoved _ _ _ _ _ _ _ _ _ _ _ _ =>
    exact { Extends.refl s with
      case := replaceCase_case hs hold hmoved
      qualificationKey := fun k hk => ⟨k, List.mem_append_left _ hk, .refl _⟩ }
  | redeemQualificationKey old new k redeemed hold _ hmoved _ hk _ hstatus hfields _ =>
    have hlater : k.toQualificationKeyFields.Later redeemed.toQualificationKeyFields := by
      rw [hfields]
      exact ⟨rfl, fun hne => absurd hstatus hne, fun hrevoked => by
        rw [hstatus] at hrevoked
        cases hrevoked⟩
    exact { Extends.refl s with
      case := replaceCase_case hs hold hmoved
      qualificationKey := exists_put hs.qualificationKeys hk (by rw [hfields])
        (fun _ => .refl _) hlater }
  | revokeQualificationKey old new k revoked hold _ hmoved _ hk _ hstatus _ hfields _ =>
    have hlater : k.toQualificationKeyFields.Later revoked.toQualificationKeyFields := by
      rw [hfields]
      exact ⟨rfl, fun _ => ⟨by simp, rfl, rfl⟩, fun hrevoked => absurd hrevoked hstatus⟩
    exact { Extends.refl s with
      case := replaceCase_case hs hold hmoved
      qualificationKey := exists_put hs.qualificationKeys hk (by rw [hfields])
        (fun _ => .refl _) hlater }
  | issueSandboxApiKey old new q k raw hold _ hmoved _ _ _ _ _ _ _ _ _ _ =>
    exact { Extends.refl s with
      case := replaceCase_case hs hold hmoved
      sandboxApiKey := fun k hk => ⟨k, List.mem_append_left _ hk, .refl _⟩ }
  | suspendSandboxApiKey old new k suspended hold _ hmoved hk _ hstatus hfields _ =>
    have hlater : k.toSandboxApiKeyFields.Later suspended.toSandboxApiKeyFields := by
      rw [hfields]
      exact ⟨rfl, fun hne => absurd hstatus hne, fun hrevoked => by
        rw [hstatus] at hrevoked
        cases hrevoked⟩
    exact { Extends.refl s with
      case := replaceCase_case hs hold hmoved
      sandboxApiKey := exists_put hs.sandboxApiKeys hk (by rw [hfields]) (fun _ => .refl _)
        hlater }
  | revokeSandboxApiKey old new k revoked hold _ hmoved _ hk _ hstatus hfields _ =>
    have hlater : k.toSandboxApiKeyFields.Later revoked.toSandboxApiKeyFields := by
      rw [hfields]
      exact ⟨rfl, fun _ => ⟨by simp, rfl, rfl⟩, fun hrevoked => absurd hrevoked hstatus⟩
    exact { Extends.refl s with
      case := replaceCase_case hs hold hmoved
      sandboxApiKey := exists_put hs.sandboxApiKeys hk (by rw [hfields]) (fun _ => .refl _)
        hlater }

/-! ## What a success leaves behind -/

/-- The record that a successful call reports. -/
def Outcome.Record (s : CaseStoreSnapshot env) : Outcome env → Prop
  | .created _ => True
  | .submitted c => ∃ p ∈ s.customerReferencePackages, p.caseId = c.caseId ∧
      customerReferencePackageFingerprint env p = c.customerPackageFingerprint
  | .reviewed a => a ∈ s.readinessAssessments
  | .decided t => t ∈ s.supervisorReadinessAttestations
  | .qualification result => ∃ k ∈ s.qualificationKeys,
      result.qualificationKey.toQualificationKeyFields.Later k.toQualificationKeyFields
  | .sandbox result => ∃ k ∈ s.sandboxApiKeys,
      result.sandboxApiKey.toSandboxApiKeyFields.Later k.toSandboxApiKeyFields

/-- The case is in the store, past the revision that the call has asked for, and so is the record. -/
structure Outcome.In (s : CaseStoreSnapshot env) (call : Call) (outcome : Outcome env) : Prop where
  case : ∃ c ∈ s.cases, c.caseId = outcome.caseId ∧
    ∀ r, call.expectedRevision? = some r → r < c.revision
  record : outcome.Record s

theorem Outcome.Record.mono (h : outcome.Record s) (hextends : Extends s s') :
    outcome.Record s' := by
  cases outcome with
  | created c => trivial
  | submitted c =>
    obtain ⟨p, hp, hrest⟩ := h
    exact ⟨p, hextends.package p hp, hrest⟩
  | reviewed a => exact hextends.assessment a h
  | decided t => exact hextends.attestation t h
  | qualification result =>
    obtain ⟨k, hk, hlater⟩ := h
    obtain ⟨k', hk', hlater'⟩ := hextends.qualificationKey k hk
    exact ⟨k', hk', hlater.trans hlater'⟩
  | sandbox result =>
    obtain ⟨k, hk, hlater⟩ := h
    obtain ⟨k', hk', hlater'⟩ := hextends.sandboxApiKey k hk
    exact ⟨k', hk', hlater.trans hlater'⟩

theorem Outcome.In.mono (h : outcome.In s call) (hextends : Extends s s') :
    outcome.In s' call := by
  refine ⟨?_, h.record.mono hextends⟩
  obtain ⟨c, hc, hid, hrevision⟩ := h.case
  obtain ⟨c', hc', hidentity, hle⟩ := hextends.case c hc
  exact ⟨c', hc', (congrArg Identity.caseId hidentity).trans hid,
    fun r hr => (hrevision r hr).trans_le hle⟩

theorem case_of_moved {expectedRevision : ℤ} (hold : old ∈ s.cases)
    (hrevision : old.revision = expectedRevision) (hmoved : Moved old new state) :
    ∃ c ∈ (s.replaceCase new).cases, c.caseId = new.caseId ∧
      ∀ r, some expectedRevision = some r → r < c.revision := by
  refine ⟨new, Table.mem_put_self hold hmoved.caseId, rfl, ?_⟩
  intro r hr
  obtain rfl := Option.some.inj hr
  rw [← hrevision]
  exact hmoved.revision

theorem Move.outcome_in (hmove : Move s call s' outcome) : outcome.In s' call := by
  cases hmove with
  | create c _ _ _ _ =>
    refine ⟨⟨c, List.mem_append_right _ (List.mem_singleton_self c), rfl, ?_⟩, trivial⟩
    intro r hr
    cases hr
  | submit old new p hold hrevision hmoved _ hidentity hpapers =>
    refine ⟨case_of_moved hold hrevision hmoved, p,
      List.mem_append_right _ (List.mem_singleton_self p), ?_, ?_⟩
    · exact congrArg Identity.caseId (hidentity.trans hmoved.identity.symm)
    · exact (Prod.mk.inj hpapers).1.symm
  | review old new a state hold hrevision hmoved _ _ hcase _ _ _ =>
    obtain ⟨c, hc, hid, hpast⟩ := case_of_moved hold hrevision hmoved
    exact ⟨⟨c, hc, hid.trans (hmoved.caseId.trans hcase.symm), hpast⟩,
      List.mem_append_right _ (List.mem_singleton_self a)⟩
  | decide old new a t hold hrevision hmoved _ _ _ _ hcase _ _ _ =>
    obtain ⟨c, hc, hid, hpast⟩ := case_of_moved hold hrevision hmoved
    exact ⟨⟨c, hc, hid.trans (hmoved.caseId.trans hcase.symm), hpast⟩,
      List.mem_append_right _ (List.mem_singleton_self t)⟩
  | issueQualificationKey old new t k raw hold hrevision hmoved _ _ _ _ _ _ _ _ _ _ _ _ =>
    exact ⟨case_of_moved hold hrevision hmoved, k,
      List.mem_append_right _ (List.mem_singleton_self k), .refl _⟩
  | redeemQualificationKey old new k redeemed hold hrevision hmoved _ hk _ _ hfields _ =>
    exact ⟨case_of_moved hold hrevision hmoved, redeemed,
      Table.mem_put_self hk (by rw [hfields]), .refl _⟩
  | revokeQualificationKey old new k revoked hold hrevision hmoved _ hk _ _ _ hfields _ =>
    exact ⟨case_of_moved hold hrevision hmoved, revoked,
      Table.mem_put_self hk (by rw [hfields]), .refl _⟩
  | issueSandboxApiKey old new q k raw hold hrevision hmoved _ _ _ _ _ _ _ _ _ _ =>
    exact ⟨case_of_moved hold hrevision hmoved, k,
      List.mem_append_right _ (List.mem_singleton_self k), .refl _⟩
  | suspendSandboxApiKey old new k suspended hold hrevision hmoved hk _ _ hfields _ =>
    exact ⟨case_of_moved hold hrevision hmoved, suspended,
      Table.mem_put_self hk (by rw [hfields]), .refl _⟩
  | revokeSandboxApiKey old new k revoked hold hrevision hmoved _ hk _ _ hfields _ =>
    exact ⟨case_of_moved hold hrevision hmoved, revoked,
      Table.mem_put_self hk (by rw [hfields]), .refl _⟩

theorem Move.expected (hmove : Move s call s' outcome) {r : ℤ}
    (hr : call.expectedRevision? = some r) :
    ∃ c ∈ s.cases, c.caseId = outcome.caseId ∧ c.revision = r := by
  cases hmove with
  | create c _ _ _ _ => cases hr
  | submit old new p hold hrevision hmoved _ _ _ =>
    obtain rfl := Option.some.inj hr
    exact ⟨old, hold, hmoved.caseId.symm, hrevision⟩
  | review old new a state hold hrevision _ _ _ hcase _ _ _ =>
    obtain rfl := Option.some.inj hr
    exact ⟨old, hold, hcase.symm, hrevision⟩
  | decide old new a t hold hrevision _ _ _ _ _ hcase _ _ _ =>
    obtain rfl := Option.some.inj hr
    exact ⟨old, hold, hcase.symm, hrevision⟩
  | issueQualificationKey old new t k raw hold hrevision hmoved _ _ _ _ _ _ _ _ _ _ _ _ =>
    obtain rfl := Option.some.inj hr
    exact ⟨old, hold, hmoved.caseId.symm, hrevision⟩
  | redeemQualificationKey old new k redeemed hold hrevision hmoved _ _ _ _ _ _ =>
    obtain rfl := Option.some.inj hr
    exact ⟨old, hold, hmoved.caseId.symm, hrevision⟩
  | revokeQualificationKey old new k revoked hold hrevision hmoved _ _ _ _ _ _ _ =>
    obtain rfl := Option.some.inj hr
    exact ⟨old, hold, hmoved.caseId.symm, hrevision⟩
  | issueSandboxApiKey old new q k raw hold hrevision hmoved _ _ _ _ _ _ _ _ _ _ =>
    obtain rfl := Option.some.inj hr
    exact ⟨old, hold, hmoved.caseId.symm, hrevision⟩
  | suspendSandboxApiKey old new k suspended hold hrevision hmoved _ _ _ _ _ =>
    obtain rfl := Option.some.inj hr
    exact ⟨old, hold, hmoved.caseId.symm, hrevision⟩
  | revokeSandboxApiKey old new k revoked hold hrevision hmoved _ _ _ _ _ _ =>
    obtain rfl := Option.some.inj hr
    exact ⟨old, hold, hmoved.caseId.symm, hrevision⟩

end Moves

def redeemedKey? : Call → Outcome env → Option String
  | .redeemQualificationKey .., .qualification result =>
    some result.qualificationKey.qualificationKeyId
  | _, _ => none

theorem Move.redeems (hmove : Move s call s' outcome) {id : String}
    (hid : redeemedKey? call outcome = some id) :
    (∃ k ∈ s.qualificationKeys, k.qualificationKeyId = id ∧ k.status = .issued) ∧
      ∃ k ∈ s'.qualificationKeys, k.qualificationKeyId = id ∧ k.status = .redeemed := by
  cases hmove with
  | redeemQualificationKey old new k redeemed _ _ _ _ hk _ hstatus hfields _ =>
    obtain rfl := Option.some.inj hid
    have hkey : redeemed.qualificationKeyId = k.qualificationKeyId := by rw [hfields]
    refine ⟨⟨k, hk, hkey.symm, hstatus⟩, redeemed, Table.mem_put_self hk hkey, rfl, ?_⟩
    rw [hfields]
  | create => cases hid
  | submit => cases hid
  | review => cases hid
  | decide => cases hid
  | issueQualificationKey => cases hid
  | revokeQualificationKey => cases hid
  | issueSandboxApiKey => cases hid
  | suspendSandboxApiKey => cases hid
  | revokeSandboxApiKey => cases hid

/-! ## Runs of overlapping calls -/

/-- No update is lost: of the successful calls in their order, and of the store behind them. -/
structure NoUpdateLost (w : CaseWorld env) : Prop where
  one_success : w.log.Pairwise fun earlier later =>
    earlier.outcome.caseId = later.outcome.caseId → ∀ r,
      earlier.call.expectedRevision? = some r → later.call.expectedRevision? ≠ some r
  record : ∀ entry ∈ w.log, entry.outcome.In w.document entry.call
  kept : ∀ entry ∈ w.log, Extends entry.next w.document
  redeemed_once : w.log.Pairwise fun earlier later => ∀ id,
    redeemedKey? earlier.call earlier.outcome = some id →
      redeemedKey? later.call later.outcome ≠ some id

/-- What the calls keep of the store. -/
def Kept (s : CaseStoreSnapshot env) : Prop := s.Distinct ∧ Good s

theorem kept_step (call : Call) (s next : CaseStoreSnapshot env) (outcome : Outcome env)
    (hs : Kept s) (hperform : lifecycle env call s = .ok (next, outcome)) :
    Kept next ∧ Extends s next := by
  obtain ⟨hdistinct, hgood, -⟩ := perform_good hs.1 hs.2 hperform
  exact ⟨⟨hdistinct, hgood⟩, (prepare_move (perform_ok.mp hperform).1).extends hs.1⟩

theorem move_of_lifecycle (h : lifecycle env call s = .ok (s', outcome)) :
    Move s call s' outcome :=
  prepare_move (perform_ok.mp h).1

theorem no_update_lost {cfg : Clients Call (CaseStoreSnapshot env) Error (Outcome env)}
    (h : (machine (lifecycle env)).Reaches Undisturbed (Machine.init ⟨{}, []⟩) cfg) :
    NoUpdateLost cfg.shared := by
  have hserial := serial_of_undisturbed h
  have hstart : Kept ({} : CaseStoreSnapshot env) := CaseStoreSnapshot.Reachable.empty.good
  have hkept := hserial.kept hstart Extends.refl (fun _ _ _ => Extends.trans) kept_step
  have hpairs := hserial.pairwise hstart Extends.refl (fun _ _ _ => Extends.trans) kept_step
  have hran := hserial.performed hstart fun call s next outcome hs hperform =>
    (kept_step call s next outcome hs hperform).1
  refine ⟨?_, ?_, hkept, ?_⟩
  · refine hpairs.imp_of_mem fun {earlier later} hearlier _ => ?_
    rintro ⟨s, hs, hextends, hperform⟩ hcase r hr hlater
    obtain ⟨s₀, -, hperform₀⟩ := hran earlier hearlier
    -- The earlier success has left a revision past `r`, and the later one asks for `r`.
    obtain ⟨c, hc, hid, hpast⟩ :=
      ((move_of_lifecycle hperform₀).outcome_in.mono hextends).case
    obtain ⟨c', hc', hid', hrevision⟩ := (move_of_lifecycle hperform).expected hlater
    obtain rfl := List.inj_on_of_nodup_map hs.1.cases hc hc' (hid.trans (hcase.trans hid'.symm))
    exact absurd (hpast r hr) (not_lt.mpr hrevision.le)
  · intro entry hentry
    obtain ⟨s₀, -, hperform₀⟩ := hran entry hentry
    exact (move_of_lifecycle hperform₀).outcome_in.mono (hkept entry hentry)
  · refine hpairs.imp_of_mem fun {earlier later} hearlier _ => ?_
    rintro ⟨s, hs, hextends, hperform⟩ id hid hlater
    obtain ⟨s₀, -, hperform₀⟩ := hran earlier hearlier
    obtain ⟨-, k, hk, hkid, hstatus⟩ := (move_of_lifecycle hperform₀).redeems hid
    obtain ⟨k', hk', hkeeps⟩ := hextends.qualificationKey k hk
    obtain ⟨⟨k'', hk'', hkid'', hissued⟩, -⟩ := (move_of_lifecycle hperform).redeems hlater
    have hsame := congrArg QualificationKeyFields.qualificationKeyId hkeeps.terms
    obtain rfl := List.inj_on_of_nodup_map hs.1.qualificationKeys hk' hk''
      (hsame.trans (hkid.trans hkid''.symm))
    exact (hkeeps.redeemed (by rw [hstatus]; exact QualificationKeyStatus.noConfusion)).1 hissued

/-! ## Two calls from one load -/

namespace Sample

abbrev CaseClients := Clients Call (CaseStoreSnapshot environment) Error (Outcome environment)

/-- Both calls load the empty store, and then both save. -/
def overlapping : List (Event Call Unit) :=
  [.start 0 (create first), .start 1 (create second), .run 0 (), .run 1 (), .run 0 (), .run 1 ()]

/-- The second call loads what the first one has saved. -/
def oneByOne : List (Event Call Unit) :=
  [.start 0 (create first), .start 1 (create second), .run 0 (), .run 0 (), .run 1 (), .run 1 ()]

def caseIds (cfg : CaseClients) : List String × List String :=
  (cfg.shared.log.map fun entry => entry.outcome.caseId,
    cfg.shared.document.cases.map fun c => c.caseId)

theorem overlapping_loses :
    ((machine (lifecycle environment)).run overlapping (Machine.init ⟨{}, []⟩)).map caseIds =
      some (["case-a", "case-b"], ["case-b"]) := by
  decide +kernel

theorem oneByOne_keeps :
    ((machine (lifecycle environment)).runIf undisturbedCheck oneByOne
      (Machine.init ⟨{}, []⟩)).map caseIds =
      some (["case-a", "case-b"], ["case-a", "case-b"]) := by
  decide +kernel

end Sample

/-- Two calls that create two cases from one load both succeed, and the first case is lost. -/
theorem update_lost :
    ¬ ∀ (env : Environment) (cfg : Clients Call (CaseStoreSnapshot env) Error (Outcome env)),
      (machine (lifecycle env)).Reaches (fun _ _ => True) (Machine.init ⟨{}, []⟩) cfg →
        NoUpdateLost cfg.shared := by
  intro hclaim
  obtain ⟨cfg, hrun, hids⟩ := Option.map_eq_some_iff.mp Sample.overlapping_loses
  obtain ⟨hlog, hcases⟩ := Prod.mk.inj hids
  have hlost := hclaim _ cfg (Machine.run_reaches hrun)
  have hmem : "case-a" ∈ cfg.shared.log.map fun entry => entry.outcome.caseId := by
    rw [hlog]
    exact List.mem_cons_self
  obtain ⟨entry, hentry, hid⟩ := List.mem_map.mp hmem
  obtain ⟨c, hc, hcid, -⟩ := (hlost.record entry hentry).case
  have hkept : c.caseId ∈ cfg.shared.document.cases.map fun c => c.caseId :=
    List.mem_map_of_mem hc
  rw [hcases, hcid, hid] at hkept
  exact absurd hkept (by decide)

/-- One call after the other, both cases are kept. -/
theorem oneByOne_no_update_lost :
    ∃ cfg : Sample.CaseClients,
      cfg.shared.document.cases.map (·.caseId) = ["case-a", "case-b"] ∧
        NoUpdateLost cfg.shared := by
  obtain ⟨cfg, hrun, hids⟩ := Option.map_eq_some_iff.mp Sample.oneByOne_keeps
  exact ⟨cfg, (Prod.mk.inj hids).2,
    no_update_lost (Machine.runIf_reaches undisturbed_of_check hrun)⟩

/-- Calls one after the other keep every paper as it is, never take a revision back, and leave a
revoked key revoked. -/
theorem records_endure (hs : s.Reachable) (calls : List Call) :
    Extends s (calls.foldl CaseStoreSnapshot.after s) := by
  induction calls generalizing s with
  | nil => exact .refl s
  | cons call calls ih =>
    refine Extends.trans ?_ (ih (.step call hs))
    rw [CaseStoreSnapshot.after]
    cases hperform : s.perform call with
    | error e => exact .refl s
    | ok result => exact (kept_step call s result.1 result.2 hs.good hperform).2

theorem records_endure_issued :
    Extends Sample.issued ([Sample.create Sample.first].foldl CaseStoreSnapshot.after Sample.issued) :=
  records_endure Sample.reachable_issued _

end MaestroKernel.Connectivity
