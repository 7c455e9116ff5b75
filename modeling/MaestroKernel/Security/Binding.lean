import MaestroKernel.Security.Reports

/-! # What an envelope is bound to

No ciphertext opens but the ones that were made, so an envelope that is verified states what its
encryption wrote, save for the fields that are neither authenticated nor compared. -/

namespace MaestroKernel.Security

open JsonText Sealing

abbrev CipherUse : Type := Use AEADAlgorithm ByteArray

section Definitions

variable (env : Platform)

/-- The cipher was used so in a call of `encrypt_report` that returned the envelope. -/
def WritesEnvelope (u : CipherUse) (envelope : CryptoEnvelope) : Prop :=
  ∃ report key keyId, encryptReport env report key u.algorithm keyId u.nonce = .ok envelope ∧
    RawKey env key u.key ∧ env.urlsafeB64.decode envelope.ciphertextB64 = some u.ciphertext ∧
    env.urlsafeB64.decode envelope.aadB64 = some u.aad

/-- The same of `AdaptiveReportEncryptor`. -/
def WritesReport (u : CipherUse) (encrypted : EncryptedAdaptiveReport) : Prop :=
  u.algorithm = .aes256Gcm ∧ ∃ workflowId report key reportKind keyId,
    AdaptiveReportEncryptor.encryptReport env workflowId report key reportKind keyId u.nonce =
      .ok encrypted ∧
    RawKey env key u.key ∧ env.urlsafeB64.decode encrypted.ciphertextB64 = some u.ciphertext ∧
    env.urlsafeB64.decode encrypted.aadB64 = some u.aad

/-- The ciphers were used in calls of the encryptors, never twice with one nonce. -/
structure Recorded (log : List CipherUse) : Prop where
  written : ∀ u ∈ log, (∃ envelope, WritesEnvelope env u envelope) ∨
    ∃ encrypted, WritesReport env u encrypted
  nonces : (log.map Use.nonce).Nodup

/-- The texts with this digest open under no key that did not make them. -/
def Genuine (digest : ByteArray → String) (log : List CipherUse) (key : Key) (t : Texts) : Prop :=
  ∀ rawKey, RawKey env key rawKey → Unforged env.aead env.urlsafeB64 digest log rawKey t

structure CryptoEnvelope.Agrees (envelope envelope' : CryptoEnvelope) : Prop where
  algorithm : envelope.algorithm = envelope'.algorithm
  keyId : envelope.keyId = envelope'.keyId
  schemaVersion : envelope.schemaVersion = envelope'.schemaVersion
  texts : Agree env.urlsafeB64 envelope.texts envelope'.texts

structure EncryptedAdaptiveReport.Agrees (encrypted encrypted' : EncryptedAdaptiveReport) :
    Prop where
  workflowId : encrypted.workflowId = encrypted'.workflowId
  reportKind : encrypted.reportKind = encrypted'.reportKind
  algorithm : encrypted.algorithm = encrypted'.algorithm
  keyId : encrypted.keyId = encrypted'.keyId
  plaintextSchemaVersion : encrypted.plaintextSchemaVersion = encrypted'.plaintextSchemaVersion
  schemaVersion : encrypted.schemaVersion = encrypted'.schemaVersion
  texts : Agree env.urlsafeB64 encrypted.texts encrypted'.texts

/-- A report is read back, under its own key and after a rotation, and under no other key; what is
verified is what was written exactly where it states the digest of its own ciphertext. -/
structure EnvelopesBind (log : List CipherUse) : Prop where
  reads_back : ∀ report key algorithm keyId nonce envelope,
    encryptReport env report key algorithm keyId nonce = .ok envelope →
      decryptReport env envelope key = .ok report.canonical
  rotates : ∀ report key newKey algorithm newAlgorithm keyId newKeyId nonce newNonce envelope
    rotated, encryptReport env report key algorithm keyId nonce = .ok envelope →
      rotateEncryptedReport env envelope key newKey newKeyId newAlgorithm newNonce = .ok rotated →
        decryptReport env rotated newKey = .ok report.canonical
  other_key : ∀ u ∈ log, ∀ envelope key, WritesEnvelope env u envelope → ¬ RawKey env key u.key →
    Genuine env env.sha3_256 log key envelope.texts →
      ¬ ∃ report, decryptReport env envelope key = .ok report
  binds : ∀ envelope key, Genuine env env.sha3_256 log key envelope.texts →
    (verifyEnvelope env envelope key).valid = true →
      ((∃ u ∈ log, RawKey env key u.key ∧ ∃ written, WritesEnvelope env u written ∧
        envelope.Agrees env written) ↔
          (env.urlsafeB64.decode envelope.ciphertextB64).map env.sha3_256 =
            some envelope.ciphertextSha3_256)

/-- The same of `AdaptiveReportEncryptor`, which does not compare the schema version of the report
itself either. -/
structure ReportsBind (log : List CipherUse) : Prop where
  reads_back : ∀ workflowId report key reportKind keyId nonce encrypted,
    AdaptiveReportEncryptor.encryptReport env workflowId report key reportKind keyId nonce =
      .ok encrypted →
      ∃ result, AdaptiveReportEncryptor.decryptReport env encrypted key = .ok result ∧
        result.valid = true ∧ result.artifact = some report.artifact.canonical
  other_key : ∀ u ∈ log, ∀ encrypted key, WritesReport env u encrypted → ¬ RawKey env key u.key →
    Genuine env env.sha256 log key encrypted.texts →
      ¬ ∃ result, AdaptiveReportEncryptor.decryptReport env encrypted key = .ok result ∧
        result.valid = true
  binds : ∀ encrypted key, Genuine env env.sha256 log key encrypted.texts →
    (∃ result, AdaptiveReportEncryptor.decryptReport env encrypted key = .ok result ∧
      result.valid = true) →
      ((∃ u ∈ log, RawKey env key u.key ∧ ∃ written, WritesReport env u written ∧
        encrypted.Agrees env written) ↔
          (env.urlsafeB64.decode encrypted.ciphertextB64).map env.sha256 =
            some encrypted.ciphertextSha256 ∧
          encrypted.schemaVersion = "adaptive-report-encryption-1.8.0")

end Definitions

section Binding

variable {env : Platform} {log : List CipherUse} {u : CipherUse}

theorem WritesEnvelope.made {envelope : CryptoEnvelope} (h : WritesEnvelope env u envelope) :
    ∃ report key, EnvelopeOpens env envelope key u (canonicalJson env report) ∧
      Seals env.aead env.urlsafeB64 env.sha3_256 u (canonicalJson env report) envelope.texts := by
  obtain ⟨report, key, keyId, hreturned, hkey, hciphertext, haad⟩ := h
  obtain ⟨v, halgorithm, hnonce, hopens, hseals⟩ := encryptReport_ok hreturned
  have heq : v = u := Use.ext halgorithm (hopens.key.unique hkey) hnonce
    (Option.some.inj (hopens.opens.aad.symm.trans haad))
    (Option.some.inj (hopens.opens.ciphertext.symm.trans hciphertext))
  exact ⟨report, key, heq ▸ hopens, heq ▸ hseals⟩

theorem WritesReport.made {encrypted : EncryptedAdaptiveReport}
    (h : WritesReport env u encrypted) :
    encrypted.schemaVersion = "adaptive-report-encryption-1.8.0" ∧ ∃ plaintext key,
      AdaptiveReportEncryptor.ReportOpens env encrypted key u plaintext ∧
      Seals env.aead env.urlsafeB64 env.sha256 u plaintext encrypted.texts := by
  obtain ⟨halgorithm, workflowId, report, key, reportKind, keyId, hreturned, hkey, hciphertext,
    haad⟩ := h
  obtain ⟨v, hnonce, hschema, hopens, hseals⟩ := AdaptiveReportEncryptor.encryptReport_ok hreturned
  have heq : v = u := Use.ext (hopens.algorithm.1.trans halgorithm.symm) (hopens.key.unique hkey)
    hnonce (Option.some.inj (hopens.opens.aad.symm.trans haad))
    (Option.some.inj (hopens.opens.ciphertext.symm.trans hciphertext))
  exact ⟨hschema, _, key, heq ▸ hopens, heq ▸ hseals⟩

theorem EnvelopeOpens.of_digest {envelope : CryptoEnvelope} {key : Key} {plaintext : ByteArray}
    (h : EnvelopeOpens env envelope key u plaintext) (digest : String) :
    EnvelopeOpens env { envelope with ciphertextSha3_256 := digest } key u plaintext :=
  ⟨h.algorithm, h.key, h.aad, h.opens.nonce, h.opens.aad, h.opens.ciphertext, h.opens.decrypt,
    h.opens.digest⟩

theorem envelopes_bind (hlog : Recorded env log) : EnvelopesBind env log := by
  constructor
  · intro report key algorithm keyId nonce envelope h
    exact decryptReport_encryptReport h
  · intro report key newKey algorithm newAlgorithm keyId newKeyId nonce newNonce envelope rotated h
      hrotate
    rw [rotateEncryptedReport, decryptReport_encryptReport h, Checked.ok_bind] at hrotate
    rw [decryptReport_encryptReport hrotate, Value.canonical_canonical]
  · rintro u hu envelope key hwrites hother hgenuine ⟨report, h⟩
    obtain ⟨v, plaintext, hopens, -⟩ := decryptReport_ok_iff.mp h
    obtain ⟨written, _, -, hseals⟩ := hwrites.made
    have hv := hgenuine v.key hopens.key v plaintext rfl hopens.opens
    exact hother (eq_of_opens hlog.nonces hu hv hseals hopens.opens ▸ hopens.key)
  · intro envelope key hgenuine hvalid
    constructor
    · rintro ⟨u, -, -, written, hwrites, hagrees⟩
      obtain ⟨report, _, -, hseals⟩ := hwrites.made
      exact hagrees.texts.digest_eq hseals
    · intro hdigest
      obtain ⟨report, h⟩ := verifyEnvelope_valid.mp hvalid
      obtain ⟨u, plaintext, hopens, -⟩ := decryptReport_ok_iff.mp h
      have hu := hgenuine u.key hopens.key u plaintext rfl hopens.opens
      rcases hlog.written u hu with ⟨written, hwrites⟩ | ⟨written, hwrites⟩
      · obtain ⟨report, _, hmade, hseals⟩ := hwrites.made
        obtain ⟨halgorithm, hkeyId, hversion⟩ := buildAad_inj (hopens.aad.symm.trans hmade.aad)
        exact ⟨u, hu, hopens.key, written, hwrites, halgorithm, hkeyId, hversion,
          (agree_iff hopens.opens hseals).mpr hdigest⟩
      · obtain ⟨-, plaintext, _, hmade, -⟩ := hwrites.made
        exact absurd (hopens.aad.symm.trans hmade.aad)
          (AdaptiveReportEncryptor.buildAad_ne_associatedData _ _ _ _ _ _ _)

open AdaptiveReportEncryptor in
theorem reports_bind (hlog : Recorded env log) : ReportsBind env log := by
  constructor
  · intro workflowId report key reportKind keyId nonce encrypted h
    obtain ⟨u, -, -, hopens, -⟩ := AdaptiveReportEncryptor.encryptReport_ok h
    exact decryptReport_valid_iff.mpr ⟨u, _, _, hopens, loadsBytes_canonicalJson _, rfl⟩
  · rintro u hu encrypted key hwrites hother hgenuine ⟨result, h, hvalid⟩
    obtain ⟨v, plaintext, _, hopens, -⟩ := decryptReport_valid_iff.mp ⟨result, h, hvalid, rfl⟩
    obtain ⟨-, written, _, -, hseals⟩ := hwrites.made
    have hv := hgenuine v.key hopens.key v plaintext rfl hopens.opens
    exact hother (eq_of_opens hlog.nonces hu hv hseals hopens.opens ▸ hopens.key)
  · rintro encrypted key hgenuine ⟨result, h, hvalid⟩
    constructor
    · rintro ⟨u, -, -, written, hwrites, hagrees⟩
      obtain ⟨hschema, plaintext, _, -, hseals⟩ := hwrites.made
      exact ⟨hagrees.texts.digest_eq hseals, hagrees.schemaVersion.trans hschema⟩
    · rintro ⟨hdigest, hschema⟩
      obtain ⟨u, plaintext, _, hopens, -⟩ := decryptReport_valid_iff.mp ⟨result, h, hvalid, rfl⟩
      have hu := hgenuine u.key hopens.key u plaintext rfl hopens.opens
      rcases hlog.written u hu with ⟨written, hwrites⟩ | ⟨written, hwrites⟩
      · obtain ⟨report, _, hmade, -⟩ := hwrites.made
        exact absurd (hmade.aad.symm.trans hopens.aad) (buildAad_ne_associatedData _ _ _ _ _ _ _)
      · obtain ⟨hwritten, plaintext, _, hmade, hseals⟩ := hwrites.made
        obtain ⟨hworkflow, hkind, hkeyId, hversion⟩ :=
          associatedData_inj (hopens.aad.symm.trans hmade.aad)
        exact ⟨u, hu, hopens.key, written, hwrites, hworkflow, hkind,
          hopens.algorithm.2.trans hmade.algorithm.2.symm, hkeyId, hversion,
          hschema.trans hwritten.symm, (agree_iff hopens.opens hseals).mpr hdigest⟩

/-- Envelopes are bound to all that they state but the digest of the ciphertext, and reports to all
but that digest and their own schema version. -/
theorem encryptions_bind (env : Platform) (log : List CipherUse) (hlog : Recorded env log) :
    EnvelopesBind env log ∧ ReportsBind env log :=
  ⟨envelopes_bind hlog, reports_bind hlog⟩

end Binding

/-! ## Rotation -/

/-- The arguments of a rotation, with the nonce that it draws. -/
structure Rotation where
  newKey : Key
  newKeyId : String
  newAlgorithm : AEADAlgorithm
  nonce : ByteArray

def rotateAll (env : Platform) : List Rotation → CryptoEnvelope → Key →
    Except Failure (CryptoEnvelope × Key)
  | [], envelope, key => .ok (envelope, key)
  | r :: rotations, envelope, key => do
      let rotated ← rotateEncryptedReport env envelope key r.newKey r.newKeyId r.newAlgorithm r.nonce
      rotateAll env rotations rotated r.newKey

theorem rotateAll_reads_back (env : Platform) {report : Value} {key lastKey : Key}
    {algorithm : AEADAlgorithm} {keyId : String} {nonce : ByteArray}
    {envelope rotated : CryptoEnvelope} {rotations : List Rotation}
    (h : encryptReport env report key algorithm keyId nonce = .ok envelope)
    (hrotated : rotateAll env rotations envelope key = .ok (rotated, lastKey)) :
    decryptReport env rotated lastKey = .ok report.canonical := by
  have hopens := decryptReport_encryptReport h
  clear h
  induction rotations generalizing envelope key with
  | nil =>
    obtain ⟨rfl, rfl⟩ := Prod.mk.inj (Except.ok.inj hrotated)
    exact hopens
  | cons r rotations ih =>
    obtain ⟨next, hnext, hrest⟩ := Checked.bind_ok.mp hrotated
    refine ih hrest ?_
    rw [rotateEncryptedReport, hopens, Checked.ok_bind] at hnext
    rw [decryptReport_encryptReport hnext, Value.canonical_canonical]

namespace Sample

def rawKey : ByteArray := ⟨(List.replicate 32 97).toArray⟩

def nonce : ByteArray := ⟨(List.replicate 12 110).toArray⟩

def text (value : Value) : ByteArray := (dumpsSortedIn dense bitFloats value).toUTF8

def aad : ByteArray :=
  text (.obj [("algorithm", .str "AES-256-GCM"), ("key_id", .str "default"),
    ("schema_version", .str ENVELOPE_SCHEMA_VERSION), ("nonce_length", .int 12)])

/-- The empty report under AES-256-GCM. -/
def ciphertext : ByteArray :=
  ⟨#[175, 147, 247, 226, 146, 132, 82, 174, 231, 206, 215, 196, 243, 51, 91, 41, 31, 74]⟩

/-- AES-256-GCM on the empty report. -/
def aesGcm : Cipher ByteArray where
  encrypt k n p a := if k = rawKey ∧ n = nonce ∧ p = text (.obj []) ∧ a = aad then some ciphertext
    else none
  decrypt k n c a := if k = rawKey ∧ n = nonce ∧ c = ciphertext ∧ a = aad then some (text (.obj []))
    else none
  decrypt_encrypt := by
    intro k n p a c h
    split at h
    · rename_i hinput
      obtain ⟨rfl, rfl, rfl, rfl⟩ := hinput
      rw [← Option.some.inj h]
      exact if_pos ⟨rfl, rfl, rfl, rfl⟩
    · cases h

def aadB64 : String :=
  "e" ++ ("yJhbGdvcml0aG0iOiJBRVMtMjU2LUdDTSIsImtleV9pZCI6ImRlZmF1bHQiLCJub25jZV9sZW5ndGgiOjEyLC" ++
    "JzY2hlbWFfdmVyc2lvbiI6InByb2Nlc3N1YWwtY3J5cHRvLWVudmVsb3BlLTIuMC4wIn0=")

/-- Base64 of the texts of the envelope, and characters for the bytes of others. -/
@[irreducible] def b64encode (b : ByteArray) : String :=
  if b = nonce then "bm5ubm5ubm5ubm5u" else if b = ciphertext then "r5P34pKEUq7nztfE8zNbKR9K"
  else if b = aad then aadB64
  else String.ofList ('!' :: b.data.toList.map Char.ofUInt8)

@[irreducible] def b64decode (s : String) : Option ByteArray :=
  match s.toList with
  | '!' :: cs => some ⟨(cs.map Char.toUInt8).toArray⟩
  | 'b' :: _ => some nonce
  | 'r' :: _ => some ciphertext
  | 'e' :: _ => some aad
  | _ => none

theorem b64decode_b64encode (b : ByteArray) : b64decode (b64encode b) = some b := by
  rw [b64encode]
  split
  · rename_i h
    rw [h, b64decode]
    rfl
  · split
    · rename_i h
      rw [h, b64decode]
      rfl
    · split
      · rename_i h
        rw [h, b64decode, aadB64, String.toList_append]
        rfl
      · have hbytes : (b.data.toList.map Char.ofUInt8).map Char.toUInt8 = b.data.toList := by
          rw [List.map_map]
          conv_rhs => rw [← List.map_id b.data.toList]
          refine List.map_congr_left fun byte _ => ?_
          simp [Char.toUInt8, Char.ofUInt8]
        rw [b64decode, String.toList_ofList]
        simp only [hbytes]

theorem aesGcm_encrypt : aesGcm.encrypt rawKey nonce (text (.obj [])) aad = some ciphertext := by
  simp [aesGcm]

def env : Platform where
  floats := bitFloats
  aead
    | .aes256Gcm => aesGcm
    | .chacha20Poly1305 => ⟨fun _ _ _ _ => none, fun _ _ _ _ => none, fun h => by cases h⟩
  urlsafeB64 := ⟨b64encode, b64decode, b64decode_b64encode⟩
  sha3_256 b := if b = ciphertext then
      "bbed80108dc8be266851026e2d5d8b79766a076d4a558602da31dae36cf30a0a"
    else "840eb7aa2a9935de63366bacbe9d97e978a859e93dc792a0334de60ed52f8e99"
  sha256 _ := ""
  str _ := ""
  jsonError _ := ""
  utf8Error _ := ""
  cipherError := ""

def envelope : CryptoEnvelope where
  algorithm := "AES-256-GCM"
  keyId := "default"
  nonceB64 := b64encode nonce
  aadB64 := b64encode aad
  ciphertextB64 := b64encode ciphertext
  plaintextSha3_256 := env.sha3_256 (text (.obj []))
  ciphertextSha3_256 := env.sha3_256 ciphertext

def use : CipherUse := ⟨.aes256Gcm, rawKey, nonce, aad, ciphertext⟩

theorem encryptReport_envelope :
    encryptReport env (.obj []) (.bytes rawKey) .aes256Gcm "default" nonce = .ok envelope := by
  have hkey : normalizeKey env (.bytes rawKey) = .ok rawKey :=
    normalizeKeyWith_ok_iff.mpr ⟨rfl, rfl⟩
  have hencrypt : (env.aead .aes256Gcm).encrypt rawKey nonce (canonicalJson env (.obj []))
      (buildAad env AEADAlgorithm.aes256Gcm.value "default" ENVELOPE_SCHEMA_VERSION) =
        some ciphertext := aesGcm_encrypt
  rw [encryptReport, encryptWith, hkey, Checked.ok_bind]
  simp only [hencrypt, Checked.demand_some_bind]
  rfl

theorem writesEnvelope : WritesEnvelope env use envelope :=
  ⟨_, _, _, encryptReport_envelope, ⟨rfl, rfl⟩, env.urlsafeB64.decode_encode ciphertext,
    env.urlsafeB64.decode_encode aad⟩

theorem recorded : Recorded env [use] where
  written _ hu := .inl ⟨envelope, List.mem_singleton.mp hu ▸ writesEnvelope⟩
  nonces := List.nodup_singleton _

theorem use_binds : EnvelopesBind env [use] ∧ ReportsBind env [use] :=
  encryptions_bind env [use] recorded

/-- The envelope with another digest of its ciphertext. -/
def altered : CryptoEnvelope := { envelope with ciphertextSha3_256 := "" }

/-- It is verified, though it was never written. -/
theorem altered_verified : Genuine env env.sha3_256 [use] (.bytes rawKey) altered.texts ∧
    (verifyEnvelope env altered (.bytes rawKey)).valid = true ∧ ¬ altered.Agrees env envelope := by
  obtain ⟨report, key, keyId, hreturned, hkey, hciphertext, haad⟩ := writesEnvelope
  obtain ⟨v, halgorithm, hnonce, hopens, -⟩ := encryptReport_ok encryptReport_envelope
  have hv : v = use := Use.ext halgorithm (hopens.key.unique ⟨rfl, rfl⟩) hnonce
    (Option.some.inj (hopens.opens.aad.symm.trans haad))
    (Option.some.inj (hopens.opens.ciphertext.symm.trans hciphertext))
  have haltered := hopens.of_digest ""
  refine ⟨?_, ?_, ?_⟩
  · intro key hkey u plaintext hu h
    have heq : u = v := by
      refine Use.ext ?_ (hu.trans (hkey.unique hopens.key))
        (Option.some.inj (h.nonce.symm.trans haltered.opens.nonce))
        (Option.some.inj (h.aad.symm.trans haltered.opens.aad))
        (Option.some.inj (h.ciphertext.symm.trans haltered.opens.ciphertext))
      have hdecrypt := h.decrypt
      cases hchosen : u.algorithm with
      | aes256Gcm => exact halgorithm.symm
      | chacha20Poly1305 =>
        rw [hchosen] at hdecrypt
        cases hdecrypt
    exact List.mem_singleton.mpr (heq.trans hv)
  · exact verifyEnvelope_valid.mpr ⟨_, decryptReport_ok_iff.mpr ⟨v, _, haltered,
      loadsBytes_canonicalJson (.obj [])⟩⟩
  · intro hagrees
    have hdigest : "" = env.sha3_256 ciphertext := hagrees.texts.ciphertextDigest
    simp [env] at hdigest

theorem rotated_reads_back : decryptReport env envelope (.bytes rawKey) = .ok (.obj []) := by
  have hrotated : rotateAll env [⟨.bytes rawKey, "default", .aes256Gcm, nonce⟩] envelope
      (.bytes rawKey) = .ok (envelope, .bytes rawKey) := by
    have hopens := decryptReport_encryptReport encryptReport_envelope
    have hnext : rotateEncryptedReport env envelope (.bytes rawKey) (.bytes rawKey) "default"
        .aes256Gcm nonce = .ok envelope := by
      rw [rotateEncryptedReport, hopens, Checked.ok_bind]
      exact encryptReport_envelope
    rw [rotateAll, hnext]
    rfl
  exact rotateAll_reads_back env encryptReport_envelope hrotated

end Sample

end MaestroKernel.Security
