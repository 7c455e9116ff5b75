import MaestroKernel.Security.Crypto

/-! # Encrypted adaptive reports

`AdaptiveReportEncryptor`, and what an envelope of either kind says about the encryption that it
came from. -/

namespace MaestroKernel.Security

open Checked JsonText Sealing

/-! ## The encryptor -/

/-- A report by its dict, and the name of its class. -/
structure Report where
  artifact : Value
  className : String

structure EncryptedAdaptiveReport where
  workflowId : String
  reportKind : String
  algorithm : String
  keyId : String
  nonceB64 : String
  aadB64 : String
  ciphertextB64 : String
  plaintextSha256 : String
  ciphertextSha256 : String
  plaintextSchemaVersion : String
  schemaVersion : String := "adaptive-report-encryption-1.8.0"

def EncryptedAdaptiveReport.texts (encrypted : EncryptedAdaptiveReport) : Texts where
  nonce := encrypted.nonceB64
  aad := encrypted.aadB64
  ciphertext := encrypted.ciphertextB64
  plaintextDigest := encrypted.plaintextSha256
  ciphertextDigest := encrypted.ciphertextSha256

structure AdaptiveReportDecryptionResult where
  workflowId : String
  reportKind : String
  valid : Bool
  artifact : Option Value := none
  plaintextSha256 : Option String := none
  ciphertextSha256 : Option String := none
  reason : String

namespace AdaptiveReportEncryptor

section Functions

variable (env : Platform)

def INVALID_BASE64 : String := "invalid base64-encoded AES key or encrypted report field"

def normalizeKey (key : Key) : Except Failure ByteArray :=
  normalizeKeyWith env INVALID_BASE64 (fun _ => "AES-256-GCM requires exactly 32 key bytes") key

def associatedData (workflowId reportKind keyId plaintextSchemaVersion : String) : ByteArray :=
  canonicalJson env (.obj [("workflow_id", .str workflowId), ("report_kind", .str reportKind),
    ("key_id", .str keyId), ("plaintext_schema_version", .str plaintextSchemaVersion),
    ("algorithm", .str AEADAlgorithm.aes256Gcm.value)])

def plaintextSchemaVersion (report : Report) : String :=
  match report.artifact with
  | .obj items => ((Dict.get? "schema_version" items).map env.str).getD report.className
  | _ => report.className

/-- With the nonce that is drawn. -/
def encryptReport (workflowId : String) (report : Report) (key : Key) (reportKind keyId : String)
    (nonce : ByteArray) : Except Failure EncryptedAdaptiveReport := do
  let rawKey ← normalizeKey env key
  let plaintext := canonicalJson env report.artifact
  let aad := associatedData env workflowId reportKind keyId (plaintextSchemaVersion env report)
  let ciphertext ← demand ((env.aead .aes256Gcm).encrypt rawKey nonce plaintext aad)
    (.cipherError env.cipherError)
  pure {
    workflowId := workflowId
    reportKind := reportKind
    algorithm := AEADAlgorithm.aes256Gcm.value
    keyId := keyId
    nonceB64 := env.urlsafeB64.encode nonce
    aadB64 := env.urlsafeB64.encode aad
    ciphertextB64 := env.urlsafeB64.encode ciphertext
    plaintextSha256 := env.sha256 plaintext
    ciphertextSha256 := env.sha256 ciphertext
    plaintextSchemaVersion := plaintextSchemaVersion env report }

def decryptReport (encrypted : EncryptedAdaptiveReport) (key : Key) :
    Except Failure AdaptiveReportDecryptionResult :=
  let invalid (ciphertextSha256 : Option String) (reason : String) :
      AdaptiveReportDecryptionResult :=
    { workflowId := encrypted.workflowId, reportKind := encrypted.reportKind, valid := false
      ciphertextSha256 := ciphertextSha256, reason := reason }
  if encrypted.algorithm ≠ AEADAlgorithm.aes256Gcm.value then
    pure (invalid none ("unsupported encryption algorithm: " ++ encrypted.algorithm))
  else do
    let rawKey ← normalizeKey env key
    let nonce ← b64decode env INVALID_BASE64 encrypted.nonceB64
    let ciphertext ← b64decode env INVALID_BASE64 encrypted.ciphertextB64
    let aad ← b64decode env INVALID_BASE64 encrypted.aadB64
    if aad ≠ associatedData env encrypted.workflowId encrypted.reportKind encrypted.keyId
        encrypted.plaintextSchemaVersion then
      pure (invalid none "associated data does not match encrypted report metadata")
    else
      match (env.aead .aes256Gcm).decrypt rawKey nonce ciphertext aad with
      | none => pure (invalid (some (env.sha256 ciphertext)) "AES-GCM authentication failed")
      | some plaintext =>
        if env.sha256 plaintext = encrypted.plaintextSha256 then do
          let artifact ← loadsBytes env plaintext
          pure {
            workflowId := encrypted.workflowId
            reportKind := encrypted.reportKind
            valid := true
            artifact := some artifact
            plaintextSha256 := some (env.sha256 plaintext)
            ciphertextSha256 := some (env.sha256 ciphertext)
            reason := "decryption succeeded" }
        else
          pure {
            workflowId := encrypted.workflowId
            reportKind := encrypted.reportKind
            valid := false
            plaintextSha256 := some (env.sha256 plaintext)
            ciphertextSha256 := some (env.sha256 ciphertext)
            reason := "plaintext checksum mismatch" }

end Functions

variable {env : Platform}

/-- The use of the cipher under the key that the report opens in. -/
structure ReportOpens (env : Platform) (encrypted : EncryptedAdaptiveReport) (key : Key)
    (u : Use AEADAlgorithm ByteArray) (plaintext : ByteArray) : Prop where
  algorithm : u.algorithm = .aes256Gcm ∧ encrypted.algorithm = AEADAlgorithm.aes256Gcm.value
  key : RawKey env key u.key
  aad : u.aad = associatedData env encrypted.workflowId encrypted.reportKind encrypted.keyId
    encrypted.plaintextSchemaVersion
  opens : Opens env.aead env.urlsafeB64 env.sha256 u plaintext encrypted.texts

/-- What `encrypt_report` returns was made in one use of the cipher. -/
theorem encryptReport_ok {workflowId reportKind keyId : String} {report : Report} {key : Key}
    {nonce : ByteArray} {encrypted : EncryptedAdaptiveReport}
    (h : encryptReport env workflowId report key reportKind keyId nonce = .ok encrypted) :
    ∃ u : Use AEADAlgorithm ByteArray, u.nonce = nonce ∧
      encrypted.schemaVersion = "adaptive-report-encryption-1.8.0" ∧
      ReportOpens env encrypted key u (canonicalJson env report.artifact) ∧
      Seals env.aead env.urlsafeB64 env.sha256 u (canonicalJson env report.artifact)
        encrypted.texts := by
  simp only [encryptReport, normalizeKey, normalizeKeyWith_ok_iff, bind_ok, demand_eq_ok,
    pure_ok] at h
  obtain ⟨rawKey, hkey, ciphertext, hencrypt, rfl⟩ := h
  have hseals : Seals env.aead env.urlsafeB64 env.sha256
      ⟨.aes256Gcm, rawKey, nonce, _, ciphertext⟩ (canonicalJson env report.artifact) _ :=
    ⟨hencrypt, rfl⟩
  exact ⟨_, rfl, rfl, ⟨⟨rfl, rfl⟩, hkey, rfl, hseals.opens⟩, hseals⟩

theorem decryptReport_valid_iff {encrypted : EncryptedAdaptiveReport} {key : Key}
    {artifact : Option Value} :
    (∃ result, decryptReport env encrypted key = .ok result ∧ result.valid = true ∧
      result.artifact = artifact) ↔
      ∃ u plaintext value, ReportOpens env encrypted key u plaintext ∧
        loadsBytes env plaintext = .ok value ∧ artifact = some value := by
  constructor
  · rintro ⟨result, h, hvalid, hartifact⟩
    rw [decryptReport] at h
    split at h
    · rw [← pure_ok.mp h] at hvalid
      cases hvalid
    · rename_i halgorithm
      simp only [normalizeKey, bind_ok, normalizeKeyWith_ok_iff, b64decode, demand_eq_ok] at h
      obtain ⟨rawKey, hkey, nonce, hnonce, ciphertext, hciphertext, aad, haad, h⟩ := h
      split at h
      · rw [← pure_ok.mp h] at hvalid
        cases hvalid
      · rename_i hbuilt
        split at h
        · rw [← pure_ok.mp h] at hvalid
          cases hvalid
        · rename_i plaintext hplaintext
          split at h
          · rename_i hdigest
            obtain ⟨value, hvalue, h⟩ := bind_ok.mp h
            rw [← pure_ok.mp h] at hartifact
            exact ⟨⟨.aes256Gcm, rawKey, nonce, aad, ciphertext⟩, plaintext, value,
              ⟨⟨rfl, not_not.mp halgorithm⟩, hkey, not_not.mp hbuilt,
                ⟨hnonce, haad, hciphertext, hplaintext, hdigest⟩⟩, hvalue, hartifact.symm⟩
          · rw [← pure_ok.mp h] at hvalid
            cases hvalid
  · rintro ⟨⟨algorithm, rawKey, nonce, aad, ciphertext⟩, plaintext, value,
      ⟨⟨hchosen, halgorithm⟩, hraw, hbuilt, hnonce, haad, hciphertext, hplaintext, hdigest⟩, hvalue,
      rfl⟩
    have hkey : normalizeKey env key = .ok rawKey := normalizeKeyWith_ok_iff.mpr hraw
    dsimp only [EncryptedAdaptiveReport.texts] at hnonce haad hciphertext hdigest
    obtain rfl : algorithm = .aes256Gcm := hchosen
    subst hbuilt
    simp [decryptReport, halgorithm, hkey, b64decode, hnonce, hciphertext, haad, hplaintext,
      hdigest, hvalue, ok_bind]

theorem associatedData_inj {workflowId reportKind keyId version workflowId' reportKind' keyId'
    version' : String}
    (h : associatedData env workflowId reportKind keyId version =
      associatedData env workflowId' reportKind' keyId' version') :
    workflowId = workflowId' ∧ reportKind = reportKind' ∧ keyId = keyId' ∧ version = version' := by
  have hget := get?_of_canonicalJson h
  refine ⟨?_, ?_, ?_, ?_⟩
  · simpa [Dict.get?, Value.canonical] using hget "workflow_id"
  · simpa [Dict.get?, Value.canonical] using hget "report_kind"
  · simpa [Dict.get?, Value.canonical] using hget "key_id"
  · simpa [Dict.get?, Value.canonical] using hget "plaintext_schema_version"

theorem buildAad_ne_associatedData (algorithm keyId schemaVersion workflowId reportKind keyId'
    version : String) : buildAad env algorithm keyId schemaVersion ≠
      associatedData env workflowId reportKind keyId' version := by
  intro h
  have hget := get?_of_canonicalJson h "workflow_id"
  simp [Dict.get?] at hget

end AdaptiveReportEncryptor

end MaestroKernel.Security
