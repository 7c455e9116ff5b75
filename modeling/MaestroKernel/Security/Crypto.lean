import Mathlib
import MaestroKernel.Library.Checked
import MaestroKernel.Library.JsonLayouts
import MaestroKernel.Library.Sealing

/-! # Crypto envelopes

Reports under authenticated encryption, with the metadata that the envelope states beside them. The
time of creation, which nothing reads, is left out. -/

namespace MaestroKernel.Security

open Checked JsonText Sealing

inductive AEADAlgorithm where
  | aes256Gcm
  | chacha20Poly1305

def AEADAlgorithm.value : AEADAlgorithm → String
  | .aes256Gcm => "AES-256-GCM"
  | .chacha20Poly1305 => "ChaCha20-Poly1305"

def KEY_LENGTH_BYTES : ℕ := 32

def NONCE_LENGTH_BYTES : ℤ := 12

def ENVELOPE_SCHEMA_VERSION : String := "processual-crypto-envelope-2.0.0"

/-- The ciphers, base64, the digests, `str` and the texts of the errors of `json.loads`,
`bytes.decode` and a cipher. -/
structure Platform where
  floats : FloatText
  aead : AEADAlgorithm → Cipher ByteArray
  urlsafeB64 : Codec ByteArray
  sha3_256 : ByteArray → String
  sha256 : ByteArray → String
  str : Value → String
  jsonError : String → String
  utf8Error : ByteArray → String
  cipherError : String

inductive Failure where
  | encryptionError (message : String)
  | decryptionError (message : String)
  | valueError (message : String)
  | cipherError (message : String)

/-- `str(exc)` -/
def Failure.message : Failure → String
  | .encryptionError message => message
  | .decryptionError message => message
  | .valueError message => message
  | .cipherError message => message

inductive Key where
  | bytes (raw : ByteArray)
  | text (b64 : String)

structure CryptoEnvelope where
  algorithm : String
  keyId : String
  nonceB64 : String
  aadB64 : String
  ciphertextB64 : String
  plaintextSha3_256 : String
  ciphertextSha3_256 : String
  schemaVersion : String := ENVELOPE_SCHEMA_VERSION

def CryptoEnvelope.texts (envelope : CryptoEnvelope) : Texts where
  nonce := envelope.nonceB64
  aad := envelope.aadB64
  ciphertext := envelope.ciphertextB64
  plaintextDigest := envelope.plaintextSha3_256
  ciphertextDigest := envelope.ciphertextSha3_256

section Functions

variable (env : Platform)

def canonicalJson (value : Value) : ByteArray := (dumpsSortedIn dense env.floats value).toUTF8

def b64decode (message value : String) : Except Failure ByteArray :=
  demand (env.urlsafeB64.decode value) (.valueError message)

/-- `normalize_key` of both encryptors, with the texts of its errors. -/
def normalizeKeyWith (b64Message : String) (lengthMessage : ℕ → String) (key : Key) :
    Except Failure ByteArray := do
  let raw ← match key with
    | .bytes raw => pure raw
    | .text value => b64decode env b64Message value
  raiseIf (raw.size ≠ KEY_LENGTH_BYTES) (.valueError (lengthMessage raw.size))
  pure raw

def INVALID_BASE64 : String := "invalid base64-encoded value"

def normalizeKey (key : Key) : Except Failure ByteArray :=
  normalizeKeyWith env INVALID_BASE64
    (fun size => "AEAD requires exactly " ++ toString KEY_LENGTH_BYTES ++ " key bytes, got " ++
      toString size) key

def buildAad (algorithm keyId schemaVersion : String) : ByteArray :=
  canonicalJson env (.obj [("algorithm", .str algorithm), ("key_id", .str keyId),
    ("schema_version", .str schemaVersion), ("nonce_length", .int NONCE_LENGTH_BYTES)])

/-- `encrypt_aes256_gcm` and `encrypt_chacha20_poly1305`, with the nonce that is drawn. -/
def encryptWith (algorithm : AEADAlgorithm) (plaintext : ByteArray) (key : Key) (keyId : String)
    (nonce : ByteArray) : Except Failure CryptoEnvelope := do
  let rawKey ← normalizeKey env key
  let aad := buildAad env algorithm.value keyId ENVELOPE_SCHEMA_VERSION
  let ciphertext ← demand ((env.aead algorithm).encrypt rawKey nonce plaintext aad)
    (.encryptionError (algorithm.value ++ " encryption failed"))
  pure {
    algorithm := algorithm.value
    keyId := keyId
    nonceB64 := env.urlsafeB64.encode nonce
    aadB64 := env.urlsafeB64.encode aad
    ciphertextB64 := env.urlsafeB64.encode ciphertext
    plaintextSha3_256 := env.sha3_256 plaintext
    ciphertextSha3_256 := env.sha3_256 ciphertext }

/-- `decrypt_aes256_gcm` and `decrypt_chacha20_poly1305` -/
def decryptWith (algorithm : AEADAlgorithm) (envelope : CryptoEnvelope) (key : Key) :
    Except Failure ByteArray := do
  raiseIf (envelope.algorithm ≠ algorithm.value)
    (.decryptionError ("expected " ++ algorithm.value ++ ", got " ++ envelope.algorithm))
  let rawKey ← normalizeKey env key
  let nonce ← b64decode env INVALID_BASE64 envelope.nonceB64
  let ciphertext ← b64decode env INVALID_BASE64 envelope.ciphertextB64
  let aad ← b64decode env INVALID_BASE64 envelope.aadB64
  raiseIf (aad ≠ buildAad env envelope.algorithm envelope.keyId envelope.schemaVersion)
    (.decryptionError "associated data mismatch")
  let plaintext ← demand ((env.aead algorithm).decrypt rawKey nonce ciphertext aad)
    (.decryptionError (algorithm.value ++ " decryption failed (authentication error)"))
  raiseIf (env.sha3_256 plaintext ≠ envelope.plaintextSha3_256)
    (.decryptionError "plaintext checksum mismatch")
  pure plaintext

def encryptReport (report : Value) (key : Key) (algorithm : AEADAlgorithm) (keyId : String)
    (nonce : ByteArray) : Except Failure CryptoEnvelope :=
  encryptWith env algorithm (canonicalJson env report) key keyId nonce

/-- `json.loads(plaintext.decode("utf-8"))` -/
def loadsBytes (plaintext : ByteArray) : Except Failure Value := do
  let text ← demand (String.fromUTF8? plaintext) (.valueError (env.utf8Error plaintext))
  demand (loads env.floats text) (.valueError (env.jsonError text))

def decryptReport (envelope : CryptoEnvelope) (key : Key) : Except Failure Value := do
  let plaintext ←
    if envelope.algorithm = AEADAlgorithm.aes256Gcm.value then
      decryptWith env .aes256Gcm envelope key
    else if envelope.algorithm = AEADAlgorithm.chacha20Poly1305.value then
      decryptWith env .chacha20Poly1305 envelope key
    else .error (.decryptionError ("unsupported algorithm: " ++ envelope.algorithm))
  loadsBytes env plaintext

def rotateEncryptedReport (oldEnvelope : CryptoEnvelope) (oldKey newKey : Key) (newKeyId : String)
    (newAlgorithm : AEADAlgorithm) (nonce : ByteArray) : Except Failure CryptoEnvelope := do
  let plaintext ← decryptReport env oldEnvelope oldKey
  encryptReport env plaintext newKey newAlgorithm newKeyId nonce

structure EnvelopeVerificationResult where
  valid : Bool
  reason : String
  plaintext : Option Value := none

def verifyEnvelope (envelope : CryptoEnvelope) (key : Key) : EnvelopeVerificationResult :=
  match decryptReport env envelope key with
  | .ok plaintext =>
    { valid := true, reason := "decryption and checksum verification passed"
      plaintext := some plaintext }
  | .error failure => { valid := false, reason := failure.message }

end Functions

/-! ## What is written is read back -/

section Reading

variable {env : Platform}

theorem loadsBytes_canonicalJson (value : Value) :
    loadsBytes env (canonicalJson env value) = .ok value.canonical := by
  have hutf8 : ∀ s : String, String.fromUTF8? s.toUTF8 = some s := by
    intro s
    simp only [String.fromUTF8?, String.toUTF8_eq_toByteArray, s.isValidUTF8, dif_pos]
    rfl
  rw [loadsBytes, canonicalJson, hutf8, demand_some_bind, loads_dumpsSortedIn]
  rfl

theorem canonical_of_canonicalJson {v w : Value} (h : canonicalJson env v = canonicalJson env w) :
    v.canonical = w.canonical := by
  have hloads : loadsBytes env (canonicalJson env v) = .ok v.canonical := loadsBytes_canonicalJson v
  rw [h, loadsBytes_canonicalJson] at hloads
  exact (Except.ok.inj hloads).symm

theorem get?_of_canonicalJson {xs ys : List (String × Value)}
    (h : canonicalJson env (.obj xs) = canonicalJson env (.obj ys)) (k : String) :
    (Dict.get? k xs).map Value.canonical = (Dict.get? k ys).map Value.canonical := by
  have hitems := Value.obj.inj (canonical_of_canonicalJson h)
  have hget := congrArg (Dict.get? k) hitems
  rwa [Dict.get?_ordered, Dict.get?_ordered, Value.canonicalItems_eq, Value.canonicalItems_eq,
    Dict.get?_map, Dict.get?_map] at hget

/-- The associated data determines what it is built from. -/
theorem buildAad_inj {algorithm keyId schemaVersion algorithm' keyId' schemaVersion' : String}
    (h : buildAad env algorithm keyId schemaVersion =
      buildAad env algorithm' keyId' schemaVersion') :
    algorithm = algorithm' ∧ keyId = keyId' ∧ schemaVersion = schemaVersion' := by
  have hget := get?_of_canonicalJson h
  refine ⟨?_, ?_, ?_⟩
  · simpa [Dict.get?, Value.canonical] using hget "algorithm"
  · simpa [Dict.get?, Value.canonical] using hget "key_id"
  · simpa [Dict.get?, Value.canonical] using hget "schema_version"

theorem value_injective {a b : AEADAlgorithm} (h : a.value = b.value) : a = b := by
  cases a <;> cases b <;> first | rfl | exact absurd h (by decide)

/-- The key has these bytes. -/
def RawKey (env : Platform) (key : Key) (rawKey : ByteArray) : Prop :=
  rawKey.size = KEY_LENGTH_BYTES ∧ match key with
    | .bytes raw => raw = rawKey
    | .text value => env.urlsafeB64.decode value = some rawKey

theorem normalizeKeyWith_ok_iff {b64Message : String} {lengthMessage : ℕ → String} {key : Key}
    {rawKey : ByteArray} :
    normalizeKeyWith env b64Message lengthMessage key = .ok rawKey ↔ RawKey env key rawKey := by
  cases key with
  | bytes raw =>
    simp only [normalizeKeyWith, RawKey, bind_ok, pure_ok, raiseIf_eq_ok, not_not, exists_const,
      exists_eq_left']
    constructor
    · rintro ⟨hsize, rfl⟩
      exact ⟨hsize, rfl⟩
    · rintro ⟨hsize, rfl⟩
      exact ⟨hsize, rfl⟩
  | text value =>
    simp only [normalizeKeyWith, b64decode, RawKey, bind_ok, demand_eq_ok, pure_ok,
      raiseIf_eq_ok, not_not, exists_const]
    constructor
    · rintro ⟨raw, hraw, hsize, rfl⟩
      exact ⟨hsize, hraw⟩
    · rintro ⟨hsize, hraw⟩
      exact ⟨rawKey, hraw, hsize, rfl⟩

theorem RawKey.unique {key : Key} {rawKey rawKey' : ByteArray} (h : RawKey env key rawKey)
    (h' : RawKey env key rawKey') : rawKey = rawKey' := by
  cases key with
  | bytes raw => exact h.2.symm.trans h'.2
  | text value => exact Option.some.inj (h.2.symm.trans h'.2)

/-- The use of a cipher under the key that the envelope opens in. -/
structure EnvelopeOpens (env : Platform) (envelope : CryptoEnvelope) (key : Key)
    (u : Use AEADAlgorithm ByteArray) (plaintext : ByteArray) : Prop where
  algorithm : envelope.algorithm = u.algorithm.value
  key : RawKey env key u.key
  aad : u.aad = buildAad env envelope.algorithm envelope.keyId envelope.schemaVersion
  opens : Opens env.aead env.urlsafeB64 env.sha3_256 u plaintext envelope.texts

/-- What `encrypt_report` returns was made in one use of the cipher. -/
theorem encryptReport_ok {report : Value} {key : Key} {algorithm : AEADAlgorithm} {keyId : String}
    {nonce : ByteArray} {envelope : CryptoEnvelope}
    (h : encryptReport env report key algorithm keyId nonce = .ok envelope) :
    ∃ u : Use AEADAlgorithm ByteArray, u.algorithm = algorithm ∧ u.nonce = nonce ∧
      EnvelopeOpens env envelope key u (canonicalJson env report) ∧
      Seals env.aead env.urlsafeB64 env.sha3_256 u (canonicalJson env report) envelope.texts := by
  simp only [encryptReport, encryptWith, normalizeKey, normalizeKeyWith_ok_iff, bind_ok,
    demand_eq_ok, pure_ok] at h
  obtain ⟨rawKey, hkey, ciphertext, hencrypt, rfl⟩ := h
  have hseals : Seals env.aead env.urlsafeB64 env.sha3_256
      ⟨algorithm, rawKey, nonce, buildAad env algorithm.value keyId ENVELOPE_SCHEMA_VERSION,
        ciphertext⟩ (canonicalJson env report) _ := ⟨hencrypt, rfl⟩
  exact ⟨_, rfl, rfl, ⟨rfl, hkey, rfl, hseals.opens⟩, hseals⟩

theorem decryptWith_ok_iff {algorithm : AEADAlgorithm} {envelope : CryptoEnvelope} {key : Key}
    {plaintext : ByteArray} : decryptWith env algorithm envelope key = .ok plaintext ↔
      ∃ u, u.algorithm = algorithm ∧ EnvelopeOpens env envelope key u plaintext := by
  simp only [decryptWith, normalizeKey, normalizeKeyWith_ok_iff, b64decode, bind_ok, demand_eq_ok,
    raiseIf_eq_ok, pure_ok, not_not, exists_const]
  constructor
  · rintro ⟨halgorithm, rawKey, hkey, nonce, hnonce, ciphertext, hciphertext, aad, haad, hbuilt,
      found, hfound, hdigest, rfl⟩
    exact ⟨⟨algorithm, rawKey, nonce, aad, ciphertext⟩, rfl, halgorithm, hkey, hbuilt, hnonce, haad,
      hciphertext, hfound, hdigest⟩
  · rintro ⟨u, rfl, halgorithm, hkey, hbuilt, hnonce, haad, hciphertext, hfound, hdigest⟩
    exact ⟨halgorithm, u.key, hkey, u.nonce, hnonce, u.ciphertext, hciphertext, u.aad, haad, hbuilt,
      plaintext, hfound, hdigest, rfl⟩

theorem decryptReport_ok_iff {envelope : CryptoEnvelope} {key : Key} {report : Value} :
    decryptReport env envelope key = .ok report ↔
      ∃ u plaintext, EnvelopeOpens env envelope key u plaintext ∧
        loadsBytes env plaintext = .ok report := by
  have hopened : ∀ {algorithm}, envelope.algorithm = algorithm.value →
      ((decryptWith env algorithm envelope key >>= loadsBytes env) = .ok report ↔
        ∃ u plaintext, EnvelopeOpens env envelope key u plaintext ∧
          loadsBytes env plaintext = .ok report) := by
    intro algorithm halgorithm
    simp only [bind_ok, decryptWith_ok_iff]
    constructor
    · rintro ⟨plaintext, ⟨u, -, hopens⟩, hreport⟩
      exact ⟨u, plaintext, hopens, hreport⟩
    · rintro ⟨u, plaintext, hopens, hreport⟩
      have hchosen := value_injective (hopens.algorithm.symm.trans halgorithm)
      exact ⟨plaintext, ⟨u, hchosen, hopens⟩, hreport⟩
  rw [decryptReport]
  split
  · rename_i haes
    exact hopened haes
  · rename_i haes
    split
    · rename_i hchacha
      exact hopened hchacha
    · rename_i hchacha
      constructor
      · intro h
        cases h
      · rintro ⟨u, plaintext, hopens, -⟩
        have halgorithm := hopens.algorithm
        cases hu : u.algorithm with
        | aes256Gcm => exact absurd (hu ▸ halgorithm) haes
        | chacha20Poly1305 => exact absurd (hu ▸ halgorithm) hchacha

theorem decryptReport_encryptReport {report : Value} {key : Key} {algorithm : AEADAlgorithm}
    {keyId : String} {nonce : ByteArray} {envelope : CryptoEnvelope}
    (h : encryptReport env report key algorithm keyId nonce = .ok envelope) :
    decryptReport env envelope key = .ok report.canonical := by
  obtain ⟨u, -, -, hopens, -⟩ := encryptReport_ok h
  exact decryptReport_ok_iff.mpr ⟨u, _, hopens, loadsBytes_canonicalJson report⟩

theorem verifyEnvelope_valid {envelope : CryptoEnvelope} {key : Key} :
    (verifyEnvelope env envelope key).valid = true ↔
      ∃ report, decryptReport env envelope key = .ok report := by
  rw [verifyEnvelope]
  cases decryptReport env envelope key with
  | ok report => simp
  | error failure => simp

end Reading

end MaestroKernel.Security
