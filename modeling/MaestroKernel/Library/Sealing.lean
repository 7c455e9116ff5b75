import Mathlib.Data.List.Nodup

/-! # Sealed texts

Authenticated encryption whose nonce, associated data and ciphertext are carried as texts, beside
the digests of the plaintext and of the ciphertext. -/

namespace MaestroKernel.Sealing

variable {A B : Type}

/-- Encryption under a key, a nonce and associated data; `none` is an exception. -/
structure Cipher (B : Type) where
  encrypt : (key nonce plaintext aad : B) → Option B
  decrypt : (key nonce ciphertext aad : B) → Option B
  decrypt_encrypt : ∀ {key nonce plaintext aad ciphertext},
    encrypt key nonce plaintext aad = some ciphertext →
      decrypt key nonce ciphertext aad = some plaintext

structure Codec (B : Type) where
  encode : B → String
  decode : String → Option B
  decode_encode : ∀ b, decode (encode b) = some b

structure Texts where
  nonce : String
  aad : String
  ciphertext : String
  plaintextDigest : String
  ciphertextDigest : String

/-- What a cipher was given, and what it made of it. -/
@[ext] structure Use (A B : Type) where
  algorithm : A
  key : B
  nonce : B
  aad : B
  ciphertext : B

section Sealing

variable (cipher : A → Cipher B) (codec : Codec B) (digest : B → String)

structure Seals (u : Use A B) (plaintext : B) (t : Texts) : Prop where
  encrypt : (cipher u.algorithm).encrypt u.key u.nonce plaintext u.aad = some u.ciphertext
  texts : t = ⟨codec.encode u.nonce, codec.encode u.aad, codec.encode u.ciphertext,
    digest plaintext, digest u.ciphertext⟩

structure Opens (u : Use A B) (plaintext : B) (t : Texts) : Prop where
  nonce : codec.decode t.nonce = some u.nonce
  aad : codec.decode t.aad = some u.aad
  ciphertext : codec.decode t.ciphertext = some u.ciphertext
  decrypt : (cipher u.algorithm).decrypt u.key u.nonce u.ciphertext u.aad = some plaintext
  digest : digest plaintext = t.plaintextDigest

/-- The texts are no forgery: they open under the key only if a cipher made them under it. -/
def Unforged (log : List (Use A B)) (key : B) (t : Texts) : Prop :=
  ∀ u plaintext, u.key = key → Opens cipher codec digest u plaintext t → u ∈ log

/-- The same bytes and digests. -/
structure Agree (t t' : Texts) : Prop where
  nonce : codec.decode t.nonce = codec.decode t'.nonce
  aad : codec.decode t.aad = codec.decode t'.aad
  ciphertext : codec.decode t.ciphertext = codec.decode t'.ciphertext
  plaintextDigest : t.plaintextDigest = t'.plaintextDigest
  ciphertextDigest : t.ciphertextDigest = t'.ciphertextDigest

variable {cipher codec digest} {u v : Use A B} {plaintext plaintext' : B} {t t' : Texts}

theorem Seals.opens (h : Seals cipher codec digest u plaintext t) :
    Opens cipher codec digest u plaintext t := by
  obtain ⟨hencrypt, rfl⟩ := h
  exact ⟨codec.decode_encode _, codec.decode_encode _, codec.decode_encode _,
    (cipher u.algorithm).decrypt_encrypt hencrypt, rfl⟩

theorem agree_iff (h : Opens cipher codec digest u plaintext t)
    (h' : Seals cipher codec digest u plaintext' t') :
    Agree codec t t' ↔ (codec.decode t.ciphertext).map digest = some t.ciphertextDigest := by
  have hopens := h'.opens
  have hplaintext : plaintext = plaintext' :=
    Option.some.inj (h.decrypt.symm.trans hopens.decrypt)
  have hdigest : t'.ciphertextDigest = digest u.ciphertext := by rw [h'.texts]
  rw [h.ciphertext, Option.map_some, Option.some.injEq, ← hdigest]
  constructor
  · intro hagree
    exact hagree.ciphertextDigest.symm
  · intro heq
    exact ⟨h.nonce.trans hopens.nonce.symm, h.aad.trans hopens.aad.symm,
      h.ciphertext.trans hopens.ciphertext.symm,
      h.digest.symm.trans (hplaintext ▸ hopens.digest), heq.symm⟩

theorem Agree.digest_eq (h : Agree codec t t') (h' : Seals cipher codec digest u plaintext t') :
    (codec.decode t.ciphertext).map digest = some t.ciphertextDigest := by
  rw [h.ciphertext, h'.opens.ciphertext, h.ciphertextDigest, h'.texts]
  rfl

theorem eq_of_opens {log : List (Use A B)} (hnonces : (log.map Use.nonce).Nodup) (hu : u ∈ log)
    (hv : v ∈ log) (h : Seals cipher codec digest u plaintext t)
    (h' : Opens cipher codec digest v plaintext' t) : v = u :=
  List.inj_on_of_nodup_map hnonces hv hu
    (Option.some.inj (h'.nonce.symm.trans h.opens.nonce))

end Sealing

end MaestroKernel.Sealing
