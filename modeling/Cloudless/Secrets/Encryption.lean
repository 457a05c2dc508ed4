import Cloudless.Foundations.Hex

namespace Cloudless.Secrets

open Foundations.GoStd

def nonceSize : ℕ := 12

def dataKeySize : ℕ := 32

def maxSecretSize : ℕ := 1024 * 1024

abbrev Key := { bytes : Bytes // bytes.length = dataKeySize }

abbrev Nonce := { bytes : Bytes // bytes.length = nonceSize }

/-- AES-256-GCM as an ideal cipher: it opens exactly what was sealed under the same key and nonce, and what was sealed
under one key was sealed under no other. -/
structure GCM where
  sealWith : Key → Nonce → Bytes → Bytes
  openWith : Key → Nonce → Bytes → Option Bytes
  openWith_eq_some : ∀ {key nonce ciphertext plaintext},
    openWith key nonce ciphertext = some plaintext ↔ ciphertext = sealWith key nonce plaintext
  sealWith_key : ∀ {key key' nonce nonce' plaintext plaintext'},
    sealWith key nonce plaintext = sealWith key' nonce' plaintext' → key = key'
  sealWith_ne_nil : ∀ {key nonce plaintext}, sealWith key nonce plaintext ≠ []

structure MasterKey where
  id : String
  key : Key
  active : Bool
  (createdAt rotatedAt : Time)

structure Entropy where
  dataKey : Except String Key
  (nonce dataKeyNonce : Except String Nonce)

structure Envelope where
  (encryptedData encryptedDataKey nonce : Bytes)
  deriving DecidableEq

section Envelopes

variable (gcm : GCM)

def wrapError {α : Type} (text : String) (result : Except String α) : Except String α :=
  result.mapError fun err => text ++ ": " ++ err

def encryptWithKey (plaintext : Bytes) (key : Key) (nonce : Except String Nonce) : Except String (Bytes × Nonce) := do
  let nonce ← wrapError "failed to generate nonce" nonce
  return (gcm.sealWith key nonce plaintext, nonce)

def encrypt (masterKey : MasterKey) (entropy : Entropy) (plaintext : Bytes) : Except String Envelope :=
  if plaintext.length = 0 then .error "plaintext cannot be empty"
  else if maxSecretSize < plaintext.length then .error "plaintext exceeds maximum size of 1048576 bytes"
  else do
    let dataKey ← wrapError "failed to generate data key" entropy.dataKey
    let (encryptedData, nonce) ← wrapError "failed to encrypt data" (encryptWithKey gcm plaintext dataKey entropy.nonce)
    let (encryptedDataKey, dataKeyNonce) ←
      wrapError "failed to encrypt data key" (encryptWithKey gcm dataKey masterKey.key entropy.dataKeyNonce)
    return ⟨encryptedData, dataKeyNonce ++ encryptedDataKey, nonce⟩

def decryptWithKey (ciphertext : Bytes) (key : Key) (nonce : Nonce) : Except String Bytes :=
  match gcm.openWith key nonce ciphertext with
  | some plaintext => .ok plaintext
  | none => .error "decryption failed: cipher: message authentication failed"

def decrypt (masterKey : MasterKey) (envelope : Envelope) : Except String Bytes :=
  if envelope.encryptedData.length = 0 then .error "encrypted data cannot be empty"
  else if envelope.encryptedDataKey.length = 0 then .error "encrypted data key cannot be empty"
  else if hn : envelope.nonce.length = nonceSize then
    if hk : envelope.encryptedDataKey.length < nonceSize then
      .error ("encrypted data key too short: expected at least 12 bytes, got " ++
        toString envelope.encryptedDataKey.length)
    else do
      let dataKeyNonce : Nonce := ⟨envelope.encryptedDataKey.take nonceSize, by simp; omega⟩
      let encryptedKey := envelope.encryptedDataKey.drop nonceSize
      let dataKey ← wrapError "failed to decrypt data key" (decryptWithKey gcm encryptedKey masterKey.key dataKeyNonce)
      if hs : dataKey.length = dataKeySize then
        wrapError "failed to decrypt data"
          (decryptWithKey gcm envelope.encryptedData ⟨dataKey, hs⟩ ⟨envelope.nonce, hn⟩)
      else .error ("invalid data key size: expected 32, got " ++ toString dataKey.length)
  else .error ("invalid nonce size: expected 12, got " ++ toString envelope.nonce.length)

def reEncryptWithNewKey (entropy : Entropy) (oldKey newKey : MasterKey) (envelope : Envelope) :
    Except String Envelope := do
  let plaintext ← wrapError "failed to decrypt with old key" (decrypt gcm oldKey envelope)
  wrapError "failed to encrypt with new key" (encrypt gcm newKey entropy plaintext)

variable {gcm}

@[simp] lemma wrapError_eq_ok {α : Type} {t : String} {r : Except String α} {a : α} :
    wrapError t r = .ok a ↔ r = .ok a := by
  cases r <;> simp [wrapError, Except.mapError]

def Envelope.Holds (gcm : GCM) (envelope : Envelope) (key : Key) (plaintext : Bytes) : Prop :=
  ∃ (dataKey : Key) (nonce dataKeyNonce : Nonce), envelope =
    ⟨gcm.sealWith dataKey nonce plaintext, dataKeyNonce ++ gcm.sealWith key dataKeyNonce dataKey, nonce⟩

lemma Envelope.Holds.key_unique {envelope e' : Envelope} {key key' : Key} {plaintext p' : Bytes}
    (h : envelope.Holds gcm key plaintext) (h' : e'.Holds gcm key' p')
    (he : envelope.encryptedDataKey = e'.encryptedDataKey) : key = key' := by
  obtain ⟨dk, n, dkn, rfl⟩ := h
  obtain ⟨dk', n', dkn', rfl⟩ := h'
  have hlen : dkn.1.length = dkn'.1.length := dkn.2.trans dkn'.2.symm
  exact gcm.sealWith_key (List.append_inj_right he hlen)

variable {envelope : Envelope} {key : Key} {plaintext : Bytes}

lemma Envelope.Holds.length_nonce (h : envelope.Holds gcm key plaintext) : envelope.nonce.length = nonceSize := by
  obtain ⟨dk, n, dkn, rfl⟩ := h
  exact n.2

lemma Envelope.Holds.nonce_ne_nil (h : envelope.Holds gcm key plaintext) : envelope.nonce ≠ [] := by
  intro hn
  have hl := h.length_nonce
  rw [hn] at hl
  cases hl

lemma Envelope.Holds.encryptedDataKey_ne_nil
    (h : envelope.Holds gcm key plaintext) : envelope.encryptedDataKey ≠ [] := by
  obtain ⟨dk, n, dkn, rfl⟩ := h
  simp [gcm.sealWith_ne_nil]

@[simp] lemma decryptWithKey_eq_ok {c plaintext : Bytes} {n : Nonce} :
    decryptWithKey gcm c key n = .ok plaintext ↔ c = gcm.sealWith key n plaintext := by
  rw [decryptWithKey, ← gcm.openWith_eq_some]
  cases gcm.openWith key n c <;> simp

lemma decrypt_eq_ok {mk : MasterKey} :
    decrypt gcm mk envelope = .ok plaintext ↔ envelope.Holds gcm mk.key plaintext := by
  constructor
  · intro h
    rw [decrypt] at h
    split_ifs at h with hd hk hn hs
    obtain ⟨dk, hdk, h⟩ := except_bind_eq_ok.mp h
    rw [wrapError_eq_ok, decryptWithKey_eq_ok] at hdk
    split_ifs at h with hsize
    rw [wrapError_eq_ok, decryptWithKey_eq_ok] at h
    refine ⟨⟨dk, hsize⟩, ⟨envelope.nonce, hn⟩, ⟨envelope.encryptedDataKey.take nonceSize, ?_⟩, ?_⟩
    · rw [List.length_take, min_eq_left (not_lt.mp hs)]
    · rw [← h, ← hdk, List.take_append_drop]
  · rintro ⟨dk, n, dkn, rfl⟩
    have hlen : (dkn.1 ++ gcm.sealWith mk.key dkn dk).length =
        nonceSize + (gcm.sealWith mk.key dkn dk).length := by
      rw [List.length_append, dkn.2]
    rw [decrypt, if_neg (by simp [gcm.sealWith_ne_nil]), if_neg (by rw [hlen, nonceSize]; omega), dif_pos n.2,
      dif_neg (by rw [hlen]; omega), except_bind_eq_ok]
    refine ⟨dk, ?_, ?_⟩
    · simp [dkn.2]
    · rw [dif_pos dk.2, wrapError_eq_ok, decryptWithKey_eq_ok]

lemma Envelope.Holds.plaintext_unique {plaintext plaintext' : Bytes}
    (h : envelope.Holds gcm key plaintext) (h' : envelope.Holds gcm key plaintext') : plaintext = plaintext' := by
  let masterKey : MasterKey := ⟨"", key, true, 0, 0⟩
  have hd : decrypt gcm masterKey envelope = .ok plaintext := decrypt_eq_ok.mpr h
  rw [decrypt_eq_ok.mpr (show envelope.Holds gcm masterKey.key plaintext' from h')] at hd
  exact (Except.ok.inj hd).symm

lemma encrypt_eq_ok {mk : MasterKey} {e : Entropy} (h : encrypt gcm mk e plaintext = .ok envelope) :
    0 < plaintext.length ∧ plaintext.length ≤ maxSecretSize ∧ envelope.Holds gcm mk.key plaintext := by
  rw [encrypt] at h
  split_ifs at h with hz hm
  obtain ⟨dk, -, h⟩ := except_bind_eq_ok.mp h
  obtain ⟨⟨ed, n⟩, hd, h⟩ := except_bind_eq_ok.mp h
  obtain ⟨⟨edk, dkn⟩, hk, h⟩ := except_bind_eq_ok.mp h
  rw [wrapError_eq_ok, encryptWithKey] at hd hk
  obtain ⟨_, -, hd⟩ := except_bind_eq_ok.mp hd
  obtain ⟨_, -, hk⟩ := except_bind_eq_ok.mp hk
  cases hd
  cases hk
  cases h
  exact ⟨by omega, by omega, dk, n, dkn, rfl⟩

lemma reEncryptWithNewKey_eq_ok {e : Entropy} {ol nk : MasterKey} {envelope e' : Envelope}
    (h : reEncryptWithNewKey gcm e ol nk envelope = .ok e') :
    ∃ plaintext, envelope.Holds gcm ol.key plaintext ∧ e'.Holds gcm nk.key plaintext ∧
      0 < plaintext.length ∧ plaintext.length ≤ maxSecretSize := by
  obtain ⟨plaintext, hd, h⟩ := except_bind_eq_ok.mp h
  rw [wrapError_eq_ok, decrypt_eq_ok] at hd
  rw [wrapError_eq_ok] at h
  obtain ⟨hz, hm, hh⟩ := encrypt_eq_ok h
  exact ⟨plaintext, hd, hh, hz, hm⟩

end Envelopes

def plainGCM : GCM where
  sealWith key nonce plaintext := key.1 ++ nonce.1 ++ plaintext
  openWith key nonce ciphertext :=
    if (key.1 ++ nonce.1).isPrefixOf ciphertext then some (ciphertext.drop (dataKeySize + nonceSize)) else none
  openWith_eq_some := by
    intro key nonce ciphertext plaintext
    have hlen : (key.1 ++ nonce.1).length = dataKeySize + nonceSize := by rw [List.length_append, key.2, nonce.2]
    constructor
    · intro h
      split_ifs at h with hp
      obtain ⟨rest, rfl⟩ := List.isPrefixOf_iff_prefix.mp hp
      rw [← hlen, List.drop_left] at h
      cases h
      rfl
    · rintro rfl
      rw [if_pos (List.isPrefixOf_iff_prefix.mpr (List.prefix_append _ _)), ← hlen, List.drop_left]
  sealWith_key := by
    intro key key' nonce nonce' plaintext plaintext' h
    rw [List.append_assoc, List.append_assoc] at h
    exact Subtype.ext (List.append_inj_left h (key.2.trans key'.2.symm))
  sealWith_ne_nil := by
    intro key nonce plaintext h
    have hk := key.2
    rw [(List.append_eq_nil_iff.mp (List.append_eq_nil_iff.mp h).1).1] at hk
    cases hk

def constantKey (b : UInt8) : Key := ⟨List.replicate dataKeySize b, List.length_replicate⟩

def constantNonce (b : UInt8) : Nonce := ⟨List.replicate nonceSize b, List.length_replicate⟩

def constantEntropy (b : UInt8) : Entropy := ⟨.ok (constantKey b), .ok (constantNonce b), .ok (constantNonce b)⟩

end Cloudless.Secrets
