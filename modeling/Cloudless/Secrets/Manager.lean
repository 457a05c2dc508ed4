import Cloudless.Secrets.Encryption
import Cloudless.Secrets.Store
import Cloudless.Secrets.Tokens

namespace Cloudless.Secrets

open Foundations FiniteMaps GoStd MapLoops Raft

def maxSecretKeys : ℕ := 100

inductive SecretAction
  | create
  | update
  | delete
  | rotate
  | access
  deriving DecidableEq

structure SecretAuditEntry where
  timestamp : Time
  action : SecretAction
  (secretRef actor : String)
  audience : String := ""
  success : Bool
  reason : String := ""
  tokensRevoked : Option ℕ := none
  deriving DecidableEq

inductive SecretOption
  | withLabels (labels : FMap String String)
  | withAudiences (audiences : List String)
  | withTTL (seconds : Int64)
  | withExpiration (expiresAt : Time)
  | withImmutable

def SecretOption.apply : SecretOption → Secret → Secret
  | .withLabels labels, secret => { secret with labels := labels }
  | .withAudiences audiences, secret => { secret with audiences := audiences }
  | .withTTL seconds, secret => { secret with ttl := seconds }
  | .withExpiration expiresAt, secret => { secret with expiresAt := some expiresAt }
  | .withImmutable, secret => { secret with immutable := true }

structure SecretAccessRequest where
  (secretName ns audience accessToken : String)

structure SecretAccessResponse where
  (name ns : String)
  data : FMap String Bytes
  version : UInt64
  expiresAt : Option Time
  deriving DecidableEq

structure SecretMetadata where
  (name ns : String)
  labels : FMap String String
  version : UInt64
  (createdAt updatedAt : Time)
  keys : List String
  deriving DecidableEq

structure ManagerConfig where
  masterKeyID : String
  masterKey : Key
  tokenTTL : ℤ

variable {V : Type} {codec : Codec Secret V}

structure Manager (codec : Codec Secret V) where
  config : ManagerConfig
  tokens : TokenManager
  store : RaftSecretStore codec
  masterKey : MasterKey
  audit : List SecretAuditEntry

structure Call where
  clock : ℕ → Time
  order : MapOrder
  entropy : String → Entropy
  raft : RaftEnv

structure KeyRotation where
  clock : ℕ → Time
  order : MapOrder
  newKey : Except String (String × Key)
  entropy : String → String → Entropy
  raft : String → RaftEnv

def secretRef (ns name : String) : String := ns ++ "/" ++ name

def validateSecretName (ns name : String) : Option String :=
  if ns = "" then some "namespace: namespace is required"
  else if name = "" then some "name: name is required"
  else if 253 < name.utf8ByteSize then some "name: name must be <= 253 characters"
  else if '/' ∈ name.toList then some "name: name cannot contain '/'"
  else none

variable (order : MapOrder)

def validateSecretData (data : FMap String Bytes) : Option String :=
  if size data = 0 then some "data: secret data cannot be empty"
  else if maxSecretKeys < size data then some "data: secret cannot have more than 100 keys"
  else
    (order.entries data).findSome? fun (key, value) =>
      if key = "" then some "data: secret key cannot be empty"
      else if value.length = 0 then some ("data: secret value for key '" ++ key ++ "' cannot be empty")
      else if maxSecretSize < value.length then
        some ("data: secret value for key '" ++ key ++ "' exceeds maximum size")
      else none

variable (gcm : GCM)

variable (masterKey : MasterKey)

def encryptValues (order : MapOrder) (entropy : String → Entropy)
    (data : FMap String Bytes) : Except String (FMap String Envelope) :=
  forEntries (fun envelopes key value =>
    (wrapError ("failed to encrypt secret value for key " ++ key) (encrypt gcm masterKey (entropy key) value)).map
      fun envelope => envelopes.insert key envelope) (order.entries data) ∅

def annotate (annotations : FMap String String) (key : String) (envelope : Envelope) : FMap String String :=
  (annotations.insert ("edk." ++ key) (Hex.encodeToString envelope.encryptedDataKey)).insert ("nonce." ++ key)
    (Hex.encodeToString envelope.nonce)

def annotateAll (envelopes : FMap String Envelope) (annotations : FMap String String) : FMap String String :=
  (order.entries envelopes).foldl (fun annotations e => annotate annotations e.1 e.2) annotations

def encryptedData (envelopes : FMap String Envelope) : FMap String Bytes :=
  filterMap (fun _ envelope => some envelope.encryptedData) envelopes

def Secret.envelope (secret : Secret) (key : String) (encryptedValue : Bytes) : Except String Envelope :=
  let edkHex := (secret.annotations.lookup ("edk." ++ key)).getD ""
  let nonceHex := (secret.annotations.lookup ("nonce." ++ key)).getD ""
  if edkHex ≠ "" ∧ nonceHex ≠ "" then do
    let edk ← wrapError ("failed to decode EDK for key " ++ key) (Hex.decodeString edkHex)
    let nonce ← wrapError ("failed to decode nonce for key " ++ key) (Hex.decodeString nonceHex)
    return ⟨encryptedValue, edk, nonce⟩
  else
    let legacyNonce := (secret.annotations.lookup "nonce").getD ""
    match secret.encryptedDataKey with
    | none => .error ("encryption metadata not found for key " ++ key)
    | some edk =>
      if legacyNonce = "" then .error ("encryption metadata not found for key " ++ key)
      else do
        let nonce ← wrapError "failed to decode legacy nonce" (Hex.decodeString legacyNonce)
        return ⟨encryptedValue, edk, nonce⟩

def decryptValue (secret : Secret) (key : String) (encryptedValue : Bytes) : Except String Bytes := do
  let envelope ← secret.envelope key encryptedValue
  wrapError ("failed to decrypt secret value for key " ++ key) (decrypt gcm masterKey envelope)

def decryptSecret (order : MapOrder) (secret : Secret) : Except String (FMap String Bytes) :=
  forEntries (fun decryptedData key encryptedValue =>
    (decryptValue gcm masterKey secret key encryptedValue).map fun decrypted => decryptedData.insert key decrypted)
    (order.entries secret.data) ∅

structure ValueRotation where
  annotations : FMap String String
  reencryptedData : FMap String Bytes := ∅
  failure : Option String := none

def rotatedEnvelope (oldKey newKey : MasterKey) (entropy : Entropy) (key : String)
    (nonceHex edkHex : Option String) (encryptedValue : Bytes) : Except String Envelope :=
  match nonceHex with
  | none => .error ("missing nonce for key " ++ key)
  | some nonceHex =>
    match Hex.decodeString nonceHex with
    | .error _ => .error ("failed to decode nonce for key " ++ key ++ ": invalid hex or wrong size")
    | .ok nonce =>
      if nonce.length ≠ nonceSize then
        .error ("failed to decode nonce for key " ++ key ++ ": invalid hex or wrong size")
      else
        match edkHex with
        | none => .error ("missing encrypted data key for key " ++ key)
        | some edkHex => do
          let encryptedDataKey ←
            wrapError ("failed to decode encrypted data key for key " ++ key) (Hex.decodeString edkHex)
          wrapError ("failed to re-encrypt key " ++ key)
            (reEncryptWithNewKey gcm entropy oldKey newKey ⟨encryptedValue, encryptedDataKey, nonce⟩)

def rotateValue (oldKey newKey : MasterKey) (entropy : String → Entropy) (r : ValueRotation)
    (key : String) (encryptedValue : Bytes) : ValueRotation :=
  match rotatedEnvelope gcm oldKey newKey (entropy key) key (r.annotations.lookup ("nonce." ++ key))
    (r.annotations.lookup ("edk." ++ key)) encryptedValue with
  | .error err => { r with failure := some err }
  | .ok envelope =>
    { r with
      annotations := annotate r.annotations key envelope
      reencryptedData := r.reencryptedData.insert key envelope.encryptedData }

def rotateValues (oldKey newKey : MasterKey) (order : MapOrder) (entropy : String → Entropy)
    (secret : Secret) : ValueRotation :=
  (order.entries secret.data).foldl (fun r e => rotateValue gcm oldKey newKey entropy r e.1 e.2)
    { annotations := secret.annotations }

structure Rotating (codec : Codec Secret V) where
  store : RaftSecretStore codec
  failedSecrets : FMap String String := ∅
  successCount : ℕ := 0
  audit : List SecretAuditEntry

def rotateSecret (oldKey newKey : MasterKey) (rotation : KeyRotation) (now : Time) (r : Rotating codec)
    (secret : Secret) : Rotating codec :=
  if secret.deletedAt.isSome then r
  else
    let values := rotateValues gcm oldKey newKey rotation.order (rotation.entropy secret.key) secret
    let ref := secretRef secret.ns secret.name
    let failedSecrets := match values.failure with
      | some err => r.failedSecrets.insert ref err
      | none => r.failedSecrets
    if size values.reencryptedData = size secret.data then
      let secret :=
        { secret with
          annotations := values.annotations
          data := values.reencryptedData
          keyID := newKey.id
          rotatedAt := some now
          updatedAt := now }
      match (r.store.mutate secret).save (rotation.raft secret.key) secret with
      | (store, some err) =>
        { r with
          store := store
          failedSecrets := failedSecrets.insert ref ("failed to save re-encrypted secret: " ++ err) }
      | (store, none) =>
        { store := store
          failedSecrets := failedSecrets
          successCount := r.successCount + 1
          audit := r.audit ++
            [{ timestamp := now
               action := .rotate
               secretRef := ref
               actor := "system"
               audience := "master-key-rotation"
               success := true
               reason := "Re-encrypted with key " ++ newKey.id }] }
    else
      { r with
        store := r.store.mutate { secret with annotations := values.annotations }
        failedSecrets := failedSecrets }

variable (call : Call)

def newSecret (ns name : String) (masterKey : MasterKey) (opts : List SecretOption)
    (envelopes : FMap String Envelope) : Secret :=
  let secret : Secret :=
    { name := name
      ns := ns
      data := encryptedData envelopes
      keyID := masterKey.id
      createdAt := call.clock 1
      updatedAt := call.clock 2 }
  let secret := opts.foldl (fun secret opt => opt.apply secret) secret
  { secret with annotations := annotateAll call.order envelopes secret.annotations }

def Secret.updated (envelopes : FMap String Envelope) (secret : Secret) : Secret :=
  { secret with
    data := encryptedData envelopes
    encryptedDataKey := none
    annotations := annotateAll call.order envelopes secret.annotations
    version := secret.version + 1
    updatedAt := call.clock 1 }

namespace Manager

def addAuditEntry (entry : SecretAuditEntry) (m : Manager codec) : Manager codec :=
  let audit := m.audit ++ [entry]
  { m with audit := if 10000 < audit.length then audit.tail else audit }

def newManager (config : ManagerConfig) (store : RaftSecretStore codec) (now : Time) : Manager codec where
  config := config
  tokens := {}
  store := store
  masterKey := ⟨config.masterKeyID, config.masterKey, true, now, 0⟩
  audit := []

def createSecret (ns name : String) (data : FMap String Bytes) (opts : List SecretOption)
    (m : Manager codec) : Manager codec × Except String Secret :=
  match validateSecretName ns name with
  | some err => (m, .error err)
  | none =>
    match validateSecretData call.order data with
    | some err => (m, .error err)
    | none =>
      let (store, existing) := m.store.get (call.clock 0) ns name
      let m := { m with store := store }
      if existing.toOption.any fun secret => secret.deletedAt.isNone then
        (m, .error ("secret already exists: " ++ ns ++ "/" ++ name))
      else
        match encryptValues gcm m.masterKey call.order call.entropy data with
        | .error err => (m, .error err)
        | .ok envelopes =>
          let secret := newSecret call ns name m.masterKey opts envelopes
          match m.store.save call.raft secret with
          | (store, some err) => ({ m with store := store }, .error ("failed to save secret: " ++ err))
          | (store, none) =>
            (addAuditEntry
              { timestamp := call.clock 3
                action := .create
                secretRef := secretRef ns name
                actor := "system"
                success := true } { m with store := store }, .ok secret)

def readSecret (clock : ℕ → Time) (order : MapOrder) (req : SecretAccessRequest) (m : Manager codec) :
    Manager codec × Except String SecretAccessResponse :=
  match m.store.get (clock 3) req.ns req.secretName with
  | (store, .error err) => ({ m with store := store }, .error ("failed to retrieve secret: " ++ err))
  | (store, .ok secret) =>
    let m := { m with store := store }
    if secret.deletedAt.isSome then (m, .error "secret has been deleted")
    else if secret.expiresAt.any (· < clock 4) then (m, .error "secret has expired")
    else
      match decryptSecret gcm m.masterKey order secret with
      | .error err => (m, .error err)
      | .ok decryptedData =>
        (addAuditEntry
          { timestamp := clock 5
            action := .access
            secretRef := secretRef req.ns req.secretName
            actor := req.audience
            audience := req.audience
            success := true } m,
          .ok ⟨secret.name, secret.ns, decryptedData, secret.version, secret.expiresAt⟩)

def getSecret (jwt : Signer) (clock : ℕ → Time) (order : MapOrder) (req : SecretAccessRequest)
    (m : Manager codec) : Manager codec × Except String SecretAccessResponse :=
  let ref := secretRef req.ns req.secretName
  match m.tokens.validateToken jwt clock req.accessToken ref req.audience with
  | (tokens, .error err) =>
    (addAuditEntry
      { timestamp := clock 3
        action := .access
        secretRef := ref
        actor := req.audience
        success := false
        reason := "token validation failed: " ++ err } { m with tokens := tokens }, .error ("access denied: " ++ err))
  | (tokens, .ok _) => readSecret gcm clock order req { m with tokens := tokens }

def tokenTTL (config : ManagerConfig) (secret : Secret) (ttl : ℤ) : ℤ :=
  let ttl := if 0 < secret.ttl then int64 (secret.ttl.toInt * 1000000000) else ttl
  if ttl = 0 then config.tokenTTL else ttl

def audienceAllowed (audiences : List String) (audience : String) : Bool :=
  audiences.isEmpty || audiences.any fun aud => aud = audience || aud = "*"

def generateAccessToken (jwt : Signer) (uuid : String) (clock : ℕ → Time) (ns name audience : String)
    (ttl maxUses : ℤ) (m : Manager codec) : Manager codec × Except String SecretAccessToken :=
  match m.store.get (clock 0) ns name with
  | (store, .error _) => ({ m with store := store }, .error ("secret not found: " ++ ns ++ "/" ++ name))
  | (store, .ok secret) =>
    let m := { m with store := store }
    if secret.deletedAt.isSome then (m, .error "secret has been deleted")
    else if !audienceAllowed secret.audiences audience then
      (m, .error ("audience " ++ audience ++ " is not allowed to access this secret"))
    else
      match m.tokens.generateToken jwt uuid (clock 1) (secretRef ns name) audience (tokenTTL m.config secret ttl)
        maxUses with
      | (tokens, .error err) => ({ m with tokens := tokens }, .error ("failed to generate token: " ++ err))
      | (tokens, .ok token) => ({ m with tokens := tokens }, .ok token)

def updateSecret (ns name : String) (data : FMap String Bytes) (m : Manager codec) :
    Manager codec × Except String Secret :=
  match m.store.get (call.clock 0) ns name with
  | (store, .error _) => ({ m with store := store }, .error ("secret not found: " ++ ns ++ "/" ++ name))
  | (store, .ok secret) =>
    let m := { m with store := store }
    if secret.immutable then (m, .error "secret is immutable and cannot be updated")
    else if secret.deletedAt.isSome then (m, .error "secret has been deleted")
    else
      match encryptValues gcm m.masterKey call.order call.entropy data with
      | .error err => (m, .error err)
      | .ok envelopes =>
        -- an empty map of annotations is decoded as nil, and the first write to it panics
        if size secret.annotations = 0 ∧ size envelopes ≠ 0 then
          let secret := { secret with data := encryptedData envelopes, encryptedDataKey := none }
          ({ m with store := m.store.mutate secret }, .error "panic: assignment to entry in nil map")
        else
          let secret := secret.updated call envelopes
          match (m.store.mutate secret).save call.raft secret with
          | (store, some err) => ({ m with store := store }, .error ("failed to save updated secret: " ++ err))
          | (store, none) =>
            let (tokens, revokedCount) := m.tokens.revokeTokensForSecret (secretRef ns name)
            (addAuditEntry
              { timestamp := call.clock 2
                action := .update
                secretRef := secretRef ns name
                actor := "system"
                success := true
                tokensRevoked := some revokedCount } { m with store := store, tokens := tokens }, .ok secret)

def deleteSecret (ns name : String) (m : Manager codec) : Manager codec × Option String :=
  match m.store.get (call.clock 0) ns name with
  | (store, .error _) => ({ m with store := store }, some ("secret not found: " ++ ns ++ "/" ++ name))
  | (store, .ok secret) =>
    let (tokens, revokedCount) := m.tokens.revokeTokensForSecret (secretRef ns name)
    let secret := { secret with deletedAt := some (call.clock 1) }
    match (store.mutate secret).save call.raft secret with
    | (store, some err) =>
      ({ m with store := store, tokens := tokens }, some ("failed to mark secret as deleted: " ++ err))
    | (store, none) =>
      (addAuditEntry
        { timestamp := call.clock 2
          action := .delete
          secretRef := secretRef ns name
          actor := "system"
          success := true
          tokensRevoked := some revokedCount } { m with store := store, tokens := tokens }, none)

def listSecrets (filter : SecretFilter) (m : Manager codec) : List SecretMetadata :=
  ((m.store.list order filter).filter fun secret => secret.deletedAt.isNone).map fun secret =>
    { name := secret.name
      ns := secret.ns
      labels := secret.labels
      version := secret.version
      createdAt := secret.createdAt
      updatedAt := secret.updatedAt
      keys := (order.entries secret.data).map Prod.fst }

def rotateMasterKey (rotation : KeyRotation) (m : Manager codec) : Manager codec × Option String :=
  match rotation.newKey with
  | .error err => (m, some ("failed to generate new master key: failed to generate master key: " ++ err))
  | .ok (id, key) =>
    let newKey : MasterKey := ⟨id, key, true, rotation.clock 0, 0⟩
    let oldKey := { m.masterKey with active := false, rotatedAt := rotation.clock 1 }
    let allSecrets := m.store.list rotation.order {}
    let now := rotation.clock 2
    let r := allSecrets.foldl (rotateSecret gcm oldKey newKey rotation now) { store := m.store, audit := m.audit }
    if size r.failedSecrets ≠ 0 then
      ({ m with store := r.store, masterKey := oldKey, audit := r.audit },
        some ("failed to rotate " ++ toString (size r.failedSecrets) ++ " out of " ++ toString allSecrets.length ++
          " secrets (see logs for details)"))
    else
      ({ m with
        store := r.store
        masterKey := newKey
        audit := r.audit ++
          [{ timestamp := now
             action := .rotate
             secretRef := "all"
             actor := "system"
             audience := "master-key-rotation"
             success := true
             reason := "Rotated from " ++ oldKey.id ++ " to " ++ newKey.id ++ ", re-encrypted " ++
               toString r.successCount ++ " secrets" }] }, none)

def revokeToken (tokenID : String) (m : Manager codec) : Manager codec × Option String :=
  let (tokens, err) := m.tokens.revokeToken tokenID
  ({ m with tokens := tokens }, err)

def cleanupExpiredTokens (now : Time) (m : Manager codec) : Manager codec × ℕ :=
  let (tokens, count) := m.tokens.cleanupExpiredTokens now
  ({ m with tokens := tokens }, count)

end Manager

section Samples

def plainCodec : Codec Secret Secret where
  marshal := .ok
  unmarshal := .ok
  unmarshal_marshal := by
    intro a b h
    exact h.symm

def emptyRaftStore : RaftStore Secret := ⟨newFSM, [], true, "", ""⟩

lemma recorded_empty : Recorded plainCodec emptyRaftStore where
  permanent _ hl := by cases hl
  keyed _ hl := by cases hl

def freshManager : Manager plainCodec :=
  Manager.newManager ⟨"configured", constantKey 0, 0⟩ (newRaftSecretStore emptyRaftStore recorded_empty) 0

def steadyCall : Call := ⟨fun _ => 0, sortedOrder, fun _ => constantEntropy 1, ⟨.committed, fun _ => 0⟩⟩

def passwordData : FMap String Bytes := (∅ : FMap String Bytes).insert "password" [115, 51]

end Samples

end Cloudless.Secrets
