import Cloudless.Storage.ContentEngine
import Cloudless.Storage.Metadata

namespace Cloudless.Storage

open Foundations FiniteMaps GoStd Raft ContentEngine

structure StorageConfig where
  chunkSize : ℕ
  chunkSize_pos : 0 < chunkSize
  replicationFactor : ℕ
  (enableCompression quorumWrites : Bool)

def defaultStorageConfig : StorageConfig := ⟨4 * 1024 * 1024, by norm_num, 3, false, true⟩

structure CreateBucketRequest where
  name : String
  storageClass : StorageClass
  quotaBytes : Int64
  labels : Option (FMap String String)
  owner : String

structure PutObjectRequest where
  (bucket key : String)
  data : Bytes
  storageClass : StorageClass
  contentType : String
  metadata : Option (FMap String String)

structure PutObjectStreamRequest where
  (bucket key : String)
  reader : Reader
  storageClass : StorageClass
  contentType : String
  metadata : Option (FMap String String)

structure InitiateMultipartUploadRequest where
  (bucket key : String)
  storageClass : StorageClass
  contentType : String
  metadata : Option (FMap String String)

structure UploadPartRequest where
  uploadID : String
  partNumber : ℤ
  data : Bytes

structure GetObjectResponse where
  data : Bytes
  size : Int64
  checksum : String
  storageClass : StorageClass
  contentType : String
  metadata : Option (FMap String String)
  (createdAt updatedAt : Time)
  deriving DecidableEq

structure UploadPart where
  partNumber : ℤ
  size : Int64
  checksum : String
  chunkIDs : List String
  uploadedAt : Time
  deriving DecidableEq

structure MultipartUpload where
  (uploadID bucket key : String)
  storageClass : StorageClass
  contentType : String
  metadata : Option (FMap String String)
  parts : FMap ℤ UploadPart
  totalSize : Int64
  createdAt : Time
  deriving DecidableEq

structure ObjectStore (V : Type) where
  config : StorageConfig
  metadataStore : MetadataStore V
  chunkStore : ChunkStore
  multipartUploads : FMap String MultipartUpload
  deleting : Multiset String

structure StoreEnv extends Env, ContentIO where
  selected : Option (List String)

variable (config : StorageConfig)

def getWriteQuorum : ℕ :=
  if config.quorumWrites then config.replicationFactor / 2 + 1 else 1

def getTargetNodes (selected : Option (List String)) : List String :=
  match selected with
  | some nodes => nodes
  | none =>
    let fallbackNodes := ["node-1", "node-2", "node-3"]
    if config.replicationFactor ≤ fallbackNodes.length then fallbackNodes.take config.replicationFactor
    else fallbackNodes

-- A replica is only recorded, which never fails, so every target node counts as a success.
def replicateChunk (P : Primitives) (config : StorageConfig) (targetNodes : List String) (chunkID : String)
    (cs : ChunkStore) : Option Err :=
  match cs.readChunk P chunkID with
  | .error err => some (.wrap "failed to read chunk for replication: " err)
  | .ok _ =>
    if targetNodes.length < config.replicationFactor then
      some (.msg ("insufficient target nodes: need " ++ toString config.replicationFactor ++ ", got " ++
        toString targetNodes.length))
    else
      let successCount := (targetNodes.take config.replicationFactor).length
      if successCount < getWriteQuorum config then
        some (.msg ("replication failed: only " ++ toString successCount ++ "/" ++ toString successCount ++
          " nodes succeeded (quorum: " ++ toString (getWriteQuorum config) ++ ")"))
      else none

def replicateChunks (P : Primitives) (config : StorageConfig) (targetNodes : List String) :
    List String → ChunkStore → Option Err
  | [], _ => none
  | chunkID :: chunkIDs, cs =>
    match replicateChunk P config targetNodes chunkID cs with
    | some err => some (.wrap ("failed to replicate chunk " ++ chunkID ++ ": ") err)
    | none => replicateChunks P config targetNodes chunkIDs cs

def quotaReached (bucket : Bucket) (size : Int64) : Prop :=
  0 < bucket.quotaBytes ∧ bucket.quotaBytes < bucket.usedBytes + size

instance (bucket : Bucket) (size : Int64) : Decidable (quotaReached bucket size) := inferInstanceAs (Decidable (_ ∧ _))

def newObject (bucket key : String) (size : Int64) (checksum : String) (chunkIDs : List String)
    (storageClass : StorageClass) (contentType : String) (metadata : Option (FMap String String)) : Object :=
  ⟨bucket, key, size, checksum, chunkIDs, 0, storageClass, contentType, metadata, 0, 0, 0, false, 0, 0, []⟩

def newUploadID (now : Time) (key : String) : String := "upload-" ++ toString (unixNano now) ++ "-" ++ key

def partNumbers (n : ℕ) : List ℤ := (List.range n).map (fun i : ℕ => (i : ℤ) + 1)

def assemble (P : Primitives) (parts : FMap ℤ UploadPart) (cs : ChunkStore) : List ℤ → Except Err (List String × Bytes)
  | [] => .ok ([], [])
  | i :: rest =>
    match parts.lookup i with
    | none => .error (.msg ("missing part " ++ toString i))
    | some part =>
      match retrieveContent P part.chunkIDs cs with
      | .error err => .error (.wrap ("failed to retrieve part " ++ toString i ++ ": ") err)
      | .ok data =>
        match assemble P parts cs rest with
        | .error err => .error err
        | .ok (chunkIDs, buffer) => .ok (part.chunkIDs ++ chunkIDs, data ++ buffer)

variable {V : Type}

namespace ObjectStore

variable (P : Primitives) (json : MetadataJSON V)

def newObjectStore (config : StorageConfig) (raftStore : Option (RaftStore V)) (all : List (String × V))
    (files : FMap Path File) (walk : List (Path × File)) : ObjectStore V :=
  ⟨config, .newMetadataStore json raftStore all, .newChunkStore config.enableCompression files walk, ∅, 0⟩

def createBucket (env : Env) (req : CreateBucketRequest) (s : ObjectStore V) : ObjectStore V × Except Err Unit :=
  if req.name = "" then (s, .error (.msg "bucket name cannot be empty"))
  else
    let bucket := ⟨req.name, req.storageClass, req.quotaBytes, 0, 0, 0, req.labels, req.owner⟩
    match s.metadataStore.createBucket json env bucket with
    | (ms, .error err) => ({ s with metadataStore := ms }, .error (.wrap "failed to create bucket: " err))
    | (ms, .ok ()) => ({ s with metadataStore := ms }, .ok ())

def deleteBucket [Inhabited V] (env : Env) (name : String) (s : ObjectStore V) : ObjectStore V × Except Err Unit :=
  match s.metadataStore.deleteBucket env name with
  | (ms, .error err) => ({ s with metadataStore := ms }, .error (.wrap "failed to delete bucket: " err))
  | (ms, .ok ()) => ({ s with metadataStore := ms }, .ok ())

variable (env : StoreEnv)

def discard (chunkIDs : List String) (s : ObjectStore V) : ObjectStore V :=
  { s with chunkStore := deleteContent env.remove chunkIDs s.chunkStore }

def storeObject (env : StoreEnv) (object : Object) (s : ObjectStore V) : ObjectStore V × Except Err Unit :=
  match replicateChunks P s.config (getTargetNodes s.config env.selected) object.chunkIDs s.chunkStore with
  | some err => (s.discard env object.chunkIDs, .error (.wrap "failed to replicate chunks: " err))
  | none =>
    match s.metadataStore.putObject json env.toEnv object with
    | (ms, .error err) =>
      ({ s with metadataStore := ms }.discard env object.chunkIDs, .error (.wrap "failed to store metadata: " err))
    | (ms, .ok ()) => ({ s with metadataStore := ms }, .ok ())

def putObject (req : PutObjectRequest) (s : ObjectStore V) : ObjectStore V × Except Err Unit :=
  match s.metadataStore.getBucket env.now req.bucket with
  | .error err => (s, .error (.wrap "bucket not found: " err))
  | .ok bucket =>
    let size := Int64.ofNat req.data.length
    if quotaReached bucket size then (s, .error (.msg "bucket quota exceeded"))
    else
      match storeContent P s.config.chunkSize env.toContentIO req.data s.chunkStore with
      | (cs, .error err) => ({ s with chunkStore := cs }, .error (.wrap "failed to store content: " err))
      | (cs, .ok (chunkIDs, checksum)) =>
        { s with chunkStore := cs }.storeObject P json env
          (newObject req.bucket req.key size checksum chunkIDs req.storageClass req.contentType req.metadata)

def putObjectStream (req : PutObjectStreamRequest) (s : ObjectStore V) : ObjectStore V × Except Err Unit :=
  match s.metadataStore.getBucket env.now req.bucket with
  | .error err => (s, .error (.wrap "bucket not found: " err))
  | .ok bucket =>
    match storeContentStream P s.config.chunkSize env.toContentIO req.reader s.chunkStore with
    | (cs, .error err) => ({ s with chunkStore := cs }, .error (.wrap "failed to store content: " err))
    | (cs, .ok (chunkIDs, checksum)) =>
      let s := { s with chunkStore := cs }
      match getContentSize chunkIDs cs with
      | .error err => (s.discard env chunkIDs, .error (.wrap "failed to get content size: " err))
      | .ok size =>
        if quotaReached bucket size then (s.discard env chunkIDs, .error (.msg "bucket quota exceeded"))
        else
          s.storeObject P json env
            (newObject req.bucket req.key size checksum chunkIDs req.storageClass req.contentType req.metadata)

def getObject (now : Time) (bucket key : String) (s : ObjectStore V) : ObjectStore V × Except Err GetObjectResponse :=
  match s.metadataStore.getObject now bucket key with
  | (ms, .error err) => ({ s with metadataStore := ms }, .error (.wrap "object not found: " err))
  | (ms, .ok object) =>
    let s := { s with metadataStore := ms }
    match retrieveContent P object.chunkIDs s.chunkStore with
    | .error err => (s, .error (.wrap "failed to retrieve content: " err))
    | .ok data =>
      match verifyContent P object.chunkIDs object.checksum s.chunkStore with
      | some err => (s, .error (.wrap "data integrity check failed: " err))
      | none => (s, .ok ⟨data, object.size, object.checksum, object.storageClass, object.contentType, object.metadata,
          object.createdAt, object.updatedAt⟩)

def deleteObject [Inhabited V] (env : Env) (bucket key : String) (s : ObjectStore V) :
    ObjectStore V × Except Err Unit :=
  match s.metadataStore.getObject env.now bucket key with
  | (ms, .error err) => ({ s with metadataStore := ms }, .error (.wrap "object not found: " err))
  | (ms, .ok object) =>
    match ms.deleteObject env bucket key with
    | (ms, .error err) => ({ s with metadataStore := ms }, .error (.wrap "failed to delete metadata: " err))
    | (ms, .ok ()) => ({ s with metadataStore := ms, deleting := s.deleting + object.chunkIDs }, .ok ())

def initiateMultipartUpload (now : Time) (req : InitiateMultipartUploadRequest) (s : ObjectStore V) :
    ObjectStore V × Except Err String :=
  match s.metadataStore.getBucket now req.bucket with
  | .error err => (s, .error (.wrap "bucket not found: " err))
  | .ok _ =>
    let uploadID := newUploadID now req.key
    let upload := ⟨uploadID, req.bucket, req.key, req.storageClass, req.contentType, req.metadata, ∅, 0, now⟩
    ({ s with multipartUploads := s.multipartUploads.insert uploadID upload }, .ok uploadID)

def addPart (part : UploadPart) (upload : MultipartUpload) : MultipartUpload :=
  { upload with
    parts := upload.parts.insert part.partNumber part
    totalSize := upload.totalSize + part.size }

def uploadPart (req : UploadPartRequest) (s : ObjectStore V) : ObjectStore V × Except Err (ℤ × String) :=
  match s.multipartUploads.lookup req.uploadID with
  | none => (s, .error (.msg ("upload not found: " ++ req.uploadID)))
  | some upload =>
    match storeContent P s.config.chunkSize env.toContentIO req.data s.chunkStore with
    | (cs, .error err) => ({ s with chunkStore := cs }, .error (.wrap "failed to store part: " err))
    | (cs, .ok (chunkIDs, checksum)) =>
      let s := { s with chunkStore := cs }
      match replicateChunks P s.config (getTargetNodes s.config env.selected) chunkIDs cs with
      | some err => (s.discard env chunkIDs, .error (.wrap "failed to replicate chunks: " err))
      | none =>
        let part := ⟨req.partNumber, Int64.ofNat req.data.length, checksum, chunkIDs, env.now⟩
        ({ s with multipartUploads := s.multipartUploads.insert req.uploadID (addPart part upload) },
          .ok (req.partNumber, checksum))

def completeMultipartUpload (env : Env) (uploadID : String) (s : ObjectStore V) : ObjectStore V × Except Err Unit :=
  match s.multipartUploads.lookup uploadID with
  | none => (s, .error (.msg ("upload not found: " ++ uploadID)))
  | some upload =>
    match s.metadataStore.getBucket env.now upload.bucket with
    | .error err => (s, .error (.wrap "bucket not found: " err))
    | .ok bucket =>
      if quotaReached bucket upload.totalSize then (s, .error (.msg "bucket quota exceeded"))
      else
        match assemble P upload.parts s.chunkStore (partNumbers (size upload.parts)) with
        | .error err => (s, .error err)
        | .ok (chunkIDs, buffer) =>
          let object := newObject upload.bucket upload.key upload.totalSize (calculateChecksum P buffer) chunkIDs
            upload.storageClass upload.contentType upload.metadata
          match s.metadataStore.putObject json env object with
          | (ms, .error err) => ({ s with metadataStore := ms }, .error (.wrap "failed to store metadata: " err))
          | (ms, .ok ()) =>
            ({ s with metadataStore := ms, multipartUploads := s.multipartUploads.erase uploadID }, .ok ())

def partReferences (upload : MultipartUpload) : Multiset String :=
  total (fun _ part => (part.chunkIDs : Multiset String)) upload.parts

def abortMultipartUpload (uploadID : String) (s : ObjectStore V) : ObjectStore V × Except Err Unit :=
  match s.multipartUploads.lookup uploadID with
  | none => (s, .error (.msg ("upload not found: " ++ uploadID)))
  | some upload =>
    ({ s with
      multipartUploads := s.multipartUploads.erase uploadID
      deleting := s.deleting + partReferences upload }, .ok ())

def deleteNext (removeErr : Option String) (chunkID : String) (s : ObjectStore V) : ObjectStore V :=
  if chunkID ∈ s.deleting then
    { s with
      chunkStore := (s.chunkStore.deleteChunk removeErr chunkID).1
      deleting := s.deleting.erase chunkID }
  else s

end ObjectStore

inductive StoreCall
  | createBucket (env : Env) (req : CreateBucketRequest)
  | deleteBucket (env : Env) (name : String)
  | putObject (env : StoreEnv) (req : PutObjectRequest)
  | putObjectStream (env : StoreEnv) (req : PutObjectStreamRequest)
  | getObject (now : Time) (bucket key : String)
  | deleteObject (env : Env) (bucket key : String)
  | initiateMultipartUpload (now : Time) (req : InitiateMultipartUploadRequest)
  | uploadPart (env : StoreEnv) (req : UploadPartRequest)
  | completeMultipartUpload (env : Env) (uploadID : String)
  | abortMultipartUpload (uploadID : String)
  | deleteNext (removeErr : Option String) (chunkID : String)

def succeeded {α : Type} : Except Err α → Bool
  | .ok _ => true
  | .error _ => false

def ObjectStore.call [Inhabited V] (P : Primitives) (json : MetadataJSON V) (s : ObjectStore V) :
    StoreCall → ObjectStore V × Bool
  | .createBucket env req => (s.createBucket json env req).map id succeeded
  | .deleteBucket env name => (s.deleteBucket env name).map id succeeded
  | .putObject env req => (s.putObject P json env req).map id succeeded
  | .putObjectStream env req => (s.putObjectStream P json env req).map id succeeded
  | .getObject now bucket key => (s.getObject P now bucket key).map id succeeded
  | .deleteObject env bucket key => (s.deleteObject env bucket key).map id succeeded
  | .initiateMultipartUpload now req => (s.initiateMultipartUpload now req).map id succeeded
  | .uploadPart env req => (s.uploadPart P env req).map id succeeded
  | .completeMultipartUpload env uploadID => (s.completeMultipartUpload P json env uploadID).map id succeeded
  | .abortMultipartUpload uploadID => (s.abortMultipartUpload uploadID).map id succeeded
  | .deleteNext removeErr chunkID => (s.deleteNext removeErr chunkID, true)

def ObjectStore.after [Inhabited V] (P : Primitives) (json : MetadataJSON V) (s : ObjectStore V) (c : StoreCall) :
    ObjectStore V :=
  (s.call P json c).1

structure View where
  leads : Bool
  objects : FMap String Object
  uploads : FMap String MultipartUpload
  deleting : Multiset String

def View.put (o : Object) (v : View) : View :=
  { v with objects := v.objects.insert (getObjectKey o.bucket o.key) o }

def Object.identity (o : Object) : String × String × List String × String := (o.bucket, o.key, o.chunkIDs, o.checksum)

namespace ObjectStore

def view (s : ObjectStore V) : View := ⟨s.metadataStore.leads, s.metadataStore.objects, s.multipartUploads, s.deleting⟩

def Unmoved (P : Primitives) (held : Multiset String) (s s' : ObjectStore V) : Prop :=
  s'.view = s.view ∧ Represents P s'.chunkStore held

def Stored (P : Primitives) (held : Multiset String) (bucket key : String) (data : Bytes) (s s' : ObjectStore V) :
    Prop :=
  ∃ ids o, o.identity = (bucket, key, ids, P.sha256 data) ∧ Spells P ids data ∧ s.view.leads = true ∧
    s'.view = s.view.put o ∧ Represents P s'.chunkStore (↑ids + held)

variable {P : Primitives} {json : MetadataJSON V} {held : Multiset String} {s : ObjectStore V}

lemma view_withMetadata {ms : MetadataStore V} (ho : ms.objects = s.metadataStore.objects)
    (hl : ms.leads = s.metadataStore.leads) : ({ s with metadataStore := ms } : ObjectStore V).view = s.view := by
  rw [view, view, ho, hl]

lemma createBucket_view (json : MetadataJSON V) (env : Env) (req : CreateBucketRequest) (s : ObjectStore V) :
    (s.createBucket json env req).1.view = s.view ∧ (s.createBucket json env req).1.chunkStore = s.chunkStore := by
  rw [createBucket]
  split_ifs
  · exact ⟨rfl, rfl⟩
  · have ho := s.metadataStore.createBucket_objects json env
      ⟨req.name, req.storageClass, req.quotaBytes, 0, 0, 0, req.labels, req.owner⟩
    simp only
    generalize s.metadataStore.createBucket json env _ = x at ho ⊢
    obtain ⟨ms, err | ⟨⟩⟩ := x
    · exact ⟨view_withMetadata ho.1 ho.2, rfl⟩
    · exact ⟨view_withMetadata ho.1 ho.2, rfl⟩

lemma deleteBucket_view [Inhabited V] (env : Env) (n : String) (s : ObjectStore V) :
    (s.deleteBucket env n).1.view = s.view ∧ (s.deleteBucket env n).1.chunkStore = s.chunkStore := by
  have ho := s.metadataStore.deleteBucket_objects env n
  rw [deleteBucket]
  generalize s.metadataStore.deleteBucket env n = x at ho ⊢
  obtain ⟨ms, err | ⟨⟩⟩ := x
  · exact ⟨view_withMetadata ho.1 ho.2, rfl⟩
  · exact ⟨view_withMetadata ho.1 ho.2, rfl⟩

variable {o : Object}

lemma storeObject_cases {json : MetadataJSON V} {env : StoreEnv}
    (h : Represents P s.chunkStore (↑o.chunkIDs + held)) :
    (∃ s' err, s.storeObject P json env o = (s', .error err) ∧ Unmoved P held s s') ∨
    ∃ s' o', s.storeObject P json env o = (s', .ok ()) ∧ o'.identity = o.identity ∧ s.view.leads = true ∧
      s'.view = s.view.put o' ∧ s'.chunkStore = s.chunkStore := by
  rw [storeObject]
  have hd : Represents P (deleteContent env.remove o.chunkIDs s.chunkStore) held := h.deleteFrom env.remove 0 o.chunkIDs
  cases replicateChunks P s.config (getTargetNodes s.config env.selected) o.chunkIDs s.chunkStore with
  | some err => exact .inl ⟨_, _, rfl, rfl, hd⟩
  | none =>
    rcases s.metadataStore.putObject_objects json env.toEnv o with ⟨ms, err, he, ho, hl⟩ | ⟨ms, he, hlead, hl, ho⟩
    · refine .inl ⟨{ s with metadataStore := ms }.discard env o.chunkIDs, _, by simp only [he]; rfl, ?_, hd⟩
      exact view_withMetadata ho hl
    · refine .inr ⟨{ s with metadataStore := ms }, s.metadataStore.stamped env.now o, by simp only [he], rfl, hlead, ?_, rfl⟩
      simp only [view, View.put, ho, hl]
      rfl

lemma storeObject_stored (json : MetadataJSON V) (env : StoreEnv) {d : Bytes}
    (h : Represents P s.chunkStore (↑o.chunkIDs + held)) (hdata : Spells P o.chunkIDs d)
    (hsum : o.checksum = P.sha256 d) :
    (∃ s' err, s.storeObject P json env o = (s', .error err) ∧ Unmoved P held s s') ∨
    ∃ s', s.storeObject P json env o = (s', .ok ()) ∧ Stored P held o.bucket o.key d s s' := by
  rcases storeObject_cases h with hf | ⟨s', o', hs, hid, hl, hv, hcs⟩
  · exact .inl hf
  · refine .inr ⟨s', hs, o.chunkIDs, o', ?_, hdata, hl, hv, ?_⟩
    · rw [hid, ← hsum]
      rfl
    · rwa [hcs]

lemma putObject_cases (json : MetadataJSON V) (env : StoreEnv) (req : PutObjectRequest)
    (h : Represents P s.chunkStore held) :
    (∃ s' err, s.putObject P json env req = (s', .error err) ∧ Unmoved P held s s') ∨
    ∃ s', s.putObject P json env req = (s', .ok ()) ∧ Stored P held req.bucket req.key req.data s s' := by
  rw [putObject]
  cases s.metadataStore.getBucket env.now req.bucket with
  | error err => exact .inl ⟨s, _, rfl, rfl, h⟩
  | ok bucket =>
    simp only
    split_ifs
    · exact .inl ⟨s, _, rfl, rfl, h⟩
    · rcases h.storeContent s.config.chunkSize_pos env.toContentIO req.data with ⟨cs, err, he, hr⟩ | ⟨cs, ids, he, hs, hr⟩
      · exact .inl ⟨{ s with chunkStore := cs }, _, by simp only [he]; rfl, rfl, hr⟩
      · simp only [he]
        exact storeObject_stored (s := { s with chunkStore := cs }) json env hr hs rfl

lemma putObjectStream_cases (json : MetadataJSON V) (env : StoreEnv) (req : PutObjectStreamRequest)
    (h : Represents P s.chunkStore held) :
    (∃ s' err, s.putObjectStream P json env req = (s', .error err) ∧ Unmoved P held s s') ∨
    ∃ s', s.putObjectStream P json env req = (s', .ok ()) ∧
      Stored P held req.bucket req.key req.reader.data s s' := by
  rw [putObjectStream]
  cases s.metadataStore.getBucket env.now req.bucket with
  | error err => exact .inl ⟨s, _, rfl, rfl, h⟩
  | ok bucket =>
    rcases h.storeContentStream s.config.chunkSize_pos env.toContentIO req.reader with
      ⟨cs, err, he, hr⟩ | ⟨cs, ids, he, hs, hr⟩
    · exact .inl ⟨{ s with chunkStore := cs }, _, by simp only [he]; rfl, rfl, hr⟩
    · have hd : Represents P (deleteContent env.remove ids cs) held := hr.deleteFrom env.remove 0 ids
      simp only [he]
      cases getContentSize ids cs with
      | error err => exact .inl ⟨_, _, rfl, rfl, hd⟩
      | ok si =>
        simp only
        split_ifs
        · exact .inl ⟨_, _, rfl, rfl, hd⟩
        · exact storeObject_stored (s := { s with chunkStore := cs }) json env hr hs rfl

lemma uploadPart_cases (env : StoreEnv) (req : UploadPartRequest) (h : Represents P s.chunkStore held) :
    (∃ s' err, s.uploadPart P env req = (s', .error err) ∧ Unmoved P held s s') ∨
    ∃ s' r u p, s.uploadPart P env req = (s', .ok r) ∧ s.view.uploads.lookup req.uploadID = some u ∧
      p.partNumber = req.partNumber ∧ p.size = Int64.ofNat req.data.length ∧ Spells P p.chunkIDs req.data ∧
      s'.view = { s.view with uploads := s.view.uploads.insert req.uploadID (addPart p u) } ∧
      Represents P s'.chunkStore (↑p.chunkIDs + held) := by
  rw [uploadPart]
  cases hu : s.multipartUploads.lookup req.uploadID with
  | none => exact .inl ⟨s, _, rfl, rfl, h⟩
  | some u =>
    rcases h.storeContent s.config.chunkSize_pos env.toContentIO req.data with ⟨cs, err, he, hr⟩ | ⟨cs, ids, he, hs, hr⟩
    · exact .inl ⟨{ s with chunkStore := cs }, _, by simp only [he]; rfl, rfl, hr⟩
    · simp only [he]
      cases replicateChunks P s.config (getTargetNodes s.config env.selected) ids cs with
      | some err => exact .inl ⟨_, _, rfl, rfl, hr.deleteFrom env.remove 0 ids⟩
      | none => exact .inr ⟨_, _, u, ⟨req.partNumber, _, _, ids, env.now⟩, rfl, hu, rfl, rfl, hs, rfl, hr⟩

lemma completeMultipartUpload_cases (json : MetadataJSON V) (env : Env) (ui : String) (s : ObjectStore V) :
    (∃ s' err, s.completeMultipartUpload P json env ui = (s', .error err) ∧ s'.view = s.view ∧
      s'.chunkStore = s.chunkStore) ∨ ∃ s' u ids b o, s.completeMultipartUpload P json env ui = (s', .ok ()) ∧
      s.view.uploads.lookup ui = some u ∧
      assemble P u.parts s.chunkStore (partNumbers (size u.parts)) = .ok (ids, b) ∧
      o.identity = (u.bucket, u.key, ids, P.sha256 b) ∧ o.size = u.totalSize ∧ s.view.leads = true ∧
      s'.view = { s.view.put o with uploads := s.view.uploads.erase ui } ∧ s'.chunkStore = s.chunkStore := by
  rw [completeMultipartUpload]
  cases hu : s.multipartUploads.lookup ui with
  | none => exact .inl ⟨s, _, rfl, rfl, rfl⟩
  | some u =>
    simp only
    cases s.metadataStore.getBucket env.now u.bucket with
    | error err => exact .inl ⟨s, _, rfl, rfl, rfl⟩
    | ok bucket =>
      simp only
      split_ifs
      · exact .inl ⟨s, _, rfl, rfl, rfl⟩
      · cases ha : assemble P u.parts s.chunkStore (partNumbers (size u.parts)) with
        | error err => exact .inl ⟨s, _, rfl, rfl, rfl⟩
        | ok p =>
          obtain ⟨ids, b⟩ := p
          simp only
          rcases s.metadataStore.putObject_objects json env
            (newObject u.bucket u.key u.totalSize (calculateChecksum P b) ids
              u.storageClass u.contentType u.metadata) with ⟨ms, err, he, ho, hl⟩ | ⟨ms, he, hlead, hl, ho⟩
          · refine .inl ⟨{ s with metadataStore := ms }, _, by simp only [he]; rfl, ?_, rfl⟩
            exact view_withMetadata ho hl
          · refine .inr ⟨{ s with metadataStore := ms, multipartUploads := s.multipartUploads.erase ui }, u,
              ids, b, s.metadataStore.stamped env.now (newObject u.bucket u.key u.totalSize
                (calculateChecksum P b) ids u.storageClass u.contentType u.metadata),
              by simp only [he], hu, ha, rfl, rfl, hlead, ?_, rfl⟩
            simp only [view, View.put, ho, hl]
            rfl

def Touched (objects objects' : FMap String Object) : Prop :=
  objects' = objects ∨ ∃ k o t, objects.lookup k = some o ∧ objects' = objects.insert k { o with accessedAt := t }

lemma getObject_touches (P : Primitives) (now : Time) (bucket key : String) (s : ObjectStore V) :
    ∃ os, Touched s.view.objects os ∧ (s.getObject P now bucket key).1.view = { s.view with objects := os } ∧
      (s.getObject P now bucket key).1.chunkStore = s.chunkStore := by
  rw [getObject]
  rcases s.metadataStore.getObject_cases now bucket key with ⟨err, he⟩ | ⟨o, ho, -, he⟩
  · rw [he]
    exact ⟨_, .inl rfl, rfl, rfl⟩
  · simp only [he]
    have ht : Touched s.view.objects (s.view.objects.insert (getObjectKey bucket key) { o with accessedAt := now }) :=
      .inr ⟨_, o, now, ho, rfl⟩
    refine ⟨_, ht, ?_⟩
    cases retrieveContent P o.chunkIDs s.chunkStore with
    | error err => exact ⟨rfl, rfl⟩
    | ok d =>
      cases verifyContent P o.chunkIDs o.checksum s.chunkStore with
      | some | none => exact ⟨rfl, rfl⟩

variable {bucket key : String}

lemma getObject_ok {now : Time} {r : GetObjectResponse} (h : (s.getObject P now bucket key).2 = .ok r) :
    ∃ o, s.view.objects.lookup (getObjectKey bucket key) = some o ∧ s.view.leads = true ∧
      retrieveContent P o.chunkIDs s.chunkStore = .ok r.data ∧ P.sha256 r.data = o.checksum := by
  rw [ObjectStore.getObject] at h
  rcases s.metadataStore.getObject_cases now bucket key with ⟨err, he⟩ | ⟨o, ho, hl, he⟩
  · rw [he] at h
    cases h
  · rw [he] at h
    simp only at h
    refine ⟨o, ho, hl, ?_⟩
    cases hr : retrieveContent P o.chunkIDs s.chunkStore with
    | error err =>
      rw [hr] at h
      cases h
    | ok d =>
      rw [hr] at h
      simp only at h
      cases hv : verifyContent P o.chunkIDs o.checksum s.chunkStore with
      | some err =>
        rw [hv] at h
        cases h
      | none =>
        rw [hv] at h
        cases h
        exact ⟨rfl, (verifyContent_none_iff hr).mp hv⟩

lemma getObject_response (hl : s.view.leads = true)
    (ho : s.view.objects.lookup (getObjectKey bucket key) = some o) {d : Bytes}
    (hr : retrieveContent P o.chunkIDs s.chunkStore = .ok d) (hc : P.sha256 d = o.checksum) (now : Time) :
    ∃ r, (s.getObject P now bucket key).2 = .ok r ∧ r.data = d ∧ r.size = o.size := by
  rw [ObjectStore.getObject, MetadataStore.getObject_of_leads hl now ho]
  simp only [hr, (verifyContent_none_iff hr).mpr hc]
  exact ⟨_, rfl, rfl, rfl⟩

lemma Touched.lookup {os os' : FMap String Object} (ht : Touched os os') {k : String}
    {o' : Object} (h : os'.lookup k = some o') :
    ∃ o, os.lookup k = some o ∧ o' = { o with accessedAt := o'.accessedAt } := by
  rcases ht with rfl | ⟨j, o, t, ho, rfl⟩
  · exact ⟨o', h, rfl⟩
  · rw [lookup_insert_if] at h
    split_ifs at h with hj
    · cases h
      rw [hj]
      exact ⟨o, ho, rfl⟩
    · exact ⟨o', h, rfl⟩

lemma deleteObject_cases [Inhabited V] (env : Env) (bucket key : String) (s : ObjectStore V) :
    (∃ s' err os, s.deleteObject env bucket key = (s', .error err) ∧ Touched s.view.objects os ∧
      s'.view = { s.view with objects := os } ∧ s'.chunkStore = s.chunkStore) ∨
    ∃ s' o, s.deleteObject env bucket key = (s', .ok ()) ∧ s.view.objects.lookup (getObjectKey bucket key) = some o ∧
      s'.view = { s.view with
        objects := s.view.objects.erase (getObjectKey bucket key)
        deleting := s.view.deleting + ↑o.chunkIDs } ∧ s'.chunkStore = s.chunkStore := by
  rw [deleteObject]
  rcases s.metadataStore.getObject_cases env.now bucket key with ⟨err, he⟩ | ⟨o, ho, -, he⟩
  · simp only [he]
    exact .inl ⟨_, _, _, rfl, .inl rfl, rfl, rfl⟩
  · simp only [he]
    rcases MetadataStore.deleteObject_objects env bucket key { s.metadataStore with
      objects := s.metadataStore.objects.insert (getObjectKey bucket key) { o with accessedAt := env.now } } with
      ⟨ms, err, hd, hob, hl⟩ | ⟨ms, hd, hl, hob⟩
    · refine .inl ⟨{ s with metadataStore := ms }, _, _, by simp only [hd]; rfl, .inr ⟨_, o, env.now, ho, rfl⟩, ?_, rfl⟩
      simp only [view, hob, hl]
      rfl
    · refine .inr ⟨{ s with metadataStore := ms, deleting := s.deleting + o.chunkIDs }, o, by simp only [hd], ho, ?_, rfl⟩
      simp only [view, hob, hl, erase_insert]
      rfl

def openUpload (now : Time) (req : InitiateMultipartUploadRequest) : MultipartUpload :=
  ⟨newUploadID now req.key, req.bucket, req.key, req.storageClass, req.contentType, req.metadata, ∅, 0, now⟩

lemma initiateMultipartUpload_cases (now : Time) (req : InitiateMultipartUploadRequest) (s : ObjectStore V) :
    (∃ err, s.initiateMultipartUpload now req = (s, .error err)) ∨ s.initiateMultipartUpload now req = ({ s with
      multipartUploads := s.multipartUploads.insert (newUploadID now req.key) (openUpload now req) },
        .ok (newUploadID now req.key)) := by
  rw [initiateMultipartUpload]
  cases s.metadataStore.getBucket now req.bucket with
  | error err => exact .inl ⟨_, rfl⟩
  | ok bucket => exact .inr rfl

lemma abortMultipartUpload_cases (ui : String) (s : ObjectStore V) :
    (∃ err, s.abortMultipartUpload ui = (s, .error err)) ∨
    ∃ u, s.multipartUploads.lookup ui = some u ∧ s.abortMultipartUpload ui = ({ s with
        multipartUploads := s.multipartUploads.erase ui
        deleting := s.deleting + partReferences u }, .ok ()) := by
  rw [abortMultipartUpload]
  cases hu : s.multipartUploads.lookup ui with
  | none => exact .inl ⟨_, rfl⟩
  | some u => exact .inr ⟨u, rfl, rfl⟩

end ObjectStore

end Cloudless.Storage
