import Cloudless.Raft.Store
import Cloudless.Storage.Types

namespace Cloudless.Storage

open Foundations FiniteMaps GoStd Raft

structure MetadataJSON (V : Type) where
  bucket : Codec Bucket V
  object : Codec Object V

def recordJSON : MetadataJSON (Bucket ⊕ Object) where
  bucket := ⟨fun b => .ok (.inl b), fun v => v.elim .ok (fun _ => .error "not a bucket"), by rintro b _ ⟨⟩; rfl⟩
  object := ⟨fun o => .ok (.inr o), fun v => v.elim (fun _ => .error "not an object") .ok, by rintro o _ ⟨⟩; rfl⟩

structure Env where
  now : Time
  raft : RaftEnv

structure MetadataStore (V : Type) where
  buckets : FMap String Bucket
  objects : FMap String Object
  raftStore : Option (RaftStore V)

variable {V : Type}

namespace MetadataStore

def applyRAFTCommand (env : Env) (data : LogData V) (ms : MetadataStore V) : MetadataStore V × Option Err :=
  match ms.raftStore with
  | none => (ms, none)
  | some r =>
    if r.isLeader then
      ({ ms with raftStore := some (r.applyRaw env.raft data).1 }, (r.applyRaw env.raft data).2.map .msg)
    else (ms, some (.notLeader r.leader r.raftID "metadata_write"))

def leaderCheck (opts : ReadOptions) (operation : String) (ms : MetadataStore V) : Option Err :=
  match opts.consistency, ms.raftStore with
  | .strong, some r => if r.isLeader then none else some (.notLeader r.leader r.raftID operation)
  | _, _ => none

def stalenessCheck (now : Time) (opts : ReadOptions) (updatedAt : Time) : Option Err :=
  if opts.consistency = .bounded ∧ opts.maxStaleness < now - updatedAt then
    some (.staleRead opts.maxStaleness (now - updatedAt) updatedAt "bounded")
  else none

def getBucketWithOptions (now : Time) (name : String) (opts : ReadOptions) (ms : MetadataStore V) :
    Except Err Bucket :=
  match ms.leaderCheck opts "get_bucket", ms.buckets.lookup name with
  | some err, _ => .error err
  | none, none => .error (.notFound ("bucket:" ++ name))
  | none, some bucket =>
    match stalenessCheck now opts bucket.updatedAt with
    | some err => .error err
    | none => .ok bucket

def getBucket (now : Time) (name : String) (ms : MetadataStore V) : Except Err Bucket :=
  ms.getBucketWithOptions now name defaultReadOptions

def getObjectWithOptions (now : Time) (bucket key : String) (opts : ReadOptions) (ms : MetadataStore V) :
    MetadataStore V × Except Err Object :=
  match ms.leaderCheck opts "get_object", ms.objects.lookup (getObjectKey bucket key) with
  | some err, _ => (ms, .error err)
  | none, none => (ms, .error (.notFound ("object:" ++ bucket ++ "/" ++ key)))
  | none, some object =>
    match stalenessCheck now opts object.updatedAt with
    | some err => (ms, .error err)
    | none =>
      let object := { object with accessedAt := now }
      ({ ms with objects := ms.objects.insert (getObjectKey bucket key) object }, .ok object)

def getObject (now : Time) (bucket key : String) (ms : MetadataStore V) : MetadataStore V × Except Err Object :=
  ms.getObjectWithOptions now bucket key defaultReadOptions

def stampBucket (now : Time) (bucket : Bucket) : Bucket :=
  { bucket with createdAt := now, updatedAt := now, labels := some (bucket.labels.getD ∅) }

def createBucketCmd (bucket : Bucket) (value : V) : LogData V :=
  .ofMetadata ⟨"create_bucket", bucket.name, "", value⟩

def createBucket (json : MetadataJSON V) (env : Env) (bucket : Bucket) (ms : MetadataStore V) :
    MetadataStore V × Except Err Unit :=
  match ms.buckets.lookup bucket.name with
  | some _ => (ms, .error (.msg ("bucket already exists: " ++ bucket.name)))
  | none =>
    match json.bucket.marshal (stampBucket env.now bucket) with
    | .error err => (ms, .error (.wrap "failed to serialize bucket: " (.msg err)))
    | .ok value =>
      match ms.applyRAFTCommand env (createBucketCmd bucket value) with
      | (ms, some err) => (ms, .error (.wrap "failed to apply bucket creation to RAFT: " err))
      | (ms, none) =>
        ({ ms with buckets := ms.buckets.insert bucket.name (stampBucket env.now bucket) }, .ok ())

def updateBucket (env : Env) (bucket : Bucket) (ms : MetadataStore V) : MetadataStore V × Except Err Unit :=
  match ms.buckets.lookup bucket.name with
  | none => (ms, .error (.msg ("bucket not found: " ++ bucket.name)))
  | some _ =>
    ({ ms with buckets := ms.buckets.insert bucket.name { bucket with updatedAt := env.now } }, .ok ())

def deleteBucketCmd [Inhabited V] (name : String) : LogData V := .ofMetadata ⟨"delete_bucket", name, "", default⟩

def deleteBucket [Inhabited V] (env : Env) (name : String) (ms : MetadataStore V) :
    MetadataStore V × Except Err Unit :=
  match ms.buckets.lookup name with
  | none => (ms, .error (.msg ("bucket not found: " ++ name)))
  | some _ =>
    if hasEntry (fun _ object => object.bucket = name) ms.objects then
      (ms, .error (.msg ("bucket not empty: " ++ name ++ " (contains 1 objects)")))
    else
      match ms.applyRAFTCommand env (deleteBucketCmd name) with
      | (ms, some err) => (ms, .error (.wrap "failed to apply bucket deletion to RAFT: " err))
      | (ms, none) => ({ ms with buckets := ms.buckets.erase name }, .ok ())

def oldSize (existing : Option Object) : Int64 := (existing.map Object.size).getD 0

def stampObject (now : Time) (existing : Option Object) (object : Object) : Object :=
  { object with
    createdAt := (existing.map Object.createdAt).getD now
    updatedAt := now
    accessedAt := now
    metadata := some (object.metadata.getD ∅)
    version := if 0 < oldSize existing then uint64 (object.version + 1) else object.version }

def chargeBucket (existing : Option Object) (object : Object) (bucket : Bucket) : Bucket :=
  { bucket with usedBytes := bucket.usedBytes - oldSize existing + object.size }

def quotaExceeded (bucket : Bucket) : Err :=
  .msg ("bucket quota exceeded: " ++ bucket.name ++ " (quota: " ++ toString bucket.quotaBytes ++ ", used: " ++
    toString bucket.usedBytes ++ ")")

def overQuota (bucket : Bucket) : Prop := 0 < bucket.quotaBytes ∧ bucket.quotaBytes < bucket.usedBytes

instance (bucket : Bucket) : Decidable (overQuota bucket) := inferInstanceAs (Decidable (_ ∧ _))

variable (object : Object)

def putObjectCmd (value : V) : LogData V :=
  .ofMetadata ⟨"put_object_meta", object.bucket, object.key, value⟩

def commitObject (json : MetadataJSON V) (env : Env) (object : Object) (bucket : Bucket) (ms : MetadataStore V) :
    MetadataStore V × Except Err Unit :=
  match json.object.marshal object with
  | .error err => (ms, .error (.wrap "failed to serialize object: " (.msg err)))
  | .ok value =>
    match ms.applyRAFTCommand env (putObjectCmd object value) with
    | (ms, some err) => (ms, .error (.wrap "failed to apply object metadata to RAFT: " err))
    | (ms, none) =>
      ({ ms with
        objects := ms.objects.insert (getObjectKey object.bucket object.key) object
        buckets := ms.buckets.insert bucket.name bucket }, .ok ())

-- `GetBucket` hands out the cached record itself, so its counter has moved before the quota is checked
-- and before anything is committed.
def putObject (json : MetadataJSON V) (env : Env) (object : Object) (ms : MetadataStore V) :
    MetadataStore V × Except Err Unit :=
  match ms.getBucket env.now object.bucket with
  | .error err => (ms, .error err)
  | .ok bucket =>
    let existing := ms.objects.lookup (getObjectKey object.bucket object.key)
    let bucket := chargeBucket existing object bucket
    let ms := { ms with buckets := ms.buckets.insert object.bucket bucket }
    if overQuota bucket then (ms, .error (quotaExceeded bucket))
    else ms.commitObject json env (stampObject env.now existing object) bucket

def releaseBytes (bucket : String) (object : Object) (ms : MetadataStore V) : MetadataStore V :=
  match ms.buckets.lookup bucket with
  | none => ms
  | some bkt => { ms with buckets := ms.buckets.insert bucket { bkt with usedBytes := bkt.usedBytes - object.size } }

def deleteObjectCmd [Inhabited V] (bucket key : String) : LogData V :=
  .ofMetadata ⟨"delete_object_meta", bucket, key, default⟩

def deleteObject [Inhabited V] (env : Env) (bucket key : String) (ms : MetadataStore V) :
    MetadataStore V × Except Err Unit :=
  match ms.objects.lookup (getObjectKey bucket key) with
  | none => (ms, .error (.msg ("object not found: " ++ bucket ++ "/" ++ key)))
  | some object =>
    match ms.applyRAFTCommand env (deleteObjectCmd bucket key) with
    | (ms, some err) => (ms, .error (.wrap "failed to apply object deletion to RAFT: " err))
    | (ms, none) =>
      ({ ms with objects := ms.objects.erase (getObjectKey bucket key) }.releaseBytes bucket object, .ok ())

def loadEntry (json : MetadataJSON V) (ms : MetadataStore V) (p : String × V) : MetadataStore V :=
  if hasPrefix p.1 "bucket:" then
    match json.bucket.unmarshal p.2 with
    | .error _ => ms
    | .ok bucket => { ms with buckets := ms.buckets.insert (trimPrefix p.1 "bucket:") bucket }
  else if hasPrefix p.1 "object:" then
    if (splitN2 (trimPrefix p.1 "object:") ':').length = 2 then
      match json.object.unmarshal p.2 with
      | .error _ => ms
      | .ok object => { ms with objects := ms.objects.insert (getObjectKey object.bucket object.key) object }
    else ms
  else ms

def initializeFromRAFT (json : MetadataJSON V) (all : List (String × V)) (ms : MetadataStore V) : MetadataStore V :=
  all.foldl (loadEntry json) ms

variable (json : MetadataJSON V) (now : Time) (env : Env) (bucket : String) (o : Object) (b : Bucket) (key : String)

lemma raftStore_initializeFromRAFT (all : List (String × V)) (ms : MetadataStore V) :
    (ms.initializeFromRAFT json all).raftStore = ms.raftStore := by
  induction all generalizing ms with
  | nil => rfl
  | cons p all ih =>
    have hp : (ms.loadEntry json p).raftStore = ms.raftStore := by
      rw [loadEntry]
      split_ifs
      · cases json.bucket.unmarshal p.2 <;> rfl
      · cases json.object.unmarshal p.2 <;> rfl
      · rfl
      · rfl
    rw [← hp]
    exact ih _

def newMetadataStore (json : MetadataJSON V) (raftStore : Option (RaftStore V)) (all : List (String × V)) :
    MetadataStore V :=
  match raftStore with
  | none => ⟨∅, ∅, none⟩
  | some r => initializeFromRAFT json all ⟨∅, ∅, some r⟩

def record (env : Env) (data : LogData V) (ms : MetadataStore V) : MetadataStore V :=
  { ms with raftStore := ms.raftStore.map (RaftStore.append env.raft data) }

def Accepts (env : Env) (data : LogData V) (ms : MetadataStore V) : Prop :=
  ∀ r, ms.raftStore = some r → r.isLeader = true ∧ env.raft.commit = .committed ∧ ∀ m ∈ data.mutations, m.valid = true

def TurnedDown (env : Env) (data : LogData V) (ms ms' : MetadataStore V) : Prop :=
  ¬ ms.Accepts env data ∧ (ms' = ms ∨ ms' = ms.record env data ∧ ∀ err, env.raft.commit ≠ .failed err)

lemma applyRAFTCommand_cases (data : LogData V) (ms : MetadataStore V) :
    (∃ ms' err, ms.applyRAFTCommand env data = (ms', some err) ∧ TurnedDown env data ms ms') ∨
      ms.applyRAFTCommand env data = (ms.record env data, none) ∧ ms.Accepts env data := by
  obtain ⟨bs, os, rs⟩ := ms
  cases rs with
  | none =>
    refine .inr ⟨rfl, ?_⟩
    intro r hr
    cases hr
  | some r =>
    simp only [applyRAFTCommand, RaftStore.applyRaw, RaftStore.submit]
    cases hl : r.isLeader with
    | false =>
      refine .inl ⟨_, _, rfl, ?_, .inl rfl⟩
      intro ha
      have hh := (ha r rfl).1
      rw [hl] at hh
      cases hh
    | true =>
      cases hc : env.raft.commit with
      | failed err =>
        refine .inl ⟨_, _, rfl, ?_, .inl rfl⟩
        intro ha
        have hh := (ha r rfl).2.1
        rw [hc] at hh
        cases hh
      | lost err =>
        refine .inl ⟨_, _, rfl, ?_, .inr ⟨rfl, by simp [hc]⟩⟩
        intro ha
        have hh := (ha r rfl).2.1
        rw [hc] at hh
        cases hh
      | committed =>
        have he := lastError_eq_none_iff data.mutations none
        cases hs : (r.fsm.apply env.raft.now data).2 with
        | none =>
          rw [FSM.apply_eq] at hs
          refine .inr ⟨rfl, ?_⟩
          intro r' hr
          cases hr
          exact ⟨hl, hc, (he.mp hs).1⟩
        | some err =>
          rw [FSM.apply_eq] at hs
          refine .inl ⟨_, _, rfl, ?_, .inr ⟨rfl, by simp [hc]⟩⟩
          intro ha
          rw [he.mpr ⟨(ha r rfl).2.2, rfl⟩] at hs
          cases hs

variable (ms : MetadataStore V)

lemma createBucket_cases : (∃ ms' err, ms.createBucket json env b = (ms', .error err) ∧
      (ms' = ms ∨ ∃ v, TurnedDown env (createBucketCmd b v) ms ms')) ∨
    ∃ v, ms.buckets.lookup b.name = none ∧ json.bucket.marshal (stampBucket env.now b) = .ok v ∧
      ms.Accepts env (createBucketCmd b v) ∧ ms.createBucket json env b = ({ ms.record env (createBucketCmd b v) with
            buckets := ms.buckets.insert b.name (stampBucket env.now b) }, .ok ()) := by
  rw [createBucket]
  cases hl : ms.buckets.lookup b.name with
  | some _ => exact .inl ⟨_, _, rfl, .inl rfl⟩
  | none =>
    cases hm : json.bucket.marshal (stampBucket env.now b) with
    | error err => exact .inl ⟨_, _, rfl, .inl rfl⟩
    | ok v =>
      rcases ms.applyRAFTCommand_cases env (createBucketCmd b v) with ⟨ms', err, he, ht⟩ | ⟨he, ha⟩
      · exact .inl ⟨ms', _, by simp only [he]; rfl, .inr ⟨v, ht⟩⟩
      · exact .inr ⟨v, rfl, rfl, ha, by simp only [he]; rfl⟩

lemma deleteBucket_cases [Inhabited V] (n : String) (ms : MetadataStore V) :
    (∃ ms' err, ms.deleteBucket env n = (ms', .error err) ∧ (ms' = ms ∨ TurnedDown env (deleteBucketCmd n) ms ms')) ∨
    ms.Accepts env (deleteBucketCmd n) ∧ ms.deleteBucket env n =
      ({ ms.record env (deleteBucketCmd n) with buckets := ms.buckets.erase n }, .ok ()) := by
  rw [deleteBucket]
  cases hl : ms.buckets.lookup n with
  | none => exact .inl ⟨_, _, rfl, .inl rfl⟩
  | some _ =>
    split_ifs with hn
    · exact .inl ⟨_, _, rfl, .inl rfl⟩
    · rcases ms.applyRAFTCommand_cases env (deleteBucketCmd n) with ⟨ms', err, he, ht⟩ | ⟨he, ha⟩
      · exact .inl ⟨ms', _, by simp only [he]; rfl, .inr ht⟩
      · exact .inr ⟨ha, by simp only [he]; rfl⟩

def charged (bucket : Bucket) (ms : MetadataStore V) : Bucket :=
  chargeBucket (ms.objects.lookup (getObjectKey object.bucket object.key)) object bucket

def stamped (now : Time) (object : Object) (ms : MetadataStore V) : Object :=
  stampObject now (ms.objects.lookup (getObjectKey object.bucket object.key)) object

@[simp] lemma charged_name : (ms.charged o b).name = b.name := rfl

@[simp] lemma stamped_bucket : (ms.stamped now o).bucket = o.bucket := rfl

@[simp] lemma stamped_size : (ms.stamped now o).size = o.size := rfl

def charge (bucket : Bucket) (ms : MetadataStore V) : MetadataStore V :=
  { ms with buckets := ms.buckets.insert object.bucket (ms.charged object bucket) }

variable {ms}

lemma getBucket_ok {now : Time} {n : String} {b : Bucket}
    (h : ms.getBucket now n = .ok b) : ms.buckets.lookup n = some b := by
  simp only [getBucket, getBucketWithOptions] at h
  split at h
  · cases h
  · cases h
  · split at h
    · cases h
    · cases h
      assumption

lemma putObject_cases (ms : MetadataStore V) : (∃ err, ms.putObject json env o = (ms, .error err)) ∨
    ∃ b, ms.getBucket env.now o.bucket = .ok b ∧ ((∃ ms' err, ms.putObject json env o = (ms', .error err) ∧
        (ms' = ms.charge o b ∧ (overQuota (ms.charged o b) ∨
            ∃ err, json.object.marshal (ms.stamped env.now o) = .error err) ∨
          ∃ value, json.object.marshal (ms.stamped env.now o) = .ok value ∧
            TurnedDown env (putObjectCmd o value) (ms.charge o b) ms')) ∨
      ∃ value, ¬ overQuota (ms.charged o b) ∧ json.object.marshal (ms.stamped env.now o) = .ok value ∧
        ms.Accepts env (putObjectCmd o value) ∧ ms.putObject json env o =
          ({ (ms.charge o b).record env (putObjectCmd o value) with
              objects := ms.objects.insert (getObjectKey o.bucket o.key) (ms.stamped env.now o)
              buckets := (ms.charge o b).buckets.insert b.name (ms.charged o b) }, .ok ())) := by
  rw [putObject]
  cases hb : ms.getBucket env.now o.bucket with
  | error err => exact .inl ⟨_, rfl⟩
  | ok b =>
    refine .inr ⟨b, rfl, ?_⟩
    have hq : chargeBucket (ms.objects.lookup (getObjectKey o.bucket o.key)) o b = ms.charged o b := rfl
    have hs : stampObject env.now (ms.objects.lookup (getObjectKey o.bucket o.key)) o = ms.stamped env.now o := rfl
    simp only [hq, hs]
    split_ifs with ho
    · exact .inl ⟨_, _, rfl, .inl ⟨rfl, .inl ho⟩⟩
    · rw [commitObject]
      cases hm : json.object.marshal (ms.stamped env.now o) with
      | error err => exact .inl ⟨_, _, rfl, .inl ⟨rfl, .inr ⟨err, rfl⟩⟩⟩
      | ok value =>
        have hc : putObjectCmd (ms.stamped env.now o) value = putObjectCmd o value := rfl
        rcases (ms.charge o b).applyRAFTCommand_cases env (putObjectCmd o value) with ⟨ms', err, he, ht⟩ | ⟨he, ha⟩
        · refine .inl ⟨ms', .wrap "failed to apply object metadata to RAFT: " err, ?_, .inr ⟨value, rfl, ht⟩⟩
          rw [charge] at he
          simp only [hc, he]
        · refine .inr ⟨value, ho, rfl, ha, ?_⟩
          rw [charge] at he
          simp only [hc, he]
          rfl

lemma deleteObject_cases [Inhabited V] (ms : MetadataStore V) :
    (∃ ms' err, ms.deleteObject env bucket key = (ms', .error err) ∧
      (ms' = ms ∨ TurnedDown env (deleteObjectCmd bucket key) ms ms')) ∨
    ∃ o, ms.objects.lookup (getObjectKey bucket key) = some o ∧ ms.Accepts env (deleteObjectCmd bucket key) ∧
      ms.deleteObject env bucket key = ({ ms.record env (deleteObjectCmd bucket key) with
            objects := ms.objects.erase (getObjectKey bucket key) }.releaseBytes bucket o, .ok ()) := by
  rw [deleteObject]
  cases hl : ms.objects.lookup (getObjectKey bucket key) with
  | none => exact .inl ⟨_, _, rfl, .inl rfl⟩
  | some o =>
    rcases ms.applyRAFTCommand_cases env (deleteObjectCmd bucket key) with ⟨ms', err, he, ht⟩ | ⟨he, ha⟩
    · exact .inl ⟨ms', _, by simp only [he]; rfl, .inr ht⟩
    · exact .inr ⟨o, rfl, ha, by simp only [he]; rfl⟩

def leads (ms : MetadataStore V) : Bool := ms.raftStore.all RaftStore.isLeader

@[simp] lemma leads_record (d : LogData V) (ms : MetadataStore V) : (ms.record env d).leads = ms.leads := by
  obtain ⟨bs, os, rs⟩ := ms
  cases rs <;> rfl

lemma Accepts.leads {env : Env} {d : LogData V} (h : ms.Accepts env d) : ms.leads = true := by
  rw [MetadataStore.leads]
  cases hr : ms.raftStore with
  | none => rfl
  | some r => exact (h r hr).1

lemma TurnedDown.objects {env : Env} {d : LogData V} {ms ms' : MetadataStore V} (h : TurnedDown env d ms ms') :
    ms'.objects = ms.objects ∧ ms'.leads = ms.leads := by
  obtain ⟨-, rfl | ⟨rfl, -⟩⟩ := h
  · exact ⟨rfl, rfl⟩
  · exact ⟨rfl, leads_record env d ms⟩

lemma leaderCheck_none_iff (ope : String) (ms : MetadataStore V) :
    ms.leaderCheck defaultReadOptions ope = none ↔ ms.leads = true := by
  rw [leaderCheck, leads]
  cases ms.raftStore with
  | none => simp [defaultReadOptions]
  | some r => cases hl : r.isLeader <;> simp [defaultReadOptions, hl]

lemma getObject_of_leads (hl : ms.leads = true) (now : Time) {bucket key : String} {o : Object}
    (ho : ms.objects.lookup (getObjectKey bucket key) = some o) : ms.getObject now bucket key =
      ({ ms with objects := ms.objects.insert (getObjectKey bucket key) { o with accessedAt := now } },
        .ok { o with accessedAt := now }) := by
  rw [getObject, getObjectWithOptions, (leaderCheck_none_iff "get_object" ms).mpr hl, ho]
  rfl

lemma getObject_cases (ms : MetadataStore V) : (∃ err, ms.getObject now bucket key = (ms, .error err)) ∨
    ∃ o, ms.objects.lookup (getObjectKey bucket key) = some o ∧ ms.leads = true ∧ ms.getObject now bucket key =
        ({ ms with objects := ms.objects.insert (getObjectKey bucket key) { o with accessedAt := now } },
          .ok { o with accessedAt := now }) := by
  cases hl : ms.leaderCheck defaultReadOptions "get_object" with
  | some err =>
    refine .inl ⟨err, ?_⟩
    rw [getObject, getObjectWithOptions, hl]
  | none =>
    have hlead := (leaderCheck_none_iff "get_object" ms).mp hl
    cases ho : ms.objects.lookup (getObjectKey bucket key) with
    | none =>
      refine .inl ⟨.notFound ("object:" ++ bucket ++ "/" ++ key), ?_⟩
      rw [getObject, getObjectWithOptions, hl, ho]
    | some o => exact .inr ⟨o, rfl, hlead, getObject_of_leads hlead now ho⟩

lemma createBucket_objects (ms : MetadataStore V) :
    (ms.createBucket json env b).1.objects = ms.objects ∧ (ms.createBucket json env b).1.leads = ms.leads := by
  rcases ms.createBucket_cases json env b with ⟨ms', err, he, rfl | ⟨v, ht⟩⟩ | ⟨v, -, -, -, he⟩
  · rw [he]
    exact ⟨rfl, rfl⟩
  · rw [he]
    exact ht.objects
  · rw [he]
    exact ⟨rfl, leads_record env (createBucketCmd b v) ms⟩

lemma deleteBucket_objects [Inhabited V] (n : String) (ms : MetadataStore V) :
    (ms.deleteBucket env n).1.objects = ms.objects ∧ (ms.deleteBucket env n).1.leads = ms.leads := by
  rcases ms.deleteBucket_cases env n with ⟨ms', err, he, rfl | ht⟩ | ⟨-, he⟩
  · rw [he]
    exact ⟨rfl, rfl⟩
  · rw [he]
    exact ht.objects
  · rw [he]
    exact ⟨rfl, leads_record env (deleteBucketCmd n) ms⟩

lemma putObject_objects (ms : MetadataStore V) :
    (∃ ms' err, ms.putObject json env o = (ms', .error err) ∧ ms'.objects = ms.objects ∧ ms'.leads = ms.leads) ∨
    ∃ ms', ms.putObject json env o = (ms', .ok ()) ∧ ms.leads = true ∧ ms'.leads = ms.leads ∧
      ms'.objects = ms.objects.insert (getObjectKey o.bucket o.key) (ms.stamped env.now o) := by
  rcases ms.putObject_cases json env o with ⟨err, he⟩ | ⟨b, -, ⟨ms', err, he, ⟨rfl, -⟩ | ⟨v, -, ht⟩⟩ | ⟨v, -, -, ha, he⟩⟩
  · exact .inl ⟨ms, err, he, rfl, rfl⟩
  · exact .inl ⟨_, err, he, rfl, rfl⟩
  · exact .inl ⟨ms', err, he, ht.objects⟩
  · exact .inr ⟨_, he, ha.leads, leads_record env (putObjectCmd o v) ms, rfl⟩

lemma deleteObject_objects [Inhabited V] (ms : MetadataStore V) :
    (∃ ms' err, ms.deleteObject env bucket key = (ms', .error err) ∧ ms'.objects = ms.objects ∧ ms'.leads = ms.leads) ∨
    ∃ ms', ms.deleteObject env bucket key = (ms', .ok ()) ∧ ms'.leads = ms.leads ∧
      ms'.objects = ms.objects.erase (getObjectKey bucket key) := by
  rcases ms.deleteObject_cases env bucket key with ⟨ms', err, he, rfl | ht⟩ | ⟨o, -, -, he⟩
  · exact .inl ⟨_, err, he, rfl, rfl⟩
  · exact .inl ⟨ms', err, he, ht.objects⟩
  · refine .inr ⟨_, he, ?_, ?_⟩
    · rw [releaseBytes]
      split
      · exact leads_record env (deleteObjectCmd bucket key) ms
      · exact leads_record env (deleteObjectCmd bucket key) ms
    · rw [releaseBytes]
      split <;> rfl

end MetadataStore

def calmEnv : Env := ⟨unix 10, .committed, fun _ => unix 10⟩

def plainBucket (name : String) : Bucket := ⟨name, .hot, 0, 0, 0, 0, none, "owner"⟩

instance : Inhabited (Bucket ⊕ Object) := ⟨.inl (plainBucket "")⟩

end Cloudless.Storage
