import Cloudless.Storage.ObjectStore

/-! Who holds which chunk: the reference counts of the chunk store against the live objects, the open
uploads and the background deletions of the object store. -/

namespace Cloudless.Storage

open Foundations FiniteMaps GoStd Runs Raft ContentEngine ObjectStore

variable {V : Type} {P : Primitives} {json : MetadataJSON V}

section Removal

def StoreCall.Removes (ok : Option String → Prop) : StoreCall → Prop
  | .putObject env _ => ∀ i, ok (env.remove i)
  | .putObjectStream env _ => ∀ i, ok (env.remove i)
  | .uploadPart env _ => ∀ i, ok (env.remove i)
  | .deleteNext removeErr _ => ok removeErr
  | _ => True

variable {ok : Option String → Prop} {I : ChunkStore → Prop} {s : ObjectStore V} {env : StoreEnv}

lemma Keeps.storeObject (hk : Keeps P ok I) (json : MetadataJSON V) (hr : ∀ i, ok (env.remove i))
    (o : Object) (hi : I s.chunkStore) : I (s.storeObject P json env o).1.chunkStore := by
  have hd := hk.deleteFrom hr 0 o.chunkIDs hi
  rw [ObjectStore.storeObject]
  cases replicateChunks P s.config (getTargetNodes s.config env.selected) o.chunkIDs s.chunkStore with
  | some err => exact hd
  | none =>
    rcases s.metadataStore.putObject json env.toEnv o with ⟨ms, err | ⟨⟩⟩
    · exact hd
    · exact hi

lemma Keeps.putObject (hk : Keeps P ok I) (json : MetadataJSON V) (hr : ∀ i, ok (env.remove i))
    (req : PutObjectRequest) (hi : I s.chunkStore) : I (s.putObject P json env req).1.chunkStore := by
  have hc := hk.storeContent env.toContentIO hr s.config.chunkSize req.data hi
  rw [ObjectStore.putObject]
  cases s.metadataStore.getBucket env.now req.bucket with
  | error err => exact hi
  | ok b =>
    simp only
    split_ifs
    · exact hi
    · generalize ContentEngine.storeContent P s.config.chunkSize env.toContentIO req.data s.chunkStore = x at hc ⊢
      obtain ⟨cs, err | ⟨ids, c⟩⟩ := x
      · exact hc
      · exact hk.storeObject (s := { s with chunkStore := cs }) json hr _ hc

lemma Keeps.putObjectStream (hk : Keeps P ok I) (json : MetadataJSON V)
    (hr : ∀ i, ok (env.remove i)) (req : PutObjectStreamRequest) (hi : I s.chunkStore) :
    I (s.putObjectStream P json env req).1.chunkStore := by
  have hc := hk.storeContentStream env.toContentIO hr s.config.chunkSize req.reader hi
  rw [ObjectStore.putObjectStream]
  cases s.metadataStore.getBucket env.now req.bucket with
  | error err => exact hi
  | ok b =>
    simp only
    generalize ContentEngine.storeContentStream P s.config.chunkSize env.toContentIO req.reader s.chunkStore = x at hc ⊢
    obtain ⟨cs, err | ⟨ids, c⟩⟩ := x
    · exact hc
    · have hd := hk.deleteFrom hr 0 ids hc
      simp only
      cases getContentSize ids cs with
      | error err => exact hd
      | ok si =>
        simp only
        split_ifs
        · exact hd
        · exact hk.storeObject (s := { s with chunkStore := cs }) json hr _ hc

lemma Keeps.uploadPart (hk : Keeps P ok I) (hr : ∀ i, ok (env.remove i)) (req : UploadPartRequest)
    (hi : I s.chunkStore) : I (s.uploadPart P env req).1.chunkStore := by
  have hc := hk.storeContent env.toContentIO hr s.config.chunkSize req.data hi
  rw [ObjectStore.uploadPart]
  cases s.multipartUploads.lookup req.uploadID with
  | none => exact hi
  | some upload =>
    simp only
    generalize ContentEngine.storeContent P s.config.chunkSize env.toContentIO req.data s.chunkStore = x at hc ⊢
    obtain ⟨cs, err | ⟨ids, c⟩⟩ := x
    · exact hc
    · have hd := hk.deleteFrom hr 0 ids hc
      simp only
      cases replicateChunks P s.config (getTargetNodes s.config env.selected) ids cs with
      | some err => exact hd
      | none => exact hc

lemma Keeps.after [Inhabited V] (hk : Keeps P ok I) (json : MetadataJSON V) {c : StoreCall} (hr : c.Removes ok)
    (hi : I s.chunkStore) : I (s.after P json c).chunkStore := by
  cases c with
  | createBucket env req =>
    change I (s.createBucket json env req).1.chunkStore
    rwa [(s.createBucket_view json env req).2]
  | deleteBucket env n =>
    change I (s.deleteBucket env n).1.chunkStore
    rwa [(s.deleteBucket_view env n).2]
  | putObject env req => exact hk.putObject json hr req hi
  | putObjectStream env req => exact hk.putObjectStream json hr req hi
  | getObject now b key =>
    obtain ⟨os, -, -, hc⟩ := s.getObject_touches P now b key
    change I (s.getObject P now b key).1.chunkStore
    rwa [hc]
  | deleteObject env b key =>
    change I (s.deleteObject env b key).1.chunkStore
    rcases s.deleteObject_cases env b key with ⟨s', err, os, he, -, -, hc⟩ | ⟨s', o, he, -, -, hc⟩
    · rwa [he, hc]
    · rwa [he, hc]
  | initiateMultipartUpload now req =>
    change I (s.initiateMultipartUpload now req).1.chunkStore
    rw [initiateMultipartUpload]
    cases s.metadataStore.getBucket now req.bucket <;> exact hi
  | uploadPart env req => exact hk.uploadPart hr req hi
  | completeMultipartUpload env ui =>
    change I (s.completeMultipartUpload P json env ui).1.chunkStore
    rcases s.completeMultipartUpload_cases json env ui with
      ⟨s', err, he, -, hc⟩ | ⟨s', upload, ids, buffer, o, he, -, -, -, -, -, -, hc⟩
    · rwa [he, hc]
    · rwa [he, hc]
  | abortMultipartUpload ui =>
    change I (s.abortMultipartUpload ui).1.chunkStore
    rw [abortMultipartUpload]
    cases s.multipartUploads.lookup ui <;> exact hi
  | deleteNext re ci =>
    change I (s.deleteNext re ci).chunkStore
    rw [deleteNext]
    split_ifs
    · exact hk.delete ci hr hi
    · exact hi

def ChunkStore.Live (cs : ChunkStore) : Prop := ∀ id c, cs.chunks.lookup id = some c → 0 < c.refCount

lemma keeps_live {P : Primitives} : Keeps P (· = none) ChunkStore.Live where
  write := by
    intro io d cs hl id c hc
    have hp : ∀ c', 0 < c'.refCount → (cs.chunks.insert (P.sha256 d) c').lookup id = some c → 0 < c.refCount := by
      intro c' hp hc
      rw [lookup_insert_if] at hc
      split_ifs at hc
      · cases hc
        exact hp
      · exact hl id c hc
    rw [ChunkStore.writeChunk, ChunkStore.getChunk] at hc
    cases hw : cs.chunks.lookup (P.sha256 d) with
    | some c' =>
      rw [hw] at hc
      refine hp _ ?_ hc
      have hpos := hl _ c' hw
      change 0 < c'.refCount + 1
      omega
    | none =>
      rw [hw] at hc
      revert hc
      cases io.outcome with
      | mkdirFails err => exact hl id c
      | writeFails err l => cases l <;> exact hl id c
      | done => exact hp _ one_pos
  delete := by
    rintro e id cs rfl hl j c hc
    rcases cs.deleteChunk_cases none id with ⟨-, he⟩ | ⟨c', hl', ⟨-, -, he⟩ | ⟨hp | ⟨hn, -⟩, he⟩⟩
    · rw [he] at hc
      exact hl j c hc
    · rw [he, ChunkStore.unlink, lookup_erase_if] at hc
      split_ifs at hc
      exact hl j c hc
    · rw [he, ChunkStore.decrement, lookup_insert_if] at hc
      split_ifs at hc
      · cases hc
        change 0 < c'.refCount - 1
        omega
      · exact hl j c hc
    · exact absurd rfl hn

end Removal

variable {ids : List String}

namespace View

def references (v : View) : Multiset String :=
  total (fun _ o => (o.chunkIDs : Multiset String)) v.objects +
    total (fun _ upload => partReferences upload) v.uploads

def held (v : View) : Multiset String := v.references + v.deleting

def chunksAt (bucket key : String) (v : View) : List String :=
  (v.objects.lookup (getObjectKey bucket key)).elim [] Object.chunkIDs

variable (v : View) {o : Object} {id : String}

lemma held_put {b key sum : String} (hid : o.identity = (b, key, ids, sum)) :
    (v.put o).held + ↑(v.chunksAt b key) = ↑ids + v.held := by
  simp only [Object.identity, Prod.mk.injEq] at hid
  obtain ⟨rfl, rfl, rfl, -⟩ := hid
  have ht := total_insert_add (fun _ o => (o.chunkIDs : Multiset String)) v.objects (getObjectKey o.bucket o.key) o
  have hc : (v.objects.lookup (getObjectKey o.bucket o.key)).elim 0 (fun o => (o.chunkIDs : Multiset String)) =
      ↑(v.chunksAt o.bucket o.key) := by
    rw [chunksAt]
    cases v.objects.lookup (getObjectKey o.bucket o.key) <;> rfl
  rw [hc] at ht
  simp only [held, references, put]
  rw [add_right_comm, add_right_comm _ _ (↑(v.chunksAt o.bucket o.key) : Multiset String), ht]
  abel

lemma held_touched {os : FMap String Object} (ht : ObjectStore.Touched v.objects os) :
    ({ v with objects := os } : View).held = v.held := by
  rcases ht with rfl | ⟨k, o, t, ho, rfl⟩
  · rfl
  · have hr := total_replace (fun _ o => (o.chunkIDs : Multiset String)) v.objects (w := { o with accessedAt := t }) ho rfl
    simp only [held, references, hr]

lemma held_delete {k : String} (ho : v.objects.lookup k = some o) :
    ({ v with objects := v.objects.erase k, deleting := v.deleting + ↑o.chunkIDs } : View).held = v.held := by
  simp only [held, references]
  rw [total_of_lookup (fun _ o => (o.chunkIDs : Multiset String)) v.objects ho]
  abel

lemma held_insertUpload (id : String) (upload : MultipartUpload) :
    ({ v with uploads := v.uploads.insert id upload } : View).held +
      (v.uploads.lookup id).elim 0 partReferences = partReferences upload + v.held := by
  have ht := total_insert_add (fun _ upload => partReferences upload) v.uploads id upload
  simp only [held, references]
  rw [add_right_comm, add_assoc _ _ ((v.uploads.lookup id).elim 0 partReferences), ht]
  abel

variable {upload : MultipartUpload}

lemma held_addPart (hu : v.uploads.lookup id = some upload) (pa : UploadPart) :
    ({ v with uploads := v.uploads.insert id (addPart pa upload) } : View).held +
      (upload.parts.lookup pa.partNumber).elim 0 (fun p => (p.chunkIDs : Multiset String)) =
        ↑pa.chunkIDs + v.held := by
  have hi := v.held_insertUpload id (addPart pa upload)
  have hp := total_insert_add (fun _ p => (p.chunkIDs : Multiset String)) upload.parts pa.partNumber pa
  rw [hu, Option.elim_some] at hi
  rw [← add_left_inj (partReferences upload), add_right_comm, hi]
  change total _ (upload.parts.insert pa.partNumber pa) + v.held + _ = _ + total _ upload.parts
  rw [add_right_comm, hp]
  abel

lemma held_complete {b key sum : String} (hid : o.identity = (b, key, ids, sum))
    (hu : v.uploads.lookup id = some upload) (hp : partReferences upload = ↑ids) :
    ({ v.put o with uploads := v.uploads.erase id } : View).held + ↑(v.chunksAt b key) = v.held := by
  have hh := v.held_put hid
  have ht := total_of_lookup (fun _ upload => partReferences upload) v.uploads hu
  rw [hp] at ht
  rw [← add_right_inj (↑ids : Multiset String), ← hh]
  simp only [held, references, put, ht]
  abel

lemma held_abort (hu : v.uploads.lookup id = some upload) : ({ v with
      uploads := v.uploads.erase id
      deleting := v.deleting + partReferences upload } : View).held = v.held := by
  simp only [held, references]
  rw [total_of_lookup (fun _ upload => partReferences upload) v.uploads hu]
  abel

lemma held_deleteNext (hm : id ∈ v.deleting) :
    id ::ₘ ({ v with deleting := v.deleting.erase id } : View).held = v.held := by
  simp only [held]
  rw [← Multiset.add_cons, Multiset.cons_erase hm]
  rfl

end View

variable {cs : ChunkStore}

lemma assemble_ok {ps : FMap ℤ UploadPart} (l : List ℤ) {b : Bytes} (h : assemble P ps cs l = .ok (ids, b)) :
    (∀ i ∈ l, ∃ pa, ps.lookup i = some pa) ∧
      (l.map (fun i => (ps.lookup i).elim 0 (fun p => (p.chunkIDs : Multiset String)))).sum = ↑ids := by
  induction l generalizing ids b with
  | nil =>
    cases h
    exact ⟨by simp, rfl⟩
  | cons i l ih =>
    rw [assemble] at h
    cases hp : ps.lookup i with
    | none => simp [hp] at h
    | some pa =>
      rw [hp] at h
      simp only at h
      cases hr : retrieveContent P pa.chunkIDs cs with
      | error err => simp [hr] at h
      | ok d =>
        rw [hr] at h
        simp only at h
        cases ha : assemble P ps cs l with
        | error err => simp [ha] at h
        | ok p =>
          obtain ⟨ids', b'⟩ := p
          obtain ⟨hl, hs⟩ := ih ha
          rw [ha] at h
          cases h
          refine ⟨?_, ?_⟩
          · intro j hj
            rcases List.mem_cons.mp hj with rfl | hj
            · exact ⟨pa, hp⟩
            · exact hl j hj
          · rw [List.map_cons, List.sum_cons, hs, hp, Option.elim_some, Multiset.coe_add]

lemma nodup_partNumbers (n : ℕ) : (partNumbers n).Nodup := by
  rw [partNumbers]
  apply List.Nodup.map _ List.nodup_range
  intro a b h
  simpa using h

lemma partReferences_eq {upload : MultipartUpload} {b : Bytes}
    (h : assemble P upload.parts cs (partNumbers (size upload.parts)) = .ok (ids, b)) :
    partReferences upload = ↑ids := by
  obtain ⟨hl, hs⟩ := assemble_ok _ h
  rw [partReferences, total_eq_sum _ _ (nodup_partNumbers _) hl (by simp [partNumbers]), hs]

namespace ObjectStore

/-- The call replaces nothing that holds references: no object, no uploaded part and no open upload. -/
def Frugal (s : ObjectStore V) : StoreCall → Prop
  | .putObject _ req => s.view.chunksAt req.bucket req.key = []
  | .putObjectStream _ req => s.view.chunksAt req.bucket req.key = []
  | .completeMultipartUpload _ uploadID =>
    ∀ upload, s.multipartUploads.lookup uploadID = some upload → s.view.chunksAt upload.bucket upload.key = []
  | .initiateMultipartUpload now req =>
    ∀ upload, s.multipartUploads.lookup (newUploadID now req.key) = some upload → partReferences upload = 0
  | .uploadPart _ req =>
    ∀ upload part, s.multipartUploads.lookup req.uploadID = some upload →
      upload.parts.lookup req.partNumber = some part → part.chunkIDs = []
  | _ => True

def Accounted (P : Primitives) (lost : Multiset String) (s : ObjectStore V) : Prop :=
  Represents P s.chunkStore (s.view.held + lost)

variable {s s' : ObjectStore V} {lost : Multiset String}

lemma Accounted.of_eq {l' : Multiset String} {held : Multiset String} (h : Represents P s'.chunkStore held)
    (he : held = s'.view.held + l') : Accounted P l' s' := by
  rwa [Accounted, ← he]

lemma Accounted.unmoved (h : Unmoved P (s.view.held + lost) s s') : Accounted P lost s' := by
  obtain ⟨hv, hr⟩ := h
  exact .of_eq hr (by rw [hv])

lemma Accounted.sameChunks (h : Accounted P lost s) (hv : s'.view.held = s.view.held)
    (hc : s'.chunkStore = s.chunkStore) : Accounted P lost s' := by
  rwa [Accounted, hv, hc]

lemma Accounted.stored {b key : String} {d : Bytes} (h : Stored P (s.view.held + lost) b key d s s') :
    Accounted P (lost + ↑(s.view.chunksAt b key)) s' := by
  obtain ⟨ids, o, hid, -, -, hv, hr⟩ := h
  apply Accounted.of_eq hr
  rw [hv, ← add_assoc, ← s.view.held_put hid]
  abel

def Settles (P : Primitives) (lost : Multiset String) (s : ObjectStore V) (c : StoreCall) (s' : ObjectStore V) : Prop :=
  ∃ more, Accounted P (lost + more) s' ∧ (s.Frugal c → more = 0)

lemma Accounted.settles (h : Accounted P lost s') (s : ObjectStore V) (c : StoreCall) : Settles P lost s c s' :=
  ⟨0, by rwa [add_zero], fun _ => rfl⟩

section

variable (h : Accounted P lost s)

include h

lemma Accounted.putObject (json : MetadataJSON V) (env : StoreEnv) (req : PutObjectRequest) :
    Settles P lost s (.putObject env req) (s.putObject P json env req).1 := by
  rcases putObject_cases json env req h with ⟨s', err, he, hu⟩ | ⟨s', he, hs⟩
  · rw [he]
    exact (Accounted.unmoved hu).settles s _
  · rw [he]
    exact ⟨_, .stored hs, fun hf => by rw [hf]; rfl⟩

lemma Accounted.putObjectStream (json : MetadataJSON V) (env : StoreEnv) (req : PutObjectStreamRequest) :
    Settles P lost s (.putObjectStream env req) (s.putObjectStream P json env req).1 := by
  rcases putObjectStream_cases json env req h with ⟨s', err, he, hu⟩ | ⟨s', he, hs⟩
  · rw [he]
    exact (Accounted.unmoved hu).settles s _
  · rw [he]
    exact ⟨_, .stored hs, fun hf => by rw [hf]; rfl⟩

lemma Accounted.deleteObject [Inhabited V] (env : Env) (b key : String) :
    Accounted P lost (s.deleteObject env b key).1 := by
  rcases s.deleteObject_cases env b key with ⟨s', err, os, he, ht, hv, hc⟩ | ⟨s', o, he, ho, hv, hc⟩
  · rw [he]
    exact h.sameChunks ((congrArg View.held hv).trans (s.view.held_touched ht)) hc
  · rw [he]
    exact h.sameChunks ((congrArg View.held hv).trans (s.view.held_delete ho)) hc

lemma Accounted.initiateMultipartUpload (now : Time) (req : InitiateMultipartUploadRequest) :
    Settles P lost s (.initiateMultipartUpload now req) (s.initiateMultipartUpload now req).1 := by
  rcases s.initiateMultipartUpload_cases now req with ⟨err, he⟩ | he
  · rw [he]
    exact h.settles s _
  · rw [he]
    have hi := s.view.held_insertUpload (newUploadID now req.key) (openUpload now req)
    refine ⟨(s.multipartUploads.lookup (newUploadID now req.key)).elim 0 partReferences, .of_eq h ?_, ?_⟩
    · have ho : partReferences (openUpload now req) = 0 := rfl
      rw [ho, zero_add] at hi
      rw [← hi, add_assoc, add_comm _ lost]
      rfl
    · intro hf
      cases hu : s.multipartUploads.lookup (newUploadID now req.key) with
      | none => rfl
      | some upload => exact hf upload hu

lemma Accounted.uploadPart (env : StoreEnv) (req : UploadPartRequest) :
    Settles P lost s (.uploadPart env req) (s.uploadPart P env req).1 := by
  rcases uploadPart_cases env req h with ⟨s', err, he, hu⟩ | ⟨s', r, upload, pa, he, hu, hn, -, -, hv, hr⟩
  · rw [he]
    exact (Accounted.unmoved hu).settles s _
  · rw [he]
    have hi := s.view.held_addPart hu pa
    refine ⟨(upload.parts.lookup pa.partNumber).elim 0 (fun p => ↑p.chunkIDs), .of_eq hr ?_, ?_⟩
    · rw [hv, ← add_assoc, ← hi]
      abel
    · intro hf
      rw [hn]
      cases hp : upload.parts.lookup req.partNumber with
      | none => rfl
      | some p =>
        have hp := hf upload p hu hp
        rw [Option.elim_some, hp]
        rfl

lemma Accounted.completeMultipartUpload (json : MetadataJSON V) (env : Env) (ui : String) :
    Settles P lost s (.completeMultipartUpload env ui) (s.completeMultipartUpload P json env ui).1 := by
  rcases s.completeMultipartUpload_cases json env ui with
    ⟨s', err, he, hv, hc⟩ | ⟨s', upload, ids, buffer, o, he, hu, ha, hid, -, -, hv, hc⟩
  · rw [he]
    exact (h.sameChunks (congrArg View.held hv) hc).settles s _
  · rw [he]
    have hi := s.view.held_complete hid hu (partReferences_eq ha)
    have hr : Represents P s'.chunkStore (s.view.held + lost) := by
      rwa [hc]
    refine ⟨↑(s.view.chunksAt upload.bucket upload.key), .of_eq hr ?_, ?_⟩
    · rw [hv, ← hi]
      abel
    · intro hf
      rw [hf upload hu]
      rfl

lemma Accounted.abortMultipartUpload (ui : String) : Accounted P lost (s.abortMultipartUpload ui).1 := by
  rcases s.abortMultipartUpload_cases ui with ⟨err, he⟩ | ⟨upload, hu, he⟩
  · rwa [he]
  · rw [he]
    exact h.sameChunks (s.view.held_abort hu) rfl

lemma Accounted.deleteNext (re : Option String) (ci : String) : Accounted P lost (s.deleteNext re ci) := by
  rw [ObjectStore.deleteNext]
  split_ifs with hm
  · have hr := s.view.held_deleteNext hm
    rw [Accounted, ← hr, Multiset.cons_add] at h
    exact h.deleteChunk re
  · exact h

end

lemma Accounted.step [Inhabited V] (json : MetadataJSON V) (c : StoreCall) (h : Accounted P lost s) :
    Settles P lost s c (s.after P json c) := by
  cases c with
  | createBucket env req =>
    obtain ⟨hv, hc⟩ := s.createBucket_view json env req
    exact (h.sameChunks (congrArg View.held hv) hc).settles s _
  | deleteBucket env n =>
    obtain ⟨hv, hc⟩ := s.deleteBucket_view env n
    exact (h.sameChunks (congrArg View.held hv) hc).settles s _
  | putObject env req => exact h.putObject json env req
  | putObjectStream env req => exact h.putObjectStream json env req
  | getObject now b key =>
    obtain ⟨os, ht, hv, hc⟩ := s.getObject_touches P now b key
    exact (h.sameChunks ((congrArg View.held hv).trans (s.view.held_touched ht)) hc).settles s _
  | deleteObject env b key => exact (h.deleteObject env b key).settles s _
  | initiateMultipartUpload now req => exact h.initiateMultipartUpload now req
  | uploadPart env req => exact h.uploadPart env req
  | completeMultipartUpload env ui => exact h.completeMultipartUpload json env ui
  | abortMultipartUpload ui => exact (h.abortMultipartUpload ui).settles s _
  | deleteNext re ci => exact (h.deleteNext re ci).settles s _

end ObjectStore

namespace ObjectStore

def fresh (json : MetadataJSON V) (config : StorageConfig) (raftStore : Option (RaftStore V)) (all : List (String × V)) :
    ObjectStore V :=
  newObjectStore json config raftStore all ∅ []

lemma accounted_fresh (P : Primitives) (json : MetadataJSON V) (co : StorageConfig)
    (rs : Option (RaftStore V)) (all : List (String × V))
    (hnew : (MetadataStore.newMetadataStore json rs all).objects = ∅) : Accounted P 0 (fresh json co rs all) := by
  have hr : Represents P (fresh json co rs all).chunkStore 0 :=
    ⟨fun id c hl => (by cases hl), fun id => rfl⟩
  refine .of_eq hr ?_
  have hv : (fresh json co rs all).view.objects = ∅ := hnew
  rw [View.held, View.references, hv]
  rfl

end ObjectStore

open ObjectStore

theorem reference_counts_exact [Inhabited V] (P : Primitives) (json : MetadataJSON V) (config : StorageConfig)
    (raftStore : Option (RaftStore V)) (all : List (String × V)) (calls : List StoreCall)
    (hnew : (MetadataStore.newMetadataStore json raftStore all).objects = ∅)
    (ha : Admissible (after P json) Frugal (fresh json config raftStore all) calls) :
    (∀ id, (run (after P json) (fresh json config raftStore all) calls).chunkStore.count id =
      (run (after P json) (fresh json config raftStore all) calls).view.references.count id +
        (run (after P json) (fresh json config raftStore all) calls).deleting.count id) ∧
    ((∀ c ∈ calls, c.Removes (· = none)) →
      (run (after P json) (fresh json config raftStore all) calls).metadataStore.objects = ∅ →
      (run (after P json) (fresh json config raftStore all) calls).multipartUploads = ∅ →
      (run (after P json) (fresh json config raftStore all) calls).deleting = 0 →
      (run (after P json) (fresh json config raftStore all) calls).chunkStore.chunks = ∅) := by
  have hacc : Accounted P 0 (run (after P json) (fresh json config raftStore all) calls) := by
    refine run_invariant (Accounted P 0) ?_ calls (accounted_fresh P json config raftStore all hnew) ha
    intro s c hs hf
    obtain ⟨m, hm, hz⟩ := hs.step json c
    rwa [hz hf, add_zero] at hm
  have hlive : (∀ c ∈ calls, c.Removes (· = none)) →
      (run (after P json) (fresh json config raftStore all) calls).chunkStore.Live := fun hr =>
    run_preserves (fun s : ObjectStore V => s.chunkStore.Live) calls (fun s c hc => keeps_live.after json (hr c hc))
      fun id c hl => by cases hl
  generalize run (after P json) (fresh json config raftStore all) calls = s at hacc hlive ⊢
  have hco : ∀ id, s.chunkStore.count id = s.view.references.count id + s.deleting.count id := by
    intro id
    rw [hacc.counts, add_zero, View.held, Multiset.count_add]
    push_cast
    rfl
  refine ⟨hco, ?_⟩
  intro hr ho hu hd
  have hrefs : s.view.references = 0 := by simp only [View.references, view, ho, hu, total_empty, add_zero]
  apply Finmap.ext_lookup
  intro id
  cases h : s.chunkStore.chunks.lookup id with
  | none => rfl
  | some c =>
    have hp := hlive hr id c h
    have hz := hco id
    rw [hrefs, hd, ChunkStore.count, h, Option.elim_some] at hz
    simp at hz
    omega

def calmStoreEnv : StoreEnv :=
  { calmEnv with write := fun _ => ⟨.done, unix 10⟩, remove := fun _ => none, selected := none }

def plainPut (bucket key : String) (data : Bytes) : StoreCall :=
  .putObject calmStoreEnv ⟨bucket, key, data, .hot, "", none⟩

def plainCreate (bucket : String) : StoreCall := .createBucket calmEnv ⟨bucket, .hot, 0, none, "owner"⟩

abbrev sampleStore : ObjectStore (Bucket ⊕ Object) := fresh recordJSON defaultStorageConfig none []

abbrev sampleRun : List StoreCall → ObjectStore (Bucket ⊕ Object) := run (after samplePrimitives recordJSON) sampleStore

def sharing : List StoreCall :=
  [plainCreate "b", plainPut "b" "j" [1], plainPut "b" "k" [1], .deleteObject calmEnv "b" "j",
    .deleteNext none (digest [1])]

theorem reference_counts_exact_sharing : (sampleRun sharing).chunkStore.count (digest [1]) =
      (sampleRun sharing).view.references.count (digest [1]) + (sampleRun sharing).deleting.count (digest [1]) := by
  refine (reference_counts_exact samplePrimitives recordJSON defaultStorageConfig none [] sharing rfl ?_).1 (digest [1])
  exact ⟨trivial, rfl, rfl, trivial, trivial, trivial⟩

def overwriting : List StoreCall :=
  [plainCreate "b", plainPut "b" "k" [1], plainPut "b" "k" [2], .deleteObject calmEnv "b" "k",
    .deleteNext none (digest [2])]

theorem overwritten_chunk_leaks :
    (sampleRun overwriting).metadataStore.objects = ∅ ∧ (sampleRun overwriting).multipartUploads = ∅ ∧
      (sampleRun overwriting).deleting = 0 ∧ (sampleRun overwriting).view.references.count (digest [1]) = 0 ∧
      (sampleRun overwriting).chunkStore.count (digest [1]) = 1 := by
  decide

end Cloudless.Storage
