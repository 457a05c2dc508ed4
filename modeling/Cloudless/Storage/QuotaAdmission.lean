import Cloudless.Storage.ChunkReferences
import Cloudless.Storage.QuotaAccounting

namespace Cloudless.Storage

open Foundations FiniteMaps GoStd ContentEngine MetadataStore

def QuotaError : Except Err Unit → Prop
  | .ok _ => False
  | .error err => err = .msg "bucket quota exceeded" ∨ ∃ b, err = .wrap "failed to store metadata: " (quotaExceeded b)

structure Charge where
  bucket : Bucket
  existing : Option Object
  size : Int64

variable {o : Object}

namespace Charge

variable {w : Charge}

def Within (w : Charge) : Prop :=
  w.bucket.usedBytes.toInt - (oldSize w.existing).toInt + w.size.toInt ≤ w.bucket.quotaBytes.toInt

def WithinBeside (w : Charge) : Prop := w.bucket.usedBytes.toInt + w.size.toInt ≤ w.bucket.quotaBytes.toInt

structure InRange (w : Charge) : Prop where
  quota : 0 < w.bucket.quotaBytes
  existing : 0 ≤ (oldSize w.existing).toInt
  beside : FitsInt64 (w.bucket.usedBytes.toInt + w.size.toInt)
  charged : FitsInt64 (w.bucket.usedBytes.toInt - (oldSize w.existing).toInt + w.size.toInt)

instance : Decidable w.Within := inferInstanceAs (Decidable (_ ≤ _))

instance : Decidable w.WithinBeside := inferInstanceAs (Decidable (_ ≤ _))

def Exact (w : Charge) (result : Except Err Unit) : Prop := ¬QuotaError result ↔ w.Within

lemma WithinBeside.within (h : w.WithinBeside) (hw : w.InRange) : w.Within := by
  have ho := hw.existing
  unfold WithinBeside at h
  unfold Within
  omega

lemma exact_iff (hw : w.InRange) {r : Except Err Unit} (h : QuotaError r ↔ ¬w.WithinBeside) :
    w.Exact r ↔ (w.Within → w.WithinBeside) := by
  rw [Exact, h, not_not]
  exact ⟨fun he => he.mpr, fun he => ⟨fun hb => hb.within hw, he⟩⟩

lemma quotaReached_iff (hw : w.InRange) : quotaReached w.bucket w.size ↔ ¬w.WithinBeside := by
  rw [quotaReached, Int64.lt_iff_toInt_lt, Int64.lt_iff_toInt_lt, toInt_add_of_fits hw.beside, WithinBeside, not_le]
  exact and_iff_right (Int64.lt_iff_toInt_lt.mp hw.quota)

lemma not_overQuota (hw : w.InRange) (h : w.WithinBeside) (ho : o.size = w.size) :
    ¬overQuota (chargeBucket w.existing o w.bucket) := by
  have hin : w.Within := h.within hw
  intro hover
  have hl := Int64.lt_iff_toInt_lt.mp hover.2
  simp only [chargeBucket, ho, toInt_charge hw.charged] at hl
  exact absurd hin (not_le.mpr hl)

end Charge

variable {V : Type} {P : Primitives} {json : MetadataJSON V} {err : Err} {env : Env}

lemma MetadataStore.putObject_wraps {ms ms' : MetadataStore V} {b : Bucket}
    (hb : ms.getBucket env.now o.bucket = .ok b) (hq : ¬overQuota (ms.charged o b))
    (h : ms.putObject json env o = (ms', .error err)) : ∃ text inner, err = .wrap text inner := by
  rw [putObject, hb] at h
  change (if overQuota (ms.charged o b) then _ else _) = _ at h
  rw [if_neg hq, commitObject] at h
  split at h
  · cases h
    exact ⟨_, _, rfl⟩
  · split at h
    · cases h
      exact ⟨_, _, rfl⟩
    · cases h

lemma not_quotaError_metadata {ms : MetadataStore V} {b : Bucket}
    (hb : ms.getBucket env.now o.bucket = .ok b) (hq : ¬overQuota (ms.charged o b)) {ms' : MetadataStore V}
    (h : ms.putObject json env o = (ms', .error err)) : ¬QuotaError (.error (.wrap "failed to store metadata: " err)) := by
  obtain ⟨text, inner, rfl⟩ := putObject_wraps hb hq h
  rintro (he | ⟨b, he⟩)
  · cases he
  · simp [quotaExceeded] at he

namespace ObjectStore

variable {s : ObjectStore V} {b : Bucket}

def charge (s : ObjectStore V) (b : Bucket) (bucket key : String) (size : Int64) : Charge :=
  ⟨b, s.metadataStore.objects.lookup (getObjectKey bucket key), size⟩

variable {env : StoreEnv}

lemma storeObject_not_quotaError (hb : s.metadataStore.getBucket env.now o.bucket = .ok b)
    (hq : ¬overQuota (s.metadataStore.charged o b)) : ¬QuotaError (s.storeObject P json env o).2 := by
  rw [storeObject]
  cases replicateChunks P s.config (getTargetNodes s.config env.selected) o.chunkIDs s.chunkStore with
  | some err => simp [QuotaError]
  | none =>
    rcases hp : s.metadataStore.putObject json env.toEnv o with ⟨ms, err | _⟩
    · exact not_quotaError_metadata hb hq hp
    · exact not_false

lemma putObject_quotaError_iff {req : PutObjectRequest} (hb : s.metadataStore.getBucket env.now req.bucket = .ok b)
    (hw : (s.charge b req.bucket req.key (.ofNat req.data.length)).InRange) :
    QuotaError (s.putObject P json env req).2 ↔
      ¬(s.charge b req.bucket req.key (.ofNat req.data.length)).WithinBeside := by
  rw [← Charge.quotaReached_iff hw, putObject, hb]
  simp only
  split_ifs with hq
  · exact iff_of_true (.inl rfl) hq
  · refine iff_of_false ?_ hq
    have hr := not_not.mp (mt (Charge.quotaReached_iff hw).mpr hq)
    rcases storeContent P s.config.chunkSize env.toContentIO req.data s.chunkStore with ⟨cs, err | ⟨ids, c⟩⟩
    · simp [QuotaError]
    · exact storeObject_not_quotaError (s := { s with chunkStore := cs }) hb (Charge.not_overQuota hw hr rfl)

variable {cs : ChunkStore} {held : Multiset String}

lemma addSizes_eq (h : Represents P cs held) {ps : List Bytes} (hp : ∀ d ∈ ps, P.sha256 d ∈ held)
    {si : Int64} : addSizes si (ps.map P.sha256) cs = .ok (si + .ofNat ps.flatten.length) := by
  induction ps generalizing si with
  | nil => simp [addSizes]
  | cons d ps ih =>
    obtain ⟨hdata, hpi⟩ := List.forall_mem_cons.mp hp
    obtain ⟨c, hl⟩ := h.lookup hdata
    have hs : cs.getChunkSize (P.sha256 d) = .ok (.ofNat d.length) := by
      simp [ChunkStore.getChunkSize, ChunkStore.getChunk, hl, (h.intact.lookup hl).2.2.1]
    rw [List.map_cons, addSizes, hs]
    simp only
    rw [ih hpi, Int64.add_assoc, ← Int64.ofNat_add, List.flatten_cons, List.length_append]

lemma getContentSize_eq {ids : List String} {d : Bytes} (h : Represents P cs (↑ids + held)) (hd : Spells P ids d) :
    getContentSize ids cs = .ok (.ofNat d.length) := by
  obtain ⟨ps, rfl, rfl⟩ := hd
  rw [getContentSize, addSizes_eq h, Int64.zero_add]
  exact fun d hdata => Multiset.mem_add.mpr (.inl (List.mem_map_of_mem hdata))

lemma putObjectStream_quotaError_iff (hs : Represents P s.chunkStore held)
    {req : PutObjectStreamRequest} (hb : s.metadataStore.getBucket env.now req.bucket = .ok b)
    (hst : succeeded (storeContentStream P s.config.chunkSize env.toContentIO req.reader s.chunkStore).2 = true)
    (hw : (s.charge b req.bucket req.key (.ofNat req.reader.data.length)).InRange) :
    QuotaError (s.putObjectStream P json env req).2 ↔
      ¬(s.charge b req.bucket req.key (.ofNat req.reader.data.length)).WithinBeside := by
  rw [← Charge.quotaReached_iff hw, putObjectStream, hb]
  rcases hs.storeContentStream s.config.chunkSize_pos env.toContentIO req.reader with
    ⟨cs, err, he, -⟩ | ⟨cs, ids, he, hsp, hr⟩
  · rw [he] at hst
    cases hst
  · simp only [he, getContentSize_eq hr hsp]
    split_ifs with hq
    · exact iff_of_true (.inl rfl) hq
    · refine iff_of_false ?_ hq
      have hroom := not_not.mp (mt (Charge.quotaReached_iff hw).mpr hq)
      exact storeObject_not_quotaError (s := { s with chunkStore := cs }) hb (Charge.not_overQuota hw hroom rfl)

lemma assemble_not_quotaError {ps : FMap ℤ UploadPart} {cs : ChunkStore} {is : List ℤ}
    (h : assemble P ps cs is = .error err) : ¬QuotaError (.error err) := by
  induction is with
  | nil => cases h
  | cons i r ih =>
    rw [assemble] at h
    split at h
    · cases h
      rintro (he | ⟨b, he⟩)
      · have hch := congrArg String.toList (Err.msg.inj he)
        simp at hch
      · cases he
    · split at h
      · cases h
        rintro (he | ⟨b, he⟩)
        · cases he
        · have hch := congrArg String.toList (Err.wrap.inj he).1
          simp at hch
      · split at h
        · cases h
          exact ih ‹_›
        · cases h

lemma completeMultipartUpload_quotaError_iff {env : Env} {ui : String} {u : MultipartUpload}
    (hu : s.multipartUploads.lookup ui = some u) (hb : s.metadataStore.getBucket env.now u.bucket = .ok b)
    (hw : (s.charge b u.bucket u.key u.totalSize).InRange) : QuotaError (s.completeMultipartUpload P json env ui).2 ↔
      ¬(s.charge b u.bucket u.key u.totalSize).WithinBeside := by
  rw [← Charge.quotaReached_iff hw, completeMultipartUpload, hu]
  simp only [hb]
  split_ifs with hq
  · exact iff_of_true (.inl rfl) hq
  · refine iff_of_false ?_ hq
    have hr := not_not.mp (mt (Charge.quotaReached_iff hw).mpr hq)
    rcases ha : assemble P u.parts s.chunkStore (partNumbers (size u.parts)) with err | ⟨ids, bu⟩
    · exact assemble_not_quotaError ha
    · simp only
      split
      · rename_i hp
        refine not_quotaError_metadata (b := b) ?_ ?_ hp
        · exact hb
        · exact Charge.not_overQuota hw hr rfl
      · exact not_false

theorem quota_admission_iff (json : MetadataJSON V) (hs : Represents P s.chunkStore held) (b : Bucket) :
    (∀ (env : StoreEnv) (req : PutObjectRequest) (w : Charge), s.metadataStore.getBucket env.now req.bucket = .ok b →
      w = s.charge b req.bucket req.key (.ofNat req.data.length) → w.InRange →
      (w.Exact (s.putObject P json env req).2 ↔ (w.Within → w.WithinBeside))) ∧
    (∀ (env : StoreEnv) (req : PutObjectStreamRequest) (w : Charge),
      s.metadataStore.getBucket env.now req.bucket = .ok b →
      succeeded (storeContentStream P s.config.chunkSize env.toContentIO req.reader s.chunkStore).2 = true →
      w = s.charge b req.bucket req.key (.ofNat req.reader.data.length) → w.InRange →
      (w.Exact (s.putObjectStream P json env req).2 ↔ (w.Within → w.WithinBeside))) ∧
    ∀ (env : Env) (uploadID : String) (upload : MultipartUpload) (w : Charge),
      s.multipartUploads.lookup uploadID = some upload → s.metadataStore.getBucket env.now upload.bucket = .ok b →
      w = s.charge b upload.bucket upload.key upload.totalSize → w.InRange →
      (w.Exact (s.completeMultipartUpload P json env uploadID).2 ↔ (w.Within → w.WithinBeside)) := by
  refine ⟨?_, ?_, ?_⟩
  · rintro env req w hb rfl hw
    exact Charge.exact_iff hw (putObject_quotaError_iff hb hw)
  · rintro env req w hb hst rfl hw
    exact Charge.exact_iff hw (putObjectStream_quotaError_iff hs hb hst hw)
  · rintro env uploadID upload w hu hb rfl hw
    exact Charge.exact_iff hw (completeMultipartUpload_quotaError_iff hu hb hw)

def createTight : StoreCall := .createBucket calmEnv ⟨"b", .hot, 5, none, "owner"⟩

def tightBucket (used : Int64) : Bucket :=
  { name := "b", storageClass := .hot, quotaBytes := 5, usedBytes := used, createdAt := unix 10, updatedAt := unix 10,
    labels := some ∅, owner := "owner" }

theorem quota_admission_iff_fresh :
    ¬QuotaError ((sampleRun [createTight]).putObject samplePrimitives recordJSON calmStoreEnv
      ⟨"b", "k", [1, 2, 3], .hot, "", none⟩).2 := by
  have hs : Represents samplePrimitives (sampleRun [createTight]).chunkStore 0 :=
    ⟨fun id c hl => (by cases hl), fun id => rfl⟩
  have he := ((quota_admission_iff recordJSON hs (tightBucket 0)).1 calmStoreEnv
    ⟨"b", "k", [1, 2, 3], .hot, "", none⟩ _ rfl rfl ⟨by decide, by decide, by decide, by decide⟩).mpr fun _ => by decide
  exact he.mpr (by decide)

theorem overwrite_refused :
    ((sampleRun [createTight, plainPut "b" "k" [1, 2, 3]]).putObject samplePrimitives recordJSON calmStoreEnv
      ⟨"b", "k", [4, 5, 6], .hot, "", none⟩).2 = .error (.msg "bucket quota exceeded") ∧
    (sampleRun [createTight, plainPut "b" "k" [1, 2, 3]]).metadataStore.getBucket calmEnv.now "b" =
      .ok (tightBucket 3) ∧
    ((sampleRun [createTight, plainPut "b" "k" [1, 2, 3]]).charge (tightBucket 3) "b" "k" 3).Within := by
  decide

end ObjectStore

end Cloudless.Storage
