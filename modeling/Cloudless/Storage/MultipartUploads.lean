import Cloudless.Storage.ObjectIntegrity

/-! Multipart uploads: the object that a completed upload leaves behind, for any order and repetition of its parts. -/

namespace Cloudless.Storage

open Foundations FiniteMaps GoStd Runs Raft ContentEngine ObjectStore

variable {V : Type} {P : Primitives}

def concatenation (parts : FMap ℤ Bytes) : Bytes :=
  ((parts.keys.sort (· ≤ ·)).map fun n => (parts.lookup n).getD []).flatten

def storedLength (parts : FMap ℤ Bytes) : ℕ := total (fun _ data => data.length) parts

section Concatenation

variable {parts : FMap ℤ Bytes}

lemma sorted_partNumbers {n : ℕ} : (partNumbers n).SortedLE := by
  rw [partNumbers]
  apply List.Pairwise.sortedLE
  rw [List.pairwise_map]
  apply List.pairwise_lt_range.imp
  intro a b h
  omega

section

variable (h : ∀ n ∈ partNumbers (size parts), ∃ d, parts.lookup n = some d)

include h

lemma keys_eq_partNumbers : parts.keys.sort (· ≤ ·) = partNumbers (size parts) := by
  have hs : (partNumbers (size parts)).toFinset ⊆ parts.keys := by
    intro n hn
    obtain ⟨d, hd⟩ := h n (List.mem_toFinset.mp hn)
    exact Finmap.mem_keys.mpr (Finmap.mem_of_lookup_eq_some hd)
  have hcard : parts.keys.card ≤ (partNumbers (size parts)).toFinset.card := by
    rw [List.toFinset_card_of_nodup (nodup_partNumbers _)]
    simp [partNumbers, size]
  rw [← Finset.eq_of_subset_of_card_le hs hcard]
  exact (List.toFinset_sort (· ≤ ·) (nodup_partNumbers _)).mpr sorted_partNumbers.pairwise

lemma joined_eq_concatenation : Archive.joined parts = concatenation parts := by
  rw [concatenation, keys_eq_partNumbers h, Archive.joined]

lemma length_joined : (Archive.joined parts).length = storedLength parts := by
  rw [storedLength, total_eq_sum _ _ (nodup_partNumbers _) h (by simp [partNumbers]), Archive.joined,
    List.length_flatten, List.map_map]
  congr 1
  apply List.map_congr_left
  intro n hn
  obtain ⟨d, hd⟩ := h n hn
  simp [hd]

end

end Concatenation

structure UploadTally (V : Type) where
  ledger : Ledger V
  replaced : String → ℕ := fun _ => 0

def overwritten (a : Archive) (req : UploadPartRequest) : ℕ :=
  (((a.uploads.lookup req.uploadID).bind fun u => u.parts.lookup req.partNumber).map List.length).getD 0

def recount (a : Archive) (replaced : String → ℕ) : StoreCall → String → ℕ
  | .initiateMultipartUpload now req => Function.update replaced (newUploadID now req.key) 0
  | .uploadPart _ req => Function.update replaced req.uploadID (replaced req.uploadID + overwritten a req)
  | _ => replaced

def UploadTally.step [Inhabited V] (P : Primitives) (json : MetadataJSON V) (t : UploadTally V) (c : StoreCall) :
    UploadTally V where
  ledger := t.ledger.step P json c
  replaced := if (t.ledger.store.call P json c).2 then recount t.ledger.archive t.replaced c else t.replaced

def Counted (P : Primitives) (replaced : ℕ) (upload : MultipartUpload) (u : PendingUpload) : Prop :=
  SameUpload P upload u ∧ upload.totalSize = Int64.ofNat (replaced + storedLength u.parts)

def CountedAll (P : Primitives) (v : View) (a : Archive) (replaced : String → ℕ) : Prop :=
  ∀ id, Option.Rel (Counted P (replaced id)) (v.uploads.lookup id) (a.uploads.lookup id)

variable {up : MultipartUpload} {u : PendingUpload}

namespace CountedAll

variable {v : View} {a : Archive} {replaced : String → ℕ}

section

variable (h : CountedAll P v a replaced)

include h

variable {a' : Archive} {v' : View}

lemma congr (hv : v'.uploads = v.uploads) (ha : a'.uploads = a.uploads) : CountedAll P v' a' replaced := by
  intro id
  rw [hv, ha]
  exact h id

lemma insert (id : String) (n : ℕ)
    (hv : v'.uploads = v.uploads.insert id up) (ha : a'.uploads = a.uploads.insert id u)
    (hc : Counted P n up u) : CountedAll P v' a' (Function.update replaced id n) := by
  rw [CountedAll, hv, ha]
  refine rel_insert (fun j hj => ?_) ?_
  · rw [Function.update_of_ne hj]
    exact h j
  · rwa [Function.update_self]

lemma erase (id : String)
    (hv : v'.uploads = v.uploads.erase id) (ha : a'.uploads = a.uploads.erase id) : CountedAll P v' a' replaced := by
  rw [CountedAll, hv, ha]
  exact rel_erase id h

lemma upload {id : String} {upload : MultipartUpload} (hu : v.uploads.lookup id = some upload) :
    ∃ u, a.uploads.lookup id = some u ∧ Counted P (replaced id) upload u :=
  rel_lookup (h id) hu

end

end CountedAll

lemma SameParts.assembled {parts : FMap ℤ UploadPart} {datas : FMap ℤ Bytes} {cs : ChunkStore}
    {held : Multiset String} (h : SameParts P parts datas) (hr : Represents P cs held)
    (hm : ∀ n part, parts.lookup n = some part → ∀ id ∈ part.chunkIDs, id ∈ held) {ids : List String} {buffer : Bytes}
    (ha : Storage.assemble P parts cs (partNumbers (size parts)) = .ok (ids, buffer)) :
    Spells P ids buffer ∧ buffer = concatenation datas ∧ (concatenation datas).length = storedLength datas := by
  obtain ⟨hs, hb⟩ := h.assemble hr hm _ ha
  have hp : ∀ n ∈ partNumbers (size datas), ∃ data, datas.lookup n = some data := by
    intro n hn
    rw [← h.size_eq] at hn
    obtain ⟨part, hpart⟩ := (assemble_ok _ ha).1 n hn
    obtain ⟨data, hd, -⟩ := h.lookup hpart
    exact ⟨data, hd⟩
  refine ⟨hs, ?_, ?_⟩
  · rw [hb, h.size_eq, ← joined_eq_concatenation hp, Archive.joined]
  · rw [← joined_eq_concatenation hp, length_joined hp]

lemma Counted.addPart {n : ℕ} (h : Counted P n up u) {p : UploadPart} {da : Bytes}
    (hsize : p.size = Int64.ofNat da.length) (hs : Spells P p.chunkIDs da) :
    Counted P (n + ((u.parts.lookup p.partNumber).map List.length).getD 0) (addPart p up)
      { u with parts := u.parts.insert p.partNumber da } := by
  obtain ⟨⟨hb, hk, hp⟩, ht⟩ := h
  refine ⟨⟨hb, hk, hp.insert _ hs⟩, ?_⟩
  have hlen := total_insert_add (fun _ (d : Bytes) => d.length) u.parts p.partNumber da
  have ho : (u.parts.lookup p.partNumber).elim 0 (fun d : Bytes => d.length) =
      ((u.parts.lookup p.partNumber).map List.length).getD 0 := by
    cases u.parts.lookup p.partNumber <;> rfl
  rw [ho] at hlen
  rw [ObjectStore.addPart, ht, hsize, ← Int64.ofNat_add]
  simp only [storedLength]
  congr 1
  omega

lemma ofNat_add_eq_iff {a b : ℕ} : Int64.ofNat (a + b) = Int64.ofNat b ↔ 2 ^ 64 ∣ a := by
  rw [← Int64.toBitVec_inj, Int64.toBitVec_ofNat', Int64.toBitVec_ofNat', ← BitVec.toNat_inj, BitVec.toNat_ofNat,
    BitVec.toNat_ofNat]
  omega

namespace UploadTally

variable [Inhabited V] {t : UploadTally V}

structure Sound (P : Primitives) (t : UploadTally V) : Prop where
  accounted : ∃ lost, Accounted P lost t.ledger.store
  counted : CountedAll P t.ledger.store.view t.ledger.archive t.replaced

variable {json : MetadataJSON V} {s : ObjectStore V} {c : StoreCall}

lemma step_refused
    (h : t.ledger.store.call P json c = (s, false)) : t.step P json c = ⟨⟨s, t.ledger.archive⟩, t.replaced⟩ := by
  rw [step, Ledger.step_refused h, h]
  rfl

lemma step_done (h : t.ledger.store.call P json c = (s, true)) :
    t.step P json c = ⟨⟨s, t.ledger.archive.apply c⟩, recount t.ledger.archive t.replaced c⟩ := by
  rw [step, Ledger.step_done h, h]
  rfl

lemma counted_kept (hc : CountedAll P t.ledger.store.view t.ledger.archive t.replaced) {c : StoreCall}
    (s : ObjectStore V) {b : Bool} (he : t.ledger.store.call P json c = (s, b))
    (hv : s.view.uploads = t.ledger.store.view.uploads)
    (ha : (t.ledger.archive.apply c).uploads = t.ledger.archive.uploads)
    (hr : recount t.ledger.archive t.replaced c = t.replaced) :
    CountedAll P (t.step P json c).ledger.store.view (t.step P json c).ledger.archive (t.step P json c).replaced := by
  cases b with
  | false =>
    rw [step_refused he]
    exact hc.congr hv rfl
  | true =>
    rw [step_done he, hr]
    exact hc.congr hv ha

lemma counted_step (hs : Sound P t) {json : MetadataJSON V} :
    CountedAll P (t.step P json c).ledger.store.view (t.step P json c).ledger.archive (t.step P json c).replaced := by
  obtain ⟨⟨l, ha⟩, hc⟩ := hs
  cases c with
  | createBucket env req =>
    exact counted_kept hc _ rfl (congrArg View.uploads (t.ledger.store.createBucket_view json env req).1) rfl rfl
  | deleteBucket env n =>
    exact counted_kept hc _ rfl (congrArg View.uploads (t.ledger.store.deleteBucket_view env n).1) rfl rfl
  | putObject env req =>
    rcases putObject_cases json env req ha with ⟨s, err, he, hv, -⟩ | ⟨s, he, ids, o, -, -, -, hv, -⟩
    · exact counted_kept hc s (by rw [call, he]; rfl) (by rw [hv]) rfl rfl
    · exact counted_kept hc s (by rw [call, he]; rfl) (by rw [hv]; rfl) rfl rfl
  | putObjectStream env req =>
    rcases putObjectStream_cases json env req ha with ⟨s, err, he, hv, -⟩ | ⟨s, he, ids, o, -, -, -, hv, -⟩
    · exact counted_kept hc s (by rw [call, he]; rfl) (by rw [hv]) rfl rfl
    · exact counted_kept hc s (by rw [call, he]; rfl) (by rw [hv]; rfl) rfl rfl
  | getObject now b key =>
    obtain ⟨os, -, hv, -⟩ := t.ledger.store.getObject_touches P now b key
    exact counted_kept hc (t.ledger.store.getObject P now b key).1 rfl (by rw [hv]) rfl rfl
  | deleteObject env b key =>
    rcases t.ledger.store.deleteObject_cases env b key with ⟨s, err, os, he, -, hv, -⟩ | ⟨s, o, he, -, hv, -⟩
    · exact counted_kept hc s (by rw [call, he]; rfl) (by rw [hv]) rfl rfl
    · exact counted_kept hc s (by rw [call, he]; rfl) (by rw [hv]) rfl rfl
  | initiateMultipartUpload now req =>
    rcases t.ledger.store.initiateMultipartUpload_cases now req with ⟨err, he⟩ | he
    · rwa [step_refused (s := t.ledger.store) (by rw [call, he]; rfl)]
    · rw [step_done (by rw [call, he]; rfl)]
      exact hc.insert _ 0 rfl rfl ⟨⟨rfl, rfl, fun _ => .none⟩, rfl⟩
  | uploadPart env req =>
    rcases uploadPart_cases env req ha with
      ⟨s, err, he, hv, -⟩ | ⟨s, r, up, part, he, hu, hn, hsize, hsp, hv, -⟩
    · rw [step_refused (s := s) (by rw [call, he]; rfl)]
      exact hc.congr (congrArg View.uploads hv) rfl
    · rw [step_done (s := s) (by rw [call, he]; rfl)]
      obtain ⟨u, hl, hco⟩ := hc.upload hu
      have hnew := hco.addPart hsize hsp
      rw [hn] at hnew
      refine hc.insert (u := { u with parts := u.parts.insert req.partNumber req.data }) req.uploadID _
        (congrArg View.uploads hv) ?_ ?_
      · simp only [Archive.apply, hl]
      · simpa only [overwritten, hl, Option.bind_some] using hnew
  | completeMultipartUpload env ui =>
    rcases t.ledger.store.completeMultipartUpload_cases json env ui with
      ⟨s, err, he, hv, -⟩ | ⟨s, up, ids, buffer, o, he, hu, -, -, -, -, hv, -⟩
    · rw [step_refused (s := s) (by rw [call, he]; rfl)]
      exact hc.congr (congrArg View.uploads hv) rfl
    · rw [step_done (s := s) (by rw [call, he]; rfl)]
      obtain ⟨u, hl, -⟩ := hc.upload hu
      refine hc.erase ui (congrArg View.uploads hv) ?_
      simp only [Archive.apply, hl]
  | abortMultipartUpload ui =>
    rcases t.ledger.store.abortMultipartUpload_cases ui with ⟨err, he⟩ | ⟨up, -, he⟩
    · rwa [step_refused (s := t.ledger.store) (by rw [call, he]; rfl)]
    · rw [step_done (by rw [call, he]; rfl)]
      exact hc.erase ui rfl rfl
  | deleteNext re ci =>
    refine counted_kept hc _ rfl ?_ rfl rfl
    rw [deleteNext]
    split_ifs <;> rfl

lemma Sound.step (hs : Sound P t) (json : MetadataJSON V) (c : StoreCall) : Sound P (t.step P json c) := by
  refine ⟨?_, counted_step hs⟩
  obtain ⟨l, ha⟩ := hs.accounted
  obtain ⟨m, hm, -⟩ := ha.step json c
  exact ⟨l + m, hm⟩

omit [Inhabited V] in
lemma Sound.complete (hs : Sound P t) (json : MetadataJSON V) {env : Env} {uploadID : String}
    (hok : t.ledger.store.completeMultipartUpload P json env uploadID = (s, .ok ())) (now : Time) :
    ∃ u response, t.ledger.archive.uploads.lookup uploadID = some u ∧
      (s.getObject P now u.bucket u.key).2 = .ok response ∧ response.data = concatenation u.parts ∧
      (response.size = Int64.ofNat (concatenation u.parts).length ↔ 2 ^ 64 ∣ t.replaced uploadID) := by
  obtain ⟨⟨lost, hacc⟩, hc⟩ := hs
  rcases t.ledger.store.completeMultipartUpload_cases json env uploadID with
    ⟨s', err, he, -⟩ | ⟨s', upload, ids, buffer, o, he, hu, ha, hid, hsize, hlead, hv, hcs⟩
  · rw [hok] at he
    cases he
  · rw [hok] at he
    cases he
    obtain ⟨u, hl, ⟨hb, hk, hp⟩, ht⟩ := hc.upload hu
    have hm : ∀ n part, upload.parts.lookup n = some part → ∀ id ∈ part.chunkIDs,
        id ∈ t.ledger.store.view.held + lost :=
      fun n part hn id hid => Multiset.mem_add.mpr (.inl (mem_held_part hu hn hid))
    obtain ⟨hsp, hj, hle⟩ := hp.assembled hacc hm ha
    simp only [Object.identity, Prod.mk.injEq] at hid
    obtain ⟨hob, ho', hids, hsum⟩ := hid
    have ho : s.view.objects.lookup (getObjectKey u.bucket u.key) = some o := by
      rw [hv, View.put, lookup_insert_if, hob, ho', hb, hk, if_pos rfl]
    have hread : retrieveContent P o.chunkIDs s.chunkStore = .ok buffer := by
      rw [hids, hcs]
      refine hacc.retrieveContent hsp ?_
      intro id hidm
      have hrefs : id ∈ partReferences upload := by
        rwa [partReferences_eq ha]
      exact Multiset.mem_add.mpr (.inl (mem_held_upload hu hrefs))
    have hlea : s.view.leads = true := by rw [hv, View.put, hlead]
    obtain ⟨response, hresp, hdata, hr⟩ := getObject_response hlea ho hread hsum.symm now
    refine ⟨u, response, hl, hresp, hdata.trans hj, ?_⟩
    rw [hr, hsize, ht, hle, ofNat_add_eq_iff]

def afterCalls (P : Primitives) (json : MetadataJSON V) (config : StorageConfig) (raftStore : Option (RaftStore V))
    (all : List (String × V)) (calls : List StoreCall) : UploadTally V :=
  run (step P json) { ledger := ⟨fresh json config raftStore all, ∅, ∅⟩ } calls

lemma sound_run (json : MetadataJSON V) (cs : List StoreCall) {t : UploadTally V} (h : t.Sound P) :
    (run (step P json) t cs).Sound P :=
  run_preserves (Sound P) cs (fun _ c _ h => h.step json c) h

end UploadTally

theorem multipart_object_iff [Inhabited V] (P : Primitives) (json : MetadataJSON V) (config : StorageConfig)
    (raftStore : Option (RaftStore V)) (all : List (String × V)) (calls : List StoreCall)
    (hnew : (MetadataStore.newMetadataStore json raftStore all).objects = ∅) (env : Env) (uploadID : String)
    (s : ObjectStore V)
    (hok : (UploadTally.afterCalls P json config raftStore all calls).ledger.store.completeMultipartUpload P json env
      uploadID = (s, .ok ())) (now : Time) : ∃ u response,
      (UploadTally.afterCalls P json config raftStore all calls).ledger.archive.uploads.lookup uploadID = some u ∧
      (s.getObject P now u.bucket u.key).2 = .ok response ∧ response.data = concatenation u.parts ∧
      (response.size = Int64.ofNat (concatenation u.parts).length ↔
        2 ^ 64 ∣ (UploadTally.afterCalls P json config raftStore all calls).replaced uploadID) :=
  (UploadTally.sound_run json calls ⟨⟨0, accounted_fresh P json config raftStore all hnew⟩, fun _ => .none⟩).complete
    json hok now

def sampleUploads (calls : List StoreCall) : UploadTally (Bucket ⊕ Object) :=
  .afterCalls samplePrimitives recordJSON defaultStorageConfig none [] calls

def partOf (n : ℤ) (data : Bytes) : StoreCall := .uploadPart calmStoreEnv ⟨newUploadID 0 "k", n, data⟩

def opened : List StoreCall := [plainCreate "b", .initiateMultipartUpload 0 ⟨"b", "k", .hot, "", none⟩]

def completed (calls : List StoreCall) : ObjectStore (Bucket ⊕ Object) × Except Err Unit :=
  (sampleUploads calls).ledger.store.completeMultipartUpload samplePrimitives recordJSON calmEnv (newUploadID 0 "k")

def twoParts : List StoreCall := opened ++ [partOf 2 [3], partOf 1 [1, 2]]

theorem multipart_object_two_parts :
    (completed twoParts).2 = .ok () ∧ ∃ (u : PendingUpload) (response : GetObjectResponse),
      ((completed twoParts).1.getObject samplePrimitives 0 u.bucket u.key).2 = .ok response ∧
      response.data = concatenation u.parts ∧ response.size = Int64.ofNat (concatenation u.parts).length := by
  have ho : (completed twoParts).2 = .ok () := by decide
  have hz : (sampleUploads twoParts).replaced (newUploadID 0 "k") = 0 := by decide
  have hp : completed twoParts = ((completed twoParts).1, .ok ()) := Prod.ext rfl ho
  obtain ⟨u, response, -, hr, hd, hs⟩ := multipart_object_iff samplePrimitives recordJSON defaultStorageConfig none
    [] twoParts rfl calmEnv (newUploadID 0 "k") (completed twoParts).1 hp 0
  exact ⟨ho, u, response, hr, hd, hs.mpr (hz ▸ dvd_zero _)⟩

theorem replaced_part_still_counted : (completed (opened ++ [partOf 1 [1, 2], partOf 1 [3]])).2 = .ok () ∧
      ((completed (opened ++ [partOf 1 [1, 2], partOf 1 [3]])).1.getObject samplePrimitives 0 "b" "k").2.map
        (fun response => (response.data, response.size)) = .ok ([3], 3) := by
  decide

end Cloudless.Storage
