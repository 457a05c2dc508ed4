import Cloudless.Storage.ChunkReferences

/-! The object store against an archive of byte strings: what a live key gives back. -/

namespace Cloudless.Storage

open Foundations FiniteMaps GoStd Runs Raft ContentEngine ObjectStore

structure PendingUpload where
  (bucket key : String)
  parts : FMap ℤ Bytes

/-- What the object store is for: the bytes last written to every live key, and the parts of open uploads. -/
structure Archive where
  contents : FMap (String × String) Bytes
  uploads : FMap String PendingUpload

namespace Archive

def joined (parts : FMap ℤ Bytes) : Bytes :=
  ((partNumbers (size parts)).map (fun i => (parts.lookup i).getD [])).flatten

def apply (a : Archive) : StoreCall → Archive
  | .putObject _ req => { a with contents := a.contents.insert (req.bucket, req.key) req.data }
  | .putObjectStream _ req => { a with contents := a.contents.insert (req.bucket, req.key) req.reader.data }
  | .deleteObject _ bucket key => { a with contents := a.contents.erase (bucket, key) }
  | .initiateMultipartUpload now req =>
    { a with uploads := a.uploads.insert (newUploadID now req.key) ⟨req.bucket, req.key, ∅⟩ }
  | .uploadPart _ req =>
    match a.uploads.lookup req.uploadID with
    | none => a
    | some u =>
      { a with uploads := a.uploads.insert req.uploadID { u with parts := u.parts.insert req.partNumber req.data } }
  | .completeMultipartUpload _ uploadID =>
    match a.uploads.lookup uploadID with
    | none => a
    | some u =>
      { contents := a.contents.insert (u.bucket, u.key) (joined u.parts)
        uploads := a.uploads.erase uploadID }
  | .abortMultipartUpload uploadID => { a with uploads := a.uploads.erase uploadID }
  | _ => a

end Archive

structure Ledger (V : Type) where
  store : ObjectStore V
  archive : Archive

variable {V : Type} {P : Primitives}

def Ledger.step [Inhabited V] (P : Primitives) (json : MetadataJSON V) (l : Ledger V) (c : StoreCall) : Ledger V :=
  match l.store.call P json c with
  | (store, ok) => ⟨store, if ok then l.archive.apply c else l.archive⟩

def Carries (P : Primitives) (bucket key : String) (data : Bytes) (o : Object) : Prop :=
  ∃ ids, o.identity = (bucket, key, ids, P.sha256 data) ∧ Spells P ids data

def SameParts (P : Primitives) (parts : FMap ℤ UploadPart) (datas : FMap ℤ Bytes) : Prop :=
  ∀ n, Option.Rel (fun part data => Spells P part.chunkIDs data) (parts.lookup n) (datas.lookup n)

def SameUpload (P : Primitives) (upload : MultipartUpload) (u : PendingUpload) : Prop :=
  upload.bucket = u.bucket ∧ upload.key = u.key ∧ SameParts P upload.parts u.parts

structure Matches (P : Primitives) (v : View) (a : Archive) : Prop where
  contents : ∀ bucket key data, a.contents.lookup (bucket, key) = some data → v.leads = true ∧
    ∃ o, v.objects.lookup (getObjectKey bucket key) = some o ∧ Carries P bucket key data o
  uploads : ∀ id, Option.Rel (SameUpload P) (v.uploads.lookup id) (a.uploads.lookup id)

def View.Owned (bucket key : String) (v : View) : Prop :=
  ∀ o, v.objects.lookup (getObjectKey bucket key) = some o → o.bucket = bucket ∧ o.key = key

instance (bucket key : String) (v : View) : Decidable (v.Owned bucket key) :=
  inferInstanceAs (Decidable (∀ o ∈ v.objects.lookup (getObjectKey bucket key), o.bucket = bucket ∧ o.key = key))

namespace Matches

variable {v : View} {a : Archive}

lemma touched (h : Matches P v a) {os : FMap String Object} (ht : Touched v.objects os) :
    Matches P { v with objects := os } a := by
  rcases ht with rfl | ⟨k, o, t, ho, rfl⟩
  · exact h
  · refine ⟨?_, h.uploads⟩
    intro bucket key d hd
    obtain ⟨hl, o', ho', hc⟩ := h.contents bucket key d hd
    refine ⟨hl, ?_⟩
    simp only [lookup_insert_if]
    split_ifs with hk
    · subst hk
      rw [ho] at ho'
      cases ho'
      exact ⟨_, rfl, hc⟩
    · exact ⟨o', ho', hc⟩

variable {bucket key : String}

lemma Owned.unique {b' key' : String} {d : Bytes} {o : Object} (hown : v.Owned bucket key)
    (ho : v.objects.lookup (getObjectKey b' key') = some o) (hc : Carries P b' key' d o)
    (hk : getObjectKey b' key' = getObjectKey bucket key) : (b', key') = (bucket, key) := by
  obtain ⟨ids, hid, -⟩ := hc
  simp only [Object.identity, Prod.mk.injEq] at hid
  obtain ⟨hb, hk', -, -⟩ := hid
  rw [hk] at ho
  obtain ⟨hb', hk''⟩ := hown o ho
  rw [← hb, ← hk', hb', hk'']

lemma put (h : Matches P v a) (ho : v.Owned bucket key) {o : Object} {ids : List String} {d : Bytes}
    (hid : o.identity = (bucket, key, ids, P.sha256 d)) (hs : Spells P ids d) (hl : v.leads = true) :
    Matches P (v.put o) { a with contents := a.contents.insert (bucket, key) d } := by
  have hk : getObjectKey o.bucket o.key = getObjectKey bucket key := by
    simp only [Object.identity, Prod.mk.injEq] at hid
    rw [hid.1, hid.2.1]
  refine ⟨?_, h.uploads⟩
  intro b' key' d' hd
  refine ⟨hl, ?_⟩
  simp only [lookup_insert_if] at hd
  simp only [View.put, hk, lookup_insert_if]
  split_ifs at hd with hp
  · cases hd
    rw [Prod.mk.injEq] at hp
    rw [hp.1, hp.2, if_pos rfl]
    exact ⟨o, rfl, ids, hid, hs⟩
  · obtain ⟨-, o', ho', hc⟩ := h.contents b' key' d' hd
    rw [if_neg (fun he => hp (Owned.unique ho ho' hc he))]
    exact ⟨o', ho', hc⟩

lemma delete (h : Matches P v a) (hown : v.Owned bucket key) (d : Multiset String) :
    Matches P { v with objects := v.objects.erase (getObjectKey bucket key), deleting := d }
      { a with contents := a.contents.erase (bucket, key) } := by
  refine ⟨?_, h.uploads⟩
  intro b' key' da hd
  rw [lookup_erase_if] at hd
  split_ifs at hd with hp
  obtain ⟨hl, o, ho, hc⟩ := h.contents b' key' da hd
  refine ⟨hl, o, ?_, hc⟩
  rwa [lookup_erase_if, if_neg (fun he => hp (Owned.unique hown ho hc he))]

lemma insertUpload (h : Matches P v a) (id : String) {upload : MultipartUpload} {u : PendingUpload}
    (hu : SameUpload P upload u) :
    Matches P { v with uploads := v.uploads.insert id upload } { a with uploads := a.uploads.insert id u } :=
  ⟨h.contents, rel_insert (fun j _ => h.uploads j) hu⟩

lemma eraseUpload (h : Matches P v a) (id : String) :
    Matches P { v with uploads := v.uploads.erase id } { a with uploads := a.uploads.erase id } :=
  ⟨h.contents, rel_erase id h.uploads⟩

lemma upload (h : Matches P v a) {id : String} {upload : MultipartUpload} (hl : v.uploads.lookup id = some upload) :
    ∃ u, a.uploads.lookup id = some u ∧ SameUpload P upload u :=
  rel_lookup (h.uploads id) hl

end Matches

variable {parts : FMap ℤ UploadPart} {datas : FMap ℤ Bytes} {part : UploadPart}

lemma SameParts.lookup (h : SameParts P parts datas) {n : ℤ} (hl : parts.lookup n = some part) :
    ∃ data, datas.lookup n = some data ∧ Spells P part.chunkIDs data := by
  obtain ⟨data, hd, hs⟩ := rel_lookup (h n) hl
  exact ⟨data, hd, hs⟩

lemma SameParts.size_eq (h : SameParts P parts datas) : size parts = size datas := by
  apply Foundations.FiniteMaps.size_eq
  intro n
  have hr := h n
  generalize parts.lookup n = x, datas.lookup n = y at hr
  cases hr with
  | some | none => rfl

lemma SameParts.insert (h : SameParts P parts datas) (n : ℤ) {d : Bytes} (hs : Spells P part.chunkIDs d) :
    SameParts P (parts.insert n part) (datas.insert n d) :=
  rel_insert (fun j _ => h j) hs

lemma SameParts.assemble {cs : ChunkStore} {held : Multiset String}
    (h : SameParts P parts datas) (hr : Represents P cs held)
    (hm : ∀ n part, parts.lookup n = some part → ∀ id ∈ part.chunkIDs, id ∈ held) (l : List ℤ) {ids : List String}
    {b : Bytes} (ha : assemble P parts cs l = .ok (ids, b)) :
    Spells P ids b ∧ b = (l.map (fun i => (datas.lookup i).getD [])).flatten := by
  induction l generalizing ids b with
  | nil =>
    cases ha
    exact ⟨spells_nil, rfl⟩
  | cons i l ih =>
    rw [Storage.assemble] at ha
    cases hp : parts.lookup i with
    | none => simp [hp] at ha
    | some part =>
      obtain ⟨data, hd, hs⟩ := h.lookup hp
      have hread := hr.retrieveContent hs (hm i part hp)
      simp only [hp, hread] at ha
      cases hrest : Storage.assemble P parts cs l with
      | error err => simp [hrest] at ha
      | ok p =>
        obtain ⟨ids', b'⟩ := p
        obtain ⟨hs', hb⟩ := ih hrest
        rw [hrest] at ha
        cases ha
        refine ⟨hs.append hs', ?_⟩
        rw [List.map_cons, List.flatten_cons, hd, Option.getD_some, hb]

variable {v : View} {upload : MultipartUpload}

lemma mem_held_upload {id : String} (hu : v.uploads.lookup id = some upload)
    {c : String} (hc : c ∈ partReferences upload) : c ∈ v.held := by
  rw [View.held, View.references, total_of_lookup (fun _ u => partReferences u) _ hu]
  simp only [Multiset.mem_add]
  exact .inl (.inr (.inl hc))

lemma mem_held_part {id : String} (hu : v.uploads.lookup id = some upload)
    {n : ℤ} (hp : upload.parts.lookup n = some part) {c : String} (hc : c ∈ part.chunkIDs) : c ∈ v.held := by
  apply mem_held_upload hu
  rw [partReferences, total_of_lookup _ _ hp]
  exact Multiset.mem_add.mpr (.inl hc)

lemma mem_held_object {k : String} {o : Object} (ho : v.objects.lookup k = some o) {c : String}
    (hc : c ∈ o.chunkIDs) : c ∈ v.held := by
  rw [View.held, View.references, total_of_lookup (fun _ (o : Object) => (o.chunkIDs : Multiset String)) _ ho]
  simp only [Multiset.mem_add]
  exact .inl (.inl (.inl hc))

lemma Matches.uploadPart {a : Archive} (h : Matches P v a) {env : StoreEnv} {req : UploadPartRequest}
    (hu : v.uploads.lookup req.uploadID = some upload)
    (hn : part.partNumber = req.partNumber) (hs : Spells P part.chunkIDs req.data) :
    Matches P { v with uploads := v.uploads.insert req.uploadID (addPart part upload) } (a.apply (.uploadPart env req)) := by
  obtain ⟨u, hl, hb, hk, hp⟩ := h.upload hu
  simp only [Archive.apply, hl]
  refine h.insertUpload _ ⟨hb, hk, ?_⟩
  rw [← hn]
  exact hp.insert _ hs

lemma Matches.completeMultipartUpload {a : Archive} (h : Matches P v a) {cs : ChunkStore}
    {lost : Multiset String} (hr : Represents P cs (v.held + lost)) {env : Env} {ui : String}
    (ho : v.Owned upload.bucket upload.key) (hu : v.uploads.lookup ui = some upload) {ids : List String} {b : Bytes}
    (ha : assemble P upload.parts cs (partNumbers (size upload.parts)) = .ok (ids, b)) {o : Object}
    (hid : o.identity = (upload.bucket, upload.key, ids, P.sha256 b)) (hlead : v.leads = true) :
    Matches P { v.put o with uploads := v.uploads.erase ui } (a.apply (.completeMultipartUpload env ui)) := by
  obtain ⟨u, hl, hb, hk, hp⟩ := h.upload hu
  have hm : ∀ n part, upload.parts.lookup n = some part → ∀ id ∈ part.chunkIDs, id ∈ v.held + lost :=
    fun n part hl id hid => Multiset.mem_add.mpr (.inl (mem_held_part hu hl hid))
  obtain ⟨hs, hbuf⟩ := hp.assemble hr hm _ ha
  rw [hp.size_eq] at hbuf
  rw [hb, hk] at ho hid
  simp only [Archive.apply, hl]
  rw [Archive.joined, ← hbuf]
  exact (h.put ho hid hs hlead).eraseUpload ui

namespace ObjectStore

/-- The records under the composite keys the call writes or deletes belong to the names it was given. -/
def Unambiguous (s : ObjectStore V) : StoreCall → Prop
  | .putObject _ req => s.view.Owned req.bucket req.key
  | .putObjectStream _ req => s.view.Owned req.bucket req.key
  | .deleteObject _ bucket key => s.view.Owned bucket key
  | .completeMultipartUpload _ uploadID =>
    ∀ upload, s.multipartUploads.lookup uploadID = some upload → s.view.Owned upload.bucket upload.key
  | _ => True

end ObjectStore

namespace Ledger

structure Sound (P : Primitives) (l : Ledger V) : Prop where
  accounted : ∃ lost, Accounted P lost l.store
  archived : Matches P l.store.view l.archive

variable {l : Ledger V}

lemma Sound.getObject (hs : Sound P l) {bucket key : String} {data : Bytes}
    (hl : l.archive.contents.lookup (bucket, key) = some data) (now : Time) :
    ∃ r, (l.store.getObject P now bucket key).2 = .ok r ∧ r.data = data := by
  obtain ⟨⟨lost, ha⟩, hm⟩ := hs
  obtain ⟨hlead, o, ho, ids, hid, hsp⟩ := hm.contents bucket key data hl
  simp only [Object.identity, Prod.mk.injEq] at hid
  obtain ⟨-, -, hids, hsum⟩ := hid
  have hmem : ∀ id ∈ o.chunkIDs, id ∈ l.store.view.held + lost :=
    fun id hid => Multiset.mem_add.mpr (.inl (mem_held_object ho hid))
  rw [← hids] at hsp
  obtain ⟨r, hr, hdata, -⟩ := getObject_response hlead ho (ha.retrieveContent hsp hmem) hsum.symm now
  exact ⟨r, hr, hdata⟩

variable [Inhabited V] {c : StoreCall}

lemma step_refused {j : MetadataJSON V} {s : ObjectStore V}
    (h : l.store.call P j c = (s, false)) : l.step P j c = ⟨s, l.archive⟩ := by
  rw [step, h]
  rfl

lemma step_done {j : MetadataJSON V} {s : ObjectStore V}
    (h : l.store.call P j c = (s, true)) : l.step P j c = ⟨s, l.archive.apply c⟩ := by
  rw [step, h]
  rfl

lemma archived_step (hs : Sound P l) {j : MetadataJSON V} (hc : l.store.Unambiguous c) :
    Matches P (l.step P j c).store.view (l.step P j c).archive := by
  obtain ⟨⟨lo, hacc⟩, hm⟩ := hs
  cases c with
  | createBucket env req =>
    have hv := (l.store.createBucket_view j env req).1
    change Matches P (l.store.createBucket j env req).1.view (if _ then l.archive else l.archive)
    rwa [ite_self, hv]
  | deleteBucket env na =>
    have hv := (l.store.deleteBucket_view env na).1
    change Matches P (l.store.deleteBucket env na).1.view (if _ then l.archive else l.archive)
    rwa [ite_self, hv]
  | putObject env req =>
    rcases putObject_cases j env req hacc with ⟨s, err, he, hv, -⟩ | ⟨s, he, ids, o, hid, hsp, hl, hv, -⟩
    · rw [step_refused (s := s) (by rw [call, he]; rfl)]
      simp only [hv]
      exact hm
    · rw [step_done (s := s) (by rw [call, he]; rfl)]
      simp only [hv]
      exact hm.put hc hid hsp hl
  | putObjectStream env req =>
    rcases putObjectStream_cases j env req hacc with ⟨s, err, he, hv, -⟩ | ⟨s, he, ids, o, hid, hsp, hl, hv, -⟩
    · rw [step_refused (s := s) (by rw [call, he]; rfl)]
      simp only [hv]
      exact hm
    · rw [step_done (s := s) (by rw [call, he]; rfl)]
      simp only [hv]
      exact hm.put hc hid hsp hl
  | getObject now bucket key =>
    obtain ⟨os, ht, hv, -⟩ := l.store.getObject_touches P now bucket key
    change Matches P (l.store.getObject P now bucket key).1.view (if _ then l.archive else l.archive)
    rw [ite_self, hv]
    exact hm.touched ht
  | deleteObject env bucket key =>
    rcases l.store.deleteObject_cases env bucket key with ⟨s, err, os, he, ht, hv, -⟩ | ⟨s, o, he, -, hv, -⟩
    · rw [step_refused (s := s) (by rw [call, he]; rfl)]
      simp only [hv]
      exact hm.touched ht
    · rw [step_done (s := s) (by rw [call, he]; rfl)]
      simp only [hv]
      exact hm.delete hc _
  | initiateMultipartUpload now req =>
    rcases l.store.initiateMultipartUpload_cases now req with ⟨err, he⟩ | he
    · rwa [step_refused (s := l.store) (by rw [call, he]; rfl)]
    · rw [step_done (by rw [call, he]; rfl)]
      exact hm.insertUpload _ ⟨rfl, rfl, fun n => .none⟩
  | uploadPart env req =>
    rcases uploadPart_cases env req hacc with ⟨s, err, he, hv, -⟩ | ⟨s, r, upload, part, he, hu, hn, -, hsp, hv, -⟩
    · rw [step_refused (s := s) (by rw [call, he]; rfl)]
      simp only [hv]
      exact hm
    · rw [step_done (s := s) (by rw [call, he]; rfl)]
      simp only [hv]
      exact hm.uploadPart hu hn hsp
  | completeMultipartUpload env ui =>
    rcases l.store.completeMultipartUpload_cases j env ui with
      ⟨s, err, he, hv, -⟩ | ⟨s, upload, ids, buffer, o, he, hu, ha, hid, -, hl, hv, -⟩
    · rw [step_refused (s := s) (by rw [call, he]; rfl)]
      simp only [hv]
      exact hm
    · rw [step_done (s := s) (by rw [call, he]; rfl)]
      simp only [hv]
      exact hm.completeMultipartUpload hacc (hc upload hu) hu ha hid hl
  | abortMultipartUpload ui =>
    rcases l.store.abortMultipartUpload_cases ui with ⟨err, he⟩ | ⟨upload, hu, he⟩
    · rwa [step_refused (s := l.store) (by rw [call, he]; rfl)]
    · rw [step_done (by rw [call, he]; rfl)]
      have h' := hm.eraseUpload ui
      exact ⟨h'.contents, h'.uploads⟩
  | deleteNext re ci =>
    change Matches P (l.store.deleteNext re ci).view l.archive
    rw [deleteNext]
    split_ifs
    · exact ⟨hm.contents, hm.uploads⟩
    · exact hm

lemma Sound.step (hs : Sound P l) (j : MetadataJSON V) (hc : l.store.Unambiguous c) : Sound P (l.step P j c) := by
  refine ⟨?_, archived_step hs hc⟩
  obtain ⟨lo, ha⟩ := hs.accounted
  obtain ⟨m, hm, -⟩ := ha.step j c
  exact ⟨lo + m, hm⟩

end Ledger

theorem live_objects_read_back [Inhabited V] (P : Primitives) (json : MetadataJSON V) (config : StorageConfig)
    (raftStore : Option (RaftStore V)) (all : List (String × V)) (calls : List StoreCall)
    (hnew : (MetadataStore.newMetadataStore json raftStore all).objects = ∅)
    (ha : Admissible (Ledger.step P json) (fun l c => l.store.Unambiguous c)
      ⟨fresh json config raftStore all, ∅, ∅⟩ calls) (bucket key : String) (data : Bytes)
    (hl : (run (Ledger.step P json) ⟨fresh json config raftStore all, ∅, ∅⟩ calls).archive.contents.lookup
      (bucket, key) = some data) (now : Time) :
    ∃ response, ((run (Ledger.step P json) ⟨fresh json config raftStore all, ∅, ∅⟩ calls).store.getObject P now
      bucket key).2 = .ok response ∧ response.data = data := by
  have hs : Ledger.Sound P (run (Ledger.step P json) ⟨fresh json config raftStore all, ∅, ∅⟩ calls) := by
    refine run_invariant (Ledger.Sound P) (fun l c hs hc => hs.step json hc) calls ⟨?_, ?_⟩ ha
    · exact ⟨0, accounted_fresh P json config raftStore all hnew⟩
    · refine ⟨?_, fun id => .none⟩
      intro bucket key data hd
      cases hd
  exact hs.getObject hl now

def sampleLedger : Ledger (Bucket ⊕ Object) := ⟨sampleStore, ∅, ∅⟩

def rewriting : List StoreCall :=
  [plainCreate "b", plainPut "b" "j" [1], plainPut "b" "k" [1], plainPut "b" "j" [2], .deleteObject calmEnv "b" "j",
    .deleteNext none (digest [2])]

theorem live_objects_read_back_shared :
    ∃ response, ((run (Ledger.step samplePrimitives recordJSON) sampleLedger rewriting).store.getObject samplePrimitives
      (unix 20) "b" "k").2 = .ok response ∧ response.data = [1] := by
  refine live_objects_read_back samplePrimitives recordJSON defaultStorageConfig none [] rewriting rfl ?_ "b" "k" [1]
    ?_ (unix 20)
  · refine ⟨trivial, ?_, ?_, ?_, ?_, trivial, trivial⟩
    · change View.Owned _ _ _
      decide
    · change View.Owned _ _ _
      decide
    · change View.Owned _ _ _
      decide
    · change View.Owned _ _ _
      decide
  · decide

def colliding : List StoreCall :=
  [plainCreate "a", plainCreate "a:b", plainPut "a" "b:c" [1], plainPut "a:b" "c" [2]]

theorem other_object_read_back :
    (run (Ledger.step samplePrimitives recordJSON) sampleLedger colliding).archive.contents.lookup ("a", "b:c") =
        some [1] ∧
      ((run (Ledger.step samplePrimitives recordJSON) sampleLedger colliding).store.getObject samplePrimitives
        (unix 20) "a" "b:c").2.map GetObjectResponse.data = .ok [2] := by
  decide

end Cloudless.Storage
