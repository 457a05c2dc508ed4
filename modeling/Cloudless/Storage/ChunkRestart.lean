import Cloudless.Storage.ChunkStore

/-! What a restart keeps of the chunk store: records are rebuilt from the file tree alone. -/

namespace Cloudless.Storage

open Foundations FiniteMaps GoStd Runs ChunkStore

inductive ChunkCall
  | write (io : WriteIO) (data : Bytes)
  | delete (removeErr : Option String) (chunkID : String)

structure Tally where
  store : ChunkStore
  refs : String → ℤ

namespace Tally

def step (P : Primitives) (s : Tally) : ChunkCall → Tally
  | .write io data =>
    match s.store.writeChunk P io data with
    | (store, .ok chunk) => ⟨store, Function.update s.refs chunk.id (s.refs chunk.id + 1)⟩
    | (store, .error _) => ⟨store, s.refs⟩
  | .delete removeErr chunkID =>
    match s.store.getChunk chunkID with
    | none => s
    | some _ => ⟨(s.store.deleteChunk removeErr chunkID).1, Function.update s.refs chunkID (s.refs chunkID - 1)⟩

def start (enableCompression : Bool) : Tally := ⟨.newChunkStore enableCompression ∅ [], fun _ => 0⟩

structure Sound (P : Primitives) (enable : Bool) (s : Tally) : Prop where
  intact : s.store.Intact P
  enabled : s.store.enableCompression = enable
  refs : ∀ id, s.refs id ≤ s.store.count id
  paths : ∀ p f, s.store.files.lookup p = some f → p = getChunkPath (baseName p)

variable {P : Primitives} {en : Bool} {s : Tally} {cs : ChunkStore}

lemma paths_writeChunk (io : WriteIO) (d : Bytes)
    (hp : ∀ p f, cs.files.lookup p = some f → p = getChunkPath (baseName p)) :
    ∀ p f, (cs.writeChunk P io d).1.files.lookup p = some f → p = getChunkPath (baseName p) := by
  have hins : ∀ fi p f, (cs.files.insert (getChunkPath (P.sha256 d)) fi).lookup p = some f →
      p = getChunkPath (baseName p) := by
    intro fi p f hl
    rw [lookup_insert_if] at hl
    split_ifs at hl with hj
    · rw [hj, baseName_getChunkPath]
    · exact hp p f hl
  rw [writeChunk]
  cases cs.getChunk (P.sha256 d) with
  | some c => exact hp
  | none =>
    cases io.outcome with
    | mkdirFails err => exact hp
    | writeFails err l =>
      cases l with
      | none => exact hp
      | some l => exact hins _
    | done => exact hins _

lemma paths_deleteChunk {e : Option String} {id : String}
    (hp : ∀ p f, cs.files.lookup p = some f → p = getChunkPath (baseName p)) :
    ∀ p f, (cs.deleteChunk e id).1.files.lookup p = some f → p = getChunkPath (baseName p) := by
  rcases cs.deleteChunk_cases e id with ⟨-, he⟩ | ⟨c, hl, ⟨-, -, he⟩ | ⟨-, he⟩⟩
  · rwa [he]
  · rw [he]
    intro p f hf
    rw [unlink, lookup_erase_if] at hf
    split_ifs at hf
    exact hp p f hf
  · rwa [he]

lemma count_le_deleteChunk (e : Option String) (id : String) (cs : ChunkStore) (j : String) :
    cs.count j - (if j = id then 1 else 0) ≤ (cs.deleteChunk e id).1.count j := by
  rcases cs.deleteChunk_cases e id with ⟨hn, he⟩ | ⟨c, hl, ⟨hz, -, he⟩ | ⟨-, he⟩⟩
  · rw [he]
    split_ifs <;> omega
  · rw [he, unlink, count, count, lookup_erase_if]
    split_ifs with hj
    · rw [hj, hl, Option.elim_none, Option.elim_some]
      omega
    · exact (sub_zero _).le
  · rw [he, decrement, count_insert, count]
    split_ifs with hj
    · rw [hj, hl]
      exact le_rfl
    · exact (sub_zero _).le

lemma Sound.write (hs : Sound P en s) (io : WriteIO) (d : Bytes) : Sound P en (s.step P (.write io d)) := by
  obtain ⟨hi, hen, hc⟩ := writeChunk_cases io d hs.intact
  have hp := paths_writeChunk (P := P) io d hs.paths
  rw [step]
  rcases hc with ⟨err, he, hch⟩ | ⟨c, he, hid, hco⟩
  · rw [← Prod.mk.eta (p := s.store.writeChunk P io d), he]
    refine ⟨hi, hen.trans hs.enabled, ?_, hp⟩
    intro id
    simp only [count, hch]
    exact hs.refs id
  · rw [← Prod.mk.eta (p := s.store.writeChunk P io d), he]
    refine ⟨hi, hen.trans hs.enabled, ?_, hp⟩
    intro id
    have hr := hs.refs id
    have hn := hco id
    simp only [hid]
    by_cases hj : id = P.sha256 d
    · subst hj
      rw [Function.update_self]
      rw [if_pos rfl] at hn
      omega
    · rw [Function.update_of_ne hj]
      rw [if_neg hj] at hn
      omega

lemma Sound.delete (hs : Sound P en s) (e : Option String) (id : String) : Sound P en (s.step P (.delete e id)) := by
  rw [step]
  cases hg : s.store.getChunk id with
  | none => exact hs
  | some c =>
    refine ⟨hs.intact.deleteChunk e id, ?_, ?_, paths_deleteChunk hs.paths⟩
    · rw [deleteChunk_enableCompression, hs.enabled]
    · intro j
      have hr := hs.refs j
      have hn := count_le_deleteChunk e id s.store j
      by_cases hj : j = id
      · subst hj
        rw [if_pos rfl] at hn
        simp only [Function.update_self]
        omega
      · rw [if_neg hj] at hn
        simp only [Function.update_of_ne hj]
        omega

variable (P en) in
lemma sound_start : Sound P en (start en) where
  intact := by
    intro id c hl
    cases hl
  enabled := rfl
  refs := fun id => le_rfl
  paths := by
    intro p f hl
    cases hl

lemma sound_run (ca : List ChunkCall) (hs : Sound P en s) : Sound P en (run (step P) s ca) := by
  refine run_preserves (Sound P en) ca ?_ hs
  intro s c _ hs
  cases c with
  | write io d => exact hs.write io d
  | delete e id => exact hs.delete e id

end Tally

namespace ChunkStore

def reloaded (id : String) (f : File) : Chunk := ⟨id, Int64.ofNat f.data.length, id, f.modTime, 1, false, ""⟩

variable {w : List (Path × File)}

variable (cs : ChunkStore)

lemma files_loadChunks : (cs.loadChunks w).files = cs.files := by
  induction w generalizing cs with
  | nil => rfl
  | cons p w ih => exact ih (cs.loadChunk p)

lemma lookup_newChunkStore (en : Bool) {fs : FMap Path File}
    (he : Enumerates w fs) (hp : ∀ p f, fs.lookup p = some f → p = getChunkPath (baseName p)) (id : String) :
    (newChunkStore en fs w).chunks.lookup id = (fs.lookup (getChunkPath id)).map (reloaded id) := by
  refine run_read (fun cs : ChunkStore => cs.chunks.lookup id)
    (fun p => if id = baseName p.1 then some (reloaded id p.2) else none) w ?_ ?_ ?_
  · rintro cs ⟨p, f⟩ -
    simp only [loadChunk, lookup_insert_if]
    split_ifs with hb
    · rw [hb]
      rfl
    · rfl
  · rintro ⟨p, f⟩ hm
    have hf := he.mem.mp hm
    by_cases hb : id = baseName p
    · refine .inr ?_
      rw [if_pos hb, hb, ← hp p f hf, hf]
      rfl
    · exact .inl (if_neg hb)
  · refine .inr ⟨rfl, ?_⟩
    cases hf : fs.lookup (getChunkPath id) with
    | none => exact .inl rfl
    | some f =>
      refine .inr ⟨(getChunkPath id, f), he.mem.mpr hf, ?_⟩
      rw [baseName_getChunkPath, if_pos rfl]
      rfl

def release (p : String × Option String) : ChunkStore := (cs.deleteChunk p.2 p.1).1

variable {p : String × Option String}

lemma lookup_release_ne {j : String} (h : j ≠ p.1) : (cs.release p).chunks.lookup j = cs.chunks.lookup j ∧
      (cs.release p).files.lookup (getChunkPath j) = cs.files.lookup (getChunkPath j) := by
  have hp : getChunkPath j ≠ getChunkPath p.1 := fun hh => h (getChunkPath_injective hh)
  rw [release]
  rcases cs.deleteChunk_cases p.2 p.1 with ⟨-, he⟩ | ⟨c, hl, ⟨-, -, he⟩ | ⟨-, he⟩⟩
  · rw [he]
    exact ⟨rfl, rfl⟩
  · rw [he, unlink]
    exact ⟨Finmap.lookup_erase_ne h, Finmap.lookup_erase_ne hp⟩
  · rw [he, decrement]
    exact ⟨Finmap.lookup_insert_of_ne _ h, rfl⟩

def Kept (id : String) (f : File) (cs : ChunkStore) : Prop :=
  ∃ c, cs.chunks.lookup id = some c ∧ c.refCount ≤ 1 ∧ c.checksum = id ∧ c.compressed = false ∧
    cs.files.lookup (getChunkPath id) = some f

variable {id : String} {cs} {f : File}

lemma Kept.release (hk : Kept id f cs) (p : String × Option String)
    (hp : p.1 = id → p.2 ≠ none) : Kept id f (cs.release p) := by
  obtain ⟨c, hl, hz, hc, hcomp, hf⟩ := hk
  by_cases hj : id = p.1
  · subst hj
    rw [release]
    rcases cs.deleteChunk_cases p.2 p.1 with ⟨hn, -⟩ | ⟨c', hl', ⟨-, hn | hn, -⟩ | ⟨-, he⟩⟩
    · rw [hl] at hn
      cases hn
    · exact absurd hn (hp rfl)
    · rw [hf] at hn
      cases hn
    · rw [hl] at hl'
      cases hl'
      rw [he]
      refine ⟨_, Finmap.lookup_insert _, ?_, hc, hcomp, hf⟩
      change c.refCount - 1 ≤ 1
      omega
  · obtain ⟨hch, hfi⟩ := cs.lookup_release_ne hj
    exact ⟨c, hch.trans hl, hz, hc, hcomp, hfi.trans hf⟩

lemma gone_release (h : cs.chunks.lookup id = none) : (cs.release p).chunks.lookup id = none := by
  by_cases hj : id = p.1
  · subst hj
    rw [release]
    rcases cs.deleteChunk_cases p.2 p.1 with ⟨-, he⟩ | ⟨c, hl, -⟩
    · rw [he, h]
    · rw [h] at hl
      cases hl
  · exact (cs.lookup_release_ne hj).1.trans h

lemma Kept.gone (hk : Kept id f cs) : (cs.release (id, none)).chunks.lookup id = none := by
  obtain ⟨c, hl, hz, -⟩ := hk
  rw [ChunkStore.release]
  rcases cs.deleteChunk_cases none id with ⟨hn, -⟩ | ⟨c', hl', ⟨-, -, he⟩ | ⟨hn, -⟩⟩
  · rw [hl] at hn
    cases hn
  · rw [he]
    exact Finmap.lookup_erase ..
  · rw [hl] at hl'
    cases hl'
    rcases hn with hn | ⟨hn, -⟩
    · omega
    · exact absurd rfl hn

lemma kept_or_gone {id : String} (post : List (String × Option String)) (hk : Kept id f cs) :
    if (id, none) ∈ post then (run release cs post).chunks.lookup id = none else Kept id f (run release cs post) := by
  induction post generalizing cs with
  | nil => exact hk
  | cons p post ih =>
    rw [run_cons]
    by_cases hp : p = (id, none)
    · subst hp
      rw [if_pos (List.mem_cons_self ..)]
      exact run_preserves (fun cs : ChunkStore => cs.chunks.lookup id = none) post (fun _ _ _ h => gone_release h)
        hk.gone
    · have hr := ih (hk.release p (fun h1 h2 => hp (Prod.ext h1 h2)))
      have hm : (id, none) ∈ p :: post ↔ (id, none) ∈ post := by
        rw [List.mem_cons]
        exact or_iff_right (Ne.symm hp)
      simp only [hm]
      exact hr

end ChunkStore

theorem readable_after_restart_iff (P : Primitives) (enable enable' : Bool) (calls : List ChunkCall)
    (walk : List (Path × File)) (post : List (String × Option String)) (data : Bytes)
    (he : Enumerates walk (run (Tally.step P) (Tally.start enable) calls).store.files)
    (hu : ((post.map Prod.fst).count (P.sha256 data) : ℤ) <
      (run (Tally.step P) (Tally.start enable) calls).refs (P.sha256 data)) :
    (run release (.newChunkStore enable' (run (Tally.step P) (Tally.start enable) calls).store.files walk)
        post).readChunk P (P.sha256 data) = .ok data ↔
      (enable && shrinks P data) = false ∧ (P.sha256 data, none) ∉ post := by
  have hs := Tally.sound_run calls (Tally.sound_start P enable)
  have hpos : 0 < (run (Tally.step P) (Tally.start enable) calls).store.count (P.sha256 data) := by
    have hr := hs.refs (P.sha256 data)
    omega
  obtain ⟨c, hl⟩ := lookup_of_count hpos
  obtain ⟨-, -, -, -, t, hf⟩ := hs.intact.lookup hl
  rw [hs.enabled] at hf
  have hk : ChunkStore.Kept (P.sha256 data) ⟨(toWrite P enable data).1, t⟩
      (.newChunkStore enable' (run (Tally.step P) (Tally.start enable) calls).store.files walk) := by
    have hn := lookup_newChunkStore enable' he hs.paths (P.sha256 data)
    rw [hf] at hn
    refine ⟨_, hn, le_rfl, rfl, rfl, ?_⟩
    rwa [newChunkStore, files_loadChunks]
  have hp := kept_or_gone post hk
  by_cases hm : (P.sha256 data, none) ∈ post
  · rw [if_pos hm] at hp
    rw [readChunk, getChunk, hp]
    simp [hm]
  · rw [if_neg hm] at hp
    obtain ⟨c', hl', -, hc, hcomp, hf'⟩ := hp
    rw [readChunk, getChunk, hl']
    simp only [hf', decompress, hcomp, Bool.false_eq_true, if_false, verifyChecksum, hc,
      toWrite]
    cases hz : enable && shrinks P data with
    | false => simp [hm]
    | true =>
      have hlt : (P.gzip data).length < data.length := by
        rw [Bool.and_eq_true] at hz
        exact of_decide_eq_true hz.2
      have hne : P.sha256 (P.gzip data) ≠ P.sha256 data := by
        intro hh
        rw [P.sha256_injective hh] at hlt
        exact lt_irrefl _ hlt
      simp [hne]

def calmWrite (data : Bytes) : ChunkCall := .write ⟨.done, unix 10⟩ data

def writtenTwice : List ChunkCall := [calmWrite [1], calmWrite [1]]

def soleFile : Path × File := (getChunkPath (digest [1]), ⟨[1], unix 10⟩)

lemma enumerates_soleFile :
    Enumerates [soleFile] (run (Tally.step samplePrimitives) (Tally.start true) writtenTwice).store.files := by
  have he := enumerates_singleton soleFile.1 soleFile.2
  convert he using 1
  decide

theorem readable_after_restart_kept : (run release (.newChunkStore true
        (run (Tally.step samplePrimitives) (Tally.start true) writtenTwice).store.files [soleFile])
        [(digest [2], none)]).readChunk samplePrimitives (digest [1]) = .ok [1] := by
  have hi := readable_after_restart_iff samplePrimitives true true writtenTwice [soleFile] [(digest [2], none)] [1]
    enumerates_soleFile (by decide)
  exact hi.mpr (by decide)

theorem lost_after_restart :
    ∃ walk, Enumerates walk (run (Tally.step samplePrimitives) (Tally.start true) writtenTwice).store.files ∧
      (([(digest [1], none)] : List (String × Option String)).map Prod.fst).count (digest [1]) <
        (run (Tally.step samplePrimitives) (Tally.start true) writtenTwice).refs (digest [1]) ∧
      (run release (.newChunkStore true
        (run (Tally.step samplePrimitives) (Tally.start true) writtenTwice).store.files walk)
        [(digest [1], none)]).readChunk samplePrimitives (digest [1]) ≠ .ok [1] :=
  ⟨[soleFile], enumerates_soleFile, by decide, by decide⟩

end Cloudless.Storage
