import Cloudless.Foundations.Runs
import Cloudless.Storage.Types

namespace Cloudless.Storage

open Foundations FiniteMaps GoStd

inductive GzipError
  | header (err : String)
  | body (err : String)

/-- SHA-256 in hexadecimal, taken to be free of collisions, and gzip with its inverse. -/
structure Primitives where
  sha256 : Bytes → String
  sha256_injective : Function.Injective sha256
  gzip : Bytes → Bytes
  gunzip : Bytes → Except GzipError Bytes
  gunzip_gzip : ∀ data, gunzip (gzip data) = .ok data

structure Chunk where
  id : String
  size : Int64
  checksum : String
  createdAt : Time
  refCount : ℤ
  compressed : Bool
  contentHash : String
  deriving DecidableEq

abbrev Path := List String

structure File where
  data : Bytes
  modTime : Time
  deriving DecidableEq

structure ChunkStore where
  enableCompression : Bool
  chunks : FMap String Chunk
  files : FMap Path File
  deriving DecidableEq

/-- How the disk answers a chunk write; a failed write may leave part of the data behind. -/
inductive WriteOutcome
  | done
  | mkdirFails (err : String)
  | writeFails (err : String) (left : Option Bytes)

structure WriteIO where
  outcome : WriteOutcome
  now : Time

def getChunkPath (chunkID : String) : Path :=
  if chunkID.toList.length < 2 then [chunkID] else [String.ofList (chunkID.toList.take 2), chunkID]

def baseName (path : Path) : String := path.getLastD ""

namespace ChunkStore

variable (P : Primitives)

def getChunk (chunkID : String) (cs : ChunkStore) : Option Chunk := cs.chunks.lookup chunkID

def shrinks (data : Bytes) : Bool := decide ((P.gzip data).length < data.length)

def toWrite (enableCompression : Bool) (data : Bytes) : Bytes × Bool :=
  if enableCompression && shrinks P data then (P.gzip data, true) else (data, false)

def writeChunk (io : WriteIO) (data : Bytes) (cs : ChunkStore) : ChunkStore × Except Err Chunk :=
  let checksum := P.sha256 data
  match cs.getChunk checksum with
  | some chunk =>
    let chunk := { chunk with refCount := chunk.refCount + 1 }
    ({ cs with chunks := cs.chunks.insert checksum chunk }, .ok chunk)
  | none =>
    let (dataToWrite, compressed) := toWrite P cs.enableCompression data
    match io.outcome with
    | .mkdirFails err => (cs, .error (.wrap "failed to create chunk directory: " (.msg err)))
    | .writeFails err none => (cs, .error (.wrap "failed to write chunk: " (.msg err)))
    | .writeFails err (some left) =>
      ({ cs with files := cs.files.insert (getChunkPath checksum) ⟨left, io.now⟩ },
        .error (.wrap "failed to write chunk: " (.msg err)))
    | .done =>
      let chunk := ⟨checksum, Int64.ofNat data.length, checksum, io.now, 1, compressed, checksum⟩
      ({ cs with
        chunks := cs.chunks.insert checksum chunk
        files := cs.files.insert (getChunkPath checksum) ⟨dataToWrite, io.now⟩ }, .ok chunk)

def decompress (chunk : Chunk) (data : Bytes) : Except Err Bytes :=
  if chunk.compressed then
    match P.gunzip data with
    | .error (.header err) => .error (.wrap "failed to create gzip reader: " (.msg err))
    | .error (.body err) => .error (.wrap "failed to decompress chunk: " (.msg err))
    | .ok decompressed => .ok decompressed
  else .ok data

def verifyChecksum (chunkID : String) (chunk : Chunk) (data : Bytes) : Except Err Bytes :=
  if P.sha256 data ≠ chunk.checksum then
    .error (.msg ("checksum mismatch for chunk " ++ chunkID ++ ": expected " ++ chunk.checksum ++ ", got " ++
      P.sha256 data))
  else .ok data

def noSuchFile (path : Path) : Err := .msg ("open " ++ "/".intercalate path ++ ": no such file or directory")

def readChunk (chunkID : String) (cs : ChunkStore) : Except Err Bytes :=
  match cs.getChunk chunkID with
  | none => .error (.msg ("chunk not found: " ++ chunkID))
  | some chunk =>
    match cs.files.lookup (getChunkPath chunkID) with
    | none => .error (.wrap "failed to read chunk: " (noSuchFile (getChunkPath chunkID)))
    | some file =>
      match decompress P chunk file.data with
      | .error err => .error err
      | .ok data => verifyChecksum P chunkID chunk data

def deleteChunk (removeErr : Option String) (chunkID : String) (cs : ChunkStore) : ChunkStore × Option Err :=
  match cs.getChunk chunkID with
  | none => (cs, some (.msg ("chunk not found: " ++ chunkID)))
  | some chunk =>
    let chunk := { chunk with refCount := chunk.refCount - 1 }
    if chunk.refCount ≤ 0 then
      match removeErr, cs.files.lookup (getChunkPath chunkID) with
      | some err, some _ =>
        ({ cs with chunks := cs.chunks.insert chunkID chunk },
          some (.wrap "failed to delete chunk file: " (.msg err)))
      | _, _ =>
        ({ cs with chunks := cs.chunks.erase chunkID, files := cs.files.erase (getChunkPath chunkID) }, none)
    else ({ cs with chunks := cs.chunks.insert chunkID chunk }, none)

def getChunkSize (chunkID : String) (cs : ChunkStore) : Except Err Int64 :=
  match cs.getChunk chunkID with
  | none => .error (.msg ("chunk not found: " ++ chunkID))
  | some chunk => .ok chunk.size

def loadChunk (cs : ChunkStore) (p : Path × File) : ChunkStore :=
  let chunkID := baseName p.1
  { cs with
    chunks := cs.chunks.insert chunkID
      ⟨chunkID, Int64.ofNat p.2.data.length, chunkID, p.2.modTime, 1, false, ""⟩ }

def loadChunks (walk : List (Path × File)) (cs : ChunkStore) : ChunkStore := walk.foldl loadChunk cs

def newChunkStore (enableCompression : Bool) (files : FMap Path File) (walk : List (Path × File)) : ChunkStore :=
  loadChunks walk ⟨enableCompression, ∅, files⟩

end ChunkStore

@[simp] lemma baseName_getChunkPath (chunkID : String) : baseName (getChunkPath chunkID) = chunkID := by
  rw [getChunkPath]
  split_ifs <;> rfl

lemma getChunkPath_injective : Function.Injective getChunkPath := by
  intro a b h
  rw [← baseName_getChunkPath a, h, baseName_getChunkPath]

namespace ChunkStore

variable {P : Primitives}

def count (cs : ChunkStore) (id : String) : ℤ := (cs.chunks.lookup id).elim 0 Chunk.refCount

variable (P) in
def Intact (cs : ChunkStore) : Prop :=
  ∀ id c, cs.chunks.lookup id = some c → ∃ data t, P.sha256 data = id ∧ c.id = id ∧ c.checksum = id ∧
    c.size = Int64.ofNat data.length ∧ c.compressed = (toWrite P cs.enableCompression data).2 ∧
    cs.files.lookup (getChunkPath id) = some ⟨(toWrite P cs.enableCompression data).1, t⟩

variable {c : Chunk}

lemma decompress_toWrite {en : Bool} {data : Bytes} (hc : c.compressed = (toWrite P en data).2) :
    decompress P c (toWrite P en data).1 = .ok data := by
  rw [decompress, hc, toWrite]
  cases en && shrinks P data with
  | true => simp [P.gunzip_gzip]
  | false => rfl

variable {cs : ChunkStore} (e : Option String) {data : Bytes}

lemma Intact.lookup (hi : Intact P cs) (hl : cs.chunks.lookup (P.sha256 data) = some c) :
    c.id = P.sha256 data ∧ c.checksum = P.sha256 data ∧ c.size = Int64.ofNat data.length ∧
      c.compressed = (toWrite P cs.enableCompression data).2 ∧
      ∃ t, cs.files.lookup (getChunkPath (P.sha256 data)) = some ⟨(toWrite P cs.enableCompression data).1, t⟩ := by
  obtain ⟨d', t, hs, hid, hc, hz, hcomp, hf⟩ := hi _ c hl
  cases P.sha256_injective hs
  exact ⟨hid, hc, hz, hcomp, t, hf⟩

lemma Intact.readChunk (hi : Intact P cs) (hl : cs.chunks.lookup (P.sha256 data) = some c) :
    cs.readChunk P (P.sha256 data) = .ok data := by
  obtain ⟨-, hc, -, hcomp, t, hf⟩ := hi.lookup hl
  rw [ChunkStore.readChunk, getChunk, hl]
  simp only [hf, decompress_toWrite hcomp]
  rw [verifyChecksum, hc, if_neg (by simp)]

variable {id : String}

lemma lookup_of_count (h : 0 < cs.count id) : ∃ c, cs.chunks.lookup id = some c := by
  rw [count] at h
  cases hl : cs.chunks.lookup id with
  | none =>
    rw [hl] at h
    exact absurd h (lt_irrefl 0)
  | some c => exact ⟨c, rfl⟩

lemma count_insert (cs : ChunkStore) (id j : String) (c : Chunk) :
    ({ cs with chunks := cs.chunks.insert id c } : ChunkStore).count j = if j = id then c.refCount else cs.count j := by
  rw [count, lookup_insert_if]
  split_ifs <;> rfl

lemma Intact.insertRecord (hi : Intact P cs) {t : Time} (hid : c.id = P.sha256 data) (hc : c.checksum = P.sha256 data)
    (hz : c.size = Int64.ofNat data.length) (hcomp : c.compressed = (toWrite P cs.enableCompression data).2)
    (hf : cs.files.lookup (getChunkPath (P.sha256 data)) = some ⟨(toWrite P cs.enableCompression data).1, t⟩) :
    Intact P { cs with chunks := cs.chunks.insert (P.sha256 data) c } := by
  intro id c' hl
  rw [lookup_insert_if] at hl
  split_ifs at hl with hj
  · cases hl
    rw [hj]
    exact ⟨data, t, rfl, hid, hc, hz, hcomp, hf⟩
  · exact hi id c' hl

lemma Intact.insertFile (hi : Intact P cs) (hn : cs.chunks.lookup id = none) {f : File} :
    Intact P { cs with files := cs.files.insert (getChunkPath id) f } := by
  intro j c hl
  have hne : j ≠ id := by
    rintro rfl
    rw [hn] at hl
    cases hl
  obtain ⟨d, t, hs, hid, hc, hz, hcomp, hf⟩ := hi j c hl
  refine ⟨d, t, hs, hid, hc, hz, hcomp, ?_⟩
  rwa [lookup_insert_if, if_neg (fun hh => hne (getChunkPath_injective hh))]

lemma writeChunk_cases (io : WriteIO) (data : Bytes) (hi : Intact P cs) : Intact P (cs.writeChunk P io data).1 ∧
    (cs.writeChunk P io data).1.enableCompression = cs.enableCompression ∧
    ((∃ err, (cs.writeChunk P io data).2 = .error err ∧ (cs.writeChunk P io data).1.chunks = cs.chunks) ∨
      ∃ c, (cs.writeChunk P io data).2 = .ok c ∧ c.id = P.sha256 data ∧
        ∀ j, (cs.writeChunk P io data).1.count j = cs.count j + if j = P.sha256 data then 1 else 0) := by
  rw [writeChunk, getChunk]
  cases hl : cs.chunks.lookup (P.sha256 data) with
  | some c =>
    obtain ⟨hid, hc, hz, hcomp, t, hf⟩ := hi.lookup hl
    refine ⟨hi.insertRecord hid hc hz hcomp hf, rfl, .inr ⟨_, rfl, hid, ?_⟩⟩
    intro j
    simp only
    rw [count_insert]
    split_ifs with hj
    · rw [hj, count, hl]
      rfl
    · omega
  | none =>
    cases io.outcome with
    | mkdirFails err => exact ⟨hi, rfl, .inl ⟨_, rfl, rfl⟩⟩
    | writeFails err l =>
      cases l with
      | none => exact ⟨hi, rfl, .inl ⟨_, rfl, rfl⟩⟩
      | some l => exact ⟨hi.insertFile hl, rfl, .inl ⟨_, rfl, rfl⟩⟩
    | done =>
      refine ⟨(hi.insertFile hl).insertRecord rfl rfl rfl rfl (Finmap.lookup_insert _), rfl,
        .inr ⟨_, rfl, rfl, ?_⟩⟩
      intro j
      have hn : cs.count (P.sha256 data) = 0 := by
        rw [count, hl]
        rfl
      simp only [count, lookup_insert_if]
      split_ifs with hj
      · rw [hj]
        change 1 = cs.count (P.sha256 data) + 1
        rw [hn, zero_add]
      · exact (add_zero _).symm

def unlink (id : String) (cs : ChunkStore) : ChunkStore :=
  { cs with chunks := cs.chunks.erase id, files := cs.files.erase (getChunkPath id) }

def decrement (id : String) (c : Chunk) (cs : ChunkStore) : ChunkStore :=
  { cs with chunks := cs.chunks.insert id { c with refCount := c.refCount - 1 } }

lemma deleteChunk_cases (id : String) (cs : ChunkStore) : cs.chunks.lookup id = none ∧ (cs.deleteChunk e id).1 = cs ∨
    ∃ c, cs.chunks.lookup id = some c ∧ (c.refCount ≤ 1 ∧ (e = none ∨ cs.files.lookup (getChunkPath id) = none) ∧
          (cs.deleteChunk e id).1 = cs.unlink id ∨
        (1 < c.refCount ∨ e ≠ none ∧ cs.files.lookup (getChunkPath id) ≠ none) ∧
          (cs.deleteChunk e id).1 = cs.decrement id c) := by
  rw [deleteChunk, getChunk]
  cases hl : cs.chunks.lookup id with
  | none => exact .inl ⟨rfl, rfl⟩
  | some c =>
    refine .inr ⟨c, rfl, ?_⟩
    by_cases hz : c.refCount - 1 ≤ 0
    · simp only [if_pos hz]
      cases e with
      | none => exact .inl ⟨by omega, .inl rfl, rfl⟩
      | some err =>
        cases hf : cs.files.lookup (getChunkPath id) with
        | none => exact .inl ⟨by omega, .inr rfl, rfl⟩
        | some _ => exact .inr ⟨.inr ⟨by simp, by simp⟩, rfl⟩
    · simp only [if_neg hz]
      exact .inr ⟨.inl (by omega), rfl⟩

lemma Intact.decrement (hi : Intact P cs) (hl : cs.chunks.lookup id = some c) : Intact P (cs.decrement id c) := by
  intro j c' hl'
  rw [ChunkStore.decrement, lookup_insert_if] at hl'
  split_ifs at hl' with hj
  · cases hl'
    rw [hj]
    exact hi id c hl
  · exact hi j c' hl'

lemma Intact.unlink (hi : Intact P cs) (id : String) : Intact P (cs.unlink id) := by
  intro j c hl
  rw [ChunkStore.unlink, lookup_erase_if] at hl
  split_ifs at hl with hj
  obtain ⟨d, u, hs, hid, hc, hz, hcomp, hf⟩ := hi j c hl
  refine ⟨d, u, hs, hid, hc, hz, hcomp, ?_⟩
  rwa [ChunkStore.unlink, lookup_erase_if, if_neg (fun hh => hj (getChunkPath_injective hh))]

lemma Intact.deleteChunk (id : String) (hi : Intact P cs) : Intact P (cs.deleteChunk e id).1 := by
  rcases cs.deleteChunk_cases e id with ⟨-, he⟩ | ⟨c, hl, ⟨-, -, he⟩ | ⟨-, he⟩⟩
  · rwa [he]
  · rw [he]
    exact hi.unlink id
  · rw [he]
    exact hi.decrement hl

lemma count_deleteChunk (h : 0 < cs.count id) (j : String) :
    (cs.deleteChunk e id).1.count j = cs.count j - if j = id then 1 else 0 := by
  obtain ⟨c, hl⟩ := lookup_of_count h
  have hc : cs.count id = c.refCount := by
    rw [count, hl]
    rfl
  rcases cs.deleteChunk_cases e id with ⟨hn, -⟩ | ⟨c', hl', ⟨hz, -, he⟩ | ⟨-, he⟩⟩
  · rw [hl] at hn
    cases hn
  · rw [hl] at hl'
    cases hl'
    rw [he]
    simp only [unlink, count, lookup_erase_if]
    split_ifs with hj
    · rw [hj]
      change 0 = cs.count id - 1
      omega
    · exact (sub_zero _).symm
  · rw [hl] at hl'
    cases hl'
    rw [he, decrement, count_insert]
    split_ifs with hj
    · rw [hj, hc]
    · omega

lemma deleteChunk_enableCompression (id : String) (cs : ChunkStore) :
    (cs.deleteChunk e id).1.enableCompression = cs.enableCompression := by
  rcases cs.deleteChunk_cases e id with ⟨-, he⟩ | ⟨c, hl, ⟨-, -, he⟩ | ⟨-, he⟩⟩ <;> rw [he] <;> rfl

def Labelled (cs : ChunkStore) : Prop := ∀ id c, cs.chunks.lookup id = some c → c.id = id ∧ c.checksum = id

lemma Labelled.insert (hn : Labelled cs) (hc : c.id = id ∧ c.checksum = id)
    (fs : FMap Path File) : Labelled { cs with chunks := cs.chunks.insert id c, files := fs } := by
  intro j c' hl
  rw [lookup_insert_if] at hl
  split_ifs at hl with hj
  · cases hl
    rwa [hj]
  · exact hn j c' hl

lemma labelled_newChunkStore (en : Bool) (fs : FMap Path File) (w : List (Path × File)) :
    Labelled (newChunkStore en fs w) := by
  have hload : ∀ cs, Labelled cs → Labelled (loadChunks w cs) := by
    induction w with
    | nil => exact fun _ hn => hn
    | cons p w ih =>
      intro cs hn
      apply ih
      refine hn.insert ?_ cs.files
      exact ⟨rfl, rfl⟩
  apply hload
  intro id c hl
  cases hl

lemma Labelled.writeChunk (hn : Labelled cs) (io : WriteIO) (data : Bytes) : Labelled (cs.writeChunk P io data).1 ∧
      ∀ c, (cs.writeChunk P io data).2 = .ok c → c.id = P.sha256 data := by
  rw [ChunkStore.writeChunk, getChunk]
  cases hl : cs.chunks.lookup (P.sha256 data) with
  | some c =>
    have hc := hn _ c hl
    refine ⟨?_, ?_⟩
    · refine hn.insert ?_ cs.files
      exact hc
    · intro c' he
      cases he
      exact hc.1
  | none =>
    cases io.outcome with
    | mkdirFails err => exact ⟨hn, fun _ he => by cases he⟩
    | writeFails err l => cases l <;> exact ⟨hn, fun _ he => by cases he⟩
    | done =>
      refine ⟨?_, ?_⟩
      · refine hn.insert ?_ _
        exact ⟨rfl, rfl⟩
      · intro c he
        cases he
        rfl

lemma Labelled.deleteChunk (hn : Labelled cs) (e : Option String) (id : String) :
    Labelled (cs.deleteChunk e id).1 := by
  rcases cs.deleteChunk_cases e id with ⟨-, he⟩ | ⟨c, hl, ⟨-, -, he⟩ | ⟨-, he⟩⟩
  · rwa [he]
  · rw [he]
    intro j c' hl'
    rw [unlink, lookup_erase_if] at hl'
    split_ifs at hl'
    exact hn j c' hl'
  · rw [he]
    refine hn.insert ?_ cs.files
    exact hn id c hl

lemma Labelled.readChunk_eq (hn : Labelled cs) {x : Bytes} (h : cs.readChunk P (P.sha256 data) = .ok x) : x = data := by
  rw [readChunk, getChunk] at h
  cases hl : cs.chunks.lookup (P.sha256 data) with
  | none =>
    rw [hl] at h
    cases h
  | some c =>
    rw [hl] at h
    simp only at h
    cases hf : cs.files.lookup (getChunkPath (P.sha256 data)) with
    | none =>
      rw [hf] at h
      cases h
    | some f =>
      rw [hf] at h
      simp only at h
      cases hd : decompress P c f.data with
      | error err =>
        rw [hd] at h
        cases h
      | ok y =>
        rw [hd] at h
        simp only [verifyChecksum] at h
        split_ifs at h with hs
        cases h
        rw [(hn _ c hl).2] at hs
        exact P.sha256_injective (not_not.mp hs)

end ChunkStore

def rawName (data : Bytes) : String := String.ofList ('x' :: data.map (fun b => Char.ofNat b.toNat))

lemma charOfByte_injective : Function.Injective fun b : UInt8 => Char.ofNat b.toNat := by
  intro c d hcd
  have hv : ∀ e : UInt8, (Char.ofNat e.toNat).toNat = e.toNat := by
    intro e
    have he := e.toNat_lt
    rw [Char.ofNat, dif_pos (.inl (by omega))]
    rfl
  apply UInt8.toNat_inj.mp
  rw [← hv c, ← hv d]
  exact congrArg Char.toNat hcd

def knownDigests : List (Bytes × String) :=
  [([], "e3b0c44298fc1c149afbf4c8996fb92427ae41e4649b934ca495991b7852b855"),
   ([1], "4bf5122f344554c53bde2ebb8cd2b7e3d1600ad631c385a5d7cce23c7785459a"),
   ([2], "dbc1b4c900ffe48d575b5da5c638040125f65db0fe3e24494b76ea986457d986"),
   ([7], "ca358758f6d27e6cf45272937977a748fd88391db679ceda7dc7bf1f005ee879"),
   ([1, 2], "a12871fee210fb8619291eaea194581cbd2531e4b23759d225f6806923f63222"),
   ([1, 2, 7], "618641d29289dc7f0cef90a822db217c7d160730c2becd996492fdbcbcc963d5")]

def digest (data : Bytes) : String := ((knownDigests.find? (fun p => p.1 = data)).map Prod.snd).getD (rawName data)

lemma digest_cases {data : Bytes} : (data, digest data) ∈ knownDigests ∨ digest data = rawName data := by
  rw [digest]
  cases hf : knownDigests.find? (fun p => p.1 = data) with
  | none => exact .inr rfl
  | some p =>
    have hp : p.1 = data := by simpa using List.find?_some hf
    refine .inl ?_
    rw [← hp]
    exact List.mem_of_find?_eq_some hf

lemma digest_injective : Function.Injective digest := by
  have hx : ∀ p ∈ knownDigests, ∀ data, p.2 ≠ rawName data := by
    have hh : ∀ p ∈ knownDigests, p.2.toList.head? ≠ some 'x' := by decide
    intro p hp data he
    exact hh p hp (by rw [he, rawName, String.toList_ofList]; rfl)
  have hu : ∀ p ∈ knownDigests, ∀ q ∈ knownDigests, p.2 = q.2 → p.1 = q.1 := by decide
  intro a b h
  rcases digest_cases with ha | ha <;> rcases digest_cases with hb | hb
  · exact hu _ ha _ hb h
  · exact absurd (h.trans hb) (hx _ ha b)
  · exact absurd (h.symm.trans ha) (hx _ hb a)
  · have hh := String.ofList_injective (ha.symm.trans (h.trans hb))
    rw [List.cons.injEq] at hh
    exact List.map_injective_iff.mpr charOfByte_injective hh.2

def samplePrimitives : Primitives where
  sha256 := digest
  sha256_injective := digest_injective
  gzip := fun data => 0x1f :: 0x8b :: data
  gunzip := fun data => match data with
    | _ :: _ :: rest => .ok rest
    | _ => .error (.header "unexpected EOF")
  gunzip_gzip := fun _ => rfl

end Cloudless.Storage
