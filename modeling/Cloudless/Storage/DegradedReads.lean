import Cloudless.Storage.ErasureCoding

/-! The content that erasure coding stores, read back from the shards that are left of it. -/

namespace Cloudless.Storage

open Foundations FiniteMaps GoStd ContentEngine

def Loses (m : ℤ) (shards : List Bytes) (available : List (Option Bytes)) : Prop :=
  List.Forall₂ (fun shard found => found = none ∨ found = some shard) shards available ∧
    (available.countP Option.isNone : ℤ) ≤ m

/-- What the library promises for the sizes it accepts: it encodes shards of one size without changing the data
shards, and makes up for as many missing shards as there are parity shards. -/
structure Reconstruction (rs : ReedSolomon) where
  reconstruct : ℤ → ℤ → List (Option Bytes) → Except String (List (Option Bytes))
  encode_ok : ∀ {k m shards size}, rs.new k m = none → (shards.length : ℤ) = k + m →
    (∀ shard ∈ shards, shard.length = size) → 0 < size →
    ∃ out, rs.encode k m shards = .ok out ∧ out.take k.toNat = shards.take k.toNat
  reconstruct_encode : ∀ {k m shards out available}, rs.new k m = none → rs.encode k m shards = .ok out →
    Loses m out available → reconstruct k m available = .ok (out.map some)

variable {P : Primitives} {rs : ReedSolomon} (R : Reconstruction rs)

def assembleShards : ℕ → List (Option Bytes) → Except Err Bytes
  | _, [] => .ok []
  | i, none :: _ => .error (.msg ("data shard " ++ toString i ++ " is still nil after reconstruction"))
  | i, some shard :: shards => (assembleShards (i + 1) shards).map (shard ++ ·)

namespace ErasureEncoder

variable (e : ErasureEncoder)

def insufficient (availableCount : ℕ) : Err :=
  .msg ("insufficient shards for reconstruction: have " ++ toString availableCount ++ ", need " ++
    toString e.config.dataShards)

def decode (shards : List (Option Bytes)) (originalSize : ℤ) : Except Err Bytes :=
  let availableCount := shards.countP Option.isSome
  if (shards.length : ℤ) ≠ e.config.dataShards + e.config.parityShards then
    .error (.msg ("expected " ++ toString (e.config.dataShards + e.config.parityShards) ++ " shards, got " ++
      toString shards.length))
  else if (availableCount : ℤ) < e.config.dataShards then .error (e.insufficient availableCount)
  else
    match R.reconstruct e.config.dataShards e.config.parityShards shards with
    | .error err => .error (.wrap "failed to reconstruct shards: " (.msg err))
    | .ok shards =>
      (assembleShards 0 (shards.take e.config.dataShards.toNat)).map fun result =>
        if 0 < originalSize ∧ originalSize ≤ result.length then result.take originalSize.toNat else result

end ErasureEncoder

namespace ContentEngine

end ContentEngine

variable {ss : List Bytes}

lemma assembleShards_map_some {i : ℕ} : assembleShards i (ss.map some) = .ok ss.flatten := by
  induction ss generalizing i with
  | nil => rfl
  | cons s ss ih =>
    rw [List.map_cons, assembleShards, ih]
    rfl

variable {a : List (Option Bytes)} {m : ℤ}

lemma Loses.length_eq (h : Loses m ss a) : a.length = ss.length := h.1.length_eq.symm

namespace ErasureEncoder

variable {e : ErasureEncoder} {data : Bytes}

lemma flatten_dataShards {data : Bytes} {k s : ℕ} :
    ((List.range k).map (dataShard data s)).flatten = (List.range (k * s)).map fun i => data.getD i 0 := by
  induction k with
  | zero => simp
  | succ k ih =>
    rw [List.range_succ, List.map_append, List.flatten_append, ih, Nat.succ_mul, List.range_add, List.map_append]
    simp [dataShard]

lemma take_flatten (e : ErasureEncoder) (data : Bytes) :
    ((e.emptyCode data).take e.config.dataShards.toNat).flatten.take data.length = data ∧
      data.length ≤ ((e.emptyCode data).take e.config.dataShards.toNat).flatten.length := by
  have hl := e.length_le data
  have ht : (e.emptyCode data).take e.config.dataShards.toNat =
      (List.range e.config.dataShards.toNat).map (dataShard data (e.getShardSize data.length)) := by
    rw [emptyCode, List.take_append_of_le_length (by simp), List.take_of_length_le (by simp)]
  rw [ht, flatten_dataShards]
  refine ⟨?_, by simpa using hl⟩
  apply List.ext_getElem
  · simpa using hl
  · intro i hi hi'
    simp [hi']

lemma encode_eq_ok (R : Reconstruction rs) (hco : rs.new e.config.dataShards e.config.parityShards = none) (hd : data ≠ []) :
    ∃ out, e.encode rs data = .ok out ∧ rs.encode e.config.dataShards e.config.parityShards (e.emptyCode data) = .ok out ∧
      out.take e.config.dataShards.toNat = (e.emptyCode data).take e.config.dataShards.toNat ∧
      (out.length : ℤ) = e.config.dataShards + e.config.parityShards := by
  have hl : ((e.emptyCode data).length : ℤ) = e.config.dataShards + e.config.parityShards := by
    have h2 := e.two_le
    have h1 := e.one_le
    simp [emptyCode]
    omega
  have hs : ∀ shard ∈ e.emptyCode data, shard.length = e.getShardSize data.length := by
    intro shard hm
    simp only [emptyCode, List.mem_append, List.mem_map, List.mem_replicate] at hm
    rcases hm with ⟨i, -, rfl⟩ | ⟨-, rfl⟩ <;> simp [dataShard]
  have hpos : 0 < e.getShardSize data.length := Nat.pos_of_ne_zero fun hz => by
    have hlt := e.length_lt hd
    rw [hz, Nat.mul_zero] at hlt
    omega
  obtain ⟨out, ho, ht⟩ := R.encode_ok hco hl hs hpos
  refine ⟨out, by rw [encode, if_neg hd, ho], ho, ht, ?_⟩
  rw [← hl, ← List.length_map, rs.encode_lengths ho, List.length_map]

lemma length_eq_countP (a : List (Option Bytes)) :
    a.length = a.countP Option.isSome + a.countP Option.isNone := by
  have hnone : (fun f : Option Bytes => decide ¬f.isSome = true) = Option.isNone := by
    funext f
    cases f <;> rfl
  rw [← hnone]
  exact List.length_eq_countP_add_countP Option.isSome

lemma countP_isSome {out : List Bytes} (h : Loses m out a)
    {k : ℤ} (hl : (out.length : ℤ) = k + m) : k ≤ a.countP Option.isSome := by
  have hs := length_eq_countP a
  have hlost := h.2
  have hsame := h.length_eq
  omega

lemma decode_encode (hco : rs.new e.config.dataShards e.config.parityShards = none) (hd : data ≠ []) :
    ∃ out, e.encode rs data = .ok out ∧ (out.length : ℤ) = e.config.dataShards + e.config.parityShards ∧
      ∀ a, Loses e.config.parityShards out a → e.decode R a data.length = .ok data := by
  obtain ⟨out, ho, hr, ht, hl⟩ := encode_eq_ok R hco hd
  refine ⟨out, ho, hl, fun a hlo => ?_⟩
  have hs := countP_isSome hlo hl
  have hsame : (a.length : ℤ) = e.config.dataShards + e.config.parityShards := by rw [hlo.length_eq, hl]
  obtain ⟨htrim, hle⟩ := e.take_flatten data
  have hpos := List.length_pos_of_ne_nil hd
  simp only [decode, hsame, ne_eq, not_true_eq_false, if_false, not_lt.mpr hs,
    R.reconstruct_encode hco hr hlo, ← List.map_take, assembleShards_map_some, ht]
  simp only [Except.map]
  rw [if_pos ⟨by omega, by exact_mod_cast hle⟩, Int.toNat_natCast, htrim]

end ErasureEncoder

variable {e : ErasureEncoder}

section Deleted

variable {cs cs' : ChunkStore}

namespace ChunkStore

/-- The chunk has a record with which it cannot be read. -/
def stale (P : Primitives) (cs : ChunkStore) (id : String) : Bool :=
  (cs.chunks.lookup id).isSome && (cs.readChunk P id).toOption.isNone

lemma readChunk_congr {id : String} {c c' : Chunk} (hl : cs.chunks.lookup id = some c)
    (hl' : cs'.chunks.lookup id = some c') (hc : c'.compressed = c.compressed) (hs : c'.checksum = c.checksum)
    (hf : cs'.files.lookup (getChunkPath id) = cs.files.lookup (getChunkPath id)) :
    cs'.readChunk P id = cs.readChunk P id := by
  rw [readChunk, readChunk, getChunk, getChunk, hl, hl', hf]
  simp only [decompress, verifyChecksum, hc, hs]

/-- What the second store has a record of can be read, unless the record was stale in the first. -/
def Follows (P : Primitives) (cs cs' : ChunkStore) : Prop :=
  ∀ data c, cs'.chunks.lookup (P.sha256 data) = some c →
    ((cs'.readChunk P (P.sha256 data)).toOption = none ↔ cs.stale P (P.sha256 data) = true)

variable {cs₀ : ChunkStore}

lemma Follows.update (h : Follows P cs₀ cs) (hu : ∀ data c', cs'.chunks.lookup (P.sha256 data) = some c' →
    (∃ c, cs.chunks.lookup (P.sha256 data) = some c ∧ c'.compressed = c.compressed ∧ c'.checksum = c.checksum ∧
      cs'.files.lookup (getChunkPath (P.sha256 data)) = cs.files.lookup (getChunkPath (P.sha256 data))) ∨
    cs₀.chunks.lookup (P.sha256 data) = none ∧ cs'.readChunk P (P.sha256 data) = .ok data) : Follows P cs₀ cs' := by
  intro data c' hl'
  rcases hu data c' hl' with ⟨c, hl, hc, hs, hf⟩ | ⟨hn, hr⟩
  · rw [readChunk_congr hl hl' hc hs hf]
    exact h data c hl
  · simp [stale, hn, hr, Except.toOption]

lemma Follows.deleteChunk (h : Follows P cs₀ cs) (e : Option String) (id : String) :
    Follows P cs₀ (cs.deleteChunk e id).1 := by
  rcases cs.deleteChunk_cases e id with ⟨-, he⟩ | ⟨c, hl, ⟨-, -, he⟩ | ⟨-, he⟩⟩
  · rwa [he]
  · rw [he]
    refine h.update fun data c' hl' => .inl ?_
    rw [unlink, lookup_erase_if] at hl'
    split_ifs at hl' with hd
    refine ⟨c', hl', rfl, rfl, Finmap.lookup_erase_ne fun hp => hd (getChunkPath_injective hp)⟩
  · rw [he]
    refine h.update fun data c' hl' => .inl ?_
    rw [decrement, lookup_insert_if] at hl'
    split_ifs at hl' with hd
    · cases hl'
      exact ⟨c, hd ▸ hl, rfl, rfl, rfl⟩
    · exact ⟨c', hl', rfl, rfl, rfl⟩

/-- The shard cannot be read from the second store: its chunk is gone, or was stale already in the first. -/
def lost (P : Primitives) (cs cs' : ChunkStore) (id : String) : Bool :=
  (cs'.chunks.lookup id).isNone || cs.stale P id

end ChunkStore

end Deleted

section Sample

end Sample

end Cloudless.Storage
