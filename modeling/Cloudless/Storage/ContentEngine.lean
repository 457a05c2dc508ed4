import Cloudless.Storage.ChunkStore

namespace Cloudless.Storage

open Foundations FiniteMaps GoStd

structure ContentIO where
  write : ℕ → WriteIO
  remove : ℕ → Option String

/-- A reader that delivers `data` and from then on answers with `err`, or with EOF. -/
structure Reader where
  data : Bytes
  err : Option String

namespace ContentEngine

variable (P : Primitives)

def calculateChecksum (data : Bytes) : String := P.sha256 data

def splitFrom (chunkSize : ℕ) : ℕ → Bytes → List Bytes
  | 0, _ => []
  | fuel + 1, rest =>
    if rest = [] then [] else rest.take chunkSize :: splitFrom chunkSize fuel (rest.drop chunkSize)

def splitIntoChunks (chunkSize : ℕ) (data : Bytes) : List Bytes :=
  let chunks := splitFrom chunkSize data.length data
  if chunks = [] then [data] else chunks

def writeChunks (write : ℕ → WriteIO) : ℕ → List Bytes → ChunkStore → ChunkStore × List String × Option (ℕ × Err)
  | _, [], cs => (cs, [], none)
  | i, data :: rest, cs =>
    match cs.writeChunk P (write i) data with
    | (cs, .error err) => (cs, [], some (i, err))
    | (cs, .ok chunk) =>
      let (cs, chunkIDs, failed) := writeChunks write (i + 1) rest cs
      (cs, chunk.id :: chunkIDs, failed)

def deleteFrom (remove : ℕ → Option String) : ℕ → List String → ChunkStore → ChunkStore
  | _, [], cs => cs
  | i, chunkID :: chunkIDs, cs => deleteFrom remove (i + 1) chunkIDs (cs.deleteChunk (remove i) chunkID).1

def deleteContent (remove : ℕ → Option String) (chunkIDs : List String) (cs : ChunkStore) : ChunkStore :=
  deleteFrom remove 0 chunkIDs cs

def cleanupChunks (remove : ℕ → Option String) (chunkIDs : List String) (cs : ChunkStore) : ChunkStore :=
  deleteFrom remove 0 chunkIDs cs

def storeContent (chunkSize : ℕ) (io : ContentIO) (data : Bytes) (cs : ChunkStore) :
    ChunkStore × Except Err (List String × String) :=
  if data = [] then (cs, .error (.msg "cannot store empty content"))
  else
    match writeChunks P io.write 0 (splitIntoChunks chunkSize data) cs with
    | (cs, chunkIDs, some (i, err)) =>
      (cleanupChunks io.remove chunkIDs cs, .error (.wrap ("failed to write chunk " ++ toString i ++ ": ") err))
    | (cs, chunkIDs, none) => (cs, .ok (chunkIDs, calculateChecksum P data))

def retrieveFrom : ℕ → List String → ChunkStore → Except Err Bytes
  | _, [], _ => .ok []
  | i, chunkID :: chunkIDs, cs =>
    match cs.readChunk P chunkID with
    | .error err => .error (.wrap ("failed to read chunk " ++ toString i ++ " (" ++ chunkID ++ "): ") err)
    | .ok data =>
      match retrieveFrom (i + 1) chunkIDs cs with
      | .error err => .error err
      | .ok rest => .ok (data ++ rest)

def retrieveContent (chunkIDs : List String) (cs : ChunkStore) : Except Err Bytes := retrieveFrom P 0 chunkIDs cs

-- The buffers that `io.ReadFull` fills one after the other, and the error that ends them. A short last
-- buffer counts only when the reader ends with EOF; after it the next read finds nothing.
def readBuffers (chunkSize : ℕ) (err : Option String) : ℕ → Bytes → List Bytes × Option String
  | 0, _ => ([], err)
  | fuel + 1, rest =>
    if err.isSome ∧ rest.length < chunkSize then ([], err)
    else if rest = [] then ([], none)
    else
      let (buffers, err) := readBuffers chunkSize err fuel (rest.drop chunkSize)
      (rest.take chunkSize :: buffers, err)

def storeContentStream (chunkSize : ℕ) (io : ContentIO) (reader : Reader) (cs : ChunkStore) :
    ChunkStore × Except Err (List String × String) :=
  let (buffers, readErr) := readBuffers chunkSize reader.err (reader.data.length + 1) reader.data
  match writeChunks P io.write 0 buffers cs with
  | (cs, chunkIDs, some (_, err)) => (cleanupChunks io.remove chunkIDs cs, .error (.wrap "failed to write chunk: " err))
  | (cs, chunkIDs, none) =>
    match readErr with
    | some err => (cleanupChunks io.remove chunkIDs cs, .error (.wrap "failed to read stream: " (.msg err)))
    | none => (cs, .ok (chunkIDs, P.sha256 buffers.flatten))

def verifyContent (chunkIDs : List String) (expectedChecksum : String) (cs : ChunkStore) : Option Err :=
  match retrieveContent P chunkIDs cs with
  | .error err => some (.wrap "failed to retrieve content: " err)
  | .ok data =>
    if calculateChecksum P data ≠ expectedChecksum then
      some (.msg ("checksum mismatch: expected " ++ expectedChecksum ++ ", got " ++ calculateChecksum P data))
    else none

def addSizes : Int64 → List String → ChunkStore → Except Err Int64
  | totalSize, [], _ => .ok totalSize
  | totalSize, chunkID :: chunkIDs, cs =>
    match cs.getChunkSize chunkID with
    | .error err => .error (.wrap ("failed to get size of chunk " ++ chunkID ++ ": ") err)
    | .ok size => addSizes (totalSize + size) chunkIDs cs

def getContentSize (chunkIDs : List String) (cs : ChunkStore) : Except Err Int64 := addSizes 0 chunkIDs cs

variable {P} {chunkSize : ℕ}

lemma splitFrom_flatten (hn : 0 < chunkSize) {fuel : ℕ} {rest : Bytes} (hf : rest.length ≤ fuel) :
    (splitFrom chunkSize fuel rest).flatten = rest := by
  induction fuel generalizing rest with
  | zero =>
    rw [List.eq_nil_of_length_eq_zero (by omega : rest.length = 0)]
    rfl
  | succ fuel ih =>
    rw [splitFrom]
    split_ifs with he
    · rw [he]
      rfl
    · have hd : (rest.drop chunkSize).length ≤ fuel := by
        have hp := List.length_pos_of_ne_nil he
        rw [List.length_drop]
        omega
      rw [List.flatten_cons, ih hd, List.take_append_drop]

lemma splitIntoChunks_flatten (hn : 0 < chunkSize) (data : Bytes) :
    (splitIntoChunks chunkSize data).flatten = data := by
  simp only [splitIntoChunks]
  split_ifs
  · simp
  · exact splitFrom_flatten hn le_rfl

lemma readBuffers_flatten (hn : 0 < chunkSize) (err : Option String) (fuel : ℕ) {rest : Bytes}
    (hf : rest.length < fuel) (he : (readBuffers chunkSize err fuel rest).2 = none) :
    (readBuffers chunkSize err fuel rest).1.flatten = rest := by
  induction fuel generalizing rest with
  | zero => omega
  | succ fuel ih =>
    rw [readBuffers] at he ⊢
    split_ifs at he ⊢ with hs hr
    · obtain ⟨hs, -⟩ := hs
      have he : err = none := he
      rw [he] at hs
      cases hs
    · rw [hr]
      rfl
    · have hd : (rest.drop chunkSize).length < fuel := by
        have hp := List.length_pos_of_ne_nil hr
        rw [List.length_drop]
        omega
      simp only [List.flatten_cons]
      rw [ih hd he, List.take_append_drop]

variable {cs : ChunkStore}

lemma retrieveFrom_eq (hn : cs.Labelled) (i : ℕ) (ps : List Bytes) {x : Bytes}
    (h : retrieveFrom P i (ps.map P.sha256) cs = .ok x) : x = ps.flatten := by
  induction ps generalizing i x with
  | nil =>
    cases h
    rfl
  | cons d ps ih =>
    rw [List.map_cons, retrieveFrom] at h
    cases hd : cs.readChunk P (P.sha256 d) with
    | error err => simp [hd] at h
    | ok y =>
      rw [hd] at h
      simp only at h
      cases hr : retrieveFrom P (i + 1) (ps.map P.sha256) cs with
      | error err => simp [hr] at h
      | ok r =>
        rw [hr] at h
        cases h
        rw [hn.readChunk_eq hd, ih (i + 1) hr, List.flatten_cons]

variable {ids : List String}

lemma writeChunks_ids {cs' : ChunkStore} (hn : cs.Labelled) (w : ℕ → WriteIO) (i : ℕ) (ps : List Bytes)
    (h : writeChunks P w i ps cs = (cs', ids, none)) : ids = ps.map P.sha256 := by
  induction ps generalizing i cs ids with
  | nil =>
    cases h
    rfl
  | cons d ps ih =>
    obtain ⟨hn', hid⟩ := hn.writeChunk (P := P) (w i) d
    rw [writeChunks] at h
    generalize cs.writeChunk P (w i) d = x at h hn' hid
    obtain ⟨cs₁, err | c⟩ := x
    · cases h
    · simp only at h
      generalize hw : writeChunks P w (i + 1) ps cs₁ = y at h
      obtain ⟨cs₂, ids', f⟩ := y
      cases h
      rw [List.map_cons, hid c rfl, ih hn' (i + 1) hw]

lemma verifyContent_none_iff {sum : String} {d : Bytes}
    (hr : retrieveContent P ids cs = .ok d) : verifyContent P ids sum cs = none ↔ P.sha256 d = sum := by
  rw [verifyContent, hr]
  simp only [calculateChecksum]
  split_ifs with h
  · simp [h]
  · simp [not_not.mp h]

end ContentEngine

structure Keeps (P : Primitives) (ok : Option String → Prop) (I : ChunkStore → Prop) : Prop where
  write : ∀ io data {cs}, I cs → I (ChunkStore.writeChunk P io data cs).1
  delete : ∀ {e} id {cs}, ok e → I cs → I (ChunkStore.deleteChunk e id cs).1

namespace Keeps

open ContentEngine

variable {P : Primitives} {ok : Option String → Prop} {I : ChunkStore → Prop} {cs : ChunkStore}

lemma writeChunks (hk : Keeps P ok I) (w : ℕ → WriteIO) (i : ℕ) (ps : List Bytes) (hi : I cs) :
    I (writeChunks P w i ps cs).1 := by
  induction ps generalizing i cs with
  | nil => exact hi
  | cons d ps ih =>
    have hw := hk.write (w i) d hi
    rw [ContentEngine.writeChunks]
    generalize cs.writeChunk P (w i) d = x at hw ⊢
    obtain ⟨cs', err | c⟩ := x
    · exact hw
    · exact ih (i + 1) hw

lemma deleteFrom (hk : Keeps P ok I) {r : ℕ → Option String} (hr : ∀ i, ok (r i)) (i : ℕ)
    (ids : List String) (hi : I cs) : I (deleteFrom r i ids cs) := by
  induction ids generalizing i cs with
  | nil => exact hi
  | cons id ids ih => exact ih (i + 1) (hk.delete id (hr i) hi)

lemma storeContent (hk : Keeps P ok I) (io : ContentIO) (hr : ∀ i, ok (io.remove i)) (chunkSize : ℕ) (d : Bytes)
    (hi : I cs) : I (storeContent P chunkSize io d cs).1 := by
  rw [ContentEngine.storeContent]
  split_ifs
  · exact hi
  · have hw := hk.writeChunks io.write 0 (splitIntoChunks chunkSize d) hi
    generalize ContentEngine.writeChunks P io.write 0 (splitIntoChunks chunkSize d) cs = x at hw ⊢
    obtain ⟨cs', ids, _ | ⟨i, err⟩⟩ := x
    · exact hw
    · exact hk.deleteFrom hr 0 ids hw

lemma storeContentStream (hk : Keeps P ok I) (io : ContentIO) (hr : ∀ i, ok (io.remove i)) (chunkSize : ℕ)
    (r : Reader) (hi : I cs) : I (storeContentStream P chunkSize io r cs).1 := by
  rw [ContentEngine.storeContentStream]
  rcases readBuffers chunkSize r.err (r.data.length + 1) r.data with ⟨bs, re⟩
  have hw := hk.writeChunks io.write 0 bs hi
  simp only
  generalize ContentEngine.writeChunks P io.write 0 bs cs = x at hw ⊢
  obtain ⟨cs', ids, _ | ⟨i, err⟩⟩ := x
  · cases re with
    | none => exact hw
    | some err => exact hk.deleteFrom hr 0 ids hw
  · exact hk.deleteFrom hr 0 ids hw

end Keeps

lemma keeps_labelled (P : Primitives) : Keeps P (fun _ => True) ChunkStore.Labelled where
  write := fun io d _ hn => (hn.writeChunk io d).1
  delete := fun id _ _ hn => hn.deleteChunk _ id

def Spells (P : Primitives) (ids : List String) (data : Bytes) : Prop :=
  ∃ pieces : List Bytes, ids = pieces.map P.sha256 ∧ data = pieces.flatten

structure Represents (P : Primitives) (cs : ChunkStore) (held : Multiset String) : Prop where
  intact : cs.Intact P
  counts : ∀ id, cs.count id = held.count id

section Holding

open ContentEngine

variable {P : Primitives} {cs : ChunkStore} {held : Multiset String}

lemma spells_nil : Spells P [] [] := ⟨[], rfl, rfl⟩

lemma Spells.append {ids ids' : List String} {d d' : Bytes} (h : Spells P ids d) (h' : Spells P ids' d') :
    Spells P (ids ++ ids') (d ++ d') := by
  obtain ⟨ps, rfl, rfl⟩ := h
  obtain ⟨ps', rfl, rfl⟩ := h'
  exact ⟨ps ++ ps', List.map_append.symm, List.flatten_append.symm⟩

lemma Represents.writeChunk (h : Represents P cs held) (io : WriteIO) (d : Bytes) :
    (∃ cs' err, cs.writeChunk P io d = (cs', .error err) ∧ Represents P cs' held) ∨
    ∃ cs' c, cs.writeChunk P io d = (cs', .ok c) ∧ c.id = P.sha256 d ∧ Represents P cs' (P.sha256 d ::ₘ held) := by
  obtain ⟨hi, -, hc⟩ := ChunkStore.writeChunk_cases io d h.intact
  rcases hc with ⟨err, he, hch⟩ | ⟨c, he, hid, hco⟩
  · refine .inl ⟨_, err, Prod.ext rfl he, hi, ?_⟩
    intro id
    rw [ChunkStore.count, hch]
    exact h.counts id
  · refine .inr ⟨_, c, Prod.ext rfl he, hid, hi, ?_⟩
    intro id
    rw [hco, h.counts, Multiset.count_cons]
    split_ifs <;> simp

lemma Represents.deleteChunk (e : Option String) {id : String} (h : Represents P cs (id ::ₘ held)) :
    Represents P (cs.deleteChunk e id).1 held := by
  refine ⟨h.intact.deleteChunk e id, ?_⟩
  have hp : 0 < cs.count id := by
    rw [h.counts, Multiset.count_cons_self]
    omega
  intro j
  rw [ChunkStore.count_deleteChunk e hp, h.counts, Multiset.count_cons]
  split_ifs <;> simp

lemma Represents.writeChunks (h : Represents P cs held) (w : ℕ → WriteIO) (i : ℕ) (ps : List Bytes) :
    ∃ cs' d f, writeChunks P w i ps cs = (cs', d.map P.sha256, f) ∧
      Represents P cs' (↑(d.map P.sha256) + held) ∧ (f = none → d = ps) := by
  induction ps generalizing i cs held with
  | nil => exact ⟨cs, [], none, rfl, by simpa using h, fun _ => rfl⟩
  | cons da ps ih =>
    rw [ContentEngine.writeChunks]
    rcases h.writeChunk (w i) da with ⟨cs', err, he, hr⟩ | ⟨cs', c, he, hid, hr⟩
    · rw [he]
      exact ⟨cs', [], some (i, err), rfl, by simpa using hr, fun hn => by cases hn⟩
    · obtain ⟨cs'', d, f, hw, hr', hd⟩ := ih hr (i + 1)
      rw [he]
      simp only [hw, hid]
      refine ⟨cs'', da :: d, f, rfl, ?_, ?_⟩
      · rwa [List.map_cons, ← Multiset.cons_coe, Multiset.cons_add, ← Multiset.add_cons]
      · intro hf
        rw [hd hf]

lemma Represents.deleteFrom (r : ℕ → Option String) (i : ℕ) (ids : List String)
    (h : Represents P cs (↑ids + held)) : Represents P (deleteFrom r i ids cs) held := by
  induction ids generalizing i cs with
  | nil => simpa [ContentEngine.deleteFrom] using h
  | cons id ids ih =>
    rw [← Multiset.cons_coe, Multiset.cons_add] at h
    exact ih (i + 1) (h.deleteChunk (r i))

section

variable (h : Represents P cs held)

include h

lemma Represents.storeContent {chunkSize : ℕ} (hn : 0 < chunkSize) (io : ContentIO) (d : Bytes) :
    (∃ cs' err, storeContent P chunkSize io d cs = (cs', .error err) ∧ Represents P cs' held) ∨
    ∃ cs' ids, storeContent P chunkSize io d cs = (cs', .ok (ids, P.sha256 d)) ∧ Spells P ids d ∧
      Represents P cs' (↑ids + held) := by
  rw [ContentEngine.storeContent]
  split_ifs with hd
  · exact .inl ⟨cs, _, rfl, h⟩
  · obtain ⟨cs', done, f, hw, hr, hdone⟩ := h.writeChunks io.write 0 (splitIntoChunks chunkSize d)
    rw [hw]
    cases f with
    | some p => exact .inl ⟨_, _, rfl, hr.deleteFrom io.remove 0 _⟩
    | none =>
      refine .inr ⟨cs', _, rfl, ⟨done, rfl, ?_⟩, hr⟩
      rw [hdone rfl, splitIntoChunks_flatten hn]

lemma Represents.storeContentStream {chunkSize : ℕ} (hn : 0 < chunkSize) (io : ContentIO) (r : Reader) :
    (∃ cs' err, storeContentStream P chunkSize io r cs = (cs', .error err) ∧ Represents P cs' held) ∨
    ∃ cs' ids, storeContentStream P chunkSize io r cs = (cs', .ok (ids, P.sha256 r.data)) ∧
      Spells P ids r.data ∧ Represents P cs' (↑ids + held) := by
  have hb := readBuffers_flatten hn r.err (r.data.length + 1) (Nat.lt_succ_self _)
  rw [ContentEngine.storeContentStream]
  generalize readBuffers chunkSize r.err (r.data.length + 1) r.data = x at hb ⊢
  obtain ⟨bs, re⟩ := x
  obtain ⟨cs', done, f, hw, hr, hdone⟩ := h.writeChunks io.write 0 bs
  simp only [hw]
  cases f with
  | some p => exact .inl ⟨_, _, rfl, hr.deleteFrom io.remove 0 _⟩
  | none =>
    cases re with
    | some err => exact .inl ⟨_, _, rfl, hr.deleteFrom io.remove 0 _⟩
    | none =>
      have hf : bs.flatten = r.data := hb rfl
      refine .inr ⟨cs', _, by rw [hf], ⟨done, rfl, ?_⟩, hr⟩
      rw [hdone rfl, hf]

lemma Represents.lookup {id : String} (hm : id ∈ held) : ∃ c, cs.chunks.lookup id = some c := by
  apply ChunkStore.lookup_of_count
  rw [h.counts]
  exact_mod_cast Multiset.count_pos.mpr hm

lemma Represents.readChunk {data : Bytes} (hm : P.sha256 data ∈ held) :
    cs.readChunk P (P.sha256 data) = .ok data := by
  obtain ⟨c, hl⟩ := h.lookup hm
  exact h.intact.readChunk hl

lemma Represents.retrieveFrom (i : ℕ) (ps : List Bytes) (hm : ∀ da ∈ ps, P.sha256 da ∈ held) :
    retrieveFrom P i (ps.map P.sha256) cs = .ok ps.flatten := by
  induction ps generalizing i with
  | nil => rfl
  | cons da ps ih =>
    have hd := h.readChunk (hm da (List.mem_cons_self ..))
    have ht := ih (i + 1) (fun d hd => hm d (List.mem_cons_of_mem _ hd))
    rw [List.map_cons, ContentEngine.retrieveFrom, hd]
    simp only [ht, List.flatten_cons]

lemma Represents.retrieveContent {ids : List String} {data : Bytes}
    (hs : Spells P ids data) (hm : ∀ id ∈ ids, id ∈ held) : retrieveContent P ids cs = .ok data := by
  obtain ⟨ps, rfl, rfl⟩ := hs
  exact h.retrieveFrom 0 ps (fun d hd => hm _ (List.mem_map_of_mem hd))

end

end Holding

structure SplitReader where
  segments : List Bytes
  eofWithLast : Bool

inductive ReadEnd
  | eof
  | unexpectedEOF

namespace SplitReader

def content (r : SplitReader) : Bytes := r.segments.flatten

def read (space : ℕ) (r : SplitReader) : Bytes × Bool × SplitReader :=
  match r.segments with
  | [] => ([], true, r)
  | segment :: rest =>
    if space < segment.length then (segment.take space, false, { r with segments := segment.drop space :: rest })
    else (segment, rest.isEmpty && r.eofWithLast, { r with segments := rest })

def readFull (size : ℕ) : ℕ → Bytes → SplitReader → Bytes × Option ReadEnd × SplitReader
  | 0, got, r => (got, none, r)
  | fuel + 1, got, r =>
    if size ≤ got.length then (got, none, r)
    else
      match r.read (size - got.length) with
      | (piece, false, r) => readFull size fuel (got ++ piece) r
      | (piece, true, r) =>
        let got := got ++ piece
        (got, if size ≤ got.length then none else if got = [] then some .eof else some .unexpectedEOF, r)

-- The error of a read that delivered something is overwritten by the one of the write that follows.
def readBuffers (size : ℕ) : ℕ → SplitReader → List Bytes
  | 0, _ => []
  | fuel + 1, r =>
    let (got, _, r) := readFull size (r.segments.length + 1) [] r
    if got = [] then [] else got :: readBuffers size fuel r

variable {r : SplitReader}

lemma readFull_of_le {s : ℕ} {f : ℕ} {got : Bytes} (h : s ≤ got.length) : readFull s f got r = (got, none, r) := by
  cases f <;> simp [readFull, h]

lemma readFull_spec {si : ℕ} (f : ℕ) {got : Bytes} {r : SplitReader} (hf : r.segments.length < f)
    (hg : got.length ≤ si) : (readFull si f got r).1 = got ++ r.content.take (si - got.length) ∧
      (readFull si f got r).2.2.content = r.content.drop (si - got.length) := by
  induction f generalizing got r with
  | zero => omega
  | succ f ih =>
    by_cases hfull : si ≤ got.length
    · simp [readFull_of_le hfull, Nat.sub_eq_zero_of_le hfull]
    obtain ⟨ss, fl⟩ := r
    cases ss with
    | nil => simp [readFull, hfull, read, content]
    | cons s re =>
      simp only [readFull, hfull, if_false, read, content, List.flatten_cons]
      by_cases hl : si - got.length < s.length
      · have hle : si ≤ (got ++ s.take (si - got.length)).length := by
          rw [List.length_append, List.length_take]
          omega
        simp only [hl, if_true, readFull_of_le hle]
        rw [List.take_append_of_le_length hl.le, List.drop_append_of_le_length hl.le]
        exact ⟨rfl, rfl⟩
      · simp only [hl, if_false, List.take_append, List.drop_append]
        rw [List.take_of_length_le (not_lt.mp hl), List.drop_eq_nil_of_le (not_lt.mp hl), List.nil_append]
        cases he : re.isEmpty && fl with
        | false =>
          have hnext := @ih (got ++ s) ⟨re, fl⟩ (Nat.lt_of_succ_lt_succ hf)
            (by rw [List.length_append]; omega)
          rwa [List.length_append, Nat.sub_add_eq, List.append_assoc] at hnext
        | true =>
          have hr : re = [] := by simpa using (Bool.and_eq_true_iff.mp he).1
          simp [hr]

lemma readBuffers_eq {s : ℕ} (hs : 0 < s) {f : ℕ} {r : SplitReader} :
    readBuffers s f r = ContentEngine.splitFrom s f r.content := by
  induction f generalizing r with
  | zero => rfl
  | succ f ih =>
    obtain ⟨hg, hl⟩ := @readFull_spec s (r.segments.length + 1) [] r (Nat.lt_succ_self _) (Nat.zero_le _)
    have he : r.content.take s = [] ↔ r.content = [] := by simp [hs.ne']
    simp only [List.nil_append, List.length_nil, Nat.sub_zero] at hg hl
    rw [readBuffers, ContentEngine.splitFrom, ← hl, ← ih]
    simp only [hg, he]

end SplitReader

namespace ContentEngine

def storeContentStreamFrom (P : Primitives) (chunkSize : ℕ) (io : ContentIO) (reader : SplitReader) (cs : ChunkStore) :
    ChunkStore × Except Err (List String × String) :=
  let buffers := reader.readBuffers chunkSize reader.content.length
  match writeChunks P io.write 0 buffers cs with
  | (cs, chunkIDs, some (_, err)) => (cleanupChunks io.remove chunkIDs cs, .error (.wrap "failed to write chunk: " err))
  | (cs, chunkIDs, none) => (cs, .ok (chunkIDs, P.sha256 buffers.flatten))

theorem streaming_equals_buffering (P : Primitives) {chunkSize : ℕ} (hsize : 0 < chunkSize) (io : ContentIO)
    {reader : SplitReader} (hdata : reader.content ≠ []) (cs : ChunkStore) :
    (storeContentStreamFrom P chunkSize io reader cs).1 = (storeContent P chunkSize io reader.content cs).1 ∧
      (storeContentStreamFrom P chunkSize io reader cs).2.toOption =
        (storeContent P chunkSize io reader.content cs).2.toOption := by
  have hs : splitIntoChunks chunkSize reader.content = reader.readBuffers chunkSize reader.content.length := by
    rw [SplitReader.readBuffers_eq hsize, splitIntoChunks]
    cases hl : reader.content.length with
    | zero => exact absurd (List.eq_nil_of_length_eq_zero hl) hdata
    | succ n => simp [splitFrom, hdata]
  have hf := splitIntoChunks_flatten hsize reader.content
  rw [storeContentStreamFrom, storeContent, if_neg hdata]
  rw [hs] at hf ⊢
  simp only [hf]
  rcases writeChunks P io.write 0 (reader.readBuffers chunkSize reader.content.length) cs with ⟨cs', ids, _ | ⟨i, err⟩⟩
  · exact ⟨rfl, rfl⟩
  · exact ⟨rfl, rfl⟩

theorem streaming_equals_buffering_pieces :
    (storeContentStreamFrom samplePrimitives 2 ⟨fun _ => ⟨.done, 0⟩, fun _ => none⟩ ⟨[[1], [2, 3]], true⟩
      ⟨false, ∅, ∅⟩).2.toOption = some ([digest [1, 2], digest [3]], digest [1, 2, 3]) := by
  rw [(streaming_equals_buffering samplePrimitives (by decide) _ (by decide) _).2]
  decide

end ContentEngine

end Cloudless.Storage
