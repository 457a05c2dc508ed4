import Cloudless.Storage.ChunkReferences

/-! Erasure coding of cold objects: the shards that take the place of an object's chunks, and what a
read of the object makes of them. -/

namespace Cloudless.Storage

open Foundations FiniteMaps GoStd Runs Raft ContentEngine ObjectStore

structure ErasureConfig where
  enabled : Bool
  (dataShards parityShards minNodeCount : ℤ)

/-- The Reed-Solomon library; encoding fills in parity and keeps the number and the sizes of the shards. -/
structure ReedSolomon where
  new : ℤ → ℤ → Option String
  encode : ℤ → ℤ → List Bytes → Except String (List Bytes)
  encode_lengths : ∀ {k m shards out}, encode k m shards = .ok out → out.map List.length = shards.map List.length

structure ErasureEncoder where
  config : ErasureConfig
  two_le : 2 ≤ config.dataShards
  one_le : 1 ≤ config.parityShards
  enough : config.minNodeCount ≤ config.dataShards + config.parityShards

def newErasureEncoder (rs : ReedSolomon) (config : ErasureConfig) : Except Err ErasureEncoder :=
  if hk : config.dataShards < 2 then
    .error (.msg ("data shards must be >= 2, got " ++ toString config.dataShards))
  else if hm : config.parityShards < 1 then
    .error (.msg ("parity shards must be >= 1, got " ++ toString config.parityShards))
  else if hn : config.dataShards + config.parityShards < config.minNodeCount then
    .error (.msg ("total shards (" ++ toString (config.dataShards + config.parityShards) ++
      ") must be >= min node count (" ++ toString config.minNodeCount ++ ")"))
  else
    match rs.new config.dataShards config.parityShards with
    | some err => .error (.wrap "failed to create Reed-Solomon encoder: " (.msg err))
    | none => .ok ⟨config, not_lt.mp hk, not_lt.mp hm, not_lt.mp hn⟩

namespace ErasureEncoder

variable (e : ErasureEncoder)

def getShardSize (dataSize : ℕ) : ℕ := (dataSize + e.config.dataShards.toNat - 1) / e.config.dataShards.toNat

-- Byte `i` of the data goes to offset `i % shardSize` of shard `i / shardSize`, the rest stays zero.
def dataShard (data : Bytes) (shardSize shardIndex : ℕ) : Bytes :=
  (List.range shardSize).map (fun offset => data.getD (shardIndex * shardSize + offset) 0)

def emptyCode (data : Bytes) : List Bytes :=
  (List.range e.config.dataShards.toNat).map (dataShard data (e.getShardSize data.length)) ++
    List.replicate e.config.parityShards.toNat (List.replicate (e.getShardSize data.length) 0)

def encode (rs : ReedSolomon) (data : Bytes) : Except Err (List Bytes) :=
  if data = [] then .error (.msg "cannot encode empty data")
  else
    match rs.encode e.config.dataShards e.config.parityShards (e.emptyCode data) with
    | .error err => .error (.wrap "failed to encode shards: " (.msg err))
    | .ok shards => .ok shards

end ErasureEncoder

def isErasureCodingEligible (config : ErasureConfig) (activeNodeCount : ℤ) : Bool :=
  config.enabled && decide (config.minNodeCount ≤ activeNodeCount) &&
    decide (config.dataShards + config.parityShards ≤ activeNodeCount)

structure ColdDataManager where
  config : ErasureConfig
  erasureEncoder : Option ErasureEncoder

def newColdDataManager (rs : ReedSolomon) (config : ErasureConfig) : Except Err ColdDataManager :=
  if config.enabled then
    match newErasureEncoder rs config with
    | .error err => .error (.wrap "failed to create erasure encoder: " err)
    | .ok encoder => .ok ⟨config, some encoder⟩
  else .ok ⟨config, none⟩

def clusterCheck (config : ErasureConfig) (nodeCount : Option ℤ) : Option Err :=
  match nodeCount with
  | none => none
  | some count =>
    if isErasureCodingEligible config count then none
    else some (.msg ("cluster does not meet erasure coding requirements: need " ++ toString config.minNodeCount ++
      " nodes, have " ++ toString count))

def coded (config : ErasureConfig) (now : Time) (chunkIDs : List String) (object : Object) : Object :=
  { object with
    ecEnabled := true
    dataShards := config.dataShards
    parityShards := config.parityShards
    chunkIDs := chunkIDs
    shardIndices := (List.range chunkIDs.length).map (fun i : ℕ => (i : ℤ))
    updatedAt := now }

variable {V : Type}

def MetadataStore.halfStamped (env : Env) (object : Object) (ms : MetadataStore V) : Object :=
  match ms.getBucket env.now object.bucket with
  | .error _ => object
  | .ok bucket =>
    if overQuota (ms.charged object bucket) then { ms.stamped env.now object with version := object.version }
    else ms.stamped env.now object

def cleanupShards (remove : ℕ → Option String) (chunkIDs : List String) (cs : ChunkStore) : ChunkStore :=
  deleteFrom remove 0 chunkIDs cs

-- `GetObject` hands out the cached record itself: it carries the new shards before `PutObject` is asked
-- to store it, and keeps them when `PutObject` fails.
def ObjectStore.saveCoded (json : MetadataJSON V) (env : StoreEnv) (objectKey : String) (object : Object)
    (s : ObjectStore V) : ObjectStore V × Except Err Unit :=
  let ms := { s.metadataStore with objects := s.metadataStore.objects.insert objectKey object }
  match ms.putObject json env.toEnv object with
  | (ms', .error err) =>
    ({ s with
      metadataStore := { ms' with objects := ms'.objects.insert objectKey (ms.halfStamped env.toEnv object) }
      chunkStore := cleanupShards env.remove object.chunkIDs s.chunkStore },
      .error (.wrap "failed to update object metadata: " err))
  | (ms', .ok ()) =>
    ({ s with
      metadataStore := { ms' with objects := ms'.objects.insert objectKey (ms.stamped env.now object) } }, .ok ())

def ObjectStore.encodeWithEC (P : Primitives) (rs : ReedSolomon) (json : MetadataJSON V) (cdm : ColdDataManager)
    (env : StoreEnv) (nodeCount : Option ℤ) (bucket key : String) (s : ObjectStore V) :
    ObjectStore V × Except Err Unit :=
  match cdm.erasureEncoder, clusterCheck cdm.config nodeCount with
  | none, _ => (s, .error (.msg "erasure coding is not enabled"))
  | some _, some err => (s, .error err)
  | some encoder, none =>
    match s.metadataStore.getObject env.now bucket key with
    | (ms, .error err) => ({ s with metadataStore := ms }, .error (.wrap "failed to get object: " err))
    | (ms, .ok object) =>
      let s := { s with metadataStore := ms }
      if object.ecEnabled then (s, .ok ())
      else
        match retrieveContent P object.chunkIDs s.chunkStore with
        | .error err => (s, .error (.wrap "failed to retrieve object content: " err))
        | .ok originalData =>
          match encoder.encode rs originalData with
          | .error err => (s, .error (.wrap "failed to encode data: " err))
          | .ok shards =>
            match writeChunks P env.write 0 shards s.chunkStore with
            | (cs, chunkIDs, some (i, err)) =>
              ({ s with chunkStore := cleanupShards env.remove chunkIDs cs },
                .error (.wrap ("failed to write shard " ++ toString i ++ ": ") err))
            | (cs, chunkIDs, none) =>
              { s with chunkStore := cs }.saveCoded json env (getObjectKey bucket key)
                (coded cdm.config env.now chunkIDs object)

variable {P : Primitives} (e : ErasureEncoder)

lemma ErasureEncoder.length_emptyCode (d : Bytes) : ((e.emptyCode d).map List.length).sum =
      (e.config.dataShards.toNat + e.config.parityShards.toNat) * e.getShardSize d.length := by
  rw [emptyCode, List.map_append, List.sum_append, List.map_map, List.map_replicate, List.sum_replicate]
  have hd : List.length ∘ dataShard d (e.getShardSize d.length) = fun _ => e.getShardSize d.length := by
    funext i
    simp [dataShard]
  rw [hd]
  simp [add_mul]

lemma ErasureEncoder.length_le (d : Bytes) : d.length ≤ e.config.dataShards.toNat * e.getShardSize d.length := by
  have hk : 0 < e.config.dataShards.toNat := by
    have h2 := e.two_le
    omega
  have hdm := Nat.div_add_mod (d.length + e.config.dataShards.toNat - 1) e.config.dataShards.toNat
  have hm := Nat.mod_lt (d.length + e.config.dataShards.toNat - 1) hk
  rw [getShardSize]
  omega

lemma ErasureEncoder.length_lt {d : Bytes} (hd : d ≠ []) :
    d.length < (e.config.dataShards.toNat + e.config.parityShards.toNat) * e.getShardSize d.length := by
  have hm : 0 < e.config.parityShards.toNat := by
    have h1 := e.one_le
    omega
  have hpos := List.length_pos_of_ne_nil hd
  have hl := e.length_le d
  have hs : 0 < e.getShardSize d.length := by
    by_contra hz
    rw [Nat.eq_zero_of_not_pos hz, Nat.mul_zero] at hl
    omega
  have hp : 0 < e.config.parityShards.toNat * e.getShardSize d.length := Nat.mul_pos hm hs
  rw [Nat.add_mul]
  omega

variable {rs : ReedSolomon}

lemma ErasureEncoder.encode_ne {data : Bytes} {ss : List Bytes}
    (h : e.encode rs data = .ok ss) : ss.flatten ≠ data := by
  rw [encode] at h
  split_ifs at h with hd
  cases hr : rs.encode e.config.dataShards e.config.parityShards (e.emptyCode data) with
  | error err =>
    rw [hr] at h
    cases h
  | ok out =>
    rw [hr] at h
    cases h
    intro he
    have hlen := congrArg List.length he
    rw [List.length_flatten, rs.encode_lengths hr, e.length_emptyCode] at hlen
    have hlt := e.length_lt hd
    omega

variable {s : ObjectStore V} {json : MetadataJSON V} {cdm : ColdDataManager} {env : StoreEnv}

namespace ObjectStore

variable {nodeCount : Option ℤ} {bucket key : String}

lemma saveCoded_ok {s' : ObjectStore V} {ob : String} {obj : Object}
    (h : s.saveCoded json env ob obj = (s', .ok ())) :
    s'.chunkStore = s.chunkStore ∧ ∃ o, s'.view.objects.lookup ob = some o ∧ o.identity = obj.identity := by
  rw [saveCoded] at h
  simp only at h
  generalize MetadataStore.putObject json env.toEnv obj _ = x at h
  obtain ⟨ms, err | ⟨⟩⟩ := x
  · cases h
  · cases h
    exact ⟨rfl, _, Finmap.lookup_insert _, rfl⟩

lemma saveCoded_chunkStore (json : MetadataJSON V) (env : StoreEnv) (s : ObjectStore V) (ok : String) (o : Object) :
    (s.saveCoded json env ok o).1.chunkStore = s.chunkStore ∨ (s.saveCoded json env ok o).1.chunkStore =
        cleanupShards env.remove o.chunkIDs s.chunkStore := by
  simp only [saveCoded]
  generalize MetadataStore.putObject json env.toEnv o _ = x
  obtain ⟨ms, err | ⟨⟩⟩ := x
  · exact .inr rfl
  · exact .inl rfl

def metadataWriteFailed : Except Err Unit → Bool
  | .error (.wrap text _) => text = "failed to update object metadata: "
  | _ => false

lemma encodeWithEC_cases {nodeCount : Option ℤ} {bucket key : String} :
    let result := s.encodeWithEC P rs json cdm env nodeCount bucket key
    let s₁ := { s with metadataStore := (s.metadataStore.getObject env.now bucket key).1 }
    (∃ err, (result = (s, .error err) ∨ result = (s₁, .error err)) ∧ metadataWriteFailed (.error err) = false) ∨
    ∃ o, s.view.objects.lookup (getObjectKey bucket key) = some o ∧
      ((o.ecEnabled = true ∧ result = (s₁, .ok ()) ∧ s₁.view.leads = true ∧
        s₁.view.objects.lookup (getObjectKey bucket key) = some { o with accessedAt := env.now }) ∨
      o.ecEnabled = false ∧ ∃ e d ss cs ids f,
        retrieveContent P o.chunkIDs s.chunkStore = .ok d ∧ ErasureEncoder.encode e rs d = .ok ss ∧
        writeChunks P env.write 0 ss s.chunkStore = (cs, ids, f) ∧
        (f = none ∧ result = { s₁ with chunkStore := cs }.saveCoded json env (getObjectKey bucket key)
            (coded cdm.config env.now ids { o with accessedAt := env.now }) ∨
        ∃ err, result = ({ s₁ with chunkStore := cleanupShards env.remove ids cs }, .error err) ∧
          metadataWriteFailed (.error err) = false)) := by
  dsimp only
  rw [encodeWithEC]
  generalize cdm.erasureEncoder = x
  cases x with
  | none => exact .inl ⟨_, .inl rfl, rfl⟩
  | some e =>
    cases hy : clusterCheck cdm.config nodeCount with
    | some err =>
      refine .inl ⟨err, .inl rfl, ?_⟩
      unfold clusterCheck at hy
      split at hy
      · cases hy
      · split_ifs at hy
        cases hy
        rfl
    | none =>
      rcases s.metadataStore.getObject_cases env.now bucket key with ⟨err, he⟩ | ⟨o, ho, hl, he⟩
      · rw [he]
        exact .inl ⟨_, .inl rfl, by simp [metadataWriteFailed]⟩
      · rw [he]
        simp only
        by_cases hec : o.ecEnabled = true
        · rw [if_pos hec]
          exact .inr ⟨o, ho, .inl ⟨hec, rfl, hl, Finmap.lookup_insert _⟩⟩
        · rw [if_neg hec]
          cases hr : retrieveContent P o.chunkIDs s.chunkStore with
          | error err => exact .inl ⟨_, .inr rfl, by simp [metadataWriteFailed]⟩
          | ok d =>
            simp only
            cases hc : e.encode rs d with
            | error err => exact .inl ⟨_, .inr rfl, by simp [metadataWriteFailed]⟩
            | ok ss =>
              refine .inr ⟨o, ho, .inr ⟨Bool.eq_false_of_not_eq_true hec, e, d, ss, ?_⟩⟩
              simp only
              generalize writeChunks P env.write 0 ss s.chunkStore = x
              obtain ⟨cs, ids, _ | ⟨i, err⟩⟩ := x
              · exact ⟨cs, ids, none, hr, hc, rfl, .inl ⟨rfl, rfl⟩⟩
              · refine ⟨cs, ids, _, hr, hc, rfl, .inr ⟨_, rfl, ?_⟩⟩
                rw [metadataWriteFailed, decide_eq_false_iff_not]
                intro ht
                have hch := congrArg String.toList ht
                simp at hch

lemma encodeWithEC_ok {s' : ObjectStore V}
    (h : s.encodeWithEC P rs json cdm env nodeCount bucket key = (s', .ok ())) :
    ∃ o, s.view.objects.lookup (getObjectKey bucket key) = some o ∧
      (o.ecEnabled = true ∧ s'.view.leads = true ∧ s'.chunkStore = s.chunkStore ∧
        s'.view.objects.lookup (getObjectKey bucket key) = some { o with accessedAt := env.now } ∨
      o.ecEnabled = false ∧ ∃ e d ss ids o', retrieveContent P o.chunkIDs s.chunkStore = .ok d ∧
        ErasureEncoder.encode e rs d = .ok ss ∧
        writeChunks P env.write 0 ss s.chunkStore = (s'.chunkStore, ids, none) ∧
        s'.view.objects.lookup (getObjectKey bucket key) = some o' ∧ o'.chunkIDs = ids) := by
  rcases encodeWithEC_cases with ⟨err, he | he, -⟩ | ⟨o, ho, hcase⟩
  · cases h.symm.trans he
  · cases h.symm.trans he
  refine ⟨o, ho, ?_⟩
  rcases hcase with ⟨hec, he, hl, ho'⟩ | ⟨hec, e, d, ss, cs, ids, f, hr, hc, hw, ⟨hf, he⟩ | ⟨err, he, -⟩⟩
  · cases h.symm.trans he
    exact .inl ⟨hec, hl, rfl, ho'⟩
  · rw [h] at he
    obtain ⟨hcs, o', ho', hid⟩ := saveCoded_ok he.symm
    simp only [Object.identity, Prod.mk.injEq] at hid
    exact .inr ⟨hec, e, d, ss, ids, o', hr, hc, by rw [hw, hcs, hf], ho', hid.2.2.1⟩
  · cases h.symm.trans he

end ObjectStore

inductive ColdCall
  | store (c : StoreCall)
  | encodeWithEC (env : StoreEnv) (nodeCount : Option ℤ) (bucket key : String)

def ObjectStore.afterCold [Inhabited V] (P : Primitives) (rs : ReedSolomon) (json : MetadataJSON V)
    (cdm : ColdDataManager) (s : ObjectStore V) : ColdCall → ObjectStore V
  | .store c => s.after P json c
  | .encodeWithEC env nodeCount bucket key => (s.encodeWithEC P rs json cdm env nodeCount bucket key).1

lemma Keeps.encodeWithEC {ok : Option String → Prop} {I : ChunkStore → Prop} (hk : Keeps P ok I) (rs : ReedSolomon)
    (json : MetadataJSON V) (cdm : ColdDataManager) (hr : ∀ i, ok (env.remove i))
    (nodeCount : Option ℤ) (bucket key : String) (hi : I s.chunkStore) :
    I (s.encodeWithEC P rs json cdm env nodeCount bucket key).1.chunkStore := by
  rcases encodeWithEC_cases with ⟨err, he | he, -⟩ | ⟨o, -, hcase⟩
  · rwa [he]
  · rwa [he]
  rcases hcase with ⟨-, he, -⟩ | ⟨-, e, data, shards, cs, ids, failed, -, -, hw, hcase⟩
  · rwa [he]
  have hi₁ := hk.writeChunks env.write 0 shards hi
  rw [hw] at hi₁
  have hcl : I (cleanupShards env.remove ids cs) := hk.deleteFrom hr 0 ids hi₁
  rcases hcase with ⟨-, he⟩ | ⟨err, he, -⟩
  · rw [he]
    rcases saveCoded_chunkStore json env _ (getObjectKey bucket key)
      (coded cdm.config env.now ids { o with accessedAt := env.now }) with hc | hc
    · rwa [hc]
    · rwa [hc]
  · rwa [he]

lemma labelled_run [Inhabited V] {cs : List ColdCall} (hn : s.chunkStore.Labelled) :
    (run (afterCold P rs json cdm) s cs).chunkStore.Labelled := by
  refine run_preserves (fun s : ObjectStore V => s.chunkStore.Labelled) cs ?_ hn
  intro s c _ hn
  cases c with
  | store c =>
    refine (keeps_labelled P).after json ?_ hn
    cases c <;> simp [StoreCall.Removes]
  | encodeWithEC env nodeCount bucket key =>
    exact (keeps_labelled P).encodeWithEC rs json cdm (fun _ => trivial) nodeCount bucket key hn

theorem erasure_coding_transparent_iff [Inhabited V] (P : Primitives) (rs : ReedSolomon) (json : MetadataJSON V)
    (cdm : ColdDataManager) (config : StorageConfig) (raftStore : Option (RaftStore V)) (all : List (String × V))
    (files : FMap Path File) (walk : List (Path × File)) (calls : List ColdCall) (env : StoreEnv)
    (nodeCount : Option ℤ) (bucket key : String) (s s' : ObjectStore V)
    (hs : run (afterCold P rs json cdm) (newObjectStore json config raftStore all files walk) calls = s)
    (before after : Time) (response : GetObjectResponse) (hget : (s.getObject P before bucket key).2 = .ok response)
    (henc : (s.getObject P before bucket key).1.encodeWithEC P rs json cdm env nodeCount bucket key = (s', .ok ())) :
    (∃ response', (s'.getObject P after bucket key).2 = .ok response' ∧ response'.data = response.data) ↔
      ∃ o, s.metadataStore.objects.lookup (getObjectKey bucket key) = some o ∧ o.ecEnabled = true := by
  have hn : s.chunkStore.Labelled := by
    rw [← hs]
    exact labelled_run (ChunkStore.labelled_newChunkStore _ files walk)
  obtain ⟨o, ho, -, hr, hc⟩ := getObject_ok hget
  obtain ⟨objects, ht, hv, hcs⟩ := s.getObject_touches P before bucket key
  obtain ⟨o₁, ho₁, hcase⟩ := encodeWithEC_ok henc
  rw [hv] at ho₁
  obtain ⟨o₂, ho₂, he⟩ := ht.lookup ho₁
  have hsame : o₂ = o := Option.some.inj (ho₂.symm.trans ho)
  subst hsame
  rw [he] at hcase
  rcases hcase with ⟨hec, hl, hc', ho'⟩ | ⟨hec, e, data, ss, ids, o', hr', hcode, hw, ho', hids⟩
  · refine iff_of_true ?_ ⟨o₂, ho, hec⟩
    rw [← hcs, ← hc'] at hr
    obtain ⟨response', hresp, hdata, -⟩ := getObject_response hl ho' hr hc after
    exact ⟨response', hresp, hdata⟩
  · refine iff_of_false ?_ ?_
    · rintro ⟨response', hg', hdata⟩
      rw [hcs] at hr' hw
      rw [hr] at hr'
      cases hr'
      obtain ⟨o₃, ho₃, -, hr₃, -⟩ := getObject_ok hg'
      rw [ho'] at ho₃
      cases ho₃
      have hn' : s'.chunkStore.Labelled := by
        have hk := (keeps_labelled P).writeChunks env.write 0 ss hn
        rwa [hw] at hk
      rw [hids, writeChunks_ids hn env.write 0 ss hw, hdata] at hr₃
      exact e.encode_ne hcode (retrieveFrom_eq hn' 0 ss hr₃).symm
    · rintro ⟨o₃, ho₃, hec₃⟩
      rw [show s.metadataStore.objects.lookup (getObjectKey bucket key) = some o₂ from ho] at ho₃
      cases ho₃
      rw [hec₃] at hec
      cases hec

def double (b : UInt8) : UInt8 := (b <<< 1) ^^^ (if 128 ≤ b then 0x1d else 0)

/-- The library's parity byte of two data bytes `a` and `b`, which is 3a + 2b in its field of 256 elements. -/
def pairParity (a b : UInt8) : UInt8 := (double a ^^^ a) ^^^ double b

def pairCode : ReedSolomon where
  new := fun _ _ => none
  encode := fun k m shards => match shards with
    | [a, b, p] =>
      if k = 2 ∧ m = 1 ∧ a.length = p.length ∧ b.length = p.length then .ok [a, b, List.zipWith pairParity a b]
      else .error "shard sizes do not match"
    | _ => .error "too few shards given"
  encode_lengths := by
    intro k m shards out h
    split at h
    · split_ifs at h with hs
      cases h
      simp [hs.2.2.1, hs.2.2.2]
    · cases h

def pairConfig : ErasureConfig := ⟨true, 2, 1, 3⟩

def pairEncoder : ErasureEncoder := ⟨pairConfig, by decide, by decide, by decide⟩

def pairManager : ColdDataManager := ⟨pairConfig, some pairEncoder⟩

example : newColdDataManager pairCode pairConfig = .ok pairManager := rfl

def onePair : ObjectStore (Bucket ⊕ Object) := sampleRun [plainCreate "b", plainPut "b" "k" [1, 2]]

def pairRead : ObjectStore (Bucket ⊕ Object) × Except Err GetObjectResponse :=
  onePair.getObject samplePrimitives (unix 20) "b" "k"

def pairCoded : ObjectStore (Bucket ⊕ Object) × Except Err Unit :=
  pairRead.1.encodeWithEC samplePrimitives pairCode recordJSON pairManager calmStoreEnv (some 3) "b" "k"

theorem erasure_coding_transparent_iff_pair :
    ¬ ∃ response, (pairCoded.1.getObject samplePrimitives (unix 30) "b" "k").2 = .ok response ∧
      response.data = [1, 2] := by
  have hiff := erasure_coding_transparent_iff samplePrimitives pairCode recordJSON pairManager defaultStorageConfig none
    [] ∅ [] [.store (plainCreate "b"), .store (plainPut "b" "k" [1, 2])] calmStoreEnv (some 3) "b" "k" onePair
    pairCoded.1 rfl (unix 20) (unix 30) ⟨[1, 2], 2, digest [1, 2], .hot, "", some ∅, unix 10, unix 10⟩ (by decide)
    (Prod.ext rfl (by decide))
  refine mt hiff.mp ?_
  rintro ⟨o, ho, he⟩
  revert he
  cases ho
  decide

theorem erasure_coding_breaks_read : pairRead.2.map GetObjectResponse.data = .ok [1, 2] ∧ pairCoded.2 = .ok () ∧
      (pairCoded.1.getObject samplePrimitives (unix 30) "b" "k").2 =
        .error (.wrap "data integrity check failed: " (.msg
          ("checksum mismatch: expected " ++ digest [1, 2] ++ ", got " ++ digest [1, 2, 7]))) :=
  ⟨by decide, by decide, rfl⟩

end Cloudless.Storage
