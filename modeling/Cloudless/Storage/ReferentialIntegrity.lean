import Cloudless.Storage.CacheAgreement

/-! Objects and their buckets: when every stored object has its bucket, in the cache and in the state machine. -/

namespace Cloudless.Storage

open Foundations FiniteMaps GoStd Runs Raft MetadataStore

variable {V : Type}

structure Referential (json : MetadataJSON V) (ms : MetadataStore V) : Prop where
  cache : ∀ k o, ms.objects.lookup k = some o → ∃ b, ms.buckets.lookup o.bucket = some b
  fsm : ∀ r, ms.raftStore = some r → ∀ k o, objectRecord json r.fsm k = some o →
    ∃ b, bucketRecord json r.fsm o.bucket = some b

/-- Where a member of a batch stands, a created bucket or a stored object is the one that its record names, the object's
bucket is there, and a deleted bucket is empty. -/
structure GuardedOp (json : MetadataJSON V) (ms : MetadataStore V) (op : BatchOperation V) : Prop where
  created : op.type = "create_bucket" → FaithfulBucket ms op.bucket (json.bucket.unmarshal op.value)
  stored : op.type = "put_object_meta" → ∀ o, json.object.unmarshal op.value = .ok o →
    getObjectKey o.bucket o.key = getObjectKey op.bucket op.key ∧ ∃ b, ms.buckets.lookup o.bucket = some b
  deleted : op.type = "delete_bucket" → ∀ k o, ms.objects.lookup k = some o → o.bucket ≠ op.bucket

def Intact [Inhabited V] (json : MetadataJSON V) (ms : MetadataStore V) (c : Call V) : Prop :=
  (ms.call json c).2 = none ∨ (ms.after json c).raftStore = ms.raftStore

def GuardedBatch (json : MetadataJSON V) (ms : MetadataStore V) : Call V → Prop
  | .executeBatch _ ops => Admissible (editCache json) (GuardedOp json) ms ops
  | _ => True

section Cache

variable {json : MetadataJSON V} {ms ms' : MetadataStore V}

structure Housed (ms : MetadataStore V) : Prop where
  named : ∀ name b, ms.buckets.lookup name = some b → b.name = name
  housed : ∀ k o, ms.objects.lookup k = some o → ∃ b, ms.buckets.lookup o.bucket = some b

structure Backed (json : MetadataJSON V) (ms : MetadataStore V) (f : FSM V) : Prop where
  buckets : ∀ name b, ms.buckets.lookup name = some b → ∃ b', bucketRecord json f name = some b'
  objects : ∀ k o, objectRecord json f k = some o → ∃ o', ms.objects.lookup k = some o' ∧ o'.bucket = o.bucket

lemma Housed.of_same (h : Housed ms) (hb : ms'.buckets = ms.buckets) (ho : ms'.objects = ms.objects) : Housed ms' := by
  refine ⟨?_, ?_⟩
  · rw [hb]
    exact h.named
  · rw [hb, ho]
    exact h.housed

lemma Backed.of_same {f : FSM V} (h : Backed json ms f) (hb : ms'.buckets = ms.buckets) (ho : ms'.objects = ms.objects) :
    Backed json ms' f := by
  refine ⟨?_, ?_⟩
  · rw [hb]
    exact h.buckets
  · rw [ho]
    exact h.objects

lemma Housed.insertBucket (h : Housed ms) {b : Bucket} (hb : ms'.buckets = ms.buckets.insert b.name b)
    (ho : ms'.objects = ms.objects) : Housed ms' := by
  refine ⟨?_, ?_⟩
  · intro n b' hl
    rw [hb, lookup_insert_if] at hl
    split_ifs at hl with hn
    · cases hl
      exact hn.symm
    · exact h.named n b' hl
  · intro k o hl
    rw [ho] at hl
    rw [hb, lookup_insert_if]
    split_ifs
    · exact ⟨b, rfl⟩
    · exact h.housed k o hl

lemma Housed.eraseBucket (h : Housed ms) {na : String} (hb : ms'.buckets = ms.buckets.erase na)
    (ho : ms'.objects = ms.objects) (he : ∀ k o, ms.objects.lookup k = some o → o.bucket ≠ na) : Housed ms' := by
  refine ⟨?_, ?_⟩
  · intro n b hl
    rw [hb, lookup_erase_if] at hl
    split_ifs at hl
    exact h.named n b hl
  · intro k o hl
    rw [ho] at hl
    rw [hb, lookup_erase_if, if_neg (he k o hl)]
    exact h.housed k o hl

lemma Housed.insertObject (h : Housed ms) {k : String} {o : Object} (hb : ms'.buckets = ms.buckets)
    (ho : ms'.objects = ms.objects.insert k o) (hbu : ∃ b, ms.buckets.lookup o.bucket = some b) : Housed ms' := by
  refine ⟨by rw [hb]; exact h.named, ?_⟩
  intro j o' hl
  rw [ho, lookup_insert_if] at hl
  rw [hb]
  split_ifs at hl
  · cases hl
    exact hbu
  · exact h.housed j o' hl

lemma Housed.eraseObject (h : Housed ms) {k : String} (hb : ms'.buckets = ms.buckets)
    (ho : ms'.objects = ms.objects.erase k) : Housed ms' := by
  refine ⟨by rw [hb]; exact h.named, ?_⟩
  intro j o' hl
  rw [ho, lookup_erase_if] at hl
  rw [hb]
  split_ifs at hl
  exact h.housed j o' hl

lemma Backed.editBucket {f f' : FSM V} {n : String} {d : Option V} (h : Backed json ms f)
    (he : Edited ("bucket:" ++ n) d f f') (hb : ∀ na b, ms'.buckets.lookup na = some b →
      if na = n then ∃ b', d.bind (fun v => (json.bucket.unmarshal v).toOption) = some b'
      else ∃ b', ms.buckets.lookup na = some b') (ho : ms'.objects = ms.objects) : Backed json ms' f' := by
  refine ⟨?_, ?_⟩
  · intro na b hl
    have hh := hb na b hl
    rw [he.bucketRecord]
    split_ifs at hh ⊢
    · exact hh
    · obtain ⟨b', hb'⟩ := hh
      exact h.buckets na b' hb'
  · intro k o hl
    rw [he.objectRecord_of_bucket] at hl
    rw [ho]
    exact h.objects k o hl

lemma Backed.editObject {f f' : FSM V} {n : String} {d : Option V} (h : Backed json ms f)
    (he : Edited ("object:" ++ n) d f f')
    (ho : ∀ k o, (if k = n then d.bind (fun v => (json.object.unmarshal v).toOption) else objectRecord json f k) = some o →
      ∃ o', ms'.objects.lookup k = some o' ∧ o'.bucket = o.bucket)
    (hb : ∀ na b, ms'.buckets.lookup na = some b → ∃ b', ms.buckets.lookup na = some b') : Backed json ms' f' := by
  refine ⟨?_, ?_⟩
  · intro na b hl
    obtain ⟨b', hb'⟩ := hb na b hl
    rw [he.bucketRecord_of_object]
    exact h.buckets na b' hb'
  · intro k o hl
    rw [he.objectRecord] at hl
    exact ho k o hl

end Cache

section Batches

variable {json : MetadataJSON V} {ms : MetadataStore V}

lemma editCache_cases {json : MetadataJSON V} {ms : MetadataStore V} {op : BatchOperation V} :
    (op.type = "create_bucket" ∧ ∃ b, json.bucket.unmarshal op.value = .ok b ∧
      ms.editCache json op = { ms with buckets := ms.buckets.insert b.name b }) ∨
    (op.type = "delete_bucket" ∧ ms.editCache json op = { ms with buckets := ms.buckets.erase op.bucket }) ∨
    (op.type = "put_object_meta" ∧ ∃ o, json.object.unmarshal op.value = .ok o ∧
      ms.editCache json op = { ms with objects := ms.objects.insert (getObjectKey o.bucket o.key) o }) ∨
    (op.type = "delete_object_meta" ∧
      ms.editCache json op = { ms with objects := ms.objects.erase (getObjectKey op.bucket op.key) }) ∨
    ms.editCache json op = ms := by
  rw [editCache, applyToCache]
  split_ifs with hc hd hp hx
  · cases hu : json.bucket.unmarshal op.value with
    | error err => exact .inr (.inr (.inr (.inr rfl)))
    | ok b => exact .inl ⟨hc, b, rfl, rfl⟩
  · exact .inr (.inl ⟨hd, rfl⟩)
  · cases hu : json.object.unmarshal op.value with
    | error err => exact .inr (.inr (.inr (.inr rfl)))
    | ok o => exact .inr (.inr (.inl ⟨hp, o, rfl, rfl⟩))
  · exact .inr (.inr (.inr (.inl ⟨hx, rfl⟩)))
  · exact .inr (.inr (.inr (.inr rfl)))

variable {op : BatchOperation V}

lemma Housed.editCache (h : Housed ms) (hg : GuardedOp json ms op) : Housed (ms.editCache json op) := by
  rcases editCache_cases with ⟨-, b, -, he⟩ | ⟨ht, he⟩ | ⟨ht, o, hu, he⟩ | ⟨-, he⟩ | he
  · rw [he]
    exact h.insertBucket rfl rfl
  · rw [he]
    exact h.eraseBucket rfl rfl (hg.deleted ht)
  · rw [he]
    exact h.insertObject rfl rfl (hg.stored ht o hu).2
  · rw [he]
    exact h.eraseObject rfl rfl
  · rwa [he]

variable {f : FSM V}

lemma Backed.cacheBucket (h : Backed json ms f) (now : Time)
    (ht : op.type = "create_bucket") (hg : GuardedOp json ms op) :
    Backed json (ms.editCache json op) (f.perform (now, .set ("bucket:" ++ op.bucket) op.value 0)) := by
  have hn := hg.created ht
  rw [editCache, applyToCache, if_pos ht]
  refine h.editBucket (edited_set f now ("bucket:" ++ op.bucket) op.value) ?_ ?_
  · intro n b hl
    cases hu : json.bucket.unmarshal op.value with
    | error err =>
      rw [hu] at hl hn
      split_ifs with hname
      · rw [hname] at hl
        cases hl.symm.trans hn
      · exact ⟨b, hl⟩
    | ok b' =>
      rw [hu] at hl hn
      split_ifs with hname
      · exact ⟨b', by rw [Option.bind_some, hu]; rfl⟩
      · have hne : n ≠ b'.name := fun he => hname (he.trans hn)
        rw [lookup_insert_if, if_neg hne] at hl
        exact ⟨b, hl⟩
  · cases json.bucket.unmarshal op.value <;> rfl

lemma Backed.cacheObject (h : Backed json ms f) (now : Time)
    (ht : op.type = "put_object_meta") (hg : GuardedOp json ms op) : Backed json (ms.editCache json op)
      (f.perform (now, .set ("object:" ++ getObjectKey op.bucket op.key) op.value 0)) := by
  have hs := hg.stored ht
  rw [editCache, applyToCache, if_neg (by simp [ht]), if_neg (by simp [ht]), if_pos ht]
  refine h.editObject (edited_set f now ("object:" ++ getObjectKey op.bucket op.key) op.value) ?_ ?_
  · intro k o hl
    rw [Option.bind_some] at hl
    cases hu : json.object.unmarshal op.value with
    | error err =>
      rw [hu] at hl
      split_ifs at hl
      · cases hl
      · exact h.objects k o hl
    | ok o' =>
      rw [hu] at hl
      dsimp only
      rw [lookup_insert_if, (hs o' hu).1]
      split_ifs at hl ⊢
      · cases hl
        exact ⟨_, rfl, rfl⟩
      · exact h.objects k o hl
  · intro n b hl
    revert hl
    cases json.object.unmarshal op.value <;> exact fun hl => ⟨b, hl⟩

lemma Backed.dropBucket (h : Backed json ms f) (now : Time) (ht : op.type = "delete_bucket") :
    Backed json (ms.editCache json op) (f.perform (now, .delete ("bucket:" ++ op.bucket))) := by
  rw [editCache, applyToCache, if_neg (by simp [ht]), if_pos ht]
  refine h.editBucket (edited_delete f now ("bucket:" ++ op.bucket)) ?_ rfl
  intro n b hl
  rw [lookup_erase_if] at hl
  split_ifs at hl with hname
  rw [if_neg hname]
  exact ⟨b, hl⟩

lemma Backed.dropObject (h : Backed json ms f) (now : Time) (ht : op.type = "delete_object_meta") :
    Backed json (ms.editCache json op) (f.perform (now, .delete ("object:" ++ getObjectKey op.bucket op.key))) := by
  rw [editCache, applyToCache, if_neg (by simp [ht]), if_neg (by simp [ht]),
    if_neg (by simp [ht]), if_pos ht]
  refine h.editObject (edited_delete f now ("object:" ++ getObjectKey op.bucket op.key)) ?_ fun n b hl => ⟨b, hl⟩
  intro k o hl
  rw [lookup_erase_if]
  split_ifs at hl ⊢
  · cases hl
  · exact h.objects k o hl

lemma Backed.editCache (h : Backed json ms f) (now : Time)
    (hv : op.command.mutation.valid = true) (hg : GuardedOp json ms op) :
    Backed json (ms.editCache json op) (f.perform (now, op.command.mutation)) := by
  rcases MetadataCommand.mutation_cases hv with ⟨ht, he⟩ | ⟨ht, he⟩ | ⟨ht, he⟩ | ⟨ht, he⟩ <;> rw [he]
  · exact h.cacheBucket now ht hg
  · exact h.dropBucket now ht
  · exact h.cacheObject now ht hg
  · exact h.dropObject now ht

lemma Backed.runEditCache (ops : List (BatchOperation V)) (h : Backed json ms f) (now : ℕ → Time) (i : ℕ)
    (hv : ∀ op ∈ ops, op.command.mutation.valid = true)
    (hg : Admissible (MetadataStore.editCache json) (GuardedOp json) ms ops) :
    Backed json (run (MetadataStore.editCache json) ms ops)
      (f.performAll (stamp now i (ops.map fun op => op.command.mutation))) := by
  induction ops generalizing ms f i with
  | nil => exact h
  | cons op ops ih =>
    have hnext := h.editCache (now i) (hv op (List.mem_cons_self ..)) hg.1
    exact ih hnext (i + 1) (fun o ho => hv o (List.mem_cons_of_mem _ ho)) hg.2

end Batches

section Calls

variable {json : MetadataJSON V} {ms : MetadataStore V}

structure Linked (json : MetadataJSON V) (ms : MetadataStore V) : Prop where
  housed : Housed ms
  backed : ∀ r, ms.raftStore = some r → Backed json ms r.fsm

lemma Linked.referential (h : Linked json ms) : Referential json ms where
  cache := h.housed.housed
  fsm := by
    intro r hr k o hl
    obtain ⟨o', hc, hb⟩ := (h.backed r hr).objects k o hl
    obtain ⟨b, hb'⟩ := h.housed.housed k o' hc
    rw [hb] at hb'
    exact (h.backed r hr).buckets o.bucket b hb'

variable {ms' : MetadataStore V} {env : Env}

lemma Linked.edited (h : Linked json ms) (op : BatchOperation V)
    (ha : ms.Accepts env (.ofMetadata op.command)) (ho : op.type ≠ "" ∧ op.type ≠ "set" ∧ op.type ≠ "delete")
    (hv : op.command.mutation.valid = true) (hg : GuardedOp json ms op)
    (hr : ms'.raftStore = (ms.record env (.ofMetadata op.command)).raftStore)
    (hb : ms'.buckets = (ms.editCache json op).buckets) (hob : ms'.objects = (ms.editCache json op).objects) :
    Linked json ms' := by
  refine ⟨(h.housed.editCache hg).of_same hb hob, ?_⟩
  intro r' hr'
  rw [hr, record] at hr'
  obtain ⟨r, hr, rfl⟩ := Option.map_eq_some_iff.mp hr'
  rw [fsm_append_metadata hr ha ho]
  exact ((h.backed r hr).editCache _ hv hg).of_same hb hob

lemma Linked.turnDown (h : Linked json ms) {d : LogData V}
    (ht : MetadataStore.TurnedDown env d ms ms') (hr : ms'.raftStore = ms.raftStore) : Linked json ms' := by
  rcases ht.2 with rfl | ⟨rfl, -⟩
  · exact h
  · exact ⟨h.housed.of_same rfl rfl, fun r hr' => (h.backed r (hr ▸ hr')).of_same rfl rfl⟩

lemma Linked.createBucket (h : Linked json ms) (env : Env) (b : Bucket)
    (hi : failure (ms.createBucket json env b).2 = none ∨ (ms.createBucket json env b).1.raftStore = ms.raftStore) :
    Linked json (ms.createBucket json env b).1 := by
  rcases ms.createBucket_cases json env b with ⟨ms', err, he, rfl | ⟨v, ht⟩⟩ | ⟨v, -, hv, ha, he⟩
  · rwa [he]
  · rw [he] at hi ⊢
    exact h.turnDown ht (hi.resolve_left (by rintro ⟨⟩))
  · have hu := json.bucket.unmarshal_marshal hv
    rw [he]
    refine h.edited ⟨"create_bucket", b.name, "", v⟩ ha (by simp) rfl ⟨fun _ => ?_, by simp, by simp⟩ rfl ?_ ?_
    · rw [hu]
      rfl
    all_goals simp only [editCache, applyToCache, if_true, hu]; rfl

variable {name : String}

lemma deleteBucket_empty [Inhabited V] (h : failure (ms.deleteBucket env name).2 = none)
    {k : String} {o : Object} (ho : ms.objects.lookup k = some o) : o.bucket ≠ name := by
  rw [deleteBucket] at h
  split at h
  · cases h
  · split_ifs at h with hn
    · cases h
    · exact not_of_hasEntry_eq_false _ (Bool.eq_false_iff.mpr hn) ho

section

variable (h : Linked json ms)

include h

lemma Linked.deleteBucket [Inhabited V] (env : Env) (name : String)
    (hi : failure (ms.deleteBucket env name).2 = none ∨ (ms.deleteBucket env name).1.raftStore = ms.raftStore) :
    Linked json (ms.deleteBucket env name).1 := by
  rcases ms.deleteBucket_cases env name with ⟨ms', err, he, rfl | ht⟩ | ⟨ha, he⟩
  · rwa [he]
  · rw [he] at hi ⊢
    exact h.turnDown ht (hi.resolve_left (by rintro ⟨⟩))
  · have hem : ∀ k o, ms.objects.lookup k = some o → o.bucket ≠ name := fun k o =>
      deleteBucket_empty (by rw [he]; rfl)
    rw [he]
    exact h.edited ⟨"delete_bucket", name, "", default⟩ ha (by simp) rfl ⟨by simp, by simp, fun _ => hem⟩ rfl rfl rfl

lemma Linked.restock {b b' : Bucket} (hb : ms.buckets.lookup name = some b)
    (hname : b'.name = b.name) : Linked json { ms with buckets := ms.buckets.insert name b' } := by
  have hn : b'.name = name := hname.trans (h.housed.named name b hb)
  refine ⟨h.housed.insertBucket (b := b') (by rw [hn]) rfl, ?_⟩
  intro r hr
  refine ⟨?_, (h.backed r hr).objects⟩
  intro n b'' hl
  rw [lookup_insert_if] at hl
  split_ifs at hl with he
  · rw [he]
    exact (h.backed r hr).buckets name b hb
  · exact (h.backed r hr).buckets n b'' hl

lemma Linked.putObject (env : Env) (o : Object)
    (hi : failure (ms.putObject json env o).2 = none ∨ (ms.putObject json env o).1.raftStore = ms.raftStore) :
    Linked json (ms.putObject json env o).1 := by
  rcases ms.putObject_cases json env o with
    ⟨err, he⟩ | ⟨b, hb, ⟨ms', err, he, ⟨rfl, -⟩ | ⟨value, -, ht⟩⟩ | ⟨value, -, hv, ha, he⟩⟩
  · rwa [he]
  · rw [he]
    exact h.restock (getBucket_ok hb) rfl
  · have hc : Linked json (ms.charge o b) := h.restock (getBucket_ok hb) rfl
    rw [he] at hi ⊢
    exact hc.turnDown ht (hi.resolve_left (by rintro ⟨⟩))
  · have hl := getBucket_ok hb
    have hc : Linked json (ms.charge o b) := h.restock hl rfl
    have hname : b.name = o.bucket := h.housed.named o.bucket b hl
    have hbu : (ms.charge o b).buckets.lookup o.bucket = some (ms.charged o b) := Finmap.lookup_insert _
    have hs : (ms.charge o b).buckets.insert b.name (ms.charged o b) = (ms.charge o b).buckets := by
      rw [hname, insert_lookup_self _ hbu]
    have hu := json.object.unmarshal_marshal hv
    rw [he, hs]
    refine hc.edited ⟨"put_object_meta", o.bucket, o.key, value⟩ ha (by simp) rfl ⟨by simp, fun _ o' ho' => ?_, by simp⟩
      rfl ?_ ?_
    · cases hu.symm.trans ho'
      exact ⟨rfl, _, hbu⟩
    all_goals simp only [editCache, applyToCache, hu]; rfl

lemma Linked.deleteObject [Inhabited V] (env : Env) (bucket key : String)
    (hi : failure (ms.deleteObject env bucket key).2 = none ∨
      (ms.deleteObject env bucket key).1.raftStore = ms.raftStore) :
    Linked json (ms.deleteObject env bucket key).1 := by
  rcases ms.deleteObject_cases env bucket key with ⟨ms', err, he, rfl | ht⟩ | ⟨o, -, ha, he⟩
  · rwa [he]
  · rw [he] at hi ⊢
    exact h.turnDown ht (hi.resolve_left (by rintro ⟨⟩))
  · have her : Linked json { ms.record env (deleteObjectCmd bucket key) with
        objects := ms.objects.erase (getObjectKey bucket key) } :=
      h.edited ⟨"delete_object_meta", bucket, key, default⟩ ha (by simp) rfl ⟨by simp, by simp, by simp⟩ rfl rfl rfl
    rw [he, releaseBytes]
    cases hb : ms.buckets.lookup bucket with
    | none =>
      simp only [record, hb]
      exact her
    | some b =>
      simp only [record, hb]
      exact her.restock hb rfl

lemma Linked.executeBatch [Inhabited V] (env : Env) (ops : List (BatchOperation V))
    (hi : failure (ms.executeBatch json env ops).2 = none ∨ (ms.executeBatch json env ops).1.raftStore = ms.raftStore)
    (hg : Admissible (editCache json) (GuardedOp json) ms ops) : Linked json (ms.executeBatch json env ops).1 := by
  rcases ms.executeBatch_cases json env ops with ⟨ms', err, he, ht⟩ | ⟨-, re, he⟩ | ⟨hne, ha, re, he⟩
  · rw [he] at hi ⊢
    exact h.turnDown ht (hi.resolve_left (by rintro ⟨⟩))
  · rwa [he]
  · have hho : Housed (run (editCache json) ms ops) :=
      run_invariant Housed (fun ms op hh ho => hh.editCache ho) ops h.housed hg
    rw [he, record, run_editCache_withRaft]
    refine ⟨hho.of_same rfl rfl, ?_⟩
    intro r' hr'
    obtain ⟨r, hr, rfl⟩ := Option.map_eq_some_iff.mp hr'
    have hm := mutations_batchCmd hne
    have hb : Backed json (run (MetadataStore.editCache json) ms ops)
        (r.append env.raft (MetadataStore.batchCmd ops)).fsm := by
      rw [RaftStore.fsm_append, hm]
      apply (h.backed r hr).runEditCache ops env.raft.now 0 _ hg
      intro op hop
      apply (ha r hr).2.2
      rw [hm]
      exact List.mem_map_of_mem hop
    exact hb.of_same rfl rfl

lemma Linked.getObject (now : Time) (b key : String) (opt : ReadOptions) :
    Linked json (ms.getObjectWithOptions now b key opt).1 := by
  rw [getObjectWithOptions]
  split
  · exact h
  · exact h
  · next o _ ho =>
    split
    · exact h
    · refine ⟨h.housed.insertObject rfl rfl (h.housed.housed _ o ho), ?_⟩
      intro r hr
      refine ⟨(h.backed r hr).buckets, ?_⟩
      intro k o' hl
      obtain ⟨o'', hc, hb⟩ := (h.backed r hr).objects k o' hl
      dsimp only
      rw [lookup_insert_if]
      split_ifs with hk
      · rw [hk, ho] at hc
        cases hc
        exact ⟨_, rfl, hb⟩
      · exact ⟨o'', hc, hb⟩

lemma Linked.call [Inhabited V] (c : Call V) (hi : Intact json ms c) (hg : GuardedBatch json ms c) :
    Linked json (ms.after json c) := by
  cases c with
  | createBucket env b => exact h.createBucket env b hi
  | updateBucket env b =>
    rw [MetadataStore.after, MetadataStore.call, MetadataStore.updateBucket]
    cases hb : ms.buckets.lookup b.name with
    | none => exact h
    | some b' => exact h.restock hb (h.housed.named b.name b' hb).symm
  | deleteBucket env n => exact h.deleteBucket env n hi
  | putObject env o => exact h.putObject env o hi
  | deleteObject env bucket key => exact h.deleteObject env bucket key hi
  | executeBatch env ops => exact h.executeBatch env ops hi hg
  | getObject now bucket key opt => exact h.getObject now bucket key opt

end

lemma linked_new {rs : Option (RaftStore V)} {all : List (String × V)}
    (h : ∀ r, rs = some r → WellFormed json r.fsm ∧ (∃ t, Enumerates all (r.fsm.getAll t)) ∧
      ∀ k o, objectRecord json r.fsm k = some o → ∃ b, bucketRecord json r.fsm o.bucket = some b) :
    Linked json (newMetadataStore json rs all) := by
  cases rs with
  | none =>
    refine ⟨⟨?_, ?_⟩, ?_⟩
    · intro n b hl
      cases hl
    · intro k o hl
      cases hl
    · intro r hr
      cases hr
  | some r =>
    obtain ⟨hw, ⟨t, he⟩, href⟩ := h r rfl
    refine ⟨⟨?_, ?_⟩, ?_⟩
    · intro n b hl
      rw [lookup_buckets_rebuilt hw he] at hl
      exact hw.bucketName n b hl
    · intro k o hl
      rw [lookup_objects_rebuilt hw he] at hl
      rw [lookup_buckets_rebuilt hw he]
      exact href k o hl
    · intro r' hr'
      rw [newMetadataStore, raftStore_initializeFromRAFT] at hr'
      cases hr'
      refine ⟨?_, ?_⟩
      · intro n b hl
        rw [lookup_buckets_rebuilt hw he] at hl
        exact ⟨b, hl⟩
      · intro k o hl
        rw [lookup_objects_rebuilt hw he]
        exact ⟨o, hl, rfl⟩

end Calls

theorem referential_integrity_of_guarded [Inhabited V] (json : MetadataJSON V) {raftStore : Option (RaftStore V)}
    {all : List (String × V)}
    (hstart : ∀ r, raftStore = some r → WellFormed json r.fsm ∧ (∃ t, Enumerates all (r.fsm.getAll t)) ∧
      ∀ k o, objectRecord json r.fsm k = some o → ∃ b, bucketRecord json r.fsm o.bucket = some b)
    (calls : List (Call V)) (hc : Admissible (after json) (fun ms c => Intact json ms c ∧ GuardedBatch json ms c)
      (newMetadataStore json raftStore all) calls) :
    Referential json (run (after json) (newMetadataStore json raftStore all) calls) :=
  (run_invariant (Linked json) (fun _ c h hok => h.call c hok.1 hok.2) calls (linked_new hstart) hc).referential

def putMember (bucket key : String) : BatchOperation (Bucket ⊕ Object) :=
  ⟨"put_object_meta", bucket, key, .inr (emptyObject bucket key)⟩

theorem referential_integrity_small : Referential recordJSON (run (after recordJSON)
      (newMetadataStore recordJSON (some loneRaft) [])
      [.createBucket calmEnv (plainBucket "b"), .executeBatch calmEnv [putMember "b" "k"]]) := by
  refine referential_integrity_of_guarded recordJSON ?_ _ ⟨⟨.inl (by decide), trivial⟩, ⟨.inl (by decide), ?_⟩, trivial⟩
  · rintro r ⟨⟩
    refine ⟨wellFormed_new recordJSON, ⟨0, enumerates_empty⟩, ?_⟩
    intro k o hl
    cases hl
  · refine ⟨⟨fun h => absurd h (by decide), ?_, fun h => absurd h (by decide)⟩, trivial⟩
    rintro - o ⟨⟩
    exact ⟨rfl, _, rfl⟩

theorem batch_strands_objects : ¬Referential recordJSON (run (after recordJSON)
      (newMetadataStore recordJSON (some loneRaft) []) [.executeBatch calmEnv [putMember "b" "k"]]) ∧
    ¬Referential recordJSON (run (after recordJSON) (newMetadataStore recordJSON (some loneRaft) [])
      [.createBucket calmEnv (plainBucket "b"), .putObject calmEnv (emptyObject "b" "k"),
        .executeBatch calmEnv [⟨"delete_bucket", "b", "", .inl (plainBucket "")⟩]]) := by
  constructor
  · intro h
    obtain ⟨b, hb⟩ := h.cache "b:k" (emptyObject "b" "k") (by decide +kernel)
    cases hb
  · intro h
    obtain ⟨b, hb⟩ := h.cache "b:k" { emptyObject "b" "k" with
      createdAt := unix 10, updatedAt := unix 10, accessedAt := unix 10, metadata := some ∅ } (by decide +kernel)
    cases hb

end Cloudless.Storage
