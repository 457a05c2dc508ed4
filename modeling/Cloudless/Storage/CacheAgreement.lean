import Cloudless.Storage.Batch

/-! The metadata held in the state machine of a node, the cache rebuilt from it, and the calls under
which the live cache stays equal to the rebuilt one. -/

namespace Cloudless.Storage

open Foundations FiniteMaps GoStd Runs Raft MetadataStore

variable {V : Type}

lemma expired_zero {now : Time} : expired 0 now = false := by simp [expired]

lemma bucketKey_ne_objectKey (a b : String) : "bucket:" ++ a ≠ "object:" ++ b := by
  intro h
  have hh := congrArg (fun s => s.toList.head?) h
  simp [String.toList_append] at hh

lemma toOption_eq_some {α : Type} {x : Except String α} {a : α} (h : x.toOption = some a) : x = .ok a := by
  cases x with
  | error err => cases h
  | ok b =>
    cases h
    rfl

def Object.sansAccess (o : Object) : Object := { o with accessedAt := 0 }

def valueAt (k : String) (f : FSM V) : Option V := (f.data.lookup k).map Entry.value

section Records

variable (json : MetadataJSON V)

variable (f : FSM V)

def bucketRecord (name : String) : Option Bucket :=
  (valueAt ("bucket:" ++ name) f).bind (fun v => (json.bucket.unmarshal v).toOption)

def objectRecord (k : String) : Option Object :=
  (valueAt ("object:" ++ k) f).bind (fun v => (json.object.unmarshal v).toOption)

def metadataKey (k : String) : Bool := hasPrefix k "bucket:" || hasPrefix k "object:"

structure WellFormed (f : FSM V) : Prop where
  permanent : ∀ k e, f.data.lookup k = some e → metadataKey k = true → e.expiresAt = 0
  bucketName : ∀ name b, bucketRecord json f name = some b → b.name = name
  objectKey : ∀ k o, objectRecord json f k = some o → getObjectKey o.bucket o.key = k

lemma wellFormed_new : WellFormed json (newFSM : FSM V) where
  permanent := by
    intro k e h
    cases h
  bucketName := by
    intro name b h
    cases h
  objectKey := by
    intro k o h
    cases h

variable {json} {now : Time} {all : List (String × V)} {k : String}

lemma valueAt_of_mem {f : FSM V} (he : Enumerates all (f.getAll now))
    {v : V} (hm : (k, v) ∈ all) : valueAt k f = some v := by
  have hl := he.mem.mp hm
  rw [FSM.getAll, lookup_filterMap, Option.bind_eq_some_iff] at hl
  obtain ⟨e, hl, hv⟩ := hl
  by_cases hx : expired e.expiresAt now = true
  · simp [hx] at hv
  · rw [if_neg hx] at hv
    cases hv
    rw [valueAt, hl]
    rfl

lemma mem_of_valueAt {f : FSM V} (hw : WellFormed json f)
    (he : Enumerates all (f.getAll now)) {v : V} (hk : metadataKey k = true)
    (hv : valueAt k f = some v) : (k, v) ∈ all := by
  obtain ⟨e, hl, rfl⟩ := Option.map_eq_some_iff.mp hv
  have hx : expired e.expiresAt now = false := by
    rw [hw.permanent k e hl hk]
    exact expired_zero
  rw [he.mem, FSM.getAll, lookup_filterMap, hl]
  simp [hx]

lemma ne_of_hasPrefix {s p t : String} (h : hasPrefix s p = false) : s ≠ p ++ t := by
  rintro rfl
  rw [hasPrefix_append] at h
  cases h

variable {ms : MetadataStore V}

lemma lookup_buckets_loadEntry {p : String × V} {name : String} : (ms.loadEntry json p).buckets.lookup name =
      (if p.1 = "bucket:" ++ name then (json.bucket.unmarshal p.2).toOption else none).or (ms.buckets.lookup name) := by
  rw [loadEntry]
  cases hb : hasPrefix p.1 "bucket:" with
  | true =>
    have hp := eq_append_of_hasPrefix hb
    cases json.bucket.unmarshal p.2 with
    | error err => simp [Except.toOption]
    | ok b =>
      by_cases hn : name = trimPrefix p.1 "bucket:"
      · have he : p.1 = "bucket:" ++ name := by
          rwa [hn]
        rw [if_pos rfl, if_pos he, hn]
        exact Finmap.lookup_insert _
      · have hne : p.1 ≠ "bucket:" ++ name := by
          intro hh
          exact hn (append_right_injective "bucket:" (hh.symm.trans hp))
        simp [hne, Finmap.lookup_insert_of_ne _ hn]
  | false =>
    simp only [Bool.false_eq_true, if_false, if_neg (ne_of_hasPrefix hb), Option.none_or]
    split_ifs
    · cases json.object.unmarshal p.2 <;> rfl
    · rfl
    · rfl

-- The rebuilt object map is keyed by what the record says, not by the key it was found under.
lemma lookup_objects_loadEntry {p : String × V} {k : String}
    (hk : ∀ k' o, p.1 = "object:" ++ k' → json.object.unmarshal p.2 = .ok o → getObjectKey o.bucket o.key = k') :
    (ms.loadEntry json p).objects.lookup k =
      (if p.1 = "object:" ++ k then (json.object.unmarshal p.2).toOption else none).or (ms.objects.lookup k) := by
  rw [loadEntry]
  cases hb : hasPrefix p.1 "bucket:" with
  | true =>
    have hp := eq_append_of_hasPrefix hb
    have hne : p.1 ≠ "object:" ++ k := by
      rw [hp]
      exact bucketKey_ne_objectKey _ k
    rw [if_neg hne, Option.none_or, if_pos rfl]
    cases json.bucket.unmarshal p.2 <;> rfl
  | false =>
    rw [if_neg (by simp)]
    cases ho : hasPrefix p.1 "object:" with
    | false => rw [if_neg (ne_of_hasPrefix ho), Option.none_or, if_neg (by simp)]
    | true =>
      have hp := eq_append_of_hasPrefix ho
      rw [if_pos rfl]
      cases hu : json.object.unmarshal p.2 with
      | error err => simp [Except.toOption]
      | ok o =>
        have hg := hk _ o hp hu
        have hc : (splitN2 (trimPrefix p.1 "object:") ':').length = 2 := by
          rw [length_splitN2, ← hg]
          exact colon_mem_getObjectKey _ _
        rw [if_pos hc]
        by_cases hn : k = trimPrefix p.1 "object:"
        · have he : p.1 = "object:" ++ k := by
            rwa [hn]
          rw [if_pos he, hn, ← hg]
          exact Finmap.lookup_insert _
        · have hne : p.1 ≠ "object:" ++ k := by
            intro hh
            exact hn (append_right_injective "object:" (hh.symm.trans hp))
          simp only [if_neg hne, Option.none_or, hg]
          exact Finmap.lookup_insert_of_ne _ hn

variable {r : RaftStore V}

lemma read_rebuilt {α : Type} (hw : WellFormed json r.fsm) (he : Enumerates all (r.fsm.getAll now))
    (hk : metadataKey k = true) (u : V → Except String α) (re : MetadataStore V → Option α)
    (hem : re ⟨∅, ∅, some r⟩ = none) (hl : ∀ ms, ∀ p ∈ all, re (loadEntry json ms p) =
      (if p.1 = k then (u p.2).toOption else none).or (re ms)) :
    re (newMetadataStore json (some r) all) = (valueAt k r.fsm).bind fun v => (u v).toOption := by
  refine run_read re (fun p => if p.1 = k then (u p.2).toOption else none) all hl ?_ ?_
  · rintro ⟨key, v⟩ hp
    by_cases hkey : key = k
    · subst hkey
      refine .inr ?_
      rw [valueAt_of_mem he hp]
      simp
    · exact .inl (if_neg hkey)
  · refine .inr ⟨hem, ?_⟩
    cases hv : valueAt k r.fsm with
    | none => exact .inl rfl
    | some v =>
      refine .inr ⟨(k, v), mem_of_valueAt hw he hk hv, ?_⟩
      simp

lemma lookup_buckets_rebuilt (hw : WellFormed json r.fsm) (he : Enumerates all (r.fsm.getAll now)) (name : String) :
    (newMetadataStore json (some r) all).buckets.lookup name = bucketRecord json r.fsm name :=
  read_rebuilt hw he (by simp [metadataKey]) json.bucket.unmarshal (fun ms => ms.buckets.lookup name) rfl
    fun _ _ _ => lookup_buckets_loadEntry

lemma lookup_objects_rebuilt (hw : WellFormed json r.fsm) (he : Enumerates all (r.fsm.getAll now)) (k : String) :
    (newMetadataStore json (some r) all).objects.lookup k = objectRecord json r.fsm k := by
  refine read_rebuilt hw he (by simp [metadataKey]) json.object.unmarshal (fun ms => ms.objects.lookup k) rfl ?_
  rintro ms ⟨key, v⟩ hp
  refine lookup_objects_loadEntry ?_
  rintro k' o rfl hu
  apply hw.objectKey
  rw [objectRecord, valueAt_of_mem he hp, Option.bind_some, hu]
  rfl

structure Edited (k : String) (d : Option V) (f f' : FSM V) : Prop where
  value : ∀ j, valueAt j f' = if j = k then d else valueAt j f
  lease : ∀ j e, f'.data.lookup j = some e → e.expiresAt = 0 ∨ f.data.lookup j = some e

omit json in
lemma edited_of_lookup {f f' : FSM V} {d : Option V} {c u : Time}
    (hk : f'.data.lookup k = d.map fun v => ⟨v, 0, c, u⟩)
    (ho : ∀ j, j ≠ k → f'.data.lookup j = f.data.lookup j) : Edited k d f f' where
  value := by
    intro j
    rw [valueAt]
    split_ifs with hj
    · rw [hj, hk]
      cases d <;> rfl
    · rw [ho j hj]
      rfl
  lease := by
    intro j e he
    by_cases hj : j = k
    · rw [hj, hk] at he
      obtain ⟨v, -, rfl⟩ := Option.map_eq_some_iff.mp he
      exact .inl rfl
    · rw [ho j hj] at he
      exact .inr he

lemma edited_set (now : Time) (k : String) (v : V) : Edited k (some v) f (f.perform (now, .set k v 0)) :=
  edited_of_lookup (FSM.lookup_perform_set f now k v 0 expired_zero) fun j hj =>
    FSM.lookup_perform_of_not_writes f _ j (by simp [Mutation.writes, hj.symm])

lemma edited_delete (now : Time) (k : String) : Edited k none f (f.perform (now, .delete k)) :=
  @edited_of_lookup _ _ _ _ _ 0 0 (FSM.lookup_perform_delete f now k) fun j hj =>
    FSM.lookup_perform_of_not_writes f _ j (by simp [Mutation.writes, hj.symm])

variable (json) in
structure Mirror (ms : MetadataStore V) (f : FSM V) : Prop where
  wellFormed : WellFormed json f
  buckets : ∀ name, ms.buckets.lookup name = bucketRecord json f name
  objects : ∀ k, (ms.objects.lookup k).map Object.sansAccess = (objectRecord json f k).map Object.sansAccess

variable {f} {f' : FSM V} {n : String} {d : Option V}

lemma Edited.bucketRecord (he : Edited ("bucket:" ++ n) d f f') (name : String) : Storage.bucketRecord json f' name =
      if name = n then d.bind (fun v => (json.bucket.unmarshal v).toOption) else Storage.bucketRecord json f name := by
  rw [Storage.bucketRecord, he.value]
  by_cases hn : name = n
  · rw [if_pos (by rw [hn]), if_pos hn]
  · rw [if_neg (fun hh => hn (append_right_injective "bucket:" hh)), if_neg hn]
    rfl

lemma Edited.objectRecord (he : Edited ("object:" ++ n) d f f') (k : String) : Storage.objectRecord json f' k =
      if k = n then d.bind (fun v => (json.object.unmarshal v).toOption) else Storage.objectRecord json f k := by
  rw [Storage.objectRecord, he.value]
  by_cases hn : k = n
  · rw [if_pos (by rw [hn]), if_pos hn]
  · rw [if_neg (fun hh => hn (append_right_injective "object:" hh)), if_neg hn]
    rfl

lemma Edited.permanent (he : Edited n d f f') (hw : WellFormed json f)
    {e : Entry V} (hk : f'.data.lookup k = some e) (hp : metadataKey k = true) : e.expiresAt = 0 := by
  rcases he.lease k e hk with hz | hk
  · exact hz
  · exact hw.permanent k e hk hp

lemma Edited.objectRecord_of_bucket (he : Edited ("bucket:" ++ n) d f f')
    (k : String) : Storage.objectRecord json f' k = Storage.objectRecord json f k := by
  rw [Storage.objectRecord, he.value, if_neg (Ne.symm (bucketKey_ne_objectKey n k))]
  rfl

lemma Edited.bucketRecord_of_object (he : Edited ("object:" ++ n) d f f')
    (name : String) : Storage.bucketRecord json f' name = Storage.bucketRecord json f name := by
  rw [Storage.bucketRecord, he.value, if_neg (bucketKey_ne_objectKey name n)]
  rfl

lemma WellFormed.editBucket (hw : WellFormed json f)
    (he : Edited ("bucket:" ++ n) d f f') (hn : ∀ v b, d = some v → json.bucket.unmarshal v = .ok b → b.name = n) :
    WellFormed json f' := by
  refine ⟨fun k e => he.permanent hw, ?_, ?_⟩
  · intro na b hh
    rw [he.bucketRecord] at hh
    split_ifs at hh with hnn
    · obtain ⟨v, hv, hu⟩ := Option.bind_eq_some_iff.mp hh
      rw [hnn]
      exact hn v b hv (toOption_eq_some hu)
    · exact hw.bucketName na b hh
  · intro k o hh
    rw [he.objectRecord_of_bucket] at hh
    exact hw.objectKey k o hh

lemma WellFormed.editObject (hw : WellFormed json f) (he : Edited ("object:" ++ n) d f f')
    (hn : ∀ v o, d = some v → json.object.unmarshal v = .ok o → getObjectKey o.bucket o.key = n) :
    WellFormed json f' := by
  refine ⟨fun k e => he.permanent hw, ?_, ?_⟩
  · intro na b hh
    rw [he.bucketRecord_of_object] at hh
    exact hw.bucketName na b hh
  · intro k o hh
    rw [he.objectRecord] at hh
    split_ifs at hh with hnn
    · obtain ⟨v, hv, hu⟩ := Option.bind_eq_some_iff.mp hh
      rw [hnn]
      exact hn v o hv (toOption_eq_some hu)
    · exact hw.objectKey k o hh

variable {ms' : MetadataStore V}

lemma Mirror.editBucket (hm : Mirror json ms f) (he : Edited ("bucket:" ++ n) d f f')
    (hn : ∀ v b, d = some v → json.bucket.unmarshal v = .ok b → b.name = n) (hb : ∀ na, ms'.buckets.lookup na =
      if na = n then d.bind (fun v => (json.bucket.unmarshal v).toOption) else ms.buckets.lookup na)
    (ho : ms'.objects = ms.objects) : Mirror json ms' f' := by
  refine ⟨hm.wellFormed.editBucket he hn, ?_, ?_⟩
  · intro na
    rw [hb, he.bucketRecord, hm.buckets]
  · intro k
    rw [ho, he.objectRecord_of_bucket, hm.objects]

lemma Mirror.editObject (hm : Mirror json ms f) (he : Edited ("object:" ++ n) d f f')
    (hn : ∀ v o, d = some v → json.object.unmarshal v = .ok o → getObjectKey o.bucket o.key = n)
    (ho : ∀ k, (ms'.objects.lookup k).map Object.sansAccess =
      if k = n then (d.bind (fun v => (json.object.unmarshal v).toOption)).map Object.sansAccess
      else (ms.objects.lookup k).map Object.sansAccess) (hb : ms'.buckets = ms.buckets) : Mirror json ms' f' := by
  refine ⟨hm.wellFormed.editObject he hn, ?_, ?_⟩
  · intro na
    rw [hb, he.bucketRecord_of_object, hm.buckets]
  · intro k
    rw [ho, he.objectRecord]
    split_ifs with hk
    · rfl
    · exact hm.objects k

end Records

def FaithfulBucket (ms : MetadataStore V) (name : String) : Except String Bucket → Prop
  | .ok b => b.name = name
  | .error _ => ms.buckets.lookup name = none

def FaithfulObject (ms : MetadataStore V) (k : String) : Except String Object → Prop
  | .ok o => getObjectKey o.bucket o.key = k
  | .error _ => ms.objects.lookup k = none

def FaithfulOp (json : MetadataJSON V) (ms : MetadataStore V) (op : BatchOperation V) : Prop :=
  (op.type = "create_bucket" → FaithfulBucket ms op.bucket (json.bucket.unmarshal op.value)) ∧
  (op.type = "put_object_meta" → FaithfulObject ms (getObjectKey op.bucket op.key) (json.object.unmarshal op.value))

def Faithful (json : MetadataJSON V) (ms : MetadataStore V) : Call V → Prop
  | .updateBucket env b => ms.buckets.lookup b.name = some { b with updatedAt := env.now }
  | .putObject _ o => o.size = oldSize (ms.objects.lookup (getObjectKey o.bucket o.key))
  | .deleteObject _ bucket key =>
    ms.buckets.lookup bucket = none ∨ oldSize (ms.objects.lookup (getObjectKey bucket key)) = 0
  | .executeBatch _ ops => Admissible (editCache json) (FaithfulOp json) ms ops
  | _ => True

section Steps

variable {json : MetadataJSON V} {ms : MetadataStore V} {f : FSM V} {op : BatchOperation V}

section

variable (hm : Mirror json ms f)

include hm

lemma Mirror.cacheBucket (now : Time) (ht : op.type = "create_bucket") (hf : FaithfulOp json ms op) :
    Mirror json (ms.editCache json op) (f.perform (now, .set ("bucket:" ++ op.bucket) op.value 0)) := by
  have hn := hf.1 ht
  rw [editCache, applyToCache, if_pos ht]
  refine hm.editBucket (edited_set f now ("bucket:" ++ op.bucket) op.value) ?_ ?_ ?_
  · intro v b hh hu
    cases hh
    rwa [hu] at hn
  · intro na
    cases hu : json.bucket.unmarshal op.value with
    | error err =>
      rw [hu, FaithfulBucket] at hn
      split_ifs with hnn
      · rwa [hnn, Option.bind_some, hu]
      · rfl
    | ok b =>
      rw [hu, FaithfulBucket] at hn
      simp only [lookup_insert_if, hn, Option.bind_some, hu]
      rfl
  · cases json.bucket.unmarshal op.value <;> rfl

lemma Mirror.dropBucket (now : Time) (ht : op.type = "delete_bucket") :
    Mirror json (ms.editCache json op) (f.perform (now, .delete ("bucket:" ++ op.bucket))) := by
  rw [editCache, applyToCache, if_neg (by simp [ht]), if_pos ht]
  refine hm.editBucket (edited_delete f now ("bucket:" ++ op.bucket)) ?_ ?_ rfl
  · intro v b hh
    cases hh
  · intro na
    exact lookup_erase_if _ na op.bucket

lemma Mirror.cacheObject (now : Time) (ht : op.type = "put_object_meta") (hf : FaithfulOp json ms op) :
    Mirror json (ms.editCache json op)
      (f.perform (now, .set ("object:" ++ getObjectKey op.bucket op.key) op.value 0)) := by
  have hn := hf.2 ht
  rw [editCache, applyToCache, if_neg (by simp [ht]), if_neg (by simp [ht]), if_pos ht]
  refine hm.editObject (edited_set f now ("object:" ++ getObjectKey op.bucket op.key) op.value) ?_ ?_ ?_
  · intro v o hh hu
    cases hh
    rwa [hu] at hn
  · intro k
    cases hu : json.object.unmarshal op.value with
    | error err =>
      rw [hu] at hn
      split_ifs with hnn
      · rw [hnn, Option.bind_some, hu]
        exact congrArg (Option.map Object.sansAccess) hn
      · rfl
    | ok o =>
      rw [hu, FaithfulObject] at hn
      simp only [lookup_insert_if, hn, Option.bind_some, hu]
      split_ifs <;> rfl
  · cases json.object.unmarshal op.value <;> rfl

lemma Mirror.dropObject (now : Time) (ht : op.type = "delete_object_meta") :
    Mirror json (ms.editCache json op) (f.perform (now, .delete ("object:" ++ getObjectKey op.bucket op.key))) := by
  rw [editCache, applyToCache, if_neg (by simp [ht]), if_neg (by simp [ht]),
    if_neg (by simp [ht]), if_pos ht]
  refine hm.editObject (edited_delete f now ("object:" ++ getObjectKey op.bucket op.key)) ?_ ?_ rfl
  · intro v o hh
    cases hh
  · intro k
    rw [lookup_erase_if]
    split_ifs <;> rfl

lemma Mirror.editCache (now : Time)
    (op : BatchOperation V) (hv : op.command.mutation.valid = true) (hf : FaithfulOp json ms op) :
    Mirror json (editCache json ms op) (f.perform (now, op.command.mutation)) := by
  rcases MetadataCommand.mutation_cases hv with ⟨ht, he⟩ | ⟨ht, he⟩ | ⟨ht, he⟩ | ⟨ht, he⟩ <;> rw [he]
  · exact hm.cacheBucket now ht hf
  · exact hm.dropBucket now ht
  · exact hm.cacheObject now ht hf
  · exact hm.dropObject now ht

end

lemma Mirror.runEditCache (ops : List (BatchOperation V)) (hm : Mirror json ms f)
    (now : ℕ → Time) (i : ℕ) (hv : ∀ op ∈ ops, op.command.mutation.valid = true)
    (hf : Admissible (MetadataStore.editCache json) (FaithfulOp json) ms ops) :
    Mirror json (run (MetadataStore.editCache json) ms ops)
      (f.performAll (stamp now i (ops.map (fun op => op.command.mutation)))) := by
  induction ops generalizing ms f i with
  | nil => exact hm
  | cons op ops ih =>
    have hh := hm.editCache (now i) op (hv op (List.mem_cons_self ..)) hf.1
    exact ih hh (i + 1) (fun o ho => hv o (List.mem_cons_of_mem _ ho)) hf.2

lemma Mirror.withRaft (hm : Mirror json ms f) (x : Option (RaftStore V)) :
    Mirror json { ms with raftStore := x } f := ⟨hm.wellFormed, hm.buckets, hm.objects⟩

variable {r : RaftStore V} {env : Env}

lemma fsm_append_metadata {cmd : MetadataCommand V}
    (hr : ms.raftStore = some r) (ha : ms.Accepts env (.ofMetadata cmd))
    (ho : cmd.op ≠ "" ∧ cmd.op ≠ "set" ∧ cmd.op ≠ "delete") :
    (r.append env.raft (.ofMetadata cmd)).fsm = r.fsm.perform (env.raft.now 0, cmd.mutation) := by
  rw [RaftStore.fsm_append, mutations_of_valid ho (ha r hr).2.2]
  rfl

def Mirrored (json : MetadataJSON V) (ms : MetadataStore V) : Prop :=
  ∃ r, ms.raftStore = some r ∧ Mirror json ms r.fsm

lemma raftStore_record {da : LogData V}
    (hr : ms.raftStore = some r) : (ms.record env da).raftStore = some (r.append env.raft da) := by
  rw [record, hr]
  rfl

lemma Mirrored.edited {ms' : MetadataStore V} (hm : Mirrored json ms) (op : BatchOperation V)
    (ha : ms.Accepts env (.ofMetadata op.command)) (ho : op.type ≠ "" ∧ op.type ≠ "set" ∧ op.type ≠ "delete")
    (hv : op.command.mutation.valid = true) (hf : FaithfulOp json ms op)
    (hr : ms'.raftStore = (ms.record env (.ofMetadata op.command)).raftStore)
    (hb : ms'.buckets = (ms.editCache json op).buckets) (hob : ms'.objects = (ms.editCache json op).objects) :
    Mirrored json ms' := by
  obtain ⟨r, hr', hm⟩ := hm
  refine ⟨r.append env.raft (.ofMetadata op.command), hr.trans (raftStore_record hr'), ?_⟩
  rw [fsm_append_metadata hr' ha ho]
  obtain ⟨hw, hbu, hobj⟩ := hm.editCache (env.raft.now 0) op hv hf
  exact ⟨hw, by rwa [hb], by rwa [hob]⟩

lemma Mirrored.createBucket (hm : Mirrored json ms) (env : Env) (b : Bucket)
    (hs : failure (ms.createBucket json env b).2 = none) : Mirrored json (ms.createBucket json env b).1 := by
  rcases ms.createBucket_cases json env b with ⟨ms', err, he, -⟩ | ⟨v, -, hv, ha, he⟩
  · rw [he] at hs
    cases hs
  · have hu := json.bucket.unmarshal_marshal hv
    rw [he]
    refine hm.edited ⟨"create_bucket", b.name, "", v⟩ ha (by simp) rfl ⟨fun _ => ?_, by simp⟩ rfl ?_ ?_
    · rw [hu]
      rfl
    all_goals simp only [editCache, applyToCache, if_true, hu]; rfl

lemma Mirrored.deleteBucket [Inhabited V] (hm : Mirrored json ms) (env : Env) (na : String)
    (hs : failure (ms.deleteBucket env na).2 = none) : Mirrored json (ms.deleteBucket env na).1 := by
  rcases ms.deleteBucket_cases env na with ⟨ms', err, he, -⟩ | ⟨ha, he⟩
  · rw [he] at hs
    cases hs
  · rw [he]
    exact hm.edited ⟨"delete_bucket", na, "", default⟩ ha (by simp) rfl ⟨by simp, by simp⟩ rfl rfl rfl

lemma charged_eq {o : Object} (b : Bucket)
    (hz : o.size = oldSize (ms.objects.lookup (getObjectKey o.bucket o.key))) : ms.charged o b = b := by
  obtain ⟨na, sc, qb, usedBytes, ca, ua, ls, ow⟩ := b
  simp only [charged, chargeBucket, Bucket.mk.injEq, true_and, and_true]
  rw [hz]
  exact Int64.sub_add_cancel ..

lemma MetadataStore.charge_eq {o : Object} {b : Bucket} (hb : ms.buckets.lookup o.bucket = some b)
    (hz : o.size = oldSize (ms.objects.lookup (getObjectKey o.bucket o.key))) : ms.charge o b = ms := by
  rw [charge, charged_eq b hz, insert_lookup_self _ hb]

section

variable (hm : Mirrored json ms)

include hm

lemma Mirrored.putObject (env : Env) (o : Object) (hs : failure (ms.putObject json env o).2 = none)
    (hz : o.size = oldSize (ms.objects.lookup (getObjectKey o.bucket o.key))) :
    Mirrored json (ms.putObject json env o).1 := by
  rcases ms.putObject_cases json env o with ⟨err, he⟩ | ⟨b, hb, ⟨ms', err, he, -⟩ | ⟨v, -, hv, ha, he⟩⟩
  · rw [he] at hs
    cases hs
  · rw [he] at hs
    cases hs
  · have hb := getBucket_ok hb
    have hn : b.name = o.bucket := by
      obtain ⟨r, -, hm⟩ := hm
      exact hm.wellFormed.bucketName _ _ (by rw [← hm.buckets, hb])
    have hu := json.object.unmarshal_marshal hv
    rw [he]
    refine hm.edited ⟨"put_object_meta", o.bucket, o.key, v⟩ ha (by simp) rfl ⟨by simp, fun _ => ?_⟩ rfl ?_ ?_
    · rw [hu]
      rfl
    · simp only [charge, charged_eq b hz, hn, insert_lookup_self _ hb, editCache, applyToCache, hu]
      rfl
    · simp only [editCache, applyToCache, hu]
      rfl

lemma Mirrored.deleteObject [Inhabited V] (env : Env)
    (b key : String) (hs : failure (ms.deleteObject env b key).2 = none) (hz : ms.buckets.lookup b = none ∨
      oldSize (ms.objects.lookup (getObjectKey b key)) = 0) : Mirrored json (ms.deleteObject env b key).1 := by
  rcases ms.deleteObject_cases env b key with ⟨ms', err, he, -⟩ | ⟨o, ho, ha, he⟩
  · rw [he] at hs
    cases hs
  · have hr : ({ ms.record env (deleteObjectCmd b key) with
        objects := ms.objects.erase (getObjectKey b key) }.releaseBytes b o : MetadataStore V) =
          { ms.record env (deleteObjectCmd b key) with
            objects := ms.objects.erase (getObjectKey b key) } := by
      have hb : (ms.record env (deleteObjectCmd b key)).buckets = ms.buckets := rfl
      rw [releaseBytes]
      simp only [hb]
      cases hl : ms.buckets.lookup b with
      | none => rfl
      | some bkt =>
        have hzz : o.size = 0 := by
          rcases hz with hz | hz
          · rw [hl] at hz
            cases hz
          · rwa [ho] at hz
        simp only [hzz, Int64.sub_zero, insert_lookup_self _ hl]
    rw [he, hr]
    exact hm.edited ⟨"delete_object_meta", b, key, default⟩ ha (by simp) rfl ⟨by simp, by simp⟩ rfl rfl rfl

lemma Mirrored.executeBatch [Inhabited V] (env : Env)
    (ops : List (BatchOperation V)) (hs : failure (ms.executeBatch json env ops).2 = none)
    (hf : Admissible (editCache json) (FaithfulOp json) ms ops) : Mirrored json (ms.executeBatch json env ops).1 := by
  obtain ⟨r, hr, hm⟩ := hm
  rcases ms.executeBatch_cases json env ops with ⟨ms', err, he, -⟩ | ⟨-, re, he⟩ | ⟨hne, ha, re, he⟩
  · rw [he] at hs
    cases hs
  · rw [he]
    exact ⟨r, hr, hm⟩
  · rw [he, record, run_editCache_withRaft]
    refine ⟨r.append env.raft (MetadataStore.batchCmd ops), by rw [hr]; rfl, Mirror.withRaft ?_ _⟩
    have hmut := MetadataStore.mutations_batchCmd hne
    rw [RaftStore.fsm_append, hmut]
    apply hm.runEditCache ops env.raft.now 0 _ hf
    intro op ho
    apply (ha r hr).2.2
    rw [hmut]
    exact List.mem_map_of_mem ho

lemma Mirrored.getObject (now : Time) (b key : String)
    (opt : ReadOptions) : Mirrored json (ms.getObjectWithOptions now b key opt).1 := by
  obtain ⟨r, hr, hm⟩ := hm
  rw [getObjectWithOptions]
  split
  · exact ⟨r, hr, hm⟩
  · exact ⟨r, hr, hm⟩
  · next o _ ho =>
    split
    · exact ⟨r, hr, hm⟩
    · refine ⟨r, hr, hm.wellFormed, hm.buckets, ?_⟩
      intro k
      rw [← hm.objects, lookup_insert_if]
      split_ifs with hk
      · rw [hk, ho]
        rfl
      · rfl

lemma Mirrored.updateBucket (env : Env) (b : Bucket)
    (hf : ms.buckets.lookup b.name = some { b with updatedAt := env.now }) :
    Mirrored json (ms.updateBucket env b).1 := by
  rw [MetadataStore.updateBucket]
  simp only [hf, insert_lookup_self _ hf]
  exact hm

lemma Mirrored.call [Inhabited V] (c : Call V)
    (hs : (ms.call json c).2 = none) (hf : Faithful json ms c) : Mirrored json (ms.after json c) := by
  cases c with
  | createBucket env b => exact hm.createBucket env b hs
  | updateBucket env b => exact hm.updateBucket env b hf
  | deleteBucket env na => exact hm.deleteBucket env na hs
  | putObject env o => exact hm.putObject env o hs hf
  | deleteObject env bucket key => exact hm.deleteObject env bucket key hs hf
  | executeBatch env ops => exact hm.executeBatch env ops hs hf
  | getObject now bucket key opt => exact hm.getObject now bucket key opt

end

end Steps

def SameRecords (a b : MetadataStore V) : Prop :=
  a.buckets = b.buckets ∧ ∀ k, (a.objects.lookup k).map Object.sansAccess = (b.objects.lookup k).map Object.sansAccess

def Succeeds [Inhabited V] (json : MetadataJSON V) (ms : MetadataStore V) (c : Call V) : Prop :=
  (ms.call json c).2 = none

instance [Inhabited V] (json : MetadataJSON V) (ms : MetadataStore V) (c : Call V) : Decidable (Succeeds json ms c) :=
  inferInstanceAs (Decidable (_ = _))

theorem rebuilt_cache_agrees [Inhabited V] (json : MetadataJSON V) (r : RaftStore V) (hw : WellFormed json r.fsm)
    (t : Time) (all : List (String × V)) (he : Enumerates all (r.fsm.getAll t)) (calls : List (Call V))
    (hc : Admissible (after json) (fun ms c => Succeeds json ms c ∧ Faithful json ms c)
      (newMetadataStore json (some r) all) calls) :
    ∃ r', (run (after json) (newMetadataStore json (some r) all) calls).raftStore = some r' ∧
      ∀ now all', Enumerates all' (r'.fsm.getAll now) → SameRecords (newMetadataStore json (some r') all')
          (run (after json) (newMetadataStore json (some r) all) calls) := by
  have hnew : Mirrored json (newMetadataStore json (some r) all) :=
    ⟨r, raftStore_initializeFromRAFT json all _, hw, lookup_buckets_rebuilt hw he, fun k => by
      rw [lookup_objects_rebuilt hw he]⟩
  have hm := run_invariant (Mirrored json) (fun ms c hm hh => hm.call c hh.1 hh.2) calls hnew hc
  obtain ⟨r', hr, hm⟩ := hm
  refine ⟨r', hr, ?_⟩
  intro now all' he'
  refine ⟨Finmap.ext_lookup ?_, ?_⟩
  · intro na
    rw [lookup_buckets_rebuilt hm.wellFormed he', hm.buckets]
  · intro k
    rw [lookup_objects_rebuilt hm.wellFormed he', hm.objects]

def loneRaft : RaftStore (Bucket ⊕ Object) := ⟨newFSM, [], true, "node-0", "node-0"⟩

def emptyObject (bucket key : String) : Object :=
  ⟨bucket, key, 0, "", [], 1, .hot, "", none, 0, 0, 0, false, 0, 0, []⟩

theorem rebuilt_cache_agrees_small : ∃ r', (run (after recordJSON) (newMetadataStore recordJSON (some loneRaft) [])
        [.createBucket calmEnv (plainBucket "b"), .putObject calmEnv (emptyObject "b" "k")]).raftStore = some r' ∧
      ∀ now all', Enumerates all' (r'.fsm.getAll now) → SameRecords (newMetadataStore recordJSON (some r') all')
          (run (after recordJSON) (newMetadataStore recordJSON (some loneRaft) [])
            [.createBucket calmEnv (plainBucket "b"), .putObject calmEnv (emptyObject "b" "k")]) := by
  refine rebuilt_cache_agrees recordJSON loneRaft (wellFormed_new recordJSON) 0 [] enumerates_empty _ ?_
  exact ⟨⟨by decide, trivial⟩, ⟨by decide, rfl⟩, trivial⟩

def raisedQuota : List (Call (Bucket ⊕ Object)) :=
  [.createBucket calmEnv (plainBucket "b"), .updateBucket calmEnv { plainBucket "b" with quotaBytes := 20 }]

theorem rebuilt_cache_differs : Admissible (after recordJSON) (Succeeds recordJSON)
        (newMetadataStore recordJSON (some loneRaft) []) raisedQuota ∧
      ∃ r', (run (after recordJSON) (newMetadataStore recordJSON (some loneRaft) [])
          raisedQuota).raftStore = some r' ∧ ∃ all', Enumerates all' (r'.fsm.getAll (unix 20)) ∧
          ¬ SameRecords (newMetadataStore recordJSON (some r') all')
            (run (after recordJSON) (newMetadataStore recordJSON (some loneRaft) []) raisedQuota) := by
  refine ⟨⟨by decide, by decide, trivial⟩, _, rfl,
    [("bucket:b", .inl (stampBucket (unix 10) (plainBucket "b")))], ?_, ?_⟩
  · have he := enumerates_singleton "bucket:b"
      (Sum.inl (stampBucket (unix 10) (plainBucket "b")) : Bucket ⊕ Object)
    convert he using 1
    decide
  · intro hs
    have hb := congrArg (fun m => (m.lookup "b").map Bucket.quotaBytes) hs.1
    revert hb
    decide

end Cloudless.Storage
