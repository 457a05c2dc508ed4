import Cloudless.Storage.CacheAgreement

/-! A cluster of metadata stores over one replicated log: requests on the leader, replication to the
followers and leader changes, with the strong reads that the leader then answers. -/

namespace Cloudless.Storage

open Foundations FiniteMaps GoStd Runs Raft MetadataStore BatchOperation

variable {N V : Type}

inductive Item
  | bucket (name : String)
  | object (bucket key : String)
  deriving DecidableEq

def Item.write (cmd : MetadataCommand V) : Item → Option (Option V)
  | .bucket name =>
    if cmd.bucket = name ∧ cmd.op = "create_bucket" then some (some cmd.value)
    else if cmd.bucket = name ∧ cmd.op = "delete_bucket" then some none
    else none
  | .object b k =>
    if cmd.bucket = b ∧ cmd.key = k ∧ cmd.op = "put_object_meta" then some (some cmd.value)
    else if cmd.bucket = b ∧ cmd.key = k ∧ cmd.op = "delete_object_meta" then some none
    else none

def operations (l : LogData V) : List (MetadataCommand V) :=
  match l.dispatch with
  | .metadataBatch cmds => cmds
  | .metadata cmd => [cmd]
  | _ => []

def Item.writeAll (x : Item) (cmds : List (MetadataCommand V)) : Option (Option V) :=
  cmds.foldl (fun w cmd => (x.write cmd).or w) none

def Item.written (x : Item) (l : LogData V) : Option (Option V) := x.writeAll (operations l)

def Item.lastCommit (x : Item) (log : List (N × LogData V)) : Option (N × Option V) :=
  log.foldl (fun w e => ((x.written e.2).map (Prod.mk e.1)).or w) none

def Item.committed (x : Item) (log : List (N × LogData V)) : Option V := (x.lastCommit log).bind Prod.snd

structure Cluster (N V : Type) where
  nodes : N → MetadataStore V
  log : List (N × LogData V)
  leader : N

inductive ClusterStep (N V : Type)
  | request (clock : ℕ → RaftEnv) (c : Call V)
  | replicate (n : N) (env : RaftEnv)
  | elect (n : N) (addr : String)

def catchUp (clock : ℕ → RaftEnv) : ℕ → List (LogData V) → RaftStore V → RaftStore V
  | _, [], r => r
  | i, data :: rest, r => catchUp clock (i + 1) rest (r.append (clock i) data)

namespace MetadataStore

def raftLog (ms : MetadataStore V) : List (LogData V) := (ms.raftStore.map RaftStore.log).getD []

def withRaft (f : RaftStore V → RaftStore V) (ms : MetadataStore V) : MetadataStore V :=
  { ms with raftStore := ms.raftStore.map f }

end MetadataStore

variable (json : MetadataJSON V)

namespace Cluster

variable [DecidableEq N] [Inhabited V]

def entries (c : Cluster N V) : List (LogData V) := c.log.map Prod.snd

def ready (clock : ℕ → RaftEnv) (c : Cluster N V) : MetadataStore V :=
  let ms := c.nodes c.leader
  ms.withRaft (catchUp clock 0 (c.entries.drop ms.raftLog.length))

def step (json : MetadataJSON V) (c : Cluster N V) : ClusterStep N V → Cluster N V
  | .request clock call =>
    let ms := (c.ready clock).after json call
    { c with
      nodes := Function.update c.nodes c.leader ms
      log := c.log ++ (ms.raftLog.drop (c.ready clock).raftLog.length).map (Prod.mk c.leader) }
  | .replicate n env =>
    { c with
      nodes := Function.update c.nodes n ((c.nodes n).withRaft
        (catchUp (fun _ => env) 0 ((c.entries.drop (c.nodes n).raftLog.length).take 1))) }
  | .elect n addr =>
    { c with
      nodes := fun m => (c.nodes m).withRaft (fun r => { r with isLeader := decide (m = n), leader := addr })
      leader := n }

def start (json : MetadataJSON V) (leader : N) (addr : String) (raftID : N → String) : Cluster N V where
  nodes := fun m => .newMetadataStore json (some ⟨newFSM, [], decide (m = leader), addr, raftID m⟩) []
  log := []
  leader := leader

end Cluster

variable {ms : MetadataStore V} {x : Item} {opt : ReadOptions}

section Effects

variable {json}

def Holds (json : MetadataJSON V) (ms : MetadataStore V) (v : Option V) : Item → Prop
  | .bucket name => ms.buckets.lookup name = v.bind (fun v => (json.bucket.unmarshal v).toOption)
  | .object b k => (ms.objects.lookup (getObjectKey b k)).map Object.sansAccess =
      (v.bind (fun v => (json.object.unmarshal v).toOption)).map Object.sansAccess

def Named (ms : MetadataStore V) : Prop := ∀ name b, ms.buckets.lookup name = some b → b.name = name

def OwnBucket (name bucket : String) : Except String Bucket → Prop
  | .ok b => b.name = name ↔ bucket = name
  | .error _ => bucket ≠ name

def OwnObject (b k bucket key : String) : Except String Object → Prop
  | .ok o => getObjectKey o.bucket o.key = getObjectKey b k ↔ bucket = b ∧ key = k
  | .error _ => ¬ (bucket = b ∧ key = k)

def PreciseOp (json : MetadataJSON V) (op : BatchOperation V) : Item → Prop
  | .bucket name => op.type = "create_bucket" → OwnBucket name op.bucket (json.bucket.unmarshal op.value)
  | .object b k =>
    (op.type = "put_object_meta" → OwnObject b k op.bucket op.key (json.object.unmarshal op.value)) ∧
    (op.type = "delete_object_meta" → getObjectKey op.bucket op.key = getObjectKey b k → op.bucket = b ∧ op.key = k)

lemma written_ofMetadata {cmd : MetadataCommand V} :
    x.written (LogData.ofMetadata cmd) = if cmd.op ≠ "" ∧ cmd.bucket ≠ "" then x.write cmd else none := by
  simp only [Item.written, operations, LogData.dispatch, LogData.ofMetadata, LogData.dispatchMetadata]
  split_ifs with h
  · simp [Item.writeAll]
  · rfl

variable {ops : List (BatchOperation V)}

lemma written_batchCmd [Inhabited V] : x.written (batchCmd ops) = x.writeAll (ops.map command) := by
  cases ops <;> rfl

lemma getD_writeAll {cm : List (MetadataCommand V)} {v : Option V} :
    (x.writeAll cm).getD v = cm.foldl (fun v cmd => (x.write cmd).getD v) v := by
  have hg : ∀ w : Option (Option V), (cm.foldl (fun w cmd => (x.write cmd).or w) w).getD v =
      cm.foldl (fun v cmd => (x.write cmd).getD v) (w.getD v) := by
    induction cm with
    | nil => exact fun _ => rfl
    | cons cmd cm ih =>
      intro w
      rw [List.foldl_cons, ih, List.foldl_cons]
      cases x.write cmd <;> rfl
  exact hg none

variable {cmd : MetadataCommand V}

lemma bucket_of_write (ht : cmd.op = "create_bucket" ∨ cmd.op = "delete_bucket")
    (hw : x.write cmd ≠ none) : x = .bucket cmd.bucket := by
  cases x with
  | bucket n =>
    by_cases hn : cmd.bucket = n
    · rw [hn]
    · simp [Item.write, hn] at hw
  | object b k =>
    rcases ht with ht | ht <;> simp [Item.write, ht] at hw

lemma object_of_write (ht : cmd.op = "put_object_meta" ∨ cmd.op = "delete_object_meta") (hw : x.write cmd ≠ none) :
    x = .object cmd.bucket cmd.key := by
  cases x with
  | bucket n =>
    rcases ht with ht | ht <;> simp [Item.write, ht] at hw
  | object b k =>
    by_cases hn : cmd.bucket = b ∧ cmd.key = k
    · rw [hn.1, hn.2]
    · simp only [Item.write, ← and_assoc, hn, false_and, if_false, ne_eq, not_true] at hw

lemma write_of_ne_bucket
    (ht : cmd.op = "create_bucket" ∨ cmd.op = "delete_bucket") (hx : x ≠ .bucket cmd.bucket) : x.write cmd = none := by
  by_contra hw
  exact hx (bucket_of_write ht hw)

lemma write_of_ne_object
    (ht : cmd.op = "put_object_meta" ∨ cmd.op = "delete_object_meta") (hx : x ≠ .object cmd.bucket cmd.key) :
    x.write cmd = none := by
  by_contra hw
  exact hx (object_of_write ht hw)

variable {v : Option V}

lemma Holds.insertBucket (hh : Holds json ms v x) (na : String)
    (b : Bucket) (hx : x = .bucket na → ms.buckets.lookup na = some b) :
    Holds json { ms with buckets := ms.buckets.insert na b } v x := by
  cases x with
  | object b k => exact hh
  | bucket n =>
    rw [Holds, lookup_insert_if]
    split_ifs with hn
    · subst hn
      rwa [← hx rfl]
    · exact hh

variable {op : BatchOperation V}

section

variable (hh : Holds json ms v x)

include hh

lemma Holds.createBucket (ht : op.type = "create_bucket") (hp : PreciseOp json op x) :
    Holds json (ms.editCache json op) ((x.write op.command).getD v) x := by
  rw [editCache, applyToCache, if_pos ht]
  by_cases hx : x = .bucket op.bucket
  · subst hx
    have hp := hp ht
    cases hu : json.bucket.unmarshal op.value with
    | error err =>
      rw [hu] at hp
      exact absurd rfl hp
    | ok b =>
      rw [hu] at hp
      have hn : b.name = op.bucket := hp.mpr rfl
      have hw : (Item.bucket op.bucket).write op.command = some (some op.value) := by
        simp [Item.write, command, ht]
      rw [hw, Option.getD_some, Holds, Option.bind_some, hu]
      simp only [hn, Finmap.lookup_insert]
      rfl
  · rw [write_of_ne_bucket (.inl ht) hx, Option.getD_none]
    cases hu : json.bucket.unmarshal op.value with
    | error err => exact hh
    | ok b =>
      refine hh.insertBucket b.name b (fun he => ?_)
      subst he
      have hp := hp ht
      rw [hu] at hp
      exact absurd (congrArg Item.bucket (hp.mp rfl)).symm hx

lemma Holds.deleteBucket (ht : op.type = "delete_bucket") :
    Holds json (ms.editCache json op) ((x.write op.command).getD v) x := by
  rw [editCache, applyToCache, if_neg (by simp [ht]), if_pos ht]
  by_cases hx : x = .bucket op.bucket
  · subst hx
    have hw : (Item.bucket op.bucket).write op.command = some none := by
      simp [Item.write, command, ht]
    rw [hw]
    exact Finmap.lookup_erase ..
  · rw [write_of_ne_bucket (.inr ht) hx, Option.getD_none]
    cases x with
    | object b k => exact hh
    | bucket n =>
      have hn : n ≠ op.bucket := fun he => hx (congrArg Item.bucket he)
      rwa [Holds, Finmap.lookup_erase_ne hn]

lemma Holds.putObjectMeta (ht : op.type = "put_object_meta") (hp : PreciseOp json op x) :
    Holds json (ms.editCache json op) ((x.write op.command).getD v) x := by
  rw [editCache, applyToCache, if_neg (by simp [ht]), if_neg (by simp [ht]), if_pos ht]
  by_cases hx : x = .object op.bucket op.key
  · subst hx
    have hp := hp.1 ht
    cases hu : json.object.unmarshal op.value with
    | error err =>
      rw [hu] at hp
      exact absurd ⟨rfl, rfl⟩ hp
    | ok o =>
      rw [hu] at hp
      have hk : getObjectKey o.bucket o.key = getObjectKey op.bucket op.key := hp.mpr ⟨rfl, rfl⟩
      have hw : (Item.object op.bucket op.key).write op.command = some (some op.value) := by
        simp [Item.write, command, ht]
      rw [hw, Option.getD_some, Holds, Option.bind_some, hu]
      simp only [hk, Finmap.lookup_insert]
      rfl
  · rw [write_of_ne_object (.inl ht) hx, Option.getD_none]
    cases hu : json.object.unmarshal op.value with
    | error err => exact hh
    | ok o =>
      cases x with
      | bucket n => exact hh
      | object b k =>
        have hp := hp.1 ht
        rw [hu] at hp
        have hk : getObjectKey b k ≠ getObjectKey o.bucket o.key := by
          intro he
          obtain ⟨hb, hk⟩ := hp.mp he.symm
          exact hx (by rw [hb, hk])
        rw [Holds]
        simp only [Finmap.lookup_insert_of_ne _ hk]
        exact hh

lemma Holds.deleteObjectMeta (ht : op.type = "delete_object_meta") (hp : PreciseOp json op x) :
    Holds json (ms.editCache json op) ((x.write op.command).getD v) x := by
  rw [editCache, applyToCache, if_neg (by simp [ht]), if_neg (by simp [ht]),
    if_neg (by simp [ht]), if_pos ht]
  by_cases hx : x = .object op.bucket op.key
  · subst hx
    have hw : (Item.object op.bucket op.key).write op.command = some none := by
      simp [Item.write, command, ht]
    rw [hw, Holds, Finmap.lookup_erase]
    rfl
  · rw [write_of_ne_object (.inr ht) hx, Option.getD_none]
    cases x with
    | bucket n => exact hh
    | object b k =>
      have hk : getObjectKey b k ≠ getObjectKey op.bucket op.key := by
        intro he
        obtain ⟨hb, hk⟩ := hp.2 ht he.symm
        exact hx (by rw [hb, hk])
      rwa [Holds, Finmap.lookup_erase_ne hk]

lemma Holds.editCache (op : BatchOperation V) (hv : op.command.mutation.valid = true) (hp : PreciseOp json op x) :
    Holds json (ms.editCache json op) ((x.write op.command).getD v) x := by
  rcases MetadataCommand.mutation_cases hv with ⟨ht, -⟩ | ⟨ht, -⟩ | ⟨ht, -⟩ | ⟨ht, -⟩
  · exact hh.createBucket ht hp
  · exact hh.deleteBucket ht
  · exact hh.putObjectMeta ht hp
  · exact hh.deleteObjectMeta ht hp

end

lemma Holds.runEditCache (ops : List (BatchOperation V))
    (hh : Holds json ms v x) (hv : ∀ op ∈ ops, op.command.mutation.valid = true)
    (hp : ∀ op ∈ ops, PreciseOp json op x) : Holds json (run (MetadataStore.editCache json) ms ops)
      ((x.writeAll (ops.map command)).getD v) x := by
  rw [getD_writeAll]
  induction ops generalizing ms v with
  | nil => exact hh
  | cons op ops ih =>
    have he := hh.editCache op (hv op (List.mem_cons_self ..)) (hp op (List.mem_cons_self ..))
    exact ih he (fun o ho => hv o (List.mem_cons_of_mem _ ho)) (fun o ho => hp o (List.mem_cons_of_mem _ ho))

def NotLost (env : Env) : Prop := ∀ err, env.raft.commit ≠ .lost err

def settle (x : Item) : Option (LogData V) → Option V → Option V
  | none, v => v
  | some data, v => (x.written data).getD v

def Follows (json : MetadataJSON V) (x : Item) (ms ms' : MetadataStore V) : Prop :=
  ∀ r, ms.raftStore = some r → ∃ r' new, ms'.raftStore = some r' ∧ r'.isLeader = r.isLeader ∧
    r'.log = r.log ++ Option.toList new ∧ ∀ v, Holds json ms v x → Holds json ms' (settle x new v) x

variable {o : Object} {ms' : MetadataStore V}

lemma follows_silent (hr : ms'.raftStore = ms.raftStore)
    (hh : ∀ v, Holds json ms v x → Holds json ms' v x) : Follows json x ms ms' := by
  intro r hs
  exact ⟨r, none, hr.trans hs, rfl, by simp, hh⟩

lemma follows_record (env : Env) (d : LogData V) (hr : ms'.raftStore = (ms.record env d).raftStore)
    (hh : ∀ v, Holds json ms v x → Holds json ms' ((x.written d).getD v) x) : Follows json x ms ms' := by
  intro r hs
  refine ⟨r.append env.raft d, some d, ?_, rfl, rfl, hh⟩
  rw [hr, raftStore_record hs]

def Leads (ms : MetadataStore V) : Prop := ∃ r, ms.raftStore = some r ∧ r.isLeader = true

variable {env : Env}

lemma follows_turnedDown {d : LogData V} (hl : Leads ms) (ht : MetadataStore.TurnedDown env d ms ms')
    (hx : x.written d ≠ none → NotLost env ∧ ∀ m ∈ d.mutations, m.valid = true) : Follows json x ms ms' := by
  rcases ht.2 with rfl | ⟨rfl, hf⟩
  · exact follows_silent rfl (fun _ hh => hh)
  · have hn : x.written d = none := by
      by_contra hne
      obtain ⟨hlost, hv⟩ := hx hne
      obtain ⟨r, hr, hlead⟩ := hl
      apply ht.1
      intro r' hr'
      rw [hr] at hr'
      cases hr'
      refine ⟨hlead, ?_, hv⟩
      cases hc : env.raft.commit with
      | committed => rfl
      | failed err => exact absurd hc (hf err)
      | lost err => exact absurd hc (hlost err)
    apply follows_record env d rfl
    intro v hh
    rwa [hn]

lemma written_cmd (op : BatchOperation V) (hv : op.command.mutation.valid = true)
    (hw : x.written (LogData.ofMetadata op.command) ≠ none) :
    x.write op.command ≠ none ∧ ∀ m ∈ (LogData.ofMetadata op.command).mutations, m.valid = true := by
  rw [written_ofMetadata] at hw
  rw [mutations_ofMetadata]
  split_ifs at hw ⊢ with h
  · exact ⟨hw, by simpa using hv⟩
  · exact absurd rfl hw

lemma written_accepted (hl : Leads ms) (ho : op.type ≠ "" ∧ op.type ≠ "set" ∧ op.type ≠ "delete")
    (ha : ms.Accepts env (LogData.ofMetadata op.command)) :
    x.written (LogData.ofMetadata op.command) = x.write op.command := by
  obtain ⟨r, hr, -⟩ := hl
  have hv := (ha r hr).2.2
  rw [mutations_ofMetadata] at hv
  rw [written_ofMetadata]
  split_ifs at hv ⊢ with h
  · rfl
  · have hm := hv _ (List.mem_singleton_self _)
    simp [Command.mutation, command, ho.2.1, ho.2.2, Mutation.valid, Mutation.error] at hm

lemma Holds.congr (hh : Holds json ms v x) (hb : ms'.buckets = ms.buckets) (ho : ms'.objects = ms.objects) :
    Holds json ms' v x := by
  cases x with
  | bucket n =>
    rwa [Holds, hb]
  | object b k =>
    rwa [Holds, ho]

lemma follows_single (op : BatchOperation V) (hl : Leads ms)
    (ho : op.type ≠ "" ∧ op.type ≠ "set" ∧ op.type ≠ "delete") (ha : ms.Accepts env (LogData.ofMetadata op.command))
    (hr : ms'.raftStore = (ms.record env (LogData.ofMetadata op.command)).raftStore)
    (hh : ∀ v, Holds json ms v x → Holds json ms' ((x.write op.command).getD v) x) : Follows json x ms ms' := by
  apply follows_record env _ hr
  rwa [written_accepted hl ho ha]

lemma follows_createBucket {b : Bucket} (hl : Leads ms)
    (hx : x = .bucket b.name → NotLost env) : Follows json x ms (ms.createBucket json env b).1 := by
  rcases ms.createBucket_cases json env b with ⟨ms', err, he, rfl | ⟨va, ht⟩⟩ | ⟨va, -, hv, ha, he⟩
  · rw [he]
    exact follows_silent rfl (fun _ hh => hh)
  · rw [he]
    apply follows_turnedDown hl ht
    intro hw
    obtain ⟨hw, hm⟩ := written_cmd ⟨"create_bucket", b.name, "", va⟩ rfl hw
    exact ⟨hx (bucket_of_write (.inl rfl) hw), hm⟩
  · rw [he]
    have hu := json.bucket.unmarshal_marshal hv
    refine follows_single ⟨"create_bucket", b.name, "", va⟩ hl (by simp) ha rfl ?_
    intro v hh
    have hp : PreciseOp json ⟨"create_bucket", b.name, "", va⟩ x := by
      cases x with
      | bucket n =>
        intro _
        rw [hu]
        exact Iff.rfl
      | object b k => exact ⟨by simp, by simp⟩
    have hc := hh.editCache _ rfl hp
    simp only [editCache, applyToCache, if_true, hu] at hc
    exact hc.congr rfl rfl

lemma follows_deleteBucket [Inhabited V] {n : String} (hl : Leads ms)
    (hx : x = .bucket n → NotLost env) : Follows json x ms (ms.deleteBucket env n).1 := by
  rcases ms.deleteBucket_cases env n with ⟨ms', err, he, rfl | ht⟩ | ⟨ha, he⟩
  · rw [he]
    exact follows_silent rfl (fun _ hh => hh)
  · rw [he]
    apply follows_turnedDown hl ht
    intro hw
    obtain ⟨hw, hm⟩ := written_cmd ⟨"delete_bucket", n, "", default⟩ rfl hw
    exact ⟨hx (bucket_of_write (.inr rfl) hw), hm⟩
  · rw [he]
    refine follows_single ⟨"delete_bucket", n, "", default⟩ hl (by simp) ha rfl ?_
    intro v hh
    have hp : PreciseOp json ⟨"delete_bucket", n, "", default⟩ x := by
      cases x with
      | bucket n => exact fun ht => absurd ht (by simp)
      | object b k => exact ⟨by simp, by simp⟩
    exact (hh.editCache _ rfl hp).congr rfl rfl

lemma follows_charge {b : Bucket} (hb : ms.buckets.lookup o.bucket = some b)
    (hx : x = .bucket o.bucket → o.size = oldSize (ms.objects.lookup (getObjectKey o.bucket o.key)))
    (hh : Holds json ms v x) : Holds json (ms.charge o b) v x := by
  apply hh.insertBucket
  intro he
  rwa [charged_eq b (hx he)]

lemma Follows.after_silent {ms₁ : MetadataStore V} (hf : Follows json x ms₁ ms') (hr : ms₁.raftStore = ms.raftStore)
    (hh : ∀ v, Holds json ms v x → Holds json ms₁ v x) : Follows json x ms ms' := by
  intro r hs
  obtain ⟨r', new, hr', hl, hlog, hn⟩ := hf r (hr.trans hs)
  exact ⟨r', new, hr', hl, hlog, fun v h => hn v (hh v h)⟩

lemma follows_putObject (hl : Leads ms) (hn : Named ms)
    (hb : x = .bucket o.bucket → o.size = oldSize (ms.objects.lookup (getObjectKey o.bucket o.key)))
    (hx : ∀ b k, x = .object b k → getObjectKey o.bucket o.key = getObjectKey b k → (o.bucket = b ∧ o.key = k) ∧ NotLost env) :
    Follows json x ms (ms.putObject json env o).1 := by
  rcases ms.putObject_cases json env o with ⟨err, he⟩ | ⟨b, hg, hc⟩
  · rw [he]
    exact follows_silent rfl (fun _ hh => hh)
  have hlook := getBucket_ok hg
  rcases hc with ⟨ms', err, he, ⟨rfl, -⟩ | ⟨va, -, ht⟩⟩ | ⟨va, -, hv, ha, he⟩
  · rw [he]
    exact follows_silent rfl (fun _ hh => follows_charge hlook hb hh)
  · rw [he]
    have hlc : Leads (ms.charge o b) := hl
    have hf : Follows json x (ms.charge o b) ms' := by
      apply follows_turnedDown hlc ht
      intro hw
      obtain ⟨hw, hm⟩ := written_cmd ⟨"put_object_meta", o.bucket, o.key, va⟩ rfl hw
      exact ⟨(hx _ _ (object_of_write (.inl rfl) hw) rfl).2, hm⟩
    exact hf.after_silent rfl (fun _ hh => follows_charge hlook hb hh)
  · rw [he]
    have hu := json.object.unmarshal_marshal hv
    refine follows_single ⟨"put_object_meta", o.bucket, o.key, va⟩ hl (by simp) ha rfl ?_
    intro v hh
    have hp : PreciseOp json ⟨"put_object_meta", o.bucket, o.key, va⟩ x := by
      cases x with
      | bucket n => exact fun ht => absurd ht (by simp)
      | object b k =>
        refine ⟨?_, by simp⟩
        intro _
        rw [hu]
        refine ⟨fun hk => (hx b k rfl hk).1, ?_⟩
        rintro ⟨rfl, rfl⟩
        rfl
    have hc := hh.editCache _ rfl hp
    simp only [editCache, applyToCache, if_true, hu] at hc
    have hcc := follows_charge hlook hb hh
    cases x with
    | object b' k' => exact hc
    | bucket n =>
      have hw : (Item.bucket n).write (⟨"put_object_meta", o.bucket, o.key, va⟩ : BatchOperation V).command =
          none := by simp [Item.write, command]
      rw [hw]
      simp only [Holds, hn _ _ hlook, charge, lookup_insert_if] at hcc ⊢
      split_ifs at hcc ⊢
      · exact hcc
      · exact hcc

lemma Holds.releaseBytes (hh : Holds json ms v x) {b : String}
    (hb : x = .bucket b → ms.buckets.lookup b = none ∨ o.size = 0) : Holds json (ms.releaseBytes b o) v x := by
  rw [MetadataStore.releaseBytes]
  cases hl : ms.buckets.lookup b with
  | none => exact hh
  | some bkt =>
    apply hh.insertBucket
    intro he
    rcases hb he with hz | hz
    · rw [hl] at hz
      cases hz
    · rw [hl, hz, Int64.sub_zero]

lemma follows_deleteObject [Inhabited V] {bucket key : String} (hl : Leads ms)
    (hb : x = .bucket bucket → ms.buckets.lookup bucket = none ∨
      oldSize (ms.objects.lookup (getObjectKey bucket key)) = 0)
    (hx : ∀ b k, x = .object b k → getObjectKey bucket key = getObjectKey b k →
      (bucket = b ∧ key = k) ∧ NotLost env) : Follows json x ms (ms.deleteObject env bucket key).1 := by
  rcases ms.deleteObject_cases env bucket key with ⟨ms', err, he, rfl | ht⟩ | ⟨o, ho, ha, he⟩
  · rw [he]
    exact follows_silent rfl (fun _ hh => hh)
  · rw [he]
    apply follows_turnedDown hl ht
    intro hw
    obtain ⟨hw, hm⟩ := written_cmd ⟨"delete_object_meta", bucket, key, default⟩ rfl hw
    exact ⟨(hx _ _ (object_of_write (.inr rfl) hw) rfl).2, hm⟩
  · rw [he]
    have hp : PreciseOp json ⟨"delete_object_meta", bucket, key, default⟩ x := by
      cases x with
      | bucket n => exact fun ht => absurd ht (by simp)
      | object b k => exact ⟨by simp, fun _ hk => (hx b k rfl hk).1⟩
    refine follows_single ⟨"delete_object_meta", bucket, key, default⟩ hl (by simp) ha ?_ ?_
    · rw [releaseBytes]
      split <;> rfl
    · intro v hh
      have hc := hh.editCache _ rfl hp
      have hr : Holds json { ms.record env (deleteObjectCmd bucket key) with
          objects := ms.objects.erase (getObjectKey bucket key) } _ x := hc.congr rfl rfl
      refine hr.releaseBytes (fun he => ?_)
      rcases hb he with hb | hb
      · exact .inl hb
      · rw [ho] at hb
        exact .inr hb

lemma follows_executeBatch [Inhabited V] (hl : Leads ms) (hp : ∀ op ∈ ops, PreciseOp json op x)
    (hx : x.writeAll (ops.map command) ≠ none → NotLost env ∧ ∀ op ∈ ops, op.command.mutation.valid = true) :
    Follows json x ms (ms.executeBatch json env ops).1 := by
  rcases ms.executeBatch_cases json env ops with ⟨ms', err, he, ht⟩ | ⟨-, re, he⟩ | ⟨hne, ha, re, he⟩
  · rw [he]
    apply follows_turnedDown hl ht
    intro hw
    rw [written_batchCmd] at hw
    have hne : ops ≠ [] := by
      rintro rfl
      exact hw rfl
    obtain ⟨hlost, hv⟩ := hx hw
    refine ⟨hlost, ?_⟩
    rw [mutations_batchCmd hne]
    exact List.forall_mem_map.mpr hv
  · rw [he]
    exact follows_silent rfl (fun _ hh => hh)
  · rw [he, record, run_editCache_withRaft]
    refine follows_record env (batchCmd ops) ?_ (fun v hh => ?_)
    · rfl
    obtain ⟨r, hr, -⟩ := hl
    have hv := (ha r hr).2.2
    rw [MetadataStore.mutations_batchCmd hne] at hv
    rw [written_batchCmd]
    exact (hh.runEditCache ops (List.forall_mem_map.mp hv) hp).congr rfl rfl

lemma follows_getObject {now : Time} {bucket key : String} :
    Follows json x ms (ms.getObjectWithOptions now bucket key opt).1 := by
  rw [getObjectWithOptions]
  split
  · exact follows_silent rfl (fun _ hh => hh)
  · exact follows_silent rfl (fun _ hh => hh)
  · next o _ ho =>
    split
    · exact follows_silent rfl (fun _ hh => hh)
    · refine follows_silent ?_ (fun v hh => ?_)
      · rfl
      cases x with
      | bucket n => exact hh
      | object b k =>
        rw [Holds, lookup_insert_if]
        split_ifs with hk
        · rwa [Holds, hk, ho] at hh
        · exact hh

def Tracks (json : MetadataJSON V) (x : Item) (ms : MetadataStore V) : Call V → Prop
  | .createBucket env b => x = .bucket b.name → NotLost env
  | .updateBucket env b => x = .bucket b.name → ms.buckets.lookup b.name = some { b with updatedAt := env.now }
  | .deleteBucket env name => x = .bucket name → NotLost env
  | .putObject env o =>
    (x = .bucket o.bucket → o.size = oldSize (ms.objects.lookup (getObjectKey o.bucket o.key))) ∧
    ∀ b k, x = .object b k → getObjectKey o.bucket o.key = getObjectKey b k → (o.bucket = b ∧ o.key = k) ∧ NotLost env
  | .deleteObject env bucket key =>
    (x = .bucket bucket → ms.buckets.lookup bucket = none ∨
      oldSize (ms.objects.lookup (getObjectKey bucket key)) = 0) ∧
    ∀ b k, x = .object b k → getObjectKey bucket key = getObjectKey b k → (bucket = b ∧ key = k) ∧ NotLost env
  | .executeBatch env ops => (∀ op ∈ ops, PreciseOp json op x) ∧
    (x.writeAll (ops.map command) ≠ none →
      NotLost env ∧ ∀ op ∈ ops, op.command.mutation.valid = true)
  | .getObject _ _ _ _ => True

lemma follows_call [Inhabited V] (hl : Leads ms) (hn : Named ms) {c : Call V} (ht : Tracks json x ms c) :
    Follows json x ms (ms.after json c) := by
  cases c with
  | createBucket env b => exact follows_createBucket hl ht
  | updateBucket env b =>
    simp only [after, call, updateBucket]
    cases hb : ms.buckets.lookup b.name with
    | none => exact follows_silent rfl (fun _ hh => hh)
    | some _ => exact follows_silent rfl (fun _ hh => hh.insertBucket b.name _ ht)
  | deleteBucket env n => exact follows_deleteBucket hl ht
  | putObject env o => exact follows_putObject hl hn ht.1 ht.2
  | deleteObject env bucket key => exact follows_deleteObject hl ht.1 ht.2
  | executeBatch env ops => exact follows_executeBatch hl ht.1 ht.2
  | getObject now bucket key opt => exact follows_getObject

end Effects

section Naming

variable {ms' : MetadataStore V}

lemma Named.edit (hn : Named ms)
    (h : ∀ n b, ms'.buckets.lookup n = some b → b.name = n ∨ ms.buckets.lookup n = some b) : Named ms' := by
  intro n b hb
  rcases h n b hb with hh | hh
  · exact hh
  · exact hn n b hh

lemma Named.insert (hn : Named ms) {na : String} {b : Bucket} (hb : b.name = na) :
    Named { ms with buckets := ms.buckets.insert na b } := by
  apply hn.edit
  intro n b' hl
  rw [lookup_insert_if] at hl
  split_ifs at hl with hnn
  · cases hl
    exact .inl (hb.trans hnn.symm)
  · exact .inr hl

lemma Named.erase (hn : Named ms) (na : String) : Named { ms with buckets := ms.buckets.erase na } := by
  apply hn.edit
  intro n b hl
  rw [lookup_erase_if] at hl
  split_ifs at hl
  exact .inr hl

lemma Named.turnedDown {env : Env} {d : LogData V} (hn : Named ms)
    (ht : MetadataStore.TurnedDown env d ms ms') : Named ms' := by
  rcases ht.2 with rfl | ⟨rfl, -⟩
  · exact hn
  · exact hn

lemma Named.editCache (hn : Named ms) (json : MetadataJSON V) (op : BatchOperation V) :
    Named (ms.editCache json op) := by
  rw [MetadataStore.editCache, MetadataStore.applyToCache]
  split_ifs
  · cases json.bucket.unmarshal op.value with
    | error err => exact hn
    | ok b => exact hn.insert rfl
  · exact hn.erase op.bucket
  · cases json.object.unmarshal op.value <;> exact hn
  · exact hn
  · exact hn

lemma Named.runEditCache (ops : List (BatchOperation V)) (hn : Named ms)
    (json : MetadataJSON V) : Named (run (MetadataStore.editCache json) ms ops) :=
  run_preserves Named ops (fun _ op _ hn => hn.editCache json op) hn

lemma Named.putObject (hn : Named ms) (json : MetadataJSON V) (env : Env) (o : Object) :
    Named (ms.putObject json env o).1 := by
  rcases ms.putObject_cases json env o with ⟨err, he⟩ | ⟨b, hg, hc⟩
  · rwa [he]
  have hb := hn _ _ (getBucket_ok hg)
  have hch : Named (ms.charge o b) := hn.insert hb
  rcases hc with ⟨ms', err, he, ⟨rfl, -⟩ | ⟨va, -, ht⟩⟩ | ⟨va, -, -, -, he⟩
  · rwa [he]
  · rw [he]
    exact hch.turnedDown ht
  · rw [he]
    exact hch.insert rfl

lemma Named.deleteObject [Inhabited V] (hn : Named ms) (env : Env) (b key : String) :
    Named (ms.deleteObject env b key).1 := by
  rcases ms.deleteObject_cases env b key with ⟨ms', err, he, rfl | ht⟩ | ⟨o, ho, ha, he⟩
  · rwa [he]
  · rw [he]
    exact hn.turnedDown ht
  · rw [he, releaseBytes]
    have hr : Named { ms.record env (deleteObjectCmd b key) with
        objects := ms.objects.erase (getObjectKey b key) } := hn
    cases hl : ms.buckets.lookup b with
    | none =>
      simp only [record, hl]
      exact hn
    | some bkt =>
      have hb := hn b bkt hl
      simp only [record, hl]
      exact hr.insert hb

lemma Named.call [Inhabited V] (hn : Named ms) (json : MetadataJSON V) (c : Call V) : Named (ms.after json c) := by
  cases c with
  | createBucket env b =>
    rw [MetadataStore.after, MetadataStore.call]
    rcases ms.createBucket_cases json env b with ⟨ms', err, he, rfl | ⟨va, ht⟩⟩ | ⟨va, -, hv, ha, he⟩
    · rwa [he]
    · rw [he]
      exact hn.turnedDown ht
    · rw [he]
      exact hn.insert rfl
  | updateBucket env b =>
    simp only [MetadataStore.after, MetadataStore.call, MetadataStore.updateBucket]
    cases ms.buckets.lookup b.name with
    | none => exact hn
    | some _ => exact hn.insert rfl
  | deleteBucket env n =>
    rw [MetadataStore.after, MetadataStore.call]
    rcases ms.deleteBucket_cases env n with ⟨ms', err, he, rfl | ht⟩ | ⟨ha, he⟩
    · rwa [he]
    · rw [he]
      exact hn.turnedDown ht
    · rw [he]
      exact hn.erase n
  | putObject env o => exact hn.putObject json env o
  | deleteObject env bucket key => exact hn.deleteObject env bucket key
  | executeBatch env ops =>
    rw [MetadataStore.after, MetadataStore.call]
    rcases ms.executeBatch_cases json env ops with ⟨ms', err, he, ht⟩ | ⟨-, r, he⟩ | ⟨hne, ha, r, he⟩
    · rw [he]
      exact hn.turnedDown ht
    · rwa [he]
    · rw [he]
      have hr : Named (ms.record env (batchCmd ops)) := hn
      exact hr.runEditCache ops json
  | getObject now bucket key opt =>
    simp only [MetadataStore.after, MetadataStore.call, MetadataStore.getObjectWithOptions]
    split
    · exact hn
    · exact hn
    · split <;> exact hn

end Naming

namespace Cluster

variable [DecidableEq N] [Inhabited V]

def Keeps (x : Item) (c : Cluster N V) : ClusterStep N V → Prop
  | .request _ call => Tracks json x (c.nodes c.leader) call
  | .replicate _ _ => True
  | .elect n _ => ∀ w, x.lastCommit c.log = some w → w.1 = n

structure Sound (json : MetadataJSON V) (x : Item) (c : Cluster N V) : Prop where
  backed : ∀ m, ∃ r, (c.nodes m).raftStore = some r ∧ r.isLeader = decide (m = c.leader)
  named : ∀ m, Named (c.nodes m)
  holds : ∀ m, (∀ w, x.lastCommit c.log = some w → w.1 = m) → Holds json (c.nodes m) (x.committed c.log) x
  led : ∀ w, x.lastCommit c.log = some w → w.1 = c.leader

omit [Inhabited V] in
lemma isLeader_catchUp {cl : ℕ → RaftEnv} (i : ℕ) {l : List (LogData V)} (r : RaftStore V) :
    (catchUp cl i l r).isLeader = r.isLeader := by
  induction l generalizing i r with
  | nil => rfl
  | cons d l ih => exact ih (i + 1) _

variable {json} {c : Cluster N V} {r : RaftStore V}

omit [DecidableEq N] [Inhabited V] in
lemma raftLog_of (hr : ms.raftStore = some r) : ms.raftLog = r.log := by
  rw [raftLog, hr]
  rfl

variable {new : Option (LogData V)}

omit [DecidableEq N] [Inhabited V] in
lemma lastCommit_extend {log : List (N × LogData V)} {n : N} :
    (x.lastCommit (log ++ new.toList.map (Prod.mk n)) = x.lastCommit log ∧ ∀ v, settle x new v = v) ∨
      ∃ w, x.lastCommit (log ++ new.toList.map (Prod.mk n)) = some (n, w) ∧ ∀ v, settle x new v = w := by
  cases new with
  | none => exact .inl ⟨by simp, fun _ => rfl⟩
  | some d =>
    simp only [Option.toList_some, List.map_cons, List.map_nil, Item.lastCommit, List.foldl_append, List.foldl_cons,
      List.foldl_nil, settle]
    cases x.written d with
    | none => exact .inl ⟨rfl, fun _ => rfl⟩
    | some w => exact .inr ⟨w, rfl, fun _ => rfl⟩

omit [Inhabited V] in
lemma Sound.extend (hs : Sound json x c) (hr : ms.raftStore = some r) (hl : r.isLeader = true) (hn : Named ms)
    (hh : Holds json ms (settle x new (x.committed c.log)) x) : Sound json x { c with
      nodes := Function.update c.nodes c.leader ms
      log := c.log ++ new.toList.map (Prod.mk c.leader) } := by
  have hb : ∀ m, ∃ r', (Function.update c.nodes c.leader ms m).raftStore = some r' ∧
      r'.isLeader = decide (m = c.leader) :=
    (Function.forall_update_iff c.nodes
      (fun m ms => ∃ r', ms.raftStore = some r' ∧ r'.isLeader = decide (m = c.leader))).mpr
      ⟨⟨r, hr, by rw [hl, decide_eq_true rfl]⟩, fun m _ => hs.backed m⟩
  have hna : ∀ m, Named (Function.update c.nodes c.leader ms m) :=
    (Function.forall_update_iff c.nodes (fun _ ms => Named ms)).mpr ⟨hn, fun m _ => hs.named m⟩
  rcases lastCommit_extend with ⟨hlast, hv⟩ | ⟨w, hlast, hv⟩
  · refine ⟨hb, hna, ?_, ?_⟩
    · rw [hv] at hh
      rw [Item.committed, hlast]
      exact (Function.forall_update_iff c.nodes
        (fun m ms => (∀ w, x.lastCommit c.log = some w → w.1 = m) → Holds json ms (x.committed c.log) x)).mpr
        ⟨fun _ => hh, fun m _ => hs.holds m⟩
    · rw [hlast]
      exact hs.led
  · refine ⟨hb, hna, ?_, ?_⟩
    · intro m hm
      rw [hlast] at hm
      have hm : c.leader = m := hm _ rfl
      rw [hv] at hh
      simp only [← hm, Function.update_self, Item.committed, hlast]
      exact hh
    · intro w' hw
      rw [hlast] at hw
      cases hw
      rfl

lemma Sound.request (hs : Sound json x c) (cl : ℕ → RaftEnv) (call : Call V)
    (ht : Tracks json x (c.nodes c.leader) call) : Sound json x (c.step json (.request cl call)) := by
  obtain ⟨r₀, hr₀, hlead₀⟩ := hs.backed c.leader
  have hr : (c.ready cl).raftStore =
      some (catchUp cl 0 (c.entries.drop (c.nodes c.leader).raftLog.length) r₀) := by
    simp only [ready, withRaft, hr₀]
    rfl
  have hl : (catchUp cl 0 (c.entries.drop (c.nodes c.leader).raftLog.length) r₀).isLeader = true := by
    rw [isLeader_catchUp, hlead₀]
    simp
  have htr : Tracks json x (c.ready cl) call := by cases call <;> exact ht
  have hna : Named (c.ready cl) := hs.named c.leader
  have hh : Holds json (c.ready cl) (x.committed c.log) x := (hs.holds c.leader hs.led).congr rfl rfl
  obtain ⟨r', new, hr', hl', hlog, hnew⟩ := follows_call ⟨_, hr, hl⟩ hna htr _ hr
  have hdrop : ((c.ready cl).after json call).raftLog.drop (c.ready cl).raftLog.length = new.toList := by
    rw [raftLog_of hr', raftLog_of hr, hlog, List.drop_left]
  rw [step]
  simp only [hdrop]
  exact hs.extend hr' (hl'.trans hl) (hna.call json call) (hnew _ hh)

lemma Sound.replicate (hs : Sound json x c) (n : N) (env : RaftEnv) :
    Sound json x (c.step json (.replicate n env)) := by
  have hsame : ∀ m, ∃ f, (∀ r : RaftStore V, (f r).isLeader = r.isLeader) ∧
      (c.step json (.replicate n env)).nodes m = (c.nodes m).withRaft f := by
    intro m
    by_cases hm : m = n
    · subst hm
      exact ⟨_, fun r => isLeader_catchUp _ r, Function.update_self ..⟩
    · refine ⟨id, fun _ => rfl, ?_⟩
      simp only [step, Function.update_of_ne hm, withRaft, Option.map_id, id]
  refine ⟨?_, ?_, ?_, hs.led⟩
  · intro m
    obtain ⟨f, hf, he⟩ := hsame m
    obtain ⟨r, hr, hl⟩ := hs.backed m
    refine ⟨f r, ?_, (hf r).trans hl⟩
    rw [he, withRaft, hr]
    rfl
  · intro m
    obtain ⟨f, -, he⟩ := hsame m
    rw [he]
    exact hs.named m
  · intro m hw
    obtain ⟨f, -, he⟩ := hsame m
    rw [he]
    exact (hs.holds m hw).congr rfl rfl

lemma Sound.elect (hs : Sound json x c) (n : N) (a : String) (hw : ∀ w, x.lastCommit c.log = some w → w.1 = n) :
    Sound json x (c.step json (.elect n a)) := by
  refine ⟨?_, hs.named, ?_, hw⟩
  · intro m
    obtain ⟨r, hr, -⟩ := hs.backed m
    refine ⟨{ r with isLeader := decide (m = n), leader := a }, ?_, rfl⟩
    simp only [step, withRaft, hr]
    rfl
  · intro m hm
    exact (hs.holds m hm).congr rfl rfl

lemma Sound.step (hs : Sound json x c) (a : ClusterStep N V) (hk : c.Keeps json x a) :
    Sound json x (c.step json a) := by
  cases a with
  | request cl ca => exact hs.request cl ca hk
  | replicate n env => exact hs.replicate n env
  | elect n ad => exact hs.elect n ad hk

omit [Inhabited V] in
lemma sound_start (l : N) (a : String) (ri : N → String) : Sound json x (start json l a ri) where
  backed := fun m => ⟨_, rfl, rfl⟩
  named := by
    intro m n b hb
    cases hb
  holds := by
    intro m _
    cases x <;> rfl
  led := by
    intro w hw
    cases hw

end Cluster

def answer {α : Type} (absent : Err) : Option α → Except Err α
  | some a => .ok a
  | none => .error absent

def Reads (ms : MetadataStore V) (now : Time) (opts : ReadOptions) (v : Option V) : Item → Prop
  | .bucket name => ms.getBucketWithOptions now name opts =
      answer (.notFound ("bucket:" ++ name)) (v.bind (fun v => (json.bucket.unmarshal v).toOption))
  | .object b k => (ms.getObjectWithOptions now b k opts).2.map Object.sansAccess =
      answer (.notFound ("object:" ++ b ++ "/" ++ k))
        ((v.bind (fun v => (json.object.unmarshal v).toOption)).map Object.sansAccess)

lemma Holds.reads {json : MetadataJSON V} {v : Option V} (hh : Holds json ms v x)
    (hl : Leads ms) (now : Time) (ho : opt.consistency = .strong) : Reads json ms now opt v x := by
  obtain ⟨r, hr, hl⟩ := hl
  have hlc : ∀ op, ms.leaderCheck opt op = none := by
    intro op
    simp [leaderCheck, ho, hr, hl]
  have hs : ∀ t, stalenessCheck now opt t = none := by
    intro t
    simp [stalenessCheck, ho]
  cases x with
  | bucket n =>
    rw [Reads, getBucketWithOptions, hlc, ← hh]
    cases ms.buckets.lookup n with
    | none => rfl
    | some b => simp only [hs, answer]
  | object b k =>
    rw [Reads, getObjectWithOptions, hlc, ← hh]
    cases ms.objects.lookup (getObjectKey b k) with
    | none => rfl
    | some o =>
      simp only [hs]
      rfl

theorem strong_reads_committed [DecidableEq N] [Inhabited V] (json : MetadataJSON V) (leader : N) (addr : String)
    (raftID : N → String) (x : Item) (steps : List (ClusterStep N V))
    (hk : Admissible (Cluster.step json) (Cluster.Keeps json x) (Cluster.start json leader addr raftID) steps)
    (now : Time) (opts : ReadOptions) (ho : opts.consistency = .strong) : Reads json
      ((run (Cluster.step json) (Cluster.start json leader addr raftID) steps).nodes
        (run (Cluster.step json) (Cluster.start json leader addr raftID) steps).leader) now opts
      (x.committed (run (Cluster.step json) (Cluster.start json leader addr raftID) steps).log) x := by
  have hs := run_invariant (Cluster.Sound json x) (fun c a hs ha => hs.step a ha) steps
    (Cluster.sound_start leader addr raftID) hk
  obtain ⟨r, hr, hl⟩ := hs.backed (run (Cluster.step json) (Cluster.start json leader addr raftID) steps).leader
  exact (hs.holds _ hs.led).reads ⟨r, hr, by simpa using hl⟩ now ho

def pairName (n : Bool) : String := if n then "node-1" else "node-0"

def calmClock (_ : ℕ) : RaftEnv := calmEnv.raft

def strongRead : ReadOptions := ⟨.strong, 0, true⟩

def promoted : List (ClusterStep Bool (Bucket ⊕ Object)) :=
  [.elect true "node-1", .request calmClock (.createBucket calmEnv (plainBucket "b")), .replicate false calmEnv.raft,
    .request calmClock (.putObject calmEnv (emptyObject "b" "k")), .elect true "node-1"]

theorem strong_reads_committed_promoted : Reads recordJSON
      ((run (Cluster.step recordJSON) (Cluster.start recordJSON false "node-0" pairName) promoted).nodes
        (run (Cluster.step recordJSON) (Cluster.start recordJSON false "node-0" pairName) promoted).leader)
      (unix 20) strongRead (Item.committed (.bucket "b")
        (run (Cluster.step recordJSON) (Cluster.start recordJSON false "node-0" pairName) promoted).log)
      (.bucket "b") := by
  refine strong_reads_committed recordJSON false "node-0" pairName (.bucket "b") promoted ⟨?_, ?_, ?_, ?_, ?_, trivial⟩
    (unix 20) strongRead rfl
  · intro w hw
    cases hw
  · intro _ err he
    cases he
  · trivial
  · refine ⟨fun _ => by decide, ?_⟩
    intro b k hb
    cases hb
  · intro w hw
    cases hw
    rfl

def failedOver : List (ClusterStep Bool (Bucket ⊕ Object)) :=
  [.request calmClock (.createBucket calmEnv (plainBucket "b")), .replicate true calmEnv.raft, .elect true "node-1"]

theorem strong_read_misses_commit : ¬ Reads recordJSON
      ((run (Cluster.step recordJSON) (Cluster.start recordJSON false "node-0" pairName) failedOver).nodes
        (run (Cluster.step recordJSON) (Cluster.start recordJSON false "node-0" pairName) failedOver).leader)
      (unix 20) strongRead (Item.committed (.bucket "b")
        (run (Cluster.step recordJSON) (Cluster.start recordJSON false "node-0" pairName) failedOver).log)
      (.bucket "b") := by
  intro hr
  rw [Reads] at hr
  revert hr
  decide

end Cloudless.Storage
