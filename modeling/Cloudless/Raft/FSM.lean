import Cloudless.Foundations.FiniteMaps
import Cloudless.Foundations.GoStd

/-! The replicated key-value state machine: log entries, their application, reads and snapshots.
Values are kept abstract; the state machine stores them and hands them back unread. -/

namespace Cloudless.Raft

open Foundations FiniteMaps GoStd

structure Command (V : Type) where
  (op key : String)
  value : V
  expiresAt : ℤ
  deriving DecidableEq

structure MetadataCommand (V : Type) where
  (op bucket key : String)
  value : V
  deriving DecidableEq

structure Entry (V : Type) where
  value : V
  expiresAt : ℤ
  (createdAt updatedAt : Time)
  deriving DecidableEq

structure FSM (V : Type) where
  data : FMap String (Entry V)
  deriving DecidableEq

structure LogData (V : Type) where
  metaBatch : Option (List (MetadataCommand V))
  metaCmd : Option (MetadataCommand V)
  batch : Option (List (Command V))
  cmd : Except String (Command V)

variable {V : Type}

variable (cmd : MetadataCommand V)

-- A JSON field that a Go struct does not declare is ignored, and an absent one leaves its zero value.
namespace LogData

def ofCommand (cmd : Command V) : LogData V :=
  ⟨some [], some ⟨cmd.op, "", cmd.key, cmd.value⟩, some [], .ok cmd⟩

def ofMetadata : LogData V :=
  ⟨some [], some cmd, some [], .ok ⟨cmd.op, cmd.key, cmd.value, 0⟩⟩

variable [Inhabited V]

def ofBatch (commands : List (Command V)) : LogData V :=
  ⟨some [], some ⟨"", "", "", default⟩, some commands, .ok ⟨"", "", default, 0⟩⟩

def ofMetadataBatch (operations : List (MetadataCommand V)) : LogData V :=
  ⟨some operations, some ⟨"", "", "", default⟩, some [], .ok ⟨"", "", default, 0⟩⟩

end LogData

def newFSM : FSM V := ⟨∅⟩

def expired (expiresAt : ℤ) (now : Time) : Bool := decide (0 < expiresAt ∧ unix expiresAt < now)

lemma expired_mono {e : ℤ} {t u : Time} (h : t ≤ u) (he : expired e t = true) : expired e u = true := by
  simp only [expired, decide_eq_true_eq] at he ⊢
  exact ⟨he.1, he.2.trans_le h⟩

namespace FSM

def applySet (now : Time) (key : String) (value : V) (expiresAt : ℤ) (f : FSM V) : FSM V × Option String :=
  if expired expiresAt now then (f, none)
  else
    let createdAt := match f.data.lookup key with
      | some existing => existing.createdAt
      | none => now
    (⟨f.data.insert key ⟨value, expiresAt, createdAt, now⟩⟩, none)

def applyDelete (key : String) (f : FSM V) : FSM V × Option String :=
  match f.data.lookup key with
  | some _ => (⟨f.data.erase key⟩, none)
  | none => (f, none)

def applyCommand (now : Time) (cmd : Command V) (f : FSM V) : FSM V × Option String :=
  if cmd.op = "set" then f.applySet now cmd.key cmd.value cmd.expiresAt
  else if cmd.op = "delete" then f.applyDelete cmd.key
  else (f, some ("unknown operation: " ++ cmd.op))

def applyCreateBucket (now : Time) (bucketName : String) (value : V) (f : FSM V) : FSM V × Option String :=
  f.applySet now ("bucket:" ++ bucketName) value 0

def applyDeleteBucket (bucketName : String) (f : FSM V) : FSM V × Option String :=
  f.applyDelete ("bucket:" ++ bucketName)

def applyPutObjectMeta (now : Time) (bucket objectKey : String) (value : V) (f : FSM V) : FSM V × Option String :=
  f.applySet now ("object:" ++ (bucket ++ ":" ++ objectKey)) value 0

def applyDeleteObjectMeta (bucket objectKey : String) (f : FSM V) : FSM V × Option String :=
  f.applyDelete ("object:" ++ (bucket ++ ":" ++ objectKey))

def applyMetadataCommand (now : Time) (cmd : MetadataCommand V) (f : FSM V) : FSM V × Option String :=
  if cmd.op = "create_bucket" then f.applyCreateBucket now cmd.bucket cmd.value
  else if cmd.op = "delete_bucket" then f.applyDeleteBucket cmd.bucket
  else if cmd.op = "put_object_meta" then f.applyPutObjectMeta now cmd.bucket cmd.key cmd.value
  else if cmd.op = "delete_object_meta" then f.applyDeleteObjectMeta cmd.bucket cmd.key
  else (f, some ("unknown metadata operation: " ++ cmd.op))

-- Command `i` of a batch reads the clock at `now i`; an error is remembered and the loop goes on.
def applyAll {C : Type} (one : Time → C → FSM V → FSM V × Option String) (now : ℕ → Time) :
    ℕ → List C → Option String → FSM V → FSM V × Option String
  | _, [], lastErr, f => (f, lastErr)
  | i, cmd :: cmds, lastErr, f =>
    let (f', result) := one (now i) cmd f
    applyAll one now (i + 1) cmds (result.or lastErr) f'

def applyBatch (now : ℕ → Time) (commands : List (Command V)) (f : FSM V) : FSM V × Option String :=
  applyAll applyCommand now 0 commands none f

def applyMetadataBatch (now : ℕ → Time) (operations : List (MetadataCommand V)) (f : FSM V) : FSM V × Option String :=
  applyAll applyMetadataCommand now 0 operations none f

end FSM

inductive Dispatch (V : Type)
  | metadataBatch (operations : List (MetadataCommand V))
  | metadata (cmd : MetadataCommand V)
  | batch (commands : List (Command V))
  | single (cmd : Command V)
  | malformed (err : String)

variable (l : LogData V)

def LogData.dispatchCommand : Dispatch V :=
  match l.batch, l.cmd with
  | some (c :: cs), _ => .batch (c :: cs)
  | _, .ok cmd => .single cmd
  | _, .error err => .malformed err

def LogData.dispatchMetadata : Dispatch V :=
  match l.metaCmd with
  | some cmd => if cmd.op ≠ "" ∧ cmd.bucket ≠ "" then .metadata cmd else l.dispatchCommand
  | none => l.dispatchCommand

def LogData.dispatch : Dispatch V :=
  match l.metaBatch with
  | some (c :: cs) => .metadataBatch (c :: cs)
  | _ => l.dispatchMetadata

namespace FSM

def apply (now : ℕ → Time) (l : LogData V) (f : FSM V) : FSM V × Option String :=
  match l.dispatch with
  | .metadataBatch operations => f.applyMetadataBatch now operations
  | .metadata cmd => f.applyMetadataCommand (now 0) cmd
  | .batch commands => f.applyBatch now commands
  | .single cmd => f.applyCommand (now 0) cmd
  | .malformed err => (f, some err)

def get (now : Time) (key : String) (f : FSM V) : Except String V :=
  match f.data.lookup key with
  | none => .error ("key not found: " ++ key)
  | some entry => if expired entry.expiresAt now then .error ("key expired: " ++ key) else .ok entry.value

def getAll (now : Time) (f : FSM V) : FMap String V :=
  filterMap (fun _ entry => if expired entry.expiresAt now then none else some entry.value) f.data

def cleanupExpired (now : Time) (f : FSM V) : FSM V :=
  ⟨filterMap (fun _ entry => if expired entry.expiresAt now then none else some entry) f.data⟩

end FSM

structure FSMSnapshot (V : Type) where
  data : FMap String (Entry V)

structure SnapshotData (V : Type) where
  version : ℤ
  timestamp : Time
  data : FMap String (Entry V)

structure SnapshotSink where
  (writeErr closeErr : Option String)

def FSM.snapshot (f : FSM V) : FSMSnapshot V :=
  ⟨filterMap (fun _ v => some ⟨v.value, v.expiresAt, v.createdAt, v.updatedAt⟩) f.data⟩

variable {B : Type}

def FSMSnapshot.persist (json : Codec (SnapshotData V) B) (now : Time) (sink : SnapshotSink)
    (s : FSMSnapshot V) : Except String B :=
  match json.marshal ⟨1, now, s.data⟩ with
  | .error err => .error ("failed to marshal snapshot: " ++ err)
  | .ok data =>
    match sink.writeErr, sink.closeErr with
    | some err, _ => .error ("failed to write snapshot: " ++ err)
    | none, some err => .error ("failed to close snapshot sink: " ++ err)
    | none, none => .ok data

def FSM.restore (json : Codec (SnapshotData V) B) (now : Time) (rc : B) (f : FSM V) : FSM V × Option String :=
  match json.unmarshal rc with
  | .error err => (f, some ("failed to decode snapshot: " ++ err))
  | .ok snapshot =>
    (⟨filterMap (fun _ entry => if expired entry.expiresAt now then none else some entry) snapshot.data⟩, none)

inductive Mutation (V : Type)
  | set (key : String) (value : V) (expiresAt : ℤ)
  | delete (key : String)
  | reject (err : String)

def Command.mutation (cmd : Command V) : Mutation V :=
  if cmd.op = "set" then .set cmd.key cmd.value cmd.expiresAt
  else if cmd.op = "delete" then .delete cmd.key
  else .reject ("unknown operation: " ++ cmd.op)

def MetadataCommand.mutation : Mutation V :=
  if cmd.op = "create_bucket" then .set ("bucket:" ++ cmd.bucket) cmd.value 0
  else if cmd.op = "delete_bucket" then .delete ("bucket:" ++ cmd.bucket)
  else if cmd.op = "put_object_meta" then .set ("object:" ++ (cmd.bucket ++ ":" ++ cmd.key)) cmd.value 0
  else if cmd.op = "delete_object_meta" then .delete ("object:" ++ (cmd.bucket ++ ":" ++ cmd.key))
  else .reject ("unknown metadata operation: " ++ cmd.op)

def Dispatch.mutations : Dispatch V → List (Mutation V)
  | .metadataBatch operations => operations.map MetadataCommand.mutation
  | .metadata cmd => [cmd.mutation]
  | .batch commands => commands.map Command.mutation
  | .single cmd => [cmd.mutation]
  | .malformed err => [.reject err]

def LogData.mutations : List (Mutation V) := l.dispatch.mutations

def Mutation.error : Mutation V → Option String
  | .reject err => some err
  | _ => none

def Mutation.valid (m : Mutation V) : Bool := m.error.isNone

def Mutation.writes (now : Time) (k : String) : Mutation V → Bool
  | .set key _ expiresAt => key = k && !expired expiresAt now
  | .delete key => key = k
  | .reject _ => false

def lastError : List (Mutation V) → Option String → Option String
  | [], lastErr => lastErr
  | m :: ms, lastErr => lastError ms (m.error.or lastErr)

def stamp (now : ℕ → Time) : ℕ → List (Mutation V) → List (Time × Mutation V)
  | _, [] => []
  | i, m :: ms => (now i, m) :: stamp now (i + 1) ms

namespace FSM

def perform (f : FSM V) (p : Time × Mutation V) : FSM V :=
  match p.2 with
  | .set key value expiresAt => (f.applySet p.1 key value expiresAt).1
  | .delete key => (f.applyDelete key).1
  | .reject _ => f

def performAll (f : FSM V) (ps : List (Time × Mutation V)) : FSM V := ps.foldl perform f

variable (f : FSM V) (now : Time) (key k : String)

@[simp] lemma performAll_nil : f.performAll [] = f := rfl

@[simp] lemma performAll_cons (p : Time × Mutation V) (ps : List (Time × Mutation V)) :
    f.performAll (p :: ps) = (f.perform p).performAll ps := rfl

lemma performAll_append (ps qs : List (Time × Mutation V)) :
    f.performAll (ps ++ qs) = (f.performAll ps).performAll qs := List.foldl_append

lemma applySet_answer {v : V} {e : ℤ} (f : FSM V) : (f.applySet now key v e).2 = none := by
  rw [applySet]
  split_ifs <;> rfl

lemma applyDelete_answer (f : FSM V) : (f.applyDelete key).2 = none := by
  rw [applyDelete]
  split <;> rfl

lemma applyCommand_eq {cmd : Command V} {f : FSM V} :
    f.applyCommand now cmd = (f.perform (now, cmd.mutation), cmd.mutation.error) := by
  rw [applyCommand, Command.mutation]
  split_ifs with hs hd
  · exact Prod.ext rfl (applySet_answer _ _ f)
  · exact Prod.ext rfl (applyDelete_answer _ f)
  · rfl

lemma applyMetadataCommand_eq {cmd : MetadataCommand V} {f : FSM V} :
    f.applyMetadataCommand now cmd = (f.perform (now, cmd.mutation), cmd.mutation.error) := by
  rw [applyMetadataCommand, MetadataCommand.mutation]
  split_ifs
  · exact Prod.ext rfl (applySet_answer _ _ f)
  · exact Prod.ext rfl (applyDelete_answer _ f)
  · exact Prod.ext rfl (applySet_answer _ _ f)
  · exact Prod.ext rfl (applyDelete_answer _ f)
  · rfl

lemma applyAll_eq {C : Type} {one : Time → C → FSM V → FSM V × Option String} {m : C → Mutation V}
    (ho : ∀ now c f, one now c f = (f.perform (now, m c), (m c).error)) {now : ℕ → Time} {i : ℕ}
    {cs : List C} {le : Option String} {f : FSM V} : applyAll one now i cs le f =
      (f.performAll (stamp now i (cs.map m)), lastError (cs.map m) le) := by
  induction cs generalizing i le f with
  | nil => rfl
  | cons c cs ih => simp only [applyAll, ho, ih, List.map_cons, stamp, performAll_cons, lastError]

lemma apply_eq (now : ℕ → Time) (l : LogData V) (f : FSM V) :
    f.apply now l = (f.performAll (stamp now 0 l.mutations), lastError l.mutations none) := by
  rw [apply, LogData.mutations]
  cases l.dispatch with
  | metadataBatch os => exact applyAll_eq applyMetadataCommand_eq
  | metadata cmd =>
    simp [Dispatch.mutations, applyMetadataCommand_eq, stamp, lastError]
  | batch cs => exact applyAll_eq applyCommand_eq
  | single cmd =>
    simp [Dispatch.mutations, applyCommand_eq, stamp, lastError]
  | malformed err => rfl

lemma lookup_applyDelete {f : FSM V} :
    (f.applyDelete key).1.data.lookup k = if k = key then none else f.data.lookup k := by
  rw [applyDelete]
  cases h : f.data.lookup key with
  | none =>
    split_ifs with hk
    · rw [hk, h]
    · rfl
  | some e => exact lookup_erase_if f.data k key

lemma lookup_perform_of_not_writes (p : Time × Mutation V) (k : String) (h : p.2.writes p.1 k = false) :
    (f.perform p).data.lookup k = f.data.lookup k := by
  obtain ⟨now, m⟩ := p
  cases m with
  | set key v e =>
    simp only [Mutation.writes, Bool.and_eq_false_iff, decide_eq_false_iff_not, Bool.not_eq_eq_eq_not,
      Bool.not_false] at h
    simp only [perform, applySet]
    split_ifs with he
    · rfl
    · rw [lookup_insert_if, if_neg]
      intro hk
      exact h.elim (fun hne => hne hk.symm) he
  | delete key =>
    simp only [Mutation.writes, decide_eq_false_iff_not] at h
    simp only [perform, lookup_applyDelete]
    rw [if_neg (fun hk => h hk.symm)]
  | reject err => rfl

lemma lookup_perform_set (v : V) (e : ℤ) (h : expired e now = false) : (f.perform (now, .set k v e)).data.lookup k =
      some ⟨v, e, ((f.data.lookup k).map Entry.createdAt).getD now, now⟩ := by
  simp only [perform, applySet, h, Bool.false_eq_true, if_false, lookup_insert_if, if_true]
  cases f.data.lookup k <;> rfl

lemma lookup_perform_delete : (f.perform (now, .delete k)).data.lookup k = none := by
  simp only [perform, lookup_applyDelete, if_true]

end FSM

lemma MetadataCommand.mutation_cases {cmd : MetadataCommand V} (hv : cmd.mutation.valid = true) :
    cmd.op = "create_bucket" ∧ cmd.mutation = .set ("bucket:" ++ cmd.bucket) cmd.value 0 ∨
    cmd.op = "delete_bucket" ∧ cmd.mutation = .delete ("bucket:" ++ cmd.bucket) ∨
    cmd.op = "put_object_meta" ∧ cmd.mutation = .set ("object:" ++ (cmd.bucket ++ ":" ++ cmd.key)) cmd.value 0 ∨
    cmd.op = "delete_object_meta" ∧ cmd.mutation = .delete ("object:" ++ (cmd.bucket ++ ":" ++ cmd.key)) := by
  by_cases hc : cmd.op = "create_bucket"
  · exact .inl ⟨hc, by simp [mutation, hc]⟩
  by_cases hd : cmd.op = "delete_bucket"
  · exact .inr (.inl ⟨hd, by simp [mutation, hd]⟩)
  by_cases hp : cmd.op = "put_object_meta"
  · exact .inr (.inr (.inl ⟨hp, by simp [mutation, hp]⟩))
  by_cases he : cmd.op = "delete_object_meta"
  · exact .inr (.inr (.inr ⟨he, by simp [mutation, he]⟩))
  simp [mutation, hc, hd, hp, he, Mutation.valid, Mutation.error] at hv

lemma mutations_ofMetadata : (LogData.ofMetadata cmd).mutations = if cmd.op ≠ "" ∧ cmd.bucket ≠ "" then [cmd.mutation]
      else [(⟨cmd.op, cmd.key, cmd.value, 0⟩ : Command V).mutation] := by
  simp only [LogData.mutations, LogData.dispatch, LogData.ofMetadata, LogData.dispatchMetadata]
  split_ifs <;> rfl

lemma mutations_of_valid {cmd : MetadataCommand V} (ho : cmd.op ≠ "" ∧ cmd.op ≠ "set" ∧ cmd.op ≠ "delete")
    (hv : ∀ m ∈ (LogData.ofMetadata cmd).mutations, m.valid = true) :
    (LogData.ofMetadata cmd).mutations = [cmd.mutation] := by
  rw [mutations_ofMetadata] at hv ⊢
  split_ifs at hv ⊢ with h
  · rfl
  · have hm := hv _ (List.mem_singleton_self _)
    simp [Command.mutation, ho.2.1, ho.2.2, Mutation.valid, Mutation.error] at hm

lemma mutations_ofMetadataBatch [Inhabited V] (cmd : MetadataCommand V) (c : List (MetadataCommand V)) :
    (LogData.ofMetadataBatch (cmd :: c)).mutations = (cmd :: c).map MetadataCommand.mutation := rfl

lemma lastError_eq_none_iff (ms : List (Mutation V)) (le : Option String) :
    lastError ms le = none ↔ (∀ m ∈ ms, m.valid = true) ∧ le = none := by
  induction ms generalizing le with
  | nil => simp [lastError]
  | cons m ms ih =>
    rw [lastError, ih, List.forall_mem_cons, Mutation.valid]
    cases m.error <;> simp

lemma Mutation.writes_cases {now : Time} {k : String} {m : Mutation V} (h : m.writes now k = true) :
    (∃ v e, m = .set k v e ∧ expired e now = false) ∨ m = .delete k := by
  cases m with
  | set key v e =>
    simp only [Mutation.writes, Bool.and_eq_true, decide_eq_true_eq, Bool.not_eq_true'] at h
    obtain ⟨rfl, he⟩ := h
    exact .inl ⟨v, e, rfl, he⟩
  | delete key =>
    simp only [Mutation.writes, decide_eq_true_eq] at h
    exact .inr (by rw [h])
  | reject err => simp [Mutation.writes] at h

end Cloudless.Raft
