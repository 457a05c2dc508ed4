import Cloudless.Foundations.Runs
import Cloudless.Storage.Metadata

namespace Cloudless.Storage

open Foundations GoStd Runs Raft

variable {V : Type}

structure BatchOperation (V : Type) where
  (type bucket key : String)
  value : V

def BatchOperation.command (op : BatchOperation V) : MetadataCommand V := ⟨op.type, op.bucket, op.key, op.value⟩

structure OperationResult where
  index : ℕ
  (type bucket key : String)
  success : Bool
  error : String

structure BatchResult where
  (totalOps successCount failureCount : ℕ)
  results : List OperationResult

namespace MetadataStore

def applyToCache (json : MetadataJSON V) (op : BatchOperation V) (ms : MetadataStore V) :
    MetadataStore V × Option String :=
  if op.type = "create_bucket" then
    match json.bucket.unmarshal op.value with
    | .error err => (ms, some err)
    | .ok bucket => ({ ms with buckets := ms.buckets.insert bucket.name bucket }, none)
  else if op.type = "delete_bucket" then ({ ms with buckets := ms.buckets.erase op.bucket }, none)
  else if op.type = "put_object_meta" then
    match json.object.unmarshal op.value with
    | .error err => (ms, some err)
    | .ok object => ({ ms with objects := ms.objects.insert (getObjectKey object.bucket object.key) object }, none)
  else if op.type = "delete_object_meta" then
    ({ ms with objects := ms.objects.erase (getObjectKey op.bucket op.key) }, none)
  else (ms, none)

def operationResult (i : ℕ) (op : BatchOperation V) (err : Option String) : OperationResult :=
  ⟨i, op.type, op.bucket, op.key, err.isNone, err.getD "<nil>"⟩

def updateCache (json : MetadataJSON V) :
    ℕ → List (BatchOperation V) → MetadataStore V → MetadataStore V × List OperationResult
  | _, [], ms => (ms, [])
  | i, op :: ops, ms =>
    let (ms, err) := ms.applyToCache json op
    let (ms, results) := updateCache json (i + 1) ops ms
    (ms, operationResult i op err :: results)

def batchCmd [Inhabited V] (operations : List (BatchOperation V)) : LogData V :=
  .ofMetadataBatch (operations.map BatchOperation.command)

lemma mutations_batchCmd [Inhabited V] {ops : List (BatchOperation V)} (h : ops ≠ []) :
    (batchCmd ops).mutations = ops.map (fun op => op.command.mutation) := by
  cases ops with
  | nil => exact absurd rfl h
  | cons op ops =>
    rw [batchCmd, List.map_cons, mutations_ofMetadataBatch, ← List.map_cons, List.map_map]
    rfl

def executeBatch [Inhabited V] (json : MetadataJSON V) (env : Env) (operations : List (BatchOperation V))
    (ms : MetadataStore V) : MetadataStore V × Except Err BatchResult :=
  match operations with
  | [] => (ms, .ok ⟨0, 0, 0, []⟩)
  | _ :: _ =>
    match ms.applyRAFTCommand env (batchCmd operations) with
    | (ms, some err) => (ms, .error (.wrap "failed to apply batch to RAFT: " err))
    | (ms, none) =>
      let (ms, results) := updateCache json 0 operations ms
      (ms, .ok ⟨operations.length, results.countP (·.success), results.countP (!·.success), results⟩)

def editCache (json : MetadataJSON V) (ms : MetadataStore V) (op : BatchOperation V) : MetadataStore V :=
  (ms.applyToCache json op).1

variable (json : MetadataJSON V)

lemma updateCache_eq (i : ℕ) (ops : List (BatchOperation V)) (ms : MetadataStore V) :
    (updateCache json i ops ms).1 = run (editCache json) ms ops := by
  induction ops generalizing i ms with
  | nil => rfl
  | cons op ops ih => exact ih (i + 1) _

lemma editCache_withRaft {op : BatchOperation V} {ms : MetadataStore V} {x : Option (RaftStore V)} :
    editCache json { ms with raftStore := x } op = { editCache json ms op with raftStore := x } := by
  simp only [editCache, applyToCache]
  split_ifs
  · cases json.bucket.unmarshal op.value <;> rfl
  · rfl
  · cases json.object.unmarshal op.value <;> rfl
  · rfl
  · rfl

lemma run_editCache_withRaft (ops : List (BatchOperation V)) (ms : MetadataStore V) (x : Option (RaftStore V)) :
    run (editCache json) { ms with raftStore := x } ops = { run (editCache json) ms ops with raftStore := x } := by
  induction ops generalizing ms with
  | nil => rfl
  | cons op ops ih => rw [run_cons, run_cons, editCache_withRaft, ih]

lemma executeBatch_cases [Inhabited V] (env : Env) (ops : List (BatchOperation V)) (ms : MetadataStore V) :
    (∃ ms' err, ms.executeBatch json env ops = (ms', .error err) ∧ TurnedDown env (batchCmd ops) ms ms') ∨
    (ops = [] ∧ ∃ r, ms.executeBatch json env ops = (ms, .ok r)) ∨ ops ≠ [] ∧ ms.Accepts env (batchCmd ops) ∧
      ∃ r, ms.executeBatch json env ops = (run (editCache json) (ms.record env (batchCmd ops)) ops, .ok r) := by
  cases ops with
  | nil => exact .inr (.inl ⟨rfl, _, rfl⟩)
  | cons op ops =>
    rw [executeBatch]
    rcases ms.applyRAFTCommand_cases env (batchCmd (op :: ops)) with ⟨ms', err, he, ht⟩ | ⟨he, ha⟩
    · exact .inl ⟨ms', _, by simp only [he]; rfl, ht⟩
    · refine .inr (.inr ⟨by simp, ha, ?_⟩)
      rw [← updateCache_eq json 0]
      simp only [he]
      exact ⟨_, rfl⟩

end MetadataStore

inductive Call (V : Type)
  | createBucket (env : Env) (bucket : Bucket)
  | updateBucket (env : Env) (bucket : Bucket)
  | deleteBucket (env : Env) (name : String)
  | putObject (env : Env) (object : Object)
  | deleteObject (env : Env) (bucket key : String)
  | executeBatch (env : Env) (operations : List (BatchOperation V))
  | getObject (now : Time) (bucket key : String) (opts : ReadOptions)

def failure {α : Type} : Except Err α → Option Err
  | .ok _ => none
  | .error err => some err

def MetadataStore.call [Inhabited V] (json : MetadataJSON V) (ms : MetadataStore V) :
    Call V → MetadataStore V × Option Err
  | .createBucket env bucket => (ms.createBucket json env bucket).map id failure
  | .updateBucket env bucket => (ms.updateBucket env bucket).map id failure
  | .deleteBucket env name => (ms.deleteBucket env name).map id failure
  | .putObject env object => (ms.putObject json env object).map id failure
  | .deleteObject env bucket key => (ms.deleteObject env bucket key).map id failure
  | .executeBatch env operations => (ms.executeBatch json env operations).map id failure
  | .getObject now bucket key opts => (ms.getObjectWithOptions now bucket key opts).map id failure

def MetadataStore.after [Inhabited V] (json : MetadataJSON V) (ms : MetadataStore V) (c : Call V) : MetadataStore V :=
  (ms.call json c).1

end Cloudless.Storage
