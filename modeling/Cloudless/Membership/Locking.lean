import Cloudless.Foundations.Locks
import Cloudless.Membership.Registry

/-! The methods of the membership manager as sequences of steps on its two mutexes and the state they guard. -/

namespace Cloudless.Membership

open Foundations FiniteMaps GoStd Runs Interleaving Locks Raft Registry

inductive Mutex
  | mu
  | assignmentMu
  deriving DecidableEq

variable {V A : Type} {codec : Codec NodeInfo V}

abbrev Method (codec : Codec NodeInfo V) (A R : Type) := Prog Mutex (Registry codec A) R

namespace Method

def observe : Method codec A (Registry codec A) := atomically fun r => (r, r)

def change (f : Registry codec A → Registry codec A) : Method codec A Unit := atomically fun r => ((), f r)

def clearPending (id : String) (r : Registry codec A) : Registry codec A :=
  { r with
    manager :=
      { r.manager with
        pendingAssignments := r.manager.pendingAssignments.erase id
        pendingCommands := r.manager.pendingCommands.erase id } }

def processHeartbeat (env : RaftEnv) (now : Time) (req : HeartbeatRequest) :
    Method codec A (Except String (HeartbeatResponse A)) := do
  lock .mu
  let r ← observe
  match r.manager.nodes.lookup req.nodeId with
  | none =>
    unlock .mu
    return .error ("node not found: " ++ req.nodeId)
  | some node =>
    let node := node.heartbeat now req
    change (setNode node)
    let _ ← atomically (saveNode env node)
    lock .assignmentMu
    let r ← observe
    let assignments := (r.manager.pendingAssignments.lookup req.nodeId).getD []
    let commands := (r.manager.pendingCommands.lookup req.nodeId).getD []
    change (clearPending req.nodeId)
    unlock .assignmentMu
    let commands :=
      if node.state = .draining ∧ "drain:graceful" ∉ commands then commands ++ ["drain:graceful"] else commands
    unlock .mu
    return .ok ⟨assignments, commands, node.heartbeatInterval⟩

def queue (nodeID : String) (add : Registry codec A → Registry codec A) : Method codec A (Except String Unit) := do
  lock .assignmentMu
  rlock .mu
  let r ← observe
  runlock .mu
  match r.manager.nodes.lookup nodeID with
  | none =>
    unlock .assignmentMu
    return .error ("node not found: " ++ nodeID)
  | some _ =>
    change add
    unlock .assignmentMu
    return .ok ()

def queueAssignment (nodeID : String) (assignment : A) : Method codec A (Except String Unit) :=
  queue nodeID fun r =>
    { r with
      manager :=
        { r.manager with
          pendingAssignments := r.manager.pendingAssignments.insert nodeID
            ((r.manager.pendingAssignments.lookup nodeID).getD [] ++ [assignment]) } }

def queueCommand (nodeID command : String) : Method codec A (Except String Unit) :=
  queue nodeID fun r =>
    { r with
      manager :=
        { r.manager with
          pendingCommands := r.manager.pendingCommands.insert nodeID
            ((r.manager.pendingCommands.lookup nodeID).getD [] ++ [command]) } }

def queueCommands (nodeID : String) : List String → Method codec A Unit
  | [] => return ()
  | command :: commands => do
    let _ ← queueCommand nodeID command
    queueCommands nodeID commands

def triggerWorkloadMigration (nodeID : String) (graceful : Bool) : Method codec A (Option String) := do
  rlock .mu
  let r ← observe
  match r.manager.nodes.lookup nodeID with
  | none =>
    runlock .mu
    return some ("node not found: " ++ nodeID)
  | some node =>
    runlock .mu
    queueCommands nodeID (node.containers.map (stopCommand graceful))
    return none

def drainNode (env : RaftEnv) (nodeID : String) (graceful : Bool) : Method codec A (Option String) := do
  lock .mu
  let r ← observe
  match r.manager.nodes.lookup nodeID with
  | none =>
    unlock .mu
    return some ("node not found: " ++ nodeID)
  | some node =>
    if node.state = .draining then
      unlock .mu
      return some "node already draining"
    else
      change (setNode node.drained)
      match ← atomically (saveNode env node.drained) with
      | some err =>
        unlock .mu
        return some ("failed to persist node state: " ++ err)
      | none =>
        let _ ← triggerWorkloadMigration nodeID graceful
        unlock .mu
        return none

def uncordonNode (env : RaftEnv) (nodeID : String) : Method codec A (Option String) := do
  lock .mu
  let r ← observe
  match r.manager.nodes.lookup nodeID with
  | none =>
    unlock .mu
    return some ("node not found: " ++ nodeID)
  | some node =>
    change (setNode node.uncordoned)
    match ← atomically (saveNode env node.uncordoned) with
    | some err =>
      unlock .mu
      return some ("failed to persist node state: " ++ err)
    | none =>
      unlock .mu
      return none

def checkNodeHealth (now : Time) : Method codec A Unit := do
  lock .mu
  change (Registry.checkNodeHealth now)
  unlock .mu
  return ()

/-! What the steps of a method amount to if no other method runs in between. -/

@[simp] lemma eval_observe {r : Registry codec A} : (observe : Method codec A _).eval r = (r, r) := rfl

@[simp] lemma eval_change {f : Registry codec A → Registry codec A} {r : Registry codec A} :
    (change f).eval r = ((), f r) := rfl

variable (env : RaftEnv) (nodeID : String) (now : Time) (graceful : Bool)

lemma saveNode_setNode {no o : NodeInfo} {r : Registry codec A} :
    (r.setNode o).saveNode env no = ((r.saveNode env no).1, (r.saveNode env no).2.setNode o) := by
  rw [Registry.saveNode, Registry.saveNode]
  split <;> rfl

lemma eval_processHeartbeat {req : HeartbeatRequest} {r : Registry codec A} :
    (processHeartbeat env now req).eval r = r.processHeartbeat env now req := by
  rw [Registry.processHeartbeat]
  cases hl : r.manager.nodes.lookup req.nodeId with
  | none => simp [processHeartbeat, hl]
  | some no =>
    have hm := (r.saveNode_cases env (no.heartbeat now req)).1
    simp only [processHeartbeat, eval_bind, eval_lock, eval_unlock, eval_observe, eval_change, eval_atomically, eval_pure,
      hl, saveNode_setNode]
    simp only [setNode, clearPending, Manager.setNode, Manager.processHeartbeat, hm, hl]

lemma eval_queue {add : Registry codec A → Registry codec A} {r : Registry codec A} :
    (queue nodeID add).eval r = match r.manager.nodes.lookup nodeID with
      | none => (.error ("node not found: " ++ nodeID), r)
      | some _ => (.ok (), add r) := by
  cases hl : r.manager.nodes.lookup nodeID <;> simp [queue, hl]

lemma eval_queueAssignment {assignment : A} {r : Registry codec A} :
    (queueAssignment nodeID assignment).eval r = r.queueAssignment nodeID assignment := by
  rw [queueAssignment, eval_queue, Registry.queueAssignment, Manager.queueAssignment]
  cases r.manager.nodes.lookup nodeID <;> rfl

lemma eval_queueCommand {command : String} {r : Registry codec A} :
    (queueCommand nodeID command).eval r = r.queueCommand nodeID command := by
  rw [queueCommand, eval_queue, Registry.queueCommand, Manager.queueCommand]
  cases r.manager.nodes.lookup nodeID <;> rfl

lemma eval_queueCommands {cs : List String} {r : Registry codec A} : (queueCommands nodeID cs).eval r =
      ((), cs.foldl (fun r c => (r.queueCommand nodeID c).2) r) := by
  induction cs generalizing r with
  | nil => rfl
  | cons c cs ih =>
    rw [queueCommands, eval_bind, eval_queueCommand, ih, List.foldl_cons]

lemma eval_triggerWorkloadMigration {r : Registry codec A} :
    (triggerWorkloadMigration nodeID graceful).eval r = r.triggerWorkloadMigration nodeID graceful := by
  rw [Registry.triggerWorkloadMigration]
  cases hl : r.manager.nodes.lookup nodeID with
  | none => simp [triggerWorkloadMigration, hl]
  | some no => simp [triggerWorkloadMigration, hl, eval_queueCommands, List.foldl_map]

lemma eval_drainNode {r : Registry codec A} :
    (drainNode env nodeID graceful).eval r = r.drainNode env nodeID graceful := by
  rw [Registry.drainNode]
  cases hl : r.manager.nodes.lookup nodeID with
  | none => simp [drainNode, hl]
  | some no =>
    by_cases hs : no.state = .draining
    · simp [drainNode, hl, hs]
    · simp only [drainNode, eval_bind, eval_lock, eval_observe, hl, hs, if_false, eval_change, eval_atomically]
      rcases (r.setNode no.drained).saveNode env no.drained with ⟨_ | err, s⟩
      · simp [eval_triggerWorkloadMigration]
      · simp

lemma eval_uncordonNode {r : Registry codec A} : (uncordonNode env nodeID).eval r = r.uncordonNode env nodeID := by
  rw [Registry.uncordonNode]
  cases hl : r.manager.nodes.lookup nodeID with
  | none => simp [uncordonNode, hl]
  | some no =>
    simp only [uncordonNode, eval_bind, eval_lock, eval_observe, hl, eval_change, eval_atomically]
    rcases (r.setNode no.uncordoned).saveNode env no.uncordoned with ⟨_ | err, s⟩ <;> simp

lemma eval_checkNodeHealth {r : Registry codec A} : (checkNodeHealth now).eval r = ((), r.checkNodeHealth now) := rfl

/-! The order in which the methods take the mutexes. -/

def SameNodes (r₀ r : Registry codec A) : Prop :=
  (∀ id, (r.manager.nodes.lookup id).isSome = (r₀.manager.nodes.lookup id).isSome) ∧
    r.raftStore.isLeader = r₀.raftStore.isLeader

variable {r₀ r : Registry codec A} {rank : Mutex → ℕ}

lemma SameNodes.setNode (h : SameNodes r₀ r) {no : NodeInfo} (hn : (r.manager.nodes.lookup no.id).isSome) :
    SameNodes r₀ (r.setNode no) := by
  refine ⟨?_, h.2⟩
  intro id
  rw [Registry.setNode, Manager.setNode_lookup, ← h.1]
  split_ifs with hid
  · rw [hid, hn]
    rfl
  · rfl

lemma SameNodes.saveNode (h : SameNodes r₀ r) (env : RaftEnv) (no : NodeInfo) :
    SameNodes r₀ (r.saveNode env no).2 := by
  obtain ⟨hm, hl, -⟩ := r.saveNode_cases env no
  rwa [SameNodes, hm, hl]

def heartbeatOrder : Mutex → ℕ
  | .mu => 0
  | .assignmentMu => 1

def queueOrder : Mutex → ℕ
  | .assignmentMu => 0
  | .mu => 1

section Steps

variable {R : Type} {held : Finset (Mutex × Mode)}

lemma ordered_observe {k : Registry codec A → Method codec A R}
    (hk : ∀ r, SameNodes r₀ r → Ordered rank (SameNodes r₀) held (k r)) :
    Ordered rank (SameNodes r₀) held (observe >>= k) :=
  ordered_atomically.mpr fun r hr => ⟨hr, hk r hr⟩

lemma ordered_change {f : Registry codec A → Registry codec A} {k : Unit → Method codec A R}
    (hf : ∀ r, SameNodes r₀ r → SameNodes r₀ (f r)) (hk : Ordered rank (SameNodes r₀) held (k ())) :
    Ordered rank (SameNodes r₀) held (change f >>= k) :=
  ordered_atomically.mpr fun r hr => ⟨hf r hr, hk⟩

lemma ordered_setNode {no : NodeInfo} {k : Unit → Method codec A R} (hr : SameNodes r₀ r)
    (hn : r.manager.nodes.lookup no.id ≠ none) (hk : Ordered rank (SameNodes r₀) held (k ())) :
    Ordered rank (SameNodes r₀) held (change (setNode no) >>= k) := by
  refine ordered_change (fun r' hr' => hr'.setNode ?_) hk
  rw [hr'.1, ← hr.1]
  exact Option.isSome_iff_ne_none.mpr hn

end Steps

lemma ordered_processHeartbeat (req : HeartbeatRequest) :
    Ordered heartbeatOrder (SameNodes r₀) ∅ (processHeartbeat env now req) := by
  rw [processHeartbeat, ordered_lock]
  refine ⟨by simp, ordered_observe fun r hr => ?_⟩
  cases hl : r.manager.nodes.lookup req.nodeId with
  | none => simp
  | some no =>
    have hid : (no.heartbeat now req).id = req.nodeId := by rw [NodeInfo.heartbeat_id, r.manager.keyed _ _ hl]
    refine ordered_setNode hr (by rw [hid, hl]; exact Option.some_ne_none _) ?_
    refine ordered_atomically.mpr fun r' hr' => ⟨hr'.saveNode env _, ?_⟩
    rw [ordered_lock]
    refine ⟨by simp [heartbeatOrder], ordered_observe fun r'' _ => ordered_change (fun _ hr => hr) ?_⟩
    rw [ordered_unlock, Finset.erase_insert (by decide)]
    simp

lemma ordered_processHeartbeat_of_missing {req : HeartbeatRequest} (h : r₀.manager.nodes.lookup req.nodeId = none) :
    Ordered rank (SameNodes r₀) ∅ (processHeartbeat env now req) := by
  rw [processHeartbeat, ordered_lock]
  refine ⟨by simp, ordered_observe fun r hr => ?_⟩
  have hnone := hr.1 req.nodeId
  rw [h, Option.isSome_none, Option.isSome_eq_false_iff, Option.isNone_iff_eq_none] at hnone
  rw [hnone]
  simp

lemma ordered_queue {add : Registry codec A → Registry codec A} (ha : ∀ r, SameNodes r₀ r → SameNodes r₀ (add r)) :
    Ordered queueOrder (SameNodes r₀) ∅ (queue nodeID add) := by
  rw [queue, ordered_lock]
  refine ⟨by simp, ?_⟩
  rw [ordered_rlock]
  refine ⟨by simp [queueOrder], ordered_observe fun r _ => ?_⟩
  rw [ordered_runlock, Finset.erase_insert (by decide)]
  refine ⟨by simp, ?_⟩
  cases r.manager.nodes.lookup nodeID with
  | none => simp
  | some no => exact ordered_change ha (by simp)

lemma ordered_queueAssignment (a : A) : Ordered queueOrder (SameNodes r₀) ∅ (queueAssignment nodeID a) :=
  ordered_queue nodeID fun _ hr => hr

lemma ordered_queueCommand (c : String) : Ordered queueOrder (SameNodes r₀) ∅ (queueCommand nodeID c) :=
  ordered_queue nodeID fun _ hr => hr

lemma saveNode_eq_none {env : RaftEnv} {no : NodeInfo} (h : (r.saveNode env no).1 = none) :
    r.raftStore.isLeader = true ∧ env.commit = .committed := by
  rw [saveNode] at h
  split at h
  · cases h
  · exact RaftStore.set_eq_none_iff.mp h

lemma ordered_drainNode {env : RaftEnv} {nodeID : String}
    (h : r₀.manager.nodes.lookup nodeID ≠ none → ¬(r₀.raftStore.isLeader = true ∧ env.commit = .committed)) :
    Ordered rank (SameNodes r₀) ∅ (drainNode env nodeID graceful) := by
  rw [drainNode, ordered_lock]
  refine ⟨by simp, ordered_observe fun r hr => ?_⟩
  cases hl : r.manager.nodes.lookup nodeID with
  | none => simp
  | some no =>
    have he : r₀.manager.nodes.lookup nodeID ≠ none := by
      rw [← Option.isSome_iff_ne_none, ← hr.1, hl]
      rfl
    have hid : no.id = nodeID := r.manager.keyed _ _ hl
    dsimp only
    split_ifs with hs
    · simp
    · refine ordered_setNode hr (by rw [NodeInfo.drained, hid, hl]; exact Option.some_ne_none _) ?_
      refine ordered_atomically.mpr fun r' hr' => ⟨hr'.saveNode env _, ?_⟩
      -- the record cannot be written, so the migration is not reached
      cases hsave : (r'.saveNode env no.drained).1 with
      | none =>
        obtain ⟨hle, hco⟩ := saveNode_eq_none hsave
        rw [hr'.2] at hle
        exact absurd ⟨hle, hco⟩ (h he)
      | some err => simp

lemma ordered_uncordonNode : Ordered rank (SameNodes r₀) ∅ (uncordonNode env nodeID) := by
  rw [uncordonNode, ordered_lock]
  refine ⟨by simp, ordered_observe fun r hr => ?_⟩
  cases hl : r.manager.nodes.lookup nodeID with
  | none => simp
  | some no =>
    have hid : no.id = nodeID := r.manager.keyed _ _ hl
    refine ordered_setNode hr (by rw [NodeInfo.uncordoned, hid, hl]; exact Option.some_ne_none _) ?_
    refine ordered_atomically.mpr fun r' hr' => ⟨hr'.saveNode env _, ?_⟩
    cases (r'.saveNode env no.uncordoned).1 <;> simp

lemma ordered_checkNodeHealth : Ordered rank (SameNodes r₀) ∅ (checkNodeHealth now) := by
  rw [checkNodeHealth, ordered_lock]
  refine ⟨by simp, ordered_change (fun r hr => ⟨?_, hr.2⟩) (by simp)⟩
  intro id
  rw [Registry.checkNodeHealth, Manager.checkNodeHealth_lookup, Option.isSome_map]
  exact hr.1 id

end Method

inductive Call (A : Type)
  | processHeartbeat (env : RaftEnv) (now : Time) (req : HeartbeatRequest)
  | queueAssignment (nodeID : String) (assignment : A)
  | queueCommand (nodeID command : String)
  | drainNode (env : RaftEnv) (nodeID : String) (graceful : Bool)
  | uncordonNode (env : RaftEnv) (nodeID : String)
  | checkNodeHealth (now : Time)

namespace Call

def method (codec : Codec NodeInfo V) : Call A → Method codec A Unit
  | .processHeartbeat env now req => (Method.processHeartbeat env now req).bind fun _ => .ret ()
  | .queueAssignment nodeID assignment => (Method.queueAssignment nodeID assignment).bind fun _ => .ret ()
  | .queueCommand nodeID command => (Method.queueCommand nodeID command).bind fun _ => .ret ()
  | .drainNode env nodeID graceful => (Method.drainNode env nodeID graceful).bind fun _ => .ret ()
  | .uncordonNode env nodeID => (Method.uncordonNode env nodeID).bind fun _ => .ret ()
  | .checkNodeHealth now => Method.checkNodeHealth now

def Beats (r : Registry codec A) : Call A → Prop
  | .processHeartbeat _ _ req => r.manager.nodes.lookup req.nodeId ≠ none
  | _ => False

def Queues : Call A → Prop
  | .queueAssignment .. => True
  | .queueCommand .. => True
  | _ => False

def Migrates (r : Registry codec A) : Call A → Prop
  | .drainNode env nodeID _ =>
    r.manager.nodes.lookup nodeID ≠ none ∧ r.raftStore.isLeader = true ∧ env.commit = .committed
  | _ => False

lemma ordered_of_not_queues {r : Registry codec A} {call : Call A} (hm : ¬call.Migrates r) (hq : ¬call.Queues) :
    Ordered Method.heartbeatOrder (Method.SameNodes r) ∅ (call.method codec) := by
  cases call with
  | processHeartbeat env now req => exact (Method.ordered_processHeartbeat env now req).bind_ret _
  | queueAssignment | queueCommand => exact absurd trivial hq
  | drainNode env nodeID graceful =>
    exact (Method.ordered_drainNode graceful fun hn hs => hm ⟨hn, hs⟩).bind_ret _
  | uncordonNode env nodeID => exact (Method.ordered_uncordonNode env nodeID).bind_ret _
  | checkNodeHealth now => exact Method.ordered_checkNodeHealth now

lemma ordered_of_not_beats {r : Registry codec A} {ca : Call A} (hm : ¬ca.Migrates r) (hb : ¬ca.Beats r) :
    Ordered Method.queueOrder (Method.SameNodes r) ∅ (ca.method codec) := by
  cases ca with
  | processHeartbeat env now req => exact (Method.ordered_processHeartbeat_of_missing env now (not_not.mp hb)).bind_ret _
  | queueAssignment nodeID a => exact (Method.ordered_queueAssignment nodeID a).bind_ret _
  | queueCommand nodeID c => exact (Method.ordered_queueCommand nodeID c).bind_ret _
  | drainNode env nodeID graceful =>
    exact (Method.ordered_drainNode graceful fun hn hs => hm ⟨hn, hs⟩).bind_ret _
  | uncordonNode env nodeID => exact (Method.ordered_uncordonNode env nodeID).bind_ret _
  | checkNodeHealth now => exact Method.ordered_checkNodeHealth now

def perform (r : Registry codec A) : Call A → Registry codec A
  | .processHeartbeat env now req => (r.processHeartbeat env now req).2
  | .queueAssignment nodeID assignment => (r.queueAssignment nodeID assignment).2
  | .queueCommand nodeID command => (r.queueCommand nodeID command).2
  | .drainNode env nodeID graceful => (r.drainNode env nodeID graceful).2
  | .uncordonNode env nodeID => (r.uncordonNode env nodeID).2
  | .checkNodeHealth now => r.checkNodeHealth now

lemma eval_method (call : Call A) (r : Registry codec A) : ((call.method codec).eval r).2 = call.perform r := by
  cases call <;> simp only [method, perform, Prog.eval_bind, Prog.eval, Method.eval_processHeartbeat,
    Method.eval_queueAssignment, Method.eval_queueCommand, Method.eval_drainNode, Method.eval_uncordonNode,
    Method.eval_checkNodeHealth]

lemma inside_method {call : Call A} (h : ¬call.Queues) : ∃ k, call.method codec = .lock .mu k ∧ Inside .mu k := by
  have hu : Inside Mutex.mu (.unlock .mu (.ret ()) : Method codec A Unit) := .inl ⟨rfl, _, rfl⟩
  cases call with
  | queueAssignment | queueCommand => exact absurd trivial h
  | processHeartbeat env now req =>
    refine ⟨_, rfl, fun r => ?_⟩
    cases hl : r.manager.nodes.lookup req.nodeId <;> simp only [Prog.bind, hl]
    · exact hu
    · exact fun _ _ => .inr fun _ _ => .inr ⟨nofun, hu⟩
  | drainNode env nodeID graceful =>
    refine ⟨_, rfl, fun r => ?_⟩
    rcases hl : r.manager.nodes.lookup nodeID with _ | no <;> simp only [Prog.bind, hl]
    · exact hu
    · split_ifs
      · exact hu
      · intro _ r
        cases hs : (r.saveNode env no.drained).1 <;> simp only [Prog.bind, hs]
        · exact .inl rfl
        · exact hu
  | uncordonNode env nodeID =>
    refine ⟨_, rfl, fun r => ?_⟩
    rcases hl : r.manager.nodes.lookup nodeID with _ | no <;> simp only [Prog.bind, hl]
    · exact hu
    · intro _ r
      cases hs : (r.saveNode env no.uncordoned).1 <;> simp only [Prog.bind, hs] <;> exact hu
  | checkNodeHealth now => exact ⟨_, rfl, fun _ => hu⟩

end Call

def concurrentCalls {n : ℕ} (r : Registry codec A) (calls : Fin n → Call A) :
    Pool (Fin n) (Machine (Fin n) Mutex (Registry codec A)) (Method codec A Unit) :=
  ⟨⟨fun _ => {}, r⟩, fun i => (calls i).method codec⟩

section Deadlock

variable {n : ℕ} {r : Registry codec A} {calls : Fin n → Call A}

lemma Call.method_eq_lock (c : Call A) : ∃ m k, c.method codec = .lock m k := by
  cases c <;> exact ⟨_, _, rfl⟩

lemma Call.Queues.method_eq {call : Call A} (h : call.Queues) :
    ∃ k, call.method codec = .lock .assignmentMu (.rlock .mu k) := by
  cases call with
  | queueAssignment | queueCommand => exact ⟨_, rfl⟩
  | _ => exact h.elim

lemma Call.Beats.method_eq {c : Call A} (h : c.Beats r) : ∃ k, c.method codec = .lock .mu (.act (fun r => r) k) ∧
      ∃ f g, ∃ l : _ → Method codec A Unit, k r = .act f fun _ => .act g fun s => .lock .assignmentMu (l s) := by
  cases c with
  | processHeartbeat env now req =>
    obtain ⟨no, hl⟩ := Option.ne_none_iff_exists'.mp h
    refine ⟨_, rfl, ?_⟩
    simp only [Prog.bind, hl]
    exact ⟨_, _, _, rfl⟩
  | _ => exact h.elim

lemma run_heartbeat {i : Fin n} (hi : (calls i).Beats r) :
    ∃ r' k, run (Pool.advance progStep) (concurrentCalls r calls) (List.replicate 5 i) =
      ⟨Machine.set .mu { writer := some i } ⟨fun _ => {}, r'⟩,
        Function.update (fun i => (calls i).method codec) i (.lock .assignmentMu k)⟩ := by
  obtain ⟨k, hm, f, g, l, hk⟩ := Call.Beats.method_eq hi
  refine ⟨g (f r), l (f r), ?_⟩
  rw [concurrentCalls, ← Function.update_eq_self i fun i => (calls i).method codec, hm]
  simp only [List.replicate, run, List.foldl]
  rw [Pool.advance_update_of_some rfl, Pool.advance_update_of_some rfl, Pool.advance_update_of_some rfl]
  dsimp only [Machine.set]
  rw [hk, Pool.advance_update_of_some rfl, Pool.advance_update_of_some rfl]
  simp

lemma run_deadlock {i j : Fin n} (hi : (calls i).Beats r) (hj : (calls j).Queues) (hne : j ≠ i) :
    ∃ r' k k', run (Pool.advance progStep) (concurrentCalls r calls) (List.replicate 5 i ++ [j, j]) =
      ⟨Machine.set .assignmentMu { writer := some j } (Machine.set .mu { writer := some i } ⟨fun _ => {}, r'⟩),
        Function.update (Function.update (fun i => (calls i).method codec) i (.lock .assignmentMu k)) j
          (.rlock .mu k')⟩ := by
  obtain ⟨r', k, hr⟩ := run_heartbeat hi
  obtain ⟨k', hk'⟩ := Call.Queues.method_eq hj
  refine ⟨r', k, k', ?_⟩
  rw [run_append, hr, ← Function.update_eq_self j (Function.update _ i _), Function.update_of_ne hne, hk']
  simp only [run, List.foldl]
  rw [Pool.advance_update_of_some rfl, Pool.advance_update_of_some rfl]
  simp [Machine.set]

lemma not_neverStuck {i j : Fin n} (hi : (calls i).Beats r) (hj : (calls j).Queues) :
    ¬(concurrentCalls r calls).NeverStuck progStep Prog.Returned := by
  have hne : j ≠ i := by
    rintro rfl
    cases hc : calls j <;> simp_all [Call.Beats, Call.Queues]
  intro h
  have hs := h (List.replicate 5 i ++ [j, j])
  obtain ⟨r', k, k', hrun⟩ := run_deadlock hi hj hne
  rw [hrun] at hs
  rcases hs with hr | ⟨x, hx⟩
  · have hret := hr j
    dsimp only at hret
    rwa [Function.update_self] at hret
  · apply hx
    by_cases hxj : x = j
    · simp [hxj, progStep, Machine.set]
    · by_cases hxi : x = i
      · simp [hxi, hne.symm, progStep, Machine.set]
      · -- a call that has not started waits for the mutex it begins with
        obtain ⟨m, l, hm⟩ : ∃ m l, (calls x).method codec = .lock m l := (calls x).method_eq_lock
        cases m <;> simp [hxj, hxi, hm, progStep, Machine.set]

end Deadlock

theorem calls_finish_iff {n : ℕ} {r : Registry codec A} {calls : Fin n → Call A}
    (hmigrates : ∀ i, ¬(calls i).Migrates r) :
    (concurrentCalls r calls).NeverStuck progStep Prog.Returned ∧ (concurrentCalls r calls).Finishes progStep Prog.Returned ↔
      (∀ i, ¬(calls i).Beats r) ∨ ∀ i, ¬(calls i).Queues := by
  have hs : Method.SameNodes r r := ⟨fun _ => rfl, rfl⟩
  constructor
  · intro h
    by_contra hboth
    rw [not_or, not_forall_not, not_forall_not] at hboth
    obtain ⟨⟨i, hi⟩, j, hj⟩ := hboth
    exact not_neverStuck hi hj h.1
  · rintro (hb | hq)
    · have h := guarded_start (fun i => Call.ordered_of_not_beats (hmigrates i) (hb i)) hs
      exact ⟨h.neverStuck, h.finishes⟩
    · have h := guarded_start (fun i => Call.ordered_of_not_queues (hmigrates i) (hq i)) hs
      exact ⟨h.neverStuck, h.finishes⟩

theorem calls_finish_heartbeats :
    (∀ i, ¬((![.processHeartbeat committed 1 { nodeId := "n1" }, .checkNodeHealth 2] : Fin 2 → Call String)
      i).Migrates oneNodeRegistry) ∧ (concurrentCalls oneNodeRegistry
      ![.processHeartbeat committed 1 { nodeId := "n1" }, .checkNodeHealth 2]).NeverStuck progStep Prog.Returned ∧
    (concurrentCalls oneNodeRegistry
      ![.processHeartbeat committed 1 { nodeId := "n1" }, .checkNodeHealth 2]).Finishes progStep Prog.Returned := by
  have hm : ∀ i, ¬((![.processHeartbeat committed 1 { nodeId := "n1" }, .checkNodeHealth 2] :
      Fin 2 → Call String) i).Migrates oneNodeRegistry := by
    simp [Fin.forall_fin_two, Call.Migrates]
  refine ⟨hm, (calls_finish_iff hm).mpr (.inr ?_)⟩
  simp [Fin.forall_fin_two, Call.Queues]

theorem waiting_calls_deadlock : Deadlocked (run (Pool.advance progStep) (concurrentCalls oneNodeRegistry
      ![.processHeartbeat committed 1 { nodeId := "n1" }, .queueAssignment "n1" "web"]) [0, 0, 0, 0, 0, 1, 1]) ∧
    Deadlocked (run (Pool.advance progStep) (concurrentCalls oneNodeRegistry
      ![.drainNode committed "n1" true]) [0, 0, 0, 0, 0]) := by
  decide +kernel

theorem calls_serializable {n : ℕ} {r : Registry codec A} {calls : Fin n → Call A} (hq : ∀ i, ¬(calls i).Queues)
    {s : List (Fin n)} {p : Pool (Fin n) (Machine (Fin n) Mutex (Registry codec A)) (Method codec A Unit)}
    (hp : run (Pool.advance progStep) (concurrentCalls r calls) s = p) (hw : (p.shared.mutexes .mu).writer = none) :
    ∃ order : List (Fin n), order.Nodup ∧ (∀ i, i ∈ order ↔ (p.locals i).Returned) ∧
      p.shared.state = order.foldl (fun r i => (calls i).perform r) r := by
  have hi : ∀ i, ∃ k, (calls i).method codec = .lock .mu k ∧ Inside .mu k := fun i => Call.inside_method (hq i)
  obtain ⟨order, h⟩ : ∃ order, Serial .mu (fun i => (calls i).method codec) r order p := hp ▸ serial_run hi s
  refine ⟨order, h.nodup, fun i => ⟨fun hm => (h.entered i hm).resolve_right (by simp [hw]), fun hr => ?_⟩, ?_⟩
  · by_contra hm
    obtain ⟨k, hk, -⟩ := hi i
    rwa [(h.waiting i hm).1, hk] at hr
  · have hs := h.state
    simpa only [hw, serially, Call.eval_method] using hs

theorem calls_serializable_beats : ∃ (calls : Fin 2 → Call String) (order : List (Fin 2)),
    (∀ i, i ∈ order) ∧ (run (Pool.advance progStep) (concurrentCalls oneNodeRegistry calls)
      (List.replicate 11 0 ++ List.replicate 4 1)).shared.state =
      order.foldl (fun r i => (calls i).perform r) oneNodeRegistry := by
  have hq : ∀ i, ¬(![Call.processHeartbeat (A := String) committed 1 { nodeId := "n1" }, .checkNodeHealth 2] i).Queues := by
    simp [Fin.forall_fin_two, Call.Queues]
  obtain ⟨order, -, hm, hs⟩ := calls_serializable (r := oneNodeRegistry) hq
    (s := List.replicate 11 0 ++ List.replicate 4 1) rfl (by decide +kernel)
  exact ⟨_, order, fun i => (hm i).mpr (by revert i; decide +kernel), hs⟩

end Cloudless.Membership
