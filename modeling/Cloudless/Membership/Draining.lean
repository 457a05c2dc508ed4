import Cloudless.Membership.Registry

/-! The states that a drained node passes through while other nodes and the coordinator go about their business. -/

namespace Cloudless.Membership

open Foundations GoStd MapLoops Runs Raft

variable {V A : Type} {codec : Codec NodeInfo V}

inductive Event
  | heartbeat (env : RaftEnv) (now : Time) (req : HeartbeatRequest)
  | checkHealth (now : Time)
  | enroll (env : RaftEnv) (now : Time) (token : Except String String) (certificate : Except String Unit)
      (req : EnrollNodeRequest)
  | restart (now : Time) (order : MapOrder)

def Event.Others (id : String) : Event → Prop
  | .enroll _ now token _ req =>
    ∀ tokenNodeID, token = .ok tokenNodeID → (Registry.enrolledNode now tokenNodeID req).id ≠ id
  | _ => True

namespace Registry

def step (r : Registry codec A) : Event → Registry codec A
  | .heartbeat env now req => (r.processHeartbeat env now req).2
  | .checkHealth now => r.checkNodeHealth now
  | .enroll env now token certificate req => (r.enrollNode env now token certificate req).2
  | .restart now order => r.restart now order

def IsReady (r : Registry codec A) (id : String) : Prop :=
  ∃ node, r.manager.nodes.lookup id = some node ∧ node.state = .ready

/-- The node, in memory and in its record, is draining or was draining before its heartbeats stopped. -/
structure Withdrawn (r : Registry codec A) (id : String) : Prop where
  enrolled : ∀ node, r.manager.nodes.lookup id = some node → node.state = .draining ∨ node.state = .offline
  recorded : ∀ node, r.stored id = some node → node.state = .draining ∨ node.state = .offline

variable {r : Registry codec A} {id : String}

lemma Withdrawn.not_isReady (h : r.Withdrawn id) : ¬r.IsReady id := by
  rintro ⟨n, hl, hr⟩
  rcases h.enrolled n hl with hs | hs <;> rw [hr] at hs <;> cases hs

lemma Withdrawn.save (h : r.Withdrawn id) (env : RaftEnv) {n : NodeInfo}
    (hnode : n.id = id → n.state = .draining ∨ n.state = .offline) : (r.saveNode env n).2.Withdrawn id := by
  obtain ⟨hm, -, ⟨-, hs⟩ | hs⟩ := r.saveNode_cases env n
  · refine ⟨?_, ?_⟩
    · rw [hm]
      exact h.enrolled
    · rw [hs]
      exact h.recorded
  · refine ⟨?_, ?_⟩
    · rw [hm]
      exact h.enrolled
    · intro o ho
      rw [hs] at ho
      split_ifs at ho with hid
      · cases ho
        exact hnode hid.symm
      · exact h.recorded o ho

lemma triggerWorkloadMigration_nodes (ni : String) (g : Bool) (r : Registry codec A) :
    (r.triggerWorkloadMigration ni g).2.manager.nodes = r.manager.nodes ∧
      (r.triggerWorkloadMigration ni g).2.raftStore = r.raftStore := by
  rw [triggerWorkloadMigration]
  cases r.manager.nodes.lookup ni with
  | none => exact ⟨rfl, rfl⟩
  | some n =>
    refine run_preserves (fun r' : Registry codec A => r'.manager.nodes = r.manager.nodes ∧ r'.raftStore = r.raftStore)
      n.containers ?_ ⟨rfl, rfl⟩
    intro r' c _ h
    exact ⟨(Manager.queueCommand_nodes ni (stopCommand g c) r'.manager).trans h.1, h.2⟩

variable {env : RaftEnv}

lemma withdrawn_drainNode {g : Bool}
    (h : (r.drainNode env id g).1 = none) : (r.drainNode env id g).2.Withdrawn id := by
  rw [drainNode] at h ⊢
  cases hl : r.manager.nodes.lookup id with
  | none =>
    rw [hl] at h
    cases h
  | some n =>
    rw [hl] at h
    dsimp only at h ⊢
    have hid : n.drained.id = id := r.manager.keyed id n hl
    split_ifs at h ⊢ with hs
    have hsave := (r.setNode n.drained).saveNode_cases env n.drained
    generalize (r.setNode n.drained).saveNode env n.drained = result at h hsave ⊢
    obtain ⟨_ | err, s⟩ := result
    · obtain ⟨hm, -, ⟨⟨err, he⟩, -⟩ | hst⟩ := hsave
      · cases he
      · obtain ⟨hno, hsto⟩ := s.triggerWorkloadMigration_nodes id g
        dsimp only at hm hst
        refine ⟨?_, ?_⟩
        · intro o ho
          rw [hno, hm, setNode, Manager.setNode_lookup, if_pos hid.symm] at ho
          cases ho
          exact .inl rfl
        · intro o ho
          rw [stored, hsto] at ho
          have hself := hst id
          rw [if_pos hid.symm, stored, ho] at hself
          cases hself
          exact .inl rfl
    · cases h

/-- No heartbeat of the node arrives while it counts as offline. -/
def Silent (id : String) (r : Registry codec A) : Event → Prop
  | .heartbeat _ _ req => req.nodeId = id → ∀ node, r.manager.nodes.lookup id = some node → node.state ≠ .offline
  | _ => True

variable {now : Time} {req : HeartbeatRequest}

lemma withdrawn_processHeartbeat (h : r.Withdrawn id) (hs : r.Silent id (.heartbeat env now req)) :
    (r.processHeartbeat env now req).2.Withdrawn id := by
  have hb : ∀ {n}, req.nodeId = id → r.manager.nodes.lookup id = some n →
      (n.heartbeat now req).state = .draining ∨ (n.heartbeat now req).state = .offline := by
    intro n hid hl
    rcases h.enrolled n hl with hd | ho
    · rw [NodeInfo.heartbeat_state, hd]
      exact .inl rfl
    · exact absurd ho (hs hid n hl)
  rw [processHeartbeat]
  cases hl : r.manager.nodes.lookup req.nodeId with
  | none => exact h
  | some n =>
    have hsa : (r.saveNode env (n.heartbeat now req)).2.Withdrawn id := by
      apply h.save env
      intro hid
      rw [NodeInfo.heartbeat_id, r.manager.keyed _ _ hl] at hid
      rw [hid] at hl
      exact hb hid hl
    refine ⟨?_, hsa.recorded⟩
    intro o ho
    have hm := (r.saveNode_cases env (n.heartbeat now req)).1
    dsimp only at ho
    rw [hm, Manager.processHeartbeat_lookup] at ho
    split_ifs at ho with hid
    · obtain ⟨old, hold, rfl⟩ := Option.map_eq_some_iff.mp ho
      exact hb hid.symm hold
    · exact h.enrolled o ho

lemma isReady_processHeartbeat
    {n : NodeInfo} (hl : r.manager.nodes.lookup req.nodeId = some n) (ho : n.state = .offline) :
    (r.processHeartbeat env now req).2.IsReady req.nodeId := by
  refine ⟨n.heartbeat now req, ?_, ?_⟩
  · rw [processHeartbeat, hl]
    dsimp only
    rw [(r.saveNode_cases env (n.heartbeat now req)).1, Manager.processHeartbeat_lookup, if_pos rfl, hl, Option.map_some]
  · rw [NodeInfo.heartbeat_state, if_pos (.inr ho)]

lemma withdrawn_checkNodeHealth (h : r.Withdrawn id) : (r.checkNodeHealth now).Withdrawn id := by
  refine ⟨?_, h.recorded⟩
  intro n hl
  rw [checkNodeHealth, Manager.checkNodeHealth_lookup, Option.map_eq_some_iff] at hl
  obtain ⟨old, ho, rfl⟩ := hl
  rw [NodeInfo.checked_state]
  split_ifs
  · exact .inr rfl
  · exact h.enrolled old ho

lemma withdrawn_enrollNode (h : r.Withdrawn id)
    {t : Except String String} {c : Except String Unit} {req : EnrollNodeRequest}
    (ho : (Event.enroll env now t c req).Others id) : (r.enrollNode env now t c req).2.Withdrawn id := by
  cases t with
  | error err => exact h
  | ok tni =>
    have hne := ho tni rfl
    unfold enrollNode
    dsimp only
    split_ifs
    · exact h
    · cases c with
      | error err => exact h
      | ok _ =>
        have hs : (r.setNode (enrolledNode now tni req)).Withdrawn id := by
          refine ⟨?_, h.recorded⟩
          intro n hl
          rw [setNode, Manager.setNode_lookup, if_neg (Ne.symm hne)] at hl
          exact h.enrolled n hl
        exact hs.save env fun hid => absurd hid hne

lemma withdrawn_restart (h : r.Withdrawn id) {o : MapOrder} : (r.restart now o).Withdrawn id :=
  ⟨fun n hl => h.recorded n (restart_lookup hl), h.recorded⟩

theorem drained_until_heartbeat_iff {r : Registry codec A} {env : RaftEnv} {id : String} {graceful : Bool}
    (hdrain : (r.drainNode env id graceful).1 = none) (events : List Event) (hothers : ∀ event ∈ events, event.Others id) :
    (∀ n, ¬(run step (r.drainNode env id graceful).2 (events.take n)).IsReady id) ↔
      Admissible step (Silent id) (r.drainNode env id graceful).2 events := by
  apply property_take_iff (fun r : Registry codec A => r.Withdrawn id) (fun r => ¬r.IsReady id)
    (fun _ h => h.not_isReady) _ _ events (withdrawn_drainNode hdrain) (admissible_of_forall _ events hothers _)
  · intro r event h ho hs
    cases event with
    | heartbeat env now req => exact withdrawn_processHeartbeat h hs
    | checkHealth now => exact withdrawn_checkNodeHealth h
    | enroll env now token certificate req => exact withdrawn_enrollNode h ho
    | restart now order => exact withdrawn_restart h
  · intro r event _ _ hr
    cases event with
    | heartbeat env now req =>
      rintro rfl node hl hoff
      exact hr (isReady_processHeartbeat hl hoff)
    | checkHealth | enroll | restart => trivial

theorem drained_until_heartbeat_silent : (oneNodeRegistry.drainNode committed "n1" true).1 = none ∧
    (∀ event ∈ [Event.checkHealth 11000000000, .restart 12000000000 sortedOrder], event.Others "n1") ∧
    ((∀ n, ¬(run step (oneNodeRegistry.drainNode committed "n1" true).2
        ([Event.checkHealth 11000000000, .restart 12000000000 sortedOrder].take n)).IsReady "n1") ↔
      Admissible step (Silent "n1") (oneNodeRegistry.drainNode committed "n1" true).2
        [Event.checkHealth 11000000000, .restart 12000000000 sortedOrder]) := by
  have hdr : (oneNodeRegistry.drainNode committed "n1" true).1 = none := by decide +kernel
  have ho : ∀ event ∈ [Event.checkHealth 11000000000, .restart 12000000000 sortedOrder], event.Others "n1" := by
    intro event hm
    rw [List.mem_pair] at hm
    rcases hm with rfl | rfl <;> trivial
  exact ⟨hdr, ho, drained_until_heartbeat_iff hdr _ ho⟩

theorem heartbeat_readies_drained_node : (oneNodeRegistry.drainNode committed "n1" true).1 = none ∧
    ((run step (oneNodeRegistry.drainNode committed "n1" true).2
      [.checkHealth 11000000000, .heartbeat committed 12000000000 { nodeId := "n1" }]).manager.nodes.lookup "n1").map
        NodeInfo.state = some .ready := by
  decide +kernel

end Registry

end Cloudless.Membership
