import Cloudless.Membership.Draining
import Cloudless.Scheduler.Placement

namespace Cloudless.Membership

open Foundations GoStd Runs Raft

variable {V A : Type} {codec : Codec NodeInfo V}

def Event.IsHeartbeat : Event → Prop
  | .heartbeat .. => True
  | _ => False

def Event.IsProbe : Event → Prop
  | .heartbeat .. | .checkHealth _ => True
  | _ => False

namespace NodeInfo

variable (now : Time) (req : HeartbeatRequest) (node : NodeInfo)

lemma heartbeat_taints : (node.heartbeat now req).taints = node.taints := by
  simp only [heartbeat, reported, resumed]
  repeat' split
  all_goals rfl

lemma checked_taints : (node.checked now).taints = node.taints := by
  rw [checked, pressured, timedOut]
  split_ifs <;> rfl

end NodeInfo

namespace Registry

variable {r : Registry codec A} {env : RaftEnv} {id : String} {node : NodeInfo}

lemma drainNode_lookup (hl : r.manager.nodes.lookup id = some node) (hs : node.state ≠ .draining) (g : Bool) :
    (r.drainNode env id g).2.manager.nodes.lookup id = some node.drained := by
  have hid : node.drained.id = id := r.manager.keyed id node hl
  have hm := ((r.setNode node.drained).saveNode_cases env node.drained).1
  have hn : (r.setNode node.drained).manager.nodes.lookup id = some node.drained := by
    rw [setNode, Manager.setNode_lookup, if_pos hid.symm]
  rw [drainNode, hl]
  dsimp only
  rw [if_neg hs]
  generalize (r.setNode node.drained).saveNode env node.drained = result at hm ⊢
  obtain ⟨_ | err, s⟩ := result
  · dsimp only at hm ⊢
    rw [(s.triggerWorkloadMigration_nodes id g).1, hm, hn]
  · dsimp only at hm ⊢
    rw [hm, hn]

lemma uncordonNode_lookup (hl : r.manager.nodes.lookup id = some node) :
    (r.uncordonNode env id).2.manager.nodes.lookup id = some node.uncordoned := by
  have hid : node.uncordoned.id = id := r.manager.keyed id node hl
  have hm := ((r.setNode node.uncordoned).saveNode_cases env node.uncordoned).1
  have hn : (r.setNode node.uncordoned).manager.nodes.lookup id = some node.uncordoned := by
    rw [setNode, Manager.setNode_lookup, if_pos hid.symm]
  rw [uncordonNode, hl]
  dsimp only
  generalize (r.setNode node.uncordoned).saveNode env node.uncordoned = result at hm ⊢
  obtain ⟨_ | err, s⟩ := result <;> exact (congrArg (fun m => m.nodes.lookup id) hm).trans hn

lemma probed_lookup (hl : r.manager.nodes.lookup id = some node) {event : Event} (he : event.IsProbe) :
    ∃ new, (r.step event).manager.nodes.lookup id = some new ∧ new.taints = node.taints ∧
      (node.state ≠ .cordoned → new.state ≠ .cordoned) ∧
      (event.IsHeartbeat → node.state = .draining → new.state = .draining) := by
  cases event with
  | heartbeat env now req =>
    rw [step, processHeartbeat]
    cases hn : r.manager.nodes.lookup req.nodeId with
    | none => exact ⟨node, hl, rfl, fun hs => hs, fun _ hs => hs⟩
    | some beating =>
      dsimp only
      rw [(r.saveNode_cases env (beating.heartbeat now req)).1, Manager.processHeartbeat_lookup]
      split_ifs with hid
      · refine ⟨_, congrArg (Option.map _) hl, node.heartbeat_taints now req, ?_, ?_⟩
        · rw [NodeInfo.heartbeat_state]
          split_ifs <;> simp
        · intro _ hs
          rw [NodeInfo.heartbeat_state, hs]
          rfl
      · exact ⟨node, hl, rfl, fun hs => hs, fun _ hs => hs⟩
  | checkHealth now =>
    refine ⟨node.checked now, ?_, node.checked_taints now, ?_, fun h => h.elim⟩
    · rw [step, checkNodeHealth, Manager.checkNodeHealth_lookup, hl, Option.map_some]
    · rw [NodeInfo.checked_state]
      split_ifs <;> simp
  | enroll | restart => exact he.elim

def Restored (r : Registry codec A) (id : String) (node : NodeInfo) : Prop :=
  ∃ new, r.manager.nodes.lookup id = some new ∧ new.state = .ready ∧ new.taints = node.ownTaints

theorem drain_uncordon_restores_iff {r : Registry codec A} {env env' : RaftEnv} {id : String} {node : NodeInfo}
    (hl : r.manager.nodes.lookup id = some node) (hr : node.state = .ready) (graceful : Bool) (events : List Event)
    (he : ∀ event ∈ events, event.IsProbe) :
    (((run step (r.drainNode env id graceful).2 events).uncordonNode env' id).2.Restored id node ↔
      (run step (r.drainNode env id graceful).2 events).IsReady id) ∧ ((∀ event ∈ events, event.IsHeartbeat) →
      ∃ new, ((run step (r.drainNode env id graceful).2 events).uncordonNode env' id).2.manager.nodes.lookup id = some new ∧
        new.state = .draining ∧ new.taints = node.ownTaints ∧ ∀ workload, Scheduler.filterNodes [new] workload = []) := by
  obtain ⟨new, hn, ht, hc, hb⟩ : ∃ new, (run step (r.drainNode env id graceful).2 events).manager.nodes.lookup id =
      some new ∧ new.taints = node.drained.taints ∧ new.state ≠ .cordoned ∧
      ((∀ event ∈ events, event.IsHeartbeat) → new.state = .draining) := by
    refine run_preserves (fun r : Registry codec A => ∃ new, r.manager.nodes.lookup id = some new ∧
      new.taints = node.drained.taints ∧ new.state ≠ .cordoned ∧
      ((∀ event ∈ events, event.IsHeartbeat) → new.state = .draining)) events ?_ ?_
    · rintro r event hm ⟨old, ho, ht, hc, hb⟩
      obtain ⟨new, hn, ht', hc', hb'⟩ := probed_lookup ho (he event hm)
      exact ⟨new, hn, ht'.trans ht, hc' hc, fun ha => hb' (ha event hm) (hb ha)⟩
    · exact ⟨node.drained, drainNode_lookup hl (by simp [hr]) graceful, rfl, by simp [NodeInfo.drained], fun _ => rfl⟩
  have hu := @uncordonNode_lookup _ _ _ _ env' _ _ hn
  have hs : new.uncordoned.state = new.state := if_neg hc
  have ho : new.uncordoned.taints = node.ownTaints := by
    rw [NodeInfo.uncordoned, NodeInfo.ownTaints, ht, NodeInfo.drained, List.filter_append, NodeInfo.ownTaints]
    simp
  constructor
  · constructor
    · rintro ⟨f, hf, hre, -⟩
      cases hu.symm.trans hf
      exact ⟨new, hn, hs.symm.trans hre⟩
    · rintro ⟨f, hf, hre⟩
      cases hn.symm.trans hf
      exact ⟨new.uncordoned, hu, hs.trans hre, ho⟩
  · intro ha
    refine ⟨new.uncordoned, hu, hs.trans (hb ha), ho, ?_⟩
    intro workload
    simp [Scheduler.filterNodes, hs, hb ha]

theorem drain_uncordon_restores_iff_back : ((run step (oneNodeRegistry.drainNode committed "n1" true).2
      [.checkHealth 11000000000, .heartbeat committed 12000000000 { nodeId := "n1" }]).uncordonNode committed "n1").2.Restored
        "n1" { id := "n1", name := "n1", state := .ready, capacity := noUsage } := by
  refine (@drain_uncordon_restores_iff _ _ _ oneNodeRegistry committed committed "n1" _ rfl rfl true _ ?_).1.mpr ?_
  · intro e hm
    rw [List.mem_pair] at hm
    rcases hm with rfl | rfl <;> trivial
  · have hs : ((run step (oneNodeRegistry.drainNode committed "n1" true).2 [.checkHealth 11000000000,
        .heartbeat committed 12000000000 { nodeId := "n1" }]).manager.nodes.lookup "n1").map NodeInfo.state =
        some .ready := by decide +kernel
    exact Option.map_eq_some_iff.mp hs

theorem uncordoned_node_keeps_draining : (oneNodeRegistry.drainNode committed "n1" true).1 = none ∧
    ((run step (oneNodeRegistry.drainNode committed "n1" true).2 [.heartbeat committed 1 { nodeId := "n1" }]).uncordonNode
      committed "n1").1 = none ∧
    (((run step (oneNodeRegistry.drainNode committed "n1" true).2 [.heartbeat committed 1 { nodeId := "n1" }]).uncordonNode
      committed "n1").2.manager.nodes.lookup "n1").map (fun node => (node.state, node.taints)) =
        some (.draining, []) := by
  decide +kernel

end Registry

end Cloudless.Membership
