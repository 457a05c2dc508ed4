import Cloudless.Coordinator.Replicas

namespace Cloudless.Coordination

open Foundations GoStd MapLoops Runs
open Cloudless.Membership (HeartbeatRequest HeartbeatResponse)

structure HealthReport where
  health : ContainerHealth
  order : MapOrder
  call : StoreCall := {}

namespace WorkloadStateManager

def report (m : WorkloadStateManager) (r : HealthReport) : WorkloadStateManager :=
  (m.updateReplicaHealth r.order r.call r.health).1

end WorkloadStateManager

def Coordinator.heartbeat (c : Coordinator) (now : Time) (req : HeartbeatRequest) (containerHealth : List HealthReport) :
    Coordinator × Except String (HeartbeatResponse WorkloadAssignment) :=
  let processed := c.membership.processHeartbeat now req
  match processed.1 with
  | .error err => ({ c with membership := processed.2 }, .error err)
  | .ok resp =>
    ({ c with
        membership := processed.2
        states := run WorkloadStateManager.report c.states containerHealth }, .ok resp)

def WorkloadState.foreign (nodeID : String) (state : WorkloadState) :
    List (Option ReplicaState) × Option (Int32 × Int32) :=
  (state.replicas.map fun replica => if replica.nodeID = nodeID then none else some replica,
    if nodeID ∈ state.replicas.map ReplicaState.nodeID then none
    else some (state.readyReplicas, state.availableReplicas))

namespace WorkloadStateManager

def Isolated (nodeID : String) (m m' : WorkloadStateManager) : Prop :=
  ∀ id, (m'.visible id).map (WorkloadState.foreign nodeID) = (m.visible id).map (WorkloadState.foreign nodeID)

/-- The report finds a replica of the node itself, or it finds everything as it would leave it. -/
def Local (nodeID : String) (m : WorkloadStateManager) (r : HealthReport) : Prop :=
  ∀ state i replica, m.findContainer r.order r.health.containerId = some (state, i) →
    state.replicas[i]? = some replica → replica.nodeID = nodeID ∨
      replica.probed r.call.now r.health = replica ∧
        (nodeID ∉ state.replicas.map ReplicaState.nodeID → state.recounted = state)

end WorkloadStateManager

lemma map_modify_eq_iff {α β : Type*} (g : α → β) (f : α → α) (l : List α) (i : ℕ) :
    (l.modify i f).map g = l.map g ↔ ∀ a, l[i]? = some a → g (f a) = g a := by
  induction l generalizing i with
  | nil => simp
  | cons b l ih =>
    cases i with
    | zero => simp
    | succ i => simp [ih]

lemma modify_eq_iff {α : Type*} {f : α → α} {l : List α} {i : ℕ} :
    l.modify i f = l ↔ ∀ a, l[i]? = some a → f a = a := by
  simpa using map_modify_eq_iff id f l i

lemma recounted_eq_iff {s : WorkloadState} : s.recounted = s ↔
    (Int32.ofNat s.readyCount, Int32.ofNat s.runningCount) = (s.readyReplicas, s.availableReplicas) := by
  obtain ⟨⟩ := s
  simp [WorkloadState.recounted]

lemma foreign_changeReplica_iff {s : WorkloadState} {i : ℕ} {re : ReplicaState}
    (hi : s.replicas[i]? = some re) (nodeID : String) (now : Time) (health : ContainerHealth) :
    (s.changeReplica i (.probed now health)).foreign nodeID = s.foreign nodeID ↔
      re.nodeID = nodeID ∨ re.probed now health = re ∧
        (nodeID ∉ s.replicas.map ReplicaState.nodeID → s.recounted = s) := by
  have hno : (s.replicas.modify i (.probed now health)).map ReplicaState.nodeID =
      s.replicas.map ReplicaState.nodeID := (map_modify_eq_iff _ _ _ _).mpr fun _ _ => rfl
  have hf := map_modify_eq_iff (fun r : ReplicaState => if r.nodeID = nodeID then none else some r)
    (.probed now health) s.replicas i
  simp only [hi, Option.some.injEq, forall_eq'] at hf
  have hp : (re.probed now health).nodeID = re.nodeID := rfl
  rw [recounted_eq_iff, WorkloadState.foreign, WorkloadState.foreign, Prod.mk.injEq, WorkloadState.changeReplica]
  simp only [WorkloadState.recounted, WorkloadState.readyCount, WorkloadState.runningCount, hno]
  rw [hf, hp]
  by_cases ho : re.nodeID = nodeID
  · have hmem : nodeID ∈ s.replicas.map ReplicaState.nodeID :=
      List.mem_map.mpr ⟨re, List.mem_of_getElem? hi, ho⟩
    refine iff_of_true ⟨?_, by rw [if_pos hmem, if_pos hmem]⟩ (.inl ho)
    rw [if_pos ho, if_pos ho]
  · rw [if_neg ho, if_neg ho, Option.some.injEq, or_iff_right ho]
    refine and_congr_right fun hs => ?_
    have hm : s.replicas.modify i (.probed now health) = s.replicas := by
      rw [modify_eq_iff, hi]
      rintro _ ⟨⟩
      exact hs
    rw [hm]
    split_ifs with hmem
    · exact iff_of_true rfl fun h => absurd hmem h
    · rw [Option.some.injEq]
      exact ⟨fun h _ => h, fun h => h hmem⟩

namespace WorkloadStateManager

variable {nodeID : String}

lemma Isolated.refl (m : WorkloadStateManager) : m.Isolated nodeID m := fun _ => rfl

lemma Isolated.trans_iff {m m' m'' : WorkloadStateManager} (h : m.Isolated nodeID m') :
    m.Isolated nodeID m'' ↔ m'.Isolated nodeID m'' :=
  forall_congr' fun id => by rw [h id]

lemma report_isolated_iff (m : WorkloadStateManager) (r : HealthReport) :
    m.Isolated nodeID (m.report r) ↔ m.Local nodeID r := by
  rw [report, updateReplicaHealth, Local]
  cases hf : m.findContainer r.order r.health.containerId with
  | none => exact iff_of_true (Isolated.refl m) fun _ _ _ h => by cases h
  | some found =>
    obtain ⟨state, i⟩ := found
    obtain ⟨hca, replica, hi, -⟩ := findContainer_some hf
    have hv : m.visible state.id = some state := by rw [visible, hca, Option.some_or]
    have hfo := foreign_changeReplica_iff hi nodeID r.call.now r.health
    have hid : (state.changeReplica i (.probed r.call.now r.health)).id = state.id := rfl
    constructor
    · rintro h state' i' replica' hsome hi'
      cases hsome
      cases hi.symm.trans hi'
      have hs := h state.id
      rw [visible_saveShared, hid, if_pos rfl, hv] at hs
      exact hfo.mp (Option.some.inj hs)
    · intro h id
      rw [visible_saveShared, hid]
      split_ifs with heq
      · rw [heq, hv]
        exact congrArg some (hfo.mpr (h state i replica rfl hi))
      · rfl

end WorkloadStateManager

lemma heartbeat_states (c : Coordinator) (now : Time) (req : HeartbeatRequest) (containerHealth : List HealthReport) :
    (c.heartbeat now req containerHealth).1.states = if c.membership.nodes.lookup req.nodeId = none then c.states
      else run WorkloadStateManager.report c.states containerHealth := by
  rw [Coordinator.heartbeat, Membership.Manager.processHeartbeat]
  cases c.membership.nodes.lookup req.nodeId with
  | none | some => rfl

theorem heartbeat_isolated_iff (c : Coordinator) (now : Time) (req : HeartbeatRequest)
    (containerHealth : List HealthReport) :
    (∀ n, c.states.Isolated req.nodeId (c.heartbeat now req (containerHealth.take n)).1.states) ↔
      c.membership.nodes.lookup req.nodeId = none ∨
        Admissible WorkloadStateManager.report (WorkloadStateManager.Local req.nodeId) c.states containerHealth := by
  simp only [heartbeat_states]
  split_ifs with hn
  · exact iff_of_true (fun _ => .refl _) (.inl hn)
  · rw [or_iff_right hn]
    refine property_take_iff (c.states.Isolated req.nodeId) (c.states.Isolated req.nodeId) (fun _ h => h) ?_ ?_
      containerHealth (.refl _) (admissible_of_forall (fun _ => True) containerHealth (fun _ _ => trivial) _)
    · exact fun m r h _ hl => h.trans_iff.mpr ((m.report_isolated_iff r).mpr hl)
    · exact fun m r h _ hs => (m.report_isolated_iff r).mp (h.trans_iff.mp hs)

section Sample

def webReplica : ReplicaState where
  id := "r1"
  nodeID := "n1"
  fragmentID := "f1"
  status := .running
  ready := true
  containerID := "c1"

def twoNodeCoordinator : Coordinator where
  policyEngine := none
  states := (newWorkloadStateManager.saveWorkload 0 .ok { webState with replicas := [webReplica], readyReplicas := 1 }).1
  membership := (Membership.Manager.oneNode WorkloadAssignment).setNode
    { id := "n2", name := "n2", state := .ready, capacity := Membership.noUsage }
  scheduler := Scheduler.binpackConfig

theorem heartbeat_unreadies_other_node : let after := (twoNodeCoordinator.heartbeat 7 { nodeId := "n2" }
      [{ health := ⟨"c1", true, false, 0, 0⟩, order := sortedOrder }]).1
    (twoNodeCoordinator.states.visible "w").map (fun state => (state.replicas.map fun r => (r.nodeID, r.ready),
      state.readyReplicas)) = some ([("n1", true)], 1) ∧
    (after.states.visible "w").map (fun state => (state.replicas.map fun r => (r.nodeID, r.ready),
      state.readyReplicas)) = some ([("n1", false)], 0) := by
  decide +kernel

end Sample

end Cloudless.Coordination
