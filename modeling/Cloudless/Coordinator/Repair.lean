import Cloudless.Coordinator.Bookkeeping
import Cloudless.Scheduler.Capacity

/-! The repair of a workload after failures: what one rescheduling leaves running, and what reconcile cycles come to. -/

namespace Cloudless.Coordination

open Foundations GoStd MapLoops
open Cloudless.Membership (Manager NodeInfo)
open Cloudless.Scheduler (CanHold amount)

namespace WorkloadState

def failedOn (state : WorkloadState) : List String :=
  (state.replicas.filter fun replica => replica.status = .failed).map ReplicaState.nodeID

/-- The node is up, has had no failed replica of the workload, meets its placement, and has room for one replica. -/
def CanTakeOver (state : WorkloadState) (node : NodeInfo) : Prop :=
  node ∈ Scheduler.rescheduleCandidates [node] (rescheduleSpec state) state.failedOn

end WorkloadState

namespace Coordinator

variable {c c' : Coordinator} {env : Env} {id : String} {state : WorkloadState}

lemma mem_failedNodes {rt : Runtime} {ni : String} : ni ∈ state.failedNodes rt ↔ ni ∈ state.failedOn := by
  rw [WorkloadState.failedNodes, (rt.rangeOrder_perm _).mem_iff, List.mem_dedup]
  rfl

lemma mem_repairCandidates {node : NodeInfo} :
    node ∈ repairCandidates env state ↔ node ∈ env.nodes ∧ state.CanTakeOver node := by
  simp only [repairCandidates, WorkloadState.CanTakeOver, Scheduler.rescheduleCandidates, Scheduler.filterNodes,
    Scheduler.filterFailedNodes, List.mem_filter, mem_failedNodes, List.mem_singleton, true_and, and_assoc]

lemma nodup_repairCandidates (h : c.membership.Lists env.nodes) :
    ((repairCandidates env state).map NodeInfo.id).Nodup :=
  h.1.sublist ((List.filter_sublist.trans List.filter_sublist).map _)

lemma repairDecisions_enrolled (h : c.membership.Lists env.nodes) {s : Scheduler.SchedulerConfig} :
    ∀ d ∈ repairDecisions s env state, c.Enrolled d.nodeID := by
  intro d hd
  obtain ⟨choice, hch, hid, -⟩ := Scheduler.mem_decisions hd
  obtain ⟨node, hnode, hi', -⟩ := Scheduler.choices_names _ _ _ hch
  rw [Enrolled, hid, hi', (h.2 node).mp (mem_repairCandidates.mp hnode).1]
  rfl

def stranded (c : Coordinator) (state : WorkloadState) : ℕ :=
  state.running.countP fun replica => ¬c.Enrolled replica.nodeID

def served (c : Coordinator) (env : Env) (id : String) (state : WorkloadState) : ℤ :=
  state.running.length + (net id (c.reschedule env id).1.membership - net id c.membership)

lemma sum_stops {w : String} {rs : List ReplicaState} :
    ((rs.map (stopOf w)).map fun a => if (c.membership.nodes.lookup a.1).isSome then a.2.weight w else 0).sum =
      (rs.countP fun r => ¬c.Enrolled r.nodeID) - (rs.length : ℤ) := by
  induction rs with
  | nil => rfl
  | cons r rs ih =>
    have hw : (stopOf w r).2.weight w = -1 := by simp [WorkloadAssignment.weight, stopOf]
    have hnode : (stopOf w r).1 = r.nodeID := rfl
    rw [List.map_cons, List.map_cons, List.sum_cons, ih, hw, hnode, List.countP_cons, List.length_cons]
    by_cases he : c.Enrolled r.nodeID
    · have hs : (c.membership.nodes.lookup r.nodeID).isSome = true := he
      simp [hs, he]
      ring
    · have hs : ¬(c.membership.nodes.lookup r.nodeID).isSome = true := he
      simp [hs, he]

lemma served_eq (hf : c.found env id = some state) (hl : c.membership.Lists env.nodes) : c.served env id state =
      if state.Short then (state.running.length : ℤ)
      else c.stranded state + (repairDecisions c.scheduler env state).length := by
  have hq := c.reschedule_queues env id
  rw [hf, Option.elim_some, repairQueue] at hq
  have hid : state.id = id := found_id hf
  rw [served, hq.membership, net_queueAll]
  split_ifs with hs
  · simp
  · have hw : state.assigned.id = id := hid
    rw [List.map_append, List.sum_append, hid, sum_stops, sum_runs hw (repairDecisions_enrolled hl), stranded]
    ring

lemma length_repairDecisions (hl : c.membership.Lists env.nodes) (hq : ∀ d, 0 ≤ amount state.resources.requests d)
    (ho : CanHold state.resources.requests state.desiredReplicas.toInt.toNat (repairCandidates env state)) :
    (repairDecisions c.scheduler env state).length =
      c.scheduler.places state.desiredReplicas.toInt.toNat (repairCandidates env state).length := by
  have hr : (rescheduleSpec state).replicas.toInt = state.desiredReplicas.toInt := Int32.toInt_toInt64 _
  rw [← hr] at ho ⊢
  rw [repairDecisions, Scheduler.length_decisions]
  exact Scheduler.length_choices_eq c.scheduler env.rt (nodup_repairCandidates hl) hq ho

theorem reschedule_repairs_iff (hfound : c.found env id = some state) (hlists : c.membership.Lists env.nodes) :
    ((∃ a, (c.reschedule env id).2 = .ok a) ∧ state.minAvailable.toInt ≤ c.served env id state ↔ ¬state.Short ∧
        state.minAvailable.toInt ≤ c.stranded state + (repairDecisions c.scheduler env state).length) ∧
    (min state.minAvailable.toInt state.running.length ≤ c.served env id state ↔
      state.Short ∨ min state.minAvailable.toInt state.running.length ≤
        c.stranded state + (repairDecisions c.scheduler env state).length) ∧
    ((∀ d, 0 ≤ amount state.resources.requests d) →
      CanHold state.resources.requests state.desiredReplicas.toInt.toNat (repairCandidates env state) →
      (repairDecisions c.scheduler env state).length =
        c.scheduler.places state.desiredReplicas.toInt.toNat (repairCandidates env state).length) := by
  rw [served_eq hfound hlists]
  refine ⟨?_, ?_, length_repairDecisions hlists⟩
  · have he := c.reschedule_reschedules env id
    generalize c.reschedule env id = out at he
    cases he with
    | unfound hu hst hq hf => cases hfound.symm.trans hu
    | refused hf' hs hst hq hf =>
      cases hfound.symm.trans hf'
      refine iff_of_false ?_ fun h => h.1 hs
      rintro ⟨⟨a, ha⟩, -⟩
      cases ha.symm.trans hf
    | replaced hf' hen hst hq hsu =>
      cases hfound.symm.trans hf'
      rw [if_neg hen]
      exact and_congr_left' (iff_of_true ⟨_, hsu⟩ hen)
  · split_ifs with hs
    · exact iff_of_true (min_le_right _ _) (.inl hs)
    · exact (or_iff_right hs).symm

def reconciled (c : Coordinator) (rounds : ℕ → Round) : ℕ → Coordinator
  | 0 => c
  | n + 1 => (c.reconciled rounds n).reconcile (rounds n)

def StopsIn (c : Coordinator) (rounds : ℕ → Round) (id : String) (replica : ReplicaState) (n : ℕ) : Prop :=
  ∃ new, waiting (c.reconciled rounds (n + 1)).membership (stopOf id replica).1 =
    waiting (c.reconciled rounds n).membership (stopOf id replica).1 ++ new ∧ (stopOf id replica).2 ∈ new

def Converges (c : Coordinator) (rounds : ℕ → Round) : Prop :=
  (∃ N, ∀ n, N ≤ n → (c.reconciled rounds (n + 1)).membership = (c.reconciled rounds n).membership) ∧
    ∀ id replica i j, i < j → ¬(c.StopsIn rounds id replica i ∧ c.StopsIn rounds id replica j)

structure Restless (c : Coordinator) (state : WorkloadState) : Prop where
  cached : c.states.cached state.id = some state
  alive : state.deletedAt = none
  failed : state.HasFailed
  enough : ¬state.Short
  work : (∃ replica ∈ state.running, c.Enrolled replica.nodeID) ∨
    0 < state.desiredReplicas.toInt ∧ ∃ node, c.membership.nodes.lookup node.id = some node ∧ state.CanTakeOver node

lemma repairDecisions_eq_nil_iff (hl : c.membership.Lists env.nodes) :
    repairDecisions c.scheduler env state = [] ↔ state.desiredReplicas.toInt ≤ 0 ∨
      ∀ node, c.membership.nodes.lookup node.id = some node → ¬state.CanTakeOver node := by
  have hr : (rescheduleSpec state).replicas.toInt = state.desiredReplicas.toInt := Int32.toInt_toInt64 _
  have hroom : ∀ node ∈ repairCandidates env state,
      Scheduler.hasEnoughResources node (rescheduleSpec state).requests = true :=
    fun node hnode => (Scheduler.mem_filterNodes hnode).2.1
  rw [← List.length_eq_zero_iff, repairDecisions, Scheduler.length_decisions, List.length_eq_zero_iff,
    Scheduler.choices_eq_nil_iff c.scheduler env.rt (nodup_repairCandidates hl) hroom, hr, or_comm,
    List.eq_nil_iff_forall_not_mem]
  refine or_congr_right (forall_congr' fun node => ?_)
  rw [mem_repairCandidates, hl.2 node, not_and]

lemma exists_repairQueue_iff (hl : c.membership.Lists env.nodes) :
    (∃ a ∈ repairQueue c.scheduler env state, c.Enrolled a.1) ↔ ¬state.Short ∧
      ((∃ r ∈ state.running, c.Enrolled r.nodeID) ∨ 0 < state.desiredReplicas.toInt ∧
        ∃ node, c.membership.nodes.lookup node.id = some node ∧ state.CanTakeOver node) := by
  have hp : (∃ d ∈ repairDecisions c.scheduler env state, c.Enrolled d.nodeID) ↔
      0 < state.desiredReplicas.toInt ∧
        ∃ node, c.membership.nodes.lookup node.id = some node ∧ state.CanTakeOver node := by
    rw [← not_iff_not, not_and_or, not_lt]
    push Not
    rw [← repairDecisions_eq_nil_iff hl, List.eq_nil_iff_forall_not_mem]
    refine forall_congr' fun d => ⟨fun h hd => h hd (repairDecisions_enrolled hl d hd), fun h hd => absurd hd h⟩
  rw [repairQueue]
  split_ifs with hs
  · refine iff_of_false ?_ fun h => h.1 hs
    rintro ⟨a, ha, -⟩
    cases ha
  · rw [and_iff_right hs, ← hp]
    simp only [List.mem_append, List.mem_map, or_and_right, exists_or, exists_exists_and_eq_and]
    rfl

variable {ass : List (String × WorkloadAssignment)}

lemma queueAll_eq_self (h : ∀ a ∈ ass, ¬c.Enrolled a.1) : queueAll ass c.membership = c.membership := by
  induction ass with
  | nil => rfl
  | cons a ass ih =>
    obtain ⟨ha, hr⟩ := List.forall_mem_cons.mp h
    have hnone : c.membership.nodes.lookup a.1 = none := Option.not_isSome_iff_eq_none.mp ha
    have hs : (c.membership.queueAssignment a.1 a.2).2 = c.membership := by
      rw [Manager.queueAssignment, hnone]
    rw [queueAll, List.foldl_cons, hs]
    exact ih hr

lemma Queues.membership_eq_iff (h : c.Queues ass c') : c'.membership = c.membership ↔ ¬∃ a ∈ ass, c.Enrolled a.1 := by
  constructor
  · rintro hs ⟨a, ha, he⟩
    obtain ⟨ni, new, hnew, b, hb, -⟩ := (h.newlyWaits_iff fun _ => True).mpr ⟨a, ha, he, trivial⟩
    rw [hs, List.self_eq_append_right] at hnew
    rw [hnew] at hb
    cases hb
  · intro hnone
    push Not at hnone
    rw [h.membership, queueAll_eq_self hnone]

section Rounds

variable {rounds : ℕ → Round} {n : ℕ}

lemma reconciled_frame (c : Coordinator) (rounds : ℕ → Round) (n : ℕ) : (c.reconciled rounds n).states = c.states ∧
    (c.reconciled rounds n).scheduler = c.scheduler ∧
    (c.reconciled rounds n).membership.nodes = c.membership.nodes := by
  induction n with
  | zero => exact ⟨rfl, rfl, rfl⟩
  | succ n ih =>
    obtain ⟨hs, hq⟩ := (c.reconciled rounds n).reconcile_eq (rounds n)
    refine ⟨hs.trans ih.1, hq.scheduler.trans ih.2.1, ?_⟩
    rw [reconciled, hq.membership, queueAll_nodes, ih.2.2]

lemma reconciled_enrolled {nodeID : String} : (c.reconciled rounds n).Enrolled nodeID ↔ c.Enrolled nodeID := by
  rw [Enrolled, Enrolled, (c.reconciled_frame rounds n).2.2]

lemma reconciled_queues : (c.reconciled rounds n).Queues
    ((c.states.listWorkloads (rounds n).order "" ∅).flatMap (reconcileQueue c.scheduler (rounds n)))
    (c.reconciled rounds (n + 1)) := by
  obtain ⟨hst, hs, -⟩ := c.reconciled_frame rounds n
  have hq := ((c.reconciled rounds n).reconcile_eq (rounds n)).2
  rwa [hst, hs] at hq

lemma mem_roundQueue {r : Round} {a : String × WorkloadAssignment} :
    a ∈ (c.states.listWorkloads r.order "" ∅).flatMap (reconcileQueue c.scheduler r) ↔
      ∃ state, c.states.cached state.id = some state ∧ state.deletedAt = none ∧ state.HasFailed ∧
        (r.env state.id).isLeader = true ∧ a ∈ repairQueue c.scheduler (r.env state.id) state := by
  rw [List.mem_flatMap]
  refine exists_congr fun state => ?_
  have hl : state ∈ c.states.listWorkloads r.order "" ∅ ↔
      c.states.cached state.id = some state ∧ state.deletedAt = none :=
    WorkloadStateManager.mem_listWorkloads_all
  rw [hl, reconcileQueue, and_assoc]
  split_ifs with h
  · simp only [h, true_and]
  · refine iff_of_false (fun h' => by cases h'.2.2) ?_
    rintro ⟨-, -, hf, hle, -⟩
    exact h ⟨hf, hle⟩

lemma reconciled_same_iff (hli : ∀ id, c.membership.Lists ((rounds n).env id).nodes) :
    (c.reconciled rounds (n + 1)).membership = (c.reconciled rounds n).membership ↔
      ∀ state, c.Restless state → ((rounds n).env state.id).isLeader = false := by
  rw [reconciled_queues.membership_eq_iff, ← not_iff_not, not_not]
  simp only [reconciled_enrolled, mem_roundQueue]
  push Not
  constructor
  · rintro ⟨a, ⟨state, hca, hal, hf, hl, ha⟩, he⟩
    obtain ⟨hen, hw⟩ := (exists_repairQueue_iff (hli state.id)).mp ⟨a, ha, he⟩
    exact ⟨state, ⟨hca, hal, hf, hen, hw⟩, by rw [hl]; decide⟩
  · rintro ⟨state, h, hl⟩
    obtain ⟨a, ha, he⟩ := (exists_repairQueue_iff (hli state.id)).mpr ⟨h.enough, h.work⟩
    exact ⟨a, ⟨state, h.cached, h.alive, h.failed, by simpa using hl, ha⟩, he⟩

lemma stopsIn_iff {replica : ReplicaState} : c.StopsIn rounds id replica n ↔
    ∃ state, c.states.cached state.id = some state ∧ state.deletedAt = none ∧ state.HasFailed ∧ ¬state.Short ∧
      ((rounds n).env state.id).isLeader = true ∧
      ∃ r ∈ state.running, c.Enrolled r.nodeID ∧ stopOf state.id r = stopOf id replica := by
  rw [StopsIn, reconciled_queues.receives_iff, reconciled_enrolled, mem_roundQueue]
  constructor
  · rintro ⟨⟨state, hca, hal, hf, hl, ha⟩, he⟩
    rw [repairQueue] at ha
    split_ifs at ha with hsh
    · cases ha
    · rcases List.mem_append.mp ha with ha | ha
      · obtain ⟨r, hr, hs⟩ := List.mem_map.mp ha
        rw [← hs] at he
        exact ⟨state, hca, hal, hf, hsh, hl, r, hr, he, hs⟩
      · obtain ⟨d, hd, hrun⟩ := List.mem_map.mp ha
        have hac : "run" = "stop" := congrArg (fun a => a.2.action) hrun
        exact absurd hac (by decide)
  · rintro ⟨state, hca, hal, hf, hen, hl, r, hr, he, hs⟩
    rw [← hs]
    refine ⟨⟨state, hca, hal, hf, hl, ?_⟩, he⟩
    rw [repairQueue, if_neg hen]
    exact List.mem_append_left _ (List.mem_map_of_mem hr)

theorem reconcile_converges_iff (hlists : ∀ n id, c.membership.Lists ((rounds n).env id).nodes) : c.Converges rounds ↔
      (∃ N, ∀ n, N ≤ n → ∀ state, c.Restless state → ((rounds n).env state.id).isLeader = false) ∧
      ∀ state, c.Restless state → (∃ replica ∈ state.running, c.Enrolled replica.nodeID) →
        ∀ i j, i < j → ¬(((rounds i).env state.id).isLeader = true ∧ ((rounds j).env state.id).isLeader = true) := by
  refine and_congr (exists_congr fun N => forall₂_congr fun n _ => reconciled_same_iff (hlists n)) ⟨?_, ?_⟩
  · rintro h state hs ⟨replica, hr, he⟩ i j hij ⟨hi, hj⟩
    refine h state.id replica i j hij ⟨stopsIn_iff.mpr ?_, stopsIn_iff.mpr ?_⟩
    · exact ⟨state, hs.cached, hs.alive, hs.failed, hs.enough, hi, replica, hr, he, rfl⟩
    · exact ⟨state, hs.cached, hs.alive, hs.failed, hs.enough, hj, replica, hr, he, rfl⟩
  · rintro h id replica i j hij ⟨hi, hj⟩
    obtain ⟨state, hca, ha, hf, hen, hl, r, hr, he, hstop⟩ := stopsIn_iff.mp hi
    obtain ⟨s', hc', -, -, -, hl', r', -, -, hs'⟩ := stopsIn_iff.mp hj
    have hid : state.id = id := congrArg (fun a => a.2.workload.id) hstop
    have hi' : s'.id = id := congrArg (fun a => a.2.workload.id) hs'
    rw [hi'.trans hid.symm, hca] at hc'
    cases hc'
    exact h state ⟨hca, ha, hf, hen, .inl ⟨r, hr, he⟩⟩ ⟨r, hr, he⟩ i j hij
      ⟨hl, hl'⟩

end Rounds

end Coordinator

section Sample

def halfFailed (minAvailable : Int64) : WorkloadState :=
  { webState with
    replicas := [webReplica, { webReplica with id := "r2", nodeID := "n0", status := .failed, ready := false }]
    desiredReplicas := 2
    currentReplicas := 2
    readyReplicas := 1
    rollout := { rolloutOf none with minAvailable := minAvailable } }

def halfFailedCoordinator (minAvailable : Int64) : Coordinator :=
  { emptyCoordinator with states := (newWorkloadStateManager.saveWorkload 0 .ok (halfFailed minAvailable)).1 }

lemma canHold_halfFailed {minAvailable : Int64} : CanHold (halfFailed minAvailable).resources.requests 2
    (Coordinator.repairCandidates prodEnv (halfFailed minAvailable)) := by
  have hca : Coordinator.repairCandidates prodEnv (halfFailed minAvailable) = [Scheduler.idleNode] := rfl
  have hr : (halfFailed minAvailable).resources.requests = ⟨400, 100, 0, 0, 0⟩ := rfl
  rw [hca, hr]
  refine ⟨fun _ => 2, le_refl 2, ?_⟩
  rintro node hnode - d hd
  cases List.mem_singleton.mp hnode
  cases d with
  | cpu | memory | storage => exact ⟨by decide, by decide⟩
  | bandwidth | gpu => cases hd

theorem reschedule_repairs_half : ((∃ a, ((halfFailedCoordinator 1).reschedule prodEnv "w").2 = .ok a) ∧
    1 ≤ (halfFailedCoordinator 1).served prodEnv "w" (halfFailed 1)) ∧
    (Coordinator.repairDecisions Scheduler.binpackConfig prodEnv (halfFailed 1)).length =
      Scheduler.binpackConfig.places 2 1 := by
  have hf : (halfFailedCoordinator 1).found prodEnv "w" = some (halfFailed 1) := rfl
  obtain ⟨hs, -, hp⟩ := Coordinator.reschedule_repairs_iff hf Scheduler.idleCluster_lists
  refine ⟨hs.mpr ⟨by decide +kernel, by decide +kernel⟩, hp ?_ canHold_halfFailed⟩
  intro d
  cases d <;> decide

theorem repair_refused_or_harmful :
    CanHold (halfFailed 2).resources.requests 2 (Coordinator.repairCandidates prodEnv (halfFailed 2)) ∧
    (match ((halfFailedCoordinator 2).reschedule prodEnv "w").2 with | .ok _ => true | _ => false) = false ∧
    ({ halfFailedCoordinator 1 with membership := Membership.Manager.oneNode WorkloadAssignment } : Coordinator).served
      { prodEnv with nodes := [{ id := "n1", name := "n1", state := .ready, capacity := Membership.noUsage }] }
      "w" (halfFailed 1) = 0 := by
  exact ⟨canHold_halfFailed, by decide +kernel, by decide +kernel⟩

theorem converges_in_one_round : (halfFailedCoordinator 1).Converges fun n =>
    ⟨sortedOrder, fun _ => { prodEnv with isLeader := decide (n = 0) }⟩ := by
  refine (Coordinator.reconcile_converges_iff fun _ _ => Scheduler.idleCluster_lists).mpr ⟨⟨1, ?_⟩, ?_⟩
  · intro n hn state _
    exact decide_eq_false (by omega)
  · rintro state - - i j hij ⟨-, hj⟩
    have hz : j = 0 := of_decide_eq_true hj
    omega

theorem reconcile_repeats : let queued := fun n => (waiting ((halfFailedCoordinator 1).reconciled
      (fun _ => ⟨sortedOrder, fun _ => prodEnv⟩) n).membership "n1").map fun a => (a.workload.id, a.action)
    queued 1 = [("w", "stop"), ("w", "run"), ("w", "run")] ∧ queued 2 = queued 1 ++ queued 1 := by
  decide +kernel

end Sample

end Cloudless.Coordination
