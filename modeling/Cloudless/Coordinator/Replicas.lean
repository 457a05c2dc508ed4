import Cloudless.Coordinator.States
import Cloudless.Foundations.Runs

namespace Cloudless.Coordination

open Foundations GoStd MapLoops Runs

structure StoreCall where
  readError : Option String := none
  now : Time := 0
  savedAt : Time := 0
  outcome : SaveOutcome := .ok

structure ContainerHealth where
  containerId : String
  (livenessHealthy readinessHealthy : Bool)
  livenessConsecutiveFailures : Int32 := 0
  readinessConsecutiveFailures : Int32 := 0

namespace ReplicaState

def updated (now : Time) (status : ReplicaStatus) (ready : Bool) (message : String) (replica : ReplicaState) :
    ReplicaState :=
  { replica with
    status := status
    ready := ready
    message := message
    startedAt := if status = .running ∧ replica.startedAt = none then some now else replica.startedAt
    stoppedAt := if status = .stopped ∨ status = .failed then some now else replica.stoppedAt }

def probed (now : Time) (health : ContainerHealth) (replica : ReplicaState) : ReplicaState :=
  { replica with
    livenessHealthy := health.livenessHealthy
    livenessConsecutiveFailures := health.livenessConsecutiveFailures
    livenessLastCheckTime := now
    readinessHealthy := health.readinessHealthy
    readinessConsecutiveFailures := health.readinessConsecutiveFailures
    readinessLastCheckTime := now
    ready := health.readinessHealthy }

def isRunning (replica : ReplicaState) : Bool := replica.status = .running

end ReplicaState

namespace WorkloadState

variable (state : WorkloadState)

def readyCount : ℕ := state.replicas.countP ReplicaState.ready

def runningCount : ℕ := state.replicas.countP ReplicaState.isRunning

def recounted : WorkloadState :=
  { state with
    readyReplicas := Int32.ofNat state.readyCount
    availableReplicas := Int32.ofNat state.runningCount }

def withReplicas (replicas : List ReplicaState) (state : WorkloadState) : WorkloadState :=
  { state with replicas := replicas, currentReplicas := Int32.ofNat replicas.length }

def changeReplica (i : ℕ) (change : ReplicaState → ReplicaState) (state : WorkloadState) : WorkloadState :=
  ({ state with replicas := state.replicas.modify i change } : WorkloadState).recounted

end WorkloadState

namespace WorkloadStateManager

variable (m : WorkloadStateManager)

variable (call : StoreCall)

def addReplica (workloadID : String) (replica : ReplicaState) : WorkloadStateManager × Except String Unit :=
  let found := m.getWorkload call.readError workloadID
  match found.2 with
  | .error err => (found.1, .error err)
  | .ok state => found.1.saveShared call.savedAt call.outcome (state.withReplicas (state.replicas ++ [replica]))

def updateReplica (workloadID replicaID : String) (status : ReplicaStatus)
    (ready : Bool) (message : String) : WorkloadStateManager × Except String Unit :=
  let found := m.getWorkload call.readError workloadID
  match found.2 with
  | .error err => (found.1, .error err)
  | .ok state =>
    match state.replicas.findIdx? fun replica => replica.id = replicaID with
    | none => (found.1, .error ("replica not found: " ++ replicaID))
    | some i =>
      found.1.saveShared call.savedAt call.outcome (state.changeReplica i (.updated call.now status ready message))

def findContainer (order : MapOrder) (containerID : String) : Option (WorkloadState × ℕ) :=
  (order.entries m.cache).findSome? fun entry =>
    (entry.2.replicas.findIdx? fun replica => replica.containerID = containerID).map (Prod.mk entry.2)

def updateReplicaHealth (order : MapOrder) (call : StoreCall) (health : ContainerHealth) :
    WorkloadStateManager × Except String Unit :=
  match m.findContainer order health.containerId with
  | none => (m, .ok ())
  | some (state, i) =>
    m.saveShared call.savedAt call.outcome (state.changeReplica i (.probed call.now health))

def removeReplica (workloadID replicaID : String) : WorkloadStateManager × Except String Unit :=
  let found := m.getWorkload call.readError workloadID
  match found.2 with
  | .error err => (found.1, .error err)
  | .ok state =>
    found.1.saveShared call.savedAt call.outcome
      (state.withReplicas (state.replicas.filter fun replica => replica.id ≠ replicaID))

end WorkloadStateManager

inductive ReplicaOp
  | add (call : StoreCall) (workloadID : String) (replica : ReplicaState)
  | update (call : StoreCall) (workloadID replicaID : String) (status : ReplicaStatus) (ready : Bool) (message : String)
  | health (order : MapOrder) (call : StoreCall) (health : ContainerHealth)
  | remove (call : StoreCall) (workloadID replicaID : String)

namespace WorkloadStateManager

def replicaStep (m : WorkloadStateManager) : ReplicaOp → WorkloadStateManager
  | .add call workloadID replica => (m.addReplica call workloadID replica).1
  | .update call workloadID replicaID status ready message =>
    (m.updateReplica call workloadID replicaID status ready message).1
  | .health order call health => (m.updateReplicaHealth order call health).1
  | .remove call workloadID replicaID => (m.removeReplica call workloadID replicaID).1

end WorkloadStateManager

structure WorkloadState.Counted (state : WorkloadState) : Prop where
  current : state.currentReplicas.toInt = state.replicas.length
  ready : state.readyReplicas.toInt = state.readyCount
  available : state.availableReplicas.toInt = state.runningCount

section Counters

variable {state : WorkloadState}

lemma toInt_ofNat_eq_iff {n : ℕ} : (Int32.ofNat n).toInt = n ↔ n < 2 ^ 31 := by
  constructor
  · intro h
    have hl := (Int32.ofNat n).toInt_lt
    omega
  · exact Int32.toInt_ofNat_of_lt

lemma WorkloadState.Counted.length_lt (h : state.Counted) : state.replicas.length < 2 ^ 31 := by
  have hl := state.currentReplicas.toInt_lt
  rw [h.current] at hl
  omega

lemma WorkloadState.Counted.changeReplica (h : state.Counted) (i : ℕ) (c : ReplicaState → ReplicaState) :
    (state.changeReplica i c).Counted := by
  have hlt := h.length_lt
  have hco : ∀ p : ReplicaState → Bool, (state.replicas.modify i c).countP p < 2 ^ 31 := by
    intro p
    have hl := List.countP_le_length (p := p) (l := state.replicas.modify i c)
    rw [List.length_modify] at hl
    omega
  refine ⟨?_, toInt_ofNat_eq_iff.mpr (hco _), toInt_ofNat_eq_iff.mpr (hco _)⟩
  rw [WorkloadState.changeReplica, WorkloadState.recounted]
  dsimp only
  rw [List.length_modify]
  exact h.current

def ReplicaState.Idle (replica : ReplicaState) : Prop := replica.ready = false ∧ replica.isRunning = false

lemma WorkloadState.Counted.add_iff (h : state.Counted) (r : ReplicaState) :
    (state.withReplicas (state.replicas ++ [r])).Counted ↔ r.Idle ∧ state.replicas.length + 1 < 2 ^ 31 := by
  have hre := h.ready
  have hav := h.available
  rw [WorkloadState.readyCount] at hre
  rw [WorkloadState.runningCount] at hav
  constructor
  · rintro ⟨hc, hr, ha⟩
    simp only [WorkloadState.withReplicas, WorkloadState.readyCount, WorkloadState.runningCount, List.length_append,
      List.length_singleton, List.countP_append, List.countP_singleton, hre, hav] at hc hr ha
    refine ⟨⟨?_, ?_⟩, toInt_ofNat_eq_iff.mp hc⟩
    · cases hrep : r.ready with
      | false => rfl
      | true => simp [hrep] at hr
    · cases hrep : r.isRunning with
      | false => rfl
      | true => simp [hrep] at ha
  · rintro ⟨⟨hr, ha⟩, hl⟩
    refine ⟨?_, ?_, ?_⟩
    · simp only [WorkloadState.withReplicas, List.length_append, List.length_singleton]
      exact toInt_ofNat_eq_iff.mpr hl
    · simp [WorkloadState.withReplicas, WorkloadState.readyCount, hre, hr]
    · simp [WorkloadState.withReplicas, WorkloadState.runningCount, hav, ha]

lemma countP_filter_eq_iff (p q : ReplicaState → Bool) (l : List ReplicaState) :
    (l.filter q).countP p = l.countP p ↔ ∀ r ∈ l, q r = false → p r = false := by
  induction l with
  | nil => simp
  | cons r l ih =>
    have hl : (l.filter q).countP p ≤ l.countP p := List.Sublist.countP_le (List.filter_sublist)
    rw [List.forall_mem_cons, ← ih]
    cases hq : q r <;> cases hp : p r <;> (simp [hq, hp]; try omega)

lemma WorkloadState.Counted.remove_iff (h : state.Counted) (ri : String) :
    (state.withReplicas (state.replicas.filter fun r => r.id ≠ ri)).Counted ↔
      ∀ r ∈ state.replicas, r.id = ri → r.Idle := by
  have hre := h.ready
  have hav := h.available
  have hr := countP_filter_eq_iff ReplicaState.ready (fun r => r.id ≠ ri) state.replicas
  have ha := countP_filter_eq_iff ReplicaState.isRunning (fun r => r.id ≠ ri) state.replicas
  simp only [ne_eq, decide_not, Bool.not_eq_false', decide_eq_true_eq] at hr ha
  constructor
  · rintro ⟨-, hr', ha'⟩
    simp only [WorkloadState.withReplicas, WorkloadState.readyCount, WorkloadState.runningCount, ne_eq, decide_not,
      hre, hav, Nat.cast_inj] at hr' ha'
    exact fun r hm hid => ⟨hr.mp hr'.symm r hm hid, ha.mp ha'.symm r hm hid⟩
  · intro hidle
    refine ⟨?_, ?_, ?_⟩
    · have hl := List.length_filter_le (fun r => decide (r.id ≠ ri)) state.replicas
      have hlt := h.length_lt
      exact toInt_ofNat_eq_iff.mpr (by omega)
    · have hs := hr.mpr fun r hm hid => (hidle r hm hid).1
      simp only [WorkloadState.withReplicas, WorkloadState.readyCount, ne_eq, decide_not, hre, hs]
    · have hs := ha.mpr fun r hm hid => (hidle r hm hid).2
      simp only [WorkloadState.withReplicas, WorkloadState.runningCount, ne_eq, decide_not, hav, hs]

end Counters

variable {state : WorkloadState} {m : WorkloadStateManager}

lemma findContainer_some {order : MapOrder} {containerID : String}
    {i : ℕ} (h : m.findContainer order containerID = some (state, i)) :
    m.cache.lookup state.id = some state ∧ ∃ replica, state.replicas[i]? = some replica ∧
      replica.containerID = containerID := by
  obtain ⟨⟨id, found⟩, hm, hf⟩ := List.exists_of_findSome?_eq_some h
  obtain ⟨j, hj, he⟩ := Option.map_eq_some_iff.mp hf
  cases he
  have hl := (order.enumerates m.cache).mem.mp hm
  obtain ⟨hlt, hc, -⟩ := List.findIdx?_eq_some_iff_getElem.mp hj
  rw [← m.cache_keyed _ _ hl] at hl
  exact ⟨hl, _, List.getElem?_eq_getElem hlt, by simpa using hc⟩

namespace WorkloadStateManager

inductive Changes (m : WorkloadStateManager) : ReplicaOp → WorkloadState → WorkloadState → Prop
  | add {call : StoreCall} {id : String} {replica : ReplicaState} {state : WorkloadState}
      (h : (m.getWorkload call.readError id).2 = .ok state) :
      Changes m (.add call id replica) state (state.withReplicas (state.replicas ++ [replica]))
  | update {call : StoreCall} {id replicaID message : String} {status : ReplicaStatus} {ready : Bool}
      {state : WorkloadState} {i : ℕ} (h : (m.getWorkload call.readError id).2 = .ok state)
      (hi : state.replicas.findIdx? (fun replica => replica.id = replicaID) = some i) :
      Changes m (.update call id replicaID status ready message) state
        (state.changeReplica i (.updated call.now status ready message))
  | health {order : MapOrder} {call : StoreCall} {health : ContainerHealth} {state : WorkloadState} {i : ℕ}
      (h : m.findContainer order health.containerId = some (state, i)) :
      Changes m (.health order call health) state (state.changeReplica i (.probed call.now health))
  | remove {call : StoreCall} {id replicaID : String} {state : WorkloadState}
      (h : (m.getWorkload call.readError id).2 = .ok state) :
      Changes m (.remove call id replicaID) state
        (state.withReplicas (state.replicas.filter fun replica => replica.id ≠ replicaID))

variable {id : String} {re : Option String}

lemma visible_of_getWorkload (h : (m.getWorkload re id).2 = .ok state) : m.visible id = some state := by
  rcases m.getWorkload_cases re id with ⟨err, he, -⟩ | ⟨f, he, hv⟩
  · rw [he] at h
    cases h
  · rw [he] at h
    cases h
    exact hv

variable {state' : WorkloadState}

lemma visible_saved {sa : Time} {o : SaveOutcome} (hid : state'.id = state.id) (j : String) :
    ((m.getWorkload re id).1.saveShared sa o state').1.visible j =
      if j = state.id then some (state'.stamped sa) else m.visible j := by
  rw [visible_saveShared, visible_getWorkload, hid]

def Finds (m : WorkloadStateManager) (state : WorkloadState) : ReplicaOp → Prop
  | .add call id _ => (m.getWorkload call.readError id).2 = .ok state
  | .update call id _ _ _ _ => (m.getWorkload call.readError id).2 = .ok state
  | .health order _ health => ∃ i, m.findContainer order health.containerId = some (state, i)
  | .remove call id _ => (m.getWorkload call.readError id).2 = .ok state

variable {op : ReplicaOp}

lemma Changes.finds (h : m.Changes op state state') : m.Finds state op := by
  cases h with
  | add hg => exact hg
  | update hg hi => exact hg
  | health hf => exact ⟨_, hf⟩
  | remove hg => exact hg

lemma Finds.visible (h : m.Finds state op) : m.visible state.id = some state := by
  have hget : ∀ {readError : Option String} {id : String}, (m.getWorkload readError id).2 = .ok state →
      m.visible state.id = some state := by
    intro readError id hg
    have hv := visible_of_getWorkload hg
    rwa [visible_id hv]
  cases op with
  | add | update => exact hget h
  | health order call health =>
    obtain ⟨i, hf⟩ := h
    rw [WorkloadStateManager.visible, (findContainer_some hf).1, Option.some_or]
  | remove call id replicaID => exact hget h

lemma Finds.unique {other : WorkloadState} (h : m.Finds state op) (h' : m.Finds other op) : other = state := by
  cases op with
  | add | update => exact Except.ok.inj (h'.symm.trans h)
  | health order call health =>
    obtain ⟨i, hf⟩ := h
    obtain ⟨i', hf'⟩ := h'
    exact (Prod.mk.inj (Option.some.inj (hf'.symm.trans hf))).1
  | remove call id replicaID => exact Except.ok.inj (h'.symm.trans h)

lemma not_changes_of_not_finds (h : ∀ state, ¬m.Finds state op)
    (state state' : WorkloadState) : ¬m.Changes op state state' := fun hch => h state hch.finds

lemma replicaStep_cases (m : WorkloadStateManager) (op : ReplicaOp) :
    ((m.replicaStep op).visible = m.visible ∧ ∀ state state', ¬m.Changes op state state') ∨
      ∃ state state' sa, m.Changes op state state' ∧
      ∀ id, (m.replicaStep op).visible id = if id = state.id then some (state'.stamped sa) else m.visible id := by
  have he : ∀ {re : Option String} {id err : String}, (m.getWorkload re id).2 = .error err →
      ∀ state, (m.getWorkload re id).2 ≠ .ok state := by
    intro re id err hg state ho
    rw [hg] at ho
    cases ho
  cases op with
  | add c id r =>
    simp only [replicaStep, addReplica]
    cases hg : (m.getWorkload c.readError id).2 with
    | error err => exact .inl ⟨visible_getWorkload .., not_changes_of_not_finds (he hg)⟩
    | ok state => exact .inr ⟨state, _, c.savedAt, .add hg, visible_saved rfl⟩
  | update c id ri ss rea me =>
    simp only [replicaStep, updateReplica]
    cases hg : (m.getWorkload c.readError id).2 with
    | error err => exact .inl ⟨visible_getWorkload .., not_changes_of_not_finds (he hg)⟩
    | ok state =>
      dsimp only
      split
      · next hn =>
        refine .inl ⟨visible_getWorkload .., ?_⟩
        intro _ _ hch
        cases hch with
        | update ho hi =>
          rw [hg] at ho
          cases ho
          rw [hn] at hi
          cases hi
      · next i hi => exact .inr ⟨state, _, c.savedAt, .update hg hi, visible_saved rfl⟩
  | health o c health =>
    simp only [replicaStep, updateReplicaHealth]
    split
    · next hn =>
      refine .inl ⟨rfl, not_changes_of_not_finds ?_⟩
      rintro state ⟨i, hf⟩
      rw [hn] at hf
      cases hf
    · next state i hf => exact .inr ⟨state, _, c.savedAt, .health hf, fun id => visible_saveShared ..⟩
  | remove c id ri =>
    simp only [replicaStep, removeReplica]
    cases hg : (m.getWorkload c.readError id).2 with
    | error err => exact .inl ⟨visible_getWorkload .., not_changes_of_not_finds (he hg)⟩
    | ok state => exact .inr ⟨state, _, c.savedAt, .remove hg, visible_saved rfl⟩

/-- A replica that is added to the workload or removed from it is neither ready nor running. -/
def KeepsCounters (id : String) (m : WorkloadStateManager) : ReplicaOp → Prop
  | .add call workloadID replica => workloadID = id → ∀ state, (m.getWorkload call.readError id).2 = .ok state →
    replica.Idle ∧ state.replicas.length + 1 < 2 ^ 31
  | .remove call workloadID replicaID => workloadID = id → ∀ state, (m.getWorkload call.readError id).2 = .ok state →
    ∀ replica ∈ state.replicas, replica.id = replicaID → replica.Idle
  | _ => True

def CountersRight (id : String) (m : WorkloadStateManager) : Prop :=
  ∀ state, m.visible id = some state → state.Counted

lemma counted_stamped {now : Time} : (state.stamped now).Counted ↔ state.Counted :=
  ⟨fun h => ⟨h.current, h.ready, h.available⟩, fun h => ⟨h.current, h.ready, h.available⟩⟩

lemma Changes.counted_iff
    (h : m.Changes op state state') (hc : state.Counted) : state'.Counted ↔ m.KeepsCounters state.id op := by
  have hget : ∀ {re : Option String} {id : String} {state : WorkloadState},
      (m.getWorkload re id).2 = .ok state → state.id = id := fun h => visible_id (visible_of_getWorkload h)
  cases h with
  | add hg =>
    rw [hc.add_iff, KeepsCounters, hget hg, hg]
    simp
  | update | health => exact iff_of_true (hc.changeReplica _ _) trivial
  | remove hg =>
    rw [hc.remove_iff, KeepsCounters, hget hg, hg]
    simp

lemma keepsCounters_of_other
    (h : ∀ state state', m.Changes op state state' → state.id ≠ id) : m.KeepsCounters id op := by
  cases op with
  | add c wi r =>
    rintro rfl state hg
    exact absurd (visible_id (visible_of_getWorkload hg)) (h _ _ (.add hg))
  | remove c wi ri =>
    rintro rfl state hg
    exact absurd (visible_id (visible_of_getWorkload hg)) (h _ _ (.remove hg))
  | update | health => trivial

lemma countersRight_step_iff (h : m.CountersRight id) :
    (m.replicaStep op).CountersRight id ↔ m.KeepsCounters id op := by
  rcases m.replicaStep_cases op with ⟨hs, hnone⟩ | ⟨state, state', sa, hch, ha⟩
  · rw [CountersRight, hs]
    exact iff_of_true h (keepsCounters_of_other fun state state' hch => absurd hch (hnone state state'))
  · by_cases hid : id = state.id
    · rw [hid, ← hch.counted_iff (h state (hid ▸ hch.finds.visible)), ← @counted_stamped _ sa, CountersRight, ha,
        if_pos rfl]
      exact ⟨fun hc => hc _ rfl, fun hc _ he => Option.some.inj he ▸ hc⟩
    · rw [CountersRight, ha, if_neg hid]
      refine iff_of_true h (keepsCounters_of_other fun o o' ho => ?_)
      rw [hch.finds.unique ho.finds]
      exact Ne.symm hid

theorem counters_right_iff {m : WorkloadStateManager} {id : String} {created : WorkloadState}
    (hcreated : m.visible id = some created) (hreplicas : created.replicas = []) (hcurrent : created.currentReplicas = 0)
    (hready : created.readyReplicas = 0) (havailable : created.availableReplicas = 0) (ops : List ReplicaOp) :
    (∀ n, (run replicaStep m (ops.take n)).CountersRight id) ↔ Admissible replicaStep (KeepsCounters id) m ops := by
  refine property_take_iff (CountersRight id) (CountersRight id) (fun _ h => h) ?_ ?_ ops ?_
    (admissible_of_forall (fun _ => True) ops (fun _ _ => trivial) m)
  · exact fun m op h _ hk => (countersRight_step_iff h).mpr hk
  · exact fun m op h _ hc => (countersRight_step_iff h).mp hc
  · intro state hs
    cases hs.symm.trans hcreated
    refine ⟨?_, ?_, ?_⟩
    · rw [hcurrent, hreplicas]
      rfl
    · rw [hready, WorkloadState.readyCount, hreplicas]
      rfl
    · rw [havailable, WorkloadState.runningCount, hreplicas]
      rfl

end WorkloadStateManager

section Sample

open WorkloadStateManager

def webState : WorkloadState where
  id := "w"
  name := "web"
  ns := "default"
  image := "nginx:1"
  command := []
  args := []
  env := ∅
  volumes := []
  ports := []
  resources := ⟨⟨400, 100, 0, 0, 0⟩, ⟨400, 100, 0, 0, 0⟩⟩
  placement := {}
  restart := restartOf none
  rollout := rolloutOf none
  labels := ∅
  annotations := ∅
  desiredReplicas := 1
  status := .running

def webStates : WorkloadStateManager := (newWorkloadStateManager.saveWorkload 0 .ok webState).1

def pendingReplica : ReplicaState := { id := "r1", nodeID := "node-1", fragmentID := "f1", status := .pending }

theorem counters_right_started : CountersRight "w" (run replicaStep webStates
    [.add {} "w" pendingReplica, .update {} "w" "r1" .running true "started", .remove {} "w" "r2"]) := by
  refine (@counters_right_iff webStates "w" webState rfl rfl rfl rfl rfl
    [.add {} "w" pendingReplica, .update {} "w" "r1" .running true "started", .remove {} "w" "r2"]).mpr
    ⟨?_, trivial, ?_, trivial⟩ 3
  · rintro - state ⟨⟩
    exact ⟨⟨rfl, rfl⟩, by decide⟩
  · rintro - state ⟨⟩ r hm hid
    cases List.mem_singleton.mp hm
    exact absurd hid (by decide)

theorem added_replica_uncounted :
    ((webStates.addReplica {} "w" { pendingReplica with status := .running, ready := true }).1.visible "w").map
      (fun state => (state.currentReplicas, state.readyReplicas, state.readyCount, state.availableReplicas,
        state.runningCount)) = some (1, 0, 1, 0, 1) := by
  decide +kernel

end Sample

end Cloudless.Coordination
