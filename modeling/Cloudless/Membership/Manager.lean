import Cloudless.Foundations.GoStd
import Cloudless.Foundations.MapLoops

namespace Cloudless.Membership

open Foundations FiniteMaps GoStd MapLoops

inductive NodeState
  | enrolling
  | ready
  | draining
  | cordoned
  | offline
  | failed
  deriving DecidableEq

structure ResourceCapacity where
  (cpuMillicores memoryBytes storageBytes bandwidthBPS : Int64)
  gpuCount : Int32
  deriving DecidableEq

abbrev ResourceUsage := ResourceCapacity

def noUsage : ResourceUsage := ⟨0, 0, 0, 0, 0⟩

structure Taint where
  (key value effect : String)
  deriving DecidableEq

structure ContainerInfo where
  (id workloadID state : String)
  usage : ResourceUsage
  deriving DecidableEq

structure NodeCondition where
  (type status reason : String)
  deriving DecidableEq

structure NodeInfo where
  (id name : String)
  region : String := ""
  zone : String := ""
  state : NodeState := .enrolling
  lastHeartbeat : Time := 0
  networkFeatures : List String := []
  capacity : ResourceCapacity
  usage : ResourceUsage := noUsage
  labels : FMap String String := ∅
  taints : List Taint := []
  reliabilityScore : Float := 1.0
  containers : List ContainerInfo := []
  publicIP : String := ""
  conditions : List NodeCondition := []
  heartbeatInterval : Int64 := 10000000000

structure HeartbeatRequest where
  nodeId : String
  usage : Option ResourceUsage := none
  containers : Option (List (String × String)) := none

structure HeartbeatResponse (A : Type) where
  assignments : List A
  containersToStop : List String
  nextHeartbeat : Int64

structure Manager (A : Type) where
  nodes : FMap String NodeInfo
  pendingAssignments : FMap String (List A) := ∅
  pendingCommands : FMap String (List String) := ∅
  keyed : ∀ id node, nodes.lookup id = some node → node.id = id

namespace NodeInfo

def resumed (node : NodeInfo) : NodeInfo :=
  let node := if node.state = .enrolling then { node with state := .ready } else node
  if node.state = .offline then
    { node with state := .ready, conditions := node.conditions ++ [⟨"Ready", "True", "HeartbeatResumed"⟩] }
  else node

def reported (node : NodeInfo) (req : HeartbeatRequest) : NodeInfo :=
  let node := match req.usage with
    | some usage => { node with usage := usage }
    | none => node
  match req.containers with
  | some cs => { node with containers := cs.map fun c => ⟨c.1, "", c.2, noUsage⟩ }
  | none => node

def heartbeat (now : Time) (req : HeartbeatRequest) (node : NodeInfo) : NodeInfo :=
  ({ node with lastHeartbeat := now } : NodeInfo).resumed.reported req

def heartbeatTimeout : ℤ := 10 * 1000000000

def addCondition (condition : NodeCondition) : List NodeCondition → List NodeCondition
  | [] => [condition]
  | cond :: conds =>
    if cond.type = condition.type then (if cond.status ≠ condition.status then condition else cond) :: conds
    else cond :: addCondition condition conds

def percent (used capacity : Int64) : Float :=
  if 0 < capacity then used.toFloat / capacity.toFloat * 100 else 0

def timedOut (now : Time) (node : NodeInfo) : NodeInfo :=
  if heartbeatTimeout < now - node.lastHeartbeat ∧ node.state ≠ .offline ∧ node.state ≠ .failed then
    { node with
      state := .offline
      conditions := node.conditions ++ [⟨"Ready", "False", "HeartbeatTimeout"⟩] }
  else node

def pressured (node : NodeInfo) : NodeInfo :=
  let conditions :=
    if percent node.usage.memoryBytes node.capacity.memoryBytes > 90 then
      addCondition ⟨"MemoryPressure", "True", "HighMemoryUsage"⟩ node.conditions
    else node.conditions
  { node with
    conditions :=
      if percent node.usage.cpuMillicores node.capacity.cpuMillicores > 90 then
        addCondition ⟨"CPUPressure", "True", "HighCPUUsage"⟩ conditions
      else conditions }

def checked (now : Time) (node : NodeInfo) : NodeInfo := (node.timedOut now).pressured

def drained (node : NodeInfo) : NodeInfo :=
  { node with state := .draining, taints := node.taints ++ [⟨"cloudless.io/drain", "true", "NoSchedule"⟩] }

def ownTaints (node : NodeInfo) : List Taint :=
  node.taints.filter fun taint => taint.key ≠ "cloudless.io/drain" && taint.key ≠ "cloudless.io/cordon"

def uncordoned (node : NodeInfo) : NodeInfo :=
  { node with
    state := if node.state = .cordoned then .ready else node.state
    taints := node.ownTaints }

variable (now : Time) (req : HeartbeatRequest) (node : NodeInfo)

@[simp] lemma checked_id : (node.checked now).id = node.id := by
  rw [checked, pressured, timedOut]
  split_ifs <;> rfl

lemma checked_state : (node.checked now).state =
      if heartbeatTimeout < now - node.lastHeartbeat ∧ node.state ≠ .offline ∧ node.state ≠ .failed then .offline
      else node.state := by
  rw [checked, pressured, timedOut]
  split_ifs <;> rfl

lemma heartbeat_state : (node.heartbeat now req).state =
      if node.state = .enrolling ∨ node.state = .offline then .ready else node.state := by
  have hr : ∀ node : NodeInfo, (node.reported req).state = node.state := by
    intro node
    simp only [reported]
    split <;> split <;> rfl
  rw [heartbeat, hr, resumed]
  cases node.state <;> simp

@[simp] lemma heartbeat_id : (node.heartbeat now req).id = node.id := by
  simp only [heartbeat, reported, resumed]
  repeat' split
  all_goals rfl

@[simp] lemma heartbeat_capacity : (node.heartbeat now req).capacity = node.capacity := by
  simp only [heartbeat, reported, resumed]
  repeat' split
  all_goals rfl

end NodeInfo

namespace Manager

variable {A : Type}

variable (m : Manager A)

def setNode (node : NodeInfo) : Manager A :=
  { m with
    nodes := m.nodes.insert node.id node
    keyed := by
      intro id n h
      rw [lookup_insert_if] at h
      split_ifs at h with hi
      · cases h
        exact hi.symm
      · exact m.keyed id n h }

def processHeartbeat (now : Time) (req : HeartbeatRequest) (m : Manager A) :
    Except String (HeartbeatResponse A) × Manager A :=
  match m.nodes.lookup req.nodeId with
  | none => (.error ("node not found: " ++ req.nodeId), m)
  | some node =>
    let node := node.heartbeat now req
    let assignments := (m.pendingAssignments.lookup req.nodeId).getD []
    let commands := (m.pendingCommands.lookup req.nodeId).getD []
    let commands :=
      if node.state = .draining ∧ "drain:graceful" ∉ commands then commands ++ ["drain:graceful"] else commands
    (.ok ⟨assignments, commands, node.heartbeatInterval⟩,
      { m.setNode node with
        pendingAssignments := m.pendingAssignments.erase req.nodeId
        pendingCommands := m.pendingCommands.erase req.nodeId })

def queueAssignment (nodeID : String) (assignment : A) (m : Manager A) : Except String Unit × Manager A :=
  match m.nodes.lookup nodeID with
  | none => (.error ("node not found: " ++ nodeID), m)
  | some _ =>
    (.ok (), { m with pendingAssignments :=
      m.pendingAssignments.insert nodeID ((m.pendingAssignments.lookup nodeID).getD [] ++ [assignment]) })

def queueCommand (nodeID command : String) (m : Manager A) : Except String Unit × Manager A :=
  match m.nodes.lookup nodeID with
  | none => (.error ("node not found: " ++ nodeID), m)
  | some _ =>
    (.ok (), { m with pendingCommands :=
      m.pendingCommands.insert nodeID ((m.pendingCommands.lookup nodeID).getD [] ++ [command]) })

def checkNodeHealth (now : Time) (m : Manager A) : Manager A :=
  { m with
    nodes := filterMap (fun _ node => some (node.checked now)) m.nodes
    keyed := by
      intro id node h
      rw [lookup_filterMap, Option.bind_eq_some_iff] at h
      obtain ⟨old, hl, hn⟩ := h
      cases hn
      rw [NodeInfo.checked_id, m.keyed id old hl] }

def Lists (nodes : List NodeInfo) : Prop :=
  (nodes.map NodeInfo.id).Nodup ∧ ∀ node, node ∈ nodes ↔ m.nodes.lookup node.id = some node

lemma queueAssignment_nodes (ni : String) (a : A) (m : Manager A) : (m.queueAssignment ni a).2.nodes = m.nodes := by
  rw [queueAssignment]
  split <;> rfl

lemma queueCommand_nodes (ni c : String) (m : Manager A) : (m.queueCommand ni c).2.nodes = m.nodes := by
  rw [queueCommand]
  split <;> rfl

lemma checkNodeHealth_lookup (now : Time) (m : Manager A) (id : String) :
    (m.checkNodeHealth now).nodes.lookup id = (m.nodes.lookup id).map (NodeInfo.checked now) := by
  rw [checkNodeHealth, lookup_filterMap]
  cases m.nodes.lookup id <;> rfl

@[simp] lemma setNode_lookup (node : NodeInfo) (id : String) :
    (m.setNode node).nodes.lookup id = if id = node.id then some node else m.nodes.lookup id :=
  lookup_insert_if _ _ _ _

lemma processHeartbeat_lookup (now : Time) (req : HeartbeatRequest) (m : Manager A) (id : String) :
    (m.processHeartbeat now req).2.nodes.lookup id =
      if id = req.nodeId then (m.nodes.lookup id).map (NodeInfo.heartbeat now req) else m.nodes.lookup id := by
  rw [processHeartbeat]
  cases hn : m.nodes.lookup req.nodeId with
  | none =>
    split_ifs with h
    · rw [h, hn]
      rfl
    · rfl
  | some node =>
    have hid := m.keyed _ _ hn
    simp only [setNode, lookup_insert_if, NodeInfo.heartbeat_id, hid]
    split_ifs with h
    · rw [h, hn]
      rfl
    · rfl

def single (A : Type) (node : NodeInfo) : Manager A where
  nodes := (∅ : FMap String NodeInfo).insert node.id node
  keyed := by
    intro id node h
    rw [lookup_insert_if] at h
    split_ifs at h with hid
    · cases h
      exact hid.symm
    · cases h

def oneNode (A : Type) : Manager A := single A { id := "n1", name := "n1", state := .ready, capacity := noUsage }

end Manager

end Cloudless.Membership
