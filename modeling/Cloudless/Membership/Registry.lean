import Cloudless.Foundations.Runs
import Cloudless.Membership.Manager
import Cloudless.Raft.Store

namespace Cloudless.Membership

open Foundations FiniteMaps GoStd MapLoops Runs Raft

variable {V A : Type}

def nodeKey (id : String) : String := "node:" ++ id

structure Registry (codec : Codec NodeInfo V) (A : Type) where
  manager : Manager A
  raftStore : RaftStore V
  recorded : ∀ {key entry node}, hasPrefix key "node:" = true → raftStore.fsm.data.lookup key = some entry →
    codec.unmarshal entry.value = .ok node → key = nodeKey node.id

structure EnrollNodeRequest where
  (nodeName region zone : String)
  labels : FMap String String
  networkFeatures : Option (List String)
  capacity : Option ResourceCapacity

variable {codec : Codec NodeInfo V}

def recordedNode (codec : Codec NodeInfo V) (raftStore : RaftStore V) (id : String) : Option NodeInfo :=
  (raftStore.fsm.data.lookup (nodeKey id)).bind fun entry => (codec.unmarshal entry.value).toOption

variable {n : NodeInfo}

lemma recorded_set {rs : RaftStore V} (h : ∀ {key e n}, hasPrefix key "node:" = true →
    rs.fsm.data.lookup key = some e → codec.unmarshal e.value = .ok n → key = nodeKey n.id)
    (env : RaftEnv) {d : V} (hm : codec.marshal n = .ok d) : ∀ {key e o}, hasPrefix key "node:" = true →
      (rs.set env (nodeKey n.id) d).1.fsm.data.lookup key = some e →
      codec.unmarshal e.value = .ok o → key = nodeKey o.id := by
  intro key e o hp hl hu
  rcases (rs.set_cases env (nodeKey n.id) d).2 with ⟨hs, -⟩ | ⟨ca, ua, hs⟩
  · rw [hs] at hl
    exact h hp hl hu
  · rw [hs, lookup_insert_if] at hl
    split_ifs at hl with hk
    · cases hl
      rw [codec.unmarshal_marshal hm] at hu
      cases hu
      exact hk
    · exact h hp hl hu

def loadNode (codec : Codec NodeInfo V) (nodes : FMap String NodeInfo) (e : String × V) : FMap String NodeInfo :=
  if 5 < e.1.utf8ByteSize ∧ hasPrefix e.1 "node:" then
    match codec.unmarshal e.2 with
    | .error _ => nodes
    | .ok node => nodes.insert node.id node
  else nodes

def loadNodes (codec : Codec NodeInfo V) (order : MapOrder) (allData : FMap String V) : FMap String NodeInfo :=
  (order.entries allData).foldl (loadNode codec) ∅

def HaveRecords (codec : Codec NodeInfo V) (allData : FMap String V) (nodes : FMap String NodeInfo) : Prop :=
  ∀ {id node}, nodes.lookup id = some node → node.id = id ∧ ∃ key data, hasPrefix key "node:" = true ∧
    allData.lookup key = some data ∧ codec.unmarshal data = .ok node

variable {e : String × V} {ad : FMap String V}

lemma haveRecords_loadNode {ns : FMap String NodeInfo} (he : ad.lookup e.1 = some e.2) (h : HaveRecords codec ad ns) :
    HaveRecords codec ad (loadNode codec ns e) := by
  intro id n hl
  rw [loadNode] at hl
  split_ifs at hl with hp
  · cases hu : codec.unmarshal e.2 with
    | error err =>
      rw [hu] at hl
      exact h hl
    | ok l =>
      rw [hu] at hl
      dsimp only at hl
      rw [lookup_insert_if] at hl
      split_ifs at hl with hid
      · cases hl
        exact ⟨hid.symm, e.1, e.2, hp.2, he, hu⟩
      · exact h hl
  · exact h hl

lemma haveRecords_loadNodes {o : MapOrder} : HaveRecords codec ad (loadNodes codec o ad) := by
  refine run_preserves (HaveRecords codec ad) (o.entries ad) ?_ ?_
  · intro ns e he h
    exact haveRecords_loadNode ((o.enumerates ad).mem.mp he) h
  · intro id n hl
    cases hl

variable {id : String}

namespace Registry

def saveNode (env : RaftEnv) (node : NodeInfo) (r : Registry codec A) : Option String × Registry codec A :=
  match hm : codec.marshal node with
  | .error err => (some ("failed to marshal node: " ++ err), r)
  | .ok data =>
    ((r.raftStore.set env (nodeKey node.id) data).2,
      { r with
        raftStore := (r.raftStore.set env (nodeKey node.id) data).1
        recorded := recorded_set r.recorded env hm })

def setNode (node : NodeInfo) (r : Registry codec A) : Registry codec A := { r with manager := r.manager.setNode node }

def processHeartbeat (env : RaftEnv) (now : Time) (req : HeartbeatRequest) (r : Registry codec A) :
    Except String (HeartbeatResponse A) × Registry codec A :=
  match r.manager.nodes.lookup req.nodeId with
  | none => (.error ("node not found: " ++ req.nodeId), r)
  | some node =>
    let r := (r.saveNode env (node.heartbeat now req)).2
    let (response, manager) := r.manager.processHeartbeat now req
    (response, { r with manager := manager })

def queueAssignment (nodeID : String) (assignment : A) (r : Registry codec A) : Except String Unit × Registry codec A :=
  let (result, manager) := r.manager.queueAssignment nodeID assignment
  (result, { r with manager := manager })

def queueCommand (nodeID command : String) (r : Registry codec A) : Except String Unit × Registry codec A :=
  let (result, manager) := r.manager.queueCommand nodeID command
  (result, { r with manager := manager })

def stopCommand (graceful : Bool) (container : ContainerInfo) : String :=
  if graceful then "stop:graceful:" ++ container.id else "stop:force:" ++ container.id

def triggerWorkloadMigration (nodeID : String) (graceful : Bool) (r : Registry codec A) :
    Option String × Registry codec A :=
  match r.manager.nodes.lookup nodeID with
  | none => (some ("node not found: " ++ nodeID), r)
  | some node =>
    (none, node.containers.foldl (fun r container => (r.queueCommand nodeID (stopCommand graceful container)).2) r)

def drainNode (env : RaftEnv) (nodeID : String) (graceful : Bool) (r : Registry codec A) :
    Option String × Registry codec A :=
  match r.manager.nodes.lookup nodeID with
  | none => (some ("node not found: " ++ nodeID), r)
  | some node =>
    if node.state = .draining then (some "node already draining", r)
    else
      match (r.setNode node.drained).saveNode env node.drained with
      | (some err, r) => (some ("failed to persist node state: " ++ err), r)
      | (none, r) => (none, (r.triggerWorkloadMigration nodeID graceful).2)

def uncordonNode (env : RaftEnv) (nodeID : String) (r : Registry codec A) : Option String × Registry codec A :=
  match r.manager.nodes.lookup nodeID with
  | none => (some ("node not found: " ++ nodeID), r)
  | some node =>
    match (r.setNode node.uncordoned).saveNode env node.uncordoned with
    | (some err, r) => (some ("failed to persist node state: " ++ err), r)
    | (none, r) => (none, r)

def checkNodeHealth (now : Time) (r : Registry codec A) : Registry codec A :=
  { r with manager := r.manager.checkNodeHealth now }

def enrolledNode (now : Time) (tokenNodeID : String) (req : EnrollNodeRequest) : NodeInfo where
  id := if tokenNodeID = "" then "node-" ++ req.nodeName ++ "-" ++ toString (unixSeconds now) else tokenNodeID
  name := req.nodeName
  region := req.region
  zone := req.zone
  state := .enrolling
  lastHeartbeat := now
  networkFeatures := req.networkFeatures.getD []
  capacity := req.capacity.getD noUsage
  labels := req.labels

def enrollNode (env : RaftEnv) (now : Time) (token : Except String String) (certificate : Except String Unit)
    (req : EnrollNodeRequest) (r : Registry codec A) : Except String String × Registry codec A :=
  match token with
  | .error err => (.error ("invalid token: " ++ err), r)
  | .ok tokenNodeID =>
    let node := enrolledNode now tokenNodeID req
    if (r.manager.nodes.lookup node.id).any fun existing => existing.state ≠ .offline && existing.state ≠ .failed then
      (.error ("node " ++ node.id ++ " already enrolled"), r)
    else
      match certificate with
      | .error err => (.error ("failed to generate certificate: " ++ err), r)
      | .ok _ => (.ok node.id, ((r.setNode node).saveNode env node).2)

def restart (now : Time) (order : MapOrder) (r : Registry codec A) : Registry codec A :=
  { r with
    manager :=
      { nodes := loadNodes codec order (r.raftStore.fsm.getAll now)
        keyed := fun _ _ h => (haveRecords_loadNodes h).1 } }

def stored (r : Registry codec A) (id : String) : Option NodeInfo := recordedNode codec r.raftStore id

variable (r : Registry codec A) (env : RaftEnv)

lemma saveNode_cases (n : NodeInfo) (r : Registry codec A) : (r.saveNode env n).2.manager = r.manager ∧
    (r.saveNode env n).2.raftStore.isLeader = r.raftStore.isLeader ∧
    ((∃ err, (r.saveNode env n).1 = some err) ∧ (r.saveNode env n).2.stored = r.stored ∨
      ∀ id, (r.saveNode env n).2.stored id = if id = n.id then some n else r.stored id) := by
  rw [saveNode]
  split
  · exact ⟨rfl, rfl, .inl ⟨⟨_, rfl⟩, rfl⟩⟩
  · next d hm =>
    obtain ⟨hl, ⟨hs, he⟩ | ⟨ca, ua, hs⟩⟩ := r.raftStore.set_cases env (nodeKey n.id) d
    · refine ⟨rfl, hl, .inl ⟨he, ?_⟩⟩
      funext id
      rw [stored, stored, recordedNode, recordedNode, hs]
    · refine ⟨rfl, hl, .inr ?_⟩
      intro id
      have hk : nodeKey id = nodeKey n.id ↔ id = n.id := (append_right_injective "node:").eq_iff
      rw [stored, recordedNode, hs, lookup_insert_if]
      by_cases hid : id = n.id
      · rw [if_pos (hk.mpr hid), if_pos hid, Option.bind_some, codec.unmarshal_marshal hm]
        rfl
      · rw [if_neg (hk.not.mpr hid), if_neg hid]
        rfl

variable {r : Registry codec A}

lemma stored_eq_some {node : NodeInfo} : r.stored id = some node ↔
    ∃ e, r.raftStore.fsm.data.lookup (nodeKey id) = some e ∧ codec.unmarshal e.value = .ok node := by
  rw [stored, recordedNode, Option.bind_eq_some_iff]
  refine exists_congr fun e => and_congr_right fun _ => ?_
  cases codec.unmarshal e.value <;> simp [Except.toOption]

lemma stored_id (h : r.stored id = some n) : n.id = id := by
  obtain ⟨e, he, hu⟩ := stored_eq_some.mp h
  have hk := r.recorded (hasPrefix_append "node:" id) he hu
  exact (append_right_injective "node:" hk).symm

/-- A load at that time takes up the record of the node: its key is not too short, and it has not expired. -/
def Loadable (r : Registry codec A) (now : Time) (id : String) : Prop :=
  id ≠ "" ∧ ∀ entry, r.raftStore.fsm.data.lookup (nodeKey id) = some entry → expired entry.expiresAt now = false

end Registry

def loadedAs (codec : Codec NodeInfo V) (id : String) (e : String × V) : Option NodeInfo :=
  if 5 < e.1.utf8ByteSize ∧ hasPrefix e.1 "node:" then
    (codec.unmarshal e.2).toOption.filter fun node => node.id = id
  else none

lemma loadedAs_eq_some : loadedAs codec id e = some n ↔
    (5 < e.1.utf8ByteSize ∧ hasPrefix e.1 "node:") ∧ codec.unmarshal e.2 = .ok n ∧ n.id = id := by
  rw [loadedAs]
  split_ifs with hp
  · rw [Option.filter_eq_some_iff, and_iff_right hp, decide_eq_true_eq]
    refine and_congr_left fun _ => ?_
    cases codec.unmarshal e.2 <;> simp [Except.toOption]
  · exact iff_of_false (by simp) fun h => hp h.1

lemma loadNode_lookup (ns : FMap String NodeInfo) :
    (loadNode codec ns e).lookup id = (loadedAs codec id e).or (ns.lookup id) := by
  rw [loadNode, loadedAs]
  split_ifs with hp
  · cases codec.unmarshal e.2 with
    | error err => rfl
    | ok n =>
      simp only [Except.toOption, lookup_insert_if, Option.filter_some, decide_eq_true_eq]
      by_cases hid : id = n.id
      · rw [if_pos hid, if_pos hid.symm, Option.some_or]
      · rw [if_neg hid, if_neg (Ne.symm hid), Option.none_or]
  · rfl

namespace Registry

lemma nodeKey_long : 5 < (nodeKey id).utf8ByteSize ↔ id ≠ "" := by
  have hp : "node:".utf8ByteSize = 5 := by decide
  have he : id.utf8ByteSize = 0 ↔ id = "" := String.utf8ByteSize_eq_zero_iff
  rw [nodeKey, String.utf8ByteSize_append, hp, ne_eq, ← he]
  omega

open Classical in
lemma restart_lookup_eq (r : Registry codec A) (now : Time) (o : MapOrder) (id : String) :
    (r.restart now o).manager.nodes.lookup id = if r.Loadable now id then r.stored id else none := by
  have hent : ∀ key data, (key, data) ∈ o.entries (r.raftStore.fsm.getAll now) ↔
      ∃ en, r.raftStore.fsm.data.lookup key = some en ∧ expired en.expiresAt now = false ∧
        en.value = data := by
    intro key data
    rw [(o.enumerates _).mem, FSM.getAll, lookup_filterMap, Option.bind_eq_some_iff]
    refine exists_congr fun en => and_congr_right fun _ => ?_
    cases expired en.expiresAt now <;> simp
  have hlo : (r.restart now o).manager.nodes =
      run (loadNode codec) ∅ (o.entries (r.raftStore.fsm.getAll now)) := rfl
  rw [hlo]
  refine run_read (fun ns => ns.lookup id) (loadedAs codec id) (o.entries (r.raftStore.fsm.getAll now))
    (fun ns e _ => loadNode_lookup ns) ?_ (.inr ⟨Finmap.lookup_empty id, ?_⟩)
  · intro e he
    cases hf : loadedAs codec id e with
    | none => exact .inl rfl
    | some node =>
      obtain ⟨⟨hlong, hp⟩, hu, hid⟩ := loadedAs_eq_some.mp hf
      obtain ⟨en, hen, hlive, hv⟩ := (hent e.1 e.2).mp he
      rw [← hv] at hu
      have hk := r.recorded hp hen hu
      rw [hid] at hk
      rw [hk] at hlong hen
      have hl : r.Loadable now id := by
        refine ⟨nodeKey_long.mp hlong, fun e' he' => ?_⟩
        cases hen.symm.trans he'
        exact hlive
      rw [if_pos hl]
      exact .inr (stored_eq_some.mpr ⟨en, hen, hu⟩).symm
  · split_ifs with hl
    · cases hs : r.stored id with
      | none => exact .inl rfl
      | some node =>
        obtain ⟨en, hen, hu⟩ := stored_eq_some.mp hs
        refine .inr ⟨(nodeKey id, en.value), (hent _ _).mpr ⟨en, hen, hl.2 en hen, rfl⟩, ?_⟩
        refine loadedAs_eq_some.mpr ⟨⟨nodeKey_long.mpr hl.1, hasPrefix_append _ _⟩, hu, stored_id hs⟩
    · exact .inl rfl

lemma restart_lookup {r : Registry codec A} {now : Time} {o : MapOrder} {node : NodeInfo}
    (h : (r.restart now o).manager.nodes.lookup id = some node) : r.stored id = some node := by
  rw [restart_lookup_eq] at h
  split_ifs at h
  exact h

def plainNodeCodec : Codec NodeInfo NodeInfo where
  marshal := .ok
  unmarshal := .ok
  unmarshal_marshal := by
    intro a b h
    exact h.symm

def oneNodeRegistry : Registry plainNodeCodec String where
  manager := .oneNode String
  raftStore := ⟨newFSM, [], true, "", ""⟩
  recorded _ hl := by cases hl

def committed : RaftEnv := ⟨.committed, fun _ => 0⟩

end Registry

end Cloudless.Membership
