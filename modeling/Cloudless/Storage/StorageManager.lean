import Cloudless.Storage.ChunkReferences
import Cloudless.Storage.PlacementStrategy
import Cloudless.Storage.Replication

namespace Cloudless.Storage

open Foundations FiniteMaps GoStd MapLoops Runs SharedLists ContentEngine

variable {V : Type}

structure NodeInfo where
  (id zone : String)
  storageCapacity : Int64
  iopsClass : IOPSClass
  deriving DecidableEq

structure NodeStorageStats where
  (totalBytes usedBytes : Int64)
  lastUpdated : Time
  deriving DecidableEq

/-- `storePlacement` is the strategy of the object store, `placementStrategy` the one of the manager. -/
structure StorageManager (V : Type) where
  objectStore : ObjectStore V
  replicationManager : ReplicationManager
  (storePlacement placementStrategy : PlacementStrategy)
  nodes : FMap String NodeInfo
  nodeStats : FMap String NodeStorageStats

structure PutEnv extends Env, ContentIO where
  select : SelectEnv
  replicate : ℕ → ReplicateEnv

def replicaIOPSClass : StorageClass → IOPSClass
  | .hot => .high
  | .cold => .low
  | _ => .medium

def replicaRequest (config : StorageConfig) (storageClass : StorageClass) : PlacementRequest :=
  ⟨storageClass, replicaIOPSClass storageClass, config.replicationFactor, 0, "", []⟩

def fallbackNodes : List String := ["node-1", "node-2", "node-3"]

variable (P : Primitives)

def ReplicationManager.replicateChunks (P : Primitives) (env : ℕ → ReplicateEnv) (targetNodes : List String)
    (cs : ChunkStore) : ℕ → List String → ReplicationManager → ReplicationManager × Option Err
  | _, [], rm => (rm, none)
  | i, chunkID :: chunkIDs, rm =>
    match rm.replicateChunk (env i) chunkID targetNodes (cs.readChunk P chunkID) with
    | (rm, some err) => (rm, some (.wrap ("failed to replicate chunk " ++ chunkID ++ ": ") err))
    | (rm, none) => replicateChunks P env targetNodes cs (i + 1) chunkIDs rm

def ObjectStore.contentStored (env : PutEnv) (req : PutObjectRequest) (s : ObjectStore V) :
    Option (ChunkStore × List String) :=
  match s.metadataStore.getBucket env.now req.bucket with
  | .error _ => none
  | .ok bucket =>
    if quotaReached bucket (Int64.ofNat req.data.length) then none
    else
      match storeContent P s.config.chunkSize env.toContentIO req.data s.chunkStore with
      | (_, .error _) => none
      | (cs, .ok (chunkIDs, _)) => some (cs, chunkIDs)

namespace ObjectStore

variable {json : MetadataJSON V} {s : ObjectStore V}

lemma config_createBucket {env : Env} {req : CreateBucketRequest} :
    (s.createBucket json env req).1.config = s.config := by
  unfold createBucket
  split_ifs
  · rfl
  · dsimp only
    split <;> rfl

lemma config_putObject {P : Primitives} {env : StoreEnv} {req : PutObjectRequest} :
    (s.putObject P json env req).1.config = s.config := by
  unfold putObject
  split
  · rfl
  · dsimp only
    split_ifs
    · rfl
    · split
      · rfl
      · unfold storeObject
        split
        · rfl
        · split <;> rfl

end ObjectStore

namespace ReplicationManager

lemma config_replicateChunks (env : ℕ → ReplicateEnv) (tn : List String) (cs : ChunkStore)
    (i : ℕ) (chunkIDs : List String) (rm : ReplicationManager) :
    (rm.replicateChunks P env tn cs i chunkIDs).1.config = rm.config := by
  induction chunkIDs generalizing i rm with
  | nil => rfl
  | cons ci chunkIDs ih =>
    have hco := config_replicateChunk (env i) ci tn (cs.readChunk P ci) rm
    rw [replicateChunks]
    cases hr : rm.replicateChunk (env i) ci tn (cs.readChunk P ci) with
    | mk rm' err =>
      rw [hr] at hco
      cases err with
      | some err => exact hco
      | none => exact (ih (i + 1) rm').trans hco

def Extends (ok : String → Prop) (rm rm' : ReplicationManager) : Prop :=
  ∀ chunkID, ∃ added, rm'.getReplicas chunkID = rm.getReplicas chunkID ++ added ∧ ∀ replica ∈ added, ok replica.nodeID

lemma Extends.refl (ok : String → Prop) (rm : ReplicationManager) : rm.Extends ok rm := by
  intro ci
  exact ⟨[], (List.append_nil _).symm, fun _ h => absurd h List.not_mem_nil⟩

variable {ok : String → Prop}

lemma Extends.trans {rm₁ rm₂ rm₃ : ReplicationManager} (h : rm₁.Extends ok rm₂)
    (h' : rm₂.Extends ok rm₃) : rm₁.Extends ok rm₃ := by
  intro ci
  obtain ⟨a, he, ho⟩ := h ci
  obtain ⟨a', he', ho'⟩ := h' ci
  refine ⟨a ++ a', by rw [he', he, List.append_assoc], ?_⟩
  intro r hm
  rcases List.mem_append.mp hm with hm | hm
  · exact ho r hm
  · exact ho' r hm

variable {rm : ReplicationManager}

lemma Extends.mono {ok' : String → Prop} {rm' : ReplicationManager} (h : rm.Extends ok rm')
    (himp : ∀ ni, ok ni → ok' ni) : rm.Extends ok' rm' := by
  intro ci
  obtain ⟨a, he, ho⟩ := h ci
  exact ⟨a, he, fun r hm => himp _ (ho r hm)⟩

lemma extends_replicateToNodes {env : ReplicateEnv} {ci : String} {d : Bytes} {tn : List String} :
    rm.Extends (· ∈ tn) (rm.replicateToNodes env ci d tn) := by
  rw [replicateToNodes]
  split_ifs
  · exact .refl _ rm
  · intro c
    rw [getReplicas_setReplicas]
    split_ifs with hc
    · obtain ⟨is, -, he⟩ := appendAll_composed env.schedule
        (tn.mapIdx fun i ni => newReplica (env.now i) ci d ni) (rm.getReplicas ci)
      refine ⟨_, by rw [he, hc], ?_⟩
      intro r hm
      obtain ⟨i, -, hi⟩ := List.mem_filterMap.mp hm
      have hnode := List.mem_map_of_mem (f := Replica.nodeID) (List.mem_of_getElem? hi)
      rwa [map_newReplicas] at hnode
    · exact Extends.refl _ rm c

lemma extends_replicateChunk (env : ReplicateEnv) (ci : String) (tn : List String)
    (r : Except Err Bytes) (rm : ReplicationManager) : rm.Extends (fun ni => rm.Replicates tn r ∧ ni ∈ rm.targets tn)
      (rm.replicateChunk env ci tn r).1 := by
  rcases replicateChunk_cases env ci tn r rm with ⟨-, he⟩ | ⟨hr, d, he⟩
  · rw [he]
    exact .refl _ rm
  · rw [he]
    exact extends_replicateToNodes.mono fun ni hm => ⟨hr, hm⟩

def Starts (targetNodes : List String) (cs : ChunkStore) (rm : ReplicationManager) : List String → Prop
  | [] => False
  | chunkID :: _ => rm.Replicates targetNodes (cs.readChunk P chunkID)

lemma extends_replicateChunks (env : ℕ → ReplicateEnv) (tn : List String) (cs : ChunkStore)
    (i : ℕ) (chunkIDs : List String) (rm : ReplicationManager) :
    rm.Extends (fun ni => rm.Starts P tn cs chunkIDs ∧ ni ∈ rm.targets tn)
      (rm.replicateChunks P env tn cs i chunkIDs).1 := by
  induction chunkIDs generalizing i rm with
  | nil => exact .refl _ rm
  | cons ci chunkIDs ih =>
    have hf := extends_replicateChunk (env i) ci tn (cs.readChunk P ci) rm
    have hco := config_replicateChunk (env i) ci tn (cs.readChunk P ci) rm
    have ha := replicateChunk_of_not_replicates (env i) ci tn (cs.readChunk P ci) rm
    rw [replicateChunks]
    cases hr : rm.replicateChunk (env i) ci tn (cs.readChunk P ci) with
    | mk rm' err =>
      rw [hr] at hf hco ha
      cases err with
      | some err => exact hf
      | none =>
        refine hf.trans ((ih (i + 1) rm').mono ?_)
        intro ni ho
        rw [targets, hco] at ho
        exact ⟨not_not.mp fun hnot => ha hnot rfl, ho.2⟩

lemma Extends.targets_ok {P : Primitives} {env : ℕ → ReplicateEnv} {targetNodes : List String}
    {cs : ChunkStore} {i : ℕ} {chunkIDs : List String}
    (h : rm.Extends ok (rm.replicateChunks P env targetNodes cs i chunkIDs).1)
    (hs : rm.Starts P targetNodes cs chunkIDs) (ho : (env i).schedule = []) :
    ∀ nodeID ∈ rm.targets targetNodes, ok nodeID := by
  cases chunkIDs with
  | nil => exact hs.elim
  | cons chunkID chunkIDs =>
    obtain ⟨data, hf⟩ : ∃ data, (rm.replicateChunk (env i) chunkID targetNodes (cs.readChunk P chunkID)).1 =
        rm.replicateToNodes (env i) chunkID data (rm.targets targetNodes) := by
      rcases replicateChunk_cases (env i) chunkID targetNodes (cs.readChunk P chunkID) rm with ⟨hnot, -⟩ | ⟨-, hf⟩
      · exact absurd hs hnot
      · exact hf
    obtain ⟨more, hm⟩ : ∃ more, (rm.replicateChunks P env targetNodes cs i (chunkID :: chunkIDs)).1.getReplicas
        chunkID = (rm.replicateToNodes (env i) chunkID data (rm.targets targetNodes)).getReplicas chunkID ++ more := by
      rw [replicateChunks, ← hf]
      cases rm.replicateChunk (env i) chunkID targetNodes (cs.readChunk P chunkID) with
      | mk rm' err =>
        cases err with
        | some err => exact ⟨[], (List.append_nil _).symm⟩
        | none =>
          obtain ⟨added, ha, -⟩ := extends_replicateChunks P env targetNodes cs (i + 1) chunkIDs rm' chunkID
          exact ⟨added, ha⟩
    obtain ⟨added, ha, hok⟩ := h chunkID
    rw [hm, getReplicas_replicateToNodes ho, List.append_assoc] at ha
    have hall := List.append_cancel_left ha
    intro nodeID hmem
    rw [← map_newReplicas (env i).now chunkID data (rm.targets targetNodes)] at hmem
    obtain ⟨replica, hr, rfl⟩ := List.mem_map.mp hmem
    exact hok replica (hall ▸ List.mem_append_left more hr)

end ReplicationManager

namespace StorageManager

variable (json : MetadataJSON V)

def newStorageManager (config : StorageConfig) (enableReadRepair : Bool) (files : FMap Path File)
    (walk : List (Path × File)) : StorageManager V where
  objectStore := .newObjectStore json config none [] files walk
  replicationManager := newReplicationManager config enableReadRepair
  storePlacement := .newPlacementStrategy
  placementStrategy := .newPlacementStrategy
  nodes := ∅
  nodeStats := ∅

def registerNode (node : NodeInfo) (sm : StorageManager V) : StorageManager V :=
  { sm with
    nodes := sm.nodes.insert node.id node
    placementStrategy := sm.placementStrategy.registerNode
      ⟨node.id, node.zone, node.storageCapacity, 0, node.storageCapacity, node.iopsClass, .healthy, 0⟩ }

def unregisterNode (nodeID : String) (sm : StorageManager V) : StorageManager V :=
  { sm with
    nodes := sm.nodes.erase nodeID
    nodeStats := sm.nodeStats.erase nodeID
    placementStrategy := sm.placementStrategy.unregisterNode nodeID }

def updateNodeStats (now : Time) (nodeID : String) (stats : NodeStorageStats) (sm : StorageManager V) :
    StorageManager V × Except Err Unit :=
  let updated := sm.placementStrategy.updateNodeCapacity now nodeID stats.usedBytes stats.totalBytes
  ({ sm with nodeStats := sm.nodeStats.insert nodeID stats, placementStrategy := updated.1 }, updated.2)

def checkNode (now : String → Time) (sm : StorageManager V) (nodeID : String) (node : StorageNode) : StorageNode :=
  match sm.nodes.lookup nodeID, sm.nodeStats.lookup nodeID with
  | some _, some stats =>
    if 2 * 60 * 1000000000 < now nodeID - stats.lastUpdated then
      if node.state ≠ .degraded then { node with state := .degraded, lastUpdated := now nodeID } else node
    else if node.state = .degraded then { node with state := .healthy, lastUpdated := now nodeID } else node
  | _, _ => node

def performHealthChecks (now : String → Time) (sm : StorageManager V) : StorageManager V :=
  { sm with placementStrategy :=
      ⟨filterMap (fun nodeID node => some (sm.checkNode now nodeID node)) sm.placementStrategy.nodes⟩ }

def createBucket (env : Env) (req : CreateBucketRequest) (sm : StorageManager V) :
    StorageManager V × Except Err Unit :=
  let created := sm.objectStore.createBucket json env req
  ({ sm with objectStore := created.1 }, created.2)

variable (env : SelectEnv)

def selected (storageClass : StorageClass) (sm : StorageManager V) : Option (List String) :=
  (sm.storePlacement.selectNodes env (replicaRequest sm.objectStore.config storageClass)).toOption

def replicaTargets (storageClass : StorageClass) (sm : StorageManager V) : List String :=
  getTargetNodes sm.objectStore.config (sm.selected env storageClass)

def putObject (env : PutEnv) (req : PutObjectRequest) (sm : StorageManager V) : StorageManager V × Except Err Unit :=
  let env' : StoreEnv := ⟨env.toEnv, env.toContentIO, sm.selected env.select req.storageClass⟩
  let put := sm.objectStore.putObject P json env' req
  let rm := match sm.objectStore.contentStored P env req with
    | none => sm.replicationManager
    | some (cs, chunkIDs) => (sm.replicationManager.replicateChunks P env.replicate
        (sm.replicaTargets env.select req.storageClass) cs 0 chunkIDs).1
  ({ sm with objectStore := put.1, replicationManager := rm }, put.2)

inductive Op
  | registerNode (node : NodeInfo)
  | unregisterNode (nodeID : String)
  | updateNodeStats (now : Time) (nodeID : String) (stats : NodeStorageStats)
  | performHealthChecks (now : String → Time)
  | createBucket (env : Env) (req : CreateBucketRequest)
  | putObject (env : PutEnv) (req : PutObjectRequest)

def step (sm : StorageManager V) : Op → StorageManager V
  | .registerNode node => sm.registerNode node
  | .unregisterNode nodeID => sm.unregisterNode nodeID
  | .updateNodeStats now nodeID stats => (sm.updateNodeStats now nodeID stats).1
  | .performHealthChecks now => sm.performHealthChecks now
  | .createBucket env req => (sm.createBucket json env req).1
  | .putObject env req => (sm.putObject P json env req).1

variable (sm : StorageManager V)

def Available (nodeID : String) : Prop :=
  (sm.nodes.lookup nodeID).isSome ∧
    (sm.placementStrategy.nodes.lookup nodeID).map StorageNode.state = some .healthy

instance (sm : StorageManager V) (nodeID : String) : Decidable (sm.Available nodeID) :=
  inferInstanceAs (Decidable (_ ∧ _))

def RealTargets (sm : StorageManager V) (op : Op) : Prop :=
  sm.replicationManager.Extends sm.Available (sm.step P json op).replicationManager

def Places : Op → Prop
  | .putObject env req => ∃ placed ∈ sm.objectStore.contentStored P env req,
      sm.replicationManager.Starts P fallbackNodes placed.1 placed.2
  | _ => False

/-- The nodes with the built-in names are registered and healthy when replicas are put on them. -/
def FallbackAvailable (op : Op) : Prop :=
  sm.Places P op → ∀ nodeID ∈ sm.replicationManager.targets fallbackNodes, sm.Available nodeID

def Orderly : Op → Prop
  | .putObject env _ => (env.replicate 0).schedule = []
  | _ => True

structure Built (config : StorageConfig) (sm : StorageManager V) : Prop where
  store : sm.objectStore.config = config
  replication : sm.replicationManager.config = config
  placement : sm.storePlacement.nodes = ∅

variable {config : StorageConfig} {sm}

section

variable (h : sm.Built config)

include h

lemma Built.replicaTargets (sc : StorageClass) : sm.replicaTargets env sc =
      if config.replicationFactor ≤ fallbackNodes.length then fallbackNodes.take config.replicationFactor
      else fallbackNodes := by
  rw [StorageManager.replicaTargets, selected, PlacementStrategy.selectNodes_of_empty h.placement, h.store]
  rfl

lemma Built.targets (sc : StorageClass) : sm.replicationManager.targets (sm.replicaTargets env sc) =
      sm.replicationManager.targets fallbackNodes := by
  rw [ReplicationManager.targets, ReplicationManager.targets, h.replicaTargets, h.replication]
  split_ifs
  · rw [List.take_take, min_self]
  · rfl

variable {P}

lemma Built.starts_iff {env : SelectEnv} {storageClass : StorageClass} {cs : ChunkStore} {chunkIDs : List String} :
    sm.replicationManager.Starts P (sm.replicaTargets env storageClass) cs chunkIDs ↔
      sm.replicationManager.Starts P fallbackNodes cs chunkIDs := by
  cases chunkIDs with
  | nil => exact Iff.rfl
  | cons chunkID chunkIDs =>
    refine and_congr_right fun _ => ?_
    rw [h.replicaTargets, h.replication]
    split_ifs with hR
    · rw [List.length_take_of_le hR]
      exact iff_of_true le_rfl hR
    · exact Iff.rfl

lemma Built.step (P : Primitives) (json : MetadataJSON V) (op : Op) : (sm.step P json op).Built config := by
  cases op with
  | registerNode | unregisterNode | updateNodeStats | performHealthChecks => exact ⟨h.store, h.replication, h.placement⟩
  | createBucket env req =>
    exact ⟨ObjectStore.config_createBucket.trans h.store, h.replication, h.placement⟩
  | putObject env req =>
    refine ⟨ObjectStore.config_putObject.trans h.store, ?_, h.placement⟩
    dsimp only [StorageManager.step, putObject]
    cases sm.objectStore.contentStored P env req with
    | none => exact h.replication
    | some placed => exact (ReplicationManager.config_replicateChunks ..).trans h.replication

lemma Built.extends (P : Primitives) (json : MetadataJSON V) (op : Op) : sm.replicationManager.Extends
      (fun nodeID => sm.Places P op ∧ nodeID ∈ sm.replicationManager.targets fallbackNodes)
      (sm.step P json op).replicationManager := by
  cases op with
  | registerNode | unregisterNode | updateNodeStats | performHealthChecks | createBucket => exact .refl _ _
  | putObject env req =>
    dsimp only [StorageManager.step, putObject]
    cases hst : sm.objectStore.contentStored P env req with
    | none => exact .refl _ _
    | some placed =>
      refine (ReplicationManager.extends_replicateChunks P env.replicate _ placed.1 0 placed.2 _).mono ?_
      rintro nodeID ⟨hs, hm⟩
      rw [h.targets] at hm
      rw [h.starts_iff] at hs
      exact ⟨⟨placed, hst, hs⟩, hm⟩

variable {json}

lemma Built.realTargets {op : Op} (ho : sm.FallbackAvailable P op) : sm.RealTargets P json op :=
  (h.extends P json op).mono fun ni hp => ho hp.1 ni hp.2

lemma Built.fallbackAvailable {op : Op}
    (ho : Orderly op) (hr : sm.RealTargets P json op) : sm.FallbackAvailable P op := by
  intro hp
  cases op with
  | putObject env req =>
    obtain ⟨placed, hst, hs⟩ := hp
    rw [← h.starts_iff] at hs
    rw [← h.targets env.select req.storageClass]
    dsimp only [RealTargets, StorageManager.step, putObject] at hr
    rw [hst] at hr
    exact hr.targets_ok hs ho
  | registerNode | unregisterNode | updateNodeStats | performHealthChecks | createBucket => exact hp.elim

end

theorem replica_targets_real_of_fallback (P : Primitives) (json : MetadataJSON V) (config : StorageConfig)
    (enableReadRepair : Bool) (files : FMap Path File) (walk : List (Path × File)) (ops : List Op) :
    (Admissible (step P json) (FallbackAvailable P) (newStorageManager json config enableReadRepair files walk) ops →
      Admissible (step P json) (RealTargets P json) (newStorageManager json config enableReadRepair files walk) ops) ∧
    ((∀ op ∈ ops, Orderly op) →
      Admissible (step P json) (RealTargets P json) (newStorageManager json config enableReadRepair files walk) ops →
      Admissible (step P json) (FallbackAvailable P)
        (newStorageManager json config enableReadRepair files walk) ops) := by
  have hnew : (newStorageManager json config enableReadRepair files walk).Built config := ⟨rfl, rfl, rfl⟩
  constructor
  · exact admissible_imp (Built config) (fun _ op h _ => h.step P json op)
      (fun _ _ h hop => h.realTargets hop) ops hnew
  · intro ho hr
    refine (admissible_iff (Built config) (fun _ op h _ _ => h.step P json op) ?_ ops hnew
      (admissible_of_forall Orderly ops ho _)).mp hr
    intro sm op h hop
    exact ⟨h.fallbackAvailable hop, h.realTargets⟩

def sampleManager : StorageManager (Bucket ⊕ Object) := newStorageManager recordJSON defaultStorageConfig true ∅ []

def calmPutEnv : PutEnv :=
  { calmEnv with
    write := fun _ => ⟨.done, unix 10⟩
    remove := fun _ => none
    select := ⟨sortedOrder, fun _ nodes => nodes, fun _ nodes => .refl nodes⟩
    replicate := fun _ => ⟨fun _ _ => unix 10, []⟩ }

def placing (nodeIDs : List String) : List Op :=
  nodeIDs.map (fun nodeID => .registerNode ⟨nodeID, "zone", 1000, .high⟩) ++
    [.createBucket calmEnv ⟨"b", .hot, 0, none, "owner"⟩, .putObject calmPutEnv ⟨"b", "k", [1], .hot, "", none⟩]

theorem replica_targets_real_named :
    Admissible (step samplePrimitives recordJSON) (RealTargets samplePrimitives recordJSON) sampleManager
      (placing ["node-1", "node-2", "node-3"]) := by
  refine (replica_targets_real_of_fallback samplePrimitives recordJSON defaultStorageConfig true ∅ []
    (placing ["node-1", "node-2", "node-3"])).1 ?_
  refine ⟨fun h => h.elim, fun h => h.elim, fun h => h.elim, fun h => h.elim, fun _ => ?_, trivial⟩
  decide +kernel

theorem replicas_on_unregistered_nodes :
    let sm := run (step samplePrimitives recordJSON) sampleManager (placing ["edge-1", "edge-2", "edge-3"])
    sm.replicationManager.nodes (digest [1]) = ["node-1", "node-2", "node-3"] ∧ sm.Available "edge-1" ∧
      ¬sm.Available "node-1" ∧ ¬sm.Available "node-2" ∧ ¬sm.Available "node-3" := by
  decide +kernel

end StorageManager

end Cloudless.Storage
