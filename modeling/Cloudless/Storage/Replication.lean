import Cloudless.Foundations.SharedLists
import Cloudless.Storage.ObjectStore

namespace Cloudless.Storage

open Foundations FiniteMaps GoStd Interleaving Runs SharedLists

inductive ReplicaStatus
  | healthy
  | stale
  | corrupted
  | missing
  | other (name : String)
  deriving DecidableEq

structure Replica where
  (chunkID nodeID : String)
  status : ReplicaStatus
  (lastVerified createdAt updatedAt : Time)
  size : Int64
  checksum : String
  deriving DecidableEq

structure ReplicationManager where
  config : StorageConfig
  enableReadRepair : Bool
  replicas : FMap String (List Replica)

inductive RepairType
  | missing
  | corrupted
  | stale
  | other (name : String)
  deriving DecidableEq

structure RepairTask where
  chunkID : String
  type : RepairType
  targetNodeID : String

structure ReplicateEnv where
  now : ℕ → ℕ → Time
  schedule : List ℕ

def newReplicationManager (config : StorageConfig) (enableReadRepair : Bool) : ReplicationManager :=
  ⟨config, enableReadRepair, ∅⟩

def newReplica (now : ℕ → Time) (chunkID : String) (data : Bytes) (nodeID : String) : Replica :=
  ⟨chunkID, nodeID, .healthy, now 0, now 1, now 2, Int64.ofNat data.length, chunkID⟩

def modifyFirst {α : Type} (p : α → Bool) (f : α → α) : List α → List α
  | [] => []
  | a :: as => if p a then f a :: as else a :: modifyFirst p f as

namespace ReplicationManager

def getReplicas (chunkID : String) (rm : ReplicationManager) : List Replica := (rm.replicas.lookup chunkID).getD []

def setReplicas (chunkID : String) (replicas : List Replica) (rm : ReplicationManager) : ReplicationManager :=
  { rm with replicas := rm.replicas.insert chunkID replicas }

def getHealthyReplicas (chunkID : String) (rm : ReplicationManager) : List Replica :=
  (rm.getReplicas chunkID).filter fun replica => replica.status = .healthy

def selectPrimaryReplica (chunkID : String) (rm : ReplicationManager) : Except Err Replica :=
  match rm.getHealthyReplicas chunkID with
  | [] => .error (.msg ("no healthy replicas available for chunk: " ++ chunkID))
  | replica :: _ => .ok replica

def checkReplicationHealth (chunkID : String) (rm : ReplicationManager) : Bool × ℕ :=
  (decide (rm.config.replicationFactor ≤ (rm.getHealthyReplicas chunkID).length),
    (rm.getHealthyReplicas chunkID).length)

def replicateToNode (now : ℕ → Time) (chunkID : String) (data : Bytes) (nodeID : String) (rm : ReplicationManager) :
    ReplicationManager :=
  rm.setReplicas chunkID (rm.getReplicas chunkID ++ [newReplica now chunkID data nodeID])

def replicateToNodes (env : ReplicateEnv) (chunkID : String) (data : Bytes) (targetNodes : List String)
    (rm : ReplicationManager) : ReplicationManager :=
  let replicas := targetNodes.mapIdx fun i nodeID => newReplica (env.now i) chunkID data nodeID
  if targetNodes.isEmpty then rm
  else rm.setReplicas chunkID (appendAll env.schedule replicas (rm.getReplicas chunkID))

def replicateChunk (env : ReplicateEnv) (chunkID : String) (targetNodes : List String) (read : Except Err Bytes)
    (rm : ReplicationManager) : ReplicationManager × Option Err :=
  match read with
  | .error err => (rm, some (.wrap "failed to read chunk for replication: " err))
  | .ok data =>
    let replicationFactor := rm.config.replicationFactor
    if targetNodes.length < replicationFactor then
      (rm, some (.msg ("insufficient target nodes: need " ++ toString replicationFactor ++ ", got " ++
        toString targetNodes.length)))
    else
      let targets := targetNodes.take replicationFactor
      let successCount := targets.length
      let quorum := getWriteQuorum rm.config
      (rm.replicateToNodes env chunkID data targets,
        if successCount < quorum then
          some (.msg ("replication failed: only " ++ toString successCount ++ "/" ++ toString targets.length ++
            " nodes succeeded (quorum: " ++ toString quorum ++ ")"))
        else none)

def updateReplicaHealth (now : Time) (chunkID nodeID : String) (status : ReplicaStatus) (rm : ReplicationManager) :
    ReplicationManager :=
  match rm.replicas.lookup chunkID with
  | none => rm
  | some replicas =>
    rm.setReplicas chunkID (modifyFirst (·.nodeID = nodeID)
      (fun replica => { replica with status := status, updatedAt := now }) replicas)

def verifyReplica (now : Time) (chunkID nodeID : String) (rm : ReplicationManager) : ReplicationManager :=
  match rm.replicas.lookup chunkID with
  | none => rm
  | some replicas =>
    rm.setReplicas chunkID
      (modifyFirst (·.nodeID = nodeID) (fun replica => { replica with lastVerified := now }) replicas)

def removeReplica (chunkID nodeID : String) (rm : ReplicationManager) : ReplicationManager :=
  match rm.replicas.lookup chunkID with
  | none => rm
  | some replicas =>
    let newReplicas := replicas.filter fun replica => replica.nodeID ≠ nodeID
    if newReplicas.isEmpty then { rm with replicas := rm.replicas.erase chunkID }
    else rm.setReplicas chunkID newReplicas

def repairReplica (now : ℕ → Time) (chunkID targetNodeID : String) (read : Except Err Bytes) (rm : ReplicationManager) :
    ReplicationManager × Option Err :=
  match rm.selectPrimaryReplica chunkID, read with
  | .error err, _ => (rm, some (.wrap "no healthy replica to copy from: " err))
  | .ok _, .error err => (rm, some (.wrap "failed to read chunk from primary: " err))
  | .ok _, .ok data => (rm.replicateToNode now chunkID data targetNodeID, none)

def replicateEach (now : ℕ → ℕ → Time) (chunkID : String) (data : Bytes) :
    ℕ → List String → ReplicationManager → ReplicationManager
  | _, [], rm => rm
  | i, nodeID :: nodeIDs, rm =>
    replicateEach now chunkID data (i + 1) nodeIDs (rm.replicateToNode (now i) chunkID data nodeID)

def staleNodes (chunkID : String) (rm : ReplicationManager) : List String :=
  ((rm.getReplicas chunkID).filter fun replica => replica.status = .stale).map Replica.nodeID

def readRepair (now : ℕ → ℕ → Time) (chunkID : String) (read : Except Err Bytes) (rm : ReplicationManager) :
    ReplicationManager × Option Err :=
  if !rm.enableReadRepair ∨ (rm.staleNodes chunkID).isEmpty then (rm, none)
  else
    match read with
    | .error err => (rm, some (.wrap "failed to read chunk for repair: " err))
    | .ok data => (rm.replicateEach now chunkID data 0 (rm.staleNodes chunkID), none)

def wrapError (text : String) (result : ReplicationManager × Option Err) : ReplicationManager × Option Err :=
  (result.1, result.2.map (.wrap text))

def executeRepairTask (now : ℕ → Time) (task : RepairTask) (read : Except Err Bytes) (rm : ReplicationManager) :
    ReplicationManager × Option Err :=
  match task.type with
  | .missing =>
    let targetNode := if task.targetNodeID = "" then "new-node" else task.targetNodeID
    wrapError "failed to repair missing replica: " (rm.repairReplica now task.chunkID targetNode read)
  | .corrupted =>
    wrapError "failed to create replacement replica: "
      ((rm.removeReplica task.chunkID task.targetNodeID).repairReplica now task.chunkID task.targetNodeID read)
  | .stale =>
    match rm.repairReplica now task.chunkID task.targetNodeID read with
    | (rm, some err) => (rm, some (.wrap "failed to repair stale replica: " err))
    | (rm, none) => (rm.updateReplicaHealth (now 3) task.chunkID task.targetNodeID .healthy, none)
  | .other type => (rm, some (.msg ("unknown repair type: " ++ type)))

def nodes (chunkID : String) (rm : ReplicationManager) : List String := (rm.getReplicas chunkID).map Replica.nodeID

lemma getReplicas_setReplicas (chunkID : String) (rs : List Replica) (rm : ReplicationManager) (c : String) :
    (rm.setReplicas chunkID rs).getReplicas c = if c = chunkID then rs else rm.getReplicas c := by
  rw [getReplicas, setReplicas]
  dsimp only
  rw [lookup_insert_if]
  split_ifs <;> rfl

variable {rm : ReplicationManager} {chunkID : String} {rs : List Replica}

lemma nodes_setReplicas (c : String) :
    (rm.setReplicas chunkID rs).nodes c = if c = chunkID then rs.map Replica.nodeID else rm.nodes c := by
  rw [nodes, getReplicas_setReplicas]
  split_ifs <;> rfl

lemma map_modifyFirst {α β : Type} {p : α → Bool} {f : α → α} {g : α → β} (h : ∀ a, g (f a) = g a) {as : List α} :
    (modifyFirst p f as).map g = as.map g := by
  induction as with
  | nil => rfl
  | cons a as ih =>
    rw [modifyFirst]
    split_ifs
    · rw [List.map_cons, List.map_cons, h]
    · rw [List.map_cons, List.map_cons, ih]

variable {targetNodeID nodeID : String} {now : ℕ → Time} {d : Bytes}

lemma nodes_replicateToNode (c : String) : (rm.replicateToNode now chunkID d nodeID).nodes c =
      if c = chunkID then rm.nodes chunkID ++ [nodeID] else rm.nodes c := by
  rw [replicateToNode, nodes_setReplicas, List.map_append]
  rfl

variable (env : ReplicateEnv) (now : ℕ → ℕ → Time)

lemma nodes_replicateEach (chunkID : String) (d : Bytes) (i : ℕ) {nid : List String} (rm : ReplicationManager)
    (c : String) : (rm.replicateEach now chunkID d i nid).nodes c =
      if c = chunkID then rm.nodes chunkID ++ nid else rm.nodes c := by
  induction nid generalizing i rm with
  | nil =>
    rw [replicateEach, List.append_nil]
    split_ifs with hc
    · rw [hc]
    · rfl
  | cons nodeID nid ih =>
    rw [replicateEach, ih, nodes_replicateToNode, nodes_replicateToNode, if_pos rfl, List.append_assoc]
    split_ifs <;> rfl

lemma nodes_modifyFirst (h : rm.replicas.lookup chunkID = some rs) {p : Replica → Bool}
    {f : Replica → Replica} (hf : ∀ r, (f r).nodeID = r.nodeID) {c : String} :
    (rm.setReplicas chunkID (modifyFirst p f rs)).nodes c = rm.nodes c := by
  rw [nodes_setReplicas, map_modifyFirst hf]
  split_ifs with hc
  · rw [hc, nodes, getReplicas, h]
    rfl
  · rfl

lemma nodes_updateReplicaHealth {now : Time} {ss : ReplicaStatus} (c : String) :
    (rm.updateReplicaHealth now chunkID nodeID ss).nodes c = rm.nodes c := by
  rw [updateReplicaHealth]
  cases hl : rm.replicas.lookup chunkID with
  | none => rfl
  | some rs => exact nodes_modifyFirst hl (by exact fun _ => rfl)

lemma nodes_verifyReplica {now : Time} (c : String) : (rm.verifyReplica now chunkID nodeID).nodes c = rm.nodes c := by
  rw [verifyReplica]
  cases hl : rm.replicas.lookup chunkID with
  | none => rfl
  | some rs => exact nodes_modifyFirst hl (by exact fun _ => rfl)

lemma getReplicas_removeReplica {c : String} : (rm.removeReplica chunkID nodeID).getReplicas c =
      if c = chunkID then (rm.getReplicas chunkID).filter fun replica => replica.nodeID ≠ nodeID
      else rm.getReplicas c := by
  rw [removeReplica]
  cases hl : rm.replicas.lookup chunkID with
  | none =>
    split_ifs with hc
    · rw [hc, getReplicas, hl]
      rfl
    · rfl
  | some replicas =>
    have hcu : rm.getReplicas chunkID = replicas := by rw [getReplicas, hl]; rfl
    dsimp only
    rw [hcu]
    split_ifs with he hc hc
    · rw [List.isEmpty_iff.mp he, getReplicas]
      dsimp only
      rw [lookup_erase_if, if_pos hc]
      rfl
    · rw [getReplicas]
      dsimp only
      rw [lookup_erase_if, if_neg hc]
      rfl
    · rw [getReplicas_setReplicas, if_pos hc]
    · rw [getReplicas_setReplicas, if_neg hc]

lemma nodes_removeReplica (c : String) : (rm.removeReplica chunkID nodeID).nodes c =
      if c = chunkID then (rm.nodes chunkID).filter (· ≠ nodeID) else rm.nodes c := by
  rw [nodes, getReplicas_removeReplica]
  split_ifs
  · rw [nodes, List.filter_map]
    rfl
  · rfl

def Repairs (chunkID : String) (read : Except Err Bytes) (rm : ReplicationManager) : Prop :=
  rm.getHealthyReplicas chunkID ≠ [] ∧ read.toOption.isSome

instance (chunkID : String) (read : Except Err Bytes) (rm : ReplicationManager) : Decidable (rm.Repairs chunkID read) :=
  inferInstanceAs (Decidable (_ ∧ _))

lemma repairReplica_cases {now : ℕ → Time} {chunkID : String} {re : Except Err Bytes} (rm : ReplicationManager) :
    (¬rm.Repairs chunkID re ∧ ∃ err, rm.repairReplica now chunkID targetNodeID re = (rm, some err)) ∨
      rm.Repairs chunkID re ∧ ∃ d,
        rm.repairReplica now chunkID targetNodeID re = (rm.replicateToNode now chunkID d targetNodeID, none) := by
  rw [Repairs]
  unfold repairReplica selectPrimaryReplica
  cases rm.getHealthyReplicas chunkID with
  | nil => exact .inl ⟨fun h => h.1 rfl, _, rfl⟩
  | cons r res =>
    cases re with
    | error err => exact .inl ⟨fun h => absurd h.2 Bool.false_ne_true, _, rfl⟩
    | ok d => exact .inr ⟨⟨List.cons_ne_nil _ _, rfl⟩, d, rfl⟩

def Refreshes (chunkID : String) (read : Except Err Bytes) (rm : ReplicationManager) : Prop :=
  rm.enableReadRepair ∧ rm.staleNodes chunkID ≠ [] ∧ read.toOption.isSome

instance (chunkID : String) (read : Except Err Bytes) (rm : ReplicationManager) :
    Decidable (rm.Refreshes chunkID read) :=
  inferInstanceAs (Decidable (_ ∧ _ ∧ _))

lemma readRepair_cases (chunkID : String) (r : Except Err Bytes) (rm : ReplicationManager) :
    (¬rm.Refreshes chunkID r ∧ (rm.readRepair now chunkID r).1 = rm) ∨ rm.Refreshes chunkID r ∧ ∃ d,
        rm.readRepair now chunkID r = (rm.replicateEach now chunkID d 0 (rm.staleNodes chunkID), none) := by
  rw [Refreshes]
  unfold readRepair
  split_ifs with h
  · left
    refine ⟨?_, rfl⟩
    rintro ⟨he, hs, -⟩
    rcases h with h | h
    · simp [he] at h
    · exact hs (List.isEmpty_iff.mp h)
  · simp only [Bool.not_eq_true', List.isEmpty_iff, not_or, Bool.not_eq_false] at h
    cases r with
    | error err => exact .inl ⟨fun hr => absurd hr.2.2 Bool.false_ne_true, rfl⟩
    | ok d => exact .inr ⟨⟨h.1, h.2, rfl⟩, d, rfl⟩

structure Sound (rm : ReplicationManager) : Prop where
  distinct : ∀ chunkID, (rm.nodes chunkID).Nodup
  counted : ∀ chunkID, (rm.checkReplicationHealth chunkID).2 ≤ (rm.nodes chunkID).toFinset.card

lemma sound_iff : rm.Sound ↔ ∀ chunkID, (rm.nodes chunkID).Nodup := by
  refine ⟨Sound.distinct, ?_⟩
  intro h
  refine ⟨h, ?_⟩
  intro chunkID
  rw [List.toFinset_card_of_nodup (h chunkID), nodes, List.length_map]
  exact List.length_filter_le _ _

variable {rm' : ReplicationManager}

lemma Sound.of_nodes (h : rm.Sound) (hn : ∀ c, rm'.nodes c = rm.nodes c) : rm'.Sound := by
  rw [sound_iff]
  intro c
  rw [hn]
  exact h.distinct c

lemma Sound.iff_of_nodes (h : rm.Sound) {l : List String}
    (hn : ∀ c, rm'.nodes c = if c = chunkID then l else rm.nodes c) : rm'.Sound ↔ l.Nodup := by
  rw [sound_iff]
  constructor
  · intro ha
    have hc := ha chunkID
    rwa [hn, if_pos rfl] at hc
  · intro hl c
    rw [hn]
    split_ifs
    · exact hl
    · exact h.distinct c

lemma Sound.replicateToNode_iff (h : rm.Sound) {now : ℕ → Time} {chunkID : String} {d : Bytes} {nodeID : String} :
    (rm.replicateToNode now chunkID d nodeID).Sound ↔ nodeID ∉ rm.nodes chunkID := by
  rw [h.iff_of_nodes nodes_replicateToNode, List.nodup_append_comm, List.singleton_append,
    List.nodup_cons]
  exact and_iff_left (h.distinct chunkID)

lemma Sound.removeReplica (h : rm.Sound) (chunkID nodeID : String) : (rm.removeReplica chunkID nodeID).Sound := by
  rw [h.iff_of_nodes nodes_removeReplica]
  exact (h.distinct chunkID).filter _

lemma Sound.repairReplica_iff (h : rm.Sound) (now : ℕ → Time) (chunkID targetNodeID : String) (r : Except Err Bytes) :
    (rm.repairReplica now chunkID targetNodeID r).1.Sound ↔
      (rm.Repairs chunkID r → targetNodeID ∉ rm.nodes chunkID) := by
  rcases repairReplica_cases rm with ⟨hnot, err, he⟩ | ⟨hre, d, he⟩
  · rw [he]
    exact ⟨fun _ hr => absurd hr hnot, fun _ => h⟩
  · rw [he, h.replicateToNode_iff]
    exact ⟨fun hn _ => hn, fun hn => hn hre⟩

lemma Sound.readRepair_iff (h : rm.Sound) {now : ℕ → ℕ → Time} {read : Except Err Bytes} :
    (rm.readRepair now chunkID read).1.Sound ↔ ¬rm.Refreshes chunkID read := by
  rcases readRepair_cases now chunkID read rm with ⟨hnot, heq⟩ | ⟨hr, data, heq⟩
  · rw [heq]
    exact iff_of_true h hnot
  · rw [heq, h.iff_of_nodes (nodes_replicateEach now chunkID data _ rm)]
    refine iff_of_false ?_ (not_not.mpr hr)
    intro hno
    obtain ⟨nodeID, hs⟩ := List.exists_mem_of_ne_nil _ hr.2.1
    have hsub : rm.staleNodes chunkID ⊆ rm.nodes chunkID := List.map_subset _ (List.filter_subset_self _)
    exact (List.nodup_append'.mp hno).2.2 (hsub hs) hs

def Replicates (targetNodes : List String) (read : Except Err Bytes) (rm : ReplicationManager) : Prop :=
  read.toOption.isSome ∧ rm.config.replicationFactor ≤ targetNodes.length

instance (targetNodes : List String) (read : Except Err Bytes) (rm : ReplicationManager) :
    Decidable (rm.Replicates targetNodes read) :=
  inferInstanceAs (Decidable (_ ∧ _))

def targets (targetNodes : List String) (rm : ReplicationManager) : List String :=
  targetNodes.take rm.config.replicationFactor

lemma replicateChunk_cases (chunkID : String) (tn : List String) (r : Except Err Bytes) (rm : ReplicationManager) :
    (¬rm.Replicates tn r ∧ (rm.replicateChunk env chunkID tn r).1 = rm) ∨
      rm.Replicates tn r ∧ ∃ d, (rm.replicateChunk env chunkID tn r).1 =
        rm.replicateToNodes env chunkID d (rm.targets tn) := by
  rw [Replicates]
  unfold replicateChunk
  cases r with
  | error err => exact .inl ⟨fun h => absurd h.1 Bool.false_ne_true, rfl⟩
  | ok d =>
    dsimp only
    split_ifs with hf
    · exact .inl ⟨fun h => absurd h.2 (not_le.mpr hf), rfl⟩
    all_goals exact .inr ⟨⟨rfl, not_lt.mp hf⟩, d, rfl⟩

lemma replicateChunk_of_not_replicates (chunkID : String) (tn : List String) (r : Except Err Bytes)
    (rm : ReplicationManager) (h : ¬rm.Replicates tn r) : (rm.replicateChunk env chunkID tn r).2 ≠ none := by
  unfold replicateChunk
  cases r with
  | error err => exact Option.some_ne_none _
  | ok d =>
    have hf : tn.length < rm.config.replicationFactor := not_le.mp fun hl => h ⟨rfl, hl⟩
    dsimp only
    rw [if_pos hf]
    exact Option.some_ne_none _

lemma config_replicateChunk (chunkID : String) (tn : List String) (r : Except Err Bytes)
    (rm : ReplicationManager) : (rm.replicateChunk env chunkID tn r).1.config = rm.config := by
  rcases replicateChunk_cases env chunkID tn r rm with ⟨-, he⟩ | ⟨-, d, he⟩
  · rw [he]
  · rw [he, replicateToNodes]
    split_ifs <;> rfl

lemma map_newReplicas (chunkID : String) (data : Bytes) (targetNodes : List String) :
    (targetNodes.mapIdx fun i nodeID => newReplica (now i) chunkID data nodeID).map Replica.nodeID = targetNodes := by
  apply List.ext_getElem
  · simp
  · intro i _ _
    simp [newReplica]

variable {tn : List String}

lemma Sound.replicateToNodes (h : rm.Sound) (env : ReplicateEnv) (chunkID : String)
    (d : Bytes) (hn : (rm.nodes chunkID ++ tn).Nodup) : (rm.replicateToNodes env chunkID d tn).Sound := by
  rw [ReplicationManager.replicateToNodes]
  split_ifs
  · exact h
  · rw [h.iff_of_nodes nodes_setReplicas]
    apply appendAll_nodup
    rwa [List.map_append, map_newReplicas]

lemma getReplicas_replicateToNodes {env : ReplicateEnv} (h : env.schedule = []) (chunkID : String) (d : Bytes)
    (tn : List String) (rm : ReplicationManager) :
    (rm.replicateToNodes env chunkID d tn).getReplicas chunkID = rm.getReplicas chunkID ++
      tn.mapIdx fun i nodeID => newReplica (env.now i) chunkID d nodeID := by
  rw [replicateToNodes, h]
  split_ifs with he
  · rw [List.isEmpty_iff.mp he, List.mapIdx_nil, List.append_nil]
  · rw [getReplicas_setReplicas, if_pos rfl, appendAll_nil]

lemma Sound.replicateToNodes_iff (h : rm.Sound) {now : ℕ → ℕ → Time} :
    (rm.replicateToNodes ⟨now, []⟩ chunkID d tn).Sound ↔ (rm.nodes chunkID ++ tn).Nodup := by
  rw [ReplicationManager.replicateToNodes]
  split_ifs with he
  · rw [List.isEmpty_iff.mp he, List.append_nil]
    exact iff_of_true h (h.distinct chunkID)
  · rw [h.iff_of_nodes nodes_setReplicas, appendAll_nil, List.map_append, map_newReplicas]
    rfl

inductive Op
  | replicateChunk (env : ReplicateEnv) (chunkID : String) (targetNodes : List String) (read : Except Err Bytes)
  | repairReplica (now : ℕ → Time) (chunkID targetNodeID : String) (read : Except Err Bytes)
  | readRepair (now : ℕ → ℕ → Time) (chunkID : String) (read : Except Err Bytes)
  | updateReplicaHealth (now : Time) (chunkID nodeID : String) (status : ReplicaStatus)
  | verifyReplica (now : Time) (chunkID nodeID : String)
  | removeReplica (chunkID nodeID : String)
  | executeRepairTask (now : ℕ → Time) (task : RepairTask) (read : Except Err Bytes)

def step (rm : ReplicationManager) : Op → ReplicationManager
  | .replicateChunk env chunkID targetNodes read => (rm.replicateChunk env chunkID targetNodes read).1
  | .repairReplica now chunkID targetNodeID read => (rm.repairReplica now chunkID targetNodeID read).1
  | .readRepair now chunkID read => (rm.readRepair now chunkID read).1
  | .updateReplicaHealth now chunkID nodeID status => rm.updateReplicaHealth now chunkID nodeID status
  | .verifyReplica now chunkID nodeID => rm.verifyReplica now chunkID nodeID
  | .removeReplica chunkID nodeID => rm.removeReplica chunkID nodeID
  | .executeRepairTask now task read => (rm.executeRepairTask now task read).1

/-- A replica is only added on a node that has none: a repair is aimed at a node that is not listed, the targets of a
replication are distinct and not listed, and no stale replica is refreshed on a read. -/
def AddsNew (rm : ReplicationManager) : Op → Prop
  | .replicateChunk _ chunkID targetNodes read =>
    rm.Replicates targetNodes read → (rm.nodes chunkID ++ rm.targets targetNodes).Nodup
  | .repairReplica _ chunkID targetNodeID read => rm.Repairs chunkID read → targetNodeID ∉ rm.nodes chunkID
  | .readRepair _ chunkID read => ¬rm.Refreshes chunkID read
  | .executeRepairTask _ ⟨chunkID, .missing, targetNodeID⟩ read =>
    rm.Repairs chunkID read → (if targetNodeID = "" then "new-node" else targetNodeID) ∉ rm.nodes chunkID
  | .executeRepairTask _ ⟨chunkID, .stale, targetNodeID⟩ read =>
    rm.Repairs chunkID read → targetNodeID ∉ rm.nodes chunkID
  | _ => True

instance (rm : ReplicationManager) : ∀ op, Decidable (rm.AddsNew op)
  | .replicateChunk .. | .repairReplica .. => inferInstanceAs (Decidable (_ → _))
  | .readRepair .. => inferInstanceAs (Decidable (¬_))
  | .executeRepairTask _ ⟨_, .missing, _⟩ _ | .executeRepairTask _ ⟨_, .stale, _⟩ _ =>
    inferInstanceAs (Decidable (_ → _))
  | .executeRepairTask _ ⟨_, .corrupted, _⟩ _ | .executeRepairTask _ ⟨_, .other _, _⟩ _ => isTrue trivial
  | .updateReplicaHealth .. | .verifyReplica .. | .removeReplica .. => isTrue trivial

def Orderly : Op → Prop
  | .replicateChunk env _ _ _ => env.schedule = []
  | _ => True

lemma Sound.executeRepairTask_iff (h : rm.Sound) {now : ℕ → Time} {t : RepairTask} {r : Except Err Bytes} :
    (rm.executeRepairTask now t r).1.Sound ↔ rm.AddsNew (.executeRepairTask now t r) := by
  obtain ⟨chunkID, ty, targetNodeID⟩ := t
  cases ty with
  | missing => exact h.repairReplica_iff now chunkID _ r
  | corrupted =>
    refine iff_of_true ?_ trivial
    apply ((h.removeReplica chunkID targetNodeID).repairReplica_iff now chunkID targetNodeID r).mpr
    intro _ hm
    rw [nodes_removeReplica, if_pos rfl] at hm
    exact of_decide_eq_true (List.mem_filter.mp hm).2 rfl
  | stale =>
    have hu : ∀ rm' : ReplicationManager,
        (rm'.updateReplicaHealth (now 3) chunkID targetNodeID .healthy).Sound ↔ rm'.Sound := by
      intro rm'
      rw [sound_iff, sound_iff]
      exact forall_congr' fun c => by rw [nodes_updateReplicaHealth]
    have hr := h.repairReplica_iff now chunkID targetNodeID r
    rcases repairReplica_cases rm with ⟨-, err, he⟩ | ⟨-, d, he⟩
    · rw [executeRepairTask, he]
      rwa [he] at hr
    · rw [executeRepairTask, he]
      rw [he] at hr
      exact (hu _).trans hr
  | other ty => exact iff_of_true h trivial

lemma Sound.step (h : rm.Sound) {op : Op} (ho : rm.AddsNew op) : (rm.step op).Sound := by
  cases op with
  | replicateChunk env chunkID tn r =>
    rcases replicateChunk_cases env chunkID tn r rm with ⟨-, he⟩ | ⟨hr, d, he⟩
    · rwa [ReplicationManager.step, he]
    · rw [ReplicationManager.step, he]
      exact h.replicateToNodes env chunkID d (ho hr)
  | repairReplica now chunkID targetNodeID r => exact (h.repairReplica_iff now chunkID targetNodeID r).mpr ho
  | readRepair now chunkID r => exact (h.readRepair_iff).mpr ho
  | updateReplicaHealth now chunkID nodeID ss => exact h.of_nodes nodes_updateReplicaHealth
  | verifyReplica now chunkID nodeID => exact h.of_nodes nodes_verifyReplica
  | removeReplica chunkID nodeID => exact h.removeReplica chunkID nodeID
  | executeRepairTask now t r => exact (h.executeRepairTask_iff).mpr ho

lemma Sound.addsNew_of_step (h : rm.Sound) {op : Op} (ho : Orderly op) (hs : (rm.step op).Sound) : rm.AddsNew op := by
  cases op with
  | replicateChunk env chunkID targetNodes read =>
    intro hr
    obtain ⟨now, schedule⟩ := env
    cases ho
    rcases replicateChunk_cases ⟨now, []⟩ chunkID targetNodes read rm with ⟨hnot, -⟩ | ⟨-, data, heq⟩
    · exact absurd hr hnot
    · rw [ReplicationManager.step, heq] at hs
      exact (h.replicateToNodes_iff).mp hs
  | repairReplica now chunkID targetNodeID read => exact (h.repairReplica_iff now chunkID targetNodeID read).mp hs
  | readRepair now chunkID read => exact (h.readRepair_iff).mp hs
  | updateReplicaHealth | verifyReplica | removeReplica => trivial
  | executeRepairTask now task read => exact (h.executeRepairTask_iff).mp hs

theorem replica_integrity_of_addsNew (config : StorageConfig) (enableReadRepair : Bool) (ops : List Op) :
    (Admissible step AddsNew (newReplicationManager config enableReadRepair) ops →
      ∀ n, (run step (newReplicationManager config enableReadRepair) (ops.take n)).Sound) ∧
    ((∀ op ∈ ops, Orderly op) → (∀ n, (run step (newReplicationManager config enableReadRepair) (ops.take n)).Sound) →
        Admissible step AddsNew (newReplicationManager config enableReadRepair) ops) := by
  have hnew : (newReplicationManager config enableReadRepair).Sound := sound_iff.mpr fun _ => List.nodup_nil
  constructor
  · intro hops n
    rw [← List.take_append_drop n ops, admissible_append] at hops
    exact run_invariant Sound (fun _ _ h hop => h.step hop) _ hnew hops.1
  · intro ho ha
    exact (property_take_iff Sound Sound (fun _ h => h) (fun _ _ h _ hop => h.step hop)
      (fun _ _ h hop hs => h.addsNew_of_step hop hs) ops hnew (admissible_of_forall Orderly ops ho _)).mp ha

theorem replica_integrity_small : ∀ n, (run step (newReplicationManager defaultStorageConfig true)
      ([.replicateChunk ⟨fun _ _ => 0, [0, 1, 1, 0]⟩ "chunk" ["node-1", "node-2", "node-3"] (.ok [7]),
        .updateReplicaHealth 1 "chunk" "node-1" .corrupted,
        .executeRepairTask (fun _ => 2) ⟨"chunk", .corrupted, "node-1"⟩ (.ok [7]),
        .repairReplica (fun _ => 3) "chunk" "node-2" (.ok [7])].take n)).Sound :=
  (replica_integrity_of_addsNew defaultStorageConfig true _).1 (by decide +kernel)

theorem repairs_list_nodes_twice :
    let start := run step (newReplicationManager defaultStorageConfig true)
      [.replicateChunk ⟨fun _ _ => 0, []⟩ "chunk" ["node-1", "node-2", "node-3"] (.ok [7])]
    let repaired := run step start [.repairReplica (fun _ => 1) "chunk" "node-1" (.ok [7])]
    let refreshed := run step start
      [.updateReplicaHealth 1 "chunk" "node-1" .stale, .readRepair (fun _ _ => 2) "chunk" (.ok [7])]
    let missing : Op := .executeRepairTask (fun _ => 1) ⟨"chunk", .missing, ""⟩ (.ok [7])
    start.nodes "chunk" = ["node-1", "node-2", "node-3"] ∧
    repaired.nodes "chunk" = ["node-1", "node-2", "node-3", "node-1"] ∧
    repaired.checkReplicationHealth "chunk" = (true, 4) ∧ (repaired.nodes "chunk").toFinset.card = 3 ∧
    refreshed.nodes "chunk" = ["node-1", "node-2", "node-3", "node-1"] ∧
    (run step start [missing, missing]).nodes "chunk" = ["node-1", "node-2", "node-3", "new-node", "new-node"] ∧
    (run step start [missing, missing]).checkReplicationHealth "chunk" = (true, 5) := by
  decide +kernel

def healthyNodes (chunkID : String) (rm : ReplicationManager) : Finset String :=
  ((rm.getHealthyReplicas chunkID).map Replica.nodeID).toFinset

lemma mem_healthyNodes {n : String} :
    n ∈ rm.healthyNodes chunkID ↔ ∃ r ∈ rm.getReplicas chunkID, r.status = .healthy ∧ r.nodeID = n := by
  simp [healthyNodes, getHealthyReplicas, and_assoc]

lemma healthyNodes_replicateToNode {now : ℕ → Time} {d : Bytes} :
    (rm.replicateToNode now chunkID d nodeID).healthyNodes chunkID = insert nodeID (rm.healthyNodes chunkID) := by
  ext n
  simp [mem_healthyNodes, replicateToNode, getReplicas_setReplicas, newReplica, or_and_right, exists_or, or_comm,
    eq_comm]

lemma healthyNodes_removeReplica :
    rm.healthyNodes chunkID ⊆ insert nodeID ((rm.removeReplica chunkID nodeID).healthyNodes chunkID) := by
  intro n hn
  obtain ⟨r, hr, hs, rfl⟩ := mem_healthyNodes.mp hn
  by_cases he : r.nodeID = nodeID
  · exact Finset.mem_insert.mpr (.inl he)
  · apply Finset.mem_insert_of_mem
    rw [mem_healthyNodes, getReplicas_removeReplica, if_pos rfl]
    exact ⟨r, List.mem_filter.mpr ⟨hr, decide_eq_true he⟩, hs, rfl⟩

lemma mem_modifyFirst {α : Type} {p : α → Bool} {f : α → α} {a : α} {as : List α} (h : a ∈ as) :
    a ∈ modifyFirst p f as ∨ f a ∈ modifyFirst p f as := by
  induction as with
  | nil => cases h
  | cons b as ih =>
    rw [modifyFirst]
    rcases List.mem_cons.mp h with rfl | h
    · split_ifs <;> simp
    · split_ifs
      · exact .inl (List.mem_cons_of_mem _ h)
      · exact (ih h).imp (List.mem_cons_of_mem _) (List.mem_cons_of_mem _)

lemma healthyNodes_updateReplicaHealth {now : Time} :
    rm.healthyNodes chunkID ⊆ (rm.updateReplicaHealth now chunkID nodeID .healthy).healthyNodes chunkID := by
  rw [updateReplicaHealth]
  cases hl : rm.replicas.lookup chunkID with
  | none => exact subset_rfl
  | some rs =>
    intro n hn
    obtain ⟨r, hr, hs, rfl⟩ := mem_healthyNodes.mp hn
    rw [getReplicas, hl] at hr
    rw [mem_healthyNodes, getReplicas_setReplicas, if_pos rfl]
    rcases mem_modifyFirst hr with hm | hm
    · exact ⟨r, hm, hs, rfl⟩
    · exact ⟨_, hm, rfl, rfl⟩

structure Harmless (chunkID : String) (rm : ReplicationManager) (result : ReplicationManager × Option Err) : Prop where
  kept : result.2 ≠ none → ∀ c, result.1.getReplicas c = rm.getReplicas c ∧
    (result.1.getHealthyReplicas c).length = (rm.getHealthyReplicas c).length
  healed : result.2 = none → (rm.healthyNodes chunkID).card ≤ (result.1.healthyNodes chunkID).card

lemma harmless_of_failure (h : ∀ c, rm'.getReplicas c = rm.getReplicas c) {err : Err} :
    Harmless chunkID rm (rm', some err) :=
  ⟨fun _ c => ⟨h c, by rw [getHealthyReplicas, h c, getHealthyReplicas]⟩, fun hn => nomatch hn⟩

lemma harmless_of_success (h : rm.healthyNodes chunkID ⊆ rm'.healthyNodes chunkID) :
    Harmless chunkID rm (rm', none) :=
  ⟨fun hn => absurd rfl hn, fun _ => Finset.card_le_card h⟩

lemma harmless_repairReplica {now : ℕ → Time} {r : Except Err Bytes} {t : String} :
    Harmless chunkID rm (wrapError t (rm.repairReplica now chunkID targetNodeID r)) := by
  rcases repairReplica_cases rm with ⟨-, err, he⟩ | ⟨-, d, he⟩
  · rw [he]
    exact harmless_of_failure (fun _ => rfl)
  · rw [he]
    apply harmless_of_success
    rw [healthyNodes_replicateToNode]
    exact Finset.subset_insert _ _

lemma harmless_corrupted_iff {now : ℕ → Time} {re : Except Err Bytes} {t : String} : Harmless chunkID rm
        (wrapError t ((rm.removeReplica chunkID targetNodeID).repairReplica now chunkID targetNodeID re)) ↔
      (targetNodeID ∈ rm.nodes chunkID → (rm.removeReplica chunkID targetNodeID).Repairs chunkID re) := by
  rcases repairReplica_cases (rm.removeReplica chunkID targetNodeID) with
    ⟨hnot, err, he⟩ | ⟨hre, data, he⟩
  · rw [he]
    constructor
    · intro h hm
      have hk : (rm.removeReplica chunkID targetNodeID).nodes chunkID = rm.nodes chunkID :=
        congrArg (List.map Replica.nodeID) (h.kept (Option.some_ne_none _) chunkID).1
      rw [nodes_removeReplica, if_pos rfl] at hk
      rw [← hk] at hm
      exact absurd rfl (of_decide_eq_true (List.mem_filter.mp hm).2)
    · intro h
      have hm : targetNodeID ∉ rm.nodes chunkID := fun hm => hnot (h hm)
      apply harmless_of_failure
      intro c
      rw [getReplicas_removeReplica]
      split_ifs with hc
      · rw [hc, List.filter_eq_self]
        intro r hr
        exact decide_eq_true fun hn => hm (hn ▸ List.mem_map_of_mem hr)
      · rfl
  · rw [he]
    refine iff_of_true (harmless_of_success ?_) fun _ => hre
    rw [healthyNodes_replicateToNode]
    exact healthyNodes_removeReplica

theorem repair_harmless_iff {now : ℕ → Time} {task : RepairTask} {read : Except Err Bytes} {rm : ReplicationManager} :
    Harmless task.chunkID rm (rm.executeRepairTask now task read) ↔
      (task.type = .corrupted → task.targetNodeID ∈ rm.nodes task.chunkID →
        (rm.removeReplica task.chunkID task.targetNodeID).Repairs task.chunkID read) := by
  obtain ⟨chunkID, type, targetNodeID⟩ := task
  cases type with
  | missing => exact iff_of_true harmless_repairReplica fun h => nomatch h
  | corrupted => exact (harmless_corrupted_iff).trans ⟨fun h _ => h, fun h => h rfl⟩
  | stale =>
    refine iff_of_true ?_ fun h => nomatch h
    rw [executeRepairTask]
    rcases repairReplica_cases rm with ⟨-, err, he⟩ | ⟨-, d, he⟩
    · rw [he]
      exact harmless_of_failure (fun _ => rfl)
    · rw [he]
      apply harmless_of_success
      refine subset_trans ?_ healthyNodes_updateReplicaHealth
      rw [healthyNodes_replicateToNode]
      exact Finset.subset_insert _ _
  | other type => exact iff_of_true (harmless_of_failure (fun _ => rfl)) fun h => nomatch h

/-- The only healthy replica is taken for corrupted: it is removed before a source to copy from is looked for. -/
theorem repair_loses_replica :
    let rm := run step (newReplicationManager { defaultStorageConfig with replicationFactor := 1 } true)
      [.replicateChunk ⟨fun _ _ => 0, []⟩ "chunk" ["node-1"] (.ok [7])]
    let result := rm.executeRepairTask (fun _ => 1) ⟨"chunk", .corrupted, "node-1"⟩ (.ok [7])
    rm.nodes "chunk" = ["node-1"] ∧ rm.healthyNodes "chunk" = {"node-1"} ∧
    result.2 = some (.wrap "failed to create replacement replica: " (.wrap "no healthy replica to copy from: "
      (.msg "no healthy replicas available for chunk: chunk"))) ∧
    result.1.nodes "chunk" = [] ∧ ¬Harmless "chunk" rm result := by
  refine ⟨by decide +kernel, by decide +kernel, by decide +kernel, by decide +kernel, ?_⟩
  intro h
  exact absurd (h.kept (by decide +kernel) "chunk").1 (by decide +kernel)

structure ReplicateCall where
  now : ℕ → ℕ → Time
  targetNodes : List String
  read : Except Err Bytes

def started (chunkID : String) (rm : ReplicationManager) (c : ReplicateCall) : List Replica :=
  match c.read with
  | .error _ => []
  | .ok data =>
    if c.targetNodes.length < rm.config.replicationFactor then []
    else (rm.targets c.targetNodes).mapIdx fun i nodeID => newReplica (c.now i) chunkID data nodeID

def Acknowledged (chunkID : String) (rm : ReplicationManager) (c : ReplicateCall) : Prop :=
  (rm.replicateChunk ⟨c.now, []⟩ chunkID c.targetNodes c.read).2 = none

def goroutines (chunkID : String) (calls : List ReplicateCall) (rm : ReplicationManager) : List (ℕ × Replica) :=
  calls.zipIdx.flatMap fun (c, k) => (rm.started chunkID c).map (Prod.mk k)

def replicating (chunkID : String) (calls : List ReplicateCall) (schedule : List ℕ) (rm : ReplicationManager) :
    Pool ℕ (List Replica) (Appending Replica) :=
  run (Pool.advance (append ((rm.goroutines chunkID calls).map Prod.snd))) ⟨rm.getReplicas chunkID, fun _ => .ready⟩
    schedule

def Returned (chunkID : String) (calls : List ReplicateCall) (schedule : List ℕ) (k : ℕ) (rm : ReplicationManager) :
    Prop :=
  ∀ i replica, (rm.goroutines chunkID calls)[i]? = some (k, replica) →
    (rm.replicating chunkID calls schedule).locals i = .done

lemma mem_goroutines {cs : List ReplicateCall} {k : ℕ} {r : Replica} :
    (k, r) ∈ rm.goroutines chunkID cs ↔ ∃ c, cs[k]? = some c ∧ r ∈ rm.started chunkID c := by
  simp [goroutines, List.mem_zipIdx_iff_getElem?]

lemma exists_started {c : ReplicateCall} (h : rm.Acknowledged chunkID c) : ∃ r, r ∈ rm.started chunkID c := by
  obtain ⟨now, tn, re⟩ := c
  simp only [Acknowledged, replicateChunk] at h
  cases re with
  | error err => cases h
  | ok d =>
    dsimp only at h
    split_ifs at h with hf hq
    have hp : 0 < getWriteQuorum rm.config := by
      rw [getWriteQuorum]
      split_ifs <;> omega
    apply List.exists_mem_of_length_pos
    simp only [started, if_neg hf, List.length_mapIdx, targets]
    omega

theorem replication_recorded_iff (chunkID : String) (calls : List ReplicateCall) (rm : ReplicationManager) :
    (∀ schedule k c, calls[k]? = some c → rm.Acknowledged chunkID c → rm.Returned chunkID calls schedule k →
        getWriteQuorum rm.config ≤
          ((rm.setReplicas chunkID (rm.replicating chunkID calls schedule).shared).nodes chunkID).toFinset.card) ↔
      ((∃ c ∈ calls, rm.Acknowledged chunkID c) → ∀ k replica, (k, replica) ∈ rm.goroutines chunkID calls →
        getWriteQuorum rm.config ≤ (insert replica.nodeID (rm.nodes chunkID).toFinset).card) := by
  simp only [nodes_setReplicas, if_true]
  constructor
  · rintro hall ⟨c, hc, hack⟩ k replica hm
    obtain ⟨i, hi, hget⟩ := List.mem_iff_getElem.mp (List.mem_map_of_mem (f := Prod.snd) hm)
    obtain ⟨k', hk'⟩ := List.getElem?_of_mem hc
    obtain ⟨schedule, p, hrun, hs, hdone⟩ := appends_overwritten hi (rm.getReplicas chunkID)
    have hq := hall schedule k' c hk' hack fun j r hj => by
      rw [replicating, hrun]
      exact hdone j (by simpa using (List.getElem?_eq_some_iff.mp hj).1)
    rw [replicating, hrun, hs, hget, List.map_append, List.toFinset_append, Finset.union_comm] at hq
    exact hq
  · intro hall schedule k c hk hack hr
    obtain ⟨replica, hm⟩ := exists_started hack
    obtain ⟨i, hi⟩ := List.getElem?_of_mem (mem_goroutines.mpr ⟨c, hk, hm⟩)
    have ht := traced_run ((rm.goroutines chunkID calls).map Prod.snd) (rm.getReplicas chunkID) schedule
    obtain ⟨is, -, hl, -⟩ := ht.shared
    have hgr := ht.grown i (hr i replica hi)
    rw [hl, ne_eq, List.append_right_eq_self] at hgr
    obtain ⟨a, ha⟩ := List.exists_mem_of_ne_nil _ hgr
    obtain ⟨j, -, hj⟩ := List.mem_filterMap.mp ha
    obtain ⟨⟨k', r⟩, hg, rfl⟩ := List.mem_map.mp (List.mem_of_getElem? hj)
    refine (hall ⟨c, List.mem_of_getElem? hk, hack⟩ k' r hg).trans (Finset.card_le_card ?_)
    rw [replicating, hl, List.map_append, List.toFinset_append]
    refine Finset.insert_subset ?_ Finset.subset_union_left
    exact Finset.mem_union_right _ (List.mem_toFinset.mpr (List.mem_map_of_mem ha))

theorem acknowledged_replicas_lost : let rm := newReplicationManager defaultStorageConfig true
    let call : ReplicateCall := ⟨fun _ _ => 0, ["node-1", "node-2", "node-3"], .ok [7]⟩
    let p := rm.replicating "chunk" [call] [0, 1, 2, 0, 1, 2]
    rm.Acknowledged "chunk" call ∧ rm.Returned "chunk" [call] [0, 1, 2, 0, 1, 2] 0 ∧ getWriteQuorum rm.config = 2 ∧
      (rm.setReplicas "chunk" p.shared).nodes "chunk" = ["node-3"] := by
  refine ⟨by rfl, ?_, by rfl, by decide +kernel⟩
  intro i r hi
  match i with
  | 0 | 1 | 2 => rfl
  | i + 3 => cases hi

end ReplicationManager

end Cloudless.Storage
