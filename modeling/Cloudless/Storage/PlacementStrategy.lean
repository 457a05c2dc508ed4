import Cloudless.Foundations.MapLoops
import Cloudless.Foundations.Spreading
import Cloudless.Storage.Types

namespace Cloudless.Storage

open Foundations FiniteMaps GoStd MapLoops Spreading

inductive IOPSClass
  | high
  | medium
  | low
  | other (name : String)
  deriving DecidableEq

inductive NodeState
  | healthy
  | degraded
  | unavailable
  | draining
  deriving DecidableEq

structure StorageNode where
  (id zone : String)
  (capacity used available : Int64)
  iopsClass : IOPSClass
  state : NodeState
  lastUpdated : Time
  deriving DecidableEq

structure PlacementRequest where
  storageClass : StorageClass
  iopsClass : IOPSClass
  replicaCount : ℕ
  size : Int64
  preferredZone : String
  excludeNodes : List String

structure SelectEnv where
  order : MapOrder
  rank : PlacementRequest → List StorageNode → List StorageNode
  rank_perm : ∀ req nodes, (rank req nodes).Perm nodes

structure ClusterCapacity where
  (totalNodes healthyNodes highIOPSNodes mediumIOPSNodes lowIOPSNodes : ℕ)
  (totalCapacity totalUsed totalAvailable highIOPSCapacity mediumIOPSCapacity lowIOPSCapacity : Int64)
  zoneCapacity : FMap String Int64
  lastUpdated : Time

structure PlacementStrategy where
  nodes : FMap String StorageNode

namespace PlacementStrategy

def newPlacementStrategy : PlacementStrategy := ⟨∅⟩

variable (node : StorageNode)

def registerNode (ps : PlacementStrategy) : PlacementStrategy :=
  ⟨ps.nodes.insert node.id node⟩

def unregisterNode (nodeID : String) (ps : PlacementStrategy) : PlacementStrategy := ⟨ps.nodes.erase nodeID⟩

def updateNodeCapacity (now : Time) (nodeID : String) (used capacity : Int64) (ps : PlacementStrategy) :
    PlacementStrategy × Except Err Unit :=
  match ps.nodes.lookup nodeID with
  | none => (ps, .error (.msg ("node not found: " ++ nodeID)))
  | some node =>
    let node := { node with used := used, capacity := capacity, available := capacity - used, lastUpdated := now }
    (⟨ps.nodes.insert nodeID node⟩, .ok ())

def isNodeCompatible : StorageClass → Bool
  | .hot => node.iopsClass = .high ∨ node.iopsClass = .medium
  | _ => true

def isEligible (req : PlacementRequest) (node : StorageNode) : Bool :=
  node.state = .healthy ∧ ¬node.available < req.size ∧
    ¬(req.storageClass ≠ .ephemeral ∧ req.iopsClass ≠ .other "" ∧ node.iopsClass ≠ req.iopsClass) ∧
    isNodeCompatible node req.storageClass ∧ node.id ∉ req.excludeNodes

variable (env : SelectEnv)

def getEligibleNodes (req : PlacementRequest) (ps : PlacementStrategy) : List StorageNode :=
  ((env.order.entries ps.nodes).map Prod.snd).filter (isEligible req)

def selectFromZones (count : ℕ) : List StorageNode → List String → Finset String → List String
  | [], selected, _ => selected
  | node :: nodes, selected, usedZones =>
    if count ≤ selected.length then selected
    else if node.zone ∉ usedZones ∨ count ≤ usedZones.card then
      selectFromZones count nodes (selected ++ [node.id]) (insert node.zone usedZones)
    else selectFromZones count nodes selected usedZones

def fillSlots (count : ℕ) : List StorageNode → List String → List String
  | [], selected => selected
  | node :: nodes, selected =>
    if count ≤ selected.length then selected
    else if node.id ∈ selected then fillSlots count nodes selected
    else fillSlots count nodes (selected ++ [node.id])

def selectBestNodes (eligible : List StorageNode) (req : PlacementRequest) : Except Err (List String) :=
  let scored := env.rank req eligible
  let selected := fillSlots req.replicaCount scored (selectFromZones req.replicaCount scored [] ∅)
  if selected.length < req.replicaCount then
    .error (.msg ("could not select enough nodes: got " ++ toString selected.length ++ ", need " ++
      toString req.replicaCount))
  else .ok selected

def selectNodes (req : PlacementRequest) (ps : PlacementStrategy) : Except Err (List String) :=
  let eligibleNodes := ps.getEligibleNodes env req
  if eligibleNodes.length = 0 then .error (.msg "no eligible nodes available")
  else if eligibleNodes.length < req.replicaCount then
    .error (.msg ("insufficient nodes: need " ++ toString req.replicaCount ++ ", got " ++
      toString eligibleNodes.length))
  else selectBestNodes env eligibleNodes req

variable {ps : PlacementStrategy}

lemma selectNodes_of_empty (h : ps.nodes = ∅) (env : SelectEnv) (req : PlacementRequest) :
    ps.selectNodes env req = .error (.msg "no eligible nodes available") := by
  have he : env.order.entries ps.nodes = [] := by
    apply List.eq_nil_iff_forall_not_mem.mpr
    intro e hm
    have hl := (env.order.enumerates ps.nodes).mem.mp hm
    rw [h] at hl
    cases hl
  have hnone : ps.getEligibleNodes env req = [] := by
    rw [getEligibleNodes, he]
    rfl
  rw [selectNodes, hnone]
  rfl

inductive Call
  | registerNode (node : StorageNode)
  | unregisterNode (nodeID : String)
  | updateNodeCapacity (now : Time) (nodeID : String) (used capacity : Int64)

def call (ps : PlacementStrategy) : Call → PlacementStrategy
  | .registerNode node => ps.registerNode node
  | .unregisterNode nodeID => ps.unregisterNode nodeID
  | .updateNodeCapacity now nodeID used capacity => (ps.updateNodeCapacity now nodeID used capacity).1

def Keyed (ps : PlacementStrategy) : Prop := ∀ id node, ps.nodes.lookup id = some node → node.id = id

variable {n : StorageNode} {id : String}

lemma Keyed.insert (h : ps.Keyed) (hid : n.id = id) : Keyed ⟨ps.nodes.insert id n⟩ := by
  intro id' n' hl
  rw [lookup_insert_if] at hl
  split_ifs at hl with he
  · cases hl
    exact hid.trans he.symm
  · exact h id' n' hl

lemma Keyed.call (h : ps.Keyed) (c : Call) : (ps.call c).Keyed := by
  cases c with
  | registerNode n => exact h.insert rfl
  | unregisterNode ni =>
    intro id n hl
    rw [PlacementStrategy.call, unregisterNode, lookup_erase_if] at hl
    split_ifs at hl
    exact h id n hl
  | updateNodeCapacity now ni u ca =>
    rw [PlacementStrategy.call, updateNodeCapacity]
    split
    · exact h
    · next n hl => exact h.insert (h ni n hl)

lemma keyed_run (cs : List Call) : (cs.foldl call newPlacementStrategy).Keyed := by
  induction cs using List.reverseRecOn with
  | nil => exact fun id n h => by cases h
  | append_singleton cs c ih =>
    rw [List.foldl_append]
    exact ih.call c

lemma Keyed.nodup_eligible (h : ps.Keyed) (env : SelectEnv) (req : PlacementRequest) :
    ((ps.getEligibleNodes env req).map StorageNode.id).Nodup := by
  have he := env.order.enumerates ps.nodes
  have hids : ((env.order.entries ps.nodes).map Prod.snd).map StorageNode.id =
      (env.order.entries ps.nodes).map Prod.fst := by
    rw [List.map_map]
    apply List.map_congr_left
    intro e hm
    exact h _ _ (he.mem.mp hm)
  refine List.Nodup.sublist (List.filter_sublist.map _) ?_
  rw [hids]
  exact he.1

lemma fillSlots_eq {count : ℕ} {nodes : List StorageNode} {selected : List String} :
    fillSlots count nodes selected = fill StorageNode.id count selected nodes := by
  induction nodes generalizing selected with
  | nil => rfl
  | cons node nodes ih => simp only [fillSlots, fill, ih]

lemma selectFromZones_eq {c : ℕ} (ns : List StorageNode) {s : List String} {u : Finset String}
    (hu : u.card ≤ s.length) (hcou : s.length ≤ c) :
    ∃ b, selectFromZones c ns s u = s ++ b.map StorageNode.id ∧ b ⊆ ns ∧
      (b.map StorageNode.zone).Nodup ∧ (∀ n ∈ b, n.zone ∉ u) ∧ s.length + b.length ≤ c ∧
      (s.length + b.length < c → ∀ n ∈ ns, n.zone ∈ u ∨ n.zone ∈ b.map StorageNode.zone) := by
  induction ns generalizing s u with
  | nil => exact ⟨[], by simp [selectFromZones, hcou]⟩
  | cons no ns ih =>
    rw [selectFromZones]
    by_cases hf : c ≤ s.length
    · exact ⟨[], by simp [hf, hcou]⟩
    · rw [if_neg hf]
      by_cases hzone : no.zone ∈ u
      · obtain ⟨b, he, hs, hno, hnew, hl, hco⟩ := ih hu hcou
        rw [if_neg (by simp [hzone]; omega)]
        refine ⟨b, he, List.subset_cons_of_subset _ hs, hno, hnew, hl, fun hlt => ?_⟩
        exact List.forall_mem_cons.mpr ⟨.inl hzone, hco hlt⟩
      · have hcard : (insert no.zone u).card ≤ (s ++ [no.id]).length := by
          simpa [Finset.card_insert_of_notMem hzone] using hu
        obtain ⟨b, he, hs, hno, hnew, hl, hco⟩ := ih hcard (by simp; omega)
        simp only [Finset.mem_insert, not_or, List.length_append, List.length_singleton] at hnew hl hco
        rw [if_pos (.inl hzone), he]
        refine ⟨no :: b, by simp, List.cons_subset_cons _ hs, ?_, ?_, by simp; omega, fun hlt => ?_⟩
        · rw [List.map_cons, List.nodup_cons]
          refine ⟨fun hm => ?_, hno⟩
          obtain ⟨n, hn, hz⟩ := List.mem_map.mp hm
          exact (hnew n hn).1 hz
        · exact List.forall_mem_cons.mpr ⟨hzone, fun n hn => (hnew n hn).2⟩
        · have hr := hco (by simp at hlt; omega)
          refine List.forall_mem_cons.mpr ⟨by simp, fun n hn => ?_⟩
          rcases hr n hn with (hz | hz) | hz
          · simp [hz]
          · exact .inl hz
          · exact .inr (List.mem_cons_of_mem _ hz)

lemma spread_selected (req : PlacementRequest) {e : List StorageNode} (hn : (e.map StorageNode.id).Nodup) :
    Spread StorageNode.id StorageNode.zone e req.replicaCount (fillSlots req.replicaCount (env.rank req e)
      (selectFromZones req.replicaCount (env.rank req e) [] ∅)) := by
  have hp := env.rank_perm req e
  obtain ⟨b, he, hs, hno, -, hl, hco⟩ :=
    @selectFromZones_eq req.replicaCount (env.rank req e) [] ∅ (le_refl _) (Nat.zero_le _)
  rw [he, fillSlots_eq]
  simp only [List.length_nil, zero_add, Finset.notMem_empty, false_or] at hl hco
  refine spread_fill hn (fun n hm => hp.mem_iff.mp (hs hm)) hno hl (fun hlt z hz => ?_) hp
  obtain ⟨n, hm, rfl⟩ := List.mem_map.mp hz
  exact hco hlt n (hp.mem_iff.mpr hm)

lemma Keyed.selectNodes_cases (h : ps.Keyed) (env : SelectEnv) (req : PlacementRequest) :
    let e := ps.getEligibleNodes env req
    (e = [] ∨ e.length < req.replicaCount) ∧ (∃ err, ps.selectNodes env req = .error err) ∨
      ¬(e = [] ∨ e.length < req.replicaCount) ∧
        ∃ ids, ps.selectNodes env req = .ok ids ∧ ids.length = req.replicaCount ∧
          Spread StorageNode.id StorageNode.zone e req.replicaCount ids := by
  intro e
  have hs := spread_selected env req (h.nodup_eligible env req)
  rw [selectNodes]
  by_cases hnone : e = []
  · rw [if_pos (List.length_eq_zero_iff.mpr hnone)]
    exact .inl ⟨.inl hnone, _, rfl⟩
  · rw [if_neg (mt List.length_eq_zero_iff.mp hnone)]
    by_cases hf : e.length < req.replicaCount
    · rw [if_pos hf]
      exact .inl ⟨.inr hf, _, rfl⟩
    · have hl := hs.length_eq.trans (min_eq_left (Nat.le_of_not_lt hf))
      rw [if_neg hf, selectBestNodes, if_neg (by rw [hl]; exact Nat.lt_irrefl _)]
      exact .inr ⟨by simp [hnone, hf], _, rfl, hl, hs⟩

theorem selection_spreads (calls : List Call) (env : SelectEnv) (req : PlacementRequest) :
    let ps := calls.foldl call newPlacementStrategy
    let eligible := ps.getEligibleNodes env req
    (eligible = [] ∨ eligible.length < req.replicaCount) ∧ (∃ err, ps.selectNodes env req = .error err) ∨
      ¬(eligible = [] ∨ eligible.length < req.replicaCount) ∧
        ∃ ids, ps.selectNodes env req = .ok ids ∧ ids.length = req.replicaCount ∧
          Spread StorageNode.id StorageNode.zone eligible req.replicaCount ids :=
  (keyed_run calls).selectNodes_cases env req

def countIOPS (c : ClusterCapacity) : ClusterCapacity :=
  match node.iopsClass with
  | .high => { c with highIOPSNodes := c.highIOPSNodes + 1, highIOPSCapacity := c.highIOPSCapacity + node.capacity }
  | .medium =>
    { c with mediumIOPSNodes := c.mediumIOPSNodes + 1, mediumIOPSCapacity := c.mediumIOPSCapacity + node.capacity }
  | .low => { c with lowIOPSNodes := c.lowIOPSNodes + 1, lowIOPSCapacity := c.lowIOPSCapacity + node.capacity }
  | .other _ => c

-- The map is made anew for every zone that is not in it.
def countZone (zones : FMap String Int64) (node : StorageNode) : FMap String Int64 :=
  let zones := if (zones.lookup node.zone).isNone then ∅ else zones
  zones.insert node.zone ((zones.lookup node.zone).getD 0 + node.capacity)

def countNode (c : ClusterCapacity) (node : StorageNode) : ClusterCapacity :=
  { countIOPS node c with
    totalNodes := c.totalNodes + 1
    healthyNodes := if node.state = .healthy then c.healthyNodes + 1 else c.healthyNodes
    totalCapacity := c.totalCapacity + node.capacity
    totalUsed := c.totalUsed + node.used
    totalAvailable := c.totalAvailable + node.available
    zoneCapacity := countZone c.zoneCapacity node }

def getClusterCapacity (order : MapOrder) (now : Time) (ps : PlacementStrategy) : ClusterCapacity :=
  ((order.entries ps.nodes).map Prod.snd).foldl countNode ⟨0, 0, 0, 0, 0, 0, 0, 0, 0, 0, 0, ∅, now⟩

lemma toInt_totalCapacity (ns : List StorageNode) (c : ClusterCapacity) : (ns.foldl countNode c).totalCapacity.toInt =
      int64 (c.totalCapacity.toInt + (ns.map (·.capacity.toInt)).sum) := by
  induction ns generalizing c with
  | nil =>
    rw [List.map_nil, List.sum_nil, add_zero, int64_of_fits ⟨Int64.le_toInt _, Int64.toInt_lt _⟩]
    rfl
  | cons n ns ih =>
    rw [List.foldl_cons, ih, countNode, Int64.toInt_add, int64, Int.bmod_add_bmod, List.map_cons, List.sum_cons, add_assoc]
    rfl

lemma countZone_single (z : String) (n : Int64) (no : StorageNode) :
    countZone ((∅ : FMap String Int64).insert z n) no =
      (∅ : FMap String Int64).insert no.zone ((if no.zone = z then n else 0) + no.capacity) := by
  rw [countZone, lookup_insert_if]
  by_cases hz : no.zone = z
  · simp [hz, lookup_insert_if]
  · simp [hz]

lemma zoneCapacity_foldl (ns : List StorageNode) {c : ClusterCapacity} {z : String} {n : Int64}
    (hc : c.zoneCapacity = (∅ : FMap String Int64).insert z n) :
    ∃ z' n', (ns.foldl countNode c).zoneCapacity = (∅ : FMap String Int64).insert z' n' ∧
      ((∀ no ∈ ns, no.zone = z) → n = c.totalCapacity → z' = z ∧ n' = (ns.foldl countNode c).totalCapacity) := by
  induction ns generalizing c z n with
  | nil => exact ⟨z, n, hc, fun _ hn => ⟨rfl, hn⟩⟩
  | cons no ns ih =>
    obtain ⟨z', n', hf, hs⟩ :=
      @ih (countNode c no) no.zone _ (by rw [countNode, hc]; exact countZone_single z n no)
    refine ⟨z', n', hf, ?_⟩
    intro h hn
    obtain ⟨rfl, h⟩ := List.forall_mem_cons.mp h
    exact hs h (by rw [if_pos rfl, hn]; rfl)

theorem zone_capacity_iff (order : MapOrder) (now : Time) (ps : PlacementStrategy) :
    let nodes := (order.entries ps.nodes).map Prod.snd
    let capacity := ps.getClusterCapacity order now
    ((∀ node ∈ nodes, ∃ n, capacity.zoneCapacity.lookup node.zone = some n ∧
          n.toInt = ((nodes.filter (·.zone = node.zone)).map (·.capacity.toInt)).sum) ∧
        total (fun _ n => n.toInt) capacity.zoneCapacity = capacity.totalCapacity.toInt) ↔
      (∀ node ∈ nodes, ∀ node' ∈ nodes, node.zone = node'.zone) ∧ FitsInt64 (nodes.map (·.capacity.toInt)).sum := by
  intro nodes capacity
  have ht : capacity.totalCapacity.toInt = int64 (0 + _) := toInt_totalCapacity nodes _
  rw [zero_add] at ht
  cases hn : nodes with
  | nil =>
    have he : capacity = List.foldl countNode _ nodes := rfl
    rw [he, hn]
    simp [FitsInt64]
  | cons f rest =>
    obtain ⟨zone, n, hzo, hs⟩ : ∃ zone n, capacity.zoneCapacity = (∅ : FMap String Int64).insert zone n ∧
        ((∀ node ∈ rest, node.zone = f.zone) → _ → zone = f.zone ∧ n = capacity.totalCapacity) := by
      have hfold : capacity = List.foldl countNode _ nodes := rfl
      rw [hfold, hn]
      exact zoneCapacity_foldl rest rfl
    rw [hn] at ht
    rw [hzo]
    have ha : (∀ node ∈ f :: rest, node.zone = f.zone) →
        (f :: rest).filter (·.zone = f.zone) = f :: rest := fun h =>
      List.filter_eq_self.mpr fun node hm => decide_eq_true (h node hm)
    constructor
    · rintro ⟨hli, -⟩
      have ho : ∀ node ∈ f :: rest, node.zone = zone := by
        intro node hm
        obtain ⟨n', hl, -⟩ := hli node hm
        by_contra hz
        rw [lookup_insert_if, if_neg hz] at hl
        cases hl
      have hf : ∀ node ∈ f :: rest, node.zone = f.zone := fun node hm =>
        (ho node hm).trans (ho f (List.mem_cons_self ..)).symm
      obtain ⟨n', -, hsum⟩ := hli f (List.mem_cons_self ..)
      rw [ha hf] at hsum
      exact ⟨fun node hm node' hm' => (ho node hm).trans (ho node' hm').symm,
        hsum ▸ ⟨n'.le_toInt, n'.toInt_lt⟩⟩
    · rintro ⟨heq, hfits⟩
      have hf : ∀ node ∈ f :: rest, node.zone = f.zone := fun node hm =>
        heq node hm f (List.mem_cons_self ..)
      obtain ⟨rfl, rfl⟩ := hs (List.forall_mem_cons.mp hf).2 rfl
      rw [int64_of_fits hfits] at ht
      refine ⟨fun node hm => ?_, ?_⟩
      · rw [hf node hm, ha hf, Finmap.lookup_insert]
        exact ⟨_, rfl, ht⟩
      · exact (total_insert _ ∅ f.zone _).trans (add_zero _)

def sizedNode (id zone : String) (capacity : Int64) : StorageNode := ⟨id, zone, capacity, 0, capacity, .high, .healthy, 0⟩

theorem zone_capacity_lost :
    let ps := (newPlacementStrategy.registerNode (sizedNode "a" "east" 5)).registerNode (sizedNode "b" "west" 7)
    let capacity := ps.getClusterCapacity sortedOrder 0
    capacity.totalCapacity = 12 ∧ capacity.zoneCapacity.lookup "east" = none ∧
      capacity.zoneCapacity.lookup "west" = some 7 := by
  decide +kernel

end PlacementStrategy

end Cloudless.Storage
