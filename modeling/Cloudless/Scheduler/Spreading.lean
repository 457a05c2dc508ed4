import Cloudless.Foundations.Spreading
import Cloudless.Scheduler.Packing

namespace Cloudless.Scheduler

open Foundations GoStd Spreading Cloudless.Membership

def nodeHasCapacity (node : NodeInfo) (resources : ResourceSpec) : Bool := hasEnoughResources node resources

def groupNodes (rt : Runtime) (nodes : List ScoredNode) (spreadKey : String) : List (List ScoredNode) :=
  groupNodesByTopology rt nodes spreadKey

def selectBestNode (nodes : List ScoredNode) (resources : ResourceSpec) : Option ScoredNode :=
  nodes.find? fun n => nodeHasCapacity n.node resources

def ScoredNode.placement (n : ScoredNode) (replica : ℕ) : Placement :=
  ⟨n.node.id, n.node.name, stringOfRune (Int32.ofNat replica), n.score⟩

def placeRemaining (limit : ℕ) (resources : ResourceSpec) : List Placement → List ScoredNode → List Placement
  | placements, [] => placements
  | placements, node :: nodes =>
    if limit ≤ placements.length then placements
    else if node.node.id ∉ placements.map Placement.nodeID ∧ nodeHasCapacity node.node resources then
      placeRemaining limit resources (placements ++ [node.placement placements.length]) nodes
    else placeRemaining limit resources placements nodes

def packWithSpread (rt rt' : Runtime) (nodes : List ScoredNode) (resources : ResourceSpec) (replicas : Int64)
    (spreadKey : String) : List Placement :=
  let limit := replicas.toInt.toNat
  let groups := groupNodes rt nodes spreadKey
  let best := (rt.rangeOrder groups).filterMap (selectBestNode · resources)
  let placements := (best.take limit).mapIdx fun i n => n.placement i
  if placements.length < limit then
    placeRemaining limit resources placements (rt'.sortSlice (fun a b => a.score > b.score) (rt'.rangeOrder groups).flatten)
  else placements

section Groups

variable (rt : Runtime) {nodes : List ScoredNode} {topology : String} (p : ScoredNode → Bool)

def groupBest (rt : Runtime) (nodes : List ScoredNode) (topology : String) (p : ScoredNode → Bool) : List ScoredNode :=
  (rt.rangeOrder (groupNodesByTopology rt nodes topology)).filterMap fun g => g.find? p

lemma groupBest_subset : groupBest rt nodes topology p ⊆ nodes.filter p := by
  intro n hn
  obtain ⟨g, hg, hf⟩ := List.mem_filterMap.mp hn
  exact List.mem_filter.mpr ⟨(mem_group hg (List.mem_of_find?_eq_some hf)).1, List.find?_some hf⟩

lemma nodup_groupBest : ((groupBest rt nodes topology p).map fun n => topologyKey topology n.node).Nodup := by
  rw [groupBest, List.Nodup, List.pairwise_map, List.pairwise_filterMap]
  apply (nodup_groups rt nodes topology).imp
  intro g g' hg n hn n' hn'
  exact hg n (List.mem_of_find?_eq_some hn) n' (List.mem_of_find?_eq_some hn')

lemma groupBest_covers : ((nodes.filter p).map fun n => topologyKey topology n.node) ⊆
    (groupBest rt nodes topology p).map fun n => topologyKey topology n.node := by
  intro k hk
  obtain ⟨n, hn, rfl⟩ := List.mem_map.mp hk
  obtain ⟨hmem, hp⟩ := List.mem_filter.mp hn
  have hg : rt.sortSlice (fun a b => a.score > b.score) (nodes.filter fun m =>
      topologyKey topology m.node = topologyKey topology n.node) ∈ rt.rangeOrder (groupNodesByTopology rt nodes topology) := by
    rw [(rt.rangeOrder_perm _).mem_iff, groupNodesByTopology]
    exact List.mem_map_of_mem (List.mem_dedup.mpr (List.mem_map_of_mem (f := fun n => topologyKey topology n.node) hmem))
  have hm' : n ∈ rt.sortSlice (fun a b => a.score > b.score) (nodes.filter fun m =>
      topologyKey topology m.node = topologyKey topology n.node) :=
    (rt.sortSlice_perm _ _).mem_iff.mpr (List.mem_filter.mpr ⟨hmem, decide_eq_true rfl⟩)
  obtain ⟨m, hm⟩ := Option.isSome_iff_exists.mp (List.find?_isSome.mpr ⟨n, hm', hp⟩)
  have hkey := (List.mem_filter.mp ((rt.sortSlice_perm _ _).mem_iff.mp (List.mem_of_find?_eq_some hm))).2
  rw [decide_eq_true_eq] at hkey
  rw [← hkey]
  exact List.mem_map_of_mem (f := fun n => topologyKey topology n.node) (List.mem_filterMap.mpr ⟨_, hg, hm⟩)

lemma flatten_groups (nodes : List ScoredNode) (topology : String) (rt' : Runtime) :
    (rt'.rangeOrder (groupNodesByTopology rt nodes topology)).flatten.Perm nodes := by
  refine (rt'.rangeOrder_perm _).flatten.trans ?_
  rw [groupNodesByTopology, ← List.flatMap_def]
  refine (List.Perm.flatMap_left _ fun k _ => rt.sortSlice_perm _ _).trans ?_
  refine (perm_flatMap_filter (List.nodup_dedup _) nodes).trans ?_
  rw [List.filter_eq_self.mpr]
  intro n hn
  simpa using ⟨n, hn, rfl⟩

end Groups

section Schedules

variable {nodes : List ScoredNode}

lemma spread_groupBest (rt : Runtime) (p : ScoredNode → Bool) (l : ℕ) (topology : String) {r : List ScoredNode}
    (hn : (nodes.map fun n => n.node.id).Nodup) (hr : r.Perm nodes) :
    Spread (fun n => n.node.id) (fun n => topologyKey topology n.node) (nodes.filter p) l
      (fill (fun n => n.node.id) l (((groupBest rt nodes topology p).take l).map fun n => n.node.id)
        (r.filter p)) := by
  apply spread_fill (hn.sublist (List.filter_sublist.map _))
  · exact fun n hm => groupBest_subset rt p (List.mem_of_mem_take hm)
  · rw [List.map_take]
    exact (nodup_groupBest rt p).sublist (List.take_sublist _ _)
  · simp
  · intro hl
    rw [List.take_of_length_le (by rw [List.length_take] at hl; omega)]
    exact groupBest_covers rt p
  · exact hr.filter p

lemma map_spreadOverflow {l : ℕ} (c : List Choice) : (spreadOverflow l c nodes).map Choice.nodeID =
      fill (fun n => n.node.id) l (c.map Choice.nodeID) nodes := by
  induction nodes generalizing c with
  | nil => rfl
  | cons n nodes ih =>
    rw [spreadOverflow, fill, List.length_map]
    split_ifs
    · rfl
    · exact ih c
    · rw [ih, List.map_append]
      rfl

variable {rs : ResourceSpec}

lemma map_placeRemaining {l : ℕ} {ps : List Placement} : (placeRemaining l rs ps nodes).map Placement.nodeID =
      fill (fun n => n.node.id) l (ps.map Placement.nodeID) (nodes.filter fun n => nodeHasCapacity n.node rs) := by
  induction nodes generalizing ps with
  | nil => rfl
  | cons n nodes ih =>
    rw [placeRemaining]
    by_cases hl : l ≤ ps.length
    · rw [if_pos hl, fill_of_le (by simpa using hl)]
    · rw [if_neg hl, List.filter_cons]
      by_cases hcap : nodeHasCapacity n.node rs = true
      · by_cases hm : n.node.id ∈ ps.map Placement.nodeID
        · simp only [hcap, hm, not_true_eq_false, false_and, if_false, if_true, ih, fill, List.length_map, hl]
        · simp only [hcap, hm, not_false_eq_true, and_true, if_false, if_true, ih, fill, List.length_map, hl,
            List.map_append]
          rfl
      · simp [hcap, ih]

lemma map_packWithSpread {rt rt' : Runtime} {r : Int64}
    {sk : String} : (packWithSpread rt rt' nodes rs r sk).map Placement.nodeID =
      fill (fun n => n.node.id) r.toInt.toNat
        (((groupBest rt nodes sk fun n => nodeHasCapacity n.node rs).take r.toInt.toNat).map fun n => n.node.id)
        ((rt'.sortSlice (fun a b => a.score > b.score) (rt'.rangeOrder (groupNodesByTopology rt nodes sk)).flatten).filter
          fun n => nodeHasCapacity n.node rs) := by
  have hf : ∀ be : List ScoredNode, (be.mapIdx fun i n => n.placement i).map Placement.nodeID =
      be.map fun n => n.node.id := fun be =>
    List.ext_getElem (by simp) (by simp [ScoredNode.placement])
  rw [packWithSpread]
  split_ifs with hl
  · rw [map_placeRemaining, hf]
    rfl
  · rw [fill_of_le (by simpa [groupBest, selectBestNode, groupNodes] using hl), hf]
    rfl

lemma spread_spreadSchedule (s : SchedulerConfig) (rt : Runtime) (w : WorkloadSpec)
    (hn : (nodes.map fun n => n.node.id).Nodup) :
    Spread (fun n => n.node.id) (fun n => topologyKey s.spreadPolicy n.node) nodes w.replicas.toInt.toNat
      ((s.spreadSchedule rt nodes w).map Choice.nodeID) := by
  have hs := spread_groupBest rt (fun _ => true) w.replicas.toInt.toNat s.spreadPolicy hn
    (List.Perm.refl nodes)
  have hb : (rt.rangeOrder (groupNodesByTopology rt nodes s.spreadPolicy)).filterMap List.head? =
      groupBest rt nodes s.spreadPolicy fun _ => true := by
    rw [groupBest]
    congr 1
    funext g
    rw [← List.head?_filter, List.filter_true]
  rw [List.filter_true] at hs
  rwa [SchedulerConfig.spreadSchedule, map_spreadOverflow, hb, ← List.map_take, List.map_map]

lemma length_spreadSchedule_eq (s : SchedulerConfig) (rt : Runtime) {w : WorkloadSpec}
    (hn : (nodes.map fun n => n.node.id).Nodup) :
    (s.spreadSchedule rt nodes w).length = min w.replicas.toInt.toNat nodes.length := by
  have hl := (spread_spreadSchedule s rt w hn).length_eq
  rwa [List.length_map] at hl

theorem spreading_maximal (s : SchedulerConfig) (rt rt' : Runtime) (workload : WorkloadSpec) (resources : ResourceSpec)
    (replicas : Int64) (spreadKey : String) (hn : (nodes.map fun n => n.node.id).Nodup) :
    Spread (fun n => n.node.id) (fun n => topologyKey s.spreadPolicy n.node) nodes workload.replicas.toInt.toNat
      ((s.spreadSchedule rt nodes workload).map Choice.nodeID) ∧
    Spread (fun n => n.node.id) (fun n => topologyKey spreadKey n.node)
      (nodes.filter fun n => nodeHasCapacity n.node resources) replicas.toInt.toNat
      ((packWithSpread rt rt' nodes resources replicas spreadKey).map Placement.nodeID) := by
  have hr := (rt'.sortSlice_perm (fun a b => a.score > b.score) _).trans
    (flatten_groups rt nodes spreadKey rt')
  refine ⟨spread_spreadSchedule s rt workload hn, ?_⟩
  rw [map_packWithSpread]
  exact spread_groupBest rt _ _ _ hn hr

def twoZones : List ScoredNode := [plainScored idleNode, plainScored { idleNode with id := "n2", zone := "b" }]

theorem spreading_maximal_twoZones :
    (binpackConfig.spreadSchedule plainRuntime twoZones (smallWorkload 2 ⟨400, 100, 0, 0, 0⟩)).length = 2 ∧
      (packWithSpread plainRuntime plainRuntime twoZones ⟨400, 100, 0, 0, 0⟩ 3 "zone").length = 2 := by
  have hn : (twoZones.map fun n => n.node.id).Nodup := by decide
  obtain ⟨hs, hp⟩ := spreading_maximal binpackConfig plainRuntime plainRuntime
    (smallWorkload 2 ⟨400, 100, 0, 0, 0⟩) ⟨400, 100, 0, 0, 0⟩ 3 "zone" hn
  have hl := hs.length_eq
  have hl' := hp.length_eq
  rw [List.length_map] at hl hl'
  rw [hl, hl']
  decide

end Schedules

end Cloudless.Scheduler
