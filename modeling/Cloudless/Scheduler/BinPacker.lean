import Cloudless.Scheduler.Scorer

namespace Cloudless.Scheduler

open Foundations.GoStd

structure Bin where
  (nodeID nodeName : String)
  (availableCPU availableMemory availableStorage : Int64)
  score : Float

structure Item where
  id : String
  (requiredCPU requiredMemory requiredStorage : Int64)

structure Placement where
  (nodeID nodeName itemID : String)
  score : Float

def ScoredNode.bin (n : ScoredNode) : Bin where
  nodeID := n.node.id
  nodeName := n.node.name
  availableCPU := n.node.capacity.cpuMillicores - n.node.usage.cpuMillicores
  availableMemory := n.node.capacity.memoryBytes - n.node.usage.memoryBytes
  availableStorage := n.node.capacity.storageBytes - n.node.usage.storageBytes
  score := n.score

def createBins (nodes : List ScoredNode) : List Bin := nodes.map ScoredNode.bin

def fits (item : Item) (bin : Bin) : Bool :=
  item.requiredCPU ≤ bin.availableCPU && item.requiredMemory ≤ bin.availableMemory &&
    item.requiredStorage ≤ bin.availableStorage

def Bin.charge (bin : Bin) (item : Item) : Bin :=
  { bin with
    availableCPU := bin.availableCPU - item.requiredCPU
    availableMemory := bin.availableMemory - item.requiredMemory
    availableStorage := bin.availableStorage - item.requiredStorage }

def placeItem (item : Item) : List Bin → Option (Placement × List Bin)
  | [] => none
  | bin :: bins =>
    if fits item bin then some (⟨bin.nodeID, bin.nodeName, item.id, bin.score⟩, bin.charge item :: bins)
    else (placeItem item bins).map fun r => (r.1, bin :: r.2)

def packItems : List Item → List Bin → List Placement
  | [], _ => []
  | item :: items, bins =>
    match placeItem item bins with
    | none => packItems items bins
    | some (placement, bins) => placement :: packItems items bins

def createItems (resources : ResourceSpec) (replicas : Int64) : List Item :=
  (List.range replicas.toInt.toNat).map fun i =>
    ⟨stringOfRune (Int32.ofNat i), resources.cpuMillicores, resources.memoryBytes, resources.storageBytes⟩

def Item.size (item : Item) : Int64 := item.requiredCPU + item.requiredMemory / 1000000

def pack (rt : Runtime) (nodes : List ScoredNode) (resources : ResourceSpec) (replicas : Int64) : List Placement :=
  let bins := rt.sortSlice (fun a b => a.score > b.score) (createBins nodes)
  let items := rt.sortSlice (fun a b => a.size > b.size) (createItems resources replicas)
  packItems items bins

variable {p : Placement}

lemma placeItem_some {item : Item} {bins bins' : List Bin} (h : placeItem item bins = some (p, bins')) :
    ∃ pre bin post, bins = pre ++ bin :: post ∧ fits item bin = true ∧
      p = ⟨bin.nodeID, bin.nodeName, item.id, bin.score⟩ ∧ bins' = pre ++ bin.charge item :: post := by
  induction bins generalizing bins' p with
  | nil => cases h
  | cons bin bins ih =>
    rw [placeItem] at h
    split_ifs at h with hf
    · cases h
      exact ⟨[], bin, bins, rfl, hf, rfl, rfl⟩
    · obtain ⟨⟨q, rest⟩, hq, he⟩ := Option.map_eq_some_iff.mp h
      obtain ⟨pre, b, post, rfl, hfb, hp, rfl⟩ := ih hq
      cases he
      exact ⟨bin :: pre, b, post, rfl, hfb, hp, rfl⟩

lemma placeItem_names {item : Item} {bins bins' : List Bin} (h : placeItem item bins = some (p, bins')) :
    bins'.map (fun b => (b.nodeID, b.nodeName)) = bins.map (fun b => (b.nodeID, b.nodeName)) := by
  obtain ⟨pre, bin, post, rfl, -, -, rfl⟩ := placeItem_some h
  simp [Bin.charge]

lemma length_packItems (i : List Item) (b : List Bin) : (packItems i b).length ≤ i.length := by
  induction i generalizing b with
  | nil => exact le_rfl
  | cons it i ih =>
    rw [packItems]
    split
    · exact (ih _).trans (Nat.le_succ _)
    · exact Nat.succ_le_succ (ih _)

lemma packItems_names {i : List Item} {bins : List Bin} (h : p ∈ packItems i bins) :
    (p.nodeID, p.nodeName) ∈ bins.map (fun b => (b.nodeID, b.nodeName)) := by
  induction i generalizing bins with
  | nil => cases h
  | cons item i ih =>
    rw [packItems] at h
    split at h
    · exact ih h
    · rename_i q bins' hq
      rcases List.mem_cons.mp h with rfl | h
      · obtain ⟨pre, bin, post, rfl, -, rfl, -⟩ := placeItem_some hq
        simp
      · rw [← placeItem_names hq]
        exact ih h

lemma length_pack (rt : Runtime) (ns : List ScoredNode) (r : ResourceSpec) {rs : Int64}
    (h : 0 ≤ rs) : ((pack rt ns r rs).length : ℤ) ≤ rs.toInt := by
  have hl := length_packItems (rt.sortSlice (fun a b => a.size > b.size) (createItems r rs))
    (rt.sortSlice (fun a b => a.score > b.score) (createBins ns))
  rw [(rt.sortSlice_perm _ _).length_eq, createItems, List.length_map, List.length_range] at hl
  have hr : 0 ≤ rs.toInt := Int64.le_iff_toInt_le.mp h
  change ((packItems _ _).length : ℤ) ≤ _
  simp only [createItems] at hl ⊢
  omega

lemma pack_names {rt : Runtime} {ns : List ScoredNode} {rs : ResourceSpec} {r : Int64} (h : p ∈ pack rt ns rs r) :
    ∃ n ∈ ns, p.nodeID = n.node.id ∧ p.nodeName = n.node.name := by
  obtain ⟨bin, hb, he⟩ := List.mem_map.mp (packItems_names h)
  obtain ⟨n, hn, rfl⟩ := List.mem_map.mp ((rt.sortSlice_perm _ _).mem_iff.mp hb)
  exact ⟨n, hn, (congrArg Prod.fst he).symm, (congrArg Prod.snd he).symm⟩

end Cloudless.Scheduler
