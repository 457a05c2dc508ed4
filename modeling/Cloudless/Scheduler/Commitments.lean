import Cloudless.Foundations.Runs
import Cloudless.Scheduler.Spreading

namespace Cloudless.Scheduler

open Foundations FiniteMaps GoStd Runs Cloudless.Membership

def placedOn (id : String) (ds : List ScheduleDecision) : ℕ := (ds.map ScheduleDecision.nodeID).count id

variable {n : ScoredNode} {ns : List ScoredNode} {rt : Runtime} {d : Dimension}

lemma pack_within {r : ResourceSpec} {rs : Int64}
    (hn : (ns.map fun n => n.node.id).Nodup) (hd : d.Checked) (hr : 0 ≤ amount r d)
    (hm : n ∈ ns) (hp : 0 < ((pack rt ns r rs).map Placement.nodeID).count n.node.id) :
    ((pack rt ns r rs).map Placement.nodeID).count n.node.id * amount r d ≤ (n.bin.left d).toInt := by
  obtain ⟨b, ss, hperm, hsh⟩ := pack_shares rt ns r rs
  have hno : (ss.map fun s => s.1.nodeID).Nodup := by
    have hids : (ss.map fun s => s.1.nodeID).Perm (ns.map fun n => n.node.id) := by
      have hmap := (hsh.bins ▸ hperm).map Bin.nodeID
      rwa [List.map_map, createBins, List.map_map] at hmap
    exact hids.nodup_iff.mpr hn
  have hb : n.bin ∈ ss.map Prod.fst := by
    rw [hsh.bins, hperm.mem_iff]
    exact List.mem_map_of_mem hm
  obtain ⟨s, hs, hsbin⟩ := List.mem_map.mp hb
  have hco : ((pack rt ns r rs).map Placement.nodeID).count n.node.id = s.2 := by
    rw [hsh.placements.count_eq, ← count_replicates hno hs, hsbin]
    rfl
  rw [hco] at hp ⊢
  rw [← toInt_needOf r hd] at hr ⊢
  exact hsbin ▸ hsh.within s hs hp d hr

def NoUnderflow (node : NodeInfo) (d : Dimension) : Prop := -2 ^ 63 ≤ free node d

instance (node : NodeInfo) (d : Dimension) : Decidable (NoUnderflow node d) := inferInstanceAs (Decidable (_ ≤ _))

section Choices

variable {workload : WorkloadSpec}

lemma request_le_free {n : NodeInfo} (hd : d.Checked) (ho : NoUnderflow n d)
    (hr : hasEnoughResources n workload.requests = true) : amount workload.requests d ≤ free n d := by
  simp only [hasEnoughResources, Bool.and_eq_true, decide_eq_true_eq, Int64.le_iff_toInt_le] at hr
  obtain ⟨⟨hc, hm⟩, hs⟩ := hr
  cases d with
  | cpu => exact hc.trans (toInt_sub_le ho)
  | memory => exact hm.trans (toInt_sub_le ho)
  | storage => exact hs.trans (toInt_sub_le ho)
  | bandwidth | gpu => cases hd

lemma bin_left_le_free (hd : d.Checked) (ho : NoUnderflow n.node d) : (n.bin.left d).toInt ≤ free n.node d := by
  cases d with
  | cpu | memory | storage => exact toInt_sub_le ho
  | bandwidth | gpu => cases hd

variable (s : SchedulerConfig) (rt : Runtime)

lemma binPack_within (hn : (ns.map fun n => n.node.id).Nodup)
    (hm : n ∈ ns) (hd : d.Checked) (hq : 0 ≤ amount workload.requests d) (ho : NoUnderflow n.node d)
    (hp : 0 < ((binPackSchedule rt ns workload).map Choice.nodeID).count n.node.id) :
    ((binPackSchedule rt ns workload).map Choice.nodeID).count n.node.id * amount workload.requests d ≤
      free n.node d := by
  have hco : ((binPackSchedule rt ns workload).map Choice.nodeID).count n.node.id ≤
      ((pack rt ns workload.requests workload.replicas).map Placement.nodeID).count n.node.id := by
    rw [binPackSchedule, List.map_map]
    exact ((List.take_sublist _ _).map Placement.nodeID).count_le _
  have hk := pack_within hn hd hq hm (hp.trans_le hco)
  refine le_trans (mul_le_mul_of_nonneg_right ?_ hq) (hk.trans (bin_left_le_free hd ho))
  exact_mod_cast hco

variable {ca : List NodeInfo}

lemma nodup_sorted (hn : (ca.map NodeInfo.id).Nodup) (workload : WorkloadSpec) :
    ((rt.sortSlice (fun a b => a.score > b.score) (ca.map (s.scorer.scoreNode · workload))).map
      fun n => n.node.id).Nodup := by
  rwa [((rt.sortSlice_perm _ _).map _).nodup_iff, List.map_map]

lemma nodup_choices (hn : (ca.map NodeInfo.id).Nodup) (hs : s.packingStrategy ≠ "binpack") :
    ((s.choices rt ca workload).map Choice.nodeID).Nodup := by
  have hsort := nodup_sorted s rt hn workload
  simp only [SchedulerConfig.choices, if_neg hs]
  split_ifs
  · exact (spread_spreadSchedule s rt _ hsort).nodup
  · rw [defaultSchedule, List.map_map]
    exact hsort.sublist ((List.take_sublist _ _).map _)

lemma choices_within (hn : (ca.map NodeInfo.id).Nodup) {no : NodeInfo} (hm : no ∈ ca)
    (hr : hasEnoughResources no workload.requests = true) (hd : d.Checked) (hq : 0 ≤ amount workload.requests d)
    (ho : NoUnderflow no d) (hp : 0 < ((s.choices rt ca workload).map Choice.nodeID).count no.id) :
    ((s.choices rt ca workload).map Choice.nodeID).count no.id * amount workload.requests d ≤ free no d := by
  by_cases hs : s.packingStrategy = "binpack"
  · have hsort := nodup_sorted s rt hn workload
    have hsc : s.scorer.scoreNode no workload ∈ rt.sortSlice (fun a b => a.score > b.score)
        (ca.map (s.scorer.scoreNode · workload)) :=
      (rt.sortSlice_perm _ _).mem_iff.mpr (List.mem_map_of_mem hm)
    simp only [SchedulerConfig.choices, if_pos hs] at hp ⊢
    exact binPack_within (n := s.scorer.scoreNode no workload) rt hsort hsc hd hq ho hp
  · have h1 : ((s.choices rt ca workload).map Choice.nodeID).count no.id = 1 :=
      le_antisymm (List.nodup_iff_count_le_one.mp (nodup_choices s rt hn hs) no.id) hp
    rw [h1, Nat.cast_one, one_mul]
    exact request_le_free hd ho hr

end Choices

variable {id : String}

section Schedule

variable {A : Type} {workload : WorkloadSpec}

lemma placedOn_decisions {c : ℕ → Time} {cs : List Choice} :
    placedOn id (decisions c workload cs) = (cs.map Choice.nodeID).count id := by
  rw [placedOn]
  congr 1
  exact List.ext_getElem (by simp) (by simp [decisions, Choice.decision])

lemma placedOn_cases {s : SchedulerConfig} {clock : ℕ → Time} {m : Manager A} {nodes : List NodeInfo}
    (hl : m.Lists nodes) {node : NodeInfo} (hn : m.nodes.lookup id = some node) :
    placedOn id (s.schedule rt clock nodes workload).decisions = 0 ∨ node ∈ filterNodes nodes workload ∧
      0 < placedOn id (s.schedule rt clock nodes workload).decisions ∧
      placedOn id (s.schedule rt clock nodes workload).decisions =
        ((s.choices rt (filterNodes nodes workload) workload).map Choice.nodeID).count node.id := by
  obtain rfl := m.keyed id node hn
  rw [SchedulerConfig.schedule]
  split
  · exact .inl rfl
  · simp only [placed, placedOn_decisions]
    rcases Nat.eq_zero_or_pos (((s.choices rt (filterNodes nodes workload) workload).map Choice.nodeID).count node.id)
      with h0 | hp
    · exact .inl h0
    · obtain ⟨c, hc, hid⟩ := List.mem_map.mp (List.count_pos_iff.mp hp)
      obtain ⟨node', hm', hi', -⟩ := choices_names s rt _ hc
      have heq : node' = node := by
        have h := (hl.2 node').mp (mem_filterNodes hm').1
        rw [← hi', hid, hn] at h
        exact (Option.some.inj h).symm
      exact .inr ⟨heq ▸ hm', hp, trivial⟩

lemma schedule_within {s : SchedulerConfig} {clock : ℕ → Time} {m : Manager A} {nodes : List NodeInfo}
    (hl : m.Lists nodes) {node : NodeInfo} (hn : m.nodes.lookup id = some node)
    (hd : d.Checked) (hq : 0 ≤ amount workload.requests d) (ho : NoUnderflow node d) :
    placedOn id (s.schedule rt clock nodes workload).decisions = 0 ∨
      placedOn id (s.schedule rt clock nodes workload).decisions * amount workload.requests d ≤ free node d := by
  have hcand : ((filterNodes nodes workload).map NodeInfo.id).Nodup := hl.1.sublist (List.filter_sublist.map _)
  refine (placedOn_cases hl hn).imp_right ?_
  rintro ⟨hm, hp, hcount⟩
  rw [hcount] at hp ⊢
  exact choices_within s rt hcand hm (mem_filterNodes hm).2.1 hd hq ho hp

theorem schedule_within_free (s : SchedulerConfig) (rt : Runtime) (clock : ℕ → Time) {m : Manager A}
    {nodes : List NodeInfo} (hl : m.Lists nodes) {workload : WorkloadSpec} (hq : ∀ d, 0 ≤ amount workload.requests d)
    (ho : ∀ node ∈ nodes, ∀ d, NoUnderflow node d) {id : String} {node : NodeInfo} (hn : m.nodes.lookup id = some node)
    (hp : ∃ x ∈ (s.schedule rt clock nodes workload).decisions, x.nodeID = id) {d : Dimension} (hd : d.Checked) :
    placedOn id (s.schedule rt clock nodes workload).decisions * amount workload.requests d ≤ free node d := by
  obtain ⟨x, hx, hid⟩ := hp
  have hpos : 0 < placedOn id (s.schedule rt clock nodes workload).decisions :=
    List.count_pos_iff.mpr (List.mem_map.mpr ⟨x, hx, hid⟩)
  have hm : node ∈ nodes := (hl.2 node).mpr (by rw [m.keyed id node hn, hn])
  exact (schedule_within hl hn hd (hq d) (ho node hm d)).resolve_left hpos.ne'

theorem schedule_within_free_oneNode : placedOn "n1" (binpackConfig.schedule plainRuntime (fun _ => 0) [idleNode]
        (smallWorkload 3 ⟨400, 100, 0, 0, 0⟩)).decisions = 2 ∧
      placedOn "n1" (binpackConfig.schedule plainRuntime (fun _ => 0) [idleNode]
        (smallWorkload 3 ⟨400, 100, 0, 0, 0⟩)).decisions *
        amount (smallWorkload 3 ⟨400, 100, 0, 0, 0⟩).requests .cpu ≤ free idleNode .cpu := by
  refine ⟨by decide, schedule_within_free (m := (idleCluster : Manager Unit)) binpackConfig plainRuntime (fun _ => 0)
    idleCluster_lists ?_ ?_ rfl ?_ trivial⟩
  · decide
  · decide
  · decide

theorem bandwidth_request_not_honoured : (idleCluster : Manager Unit).Lists [idleNode] ∧
      placedOn "n1" (binpackConfig.schedule plainRuntime (fun _ => 0) [idleNode]
        (smallWorkload 1 ⟨100, 100, 100, 50, 0⟩)).decisions = 1 ∧
      free idleNode .bandwidth = 10 ∧ amount (smallWorkload 1 ⟨100, 100, 100, 50, 0⟩).requests .bandwidth = 50 ∧
      placedOn "n1" (binpackConfig.schedule plainRuntime (fun _ => 0) [idleNode]
        (smallWorkload 1 ⟨100, 100, 100, 0, 2⟩)).decisions = 1 ∧
      free idleNode .gpu = 0 ∧ amount (smallWorkload 1 ⟨100, 100, 100, 0, 2⟩).requests .gpu = 2 :=
  ⟨idleCluster_lists, by decide, by decide, by decide, by decide, by decide, by decide⟩

end Schedule

structure Cluster where
  manager : Manager ScheduleDecision
  committed : String → Dimension → ℤ

inductive Event
  | schedule (rt : Runtime) (clock : ℕ → Time) (nodes : List NodeInfo) (workload : WorkloadSpec)
  | heartbeat (now : Time) (req : HeartbeatRequest)

def queueRuns (ds : List ScheduleDecision) (m : Manager ScheduleDecision) : Manager ScheduleDecision :=
  ds.foldl (fun m d => (m.queueAssignment d.nodeID d).2) m

@[simp] lemma queueRuns_nodes {ds : List ScheduleDecision} (m : Manager ScheduleDecision) :
    (queueRuns ds m).nodes = m.nodes := by
  induction ds generalizing m with
  | nil => rfl
  | cons d ds ih => exact (ih _).trans (m.queueAssignment_nodes d.nodeID d)

namespace Cluster

def start (m : Manager ScheduleDecision) : Cluster := ⟨m, fun _ _ => 0⟩

def step (s : SchedulerConfig) (c : Cluster) : Event → Cluster
  | .schedule rt clock nodes workload =>
    let ds := (s.schedule rt clock nodes workload).decisions
    { manager := queueRuns ds c.manager
      committed := fun id d => c.committed id d + placedOn id ds * amount workload.requests d }
  | .heartbeat now req => { c with manager := (c.manager.processHeartbeat now req).2 }

/-- On each node that may take replicas of the workload, the requests placed before leave room for all of them, or the
use that the node reports covers those requests and is checked. -/
def Uncrowded (c : Cluster) : Event → Prop
  | .schedule _ _ nodes workload => c.manager.Lists nodes ∧ 0 ≤ workload.replicas ∧
    ∀ node ∈ filterNodes nodes workload, ∀ d,
      c.committed node.id d + workload.replicas.toInt * amount workload.requests d ≤ amount node.capacity d ∨
        d.Checked ∧ c.committed node.id d ≤ amount node.usage d
  | .heartbeat _ _ => True

def Within (c : Cluster) : Prop :=
  ∀ id node, c.manager.nodes.lookup id = some node → ∀ d,
    0 ≤ amount node.capacity d ∧ c.committed id d ≤ amount node.capacity d

lemma amount_usage_lt (r : ResourceUsage) (d : Dimension) : amount r d < 2 ^ 63 := by
  cases d with
  | cpu => exact r.cpuMillicores.toInt_lt
  | memory => exact r.memoryBytes.toInt_lt
  | storage => exact r.storageBytes.toInt_lt
  | bandwidth => exact r.bandwidthBPS.toInt_lt
  | gpu => exact r.gpuCount.toInt_lt.trans (by norm_num)

variable {s : SchedulerConfig} {c : Cluster}

lemma Within.schedule {clock : ℕ → Time} {nodes : List NodeInfo} {workload : WorkloadSpec} (hw : c.Within)
    (ho : c.Uncrowded (.schedule rt clock nodes workload)) : (c.step s (.schedule rt clock nodes workload)).Within := by
  obtain ⟨hl, hr, hroom⟩ := ho
  intro id node hn d
  simp only [step, queueRuns_nodes] at hn ⊢
  obtain ⟨hcap, hc⟩ := hw id node hn d
  refine ⟨hcap, ?_⟩
  rcases le_or_gt (amount workload.requests d) 0 with hq | hq
  · have hneg : placedOn id (s.schedule rt clock nodes workload).decisions * amount workload.requests d ≤ 0 :=
      mul_nonpos_of_nonneg_of_nonpos (Int.natCast_nonneg _) hq
    omega
  have hcases : placedOn id (s.schedule rt clock nodes workload).decisions = 0 ∨ _ := placedOn_cases hl hn
  rcases hcases with h0 | ⟨hm, -, hcount⟩
  · rwa [h0, Nat.cast_zero, zero_mul, add_zero]
  obtain rfl := c.manager.keyed id node hn
  rcases hroom node hm d with hfit | ⟨hd, hused⟩
  · have hle : (placedOn node.id (s.schedule rt clock nodes workload).decisions : ℤ) ≤ workload.replicas.toInt := by
      rw [hcount]
      refine le_trans ?_ (length_choices s rt (filterNodes nodes workload) hr)
      rw [← List.length_map (f := Choice.nodeID)]
      exact_mod_cast List.count_le_length
    have := mul_le_mul_of_nonneg_right hle hq.le
    omega
  · have hlt := amount_usage_lt node.usage d
    have hf : NoUnderflow node d := by
      rw [NoUnderflow, free]
      omega
    have hcases : placedOn node.id (s.schedule rt clock nodes workload).decisions = 0 ∨ _ :=
      schedule_within hl hn hd hq.le hf
    rcases hcases with h0 | hk
    · rwa [h0, Nat.cast_zero, zero_mul, add_zero]
    · rw [free] at hk
      omega

lemma Within.heartbeat (s : SchedulerConfig) (now : Time) (req : HeartbeatRequest) (hw : c.Within) :
    (c.step s (.heartbeat now req)).Within := by
  intro id n hn d
  simp only [step, Manager.processHeartbeat_lookup] at hn ⊢
  split_ifs at hn
  · obtain ⟨n', hn', rfl⟩ := Option.map_eq_some_iff.mp hn
    rw [NodeInfo.heartbeat_capacity]
    exact hw id n' hn' d
  · exact hw id n hn d

lemma Within.step (e : Event) (hw : c.Within) (ho : c.Uncrowded e) : (c.step s e).Within := by
  cases e with
  | schedule rt cl ns workload => exact hw.schedule ho
  | heartbeat now req => exact hw.heartbeat s now req

end Cluster

theorem committed_within_capacity (s : SchedulerConfig) (m : Manager ScheduleDecision)
    (hcap : ∀ id node, m.nodes.lookup id = some node → ∀ d, 0 ≤ amount node.capacity d) (es : List Event)
    (he : Admissible (Cluster.step s) Cluster.Uncrowded (.start m) es) :
    (run (Cluster.step s) (.start m) es).Within := by
  have hs : (Cluster.start m).Within :=
    fun id node hn d => ⟨hcap id node hn d, hcap id node hn d⟩
  exact run_invariant Cluster.Within (fun _ e hw ho => hw.step e ho) es hs he

def halfNode : Event :=
  .schedule plainRuntime (fun _ => 0) [idleNode] (smallWorkload 1 ⟨500, 100, 0, 0, 0⟩)

lemma oneNode_lookup :
    (idleCluster : Manager ScheduleDecision).nodes.lookup id = if id = "n1" then some idleNode else none :=
  lookup_insert_if _ id "n1" _

lemma idleNode_uncrowded {c : Cluster} (hl : c.manager.Lists [idleNode])
    (hc : ∀ d, c.committed "n1" d + amount ⟨500, 100, 0, 0, 0⟩ d ≤ amount idleNode.capacity d) :
    c.Uncrowded halfNode := by
  refine ⟨hl, by decide, fun node hm d => .inl ?_⟩
  obtain rfl := List.mem_singleton.mp (mem_filterNodes hm).1
  exact (one_mul (amount _ d)).symm ▸ hc d

theorem committed_within_capacity_halves :
    (run (Cluster.step binpackConfig) (.start idleCluster) [halfNode, halfNode]).committed "n1" .cpu = 1000 ∧
      (run (Cluster.step binpackConfig) (.start idleCluster) [halfNode, halfNode]).Within := by
  refine ⟨by decide, committed_within_capacity binpackConfig idleCluster ?_ _ ⟨idleNode_uncrowded idleCluster_lists ?_,
    idleNode_uncrowded (lists_single fun id => ?_) ?_, trivial⟩⟩
  · intro id n hn d
    rw [oneNode_lookup] at hn
    split_ifs at hn
    cases hn
    cases d <;> decide
  · decide
  · rw [halfNode, Cluster.step, queueRuns_nodes]
    exact oneNode_lookup
  · decide

theorem schedule_overcommits_node : let full := smallWorkload 1 ⟨1000, 100, 100, 0, 0⟩
    let c := Cluster.step binpackConfig (.start idleCluster) (.schedule plainRuntime (fun _ => 0) [idleNode] full)
    c.manager.Lists [idleNode] ∧
      (c.step binpackConfig (.schedule plainRuntime (fun _ => 0) [idleNode] full)).committed "n1" .cpu = 2000 ∧
      amount idleNode.capacity .cpu = 1000 :=
  ⟨lists_single fun id => by rw [Cluster.step, queueRuns_nodes]; exact oneNode_lookup, by decide, by decide⟩

end Cloudless.Scheduler
