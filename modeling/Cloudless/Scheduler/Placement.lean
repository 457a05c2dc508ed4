import Cloudless.Scheduler.BinPacker

namespace Cloudless.Scheduler

open Foundations FiniteMaps GoStd Cloudless.Membership

structure ScheduleDecision where
  (replicaID nodeID nodeName fragmentID : String)
  score : Float
  reasons : List String

structure ScheduleResult where
  decisions : List ScheduleDecision := []
  success : Bool
  message : String
  unscheduledReplicas : Int64

structure SchedulerConfig where
  weights : ScorerConfig
  (spreadPolicy packingStrategy : String)

def SchedulerConfig.scorer (config : SchedulerConfig) : Scorer := newScorer config.weights

variable (node : NodeInfo)

def hasEnoughResources (requests : ResourceSpec) : Bool :=
  let availableCPU := node.capacity.cpuMillicores - node.usage.cpuMillicores
  let availableMemory := node.capacity.memoryBytes - node.usage.memoryBytes
  let availableStorage := node.capacity.storageBytes - node.usage.storageBytes
  requests.cpuMillicores ≤ availableCPU && requests.memoryBytes ≤ availableMemory &&
    requests.storageBytes ≤ availableStorage

def matchesAffinity (affinity : AffinityRule) : Bool :=
  if affinity.type = "node" then hasLabels node affinity.matchLabels else false

def matchesPlacementPolicy (policy : PlacementPolicy) : Bool :=
  (policy.regions.isEmpty || policy.regions.any (node.region == ·)) &&
    (policy.zones.isEmpty || policy.zones.any (node.zone == ·)) &&
    hasLabels node policy.nodeSelector &&
    policy.affinity.all (fun affinity => !(affinity.required && !matchesAffinity node affinity)) &&
    policy.antiAffinity.all (fun antiAffinity => !(antiAffinity.required && matchesAffinity node antiAffinity))

def matchesToleration (taint : Taint) (toleration : Toleration) : Bool :=
  if toleration.key ≠ taint.key then false
  else if toleration.operator = "Exists" then true
  else toleration.operator = "Equal" && toleration.value = taint.value &&
    (toleration.effect = "" || toleration.effect = taint.effect)

def toleratesTaints (tolerations : List Toleration) : Bool :=
  node.taints.all fun taint => tolerations.any (matchesToleration taint) || taint.effect ≠ "NoSchedule"

def filterNodes (nodes : List NodeInfo) (workload : WorkloadSpec) : List NodeInfo :=
  nodes.filter fun node => node.state = .ready && hasEnoughResources node workload.requests &&
    matchesPlacementPolicy node workload.placementPolicy && toleratesTaints node workload.placementPolicy.tolerations

def filterFailedNodes (nodes : List NodeInfo) (failedNodeIDs : List String) : List NodeInfo :=
  nodes.filter fun node => node.id ∉ failedNodeIDs && !(node.state = .failed || node.state = .offline)

def generateFragmentID (now now' : Time) : String :=
  "fragment-" ++ toString (unixSeconds now) ++ "-" ++ toString (now' % 1000000000)

structure Choice where
  (nodeID nodeName : String)
  score : Float
  reasons : List String

def ScoredNode.choice (reason : String) (n : ScoredNode) : Choice := ⟨n.node.id, n.node.name, n.score, [reason]⟩

def binPackSchedule (rt : Runtime) (nodes : List ScoredNode) (workload : WorkloadSpec) : List Choice :=
  let packing := pack rt nodes workload.requests workload.replicas
  (packing.take (max 1 workload.replicas.toInt.toNat)).map fun p => ⟨p.nodeID, p.nodeName, p.score, ["bin-packed"]⟩

def topologyKey (topology : String) (node : NodeInfo) : String :=
  if topology = "zone" then node.zone
  else if topology = "region" then node.region
  else if topology = "node" then node.id
  else "default"

def groupNodesByTopology (rt : Runtime) (nodes : List ScoredNode) (topology : String) : List (List ScoredNode) :=
  let keys := (nodes.map fun n => topologyKey topology n.node).dedup
  keys.map fun key =>
    rt.sortSlice (fun a b => a.score > b.score) (nodes.filter fun n => topologyKey topology n.node = key)

def spreadOverflow (limit : ℕ) : List Choice → List ScoredNode → List Choice
  | chosen, [] => chosen
  | chosen, node :: nodes =>
    if limit ≤ chosen.length then chosen
    else if node.node.id ∈ chosen.map Choice.nodeID then spreadOverflow limit chosen nodes
    else spreadOverflow limit (chosen ++ [node.choice "spread overflow"]) nodes

def SchedulerConfig.spreadSchedule (s : SchedulerConfig) (rt : Runtime) (nodes : List ScoredNode)
    (workload : WorkloadSpec) : List Choice :=
  let limit := workload.replicas.toInt.toNat
  let groups := rt.rangeOrder (groupNodesByTopology rt nodes s.spreadPolicy)
  let best := (groups.filterMap List.head?).map (ScoredNode.choice ("spread across " ++ s.spreadPolicy))
  spreadOverflow limit (best.take limit) nodes

def defaultSchedule (nodes : List ScoredNode) (workload : WorkloadSpec) : List Choice :=
  (nodes.take workload.replicas.toInt.toNat).map (ScoredNode.choice "default placement")

def SchedulerConfig.choices (s : SchedulerConfig) (rt : Runtime) (candidates : List NodeInfo) (workload : WorkloadSpec) :
    List Choice :=
  let scored := candidates.map (s.scorer.scoreNode · workload)
  let nodes := rt.sortSlice (fun a b => a.score > b.score) scored
  if s.packingStrategy = "binpack" then binPackSchedule rt nodes workload
  else if s.packingStrategy = "spread" then s.spreadSchedule rt nodes workload
  else defaultSchedule nodes workload

def Choice.decision (clock : ℕ → Time) (workload : WorkloadSpec) (c : Choice) (n : ℕ) : ScheduleDecision where
  replicaID := workload.id ++ "-" ++ toString n
  nodeID := c.nodeID
  nodeName := c.nodeName
  fragmentID := generateFragmentID (clock (2 * n)) (clock (2 * n + 1))
  score := c.score
  reasons := c.reasons

def decisions (clock : ℕ → Time) (workload : WorkloadSpec) (choices : List Choice) : List ScheduleDecision :=
  choices.mapIdx fun n c => c.decision clock workload n

def unplaced (message : String) (workload : WorkloadSpec) : ScheduleResult :=
  { success := false, message := message, unscheduledReplicas := workload.replicas }

def placed (done partly : String) (ds : List ScheduleDecision) (workload : WorkloadSpec) : ScheduleResult :=
  let scheduled := Int64.ofNat ds.length
  let success := scheduled == workload.replicas
  { decisions := ds
    success := success
    message := if success then done else partly
    unscheduledReplicas := workload.replicas - scheduled }

def SchedulerConfig.schedule (s : SchedulerConfig) (rt : Runtime) (clock : ℕ → Time) (nodes : List NodeInfo)
    (workload : WorkloadSpec) : ScheduleResult :=
  let candidateNodes := filterNodes nodes workload
  if candidateNodes.isEmpty then unplaced "No nodes match requirements" workload
  else
    let ds := decisions clock workload (s.choices rt candidateNodes workload)
    placed ("Successfully scheduled " ++ toString ds.length ++ " replicas")
      ("Only scheduled " ++ toString ds.length ++ " of " ++ toString workload.replicas ++ " replicas") ds workload

def SchedulerConfig.reschedule (s : SchedulerConfig) (rt : Runtime) (clock : ℕ → Time) (nodes : List NodeInfo)
    (workload : WorkloadSpec) (failedNodes : List String) (currentReadyReplicas : Int64) :
    Except String ScheduleResult :=
  let minAvailable := workload.rolloutStrategy.minAvailable
  if 0 < minAvailable ∧ currentReadyReplicas < minAvailable then
    .error ("cannot reschedule: current ready replicas (" ++ toString currentReadyReplicas ++ ") below minAvailable (" ++
      toString minAvailable ++ ") - wait for capacity or reduce minAvailable")
  else
    let healthyNodes := filterFailedNodes nodes failedNodes
    if healthyNodes.isEmpty then
      .ok (unplaced "No healthy nodes available after excluding failed nodes" workload)
    else
      let candidateNodes := filterNodes healthyNodes workload
      if candidateNodes.isEmpty then
        .ok (unplaced "No nodes match requirements - insufficient capacity in VRN" workload)
      else if !candidateNodes.any (hasEnoughResources · workload.requests) then
        .ok (unplaced ("Insufficient capacity in VRN for workload requirements (CPU: " ++
          toString workload.requests.cpuMillicores ++ " mCores, Mem: " ++ toString workload.requests.memoryBytes ++
          " bytes)") workload)
      else
        let ds := decisions clock workload (s.choices rt candidateNodes workload)
        .ok (placed ("Successfully rescheduled " ++ toString ds.length ++ " replicas on healthy nodes")
          ("Partially rescheduled " ++ toString ds.length ++ " of " ++ toString workload.replicas ++
            " replicas - insufficient capacity") ds workload)

variable {node}

lemma hasLabels_iff {ls : FMap String String} :
    hasLabels node ls = true ↔ ∀ k v, ls.lookup k = some v → node.labels.lookup k = some v := by
  simp only [hasLabels, hasEntry, Bool.not_eq_true', decide_eq_false_iff_not, not_exists, not_and, not_not]
  constructor
  · intro h k v hk
    exact h ⟨k, v⟩ (Finmap.lookup_eq_some_iff.mp hk)
  · rintro h ⟨k, v⟩ hk
    exact h k v (Finmap.lookup_eq_some_iff.mpr hk)

def Tolerates (toleration : Toleration) (taint : Taint) : Prop :=
  toleration.key = taint.key ∧ (toleration.operator = "Exists" ∨ toleration.operator = "Equal" ∧
    toleration.value = taint.value ∧ (toleration.effect = "" ∨ toleration.effect = taint.effect))

variable {toleration : Toleration} {taint : Taint}

lemma matchesToleration_iff : matchesToleration taint toleration = true ↔ Tolerates toleration taint := by
  simp only [matchesToleration, Tolerates]
  split_ifs with hk ho
  · simp [hk]
  · simp [not_not.mp hk, ho]
  · simp [not_not.mp hk, ho, and_assoc]

lemma toleratesTaints_iff {ts : List Toleration} : toleratesTaints node ts = true ↔
    ∀ taint ∈ node.taints, taint.effect = "NoSchedule" → ∃ toleration ∈ ts, Tolerates toleration taint := by
  simp only [toleratesTaints, List.all_eq_true, Bool.or_eq_true, List.any_eq_true, matchesToleration_iff,
    decide_eq_true_eq, or_comm, ← imp_iff_not_or]

def Covers (toleration : Toleration) (taint : Taint) : Prop :=
  toleration.key = taint.key ∧ (toleration.operator = "Exists" ∨ toleration.operator = "Equal" ∧
    toleration.value = taint.value) ∧ (toleration.effect = "" ∨ toleration.effect = taint.effect)

lemma Covers.tolerates (h : Covers toleration taint) : Tolerates toleration taint := by
  obtain ⟨hk, ho | ho, he⟩ := h
  · exact ⟨hk, .inl ho⟩
  · exact ⟨hk, .inr ⟨ho.1, ho.2, he⟩⟩

lemma Tolerates.covers (h : Tolerates toleration taint) (he : toleration.effect = "" ∨ toleration.effect = taint.effect) :
    Covers toleration taint :=
  ⟨h.1, h.2.imp_right fun ho => ⟨ho.1, ho.2.1⟩, he⟩

/-- The taint is let through without being covered: its effect is NoExecute, or all that tolerates it is Exists with
another effect. -/
def SlipsBy (tolerations : List Toleration) (taint : Taint) : Prop :=
  taint.effect = "NoExecute" ∧ (∀ toleration ∈ tolerations, ¬Covers toleration taint) ∨
    taint.effect = "NoSchedule" ∧ ∀ toleration ∈ tolerations, Tolerates toleration taint →
      toleration.operator = "Exists" ∧ toleration.effect ≠ "" ∧ toleration.effect ≠ taint.effect

lemma not_covered_of_slipsBy {ts : List Toleration} (h : SlipsBy ts taint) :
    (taint.effect = "NoSchedule" ∨ taint.effect = "NoExecute") ∧ ∀ toleration ∈ ts, ¬Covers toleration taint := by
  rcases h with ⟨heff, hc⟩ | ⟨heff, hex⟩
  · exact ⟨.inr heff, hc⟩
  · refine ⟨.inl heff, fun toleration hm hc => ?_⟩
    obtain ⟨-, hne, hne'⟩ := hex toleration hm hc.tolerates
    exact hc.2.2.elim hne hne'

lemma covered_of_not_slipsBy {ts : List Toleration} (h : ¬SlipsBy ts taint)
    (heff : taint.effect = "NoSchedule" ∨ taint.effect = "NoExecute") :
    ∃ toleration ∈ ts, Covers toleration taint := by
  by_contra hc
  have hc : ∀ toleration ∈ ts, ¬Covers toleration taint := fun toleration hm ht => hc ⟨toleration, hm, ht⟩
  rcases heff with heff | heff
  · refine h (.inr ⟨heff, fun toleration hm ht => ?_⟩)
    have he := not_or.mp fun he => hc toleration hm (ht.covers he)
    exact ⟨ht.2.resolve_right fun ho => ho.2.2.elim he.1 he.2, he⟩
  · exact h (.inl ⟨heff, hc⟩)

theorem toleratesTaints_exact_iff {node : NodeInfo} {tolerations : List Toleration} :
    (toleratesTaints node tolerations = true ↔
      ∀ taint ∈ node.taints, taint.effect = "NoSchedule" ∨ taint.effect = "NoExecute" →
        ∃ toleration ∈ tolerations, Covers toleration taint) ↔
      (∃ taint ∈ node.taints, taint.effect = "NoSchedule" ∧ ∀ toleration ∈ tolerations, ¬Tolerates toleration taint) ∨
        ∀ taint ∈ node.taints, ¬SlipsBy tolerations taint := by
  constructor
  · intro h
    by_cases ha : toleratesTaints node tolerations = true
    · refine .inr fun taint ht hs => ?_
      obtain ⟨heff, hc⟩ := not_covered_of_slipsBy hs
      obtain ⟨toleration, hm, hcov⟩ := h.mp ha taint ht heff
      exact hc toleration hm hcov
    · rw [toleratesTaints_iff] at ha
      push Not at ha
      exact .inl ha
  · rintro (⟨taint, ht, heff, hnone⟩ | hslip)
    · refine iff_of_false (fun ha => ?_) fun hs => ?_
      · obtain ⟨toleration, hm, htol⟩ := toleratesTaints_iff.mp ha taint ht heff
        exact hnone toleration hm htol
      · obtain ⟨toleration, hm, hc⟩ := hs taint ht (.inl heff)
        exact hnone toleration hm hc.tolerates
    · have hcov := fun taint ht => covered_of_not_slipsBy (hslip taint ht)
      refine iff_of_true (toleratesTaints_iff.mpr fun taint ht heff => ?_) hcov
      obtain ⟨toleration, hm, hc⟩ := hcov taint ht (.inl heff)
      exact ⟨toleration, hm, hc.tolerates⟩

def taintedNode (effect : String) : NodeInfo :=
  { id := "n", name := "", capacity := ⟨0, 0, 0, 0, 0⟩, taints := [⟨"k", "", effect⟩] }

theorem uncovered_taints_accepted : toleratesTaints (taintedNode "NoExecute") [] = true ∧
    toleratesTaints (taintedNode "NoSchedule") [⟨"k", "", "Exists", "NoExecute"⟩] = true ∧
    ¬Covers ⟨"k", "", "Exists", "NoExecute"⟩ ⟨"k", "", "NoSchedule"⟩ := by
  refine ⟨rfl, rfl, ?_⟩
  rintro ⟨-, -, he | he⟩ <;> exact absurd he (by decide)

structure Eligible (workload : WorkloadSpec) (node : NodeInfo) : Prop where
  ready : node.state = .ready
  region : workload.placementPolicy.regions = [] ∨ node.region ∈ workload.placementPolicy.regions
  zone : workload.placementPolicy.zones = [] ∨ node.zone ∈ workload.placementPolicy.zones
  selector : ∀ k v, workload.placementPolicy.nodeSelector.lookup k = some v → node.labels.lookup k = some v
  affinity : ∀ rule ∈ workload.placementPolicy.affinity, rule.required = true → rule.type = "node" →
    ∀ k v, rule.matchLabels.lookup k = some v → node.labels.lookup k = some v
  antiAffinity : ∀ rule ∈ workload.placementPolicy.antiAffinity, rule.required = true → rule.type = "node" →
    ¬∀ k v, rule.matchLabels.lookup k = some v → node.labels.lookup k = some v
  tolerated : ∀ taint ∈ node.taints, taint.effect = "NoSchedule" →
    ∃ toleration ∈ workload.placementPolicy.tolerations, Tolerates toleration taint

variable {workload : WorkloadSpec}

lemma eligible_of_policy (hs : node.state = .ready) (hp : matchesPlacementPolicy node workload.placementPolicy = true)
    (ht : toleratesTaints node workload.placementPolicy.tolerations = true) : Eligible workload node := by
  simp only [matchesPlacementPolicy, Bool.and_eq_true, Bool.or_eq_true, List.isEmpty_iff, List.any_eq_true,
    List.all_eq_true, Bool.not_eq_true', Bool.and_eq_false_iff, Bool.not_eq_false', beq_iff_eq] at hp
  obtain ⟨⟨⟨⟨hr, hz⟩, hl⟩, ha⟩, hn⟩ := hp
  have hm : ∀ r : AffinityRule, r.type = "node" → (matchesAffinity node r = true ↔ _) :=
    fun r h => by rw [matchesAffinity, if_pos h, hasLabels_iff]
  refine ⟨hs, by simpa using hr, by simpa using hz, hasLabels_iff.mp hl, ?_, ?_, toleratesTaints_iff.mp ht⟩
  · intro r hmem hreq htype
    rcases ha r hmem with h | h
    · rw [hreq] at h
      cases h
    · exact (hm r htype).mp h
  · intro r hmem hreq htype h
    rcases hn r hmem with h' | h'
    · rw [hreq] at h'
      cases h'
    · rw [(hm r htype).mpr h] at h'
      cases h'

variable {nodes : List NodeInfo}

lemma mem_filterNodes (h : node ∈ filterNodes nodes workload) :
    node ∈ nodes ∧ hasEnoughResources node workload.requests = true ∧ Eligible workload node := by
  simp only [filterNodes, List.mem_filter, Bool.and_eq_true, decide_eq_true_eq] at h
  obtain ⟨hm, ⟨⟨hs, hr⟩, hp⟩, ht⟩ := h
  exact ⟨hm, hr, eligible_of_policy hs hp ht⟩

lemma mem_filterFailedNodes {failed : List String}
    (h : node ∈ filterFailedNodes nodes failed) : node ∈ nodes ∧ node.id ∉ failed := by
  simp only [filterFailedNodes, List.mem_filter, Bool.and_eq_true, decide_eq_true_eq] at h
  exact ⟨h.1, h.2.1⟩

def Choice.Names (c : Choice) (nodes : List ScoredNode) : Prop :=
  ∃ n ∈ nodes, c.nodeID = n.node.id ∧ c.nodeName = n.node.name

lemma Choice.Names.mono {c : Choice} {nodes nodes' : List ScoredNode} (h : c.Names nodes)
    (hs : ∀ n ∈ nodes, n ∈ nodes') : c.Names nodes' := by
  obtain ⟨n, hn, he⟩ := h
  exact ⟨n, hs n hn, he⟩

section Spread

variable {limit : ℕ} {chosen : List Choice} {nodes : List ScoredNode}

lemma length_spreadOverflow (h : chosen.length ≤ limit) : (spreadOverflow limit chosen nodes).length ≤ limit := by
  induction nodes generalizing chosen with
  | nil => exact h
  | cons node nodes ih =>
    rw [spreadOverflow]
    split_ifs with hl hm
    · exact h
    · exact ih h
    · exact ih (by rw [List.length_append]; simp; omega)

lemma spreadOverflow_names (h : ∀ c ∈ chosen, c.Names nodes) :
    ∀ c ∈ spreadOverflow limit chosen nodes, c.Names nodes := by
  suffices hh : ∀ all : List ScoredNode, (∀ n ∈ nodes, n ∈ all) → (∀ c ∈ chosen, c.Names all) →
      ∀ c ∈ spreadOverflow limit chosen nodes, c.Names all from hh nodes (fun _ hn => hn) h
  intro all hs ha
  clear h
  induction nodes generalizing chosen with
  | nil => exact ha
  | cons node nodes ih =>
    obtain ⟨hnode, hs⟩ := List.forall_mem_cons.mp hs
    rw [spreadOverflow]
    split_ifs with hl hm
    · exact ha
    · exact ih hs ha
    · refine ih hs ?_
      intro c hc
      rcases List.mem_append.mp hc with hc | hc
      · exact ha c hc
      · cases List.mem_singleton.mp hc
        exact ⟨node, hnode, rfl, rfl⟩

lemma mem_group {rt : Runtime} {t : String} {g : List ScoredNode}
    (h : g ∈ rt.rangeOrder (groupNodesByTopology rt nodes t)) {n : ScoredNode} (hn : n ∈ g) :
    n ∈ nodes ∧ g = rt.sortSlice (fun a b => a.score > b.score)
      (nodes.filter fun n' => topologyKey t n'.node = topologyKey t n.node) := by
  obtain ⟨key, -, rfl⟩ := List.mem_map.mp ((rt.rangeOrder_perm _).mem_iff.mp h)
  obtain ⟨hm, hk⟩ := List.mem_filter.mp ((rt.sortSlice_perm _ _).mem_iff.mp hn)
  simp only [decide_eq_true_eq] at hk
  exact ⟨hm, by rw [hk]⟩

lemma nodup_groups (rt : Runtime) (nodes : List ScoredNode) (t : String) :
    (rt.rangeOrder (groupNodesByTopology rt nodes t)).Pairwise
      (fun g g' => ∀ n ∈ g, ∀ n' ∈ g', topologyKey t n.node ≠ topologyKey t n'.node) := by
  have hs : ∀ g g' : List ScoredNode,
      (∀ n ∈ g, ∀ n' ∈ g', topologyKey t n.node ≠ topologyKey t n'.node) →
      ∀ n ∈ g', ∀ n' ∈ g, topologyKey t n.node ≠ topologyKey t n'.node :=
    fun g g' h n hn n' hn' he => h n' hn' n hn he.symm
  rw [(rt.rangeOrder_perm _).pairwise_iff (fun h => hs _ _ h), groupNodesByTopology, List.pairwise_map]
  apply (List.nodup_dedup _).imp
  intro k k' hk n hn n' hn'
  have h := (List.mem_filter.mp ((rt.sortSlice_perm _ _).mem_iff.mp hn)).2
  have h' := (List.mem_filter.mp ((rt.sortSlice_perm _ _).mem_iff.mp hn')).2
  simp only [decide_eq_true_eq] at h h'
  rwa [h, h']

end Spread

section Choices

variable (s : SchedulerConfig) (rt : Runtime) {nodes : List ScoredNode} {workload : WorkloadSpec}

lemma spreadSchedule_names : ∀ c ∈ s.spreadSchedule rt nodes workload, c.Names nodes := by
  apply spreadOverflow_names
  intro c hc
  obtain ⟨n, hn, rfl⟩ := List.mem_map.mp (List.mem_of_mem_take hc)
  obtain ⟨g, hg, hh⟩ := List.mem_filterMap.mp hn
  exact ⟨n, (mem_group hg (List.mem_of_mem_head? hh)).1, rfl, rfl⟩

lemma length_spreadSchedule : (s.spreadSchedule rt nodes workload).length ≤ workload.replicas.toInt.toNat :=
  length_spreadOverflow (by rw [List.length_take]; exact min_le_left _ _)

lemma choices_names (cs : List NodeInfo) {c : Choice} (hc : c ∈ s.choices rt cs workload) :
    ∃ node ∈ cs, c.nodeID = node.id ∧ c.nodeName = node.name := by
  suffices h : c.Names (cs.map (s.scorer.scoreNode · workload)) by
    obtain ⟨n, hn, he⟩ := h
    obtain ⟨node, hm, rfl⟩ := List.mem_map.mp hn
    exact ⟨node, hm, he⟩
  have hs : ∀ {c : Choice} {l : List ScoredNode} {le : ScoredNode → ScoredNode → Bool},
      c.Names (rt.sortSlice le l) → c.Names l :=
    fun h => h.mono fun n hn => (rt.sortSlice_perm _ _).mem_iff.mp hn
  simp only [SchedulerConfig.choices] at hc
  split_ifs at hc
  · obtain ⟨p, hp, rfl⟩ := List.mem_map.mp hc
    exact hs (pack_names (List.mem_of_mem_take hp))
  · exact hs (spreadSchedule_names s rt c hc)
  · obtain ⟨n, hn, rfl⟩ := List.mem_map.mp hc
    exact hs ⟨n, List.mem_of_mem_take hn, rfl, rfl⟩

lemma length_choices (cs : List NodeInfo) (h : 0 ≤ workload.replicas) :
    ((s.choices rt cs workload).length : ℤ) ≤ workload.replicas.toInt := by
  have hr : 0 ≤ workload.replicas.toInt := Int64.le_iff_toInt_le.mp h
  simp only [SchedulerConfig.choices]
  split_ifs
  · have hp := length_pack rt (rt.sortSlice (fun a b => a.score > b.score)
      (cs.map (s.scorer.scoreNode · workload))) workload.requests h
    rw [binPackSchedule, List.length_map, List.length_take]
    omega
  · have hs := @length_spreadSchedule s rt (rt.sortSlice (fun a b => a.score > b.score)
      (cs.map (s.scorer.scoreNode · workload))) workload
    omega
  · rw [defaultSchedule, List.length_map, List.length_take]
    omega

@[simp] lemma choices_nil : s.choices rt [] workload = [] := by
  rw [List.eq_nil_iff_forall_not_mem]
  intro c hc
  obtain ⟨node, hnode, -⟩ := choices_names s rt [] hc
  cases hnode

end Choices

variable {cl : ℕ → Time}

lemma mem_decisions {cs : List Choice} {d : ScheduleDecision}
    (h : d ∈ decisions cl workload cs) : ∃ c ∈ cs, d.nodeID = c.nodeID ∧ d.nodeName = c.nodeName := by
  obtain ⟨n, hn, rfl⟩ := List.mem_mapIdx.mp h
  exact ⟨cs[n], List.getElem_mem hn, rfl, rfl⟩

@[simp] lemma length_decisions (c : ℕ → Time) (workload : WorkloadSpec) (cs : List Choice) :
    (decisions c workload cs).length = cs.length := List.length_mapIdx

def rescheduleCandidates (nodes : List NodeInfo) (workload : WorkloadSpec) (failedNodes : List String) : List NodeInfo :=
  filterNodes (filterFailedNodes nodes failedNodes) workload

lemma reschedule_cases (s : SchedulerConfig) (rt : Runtime) (c : ℕ → Time) (nodes : List NodeInfo)
    (workload : WorkloadSpec) (fn : List String) (re : Int64) :
    (0 < workload.rolloutStrategy.minAvailable ∧ re < workload.rolloutStrategy.minAvailable ∧
      ∃ err, s.reschedule rt c nodes workload fn re = .error err) ∨
    ¬(0 < workload.rolloutStrategy.minAvailable ∧ re < workload.rolloutStrategy.minAvailable) ∧
      ∃ r, s.reschedule rt c nodes workload fn re = .ok r ∧
        r.decisions = decisions c workload (s.choices rt (rescheduleCandidates nodes workload fn) workload) := by
  by_cases hg : 0 < workload.rolloutStrategy.minAvailable ∧ re < workload.rolloutStrategy.minAvailable
  · refine .inl ⟨hg.1, hg.2, ?_⟩
    rw [SchedulerConfig.reschedule, if_pos hg]
    exact ⟨_, rfl⟩
  · refine .inr ⟨hg, ?_⟩
    rw [SchedulerConfig.reschedule, if_neg hg, rescheduleCandidates]
    dsimp only
    split_ifs with hh hca hcap
    · rw [List.isEmpty_iff.mp hh]
      refine ⟨_, rfl, ?_⟩
      rw [show filterNodes [] workload = [] from rfl, choices_nil]
      rfl
    · rw [List.isEmpty_iff.mp hca]
      refine ⟨_, rfl, ?_⟩
      rw [choices_nil]
      rfl
    · -- every candidate has passed this check already
      obtain ⟨node, hnode⟩ := List.exists_mem_of_ne_nil _ (mt List.isEmpty_iff.mpr hca)
      rw [Bool.not_eq_true', List.any_eq_false] at hcap
      exact absurd (mem_filterNodes hnode).2.1 (hcap node hnode)
    · exact ⟨_, rfl, rfl⟩

section Soundness

variable {A : Type}

structure ScheduleResult.Sound (m : Manager A) (failed : List String) (workload : WorkloadSpec)
    (r : ScheduleResult) : Prop where
  placed : ∀ d ∈ r.decisions, ∃ node, m.nodes.lookup d.nodeID = some node ∧ d.nodeName = node.name ∧
    d.nodeID ∉ failed ∧ Eligible workload node
  bounded : (r.decisions.length : ℤ) ≤ workload.replicas.toInt
  rest : r.unscheduledReplicas.toInt = workload.replicas.toInt - r.decisions.length

variable {m : Manager A} {failed : List String} {workload : WorkloadSpec}

lemma sound_unplaced {me : String} (h : 0 ≤ workload.replicas) : (unplaced me workload).Sound m failed workload where
  placed := by
    intro d hd
    cases hd
  bounded := Int64.le_iff_toInt_le.mp h
  rest := (sub_zero _).symm

lemma sound_placed {s : SchedulerConfig} {rt : Runtime} {cs : List NodeInfo}
    (h : 0 ≤ workload.replicas) {done partly : String}
    (hc : ∀ node ∈ cs, m.nodes.lookup node.id = some node ∧ node.id ∉ failed ∧ Eligible workload node) :
    (placed done partly (decisions cl workload (s.choices rt cs workload)) workload).Sound m failed workload := by
  have hb := length_choices s rt cs h
  refine ⟨?_, ?_, ?_⟩
  · intro d hd
    obtain ⟨c, hc', hid, hname⟩ := mem_decisions hd
    obtain ⟨node, hn, hcid, hcn⟩ := choices_names s rt cs hc'
    obtain ⟨hl, hf, he⟩ := hc node hn
    rw [hid, hname, hcid, hcn]
    exact ⟨node, hl, rfl, hf, he⟩
  · simpa [placed] using hb
  · have hlt := workload.replicas.toInt_lt
    have hn : (Int64.ofNat (s.choices rt cs workload).length).toInt = (s.choices rt cs workload).length :=
      Int64.toInt_ofNat_of_lt (by omega)
    simp only [placed, length_decisions]
    rw [toInt_sub_of_fits, hn]
    rw [hn]
    exact ⟨by omega, by omega⟩

theorem placements_sound (s : SchedulerConfig) (rt : Runtime) (clock : ℕ → Time) (m : Manager A)
    {nodes : List NodeInfo} (hl : m.Lists nodes) (workload : WorkloadSpec) (hr : 0 ≤ workload.replicas) :
    (s.schedule rt clock nodes workload).Sound m [] workload ∧
      ∀ failedNodes ready r, s.reschedule rt clock nodes workload failedNodes ready = .ok r →
        r.Sound m failedNodes workload := by
  constructor
  · rw [SchedulerConfig.schedule]
    split
    · exact sound_unplaced hr
    · apply sound_placed hr
      intro node hn
      obtain ⟨hm, -, he⟩ := mem_filterNodes hn
      exact ⟨(hl.2 node).mp hm, List.not_mem_nil, he⟩
  · intro failedNodes ready r h
    simp only [SchedulerConfig.reschedule] at h
    split_ifs at h
    · cases h
      exact sound_unplaced hr
    · cases h
      exact sound_unplaced hr
    · cases h
      exact sound_unplaced hr
    · cases h
      apply sound_placed hr
      intro node hn
      obtain ⟨hm, -, he⟩ := mem_filterNodes hn
      obtain ⟨hm, hf⟩ := mem_filterFailedNodes hm
      exact ⟨(hl.2 node).mp hm, hf, he⟩

def binpackConfig : SchedulerConfig := ⟨⟨0.25, 0.30, 0.15, 0.20, 0.10⟩, "zone", "binpack"⟩

def idleNode : NodeInfo :=
  { id := "n1", name := "node-1", state := .ready, capacity := ⟨1000, 1000, 1000, 10, 0⟩ }

def idleCluster : Manager A := .single A idleNode

lemma lists_single {node : NodeInfo}
    (h : ∀ id, m.nodes.lookup id = if id = node.id then some node else none) : m.Lists [node] := by
  refine ⟨List.nodup_singleton _, ?_⟩
  intro n'
  rw [List.mem_singleton, h]
  constructor
  · rintro rfl
    exact if_pos rfl
  · intro h'
    split_ifs at h'
    exact (Option.some.inj h').symm

lemma idleCluster_lists : (idleCluster : Manager A).Lists [idleNode] := lists_single fun id => lookup_insert_if _ id _ _

def smallWorkload (replicas : Int64) (requests : ResourceSpec) : WorkloadSpec :=
  { id := "w", name := "web", replicas := replicas, requests := requests }

theorem placements_sound_oneNode :
    ((binpackConfig.schedule plainRuntime (fun _ => 0) [idleNode] (smallWorkload 3 ⟨400, 100, 0, 0, 0⟩)).decisions.map
        ScheduleDecision.nodeID = ["n1", "n1"]) ∧
      (binpackConfig.schedule plainRuntime (fun _ => 0) [idleNode] (smallWorkload 3 ⟨400, 100, 0, 0, 0⟩)).Sound
        (idleCluster : Manager Unit) [] (smallWorkload 3 ⟨400, 100, 0, 0, 0⟩) :=
  ⟨by decide, (placements_sound binpackConfig plainRuntime _ idleCluster idleCluster_lists _ (by decide)).1⟩

end Soundness

end Cloudless.Scheduler
