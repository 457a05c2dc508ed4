import Cloudless.Scheduler.Packing

/-! Preemption: the containers that give way to a workload of high priority, taken one by one until they free enough. -/

namespace Cloudless.Scheduler

open Foundations.GoStd Cloudless.Membership

structure PreemptionCandidate where
  workloadID : String
  priority : Int64
  nodeID : String
  resources : ResourceSpec

def totalNeeded (workload : WorkloadSpec) : ResourceSpec where
  cpuMillicores := workload.requests.cpuMillicores * workload.replicas
  memoryBytes := workload.requests.memoryBytes * workload.replicas
  storageBytes := workload.requests.storageBytes * workload.replicas
  bandwidthBPS := workload.requests.bandwidthBPS * workload.replicas
  gpuCount := workload.requests.gpuCount * workload.replicas.toInt32

-- The containers do not record a priority.
def preemptionCandidates (nodes : List NodeInfo) : List PreemptionCandidate :=
  (nodes.filter fun node => ¬(node.state = .draining ∨ node.state = .offline ∨ node.state = .failed)).flatMap fun node =>
    (node.containers.filter fun container => container.workloadID ≠ "").map fun container =>
      ⟨container.workloadID, 50, node.id, container.usage⟩

def sortedCandidates (rt : Runtime) (nodes : List NodeInfo) : List PreemptionCandidate :=
  rt.sortSlice (fun a b => a.priority < b.priority) (preemptionCandidates nodes)

def enough (needed freed : ResourceSpec) : Bool :=
  needed.cpuMillicores ≤ freed.cpuMillicores && needed.memoryBytes ≤ freed.memoryBytes &&
    needed.storageBytes ≤ freed.storageBytes && needed.bandwidthBPS ≤ freed.bandwidthBPS &&
    needed.gpuCount ≤ freed.gpuCount

def addFreed (freed : ResourceSpec) (candidate : PreemptionCandidate) : ResourceSpec where
  cpuMillicores := freed.cpuMillicores + candidate.resources.cpuMillicores
  memoryBytes := freed.memoryBytes + candidate.resources.memoryBytes
  storageBytes := freed.storageBytes + candidate.resources.storageBytes
  bandwidthBPS := freed.bandwidthBPS + candidate.resources.bandwidthBPS
  gpuCount := freed.gpuCount + candidate.resources.gpuCount

def selectCandidates (needed : ResourceSpec) : ResourceSpec → List PreemptionCandidate → List PreemptionCandidate
  | _, [] => []
  | freed, candidate :: candidates =>
    if enough needed freed then [] else candidate :: selectCandidates needed (addFreed freed candidate) candidates

def preempted (rt : Runtime) (nodes : List NodeInfo) (priority : Int64) (workload : WorkloadSpec) :
    List PreemptionCandidate :=
  if priority ≤ 100 then []
  else
    let selected := selectCandidates (totalNeeded workload) noUsage (sortedCandidates rt nodes)
    if enough (totalNeeded workload) (selected.foldl addFreed noUsage) then selected else []

def preemptWorkloads (rt : Runtime) (nodes : List NodeInfo) (priority : Int64) (workload : WorkloadSpec) :
    List String :=
  (preempted rt nodes priority workload).map PreemptionCandidate.workloadID

variable {needed : ResourceSpec} {candidates : List PreemptionCandidate} {workload : WorkloadSpec}

def Dimension.width : Dimension → ℕ
  | .gpu => 32
  | _ => 64

def freedBy (candidates : List PreemptionCandidate) (d : Dimension) : ℤ :=
  (candidates.map fun candidate => amount candidate.resources d).sum

def Sufficient (workload : WorkloadSpec) (candidates : List PreemptionCandidate) : Prop :=
  ∀ d, workload.replicas.toInt * amount workload.requests d ≤ freedBy candidates d

instance : Decidable (Sufficient workload candidates) := inferInstanceAs (Decidable (∀ _, _))

/-- `Sufficient` as the machine finds it, with products and sums that wrap around at the width of their type. -/
def SufficientWrapped (workload : WorkloadSpec) (candidates : List PreemptionCandidate) : Prop :=
  ∀ d, (workload.replicas.toInt * amount workload.requests d).bmod (2 ^ d.width) ≤
    (freedBy candidates d).bmod (2 ^ d.width)

lemma enough_iff {f : ResourceSpec} : enough needed f = true ↔ ∀ d, amount needed d ≤ amount f d := by
  simp only [enough, Bool.and_eq_true, decide_eq_true_eq, Int64.le_iff_toInt_le, Int32.le_iff_toInt_le, and_assoc]
  exact ⟨fun h d => by cases d <;> simp [amount, h], fun h => ⟨h .cpu, h .memory, h .storage, h .bandwidth, h .gpu⟩⟩

lemma amount_totalNeeded (d : Dimension) : amount (totalNeeded workload) d =
    (workload.replicas.toInt * amount workload.requests d).bmod (2 ^ d.width) := by
  cases d <;> simp [amount, totalNeeded, Dimension.width, mul_comm]

lemma amount_foldl (d : Dimension) : amount (candidates.foldl addFreed noUsage) d =
    (freedBy candidates d).bmod (2 ^ d.width) := by
  induction candidates using List.reverseRecOn with
  | nil => cases d <;> rfl
  | append_singleton candidates c ih =>
    rw [List.foldl_append, freedBy, List.map_append, List.sum_append, ← Int.bmod_add_bmod]
    change _ = ((freedBy candidates d).bmod _ + _).bmod _
    rw [← ih]
    cases d <;> simp [amount, addFreed, Dimension.width]

lemma enough_foldl_iff : enough (totalNeeded workload) (candidates.foldl addFreed noUsage) = true ↔
    SufficientWrapped workload candidates := by
  simp only [enough_iff, amount_totalNeeded, amount_foldl, SufficientWrapped]

lemma selectCandidates_eq_take (freed : ResourceSpec) (candidates : List PreemptionCandidate) :
    selectCandidates needed freed candidates =
      candidates.take (selectCandidates needed freed candidates).length := by
  induction candidates generalizing freed with
  | nil => rfl
  | cons c candidates ih =>
    rw [selectCandidates]
    split_ifs with h
    · rfl
    · rw [List.length_cons, List.take_succ_cons, ← ih]

lemma not_enough_take (freed : ResourceSpec) (candidates : List PreemptionCandidate) {n : ℕ}
    (hn : n < (selectCandidates needed freed candidates).length) :
    ¬enough needed ((candidates.take n).foldl addFreed freed) = true := by
  induction candidates generalizing freed n with
  | nil => cases hn
  | cons c candidates ih =>
    rw [selectCandidates] at hn
    split_ifs at hn with h
    · cases hn
    · cases n with
      | zero => exact h
      | succ n => exact ih _ (Nat.lt_of_succ_lt_succ hn)

lemma enough_selectCandidates (freed : ResourceSpec) (candidates : List PreemptionCandidate) {n : ℕ}
    (h : enough needed ((candidates.take n).foldl addFreed freed) = true) :
    enough needed ((selectCandidates needed freed candidates).foldl addFreed freed) = true := by
  induction candidates generalizing freed n with
  | nil => rwa [List.take_nil] at h
  | cons c candidates ih =>
    rw [selectCandidates]
    split_ifs with he
    · exact he
    · cases n with
      | zero => exact absurd h he
      | succ n => exact ih _ h

variable {rt : Runtime} {nodes : List NodeInfo} {priority : Int64}

/-- What is returned: nothing, or the candidates up to the first at which the wrapped sums are enough. -/
lemma preempted_cases (rt : Runtime) (nodes : List NodeInfo) (priority : Int64) (workload : WorkloadSpec) :
    preempted rt nodes priority workload = [] ∧ (100 < priority → ¬SufficientWrapped workload [] →
      ∀ n, ¬SufficientWrapped workload ((sortedCandidates rt nodes).take n)) ∨
    100 < priority ∧ ∃ k, 0 < k ∧ k ≤ (sortedCandidates rt nodes).length ∧
      preempted rt nodes priority workload = (sortedCandidates rt nodes).take k ∧
      SufficientWrapped workload ((sortedCandidates rt nodes).take k) ∧
      ∀ m < k, ¬SufficientWrapped workload ((sortedCandidates rt nodes).take m) := by
  have ht := @selectCandidates_eq_take (totalNeeded workload) noUsage (sortedCandidates rt nodes)
  have hlt : ∀ m < _, ¬SufficientWrapped workload ((sortedCandidates rt nodes).take m) := fun m hm =>
    mt enough_foldl_iff.mpr (not_enough_take noUsage (sortedCandidates rt nodes) hm)
  rw [preempted]
  dsimp only
  split_ifs with hp he
  · exact .inl ⟨rfl, fun hp' => absurd hp (Int64.not_le.mpr hp')⟩
  · generalize (selectCandidates (totalNeeded workload) noUsage (sortedCandidates rt nodes)).length = k at ht hlt
    rw [ht, enough_foldl_iff] at he
    rw [ht]
    rcases Nat.eq_zero_or_pos (min k (sortedCandidates rt nodes).length) with h0 | hpos
    · have hnil : (sortedCandidates rt nodes).take k = [] := List.length_eq_zero_iff.mp (by rwa [List.length_take])
      rw [hnil] at he ⊢
      exact .inl ⟨rfl, fun _ h => absurd he h⟩
    · refine .inr ⟨Int64.not_le.mp hp, min k (sortedCandidates rt nodes).length, hpos, min_le_right _ _, ?_⟩
      rw [← List.take_take, List.take_length]
      exact ⟨rfl, he, fun m hm => hlt m (hm.trans_le (min_le_left _ _))⟩
  · exact .inl ⟨rfl, fun _ _ n hn => he (enough_selectCandidates noUsage _ (enough_foldl_iff.mpr hn))⟩

theorem preemption_exact_iff (rt : Runtime) (nodes : List NodeInfo) (priority : Int64) (workload : WorkloadSpec) :
    let candidates := sortedCandidates rt nodes
    let selected := preempted rt nodes priority workload
    (preemptWorkloads rt nodes priority workload ≠ [] → Sufficient workload selected ∧
        (∀ n < selected.length, ¬Sufficient workload (selected.take n)) ∧
        workload.id ∉ preemptWorkloads rt nodes priority workload) ↔
      (100 < priority → ¬SufficientWrapped workload [] → (∃ n, SufficientWrapped workload (candidates.take n)) →
        (∀ n, (∀ m < n, ¬Sufficient workload (candidates.take m) ∧ ¬SufficientWrapped workload (candidates.take m)) →
          (SufficientWrapped workload (candidates.take n) ↔ Sufficient workload (candidates.take n))) ∧
        ∃ n, Sufficient workload (candidates.take n) ∧
          ∀ candidate ∈ candidates.take n, candidate.workloadID ≠ workload.id) := by
  intro candidates selected
  rcases preempted_cases rt nodes priority workload with ⟨hnil, hnone⟩ | ⟨hp, k, hpos, hk, hsel, henough, hfirst⟩
  · refine iff_of_true (fun hne => absurd ?_ hne) fun hp h0 ⟨n, hn⟩ => absurd hn (hnone hp h0 n)
    rw [preemptWorkloads, hnil, List.map_nil]
  · have hlen : selected.length = k := by
      rw [show selected = _ from hsel, List.length_take, min_eq_left hk]
    have htake : ∀ n < k, selected.take n = candidates.take n := by
      intro n hn
      rw [show selected = _ from hsel, List.take_take, min_eq_left hn.le]
    have hown : workload.id ∉ preemptWorkloads rt nodes priority workload ↔
        ∀ candidate ∈ candidates.take k, candidate.workloadID ≠ workload.id := by
      rw [preemptWorkloads, hsel, List.mem_map, not_exists]
      exact forall_congr' fun candidate => not_and
    have hne : preemptWorkloads rt nodes priority workload ≠ [] := by
      rw [preemptWorkloads, ne_eq, List.map_eq_nil_iff, ← List.length_eq_zero_iff]
      exact fun h0 => hpos.ne' (hlen ▸ h0)
    rw [forall_prop_of_true hne, forall_prop_of_true hp, forall_prop_of_true (show ¬SufficientWrapped workload [] from hfirst 0 hpos),
      forall_prop_of_true ⟨k, henough⟩, hown, hlen]
    constructor
    · rintro ⟨hs, hmin, ho⟩
      refine ⟨fun n hn => ?_, k, hsel ▸ hs, ho⟩
      rcases lt_trichotomy n k with hlt | rfl | hgt
      · exact iff_of_false (hfirst n hlt) (htake n hlt ▸ hmin n hlt)
      · exact iff_of_true henough (hsel ▸ hs)
      · exact absurd henough (hn k hgt).2
    · rintro ⟨hagree, n, hn, ho⟩
      -- up to the end of the selection neither comparison has been met
      have hmin : ∀ m < k, ¬Sufficient workload (candidates.take m) := by
        intro m
        induction m using Nat.strong_induction_on with
        | _ m ih =>
          intro hm
          rw [← hagree m fun j hj => ⟨ih j hj (hj.trans hm), hfirst j (hj.trans hm)⟩]
          exact hfirst m hm
      refine ⟨?_, fun m hm => htake m hm ▸ hmin m hm, fun candidate hc => ho candidate ?_⟩
      · rw [show selected = _ from hsel]
        exact (hagree k fun j hj => ⟨hmin j hj, hfirst j hj⟩).mp henough
      · have hle : k ≤ n := not_lt.mp fun hlt => hmin n hlt hn
        exact (List.take_sublist_take_left hle).mem hc

def busyNode (workloadID : String) (usage : ResourceUsage) : NodeInfo :=
  { idleNode with state := .ready, containers := [⟨"container", workloadID, "running", usage⟩] }

def urgent (replicas : Int64) (requests : ResourceSpec) : WorkloadSpec where
  id := "urgent"
  name := "urgent"
  replicas := replicas
  requests := requests

/-- The product of 2^62 millicores and two replicas wraps around to a negative number; and the containers of the
workload itself are candidates. -/
theorem preemption_fails :
    let tight := [busyNode "batch" ⟨1, 2, 0, 0, 0⟩]
    let wrapped := urgent 2 ⟨4611686018427387904, 1, 0, 0, 0⟩
    let own := [busyNode "urgent" ⟨4, 0, 0, 0, 0⟩]
    preemptWorkloads plainRuntime tight 200 wrapped = ["batch"] ∧
      ¬Sufficient wrapped (preempted plainRuntime tight 200 wrapped) ∧
      preemptWorkloads plainRuntime own 200 (urgent 2 ⟨2, 0, 0, 0, 0⟩) = ["urgent"] := by
  decide +kernel

end Cloudless.Scheduler
