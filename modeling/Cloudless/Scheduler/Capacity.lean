import Cloudless.Scheduler.Commitments

namespace Cloudless.Scheduler

open Foundations.GoStd Cloudless.Membership

/-- The nodes can share out that many replicas among them, and what they have free is known exactly. -/
def CanHold (requests : ResourceSpec) (n : ℕ) (nodes : List NodeInfo) : Prop :=
  ∃ share : String → ℕ, n ≤ (nodes.map fun node => share node.id).sum ∧
    ∀ node ∈ nodes, 0 < share node.id → ∀ d : Dimension, d.Checked →
      FitsInt64 (free node d) ∧ share node.id * amount requests d ≤ free node d

lemma CanHold.perm {requests : ResourceSpec} {n : ℕ} {nodes nodes' : List NodeInfo} (h : CanHold requests n nodes)
    (hp : nodes.Perm nodes') : CanHold requests n nodes' := by
  obtain ⟨share, hsum, hs⟩ := h
  refine ⟨share, ?_, fun node hnode => hs node (hp.mem_iff.mpr hnode)⟩
  rwa [← (hp.map fun node => share node.id).sum_eq]

section Strategies

variable {w : WorkloadSpec} {nodes : List ScoredNode}

lemma CanHold.le_sum_room {n : ℕ} (h : CanHold w.requests n (nodes.map ScoredNode.node)) :
    (n : ℕ∞) ≤ (nodes.map fun n => n.bin.room (needOf w.requests)).sum := by
  obtain ⟨s, hsum, hs⟩ := h
  have hl : ∀ n ∈ nodes, (s n.node.id : ℕ∞) ≤ n.bin.room (needOf w.requests) := by
    intro n hn
    rcases Nat.eq_zero_or_pos (s n.node.id) with h0 | hpos
    · rw [h0]
      exact bot_le
    · have hnode := hs n.node (List.mem_map_of_mem hn) hpos
      rw [room_bin fun d hd => (hnode d hd).1]
      exact le_iSup_of_le ⟨s n.node.id, fun d hd => (hnode d hd).2⟩ le_rfl
  rw [List.map_map] at hsum
  calc (n : ℕ∞) ≤ ((nodes.map fun n => s n.node.id).sum : ℕ) := by exact_mod_cast hsum
    _ = (nodes.map fun n => (s n.node.id : ℕ∞)).sum := by rw [Nat.cast_list_sum, List.map_map]; rfl
    _ ≤ _ := List.sum_le_sum hl

lemma length_pack_of_canHold {rt : Runtime} (hq : ∀ d, 0 ≤ amount w.requests d)
    (ho : CanHold w.requests w.replicas.toInt.toNat (nodes.map ScoredNode.node)) :
    (pack rt nodes w.requests w.replicas).length = w.replicas.toInt.toNat := by
  have hl := length_pack_eq nodes rt w.replicas fun d _ => hq d
  rw [min_eq_left ho.le_sum_room] at hl
  exact_mod_cast hl

variable (s : SchedulerConfig)

def SchedulerConfig.places (replicas nodes : ℕ) : ℕ :=
  if s.packingStrategy = "binpack" then replicas else min replicas nodes

lemma length_choices_eq (rt : Runtime) {cs : List NodeInfo}
    (hn : (cs.map NodeInfo.id).Nodup) (hq : ∀ d, 0 ≤ amount w.requests d)
    (ho : CanHold w.requests w.replicas.toInt.toNat cs) :
    (s.choices rt cs w).length = s.places w.replicas.toInt.toNat cs.length := by
  have hs := nodup_sorted s rt hn w
  have hp := rt.sortSlice_perm (fun a b => a.score > b.score) (cs.map (s.scorer.scoreNode · w))
  rw [SchedulerConfig.choices, SchedulerConfig.places]
  split_ifs
  · have hh : CanHold w.requests w.replicas.toInt.toNat
        ((rt.sortSlice (fun a b => a.score > b.score) (cs.map (s.scorer.scoreNode · w))).map
          ScoredNode.node) := by
      have hno := hp.map ScoredNode.node
      rw [List.map_map] at hno
      exact ho.perm (hno.trans (by rw [show ScoredNode.node ∘ _ = id from rfl, List.map_id])).symm
    rw [binPackSchedule, List.length_map, List.length_take, length_pack_of_canHold hq hh]
    omega
  · rw [length_spreadSchedule_eq s rt hs, hp.length_eq, List.length_map]
  · rw [defaultSchedule, List.length_map, List.length_take, hp.length_eq, List.length_map]

lemma fits_bin {id : String} {n : ScoredNode} {r : ResourceSpec} :
    fits ⟨id, r.cpuMillicores, r.memoryBytes, r.storageBytes⟩ n.bin = hasEnoughResources n.node r := rfl

lemma pack_ne_nil {rt : Runtime} (hne : nodes ≠ [])
    (hroom : ∀ n ∈ nodes, hasEnoughResources n.node w.requests = true) (hr : 0 < w.replicas.toInt) :
    pack rt nodes w.requests w.replicas ≠ [] := by
  rw [pack]
  have hb := rt.sortSlice_perm (fun a b => a.score > b.score) (createBins nodes)
  have hit := rt.sortSlice_perm (fun a b => a.size > b.size) (createItems w.requests w.replicas)
  generalize rt.sortSlice _ (createBins nodes) = bi at hb ⊢
  generalize rt.sortSlice _ (createItems w.requests w.replicas) = it at hit ⊢
  cases it with
  | nil =>
    have hl := hit.length_eq
    rw [createItems, List.length_map, List.length_range, List.length_nil] at hl
    omega
  | cons ite it =>
    cases bi with
    | nil => exact absurd (List.map_eq_nil_iff.mp hb.nil_eq.symm) hne
    | cons bin bi =>
      obtain ⟨n, hn, rfl⟩ := List.mem_map.mp (hb.mem_iff.mp (List.mem_cons_self ..))
      obtain ⟨i, -, rfl⟩ := List.mem_map.mp (hit.mem_iff.mp (List.mem_cons_self ..))
      have hroom := hroom n hn
      rw [← fits_bin] at hroom
      rw [packItems, placeItem, if_pos hroom]
      exact List.cons_ne_nil _ _

lemma choices_eq_nil_iff (rt : Runtime) {cs : List NodeInfo} (hn : (cs.map NodeInfo.id).Nodup)
    (hr : ∀ no ∈ cs, hasEnoughResources no w.requests = true) :
    s.choices rt cs w = [] ↔ cs = [] ∨ w.replicas.toInt ≤ 0 := by
  have hs := nodup_sorted s rt hn w
  have hperm := rt.sortSlice_perm (fun a b => a.score > b.score) (cs.map (s.scorer.scoreNode · w))
  have hl := hperm.length_eq
  rw [List.length_map] at hl
  rw [SchedulerConfig.choices]
  split_ifs
  · rw [binPackSchedule, List.map_eq_nil_iff, List.take_eq_nil_iff, or_iff_right (by omega)]
    constructor
    · intro hnil
      by_contra hnot
      rw [not_or, not_le] at hnot
      refine pack_ne_nil ?_ ?_ hnot.2 hnil
      · rw [← List.length_pos_iff, hl]
        exact List.length_pos_iff.mpr hnot.1
      · intro n hm
        obtain ⟨no, hnode, rfl⟩ := List.mem_map.mp (hperm.mem_iff.mp hm)
        exact hr no hnode
    · rintro (hnone | hz)
      · rw [hnone, List.map_nil] at hperm ⊢
        rw [hperm.eq_nil, List.eq_nil_iff_forall_not_mem]
        intro p hp
        obtain ⟨n, hn, -⟩ := pack_names hp
        cases hn
      · rw [pack, createItems, show w.replicas.toInt.toNat = 0 by omega, List.range_zero, List.map_nil,
          (rt.sortSlice_perm _ []).eq_nil]
        rfl
  · rw [← List.length_eq_zero_iff, length_spreadSchedule_eq s rt hs, hl, ← List.length_eq_zero_iff]
    omega
  · rw [← List.length_eq_zero_iff, defaultSchedule, List.length_map, List.length_take, hl, ← List.length_eq_zero_iff]
    omega

end Strategies

end Cloudless.Scheduler
