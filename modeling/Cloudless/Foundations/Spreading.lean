import Mathlib.Tactic

/-! Selections in two passes: one item of each group first, and then any of the others. -/

namespace Cloudless.Foundations.Spreading

variable {N I K : Type} [DecidableEq I] [DecidableEq K] (id : N → I) (key : N → K)

def fill (limit : ℕ) : List I → List N → List I
  | chosen, [] => chosen
  | chosen, n :: nodes =>
    if limit ≤ chosen.length then chosen
    else if id n ∈ chosen then fill limit chosen nodes
    else fill limit (chosen ++ [id n]) nodes

structure Spread (nodes : List N) (limit : ℕ) (ids : List I) : Prop where
  length_eq : ids.length = min limit nodes.length
  nodup : ids.Nodup
  subset : ids ⊆ nodes.map id
  card_keys : ((nodes.filter fun n => id n ∈ ids).map key).toFinset.card = min limit (nodes.map key).toFinset.card

variable {id key} {limit : ℕ} {nodes : List N}

lemma fill_of_le {chosen : List I} (h : limit ≤ chosen.length) : fill id limit chosen nodes = chosen := by
  cases nodes <;> simp [fill, h]

lemma fill_eq {c : List I} (hn : (nodes.map id).Nodup) (hc : c.length ≤ limit) : fill id limit c nodes =
      c ++ ((nodes.map id).filter (· ∉ c)).take (limit - c.length) := by
  induction nodes generalizing c with
  | nil => simp [fill]
  | cons n nodes ih =>
    simp only [List.map_cons, List.nodup_cons] at hn
    rw [fill]
    split_ifs with hl hm
    · simp [Nat.sub_eq_zero_of_le hl]
    · simp [ih hn.2 hc, hm]
    · have hf : (nodes.map id).filter (· ∉ c ++ [id n]) = (nodes.map id).filter (· ∉ c) := by
        apply List.filter_congr
        intro i hi
        have hne : i ≠ id n := fun he => hn.1 (he ▸ hi)
        simp [hne]
      have hli : limit - c.length = limit - (c.length + 1) + 1 := by omega
      rw [ih hn.2 (by simp; omega), hf]
      simp [hm, hli]

lemma length_filter_notMem {l chosen : List I} (hl : l.Nodup) (hc : chosen.Nodup) (hsub : chosen ⊆ l) :
    chosen.length + (l.filter (· ∉ chosen)).length = l.length := by
  have hp : (l.filter (· ∈ chosen)).Perm chosen := by
    rw [List.perm_ext_iff_of_nodup (hl.filter _) hc]
    simpa using fun i hi => hsub hi
  have hs := List.length_eq_length_filter_add (l := l) (· ∈ chosen)
  rw [hp.length_eq] at hs
  simpa using hs.symm

lemma perm_flatMap_filter {keys : List K} (hkeys : keys.Nodup) (nodes : List N) :
    (keys.flatMap fun k => nodes.filter fun n => key n = k).Perm (nodes.filter fun n => key n ∈ keys) := by
  induction keys with
  | nil => simp
  | cons k keys ih =>
    rw [List.nodup_cons] at hkeys
    have hs := List.filter_append_perm (fun n => key n = k) (nodes.filter fun n => key n ∈ k :: keys)
    have hf : (nodes.filter fun n => key n ∈ k :: keys).filter (fun n => key n = k) =
        nodes.filter fun n => key n = k := by
      rw [List.filter_filter]
      apply List.filter_congr
      intro n _
      by_cases hk : key n = k <;> simp [hk]
    have ho : (nodes.filter fun n => key n ∈ k :: keys).filter (fun n => !decide (key n = k)) =
        nodes.filter fun n => key n ∈ keys := by
      rw [List.filter_filter]
      apply List.filter_congr
      intro n _
      by_cases hk : key n = k
      · simp [hk, hkeys.1]
      · simp [hk]
    rw [hf, ho] at hs
    exact ((ih hkeys.2).append_left _).trans hs

lemma spread_fill {be r : List N} (hn : (nodes.map id).Nodup) (hs : be ⊆ nodes) (hkeys : (be.map key).Nodup)
    (hl : be.length ≤ limit) (hco : be.length < limit → nodes.map key ⊆ be.map key)
    (hrest : r.Perm nodes) : Spread id key nodes limit (fill id limit (be.map id) r) := by
  have hr' := hrest.map id
  have hids : (be.map id).Nodup :=
    (List.Nodup.of_map _ hkeys).map_on fun a ha b hb he => List.inj_on_of_nodup_map hn (hs ha) (hs hb) he
  have hid : be.map id ⊆ r.map id := fun i hi => hr'.mem_iff.mpr (List.map_subset id hs hi)
  have hch : (be.map id).length ≤ limit := by rwa [List.length_map]
  have hf := fill_eq (hr'.nodup_iff.mpr hn) hch
  have hcou := length_filter_notMem (hr'.nodup_iff.mpr hn) hids hid
  rw [hf]
  constructor
  · simp only [List.length_append, List.length_take, List.length_map] at hcou ⊢
    have := hrest.length_eq
    omega
  · refine hids.append (((hr'.nodup_iff.mpr hn).filter _).sublist (List.take_sublist _ _)) ?_
    intro i hi hi'
    exact of_decide_eq_true (List.mem_filter.mp (List.mem_of_mem_take hi')).2 hi
  · intro i hi
    rcases List.mem_append.mp hi with hi | hi
    · exact List.map_subset id hs hi
    · exact hr'.mem_iff.mp (List.mem_of_mem_filter (List.mem_of_mem_take hi))
  · have hbest : (be.map key).toFinset.card = be.length := by rw [List.toFinset_card_of_nodup hkeys, List.length_map]
    rcases hl.lt_or_eq with hlt | he
    · have hall : (nodes.map key).toFinset = (be.map key).toFinset := by
        ext k
        simp only [List.mem_toFinset]
        exact ⟨fun hk => hco hlt hk, fun hk => List.map_subset key hs hk⟩
      have hr : ((nodes.filter fun n => id n ∈ be.map id ++
          ((r.map id).filter (· ∉ be.map id)).take (limit - (be.map id).length)).map key).toFinset =
          (nodes.map key).toFinset := by
        apply Finset.Subset.antisymm
        · intro k hk
          simp only [List.mem_toFinset, List.mem_map, List.mem_filter] at hk ⊢
          obtain ⟨n, ⟨hmem, -⟩, rfl⟩ := hk
          exact ⟨n, hmem, rfl⟩
        · rw [hall]
          intro k hk
          obtain ⟨n, hmem, rfl⟩ := List.mem_map.mp (List.mem_toFinset.mp hk)
          simp only [List.mem_toFinset, List.mem_map, List.mem_filter]
          exact ⟨n, ⟨hs hmem, by simpa using .inl ⟨n, hmem, rfl⟩⟩, rfl⟩
      rw [hr, hall, hbest]
      omega
    · have ht : limit - (be.map id).length = 0 := by rw [List.length_map, he, Nat.sub_self]
      have hr : ((nodes.filter fun n => id n ∈ be.map id).map key).toFinset = (be.map key).toFinset := by
        ext k
        simp only [List.mem_toFinset, List.mem_map, List.mem_filter, decide_eq_true_eq]
        constructor
        · rintro ⟨n, ⟨hmem, m, hm, he⟩, rfl⟩
          exact ⟨m, hm, by rw [List.inj_on_of_nodup_map hn (hs hm) hmem he]⟩
        · rintro ⟨n, hmem, rfl⟩
          exact ⟨n, ⟨hs hmem, n, hmem, rfl⟩, rfl⟩
      have hle : (be.map key).toFinset.card ≤ (nodes.map key).toFinset.card :=
        Finset.card_le_card fun k hk => List.mem_toFinset.mpr (List.map_subset key hs (List.mem_toFinset.mp hk))
      rw [ht, List.take_zero, List.append_nil, hr, hbest]
      omega

end Cloudless.Foundations.Spreading
