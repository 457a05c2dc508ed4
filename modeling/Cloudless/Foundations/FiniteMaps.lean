import Mathlib.Data.Finmap
import Mathlib.Tactic

namespace Cloudless.Foundations.FiniteMaps

universe u v

abbrev FMap (K : Type u) (V : Type v) := Finmap (fun _ : K => V)

variable {K : Type u} {V W : Type v} [DecidableEq K] {k : K} {v : V}

lemma insert_erase_self (m : FMap K V) (h : m.lookup k = some v) : (m.erase k).insert k v = m := by
  apply Finmap.ext_lookup
  intro j
  by_cases hj : j = k
  · subst hj
    rw [Finmap.lookup_insert, h]
  · rw [Finmap.lookup_insert_of_ne _ hj, Finmap.lookup_erase_ne hj]

variable {m : FMap K V}

lemma entries_eq_cons (h : m.lookup k = some v) : m.entries = ⟨k, v⟩ ::ₘ (m.erase k).entries := by
  have hn : k ∉ m.erase k := Finmap.notMem_erase_self
  rw [← Finmap.entries_insert_of_notMem hn, insert_erase_self m h]

lemma erase_of_lookup_none (m : FMap K V) (h : m.lookup k = none) : m.erase k = m := by
  apply Finmap.ext_lookup
  intro j
  by_cases hj : j = k
  · subst hj
    rw [Finmap.lookup_erase, h]
  · rw [Finmap.lookup_erase_ne hj]

lemma erase_insert (m : FMap K V) (k : K) (v : V) : (m.insert k v).erase k = m.erase k := by
  apply Finmap.ext_lookup
  intro j
  by_cases hj : j = k
  · subst hj
    rw [Finmap.lookup_erase, Finmap.lookup_erase]
  · rw [Finmap.lookup_erase_ne hj, Finmap.lookup_erase_ne hj, Finmap.lookup_insert_of_ne _ hj]

lemma insert_lookup_self (m : FMap K V) (h : m.lookup k = some v) : m.insert k v = m := by
  apply Finmap.ext_lookup
  intro j
  by_cases hj : j = k
  · subst hj
    rw [Finmap.lookup_insert, h]
  · rw [Finmap.lookup_insert_of_ne _ hj]

lemma lookup_insert_if (m : FMap K V) (j k : K) (v : V) :
    (m.insert k v).lookup j = if j = k then some v else m.lookup j := by
  split_ifs with h
  · subst h
    exact Finmap.lookup_insert m
  · exact Finmap.lookup_insert_of_ne m h

lemma lookup_erase_if (m : FMap K V) (j k : K) : (m.erase k).lookup j = if j = k then none else m.lookup j := by
  split_ifs with h
  · subst h
    exact Finmap.lookup_erase j m
  · exact Finmap.lookup_erase_ne h

section Pointwise

variable {W : Type*} {R : K → V → W → Prop} {n : FMap K W} {w : W}

lemma rel_lookup {r : V → W → Prop} (h : Option.Rel r (m.lookup k) (n.lookup k)) (hm : m.lookup k = some v) :
    ∃ w, n.lookup k = some w ∧ r v w := by
  rw [hm] at h
  generalize n.lookup k = y at h
  cases h with
  | some hr => exact ⟨_, rfl, hr⟩

lemma rel_insert (h : ∀ j, j ≠ k → Option.Rel (R j) (m.lookup j) (n.lookup j)) (hr : R k v w) (j : K) :
    Option.Rel (R j) ((m.insert k v).lookup j) ((n.insert k w).lookup j) := by
  rw [lookup_insert_if, lookup_insert_if]
  split_ifs with hj
  · subst hj
    exact .some hr
  · exact h j hj

lemma rel_erase (k : K) (h : ∀ j, Option.Rel (R j) (m.lookup j) (n.lookup j)) (j : K) :
    Option.Rel (R j) ((m.erase k).lookup j) ((n.erase k).lookup j) := by
  rw [lookup_erase_if, lookup_erase_if]
  split_ifs
  · exact .none
  · exact h j

end Pointwise

section Filter

variable (f : K → V → Option W)

def pick (s : Σ _ : K, V) : Option (Σ _ : K, W) := (f s.1 s.2).map (Sigma.mk s.1)

omit [DecidableEq K] in
lemma pick_keys (l : List (Σ _ : K, V)) : (l.filterMap (pick f)).keys.Sublist l.keys := by
  induction l with
  | nil => simp
  | cons s l ih =>
    cases hf : f s.1 s.2 with
    | none =>
      rw [List.filterMap_cons_none (by simp [pick, hf])]
      exact ih.cons _
    | some w =>
      rw [List.filterMap_cons_some (by simp [pick, hf]; rfl)]
      exact ih.cons_cons _

def filterMap (m : FMap K V) : FMap K W where
  entries := m.entries.filterMap (pick f)
  nodupKeys := by
    obtain ⟨entries, hn⟩ := m
    induction entries using Quot.inductionOn with
    | h l => exact List.Nodup.sublist (pick_keys f l) hn

lemma mem_entries_filterMap {k : K} {w : W} :
    (⟨k, w⟩ : Σ _ : K, W) ∈ (filterMap f m).entries ↔ ∃ v, m.lookup k = some v ∧ f k v = some w := by
  simp only [filterMap, Multiset.mem_filterMap, Sigma.exists, pick, Option.map_eq_some_iff]
  constructor
  · rintro ⟨k', v, hm, w', hw, he⟩
    cases he
    exact ⟨v, Finmap.lookup_eq_some_iff.mpr hm, hw⟩
  · rintro ⟨v, hm, hw⟩
    exact ⟨k, v, Finmap.lookup_eq_some_iff.mp hm, w, hw, rfl⟩

@[simp] lemma lookup_filterMap (m : FMap K V) (k : K) : (filterMap f m).lookup k = (m.lookup k).bind (f k) := by
  apply Option.ext
  intro w
  rw [Finmap.lookup_eq_some_iff, mem_entries_filterMap, Option.bind_eq_some_iff]

end Filter

def size (m : FMap K V) : ℕ := m.keys.card

lemma size_of_lookup (m : FMap K V) (h : m.lookup k = some v) : size m = size (m.erase k) + 1 := by
  have hk : k ∈ m.keys := Finmap.mem_keys.mpr (Finmap.mem_of_lookup_eq_some h)
  rw [size, size, Finmap.keys_erase, Finset.card_erase_add_one hk]

lemma exists_lookup_of_size_pos (h : 0 < size m) : ∃ k v, m.lookup k = some v := by
  obtain ⟨k, hk⟩ := Finset.card_pos.mp h
  rw [Finmap.mem_keys, ← Finmap.lookup_isSome, Option.isSome_iff_exists] at hk
  exact ⟨k, hk⟩

lemma lookup_of_size_eq_zero (h : size m = 0) (k : K) : m.lookup k = none := by
  cases hl : m.lookup k with
  | none => rfl
  | some v =>
    rw [size_of_lookup m hl] at h
    cases h

variable {m' : FMap K W}

lemma size_eq (h : ∀ k, (m.lookup k).isSome = (m'.lookup k).isSome) : size m = size m' := by
  have hk : m.keys = m'.keys := by
    ext k
    rw [Finmap.mem_keys, Finmap.mem_keys, ← Finmap.lookup_isSome, ← Finmap.lookup_isSome, h]
  rw [size, size, hk]

lemma isSome_of_size_eq (hsub : ∀ k, (m'.lookup k).isSome → (m.lookup k).isSome)
    (hsize : size m' = size m) (hk : (m.lookup k).isSome) : (m'.lookup k).isSome := by
  have hs : m'.keys ⊆ m.keys := by
    intro j hj
    rw [Finmap.mem_keys, ← Finmap.lookup_isSome] at hj ⊢
    exact hsub j hj
  have he : m'.keys = m.keys := Finset.eq_of_subset_of_card_le hs hsize.ge
  rw [Finmap.lookup_isSome, ← Finmap.mem_keys] at hk ⊢
  rwa [he]

section Total

variable {A : Type*} [AddCommMonoid A] (f : K → V → A)

def total (m : FMap K V) : A := (m.entries.map (fun s => f s.1 s.2)).sum

omit [DecidableEq K] in
@[simp] lemma total_empty : total f (∅ : FMap K V) = 0 := rfl

lemma total_of_lookup (m : FMap K V) {k : K} (h : m.lookup k = some v) : total f m = f k v + total f (m.erase k) := by
  simp only [total, entries_eq_cons h, Multiset.map_cons, Multiset.sum_cons]

lemma total_eq_erase (m : FMap K V) (k : K) : total f m = (m.lookup k).elim 0 (f k) + total f (m.erase k) := by
  cases h : m.lookup k with
  | none => rw [erase_of_lookup_none m h, Option.elim_none, zero_add]
  | some v => rw [total_of_lookup f m h, Option.elim_some]

lemma total_insert (m : FMap K V) (k : K) (v : V) : total f (m.insert k v) = f k v + total f (m.erase k) := by
  rw [total_of_lookup f _ (Finmap.lookup_insert m), erase_insert]

lemma total_insert_add (m : FMap K V) (k : K) (v : V) :
    total f (m.insert k v) + (m.lookup k).elim 0 (f k) = f k v + total f m := by
  rw [total_insert, total_eq_erase f m k, add_assoc, add_comm (total f (m.erase k))]

lemma total_eq_zero (h : ∀ k v, m.lookup k = some v → f k v = 0) : total f m = 0 := by
  apply Multiset.sum_eq_zero
  intro a ha
  obtain ⟨s, hs, rfl⟩ := Multiset.mem_map.mp ha
  exact h _ _ (Finmap.lookup_eq_some_iff.mpr hs)

lemma total_replace (m : FMap K V) {k : K} {w : V} (h : m.lookup k = some v) (hf : f k w = f k v) :
    total f (m.insert k w) = total f m := by
  rw [total_insert, hf, total_of_lookup f m h]

lemma total_eq_sum (l : List K) (hn : l.Nodup) (hl : ∀ k ∈ l, ∃ v, m.lookup k = some v)
    (hs : size m = l.length) : total f m = (l.map (fun k => (m.lookup k).elim 0 (f k))).sum := by
  induction l generalizing m with
  | nil =>
    apply total_eq_zero
    intro k v hk
    rw [size_of_lookup m hk] at hs
    cases hs
  | cons k l ih =>
    obtain ⟨v, hv⟩ := hl k (List.mem_cons_self ..)
    obtain ⟨hk, hn⟩ := List.nodup_cons.mp hn
    have he : ∀ j ∈ l, (m.erase k).lookup j = m.lookup j := by
      intro j hj
      rw [lookup_erase_if, if_neg]
      rintro rfl
      exact hk hj
    rw [size_of_lookup m hv, List.length_cons, Nat.add_right_cancel_iff] at hs
    have hsum := ih hn (fun j hj => by rw [he j hj]; exact hl j (List.mem_cons_of_mem _ hj)) hs
    rw [total_of_lookup f m hv, hsum, List.map_cons, List.sum_cons, hv, Option.elim_some]
    congr 2
    apply List.map_congr_left
    intro j hj
    rw [he j hj]

end Total

section Search

variable (p : K → V → Prop) [∀ k v, Decidable (p k v)]

def hasEntry (m : FMap K V) : Bool := @decide (∃ s ∈ m.entries, p s.1 s.2) Multiset.decidableExistsMultiset

omit [DecidableEq K] in
@[simp] lemma hasEntry_empty : hasEntry p (∅ : FMap K V) = false := by
  rw [hasEntry, decide_eq_false_iff_not]
  rintro ⟨e, he, -⟩
  exact absurd he (Multiset.notMem_zero e)

lemma not_of_hasEntry_eq_false (h : hasEntry p m = false) {k : K} (hv : m.lookup k = some v) : ¬p k v := by
  rw [hasEntry, decide_eq_false_iff_not] at h
  intro hp
  exact h ⟨⟨k, v⟩, Finmap.lookup_eq_some_iff.mp hv, hp⟩

end Search

def Enumerates (l : List (K × V)) (m : FMap K V) : Prop :=
  (l.map Prod.fst).Nodup ∧ ∀ k v, (k, v) ∈ l ↔ m.lookup k = some v

variable {l : List (K × V)}

lemma Enumerates.mem (h : Enumerates l m) : (k, v) ∈ l ↔ m.lookup k = some v := h.2 k v

lemma enumerates_empty : Enumerates [] (∅ : FMap K V) := by
  refine ⟨List.nodup_nil, ?_⟩
  intro k v
  simp

lemma enumerates_insert (h : Enumerates l m) (hk : m.lookup k = none) (v : V) :
    Enumerates ((k, v) :: l) (m.insert k v) := by
  constructor
  · rw [List.map_cons, List.nodup_cons]
    refine ⟨?_, h.1⟩
    intro hm
    obtain ⟨⟨j, w⟩, hw, hj⟩ := List.mem_map.mp hm
    have hl := h.mem.mp hw
    rw [show j = k from hj, hk] at hl
    cases hl
  · intro j w
    rw [List.mem_cons, Prod.mk.injEq, lookup_insert_if, h.mem]
    split_ifs with hj
    · rw [hj, hk]
      simp [eq_comm]
    · simp [hj]

lemma enumerates_singleton (k : K) (v : V) : Enumerates [(k, v)] ((∅ : FMap K V).insert k v) :=
  enumerates_insert enumerates_empty rfl v

def sortedNames (names : Finset String) : List String :=
  Quot.liftOn names.val (List.insertionSort (· ≤ ·)) fun _ _ h =>
    List.Perm.eq_of_pairwise' (List.pairwise_insertionSort _ _) (List.pairwise_insertionSort _ _)
      ((List.perm_insertionSort _ _).trans (h.trans (List.perm_insertionSort _ _).symm))

variable {names : Finset String}

lemma coe_sortedNames : (sortedNames names : Multiset String) = names.val := by
  rw [sortedNames]
  induction names.val using Quot.inductionOn with
  | h l => exact Quot.sound (List.perm_insertionSort _ l)

lemma mem_sortedNames {name : String} : name ∈ sortedNames names ↔ name ∈ names := by
  rw [← Multiset.mem_coe, coe_sortedNames, Finset.mem_val]

end Cloudless.Foundations.FiniteMaps
