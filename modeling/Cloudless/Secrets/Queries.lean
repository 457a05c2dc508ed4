import Cloudless.Secrets.Operations

namespace Cloudless.Secrets

open Foundations GoStd MapLoops RaftSecretStore

namespace Manager

variable {V : Type} {codec : Codec Secret V} (filter : SecretFilter) (n : ℕ) (orders : ℕ → MapOrder) (m : Manager codec)

def page (k : ℕ) : List SecretMetadata :=
  m.listSecrets (orders k) { filter with limit := n, offset := (k * n : ℕ) }

def pages (last : ℕ) : List (String × String) :=
  ((List.range last).flatMap (m.page filter n orders)).map fun entry => (entry.ns, entry.name)

def Lives (ns name : String) : Prop :=
  ∃ secret, m.store.current (getKey ns name) = some secret ∧ secret.ns = ns ∧ secret.name = name ∧
    secret.deletedAt = none ∧ matchesFilter filter secret = true

/-- The pages before the last one are full and those from `last` on empty, and together they list every live secret that
matches once. -/
structure Paginates (last : ℕ) : Prop where
  full : ∀ k, k + 1 < last → (m.page filter n orders k).length = n
  ends : ∀ k, last ≤ k → m.page filter n orders k = []
  once : (m.pages filter n orders last).Nodup
  lists : ∀ ns name, (ns, name) ∈ m.pages filter n orders last ↔ m.Lives filter ns name

variable {filter n orders m}

lemma mem_list {o : MapOrder} {s : Secret} (h : s ∈ m.store.list o filter) :
    m.store.cache.lookup s.key = some s ∧ matchesFilter filter s = true := by
  have hm : s ∈ ((o.entries m.store.cache).map Prod.snd).filter (matchesFilter filter) := by
    rw [list] at h
    split_ifs at h
    · exact List.mem_of_mem_drop (List.mem_of_mem_take h)
    · exact List.mem_of_mem_drop h
    · exact List.mem_of_mem_take h
    · exact h
  rw [List.mem_filter, o.mem_values fun _ _ hl => m.store.cached hl] at hm
  exact hm

lemma mem_page {k : ℕ} {e : SecretMetadata} (h : e ∈ m.page filter n orders k) :
    ∃ s, m.store.cache.lookup s.key = some s ∧ s.deletedAt = none ∧
      matchesFilter filter s = true ∧ s.ns = e.ns ∧ s.name = e.name := by
  obtain ⟨s, hm, rfl⟩ := List.mem_map.mp h
  obtain ⟨hm, hd⟩ := List.mem_filter.mp hm
  obtain ⟨hl, hf⟩ := mem_list hm
  exact ⟨s, hl, by simpa using hd, hf, rfl, rfl⟩

lemma page_ne_nil (hn : 0 < n) {s : Secret} (hl : m.store.cache.lookup s.key = some s)
    (hd : s.deletedAt = none) (hf : matchesFilter filter s = true) {k : ℕ}
    (ho : orders k = frontOrder s.key) (hk : ((orders k).entries m.store.cache).length ≤ k) :
    m.page filter n orders k ≠ [] := by
  have hm : s ∈ m.store.list (orders k) { filter with limit := n, offset := (k * n : ℕ) } := by
    obtain ⟨rest, he⟩ : ∃ rest, (orders k).entries m.store.cache = (s.key, s) :: rest := by
      rw [ho]
      simp only [frontOrder, hl]
      exact ⟨_, rfl⟩
    have hlist : (((orders k).entries m.store.cache).map Prod.snd).filter (matchesFilter filter) =
        s :: (rest.map Prod.snd).filter (matchesFilter filter) := by
      rw [he, List.map_cons, List.filter_cons_of_pos hf]
    have hlen : (s :: (rest.map Prod.snd).filter (matchesFilter filter)).length ≤ k * n := by
      rw [← hlist]
      refine (List.length_filter_le ..).trans ?_
      rw [List.length_map]
      exact hk.trans (Nat.le_mul_of_pos_right k hn)
    have hs : matchesFilter { filter with limit := n, offset := (k * n : ℕ) } = matchesFilter filter := rfl
    simp only [list, hs, hlist]
    generalize (rest.map Prod.snd).filter (matchesFilter filter) = rest at hlen ⊢
    have hoff : ¬(0 < ((k * n : ℕ) : ℤ) ∧ ((k * n : ℕ) : ℤ) < (s :: rest).length) :=
      fun h => absurd (Int.ofNat_lt.mp h.2) (not_lt.mpr hlen)
    rw [if_neg hoff]
    obtain ⟨n, rfl⟩ := Nat.exists_eq_succ_of_ne_zero hn.ne'
    split_ifs
    · exact List.mem_cons_self ..
    · exact List.mem_cons_self ..
  rw [page, listSecrets]
  exact List.ne_nil_of_mem (List.mem_map_of_mem (List.mem_filter.mpr ⟨hm, by simp [hd]⟩))

theorem pagination_exact_iff (hn : 0 < n) :
    (∀ orders, ∃ last, Paginates filter n orders m last) ↔ ∀ ns name, ¬m.Lives filter ns name := by
  constructor
  · intro h ns name hlive
    obtain ⟨last, hp⟩ := h fun _ => frontOrder (getKey ns name)
    obtain ⟨e, he, heq⟩ := List.mem_map.mp ((hp.lists ns name).mpr hlive)
    cases heq
    obtain ⟨k, -, he⟩ := List.mem_flatMap.mp he
    obtain ⟨s, hl, hd, hf, hns, hname⟩ := mem_page he
    refine page_ne_nil hn hl hd hf ?_ (Nat.le_add_left _ last) (hp.ends _ (Nat.le_add_right ..))
    rw [Secret.key, hns, hname]
  · intro h orders
    have hnil : ∀ k, m.page filter n orders k = [] := by
      intro k
      rw [List.eq_nil_iff_forall_not_mem]
      intro e he
      obtain ⟨s, hl, hd, hf, hns, hname⟩ := mem_page he
      refine h _ _ ⟨s, ?_, hns, hname, hd, hf⟩
      rw [← hns, ← hname]
      exact (congrArg (Option.or · _) hl).trans (Option.some_or ..)
    exact ⟨0, by simp, fun k _ => hnil k, .nil, by simpa [pages] using h⟩

theorem pagination_exact_iff_db : ¬∀ orders, ∃ last,
    Paginates {} 1 orders (freshManager.step plainGCM (singleSigner readerClaims) createDb) last := by
  intro h
  refine (pagination_exact_iff one_pos).mp h "default" "db" ⟨_, rfl, rfl, rfl, rfl, ?_⟩
  decide +kernel

theorem page_after_end :
    let m := freshManager.step plainGCM (singleSigner readerClaims) createDb
    (m.page {} 1 (fun _ => sortedOrder) 0).map SecretMetadata.name = ["db"] ∧
      ∀ k < 5, (m.page {} 1 (fun _ => sortedOrder) k).map SecretMetadata.name = ["db"] := by
  decide +kernel

end Manager

end Cloudless.Secrets
