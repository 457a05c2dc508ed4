import Cloudless.Foundations.Interleaving

/-! Threads that each add one item to a shared list: they load it, append to their copy and store the copy. -/

namespace Cloudless.Foundations.SharedLists

open Interleaving Runs

variable {α β : Type*}

inductive Appending (α : Type*)
  | ready
  | loaded (copy : List α)
  | done

def append (items : List α) : Body ℕ (List α) (Appending α) := fun i current phase =>
  match items[i]?, phase with
  | some _, .ready => some (current, .loaded current)
  | some item, .loaded copy => some (copy ++ [item], .done)
  | _, _ => none

def appendAll (schedule : List ℕ) (items current : List α) : List α :=
  (run (Pool.advance (append items)) ⟨current, fun _ => .ready⟩
    (schedule ++ (List.range items.length).flatMap fun i => [i, i])).shared

variable {items current : List α} {i : ℕ} {it : α}

lemma append_ready (h : items[i]? = some it) (current : List α) :
    append items i current .ready = some (current, .loaded current) := by
  simp [append, h]

lemma append_loaded (h : items[i]? = some it) (current c : List α) :
    append items i current (.loaded c) = some (c ++ [it], .done) := by
  simp [append, h]

lemma advance_cases (items : List α) (p : Pool ℕ (List α) (Appending α)) (i : ℕ) :
    (p.advance (append items) i = p ∧ (items[i]? ≠ none → p.locals i = .done)) ∨ (p.locals i = .ready ∧
        p.advance (append items) i = ⟨p.shared, Function.update p.locals i (.loaded p.shared)⟩) ∨
      ∃ it c, items[i]? = some it ∧ p.locals i = .loaded c ∧
        p.advance (append items) i = ⟨c ++ [it], Function.update p.locals i .done⟩ := by
  cases hitem : items[i]? with
  | none => exact .inl ⟨Pool.advance_of_none (by simp [append, hitem]), fun h => absurd rfl h⟩
  | some it =>
    cases hp : p.locals i with
    | done => exact .inl ⟨Pool.advance_of_none (by simp [append, hp]), fun _ => rfl⟩
    | ready => exact .inr (.inl ⟨rfl, Pool.advance_of_some (by rw [hp, append_ready hitem])⟩)
    | loaded c =>
      exact .inr (.inr ⟨it, c, rfl, rfl, Pool.advance_of_some (by rw [hp, append_loaded hitem])⟩)

def Composed (items current : List α) (locals : ℕ → Appending α) (l : List α) : Prop :=
  ∃ is : List ℕ, is.Nodup ∧ l = current ++ is.filterMap (items[·]?) ∧ ∀ i ∈ is, locals i = .done

structure Traced (items current : List α) (p : Pool ℕ (List α) (Appending α)) : Prop where
  shared : Composed items current p.locals p.shared
  copies : ∀ i copy, p.locals i = .loaded copy → Composed items current p.locals copy
  grown : ∀ i, p.locals i = .done → p.shared ≠ current

variable {ls : ℕ → Appending α}

lemma Composed.update {l : List α} (h : Composed items current ls l)
    (hi : ls i ≠ .done) (p : Appending α) : Composed items current (Function.update ls i p) l := by
  obtain ⟨is, hn, hl, hd⟩ := h
  refine ⟨is, hn, hl, ?_⟩
  intro j hj
  have hne : j ≠ i := by
    rintro rfl
    exact hi (hd j hj)
  rw [Function.update_of_ne hne]
  exact hd j hj

lemma Composed.append {c : List α} (h : Composed items current ls c)
    (hi : ls i ≠ .done) (hitem : items[i]? = some it) :
    Composed items current (Function.update ls i .done) (c ++ [it]) := by
  obtain ⟨is, hn, rfl, hd⟩ := h
  have hnot : i ∉ is := fun hm => hi (hd i hm)
  refine ⟨is ++ [i], ?_, ?_, ?_⟩
  · rw [List.nodup_append_comm]
    exact List.nodup_cons.mpr ⟨hnot, hn⟩
  · simp [List.filterMap_append, hitem]
  · intro j hj
    by_cases hji : j = i
    · rw [hji, Function.update_self]
    · rw [Function.update_of_ne hji]
      exact hd j (by simpa [hji] using hj)

variable {p : Pool ℕ (List α) (Appending α)}

lemma Traced.advance (h : Traced items current p) (i : ℕ) :
    Traced items current (p.advance (SharedLists.append items) i) := by
  obtain ⟨he, -⟩ | ⟨hp, he⟩ | ⟨it, c, hitem, hp, he⟩ := advance_cases items p i
  · rwa [he]
  · have hi : p.locals i ≠ .done := by simp [hp]
    rw [he]
    refine ⟨h.shared.update hi _, ?_, ?_⟩ <;> intro j
    · intro c hj
      dsimp only at hj ⊢
      by_cases hji : j = i
      · rw [hji, Function.update_self] at hj
        cases hj
        exact h.shared.update hi _
      · rw [Function.update_of_ne hji] at hj
        exact (h.copies j c hj).update hi _
    · intro hj
      dsimp only at hj
      have hji : j ≠ i := by
        rintro rfl
        rw [Function.update_self] at hj
        cases hj
      rw [Function.update_of_ne hji] at hj
      exact h.grown j hj
  · have hi : p.locals i ≠ .done := by simp [hp]
    have hcopy := h.copies i c hp
    rw [he]
    refine ⟨hcopy.append hi hitem, ?_, ?_⟩
    · intro j c' hj
      dsimp only at hj ⊢
      have hji : j ≠ i := by
        rintro rfl
        rw [Function.update_self] at hj
        cases hj
      rw [Function.update_of_ne hji] at hj
      exact (h.copies j c' hj).update hi _
    · intro j _ hl
      obtain ⟨is, -, rfl, -⟩ := hcopy
      simpa using congrArg List.length hl

lemma traced_run (items current : List α) (s : List ℕ) :
    Traced items current (run (Pool.advance (append items)) ⟨current, fun _ => .ready⟩ s) :=
  run_preserves (Traced items current) _ (fun p i _ hp => hp.advance i)
    ⟨⟨[], List.nodup_nil, by simp, by simp⟩, fun _ _ => nofun, fun _ => nofun⟩

lemma appendAll_composed (s : List ℕ) (items current : List α) :
    ∃ is : List ℕ, is.Nodup ∧ appendAll s items current = current ++ is.filterMap (items[·]?) := by
  obtain ⟨is, hn, hl, -⟩ := (traced_run items current _).shared
  exact ⟨is, hn, hl⟩

lemma appendAll_nodup (f : α → β) (s : List ℕ) (h : ((current ++ items).map f).Nodup) :
    ((appendAll s items current).map f).Nodup := by
  obtain ⟨is, hn, hl⟩ := appendAll_composed s items current
  have hp : (is.filterMap (items[·]?)).map f = is.filterMap ((items.map f)[·]?) := by
    simp [List.map_filterMap]
  rw [List.map_append, List.nodup_append'] at h
  rw [hl, List.map_append, hp, List.nodup_append']
  refine ⟨h.1, ?_, ?_⟩
  · apply List.Nodup.filterMap _ hn
    intro i j b hi hj
    have hlt : i < (items.map f).length := (List.getElem?_eq_some_iff.mp hi).1
    exact (List.getElem?_inj hlt h.2.1).mp (hi.trans hj.symm)
  · intro b hb hm
    obtain ⟨i, -, hi⟩ := List.mem_filterMap.mp hm
    exact h.2.2 hb (List.mem_of_getElem? hi)

lemma appendAll_nil (items current : List α) : appendAll [] items current = current ++ items := by
  have hp : ∀ k ≤ items.length,
      run (Pool.advance (append items)) ⟨current, fun _ => .ready⟩ ((List.range k).flatMap fun i => [i, i]) =
        ⟨current ++ items.take k, fun i => if i < k then .done else .ready⟩ := by
    intro k hk
    induction k with
    | zero => simp [run]
    | succ k ih =>
      have hitem : items[k]? = some items[k] := List.getElem?_eq_getElem hk
      let p : Pool ℕ (List α) (Appending α) := ⟨current ++ items.take k, fun i => if i < k then .done else .ready⟩
      have hr : p.locals k = .ready := if_neg (lt_irrefl k)
      have hl := append_ready hitem p.shared
      rw [← hr] at hl
      rw [List.range_succ, List.flatMap_append, run_append, ih (by omega), List.flatMap_singleton, run_cons, run_cons,
        Pool.advance_of_some hl, Pool.advance_update_of_some (append_loaded hitem _ _)]
      change Pool.mk _ _ = _
      congr 1
      · rw [List.append_assoc, List.take_append_getElem hk]
      · funext i
        by_cases hi : i = k
        · simp [hi]
        · rw [Function.update_of_ne hi]
          have hlt : i < k ↔ i < k + 1 := by omega
          exact if_congr hlt rfl rfl
  rw [appendAll, List.nil_append, hp items.length le_rfl, List.take_length]

lemma done_advance {j : ℕ} (h : p.locals j = .done) (i : ℕ) : (p.advance (append items) i).locals j = .done := by
  obtain ⟨he, -⟩ | ⟨hp, he⟩ | ⟨it, c, -, hp, he⟩ := advance_cases items p i
  · rwa [he]
  all_goals
    have hj : j ≠ i := by
      rintro rfl
      simp [h] at hp
    simpa only [he, Function.update_of_ne hj]

lemma done_advance_twice (hi : i < items.length) (p : Pool ℕ (List α) (Appending α)) :
    ((p.advance (append items) i).advance (append items) i).locals i = .done := by
  have hitem : items[i]? = some items[i] := List.getElem?_eq_getElem hi
  obtain ⟨-, hdone⟩ | ⟨-, he⟩ | ⟨it, c, -, -, he⟩ := advance_cases items p i
  · exact done_advance (done_advance (hdone (by simp [hitem])) i) i
  · rw [he, Pool.advance_update_of_some (append_loaded hitem _ _)]
    exact Function.update_self ..
  · apply done_advance
    rw [he]
    exact Function.update_self ..

lemma appends_overwritten (hi : i < items.length) (current : List α) : ∃ s, ∃ p : Pool ℕ (List α) (Appending α),
      run (Pool.advance (append items)) ⟨current, fun _ => .ready⟩ s = p ∧
      p.shared = current ++ [items[i]] ∧ ∀ j < items.length, p.locals j = .done := by
  have hitem : items[i]? = some items[i] := List.getElem?_eq_getElem hi
  let others := ((List.range items.length).filter (· ≠ i)).flatMap fun j => [j, j]
  let p : Pool ℕ (List α) (Appending α) := ⟨current, Function.update (fun _ => .ready) i (.loaded current)⟩
  have hl : (run (Pool.advance (append items)) p others).locals i = .loaded current := by
    refine run_preserves (fun p : Pool ℕ (List α) (Appending α) => p.locals i = .loaded current) others ?_ (by simp [p])
    intro q j hj hq
    have hij : i ≠ j := by
      rintro rfl
      simp [others] at hj
    rw [Pool.locals_advance_of_ne hij, hq]
  have ho : ∀ j < items.length, j ≠ i → (run (Pool.advance (append items)) p others).locals j = .done := by
    intro j hj hji
    have hm : j ∈ (List.range items.length).filter (· ≠ i) := by simp [hj, hji]
    obtain ⟨b, a, hs⟩ := List.append_of_mem hm
    simp only [others, hs, List.flatMap_append, List.flatMap_cons, run_append, List.cons_append, run_cons]
    exact run_preserves (fun p : Pool ℕ (List α) (Appending α) => p.locals j = .done) _
      (fun _ k _ hq => done_advance hq k) (done_advance_twice hj _)
  refine ⟨i :: (others ++ [i]), _, rfl, ?_⟩
  rw [run_cons, run_append, Pool.advance_of_some (append_ready hitem current), run_cons,
    Pool.advance_of_some (by rw [hl]; exact append_loaded hitem _ current)]
  refine ⟨rfl, fun j hj => ?_⟩
  by_cases hji : j = i
  · rw [hji]
    exact Function.update_self ..
  · exact (Function.update_of_ne hji ..).trans (ho j hj hji)

end Cloudless.Foundations.SharedLists
