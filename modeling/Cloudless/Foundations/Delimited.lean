import Mathlib.Tactic

namespace Cloudless.Foundations.Delimited

variable {α : Type*} {sep : α} {xs ys xs' ys' : List α}

lemma append_cons_eq_iff : xs ++ sep :: ys = xs' ++ sep :: ys' ↔ xs = xs' ∧ ys = ys' ∨
    (∃ zs, xs' = xs ++ sep :: zs ∧ ys = zs ++ sep :: ys') ∨ ∃ zs, xs = xs' ++ sep :: zs ∧ ys' = zs ++ sep :: ys := by
  constructor
  · intro h
    rcases List.append_eq_append_iff.mp h with ⟨zs, hx, hy⟩ | ⟨zs, hx, hy⟩
    · cases zs with
      | nil =>
        rw [List.append_nil] at hx
        rw [List.nil_append] at hy
        cases hy
        exact .inl ⟨hx.symm, rfl⟩
      | cons z zs =>
        rw [List.cons_append] at hy
        cases hy
        exact .inr (.inl ⟨zs, hx, rfl⟩)
    · cases zs with
      | nil =>
        rw [List.append_nil] at hx
        rw [List.nil_append] at hy
        cases hy
        exact .inl ⟨hx, rfl⟩
      | cons z zs =>
        rw [List.cons_append] at hy
        cases hy
        exact .inr (.inr ⟨zs, hx, rfl⟩)
  · rintro (⟨rfl, rfl⟩ | ⟨zs, rfl, rfl⟩ | ⟨zs, rfl, rfl⟩)
    · rfl
    · simp
    · simp

lemma right_injective (h : xs ++ sep :: ys = xs' ++ sep :: ys') (hy : sep ∉ ys) (hy' : sep ∉ ys') :
    xs = xs' ∧ ys = ys' := by
  rcases append_cons_eq_iff.mp h with h | ⟨zs, -, hz⟩ | ⟨zs, -, hz⟩
  · exact h
  · exact absurd (hz ▸ by simp) hy
  · exact absurd (hz ▸ by simp) hy'

end Cloudless.Foundations.Delimited
