import Mathlib.Tactic

/-! Systems in which some calls are hidden from others: the answers to the visible calls depend on the visible calls only. -/

namespace Cloudless.Foundations.Noninterference

variable {S A O : Type*}

def trace (step : S → A → O × S) : S → List A → List (A × O)
  | _, [] => []
  | s, a :: as => (a, (step s a).1) :: trace step (step s a).2 as

def final (step : S → A → O × S) (s : S) (as : List A) : S := as.foldl (fun s a => (step s a).2) s

@[simp] lemma final_cons {step : S → A → O × S} {s : S} {a : A} {as : List A} :
    final step s (a :: as) = final step (step s a).2 as := rfl

structure Unwinding (step : S → A → O × S) (hidden : A → Bool) (ok : A → Prop) (I : S → Prop) (R : S → S → Prop) :
    Prop where
  keeps : ∀ {s a}, I s → ok a → I (step s a).2
  hides : ∀ {s t a}, I s → ok a → hidden a = true → R s t → R (step s a).2 t
  agrees : ∀ {s t a}, ok a → hidden a = false → R s t → (step s a).1 = (step t a).1 ∧ R (step s a).2 (step t a).2

variable {step : S → A → O × S} {hidden : A → Bool} {ok : A → Prop} {I : S → Prop} {R : S → S → Prop}

lemma Unwinding.purge (h : Unwinding step hidden ok I R) {s t : S} (as : List A) (hs : I s) (hr : R s t)
    (has : ∀ a ∈ as, ok a) :
    (trace step s as).filter (fun e => !hidden e.1) = trace step t (as.filter fun a => !hidden a) ∧
      R (final step s as) (final step t (as.filter fun a => !hidden a)) := by
  induction as generalizing s t with
  | nil => exact ⟨rfl, hr⟩
  | cons a as ih =>
    have ho : ok a := has a (List.mem_cons_self ..)
    have hrest : ∀ b ∈ as, ok b := fun b hb => has b (List.mem_cons_of_mem _ hb)
    rw [trace, final_cons]
    cases hh : hidden a with
    | true =>
      rw [List.filter_cons_of_neg (by simp [hh]), List.filter_cons_of_neg (by simp [hh])]
      exact ih (h.keeps hs ho) (h.hides hs ho hh hr) hrest
    | false =>
      obtain ⟨ha, hnext⟩ := h.agrees ho hh hr
      obtain ⟨ht, hf⟩ := ih (h.keeps hs ho) hnext hrest
      rw [List.filter_cons_of_pos (by simp [hh]), List.filter_cons_of_pos (by simp [hh]), trace, ht, ha]
      exact ⟨rfl, hf⟩

end Cloudless.Foundations.Noninterference
