import Mathlib.Tactic

/-! Runs of a deterministic step function whose actions carry every outside choice, and the
induction rules for invariants and simulations along them. -/

namespace Cloudless.Foundations.Runs

variable {S T A : Type*}

variable (step : S → A → S)

def run (s : S) (as : List A) : S := as.foldl step s

@[simp] lemma run_cons (s : S) (a : A) (as : List A) : run step s (a :: as) = run step (step s a) as := rfl

def Admissible (step : S → A → S) (ok : S → A → Prop) : S → List A → Prop
  | _, [] => True
  | s, a :: as => ok s a ∧ Admissible step ok (step s a) as

instance decidableAdmissible (step : S → A → S) (ok : S → A → Prop) [∀ s a, Decidable (ok s a)] :
    ∀ s as, Decidable (Admissible step ok s as)
  | _, [] => isTrue trivial
  | s, a :: as => @instDecidableAnd _ _ _ (decidableAdmissible step ok (step s a) as)

@[simp] lemma run_append (s : S) (as bs : List A) :
    run step s (as ++ bs) = run step (run step s as) bs := List.foldl_append

variable {step} {s : S} {ok : S → A → Prop} (I : S → Prop)

lemma admissible_append {as bs : List A} :
    Admissible step ok s (as ++ bs) ↔ Admissible step ok s as ∧ Admissible step ok (run step s as) bs := by
  induction as generalizing s with
  | nil => exact ⟨fun h => ⟨trivial, h⟩, fun h => h.2⟩
  | cons a as ih => rw [List.cons_append, Admissible, Admissible, ih, run_cons, and_assoc]

lemma run_invariant (hstep : ∀ s a, I s → ok s a → I (step s a)) (as : List A) (hs : I s) (ha : Admissible step ok s as) :
    I (run step s as) := by
  induction as generalizing s with
  | nil => exact hs
  | cons a as ih => exact ih (hstep s a hs ha.1) ha.2

lemma run_preserves (as : List A) (hstep : ∀ s, ∀ a ∈ as, I s → I (step s a)) (hs : I s) : I (run step s as) := by
  induction as generalizing s with
  | nil => exact hs
  | cons a as ih =>
    exact ih (fun s b hb => hstep s b (List.mem_cons_of_mem _ hb)) (hstep s a (List.mem_cons_self ..) hs)

lemma admissible_of_forall (ok : A → Prop) (as : List A) (h : ∀ a ∈ as, ok a) (s : S) :
    Admissible step (fun _ a => ok a) s as := by
  induction as generalizing s with
  | nil => trivial
  | cons a as ih => exact ⟨h a (List.mem_cons_self ..), ih (fun b hb => h b (List.mem_cons_of_mem _ hb)) _⟩

lemma admissible_imp {ok' : S → A → Prop} (hk : ∀ s a, I s → ok s a → I (step s a))
    (himp : ∀ s a, I s → ok s a → ok' s a) (as : List A) (hs : I s) (ha : Admissible step ok s as) :
    Admissible step ok' s as := by
  induction as generalizing s with
  | nil => trivial
  | cons a as ih => exact ⟨himp s a hs ha.1, ih (hk s a hs ha.1) ha.2⟩

lemma admissible_iff {sc ok' : S → A → Prop} (hk : ∀ s a, I s → sc s a → ok s a → I (step s a))
    (hiff : ∀ s a, I s → sc s a → (ok s a ↔ ok' s a)) (as : List A) (hs : I s) (ha : Admissible step sc s as) :
    Admissible step ok s as ↔ Admissible step ok' s as := by
  induction as generalizing s with
  | nil => exact Iff.rfl
  | cons a as ih =>
    rw [Admissible, Admissible, ← hiff s a hs ha.1]
    exact and_congr_right fun ho => ih (hk s a hs ha.1 ho) ha.2

lemma property_take_iff {sc : S → A → Prop} (P : S → Prop) (hI : ∀ s, I s → P s)
    (hk : ∀ s a, I s → sc s a → ok s a → I (step s a)) (hb : ∀ s a, I s → sc s a → P (step s a) → ok s a)
    (as : List A) (hs : I s) (ha : Admissible step sc s as) :
    (∀ n, P (run step s (as.take n))) ↔ Admissible step ok s as := by
  induction as generalizing s with
  | nil =>
    refine ⟨fun _ => trivial, ?_⟩
    intro _ n
    rw [List.take_nil]
    exact hI s hs
  | cons a as ih =>
    constructor
    · intro h
      have ho : ok s a := hb s a hs ha.1 (h 1)
      exact ⟨ho, (ih (hk s a hs ha.1 ho) ha.2).mp fun n => h (n + 1)⟩
    · intro h n
      cases n with
      | zero => exact hI s hs
      | succ n => exact (ih (hk s a hs ha.1 h.1) ha.2).mpr h.2 n

lemma run_read {B : Type*} (read : S → Option B) (write : A → Option B) {target : Option B}
    (as : List A) (hstep : ∀ s, ∀ a ∈ as, read (step s a) = (write a).or (read s))
    (hw : ∀ a ∈ as, write a = none ∨ write a = target)
    (hs : read s = target ∨ read s = none ∧ (target = none ∨ ∃ a ∈ as, write a = target)) :
    read (run step s as) = target := by
  induction as generalizing s with
  | nil =>
    rcases hs with hs | ⟨hs, ht | ⟨a, ha, -⟩⟩
    · exact hs
    · exact hs.trans ht.symm
    · cases ha
  | cons a as ih =>
    rw [run_cons]
    apply ih (fun s b hb => hstep s b (List.mem_cons_of_mem _ hb)) (fun b hb => hw b (List.mem_cons_of_mem _ hb))
    have hr := hstep s a (List.mem_cons_self ..)
    rcases hw a (List.mem_cons_self ..) with hn | hn
    · rw [hn, Option.none_or] at hr
      rw [hr]
      rcases hs with hs | ⟨hs, ht | ⟨b, hb, hbt⟩⟩
      · exact .inl hs
      · exact .inr ⟨hs, .inl ht⟩
      · rcases List.mem_cons.mp hb with rfl | hb
        · exact .inl (by rw [hs, ← hbt, hn])
        · exact .inr ⟨hs, .inr ⟨b, hb, hbt⟩⟩
    · cases target with
      | some v =>
        rw [hn, Option.some_or] at hr
        exact .inl hr
      | none =>
        rw [hn, Option.none_or] at hr
        rcases hs with hs | ⟨hs, -⟩
        · exact .inl (hr.trans hs)
        · exact .inl (hr.trans hs)

end Cloudless.Foundations.Runs
