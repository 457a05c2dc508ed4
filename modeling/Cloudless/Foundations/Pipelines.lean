import Mathlib.Data.List.Basic

/-! Sequences of updates that may fail, and the part of the state that they change. -/

namespace Cloudless.Foundations.Pipelines

variable {E S R : Type}

def applyAll : List (S → Except E S) → S → Except E S
  | [], s => .ok s
  | step :: steps, s =>
    match step s with
    | .error err => .error err
    | .ok s => applyAll steps s

def onlyIf (c : Prop) [Decidable c] (step : S → Except E S) : List (S → Except E S) := if c then [step] else []

def always (f : S → S) (s : S) : Except E S := .ok (f s)

def Keeps (read : S → R) (step : S → Except E S) : Prop := ∀ s s', step s = .ok s' → read s' = read s

variable {read : S → R} {step : S → Except E S} {ss ss' : List (S → Except E S)} {s s' : S}

lemma applyAll_cons_eq_ok : applyAll (step :: ss) s = .ok s' ↔ ∃ t, step s = .ok t ∧ applyAll ss t = .ok s' := by
  rw [applyAll]
  cases step s with
  | error | ok => simp

lemma applyAll_append_eq_ok :
    applyAll (ss ++ ss') s = .ok s' ↔ ∃ t, applyAll ss s = .ok t ∧ applyAll ss' t = .ok s' := by
  induction ss generalizing s with
  | nil => simp [applyAll]
  | cons step ss ih =>
    simp only [List.cons_append, applyAll_cons_eq_ok, ih]
    constructor
    · rintro ⟨t, ht, u, hu, hs'⟩
      exact ⟨u, ⟨t, ht, hu⟩, hs'⟩
    · rintro ⟨u, ⟨t, ht, hu⟩, hs'⟩
      exact ⟨t, ht, u, hu, hs'⟩

lemma forall_mem_onlyIf {c : Prop} [Decidable c] {P : (S → Except E S) → Prop} (h : P step) :
    ∀ step' ∈ onlyIf c step, P step' := by
  intro step' hm
  rw [onlyIf] at hm
  split_ifs at hm
  · rwa [List.mem_singleton.mp hm]
  · cases hm

lemma keeps_always {f : S → S} (h : ∀ s, read (f s) = read s) : Keeps (E := E) read (always f) := by
  intro s s' hs'
  cases hs'
  exact h s

lemma keeps_applyAll (h : ∀ step ∈ ss, Keeps read step) : Keeps read (applyAll ss) := by
  induction ss with
  | nil =>
    intro s s' hs'
    cases hs'
    rfl
  | cons step ss ih =>
    intro s s' hs'
    obtain ⟨t, ht, hs'⟩ := applyAll_cons_eq_ok.mp hs'
    have hr := ih fun step hs => h step (List.mem_cons_of_mem _ hs)
    exact (hr t s' hs').trans (h step (List.mem_cons_self ..) s t ht)

lemma applyAll_middle (read : S → R) {b m a : List (S → Except E S)} (h : applyAll (b ++ (m ++ a)) s = .ok s')
    (hb : ∀ step ∈ b, Keeps read step) (ha : ∀ step ∈ a, Keeps read step) :
    ∃ t t', read t = read s ∧ applyAll m t = .ok t' ∧ read s' = read t' := by
  obtain ⟨t, ht, hs'⟩ := applyAll_append_eq_ok.mp h
  obtain ⟨t', ht', hs'⟩ := applyAll_append_eq_ok.mp hs'
  exact ⟨t, t', keeps_applyAll hb s t ht, ht', keeps_applyAll ha t' s' hs'⟩

end Cloudless.Foundations.Pipelines
