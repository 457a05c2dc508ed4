import Cloudless.Foundations.Runs

/-! Threads that take turns on a shared state: a schedule names the thread that moves next. -/

namespace Cloudless.Foundations.Interleaving

open Runs

variable {ι S L : Type*}

structure Pool (ι S L : Type*) where
  shared : S
  locals : ι → L

abbrev Body (ι S L : Type*) := ι → S → L → Option (S × L)

namespace Pool

variable [DecidableEq ι] {body : Body ι S L}

def advance (body : Body ι S L) (p : Pool ι S L) (i : ι) : Pool ι S L :=
  match body i p.shared (p.locals i) with
  | none => p
  | some (s, l) => ⟨s, Function.update p.locals i l⟩

variable {p : Pool ι S L} {i : ι}

lemma advance_of_some {s : S} {l : L} (h : body i p.shared (p.locals i) = some (s, l)) :
    p.advance body i = ⟨s, Function.update p.locals i l⟩ := by
  rw [advance, h]

lemma advance_of_none (h : body i p.shared (p.locals i) = none) : p.advance body i = p := by
  rw [advance, h]

lemma advance_update_of_some {f : ι → L} {s s' : S} {l l' : L} (h : body i s l = some (s', l')) :
    (⟨s, Function.update f i l⟩ : Pool ι S L).advance body i = ⟨s', Function.update f i l'⟩ := by
  rw [← Function.update_idem l l' f]
  apply advance_of_some
  dsimp only
  rwa [Function.update_self]

lemma locals_advance_of_ne {j : ι} (h : j ≠ i) : (p.advance body i).locals j = p.locals j := by
  rw [advance]
  split
  · rfl
  · exact Function.update_of_ne h ..

def NeverStuck (body : Body ι S L) (done : L → Prop) (p : Pool ι S L) : Prop :=
  ∀ schedule : List ι, (∀ i, done ((run (advance body) p schedule).locals i)) ∨
    ∃ i, body i (run (advance body) p schedule).shared ((run (advance body) p schedule).locals i) ≠ none

inductive Finishes (body : Body ι S L) (done : L → Prop) : Pool ι S L → Prop
  | intro {p : Pool ι S L} (returned : (∀ i, body i p.shared (p.locals i) = none) → ∀ i, done (p.locals i))
      (next : ∀ i, body i p.shared (p.locals i) ≠ none → Finishes body done (p.advance body i)) : Finishes body done p

end Pool

end Cloudless.Foundations.Interleaving
