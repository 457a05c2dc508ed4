import Cloudless.Foundations.Interleaving
import Mathlib.Data.DFinsupp.WellFounded
import Mathlib.Data.Multiset.Count

/-! Programs that lock and unlock reader/writer mutexes, and the order of locks that keeps them from blocking each
other. -/

namespace Cloudless.Foundations.Locks

open Interleaving Runs

/-- A program over mutexes `M` and a shared state `S`. A writer first claims the mutex (`lock`), which keeps new readers
out, and enters once the readers have left. -/
inductive Prog (M S R : Type)
  | ret (r : R)
  | lock (m : M) (k : Prog M S R)
  | enter (m : M) (k : Prog M S R)
  | unlock (m : M) (k : Prog M S R)
  | rlock (m : M) (k : Prog M S R)
  | runlock (m : M) (k : Prog M S R)
  | act (f : S → S) (k : S → Prog M S R)

variable {M S R ι : Type} {R' : Type}

namespace Prog

def bind {R' : Type} : Prog M S R → (R → Prog M S R') → Prog M S R'
  | .ret r, q => q r
  | .lock m k, q => .lock m (k.bind q)
  | .enter m k, q => .enter m (k.bind q)
  | .unlock m k, q => .unlock m (k.bind q)
  | .rlock m k, q => .rlock m (k.bind q)
  | .runlock m k, q => .runlock m (k.bind q)
  | .act f k, q => .act f fun s => (k s).bind q

instance : Monad (Prog M S) where
  pure := .ret
  bind := bind

def eval : Prog M S R → S → R × S
  | .ret r, s => (r, s)
  | .lock _ k, s => k.eval s
  | .enter _ k, s => k.eval s
  | .unlock _ k, s => k.eval s
  | .rlock _ k, s => k.eval s
  | .runlock _ k, s => k.eval s
  | .act f k, s => (k s).eval (f s)

lemma eval_bind (p : Prog M S R) (q : R → Prog M S R') (s : S) :
    (p.bind q).eval s = (q (p.eval s).1).eval (p.eval s).2 := by
  induction p generalizing s with
  | ret r => rfl
  | lock m k ih => exact ih s
  | enter m k ih => exact ih s
  | unlock m k ih => exact ih s
  | rlock m k ih => exact ih s
  | runlock m k ih => exact ih s
  | act f k ih => exact ih s (f s)

def Returned : Prog M S R → Prop
  | .ret _ => True
  | _ => False

instance : DecidablePred (Returned : Prog M S R → Prop)
  | .ret _ => isTrue trivial
  | .lock _ _ => isFalse not_false
  | .enter _ _ => isFalse not_false
  | .unlock _ _ => isFalse not_false
  | .rlock _ _ => isFalse not_false
  | .runlock _ _ => isFalse not_false
  | .act _ _ => isFalse not_false

end Prog

def lock (m : M) : Prog M S Unit := .lock m (.ret ())

def unlock (m : M) : Prog M S Unit := .unlock m (.ret ())

def rlock (m : M) : Prog M S Unit := .rlock m (.ret ())

def runlock (m : M) : Prog M S Unit := .runlock m (.ret ())

def atomically (f : S → R × S) : Prog M S R := .act (fun s => (f s).2) fun s => .ret (f s).1

@[simp] lemma eval_pure (r : R) (s : S) : (pure r : Prog M S R).eval s = (r, s) := rfl

@[simp] lemma eval_bind (p : Prog M S R) (q : R → Prog M S R') (s : S) :
    (p >>= q).eval s = (q (p.eval s).1).eval (p.eval s).2 := p.eval_bind q s

@[simp] lemma eval_lock (m : M) (s : S) : (lock m).eval s = ((), s) := rfl

@[simp] lemma eval_unlock (m : M) (s : S) : (unlock m).eval s = ((), s) := rfl

@[simp] lemma eval_rlock (m : M) (s : S) : (rlock m).eval s = ((), s) := rfl

@[simp] lemma eval_runlock (m : M) (s : S) : (runlock m).eval s = ((), s) := rfl

@[simp] lemma eval_atomically (f : S → R × S) (s : S) : (atomically f : Prog M S R).eval s = f s := rfl

structure RWMutex (ι : Type) where
  writer : Option ι := none
  readers : Multiset ι := 0

structure Machine (ι M S : Type) where
  mutexes : M → RWMutex ι
  state : S

variable [DecidableEq ι] [DecidableEq M]

def Machine.set (m : M) (mutex : RWMutex ι) (c : Machine ι M S) : Machine ι M S :=
  { c with mutexes := Function.update c.mutexes m mutex }

def progStep (i : ι) (c : Machine ι M S) : Prog M S R → Option (Machine ι M S × Prog M S R)
  | .ret _ => none
  | .lock m k =>
    if (c.mutexes m).writer = none then some (c.set m { c.mutexes m with writer := some i }, .enter m k) else none
  | .enter m k => if (c.mutexes m).readers = 0 then some (c, k) else none
  | .unlock m k => some (c.set m { c.mutexes m with writer := none }, k)
  | .rlock m k =>
    if (c.mutexes m).writer = none then
      some (c.set m { c.mutexes m with readers := i ::ₘ (c.mutexes m).readers }, k)
    else none
  | .runlock m k => some (c.set m { c.mutexes m with readers := (c.mutexes m).readers.erase i }, k)
  | .act f k => some ({ c with state := f c.state }, k c.state)

inductive Mode
  | write
  | read
  deriving DecidableEq

/-- The program takes each mutex only while the ones it holds rank below, gives back what it holds, and keeps the
invariant of the state, whatever state it finds. -/
def Ordered (rank : M → ℕ) (J : S → Prop) : Finset (M × Mode) → Prog M S R → Prop
  | held, .ret _ => held = ∅
  | held, .lock m k => (∀ h ∈ held, rank h.1 < rank m) ∧ Ordered rank J (insert (m, .write) held) k
  | held, .enter m k => (m, .write) ∈ held ∧ (∀ h ∈ held, h ≠ (m, .write) → rank h.1 < rank m) ∧ Ordered rank J held k
  | held, .unlock m k => (m, .write) ∈ held ∧ Ordered rank J (held.erase (m, .write)) k
  | held, .rlock m k => (∀ h ∈ held, rank h.1 < rank m) ∧ Ordered rank J (insert (m, .read) held) k
  | held, .runlock m k => (m, .read) ∈ held ∧ Ordered rank J (held.erase (m, .read)) k
  | held, .act f k => ∀ s, J s → J (f s) ∧ Ordered rank J held (k s)

variable {rank : M → ℕ} {J : S → Prop}

section Statements

variable {held : Finset (M × Mode)} {q : Unit → Prog M S R}

@[simp] lemma ordered_pure {r : R} : Ordered rank J held (pure r : Prog M S R) ↔ held = ∅ := Iff.rfl

@[simp] lemma ordered_lock : Ordered rank J held (lock m >>= q) ↔
    (∀ h ∈ held, rank h.1 < rank m) ∧ Ordered rank J (insert (m, .write) held) (q ()) := Iff.rfl

@[simp] lemma ordered_unlock : Ordered rank J held (unlock m >>= q) ↔
    (m, .write) ∈ held ∧ Ordered rank J (held.erase (m, .write)) (q ()) := Iff.rfl

@[simp] lemma ordered_rlock : Ordered rank J held (rlock m >>= q) ↔
    (∀ h ∈ held, rank h.1 < rank m) ∧ Ordered rank J (insert (m, .read) held) (q ()) := Iff.rfl

@[simp] lemma ordered_runlock : Ordered rank J held (runlock m >>= q) ↔
    (m, .read) ∈ held ∧ Ordered rank J (held.erase (m, .read)) (q ()) := Iff.rfl

lemma ordered_atomically {f : S → R' × S} {k : R' → Prog M S R} :
    Ordered rank J held (atomically f >>= k) ↔ ∀ s, J s → J (f s).2 ∧ Ordered rank J held (k (f s).1) := Iff.rfl

end Statements

/-- The mutexes record what each thread holds, and each thread keeps to the order from there. -/
structure Guarded (rank : M → ℕ) (J : S → Prop) (held : ι → Finset (M × Mode))
    (p : Pool ι (Machine ι M S) (Prog M S R)) : Prop where
  ordered : ∀ i, Ordered rank J (held i) (p.locals i)
  writer : ∀ m i, (p.shared.mutexes m).writer = some i ↔ (m, .write) ∈ held i
  readers : ∀ m i, (p.shared.mutexes m).readers.count i = if (m, .read) ∈ held i then 1 else 0
  state : J p.shared.state

variable {held : ι → Finset (M × Mode)} {p : Pool ι (Machine ι M S) (Prog M S R)} {i : ι}

variable {c : Machine ι M S} {k : Prog M S R}

lemma Guarded.update (h : Guarded rank J held p) (mi : Finset (M × Mode)) (ho : Ordered rank J mi k)
    (hw : ∀ m j, (c.mutexes m).writer = some j ↔ (m, .write) ∈ Function.update held i mi j)
    (hr : ∀ m j, (c.mutexes m).readers.count j = if (m, .read) ∈ Function.update held i mi j then 1 else 0)
    (hJ : J c.state) : Guarded rank J (Function.update held i mi) ⟨c, Function.update p.locals i k⟩ := by
  refine ⟨?_, hw, hr, hJ⟩
  intro j
  dsimp only
  by_cases hj : j = i
  · rwa [hj, Function.update_self, Function.update_self]
  · rw [Function.update_of_ne hj, Function.update_of_ne hj]
    exact h.ordered j

lemma Guarded.keep (h : Guarded rank J held p) (ho : Ordered rank J (held i) k) (hc : c.mutexes = p.shared.mutexes)
    (hJ : J c.state) : Guarded rank J held ⟨c, Function.update p.locals i k⟩ := by
  rw [← Function.update_eq_self i held]
  refine h.update (held i) ho ?_ ?_ hJ
  · rw [Function.update_eq_self, hc]
    exact h.writer
  · rw [Function.update_eq_self, hc]
    exact h.readers

omit [DecidableEq ι] in
lemma Machine.set_mutexes {m' : M} {mu : RWMutex ι} :
    (c.set m mu).mutexes m' = if m' = m then mu else c.mutexes m' := Function.update_apply ..

lemma guarded_advance (h : Guarded rank J held p) {i : ι} : ∃ held', Guarded rank J held' (p.advance progStep i) := by
  have ho := h.ordered i
  have hw := h.writer
  have hr := h.readers
  cases hi : p.locals i with
  | ret r =>
    rw [Pool.advance_of_none (by rw [hi, progStep])]
    exact ⟨held, h⟩
  | lock m k =>
    rw [hi, Ordered] at ho
    by_cases hf : (p.shared.mutexes m).writer = none
    · rw [Pool.advance_of_some (by rw [hi, progStep, if_pos hf])]
      refine ⟨_, h.update (insert (m, .write) (held i)) ⟨Finset.mem_insert_self .., ?_, ho.2⟩ ?_ ?_ h.state⟩
      · intro o hoth hne
        exact ho.1 o (Finset.mem_of_mem_insert_of_ne hoth hne)
      · intro m' j
        rw [Machine.set_mutexes, Function.update_apply]
        grind
      · intro m' j
        rw [Machine.set_mutexes, Function.update_apply]
        grind
    · rw [Pool.advance_of_none (by rw [hi, progStep, if_neg hf])]
      exact ⟨held, h⟩
  | enter m k =>
    rw [hi, Ordered] at ho
    by_cases he : (p.shared.mutexes m).readers = 0
    · rw [Pool.advance_of_some (by rw [hi, progStep, if_pos he])]
      exact ⟨held, h.keep ho.2.2 rfl h.state⟩
    · rw [Pool.advance_of_none (by rw [hi, progStep, if_neg he])]
      exact ⟨held, h⟩
  | unlock m k =>
    rw [hi, Ordered] at ho
    rw [Pool.advance_of_some (by rw [hi, progStep])]
    refine ⟨_, h.update ((held i).erase (m, .write)) ho.2 ?_ ?_ h.state⟩
    · intro m' j
      rw [Machine.set_mutexes, Function.update_apply]
      grind
    · intro m' j
      rw [Machine.set_mutexes, Function.update_apply]
      grind
  | rlock m k =>
    rw [hi, Ordered] at ho
    by_cases hf : (p.shared.mutexes m).writer = none
    · rw [Pool.advance_of_some (by rw [hi, progStep, if_pos hf])]
      have hnew : (m, Mode.read) ∉ held i := fun hm => lt_irrefl _ (ho.1 _ hm)
      refine ⟨_, h.update (insert (m, .read) (held i)) ho.2 ?_ ?_ h.state⟩
      · intro m' j
        rw [Machine.set_mutexes, Function.update_apply]
        grind
      · intro m' j
        rw [Machine.set_mutexes, Function.update_apply]
        grind [Multiset.count_cons]
    · rw [Pool.advance_of_none (by rw [hi, progStep, if_neg hf])]
      exact ⟨held, h⟩
  | runlock m k =>
    rw [hi, Ordered] at ho
    rw [Pool.advance_of_some (by rw [hi, progStep])]
    refine ⟨_, h.update ((held i).erase (m, .read)) ho.2 ?_ ?_ h.state⟩
    · intro m' j
      rw [Machine.set_mutexes, Function.update_apply]
      grind
    · intro m' j
      rw [Machine.set_mutexes, Function.update_apply]
      grind [Multiset.count_erase_self, Multiset.count_erase_of_ne]
  | act f k =>
    rw [hi, Ordered] at ho
    rw [Pool.advance_of_some (by rw [hi, progStep])]
    obtain ⟨hJ, hk⟩ := ho _ h.state
    exact ⟨held, h.keep hk rfl hJ⟩

lemma guarded_start {ps : ι → Prog M S R} (ho : ∀ i, Ordered rank J ∅ (ps i)) (hs : J s) :
    Guarded rank J (fun _ => ∅) ⟨⟨fun _ => {}, s⟩, ps⟩ := by
  refine ⟨ho, ?_, ?_, hs⟩
  · intro m i
    simp
  · intro m i
    simp

lemma guarded_run (h : Guarded rank J held p) {s : List ι} :
    ∃ held', Guarded rank J held' (run (Pool.advance progStep) p s) := by
  refine run_preserves (fun p => ∃ held, Guarded rank J held p) s ?_ ⟨held, h⟩
  rintro p i _ ⟨held, h⟩
  exact guarded_advance h

lemma Ordered.bind_ret {held : Finset (M × Mode)} {q : Prog M S R} (h : Ordered rank J held q) (f : R → R') :
    Ordered rank J held (q.bind fun r => .ret (f r)) := by
  induction q generalizing held with
  | ret r => exact h
  | lock m k ih => exact ⟨h.1, ih h.2⟩
  | enter m k ih => exact ⟨h.1, h.2.1, ih h.2.2⟩
  | unlock m k ih => exact ⟨h.1, ih h.2⟩
  | rlock m k ih => exact ⟨h.1, ih h.2⟩
  | runlock m k ih => exact ⟨h.1, ih h.2⟩
  | act g k ih => exact fun s hs => ⟨(h s hs).1, ih s (h s hs).2⟩

def Deadlocked (p : Pool ι (Machine ι M S) (Prog M S R)) : Prop :=
  ∀ i, ¬(p.locals i).Returned ∧ progStep i p.shared (p.locals i) = none

instance decidableDeadlocked [Fintype ι] (p : Pool ι (Machine ι M S) (Prog M S R)) : Decidable (Deadlocked p) :=
  inferInstanceAs (Decidable (∀ i, ¬(p.locals i).Returned ∧ progStep i p.shared (p.locals i) = none))

def Prog.waitsFor : Prog M S R → Option M
  | .lock m _ => some m
  | .enter m _ => some m
  | .rlock m _ => some m
  | _ => none

def Blocked (p : Pool ι (Machine ι M S) (Prog M S R)) (i : ι) (m : M) : Prop :=
  progStep i p.shared (p.locals i) = none ∧ (p.locals i).waitsFor = some m

lemma exists_blocked
    (h : progStep i p.shared (p.locals i) = none) (hn : ¬(p.locals i).Returned) : ∃ m, Blocked p i m := by
  refine (?_ : ∃ m, (p.locals i).waitsFor = some m).imp fun m hm => ⟨h, hm⟩
  cases hi : p.locals i with
  | ret r =>
    rw [hi] at hn
    exact absurd trivial hn
  | lock m k => exact ⟨m, rfl⟩
  | enter m k => exact ⟨m, rfl⟩
  | rlock m k => exact ⟨m, rfl⟩
  | unlock m k =>
    rw [hi] at h
    cases h
  | runlock m k =>
    rw [hi] at h
    cases h
  | act f k =>
    rw [hi] at h
    cases h

variable {l : M × Mode}

lemma Guarded.not_returned (h : Guarded rank J held p) (hm : l ∈ held i) : ¬(p.locals i).Returned := by
  intro hr
  have ho := h.ordered i
  cases hi : p.locals i with
  | ret r =>
    rw [hi, Ordered] at ho
    rw [ho] at hm
    exact absurd hm (Finset.notMem_empty _)
  | _ =>
    rwa [hi] at hr

lemma Guarded.rank_lt (h : Guarded rank J held p) (hmem : l ∈ held i)
    (hb : Blocked p i m) : rank l.1 < rank m ∨ l = (m, .write) ∧ (p.shared.mutexes m).readers ≠ 0 := by
  have ho := h.ordered i
  obtain ⟨hs, hm⟩ := hb
  cases hi : p.locals i with
  | lock m' k =>
    rw [hi] at hm ho
    cases hm
    exact .inl (ho.1 l hmem)
  | rlock m' k =>
    rw [hi] at hm ho
    cases hm
    exact .inl (ho.1 l hmem)
  | enter m' k =>
    rw [hi] at hm ho hs
    cases hm
    by_cases he : l = (m, .write)
    · refine .inr ⟨he, ?_⟩
      intro hz
      rw [progStep, if_pos hz] at hs
      cases hs
    · exact .inl (ho.2.1 l hmem he)
  | _ =>
    rw [hi] at hm
    cases hm

lemma Guarded.progress [Finite ι] (h : Guarded rank J held p) (hs : ∀ i, progStep i p.shared (p.locals i) = none)
    (i : ι) : (p.locals i).Returned := by
  by_contra hn
  let waiting := { i : ι // ¬(p.locals i).Returned }
  have : Nonempty waiting := ⟨⟨i, hn⟩⟩
  -- among the threads that have not returned, one waits for a mutex of the highest rank
  obtain ⟨⟨f, hf⟩, hmax⟩ := Finite.exists_max fun i : waiting => (p.locals i.1).waitsFor.elim 0 rank
  obtain ⟨m, hm⟩ := exists_blocked (hs f) hf
  have hle : ∀ {j l}, l ∈ held j → ∃ m', Blocked p j m' ∧ rank m' ≤ rank m := by
    intro j l hmem
    have hj := h.not_returned hmem
    obtain ⟨m', hm'⟩ := exists_blocked (hs j) hj
    have hr := hmax ⟨j, hj⟩
    dsimp only at hr
    rw [hm'.2, hm.2] at hr
    exact ⟨m', hm', hr⟩
  have hre : (p.shared.mutexes m).readers = 0 := by
    rw [Multiset.eq_zero_iff_forall_notMem]
    intro j hj
    have hco := h.readers m j
    have hpos := Multiset.count_pos.mpr hj
    split_ifs at hco with hmem
    · obtain ⟨m', hm', hr⟩ := hle hmem
      rcases h.rank_lt hmem hm' with hl | ⟨he, -⟩
      · exact absurd hl (not_lt.mpr hr)
      · cases he
    · omega
  have hwr : (p.shared.mutexes m).writer = none := by
    cases hw : (p.shared.mutexes m).writer with
    | none => rfl
    | some j =>
      have hmem := (h.writer m j).mp hw
      obtain ⟨m', hm', hr⟩ := hle hmem
      rcases h.rank_lt hmem hm' with hl | ⟨he, hne⟩
      · exact absurd hl (not_lt.mpr hr)
      · cases he
        exact absurd hre hne
  obtain ⟨hnone, hwa⟩ := hm
  cases hi : p.locals f with
  | lock m' k =>
    rw [hi] at hnone hwa
    cases hwa
    rw [progStep, if_pos hwr] at hnone
    cases hnone
  | enter m' k =>
    rw [hi] at hnone hwa
    cases hwa
    rw [progStep, if_pos hre] at hnone
    cases hnone
  | rlock m' k =>
    rw [hi] at hnone hwa
    cases hwa
    rw [progStep, if_pos hwr] at hnone
    cases hnone
  | _ =>
    rw [hi] at hwa
    cases hwa

lemma Guarded.neverStuck [Finite ι] (h : Guarded rank J held p) : p.NeverStuck progStep Prog.Returned := by
  intro s
  obtain ⟨held', h'⟩ := guarded_run h
  by_cases hm : ∃ i, progStep i (run (Pool.advance progStep) p s).shared
      ((run (Pool.advance progStep) p s).locals i) ≠ none
  · exact .inr hm
  · exact .inl (h'.progress (not_exists_not.mp hm))

namespace Prog

inductive Rest : Prog M S R → Prog M S R → Prop
  | lock (m : M) (k : Prog M S R) : Rest (.enter m k) (.lock m k)
  | enter (m : M) (k : Prog M S R) : Rest k (.enter m k)
  | unlock (m : M) (k : Prog M S R) : Rest k (.unlock m k)
  | rlock (m : M) (k : Prog M S R) : Rest k (.rlock m k)
  | runlock (m : M) (k : Prog M S R) : Rest k (.runlock m k)
  | act (f : S → S) (k : S → Prog M S R) (s : S) : Rest (k s) (.act f k)

omit [DecidableEq M] in
lemma wellFounded_rest : WellFounded (Rest : Prog M S R → Prog M S R → Prop) := by
  constructor
  intro p
  induction p with
  | ret r =>
    constructor
    rintro _ ⟨⟩
  | lock m k ih =>
    constructor
    rintro _ ⟨⟩
    constructor
    rintro _ ⟨⟩
    exact ih
  | enter m k ih =>
    constructor
    rintro _ ⟨⟩
    exact ih
  | unlock m k ih =>
    constructor
    rintro _ ⟨⟩
    exact ih
  | rlock m k ih =>
    constructor
    rintro _ ⟨⟩
    exact ih
  | runlock m k ih =>
    constructor
    rintro _ ⟨⟩
    exact ih
  | act f k ih =>
    constructor
    rintro _ ⟨⟩
    exact ih _

end Prog

lemma rest_of_progStep {c' : Machine ι M S} {q : Prog M S R} (h : progStep i c q = some (c', k)) : Prog.Rest k q := by
  cases q with
  | ret r => cases h
  | lock m q =>
    rw [progStep] at h
    split_ifs at h
    cases h
    exact .lock m q
  | enter m q =>
    rw [progStep] at h
    split_ifs at h
    cases h
    exact .enter m k
  | rlock m q =>
    rw [progStep] at h
    split_ifs at h
    cases h
    exact .rlock m k
  | unlock m q =>
    cases h
    exact .unlock m k
  | runlock m q =>
    cases h
    exact .runlock m k
  | act f q =>
    cases h
    exact .act f q c.state

lemma Guarded.finishes {n : ℕ} {held : Fin n → Finset (M × Mode)} {p : Pool (Fin n) (Machine (Fin n) M S) (Prog M S R)}
    (h : Guarded rank J held p) : p.Finishes progStep Prog.Returned := by
  obtain ⟨c, ls⟩ := p
  -- each step leaves less of one program, and the other programs as they are
  induction ls using
    (Pi.Lex.wellFounded (· < ·) fun _ : Fin n => (Prog.wellFounded_rest : WellFounded (Prog.Rest (R := R)))).induction
    generalizing c held with
  | _ ls ih =>
    refine .intro h.progress ?_
    intro i hi
    obtain ⟨⟨c', k⟩, hk⟩ := Option.ne_none_iff_exists'.mp hi
    obtain ⟨held', hnext⟩ := guarded_advance h
    rw [Pool.advance_of_some hk] at hnext ⊢
    refine ih (Function.update ls i k) ?_ c' hnext
    refine ⟨i, ?_, ?_⟩
    · intro j hj
      exact Function.update_of_ne hj.ne k ls
    · dsimp only
      rw [Function.update_self]
      exact rest_of_progStep hk

section Serial

/-- The program gives back `m` as its last step only; should it ask for `m` again, it goes no further. -/
def Inside (m : M) : Prog M S R → Prop
  | .ret _ => False
  | .unlock m' k => m' = m ∧ (∃ r, k = .ret r) ∨ m' ≠ m ∧ Inside m k
  | .lock m' k | .rlock m' k => m' = m ∨ Inside m k
  | .enter _ k | .runlock _ k => Inside m k
  | .act _ k => ∀ s, Inside m (k s)

variable (m : M) (ps : ι → Prog M S R) (s : S)

def serially (order : List ι) : S := order.foldl (fun s i => ((ps i).eval s).2) s

structure Serial (order : List ι) (p : Pool ι (Machine ι M S) (Prog M S R)) : Prop where
  nodup : order.Nodup
  entered : ∀ i ∈ order, (p.locals i).Returned ∨ (p.shared.mutexes m).writer = some i
  waiting : ∀ i ∉ order, p.locals i = ps i ∧ (p.shared.mutexes m).writer ≠ some i
  inside : ∀ i, (p.shared.mutexes m).writer = some i → Inside m (p.locals i)
  state : (match (p.shared.mutexes m).writer with
    | none => p.shared.state
    | some i => ((p.locals i).eval p.shared.state).2) = serially ps s order

variable {m ps s} {order : List ι}

lemma inside_progStep {c' : Machine ι M S} {q : Prog M S R} (h : progStep i c q = some (c', k)) (hq : Inside m q)
    (hw : (c.mutexes m).writer = some i) :
    (c'.mutexes m).writer = some i ∧ Inside m k ∧ (k.eval c'.state).2 = (q.eval c.state).2 ∨
      (c'.mutexes m).writer = none ∧ k.Returned ∧ c'.state = (q.eval c.state).2 := by
  cases q with
  | ret r => cases h
  | act f q =>
    cases h
    exact .inl ⟨hw, hq _, rfl⟩
  | _ =>
    simp only [progStep, Option.ite_none_right_eq_some, Option.some.injEq, Prod.mk.injEq] at h
    grind [Inside, Prog.eval, Prog.Returned, Machine.set_mutexes, Machine.set]

lemma serial_advance (hp : ∀ i, ∃ k, ps i = .lock m k ∧ Inside m k) (h : Serial m ps s order p) (j : ι) :
    ∃ order', Serial m ps s order' (p.advance progStep j) := by
  obtain ⟨hd, hr, hn, hi, hs⟩ := h
  cases hst : progStep j p.shared (p.locals j) with
  | none =>
    rw [Pool.advance_of_none hst]
    exact ⟨order, hd, hr, hn, hi, hs⟩
  | some q =>
    rw [Pool.advance_of_some hst]
    by_cases hw : (p.shared.mutexes m).writer = some j
    · have hst := inside_progStep hst (hi j hw) hw
      refine ⟨order, hd, ?_, ?_, ?_, ?_⟩
      all_goals grind [Function.update_apply]
    · by_cases hj : j ∈ order
      · have hret := (hr j hj).resolve_right hw
        cases hl : p.locals j with
        | ret r =>
          rw [hl] at hst
          cases hst
        | _ =>
          rw [hl] at hret
          cases hret
      · obtain ⟨k, hk, hin⟩ := hp j
        rw [(hn j hj).1, hk, progStep] at hst
        split_ifs at hst with hf
        cases hst
        rw [hf] at hs
        refine ⟨order ++ [j], hd.append (List.nodup_singleton j) (List.disjoint_singleton.mpr hj), ?_, ?_, ?_, ?_⟩
        all_goals grind [Function.update_apply, Machine.set_mutexes, Machine.set, serially, Inside, Prog.eval]

lemma serial_run (hp : ∀ i, ∃ k, ps i = .lock m k ∧ Inside m k) (schedule : List ι) :
    ∃ order, Serial m ps s order (run (Pool.advance progStep) ⟨⟨fun _ => {}, s⟩, ps⟩ schedule) := by
  refine run_preserves (fun p => ∃ order, Serial m ps s order p) schedule ?_ ⟨[], ?_⟩
  · rintro p j - ⟨order, h⟩
    exact serial_advance hp h j
  · constructor <;> simp [serially]

end Serial

end Cloudless.Foundations.Locks
