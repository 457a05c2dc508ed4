import Cloudless.Foundations.Runs
import Cloudless.Raft.Store

/-! What reads of a log return, on the leader that takes the writes and on replicas that apply it at clock readings of
their own. -/

namespace Cloudless.Raft

open Foundations GoStd Runs

variable {V : Type}

/-- The readings of one replica: `reading i j` is taken by command `j` of log entry `i`. -/
structure Clock where
  reading : ℕ → ℕ → Time
  mono : ∀ {i j i' j'}, i < i' ∨ i = i' ∧ j ≤ j' → reading i j ≤ reading i' j'

def applyLog (c : Clock) : ℕ → List (LogData V) → FSM V → FSM V
  | _, [], f => f
  | i, l :: ls, f => applyLog c (i + 1) ls (f.apply (c.reading i) l).1

def timeline (c : Clock) : ℕ → List (LogData V) → List (Time × Mutation V)
  | _, [] => []
  | i, l :: ls => stamp (c.reading i) 0 l.mutations ++ timeline c (i + 1) ls

variable {log : List (LogData V)} {i : ℕ}

lemma applyLog_eq {c : Clock} {f : FSM V} : applyLog c i log f = f.performAll (timeline c i log) := by
  induction log generalizing i f with
  | nil => rfl
  | cons l ls ih => rw [applyLog, ih, FSM.apply_eq, timeline, FSM.performAll_append]

-- The last mutation that took effect on a key decides what a read of the key returns.
def survivor (k : String) (ps : List (Time × Mutation V)) : Option (Mutation V) :=
  ps.foldl (fun s p => if p.2.writes p.1 k then some p.2 else s) none

variable {ps : List (Time × Mutation V)} {k : String}

@[simp] lemma survivor_snoc {p : Time × Mutation V} :
    survivor k (ps ++ [p]) = if p.2.writes p.1 k then some p.2 else survivor k ps := by
  simp only [survivor, List.foldl_append, List.foldl_cons, List.foldl_nil]

def read (now : Time) (k : String) : Option (Mutation V) → Except String V
  | some (.set _ v e) => if expired e now then .error ("key expired: " ++ k) else .ok v
  | _ => .error ("key not found: " ++ k)

def lapsed (now : Time) : Option (Mutation V) → Bool
  | some (.set _ _ e) => expired e now
  | _ => false

lemma read_lapsed {now : Time} {o : Option (Mutation V)} :
    read now k o = .error ("key expired: " ++ k) ↔ lapsed now o = true := by
  rcases o with _ | ⟨_, v, e⟩ | _ | _
  · simp [read, lapsed]
  · by_cases he : expired e now = true <;> simp [read, lapsed, he]
  · simp [read, lapsed]
  · simp [read, lapsed]

lemma get_performAll {now : Time} : (newFSM.performAll ps).get now k = read now k (survivor k ps) := by
  induction ps using List.reverseRecOn with
  | nil => rfl
  | append_singleton ps p ih =>
    rw [FSM.performAll_append, survivor_snoc, FSM.performAll_cons, FSM.performAll_nil]
    by_cases hw : p.2.writes p.1 k = true
    · rw [if_pos hw]
      obtain ⟨t, m⟩ := p
      rcases Mutation.writes_cases hw with ⟨v, e, rfl, he⟩ | rfl
      · simp only [FSM.get, FSM.lookup_perform_set _ _ _ _ _ he, read]
      · simp only [FSM.get, FSM.lookup_perform_delete, read]
    · rw [if_neg hw, ← ih]
      simp only [FSM.get, FSM.lookup_perform_of_not_writes _ _ _ (Bool.eq_false_of_not_eq_true hw)]

section Writes

inductive Write (V : Type)
  | set (key : String) (value : V)
  | setWithTTL (now : Time) (key : String) (value : V) (ttl : ℤ)
  | delete (key : String)
  | applyBatch (commands : List (Command V))
  | applyRaw (data : LogData V)

structure Attempt (V : Type) where
  env : RaftEnv
  isLeader : Bool
  write : Write V

variable [Inhabited V]

def attempt (s : RaftStore V) (a : Attempt V) : RaftStore V × Option String :=
  let s := { s with isLeader := a.isLeader }
  match a.write with
  | .set key value => s.set a.env key value
  | .setWithTTL now key value ttl => s.setWithTTL a.env now key value ttl
  | .delete key => s.delete a.env key
  | .applyBatch commands => s.applyBatch a.env commands
  | .applyRaw data => s.applyRaw a.env data

def Write.data : Write V → LogData V
  | .set key value => .ofCommand ⟨"set", key, value, 0⟩
  | .setWithTTL now key value ttl => .ofCommand ⟨"set", key, value, unixSeconds (now + ttl)⟩
  | .delete key => .ofCommand ⟨"delete", key, default, 0⟩
  | .applyBatch commands => .ofBatch commands
  | .applyRaw data => data

def Attempt.effects (a : Attempt V) : List (Time × Mutation V) :=
  match a.isLeader, a.env.commit with
  | true, .committed | true, .lost _ => stamp a.env.now 0 a.write.data.mutations
  | _, _ => []

lemma fsm_attempt (s : RaftStore V) (a : Attempt V) : (attempt s a).1.fsm = s.fsm.performAll a.effects := by
  obtain ⟨failure, h⟩ : ∃ failure, attempt s a =
      RaftStore.submit a.env failure a.write.data { s with isLeader := a.isLeader } := by
    rw [attempt]
    cases a.write <;> exact ⟨_, rfl⟩
  rw [h, RaftStore.submit, Attempt.effects]
  cases a.isLeader with
  | false => rfl
  | true => cases a.env.commit <;> simp [RaftStore.fsm_append]

lemma fsm_attempts (s : RaftStore V) (as : List (Attempt V)) :
    (run (fun s a => (attempt s a).1) s as).fsm = s.fsm.performAll (as.flatMap Attempt.effects) := by
  induction as generalizing s with
  | nil => rfl
  | cons a as ih => rw [run_cons, ih, fsm_attempt, List.flatMap_cons, FSM.performAll_append]

theorem get_attempts (s : RaftStore V) (as : List (Attempt V)) (t : Time) (k : String) :
    (run (fun s a => (attempt s a).1) { s with fsm := newFSM } as).fsm.get t k =
      read t k (survivor k (as.flatMap Attempt.effects)) := by
  rw [fsm_attempts, get_performAll]

end Writes

structure Delivery (V : Type) where
  (left right : Time)
  mutation : Mutation V

namespace Delivery

def onLeft (d : Delivery V) : Time × Mutation V := (d.left, d.mutation)

def onRight (d : Delivery V) : Time × Mutation V := (d.right, d.mutation)

def writesLeft (k : String) (d : Delivery V) : Bool := d.mutation.writes d.left k

def writesRight (k : String) (d : Delivery V) : Bool := d.mutation.writes d.right k

end Delivery

def stampBoth (s t : ℕ → Time) : ℕ → List (Mutation V) → List (Delivery V)
  | _, [] => []
  | i, m :: ms => ⟨s i, t i, m⟩ :: stampBoth s t (i + 1) ms

def deliveries (a b : Clock) : ℕ → List (LogData V) → List (Delivery V)
  | _, [] => []
  | i, l :: ls => stampBoth (a.reading i) (b.reading i) 0 l.mutations ++ deliveries a b (i + 1) ls

variable {ms : List (Mutation V)}

lemma stampBoth_left {s t : ℕ → Time} : (stampBoth s t i ms).map Delivery.onLeft = stamp s i ms := by
  induction ms generalizing i with
  | nil => rfl
  | cons m ms ih => simp [stampBoth, stamp, Delivery.onLeft, ih]

lemma stampBoth_right {s t : ℕ → Time} : (stampBoth s t i ms).map Delivery.onRight = stamp t i ms := by
  induction ms generalizing i with
  | nil => rfl
  | cons m ms ih => simp [stampBoth, stamp, Delivery.onRight, ih]

lemma deliveries_left {a b : Clock} : (deliveries a b i log).map Delivery.onLeft = timeline a i log := by
  induction log generalizing i with
  | nil => rfl
  | cons l ls ih => rw [deliveries, timeline, List.map_append, stampBoth_left, ih]

lemma deliveries_right {a b : Clock} : (deliveries a b i log).map Delivery.onRight = timeline b i log := by
  induction log generalizing i with
  | nil => rfl
  | cons l ls ih => rw [deliveries, timeline, List.map_append, stampBoth_right, ih]

def FinishedBy (a b : Clock) (log : List (LogData V)) (t : Time) : Prop :=
  ∀ d ∈ deliveries a b 0 log, d.left ≤ t ∧ d.right ≤ t

instance (a b : Clock) (log : List (LogData V)) (t : Time) : Decidable (FinishedBy a b log t) :=
  inferInstanceAs (Decidable (∀ d ∈ deliveries a b 0 log, d.left ≤ t ∧ d.right ≤ t))

/-- One replica stored a write of `k` that the other one skipped, neither stored a later write of
`k`, and what the other one had stored under `k` before has not lapsed at `t`. -/
def Overtaken (t : Time) (k : String) (ds : List (Delivery V)) : Prop :=
  ∃ earlier d later, ds = earlier ++ d :: later ∧
    (∀ x ∈ later, x.writesLeft k = false ∧ x.writesRight k = false) ∧
    ((d.writesLeft k = true ∧ d.writesRight k = false ∧
        lapsed t (survivor k (earlier.map Delivery.onRight)) = false) ∨
      (d.writesRight k = true ∧ d.writesLeft k = false ∧
        lapsed t (survivor k (earlier.map Delivery.onLeft)) = false))

variable {ds : List (Delivery V)} {t : Time} {d : Delivery V}

lemma overtaken_snoc_quiet (hl : d.writesLeft k = false) (hr : d.writesRight k = false) :
    Overtaken t k (ds ++ [d]) ↔ Overtaken t k ds := by
  constructor
  · rintro ⟨e, x, l, he, hla, hx⟩
    rcases List.eq_nil_or_concat l with rfl | ⟨l', y, rfl⟩
    · obtain ⟨rfl, hd⟩ := List.append_inj' he rfl
      obtain rfl : d = x := by simpa using hd
      rcases hx with ⟨h, _⟩ | ⟨h, _⟩
      · exact absurd h (by simp [hl])
      · exact absurd h (by simp [hr])
    · rw [List.concat_eq_append, ← List.cons_append, ← List.append_assoc] at he
      obtain ⟨rfl, -⟩ := List.append_inj' he rfl
      refine ⟨e, x, l', rfl, ?_, hx⟩
      intro z hz
      exact hla z (by simp [hz])
  · rintro ⟨e, x, l, rfl, hla, hx⟩
    refine ⟨e, x, l ++ [d], by simp, ?_, hx⟩
    intro z hz
    rcases List.mem_append.mp hz with hz | hz
    · exact hla z hz
    · obtain rfl : z = d := by simpa using hz
      exact ⟨hl, hr⟩

lemma overtaken_snoc_writes (hw : d.writesLeft k = true ∨ d.writesRight k = true) : Overtaken t k (ds ++ [d]) ↔
      (d.writesLeft k = true ∧ d.writesRight k = false ∧ lapsed t (survivor k (ds.map Delivery.onRight)) = false) ∨
        (d.writesRight k = true ∧ d.writesLeft k = false ∧
          lapsed t (survivor k (ds.map Delivery.onLeft)) = false) := by
  constructor
  · rintro ⟨e, x, l, he, hl, hx⟩
    rcases List.eq_nil_or_concat l with rfl | ⟨l', y, rfl⟩
    · obtain ⟨rfl, hd⟩ := List.append_inj' he rfl
      obtain rfl : d = x := by simpa using hd
      exact hx
    · rw [List.concat_eq_append, ← List.cons_append, ← List.append_assoc] at he
      obtain ⟨-, hd⟩ := List.append_inj' he rfl
      obtain rfl : d = y := by simpa using hd
      have hq := hl d (by simp)
      rcases hw with hw | hw
      · exact absurd hw (by simp [hq.1])
      · exact absurd hw (by simp [hq.2])
  · intro hx
    exact ⟨ds, d, [], rfl, by simp, hx⟩

lemma lapsed_of_skipped {m : Mutation V} {s u t : Time} (hs : m.writes s k = true)
    (hu : m.writes u k = false) (hut : u ≤ t) : lapsed t (some m) = true := by
  rcases Mutation.writes_cases hs with ⟨v, e, rfl, _⟩ | rfl
  · have he : expired e u = true := by simpa [Mutation.writes] using hu
    exact expired_mono hut he
  · simp [Mutation.writes] at hu

lemma read_eq_of_lapsed {o o' : Option (Mutation V)} (h : lapsed t o = true) :
    read t k o = read t k o' ↔ lapsed t o' = true := by
  rw [read_lapsed.mpr h, eq_comm, read_lapsed]

lemma reads_agree_iff (ht : ∀ d ∈ ds, d.left ≤ t ∧ d.right ≤ t) :
    read t k (survivor k (ds.map Delivery.onLeft)) = read t k (survivor k (ds.map Delivery.onRight)) ↔
      ¬ Overtaken t k ds := by
  induction ds using List.reverseRecOn with
  | nil => simp [Overtaken]
  | append_singleton ds d ih =>
    have hds : ∀ x ∈ ds, x.left ≤ t ∧ x.right ≤ t := fun x hx => ht x (List.mem_append_left _ hx)
    have hd : d.left ≤ t ∧ d.right ≤ t := ht d (by simp)
    simp only [List.map_append, List.map_cons, List.map_nil, survivor_snoc]
    change read t k (if d.writesLeft k = true then some d.mutation else _) =
      read t k (if d.writesRight k = true then some d.mutation else _) ↔ _
    cases hl : d.writesLeft k <;> cases hr : d.writesRight k
    · rw [overtaken_snoc_quiet hl hr]
      simpa using ih hds
    · have hla := lapsed_of_skipped hr hl hd.1
      rw [overtaken_snoc_writes (.inr hr)]
      simp only [hl, hr, Bool.false_eq_true, if_false, if_true, false_and, true_and, false_or,
        Bool.not_eq_false]
      rw [eq_comm, read_eq_of_lapsed hla]
    · have hla := lapsed_of_skipped hl hr hd.2
      rw [overtaken_snoc_writes (.inl hl)]
      simp only [hl, hr, Bool.false_eq_true, if_false, if_true, false_and, true_and, or_false,
        Bool.not_eq_false]
      rw [read_eq_of_lapsed hla]
    · rw [overtaken_snoc_writes (.inl hl)]
      simp [hl, hr]

theorem replicas_agree_iff (log : List (LogData V)) (a b : Clock) : (∀ t, FinishedBy a b log t → ∀ k,
        (applyLog a 0 log newFSM).get t k = (applyLog b 0 log newFSM).get t k) ↔
      ∀ t, FinishedBy a b log t → ∀ k, ¬ Overtaken t k (deliveries a b 0 log) := by
  have hr : ∀ t, FinishedBy a b log t → ∀ k,
      ((applyLog a 0 log newFSM).get t k = (applyLog b 0 log newFSM).get t k ↔
        ¬ Overtaken t k (deliveries a b 0 log)) := by
    intro t ht k
    rw [applyLog_eq, applyLog_eq, get_performAll, get_performAll, ← deliveries_left, ← deliveries_right]
    exact reads_agree_iff ht
  constructor
  · intro h t ht k
    exact (hr t ht k).mp (h t ht k)
  · intro h t ht k
    exact (hr t ht k).mpr (h t ht k)

def promptClock : Clock := ⟨fun _ _ => unix 50, fun _ => le_refl _⟩

def tardyClock : Clock where
  reading i _ := if i = 0 then unix 50 else unix 150
  mono := by
    intro i j i' j' h
    have hu : unix 50 ≤ unix 150 := by decide
    by_cases hi : i = 0
    · by_cases hi' : i' = 0
      · simp [hi, hi']
      · simpa [hi, hi'] using hu
    · have hi' : i' ≠ 0 := by omega
      simp [hi, hi']

def ttlLog : List (LogData Bytes) :=
  [.ofCommand ⟨"set", "k", [1], 0⟩, .ofCommand ⟨"set", "k", [2], 100⟩]

theorem replicas_diverge : ¬ ∀ (log : List (LogData Bytes)) (a b : Clock) (t : Time), FinishedBy a b log t →
    ∀ k, (applyLog a 0 log newFSM).get t k = (applyLog b 0 log newFSM).get t k := by
  intro h
  have hf : FinishedBy promptClock tardyClock ttlLog (unix 200) := by decide
  have hk := h ttlLog promptClock tardyClock (unix 200) hf "k"
  exact absurd hk (by decide)

end Cloudless.Raft
