import Cloudless.Foundations.Runs
import Cloudless.Scheduler.Types

namespace Cloudless.Scheduler

open Foundations GoStd Runs

inductive RolloutPhase
  | initializing
  | scalingUp
  | updating
  | scalingDown
  | paused
  | completed
  | failed
  deriving DecidableEq

inductive RolloutAction
  | start
  | stop
  | wait
  deriving DecidableEq

structure RolloutPhaseAction where
  phase : RolloutPhase
  action : RolloutAction
  replicaCount : Int64 := 0
  waitDuration : Int64 := 0
  deriving DecidableEq

structure RolloutPlan where
  strategy : String
  minAvailable : Int64
  maxSurge : Int64 := 0
  maxUnavailable : Int64 := 0
  pauseDuration : Int64
  phases : List RolloutPhaseAction
  deriving DecidableEq

def minInt (a b : Int64) : Int64 := if a < b then a else b

def maxInt (a b : Int64) : Int64 := if b < a then a else b

def seconds (n : Int64) : Int64 := n * 1000000000

def scaleUpPhases (currentReplicas desiredReplicas : Int64) (strategy : RolloutStrategy) : List RolloutPhaseAction :=
  if currentReplicas < desiredReplicas then
    let maxSurgeReplicas := if strategy.maxSurge = 0 then 1 else strategy.maxSurge
    let newReplicas := minInt (desiredReplicas - currentReplicas) maxSurgeReplicas
    [{ phase := .scalingUp, action := .start, replicaCount := newReplicas },
      { phase := .scalingUp, action := .wait, waitDuration := seconds 30 }]
  else []

def batchSize (currentReplicas minAvailable : Int64) (strategy : RolloutStrategy) : Int64 :=
  let maxUnavailable := if strategy.maxUnavailable = 0 then 1 else strategy.maxUnavailable
  let size := minInt maxUnavailable (currentReplicas - minAvailable)
  if size < 1 then 1 else size

def stopCounts (currentReplicas size : Int64) : List Int64 :=
  let batches := (currentReplicas + size - 1) / size
  (List.range batches.toInt.toNat).map fun i => minInt size (currentReplicas - Int64.ofNat i * size)

def batchPhases (pause stopCount : Int64) : List RolloutPhaseAction :=
  [{ phase := .updating, action := .stop, replicaCount := stopCount },
    { phase := .updating, action := .start, replicaCount := stopCount },
    { phase := .updating, action := .wait, waitDuration := pause }]

def updatePhases (currentReplicas minAvailable : Int64) (strategy : RolloutStrategy) : List RolloutPhaseAction :=
  if 0 < currentReplicas then
    (stopCounts currentReplicas (batchSize currentReplicas minAvailable strategy)).flatMap
      (batchPhases strategy.pauseDuration)
  else []

def scaleDownPhases (currentReplicas desiredReplicas : Int64) : List RolloutPhaseAction :=
  if desiredReplicas < currentReplicas then
    [{ phase := .scalingDown, action := .stop, replicaCount := currentReplicas - desiredReplicas }]
  else []

def planRollingUpdate (current desired : WorkloadSpec) (minAvailable : Int64) (strategy : RolloutStrategy) :
    RolloutPlan where
  strategy := "RollingUpdate"
  minAvailable := minAvailable
  maxSurge := strategy.maxSurge
  maxUnavailable := strategy.maxUnavailable
  pauseDuration := strategy.pauseDuration
  phases := scaleUpPhases current.replicas desired.replicas strategy ++
    (updatePhases current.replicas minAvailable strategy ++ scaleDownPhases current.replicas desired.replicas)

def planRecreate (current desired : WorkloadSpec) (minAvailable : Int64) (strategy : RolloutStrategy) :
    RolloutPlan where
  strategy := "Recreate"
  minAvailable := minAvailable
  pauseDuration := strategy.pauseDuration
  phases :=
    (if 0 < current.replicas then
      [{ phase := .scalingDown, action := .stop, replicaCount := current.replicas },
        { phase := .scalingDown, action := .wait, waitDuration := seconds 10 }]
    else []) ++
    [{ phase := .scalingUp, action := .start, replicaCount := desired.replicas },
      { phase := .scalingUp, action := .wait, waitDuration := seconds 30 }]

def planBlueGreen (current desired : WorkloadSpec) (minAvailable : Int64) (strategy : RolloutStrategy) :
    RolloutPlan where
  strategy := "BlueGreen"
  minAvailable := minAvailable
  pauseDuration := strategy.pauseDuration
  phases :=
    [{ phase := .scalingUp, action := .start, replicaCount := desired.replicas },
      { phase := .scalingUp, action := .wait, waitDuration := seconds 30 }] ++
    ((if 0 < strategy.pauseDuration then
      [{ phase := .paused, action := .wait, waitDuration := strategy.pauseDuration }]
    else []) ++
    (if 0 < current.replicas then
      [{ phase := .scalingDown, action := .stop, replicaCount := current.replicas }]
    else []))

def minAvailableOf (desired : WorkloadSpec) : Int64 :=
  let strategy := desired.rolloutStrategy
  let minAvailable :=
    if strategy.minAvailable = 0 then
      if 0 < strategy.maxUnavailable then desired.replicas - strategy.maxUnavailable
      else maxInt 1 (desired.replicas - 1)
    else strategy.minAvailable
  maxInt 0 (minInt minAvailable desired.replicas)

def planRollout (current desired : WorkloadSpec) : Except String RolloutPlan :=
  let strategy := desired.rolloutStrategy
  let minAvailable := minAvailableOf desired
  if strategy.strategy = "RollingUpdate" then .ok (planRollingUpdate current desired minAvailable strategy)
  else if strategy.strategy = "Recreate" then .ok (planRecreate current desired minAvailable strategy)
  else if strategy.strategy = "BlueGreen" then .ok (planBlueGreen current desired minAvailable strategy)
  else .error ("unsupported rollout strategy: " ++ strategy.strategy)

/-- Replicas of the old and of the new version; started replicas serve from the next wait on. -/
structure Fleet where
  (old ready starting : ℤ)
  deriving DecidableEq

namespace Fleet

def running (f : Fleet) : ℤ := f.old + f.ready

def step (f : Fleet) (p : RolloutPhaseAction) : Fleet :=
  let n := p.replicaCount.toInt
  match p.action with
  | .stop => { f with old := f.old - min f.old n, ready := f.ready - (n - min f.old n) }
  | .start => { f with starting := f.starting + n }
  | .wait => { f with ready := f.ready + f.starting, starting := 0 }

def initial (current : WorkloadSpec) : Fleet := ⟨current.replicas.toInt, 0, 0⟩

def Keeps (m : ℤ) (f : Fleet) (p : RolloutPhaseAction) : Prop := m ≤ (f.step p).running

def Covers (f : Fleet) (p : RolloutPhaseAction) : Prop := p.action = .stop → p.replicaCount.toInt ≤ f.running

instance (m : ℤ) (f : Fleet) (p : RolloutPhaseAction) : Decidable (Keeps m f p) :=
  inferInstanceAs (Decidable (_ ≤ _))

instance (f : Fleet) (p : RolloutPhaseAction) : Decidable (Covers f p) := inferInstanceAs (Decidable (_ → _))

end Fleet

lemma toInt_minInt {a b : Int64} : (minInt a b).toInt = min a.toInt b.toInt := by
  simp only [minInt, Int64.lt_iff_toInt_lt]
  split_ifs <;> omega

lemma toInt_maxInt {a b : Int64} : (maxInt a b).toInt = max a.toInt b.toInt := by
  simp only [maxInt, Int64.lt_iff_toInt_lt]
  split_ifs <;> omega

lemma toInt_batches {c b : Int64} : (c + b - 1).toInt = int64 (c.toInt + b.toInt - 1) := by
  rw [Int64.toInt_sub, Int64.toInt_add, Int.bmod_sub_bmod]
  rfl

lemma sum_batches {b c : ℤ} (hb : 0 ≤ b) (hc : 0 ≤ c) {n : ℕ} (hn : ((n : ℤ) - 1) * b ≤ c) :
    ((List.range n).map fun i : ℕ => min b (c - i * b)).sum = min (n * b) c := by
  induction n with
  | zero => simp [hc]
  | succ n ih =>
    rw [List.range_succ, List.map_append, List.sum_append, List.map_singleton, List.sum_singleton]
    push_cast at hn ⊢
    rw [add_sub_cancel_right] at hn
    rw [ih (by linarith), add_mul, one_mul]
    omega

variable {c b : Int64}

lemma toInt_batchCount (hc : 0 < c.toInt) (hb : 1 ≤ b.toInt) (hf : c.toInt + b.toInt - 1 < 2 ^ 63) :
    ((c + b - 1) / b).toInt = (c.toInt + b.toInt - 1) / b.toInt := by
  have hs : (c.toInt + b.toInt - 1) / b.toInt ≤ c.toInt + b.toInt - 1 := Int.ediv_le_self _ (by omega)
  have h0 : 0 ≤ (c.toInt + b.toInt - 1) / b.toInt := Int.ediv_nonneg (by omega) (by omega)
  rw [Int64.toInt_div, toInt_batches, int64_of_fits ⟨by omega, hf⟩, Int.tdiv_eq_ediv_of_nonneg (by omega)]
  exact int64_of_fits ⟨by omega, by omega⟩

lemma toInt_batch {n i : ℕ} (hb : 1 ≤ b.toInt) (hf : c.toInt + b.toInt - 1 < 2 ^ 63)
    (hs : (n : ℤ) ≤ c.toInt + b.toInt - 1) (hl : n * b.toInt ≤ c.toInt + b.toInt - 1) (hi : i < n) :
    (minInt b (c - Int64.ofNat i * b)).toInt = min b.toInt (c.toInt - i * b.toInt) ∧ i * b.toInt ≤ c.toInt := by
  have hm : ((i : ℤ) + 1) * b.toInt ≤ n * b.toInt := by
    apply mul_le_mul_of_nonneg_right _ (by omega)
    exact_mod_cast hi
  have hp : 0 ≤ (i : ℤ) * b.toInt := by positivity
  rw [add_mul, one_mul] at hm
  have hi' : (Int64.ofNat i).toInt = i := Int64.toInt_ofNat_of_lt (by omega)
  have hmul : (Int64.ofNat i * b).toInt = i * b.toInt := by
    rw [Int64.toInt_mul, hi']
    exact int64_of_fits ⟨by omega, by omega⟩
  rw [toInt_minInt, toInt_sub_of_fits, hmul]
  · exact ⟨rfl, by omega⟩
  · rw [hmul]
    exact ⟨by omega, by have := c.toInt_lt; omega⟩

lemma stopCounts_of_fits (hc : 0 < c.toInt) (hb : 1 ≤ b.toInt) (hf : c.toInt + b.toInt - 1 < 2 ^ 63) :
    ((stopCounts c b).map Int64.toInt).sum = c.toInt ∧ ∀ k ∈ stopCounts c b, 0 ≤ k.toInt ∧ k.toInt ≤ b.toInt := by
  have hl := Int.ediv_mul_le (c.toInt + b.toInt - 1) (show b.toInt ≠ 0 by omega)
  have hu := Int.lt_ediv_add_one_mul_self (c.toInt + b.toInt - 1) (show 0 < b.toInt by omega)
  have h0 : 0 ≤ (c.toInt + b.toInt - 1) / b.toInt := Int.ediv_nonneg (by omega) (by omega)
  have hs : (c.toInt + b.toInt - 1) / b.toInt ≤ c.toInt + b.toInt - 1 := Int.ediv_le_self _ (by omega)
  rw [add_mul, one_mul] at hu
  simp only [stopCounts, toInt_batchCount hc hb hf]
  obtain ⟨n, hn⟩ := Int.eq_ofNat_of_zero_le h0
  rw [hn] at hl hu hs ⊢
  constructor
  · rw [List.map_map]
    have he : (List.range (n : ℤ).toNat).map (Int64.toInt ∘ fun i => minInt b (c - Int64.ofNat i * b)) =
        (List.range n).map fun i : ℕ => min b.toInt (c.toInt - i * b.toInt) := by
      rw [Int.toNat_natCast]
      apply List.map_congr_left
      intro i hi
      exact (toInt_batch hb hf hs hl (List.mem_range.mp hi)).1
    rw [he, sum_batches (by omega) (by omega) (by rw [sub_mul]; omega)]
    omega
  · intro k h
    obtain ⟨i, hi, rfl⟩ := List.mem_map.mp h
    obtain ⟨he, hle⟩ := toInt_batch hb hf hs hl (i := i) (by simpa using hi)
    omega

lemma stopCounts_of_overflow (hb : 1 ≤ b.toInt) (hf : 2 ^ 63 ≤ c.toInt + b.toInt - 1) : stopCounts c b = [] := by
  have hc := c.toInt_lt
  have hb' := b.toInt_lt
  obtain ⟨a, ha⟩ : ∃ a, a = 2 ^ 64 - (c.toInt + b.toInt - 1) := ⟨_, rfl⟩
  have hw : int64 (c.toInt + b.toInt - 1) = -a := by
    have hs := Int.sub_bmod_right (c.toInt + b.toInt - 1) (2 ^ 64)
    rw [int64, ← hs, show c.toInt + b.toInt - 1 - ((2 ^ 64 : ℕ) : ℤ) = -a by omega]
    exact int64_of_fits ⟨by omega, by omega⟩
  have hq : ((c + b - 1) / b).toInt ≤ 0 := by
    have h0 : 0 ≤ a.tdiv b.toInt := Int.tdiv_nonneg (by omega) (by omega)
    have hs : a.tdiv b.toInt ≤ a := Int.tdiv_le_self _ (by omega)
    have hd : ((c + b - 1) / b).toInt = int64 (-a.tdiv b.toInt) := by
      rw [Int64.toInt_div, toInt_batches, hw, Int.neg_tdiv]
      rfl
    rw [hd, int64_of_fits ⟨by omega, by omega⟩]
    omega
  simp only [stopCounts, Int.toNat_of_nonpos hq, List.range_zero, List.map_nil]

lemma toInt_atLeastOne {x : Int64} : (if x < 1 then 1 else x).toInt = max 1 x.toInt := by
  have h1 : (1 : Int64).toInt = 1 := rfl
  simp only [Int64.lt_iff_toInt_lt, h1]
  split_ifs <;> omega

structure NonNegative (current desired : WorkloadSpec) : Prop where
  counted : 0 ≤ current.replicas.toInt
  wanted : 0 ≤ desired.replicas.toInt
  maxSurge : 0 ≤ desired.rolloutStrategy.maxSurge.toInt
  maxUnavailable : 0 ≤ desired.rolloutStrategy.maxUnavailable.toInt
  minAvailable : 0 ≤ desired.rolloutStrategy.minAvailable.toInt

def orOne (n : ℤ) : ℤ := if n = 0 then 1 else n

lemma toInt_orOne {n : Int64} : (if n = 0 then 1 else n : Int64).toInt = orOne n.toInt := by
  have h0 : (0 : Int64).toInt = 0 := rfl
  simp only [orOne, ← Int64.toInt_inj, h0]
  split_ifs <;> rfl

def declaredMin (desired : WorkloadSpec) : ℤ :=
  let strategy := desired.rolloutStrategy
  if strategy.minAvailable.toInt = 0 then
    if 0 < strategy.maxUnavailable.toInt then max 0 (desired.replicas.toInt - strategy.maxUnavailable.toInt)
    else min (max 1 (desired.replicas.toInt - 1)) desired.replicas.toInt
  else min strategy.minAvailable.toInt desired.replicas.toInt

lemma toInt_minAvailableOf {current desired : WorkloadSpec} (hv : NonNegative current desired) :
    (minAvailableOf desired).toInt = declaredMin desired := by
  obtain ⟨-, hd, -, hu, hm⟩ := hv
  have hl := desired.replicas.toInt_lt
  have hlu := desired.rolloutStrategy.maxUnavailable.toInt_lt
  have h0 : (0 : Int64).toInt = 0 := rfl
  have h1 : (1 : Int64).toInt = 1 := rfl
  have hs : ∀ n : Int64, 0 ≤ n.toInt → (desired.replicas - n).toInt = desired.replicas.toInt - n.toInt := by
    intro n hn
    have := n.toInt_lt
    exact toInt_sub_of_fits ⟨by omega, by omega⟩
  simp only [minAvailableOf, declaredMin, toInt_maxInt, toInt_minInt, ← Int64.toInt_inj, Int64.lt_iff_toInt_lt, h0]
  split_ifs
  · rw [hs _ hu]
    omega
  · rw [toInt_maxInt, hs 1 (by decide), h1]
    omega
  · omega

lemma toInt_batchSize {c m : Int64} {s : RolloutStrategy} (hc : 0 ≤ c.toInt) (hm : 0 ≤ m.toInt) :
    (batchSize c m s).toInt = max 1 (min (orOne s.maxUnavailable.toInt) (c.toInt - m.toInt)) := by
  have hl := c.toInt_lt
  have hm' := m.toInt_lt
  have hs : (c - m).toInt = c.toInt - m.toInt := toInt_sub_of_fits ⟨by omega, by omega⟩
  rw [batchSize, toInt_atLeastOne, toInt_minInt, toInt_orOne, hs]

namespace Fleet

variable {f : Fleet} (pa k : Int64) (ks : List Int64)

lemma run_batch (hs : f.starting = 0) (hk : k.toInt ≤ f.old) :
    run step f (batchPhases pa k) = ⟨f.old - k.toInt, f.ready + k.toInt, 0⟩ := by
  have hm : min f.old k.toInt = k.toInt := min_eq_right hk
  simp only [batchPhases, run, List.foldl_cons, List.foldl_nil, step, hm, hs]
  simp

lemma sum_nonneg {ks : List Int64} (h : ∀ k ∈ ks, 0 ≤ k.toInt) : 0 ≤ (ks.map Int64.toInt).sum :=
  List.sum_nonneg (List.forall_mem_map.mpr h)

lemma run_batches (hs : f.starting = 0) (h0 : ∀ k ∈ ks, 0 ≤ k.toInt) (hk : (ks.map Int64.toInt).sum ≤ f.old) :
    run step f (ks.flatMap (batchPhases pa)) =
      ⟨f.old - (ks.map Int64.toInt).sum, f.ready + (ks.map Int64.toInt).sum, 0⟩ := by
  induction ks generalizing f with
  | nil =>
    obtain ⟨o, r, t⟩ := f
    simp only at hs
    simp [run, hs]
  | cons k ks ih =>
    obtain ⟨hk0, h0⟩ := List.forall_mem_cons.mp h0
    have hn := sum_nonneg h0
    rw [List.map_cons, List.sum_cons] at hk ⊢
    rw [List.flatMap_cons, run_append, run_batch pa k hs (by omega), ih rfl h0 (by simp only; omega)]
    simp only [mk.injEq, and_true]
    omega

lemma keeps_batch {m : ℤ} (hs : f.starting = 0) (hk : 0 ≤ k.toInt) :
    Admissible step (Keeps m) f (batchPhases pa k) ↔ m + k.toInt ≤ f.running := by
  simp only [batchPhases, Admissible, Keeps, step, running, hs, and_true]
  omega

lemma keeps_batches {m : ℤ} (hs : f.starting = 0) (h0 : ∀ k ∈ ks, 0 ≤ k.toInt) (hk : (ks.map Int64.toInt).sum ≤ f.old) :
    Admissible step (Keeps m) f (ks.flatMap (batchPhases pa)) ↔ ∀ k ∈ ks, m + k.toInt ≤ f.running := by
  induction ks generalizing f with
  | nil => simp [Admissible]
  | cons k ks ih =>
    obtain ⟨hk0, h0⟩ := List.forall_mem_cons.mp h0
    have hn := sum_nonneg h0
    rw [List.map_cons, List.sum_cons] at hk
    rw [List.flatMap_cons, admissible_append, run_batch pa k hs (by omega), keeps_batch pa k hs hk0,
      ih rfl h0 (by simp only; omega), List.forall_mem_cons]
    simp only [running, sub_add_add_cancel]

lemma covers_of_keeps {ps : List RolloutPhaseAction} (h : Admissible step (Keeps 0) f ps) :
    Admissible step Covers f ps := by
  induction ps generalizing f with
  | nil => trivial
  | cons p ps ih =>
    refine ⟨fun hs => ?_, ih h.2⟩
    have hk := h.1
    simp only [Keeps, step, hs, running] at hk
    simp only [running]
    omega

end Fleet

section RollingUpdate

variable {current desired : WorkloadSpec}

def surge (current desired : WorkloadSpec) : ℤ :=
  max 0 (min (desired.replicas.toInt - current.replicas.toInt) (orOne desired.rolloutStrategy.maxSurge.toInt))

lemma one_le_orOne {n : ℤ} (h : 0 ≤ n) : 1 ≤ orOne n := by
  rw [orOne]
  split_ifs <;> omega

lemma surge_of_le (h : desired.replicas.toInt ≤ current.replicas.toInt) : surge current desired = 0 := by
  rw [surge]
  omega

lemma one_le_surge (hv : NonNegative current desired) (h : current.replicas.toInt < desired.replicas.toInt) :
    1 ≤ surge current desired := by
  have ho := one_le_orOne hv.maxSurge
  rw [surge]
  omega

lemma toInt_newReplicas (hv : NonNegative current desired) (h : current.replicas.toInt < desired.replicas.toInt) :
    (minInt (desired.replicas - current.replicas)
      (if desired.rolloutStrategy.maxSurge = 0 then 1 else desired.rolloutStrategy.maxSurge)).toInt =
      surge current desired := by
  have hl := desired.replicas.toInt_lt
  have hc := hv.counted
  have ho := one_le_orOne hv.maxSurge
  rw [toInt_minInt, toInt_orOne, toInt_sub_of_fits ⟨by omega, by omega⟩, surge]
  omega

lemma scaleUp (hv : NonNegative current desired) {m : ℤ} (hm : m ≤ current.replicas.toInt) :
    let phases := scaleUpPhases current.replicas desired.replicas desired.rolloutStrategy
    run Fleet.step (.initial current) phases = ⟨current.replicas.toInt, surge current desired, 0⟩ ∧
      Admissible Fleet.step (Fleet.Keeps m) (.initial current) phases ∧
      Admissible Fleet.step Fleet.Covers (.initial current) phases := by
  intro phases
  by_cases h : current.replicas.toInt < desired.replicas.toInt
  · have hp : phases = _ := if_pos (Int64.lt_iff_toInt_lt.mpr h)
    have hn := one_le_surge hv h
    rw [hp]
    simp only [run, List.foldl_cons, List.foldl_nil, Admissible, Fleet.Keeps, Fleet.Covers, Fleet.step,
      Fleet.initial, Fleet.running, toInt_newReplicas hv h, and_true]
    refine ⟨by simp, by omega, by simp⟩
  · have hp : phases = [] := if_neg (fun hh => h (Int64.lt_iff_toInt_lt.mp hh))
    rw [hp, surge_of_le (by omega)]
    exact ⟨rfl, trivial, trivial⟩

def BatchOverflow (current desired : WorkloadSpec) : Prop :=
  2 ^ 63 ≤ current.replicas.toInt + min (orOne desired.rolloutStrategy.maxUnavailable.toInt)
    (current.replicas.toInt - declaredMin desired) - 1

lemma declaredMin_nonneg (hv : NonNegative current desired) : 0 ≤ declaredMin desired := by
  obtain ⟨-, hd, -, hu, hm⟩ := hv
  rw [declaredMin]
  split_ifs <;> omega

lemma declaredMin_le (hv : NonNegative current desired) : declaredMin desired ≤ desired.replicas.toInt := by
  obtain ⟨-, hd, -, hu, hm⟩ := hv
  rw [declaredMin]
  split_ifs <;> omega

def batchOf (current desired : WorkloadSpec) : Int64 :=
  batchSize current.replicas (minAvailableOf desired) desired.rolloutStrategy

section

variable (hv : NonNegative current desired)

include hv

lemma toInt_batchOf : (batchOf current desired).toInt =
      max 1 (min (orOne desired.rolloutStrategy.maxUnavailable.toInt)
        (current.replicas.toInt - declaredMin desired)) := by
  have hm := toInt_minAvailableOf hv
  rw [batchOf, toInt_batchSize hv.counted (by rw [hm]; exact declaredMin_nonneg hv), hm]

lemma updatePhases_eq_nil (h : current.replicas.toInt = 0 ∨ BatchOverflow current desired) :
    updatePhases current.replicas (minAvailableOf desired) desired.rolloutStrategy = [] := by
  rw [updatePhases]
  split_ifs with hp
  · have hb := toInt_batchOf hv
    have hp : 0 < current.replicas.toInt := Int64.lt_iff_toInt_lt.mp hp
    have ho := h.resolve_left (by omega)
    simp only [BatchOverflow] at ho
    rw [stopCounts_of_overflow]
    · rfl
    · change 1 ≤ (batchOf current desired).toInt
      omega
    · change _ ≤ _ + (batchOf current desired).toInt - 1
      omega
  · rfl

lemma updatePhases_of_fits (hc : 0 < current.replicas.toInt) (ho : ¬BatchOverflow current desired) :
    ∃ ks : List Int64, updatePhases current.replicas (minAvailableOf desired) desired.rolloutStrategy =
        ks.flatMap (batchPhases desired.rolloutStrategy.pauseDuration) ∧
      (ks.map Int64.toInt).sum = current.replicas.toInt ∧
      ∀ k ∈ ks, 0 ≤ k.toInt ∧ k.toInt ≤ (batchOf current desired).toInt := by
  have hb := toInt_batchOf hv
  have hl := current.replicas.toInt_lt
  simp only [BatchOverflow] at ho
  have hpos : 0 < current.replicas := Int64.lt_iff_toInt_lt.mpr (by simpa using hc)
  refine ⟨stopCounts current.replicas (batchOf current desired), if_pos hpos, ?_⟩
  exact stopCounts_of_fits hc (by omega) (by omega)

lemma run_update (ho : ¬BatchOverflow current desired) :
    run Fleet.step ⟨current.replicas.toInt, surge current desired, 0⟩
      (updatePhases current.replicas (minAvailableOf desired) desired.rolloutStrategy) =
      ⟨0, surge current desired + current.replicas.toInt, 0⟩ := by
  have hc := hv.counted
  rcases hc.eq_or_lt with h0 | hc
  · rw [updatePhases_eq_nil hv (.inl h0.symm), ← h0, add_zero]
    rfl
  · obtain ⟨ks, he, hs, hk⟩ := updatePhases_of_fits hv hc ho
    rw [he, Fleet.run_batches _ ks rfl (fun k h => (hk k h).1) hs.le, hs, sub_self]

lemma covers_update : Admissible Fleet.step Fleet.Covers ⟨current.replicas.toInt, surge current desired, 0⟩
      (updatePhases current.replicas (minAvailableOf desired) desired.rolloutStrategy) := by
  by_cases h : current.replicas.toInt = 0 ∨ BatchOverflow current desired
  · rw [updatePhases_eq_nil hv h]
    trivial
  · push Not at h
    have hc := hv.counted
    obtain ⟨ks, he, hsum, hk⟩ := updatePhases_of_fits hv (by omega) h.2
    have hs : 0 ≤ surge current desired := le_max_left _ _
    rw [he]
    apply Fleet.covers_of_keeps
    rw [Fleet.keeps_batches _ ks rfl (fun k h => (hk k h).1) hsum.le]
    intro k hm
    have hl := List.single_le_sum (List.forall_mem_map.mpr fun k h => (hk k h).1) _ (List.mem_map_of_mem hm)
    simp only [Fleet.running]
    omega

lemma keeps_update : Admissible Fleet.step (Fleet.Keeps (min (declaredMin desired) current.replicas.toInt))
      ⟨current.replicas.toInt, surge current desired, 0⟩
      (updatePhases current.replicas (minAvailableOf desired) desired.rolloutStrategy) ↔
      ¬(current.replicas.toInt = desired.replicas.toInt ∧ 0 < desired.replicas.toInt ∧
        declaredMin desired = desired.replicas.toInt) := by
  have hc := hv.counted
  have hb := toInt_batchOf hv
  have hd := declaredMin_le hv
  have hl := current.replicas.toInt_lt
  by_cases h : current.replicas.toInt = 0 ∨ BatchOverflow current desired
  · rw [updatePhases_eq_nil hv h]
    simp only [BatchOverflow] at h
    refine iff_of_true trivial ?_
    omega
  · push Not at h
    obtain ⟨ks, he, hsum, hk⟩ := updatePhases_of_fits hv (by omega) h.2
    rw [he, Fleet.keeps_batches _ ks rfl (fun k h => (hk k h).1) hsum.le]
    simp only [Fleet.running]
    constructor
    · rintro hks ⟨hcd, hpos, hm⟩
      rw [surge_of_le (by omega)] at hks
      have hz : (ks.map Int64.toInt).sum = 0 := by
        apply List.sum_eq_zero
        rw [List.forall_mem_map]
        intro k hmem
        have := hks k hmem
        have := (hk k hmem).1
        omega
      omega
    · intro hn k hmem
      have := (hk k hmem).2
      have hs : 0 ≤ surge current desired := le_max_left _ _
      by_cases hcd : current.replicas.toInt < desired.replicas.toInt
      · have := one_le_surge hv hcd
        omega
      · omega

lemma running_update : (run Fleet.step ⟨current.replicas.toInt, surge current desired, 0⟩
      (updatePhases current.replicas (minAvailableOf desired) desired.rolloutStrategy)).running =
      surge current desired + current.replicas.toInt := by
  by_cases ho : BatchOverflow current desired
  · rw [updatePhases_eq_nil hv (.inr ho)]
    exact add_comm _ _
  · rw [run_update hv ho, Fleet.running, zero_add]

end

lemma scaleDownPhases_of_le (h : current.replicas.toInt ≤ desired.replicas.toInt) :
    scaleDownPhases current.replicas desired.replicas = [] :=
  if_neg (by rw [Int64.lt_iff_toInt_lt]; omega)

lemma scaleDownPhases_of_lt (hv : NonNegative current desired) (h : desired.replicas.toInt < current.replicas.toInt) :
    ∃ n : Int64, n.toInt = current.replicas.toInt - desired.replicas.toInt ∧
      scaleDownPhases current.replicas desired.replicas =
        [{ phase := .scalingDown, action := .stop, replicaCount := n }] := by
  have hd := hv.wanted
  have hl := current.replicas.toInt_lt
  exact ⟨_, toInt_sub_of_fits ⟨by omega, by omega⟩, if_pos (Int64.lt_iff_toInt_lt.mpr h)⟩

lemma keeps_scaleDown (hv : NonNegative current desired) {f : Fleet} {m : ℤ} (hm : m ≤ desired.replicas.toInt)
    (hf : f.running = surge current desired + current.replicas.toInt) :
    Admissible Fleet.step (Fleet.Keeps m) f (scaleDownPhases current.replicas desired.replicas) := by
  rcases le_or_gt current.replicas.toInt desired.replicas.toInt with h | h
  · rw [scaleDownPhases_of_le h]
    trivial
  · obtain ⟨n, hn, he⟩ := scaleDownPhases_of_lt hv h
    rw [surge_of_le h.le, Fleet.running] at hf
    simp only [he, Admissible, Fleet.Keeps, Fleet.step, Fleet.running, and_true]
    omega

lemma run_scaleDown (hv : NonNegative current desired) {f : Fleet} (ho : 0 ≤ f.old) :
    run Fleet.step f (scaleDownPhases current.replicas desired.replicas) =
      let excess := max 0 (current.replicas.toInt - desired.replicas.toInt)
      ⟨f.old - min f.old excess, f.ready - (excess - min f.old excess), f.starting⟩ := by
  rcases le_or_gt current.replicas.toInt desired.replicas.toInt with h | h
  · rw [scaleDownPhases_of_le h, max_eq_left (by omega)]
    simp only [min_eq_right ho, sub_zero]
    rfl
  · obtain ⟨n, hn, he⟩ := scaleDownPhases_of_lt hv h
    rw [he, max_eq_right (by omega), ← hn]
    rfl

def RolloutPlan.KeepsAvailable (plan : RolloutPlan) (current : WorkloadSpec) (m : ℤ) : Prop :=
  Admissible Fleet.step (Fleet.Keeps m) (.initial current) plan.phases

def RolloutPlan.Completes (plan : RolloutPlan) (current desired : WorkloadSpec) : Prop :=
  Admissible Fleet.step Fleet.Covers (.initial current) plan.phases ∧
    run Fleet.step (.initial current) plan.phases = ⟨0, desired.replicas.toInt, 0⟩

lemma declaredMin_eq_desired_iff (hv : NonNegative current desired) (h : 0 < desired.replicas.toInt) :
    declaredMin desired = desired.replicas.toInt ↔ desired.replicas ≤ desired.rolloutStrategy.minAvailable ∨
        desired.rolloutStrategy.minAvailable = 0 ∧ desired.rolloutStrategy.maxUnavailable = 0 ∧ desired.replicas = 1 := by
  obtain ⟨-, hd, -, hu, hm⟩ := hv
  have h0 : (0 : Int64).toInt = 0 := rfl
  have h1 : (1 : Int64).toInt = 1 := rfl
  simp only [declaredMin, ← Int64.toInt_inj, Int64.le_iff_toInt_le, h0, h1]
  split_ifs <;> omega

theorem rollingUpdate_keeps_minAvailable_iff (hv : NonNegative current desired)
    (hs : desired.rolloutStrategy.strategy = "RollingUpdate") {plan : RolloutPlan}
    (hp : planRollout current desired = .ok plan) :
    plan.KeepsAvailable current (min plan.minAvailable.toInt current.replicas.toInt) ↔
      ¬(current.replicas = desired.replicas ∧ 0 < desired.replicas ∧
        (desired.replicas ≤ desired.rolloutStrategy.minAvailable ∨
          desired.rolloutStrategy.minAvailable = 0 ∧ desired.rolloutStrategy.maxUnavailable = 0 ∧
            desired.replicas = 1)) := by
  rw [planRollout, if_pos hs] at hp
  obtain rfl := Except.ok.inj hp
  obtain ⟨hr, hup, -⟩ := scaleUp hv (min_le_right (declaredMin desired) current.replicas.toInt)
  have hdown := keeps_scaleDown hv ((min_le_left _ current.replicas.toInt).trans (declaredMin_le hv)) (running_update hv)
  have hpos : 0 < desired.replicas ↔ 0 < desired.replicas.toInt := Int64.lt_iff_toInt_lt
  simp only [RolloutPlan.KeepsAvailable, planRollingUpdate, toInt_minAvailableOf hv]
  rw [admissible_append, hr, admissible_append, keeps_update hv, Int64.toInt_inj, hpos]
  refine ⟨fun h hn => h.2.1 ⟨hn.1, hn.2.1, (declaredMin_eq_desired_iff hv hn.2.1).mpr hn.2.2⟩, fun h => ⟨hup, ?_, hdown⟩⟩
  exact fun hn => h ⟨hn.1, hn.2.1, (declaredMin_eq_desired_iff hv hn.2.1).mp hn.2.2⟩

def replicaSpec (n : Int64) (strategy : RolloutStrategy) : WorkloadSpec :=
  { id := "w", name := "web", replicas := n, requests := ⟨100, 1000, 1000, 0, 0⟩, rolloutStrategy := strategy }

theorem rollingUpdate_keeps_three_of_five :
    ∃ plan, planRollout (replicaSpec 5 {}) (replicaSpec 5 ⟨"RollingUpdate", 1, 3, 3, 0⟩) = .ok plan ∧
      plan.minAvailable = 3 ∧ plan.KeepsAvailable (replicaSpec 5 {}) 3 := by
  have hv : NonNegative (replicaSpec 5 {}) (replicaSpec 5 ⟨"RollingUpdate", 1, 3, 3, 0⟩) := by constructor <;> decide
  refine ⟨_, rfl, rfl, ?_⟩
  exact (rollingUpdate_keeps_minAvailable_iff hv rfl rfl).mpr (by decide)

theorem rollingUpdate_drops_below_minAvailable :
    ∃ plan, planRollout (replicaSpec 3 {}) (replicaSpec 3 ⟨"RollingUpdate", 1, 2, 3, 0⟩) = .ok plan ∧
      plan.minAvailable = 3 ∧ plan.phases.length = 9 ∧
      (run Fleet.step (.initial (replicaSpec 3 {})) (plan.phases.take 1)).running = 2 ∧
      ¬plan.KeepsAvailable (replicaSpec 3 {}) (min plan.minAvailable.toInt 3) :=
  ⟨_, rfl, rfl, by decide, by decide, by unfold RolloutPlan.KeepsAvailable; decide⟩

lemma rollingUpdate_completes_iff (hv : NonNegative current desired) :
    (planRollingUpdate current desired (minAvailableOf desired) desired.rolloutStrategy).Completes current desired ↔
      desired.replicas.toInt - current.replicas.toInt ≤ orOne desired.rolloutStrategy.maxSurge.toInt ∧
        (desired.replicas.toInt = 0 ∨ ¬BatchOverflow current desired) := by
  obtain ⟨hr, -, hu⟩ := scaleUp hv le_rfl
  have hdown := Fleet.covers_of_keeps (keeps_scaleDown hv hv.wanted (running_update hv))
  have hc := hv.counted
  have hd := hv.wanted
  have hone := one_le_orOne hv.maxSurge
  simp only [RolloutPlan.Completes, planRollingUpdate]
  rw [admissible_append, hr, admissible_append, run_append, hr, run_append,
    and_iff_right ⟨hu, covers_update hv, hdown⟩]
  by_cases ho : BatchOverflow current desired
  · have hpos : 0 < current.replicas.toInt := by
      have := declaredMin_nonneg hv
      simp only [BatchOverflow] at ho
      omega
    rw [updatePhases_eq_nil hv (.inr ho), run_scaleDown hv (by exact hc)]
    simp only [run, List.foldl_nil, Fleet.mk.injEq, ho, not_true_eq_false, or_false, and_true, surge]
    omega
  · rw [run_update hv ho, run_scaleDown hv le_rfl]
    simp only [Fleet.mk.injEq, ho, not_false_eq_true, or_true, and_true, surge]
    omega

lemma recreate_completes (hv : NonNegative current desired) {m : Int64} :
    (planRecreate current desired m desired.rolloutStrategy).Completes current desired := by
  have hc := hv.counted
  have h0 : (0 : Int64).toInt = 0 := rfl
  simp only [RolloutPlan.Completes, planRecreate, Int64.lt_iff_toInt_lt, h0]
  split_ifs with h
  · simp [Admissible, Fleet.Covers, Fleet.step, Fleet.initial, Fleet.running, run]
  · simp [Admissible, Fleet.Covers, Fleet.step, Fleet.initial, Fleet.running, run]
    omega

lemma blueGreen_completes (hv : NonNegative current desired) {m : Int64} :
    (planBlueGreen current desired m desired.rolloutStrategy).Completes current desired := by
  have hc := hv.counted
  have hd := hv.wanted
  have h0 : (0 : Int64).toInt = 0 := rfl
  simp only [RolloutPlan.Completes, planBlueGreen, Int64.lt_iff_toInt_lt, h0]
  split_ifs with h h'
  all_goals simp [Admissible, Fleet.Covers, Fleet.step, Fleet.initial, Fleet.running, run]
  all_goals omega

theorem rollout_completes_iff (hv : NonNegative current desired) {plan : RolloutPlan}
    (hp : planRollout current desired = .ok plan) : plan.Completes current desired ↔
      (desired.rolloutStrategy.strategy = "RollingUpdate" →
        desired.replicas.toInt - current.replicas.toInt ≤ orOne desired.rolloutStrategy.maxSurge.toInt ∧
          (desired.replicas.toInt = 0 ∨ ¬BatchOverflow current desired)) := by
  simp only [planRollout] at hp
  split_ifs at hp with hr hc hb
  · obtain rfl := Except.ok.inj hp
    rw [rollingUpdate_completes_iff hv, forall_prop_of_true hr]
  · obtain rfl := Except.ok.inj hp
    exact iff_of_true (recreate_completes hv) (fun h => absurd h hr)
  · obtain rfl := Except.ok.inj hp
    exact iff_of_true (blueGreen_completes hv) (fun h => absurd h hr)

theorem rollout_completes_three_to_two :
    ∃ plan, planRollout (replicaSpec 3 {}) (replicaSpec 2 ⟨"RollingUpdate", 0, 0, 1, 0⟩) = .ok plan ∧
      plan.Completes (replicaSpec 3 {}) (replicaSpec 2 ⟨"RollingUpdate", 0, 0, 1, 0⟩) := by
  have hv : NonNegative (replicaSpec 3 {}) (replicaSpec 2 ⟨"RollingUpdate", 0, 0, 1, 0⟩) := by constructor <;> decide
  refine ⟨_, rfl, (rollout_completes_iff hv rfl).mpr fun _ => ⟨by decide, .inr ?_⟩⟩
  unfold BatchOverflow
  decide

theorem rollingUpdate_ends_short_of_desired :
    ∃ plan, planRollout (replicaSpec 1 {}) (replicaSpec 5 ⟨"RollingUpdate", 1, 1, 1, 0⟩) = .ok plan ∧
      run Fleet.step (.initial (replicaSpec 1 {})) plan.phases = ⟨0, 2, 0⟩ ∧
      ¬plan.Completes (replicaSpec 1 {}) (replicaSpec 5 ⟨"RollingUpdate", 1, 1, 1, 0⟩) :=
  ⟨_, rfl, by decide, by unfold RolloutPlan.Completes; decide⟩

end RollingUpdate

end Cloudless.Scheduler
