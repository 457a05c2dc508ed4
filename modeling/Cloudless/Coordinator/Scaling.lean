import Cloudless.Coordinator.Handlers

namespace Cloudless.Coordination

def ReplicaState.Dead (replica : ReplicaState) : Prop := replica.status = .failed ∨ replica.status = .stopped

instance (replica : ReplicaState) : Decidable replica.Dead := inferInstanceAs (Decidable (_ ∨ _))

/-- A running replica is stopped only if no failed or stopped one is kept. -/
def PrefersDead (stopped kept : List ReplicaState) : Prop :=
  (∃ replica ∈ stopped, replica.isRunning = true) → ∀ replica ∈ kept, ¬replica.Dead

lemma take_not_iff {p : ReplicaState → Bool} {L : List ReplicaState} {k : ℕ} :
    (∀ replica ∈ L.take k, p replica = false) ↔ min k L.length ≤ (L.takeWhile (!p ·)).length := by
  induction L generalizing k with
  | nil => simp
  | cons replica L ih =>
    cases k with
    | zero => simp
    | succ k =>
      rw [List.take_succ_cons, List.forall_mem_cons, ih, List.takeWhile_cons]
      cases hp : p replica <;> simp

lemma drop_not_iff {p : ReplicaState → Bool} {L : List ReplicaState} {k : ℕ} :
    (∀ replica ∈ L.drop k, p replica = false) ↔ (L.reverse.dropWhile (!p ·)).length ≤ k := by
  have hl := congrArg List.length (L.reverse.takeWhile_append_dropWhile (p := (!p ·)))
  have ht := take_not_iff (p := p) (L := L.reverse) (k := L.length - k)
  simp only [List.take_reverse, List.mem_reverse, List.length_reverse, List.length_append] at hl ht
  rcases le_total k L.length with hk | hk
  · rw [Nat.sub_sub_self hk] at ht
    rw [ht]
    omega
  · rw [List.drop_of_length_le hk]
    simp only [List.not_mem_nil, false_imp_iff, implies_true, true_iff]
    omega

/-- At most as many are stopped as come before a running replica, or so many that they reach every dead one. -/
lemma prefersDead_iff {L unreachable : List ReplicaState} {k : ℕ} : PrefersDead (L.take k) (L.drop k ++ unreachable) ↔
    min k L.length ≤ (L.takeWhile (!·.isRunning)).length ∨
      (L.reverse.dropWhile (!decide ·.Dead)).length ≤ k ∧ ∀ replica ∈ unreachable, ¬replica.Dead := by
  rw [← take_not_iff, ← drop_not_iff, PrefersDead, imp_iff_not_or, List.forall_mem_append]
  simp

namespace Coordinator

variable (c : Coordinator)

def reachable (state : WorkloadState) : List ReplicaState :=
  state.replicas.reverse.filter fun replica => (c.membership.nodes.lookup replica.nodeID).isSome

def stopped (state : WorkloadState) (n : Int32) : List ReplicaState :=
  (c.reachable state).take (state.currentReplicas - n).toInt.toNat

def kept (state : WorkloadState) (n : Int32) : List ReplicaState :=
  (c.reachable state).drop (state.currentReplicas - n).toInt.toNat ++
    state.replicas.reverse.filter fun replica => !(c.membership.nodes.lookup replica.nodeID).isSome

variable {c} {env : Env} {id : String} {state : WorkloadState} {n : Int32}

lemma toInt_excess (h0 : 0 ≤ n) (hn : n < state.currentReplicas) : 0 ≤ n.toInt ∧
    n.toInt < state.currentReplicas.toInt ∧
    (state.currentReplicas - n).toInt = state.currentReplicas.toInt - n.toInt := by
  have h0' : 0 ≤ n.toInt := Int32.le_iff_toInt_le.mp h0
  have hn' := Int32.lt_iff_toInt_lt.mp hn
  have hlt := state.currentReplicas.toInt_lt
  refine ⟨h0', hn', ?_⟩
  rw [Int32.toInt_sub, Int.bmod_eq_of_le] <;> omega

lemma stopped_append_kept_perm : (c.stopped state n ++ c.kept state n).Perm state.replicas := by
  rw [stopped, kept, ← List.append_assoc, List.take_append_drop, reachable]
  exact (List.filter_append_perm _ _).trans state.replicas.reverse_perm

lemma scaleWorkload_stops (hf : c.found env id = some state) (hs : env.save 0 = .ok) (hn : n < state.currentReplicas) :
    c.Queues ((c.stopped state n).map (stopOf id)) (c.scaleWorkload env id n).1 := by
  have hup : ¬state.currentReplicas < n := by
    rw [Int32.lt_iff_toInt_lt] at hn ⊢
    omega
  cases c.scaleWorkload_scales env id n with
  | refused hu => cases hf.symm.trans hu
  | unsaved _ he => exact absurd hs he
  | unscheduled hf' _ h =>
    cases hf.symm.trans hf'
    exact absurd h hup
  | rescaled hf' _ hq =>
    cases hf.symm.trans hf'
    rw [scaleQueue, if_neg (show ¬(state.scaled n).currentReplicas < (state.scaled n).desiredReplicas from hup),
      if_pos (show (state.scaled n).desiredReplicas < (state.scaled n).currentReplicas from hn)] at hq
    rw [← found_id hf] at hq ⊢
    exact hq

theorem scale_down_prefers_dead_iff (hf : c.found env id = some state) (hs : env.save 0 = .ok)
    (hc : state.currentReplicas.toInt = state.replicas.length) (h0 : 0 ≤ n) (hn : n < state.currentReplicas) :
    c.Queues ((c.stopped state n).map (stopOf id)) (c.scaleWorkload env id n).1 ∧
    (c.stopped state n ++ c.kept state n).Perm state.replicas ∧
    ((∀ replica ∈ state.replicas, c.Enrolled replica.nodeID) →
      ((c.stopped state n).length : ℤ) = state.currentReplicas.toInt - n.toInt) ∧
    (PrefersDead (c.stopped state n) (c.kept state n) ↔
      min (state.currentReplicas.toInt - n.toInt) (c.reachable state).length ≤
        ((c.reachable state).takeWhile (!·.isRunning)).length ∨
      ((c.reachable state).reverse.dropWhile (!decide ·.Dead)).length ≤ state.currentReplicas.toInt - n.toInt ∧
        ∀ replica ∈ state.replicas, replica.Dead → c.Enrolled replica.nodeID) := by
  obtain ⟨h0, hlt, hk⟩ := toInt_excess h0 hn
  refine ⟨scaleWorkload_stops hf hs hn, stopped_append_kept_perm, fun he => ?_, ?_⟩
  · have hl : (c.reachable state).length = state.replicas.length := by
      rw [reachable, List.filter_eq_self.mpr, List.length_reverse]
      exact fun replica hm => he replica (List.mem_reverse.mp hm)
    rw [stopped, List.length_take, hl]
    omega
  · have hu : (∀ replica ∈ state.replicas.reverse.filter fun replica => !(c.membership.nodes.lookup replica.nodeID).isSome,
        ¬replica.Dead) ↔ ∀ replica ∈ state.replicas, replica.Dead → c.Enrolled replica.nodeID := by
      simp only [List.mem_filter, List.mem_reverse, Enrolled]
      grind
    obtain ⟨k, hk'⟩ : ∃ k : ℕ, state.currentReplicas.toInt - n.toInt = k :=
      Int.eq_ofNat_of_zero_le (by omega)
    rw [stopped, kept, prefersDead_iff, hu, hk, hk', Int.toNat_natCast]
    norm_cast

end Coordinator

section Sample

def deadReplica : ReplicaState := { webReplica with id := "r0", fragmentID := "f0", status := .failed }

def scalable (replicas : List ReplicaState) : WorkloadState :=
  { webState with replicas := replicas, desiredReplicas := 2, currentReplicas := 2 }

def scalableCoordinator (replicas : List ReplicaState) : Coordinator :=
  { emptyCoordinator with states := (newWorkloadStateManager.saveWorkload 0 .ok (scalable replicas)).1 }

theorem scale_down_prefers_dead_iff_last :
    PrefersDead ((scalableCoordinator [webReplica, deadReplica]).stopped (scalable [webReplica, deadReplica]) 1)
      ((scalableCoordinator [webReplica, deadReplica]).kept (scalable [webReplica, deadReplica]) 1) :=
  (@Coordinator.scale_down_prefers_dead_iff (scalableCoordinator [webReplica, deadReplica]) prodEnv "w"
    (scalable [webReplica, deadReplica]) 1 rfl rfl rfl (by decide) (by decide)).2.2.2.mpr (.inl (by decide +kernel))

theorem scale_down_stops_running :
    (scalableCoordinator [deadReplica, webReplica]).found prodEnv "w" = some (scalable [deadReplica, webReplica]) ∧
    ((scalableCoordinator [deadReplica, webReplica]).scaleWorkload prodEnv "w" 1).1.membership.pendingAssignments.lookup
      "n1" = some [(stopOf "w" webReplica).2] ∧
    ¬PrefersDead ((scalableCoordinator [deadReplica, webReplica]).stopped (scalable [deadReplica, webReplica]) 1)
      ((scalableCoordinator [deadReplica, webReplica]).kept (scalable [deadReplica, webReplica]) 1) := by
  refine ⟨rfl, by decide +kernel, ?_⟩
  intro h
  exact h ⟨webReplica, by decide +kernel, rfl⟩ deadReplica (by decide +kernel) (.inl rfl)

end Sample

end Cloudless.Coordination
