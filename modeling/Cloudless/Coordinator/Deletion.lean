import Cloudless.Coordinator.Handlers

/-! What becomes of a workload after its deletion, along any run of calls, reconcile cycles and heartbeats. -/

namespace Cloudless.Coordination

open Foundations FiniteMaps GoStd MapLoops Runs
open Cloudless.Membership (Manager)

def WorkloadAssignment.Employs (w : String) (a : WorkloadAssignment) : Prop :=
  a.workload.id = w ∧ (a.action = "run" ∨ a.action = "update")

namespace Coordinator

def Listed (w : String) (c : Coordinator) : Prop :=
  ∃ order ns labels, ∃ state ∈ c.states.listWorkloads order ns labels, state.id = w

def Employs (w : String) (c c' : Coordinator) : Prop :=
  NewlyWaits (WorkloadAssignment.Employs w) c.membership c'.membership

def Recreates (w : String) (c : Coordinator) : Action → Prop
  | .create env request => ∃ workload a, request = some workload ∧ workloadID workload = w ∧
      (c.createWorkload env request).2 = .ok a
  | _ => False

/-- A call that addresses the workload and finds a record of it finds a deleted one, and has nothing to put to work for
it; a creation of the workload does not get past its first save. -/
def Spares (w : String) (c : Coordinator) : Action → Prop
  | .create env request => ∀ workload state, request = some workload → workloadID workload = w →
      c.Submits env workload state → env.save 0 ≠ .ok
  | .update env request => ∀ workload existing, request = some workload → workload.id = w → w ≠ "" →
      c.found env w = some existing → existing.deletedAt ≠ none ∧
        ∀ a, (c.updateWorkload env request).2 = .ok a → ∀ replica ∈ existing.running, ¬c.Enrolled replica.nodeID
  | .scale env id n => id = w → ∀ existing, c.found env w = some existing → existing.deletedAt ≠ none ∧
      ∀ a, (c.scaleWorkload env id n).2 = .ok a → existing.currentReplicas < n →
        ∀ d ∈ c.scaleDecisions env (existing.scaled n), ¬c.Enrolled d.nodeID
  | .reschedule env id => id = w → ∀ existing, c.found env w = some existing → existing.deletedAt ≠ none ∧
      (¬existing.Short → ∀ d ∈ repairDecisions c.scheduler env existing, ¬c.Enrolled d.nodeID)
  | .delete _ _ _ => True
  | .reconcile _ => True
  | .heartbeat _ _ _ => True

def Gone (w : String) (c : Coordinator) : Prop := ∀ state, c.states.cached w = some state → state.deletedAt ≠ none

variable {w : String} {c c' : Coordinator} {assignments : List (String × WorkloadAssignment)}

lemma listed_iff : c.Listed w ↔ ∃ s, c.states.cached w = some s ∧ s.deletedAt = none := by
  constructor
  · rintro ⟨o, ns, ls, s, hm, rfl⟩
    obtain ⟨hca, hl, -⟩ := WorkloadStateManager.mem_listWorkloads.mp hm
    exact ⟨s, hca, hl⟩
  · rintro ⟨s, hca, hl⟩
    have hid := c.states.cache_keyed w s hca
    refine ⟨sortedOrder, "", ∅, s, WorkloadStateManager.mem_listWorkloads_all.mpr ⟨?_, hl⟩, hid⟩
    rwa [hid]

lemma gone_iff : c.Gone w ↔ ¬c.Listed w := by
  rw [listed_iff, Gone]
  push Not
  rfl

lemma gone_of_states (h : c'.states = c.states) : c'.Gone w ↔ c.Gone w := by rw [Gone, Gone, h]

variable {r : Option WorkloadState}

lemma gone_of_puts (h : c.states.Puts w r c'.states) : c'.Gone w ↔ ∀ s, r = some s → s.deletedAt ≠ none := by
  rw [Gone, h.cached, Function.update_self]

variable {id : String}

lemma gone_of_puts_ne (h : c.states.Puts id r c'.states) (hne : id ≠ w) : c'.Gone w ↔ c.Gone w := by
  rw [Gone, Gone, h.cached, Function.update_of_ne hne.symm]

lemma Queues.not_employs_iff (h : c.Queues assignments c') :
    ¬c.Employs w c' ↔ ∀ a ∈ assignments, c.Enrolled a.1 → ¬a.2.Employs w := by
  rw [Employs, h.newlyWaits_iff]
  push Not
  rfl

lemma Queues.not_employs (h : c.Queues [] c') : ¬c.Employs w c' := h.not_employs_iff.mpr fun _ ha => by cases ha

lemma Queues.not_employs_other (h : c.Queues assignments c') (ho : ∀ a ∈ assignments, a.2.workload.id ≠ w) :
    ¬c.Employs w c' := h.not_employs_iff.mpr fun a ha _ he => ho a ha he.1

lemma quiet_runs_iff {wo : Workload} (hw : wo.id = w) {ds : List Scheduler.ScheduleDecision} :
    (∀ a ∈ ds.map (runOf wo), c.Enrolled a.1 → ¬a.2.Employs w) ↔ ∀ d ∈ ds, ¬c.Enrolled d.nodeID := by
  rw [List.forall_mem_map]
  simp [WorkloadAssignment.Employs, runOf, hw]

lemma quiet_stops {id : String} {rs : List ReplicaState} :
    ∀ a ∈ rs.map (stopOf id), c.Enrolled a.1 → ¬a.2.Employs w := by
  rw [List.forall_mem_map]
  exact fun r _ _ => by simp [WorkloadAssignment.Employs, stopOf]

variable {env : Env}

lemma create_spares_iff {r : Option Workload} (hg : c.Gone w) (hnot : ¬c.Recreates w (.create env r)) :
    ¬c.Employs w (c.act (.create env r)) ∧ (c.act (.create env r)).Gone w ↔ c.Spares w (.create env r) := by
  have he := c.createWorkload_creates env r
  simp only [act, Recreates, Spares] at hnot ⊢
  generalize ho : c.createWorkload env r = out at hnot he ⊢
  cases he with
  | refused hu hst hq hf =>
    refine iff_of_true ⟨hq.not_employs, (gone_of_states hst).mpr hg⟩ ?_
    exact fun wo s hr _ hs => absurd hs (hu wo s hr)
  | unsaved hs hsave hst hq hf =>
    refine iff_of_true ⟨hq.not_employs, ?_⟩ fun _ _ _ _ _ => hsave
    rwa [Gone, hst, WorkloadStateManager.cached_saveWorkload hsave]
  | @unscheduled wo s _ hs hsave hfo hp hq hf =>
    have hid := state_id hs.state
    by_cases hw : workloadID wo = w
    · rw [hid, hw] at hp
      refine iff_of_false ?_ fun h => h wo s rfl hw hs hsave
      rintro ⟨-, haf⟩
      obtain ⟨sp, hb⟩ := state_begins hs.state
      exact (gone_of_puts hp).mp haf _ rfl hb.alive
    · refine iff_of_true ⟨hq.not_employs, (gone_of_puts_ne hp (hid ▸ hw)).mpr hg⟩ ?_
      rintro _ _ ⟨⟩ hw'
      exact absurd hw' hw
  | @started wo s _ hs hsave hl hp hq hsu =>
    by_cases hw : workloadID wo = w
    · exact absurd ⟨wo, _, rfl, hw, hsu⟩ hnot
    · refine iff_of_true ⟨hq.not_employs_other ?_, ?_⟩ ?_
      · intro a ha
        obtain ⟨d, -, rfl⟩ := List.mem_map.mp ha
        exact hw
      · exact (gone_of_puts_ne hp (state_id hs.state ▸ hw)).mpr hg
      · rintro _ _ ⟨⟩ hw'
        exact absurd hw' hw

lemma spares_of_puts {e new : WorkloadState} {Quiet : Prop} (hg : c.Gone w)
    (hp : c.states.Puts id (some new) c'.states) (hm : new.deletedAt = e.deletedAt)
    (hq : id = w → (¬c.Employs w c' ↔ Quiet)) (ho : id ≠ w → ¬c.Employs w c') :
    ¬c.Employs w c' ∧ c'.Gone w ↔ (id = w → e.deletedAt ≠ none ∧ Quiet) := by
  by_cases hw : id = w
  · rw [hw] at hp
    rw [gone_of_puts hp, hq hw, and_comm]
    simp only [Option.some.injEq, forall_eq', hm, hw, true_implies]
  · refine iff_of_true ⟨ho hw, (gone_of_puts_ne hp hw).mpr hg⟩ fun h => absurd h hw

lemma update_spares_iff {re : Option Workload} (hg : c.Gone w) :
    ¬c.Employs w (c.act (.update env re)) ∧ (c.act (.update env re)).Gone w ↔ c.Spares w (.update env re) := by
  have he := c.updateWorkload_updates env re
  simp only [act, Spares]
  generalize ho : c.updateWorkload env re = out at he ⊢
  have hfi : ∀ {wo : Workload} {e : WorkloadState} {Quiet : Prop}, re = some wo →
      wo.id ≠ "" → c.found env wo.id = some e →
      ((∀ a, out.2 = .ok a → ∀ r ∈ e.running, ¬c.Enrolled r.nodeID) ↔ Quiet) →
      ((wo.id = w → e.deletedAt ≠ none ∧ Quiet) ↔
        ∀ wo e, re = some wo → wo.id = w → w ≠ "" → c.found env w = some e →
          e.deletedAt ≠ none ∧
            ∀ a, out.2 = .ok a → ∀ r ∈ e.running, ¬c.Enrolled r.nodeID) := by
    rintro wo e Quiet rfl hna hf hqu
    rw [← hqu]
    constructor
    · rintro h _ e' ⟨⟩ rfl - hf'
      cases hf.symm.trans hf'
      exact h rfl
    · rintro h rfl
      exact h wo e rfl rfl hna hf
  cases he with
  | refused hu hst hq hfa =>
    refine iff_of_true ⟨hq.not_employs, (gone_of_states hst).mpr hg⟩ ?_
    rintro wo e hr rfl hna hf
    rcases hu wo hr with hem | hnone
    · exact absurd hem hna
    · cases hf.symm.trans hnone
  | panicked hna hf hm hp hq hfa =>
    rw [← hfi rfl hna hf (iff_true_intro fun a h => by cases hfa.symm.trans h)]
    exact spares_of_puts hg hp mergeUntilPanic_frame.2 (fun _ => iff_true_intro hq.not_employs)
      fun _ => hq.not_employs
  | denied hna hf hm hde hp hq hfa =>
    rw [← hfi rfl hna hf (iff_true_intro fun a h => by cases hfa.symm.trans h)]
    exact spares_of_puts hg hp (mergeUpdate_frame hm).2.2.2 (fun _ => iff_true_intro hq.not_employs)
      fun _ => hq.not_employs
  | unsaved hna hf hm had hsave hp hq hfa =>
    rw [← hfi rfl hna hf (iff_true_intro fun a h => by cases hfa.symm.trans h)]
    exact spares_of_puts hg hp (mergeUpdate_frame hm).2.2.2 (fun _ => iff_true_intro hq.not_employs)
      fun _ => hq.not_employs
  | @stored wo a e state _ hna hf hm hp hq hs =>
    have hru : state.running = e.running := by
      rw [WorkloadState.running, WorkloadState.running, (mergeUpdate_frame hm).2.1]
    rw [hru] at hq
    have hqu : (∀ a, out.2 = .ok a → ∀ r ∈ e.running, ¬c.Enrolled r.nodeID) ↔
        ∀ r ∈ e.running, ¬c.Enrolled r.nodeID :=
      ⟨fun h => h a hs, fun h _ _ => h⟩
    rw [← hfi rfl hna hf hqu]
    refine spares_of_puts hg hp (mergeUpdate_frame hm).2.2.2 (fun hw => ?_) fun hw => ?_
    · rw [hq.not_employs_iff, List.forall_mem_map]
      simp [WorkloadAssignment.Employs, updateOf, hw]
    · apply hq.not_employs_other
      intro a ha
      obtain ⟨r, -, rfl⟩ := List.mem_map.mp ha
      exact hw

lemma addressed_iff {α : Type*} {f : String → Option α} {a : α} {P : α → Prop} (h : f id = some a) :
    (id = w → ∀ a, f w = some a → P a) ↔ (id = w → P a) := by
  constructor
  · rintro ha rfl
    exact ha rfl a h
  · rintro ho rfl b hb
    cases h.symm.trans hb
    exact ho rfl

lemma scale_spares_iff {n : Int32} (hg : c.Gone w) :
    ¬c.Employs w (c.act (.scale env id n)) ∧ (c.act (.scale env id n)).Gone w ↔ c.Spares w (.scale env id n) := by
  have he := c.scaleWorkload_scales env id n
  simp only [act, Spares]
  generalize c.scaleWorkload env id n = out at he ⊢
  cases he with
  | refused hu hst hq hfa =>
    refine iff_of_true ⟨hq.not_employs, (gone_of_states hst).mpr hg⟩ ?_
    rintro rfl e hf
    cases hf.symm.trans hu
  | unsaved hf hsave hp hq hfa =>
    rw [addressed_iff hf]
    refine spares_of_puts hg hp rfl (fun _ => iff_of_true hq.not_employs ?_) fun _ => hq.not_employs
    exact fun a h => by cases hfa.symm.trans h
  | unscheduled hf hsave hup hfo hp hq hfa =>
    rw [addressed_iff hf]
    refine spares_of_puts hg hp rfl (fun _ => iff_of_true hq.not_employs ?_) fun _ => hq.not_employs
    exact fun a h => by cases hfa.symm.trans h
  | @rescaled e a hf hp hq hs =>
    rw [addressed_iff hf]
    have hid : e.id = id := found_id hf
    refine spares_of_puts hg hp rfl (fun hw => ?_) fun hw => ?_
    · rw [hq.not_employs_iff, scaleQueue]
      by_cases hup : e.currentReplicas < n
      · rw [if_pos (show (e.scaled n).currentReplicas < (e.scaled n).desiredReplicas from hup),
          quiet_runs_iff (hid.trans hw)]
        exact ⟨fun h _ _ _ => h, fun h => h a hs hup⟩
      · rw [if_neg (show ¬(e.scaled n).currentReplicas < (e.scaled n).desiredReplicas from hup)]
        refine iff_of_true ?_ fun _ _ h => absurd h hup
        split_ifs
        · exact quiet_stops
        · exact fun a ha => by cases ha
    · rw [← hid] at hw
      apply hq.not_employs_other
      intro a ha
      rw [scaleQueue] at ha
      split_ifs at ha
      · obtain ⟨d, -, rfl⟩ := List.mem_map.mp ha
        exact hw
      · obtain ⟨r, -, rfl⟩ := List.mem_map.mp ha
        exact hw
      · cases ha

lemma reschedule_spares_iff (hg : c.Gone w) :
    ¬c.Employs w (c.act (.reschedule env id)) ∧ (c.act (.reschedule env id)).Gone w ↔
      c.Spares w (.reschedule env id) := by
  have he := c.reschedule_reschedules env id
  simp only [act, Spares]
  generalize c.reschedule env id = out at he ⊢
  cases he with
  | unfound hu hs hq hfa =>
    refine iff_of_true ⟨hq.not_employs, (gone_of_states hs).mpr hg⟩ ?_
    rintro rfl e hf
    cases hf.symm.trans hu
  | @refused e _ hf hsh hs hq hfa =>
    have hp := c.states.puts_point e
    rw [← hs, found_id hf] at hp
    rw [addressed_iff hf]
    refine spares_of_puts hg hp rfl (fun _ => iff_of_true hq.not_employs ?_) fun _ => hq.not_employs
    exact fun h => absurd hsh h
  | @replaced e a hf hen hs hq hsu =>
    have hid : e.id = id := found_id hf
    have hp := c.states.puts_point e
    rw [← hs, hid] at hp
    rw [addressed_iff hf]
    refine spares_of_puts hg hp rfl (fun hw => ?_) fun hw => ?_
    · rw [hq.not_employs_iff, List.forall_mem_append, quiet_runs_iff (hid.trans hw)]
      rw [and_iff_right quiet_stops]
      exact ⟨fun h _ => h, fun h => h hen⟩
    · rw [← hid] at hw
      apply hq.not_employs_other
      intro a ha
      rcases List.mem_append.mp ha with ha | ha
      · obtain ⟨r, -, rfl⟩ := List.mem_map.mp ha
        exact hw
      · obtain ⟨d, -, rfl⟩ := List.mem_map.mp ha
        exact hw

lemma delete_spares {g : Bool} (hg : c.Gone w) :
    ¬c.Employs w (c.act (.delete env id g)) ∧ (c.act (.delete env id g)).Gone w := by
  have he := c.deleteWorkload_deletes env id g
  simp only [act]
  generalize c.deleteWorkload env id g = out at he ⊢
  cases he with
  | refused hu hs hq hf => exact ⟨hq.not_employs, (gone_of_states hs).mpr hg⟩
  | unmarked hfo hp hq hf =>
    refine ⟨hq.not_employs, ?_⟩
    by_cases hw : id = w
    · rw [hw] at hp
      rw [gone_of_puts hp]
      rintro s ⟨⟩ h
      cases h
    · exact (gone_of_puts_ne hp hw).mpr hg
  | deleted hfo hp hq hsu =>
    refine ⟨hq.not_employs_iff.mpr quiet_stops, ?_⟩
    by_cases hw : id = w
    · rw [hw] at hp
      rw [gone_of_puts hp]
      split_ifs
      · rintro s ⟨⟩
      · rintro s ⟨⟩ h
        cases h
    · exact (gone_of_puts_ne hp hw).mpr hg

lemma reconcile_spares {r : Round} (hg : c.Gone w) :
    ¬c.Employs w (c.act (.reconcile r)) ∧ (c.act (.reconcile r)).Gone w := by
  obtain ⟨hs, hq⟩ := c.reconcile_eq r
  refine ⟨hq.not_employs_other ?_, (gone_of_states hs).mpr hg⟩
  intro a ha
  obtain ⟨s, hl, ha⟩ := List.mem_flatMap.mp ha
  have hne : s.id ≠ w := by
    rintro rfl
    exact gone_iff.mp hg ⟨r.order, "", ∅, s, hl, rfl⟩
  rw [reconcileQueue, repairQueue] at ha
  split_ifs at ha
  · cases ha
  · rcases List.mem_append.mp ha with ha | ha
    · obtain ⟨re, -, rfl⟩ := List.mem_map.mp ha
      exact hne
    · obtain ⟨d, -, rfl⟩ := List.mem_map.mp ha
      exact hne
  · cases ha

variable {req : Membership.HeartbeatRequest}

lemma not_employs_processHeartbeat {m : Manager WorkloadAssignment} {now : Time} :
    ¬NewlyWaits (WorkloadAssignment.Employs w) m (m.processHeartbeat now req).2 := by
  have hw : ∀ nodeID, waiting (m.processHeartbeat now req).2 nodeID = [] ∨
      waiting (m.processHeartbeat now req).2 nodeID = waiting m nodeID := by
    intro nodeID
    rw [Manager.processHeartbeat]
    cases m.nodes.lookup req.nodeId with
    | none => exact .inr rfl
    | some node =>
      simp only [waiting, lookup_erase_if]
      split_ifs
      · exact .inl rfl
      · exact .inr rfl
  rintro ⟨nodeID, new, hnew, a, ha, -⟩
  rcases hw nodeID with he | hs
  · rw [(List.append_eq_nil_iff.mp (hnew.symm.trans he)).2] at ha
    cases ha
  · rw [hs, List.self_eq_append_right] at hnew
    rw [hnew] at ha
    cases ha

lemma report_marks {m : WorkloadStateManager} {r : HealthReport} (h : ∀ s, m.cached w = some s → s.deletedAt ≠ none) :
    ∀ s, (m.report r).cached w = some s → s.deletedAt ≠ none := by
  rw [WorkloadStateManager.report, WorkloadStateManager.updateReplicaHealth]
  cases hf : m.findContainer r.order r.health.containerId with
  | none => exact h
  | some f =>
    obtain ⟨s, i⟩ := f
    have hca := (findContainer_some hf).1
    intro new hnew
    rw [(m.puts_saveShared ..).cached, Function.update_apply] at hnew
    split_ifs at hnew with hw
    · cases hnew
      rw [hw] at h
      exact h s hca
    · exact h new hnew

lemma heartbeat_spares {now : Time} {reports : List HealthReport}
    (hg : c.Gone w) : ¬c.Employs w (c.act (.heartbeat now req reports)) ∧
      (c.act (.heartbeat now req reports)).Gone w := by
  constructor
  · have hm : (c.act (.heartbeat now req reports)).membership =
        (c.membership.processHeartbeat now req).2 := by
      simp only [act, heartbeat]
      cases (c.membership.processHeartbeat now req).1 <;> rfl
    rw [Employs, hm]
    exact not_employs_processHeartbeat
  · simp only [act, Gone, heartbeat_states]
    split_ifs
    · exact hg
    · exact run_preserves (fun m : WorkloadStateManager => ∀ s, m.cached w = some s → s.deletedAt ≠ none)
        reports (fun _ r _ h => report_marks h) hg

lemma spares_iff {a : Action} (hg : c.Gone w) (hnot : ¬c.Recreates w a) :
    ¬c.Employs w (c.act a) ∧ ¬(c.act a).Listed w ↔ c.Spares w a := by
  rw [← gone_iff]
  cases a with
  | create env r => exact create_spares_iff hg hnot
  | update env r => exact update_spares_iff hg
  | scale env id n => exact scale_spares_iff hg
  | reschedule env id => exact reschedule_spares_iff hg
  | delete env id g => exact iff_of_true (delete_spares hg) trivial
  | reconcile ro => exact iff_of_true (reconcile_spares hg) trivial
  | heartbeat now req reports => exact iff_of_true (heartbeat_spares hg) trivial

theorem deleted_stays_iff {env : Env} {graceful : Bool} (hok : (c.deleteWorkload env w graceful).2 = .ok ())
    (as : List Action) (hnot : Admissible act (fun c a => ¬c.Recreates w a) (c.deleteWorkload env w graceful).1 as) :
    ¬(c.deleteWorkload env w graceful).1.Listed w ∧
    (Admissible act (fun c a => ¬c.Employs w (c.act a) ∧ ¬(c.act a).Listed w) (c.deleteWorkload env w graceful).1 as ↔
      Admissible act (Spares w) (c.deleteWorkload env w graceful).1 as) := by
  have hgone : (c.deleteWorkload env w graceful).1.Gone w := by
    have he := c.deleteWorkload_deletes env w graceful
    generalize c.deleteWorkload env w graceful = out at hok he
    cases he with
    | refused hu hst hq hf => cases hok.symm.trans hf
    | unmarked hfo hp hq hf => cases hok.symm.trans hf
    | deleted hfo hp hq hs =>
      rw [gone_of_puts hp]
      split_ifs
      · rintro s ⟨⟩
      · rintro s ⟨⟩ h
        cases h
  refine ⟨gone_iff.mp hgone, ?_⟩
  exact admissible_iff (Gone w) (fun c a _ _ h => gone_iff.mpr h.2) (fun c a hg hn => spares_iff hg hn) as hgone hnot

end Coordinator

section Sample

def deletedWeb : Coordinator := (webCoordinator.deleteWorkload prodEnv "w" true).1

theorem deleted_stays_reconciled : Admissible Coordinator.act
    (fun c a => ¬c.Employs "w" (c.act a) ∧ ¬(c.act a).Listed "w") deletedWeb
    [.reconcile ⟨sortedOrder, fun _ => prodEnv⟩, .delete prodEnv "w" false, .scale prodEnv "w" 3] := by
  refine ((@Coordinator.deleted_stays_iff "w" webCoordinator prodEnv true rfl _ ?_).2).mpr ?_
  · exact ⟨id, id, id, trivial⟩
  · refine ⟨trivial, trivial, ?_, trivial⟩
    rintro - e hf
    cases hf

theorem deleted_workload_scaled :
    (match (webCoordinator.deleteWorkload prodEnv "w" true).2 with | .ok () => true | _ => false) = true ∧
    (waiting (deletedWeb.act (.scale prodEnv "w" 2)).membership "n1").map
      (fun a => (a.workload.id, a.action)) = [("w", "stop"), ("w", "run"), ("w", "run")] := by
  decide +kernel

end Sample

end Cloudless.Coordination
