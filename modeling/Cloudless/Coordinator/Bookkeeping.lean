import Cloudless.Coordinator.Handlers

/-! The run assignments queued for a workload, less the stop assignments, against the count that it is meant to have. -/

namespace Cloudless.Coordination

open Foundations FiniteMaps Runs
open Cloudless.Membership (Manager)

def WorkloadAssignment.weight (w : String) (a : WorkloadAssignment) : ℤ :=
  if a.workload.id = w then (if a.action = "run" then 1 else if a.action = "stop" then -1 else 0) else 0

def netOf (w : String) (as : List WorkloadAssignment) : ℤ := (as.map (WorkloadAssignment.weight w)).sum

def net (w : String) (m : Manager WorkloadAssignment) : ℤ := total (fun _ as => netOf w as) m.pendingAssignments

lemma net_queueAssignment {w : String} {m : Manager WorkloadAssignment} {ni : String} {a : WorkloadAssignment} :
    net w (m.queueAssignment ni a).2 = net w m + if (m.nodes.lookup ni).isSome then a.weight w else 0 := by
  rw [Manager.queueAssignment]
  cases m.nodes.lookup ni with
  | none => simp
  | some n =>
    have ht := total_insert_add (fun _ as => netOf w as) m.pendingAssignments ni
      ((m.pendingAssignments.lookup ni).getD [] ++ [a])
    have ho : (m.pendingAssignments.lookup ni).elim 0 (netOf w) =
        netOf w ((m.pendingAssignments.lookup ni).getD []) := by
      cases m.pendingAssignments.lookup ni <;> rfl
    have ha : netOf w ((m.pendingAssignments.lookup ni).getD [] ++ [a]) =
        netOf w ((m.pendingAssignments.lookup ni).getD []) + a.weight w := by
      simp [netOf]
    rw [ha, ho] at ht
    simp only [net, Option.isSome_some, if_true]
    linarith

lemma net_queueAll (w : String) (ass : List (String × WorkloadAssignment)) (m : Manager WorkloadAssignment) :
    net w (queueAll ass m) = net w m +
      (ass.map fun a => if (m.nodes.lookup a.1).isSome then a.2.weight w else 0).sum := by
  induction ass generalizing m with
  | nil => simp [queueAll]
  | cons a ass ih =>
    have hs : queueAll (a :: ass) m = queueAll ass (m.queueAssignment a.1 a.2).2 := rfl
    rw [hs, ih, net_queueAssignment, m.queueAssignment_nodes, List.map_cons, List.sum_cons, add_assoc]

def WorkloadState.wanted (state : WorkloadState) : ℤ := if state.deletedAt = none then state.desiredReplicas.toInt else 0

namespace Coordinator

def wanted (w : String) (c : Coordinator) : ℤ := (c.states.visible w).elim 0 WorkloadState.wanted

def Balanced (w : String) (c : Coordinator) : Prop := net w c.membership = c.wanted w

def Places (c : Coordinator) (ds : List Scheduler.ScheduleDecision) (n : Int32) : Prop :=
  (ds.length : ℤ) = max n.toInt 0 ∧ ∀ d ∈ ds, c.Enrolled d.nodeID

def Smooth (w : String) (c : Coordinator) : Action → Prop
  | .create env request => ∃ workload a, request = some workload ∧ workloadID workload = w ∧
      (c.createWorkload env request).2 = .ok a ∧
      ∀ state, workload.state = some state → c.Places (c.scheduleDecisions env state) state.desiredReplicas
  | .update env request => ∃ workload a, request = some workload ∧ workload.id = w ∧
      (c.updateWorkload env request).2 = .ok a
  | .scale env id n => id = w ∧ (∃ a, (c.scaleWorkload env id n).2 = .ok a) ∧
      ∀ existing, c.found env w = some existing → existing.currentReplicas < n →
        c.Places (c.scaleDecisions env (existing.scaled n)) (n - existing.currentReplicas)
  | .delete env id graceful => id = w ∧ (c.deleteWorkload env id graceful).2 = .ok ()
  | _ => False

def Matches (w : String) (c : Coordinator) : Action → Prop
  | .create _ request => ∀ workload state, request = some workload → workload.state = some state →
      c.wanted w + max state.desiredReplicas.toInt 0 = state.desiredReplicas.toInt
  | .update env request => ∀ workload existing state, request = some workload → c.found env w = some existing →
      mergeUpdate existing workload = some state → state.wanted = c.wanted w
  | .scale env _ n => ∀ existing, c.found env w = some existing →
      c.wanted w + max n.toInt 0 = (existing.scaled n).wanted
  | .delete _ _ _ => c.wanted w = 0
  | _ => True

def Unrecorded (w : String) (c : Coordinator) : Prop :=
  ∀ state, c.states.visible w = some state → state.replicas = [] ∧ state.currentReplicas = 0

variable {w : String} {c c' : Coordinator} {workload : Workload} {ds : List Scheduler.ScheduleDecision}

lemma sum_runs {w : String} (hw : workload.id = w)
    (h : ∀ d ∈ ds, c.Enrolled d.nodeID) : ((ds.map (runOf workload)).map fun a =>
      if (c.membership.nodes.lookup a.1).isSome then a.2.weight w else 0).sum = ds.length := by
  have hs : ((ds.map (runOf workload)).map fun a =>
      if (c.membership.nodes.lookup a.1).isSome then a.2.weight w else 0) = ds.map fun _ => 1 := by
    rw [List.map_map]
    apply List.map_congr_left
    intro d hd
    have he : (c.membership.nodes.lookup (runOf workload d).1).isSome = true := h d hd
    have hwe : (runOf workload d).2.weight w = 1 := by simp [WorkloadAssignment.weight, runOf, hw]
    simp [he, hwe]
  rw [hs]
  simp

lemma Queues.net_runs {n : Int32}
    (h : c.Queues (ds.map (runOf workload)) c') (hw : workload.id = w) (hp : c.Places ds n) :
    net w c'.membership = net w c.membership + max n.toInt 0 := by
  rw [h.membership, net_queueAll, sum_runs hw hp.2, hp.1]

lemma Queues.net_nil (h : c.Queues [] c') : net w c'.membership = net w c.membership := by
  rw [h.membership]
  rfl

lemma Queues.net_updates {rs : List ReplicaState}
    (h : c.Queues (rs.map (updateOf workload)) c') : net w c'.membership = net w c.membership := by
  have hs : ((rs.map (updateOf workload)).map fun a =>
      if (c.membership.nodes.lookup a.1).isSome then a.2.weight w else 0).sum = 0 := by
    apply List.sum_eq_zero
    intro x hx
    rw [List.map_map] at hx
    obtain ⟨r, -, rfl⟩ := List.mem_map.mp hx
    simp [WorkloadAssignment.weight, updateOf]
  rw [h.membership, net_queueAll, hs, add_zero]

variable {r : Option WorkloadState}

lemma wanted_of_puts (h : c.states.Puts w r c'.states) : c'.wanted w = r.elim 0 WorkloadState.wanted := by
  rw [wanted, h.visible_self]

lemma unrecorded_of_puts (h : c.states.Puts w r c'.states) :
    c'.Unrecorded w ↔ ∀ s, r = some s → s.replicas = [] ∧ s.currentReplicas = 0 := by
  rw [Unrecorded, h.visible_self]

variable {env : Env} {r : Option Workload}

lemma create_balanced_iff (hba : c.Balanced w)
    (hsm : c.Smooth w (.create env r)) : (c.act (.create env r)).Unrecorded w ∧
      ((c.act (.create env r)).Balanced w ↔ c.Matches w (.create env r)) := by
  obtain ⟨workload, a, rfl, hw, ho, hpl⟩ := hsm
  have he := c.createWorkload_creates env (some workload)
  simp only [act, Matches]
  generalize c.createWorkload env (some workload) = out at ho he ⊢
  cases he with
  | refused hu hst hq hf => exact absurd ho (hf a)
  | unsaved hs hsave hst hq hf => exact absurd ho (hf a)
  | unscheduled hs hsave hfo hp hq hf => exact absurd ho (hf a)
  | @started _ state _ hs hsave hl hp hq hsu =>
    obtain ⟨s, hb⟩ := state_begins hs.state
    have hcu := (Prod.mk.inj hb.counters).1
    rw [state_id hs.state, hw] at hp
    refine ⟨(unrecorded_of_puts hp).mpr ?_, ?_⟩
    · rintro _ ⟨⟩
      exact ⟨hb.replicas, hcu⟩
    · rw [Balanced, hq.net_runs hw (hpl state hs.state), wanted_of_puts hp, hba]
      have hwa : (({ state with status := .running } : WorkloadState).stamped (env.savedAt 2)).wanted =
          state.desiredReplicas.toInt := if_pos hb.alive
      constructor
      · rintro h _ s' ⟨⟩ hs'
        cases hs.state.symm.trans hs'
        exact h.trans hwa
      · intro h
        exact (h workload state rfl hs.state).trans hwa.symm

lemma update_balanced_iff (hu : c.Unrecorded w)
    (hb : c.Balanced w) (hs : c.Smooth w (.update env r)) : (c.act (.update env r)).Unrecorded w ∧
      ((c.act (.update env r)).Balanced w ↔ c.Matches w (.update env r)) := by
  obtain ⟨workload, a, rfl, rfl, hok⟩ := hs
  have he := c.updateWorkload_updates env (some workload)
  simp only [act, Matches]
  generalize c.updateWorkload env (some workload) = out at hok he ⊢
  cases he with
  | refused hun hst hq hf => cases hok.symm.trans hf
  | panicked hna hfo hm hp hq hf => cases hok.symm.trans hf
  | denied hna hfo hm hde hp hq hf => cases hok.symm.trans hf
  | unsaved hna hfo hm ha hsave hp hq hf => cases hok.symm.trans hf
  | @stored _ _ existing state _ hna hfo hm hp hq hsu =>
    obtain ⟨-, hr, hcu, -⟩ := mergeUpdate_frame hm
    refine ⟨(unrecorded_of_puts hp).mpr ?_, ?_⟩
    · rintro _ ⟨⟩
      have ho := hu existing (found_visible hfo)
      exact ⟨hr.trans ho.1, hcu.trans ho.2⟩
    · rw [Balanced, hq.net_updates, wanted_of_puts hp, hb]
      constructor
      · rintro h _ e' s' ⟨⟩ hf' hm'
        cases hfo.symm.trans hf'
        cases hm.symm.trans hm'
        exact h.symm
      · intro h
        exact (h workload existing state rfl hfo hm).symm

lemma scale_balanced_iff {id : String} {n : Int32} (hu : c.Unrecorded w) (hb : c.Balanced w)
    (hs : c.Smooth w (.scale env id n)) : (c.act (.scale env id n)).Unrecorded w ∧
      ((c.act (.scale env id n)).Balanced w ↔ c.Matches w (.scale env id n)) := by
  obtain ⟨rfl, ⟨a, ho⟩, hpl⟩ := hs
  have he := c.scaleWorkload_scales env id n
  simp only [act, Matches]
  generalize c.scaleWorkload env id n = out at ho he ⊢
  cases he with
  | refused hun hst hq hfa => cases ho.symm.trans hfa
  | unsaved hf hsave hp hq hfa => cases ho.symm.trans hfa
  | unscheduled hf hsave hup hfo hp hq hfa => cases ho.symm.trans hfa
  | @rescaled existing _ hf hp hq hsu =>
    obtain ⟨hr, hcu⟩ := hu existing (found_visible hf)
    refine ⟨(unrecorded_of_puts hp).mpr ?_, ?_⟩
    · rintro _ ⟨⟩
      exact ⟨hr, hcu⟩
    · have hnet : net id out.1.membership = net id c.membership + max n.toInt 0 := by
        rw [scaleQueue] at hq
        by_cases hup : existing.currentReplicas < n
        · have hruns := hpl existing hf hup
          rw [if_pos (show (existing.scaled n).currentReplicas < (existing.scaled n).desiredReplicas from hup)] at hq
          rw [hcu, Int32.sub_zero] at hruns
          have hid : existing.id = id := found_id hf
          exact hq.net_runs hid hruns
        · have hnil : (existing.scaled n).replicas = [] := hr
          rw [if_neg (show ¬(existing.scaled n).currentReplicas < (existing.scaled n).desiredReplicas from hup), hnil,
            List.reverse_nil, List.filter_nil, List.take_nil, List.map_nil, ite_self] at hq
          rw [hcu, Int32.lt_iff_toInt_lt, Int32.toInt_zero] at hup
          rw [hq.net_nil, max_eq_right (not_lt.mp hup), add_zero]
      rw [Balanced, hnet, wanted_of_puts hp, hb]
      constructor
      · rintro h e' hf'
        cases hf.symm.trans hf'
        exact h
      · intro h
        exact h existing hf

lemma delete_balanced_iff {id : String} {g : Bool} (hu : c.Unrecorded w)
    (hb : c.Balanced w) (hs : c.Smooth w (.delete env id g)) : (c.act (.delete env id g)).Unrecorded w ∧
      ((c.act (.delete env id g)).Balanced w ↔ c.Matches w (.delete env id g)) := by
  obtain ⟨rfl, ho⟩ := hs
  have he := c.deleteWorkload_deletes env id g
  simp only [act, Matches]
  generalize c.deleteWorkload env id g = out at ho he ⊢
  cases he with
  | refused hun hst hq hf => cases ho.symm.trans hf
  | unmarked hfo hp hq hf => cases ho.symm.trans hf
  | @deleted existing hfo hp hq hsu =>
    obtain ⟨hr, hcu⟩ := hu existing (found_visible hfo)
    have hl : existing.live = [] := by rw [WorkloadState.live, hr, List.filter_nil]
    rw [hl, List.map_nil] at hq
    refine ⟨(unrecorded_of_puts hp).mpr ?_, ?_⟩
    · split_ifs
      · rintro _ ⟨⟩
      · rintro _ ⟨⟩
        exact ⟨hr, hcu⟩
    · have hw : out.1.wanted id = 0 := by
        rw [wanted_of_puts hp]
        split_ifs <;> rfl
      rw [Balanced, hq.net_nil, hb, hw]

lemma balanced_step_iff {a : Action} (hu : c.Unrecorded w) (hb : c.Balanced w) (hs : c.Smooth w a) :
    (c.act a).Unrecorded w ∧ ((c.act a).Balanced w ↔ c.Matches w a) := by
  cases a with
  | create env request => exact create_balanced_iff hb hs
  | update env request => exact update_balanced_iff hu hb hs
  | scale env id n => exact scale_balanced_iff hu hb hs
  | delete env id graceful => exact delete_balanced_iff hu hb hs
  | reschedule | reconcile | heartbeat => cases hs

theorem balanced_iff (hnew : c.states.visible w = none) (hnone : net w c.membership = 0) (as : List Action)
    (hsmooth : Admissible act (Smooth w) c as) :
    (∀ n, (run act c (as.take n)).Balanced w) ↔ Admissible act (Matches w) c as := by
  refine property_take_iff (fun c => c.Unrecorded w ∧ c.Balanced w) (Balanced w) (fun _ h => h.2) ?_ ?_ as ⟨?_, ?_⟩
    hsmooth
  · intro c a hi hs hm
    obtain ⟨hu, hb⟩ := balanced_step_iff hi.1 hi.2 hs
    exact ⟨hu, hb.mpr hm⟩
  · exact fun c a hi hs hb => (balanced_step_iff hi.1 hi.2 hs).2.mp hb
  · intro s hst
    cases hnew.symm.trans hst
  · rw [Balanced, hnone, wanted, hnew]
    rfl

end Coordinator

section Sample

theorem balanced_created : (run Coordinator.act emptyCoordinator
    [.create prodEnv (webRequest 2), .update prodEnv (webRequest 2)]).Balanced "web" := by
  have hs : Admissible Coordinator.act (Coordinator.Smooth "web") emptyCoordinator
      [.create prodEnv (webRequest 2), .update prodEnv (webRequest 2)] := by
    refine ⟨⟨_, _, rfl, rfl, rfl, ?_⟩, ⟨_, _, rfl, rfl, rfl⟩, trivial⟩
    rintro s ⟨⟩
    exact ⟨by decide +kernel, by decide +kernel⟩
  refine (Coordinator.balanced_iff rfl rfl _ hs).mpr ⟨?_, ?_, trivial⟩ 2
  · rintro workload s ⟨⟩ ⟨⟩
    rfl
  · rintro workload e s ⟨⟩ ⟨⟩ ⟨⟩
    rfl

theorem scaled_workload_unbalanced :
    let c := run Coordinator.act emptyCoordinator [.create prodEnv (webRequest 1), .scale prodEnv "web" 2]
    net "web" c.membership = 3 ∧ c.wanted "web" = 2 := by
  decide +kernel

end Sample

end Cloudless.Coordination
