import Cloudless.Coordinator.Heartbeats
import Cloudless.Coordinator.Updates

/-! The handlers that scale, delete and reschedule a workload and the reconcile cycle, and what each handler can do to
the visible records and to the assignments that wait for the nodes. -/

namespace Cloudless.Coordination

open Foundations FiniteMaps GoStd MapLoops WorkloadStateManager
open Cloudless.Membership (Manager)

def stopOf (workloadID : String) (replica : ReplicaState) : String × WorkloadAssignment :=
  (replica.nodeID, ⟨replica.fragmentID, { id := workloadID }, "stop"⟩)

def updateOf (workload : Workload) (replica : ReplicaState) : String × WorkloadAssignment :=
  (replica.nodeID, ⟨replica.fragmentID, workload, "update"⟩)

def queueExcess (workloadID : String) : ℕ → List ReplicaState → Manager WorkloadAssignment → Manager WorkloadAssignment
  | _, [], m => m
  | 0, _ :: _, m => m
  | n + 1, replica :: replicas, m =>
    let queued := m.queueAssignment (stopOf workloadID replica).1 (stopOf workloadID replica).2
    match queued.1 with
    | .ok () => queueExcess workloadID n replicas queued.2
    | .error _ => queueExcess workloadID (n + 1) replicas queued.2

variable (state : WorkloadState)

namespace WorkloadState

def scaled (replicas : Int32) (state : WorkloadState) : WorkloadState :=
  { state with desiredReplicas := replicas, status := .scaling }

def assigned : Workload where
  id := state.id
  name := state.name
  ns := state.ns
  spec := some
    { image := state.image
      command := state.command
      args := state.args
      env := state.env
      replicas := state.desiredReplicas }

def live : List ReplicaState :=
  state.replicas.filter fun replica => replica.status ≠ .stopped ∧ replica.status ≠ .failed

def running : List ReplicaState := state.replicas.filter ReplicaState.isRunning

def failedNodes (rt : Runtime) (state : WorkloadState) : List String :=
  rt.rangeOrder ((state.replicas.filter fun replica => replica.status = .failed).map ReplicaState.nodeID).dedup

def minAvailable : Int64 := state.rollout.minAvailable

/-- One of the two guards of a rescheduling refuses: the handler compares as `int32`, the scheduler as `int`. -/
def Short : Prop :=
  0 < state.minAvailable ∧
    (state.readyReplicas < state.minAvailable.toInt32 ∨ state.readyReplicas.toInt64 < state.minAvailable)

instance (state : WorkloadState) : Decidable state.Short := inferInstanceAs (Decidable (_ ∧ _))

def HasFailed : Prop := ∃ replica ∈ state.replicas, replica.status = .failed

instance (state : WorkloadState) : Decidable state.HasFailed := inferInstanceAs (Decidable (∃ _ ∈ _, _))

end WorkloadState

structure ApiDecision where
  replicaId : String := ""
  (nodeId fragmentId : String)
  score : Float := 0

structure RescheduleResponse where
  (oldDecisions newDecisions : List ApiDecision)

def rescheduleSpec : Scheduler.WorkloadSpec :=
  { schedulerSpec state with rolloutStrategy := state.rollout, annotations := state.annotations }

variable (c : Coordinator)

namespace Coordinator

def queueStops (workloadID : String) (replicas : List ReplicaState) : Coordinator :=
  { c with membership := queueAll (replicas.map (stopOf workloadID)) c.membership }

variable (env : Env)

def deleteWorkload (workloadID : String) (graceful : Bool) : Coordinator × Response Unit :=
  if !env.isLeader then (c, .error (notLeader env))
  else
    let found := c.states.getWorkload env.readError workloadID
    match found.2 with
    | .error err => ({ c with states := found.1 }, .error ("failed to get workload: " ++ err))
    | .ok state =>
      let marked := found.1.deleteWorkload env.readError (env.clock 0) (env.savedAt 0) (env.save 0) workloadID
      match marked.2 with
      | .error err => ({ c with states := marked.1 }, .error ("failed to mark workload as deleted: " ++ err))
      | .ok () =>
        let c := ({ c with states := marked.1 } : Coordinator).queueStops workloadID state.live
        (if graceful then c else { c with states := (c.states.purgeWorkload (env.save 1) workloadID).1 }, .ok ())

def scaleDecisions (state : WorkloadState) : List Scheduler.ScheduleDecision :=
  (c.scheduler.schedule env.rt env.clock env.nodes
    { schedulerSpec state with replicas := (state.desiredReplicas - state.currentReplicas).toInt64 }).decisions

def rescale (workloadID : String) (state : WorkloadState) : Coordinator × Response Workload :=
  let response : Workload :=
    { id := state.id, name := state.name, ns := state.ns,
      spec := some { image := state.image, replicas := state.desiredReplicas },
      labels := state.labels, annotations := state.annotations }
  if state.currentReplicas < state.desiredReplicas then
    if !env.leadsScheduling then (c, .error ("failed to schedule new replicas: " ++ notLeader env))
    else (c.queueRuns state.assigned (c.scaleDecisions env state), .ok response)
  else if state.desiredReplicas < state.currentReplicas then
    let excess := (state.currentReplicas - state.desiredReplicas).toInt.toNat
    ({ c with membership := queueExcess workloadID excess state.replicas.reverse c.membership }, .ok response)
  else (c, .ok response)

def scaleWorkload (workloadID : String) (replicas : Int32) : Coordinator × Response Workload :=
  if !env.isLeader then (c, .error (notLeader env))
  else
    let found := c.states.getWorkload env.readError workloadID
    match found.2 with
    | .error err => ({ c with states := found.1 }, .error ("failed to get workload: " ++ err))
    | .ok state =>
      let saved := found.1.saveShared (env.savedAt 0) (env.save 0) (state.scaled replicas)
      match saved.2 with
      | .error err => ({ c with states := saved.1 }, .error ("failed to save workload state: " ++ err))
      | .ok () => ({ c with states := saved.1 } : Coordinator).rescale env workloadID (state.scaled replicas)

def replace (workloadID : String) (state : WorkloadState) (ds : List Scheduler.ScheduleDecision) :
    Coordinator × RescheduleResponse :=
  ((c.queueStops workloadID state.running).queueRuns state.assigned ds,
    { oldDecisions := state.running.map fun replica =>
        { replicaId := replica.id, nodeId := replica.nodeID, fragmentId := replica.fragmentID }
      newDecisions := ds.map fun d => { nodeId := d.nodeID, fragmentId := d.fragmentID, score := d.score } })

def reschedule (workloadID : String) : Coordinator × Response RescheduleResponse :=
  if !env.isLeader then (c, .error (notLeader env))
  else
    let found := c.states.getWorkload env.readError workloadID
    let c : Coordinator := { c with states := found.1 }
    match found.2 with
    | .error err => (c, .error ("failed to get workload: " ++ err))
    | .ok state =>
      if 0 < state.minAvailable ∧ state.readyReplicas < state.minAvailable.toInt32 then
        (c, .error ("cannot reschedule: current ready replicas (" ++ toString state.readyReplicas ++
          ") below minAvailable (" ++ toString state.minAvailable ++
          ") - device failure would violate availability constraint"))
      else
        match c.scheduler.reschedule env.rt env.clock env.nodes (rescheduleSpec state) (state.failedNodes env.rt)
          state.readyReplicas.toInt64 with
        | .error err => (c, .error ("failed to reschedule workload: " ++ err))
        | .ok result =>
          let replaced := c.replace workloadID state result.decisions
          (replaced.1, .ok replaced.2)

end Coordinator

structure Round where
  order : MapOrder
  env : String → Env

namespace Coordinator

def reconcileWorkload (round : Round) (workload : WorkloadState) : Coordinator :=
  if workload.replicas.any fun replica => replica.status = .failed then
    (c.reschedule (round.env workload.id) workload.id).1
  else c

def reconcile (round : Round) : Coordinator :=
  (c.states.listWorkloads round.order "" ∅).foldl (fun c workload => c.reconcileWorkload round workload) c

end Coordinator

section Queue

variable (m : Manager WorkloadAssignment)

lemma queueAll_nodes (ass : List (String × WorkloadAssignment)) : (queueAll ass m).nodes = m.nodes := by
  induction ass generalizing m with
  | nil => rfl
  | cons a ass ih => exact (ih _).trans (m.queueAssignment_nodes a.1 a.2)

lemma queueAll_append {as bs : List (String × WorkloadAssignment)} :
    queueAll (as ++ bs) m = queueAll bs (queueAll as m) := List.foldl_append

lemma queueExcess_eq {wi : String} {n : ℕ} {rs : List ReplicaState} : queueExcess wi n rs m = queueAll
      (((rs.filter fun r => (m.nodes.lookup r.nodeID).isSome).take n).map (stopOf wi)) m := by
  induction rs generalizing n m with
  | nil => simp [queueExcess, queueAll]
  | cons r rs ih =>
    cases n with
    | zero => simp [queueExcess, queueAll]
    | succ n =>
      rw [queueExcess, Manager.queueAssignment]
      cases hn : m.nodes.lookup (stopOf wi r).1 with
      | none =>
        have hn' : m.nodes.lookup r.nodeID = none := hn
        simp [hn', ih]
      | some node =>
        have hn' : m.nodes.lookup r.nodeID = some node := hn
        simp only [ih, hn', Option.isSome_some, List.filter_cons_of_pos, List.take_succ_cons, List.map_cons]
        simp only [queueAll, List.foldl_cons, Manager.queueAssignment, hn]

end Queue

namespace Coordinator

def found (env : Env) (id : String) : Option WorkloadState :=
  if env.isLeader then (c.states.getWorkload env.readError id).2.toOption else none

variable {c} {env : Env} {id : String} {state}

lemma found_cases (c : Coordinator) (env : Env) (id : String) (hl : env.isLeader = true) :
    (∃ err, c.states.getWorkload env.readError id = (c.states, .error err) ∧ c.found env id = none) ∨
    ∃ state, c.states.getWorkload env.readError id = (c.states.point state, .ok state) ∧ c.found env id = some state ∧
      c.states.visible id = some state ∧ state.id = id := by
  rw [found, if_pos hl]
  rcases c.states.getWorkload_cases env.readError id with ⟨err, hg, -⟩ | ⟨state, hg, hv⟩
  · exact .inl ⟨err, hg, by rw [hg]; rfl⟩
  · exact .inr ⟨state, hg, by rw [hg]; rfl, hv, visible_id hv⟩

lemma found_of_follower (hl : env.isLeader = false) : c.found env id = none := by
  rw [found, hl]
  rfl

lemma found_visible (h : c.found env id = some state) : c.states.visible id = some state := by
  cases hl : env.isLeader with
  | false =>
    rw [found_of_follower hl] at h
    cases h
  | true =>
    rcases c.found_cases env id hl with ⟨err, -, hnone⟩ | ⟨s', -, hs, hv, -⟩
    · cases h.symm.trans hnone
    · cases h.symm.trans hs
      exact hv

lemma found_id (h : c.found env id = some state) : state.id = id := visible_id (found_visible h)

variable {w : Workload}

inductive Updates (c : Coordinator) (env : Env) : Option Workload → Coordinator × Response Workload → Prop
  | refused {request : Option Workload} {out : Coordinator × Response Workload} {err : String}
      (unfound : ∀ w, request = some w → w.id = "" ∨ c.found env w.id = none) (states : out.1.states = c.states)
      (queues : c.Queues [] out.1) (failed : out.2 = .error err) : Updates c env request out
  | panicked {w : Workload} {existing : WorkloadState} {out : Coordinator × Response Workload} (named : w.id ≠ "")
      (found : c.found env w.id = some existing) (merged : mergeUpdate existing w = none)
      (states : c.states.Puts w.id (some (mergeUntilPanic existing w)) out.1.states)
      (queues : c.Queues [] out.1) (failed : out.2 = .panicked) : Updates c env (some w) out
  | denied {w : Workload} {existing state : WorkloadState} {out : Coordinator × Response Workload} {err : String}
      (named : w.id ≠ "") (found : c.found env w.id = some existing) (merged : mergeUpdate existing w = some state)
      (denial : (c.admitWorkload env.admission w).2 ≠ .ok ())
      (states : c.states.Puts w.id (some state) out.1.states) (queues : c.Queues [] out.1)
      (failed : out.2 = .error err) : Updates c env (some w) out
  | unsaved {w : Workload} {existing state : WorkloadState} {out : Coordinator × Response Workload} {err : String}
      (named : w.id ≠ "") (found : c.found env w.id = some existing) (merged : mergeUpdate existing w = some state)
      (admitted : (c.admitWorkload env.admission w).2 = .ok ()) (save : env.save 0 ≠ .ok)
      (states : c.states.Puts w.id (some (state.stamped (env.savedAt 0))) out.1.states) (queues : c.Queues [] out.1)
      (failed : out.2 = .error err) : Updates c env (some w) out
  | stored {w a : Workload} {existing state : WorkloadState} {out : Coordinator × Response Workload} (named : w.id ≠ "")
      (found : c.found env w.id = some existing) (merged : mergeUpdate existing w = some state)
      (states : c.states.Puts w.id (some (state.stamped (env.savedAt 0))) out.1.states)
      (queues : c.Queues (state.running.map (updateOf w)) out.1) (succeeded : out.2 = .ok a) : Updates c env (some w) out

variable {existing : WorkloadState}

lemma mergeUntilPanic_frame :
    (mergeUntilPanic existing w).id = existing.id ∧ (mergeUntilPanic existing w).deletedAt = existing.deletedAt := by
  rw [mergeUntilPanic]
  cases w.spec with
  | none | some => exact ⟨rfl, rfl⟩

lemma Queues.congr {c₀ c₁ c' : Coordinator} {a : List (String × WorkloadAssignment)}
    (h : c₁.Queues a c') (hm : c₁.membership = c₀.membership) (hs : c₁.scheduler = c₀.scheduler) : c₀.Queues a c' :=
  ⟨by rw [h.membership, hm], by rw [h.scheduler, hs]⟩

lemma updateWorkload_updates (c : Coordinator) (env : Env) (r : Option Workload) :
    c.Updates env r (c.updateWorkload env r) := by
  unfold updateWorkload
  cases hl : env.isLeader with
  | false => exact .refused (fun w _ => .inr (found_of_follower hl)) rfl ⟨rfl, rfl⟩ rfl
  | true =>
    cases r with
    | none => exact .refused (fun w h => by cases h) rfl ⟨rfl, rfl⟩ rfl
    | some w =>
      by_cases hid : w.id = ""
      · simp only [hid]
        exact .refused (fun w' h => by cases h; exact .inl hid) rfl ⟨rfl, rfl⟩ rfl
      · simp only [hid, Bool.not_true, Bool.false_eq_true, if_false]
        rcases c.found_cases env w.id hl with ⟨err, hg, hf⟩ | ⟨existing, hg, hf, -, he⟩
        · simp only [hg]
          exact .refused (fun w' h => by cases h; exact .inr hf) rfl ⟨rfl, rfl⟩ rfl
        · simp only [hg]
          have hpo := c.states.puts_point existing
          rw [he] at hpo
          cases hme : mergeUpdate existing w with
          | none =>
            refine .panicked hid hf hme ?_ ⟨rfl, rfl⟩ rfl
            have hp := (c.states.point existing).puts_point (mergeUntilPanic existing w)
            rw [mergeUntilPanic_frame.1, he] at hp
            exact hpo.trans hp
          | some state =>
            have hst := (mergeUpdate_frame hme).1.trans he
            have hp := (c.states.point existing).puts_point state
            rw [hst] at hp
            let c₁ : Coordinator := { c with states := (c.states.point existing).point state }
            obtain ⟨hm, hs, hc⟩ := c₁.admitWorkload_eq w env.admission
            have hsame : (c₁.admitWorkload env.admission w).2 = (c.admitWorkload env.admission w).2 := by
              rw [admitWorkload, admitWorkload]
              cases c.policyEngine <;> rfl
            have hmer : c.states.Puts w.id (some state) (c₁.admitWorkload env.admission w).1.states := by
              rw [hs]
              exact hpo.trans hp
            dsimp only
            cases ha : (c₁.admitWorkload env.admission w).2 with
            | error err =>
              refine .denied hid hf hme ?_ hmer ⟨hm, hc⟩ rfl
              rw [← hsame, ha]
              simp
            | ok u =>
              have hsa := (c₁.admitWorkload env.admission w).1.states.puts_saveShared (env.savedAt 0) (env.save 0) state
              rw [hst] at hsa
              have hall := hmer.trans hsa
              rw [storeUpdate]
              cases hsave : env.save 0 with
              | ok =>
                rw [hsave] at hall
                exact .stored hid hf hme hall (Queues.congr ⟨rfl, rfl⟩ hm hc) rfl
              | error me a =>
                rw [hsave] at hall
                exact .unsaved hid hf hme (hsame ▸ ha) (by simp [hsave]) hall ⟨hm, hc⟩ rfl

def scaleQueue (c : Coordinator) (env : Env) (state : WorkloadState) : List (String × WorkloadAssignment) :=
  if state.currentReplicas < state.desiredReplicas then (c.scaleDecisions env state).map (runOf state.assigned)
  else if state.desiredReplicas < state.currentReplicas then
    ((state.replicas.reverse.filter fun replica => (c.membership.nodes.lookup replica.nodeID).isSome).take
      (state.currentReplicas - state.desiredReplicas).toInt.toNat).map (stopOf state.id)
  else []

inductive Scales (c : Coordinator) (env : Env) (id : String) (n : Int32) (out : Coordinator × Response Workload) : Prop
  | refused {err : String} (unfound : c.found env id = none) (states : out.1.states = c.states)
      (queues : c.Queues [] out.1) (failed : out.2 = .error err)
  | unsaved {existing : WorkloadState} {err : String} (found : c.found env id = some existing) (save : env.save 0 ≠ .ok)
      (states : c.states.Puts id (some ((existing.scaled n).stamped (env.savedAt 0))) out.1.states)
      (queues : c.Queues [] out.1) (failed : out.2 = .error err)
  | unscheduled {existing : WorkloadState} {err : String} (found : c.found env id = some existing)
      (save : env.save 0 = .ok) (up : existing.currentReplicas < n) (follows : env.leadsScheduling = false)
      (states : c.states.Puts id (some ((existing.scaled n).stamped (env.savedAt 0))) out.1.states)
      (queues : c.Queues [] out.1) (failed : out.2 = .error err)
  | rescaled {existing : WorkloadState} {a : Workload} (found : c.found env id = some existing)
      (states : c.states.Puts id (some ((existing.scaled n).stamped (env.savedAt 0))) out.1.states)
      (queues : c.Queues (c.scaleQueue env (existing.scaled n)) out.1) (succeeded : out.2 = .ok a)

lemma rescale_cases (c : Coordinator) (env : Env) (state : WorkloadState) :
    (c.rescale env state.id state).1.states = c.states ∧ ((∃ a, (c.rescale env state.id state).2 = .ok a) ∧
        c.Queues (c.scaleQueue env state) (c.rescale env state.id state).1 ∨
      state.currentReplicas < state.desiredReplicas ∧ env.leadsScheduling = false ∧
        (∃ err, (c.rescale env state.id state).2 = .error err) ∧ c.Queues [] (c.rescale env state.id state).1) := by
  rw [rescale, scaleQueue]
  split_ifs with hu hl hdown
  · exact ⟨rfl, .inr ⟨hu, by simpa using hl, ⟨_, rfl⟩, rfl, rfl⟩⟩
  · refine ⟨rfl, .inl ⟨⟨_, rfl⟩, ?_, rfl⟩⟩
    rfl
  · exact ⟨rfl, .inl ⟨⟨_, rfl⟩, queueExcess_eq .., rfl⟩⟩
  · exact ⟨rfl, .inl ⟨⟨_, rfl⟩, rfl, rfl⟩⟩

lemma scaleWorkload_scales (c : Coordinator) (env : Env) (id : String) (n : Int32) :
    c.Scales env id n (c.scaleWorkload env id n) := by
  unfold scaleWorkload
  cases hl : env.isLeader with
  | false => exact .refused (found_of_follower hl) rfl ⟨rfl, rfl⟩ rfl
  | true =>
    simp only [Bool.not_true, Bool.false_eq_true, if_false]
    rcases c.found_cases env id hl with ⟨err, hg, hf⟩ | ⟨existing, hg, hf, -, hex⟩
    · simp only [hg]
      exact .refused hf rfl ⟨rfl, rfl⟩ rfl
    · have hp := (c.states.puts_point existing).trans
        ((c.states.point existing).puts_saveShared (env.savedAt 0) (env.save 0) (existing.scaled n))
      rw [hex] at hp
      simp only [hg]
      cases hsave : env.save 0 with
      | error me ap =>
        rw [hsave] at hp
        exact .unsaved hf (by simp [hsave]) hp ⟨rfl, rfl⟩ rfl
      | ok =>
        rw [hsave] at hp
        have hok := @saveShared_eq_ok (c.states.point existing) (existing.scaled n)
          (env.savedAt 0) .ok
        simp only [hok.mpr rfl]
        obtain ⟨hs, ho⟩ := rescale_cases
          { c with states := ((c.states.point existing).saveShared (env.savedAt 0) .ok (existing.scaled n)).1 } env
          (existing.scaled n)
        have hid : (existing.scaled n).id = id := hex
        rw [hid] at hs ho
        rcases ho with ⟨⟨a, ha⟩, hq⟩ | ⟨hu, hfo, ⟨err, he⟩, hq⟩
        · exact .rescaled hf (hs ▸ hp) (hq.congr rfl rfl) ha
        · exact .unscheduled hf hsave hu hfo (hs ▸ hp) (hq.congr rfl rfl) he

inductive Deletes (c : Coordinator) (env : Env) (id : String) (graceful : Bool) (out : Coordinator × Response Unit) : Prop
  | refused {err : String} (unfound : c.found env id = none) (states : out.1.states = c.states)
      (queues : c.Queues [] out.1) (failed : out.2 = .error err)
  | unmarked {existing : WorkloadState} {err : String} (found : c.found env id = some existing)
      (states : c.states.Puts id (some ((existing.deleted (env.clock 0)).stamped (env.savedAt 0))) out.1.states)
      (queues : c.Queues [] out.1) (failed : out.2 = .error err)
  | deleted {existing : WorkloadState} (found : c.found env id = some existing)
      (states : c.states.Puts id (if graceful = false ∧ env.save 1 = .ok then none
        else some ((existing.deleted (env.clock 0)).stamped (env.savedAt 0))) out.1.states)
      (queues : c.Queues (existing.live.map (stopOf id)) out.1) (succeeded : out.2 = .ok ())

lemma markDeleted_eq {m : WorkloadStateManager} {re : Option String} {now sa : Time} {o : SaveOutcome} :
    (m.point existing).deleteWorkload re now sa o existing.id =
      (m.point existing).saveShared sa o (existing.deleted now) := by
  have hg : (m.point existing).getWorkload re existing.id = (m.point existing, .ok existing) := by
    unfold getWorkload
    have hl : (m.point existing).cache.lookup existing.id = some existing := by
      rw [point, lookup_insert_if, if_pos rfl]
    rw [hl]
  unfold WorkloadStateManager.deleteWorkload
  simp only [hg]

lemma deleteWorkload_deletes (c : Coordinator) (env : Env) (id : String) (g : Bool) :
    c.Deletes env id g (c.deleteWorkload env id g) := by
  unfold deleteWorkload
  cases hl : env.isLeader with
  | false => exact .refused (found_of_follower hl) rfl ⟨rfl, rfl⟩ rfl
  | true =>
    rcases c.found_cases env id hl with ⟨err, hg, hf⟩ | ⟨existing, hg, hf, -, rfl⟩
    · simp only [hg]
      exact .refused hf rfl ⟨rfl, rfl⟩ rfl
    · have hp := (c.states.puts_point existing).trans
        ((c.states.point existing).puts_saveShared (env.savedAt 0) (env.save 0) (existing.deleted (env.clock 0)))
      simp only [hg, markDeleted_eq]
      cases hs : env.save 0 with
      | error me a =>
        rw [hs] at hp
        exact .unmarked hf hp ⟨rfl, rfl⟩ rfl
      | ok =>
        rw [hs] at hp
        have ho := @saveShared_eq_ok (c.states.point existing) (existing.deleted (env.clock 0))
          (env.savedAt 0) .ok
        simp only [ho.mpr rfl]
        cases g with
        | true => exact .deleted hf hp ⟨rfl, rfl⟩ rfl
        | false =>
          have hca : ((c.states.point existing).saveShared (env.savedAt 0) .ok
              (existing.deleted (env.clock 0))).1.cached existing.id =
                some ((existing.deleted (env.clock 0)).stamped (env.savedAt 0)) := by
            rw [hp.cached, Function.update_self]
          have hpu := hp.trans (puts_purgeWorkload hca (env.save 1))
          refine .deleted hf ?_ ⟨rfl, rfl⟩ rfl
          simp only [true_and]
          exact hpu

def repairCandidates (env : Env) (state : WorkloadState) : List Membership.NodeInfo :=
  Scheduler.rescheduleCandidates env.nodes (rescheduleSpec state) (state.failedNodes env.rt)

variable (s : Scheduler.SchedulerConfig)

def repairDecisions (env : Env) (state : WorkloadState) : List Scheduler.ScheduleDecision :=
  Scheduler.decisions env.clock (rescheduleSpec state)
    (s.choices env.rt (repairCandidates env state) (rescheduleSpec state))

def repairQueue (env : Env) (state : WorkloadState) : List (String × WorkloadAssignment) :=
  if state.Short then []
  else state.running.map (stopOf state.id) ++ (repairDecisions s env state).map (runOf state.assigned)

inductive Reschedules (c : Coordinator) (env : Env) (id : String) (out : Coordinator × Response RescheduleResponse) : Prop
  | unfound {err : String} (unfound : c.found env id = none) (states : out.1.states = c.states)
      (queues : c.Queues [] out.1) (failed : out.2 = .error err)
  | refused {state : WorkloadState} {err : String} (found : c.found env id = some state) (short : state.Short)
      (states : out.1.states = c.states.point state) (queues : c.Queues [] out.1) (failed : out.2 = .error err)
  | replaced {state : WorkloadState} {a : RescheduleResponse} (found : c.found env id = some state)
      (enough : ¬state.Short) (states : out.1.states = c.states.point state)
      (queues : c.Queues (state.running.map (stopOf state.id) ++
        (repairDecisions c.scheduler env state).map (runOf state.assigned)) out.1) (succeeded : out.2 = .ok a)

lemma reschedule_reschedules (c : Coordinator) (env : Env) (id : String) :
    c.Reschedules env id (c.reschedule env id) := by
  unfold reschedule
  cases hl : env.isLeader with
  | false => exact .unfound (found_of_follower hl) rfl ⟨rfl, rfl⟩ rfl
  | true =>
    rcases c.found_cases env id hl with ⟨err, hget, hf⟩ | ⟨state, hget, hf, -, rfl⟩
    · simp only [hget]
      exact .unfound hf rfl ⟨rfl, rfl⟩ rfl
    · simp only [hget]
      by_cases hh : 0 < state.minAvailable ∧ state.readyReplicas < state.minAvailable.toInt32
      · rw [if_pos hh]
        exact .refused hf ⟨hh.1, .inl hh.2⟩ rfl ⟨rfl, rfl⟩ rfl
      · rw [if_neg hh]
        rcases Scheduler.reschedule_cases c.scheduler env.rt env.clock env.nodes (rescheduleSpec state)
          (state.failedNodes env.rt) state.readyReplicas.toInt64 with ⟨hm, hre, err, he⟩ | ⟨hg, r, hr, hds⟩
        · simp only [he]
          exact .refused hf ⟨hm, .inr hre⟩ rfl ⟨rfl, rfl⟩ rfl
        · simp only [hr]
          refine .replaced hf ?_ rfl ⟨?_, rfl⟩ rfl
          · rintro ⟨hm, hre | hre⟩
            · exact hh ⟨hm, hre⟩
            · exact hg ⟨hm, hre⟩
          · rw [replace, hds, queueAll_append]
            rfl

lemma reschedule_queues (c : Coordinator) (env : Env) (id : String) :
    c.Queues ((c.found env id).elim [] (repairQueue c.scheduler env)) (c.reschedule env id).1 := by
  cases c.reschedule_reschedules env id with
  | unfound hf hs hq hfa => rwa [hf]
  | refused hf hsh hs hq hfa =>
    rwa [hf, Option.elim_some, repairQueue, if_pos hsh]
  | replaced hf he hs hq hsu =>
    rwa [hf, Option.elim_some, repairQueue, if_neg he]

lemma Queues.trans {c c' c'' : Coordinator} {as bs : List (String × WorkloadAssignment)} (h : c.Queues as c')
    (h' : c'.Queues bs c'') : c.Queues (as ++ bs) c'' :=
  ⟨by rw [h'.membership, h.membership, queueAll_append], h'.scheduler.trans h.scheduler⟩

def reconcileQueue (round : Round) (workload : WorkloadState) : List (String × WorkloadAssignment) :=
  if workload.HasFailed ∧ (round.env workload.id).isLeader = true then repairQueue s (round.env workload.id) workload
  else []

lemma found_of_cached (h : c.states.cached id = some state) (hl : env.isLeader = true) :
    c.found env id = some state := by
  rw [cached] at h
  rw [found, if_pos hl]
  unfold getWorkload
  rw [h]
  rfl

lemma reconcileWorkload_eq {r : Round} {wo : WorkloadState}
    (h : c.states.cached wo.id = some wo) : (c.reconcileWorkload r wo).states = c.states ∧
      c.Queues (reconcileQueue c.scheduler r wo) (c.reconcileWorkload r wo) := by
  have hfa :
      (wo.replicas.any fun re => decide (re.status = .failed)) = true ↔ wo.HasFailed := by
    simp [WorkloadState.HasFailed]
  rw [reconcileWorkload, reconcileQueue]
  by_cases hf : wo.HasFailed
  · rw [if_pos (hfa.mpr hf)]
    have hq := c.reschedule_queues (r.env wo.id) wo.id
    cases hl : (r.env wo.id).isLeader with
    | false =>
      rw [found_of_follower hl] at hq
      simp only [Bool.false_eq_true, and_false, if_false]
      refine ⟨?_, hq⟩
      rw [reschedule, hl]
      rfl
    | true =>
      rw [found_of_cached h hl] at hq
      simp only [hf, and_self, if_true]
      refine ⟨?_, hq⟩
      have hp := point_of_cached h
      cases c.reschedule_reschedules (r.env wo.id) wo.id with
      | unfound hfo hs => exact hs
      | refused hfo hsh hs =>
        cases hfo.symm.trans (found_of_cached h hl)
        rw [hs, hp]
      | replaced hfo he hs =>
        cases hfo.symm.trans (found_of_cached h hl)
        rw [hs, hp]
  · rw [if_neg (mt hfa.mp hf), if_neg fun h => hf h.1]
    exact ⟨rfl, rfl, rfl⟩

lemma reconcile_eq (c : Coordinator) (r : Round) : (c.reconcile r).states = c.states ∧
    c.Queues ((c.states.listWorkloads r.order "" ∅).flatMap (reconcileQueue c.scheduler r)) (c.reconcile r) := by
  suffices h : ∀ (ws : List WorkloadState) (c' : Coordinator), c'.states = c.states → c'.scheduler = c.scheduler →
      (∀ wo ∈ ws, c.states.cached wo.id = some wo) →
      (ws.foldl (fun c wo => c.reconcileWorkload r wo) c').states = c.states ∧
        c'.Queues (ws.flatMap (reconcileQueue c.scheduler r))
          (ws.foldl (fun c wo => c.reconcileWorkload r wo) c') from
    h _ c rfl rfl fun wo hm => (mem_listWorkloads.mp hm).1
  intro ws
  induction ws with
  | nil => exact fun c' hs _ _ => ⟨hs, rfl, rfl⟩
  | cons wo ws ih =>
    intro c' hs hsc hca
    obtain ⟨hcached₁, hr⟩ := List.forall_mem_cons.mp hca
    rw [← hs] at hcached₁
    obtain ⟨hsame, hq⟩ := @reconcileWorkload_eq c' r wo hcached₁
    rw [hsc] at hq
    obtain ⟨hdone, ha⟩ := ih (c'.reconcileWorkload r wo) (hsame.trans hs)
      (hq.scheduler.trans hsc) hr
    exact ⟨hdone, hq.trans ha⟩

end Coordinator

inductive Action
  | create (env : Env) (request : Option Workload)
  | update (env : Env) (request : Option Workload)
  | scale (env : Env) (workloadID : String) (replicas : Int32)
  | delete (env : Env) (workloadID : String) (graceful : Bool)
  | reschedule (env : Env) (workloadID : String)
  | reconcile (round : Round)
  | heartbeat (now : Time) (req : Membership.HeartbeatRequest) (containerHealth : List HealthReport)

def Coordinator.act : Action → Coordinator
  | .create env request => (c.createWorkload env request).1
  | .update env request => (c.updateWorkload env request).1
  | .scale env workloadID replicas => (c.scaleWorkload env workloadID replicas).1
  | .delete env workloadID graceful => (c.deleteWorkload env workloadID graceful).1
  | .reschedule env workloadID => (c.reschedule env workloadID).1
  | .reconcile round => c.reconcile round
  | .heartbeat now req containerHealth => (c.heartbeat now req containerHealth).1

section Sample

def webRequest (n : Int32) : Option Workload := some
  { id := "web", name := "web", ns := "default",
    spec := some { image := "nginx:1", resources := some smallResources, replicas := n } }

def emptyCoordinator : Coordinator where
  policyEngine := none
  membership := Scheduler.idleCluster
  scheduler := Scheduler.binpackConfig

def webCoordinator : Coordinator := { emptyCoordinator with states := twoNodeCoordinator.states }

end Sample

end Cloudless.Coordination
