import Cloudless.Coordinator.States

/-! What the admission of a new workload looks at, against what its run assignments ask for. -/

namespace Cloudless.Coordination

open Foundations FiniteMaps GoStd WorkloadStateManager
open Cloudless.Membership (Manager)

def waiting (m : Manager WorkloadAssignment) (nodeID : String) : List WorkloadAssignment :=
  (m.pendingAssignments.lookup nodeID).getD []

lemma waiting_queueAssignment {m : Manager WorkloadAssignment} {ni id : String} {a : WorkloadAssignment} :
    waiting (m.queueAssignment id a).2 ni =
      waiting m ni ++ if ni = id ∧ (m.nodes.lookup ni).isSome then [a] else [] := by
  rw [Manager.queueAssignment]
  cases hn : m.nodes.lookup id with
  | none =>
    have hno : ¬(ni = id ∧ (m.nodes.lookup ni).isSome) := by
      rintro ⟨rfl, hs⟩
      rw [hn] at hs
      cases hs
    simp [hno]
  | some n =>
    simp only [waiting, lookup_insert_if]
    by_cases hid : ni = id
    · subst hid
      simp [hn]
    · simp [hid]

lemma waiting_queueAll (ass : List (String × WorkloadAssignment)) (m : Manager WorkloadAssignment)
    (ni : String) : waiting (queueAll ass m) ni = waiting m ni ++
      (ass.filter fun a => decide (ni = a.1 ∧ (m.nodes.lookup ni).isSome)).map Prod.snd := by
  induction ass generalizing m with
  | nil => simp [queueAll]
  | cons a ass ih =>
    have hs : queueAll (a :: ass) m = queueAll ass (m.queueAssignment a.1 a.2).2 := rfl
    rw [hs, ih, waiting_queueAssignment, m.queueAssignment_nodes, List.append_assoc]
    by_cases ha : ni = a.1 ∧ (m.nodes.lookup ni).isSome
    · simp [ha]
    · simp [ha]

def runOf (workload : Workload) (d : Scheduler.ScheduleDecision) : String × WorkloadAssignment :=
  (d.nodeID, ⟨d.fragmentID, workload, "run"⟩)

def NewlyWaits (p : WorkloadAssignment → Prop) (m m' : Manager WorkloadAssignment) : Prop :=
  ∃ nodeID new, waiting m' nodeID = waiting m nodeID ++ new ∧ ∃ a ∈ new, p a

def QueuedRun (m m' : Manager WorkloadAssignment) (workload : Workload) : Prop :=
  NewlyWaits (fun a => a.workload = workload ∧ a.action = "run") m m'

namespace Coordinator

variable {c : Coordinator} {env : Env} {workload : Workload}

structure Queues (c : Coordinator) (assignments : List (String × WorkloadAssignment)) (c' : Coordinator) : Prop where
  membership : c'.membership = queueAll assignments c.membership
  scheduler : c'.scheduler = c.scheduler

def Enrolled (c : Coordinator) (nodeID : String) : Prop := (c.membership.nodes.lookup nodeID).isSome

instance (c : Coordinator) (nodeID : String) : Decidable (c.Enrolled nodeID) := inferInstanceAs (Decidable (_ = true))

variable {ass : List (String × WorkloadAssignment)}

lemma Queues.receives_iff {c c' : Coordinator} (h : c.Queues ass c') (a : String × WorkloadAssignment) :
    (∃ new, waiting c'.membership a.1 = waiting c.membership a.1 ++ new ∧ a.2 ∈ new) ↔ a ∈ ass ∧ c.Enrolled a.1 := by
  simp only [h.membership, waiting_queueAll, List.append_cancel_left_eq, exists_eq_left', List.mem_map,
    List.mem_filter, decide_eq_true_eq]
  constructor
  · rintro ⟨b, ⟨hb, hnode, he⟩, has⟩
    have hab : b = a := Prod.ext hnode.symm has
    exact ⟨hab ▸ hb, he⟩
  · rintro ⟨ha, he⟩
    exact ⟨a, ⟨ha, rfl, he⟩, rfl⟩

lemma Queues.newlyWaits_iff {c c' : Coordinator} (h : c.Queues ass c') (p : WorkloadAssignment → Prop) :
    NewlyWaits p c.membership c'.membership ↔ ∃ a ∈ ass, c.Enrolled a.1 ∧ p a.2 := by
  constructor
  · rintro ⟨ni, new, hnew, a, ha, hp⟩
    obtain ⟨hm, he⟩ := (h.receives_iff (ni, a)).mp ⟨new, hnew, ha⟩
    exact ⟨_, hm, he, hp⟩
  · rintro ⟨a, hm, he, hp⟩
    obtain ⟨new, hnew, ha⟩ := (h.receives_iff a).mpr ⟨hm, he⟩
    exact ⟨a.1, new, hnew, a.2, ha, hp⟩

lemma admitWorkload_eq (c : Coordinator) (workload : Workload) (ca : Policies.Call) :
    (c.admitWorkload ca workload).1.membership = c.membership ∧ (c.admitWorkload ca workload).1.states = c.states ∧
    (c.admitWorkload ca workload).1.scheduler = c.scheduler := by
  rw [admitWorkload]
  cases c.policyEngine <;> exact ⟨rfl, rfl, rfl⟩

def Admits (c : Coordinator) (call : Policies.Call) (workload : Workload) : Prop :=
  ∀ e, c.policyEngine = some e → e.Admits call (convertToPolicyWorkloadSpec workload)

def ListsPolicies (c : Coordinator) (call : Policies.Call) : Prop :=
  ∀ e, c.policyEngine = some e → Enumerates call.policies e.policies

lemma admitWorkload_ok_iff {ca : Policies.Call} (hl : c.ListsPolicies ca) :
    (c.admitWorkload ca workload).2 = .ok () ↔ c.Admits ca workload := by
  rw [admitWorkload, Admits]
  cases he : c.policyEngine with
  | none => simp
  | some e =>
    simp only [Option.some.injEq, forall_eq', ← Policies.Engine.evaluate_allows_iff (hl e he)]
    cases (e.evaluate ca (convertToPolicyWorkloadSpec workload)).2 with
    | error err => simp
    | ok r => cases hr : r.allowed <;> simp [hr]

end Coordinator

def Workload.state (workload : Workload) : Option WorkloadState :=
  workload.spec.bind (newState workload.identified)

namespace Coordinator

variable {c : Coordinator} {env : Env} {workload : Workload}

structure Submits (c : Coordinator) (env : Env) (w : Workload) (state : WorkloadState) : Prop where
  leads : env.isLeader = true
  state : w.state = some state
  admitted : (c.admitWorkload env.admission w.identified).2 = .ok ()

inductive Creates (c : Coordinator) (env : Env) : Option Workload → Coordinator × Response Workload → Prop
  | refused {request : Option Workload} {out : Coordinator × Response Workload}
      (unsubmitted : ∀ w state, request = some w → ¬c.Submits env w state) (states : out.1.states = c.states)
      (queues : c.Queues [] out.1) (failed : ∀ a, out.2 ≠ .ok a) : Creates c env request out
  | unsaved {w : Workload} {state : WorkloadState} {out : Coordinator × Response Workload}
      (submitted : c.Submits env w state) (save : env.save 0 ≠ .ok)
      (states : out.1.states = (c.states.saveWorkload (env.savedAt 0) (env.save 0) state).1)
      (queues : c.Queues [] out.1) (failed : ∀ a, out.2 ≠ .ok a) : Creates c env (some w) out
  | unscheduled {w : Workload} {state : WorkloadState} {out : Coordinator × Response Workload}
      (submitted : c.Submits env w state) (save : env.save 0 = .ok) (follows : env.leadsScheduling = false)
      (states : c.states.Puts state.id
        (some (({ state with status := .failed } : WorkloadState).stamped (env.savedAt 2))) out.1.states)
      (queues : c.Queues [] out.1) (failed : ∀ a, out.2 ≠ .ok a) : Creates c env (some w) out
  | started {w : Workload} {state : WorkloadState} {out : Coordinator × Response Workload}
      (submitted : c.Submits env w state) (save : env.save 0 = .ok) (leads : env.leadsScheduling = true)
      (states : c.states.Puts state.id
        (some (({ state with status := .running } : WorkloadState).stamped (env.savedAt 2))) out.1.states)
      (queues : c.Queues ((c.scheduleDecisions env state).map (runOf w.identified)) out.1)
      (succeeded : out.2 = .ok w.identified) : Creates c env (some w) out

lemma resave_puts (c : Coordinator) (now : Time) (o : SaveOutcome) (s : WorkloadState) :
    c.states.Puts s.id (some (s.stamped now)) (c.resave now o s).states :=
  c.states.puts_saveShared now o s

variable {w : Workload} {state : WorkloadState}

lemma startWorkload_creates {c c₀ : Coordinator} {env : Env}
    (hsta : c₀.Submits env w state) (hst : c.states = c₀.states) (hm : c.membership = c₀.membership)
    (hs : c.scheduler = c₀.scheduler) : c₀.Creates env (some w) (c.startWorkload env w.identified state) := by
  have hde : c.scheduleDecisions env state = c₀.scheduleDecisions env state := by
    rw [scheduleDecisions, scheduleDecisions, hs]
  cases hsave : env.save 0 with
  | error message applied =>
    rw [startWorkload, hsave]
    refine .unsaved hsta (by simp [hsave]) ?_ ⟨hm, hs⟩ fun a h => by cases h
    rw [hsave, ← hst]
    rfl
  | ok =>
    rw [startWorkload, hsave]
    have hf := (c.states.puts_saveWorkload (env.savedAt 0) state).trans
      (resave_puts { c with states := (c.states.saveWorkload (env.savedAt 0) .ok state).1 } (env.savedAt 1) (env.save 1)
        { state with status := .scheduling })
    cases hl : env.leadsScheduling with
    | false =>
      refine .unscheduled hsta hsave hl ?_ ⟨hm, hs⟩ fun a h => by cases h
      rw [← hst]
      exact hf.trans (resave_puts _ (env.savedAt 2) (env.save 2) { state with status := .failed })
    | true =>
      refine .started hsta hsave hl ?_ ⟨?_, hs⟩ rfl
      · rw [← hst]
        exact hf.trans (resave_puts _ (env.savedAt 2) (env.save 2) { state with status := .running })
      · rw [← hde, ← hm]
        rfl

lemma createWorkload_creates (c : Coordinator) (env : Env) (r : Option Workload) :
    c.Creates env r (c.createWorkload env r) := by
  unfold createWorkload
  cases hle : env.isLeader with
  | false =>
    refine .refused ?_ rfl ⟨rfl, rfl⟩ fun a h => by cases h
    rintro w s - ⟨hl, -, -⟩
    cases hle.symm.trans hl
  | true =>
    cases r with
    | none => exact .refused (fun w s h => by cases h) rfl ⟨rfl, rfl⟩ fun a h => by cases h
    | some w =>
      cases hspec : w.spec with
      | none =>
        simp only [hspec]
        refine .refused ?_ rfl ⟨rfl, rfl⟩ fun a h => by cases h
        rintro _ s ⟨⟩ ⟨-, hs, -⟩
        rw [Workload.state, hspec] at hs
        cases hs
      | some spec =>
        have hsu : w.state = newState w.identified spec := by rw [Workload.state, hspec, Option.bind_some]
        cases hst : newState w.identified spec with
        | none =>
          simp only [hspec, hst]
          refine .refused ?_ rfl ⟨rfl, rfl⟩ fun a h => by cases h
          rintro _ s ⟨⟩ ⟨-, hs, -⟩
          rw [hsu, hst] at hs
          cases hs
        | some s =>
          obtain ⟨hm, hs, hc⟩ := c.admitWorkload_eq w.identified env.admission
          simp only [hspec, hst]
          cases had : (c.admitWorkload env.admission w.identified).2 with
          | error err =>
            refine .refused ?_ hs ⟨hm, hc⟩ fun a h => by cases h
            rintro _ s ⟨⟩ ⟨-, -, ha⟩
            cases had.symm.trans ha
          | ok u => exact startWorkload_creates ⟨hle, hsu.trans hst, had⟩ hs hm hc

structure Proceeds (c : Coordinator) (env : Env) (workload : Workload) (state : WorkloadState) : Prop
    extends c.Submits env workload state where
  saved : env.save 0 = .ok
  schedules : env.leadsScheduling = true

lemma createWorkload_of_admitted (hl : env.isLeader = true) (hs : workload.state = some state)
    (hok : (c.admitWorkload env.admission workload.identified).2 = .ok ()) : c.createWorkload env (some workload) =
      (c.admitWorkload env.admission workload.identified).1.startWorkload env workload.identified state := by
  rw [Workload.state, Option.bind_eq_some_iff] at hs
  obtain ⟨spec, hspec, hs⟩ := hs
  simp [createWorkload, hl, hspec, hs, hok]

lemma queuedRun_iff : QueuedRun c.membership (c.createWorkload env (some workload)).1.membership workload.identified ↔
    ∃ s, c.Proceeds env workload s ∧
      ∃ d ∈ c.scheduleDecisions env s, (c.membership.nodes.lookup d.nodeID).isSome := by
  have hef := c.createWorkload_creates env (some workload)
  generalize c.createWorkload env (some workload) = out at hef ⊢
  have hst : c.Queues [] out.1 → ¬QueuedRun c.membership out.1.membership workload.identified := by
    rintro hq hr
    obtain ⟨a, ha, -⟩ := (hq.newlyWaits_iff _).mp hr
    cases ha
  cases hef with
  | refused hu hsta hq =>
    refine iff_of_false (hst hq) ?_
    rintro ⟨s, hp, -⟩
    exact hu workload s rfl hp.toSubmits
  | unsaved hs hsave hsta hq =>
    refine iff_of_false (hst hq) ?_
    rintro ⟨s, hp, -⟩
    exact hsave hp.saved
  | unscheduled hs hsave hf hputs hq =>
    refine iff_of_false (hst hq) ?_
    rintro ⟨s, hp, -⟩
    cases hf.symm.trans hp.schedules
  | started hs hsave hl hputs hq =>
    refine (hq.newlyWaits_iff _).trans ?_
    constructor
    · rintro ⟨a, ha, he, -⟩
      obtain ⟨d, hd, rfl⟩ := List.mem_map.mp ha
      exact ⟨_, ⟨hs, hsave, hl⟩, d, hd, he⟩
    · rintro ⟨s, hp, d, hd, he⟩
      rw [Option.some.inj (hp.state.symm.trans hs.state)] at hd
      exact ⟨_, List.mem_map_of_mem hd, he, rfl, rfl⟩

end Coordinator

def Workload.RequestsHostAccess (workload : Workload) : Prop :=
  ∃ spec context, workload.spec = some spec ∧ spec.securityContext = some context ∧
    (context.privileged = true ∨ context.hostNetwork = true ∨ context.hostPID = true ∨ context.hostIPC = true)

def Forbids (policy : Policies.Policy) (type : Policies.RuleType) (allowances : List String) : Prop :=
  ∃ rule ∈ policy.rules, rule.type = type ∧ rule.conditions = [] ∧ ∀ key ∈ allowances, rule.flag key = false

/-- The engine holds an enabled deny policy for all namespaces on privileged mode and host namespaces. -/
def DeniesHostAccess (e : Policies.Engine) : Prop :=
  ∃ name policy, e.policies.lookup name = some policy ∧ policy.enabled = true ∧ policy.deletedAt = none ∧
    policy.ns = "*" ∧ policy.labels = ∅ ∧ policy.action = .deny ∧ Forbids policy .privilegedMode ["allow_privileged"] ∧
    Forbids policy .hostNetwork ["allow_host_network", "allow_host_pid", "allow_host_ipc"]

namespace Coordinator

variable {c : Coordinator} {env : Env} {workload : Workload}

theorem hostAccess_withheld_iff (hl : c.ListsPolicies env.admission) :
    (((∃ e, c.policyEngine = some e ∧ DeniesHostAccess e) → workload.RequestsHostAccess →
        ¬QueuedRun c.membership (c.createWorkload env (some workload)).1.membership workload.identified) ↔
      (¬∃ e, c.policyEngine = some e ∧ DeniesHostAccess e) ∨ ¬workload.RequestsHostAccess ∨
      env.isLeader = false ∨ workload.state = none ∨ ¬c.Admits env.admission workload.identified ∨
      env.save 0 ≠ .ok ∨ env.leadsScheduling = false ∨
      ∀ state, workload.state = some state → ∀ d ∈ c.scheduleDecisions env state,
        c.membership.nodes.lookup d.nodeID = none) ∧ (convertToPolicyWorkloadSpec workload).privileged = false ∧
    (convertToPolicyWorkloadSpec workload).hostNetwork = false ∧
    (convertToPolicyWorkloadSpec workload).hostPID = false ∧
    (convertToPolicyWorkloadSpec workload).hostIPC = false := by
  refine ⟨?_, by rw [convertToPolicyWorkloadSpec]; cases workload.spec <;> exact ⟨rfl, rfl, rfl, rfl⟩⟩
  rw [queuedRun_iff]
  constructor
  · intro h
    by_contra hc
    simp only [not_or, not_not, Bool.not_eq_false, ← ne_eq, Option.ne_none_iff_exists'] at hc
    obtain ⟨he, hr, hlead, -, ha, hsave, hs, hd⟩ := hc
    push Not at hd
    obtain ⟨s', hs', d, hm, hsome⟩ := hd
    exact h he hr ⟨s', ⟨⟨hlead, hs', (admitWorkload_ok_iff hl).mpr ha⟩, hsave, hs⟩, d, hm,
      Option.isSome_iff_ne_none.mpr hsome⟩
  · rintro h he hr ⟨state, hp, d, hm, hsome⟩
    rcases h with h | h | h | h | h | h | h | h
    · exact h he
    · exact h hr
    · rw [hp.leads] at h
      cases h
    · rw [hp.state] at h
      cases h
    · exact h ((admitWorkload_ok_iff hl).mp hp.admitted)
    · exact h hp.saved
    · rw [hp.schedules] at h
      cases h
    · rw [h state hp.state d hm] at hsome
      cases hsome

end Coordinator

section Sample

def hostPolicy : Policies.Policy where
  name := "restrict-host-access"
  ns := "*"
  enabled := true
  priority := 100
  rules :=
    [{ name := "no-privileged", type := .privilegedMode },
     { name := "no-host-namespaces", type := .hostNetwork }]
  action := .deny

def hostEngine : Policies.Engine where
  config := ⟨.deny, true, 300000000000⟩
  evaluator := ⟨id, (· == ·)⟩
  policies := (∅ : FMap String Policies.Policy).insert hostPolicy.name hostPolicy

def hostCoordinator : Coordinator where
  policyEngine := some hostEngine
  membership := Scheduler.idleCluster
  scheduler := Scheduler.binpackConfig

def hostCall (now : Time) : Policies.Call := ⟨[(hostPolicy.name, hostPolicy)], plainRuntime, now, now, fun _ => false⟩

def calmEnv (now : Time) : Env where
  admission := hostCall now
  rt := plainRuntime
  clock := fun _ => 0
  nodes := [Scheduler.idleNode]

def smallResources : ApiResources := ⟨some ⟨400, 100, 0, 0, 0⟩, some ⟨400, 100, 0, 0, 0⟩⟩

def privilegedWorkload : Workload where
  name := "web"
  ns := "default"
  spec := some
    { image := "nginx:latest"
      resources := some smallResources
      replicas := 1
      securityContext := some { privileged := true } }

lemma hostEngine_denies : DeniesHostAccess hostEngine := by
  refine ⟨hostPolicy.name, hostPolicy, rfl, rfl, rfl, rfl, rfl, rfl, ?_, ?_⟩
  · exact ⟨_, List.mem_cons_self .., rfl, rfl, by decide⟩
  · exact ⟨_, List.mem_cons_of_mem _ (List.mem_cons_self ..), rfl, rfl, by decide⟩

lemma privilegedWorkload_requests : privilegedWorkload.RequestsHostAccess := ⟨_, _, rfl, rfl, .inl rfl⟩

def unsavedEnv : Env := { calmEnv 0 with save := fun _ => .error "timeout" false }

theorem hostAccess_withheld_unsaved : ¬QueuedRun hostCoordinator.membership
      (hostCoordinator.createWorkload unsavedEnv (some privilegedWorkload)).1.membership
      privilegedWorkload.identified := by
  have hl : hostCoordinator.ListsPolicies unsavedEnv.admission := by
    rintro e ⟨⟩
    exact enumerates_singleton hostPolicy.name hostPolicy
  have h := @Coordinator.hostAccess_withheld_iff hostCoordinator _ privilegedWorkload hl
  have hsave : unsavedEnv.save 0 ≠ .ok := nofun
  exact h.1.mpr (.inr (.inr (.inr (.inr (.inr (.inl hsave)))))) ⟨hostEngine, rfl, hostEngine_denies⟩
    privilegedWorkload_requests

theorem privileged_workload_assigned : DeniesHostAccess hostEngine ∧ privilegedWorkload.RequestsHostAccess ∧
    (waiting (hostCoordinator.createWorkload (calmEnv 0) (some privilegedWorkload)).1.membership "n1").map
      (fun a => (a.action, a.workload.spec.bind ApiSpec.securityContext)) = [("run", some { privileged := true })] :=
  ⟨hostEngine_denies, privilegedWorkload_requests, by decide⟩

end Sample

end Cloudless.Coordination
