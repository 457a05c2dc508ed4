import Cloudless.Coordinator.Handlers

/-! The specification that run assignments carry to the nodes, against the one that was last accepted for the workload. -/

namespace Cloudless.Coordination

open Foundations FiniteMaps Runs

structure CarriedSpec where
  image : String
  (command args : List String)
  env : FMap String String
  volumes : List ApiVolume
  ports : List ApiPort
  resources : Option ApiResources
  securityContext : Option SecurityContext

def ApiSpec.carried (spec : ApiSpec) : CarriedSpec where
  image := spec.image
  command := spec.command
  args := spec.args
  env := spec.env
  volumes := spec.volumes
  ports := spec.ports
  resources := spec.resources
  securityContext := spec.securityContext

namespace CarriedSpec

def merge (old : CarriedSpec) (spec : ApiSpec) : CarriedSpec where
  image := if spec.image ≠ "" then spec.image else old.image
  command := if spec.command ≠ [] then spec.command else old.command
  args := if spec.args ≠ [] then spec.args else old.args
  env := if spec.env ≠ ∅ then spec.env else old.env
  volumes := if spec.volumes ≠ [] then spec.volumes else old.volumes
  ports := if spec.ports ≠ [] then spec.ports else old.ports
  resources := spec.resources.or old.resources
  securityContext := spec.securityContext.or old.securityContext

def process (spec : CarriedSpec) : String × List String × List String × FMap String String :=
  (spec.image, spec.command, spec.args, spec.env)

end CarriedSpec

def WorkloadState.process (state : WorkloadState) : String × List String × List String × FMap String String :=
  (state.image, state.command, state.args, state.env)

structure Ledger where
  coordinator : Coordinator
  accepted : Option CarriedSpec := none

namespace Ledger

def revised (accepted : Option CarriedSpec) : Action → Option CarriedSpec
  | .create _ request => (request.bind Workload.spec).map ApiSpec.carried
  | .update _ request => ((request.bind Workload.spec).map fun spec => accepted.map (·.merge spec)).getD accepted
  | _ => accepted

def step (t : Ledger) (a : Action) : Ledger := ⟨t.coordinator.act a, revised t.accepted a⟩

def Accepts (w : String) (t : Ledger) : Action → Prop
  | .create env request => ∃ workload out, request = some workload ∧ workloadID workload = w ∧
      (t.coordinator.createWorkload env request).2 = .ok out
  | .update env request => ∃ workload out, request = some workload ∧ workload.id = w ∧
      (t.coordinator.updateWorkload env request).2 = .ok out
  | .scale env id n => id = w ∧ ∃ out, (t.coordinator.scaleWorkload env id n).2 = .ok out
  | .reschedule env id => id = w ∧ ∃ out, (t.coordinator.reschedule env id).2 = .ok out
  | _ => False

/-- Every run that the step queues for the workload agrees with the accepted specification in what the reading shows. -/
def Carries {α : Type} (read : CarriedSpec → α) (w : String) (t : Ledger) (a : Action) : Prop :=
  ¬NewlyWaits (fun x => x.workload.id = w ∧ x.action = "run" ∧
    (x.workload.spec.map fun spec => read spec.carried) ≠ (t.step a).accepted.map read)
    t.coordinator.membership (t.step a).coordinator.membership

def StartsNone (w : String) (t : Ledger) : Action → Prop
  | .scale env _ n => ∀ existing, t.coordinator.found env w = some existing → existing.currentReplicas < n →
      ∀ d ∈ t.coordinator.scaleDecisions env (existing.scaled n), ¬t.coordinator.Enrolled d.nodeID
  | .reschedule env _ => ∀ existing, t.coordinator.found env w = some existing →
      ∀ d ∈ Coordinator.repairDecisions t.coordinator.scheduler env existing, ¬t.coordinator.Enrolled d.nodeID
  | _ => True

def Kept (w : String) (t : Ledger) : Prop :=
  ∀ state, t.coordinator.states.visible w = some state → ∃ spec, t.accepted = some spec ∧
    spec.process = state.process ∧ spec.resources ≠ none

variable {w : String} {t : Ledger} {a : Action}

lemma carries_iff {α : Type} {read : CarriedSpec → α} {ass : List (String × WorkloadAssignment)}
    (h : t.coordinator.Queues ass (t.coordinator.act a)) :
    t.Carries read w a ↔ ∀ x ∈ ass, t.coordinator.Enrolled x.1 → x.2.workload.id = w → x.2.action = "run" →
      (x.2.workload.spec.map fun spec => read spec.carried) = (revised t.accepted a).map read := by
  rw [Carries, step, h.newlyWaits_iff]
  push Not
  rfl

lemma mergeUpdate_process {e s : WorkloadState} {wo : Workload} {old : CarriedSpec}
    (ho : old.process = e.process) (h : mergeUpdate e wo = some s) :
    (wo.spec.elim old old.merge).process = s.process := by
  simp only [CarriedSpec.process, WorkloadState.process, Prod.mk.injEq] at ho ⊢
  obtain ⟨him, hco, ha, he⟩ := ho
  simp only [mergeUpdate, Option.map_eq_some_iff] at h
  obtain ⟨m, hm, rfl⟩ := h
  cases hs : wo.spec with
  | none =>
    simp only [hs, Option.map_none, Option.getD_none, Option.some.injEq] at hm
    rw [← hm]
    exact ⟨him, hco, ha, he⟩
  | some sp =>
    simp only [hs, Option.map_some, Option.getD_some, mergeSpec] at hm
    simp only [Option.elim_some, CarriedSpec.merge, him, hco, ha, he]
    cases hr : sp.resources with
    | none =>
      simp only [hr, Option.some.injEq] at hm
      rw [← hm]
      exact ⟨rfl, rfl, rfl, rfl⟩
    | some rs =>
      simp only [hr, Option.map_eq_some_iff] at hm
      obtain ⟨rs, -, rfl⟩ := hm
      exact ⟨rfl, rfl, rfl, rfl⟩

lemma kept_of_puts {r : WorkloadState} {sp : CarriedSpec}
    (hputs : t.coordinator.states.Puts w (some r) (t.coordinator.act a).states)
    (ha : revised t.accepted a = some sp) (hp : sp.process = r.process)
    (hr : sp.resources ≠ none) : (t.step a).Kept w := by
  intro s hs
  have hv := hputs.visible_self
  cases hv.symm.trans hs
  exact ⟨sp, ha, hp, hr⟩

lemma carries_assigned {r : WorkloadState} {spec : CarriedSpec}
    {ss : List (String × WorkloadAssignment)} {ds : List Scheduler.ScheduleDecision}
    (hq : t.coordinator.Queues (ss ++ ds.map (runOf r.assigned)) (t.coordinator.act a))
    (hs : ∀ x ∈ ss, x.2.action ≠ "run") (hid : r.id = w) (ha : revised t.accepted a = some spec)
    (hp : spec.process = r.process) (hr : spec.resources ≠ none) :
    t.Carries CarriedSpec.process w a ∧ (t.Carries id w a ↔ ∀ d ∈ ds, ¬t.coordinator.Enrolled d.nodeID) := by
  constructor
  · rw [carries_iff hq, List.forall_mem_append, ha]
    refine ⟨fun x hx _ _ hrun => absurd hrun (hs x hx), ?_⟩
    rw [List.forall_mem_map]
    intro d _ _ _ _
    exact congrArg some hp.symm
  · rw [carries_iff hq, List.forall_mem_append, ha, List.forall_mem_map]
    constructor
    · rintro ⟨-, hruns⟩ d hd he
      have heq := Option.some.inj (hruns d hd he hid rfl)
      exact hr (congrArg CarriedSpec.resources heq).symm
    · intro hnone
      exact ⟨fun x hx _ _ hrun => absurd hrun (hs x hx), fun d hd he => absurd he (hnone d hd)⟩

variable {env : Env} {r : Option Workload}

lemma create_carries (hac : t.Accepts w (.create env r)) : (t.step (.create env r)).Kept w ∧
      ∀ {α : Type} (read : CarriedSpec → α), t.Carries read w (.create env r) := by
  obtain ⟨wo, out, rfl, hw, hok⟩ := hac
  have he := t.coordinator.createWorkload_creates env (some wo)
  have hact : (t.coordinator.createWorkload env (some wo)).1 =
    t.coordinator.act (.create env (some wo)) := rfl
  generalize t.coordinator.createWorkload env (some wo) = result at hok he hact
  cases he with
  | refused hu hst hq hf => exact absurd hok (hf out)
  | unsaved hs hsave hst hq hf => exact absurd hok (hf out)
  | unscheduled hs hsave hfo hp hq hf => exact absurd hok (hf out)
  | started hs hsave hl hp hq hsu =>
    obtain ⟨spec, hb⟩ := Coordinator.state_begins hs.state
    have hspec := hb.submitted
    have ha : revised t.accepted (.create env (some wo)) = some spec.carried := by
      rw [revised, Option.bind_some, hspec, Option.map_some]
    rw [hact] at hp hq
    rw [Coordinator.state_id hs.state, hw] at hp
    refine ⟨kept_of_puts hp ha hb.process.symm hb.resources, ?_⟩
    intro α read
    rw [carries_iff hq, List.forall_mem_map, ha]
    intro d _ _ _ _
    have hca : (runOf wo.identified d).2.workload.spec = some spec := hspec
    rw [hca]
    rfl

lemma update_carries (hk : t.Kept w) (hac : t.Accepts w (.update env r)) : (t.step (.update env r)).Kept w ∧
      ∀ {α : Type} (read : CarriedSpec → α), t.Carries read w (.update env r) := by
  obtain ⟨wo, out, rfl, rfl, hok⟩ := hac
  have he := t.coordinator.updateWorkload_updates env (some wo)
  have hact : (t.coordinator.updateWorkload env (some wo)).1 =
    t.coordinator.act (.update env (some wo)) := rfl
  generalize t.coordinator.updateWorkload env (some wo) = result at hok he hact
  cases he with
  | refused hu hst hq hf => cases hok.symm.trans hf
  | panicked hna hfo hm hp hq hf => cases hok.symm.trans hf
  | denied hna hfo hm hde hp hq hf => cases hok.symm.trans hf
  | unsaved hna hfo hm had hsave hp hq hf => cases hok.symm.trans hf
  | stored hna hfo hm hp hq hs =>
    obtain ⟨old, ho, hpr, hre⟩ := hk _ (Coordinator.found_visible hfo)
    have ha : revised t.accepted (.update env (some wo)) = some (wo.spec.elim old old.merge) := by
      rw [revised, Option.bind_some, ho]
      cases wo.spec <;> rfl
    have hme := mergeUpdate_process hpr hm
    rw [hact] at hp hq
    refine ⟨kept_of_puts hp ha hme ?_, ?_⟩
    · cases wo.spec with
      | none => exact hre
      | some spec =>
        simp only [Option.elim_some, CarriedSpec.merge]
        cases hr : spec.resources with
        | none => exact hre
        | some rs => exact Option.some_ne_none _
    · intro α read
      rw [carries_iff hq, List.forall_mem_map]
      intro re _ _ _ hrun
      exact absurd hrun (by simp [updateOf])

lemma scale_carries {key : String} {n : Int32} (hk : t.Kept w) (hac : t.Accepts w (.scale env key n)) :
    (t.step (.scale env key n)).Kept w ∧ t.Carries CarriedSpec.process w (.scale env key n) ∧
      (t.Carries id w (.scale env key n) ↔ t.StartsNone w (.scale env key n)) := by
  obtain ⟨rfl, out, hok⟩ := hac
  have he := t.coordinator.scaleWorkload_scales env key n
  have hact : (t.coordinator.scaleWorkload env key n).1 = t.coordinator.act (.scale env key n) := rfl
  generalize t.coordinator.scaleWorkload env key n = result at hok he hact
  cases he with
  | refused hu hst hq hf => cases hok.symm.trans hf
  | unsaved hfo hsave hp hq hf => cases hok.symm.trans hf
  | unscheduled hfo hsave hup hfol hp hq hf => cases hok.symm.trans hf
  | @rescaled existing _ hfo hp hq hsu =>
    obtain ⟨spec, ha, hpr, hr⟩ := hk existing (Coordinator.found_visible hfo)
    have hid : existing.id = key := Coordinator.found_id hfo
    rw [hact] at hp hq
    refine ⟨kept_of_puts hp ha hpr hr, ?_⟩
    rw [Coordinator.scaleQueue] at hq
    have hs : t.StartsNone key (.scale env key n) ↔ (existing.currentReplicas < n →
        ∀ d ∈ t.coordinator.scaleDecisions env (existing.scaled n), ¬t.coordinator.Enrolled d.nodeID) := by
      simp only [StartsNone, hfo, Option.some.injEq, forall_eq']
    rw [hs]
    by_cases hup : existing.currentReplicas < n
    · rw [if_pos (show (existing.scaled n).currentReplicas < (existing.scaled n).desiredReplicas from hup),
        ← List.nil_append (List.map _ _)] at hq
      obtain ⟨hsh, hiff⟩ := carries_assigned hq (fun x hx => by cases hx) hid ha hpr hr
      exact ⟨hsh, hiff.trans ⟨fun h _ => h, fun h => h hup⟩⟩
    · rw [if_neg (show ¬(existing.scaled n).currentReplicas < (existing.scaled n).desiredReplicas from hup)] at hq
      have hca : ∀ {α : Type} (read : CarriedSpec → α), t.Carries read key (.scale env key n) := by
        intro α read
        rw [carries_iff hq]
        intro x hx _ _ hrun
        split_ifs at hx
        · obtain ⟨r, -, rfl⟩ := List.mem_map.mp hx
          exact absurd hrun (by simp [stopOf])
        · cases hx
      exact ⟨hca _, iff_of_true (hca id) fun h => absurd h hup⟩

lemma reschedule_carries {key : String} (hk : t.Kept w) (hac : t.Accepts w (.reschedule env key)) :
    (t.step (.reschedule env key)).Kept w ∧ t.Carries CarriedSpec.process w (.reschedule env key) ∧
      (t.Carries id w (.reschedule env key) ↔ t.StartsNone w (.reschedule env key)) := by
  obtain ⟨rfl, out, ho⟩ := hac
  have he := t.coordinator.reschedule_reschedules env key
  have hact : (t.coordinator.reschedule env key).1 = t.coordinator.act (.reschedule env key) := rfl
  generalize t.coordinator.reschedule env key = result at ho he hact
  cases he with
  | unfound hu hs hq hfa => cases ho.symm.trans hfa
  | refused hf hsh hs hq hfa => cases ho.symm.trans hfa
  | @replaced existing _ hf hen hs hq hsu =>
    obtain ⟨s, ha, hp, hr⟩ := hk existing (Coordinator.found_visible hf)
    have hid : existing.id = key := Coordinator.found_id hf
    have hputs := t.coordinator.states.puts_point existing
    rw [← hs, hid, hact] at hputs
    rw [hact] at hq
    have hsto : ∀ x ∈ existing.running.map (stopOf existing.id), x.2.action ≠ "run" := by
      rw [List.forall_mem_map]
      exact fun r _ => by simp [stopOf]
    have hst : t.StartsNone key (.reschedule env key) ↔
        ∀ d ∈ Coordinator.repairDecisions t.coordinator.scheduler env existing, ¬t.coordinator.Enrolled d.nodeID := by
      simp only [StartsNone, hf, Option.some.injEq, forall_eq']
    rw [hst]
    exact ⟨kept_of_puts hputs ha hp hr,
      carries_assigned hq hsto hid ha hp hr⟩

lemma step_carries (hkept : t.Kept w) (ha : t.Accepts w a) :
    (t.step a).Kept w ∧ t.Carries CarriedSpec.process w a ∧ (t.Carries id w a ↔ t.StartsNone w a) := by
  cases a with
  | create env request =>
    obtain ⟨hk, hc⟩ := create_carries ha
    exact ⟨hk, hc _, iff_of_true (hc id) trivial⟩
  | update env request =>
    obtain ⟨hk, hc⟩ := update_carries hkept ha
    exact ⟨hk, hc _, iff_of_true (hc id) trivial⟩
  | scale env key n => exact scale_carries hkept ha
  | reschedule env key => exact reschedule_carries hkept ha
  | delete | reconcile | heartbeat => cases ha

theorem runs_carry_accepted_iff (c : Coordinator) (hnew : c.states.visible w = none) (as : List Action)
    (haccepts : Admissible step (Accepts w) ⟨c, none⟩ as) :
    Admissible step (Carries CarriedSpec.process w) ⟨c, none⟩ as ∧
    (Admissible step (Carries id w) ⟨c, none⟩ as ↔ Admissible step (StartsNone w) ⟨c, none⟩ as) := by
  have hkept : Kept w ⟨c, none⟩ := by
    intro s hs
    cases hnew.symm.trans hs
  constructor
  · refine (admissible_iff (Kept w) ?_ ?_ as hkept haccepts).mp haccepts
    · exact fun t a hk ha _ => (step_carries hk ha).1
    · exact fun t a hk ha => iff_of_true ha (step_carries hk ha).2.1
  · apply admissible_iff (Kept w) ?_ ?_ as hkept haccepts
    · exact fun t a hk ha _ => (step_carries hk ha).1
    · exact fun t a hk ha => (step_carries hk ha).2.2

end Ledger

section Sample

theorem runs_carry_updated : Admissible Ledger.step (Ledger.Carries id "web") ⟨emptyCoordinator, none⟩
    [.create prodEnv (webRequest 1), .update prodEnv (webRequest 1)] := by
  have ha : Admissible Ledger.step (Ledger.Accepts "web") ⟨emptyCoordinator, none⟩
      [.create prodEnv (webRequest 1), .update prodEnv (webRequest 1)] :=
    ⟨⟨_, _, rfl, rfl, rfl⟩, ⟨_, _, rfl, rfl, rfl⟩, trivial⟩
  exact (Ledger.runs_carry_accepted_iff emptyCoordinator rfl _ ha).2.mpr ⟨trivial, trivial, trivial⟩

theorem scaled_run_lacks_resources :
    let t := run Ledger.step ⟨emptyCoordinator, none⟩ [.create prodEnv (webRequest 1), .scale prodEnv "web" 1]
    t.accepted.bind CarriedSpec.resources = some smallResources ∧ (waiting t.coordinator.membership "n1").map
      (fun a => (a.action, a.workload.spec.map ApiSpec.image, a.workload.spec.bind ApiSpec.resources)) =
        [("run", some "nginx:1", some smallResources), ("run", some "nginx:1", none)] := by
  decide +kernel

end Sample

end Cloudless.Coordination
