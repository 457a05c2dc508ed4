import Cloudless.Coordinator.Admission
import Cloudless.Policy.Cache

/-! Chains of creations and updates: the state a request saves against the specification its admission looked at. -/

namespace Cloudless.Coordination

open Foundations FiniteMaps GoStd Runs WorkloadStateManager
open Cloudless.Policies (Traced)

/-- A saved state as policies would see it; the state does not keep the source of a volume. -/
def WorkloadState.policySpec (state : WorkloadState) : Policies.WorkloadSpec where
  name := state.name
  ns := state.ns
  image := state.image
  command := state.command
  args := state.args
  env := state.env
  labels := state.labels
  annotations := state.annotations
  cpuRequest := state.resources.requests.cpuMillicores
  memoryRequest := state.resources.requests.memoryBytes
  cpuLimit := state.resources.limits.cpuMillicores
  memoryLimit := state.resources.limits.memoryBytes
  volumes := state.volumes.map fun v => ⟨v.name, "", "", v.mountPath, v.readOnly⟩
  ports := state.ports.map fun p => ⟨p.name, p.containerPort, p.protocol, 0⟩
  nodeSelector := state.placement.nodeSelector
  region := state.placement.regions.head?.getD ""
  zone := state.placement.zones.head?.getD ""

inductive Request
  | create (env : Env) (workload : Workload)
  | update (env : Env) (workload : Workload)

namespace Request

def env : Request → Env
  | create env _ => env
  | update env _ => env

def workload : Request → Workload
  | create _ workload => workload
  | update _ workload => workload

def id : Request → String
  | create _ workload => workloadID workload
  | update _ workload => workload.id

def merged (c : Coordinator) : Request → Option WorkloadState
  | create env workload => if env.isLeader then workload.state else none
  | update env workload =>
    if env.isLeader ∧ workload.id ≠ "" then
      ((c.states.getWorkload env.readError workload.id).2.toOption).bind fun existing => mergeUpdate existing workload
    else none

end Request

def Coordinator.handle (c : Coordinator) : Request → Coordinator × Response Workload
  | .create env workload => c.createWorkload env (some workload)
  | .update env workload => c.updateWorkload env (some workload)

def WorkloadStateManager.Holds (m : WorkloadStateManager) (state : WorkloadState) : Prop :=
  ∃ s, m.store.lookup state.id = some s ∧ s.policySpec = state.policySpec

section Saving

variable {m : WorkloadStateManager} {state s : WorkloadState}

lemma holds_write (hid : s.id = state.id) (hs : s.policySpec = state.policySpec) : (m.write s).Holds state := by
  refine ⟨s, ?_, hs⟩
  rw [write, lookup_insert_if, if_pos hid.symm]

lemma holds_saveWorkload_ok {now : Time} : (m.saveWorkload now .ok state).1.Holds state :=
  holds_write (s := state.stamped now) rfl rfl

lemma WorkloadStateManager.Holds.resave {c : Coordinator} (h : c.states.Holds state) (now : Time) (o : SaveOutcome)
    (hid : s.id = state.id) (hs : s.policySpec = state.policySpec) : (c.resave now o s).states.Holds state := by
  cases o with
  | ok => exact holds_write (m := c.states) (s := s.stamped now) hid hs
  | error me a =>
    cases a with
    | false => exact h
    | true => exact holds_write (m := c.states) (s := s.stamped now) hid hs

end Saving

namespace Coordinator

variable {c : Coordinator} {env : Env} {workload : Workload} {state : WorkloadState}

lemma admitWorkload_policyEngine (c : Coordinator) (workload : Workload) (ca : Policies.Call) :
    (c.admitWorkload ca workload).1.policyEngine = c.policyEngine.map fun e =>
      (e.evaluate ca (convertToPolicyWorkloadSpec workload)).1 := by
  rw [admitWorkload]
  cases he : c.policyEngine with
  | none => simp [he]
  | some e => rfl

lemma startWorkload_policyEngine : (c.startWorkload env workload state).1.policyEngine = c.policyEngine := by
  rw [startWorkload]
  cases env.save 0 with
  | error me a => rfl
  | ok => cases env.leadsScheduling <;> rfl

lemma storeUpdate_policyEngine : (c.storeUpdate env workload state).1.policyEngine = c.policyEngine := by
  rw [storeUpdate]
  cases env.save 0 <;> rfl

lemma startWorkload_holds {a : Workload} (h : (c.startWorkload env workload state).2 = .ok a) :
    (c.startWorkload env workload state).1.states.Holds state := by
  rw [startWorkload] at h ⊢
  cases hsave : env.save 0 with
  | error me ap => simp [hsave, saveWorkload] at h
  | ok =>
    cases hs : env.leadsScheduling with
    | false => simp [hsave, hs, saveWorkload] at h
    | true =>
      let c₁ : Coordinator := { c with states := (c.states.saveWorkload (env.savedAt 0) .ok state).1 }
      let c₂ := c₁.resave (env.savedAt 1) (env.save 1) { state with status := .scheduling }
      have h₁ : c₁.states.Holds state := holds_saveWorkload_ok
      have h₂ : (c₂.queueRuns workload (c₂.scheduleDecisions env state)).states.Holds state :=
        h₁.resave (env.savedAt 1) (env.save 1) rfl rfl
      exact h₂.resave (env.savedAt 2) (env.save 2) rfl rfl

lemma storeUpdate_holds {a : Workload} (h : (c.storeUpdate env workload state).2 = .ok a) :
    (c.storeUpdate env workload state).1.states.Holds state := by
  rw [storeUpdate] at h ⊢
  cases hs : env.save 0 with
  | error me ap => simp [hs, saveShared, saveWorkload] at h
  | ok => exact holds_saveWorkload_ok

lemma getWorkload_id {m : WorkloadStateManager} {re : Option String} {id : String}
    (h : (m.getWorkload re id).2 = .ok state) : state.id = id := by
  rcases m.getWorkload_cases re id with ⟨err, hg, -⟩ | ⟨f, hg, hv⟩
  · rw [hg] at h
    cases h
  · rw [hg] at h
    cases h
    exact visible_id hv

lemma mergeUpdate_frame {e : WorkloadState} (h : mergeUpdate e workload = some state) :
    state.id = e.id ∧ state.replicas = e.replicas ∧ state.currentReplicas = e.currentReplicas ∧
      state.deletedAt = e.deletedAt := by
  simp only [mergeUpdate, Option.map_eq_some_iff] at h
  obtain ⟨me, hm, rfl⟩ := h
  cases hs : workload.spec with
  | none =>
    simp only [hs, Option.map_none, Option.getD_none, Option.some.injEq] at hm
    rw [← hm]
    exact ⟨rfl, rfl, rfl, rfl⟩
  | some sp =>
    simp only [hs, Option.map_some, Option.getD_some, mergeSpec] at hm
    cases hr : sp.resources with
    | none =>
      simp only [hr, Option.some.injEq] at hm
      rw [← hm]
      exact ⟨rfl, rfl, rfl, rfl⟩
    | some rs =>
      simp only [hr, Option.map_eq_some_iff] at hm
      obtain ⟨rs, -, rfl⟩ := hm
      exact ⟨rfl, rfl, rfl, rfl⟩

structure Begins (workload : Workload) (spec : ApiSpec) (state : WorkloadState) : Prop where
  submitted : workload.spec = some spec
  resources : spec.resources ≠ none
  id : state.id = workloadID workload
  name : (state.ns, state.name) = (workload.ns, workload.name)
  process : (state.image, state.command, state.args, state.env) = (spec.image, spec.command, spec.args, spec.env)
  replicas : state.replicas = []
  counters : (state.currentReplicas, state.readyReplicas, state.availableReplicas) = (0, 0, 0)
  alive : state.deletedAt = none

lemma state_begins (h : workload.state = some state) : ∃ sp, Begins workload sp state := by
  simp only [Workload.state, Option.bind_eq_some_iff, newState, Option.map_eq_some_iff] at h
  obtain ⟨sp, hs, rs, ⟨g, hg, -⟩, rfl⟩ := h
  refine ⟨sp, hs, ?_, rfl, rfl, rfl, rfl, rfl, rfl⟩
  rw [hg]
  exact Option.some_ne_none _

lemma state_id (h : workload.state = some state) : state.id = workloadID workload := by
  obtain ⟨sp, hb⟩ := state_begins h
  exact hb.id

variable {r : Request}

lemma merged_id (h : r.merged c = some state) : state.id = r.id := by
  cases r with
  | create env workload =>
    simp only [Request.merged] at h
    split_ifs at h
    exact state_id h
  | update env workload =>
    simp only [Request.merged] at h
    split_ifs at h
    obtain ⟨e, he, hm⟩ := Option.bind_eq_some_iff.mp h
    cases hg : (c.states.getWorkload env.readError workload.id).2 with
    | error err =>
      rw [hg] at he
      cases he
    | ok f =>
      rw [hg] at he
      cases he
      exact (mergeUpdate_frame hm).1.trans (getWorkload_id hg)

lemma admitWorkload_allowed {ca : Policies.Call} (h : (c.admitWorkload ca workload).2 = .ok ())
    {e : Policies.Engine} (he : c.policyEngine = some e) : ∃ r,
      (e.evaluate ca (convertToPolicyWorkloadSpec workload)).2 = .ok r ∧ r.allowed = true := by
  simp only [admitWorkload, he] at h
  cases hr : (e.evaluate ca (convertToPolicyWorkloadSpec workload)).2 with
  | error err => simp [hr] at h
  | ok r =>
    cases ha : r.allowed with
    | false => simp [hr, ha] at h
    | true => exact ⟨r, rfl, ha⟩

lemma handle_of_merged_none (h : r.merged c = none) :
    (∀ a, (c.handle r).2 ≠ .ok a) ∧ (c.handle r).1.policyEngine = c.policyEngine := by
  cases r with
  | create env workload =>
    simp only [Request.merged, Workload.state] at h
    simp only [handle, createWorkload]
    cases hl : env.isLeader with
    | false => simp
    | true =>
      cases hs : workload.spec with
      | none => simp
      | some sp =>
        simp only [hl, hs, if_true, Option.bind_some] at h
        simp [h]
  | update env workload =>
    simp only [Request.merged] at h
    simp only [handle, updateWorkload]
    cases hl : env.isLeader with
    | false => simp
    | true =>
      by_cases hid : workload.id = ""
      · simp [hid]
      · cases hg : (c.states.getWorkload env.readError workload.id).2 with
        | error err => simp [hid]
        | ok e =>
          simp only [hl, hid, hg, ne_eq, not_false_eq_true, and_self, if_true, Except.toOption, Option.bind_some] at h
          simp [hid, h]

lemma handle_of_merged_some (h : r.merged c = some state) : (c.handle r).1.policyEngine =
      (c.policyEngine.map fun e => (e.evaluate r.env.admission (convertToPolicyWorkloadSpec r.workload)).1) ∧
    ∀ a, (c.handle r).2 = .ok a → (c.handle r).1.states.Holds state ∧ ∀ e, c.policyEngine = some e → ∃ re,
        (e.evaluate r.env.admission (convertToPolicyWorkloadSpec r.workload)).2 = .ok re ∧ re.allowed = true := by
  cases r with
  | create env workload =>
    simp only [Request.merged] at h
    split_ifs at h with hl
    obtain ⟨sp, hspec, hs⟩ := Option.bind_eq_some_iff.mp h
    have hen := c.admitWorkload_policyEngine workload.identified env.admission
    simp only [handle, createWorkload, hl, hspec, hs, Bool.not_true, Bool.false_eq_true, if_false, Request.env,
      Request.workload]
    cases ha : (c.admitWorkload env.admission workload.identified).2 with
    | error err => exact ⟨hen, fun a ho => by cases ho⟩
    | ok u =>
      refine ⟨startWorkload_policyEngine.trans hen, ?_⟩
      intro a ho
      exact ⟨startWorkload_holds ho, fun e he => admitWorkload_allowed ha he⟩
  | update env workload =>
    simp only [Request.merged] at h
    split_ifs at h with hl
    obtain ⟨ex, hex, hm⟩ := Option.bind_eq_some_iff.mp h
    cases hg : (c.states.getWorkload env.readError workload.id).2 with
    | error err =>
      rw [hg] at hex
      cases hex
    | ok f =>
      rw [hg] at hex
      cases hex
      let c₁ : Coordinator := { c with states := (c.states.getWorkload env.readError workload.id).1.point state }
      have hen := c₁.admitWorkload_policyEngine workload env.admission
      simp only [handle, updateWorkload, hl.1, hl.2, hg, hm, Bool.not_true, Bool.false_eq_true, if_false,
        Request.env, Request.workload]
      cases ha : (c₁.admitWorkload env.admission workload).2 with
      | error err => exact ⟨hen, fun a ho => by cases ho⟩
      | ok u =>
        refine ⟨storeUpdate_policyEngine.trans hen, ?_⟩
        intro a ho
        exact ⟨storeUpdate_holds ho, fun e he => admitWorkload_allowed (c := c₁) ha he⟩

end Coordinator

structure Audited where
  coordinator : Coordinator
  origins : FMap String Policies.WorkloadSpec := ∅

namespace Audited

def event (r : Request) : Policies.Event := .evaluate r.env.admission (convertToPolicyWorkloadSpec r.workload)

variable (t : Audited)

def step (r : Request) : Audited where
  coordinator := (t.coordinator.handle r).1
  origins :=
    match t.coordinator.policyEngine, r.merged t.coordinator with
    | some e, some _ => (Traced.step ⟨e, t.origins⟩ (event r)).origins
    | _, _ => t.origins

def Lists (r : Request) : Prop := t.coordinator.ListsPolicies r.env.admission

def Sound : Prop :=
  ∀ e, t.coordinator.policyEngine = some e → e.config.cacheEnabled = true → Traced.Faithful ⟨e, t.origins⟩

/-- The request shows its admission what it saves: in every field that policies read, the specification submitted is
the one of the merged state, and no live verdict on another specification stands in its cache slot. -/
def Discloses (r : Request) : Prop :=
  ∀ state, r.merged t.coordinator = some state →
    (convertToPolicyWorkloadSpec r.workload).view = state.policySpec.view ∧
    ∀ e, t.coordinator.policyEngine = some e →
      Traced.Meets ⟨e, t.origins⟩ r.env.admission.now (convertToPolicyWorkloadSpec r.workload)

variable {t}

lemma Sound.step (h : t.Sound) (r : Request) (hl : t.Lists r) : (t.step r).Sound := by
  intro e' he' hc'
  cases hm : r.merged t.coordinator with
  | none =>
    simp only [Audited.step, (Coordinator.handle_of_merged_none hm).2] at he'
    have hf := h e' he' hc'
    simpa only [Audited.step, hm, he'] using hf
  | some state =>
    simp only [Audited.step, (Coordinator.handle_of_merged_some hm).1] at he'
    obtain ⟨e, he, rfl⟩ := Option.map_eq_some_iff.mp he'
    rw [(e.evaluate_config _ _).1] at hc'
    have hf := ((h e he hc').step hc' (event r) (hl e he)).1
    simp only [Audited.step, hm, he]
    exact hf

lemma sound_run (t : Audited) (h : t.Sound) (rs : List Request) (ha : Admissible step Lists t rs) :
    (run step t rs).Sound :=
  run_invariant Sound (fun _ r h hl => h.step r hl) rs h ha

def Governed (e₀ : Policies.Engine) (t : Audited) : Prop :=
  ∃ e, t.coordinator.policyEngine = some e ∧ e.policies = e₀.policies ∧ e.config = e₀.config ∧
    e.evaluator = e₀.evaluator

lemma Governed.step {e₀ : Policies.Engine} (h : t.Governed e₀) (r : Request) : (t.step r).Governed e₀ := by
  obtain ⟨e, he, hp, hc, hev⟩ := h
  cases hm : r.merged t.coordinator with
  | none => exact ⟨e, by rw [Audited.step, (Coordinator.handle_of_merged_none hm).2, he], hp, hc, hev⟩
  | some state =>
    obtain ⟨hc', hp', he'⟩ := e.evaluate_config r.env.admission (convertToPolicyWorkloadSpec r.workload)
    refine ⟨_, ?_, hp'.trans hp, hc'.trans hc, he'.trans hev⟩
    rw [Audited.step, (Coordinator.handle_of_merged_some hm).1, he]
    rfl

lemma allowed_uncached (h : t.Sound) {e : Policies.Engine} (he : t.coordinator.policyEngine = some e)
    {r : Request} (hl : t.Lists r) (hd : t.Discloses r) {state : WorkloadState}
    (hm : r.merged t.coordinator = some state) {result result' : Policies.EvaluationResult} {call : Policies.Call}
    (hr : (e.evaluate r.env.admission (convertToPolicyWorkloadSpec r.workload)).2 = .ok result)
    (ha : result.allowed = true) (hl' : Enumerates call.policies e.policies)
    (hr' : Policies.evaluateUncached e.evaluator e.config call state.policySpec = .ok result') :
    result'.allowed = true := by
  obtain ⟨hv, hme⟩ := hd state hm
  rw [← Policies.evaluateUncached_view hv] at hr'
  have hag : result.Agrees result' := by
    cases hc : e.config.cacheEnabled with
    | true => exact (h e he hc).agrees hc (hl e he) (hme e he) hr hl' hr'
    | false =>
      rw [Policies.Engine.evaluate_cacheOff hc] at hr
      exact Policies.evaluateUncached_agrees (hl e he) hl' hr hr'
  rw [← hag.1, ha]

theorem saved_state_allowed (c : Coordinator) (e : Policies.Engine) (he : c.policyEngine = some e)
    (hcache : e.cache = ∅) (requests : List Request) (r : Request) (a : Workload)
    (ha : Admissible step Lists { coordinator := c } (requests ++ [r]))
    (hd : (run step { coordinator := c } requests).Discloses r)
    (hok : ((run step { coordinator := c } requests).coordinator.handle r).2 = .ok a) :
    ∃ state, ((run step { coordinator := c } requests).coordinator.handle r).1.states.store.lookup r.id = some state ∧
      ∀ call result, Enumerates call.policies e.policies →
        (e.withoutCache.evaluate call state.policySpec).2 = .ok result → result.allowed = true := by
  rw [admissible_append] at ha
  have hso : Sound { coordinator := c } := by
    intro e' he' _ key ca hk
    cases he.symm.trans he'
    simp [hcache] at hk
  have hs := sound_run _ hso requests ha.1
  obtain ⟨e', he', hp, hc, hev⟩ : (run step { coordinator := c } requests).Governed e :=
    run_preserves (Governed e) requests (fun _ r _ h => h.step r) ⟨e, he, rfl, rfl, rfl⟩
  have hl := ha.2.1
  generalize run step _ requests = t at hs he' hl hd hok ⊢
  cases hm : r.merged t.coordinator with
  | none => exact absurd hok ((Coordinator.handle_of_merged_none hm).1 a)
  | some me =>
    obtain ⟨⟨state, hst, hspec⟩, had⟩ := (Coordinator.handle_of_merged_some hm).2 a hok
    obtain ⟨result, hr, hal⟩ := had e' he'
    refine ⟨state, by rw [← Coordinator.merged_id hm, hst], ?_⟩
    intro call r' hl' hr'
    rw [Policies.Engine.evaluate_withoutCache, hspec, ← hev, ← hc] at hr'
    exact allowed_uncached hs he' hl hd hm hr hal (hp ▸ hl') hr'

end Audited

section Sample

def prodPolicy : Policies.Policy where
  name := "prod-registries"
  ns := "*"
  enabled := true
  priority := 100
  rules :=
    [{ name := "no-privileged", type := .privilegedMode },
     { name := "no-untrusted", type := .imageRegistry
       config := (∅ : FMap String Policies.Value).insert "denied_registries" (.list [.string "untrusted.io"])
       conditions := [⟨"namespace", .equal, .string "prod"⟩] }]
  action := .deny

def prodEngine : Policies.Engine where
  config := ⟨.deny, true, 300000000000⟩
  evaluator := ⟨id, (· == ·)⟩
  policies := (∅ : FMap String Policies.Policy).insert prodPolicy.name prodPolicy

def prodCoordinator : Coordinator where
  policyEngine := some prodEngine
  membership := Scheduler.idleCluster
  scheduler := Scheduler.binpackConfig

def prodEnv : Env where
  admission := ⟨[(prodPolicy.name, prodPolicy)], plainRuntime, 0, 0, fun _ => false⟩
  rt := plainRuntime
  clock := fun _ => 0
  nodes := [Scheduler.idleNode]

def prodWorkload (image : String) : Workload where
  id := "w"
  name := "web"
  ns := "prod"
  spec := some { image := image, resources := some smallResources, replicas := 1 }

lemma prodEnv_lists {requests : List Request} (h : ∀ r ∈ requests, r.env = prodEnv) {t : Audited}
    (ht : t.Governed prodEngine) : Admissible Audited.step Audited.Lists t requests := by
  induction requests generalizing t with
  | nil => trivial
  | cons r requests ih =>
    refine ⟨?_, ih (fun r' hr' => h r' (List.mem_cons_of_mem _ hr')) (ht.step r)⟩
    intro e he
    obtain ⟨e', he', hp, -⟩ := ht
    cases he.symm.trans he'
    rw [h r (List.mem_cons_self ..), hp]
    exact enumerates_singleton prodPolicy.name prodPolicy

def created : List Request := [.create prodEnv (prodWorkload "nginx:1")]

theorem saved_state_allowed_full_update :
    ∃ state result, ((run Audited.step { coordinator := prodCoordinator } created).coordinator.handle
        (.update prodEnv (prodWorkload "nginx:2"))).1.states.store.lookup "w" = some state ∧
      state.image = "nginx:2" ∧ (prodEngine.withoutCache.evaluate prodEnv.admission state.policySpec).2 = .ok result ∧
      result.allowed = true := by
  have hd : (run Audited.step { coordinator := prodCoordinator } created).Discloses
      (.update prodEnv (prodWorkload "nginx:2")) := by
    rintro state ⟨⟩
    refine ⟨rfl, ?_⟩
    rintro e ⟨⟩ cached hk
    cases hk
  have ha : Admissible Audited.step Audited.Lists { coordinator := prodCoordinator }
      (created ++ [.update prodEnv (prodWorkload "nginx:2")]) :=
    prodEnv_lists (by simp [created, Request.env]) ⟨prodEngine, rfl, rfl, rfl, rfl⟩
  obtain ⟨state, hs, hal⟩ := Audited.saved_state_allowed prodCoordinator prodEngine rfl rfl created
    (.update prodEnv (prodWorkload "nginx:2")) _ ha hd rfl
  have hst := hs
  cases hs
  exact ⟨_, _, hst, rfl, rfl, hal prodEnv.admission _ (enumerates_singleton prodPolicy.name prodPolicy) rfl⟩

theorem partial_update_circumvents_policy :
    let c := (run Audited.step { coordinator := prodCoordinator } created).coordinator
    let out := c.handle (.update prodEnv { id := "w", spec := some { image := "untrusted.io/miner:1" } })
    (∃ a, out.2 = .ok a) ∧ (out.1.states.store.lookup "w").map (fun state =>
      (prodEngine.withoutCache.evaluate prodEnv.admission state.policySpec).2.map Policies.EvaluationResult.allowed) =
      some (.ok false) :=
  ⟨⟨_, rfl⟩, rfl⟩

end Sample

end Cloudless.Coordination
