import Cloudless.Coordinator.Handlers

/-! What a call must leave alone: a rejected update or scaling everything, a creation the records of other workloads. -/

namespace Cloudless.Coordination

open Foundations FiniteMaps GoStd Runs

namespace WorkloadStateManager

lemma getWorkload_congr_iff {m m' : WorkloadStateManager} :
    (∀ id, (m'.getWorkload none id).2 = (m.getWorkload none id).2) ↔ m'.visible = m.visible := by
  constructor
  · intro h
    funext id
    rw [← getWorkload_none, ← getWorkload_none, h]
  · intro h id
    have hr : ∀ m : WorkloadStateManager, (m.getWorkload none id).2 =
        (m.visible id).elim (.error ("failed to read from RAFT: key not found: workload:" ++ id)) .ok := by
      intro m
      unfold getWorkload visible
      cases m.cache.lookup id with
      | some st => rfl
      | none => cases m.store.lookup id <;> rfl
    rw [hr, hr, h]

lemma Puts.visible_eq_iff {m m' : WorkloadStateManager} {id : String} {new old : WorkloadState}
    (h : m.Puts id (some new) m') (ho : m.visible id = some old) : m'.visible = m.visible ↔ new = old := by
  rw [h.visible, Function.update_eq_self_iff, ho, Option.some.injEq]

end WorkloadStateManager

variable (c : Coordinator)

namespace Coordinator

def Untouched (c c' : Coordinator) : Prop :=
  (∀ id, (c'.states.getWorkload none id).2 = (c.states.getWorkload none id).2) ∧ c'.membership = c.membership

/-- The request addresses no workload, or what is merged, and stamped by the save where it comes to one, is what the
workload was already. -/
def MergesNothing (env : Env) (request : Option Workload) : Prop :=
  ∀ w existing state, request = some w → w.id ≠ "" → c.found env w.id = some existing →
    mergeUpdate existing w = some state →
    ((c.admitWorkload env.admission w).2 ≠ .ok () → state = existing) ∧
    ((c.admitWorkload env.admission w).2 = .ok () → state.stamped (env.savedAt 0) = existing)

def ScalesNothing (env : Env) (id : String) (n : Int32) : Prop :=
  ∀ existing, c.found env id = some existing → (existing.scaled n).stamped (env.savedAt 0) = existing

variable {c} {env : Env}

lemma untouched_iff {c' : Coordinator} (h : c.Queues [] c') : c.Untouched c' ↔ c'.states.visible = c.states.visible := by
  rw [Untouched, WorkloadStateManager.getWorkload_congr_iff]
  exact and_iff_left h.membership

lemma rejected_update_untouched_iff {request : Option Workload} {err : String}
    (h : (c.updateWorkload env request).2 = .error err) :
    c.Untouched (c.updateWorkload env request).1 ↔ c.MergesNothing env request := by
  have he := c.updateWorkload_updates env request
  generalize c.updateWorkload env request = out at h he
  cases he with
  | refused hu hst hq hfa =>
    rw [untouched_iff hq, hst]
    refine iff_of_true rfl ?_
    rintro w existing st rfl hid hf
    rcases hu w rfl with hem | hnone
    · exact absurd hem hid
    · cases hf.symm.trans hnone
  | panicked hid hf hm hp hq hfa =>
    rw [hfa] at h
    cases h
  | @denied w existing st _ _ hid hf hm hde hp hq hfa =>
    rw [untouched_iff hq, hp.visible_eq_iff (found_visible hf)]
    constructor
    · rintro hs w' existing' state' ⟨⟩ - hf' hm'
      cases hf.symm.trans hf'
      cases hm.symm.trans hm'
      exact ⟨fun _ => hs, fun hok => absurd hok hde⟩
    · exact fun hno => (hno w existing st rfl hid hf hm).1 hde
  | @unsaved w existing st _ _ hid hf hm ha hsave hp hq hfa =>
    rw [untouched_iff hq, hp.visible_eq_iff (found_visible hf)]
    constructor
    · rintro hs w' existing' state' ⟨⟩ - hf' hm'
      cases hf.symm.trans hf'
      cases hm.symm.trans hm'
      exact ⟨fun hde => absurd ha hde, fun _ => hs⟩
    · exact fun hno => (hno w existing st rfl hid hf hm).2 ha
  | stored hid hf hm hp hq hsu =>
    rw [hsu] at h
    cases h

lemma rejected_scale_untouched_iff {id : String} {n : Int32} {err : String}
    (h : (c.scaleWorkload env id n).2 = .error err) :
    c.Untouched (c.scaleWorkload env id n).1 ↔ c.ScalesNothing env id n := by
  have hef := c.scaleWorkload_scales env id n
  generalize c.scaleWorkload env id n = out at h hef
  have hputs_iff : ∀ {e : WorkloadState}, c.found env id = some e → c.Queues [] out.1 →
      c.states.Puts id (some ((e.scaled n).stamped (env.savedAt 0))) out.1.states →
      (c.Untouched out.1 ↔ c.ScalesNothing env id n) := by
    intro e hf hq hp
    rw [untouched_iff hq, hp.visible_eq_iff (found_visible hf), ScalesNothing, hf]
    exact ⟨fun hsame _ he => Option.some.inj he ▸ hsame, fun ha => ha e rfl⟩
  cases hef with
  | refused hu hst hq hfa =>
    rw [untouched_iff hq, hst, ScalesNothing, hu]
    exact iff_of_true rfl fun _ he => by cases he
  | unsaved hf hsave hp hq hfa => exact hputs_iff hf hq hp
  | unscheduled hf hsave hup hfo hp hq hfa => exact hputs_iff hf hq hp
  | rescaled hf hp hq hs =>
    rw [hs] at h
    cases h

theorem rejected_untouched_iff (c : Coordinator) (env : Env) :
    (∀ request err, (c.updateWorkload env request).2 = .error err →
      (c.Untouched (c.updateWorkload env request).1 ↔ c.MergesNothing env request)) ∧
    ∀ id n err, (c.scaleWorkload env id n).2 = .error err →
      (c.Untouched (c.scaleWorkload env id n).1 ↔ c.ScalesNothing env id n) :=
  ⟨fun _ _ h => rejected_update_untouched_iff h, fun _ _ _ h => rejected_scale_untouched_iff h⟩

end Coordinator

def SaveOutcome.writes : SaveOutcome → Bool
  | .ok => true
  | .error _ applied => applied

structure CreateCall where
  env : Env
  request : Option Workload

def Coordinator.create (call : CreateCall) : Coordinator := (c.createWorkload call.env call.request).1

namespace WorkloadState

def bookkeeping (state : WorkloadState) : List ReplicaState × Int32 × Int32 × Int32 :=
  (state.replicas, state.currentReplicas, state.readyReplicas, state.availableReplicas)

def Restates (state new : WorkloadState) : Prop :=
  ∃ status now, new = ({ state with status := status } : WorkloadState).stamped now

end WorkloadState

namespace WorkloadStateManager

lemma saveShared_store {m : WorkloadStateManager} {now : Time} {o : SaveOutcome} {st : WorkloadState} :
    (m.saveShared now o st).1.store = if o.writes then m.store.insert st.id (st.stamped now) else m.store := by
  unfold saveShared saveWorkload
  cases o with
  | ok => rfl
  | error me a => cases a <;> rfl

end WorkloadStateManager

namespace Coordinator

variable {c} {env : Env} {w : Workload} {st : WorkloadState}

structure Writes (c : Coordinator) (call : CreateCall) (w : Workload) (state : WorkloadState) : Prop where
  request : call.request = some w
  submitted : c.Submits call.env w state
  saved : (call.env.save 0).writes = true

lemma resave_store {s : FMap String WorkloadState} {new : WorkloadState} (hnew : st.Restates new)
    (hc : c.states.store = s.insert st.id new) {now : Time} {o : SaveOutcome} (ss : WorkloadStatus) :
    ∃ new, st.Restates new ∧ (c.resave now o { st with status := ss }).states.store = s.insert st.id new := by
  rw [resave]
  dsimp only
  rw [WorkloadStateManager.saveShared_store, hc]
  split_ifs
  · exact ⟨_, ⟨ss, now, rfl⟩, Finmap.insert_insert ..⟩
  · exact ⟨new, hnew, rfl⟩

lemma startWorkload_store (c : Coordinator) (env : Env) (w : Workload) (st : WorkloadState) :
    (env.save 0).writes = false ∧ (c.startWorkload env w st).1.states.store = c.states.store ∨
    (env.save 0).writes = true ∧ ∃ new, st.Restates new ∧
      (c.startWorkload env w st).1.states.store = c.states.store.insert st.id new := by
  rw [startWorkload]
  cases env.save 0 with
  | error m a =>
    cases a with
    | false => exact .inl ⟨rfl, rfl⟩
    | true => exact .inr ⟨rfl, _, ⟨st.status, env.savedAt 0, rfl⟩, rfl⟩
  | ok =>
    refine .inr ⟨rfl, ?_⟩
    let c₀ : Coordinator := { c with states := (c.states.saveWorkload (env.savedAt 0) .ok st).1 }
    have hf : c₀.states.store = c.states.store.insert st.id (st.stamped (env.savedAt 0)) := rfl
    obtain ⟨new, hnew, hs⟩ := resave_store ⟨st.status, env.savedAt 0, rfl⟩ hf
      .scheduling
    cases env.leadsScheduling with
    | false => exact resave_store hnew hs .failed
    | true =>
      let c₁ := c₀.resave (env.savedAt 1) (env.save 1) { st with status := .scheduling }
      have hq : (c₁.queueRuns w (c₁.scheduleDecisions env st)).states.store =
        c.states.store.insert st.id new := hs
      exact resave_store hnew hq .running

lemma create_store (c : Coordinator) (ca : CreateCall) :
    (¬∃ w st, c.Writes ca w st) ∧ (c.create ca).states.store = c.states.store ∨
    ∃ w st new, c.Writes ca w st ∧ st.Restates new ∧
      (c.create ca).states.store = c.states.store.insert st.id new := by
  by_cases hs : ∃ w st, ca.request = some w ∧ c.Submits ca.env w st
  · obtain ⟨w, st, hr, hs⟩ := hs
    have hcr : c.create ca =
        ((c.admitWorkload ca.env.admission w.identified).1.startWorkload ca.env w.identified st).1 := by
      rw [create, hr, createWorkload_of_admitted hs.leads hs.state hs.admitted]
    have ha := (c.admitWorkload_eq w.identified ca.env.admission).2.1
    rcases (c.admitWorkload ca.env.admission w.identified).1.startWorkload_store ca.env w.identified st with
      ⟨hno, hst⟩ | ⟨hy, new, hnew, hst⟩
    · refine .inl ⟨?_, by rw [hcr, hst, ha]⟩
      rintro ⟨w', s', hw⟩
      cases hno.symm.trans hw.saved
    · exact .inr ⟨w, st, new, ⟨hr, hs, hy⟩, hnew, by rw [hcr, hst, ha]⟩
  · refine .inl ⟨fun ⟨w, st, h⟩ => hs ⟨w, st, h.request, h.submitted⟩, ?_⟩
    have he := c.createWorkload_creates ca.env ca.request
    rw [create]
    generalize hr : ca.request = request at he
    generalize c.createWorkload ca.env request = out at he
    cases he with
    | refused hu hsta hq hf => rw [hsta]
    | unsaved hsub => exact absurd ⟨_, _, hr, hsub⟩ hs
    | unscheduled hsub => exact absurd ⟨_, _, hr, hsub⟩ hs
    | started hsub => exact absurd ⟨_, _, hr, hsub⟩ hs

/-- A record of another workload stays as it is, and a live one of the same workload keeps what is known about its
replicas. -/
def Preserves (c : Coordinator) (call : CreateCall) : Prop :=
  ∀ w id old, call.request = some w → c.states.store.lookup id = some old →
    ((old.ns, old.name) ≠ (w.ns, w.name) → (c.create call).states.store.lookup id = some old) ∧
    ((old.ns, old.name) = (w.ns, w.name) → old.deletedAt = none →
      ((c.create call).states.store.lookup id).map WorkloadState.bookkeeping = some old.bookkeeping)

def Unclaimed (c : Coordinator) (call : CreateCall) : Prop :=
  ∀ w state old, c.Writes call w state → c.states.store.lookup state.id = some old →
    (old.ns, old.name) = (w.ns, w.name) ∧ (old.deletedAt = none → old.bookkeeping = ([], 0, 0, 0))

lemma preserves_iff (c : Coordinator) (call : CreateCall) : c.Preserves call ↔ c.Unclaimed call := by
  rcases c.create_store call with ⟨hnot, hs⟩ | ⟨w, st, new, hw, ⟨ss, now, rfl⟩, hs⟩
  · refine iff_of_true ?_ fun w st old hw => absurd ⟨w, st, hw⟩ hnot
    intro w id old hr hold
    rw [hs, hold]
    exact ⟨fun _ => rfl, fun _ _ => rfl⟩
  · obtain ⟨spec, hb⟩ := state_begins hw.submitted.state
    have hname := hb.name
    have hf : st.bookkeeping = ([], 0, 0, 0) := by
      rw [WorkloadState.bookkeeping, hb.replicas, hb.counters]
    constructor
    · intro h w' s' old hw' hold
      cases hw.request.symm.trans hw'.request
      cases hw.submitted.state.symm.trans hw'.submitted.state
      obtain ⟨ho, hsame⟩ := h w st.id old hw.request hold
      rw [hs, lookup_insert_if, if_pos rfl] at ho hsame
      have heq : (old.ns, old.name) = (w.ns, w.name) := by
        by_contra hne
        rw [← Option.some.inj (ho hne)] at hne
        exact hne hname
      refine ⟨heq, fun hl => ?_⟩
      rwa [← Option.some.inj (hsame heq hl)]
    · intro h w' id old hr hold
      cases hw.request.symm.trans hr
      rw [hs, lookup_insert_if]
      split_ifs with hid
      · rw [hid] at hold
        obtain ⟨heq, hbook⟩ := h w st old hw hold
        refine ⟨fun hne => absurd heq hne, fun _ hl => ?_⟩
        rw [hbook hl]
        exact congrArg some hf
      · rw [hold]
        exact ⟨fun _ => rfl, fun _ _ => rfl⟩

theorem creations_preserve_iff (c : Coordinator) (calls : List CreateCall) :
    Admissible create Preserves c calls ↔ Admissible create Unclaimed c calls :=
  admissible_iff (fun _ => True) (fun _ _ _ _ _ => trivial) (fun c call _ _ => c.preserves_iff call) calls trivial
    (admissible_of_forall (fun _ => True) calls (fun _ _ => trivial) c)

end Coordinator

section Sample

theorem creation_replaces_other :
    let request := fun ns name : String => (some
      { ns := ns, name := name, spec := some { image := name, resources := some smallResources } } : Option Workload)
    let c₁ := webCoordinator.create ⟨prodEnv, request "a" "b-c"⟩
    let c₂ := c₁.create ⟨prodEnv, request "a-b" "c"⟩
    (c₁.states.store.lookup "a-b-c").map (fun state => (state.ns, state.name, state.image)) = some ("a", "b-c", "b-c") ∧
    (c₂.states.store.lookup "a-b-c").map (fun state => (state.ns, state.name, state.image)) = some ("a-b", "c", "c") ∧
    ((webCoordinator.states.store.lookup "w").map fun state => (state.ns, state.name, state.replicas.length)) =
      some ("default", "web", 1) ∧
    let again := webCoordinator.create ⟨prodEnv, (request "default" "web").map fun w => { w with id := "w" }⟩
    (again.states.store.lookup "w").map (fun state => (state.ns, state.name, state.replicas.length)) =
      some ("default", "web", 0) := by
  decide +kernel

def timedOutEnv : Env := { prodEnv with save := fun _ => .error "timeout" false }

def timedOutCoordinator : Coordinator :=
  ((prodCoordinator.createWorkload prodEnv (some (prodWorkload "nginx:1"))).1.updateWorkload timedOutEnv
    (some (prodWorkload "nginx:1"))).1

/-- An update that is repeated after its save has failed. -/
theorem repeated_update_untouched : timedOutCoordinator.Untouched
    (timedOutCoordinator.updateWorkload timedOutEnv (some (prodWorkload "nginx:1"))).1 := by
  refine ((timedOutCoordinator.rejected_untouched_iff timedOutEnv).1 (some (prodWorkload "nginx:1")) _ rfl).mpr ?_
  rintro w existing state ⟨⟩ - hf hm
  cases hf
  cases hm
  exact ⟨fun _ => rfl, fun _ => rfl⟩

theorem denied_update_visible : let c := (prodCoordinator.createWorkload prodEnv (some (prodWorkload "nginx:1"))).1
    let out := c.updateWorkload prodEnv (some (prodWorkload "untrusted.io/miner:1"))
    (match out.2 with | .error _ => true | _ => false) = true ∧
    (c.states.getWorkload none "w").2.toOption.map WorkloadState.image = some "nginx:1" ∧
    (out.1.states.getWorkload none "w").2.toOption.map WorkloadState.image = some "untrusted.io/miner:1" := by
  decide +kernel

end Sample

end Cloudless.Coordination
