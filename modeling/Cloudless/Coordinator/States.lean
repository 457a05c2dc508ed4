import Cloudless.Coordinator.Workloads

namespace Cloudless.Coordination

open Foundations FiniteMaps GoStd MapLoops

lemma erase_keyed {m : FMap String WorkloadState} (h : ∀ id state, m.lookup id = some state → state.id = id)
    {old : String} : ∀ id state, (m.erase old).lookup id = some state → state.id = id := by
  intro id state hs
  rw [lookup_erase_if] at hs
  split_ifs at hs
  exact h id state hs

namespace WorkloadState

def deleted (now : Time) (state : WorkloadState) : WorkloadState :=
  { state with deletedAt := some now, status := .deleting }

def hasLabels (labels : FMap String String) (state : WorkloadState) : Bool :=
  !hasEntry (fun key value => (state.labels.lookup key).getD "" != value) labels

@[simp] lemma hasLabels_empty (state : WorkloadState) : state.hasLabels ∅ = true := by
  rw [hasLabels, hasEntry_empty, Bool.not_false]

@[simp] lemma stamped_id (now : Time) (state : WorkloadState) : (state.stamped now).id = state.id := rfl

end WorkloadState

namespace WorkloadStateManager

variable (m : WorkloadStateManager)

def forget (id : String) : WorkloadStateManager :=
  { m with cache := m.cache.erase id, cache_keyed := erase_keyed m.cache_keyed }

def remove (id : String) : WorkloadStateManager :=
  { m with store := m.store.erase id, store_keyed := erase_keyed m.store_keyed }

def deleteWorkload (readError : Option String) (now savedAt : Time) (outcome : SaveOutcome)
    (workloadID : String) : WorkloadStateManager × Except String Unit :=
  let found := m.getWorkload readError workloadID
  match found.2 with
  | .error err => (found.1, .error err)
  | .ok state => found.1.saveShared savedAt outcome (state.deleted now)

def purgeWorkload (outcome : SaveOutcome) (workloadID : String) : WorkloadStateManager × Except String Unit :=
  match outcome with
  | .ok => ((m.remove workloadID).forget workloadID, .ok ())
  | .error message applied =>
    (if applied then m.remove workloadID else m, .error ("failed to delete from RAFT: " ++ message))

def listWorkloads (order : MapOrder) (ns : String) (labels : FMap String String) : List WorkloadState :=
  ((order.entries m.cache).map Prod.snd).filter fun state =>
    state.deletedAt.isNone && (ns = "" || state.ns = ns) && state.hasLabels labels

def visible (id : String) : Option WorkloadState := (m.cache.lookup id).or (m.store.lookup id)

variable {m} {id : String} {state : WorkloadState}

lemma visible_id (h : m.visible id = some state) : state.id = id := by
  rw [visible, Option.or_eq_some_iff] at h
  rcases h with h | ⟨-, h⟩
  · exact m.cache_keyed id state h
  · exact m.store_keyed id state h

lemma point_of_cached (h : m.cache.lookup id = some state) : m.point state = m := by
  have hid := m.cache_keyed id state h
  obtain ⟨s, c, hs, hca⟩ := m
  simp only [point, mk.injEq, true_and]
  apply insert_lookup_self
  rwa [hid]

lemma getWorkload_cases (m : WorkloadStateManager) (re : Option String) (id : String) :
    (∃ err, m.getWorkload re id = (m, .error err) ∧ (re = none → m.visible id = none)) ∨
    ∃ state, m.getWorkload re id = (m.point state, .ok state) ∧ m.visible id = some state := by
  unfold getWorkload visible
  cases hc : m.cache.lookup id with
  | some state =>
    refine .inr ⟨state, ?_, rfl⟩
    rw [point_of_cached hc]
  | none =>
    cases re with
    | some me => exact .inl ⟨_, rfl, fun h => by cases h⟩
    | none =>
      cases hs : m.store.lookup id with
      | none => exact .inl ⟨_, rfl, fun _ => rfl⟩
      | some state => exact .inr ⟨state, rfl, rfl⟩

lemma getWorkload_none (m : WorkloadStateManager) (id : String) :
    (m.getWorkload none id).2.toOption = m.visible id := by
  rcases m.getWorkload_cases none id with ⟨err, h, hv⟩ | ⟨state, h, hv⟩
  · rw [h, hv rfl]
    rfl
  · rw [h, hv]
    rfl

lemma visible_point (m : WorkloadStateManager) (state : WorkloadState) (id : String) :
    (m.point state).visible id = if id = state.id then some state else m.visible id := by
  simp only [visible, point, lookup_insert_if]
  split_ifs <;> rfl

lemma visible_getWorkload (m : WorkloadStateManager) (re : Option String) (id : String) :
    (m.getWorkload re id).1.visible = m.visible := by
  rcases m.getWorkload_cases re id with ⟨err, h, -⟩ | ⟨state, h, hv⟩
  · rw [h]
  · rw [h]
    funext j
    rw [visible_point, visible_id hv]
    split_ifs with hj
    · rw [hj, hv]
    · rfl

lemma visible_saveShared (m : WorkloadStateManager) (now : Time) (o : SaveOutcome) (state : WorkloadState)
    (id : String) :
    (m.saveShared now o state).1.visible id = if id = state.id then some (state.stamped now) else m.visible id := by
  unfold saveShared saveWorkload
  cases o with
  | ok =>
    simp only [visible, point, write, lookup_insert_if, WorkloadState.stamped_id]
    split_ifs <;> rfl
  | error me a =>
    cases a with
    | false => exact visible_point m (state.stamped now) id
    | true =>
      simp only [visible, point, write, lookup_insert_if, WorkloadState.stamped_id, if_true]
      split_ifs <;> rfl

lemma saveShared_eq_ok {now : Time} {o : SaveOutcome} : (m.saveShared now o state).2 = .ok () ↔ o = .ok := by
  unfold saveShared saveWorkload
  cases o <;> simp

lemma mem_listWorkloads {o : MapOrder} {ns : String} {ls : FMap String String} :
    state ∈ m.listWorkloads o ns ls ↔ m.cache.lookup state.id = some state ∧ state.deletedAt = none ∧
      (ns = "" ∨ state.ns = ns) ∧ state.hasLabels ls = true := by
  rw [listWorkloads, List.mem_filter, o.mem_values m.cache_keyed]
  simp only [Bool.and_eq_true, Bool.or_eq_true, decide_eq_true_eq, Option.isNone_iff_eq_none, and_assoc]

lemma mem_listWorkloads_all {o : MapOrder} :
    state ∈ m.listWorkloads o "" ∅ ↔ m.cache.lookup state.id = some state ∧ state.deletedAt = none := by
  rw [mem_listWorkloads, WorkloadState.hasLabels_empty]
  simp

end WorkloadStateManager

namespace WorkloadStateManager

def cached (m : WorkloadStateManager) (id : String) : Option WorkloadState := m.cache.lookup id

structure Puts (m : WorkloadStateManager) (id : String) (record : Option WorkloadState) (m' : WorkloadStateManager) :
    Prop where
  visible : m'.visible = Function.update m.visible id record
  cached : m'.cached = Function.update m.cached id record

variable {m m' m'' : WorkloadStateManager} {state : WorkloadState} {id : String} {record r' : Option WorkloadState}

lemma Puts.trans (h : m.Puts id record m') (h' : m'.Puts id r' m'') : m.Puts id r' m'' := by
  refine ⟨?_, ?_⟩
  · rw [h'.visible, h.visible, Function.update_idem]
  · rw [h'.cached, h.cached, Function.update_idem]

lemma Puts.visible_self (h : m.Puts id record m') : m'.visible id = record := by
  rw [h.visible, Function.update_self]

lemma puts_point (m : WorkloadStateManager) (state : WorkloadState) : m.Puts state.id (some state) (m.point state) := by
  refine ⟨?_, ?_⟩
  · funext j
    rw [visible_point, Function.update_apply]
  · funext j
    simp only [cached, point, lookup_insert_if, Function.update_apply]

lemma puts_saveShared (m : WorkloadStateManager) (now : Time) (o : SaveOutcome) (state : WorkloadState) :
    m.Puts state.id (some (state.stamped now)) (m.saveShared now o state).1 := by
  refine ⟨?_, ?_⟩
  · funext j
    rw [visible_saveShared, Function.update_apply]
  · funext j
    rw [Function.update_apply]
    unfold saveShared saveWorkload
    cases o with
    | ok =>
      simp only [cached, point, write, lookup_insert_if, WorkloadState.stamped_id]
      split_ifs <;> rfl
    | error me a =>
      cases a <;> simp [cached, point, write, lookup_insert_if]

lemma puts_saveWorkload (m : WorkloadStateManager) (now : Time) (state : WorkloadState) :
    m.Puts state.id (some (state.stamped now)) (m.saveWorkload now .ok state).1 := by
  refine ⟨?_, ?_⟩
  · funext j
    simp only [saveWorkload, visible, point, write, lookup_insert_if, Function.update_apply, WorkloadState.stamped_id]
    split_ifs <;> rfl
  · funext j
    simp only [saveWorkload, cached, point, write, lookup_insert_if, Function.update_apply, WorkloadState.stamped_id]

lemma cached_saveWorkload {now : Time} {o : SaveOutcome} (h : o ≠ .ok) :
    (m.saveWorkload now o state).1.cached = m.cached := by
  unfold saveWorkload
  cases o with
  | ok => exact absurd rfl h
  | error me a => cases a <;> rfl

lemma visible_of_cached (h : m.cached id = some state) : m.visible id = some state := by
  rw [cached] at h
  rw [visible, h, Option.some_or]

lemma puts_self (h : m.cached id = some state) : m.Puts id (some state) m := by
  refine ⟨?_, ?_⟩
  · rw [← visible_of_cached h, Function.update_eq_self]
  · rw [← h, Function.update_eq_self]

lemma puts_purgeWorkload (h : m.cached id = some state) (o : SaveOutcome) :
    m.Puts id (if o = .ok then none else some state) (m.purgeWorkload o id).1 := by
  unfold purgeWorkload
  cases o with
  | ok =>
    refine ⟨?_, ?_⟩
    · funext j
      simp only [visible, forget, remove, lookup_erase_if, if_true, Function.update_apply]
      split_ifs <;> rfl
    · funext j
      simp only [cached, forget, remove, lookup_erase_if, if_true, Function.update_apply]
  | error me a =>
    cases a with
    | false => exact puts_self h
    | true =>
      refine ⟨?_, (puts_self h).cached⟩
      have hv := visible_of_cached h
      rw [if_neg (by simp), ← hv, Function.update_eq_self]
      funext j
      rw [cached] at h
      simp only [visible, remove, lookup_erase_if, if_true]
      split_ifs with hj
      · rw [hj, h, Option.some_or, Option.some_or]
      · rfl

end WorkloadStateManager

end Cloudless.Coordination
