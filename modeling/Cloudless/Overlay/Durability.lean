import Cloudless.Overlay.Persistence

namespace Cloudless.Overlay

open Foundations FiniteMaps GoStd Runs Raft ServiceRegistry

variable {V : Type} {codec : Codec ServicePersistentState V}

namespace ServiceRegistry

variable {sr : ServiceRegistry}

structure Tidy (sr : ServiceRegistry) : Prop where
  listed : ∀ {key endpoints}, sr.endpoints.lookup key = some endpoints →
    (endpoints.map Endpoint.id).Nodup ∧ ∃ service, sr.services.lookup key = some service
  addressed : ∀ {key service}, sr.services.lookup key = some service → service.virtualIP ≠ ""

variable {endpoints : List Endpoint} {en : Endpoint} {serviceName endpointID ns : String}

lemma putEndpoint_of_notMem (h : en.id ∉ endpoints.map Endpoint.id) :
    putEndpoint en endpoints = endpoints ++ [en] := by
  induction endpoints with
  | nil => rfl
  | cons ep r ih =>
    rw [List.map_cons, List.mem_cons, not_or] at h
    rw [putEndpoint, if_neg fun he => h.1 he.symm, ih h.2, List.cons_append]

lemma ids_putEndpoint_of_mem (h : en.id ∈ endpoints.map Endpoint.id) :
    (putEndpoint en endpoints).map Endpoint.id = endpoints.map Endpoint.id := by
  induction endpoints with
  | nil => cases h
  | cons ep r ih =>
    rw [putEndpoint]
    by_cases hid : ep.id = en.id
    · rw [if_pos hid, List.map_cons, List.map_cons, hid]
    · rw [if_neg hid, List.map_cons, List.map_cons, ih]
      exact (List.mem_cons.mp h).resolve_left fun he => hid he.symm

lemma nodup_putEndpoint (h : (endpoints.map Endpoint.id).Nodup) :
    ((putEndpoint en endpoints).map Endpoint.id).Nodup := by
  by_cases hm : en.id ∈ endpoints.map Endpoint.id
  · rwa [ids_putEndpoint_of_mem hm]
  · rw [putEndpoint_of_notMem hm, List.map_append, List.nodup_append]
    refine ⟨h, List.nodup_singleton _, ?_⟩
    intro a ha b hb
    rw [List.mem_singleton.mp hb]
    rintro rfl
    exact hm ha

lemma ids_setHealth {health : HealthStatus} {old new : List Endpoint} (h : setHealth endpointID health old = some new) :
    new.map Endpoint.id = old.map Endpoint.id := by
  induction old generalizing new with
  | nil => cases h
  | cons ep r ih =>
    rw [setHealth] at h
    split_ifs at h
    · cases h
      rfl
    · obtain ⟨new', hnew, rfl⟩ := Option.map_eq_some_iff.mp h
      rw [List.map_cons, List.map_cons, ih hnew]

lemma tidy_of_empty (h : sr.services = ∅ ∧ sr.endpoints = ∅) : Tidy sr where
  listed := by
    intro key endpoints he
    rw [h.2] at he
    cases he
  addressed := by
    intro key s hs
    rw [h.1] at hs
    cases hs

section

variable (h : Tidy sr)

include h

lemma tidy_storeService {s : Service} (hv : s.virtualIP ≠ "") : Tidy (sr.storeService s) where
  listed := by
    intro key endpoints he
    obtain ⟨hn, old, ho⟩ := h.listed he
    refine ⟨hn, ?_⟩
    rw [lookup_storeService]
    split_ifs
    · exact ⟨s, rfl⟩
    · exact ⟨old, ho⟩
  addressed := by
    intro key st hs
    rw [lookup_storeService] at hs
    split_ifs at hs
    · cases hs
      exact hv
    · exact h.addressed hs

lemma tidy_registerService (now : ℕ → Time) (s : Service) : Tidy (sr.registerService now s).2 := by
  rcases sr.registerService_cases now s with ⟨err, hr⟩ | ⟨ip, p, ha, hr⟩
  · rwa [hr]
  · rw [hr]
    refine tidy_storeService ?_ (assign_ne_empty ha)
    exact ⟨h.listed, h.addressed⟩

lemma tidy_deregisterService {n : String} : Tidy (sr.deregisterService n ns) := by
  rw [deregisterService_eq]
  constructor
  · intro key endpoints he
    rw [lookup_endpoints_removeService] at he
    rw [lookup_removeService]
    split_ifs at he ⊢
    exact h.listed he
  · intro key s hs
    rw [lookup_removeService] at hs
    split_ifs at hs
    exact h.addressed hs

lemma tidy_setEndpoints {fn : String}
    (hn : (endpoints.map Endpoint.id).Nodup) (hs : ∃ s, sr.services.lookup fn = some s) :
    Tidy (sr.setEndpoints fn endpoints) where
  listed := by
    intro key eps he
    rw [lookup_endpoints_setEndpoints] at he
    split_ifs at he with hk
    · cases he
      rw [hk]
      exact ⟨hn, hs⟩
    · exact h.listed he
  addressed := h.addressed

lemma tidy_touch {now : Time} {fn : String} : Tidy (sr.touch now fn) where
  listed := by
    intro key endpoints he
    rw [endpoints_touch] at he
    obtain ⟨hn, s, hs⟩ := h.listed he
    refine ⟨hn, ?_⟩
    rw [lookup_touch]
    split_ifs with hk
    · rw [← hk, hs]
      exact ⟨_, rfl⟩
    · exact ⟨s, hs⟩
  addressed := by
    intro key s hs
    rw [lookup_touch] at hs
    split_ifs at hs
    · obtain ⟨old, ho, rfl⟩ := Option.map_eq_some_iff.mp hs
      exact (h.addressed ho :)
    · exact h.addressed hs

lemma Tidy.nodup (key : String) : ((sr.endpointsAt key).map Endpoint.id).Nodup := by
  rw [endpointsAt]
  cases he : sr.endpoints.lookup key with
  | none => exact List.nodup_nil
  | some endpoints => exact (h.listed he).1

lemma tidy_registerEndpoint {now : Time} (hs : ∃ s, sr.services.lookup (getFullServiceName serviceName ns) = some s) :
    Tidy (sr.registerEndpoint now serviceName ns en) := by
  rw [registerEndpoint, getFullServiceName_orDefault]
  exact tidy_touch (tidy_setEndpoints h (nodup_putEndpoint (h.nodup _)) hs)

lemma tidy_deregisterEndpoint : Tidy (sr.deregisterEndpoint serviceName ns endpointID) := by
  rw [deregisterEndpoint]
  split
  · exact h
  · next endpoints he =>
    obtain ⟨hn, hs⟩ := h.listed he
    split
    · refine ⟨?_, h.addressed⟩
      intro key eps hl
      rw [lookup_erase_if] at hl
      split_ifs at hl
      exact h.listed hl
    · refine tidy_setEndpoints h ?_ hs
      exact hn.sublist (List.filter_sublist.map _)

lemma tidy_updateEndpointHealth (health : HealthStatus) :
    Tidy (sr.updateEndpointHealth serviceName ns endpointID health).2 := by
  rcases sr.updateEndpointHealth_cases serviceName ns endpointID health with ⟨err, hr⟩ | ⟨old, new, ho, hnew, hr⟩
  · rwa [hr]
  · rw [hr]
    obtain ⟨hn, hs⟩ := h.listed ho
    refine tidy_setEndpoints h ?_ hs
    rwa [ids_setHealth hnew]

end

end ServiceRegistry

lemma putEndpoints_eq_append {endpoints new : List Endpoint} (h : ((endpoints ++ new).map Endpoint.id).Nodup) :
    putEndpoints endpoints new = endpoints ++ new := by
  induction new generalizing endpoints with
  | nil => exact (List.append_nil endpoints).symm
  | cons en rest ih =>
    have hf : en.id ∉ endpoints.map Endpoint.id := by
      intro hm
      rw [List.map_append, List.map_cons] at h
      exact (List.nodup_append.mp h).2.2 _ hm _ (List.mem_cons_self ..) rfl
    have ha : endpoints ++ en :: rest = endpoints ++ [en] ++ rest := by simp
    rw [putEndpoints, List.foldl_cons, putEndpoint_of_notMem hf, ha]
    rw [ha] at h
    exact ih h

variable {sr : ServiceRegistry}

lemma tidy_loadEndpoints (h : sr.Tidy) {now : ℕ → Time} {s : Service} (i : ℕ)
    {endpoints : List Endpoint} (hs : ∃ st, sr.services.lookup s.fullName = some st) :
    (loadEndpoints now s i endpoints sr).Tidy := by
  induction endpoints generalizing i sr with
  | nil => exact h
  | cons en r ih =>
    rw [loadEndpoints]
    refine ih (tidy_registerEndpoint h hs) (i + 1) ?_
    obtain ⟨st, hst⟩ := hs
    refine ⟨{ st with updatedAt := now i }, ?_⟩
    rw [registerEndpoint, getFullServiceName_orDefault, lookup_touch]
    refine (if_pos rfl).trans ?_
    rw [services_setEndpoints, show getFullServiceName s.name s.ns = s.fullName from rfl,
      hst, Option.map_some]

lemma tidy_loadFromRAFT (h : sr.Tidy) {store : RaftStore V} (hr : Recorded codec store)
    {env : LoadEnv} : (loadFromRAFT codec env store sr).Tidy := by
  rw [loadFromRAFT_eq]
  refine run_preserves ServiceRegistry.Tidy _ ?_ h
  intro sr e _ h
  rw [loadEntry]
  split_ifs with hp
  · obtain ⟨fullName, hk⟩ : ∃ fullName, e.1 = "service:" ++ fullName := ⟨_, eq_append_of_hasPrefix hp⟩
    rw [hk, loadService_eq hr]
    split
    · exact h
    · next state _ =>
      have ht := tidy_registerService h (fun i => env.clock ("service:" ++ fullName) (i + 1)) state.service
      rcases sr.registerService_cases (fun i => env.clock ("service:" ++ fullName) (i + 1)) state.service with
        ⟨err, he⟩ | ⟨ip, pool, -, he⟩
      · rwa [he]
      · rw [he] at ht ⊢
        exact tidy_loadEndpoints ht _ ⟨_, (lookup_storeService _ _).trans (if_pos rfl)⟩
  · exact h

namespace PersistentServiceRegistry

variable {psr : PersistentServiceRegistry codec} {parseCIDR : String → Except String IPNet} {cidr : String}

/-- The store has a live record of exactly the services in memory, with their endpoints. -/
structure Mirrors (psr : PersistentServiceRegistry codec) : Prop where
  tidy : psr.registry.Tidy
  records : ∀ key, (liveRecord codec psr.store key).map (fun state => (state.service.core, state.endpoints)) =
    (psr.registry.services.lookup key).map fun service => (service.core, psr.registry.endpointsAt key)

def Written (psr : PersistentServiceRegistry codec) (env : CallEnv) : Prop :=
  psr.store.isLeader = true ∧ env.raft.commit = .committed

/-- The write of the call succeeds, endpoints are registered for registered services only, and the load balancer leaves
the endpoints alone. -/
def Durable (psr : PersistentServiceRegistry codec) : RegistryOp → Prop
  | .registerService env _ => psr.Written env
  | .deregisterService env _ _ => psr.Written env
  | .registerEndpoint env serviceName ns _ =>
    psr.Written env ∧ (psr.registry.services.lookup (getFullServiceName serviceName ns)).isSome = true
  | .deregisterEndpoint env _ _ _ => psr.Written env
  | .updateEndpointHealth env _ _ _ _ => psr.Written env
  | .updateEndpoints .. => False
  | .restart _ => True

def step (parseCIDR : String → Except String IPNet) (cidr : String) (psr : PersistentServiceRegistry codec)
    (op : RegistryOp) : PersistentServiceRegistry codec := (psr.call parseCIDR cidr op).2

variable {psr' : PersistentServiceRegistry codec}

lemma records_of_saves (h : Mirrors psr) {fn : String} (hsa : Saves fn psr psr') (key : String) :
    (liveRecord codec psr'.store key).map (fun state => (state.service.core, state.endpoints)) =
      (psr'.registry.services.lookup key).map fun s => (s.core, psr'.registry.endpointsAt key) := by
  by_cases hk : key = fn
  · have hs := congrArg (Option.map fun e : Service × List Endpoint => (e.1.core, e.2)) hsa.saved
    rw [Option.map_map, Option.map_map] at hs
    rwa [hk]
  · rw [hsa.records key hk, hsa.services key hk, hsa.endpoints key hk, h.records]

variable {env : LoadEnv} {ns : String}

lemma view_reload (h : Mirrors psr)
    (hnew : newPersistentServiceRegistry parseCIDR cidr env psr.store psr.recorded = .ok psr') (key : String) :
    psr'.registry.view key = psr.registry.view key := by
  obtain ⟨r, hre, hreg, -⟩ := newPersistentServiceRegistry_eq_ok hnew
  have hem := view_of_empty (newServiceRegistry_eq_ok hre).1
  have hv : ∀ fn state, liveRecord codec psr.store fn = some state → state.service.virtualIP ≠ "" := by
    intro fn state hl
    have hr := h.records fn
    rw [hl, Option.map_some, eq_comm, Option.map_eq_some_iff] at hr
    obtain ⟨s, hs, he⟩ := hr
    rw [← show s.virtualIP = state.service.virtualIP from congrArg (fun e => e.1.virtualIP) he]
    exact h.tidy.addressed hs
  rw [hreg, view_loadFromRAFT psr.recorded hv env hem, view]
  have hr := h.records key
  cases hs : psr.registry.services.lookup key with
  | none =>
    rw [hs, Option.map_none, Option.map_eq_none_iff] at hr
    have he : psr.registry.endpointsAt key = [] := by
      rw [endpointsAt]
      cases he : psr.registry.endpoints.lookup key with
      | none => rfl
      | some endpoints =>
        obtain ⟨-, s, hse⟩ := h.tidy.listed he
        rw [hs] at hse
        cases hse
    rw [hr, he]
    rfl
  | some s =>
    rw [hs, Option.map_some, Option.map_eq_some_iff] at hr
    obtain ⟨state, hl, he⟩ := hr
    rw [hl, Option.map_some, Option.map_some, Option.elim_some]
    rw [Prod.mk.injEq] at he
    rw [he.1, he.2, putEndpoints_eq_append (h.tidy.nodup key), List.nil_append]

lemma mirrors_restart (h : Mirrors psr)
    (hnew : newPersistentServiceRegistry parseCIDR cidr env psr.store psr.recorded = .ok psr') : Mirrors psr' := by
  obtain ⟨r, hr, hreg, hs⟩ := newPersistentServiceRegistry_eq_ok hnew
  refine ⟨?_, ?_⟩
  · rw [hreg]
    exact tidy_loadFromRAFT (tidy_of_empty (newServiceRegistry_eq_ok hr).1) psr.recorded
  · intro key
    rw [hs, h.records]
    have hv := view_reload h hnew key
    rw [view, view, Prod.mk.injEq] at hv
    have hl := congrArg (Option.map fun s => (s, psr.registry.endpointsAt key)) hv.1
    rw [Option.map_map, Option.map_map] at hl
    rw [hv.2]
    exact hl.symm

lemma written_withRegistry {env : CallEnv} (hw : psr.Written env) {r : ServiceRegistry} :
    (psr.withRegistry r).Written env := hw

section Writes

variable (hjson : ∀ state, ∃ data, codec.marshal state = .ok data) {env : CallEnv} (hw : psr.Written env)

include hjson hw

lemma writeState_eq_none (key : String) (state : ServicePersistentState)
    (hk : key = "service:" ++ state.service.fullName) : (psr.writeState env key state hk).1 = none := by
  unfold writeState
  split
  · next err hm =>
    obtain ⟨data, hdata⟩ := hjson state
    rw [hm] at hdata
    cases hdata
  · dsimp only
    rw [RaftStore.set_eq_none_iff.mpr hw, Option.map_none]

lemma persistNamed_eq_none {serviceName ns : String}
    (hs : (psr.registry.services.lookup (getFullServiceName serviceName ns)).isSome = true) :
    (psr.persistNamed env serviceName ns).1 = none := by
  obtain ⟨s, hse⟩ := Option.isSome_iff_exists.mp hs
  rw [persistNamed, getService, hse]
  exact writeState_eq_none hjson hw _ _ _

lemma markServiceDeleted_cases (n ns : String) : (psr.markServiceDeleted env n ns).1 = none ∨
    (psr.markServiceDeleted env n ns).2 = psr ∧ liveRecord codec psr.store (getFullServiceName n ns) = none := by
  unfold markServiceDeleted
  split
  · next err hg =>
    refine .inr ⟨rfl, ?_⟩
    rw [liveRecord]
    cases hl : psr.store.fsm.data.lookup ("service:" ++ getFullServiceName n ns) with
    | none => rfl
    | some e =>
      rw [getServiceKey, get_of_recorded psr.recorded _ (hasPrefix_append _ _) hl] at hg
      cases hg
  · next data hg =>
    split
    · next err hu =>
      refine .inr ⟨rfl, ?_⟩
      rw [liveRecord]
      cases hl : psr.store.fsm.data.lookup ("service:" ++ getFullServiceName n ns) with
      | none => rfl
      | some e =>
        rw [getServiceKey, get_of_recorded psr.recorded _ (hasPrefix_append _ _) hl] at hg
        cases hg
        rw [Option.bind_some, hu]
    · exact .inl (writeState_eq_none hjson hw _ _ _)

end Writes

lemma deregisterService_eq_self (h : sr.Tidy) {n : String}
    (hs : sr.services.lookup (getFullServiceName n ns) = none) : sr.deregisterService n ns = sr := by
  have hv : sr.virtualIPs.lookup (getFullServiceName n ns) = none := by rw [sr.addressed, hs, Option.map_none]
  have he : sr.endpoints.lookup (getFullServiceName n ns) = none := by
    cases he : sr.endpoints.lookup (getFullServiceName n ns) with
    | none => rfl
    | some endpoints =>
      obtain ⟨-, s, hse⟩ := h.listed he
      rw [hs] at hse
      cases hse
  rw [deregisterService_eq, hv]
  apply ext
  · exact erase_of_lookup_none _ hs
  · exact erase_of_lookup_none _ he
  · exact erase_of_lookup_none _ hv
  · rfl

lemma deregisterEndpoint_eq_self (h : sr.Tidy) {serviceName : String} {endpointID : String}
    (hs : sr.services.lookup (getFullServiceName serviceName ns) = none) :
    sr.deregisterEndpoint serviceName ns endpointID = sr := by
  rw [ServiceRegistry.deregisterEndpoint, getFullServiceName_orDefault]
  cases he : sr.endpoints.lookup (getFullServiceName serviceName ns) with
  | none => rfl
  | some endpoints =>
    obtain ⟨-, s, hse⟩ := h.listed he
    rw [hs] at hse
    cases hse

variable {op : RegistryOp}

lemma call_eq_self (hjson : ∀ state, ∃ data, codec.marshal state = .ok data) (h : Mirrors psr)
    (hd : psr.Durable op) (he : (psr.call parseCIDR cidr op).1 ≠ none) : (psr.call parseCIDR cidr op).2 = psr := by
  cases op with
  | registerService env s =>
    rw [call, registerService] at he ⊢
    rcases psr.registry.registerService_cases env.now s with ⟨err, hr⟩ | ⟨ip, p, -, hr⟩
    · rw [hr]
      rfl
    · rw [hr] at he
      exact (he (writeState_eq_none hjson (written_withRegistry hd) _ _ _)).elim
  | deregisterService env n ns =>
    rw [call, deregisterService] at he ⊢
    rcases markServiceDeleted_cases hjson (written_withRegistry hd) n ns
      with hn | ⟨hsame, hl⟩
    · exact absurd hn he
    · have hr := h.records (getFullServiceName n ns)
      rw [show liveRecord codec psr.store (getFullServiceName n ns) = none from hl, Option.map_none, eq_comm,
        Option.map_eq_none_iff] at hr
      rw [hsame, deregisterService_eq_self h.tidy hr]
      rfl
  | registerEndpoint env serviceName ns en =>
    obtain ⟨s, hs⟩ := Option.isSome_iff_exists.mp hd.2
    refine (he (persistNamed_eq_none hjson (written_withRegistry hd.1) ?_)).elim
    rw [withRegistry, ServiceRegistry.registerEndpoint, getFullServiceName_orDefault, ServiceRegistry.lookup_touch,
      if_pos rfl, services_setEndpoints, hs]
    rfl
  | deregisterEndpoint env serviceName ns endpointID =>
    rw [call, deregisterEndpoint] at he ⊢
    cases hs : psr.registry.services.lookup (getFullServiceName serviceName ns) with
    | none =>
      rw [deregisterEndpoint_eq_self h.tidy hs, withRegistry, persistNamed, getService, hs]
    | some s =>
      refine (he (persistNamed_eq_none hjson (written_withRegistry hd) ?_)).elim
      rw [withRegistry, services_deregisterEndpoint, hs]
      rfl
  | updateEndpointHealth env serviceName ns endpointID health =>
    rw [call, updateEndpointHealth] at he ⊢
    rcases psr.registry.updateEndpointHealth_cases serviceName ns endpointID health with
      ⟨err, hr⟩ | ⟨old, new, ho, -, hr⟩
    · rw [hr]
      rfl
    · rw [hr] at he
      obtain ⟨-, s, hs⟩ := h.tidy.listed ho
      refine (he (persistNamed_eq_none hjson (written_withRegistry hd) ?_)).elim
      rw [withRegistry, services_setEndpoints, hs]
      rfl
  | updateEndpoints now serviceName endpoints => exact hd.elim
  | restart env =>
    rw [call] at he ⊢
    split at he
    · rfl
    · exact absurd rfl he

lemma mirrors_step (hjson : ∀ state, ∃ data, codec.marshal state = .ok data) (h : Mirrors psr)
    (hd : psr.Durable op) : Mirrors (psr.step parseCIDR cidr op) := by
  rw [step]
  by_cases hnone : (psr.call parseCIDR cidr op).1 = none
  · cases op with
    | registerService env s =>
      refine ⟨?_, records_of_saves h (saves_registerService hnone)⟩
      obtain ⟨ip, p, ha, hr⟩ := registerService_eq_none hnone
      rw [call, hr]
      refine tidy_storeService ?_ (assign_ne_empty ha)
      exact ⟨h.tidy.listed, h.tidy.addressed⟩
    | deregisterService env n ns =>
      refine ⟨?_, records_of_saves h (saves_deregisterService hnone)⟩
      rw [call, registry_deregisterService]
      exact tidy_deregisterService h.tidy
    | registerEndpoint env serviceName ns en =>
      refine ⟨?_, records_of_saves h (saves_registerEndpoint hnone)⟩
      rw [call, registry_registerEndpoint]
      exact tidy_registerEndpoint h.tidy (Option.isSome_iff_exists.mp hd.2)
    | deregisterEndpoint env serviceName ns endpointID =>
      refine ⟨?_, records_of_saves h (saves_deregisterEndpoint hnone)⟩
      rw [call, registry_deregisterEndpoint]
      exact tidy_deregisterEndpoint h.tidy
    | updateEndpointHealth env serviceName ns endpointID health =>
      refine ⟨?_, records_of_saves h (saves_updateEndpointHealth hnone)⟩
      rw [call, registry_updateEndpointHealth]
      exact tidy_updateEndpointHealth h.tidy health
    | updateEndpoints now serviceName endpoints => exact hd.elim
    | restart env =>
      rw [call]
      cases hnew : newPersistentServiceRegistry parseCIDR cidr env psr.store psr.recorded with
      | error err => exact h
      | ok psr' => exact mirrors_restart h hnew
  · rwa [call_eq_self hjson h hd hnone]

lemma mirrors_new {s : RaftStore V} {r : Recorded codec s}
    (hnew : newPersistentServiceRegistry parseCIDR cidr env s r = .ok psr)
    (he : ∀ key, hasPrefix key "service:" = true → s.fsm.data.lookup key = none) : Mirrors psr := by
  obtain ⟨re, hr, hreg, hs⟩ := newPersistentServiceRegistry_eq_ok hnew
  have hnone := (newServiceRegistry_eq_ok hr).1
  have hlive : ∀ key, liveRecord codec s key = none := by
    intro key
    rw [liveRecord, he _ (hasPrefix_append _ _), Option.bind_none]
  refine ⟨?_, ?_⟩
  · rw [hreg]
    exact tidy_loadFromRAFT (tidy_of_empty hnone) r
  · intro key
    have hv := congrArg Prod.fst
      (view_loadFromRAFT r (fun k st hl => by rw [hlive] at hl; cases hl) env (view_of_empty hnone) key)
    rw [hlive, view] at hv
    rw [hs, hlive, hreg, Option.map_eq_none_iff.mp hv]
    rfl

lemma getService_map_core {sr' : ServiceRegistry} {n : String}
    (h : sr'.view (getFullServiceName n ns) = sr.view (getFullServiceName n ns)) :
    (sr'.getService n ns).map Service.core = (sr.getService n ns).map Service.core := by
  have hs := congrArg Prod.fst h
  rw [view, view] at hs
  rw [getService, getService]
  cases hl : sr.services.lookup (getFullServiceName n ns) with
  | none =>
    rw [hl, Option.map_none, Option.map_eq_none_iff] at hs
    rw [hs]
  | some s =>
    rw [hl, Option.map_some, Option.map_eq_some_iff] at hs
    obtain ⟨s', hl', hcore⟩ := hs
    rw [hl']
    exact congrArg Except.ok hcore

theorem registry_durable_of_writes (hjson : ∀ state, ∃ data, codec.marshal state = .ok data) {env : LoadEnv}
    {store : RaftStore V} {recorded : Recorded codec store}
    (hnew : newPersistentServiceRegistry parseCIDR cidr env store recorded = .ok psr)
    (hempty : ∀ key, hasPrefix key "service:" = true → store.fsm.data.lookup key = none) (ops : List RegistryOp)
    (hops : Admissible (step parseCIDR cidr) Durable psr ops) :
    (∀ load : LoadEnv, ∃ psr', newPersistentServiceRegistry parseCIDR cidr load (run (step parseCIDR cidr) psr ops).store
        (run (step parseCIDR cidr) psr ops).recorded = .ok psr' ∧ ∀ name ns,
      (psr'.registry.getService name ns).map Service.core =
        ((run (step parseCIDR cidr) psr ops).registry.getService name ns).map Service.core ∧
      psr'.registry.getEndpoints name ns = (run (step parseCIDR cidr) psr ops).registry.getEndpoints name ns) ∧
    Admissible (step parseCIDR cidr) (fun psr op => (psr.call parseCIDR cidr op).1 ≠ none →
      (psr.call parseCIDR cidr op).2.registry = psr.registry) psr ops := by
  have hs : ∀ (psr : PersistentServiceRegistry codec) op, Mirrors psr → psr.Durable op →
      Mirrors (psr.step parseCIDR cidr op) := fun _ _ h hd => mirrors_step hjson h hd
  have hm := mirrors_new hnew hempty
  constructor
  · intro load
    obtain ⟨registry, hr, -, -⟩ := newPersistentServiceRegistry_eq_ok hnew
    obtain ⟨psr', hp'⟩ : ∃ psr', newPersistentServiceRegistry parseCIDR cidr load (run (step parseCIDR cidr) psr ops).store
        (run (step parseCIDR cidr) psr ops).recorded = .ok psr' := by
      unfold newPersistentServiceRegistry
      rw [hr]
      exact ⟨_, rfl⟩
    refine ⟨psr', hp', ?_⟩
    intro name ns
    have hv := view_reload (run_invariant Mirrors hs ops hm hops) hp' (getFullServiceName name ns)
    exact ⟨getService_map_core hv, congrArg Prod.snd hv⟩
  · refine (admissible_iff Mirrors ?_ ?_ ops hm hops).mp hops
    · intro psr op h hd _
      exact hs psr op h hd
    · intro psr op h hd
      refine ⟨?_, fun _ => hd⟩
      intro _ he
      rw [call_eq_self hjson h hd he]

def webEndpoint : Endpoint := ⟨"ep", "peer", "192.0.2.1", 80, 1, .healthy, "", "", ∅⟩

theorem registry_durable_web : ((run (step (fun _ => .ok serviceNet) "") freshRegistry
      [.registerService calmCall (bareService "web" "" ""),
        .registerEndpoint calmCall "web" "" webEndpoint]).registry.getEndpoints "web" "") = [webEndpoint] ∧
    ∀ load : LoadEnv, ∃ psr', newPersistentServiceRegistry (fun _ => .ok serviceNet) "" load
        (run (step (fun _ => .ok serviceNet) "") freshRegistry
          [.registerService calmCall (bareService "web" "" ""), .registerEndpoint calmCall "web" "" webEndpoint]).store
        (run (step (fun _ => .ok serviceNet) "") freshRegistry
          [.registerService calmCall (bareService "web" "" ""), .registerEndpoint calmCall "web" "" webEndpoint]).recorded =
          .ok psr' ∧ ∀ name ns, (psr'.registry.getService name ns).map Service.core =
        ((run (step (fun _ => .ok serviceNet) "") freshRegistry [.registerService calmCall (bareService "web" "" ""),
            .registerEndpoint calmCall "web" "" webEndpoint]).registry.getService name ns).map Service.core ∧
      psr'.registry.getEndpoints name ns = (run (step (fun _ => .ok serviceNet) "") freshRegistry
          [.registerService calmCall (bareService "web" "" ""),
            .registerEndpoint calmCall "web" "" webEndpoint]).registry.getEndpoints name ns :=
  ⟨by decide +kernel,
    (registry_durable_of_writes (fun state => ⟨state, rfl⟩) freshRegistry_new (fun key _ => lookup_emptyStore key)
      [.registerService calmCall (bareService "web" "" ""), .registerEndpoint calmCall "web" "" webEndpoint]
      ⟨⟨rfl, rfl⟩, ⟨⟨by decide +kernel, rfl⟩, by decide +kernel⟩, trivial⟩).1⟩

def failedCall : CallEnv := ⟨fun _ => 0, .failed "timeout", fun _ => 0⟩

theorem failed_write_stays_in_memory : (freshRegistry.registerService failedCall (bareService "web" "" "")).1 =
      some "failed to write to RAFT: failed to apply command: timeout" ∧
    ((freshRegistry.registerService failedCall (bareService "web" "" "")).2.registry.getService "web" "").toOption.isSome =
      true ∧ ((run (step (fun _ => .ok serviceNet) "") freshRegistry
      [.registerService failedCall (bareService "web" "" ""), .restart calmLoad]).registry.getService
        "web" "").toOption.isSome = false ∧ (run (step (fun _ => .ok serviceNet) "") freshRegistry
      [.registerService calmCall (bareService "web" "" ""), .updateEndpoints 0 "web" [webEndpoint]]).registry.getEndpoints
        "web" "" = [webEndpoint] ∧ (run (step (fun _ => .ok serviceNet) "") freshRegistry
      [.registerService calmCall (bareService "web" "" ""), .updateEndpoints 0 "web" [webEndpoint],
        .restart calmLoad]).registry.getEndpoints "web" "" = [] ∧
    (freshRegistry.registerEndpoint calmCall "web" "" webEndpoint).1 = some "service not found: /web" ∧
    (freshRegistry.registerEndpoint calmCall "web" "" webEndpoint).2.registry.getEndpoints "web" "" = [webEndpoint] := by
  refine ⟨?_, ?_, ?_, ?_, ?_, ?_, ?_⟩ <;> decide +kernel

end PersistentServiceRegistry

end Cloudless.Overlay
