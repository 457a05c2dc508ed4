import Cloudless.Foundations.Runs
import Cloudless.Overlay.Registry
import Cloudless.Raft.Store

namespace Cloudless.Overlay

open Foundations FiniteMaps GoStd MapLoops Runs Raft ServiceRegistry

variable {V : Type}

structure ServicePersistentState where
  service : Service
  endpoints : List Endpoint
  (createdAt updatedAt : Time)
  deletedAt : Option Time
  deriving DecidableEq

def getServiceKey (name ns : String) : String := "service:" ++ getFullServiceName name ns

variable {service : Service}

lemma getServiceKey_eq : getServiceKey service.name service.ns = "service:" ++ service.fullName := rfl

def Recorded (codec : Codec ServicePersistentState V) (store : RaftStore V) : Prop :=
  ∀ {key entry}, hasPrefix key "service:" = true → store.fsm.data.lookup key = some entry →
    entry.expiresAt = 0 ∧ ∀ state, codec.unmarshal entry.value = .ok state → key = "service:" ++ state.service.fullName

variable {state : ServicePersistentState} {key : String}

lemma recorded_set {codec : Codec ServicePersistentState V} {store : RaftStore V} (h : Recorded codec store)
    (env : RaftEnv) (hkey : key = "service:" ++ state.service.fullName)
    {d : V} (hm : codec.marshal state = .ok d) : Recorded codec (store.set env key d).1 := by
  intro key' e hp hl
  rcases (store.set_cases env key d).2 with ⟨hs, -⟩ | ⟨ca, ua, hs⟩
  · rw [hs] at hl
    exact h hp hl
  · rw [hs, lookup_insert_if] at hl
    split_ifs at hl with hk
    · cases hl
      refine ⟨rfl, ?_⟩
      intro s' hu
      rw [codec.unmarshal_marshal hm] at hu
      cases hu
      rw [hk, hkey]
    · exact h hp hl

structure PersistentServiceRegistry (codec : Codec ServicePersistentState V) where
  registry : ServiceRegistry
  store : RaftStore V
  recorded : Recorded codec store

structure CallEnv where
  now : ℕ → Time
  raft : RaftEnv

structure LoadEnv where
  now : Time
  clock : String → ℕ → Time
  order : MapOrder

variable {codec : Codec ServicePersistentState V}

section Reload

def loadEndpoints (now : ℕ → Time) (service : Service) : ℕ → List Endpoint → ServiceRegistry → ServiceRegistry
  | _, [], sr => sr
  | i, endpoint :: rest, sr =>
    loadEndpoints now service (i + 1) rest (sr.registerEndpoint (now i) service.name service.ns endpoint)

def loadService (codec : Codec ServicePersistentState V) (now : ℕ → Time) (store : RaftStore V) (sr : ServiceRegistry)
    (key : String) : ServiceRegistry :=
  match store.fsm.get (now 0) key with
  | .error _ => sr
  | .ok data =>
    match codec.unmarshal data with
    | .error _ => sr
    | .ok state =>
      if state.deletedAt.isSome then sr
      else
        match sr.registerService (fun i => now (i + 1)) state.service with
        | (.error _, sr) => sr
        | (.ok service, sr) => loadEndpoints now service 3 state.endpoints sr

def listKeys (order : MapOrder) (now : Time) (store : RaftStore V) : List String :=
  ((order.entries (store.fsm.getAll now)).map Prod.fst).filter fun key => hasPrefix key "service:"

def loadFromRAFT (codec : Codec ServicePersistentState V) (env : LoadEnv) (store : RaftStore V) (sr : ServiceRegistry) :
    ServiceRegistry :=
  (listKeys env.order env.now store).foldl (fun sr key => loadService codec (env.clock key) store sr key) sr

end Reload

def newPersistentServiceRegistry (parseCIDR : String → Except String IPNet) (cidr : String) (env : LoadEnv)
    (store : RaftStore V) (recorded : Recorded codec store) : Except String (PersistentServiceRegistry codec) :=
  match newServiceRegistry parseCIDR cidr with
  | .error err => .error ("failed to create in-memory registry: " ++ err)
  | .ok registry => .ok ⟨loadFromRAFT codec env store registry, store, recorded⟩

namespace PersistentServiceRegistry

def writeState (env : CallEnv) (key : String) (state : ServicePersistentState)
    (hkey : key = "service:" ++ state.service.fullName) (psr : PersistentServiceRegistry codec) :
    Option String × PersistentServiceRegistry codec :=
  match hm : codec.marshal state with
  | .error err => (some ("failed to marshal service: " ++ err), psr)
  | .ok data =>
    ((psr.store.set env.raft key data).2.map ("failed to write to RAFT: " ++ ·),
      { psr with
        store := (psr.store.set env.raft key data).1
        recorded := recorded_set psr.recorded env.raft hkey hm })

def persistService (env : CallEnv) (service : Service) (psr : PersistentServiceRegistry codec) :
    Option String × PersistentServiceRegistry codec :=
  psr.writeState env (getServiceKey service.name service.ns)
    { service := service
      endpoints := psr.registry.getEndpoints service.name service.ns
      createdAt := service.createdAt
      updatedAt := env.now 2
      deletedAt := none } getServiceKey_eq

lemma getServiceKey_of_get {psr : PersistentServiceRegistry codec} {now : Time} {name ns : String} {d : V}
    (hg : psr.store.fsm.get now (getServiceKey name ns) = .ok d)
    (hu : codec.unmarshal d = .ok state) : getServiceKey name ns = "service:" ++ state.service.fullName := by
  rw [FSM.get] at hg
  split at hg
  · cases hg
  · next e hl =>
    split_ifs at hg
    cases hg
    exact (psr.recorded (hasPrefix_append _ _) hl).2 state hu

def markServiceDeleted (env : CallEnv) (name ns : String) (psr : PersistentServiceRegistry codec) :
    Option String × PersistentServiceRegistry codec :=
  match hget : psr.store.fsm.get (env.now 0) (getServiceKey name ns) with
  | .error err => (some ("failed to read from RAFT: " ++ err), psr)
  | .ok data =>
    match hu : codec.unmarshal data with
    | .error err => (some ("failed to unmarshal service: " ++ err), psr)
    | .ok state =>
      psr.writeState env (getServiceKey name ns)
        { state with deletedAt := some (env.now 1), updatedAt := env.now 1 }
        (show _ = "service:" ++ state.service.fullName from getServiceKey_of_get hget hu)

def withRegistry (registry : ServiceRegistry) (psr : PersistentServiceRegistry codec) :
    PersistentServiceRegistry codec := { psr with registry := registry }

def registerService (env : CallEnv) (service : Service) (psr : PersistentServiceRegistry codec) :
    Option String × PersistentServiceRegistry codec :=
  match psr.registry.registerService env.now service with
  | (.error err, registry) => (some err, psr.withRegistry registry)
  | (.ok service, registry) => (psr.withRegistry registry).persistService env service

def deregisterService (env : CallEnv) (name ns : String) (psr : PersistentServiceRegistry codec) :
    Option String × PersistentServiceRegistry codec :=
  (psr.withRegistry (psr.registry.deregisterService name ns)).markServiceDeleted env name ns

def persistNamed (env : CallEnv) (serviceName ns : String) (psr : PersistentServiceRegistry codec) :
    Option String × PersistentServiceRegistry codec :=
  match psr.registry.getService serviceName ns with
  | .error err => (some err, psr)
  | .ok service => psr.persistService env service

def registerEndpoint (env : CallEnv) (serviceName ns : String) (endpoint : Endpoint)
    (psr : PersistentServiceRegistry codec) : Option String × PersistentServiceRegistry codec :=
  (psr.withRegistry (psr.registry.registerEndpoint (env.now 0) serviceName ns endpoint)).persistNamed env serviceName ns

def deregisterEndpoint (env : CallEnv) (serviceName ns endpointID : String) (psr : PersistentServiceRegistry codec) :
    Option String × PersistentServiceRegistry codec :=
  (psr.withRegistry (psr.registry.deregisterEndpoint serviceName ns endpointID)).persistNamed env serviceName ns

def updateEndpointHealth (env : CallEnv) (serviceName ns endpointID : String) (health : HealthStatus)
    (psr : PersistentServiceRegistry codec) : Option String × PersistentServiceRegistry codec :=
  match psr.registry.updateEndpointHealth serviceName ns endpointID health with
  | (some err, registry) => (some err, psr.withRegistry registry)
  | (none, registry) => (psr.withRegistry registry).persistNamed env serviceName ns

end PersistentServiceRegistry

inductive RegistryOp
  | registerService (env : CallEnv) (service : Service)
  | deregisterService (env : CallEnv) (name ns : String)
  | registerEndpoint (env : CallEnv) (serviceName ns : String) (endpoint : Endpoint)
  | deregisterEndpoint (env : CallEnv) (serviceName ns endpointID : String)
  | updateEndpointHealth (env : CallEnv) (serviceName ns endpointID : String) (health : HealthStatus)
  | updateEndpoints (now : Time) (serviceName : String) (endpoints : List Endpoint)
  | restart (env : LoadEnv)

namespace PersistentServiceRegistry

def call (parseCIDR : String → Except String IPNet) (cidr : String) (psr : PersistentServiceRegistry codec) :
    RegistryOp → Option String × PersistentServiceRegistry codec
  | .registerService env service => psr.registerService env service
  | .deregisterService env name ns => psr.deregisterService env name ns
  | .registerEndpoint env serviceName ns endpoint => psr.registerEndpoint env serviceName ns endpoint
  | .deregisterEndpoint env serviceName ns endpointID => psr.deregisterEndpoint env serviceName ns endpointID
  | .updateEndpointHealth env serviceName ns endpointID health =>
    psr.updateEndpointHealth env serviceName ns endpointID health
  | .updateEndpoints now serviceName endpoints =>
    (none, psr.withRegistry (psr.registry.updateEndpoints now serviceName "default" endpoints))
  | .restart env =>
    match newPersistentServiceRegistry parseCIDR cidr env psr.store psr.recorded with
    | .error err => (some err, psr)
    | .ok psr => (none, psr)

end PersistentServiceRegistry

def liveRecord (codec : Codec ServicePersistentState V) (store : RaftStore V) (fullName : String) :
    Option ServicePersistentState :=
  (store.fsm.data.lookup ("service:" ++ fullName)).bind fun entry =>
    match codec.unmarshal entry.value with
    | .error _ => none
    | .ok state => if state.deletedAt.isSome then none else some state

def ServiceRegistry.endpointsAt (sr : ServiceRegistry) (fullName : String) : List Endpoint :=
  (sr.endpoints.lookup fullName).getD []

namespace PersistentServiceRegistry

variable {psr psr' : PersistentServiceRegistry codec}

structure Saves (fullName : String) (psr psr' : PersistentServiceRegistry codec) : Prop where
  saved : (liveRecord codec psr'.store fullName).map (fun state => (state.service, state.endpoints)) =
    (psr'.registry.services.lookup fullName).map fun service => (service, psr'.registry.endpointsAt fullName)
  services : ∀ key, key ≠ fullName → psr'.registry.services.lookup key = psr.registry.services.lookup key
  endpoints : ∀ key, key ≠ fullName → psr'.registry.endpointsAt key = psr.registry.endpointsAt key
  records : ∀ key, key ≠ fullName → liveRecord codec psr'.store key = liveRecord codec psr.store key

variable {env : CallEnv}

lemma registry_writeState (hk : key = "service:" ++ state.service.fullName) :
    (psr.writeState env key state hk).2.registry = psr.registry := by
  unfold writeState
  split <;> rfl

variable {name fullName : String}

lemma liveRecord_writeState_cases (psr : PersistentServiceRegistry codec) (env : CallEnv)
    (hk : key = "service:" ++ state.service.fullName) :
    ((∃ err, (psr.writeState env key state hk).1 = some err) ∧ ∀ fullName,
      liveRecord codec (psr.writeState env key state hk).2.store fullName = liveRecord codec psr.store fullName) ∨
    ∀ fullName, liveRecord codec (psr.writeState env key state hk).2.store fullName =
      if fullName = state.service.fullName then (if state.deletedAt.isSome then none else some state)
      else liveRecord codec psr.store fullName := by
  unfold writeState
  split
  · exact .inl ⟨⟨_, rfl⟩, fun _ => rfl⟩
  · next d hm =>
    rcases (psr.store.set_cases env.raft key d).2 with ⟨hs, err, he⟩ | ⟨ca, ua, hs⟩
    · refine .inl ⟨⟨_, congrArg (Option.map _) he⟩, ?_⟩
      intro fullName
      rw [liveRecord, hs]
      rfl
    · refine .inr ?_
      intro fullName
      rw [liveRecord, hs, lookup_insert_if, hk]
      by_cases hn : fullName = state.service.fullName
      · rw [if_pos (congrArg _ hn), if_pos hn, Option.bind_some]
        dsimp only
        rw [codec.unmarshal_marshal hm]
      · rw [if_neg hn, if_neg fun he => hn (append_right_injective _ he)]
        rfl

lemma liveRecord_writeState
    {hk : key = "service:" ++ state.service.fullName} (h : (psr.writeState env key state hk).1 = none) :
    liveRecord codec (psr.writeState env key state hk).2.store fullName =
      if fullName = state.service.fullName then (if state.deletedAt.isSome then none else some state)
      else liveRecord codec psr.store fullName := by
  rcases psr.liveRecord_writeState_cases env hk with ⟨⟨err, he⟩, -⟩ | hl
  · rw [h] at he
    cases he
  · exact hl fullName

@[simp] lemma registry_persistService :
    (psr.persistService env service).2.registry = psr.registry := registry_writeState _

lemma liveRecord_persistService_cases (psr : PersistentServiceRegistry codec) (env : CallEnv) (service : Service) :
    (∀ fullName, liveRecord codec (psr.persistService env service).2.store fullName =
      liveRecord codec psr.store fullName) ∨
    ∀ fullName, (liveRecord codec (psr.persistService env service).2.store fullName).map
      ServicePersistentState.service = if fullName = service.fullName then some service
        else (liveRecord codec psr.store fullName).map ServicePersistentState.service := by
  refine (psr.liveRecord_writeState_cases env _).imp And.right ?_
  intro hl fullName
  refine (congrArg _ (hl fullName)).trans ?_
  split_ifs with hn hd
  · cases hd
  · rfl
  · rfl

lemma saves_persistService (hs : psr.registry.services.lookup service.fullName = some service)
    (h : (psr.persistService env service).1 = none) : Saves service.fullName psr (psr.persistService env service).2 where
  saved := by
    rw [registry_persistService, hs]
    refine (congrArg _ (liveRecord_writeState h)).trans ?_
    rw [if_pos rfl]
    rfl
  services := by
    intro key _
    rw [registry_persistService]
  endpoints := by
    intro key _
    rw [registry_persistService]
  records := by
    intro key hk
    exact (liveRecord_writeState h).trans (if_neg hk)

lemma Saves.after {r : ServiceRegistry} (h : Saves fullName (psr.withRegistry r) psr')
    (hs : ∀ key, key ≠ fullName → r.services.lookup key = psr.registry.services.lookup key)
    (he : ∀ key, key ≠ fullName → r.endpointsAt key = psr.registry.endpointsAt key) : Saves fullName psr psr' where
  saved := h.saved
  services key hk := (h.services key hk).trans (hs key hk)
  endpoints key hk := (h.endpoints key hk).trans (he key hk)
  records := h.records

lemma registerService_eq_none (h : (psr.registerService env service).1 = none) :
    ∃ ip p, assign service psr.registry.ipPool = (.ok ip, p) ∧ (psr.registerService env service).2.registry =
        storeService { service with virtualIP := ip, createdAt := env.now 0, updatedAt := env.now 1 }
          { psr.registry with ipPool := p } := by
  rw [registerService] at h ⊢
  rcases psr.registry.registerService_cases env.now service with ⟨err, hr⟩ | ⟨ip, p, ha, hr⟩
  · rw [hr] at h
    cases h
  · rw [hr]
    exact ⟨ip, p, ha, registry_persistService⟩

lemma saves_registerService (h : (psr.registerService env service).1 = none) :
    Saves service.fullName psr (psr.registerService env service).2 := by
  rw [registerService] at h ⊢
  rcases psr.registry.registerService_cases env.now service with ⟨err, hr⟩ | ⟨ip, p, -, hr⟩
  · rw [hr] at h
    cases h
  · rw [hr] at h ⊢
    refine (saves_persistService ?_ h).after ?_ ?_
    · exact (lookup_storeService _ _).trans (if_pos rfl)
    · intro key hk
      exact (lookup_storeService _ _).trans (if_neg hk)
    · intro key _
      rfl

variable {serviceName ns : String}

lemma saves_persistNamed (h : (psr.persistNamed env serviceName ns).1 = none) :
    Saves (getFullServiceName serviceName ns) psr (psr.persistNamed env serviceName ns).2 := by
  rw [persistNamed] at h ⊢
  cases hg : psr.registry.getService serviceName ns with
  | error err =>
    rw [hg] at h
    cases h
  | ok service =>
    rw [hg] at h
    rw [getService] at hg
    split at hg
    · next hl =>
      cases hg
      have hk := psr.registry.keyed hl
      rw [← hk] at hl ⊢
      exact saves_persistService hl h
    · cases hg

@[simp] lemma registry_persistNamed {serviceName ns : String} :
    (psr.persistNamed env serviceName ns).2.registry = psr.registry := by
  rw [persistNamed]
  split
  · rfl
  · exact registry_persistService

@[simp] lemma registry_registerEndpoint (env : CallEnv) (serviceName ns : String) (endpoint : Endpoint) :
    (psr.registerEndpoint env serviceName ns endpoint).2.registry =
      psr.registry.registerEndpoint (env.now 0) serviceName ns endpoint := registry_persistNamed

@[simp] lemma registry_deregisterEndpoint (env : CallEnv) (serviceName ns endpointID : String) :
    (psr.deregisterEndpoint env serviceName ns endpointID).2.registry =
      psr.registry.deregisterEndpoint serviceName ns endpointID := registry_persistNamed

@[simp] lemma registry_updateEndpointHealth (env : CallEnv) (serviceName ns endpointID : String)
    (health : HealthStatus) : (psr.updateEndpointHealth env serviceName ns endpointID health).2.registry =
      (psr.registry.updateEndpointHealth serviceName ns endpointID health).2 := by
  rw [updateEndpointHealth]
  split
  · next he => rw [he]; rfl
  · next he => rw [he]; exact registry_persistNamed

lemma saves_registerEndpoint {e : Endpoint} (h : (psr.registerEndpoint env serviceName ns e).1 = none) :
    Saves (getFullServiceName serviceName ns) psr (psr.registerEndpoint env serviceName ns e).2 := by
  refine (saves_persistNamed h).after ?_ ?_
  · intro key hk
    rw [ServiceRegistry.registerEndpoint, getFullServiceName_orDefault, ServiceRegistry.lookup_touch, if_neg hk]
    rfl
  · intro key hk
    rw [ServiceRegistry.registerEndpoint, getFullServiceName_orDefault, ServiceRegistry.endpointsAt,
      endpoints_touch, lookup_endpoints_setEndpoints, if_neg hk]
    rfl

lemma saves_deregisterEndpoint {endpointID : String}
    (h : (psr.deregisterEndpoint env serviceName ns endpointID).1 = none) :
    Saves (getFullServiceName serviceName ns) psr (psr.deregisterEndpoint env serviceName ns endpointID).2 := by
  refine (saves_persistNamed h).after ?_ ?_
  · intro key _
    rw [services_deregisterEndpoint]
  · intro key hk
    rw [endpointsAt, lookup_endpoints_deregisterEndpoint, if_neg hk]
    rfl

lemma saves_updateEndpointHealth {endpointID : String} {health : HealthStatus}
    (h : (psr.updateEndpointHealth env serviceName ns endpointID health).1 = none) :
    Saves (getFullServiceName serviceName ns) psr
      (psr.updateEndpointHealth env serviceName ns endpointID health).2 := by
  rw [updateEndpointHealth] at h ⊢
  rcases psr.registry.updateEndpointHealth_cases serviceName ns endpointID health with ⟨err, hr⟩ | ⟨old, new, -, -, hr⟩
  · rw [hr] at h
    cases h
  · rw [hr] at h ⊢
    refine (saves_persistNamed h).after ?_ ?_
    · intro key _
      rfl
    · intro key hk
      rw [endpointsAt, lookup_endpoints_setEndpoints, if_neg hk]
      rfl

lemma registry_markServiceDeleted {ns : String} : (psr.markServiceDeleted env name ns).2.registry = psr.registry := by
  unfold markServiceDeleted
  split
  · rfl
  · split
    · rfl
    · exact registry_writeState _

lemma liveRecord_markServiceDeleted (h : (psr.markServiceDeleted env name ns).1 = none) :
    liveRecord codec (psr.markServiceDeleted env name ns).2.store fullName =
      if fullName = getFullServiceName name ns then none else liveRecord codec psr.store fullName := by
  unfold markServiceDeleted at h ⊢
  split at h
  · cases h
  · next d hg =>
    split at h
    · cases h
    · next state hu =>
      have hk := append_right_injective _ (getServiceKey_of_get hg hu)
      rw [hk]
      exact liveRecord_writeState h

lemma registry_deregisterService (env : CallEnv) (name ns : String) :
    (psr.deregisterService env name ns).2.registry = psr.registry.deregisterService name ns :=
  registry_markServiceDeleted

lemma saves_deregisterService (h : (psr.deregisterService env name ns).1 = none) :
    Saves (getFullServiceName name ns) psr (psr.deregisterService env name ns).2 where
  saved := by
    rw [deregisterService] at h ⊢
    rw [liveRecord_markServiceDeleted h, if_pos rfl, registry_markServiceDeleted, withRegistry,
      deregisterService_eq]
    dsimp only
    rw [lookup_removeService, if_pos rfl]
    rfl
  services := by
    intro key hk
    rw [deregisterService, registry_markServiceDeleted, withRegistry, deregisterService_eq]
    dsimp only
    rw [lookup_removeService, if_neg hk]
  endpoints := by
    intro key hk
    rw [deregisterService, registry_markServiceDeleted, withRegistry, deregisterService_eq]
    dsimp only
    rw [endpointsAt, lookup_endpoints_removeService, if_neg hk]
    rfl
  records := by
    intro key hk
    rw [deregisterService] at h ⊢
    rw [liveRecord_markServiceDeleted h, if_neg hk]
    rfl

end PersistentServiceRegistry

def Service.core (service : Service) : Service := { service with createdAt := 0, updatedAt := 0 }

def ServiceRegistry.view (sr : ServiceRegistry) (fullName : String) : Option Service × List Endpoint :=
  ((sr.services.lookup fullName).map Service.core, sr.endpointsAt fullName)

section Reload

variable {sr : ServiceRegistry} {now : ℕ → Time} {fullName : String}

lemma view_storeService : (sr.storeService service).view key =
      if key = service.fullName then (some service.core, sr.endpointsAt key) else sr.view key := by
  rw [view, lookup_storeService]
  split_ifs <;> rfl

lemma view_registerEndpoint {now : Time} {serviceName ns : String} {e : Endpoint} :
    (sr.registerEndpoint now serviceName ns e).view key =
      if key = getFullServiceName serviceName ns then ((sr.view key).1, putEndpoint e (sr.view key).2)
      else sr.view key := by
  rw [registerEndpoint, getFullServiceName_orDefault, view, lookup_touch,
    endpointsAt, endpoints_touch, lookup_endpoints_setEndpoints,
    services_setEndpoints]
  split_ifs with hk
  · rw [hk, Option.map_map]
    rfl
  · rfl

def putEndpoints (endpoints new : List Endpoint) : List Endpoint :=
  new.foldl (fun endpoints endpoint => putEndpoint endpoint endpoints) endpoints

variable {es : List Endpoint}

lemma view_loadEndpoints {i : ℕ} : (loadEndpoints now service i es sr).view key =
      if key = service.fullName then ((sr.view key).1, putEndpoints (sr.view key).2 es) else sr.view key := by
  induction es generalizing i sr with
  | nil =>
    split_ifs
    · rfl
    · rfl
  | cons e r ih =>
    rw [loadEndpoints, ih, view_registerEndpoint]
    split_ifs with hk hk'
    · rfl
    · exact absurd hk hk'
    · next hk' => exact absurd hk' hk
    · rfl

lemma ipPool_loadEndpoints {i : ℕ} : (loadEndpoints now service i es sr).ipPool = sr.ipPool := by
  induction es generalizing i sr with
  | nil => rfl
  | cons e r ih => rw [loadEndpoints, ih, ipPool_registerEndpoint]

variable {store : RaftStore V}

lemma get_of_recorded (hr : Recorded codec store) (now : Time) {e : Entry V} (hp : hasPrefix key "service:" = true)
    (hl : store.fsm.data.lookup key = some e) : store.fsm.get now key = .ok e.value := by
  rw [FSM.get, hl]
  dsimp only
  rw [(hr hp hl).1]
  exact if_neg (by simp [expired])

lemma fullName_of_liveRecord (hr : Recorded codec store)
    (h : liveRecord codec store fullName = some state) : state.service.fullName = fullName := by
  rw [liveRecord] at h
  obtain ⟨e, hl, he⟩ := Option.bind_eq_some_iff.mp h
  split at he
  · cases he
  · next s' hu =>
    split_ifs at he
    cases he
    exact (append_right_injective _ ((hr (hasPrefix_append _ _) hl).2 state hu)).symm

lemma loadService_eq (hr : Recorded codec store) (now : ℕ → Time) (fullName : String) :
    loadService codec now store sr ("service:" ++ fullName) = match liveRecord codec store fullName with
      | none => sr
      | some state => match sr.registerService (fun i => now (i + 1)) state.service with
        | (.error _, sr) => sr
        | (.ok service, sr) => loadEndpoints now service 3 state.endpoints sr := by
  rw [loadService, liveRecord]
  cases hl : store.fsm.data.lookup ("service:" ++ fullName) with
  | none =>
    rw [FSM.get, hl]
    rfl
  | some e =>
    rw [get_of_recorded hr (now 0) (hasPrefix_append _ _) hl, Option.bind_some]
    dsimp only
    cases codec.unmarshal e.value with
    | error err => rfl
    | ok state =>
      dsimp only
      cases state.deletedAt <;> rfl

lemma view_loadService (hr : Recorded codec store)
    (hvip : ∀ fullName state, liveRecord codec store fullName = some state → state.service.virtualIP ≠ "") :
    (loadService codec now store sr ("service:" ++ fullName)).ipPool = sr.ipPool ∧
    ∀ key, (loadService codec now store sr ("service:" ++ fullName)).view key =
      if key = fullName then (liveRecord codec store fullName).elim (sr.view key) fun state =>
          (some state.service.core, putEndpoints (sr.view key).2 state.endpoints) else sr.view key := by
  rw [loadService_eq hr]
  cases hl : liveRecord codec store fullName with
  | none =>
    refine ⟨rfl, ?_⟩
    intro key
    split_ifs <;> rfl
  | some state =>
    have ha : assign state.service sr.ipPool = (.ok state.service.virtualIP, sr.ipPool) := by
      rw [assign, if_neg (hvip fullName state hl)]
    dsimp only
    rw [registerService, ha]
    refine ⟨ipPool_loadEndpoints, ?_⟩
    intro key
    rw [← fullName_of_liveRecord hr hl]
    by_cases hk : key = state.service.fullName
    · rw [if_pos hk]
      refine view_loadEndpoints.trans ((if_pos hk).trans ?_)
      rw [view_storeService]
      exact congrArg (fun v : Option Service × List Endpoint => (v.1, putEndpoints v.2 state.endpoints)) (if_pos hk)
    · rw [if_neg hk]
      refine view_loadEndpoints.trans ((if_neg hk).trans ?_)
      exact view_storeService.trans (if_neg hk)

def viewAt (sr : ServiceRegistry) (key : String) : Option Service × List Endpoint :=
  if hasPrefix key "service:" then sr.view (trimPrefix key "service:") else (none, [])

lemma viewAt_serviceKey {sr : ServiceRegistry} : viewAt sr ("service:" ++ fullName) = sr.view fullName := by
  rw [viewAt, if_pos (hasPrefix_append _ _), trimPrefix_append]

lemma viewAt_congr {sr' : ServiceRegistry} (h : ∀ key, key ≠ fullName → sr'.view key = sr.view key)
    (hk : key ≠ "service:" ++ fullName) : viewAt sr' key = viewAt sr key := by
  rw [viewAt, viewAt]
  split_ifs with hp
  · apply h
    rintro rfl
    exact hk (eq_append_of_hasPrefix hp)
  · rfl

def loadEntry (codec : Codec ServicePersistentState V) (env : LoadEnv) (store : RaftStore V) (sr : ServiceRegistry)
    (key : String) : ServiceRegistry :=
  if hasPrefix key "service:" then loadService codec (env.clock key) store sr key else sr

lemma loadFromRAFT_eq (env : LoadEnv) (store : RaftStore V) : loadFromRAFT codec env store sr =
      (env.order.entries (store.fsm.getAll env.now)).foldl (fun sr e => loadEntry codec env store sr e.1) sr := by
  rw [loadFromRAFT, listKeys, List.foldl_filter, List.foldl_map]
  rfl

section

variable (hr : Recorded codec store)
  (hvip : ∀ fullName state, liveRecord codec store fullName = some state → state.service.virtualIP ≠ "") (env : LoadEnv)

include hr hvip

lemma ipPool_loadEntry (key : String) : (loadEntry codec env store sr key).ipPool = sr.ipPool := by
  rw [loadEntry]
  split_ifs with hp
  · obtain ⟨fullName, rfl⟩ : ∃ fullName, key = "service:" ++ fullName := ⟨_, eq_append_of_hasPrefix hp⟩
    exact (view_loadService hr hvip).1
  · rfl

lemma viewAt_loadEntry_of_ne {key' : String} (hk : key' ≠ key) :
    viewAt (loadEntry codec env store sr key) key' = viewAt sr key' := by
  rw [loadEntry]
  split_ifs with hp
  · obtain ⟨fullName, rfl⟩ : ∃ fullName, key = "service:" ++ fullName := ⟨_, eq_append_of_hasPrefix hp⟩
    refine viewAt_congr ?_ hk
    intro j hj
    rw [(view_loadService hr hvip).2 j, if_neg hj]
  · rfl

def loadedView (codec : Codec ServicePersistentState V) (store : RaftStore V) (key : String)
    (view : Option Service × List Endpoint) : Option Service × List Endpoint :=
  if hasPrefix key "service:" then
    (liveRecord codec store (trimPrefix key "service:")).elim view fun state =>
      (some state.service.core, putEndpoints view.2 state.endpoints)
  else view

lemma viewAt_loadEntry (key : String) :
    viewAt (loadEntry codec env store sr key) key = loadedView codec store key (viewAt sr key) := by
  rw [loadEntry, loadedView]
  split_ifs with hp
  · obtain ⟨fullName, rfl⟩ : ∃ fullName, key = "service:" ++ fullName := ⟨_, eq_append_of_hasPrefix hp⟩
    rw [viewAt_serviceKey, viewAt_serviceKey, trimPrefix_append, (view_loadService hr hvip).2, if_pos rfl]
  · rfl

lemma ipPool_loadFromRAFT : (loadFromRAFT codec env store sr).ipPool = sr.ipPool := by
  rw [loadFromRAFT_eq]
  refine run_preserves (fun r : ServiceRegistry => r.ipPool = sr.ipPool) _ ?_ rfl
  intro r e _ h
  rw [ipPool_loadEntry hr hvip, h]

lemma view_loadFromRAFT (hs : ∀ fullName, sr.view fullName = (none, [])) (fullName : String) :
    (loadFromRAFT codec env store sr).view fullName =
      ((liveRecord codec store fullName).map fun state => state.service.core,
        (liveRecord codec store fullName).elim [] fun state => putEndpoints [] state.endpoints) := by
  rw [loadFromRAFT_eq, ← viewAt_serviceKey,
    foldl_read (fun sr key _ => loadEntry codec env store sr key) viewAt (fun key _ => loadedView codec store key)
      (env.order.enumerates _) (fun s k _ _ => viewAt_loadEntry hr hvip env k)
      (fun s k _ j _ hj => viewAt_loadEntry_of_ne hr hvip env hj), viewAt_serviceKey, hs]
  cases hl : liveRecord codec store fullName with
  | none =>
    cases (store.fsm.getAll env.now).lookup ("service:" ++ fullName) with
    | none => rfl
    | some d =>
      rw [Option.elim_some, loadedView, if_pos (hasPrefix_append _ _), trimPrefix_append, hl]
      rfl
  | some state =>
    rw [liveRecord] at hl
    obtain ⟨e, he, -⟩ := Option.bind_eq_some_iff.mp hl
    have hg : (store.fsm.getAll env.now).lookup ("service:" ++ fullName) = some e.value := by
      rw [FSM.getAll, lookup_filterMap, he, Option.bind_some, (hr (hasPrefix_append _ _) he).1]
      exact if_neg (by simp [expired])
    rw [hg, Option.elim_some, loadedView, if_pos (hasPrefix_append _ _), trimPrefix_append, liveRecord, hl]
    rfl

end

lemma view_of_empty (h : sr.services = ∅ ∧ sr.endpoints = ∅) (fullName : String) : sr.view fullName = (none, []) := by
  rw [view, endpointsAt, h.1, h.2]
  rfl

variable {pc : String → Except String IPNet}

lemma newServiceRegistry_eq_ok {c : String} (h : newServiceRegistry pc c = .ok sr) :
    (sr.services = ∅ ∧ sr.endpoints = ∅) ∧ newIPPool pc c = .ok sr.ipPool := by
  rw [newServiceRegistry] at h
  split at h
  · cases h
  · next p hp =>
    cases h
    exact ⟨⟨rfl, rfl⟩, hp⟩

lemma newPersistentServiceRegistry_eq_ok {c : String} {env : LoadEnv}
    {re : Recorded codec store} {psr : PersistentServiceRegistry codec}
    (h : newPersistentServiceRegistry pc c env store re = .ok psr) :
    ∃ r, newServiceRegistry pc c = .ok r ∧ psr.registry = loadFromRAFT codec env store r ∧ psr.store = store := by
  unfold newPersistentServiceRegistry at h
  split at h
  · cases h
  · next r hreg =>
    cases h
    exact ⟨r, hreg, rfl, rfl⟩

end Reload

section Sample

def serviceNet : IPNet where
  ip4 := some 0x0A600000
  hostBits := 20
  masked := by
    rintro _ ⟨⟩
    decide

lemma serviceNet_not_offers : ¬serviceNet.Offers "fd00::1" := by
  rintro ⟨networkUint, host, -, -, he⟩
  have hd := dot_mem_uint32ToIP (networkUint + (serviceNet.startOffset + host))
  rw [← he] at hd
  exact absurd hd (by decide)

def plainCodec : Codec ServicePersistentState ServicePersistentState := ⟨.ok, .ok, fun h => h.symm ▸ rfl⟩

def bareService (name ns virtualIP : String) : Service := ⟨name, ns, virtualIP, [], .tcp, 80, ∅, 0, 0⟩

def emptyStore : RaftStore ServicePersistentState := ⟨newFSM, [], true, "", ""⟩

lemma lookup_emptyStore (key : String) : emptyStore.fsm.data.lookup key = none := rfl

lemma recorded_emptyStore : Recorded plainCodec emptyStore := by
  intro key e _ h
  rw [lookup_emptyStore] at h
  cases h

def calmCall : CallEnv := ⟨fun _ => 0, .committed, fun _ => 0⟩

def calmLoad : LoadEnv := ⟨0, fun _ _ => 0, sortedOrder⟩

def emptyRegistry : ServiceRegistry :=
  ⟨∅, ∅, ∅, ⟨serviceNet, ∅, serviceNet.startOffset⟩, @keyed_empty, addressed_empty⟩

lemma emptyRegistry_new : newServiceRegistry (fun _ => .ok serviceNet) "" = .ok emptyRegistry := rfl

def freshRegistry : PersistentServiceRegistry plainCodec :=
  ⟨loadFromRAFT plainCodec calmLoad emptyStore emptyRegistry, emptyStore, recorded_emptyStore⟩

lemma freshRegistry_new : newPersistentServiceRegistry (fun _ => .ok serviceNet) "" calmLoad emptyStore
    recorded_emptyStore = .ok freshRegistry := rfl

end Sample

end Cloudless.Overlay
