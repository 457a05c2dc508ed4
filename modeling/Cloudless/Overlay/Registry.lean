import Cloudless.Foundations.GoStd
import Cloudless.Foundations.MapLoops
import Cloudless.Overlay.IPPool

namespace Cloudless.Overlay

open Foundations FiniteMaps GoStd MapLoops

inductive HealthStatus
  | healthy
  | unhealthy
  | unknown
  deriving DecidableEq

inductive Protocol
  | unset
  | tcp
  | udp
  deriving DecidableEq

structure Endpoint where
  (id peerID address : String)
  port : ℤ
  weight : Int64
  health : HealthStatus
  (region zone : String)
  metadata : FMap String String
  deriving DecidableEq

structure Service where
  (name ns virtualIP : String)
  endpoints : List Endpoint
  protocol : Protocol
  port : ℤ
  labels : FMap String String
  (createdAt updatedAt : Time)
  deriving DecidableEq

def orDefault (ns : String) : String := if ns = "" then "default" else ns

@[simp] lemma orDefault_orDefault {ns : String} : orDefault (orDefault ns) = orDefault ns := by
  rw [orDefault, orDefault]
  split_ifs with h h'
  · rfl
  · rfl
  · rfl

def getFullServiceName (name ns : String) : String := name ++ "." ++ orDefault ns

@[simp] lemma getFullServiceName_orDefault (n ns : String) :
    getFullServiceName n (orDefault ns) = getFullServiceName n ns := by
  rw [getFullServiceName, getFullServiceName, orDefault_orDefault]

namespace Service

def fullName (service : Service) : String := getFullServiceName service.name service.ns

def identity (service : Service) : String × String := (service.name, orDefault service.ns)

def fullNameOf (id : String × String) : String := getFullServiceName id.1 id.2

@[simp] lemma fullNameOf_identity (service : Service) : fullNameOf service.identity = service.fullName :=
  getFullServiceName_orDefault service.name service.ns

end Service

structure ServiceRegistry where
  services : FMap String Service
  endpoints : FMap String (List Endpoint)
  virtualIPs : FMap String String
  ipPool : IPPool
  keyed : ∀ {key service}, services.lookup key = some service → service.fullName = key
  addressed : ∀ key, virtualIPs.lookup key = (services.lookup key).map Service.virtualIP

lemma keyed_empty {key : String} {service : Service} (h : (∅ : FMap String Service).lookup key = some service) :
    service.fullName = key := absurd h (by simp)

lemma addressed_empty (key : String) :
    (∅ : FMap String String).lookup key = ((∅ : FMap String Service).lookup key).map Service.virtualIP := rfl

def newServiceRegistry (parseCIDR : String → Except String IPNet) (cidr : String) : Except String ServiceRegistry :=
  match newIPPool parseCIDR cidr with
  | .error err => .error ("failed to create IP pool: " ++ err)
  | .ok ipPool =>
    .ok { services := ∅, endpoints := ∅, virtualIPs := ∅, ipPool := ipPool,
          keyed := @keyed_empty, addressed := addressed_empty }

namespace ServiceRegistry

def storeService (service : Service) (sr : ServiceRegistry) : ServiceRegistry where
  services := sr.services.insert service.fullName service
  endpoints := sr.endpoints
  virtualIPs := sr.virtualIPs.insert service.fullName service.virtualIP
  ipPool := sr.ipPool
  keyed := by
    intro key other h
    rw [lookup_insert_if] at h
    split_ifs at h with hk
    · cases h
      exact hk.symm
    · exact sr.keyed h
  addressed := by
    intro key
    rw [lookup_insert_if, lookup_insert_if, sr.addressed]
    split_ifs <;> rfl

def assign (service : Service) (pool : IPPool) : Except String String × IPPool :=
  if service.virtualIP = "" then
    match pool.allocate with
    | (.error err, pool) => (.error ("failed to allocate virtual IP: " ++ err), pool)
    | (.ok ip, pool) => (.ok ip, pool)
  else (.ok service.virtualIP, pool)

def registerService (now : ℕ → Time) (service : Service) (sr : ServiceRegistry) :
    Except String Service × ServiceRegistry :=
  match assign service sr.ipPool with
  | (.error err, pool) => (.error err, { sr with ipPool := pool })
  | (.ok ip, pool) =>
    let service := { service with virtualIP := ip, createdAt := now 0, updatedAt := now 1 }
    (.ok service, storeService service { sr with ipPool := pool })

def removeService (fullName : String) (sr : ServiceRegistry) : ServiceRegistry where
  services := sr.services.erase fullName
  endpoints := sr.endpoints.erase fullName
  virtualIPs := sr.virtualIPs.erase fullName
  ipPool := sr.ipPool
  keyed := by
    intro key service h
    rw [lookup_erase_if] at h
    split_ifs at h
    exact sr.keyed h
  addressed := by
    intro key
    rw [lookup_erase_if, lookup_erase_if, sr.addressed]
    split_ifs <;> rfl

def deregisterService (name ns : String) (sr : ServiceRegistry) : ServiceRegistry :=
  let fullName := getFullServiceName name (orDefault ns)
  match sr.virtualIPs.lookup fullName with
  | some vip => removeService fullName { sr with ipPool := sr.ipPool.release vip }
  | none => removeService fullName sr

def getService (name ns : String) (sr : ServiceRegistry) : Except String Service :=
  match sr.services.lookup (getFullServiceName name ns) with
  | some service => .ok service
  | none => .error ("service not found: " ++ ns ++ "/" ++ name)

def setEndpoints (fullName : String) (endpoints : List Endpoint) (sr : ServiceRegistry) : ServiceRegistry :=
  { sr with endpoints := sr.endpoints.insert fullName endpoints }

def modifyService (fullName : String) (change : Service → Service)
    (hchange : ∀ service, (change service).fullName = service.fullName ∧ (change service).virtualIP = service.virtualIP)
    (sr : ServiceRegistry) : ServiceRegistry :=
  match hs : sr.services.lookup fullName with
  | none => sr
  | some service =>
    { sr with
      services := sr.services.insert fullName (change service)
      keyed := by
        intro key other h
        rw [lookup_insert_if] at h
        split_ifs at h with hk
        · cases h
          rw [hk, (hchange service).1, sr.keyed hs]
        · exact sr.keyed h
      addressed := by
        intro key
        rw [lookup_insert_if, sr.addressed]
        split_ifs with hk
        · rw [hk, hs, Option.map_some, Option.map_some, (hchange service).2]
        · rfl }

def touch (now : Time) (fullName : String) : ServiceRegistry → ServiceRegistry :=
  modifyService fullName (fun service => { service with updatedAt := now }) fun _ => ⟨rfl, rfl⟩

def putEndpoint (endpoint : Endpoint) : List Endpoint → List Endpoint
  | [] => [endpoint]
  | ep :: rest => if ep.id = endpoint.id then endpoint :: rest else ep :: putEndpoint endpoint rest

def registerEndpoint (now : Time) (serviceName ns : String) (endpoint : Endpoint) (sr : ServiceRegistry) :
    ServiceRegistry :=
  let fullName := getFullServiceName serviceName (orDefault ns)
  touch now fullName
    (sr.setEndpoints fullName (putEndpoint endpoint ((sr.endpoints.lookup fullName).getD [])))

def deregisterEndpoint (serviceName ns endpointID : String) (sr : ServiceRegistry) : ServiceRegistry :=
  let fullName := getFullServiceName serviceName (orDefault ns)
  match sr.endpoints.lookup fullName with
  | none => sr
  | some endpoints =>
    match endpoints.filter fun ep => ep.id ≠ endpointID with
    | [] => { sr with endpoints := sr.endpoints.erase fullName }
    | newEndpoints => sr.setEndpoints fullName newEndpoints

def getEndpoints (serviceName ns : String) (sr : ServiceRegistry) : List Endpoint :=
  (sr.endpoints.lookup (getFullServiceName serviceName ns)).getD []

def getHealthyEndpoints (serviceName ns : String) (sr : ServiceRegistry) : List Endpoint :=
  (sr.getEndpoints serviceName ns).filter fun ep => ep.health = .healthy

def setHealth (endpointID : String) (health : HealthStatus) : List Endpoint → Option (List Endpoint)
  | [] => none
  | ep :: rest =>
    if ep.id = endpointID then some ({ ep with health := health } :: rest)
    else (setHealth endpointID health rest).map (ep :: ·)

def updateEndpointHealth (serviceName ns endpointID : String) (health : HealthStatus) (sr : ServiceRegistry) :
    Option String × ServiceRegistry :=
  let fullName := getFullServiceName serviceName (orDefault ns)
  match (sr.endpoints.lookup fullName).bind (setHealth endpointID health) with
  | none => (some ("endpoint not found: " ++ endpointID), sr)
  | some endpoints => (none, sr.setEndpoints fullName endpoints)

def resolveService (serviceName ns : String) (sr : ServiceRegistry) : Except String String :=
  match sr.virtualIPs.lookup (getFullServiceName serviceName ns) with
  | some vip => .ok vip
  | none => .error ("service not found: " ++ ns ++ "/" ++ serviceName)

def reverseLookup (order : MapOrder) (virtualIP : String) (sr : ServiceRegistry) : Except String Service :=
  match (order.entries sr.virtualIPs).findSome? fun e => if e.2 = virtualIP then sr.services.lookup e.1 else none with
  | some service => .ok service
  | none => .error ("service not found for IP: " ++ virtualIP)

-- The service and the registry keep the caller's list; it is a value here, which no later change reaches.
def updateEndpoints (now : Time) (serviceName ns : String) (endpoints : List Endpoint) (sr : ServiceRegistry) :
    ServiceRegistry :=
  let fullName := getFullServiceName serviceName ns
  modifyService fullName (fun service => { service with updatedAt := now, endpoints := endpoints }) (fun _ => ⟨rfl, rfl⟩)
    (sr.setEndpoints fullName endpoints)

variable {sr : ServiceRegistry}

@[ext] lemma ext {a b : ServiceRegistry} (hs : a.services = b.services) (he : a.endpoints = b.endpoints)
    (hv : a.virtualIPs = b.virtualIPs) (hp : a.ipPool = b.ipPool) : a = b := by
  cases a
  cases b
  cases hs
  cases he
  cases hv
  cases hp
  rfl

section Lookups

variable (service : Service) (fullName key : String) (endpoints : List Endpoint)

@[simp] lemma lookup_storeService : (sr.storeService service).services.lookup key =
      if key = service.fullName then some service else sr.services.lookup key := lookup_insert_if _ _ _ _

@[simp] lemma ipPool_storeService : (sr.storeService service).ipPool = sr.ipPool := rfl

@[simp] lemma lookup_removeService :
    (sr.removeService fullName).services.lookup key = if key = fullName then none else sr.services.lookup key :=
  lookup_erase_if _ _ _

@[simp] lemma lookup_endpoints_removeService :
    (sr.removeService fullName).endpoints.lookup key = if key = fullName then none else sr.endpoints.lookup key :=
  lookup_erase_if _ _ _

@[simp] lemma services_setEndpoints : (sr.setEndpoints fullName endpoints).services = sr.services := rfl

@[simp] lemma lookup_endpoints_setEndpoints : (sr.setEndpoints fullName endpoints).endpoints.lookup key =
      if key = fullName then some endpoints else sr.endpoints.lookup key := lookup_insert_if _ _ _ _

@[simp] lemma ipPool_setEndpoints : (sr.setEndpoints fullName endpoints).ipPool = sr.ipPool := rfl

variable {change : Service → Service}
  {hchange : ∀ service, (change service).fullName = service.fullName ∧ (change service).virtualIP = service.virtualIP}

@[simp] lemma lookup_modifyService : (sr.modifyService fullName change hchange).services.lookup key =
      if key = fullName then (sr.services.lookup fullName).map change else sr.services.lookup key := by
  unfold modifyService
  split
  · next hs =>
    split_ifs with hk
    · rw [hk, hs, Option.map_none]
    · rfl
  · next service hs =>
    refine (lookup_insert_if _ _ _ _).trans ?_
    rw [hs, Option.map_some]

@[simp] lemma endpoints_modifyService : (sr.modifyService fullName change hchange).endpoints = sr.endpoints := by
  unfold modifyService
  split <;> rfl

@[simp] lemma ipPool_modifyService : (sr.modifyService fullName change hchange).ipPool = sr.ipPool := by
  unfold modifyService
  split <;> rfl

@[simp] lemma virtualIPs_modifyService : (sr.modifyService fullName change hchange).virtualIPs = sr.virtualIPs := by
  unfold modifyService
  split <;> rfl

@[simp] lemma endpoints_touch (now : Time) : (sr.touch now fullName).endpoints = sr.endpoints :=
  endpoints_modifyService fullName

@[simp] lemma ipPool_touch {now : Time} : (sr.touch now fullName).ipPool = sr.ipPool := ipPool_modifyService fullName

@[simp] lemma lookup_touch (now : Time) : (sr.touch now fullName).services.lookup key =
      if key = fullName then (sr.services.lookup fullName).map fun service => { service with updatedAt := now }
      else sr.services.lookup key := lookup_modifyService fullName key

end Lookups

variable {service : Service}

lemma assign_eq_error {pool pool' : IPPool} {err : String}
    (h : assign service pool = (.error err, pool')) : pool' = pool := by
  rw [assign] at h
  split_ifs at h with hv
  · rcases pool.allocate_cases with ⟨err', he⟩ | ⟨ip, p, he, -⟩
    · rw [he] at h
      cases h
      rfl
    · rw [he] at h
      cases h
  · cases h

lemma assign_ne_empty {po p' : IPPool} {ip : String} (h : assign service po = (.ok ip, p')) : ip ≠ "" := by
  rw [assign] at h
  split_ifs at h with hv
  · rcases po.allocate_cases with ⟨err', he⟩ | ⟨ip', p, he, -, -, hne, -⟩
    · rw [he] at h
      cases h
    · rw [he] at h
      cases h
      exact hne
  · cases h
    exact hv

lemma registerService_cases (now : ℕ → Time) (service : Service) (sr : ServiceRegistry) :
    (∃ err, sr.registerService now service = (.error err, sr)) ∨
    ∃ ip p, assign service sr.ipPool = (.ok ip, p) ∧ sr.registerService now service =
      (.ok { service with virtualIP := ip, createdAt := now 0, updatedAt := now 1 },
        storeService { service with virtualIP := ip, createdAt := now 0, updatedAt := now 1 }
          { sr with ipPool := p }) := by
  rw [registerService]
  cases ha : assign service sr.ipPool with
  | mk r p =>
    cases r with
    | error err =>
      rw [assign_eq_error ha]
      exact .inl ⟨err, rfl⟩
    | ok ip => exact .inr ⟨ip, p, rfl, rfl⟩

lemma deregisterService_eq (n ns : String) (sr : ServiceRegistry) :
    sr.deregisterService n ns = removeService (getFullServiceName n ns)
      { sr with ipPool := (sr.virtualIPs.lookup (getFullServiceName n ns)).elim sr.ipPool fun vip =>
          sr.ipPool.release vip } := by
  rw [deregisterService, getFullServiceName_orDefault]
  cases sr.virtualIPs.lookup (getFullServiceName n ns) <;> rfl

variable (sn ns : String) {vip : String} (endpointID : String)

lemma lookup_endpoints_deregisterEndpoint (key : String) (sr : ServiceRegistry) :
    ((sr.deregisterEndpoint sn ns endpointID).endpoints.lookup key).getD [] =
      if key = getFullServiceName sn ns then (sr.getEndpoints sn ns).filter fun ep => ep.id ≠ endpointID
      else (sr.endpoints.lookup key).getD [] := by
  rw [deregisterEndpoint, getFullServiceName_orDefault, getEndpoints]
  cases hl : sr.endpoints.lookup (getFullServiceName sn ns) with
  | none =>
    split_ifs with hk
    · rw [hk, hl]
      rfl
    · rfl
  | some endpoints =>
    rw [Option.getD_some]
    dsimp only
    cases hf : endpoints.filter fun ep => ep.id ≠ endpointID with
    | nil =>
      dsimp only
      rw [lookup_erase_if]
      split_ifs <;> rfl
    | cons ep r =>
      dsimp only
      rw [lookup_endpoints_setEndpoints]
      split_ifs <;> rfl

lemma services_deregisterEndpoint (sr : ServiceRegistry) :
    (sr.deregisterEndpoint sn ns endpointID).services = sr.services := by
  rw [deregisterEndpoint]
  split
  · rfl
  · split <;> rfl

variable (health : HealthStatus)

section Addresses

variable (now : Time) (sr : ServiceRegistry)

@[simp] lemma ipPool_registerEndpoint (e : Endpoint) : (sr.registerEndpoint now sn ns e).ipPool = sr.ipPool := by
  rw [registerEndpoint, ipPool_touch, ipPool_setEndpoints]

@[simp] lemma virtualIPs_registerEndpoint {e : Endpoint} :
    (sr.registerEndpoint now sn ns e).virtualIPs = sr.virtualIPs := by
  rw [registerEndpoint, touch, virtualIPs_modifyService]
  rfl

@[simp] lemma ipPool_deregisterEndpoint : (sr.deregisterEndpoint sn ns endpointID).ipPool = sr.ipPool := by
  rw [deregisterEndpoint]
  split
  · rfl
  · split <;> rfl

@[simp] lemma virtualIPs_deregisterEndpoint : (sr.deregisterEndpoint sn ns endpointID).virtualIPs = sr.virtualIPs := by
  rw [deregisterEndpoint]
  split
  · rfl
  · split <;> rfl

variable {endpoints : List Endpoint}

@[simp] lemma ipPool_updateEndpoints : (sr.updateEndpoints now sn ns endpoints).ipPool = sr.ipPool := by
  rw [updateEndpoints, ipPool_modifyService, ipPool_setEndpoints]

@[simp] lemma virtualIPs_updateEndpoints : (sr.updateEndpoints now sn ns endpoints).virtualIPs = sr.virtualIPs := by
  rw [updateEndpoints, virtualIPs_modifyService]
  rfl

@[simp] lemma ipPool_updateEndpointHealth : (sr.updateEndpointHealth sn ns endpointID health).2.ipPool = sr.ipPool := by
  rw [updateEndpointHealth]
  split <;> rfl

@[simp] lemma virtualIPs_updateEndpointHealth :
    (sr.updateEndpointHealth sn ns endpointID health).2.virtualIPs = sr.virtualIPs := by
  rw [updateEndpointHealth]
  split <;> rfl

end Addresses

lemma updateEndpointHealth_cases (sr : ServiceRegistry) :
    (∃ err, sr.updateEndpointHealth sn ns endpointID health = (some err, sr)) ∨
    ∃ old new, sr.endpoints.lookup (getFullServiceName sn ns) = some old ∧ setHealth endpointID health old = some new ∧
      sr.updateEndpointHealth sn ns endpointID health = (none, sr.setEndpoints (getFullServiceName sn ns) new) := by
  rw [updateEndpointHealth, getFullServiceName_orDefault]
  cases hl : sr.endpoints.lookup (getFullServiceName sn ns) with
  | none => exact .inl ⟨_, rfl⟩
  | some old =>
    cases hs : setHealth endpointID health old with
    | none =>
      simp only [Option.bind_some, hs]
      exact .inl ⟨_, rfl⟩
    | some new =>
      simp only [Option.bind_some, hs]
      exact .inr ⟨old, new, rfl, hs, rfl⟩

lemma resolveService_eq_ok {sn ns : String} : sr.resolveService sn ns = .ok vip ↔
      ∃ service, sr.services.lookup (getFullServiceName sn ns) = some service ∧ service.virtualIP = vip := by
  rw [resolveService, sr.addressed]
  cases sr.services.lookup (getFullServiceName sn ns) <;> simp

lemma of_reverseLookup_eq_ok {o : MapOrder} (h : sr.reverseLookup o vip = .ok service) :
    ∃ key, sr.services.lookup key = some service ∧ service.virtualIP = vip := by
  rw [reverseLookup] at h
  split at h
  · next f hf =>
    cases h
    obtain ⟨⟨key, ip⟩, hm, he⟩ := List.exists_of_findSome?_eq_some hf
    split_ifs at he with hip
    have hv := (o.enumerates sr.virtualIPs).mem.mp hm
    rw [sr.addressed, he, Option.map_some] at hv
    cases hv
    exact ⟨key, he, hip⟩
  · cases h

lemma exists_reverseLookup (order : MapOrder) {key : String}
    (h : sr.services.lookup key = some service) : ∃ found, sr.reverseLookup order service.virtualIP = .ok found := by
  have hv : sr.virtualIPs.lookup key = some service.virtualIP := by rw [sr.addressed, h, Option.map_some]
  rw [reverseLookup]
  split
  · exact ⟨_, rfl⟩
  · next hn =>
    have he := List.findSome?_eq_none_iff.mp hn (key, service.virtualIP) ((order.enumerates _).mem.mpr hv)
    rw [if_pos rfl, h] at he
    cases he

lemma exists_reverseLookup_iff : (∃ o, sr.reverseLookup o vip = .ok service) ↔
      ∃ key, sr.services.lookup key = some service ∧ service.virtualIP = vip := by
  constructor
  · rintro ⟨o, h⟩
    exact of_reverseLookup_eq_ok h
  · rintro ⟨key, hs, rfl⟩
    have hv : sr.virtualIPs.lookup key = some service.virtualIP := by rw [sr.addressed, hs, Option.map_some]
    refine ⟨frontOrder key, ?_⟩
    rw [reverseLookup, frontOrder]
    simp only [hv, List.findSome?_cons, if_true, hs]

end ServiceRegistry

end Cloudless.Overlay
