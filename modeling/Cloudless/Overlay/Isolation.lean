import Cloudless.Foundations.Noninterference
import Cloudless.Overlay.LoadBalancer
import Cloudless.Overlay.Persistence

/-! What the calls for one service change for the others: the load balancer keeps services apart by their names alone. -/

namespace Cloudless.Overlay

open Foundations FiniteMaps GoStd Noninterference ServiceRegistry

/-- The calls of the registry and the load balancer. A failure is recorded for a service, although the namespace is not
passed on. -/
inductive OverlayCall
  | registerService (now : ℕ → Time) (service : Service)
  | deregisterService (name ns : String)
  | registerEndpoint (now : Time) (serviceName ns : String) (endpoint : Endpoint)
  | deregisterEndpoint (serviceName ns endpointID : String)
  | updateEndpointHealth (serviceName ns endpointID : String) (health : HealthStatus)
  | updateEndpoints (now : Time) (serviceName : String) (endpoints : List Endpoint)
  | getService (name ns : String)
  | getEndpoints (serviceName ns : String)
  | getHealthyEndpoints (serviceName ns : String)
  | resolveService (serviceName ns : String)
  | selectEndpoint (now : ℕ → Time) (serviceName ns clientAddr : String)
  | recordFailure (serviceName ns endpointID : String)
  | incrementActiveConnections (endpointID : String)
  | decrementActiveConnections (endpointID : String)

inductive Answer
  | done (err : Option String)
  | service (result : Except String Service)
  | endpoints (endpoints : List Endpoint)
  | address (result : Except String String)
  | endpoint (result : Except String Endpoint)

def OverlayCall.target : OverlayCall → Option (String × String)
  | .registerService _ service => some service.identity
  | .deregisterService name ns => some (name, orDefault ns)
  | .registerEndpoint _ serviceName ns _ => some (serviceName, orDefault ns)
  | .deregisterEndpoint serviceName ns _ => some (serviceName, orDefault ns)
  | .updateEndpointHealth serviceName ns _ _ => some (serviceName, orDefault ns)
  | .updateEndpoints _ serviceName _ => some (serviceName, "default")
  | .getService name ns => some (name, orDefault ns)
  | .getEndpoints serviceName ns => some (serviceName, orDefault ns)
  | .getHealthyEndpoints serviceName ns => some (serviceName, orDefault ns)
  | .resolveService serviceName ns => some (serviceName, orDefault ns)
  | .selectEndpoint _ serviceName ns _ => some (serviceName, orDefault ns)
  | .recordFailure serviceName ns _ => some (serviceName, orDefault ns)
  | .incrementActiveConnections _ => none
  | .decrementActiveConnections _ => none

namespace L4LoadBalancer

def withRegistry (registry : ServiceRegistry) (lb : L4LoadBalancer) : L4LoadBalancer := { lb with registry := registry }

def call (lb : L4LoadBalancer) : OverlayCall → Answer × L4LoadBalancer
  | .registerService now service =>
    (.service (lb.registry.registerService now service).1, lb.withRegistry (lb.registry.registerService now service).2)
  | .deregisterService name ns => (.done none, lb.withRegistry (lb.registry.deregisterService name ns))
  | .registerEndpoint now serviceName ns endpoint =>
    (.done none, lb.withRegistry (lb.registry.registerEndpoint now serviceName ns endpoint))
  | .deregisterEndpoint serviceName ns endpointID =>
    (.done none, lb.withRegistry (lb.registry.deregisterEndpoint serviceName ns endpointID))
  | .updateEndpointHealth serviceName ns endpointID health =>
    (.done (lb.registry.updateEndpointHealth serviceName ns endpointID health).1,
      lb.withRegistry (lb.registry.updateEndpointHealth serviceName ns endpointID health).2)
  | .updateEndpoints now serviceName endpoints => (.done none, lb.updateEndpoints now serviceName endpoints)
  | .getService name ns => (.service (lb.registry.getService name ns), lb)
  | .getEndpoints serviceName ns => (.endpoints (lb.registry.getEndpoints serviceName ns), lb)
  | .getHealthyEndpoints serviceName ns => (.endpoints (lb.registry.getHealthyEndpoints serviceName ns), lb)
  | .resolveService serviceName ns => (.address (lb.registry.resolveService serviceName ns), lb)
  | .selectEndpoint now serviceName ns clientAddr =>
    (.endpoint (lb.selectEndpoint now serviceName ns clientAddr).1, (lb.selectEndpoint now serviceName ns clientAddr).2)
  | .recordFailure serviceName _ endpointID => (.done none, lb.recordFailure serviceName endpointID)
  | .incrementActiveConnections endpointID => (.done none, lb.incrementActiveConnections endpointID)
  | .decrementActiveConnections endpointID => (.done none, lb.decrementActiveConnections endpointID)

end L4LoadBalancer

def owner (fullName : String) : String := String.ofList (fullName.toList.takeWhile (· ≠ '.'))

lemma owner_getFullServiceName {name : String} (h : '.' ∉ name.toList) {ns : String} :
    owner (getFullServiceName name ns) = name := by
  have ht : (name.toList ++ '.' :: (orDefault ns).toList).takeWhile (· ≠ '.') = name.toList := by
    rw [List.takeWhile_append_of_pos]
    · simp
    · intro c hc
      simp only [decide_eq_true_eq]
      rintro rfl
      exact h hc
  have hl : (getFullServiceName name ns).toList = name.toList ++ '.' :: (orDefault ns).toList := by
    simp [getFullServiceName, String.toList_append]
  rw [owner, hl, ht, String.ofList_toList]

namespace ServiceRegistry

variable {n : String} {sr sr' : ServiceRegistry}

structure Apart (n : String) (sr sr' : ServiceRegistry) : Prop where
  pool : sr.ipPool = sr'.ipPool
  services : ∀ key, owner key ≠ n → sr.services.lookup key = sr'.services.lookup key
  endpoints : ∀ key, owner key ≠ n → sr.endpoints.lookup key = sr'.endpoints.lookup key

lemma Apart.refl (n : String) (sr : ServiceRegistry) : Apart n sr sr := ⟨rfl, fun _ _ => rfl, fun _ _ => rfl⟩

lemma Apart.trans {sr'' : ServiceRegistry} (h : Apart n sr sr') (h' : Apart n sr' sr'') : Apart n sr sr'' where
  pool := h.pool.trans h'.pool
  services key hk := (h.services key hk).trans (h'.services key hk)
  endpoints key hk := (h.endpoints key hk).trans (h'.endpoints key hk)

lemma Apart.virtualIPs (h : Apart n sr sr') {key : String} (hk : owner key ≠ n) :
    sr.virtualIPs.lookup key = sr'.virtualIPs.lookup key := by
  rw [sr.addressed, sr'.addressed, h.services key hk]

section Others

variable {name ns : String} (h : Apart n sr sr') (hn : owner (getFullServiceName name ns) ≠ n)

include h

lemma apart_storeService (s : Service) : Apart n (sr.storeService s) (sr'.storeService s) :=
  { h with services := fun key hk => by simp [h.services key hk] }

lemma apart_registerService (now : ℕ → Time) (s : Service) :
    (sr.registerService now s).1 = (sr'.registerService now s).1 ∧
      Apart n (sr.registerService now s).2 (sr'.registerService now s).2 := by
  rw [registerService, registerService, h.pool]
  cases assign s sr'.ipPool with
  | mk r p =>
    cases r with
    | error err => exact ⟨rfl, rfl, h.services, h.endpoints⟩
    | ok ip =>
      refine ⟨rfl, apart_storeService ?_ _⟩
      exact ⟨rfl, h.services, h.endpoints⟩

lemma apart_setEndpoints (fn : String) {endpoints : List Endpoint} :
    Apart n (sr.setEndpoints fn endpoints) (sr'.setEndpoints fn endpoints) :=
  { h with endpoints := fun key hk => by simp [h.endpoints key hk] }

lemma apart_modifyService {fn : String} (hf : owner fn ≠ n) {change : Service → Service}
    {hch : ∀ s, (change s).fullName = s.fullName ∧ (change s).virtualIP = s.virtualIP} :
    Apart n (sr.modifyService fn change hch) (sr'.modifyService fn change hch) where
  pool := by simp [h.pool]
  services key hk := by simp [h.services key hk, h.services fn hf]
  endpoints key hk := by simp [h.endpoints key hk]

include hn

lemma apart_deregisterService : Apart n (sr.deregisterService name ns) (sr'.deregisterService name ns) := by
  rw [deregisterService_eq, deregisterService_eq, h.virtualIPs hn, h.pool]
  exact ⟨rfl, fun key hk => by simp [h.services key hk], fun key hk => by simp [h.endpoints key hk]⟩

lemma apart_registerEndpoint (now : Time) (e : Endpoint) :
    Apart n (sr.registerEndpoint now name ns e) (sr'.registerEndpoint now name ns e) := by
  rw [registerEndpoint, registerEndpoint, getFullServiceName_orDefault, h.endpoints _ hn]
  exact apart_modifyService (apart_setEndpoints h _) hn

lemma apart_deregisterEndpoint (endpointID : String) :
    Apart n (sr.deregisterEndpoint name ns endpointID) (sr'.deregisterEndpoint name ns endpointID) := by
  rw [deregisterEndpoint, deregisterEndpoint, getFullServiceName_orDefault, h.endpoints _ hn]
  split
  · exact h
  · split
    · exact { h with endpoints := fun key hk => by simp [lookup_erase_if, h.endpoints key hk] }
    · exact apart_setEndpoints h _

lemma apart_updateEndpointHealth (endpointID : String) (health : HealthStatus) :
    (sr.updateEndpointHealth name ns endpointID health).1 = (sr'.updateEndpointHealth name ns endpointID health).1 ∧
      Apart n (sr.updateEndpointHealth name ns endpointID health).2
        (sr'.updateEndpointHealth name ns endpointID health).2 := by
  rw [updateEndpointHealth, updateEndpointHealth, getFullServiceName_orDefault, h.endpoints _ hn]
  split
  · exact ⟨rfl, h⟩
  · exact ⟨rfl, apart_setEndpoints h _⟩

lemma apart_updateEndpoints (now : Time) (endpoints : List Endpoint) :
    Apart n (sr.updateEndpoints now name ns endpoints) (sr'.updateEndpoints now name ns endpoints) := by
  rw [updateEndpoints, updateEndpoints]
  exact apart_modifyService (apart_setEndpoints h _) hn

lemma getEndpoints_eq : sr.getEndpoints name ns = sr'.getEndpoints name ns := by
  rw [getEndpoints, getEndpoints, h.endpoints _ hn]

lemma getHealthyEndpoints_eq : sr.getHealthyEndpoints name ns = sr'.getHealthyEndpoints name ns := by
  rw [getHealthyEndpoints, getHealthyEndpoints, getEndpoints_eq h hn]

lemma getService_eq : sr.getService name ns = sr'.getService name ns := by
  rw [getService, getService, h.services _ hn]

lemma resolveService_eq : sr.resolveService name ns = sr'.resolveService name ns := by
  rw [resolveService, resolveService, h.virtualIPs hn]

end Others

section Own

variable {name ns : String} (hn : owner (getFullServiceName name ns) = n)

lemma ne_of_owner {key fullName : String} (hf : owner fullName = n) (hk : owner key ≠ n) : key ≠ fullName := by
  rintro rfl
  exact hk hf

lemma apart_storeService_self {s : Service} (hf : owner s.fullName = n) : Apart n (sr.storeService s) sr where
  pool := rfl
  services key hk := by rw [lookup_storeService, if_neg (ne_of_owner hf hk)]
  endpoints _ _ := rfl

lemma apart_registerService_self {now : ℕ → Time} {s : Service} (hf : owner s.fullName = n)
    (hv : s.virtualIP ≠ "") : Apart n (sr.registerService now s).2 sr := by
  have ha : assign s sr.ipPool = (.ok s.virtualIP, sr.ipPool) := by rw [assign, if_neg hv]
  rw [registerService, ha]
  exact apart_storeService_self hf

lemma apart_setEndpoints_self {fn : String} (hf : owner fn = n) {endpoints : List Endpoint} :
    Apart n (sr.setEndpoints fn endpoints) sr where
  pool := rfl
  services _ _ := rfl
  endpoints key hk := by rw [lookup_endpoints_setEndpoints, if_neg (ne_of_owner hf hk)]

lemma apart_modifyService_self {fn : String} (hf : owner fn = n) {change : Service → Service}
    {hch : ∀ s, (change s).fullName = s.fullName ∧ (change s).virtualIP = s.virtualIP} :
    Apart n (sr.modifyService fn change hch) sr where
  pool := ipPool_modifyService _
  services key hk := by rw [lookup_modifyService, if_neg (ne_of_owner hf hk)]
  endpoints key hk := by rw [endpoints_modifyService]

include hn

lemma apart_deregisterService_self
    (hv : ∀ vip, sr.virtualIPs.lookup (getFullServiceName name ns) = some vip → vip ∉ sr.ipPool.allocated) :
    Apart n (sr.deregisterService name ns) sr := by
  rw [deregisterService_eq]
  constructor
  · cases hl : sr.virtualIPs.lookup (getFullServiceName name ns) with
    | none => rfl
    | some vip => exact IPPool.release_eq_self (hv vip hl)
  · intro key hk
    rw [lookup_removeService, if_neg (ne_of_owner hn hk)]
  · intro key hk
    rw [lookup_endpoints_removeService, if_neg (ne_of_owner hn hk)]

lemma apart_registerEndpoint_self (now : Time) (e : Endpoint) : Apart n (sr.registerEndpoint now name ns e) sr := by
  rw [registerEndpoint, getFullServiceName_orDefault]
  exact (apart_modifyService_self hn).trans (apart_setEndpoints_self hn)

lemma apart_deregisterEndpoint_self (endpointID : String) : Apart n (sr.deregisterEndpoint name ns endpointID) sr := by
  rw [deregisterEndpoint, getFullServiceName_orDefault]
  split
  · exact Apart.refl n sr
  · split
    · refine ⟨rfl, fun _ _ => rfl, ?_⟩
      intro key hk
      rw [lookup_erase_if, if_neg (ne_of_owner hn hk)]
    · exact apart_setEndpoints_self hn

lemma apart_updateEndpointHealth_self (endpointID : String) (health : HealthStatus) :
    Apart n (sr.updateEndpointHealth name ns endpointID health).2 sr := by
  rcases sr.updateEndpointHealth_cases name ns endpointID health with ⟨err, he⟩ | ⟨old, new, -, -, he⟩
  · rw [he]
    exact Apart.refl n sr
  · rw [he]
    exact apart_setEndpoints_self hn

lemma apart_updateEndpoints_self (now : Time) (endpoints : List Endpoint) :
    Apart n (sr.updateEndpoints now name ns endpoints) sr := by
  rw [updateEndpoints]
  exact (apart_modifyService_self hn).trans (apart_setEndpoints_self hn)

end Own

end ServiceRegistry

namespace L4LoadBalancer

open ServiceRegistry (Apart)

variable {n : String} {K : String → Prop} {lb lb' : L4LoadBalancer}

def connections (lb : L4LoadBalancer) (endpointID : String) : Int32 :=
  ((lb.endpointStats.lookup endpointID).map EndpointStats.activeConnections).getD 0

/-- The two load balancers differ at most in the services of the name, their round-robin counter and the sessions under
the keys of `K`, and in statistics that no selection reads. -/
structure Alike (n : String) (K : String → Prop) (lb lb' : L4LoadBalancer) : Prop where
  config : lb.config = lb'.config
  registry : Apart n lb.registry lb'.registry
  sessions : ∀ key, ¬K key → lb.sessionCache.lookup key = lb'.sessionCache.lookup key
  counters : ∀ name, name ≠ n → lb.rrCounters.lookup name = lb'.rrCounters.lookup name
  connections : ∀ endpointID, lb.connections endpointID = lb'.connections endpointID

def Agree {α : Type} (n : String) (K : String → Prop) (r r' : α × L4LoadBalancer) : Prop := r.1 = r'.1 ∧ Alike n K r.2 r'.2

lemma Alike.refl (n : String) (K : String → Prop) (lb : L4LoadBalancer) : Alike n K lb lb :=
  ⟨rfl, Apart.refl n _, fun _ _ => rfl, fun _ _ => rfl, fun _ => rfl⟩

lemma Alike.trans {lb'' : L4LoadBalancer} (h : Alike n K lb lb') (h' : Alike n K lb' lb'') : Alike n K lb lb'' where
  config := h.config.trans h'.config
  registry := h.registry.trans h'.registry
  sessions key hk := (h.sessions key hk).trans (h'.sessions key hk)
  counters name hn := (h.counters name hn).trans (h'.counters name hn)
  connections id := (h.connections id).trans (h'.connections id)

lemma Alike.symm (h : Alike n K lb lb') : Alike n K lb' lb where
  config := h.config.symm
  registry := ⟨h.registry.pool.symm, fun key hk => (h.registry.services key hk).symm,
    fun key hk => (h.registry.endpoints key hk).symm⟩
  sessions key hk := (h.sessions key hk).symm
  counters name hn := (h.counters name hn).symm
  connections id := (h.connections id).symm

lemma Alike.withRegistry (h : Alike n K lb lb') {r r' : ServiceRegistry} (hr : Apart n r r') :
    Alike n K (lb.withRegistry r) (lb'.withRegistry r') := { h with registry := hr }

lemma alike_withRegistry {r : ServiceRegistry} (hr : Apart n r lb.registry) :
    Alike n K (lb.withRegistry r) lb := (Alike.refl n K lb).withRegistry hr

section Statistics

variable (endpointID : String)

lemma getEndpointStats_fst : (lb.getEndpointStats endpointID).1.activeConnections = lb.connections endpointID := by
  rw [getEndpointStats, connections]
  cases lb.endpointStats.lookup endpointID <;> rfl

lemma connections_getEndpointStats (id : String) :
    (lb.getEndpointStats endpointID).2.connections id = lb.connections id := by
  rw [getEndpointStats]
  cases hl : lb.endpointStats.lookup endpointID with
  | some ss => rfl
  | none =>
    rw [connections, connections, lookup_insert_if]
    split_ifs with hid
    · rw [hid, hl]
      rfl
    · rfl

lemma alike_getEndpointStats : Alike n K (lb.getEndpointStats endpointID).2 lb := by
  have hco := @connections_getEndpointStats lb endpointID
  revert hco
  rw [getEndpointStats]
  cases lb.endpointStats.lookup endpointID with
  | some ss => exact fun _ => Alike.refl n K lb
  | none => exact fun hco => { Alike.refl n K lb with connections := hco }

variable {change : EndpointStats → EndpointStats}

lemma connections_modifyEndpointStats {id : String} : (lb.modifyEndpointStats endpointID change).connections id =
      if id = endpointID then (change (lb.getEndpointStats endpointID).1).activeConnections else lb.connections id := by
  rw [modifyEndpointStats, connections]
  rw [lookup_insert_if]
  split_ifs
  · rfl
  · exact connections_getEndpointStats endpointID id

lemma alike_modifyEndpointStats (hch : ∀ ss, (change ss).activeConnections = ss.activeConnections) :
    Alike n K (lb.modifyEndpointStats endpointID change) lb := by
  have hg : Alike n K (lb.getEndpointStats endpointID).2 lb := alike_getEndpointStats endpointID
  refine { hg with connections := fun id => ?_ }
  rw [connections_modifyEndpointStats]
  split_ifs with hid
  · rw [hch, getEndpointStats_fst, hid]
  · rfl

lemma Alike.getEndpointStats (h : Alike n K lb lb') :
    Alike n K (lb.getEndpointStats endpointID).2 (lb'.getEndpointStats endpointID).2 :=
  (alike_getEndpointStats endpointID).trans (h.trans (alike_getEndpointStats endpointID).symm)

lemma Alike.modifyEndpointStats (h : Alike n K lb lb') {f : Int32 → Int32}
    (hch : ∀ ss, (change ss).activeConnections = f ss.activeConnections) :
    Alike n K (lb.modifyEndpointStats endpointID change) (lb'.modifyEndpointStats endpointID change) := by
  refine { h.getEndpointStats endpointID with connections := fun id => ?_ }
  rw [connections_modifyEndpointStats, connections_modifyEndpointStats, hch, hch,
    getEndpointStats_fst, getEndpointStats_fst, h.connections, h.connections]

end Statistics

section Selection

variable {name : String} (endpoints : List Endpoint)

lemma Alike.count (h : Alike n K lb lb') (name : String) (next : UInt64) :
    Alike n K { lb with rrCounters := lb.rrCounters.insert name next }
      { lb' with rrCounters := lb'.rrCounters.insert name next } :=
  { h with counters := fun o ho => by simp [lookup_insert_if, h.counters o ho] }

lemma alike_count_self {next : UInt64} : Alike n K { lb with rrCounters := lb.rrCounters.insert n next } lb :=
  { Alike.refl n K lb with counters := fun o ho => by simp [ho] }

lemma Alike.selectRoundRobin (h : Alike n K lb lb') (hn : name ≠ n) :
    Agree n K (lb.selectRoundRobin name endpoints) (lb'.selectRoundRobin name endpoints) := by
  rw [L4LoadBalancer.selectRoundRobin, L4LoadBalancer.selectRoundRobin, h.counters name hn]
  split_ifs
  · exact ⟨rfl, h⟩
  · exact ⟨rfl, h.count name _⟩

lemma alike_selectRoundRobin_self : Alike n K (lb.selectRoundRobin n endpoints).2 lb := by
  rw [L4LoadBalancer.selectRoundRobin]
  split_ifs
  · exact Alike.refl n K lb
  · exact alike_count_self

lemma Alike.selectWeightedRoundRobin (h : Alike n K lb lb') (hn : name ≠ n) :
    Agree n K (lb.selectWeightedRoundRobin name endpoints) (lb'.selectWeightedRoundRobin name endpoints) := by
  rw [L4LoadBalancer.selectWeightedRoundRobin, L4LoadBalancer.selectWeightedRoundRobin, h.counters name hn]
  split_ifs
  · exact ⟨rfl, h⟩
  · exact h.selectRoundRobin _ hn
  · exact ⟨rfl, h.count name _⟩

lemma alike_selectWeightedRoundRobin_self : Alike n K (lb.selectWeightedRoundRobin n endpoints).2 lb := by
  rw [L4LoadBalancer.selectWeightedRoundRobin]
  split_ifs
  · exact Alike.refl n K lb
  · exact alike_selectRoundRobin_self _
  · exact alike_count_self

lemma alike_leastConnections (mc : Int32) (b : Option Endpoint) :
    Alike n K (leastConnections endpoints mc b lb).2 lb := by
  induction endpoints generalizing mc b lb with
  | nil => exact Alike.refl n K lb
  | cons ep r ih =>
    rw [leastConnections]
    dsimp only
    split_ifs <;> exact (ih _ _).trans (alike_getEndpointStats ep.id)

lemma Alike.leastConnections_fst (h : Alike n K lb lb') (mc : Int32) (b : Option Endpoint) :
    (leastConnections endpoints mc b lb).1 = (leastConnections endpoints mc b lb').1 := by
  induction endpoints generalizing mc b lb lb' with
  | nil => rfl
  | cons ep r ih =>
    rw [leastConnections, leastConnections]
    dsimp only
    rw [getEndpointStats_fst, getEndpointStats_fst, h.connections]
    split_ifs <;> exact ih (h.getEndpointStats ep.id) _ _

lemma Alike.selectByAlgorithm (h : Alike n K lb lb') (hn : name ≠ n) (ha : lb.config.algorithm ≠ .localityAware)
    (clientAddr : String) :
    Agree n K (lb.selectByAlgorithm name clientAddr endpoints) (lb'.selectByAlgorithm name clientAddr endpoints) := by
  rw [L4LoadBalancer.selectByAlgorithm, L4LoadBalancer.selectByAlgorithm, ← h.config]
  cases hc : lb.config.algorithm with
  | unset | roundRobin => exact h.selectRoundRobin _ hn
  | weightedRoundRobin => exact h.selectWeightedRoundRobin _ hn
  | leastConnections =>
    refine ⟨h.leastConnections_fst _ _ _, ?_⟩
    exact (alike_leastConnections _ _ _).trans (h.trans (alike_leastConnections _ _ _).symm)
  | localityAware => exact absurd hc ha

lemma alike_selectByAlgorithm_self (ha : lb.config.algorithm ≠ .localityAware) (clientAddr : String) :
    Alike n K (lb.selectByAlgorithm n clientAddr endpoints).2 lb := by
  rw [L4LoadBalancer.selectByAlgorithm]
  cases hc : lb.config.algorithm with
  | unset | roundRobin => exact alike_selectRoundRobin_self _
  | weightedRoundRobin => exact alike_selectWeightedRoundRobin_self _
  | leastConnections => exact alike_leastConnections _ _ _
  | localityAware => exact absurd hc ha

end Selection

section Sessions

variable {name ns clientAddr : String}

lemma Alike.getSessionEndpoint (h : Alike n K lb lb') (hk : ¬K (getSessionKey name clientAddr)) (now : Time) :
    Agree n K (lb.getSessionEndpoint now name clientAddr) (lb'.getSessionEndpoint now name clientAddr) := by
  rw [L4LoadBalancer.getSessionEndpoint, L4LoadBalancer.getSessionEndpoint, h.sessions _ hk, h.config]
  split
  · exact ⟨rfl, h⟩
  · split_ifs
    · exact ⟨rfl, h⟩
    · exact ⟨rfl, { h with config := rfl, sessions := fun key hkey => by simp [lookup_erase_if, h.sessions key hkey] }⟩

variable {now : Time}

lemma alike_getSessionEndpoint_self (hk : K (getSessionKey name clientAddr)) :
    Alike n K (lb.getSessionEndpoint now name clientAddr).2 lb := by
  rw [L4LoadBalancer.getSessionEndpoint]
  split
  · exact Alike.refl n K lb
  · split_ifs
    · exact Alike.refl n K lb
    · refine { Alike.refl n K lb with sessions := fun key hkey => ?_ }
      have hne : key ≠ getSessionKey name clientAddr := fun he => hkey (he ▸ hk)
      rw [lookup_erase_if, if_neg hne]

lemma Alike.affine (h : Alike n K lb lb') (hn : owner (getFullServiceName name ns) ≠ n)
    (hk : lb.config.sessionAffinity = true → ¬K (getSessionKey name clientAddr)) (now : Time) :
    Agree n K (lb.affine now name ns clientAddr) (lb'.affine now name ns clientAddr) := by
  rw [L4LoadBalancer.affine, L4LoadBalancer.affine, ← h.config]
  split_ifs with ha
  · obtain ⟨hid, hnext⟩ := h.getSessionEndpoint (hk ha) now
    dsimp only
    rw [hid]
    split_ifs
    · exact ⟨rfl, hnext⟩
    · rw [getHealthyEndpoints_eq hnext.registry hn]
      exact ⟨rfl, hnext⟩
  · exact ⟨rfl, h⟩

lemma alike_affine_self (hk : lb.config.sessionAffinity = true → K (getSessionKey name clientAddr)) :
    Alike n K (lb.affine now name ns clientAddr).2 lb := by
  rw [L4LoadBalancer.affine]
  split_ifs with ha
  · dsimp only
    split_ifs <;> exact alike_getSessionEndpoint_self (hk ha)
  · exact Alike.refl n K lb

lemma Alike.setSessionEndpoint (h : Alike n K lb lb') (now : Time) (endpointID : String) :
    Alike n K (lb.setSessionEndpoint now name clientAddr endpointID)
      (lb'.setSessionEndpoint now name clientAddr endpointID) :=
  { h with sessions := fun key hk => by simp [L4LoadBalancer.setSessionEndpoint, lookup_insert_if, h.sessions key hk] }

lemma alike_setSessionEndpoint_self (hk : K (getSessionKey name clientAddr)) {endpointID : String} :
    Alike n K (lb.setSessionEndpoint now name clientAddr endpointID) lb := by
  refine { Alike.refl n K lb with sessions := fun key hkey => ?_ }
  have hne : key ≠ getSessionKey name clientAddr := fun he => hkey (he ▸ hk)
  rw [L4LoadBalancer.setSessionEndpoint, lookup_insert_if, if_neg hne]

lemma alike_updateRequestStats {name endpointID : String} :
    Alike n K (lb.updateRequestStats now name endpointID) lb := by
  rw [updateRequestStats]
  refine Alike.trans (alike_modifyEndpointStats endpointID ?_) ?_
  · exact fun _ => rfl
  · exact { Alike.refl n K lb with }

lemma Alike.selectFresh (h : Alike n K lb lb') (hn : name ≠ n) (ho : owner (getFullServiceName name ns) ≠ n)
    (ha : lb.config.algorithm ≠ .localityAware) (now : ℕ → Time) :
    Agree n K (lb.selectFresh now name ns clientAddr) (lb'.selectFresh now name ns clientAddr) := by
  rw [L4LoadBalancer.selectFresh, L4LoadBalancer.selectFresh, getHealthyEndpoints_eq h.registry ho]
  split_ifs with he
  · exact ⟨rfl, h⟩
  · obtain ⟨hs, hnext⟩ :=
      h.selectByAlgorithm (lb'.registry.getHealthyEndpoints name ns) hn ha clientAddr
    revert hs hnext
    generalize lb.selectByAlgorithm name clientAddr (lb'.registry.getHealthyEndpoints name ns) = r
    generalize lb'.selectByAlgorithm name clientAddr (lb'.registry.getHealthyEndpoints name ns) = r'
    obtain ⟨s, l⟩ := r
    obtain ⟨s', l'⟩ := r'
    rintro rfl hnext
    cases s with
    | none => exact ⟨rfl, hnext⟩
    | some s =>
      refine ⟨rfl, alike_updateRequestStats.trans (Alike.trans ?_ alike_updateRequestStats.symm)⟩
      rw [show l.config = l'.config from hnext.config]
      split_ifs
      · exact hnext.setSessionEndpoint _ _
      · exact hnext

lemma alike_selectFresh_self (ha : lb.config.algorithm ≠ .localityAware)
    (hk : lb.config.sessionAffinity = true → K (getSessionKey n clientAddr)) (now : ℕ → Time) :
    Alike n K (lb.selectFresh now n ns clientAddr).2 lb := by
  rw [L4LoadBalancer.selectFresh]
  split_ifs with he
  · exact Alike.refl n K lb
  · have hnext : Alike n K (lb.selectByAlgorithm n clientAddr (lb.registry.getHealthyEndpoints n ns)).2 lb :=
      alike_selectByAlgorithm_self _ ha clientAddr
    revert hnext
    generalize lb.selectByAlgorithm n clientAddr (lb.registry.getHealthyEndpoints n ns) = r
    obtain ⟨s, l⟩ := r
    intro hnext
    cases s with
    | none => exact hnext
    | some s =>
      refine alike_updateRequestStats.trans (Alike.trans ?_ hnext)
      split_ifs with hs
      · exact alike_setSessionEndpoint_self (hk (hnext.config ▸ hs))
      · exact Alike.refl n K l

lemma Alike.selectEndpoint (h : Alike n K lb lb') (hn : name ≠ n) (ho : owner (getFullServiceName name ns) ≠ n)
    (ha : lb.config.algorithm ≠ .localityAware)
    (hk : lb.config.sessionAffinity = true → ¬K (getSessionKey name clientAddr)) (now : ℕ → Time) :
    Agree n K (lb.selectEndpoint now name ns clientAddr) (lb'.selectEndpoint now name ns clientAddr) := by
  have hco : (lb.affine (now 0) name ns clientAddr).2.config = lb.config :=
    (steady_affine _ _ _ _).1
  obtain ⟨hf, hnext⟩ := h.affine ho hk (now 0)
  rw [L4LoadBalancer.selectEndpoint, L4LoadBalancer.selectEndpoint]
  revert hco hf hnext
  generalize lb.affine (now 0) name ns clientAddr = r
  generalize lb'.affine (now 0) name ns clientAddr = r'
  obtain ⟨f, l⟩ := r
  obtain ⟨f', l'⟩ := r'
  rintro hco rfl hnext
  cases f with
  | some ep => exact ⟨rfl, hnext⟩
  | none => exact hnext.selectFresh hn ho (by rw [show l.config = lb.config from hco]; exact ha) now

lemma alike_selectEndpoint_self (ha : lb.config.algorithm ≠ .localityAware)
    (hk : lb.config.sessionAffinity = true → K (getSessionKey n clientAddr)) {now : ℕ → Time} :
    Alike n K (lb.selectEndpoint now n ns clientAddr).2 lb := by
  have hnext : Alike n K (lb.affine (now 0) n ns clientAddr).2 lb := alike_affine_self hk
  rw [L4LoadBalancer.selectEndpoint]
  revert hnext
  generalize lb.affine (now 0) n ns clientAddr = r
  obtain ⟨f, l⟩ := r
  intro hnext
  cases f with
  | some ep => exact hnext
  | none =>
    refine Alike.trans (alike_selectFresh_self ?_ ?_ now) hnext
    · rwa [show l.config = lb.config from hnext.config]
    · intro hs
      exact hk (hnext.config ▸ hs)

end Sessions

section Failures

variable {name : String} (endpointID : String)

lemma Alike.recordFailure (h : Alike n K lb lb') (hn : owner (getFullServiceName name "default") ≠ n) :
    Alike n K (lb.recordFailure name endpointID) (lb'.recordFailure name endpointID) := by
  have hs : Alike n K (lb.modifyEndpointStats endpointID fun ss => { ss with failures := ss.failures + 1 })
      (lb'.modifyEndpointStats endpointID fun ss => { ss with failures := ss.failures + 1 }) :=
    h.modifyEndpointStats endpointID (f := id) fun _ => rfl
  rw [L4LoadBalancer.recordFailure, L4LoadBalancer.recordFailure]
  split_ifs with hl hr hr
  · exact hs.withRegistry (apart_updateEndpointHealth hs.registry hn endpointID .unhealthy).2
  · exact absurd (hs.config ▸ hl) hr
  · exact absurd (hs.config ▸ hr) hl
  · exact hs

lemma alike_recordFailure_self (hn : owner (getFullServiceName n "default") = n) :
    Alike n K (lb.recordFailure n endpointID) lb := by
  have hs : Alike n K
      (lb.modifyEndpointStats endpointID fun ss => { ss with failures := ss.failures + 1 }) lb :=
    alike_modifyEndpointStats endpointID fun _ => rfl
  rw [L4LoadBalancer.recordFailure]
  split_ifs
  · exact (alike_withRegistry (apart_updateEndpointHealth_self hn endpointID .unhealthy)).trans hs
  · exact hs

lemma config_recordFailure : (lb.recordFailure name endpointID).config = lb.config := by
  have hs : (lb.modifyEndpointStats endpointID fun ss =>
      { ss with failures := ss.failures + 1 }).config = lb.config := (steady_modifyEndpointStats _ _).1
  rw [L4LoadBalancer.recordFailure]
  split_ifs <;> exact hs

end Failures

lemma config_call {lb : L4LoadBalancer} {c : OverlayCall} : (lb.call c).2.config = lb.config := by
  cases c with
  | selectEndpoint now serviceName ns clientAddr => exact (steady_selectEndpoint _ _ _ _).1
  | recordFailure serviceName ns endpointID => exact config_recordFailure endpointID
  | incrementActiveConnections | decrementActiveConnections => exact (steady_modifyEndpointStats _ _).1
  | _ => rfl

/-- The pool has handed out only addresses that it offers, and the services of the name have none of these. -/
structure Sheltered (n : String) (network : IPNet) (sr : ServiceRegistry) : Prop where
  pool : sr.ipPool.network = network
  allocated : ∀ ip ∈ sr.ipPool.allocated, network.Offers ip
  outside : ∀ key vip, sr.virtualIPs.lookup key = some vip → owner key = n → ¬network.Offers vip

section Sheltered

variable {ne : IPNet} {sr sr' : ServiceRegistry}

lemma Sheltered.of_same (h : Sheltered n ne sr) (hp : sr'.ipPool = sr.ipPool) (hv : sr'.virtualIPs = sr.virtualIPs) :
    Sheltered n ne sr' where
  pool := by rw [hp, h.pool]
  allocated := by rw [hp]; exact h.allocated
  outside := by rw [hv]; exact h.outside

lemma sheltered_registerService (h : Sheltered n ne sr) {now : ℕ → Time} {s : Service} (hd : '.' ∉ s.name.toList)
    (hv : s.name = n → s.virtualIP ≠ "" ∧ ¬ne.Offers s.virtualIP) : Sheltered n ne (sr.registerService now s).2 := by
  have how : owner s.fullName = s.name := owner_getFullServiceName hd
  rcases sr.registerService_cases now s with ⟨err, hr⟩ | ⟨ip, p, ha, hr⟩
  · rwa [hr]
  · rw [hr]
    have hp : (ip = s.virtualIP ∧ p = sr.ipPool) ∨ s.virtualIP = "" ∧ ne.Offers ip ∧
        p.network = ne ∧ p.allocated = insert ip sr.ipPool.allocated := by
      rw [assign] at ha
      split_ifs at ha with he
      · rcases sr.ipPool.allocate_cases with ⟨err, hc⟩ | ⟨ip', p', hc, ho, -, -, hnet, hal⟩
        · rw [hc] at ha
          cases ha
        · rw [hc] at ha
          cases ha
          rw [h.pool] at ho hnet
          exact .inr ⟨he, ho, hnet, hal⟩
      · cases ha
        exact .inl ⟨rfl, rfl⟩
    refine ⟨?_, ?_, ?_⟩
    · rcases hp with ⟨-, rfl⟩ | ⟨-, -, hnet, -⟩
      · exact h.pool
      · exact hnet
    · intro m hm
      rcases hp with ⟨-, rfl⟩ | ⟨-, ho, -, hal⟩
      · exact h.allocated m hm
      · rw [ipPool_storeService, hal, Finset.mem_insert] at hm
        rcases hm with rfl | hm
        · exact ho
        · exact h.allocated m hm
    · intro key vip hl hk
      rw [addressed, lookup_storeService] at hl
      split_ifs at hl with hkey
      · cases hl
        have hname : s.name = n := by
          rw [← hk, hkey]
          exact how.symm
        rcases hp with ⟨rfl, -⟩ | ⟨he, -⟩
        · exact (hv hname).2
        · exact absurd he (hv hname).1
      · rw [← sr.addressed] at hl
        exact h.outside key vip hl hk

lemma sheltered_deregisterService (h : Sheltered n ne sr) {name ns : String} :
    Sheltered n ne (sr.deregisterService name ns) := by
  rw [deregisterService_eq]
  refine ⟨?_, ?_, ?_⟩
  · cases hv : sr.virtualIPs.lookup (getFullServiceName name ns) with
    | none | some => exact h.pool
  · intro ip hip
    apply h.allocated ip
    revert hip
    cases hv : sr.virtualIPs.lookup (getFullServiceName name ns) with
    | none => exact id
    | some vip => exact fun hip => Finset.mem_of_mem_erase hip
  · intro key vip hl hk
    rw [addressed, lookup_removeService] at hl
    split_ifs at hl
    · cases hl
    · rw [← sr.addressed] at hl
      exact h.outside key vip hl hk

end Sheltered

/-- The call names a service without a dot; a service of the name has an address from outside the pool; and the sessions
of its clients are those under the keys of `K`. -/
structure Apt (n : String) (config : LoadBalancerConfig) (network : IPNet) (K : String → Prop) (c : OverlayCall) :
    Prop where
  dotless : ∀ id, c.target = some id → '.' ∉ id.1.toList
  addressed : ∀ now service, c = .registerService now service → service.name = n →
    service.virtualIP ≠ "" ∧ ¬network.Offers service.virtualIP
  keyed : config.sessionAffinity = true → ∀ now name ns clientAddr, c = .selectEndpoint now name ns clientAddr →
    (K (getSessionKey name clientAddr) ↔ name = n)

def hidden (n : String) (c : OverlayCall) : Bool := c.target.map Prod.fst = some n

section Unwinding

variable {config : LoadBalancerConfig} {ne : IPNet} {c : OverlayCall}

lemma sheltered_call (h : Sheltered n ne lb.registry) (hc : Apt n config ne K c) :
    Sheltered n ne (lb.call c).2.registry := by
  cases c with
  | registerService now service =>
    exact sheltered_registerService h (hc.dotless _ rfl) (hc.addressed now service rfl)
  | deregisterService name ns => exact sheltered_deregisterService h
  | registerEndpoint | deregisterEndpoint | updateEndpointHealth | updateEndpoints =>
    exact h.of_same (by simp [call, withRegistry, updateEndpoints]) (by simp [call, withRegistry, updateEndpoints])
  | selectEndpoint now serviceName ns clientAddr =>
    exact (@steady_selectEndpoint lb now serviceName ns clientAddr).2.symm ▸ h
  | recordFailure serviceName ns endpointID =>
    have hs : Sheltered n ne (lb.modifyEndpointStats endpointID fun stats =>
        { stats with failures := stats.failures + 1 }).registry := (steady_modifyEndpointStats _ _).2.symm ▸ h
    rw [call, L4LoadBalancer.recordFailure]
    split_ifs
    · exact hs.of_same (by simp) (by simp)
    · exact hs
  | incrementActiveConnections | decrementActiveConnections => exact (steady_modifyEndpointStats _ _).2.symm ▸ h
  | _ => exact h

lemma alike_call_self (h : Sheltered n ne lb.registry) (hco : lb.config = config)
    (ha : config.algorithm ≠ .localityAware) (hc : Apt n config ne K c) (hn : hidden n c = true) :
    Alike n K (lb.call c).2 lb := by
  subst hco
  have hname : ∀ {name ns}, c.target = some (name, ns) → name = n ∧ ∀ ns', owner (getFullServiceName name ns') = n := by
    intro name ns ht
    rw [hidden, ht, decide_eq_true_eq, Option.map_some, Option.some_inj] at hn
    exact ⟨hn, fun ns' => (owner_getFullServiceName (hc.dotless _ ht)).trans hn⟩
  cases c with
  | registerService now service =>
    obtain ⟨hs, ho⟩ := hname rfl
    exact alike_withRegistry (apart_registerService_self (ho service.ns)
      (hc.addressed now service rfl hs).1)
  | deregisterService name ns =>
    refine alike_withRegistry (apart_deregisterService_self ((hname rfl).2 ns) ?_)
    intro vip hl hm
    exact h.outside _ vip hl ((hname rfl).2 ns) (h.allocated vip hm)
  | registerEndpoint now serviceName ns endpoint =>
    exact alike_withRegistry (apart_registerEndpoint_self ((hname rfl).2 ns) now endpoint)
  | deregisterEndpoint serviceName ns endpointID =>
    exact alike_withRegistry (apart_deregisterEndpoint_self ((hname rfl).2 ns) endpointID)
  | updateEndpointHealth serviceName ns endpointID health =>
    exact alike_withRegistry (apart_updateEndpointHealth_self ((hname rfl).2 ns) endpointID health)
  | updateEndpoints now serviceName endpoints =>
    exact alike_withRegistry (apart_updateEndpoints_self ((hname rfl).2 "default") now endpoints)
  | selectEndpoint now serviceName ns clientAddr =>
    obtain ⟨rfl, -⟩ := hname rfl
    exact alike_selectEndpoint_self ha (fun hs => (hc.keyed hs now serviceName ns clientAddr rfl).mpr rfl)
  | recordFailure serviceName ns endpointID =>
    obtain ⟨rfl, ho⟩ := hname rfl
    exact alike_recordFailure_self endpointID (ho "default")
  | incrementActiveConnections | decrementActiveConnections => cases hn
  | _ => exact Alike.refl n K lb

lemma Alike.call (h : Alike n K lb lb') (hco : lb.config = config) (ha : config.algorithm ≠ .localityAware)
    (hc : Apt n config ne K c) (hn : hidden n c = false) : Agree n K (lb.call c) (lb'.call c) := by
  subst hco
  have hname : ∀ {name ns}, c.target = some (name, ns) → name ≠ n ∧ ∀ ns', owner (getFullServiceName name ns') ≠ n := by
    intro name ns ht
    rw [hidden, ht, decide_eq_false_iff_not, Option.map_some, Option.some_inj] at hn
    refine ⟨hn, fun ns' => ?_⟩
    rwa [owner_getFullServiceName (hc.dotless _ ht)]
  cases c with
  | registerService now s =>
    obtain ⟨han, hnext⟩ := apart_registerService h.registry now s
    exact ⟨congrArg Answer.service han, h.withRegistry hnext⟩
  | deregisterService name ns =>
    exact ⟨rfl, h.withRegistry (apart_deregisterService h.registry ((hname rfl).2 ns))⟩
  | registerEndpoint now sn ns e =>
    exact ⟨rfl, h.withRegistry (apart_registerEndpoint h.registry ((hname rfl).2 ns) now e)⟩
  | deregisterEndpoint sn ns endpointID =>
    exact ⟨rfl, h.withRegistry (apart_deregisterEndpoint h.registry ((hname rfl).2 ns) endpointID)⟩
  | updateEndpointHealth sn ns endpointID health =>
    obtain ⟨han, hnext⟩ :=
      apart_updateEndpointHealth h.registry ((hname rfl).2 ns) endpointID health
    exact ⟨congrArg Answer.done han, h.withRegistry hnext⟩
  | updateEndpoints now sn endpoints =>
    exact ⟨rfl, h.withRegistry
      (apart_updateEndpoints h.registry ((hname rfl).2 "default") now endpoints)⟩
  | getService name ns => exact ⟨congrArg Answer.service (getService_eq h.registry ((hname rfl).2 ns)), h⟩
  | getEndpoints sn ns =>
    exact ⟨congrArg Answer.endpoints (getEndpoints_eq h.registry ((hname rfl).2 ns)), h⟩
  | getHealthyEndpoints sn ns =>
    exact ⟨congrArg Answer.endpoints (getHealthyEndpoints_eq h.registry ((hname rfl).2 ns)), h⟩
  | resolveService sn ns =>
    exact ⟨congrArg Answer.address (resolveService_eq h.registry ((hname rfl).2 ns)), h⟩
  | selectEndpoint now sn ns clientAddr =>
    obtain ⟨hne, ho⟩ := hname rfl
    obtain ⟨han, hnext⟩ := h.selectEndpoint hne (ho ns) ha
      (fun hs hk => hne ((hc.keyed hs now sn ns clientAddr rfl).mp hk)) now
    exact ⟨congrArg Answer.endpoint han, hnext⟩
  | recordFailure sn ns endpointID => exact ⟨rfl, h.recordFailure endpointID ((hname rfl).2 "default")⟩
  | incrementActiveConnections endpointID =>
    have hnext : Alike n K (lb.incrementActiveConnections endpointID) (lb'.incrementActiveConnections endpointID) :=
      h.modifyEndpointStats endpointID (f := (· + 1)) fun _ => rfl
    exact ⟨rfl, hnext⟩
  | decrementActiveConnections endpointID =>
    have hnext : Alike n K (lb.decrementActiveConnections endpointID) (lb'.decrementActiveConnections endpointID) := by
      refine h.modifyEndpointStats endpointID (f := fun k => if k ≤ 0 then k else k - 1) ?_
      intro ss
      split_ifs
      · rfl
      · rfl
    exact ⟨rfl, hnext⟩

lemma unwinding (ha : config.algorithm ≠ .localityAware) : Unwinding call (hidden n) (Apt n config ne K)
      (fun lb => Sheltered n ne lb.registry ∧ lb.config = config) fun lb lb' => Alike n K lb lb' ∧ lb.config = config where
  keeps := by
    rintro lb c ⟨hs, hco⟩ hc
    exact ⟨sheltered_call hs hc, config_call.trans hco⟩
  hides := by
    rintro lb lb' c ⟨hs, hco⟩ hc hn ⟨h, -⟩
    exact ⟨(alike_call_self hs hco ha hc hn).trans h, config_call.trans hco⟩
  agrees := by
    rintro lb lb' c hc hn ⟨h, hco⟩
    obtain ⟨han, hnext⟩ := h.call hco ha hc hn
    exact ⟨han, hnext, config_call.trans hco⟩

end Unwinding

section Runs

variable {config : LoadBalancerConfig} {sr : ServiceRegistry} {calls calls' : List OverlayCall}

variable {pc : String → Except String IPNet}

lemma sheltered_new {ci : String} (hnew : newServiceRegistry pc ci = .ok sr) : Sheltered n sr.ipPool.network sr where
  pool := rfl
  allocated ip hip := by
    rw [newIPPool_eq_ok (newServiceRegistry_eq_ok hnew).2] at hip
    cases hip
  outside key vip hl := by
    rw [sr.addressed, (newServiceRegistry_eq_ok hnew).1.1] at hl
    cases hl

lemma alike_runs {ci : String} (hnew : newServiceRegistry pc ci = .ok sr) (ha : config.algorithm ≠ .localityAware)
    (hsame : calls.filter (fun c => !hidden n c) = calls'.filter fun c => !hidden n c)
    (hapt : ∀ c ∈ calls ++ calls', Apt n config sr.ipPool.network K c) :
    (trace call (newL4LoadBalancer config sr) calls).filter (fun e => !hidden n e.1) =
        (trace call (newL4LoadBalancer config sr) calls').filter (fun e => !hidden n e.1) ∧
      Alike n K (final call (newL4LoadBalancer config sr) calls) (final call (newL4LoadBalancer config sr) calls') := by
  have hs : Sheltered n sr.ipPool.network (newL4LoadBalancer config sr).registry ∧
      (newL4LoadBalancer config sr).config = config := ⟨sheltered_new hnew, rfl⟩
  have hr : Alike n K (newL4LoadBalancer config sr) (newL4LoadBalancer config sr) := Alike.refl n K _
  obtain ⟨ht, hf, -⟩ := (unwinding ha).purge calls hs ⟨hr, rfl⟩
    fun c hc => hapt c (List.mem_append_left _ hc)
  obtain ⟨ht', hf', -⟩ := (unwinding ha).purge calls' hs ⟨hr, rfl⟩
    fun c hc => hapt c (List.mem_append_right _ hc)
  rw [← hsame] at ht' hf'
  exact ⟨ht.trans ht'.symm, hf.trans hf'.symm⟩

def Unowned (n vip : String) (lb : L4LoadBalancer) : Prop :=
  ∀ key service, lb.registry.services.lookup key = some service → owner key = n → service.virtualIP ≠ vip

lemma Alike.reverseLookup (h : Alike n K lb lb') {vip : String} (hv : Unowned n vip lb) {service : Service}
    (hl : ∃ order, lb.registry.reverseLookup order vip = .ok service) :
    ∃ order, lb'.registry.reverseLookup order vip = .ok service := by
  obtain ⟨key, hs, hvip⟩ := exists_reverseLookup_iff.mp hl
  have hkey : owner key ≠ n := fun hk => hv key service hs hk hvip
  rw [h.registry.services key hkey] at hs
  exact exists_reverseLookup_iff.mpr ⟨key, hs, hvip⟩

theorem overlay_noninterference_of_names {parseCIDR : String → Except String IPNet} {cidr : String}
    (hnew : newServiceRegistry parseCIDR cidr = .ok sr) (ha : config.algorithm ≠ .localityAware)
    (hsame : calls.filter (fun c => !hidden n c) = calls'.filter fun c => !hidden n c)
    (hapt : ∀ c ∈ calls ++ calls', Apt n config sr.ipPool.network K c) :
    (trace call (newL4LoadBalancer config sr) calls).filter (fun e => !hidden n e.1) =
        (trace call (newL4LoadBalancer config sr) calls').filter (fun e => !hidden n e.1) ∧
      ∀ vip, Unowned n vip (final call (newL4LoadBalancer config sr) calls) →
        Unowned n vip (final call (newL4LoadBalancer config sr) calls') → ∀ service,
          ((∃ order, (final call (newL4LoadBalancer config sr) calls).registry.reverseLookup order vip = .ok service) ↔
            ∃ order, (final call (newL4LoadBalancer config sr) calls').registry.reverseLookup order vip = .ok service) := by
  obtain ⟨ht, hf⟩ := alike_runs hnew ha hsame hapt
  refine ⟨ht, fun vip hv hv' service => ⟨?_, ?_⟩⟩
  · exact hf.reverseLookup hv
  · exact hf.symm.reverseLookup hv'

end Runs

section Sample

def plainConfig : LoadBalancerConfig := ⟨.roundRobin, true, false, 0⟩

def healthyEndpoint (id : String) : Endpoint := ⟨id, "", "", 80, 1, .healthy, "", "", ∅⟩

def pairOf (name : String) : List OverlayCall :=
  [.registerEndpoint 0 name "" (healthyEndpoint "a"), .registerEndpoint 0 name "" (healthyEndpoint "b")]

def addressedCalls : List OverlayCall :=
  [.registerService (fun _ => 0) (bareService "web" "" "fd00::1"),
    .registerEndpoint 0 "web" "" (healthyEndpoint "c"), .selectEndpoint (fun _ => 0) "web" "" "client"]

lemma filter_addressedCalls : (pairOf "api" ++ addressedCalls).filter (fun c => !hidden "web" c) =
    (pairOf "api").filter fun c => !hidden "web" c := rfl

lemma apt_sample : ∀ c ∈ (pairOf "api" ++ addressedCalls) ++ pairOf "api",
    Apt "web" plainConfig serviceNet (fun _ => True) c := by
  intro c hc
  simp only [pairOf, addressedCalls, List.cons_append, List.nil_append, List.mem_cons, List.not_mem_nil, or_false] at hc
  rcases hc with rfl | rfl | rfl | rfl | rfl | rfl | rfl
  case inr.inr.inl =>
    refine ⟨by rintro _ ⟨⟩; decide, ?_, by rintro ⟨⟩⟩
    rintro _ _ ⟨⟩ -
    exact ⟨by decide, serviceNet_not_offers⟩
  all_goals exact ⟨by rintro _ ⟨⟩; decide, by rintro _ _ ⟨⟩, by rintro ⟨⟩⟩

end Sample

theorem overlay_noninterference_api :
    (trace call (newL4LoadBalancer plainConfig emptyRegistry) (pairOf "api" ++ addressedCalls)).filter
        (fun e => !hidden "web" e.1) =
      (trace call (newL4LoadBalancer plainConfig emptyRegistry) (pairOf "api")).filter (fun e => !hidden "web" e.1) :=
  (overlay_noninterference_of_names emptyRegistry_new (by decide) filter_addressedCalls apt_sample).1

theorem namespaces_share_counters_and_failures :
    (((final call (newL4LoadBalancer plainConfig emptyRegistry) (pairOf "web")).selectEndpoint
      (fun _ => 0) "web" "" "client").1.toOption.map Endpoint.id = some "a" ∧
    ((final call (newL4LoadBalancer plainConfig emptyRegistry) (pairOf "web" ++
      [.registerEndpoint 0 "web" "prod" (healthyEndpoint "c"), .selectEndpoint (fun _ => 0) "web" "prod" "client"])
        ).selectEndpoint (fun _ => 0) "web" "" "client").1.toOption.map Endpoint.id = some "b") ∧
    ((final call (newL4LoadBalancer plainConfig emptyRegistry) (pairOf "web")).registry.getHealthyEndpoints
      "web" "").map Endpoint.id = ["a", "b"] ∧
    ((final call (newL4LoadBalancer plainConfig emptyRegistry) (pairOf "web" ++
      [.recordFailure "web" "prod" "a"])).registry.getHealthyEndpoints "web" "").map Endpoint.id = ["b"] := by
  refine ⟨⟨?_, ?_⟩, ?_, ?_⟩ <;> decide +kernel

end L4LoadBalancer

end Cloudless.Overlay
