import Cloudless.Overlay.Registry

namespace Cloudless.Overlay

open Foundations FiniteMaps GoStd

inductive LoadBalancingAlgorithm
  | unset
  | roundRobin
  | weightedRoundRobin
  | leastConnections
  | localityAware
  deriving DecidableEq

structure LoadBalancerConfig where
  algorithm : LoadBalancingAlgorithm
  (healthCheckEnabled sessionAffinity : Bool)
  sessionAffinityTTL : ℤ

structure LoadBalancerStats where
  serviceName : String
  totalRequests : UInt64
  lastUpdated : Time

structure EndpointStats where
  endpointID : String
  (requests failures : UInt64)
  activeConnections : Int32

structure SessionEntry where
  endpointID : String
  createdAt : Time

structure L4LoadBalancer where
  config : LoadBalancerConfig
  registry : ServiceRegistry
  stats : FMap String LoadBalancerStats
  endpointStats : FMap String EndpointStats
  sessionCache : FMap String SessionEntry
  rrCounters : FMap String UInt64

def newL4LoadBalancer (config : LoadBalancerConfig) (registry : ServiceRegistry) : L4LoadBalancer :=
  ⟨config, registry, ∅, ∅, ∅, ∅⟩

def fnv64a (data : List UInt8) : UInt64 :=
  data.foldl (fun h byte => (h ^^^ byte.toUInt64) * 1099511628211) 14695981039346656037

def getSessionKey (serviceName clientAddr : String) : String :=
  String.ofList (Nat.toDigits 16 (fnv64a (serviceName ++ ":" ++ clientAddr).toUTF8.data.toList).toNat)

namespace L4LoadBalancer

def getEndpointStats (endpointID : String) (lb : L4LoadBalancer) : EndpointStats × L4LoadBalancer :=
  match lb.endpointStats.lookup endpointID with
  | some stats => (stats, lb)
  | none =>
    (⟨endpointID, 0, 0, 0⟩, { lb with endpointStats := lb.endpointStats.insert endpointID ⟨endpointID, 0, 0, 0⟩ })

def modifyEndpointStats (endpointID : String) (change : EndpointStats → EndpointStats) (lb : L4LoadBalancer) :
    L4LoadBalancer :=
  let (stats, lb) := lb.getEndpointStats endpointID
  { lb with endpointStats := lb.endpointStats.insert endpointID (change stats) }

def selectRoundRobin (serviceName : String) (endpoints : List Endpoint) (lb : L4LoadBalancer) :
    Option Endpoint × L4LoadBalancer :=
  if endpoints.isEmpty then (none, lb)
  else
    let next := (lb.rrCounters.lookup serviceName).getD 0 + 1
    (endpoints[((next - 1) % UInt64.ofNat endpoints.length).toNat]?,
      { lb with rrCounters := lb.rrCounters.insert serviceName next })

def pickWeighted (target : Int64) : Int64 → List Endpoint → Option Endpoint
  | _, [] => none
  | current, ep :: rest => if target < current + ep.weight then some ep else pickWeighted target (current + ep.weight) rest

-- The weights are set in a copy that the healthy endpoints were collected in.
def selectWeightedRoundRobin (serviceName : String) (endpoints : List Endpoint) (lb : L4LoadBalancer) :
    Option Endpoint × L4LoadBalancer :=
  let endpoints := endpoints.map fun ep => if ep.weight ≤ 0 then { ep with weight := 1 } else ep
  let totalWeight := endpoints.foldl (fun total ep => total + ep.weight) 0
  if endpoints.isEmpty then (none, lb)
  else if totalWeight == 0 then lb.selectRoundRobin serviceName endpoints
  else
    let next := (lb.rrCounters.lookup serviceName).getD 0 + 1
    ((pickWeighted ((next - 1) % totalWeight.toUInt64).toInt64 0 endpoints).or endpoints.head?,
      { lb with rrCounters := lb.rrCounters.insert serviceName next })

def leastConnections : List Endpoint → Int32 → Option Endpoint → L4LoadBalancer → Option Endpoint × L4LoadBalancer
  | [], _, best, lb => (best, lb)
  | ep :: rest, minConnections, best, lb =>
    let (stats, lb) := lb.getEndpointStats ep.id
    if stats.activeConnections < minConnections then leastConnections rest stats.activeConnections (some ep) lb
    else leastConnections rest minConnections best lb

def selectLeastConnections (endpoints : List Endpoint) (lb : L4LoadBalancer) : Option Endpoint × L4LoadBalancer :=
  leastConnections endpoints 0x7fffffff none lb

def extractClientLocality (_clientAddr : String) : String × String := ("", "")

def selectLocalityAware (endpoints : List Endpoint) (clientAddr : String) (lb : L4LoadBalancer) :
    Option Endpoint × L4LoadBalancer :=
  let (clientRegion, clientZone) := extractClientLocality clientAddr
  match endpoints.find? fun ep => ep.zone = clientZone ∧ ep.region = clientRegion with
  | some ep => (some ep, lb)
  | none =>
    match endpoints.find? fun ep => ep.region = clientRegion with
    | some ep => (some ep, lb)
    | none => lb.selectRoundRobin "locality-fallback" endpoints

def getSessionEndpoint (now : Time) (serviceName clientAddr : String) (lb : L4LoadBalancer) : String × L4LoadBalancer :=
  match lb.sessionCache.lookup (getSessionKey serviceName clientAddr) with
  | none => ("", lb)
  | some session =>
    if now - session.createdAt < lb.config.sessionAffinityTTL then (session.endpointID, lb)
    else ("", { lb with sessionCache := lb.sessionCache.erase (getSessionKey serviceName clientAddr) })

def setSessionEndpoint (now : Time) (serviceName clientAddr endpointID : String) (lb : L4LoadBalancer) : L4LoadBalancer :=
  { lb with sessionCache := lb.sessionCache.insert (getSessionKey serviceName clientAddr) ⟨endpointID, now⟩ }

def updateRequestStats (now : Time) (serviceName endpointID : String) (lb : L4LoadBalancer) : L4LoadBalancer :=
  let newStats : LoadBalancerStats :=
    match lb.stats.lookup serviceName with
    | some oldStats => ⟨oldStats.serviceName, oldStats.totalRequests + 1, now⟩
    | none => ⟨serviceName, 1, now⟩
  modifyEndpointStats endpointID (fun stats => { stats with requests := stats.requests + 1 })
    { lb with stats := lb.stats.insert serviceName newStats }

def selectByAlgorithm (serviceName clientAddr : String) (endpoints : List Endpoint) (lb : L4LoadBalancer) :
    Option Endpoint × L4LoadBalancer :=
  match lb.config.algorithm with
  | .roundRobin => lb.selectRoundRobin serviceName endpoints
  | .weightedRoundRobin => lb.selectWeightedRoundRobin serviceName endpoints
  | .leastConnections => lb.selectLeastConnections endpoints
  | .localityAware => lb.selectLocalityAware endpoints clientAddr
  | .unset => lb.selectRoundRobin serviceName endpoints

def affine (now : Time) (serviceName ns clientAddr : String) (lb : L4LoadBalancer) : Option Endpoint × L4LoadBalancer :=
  if lb.config.sessionAffinity then
    let (endpointID, lb) := lb.getSessionEndpoint now serviceName clientAddr
    if endpointID = "" then (none, lb)
    else ((lb.registry.getHealthyEndpoints serviceName ns).find? fun ep => ep.id = endpointID, lb)
  else (none, lb)

variable (now : ℕ → Time)

def selectFresh (serviceName ns clientAddr : String) (lb : L4LoadBalancer) :
    Except String Endpoint × L4LoadBalancer :=
  let endpoints := lb.registry.getHealthyEndpoints serviceName ns
  if endpoints.isEmpty then (.error ("no healthy endpoints available for service: " ++ serviceName), lb)
  else
    match lb.selectByAlgorithm serviceName clientAddr endpoints with
    | (none, lb) => (.error "failed to select endpoint", lb)
    | (some selected, lb) =>
      let lb := if lb.config.sessionAffinity then lb.setSessionEndpoint (now 1) serviceName clientAddr selected.id else lb
      (.ok selected, lb.updateRequestStats (now 2) serviceName selected.id)

def selectEndpoint (serviceName ns clientAddr : String) (lb : L4LoadBalancer) :
    Except String Endpoint × L4LoadBalancer :=
  match lb.affine (now 0) serviceName ns clientAddr with
  | (some ep, lb) => (.ok ep, lb)
  | (none, lb) => lb.selectFresh now serviceName ns clientAddr

def updateEndpoints (now : Time) (serviceName : String) (endpoints : List Endpoint) (lb : L4LoadBalancer) :
    L4LoadBalancer :=
  { lb with registry := lb.registry.updateEndpoints now serviceName "default" endpoints }

-- An endpoint that the registry does not have in the default namespace is left alone.
def recordFailure (serviceName endpointID : String) (lb : L4LoadBalancer) : L4LoadBalancer :=
  let lb := lb.modifyEndpointStats endpointID fun stats => { stats with failures := stats.failures + 1 }
  if lb.config.healthCheckEnabled then
    { lb with registry := (lb.registry.updateEndpointHealth serviceName "default" endpointID .unhealthy).2 }
  else lb

def incrementActiveConnections (endpointID : String) : L4LoadBalancer → L4LoadBalancer :=
  modifyEndpointStats endpointID fun stats => { stats with activeConnections := stats.activeConnections + 1 }

def decrementActiveConnections (endpointID : String) : L4LoadBalancer → L4LoadBalancer :=
  modifyEndpointStats endpointID fun stats =>
    if stats.activeConnections ≤ 0 then stats else { stats with activeConnections := stats.activeConnections - 1 }

def Steady (lb lb' : L4LoadBalancer) : Prop := lb.config = lb'.config ∧ lb.registry = lb'.registry

section Steady

variable {lb : L4LoadBalancer}

lemma Steady.trans {lb' lb'' : L4LoadBalancer} (h : Steady lb lb') (h' : Steady lb' lb'') : Steady lb lb'' :=
  ⟨h.1.trans h'.1, h.2.trans h'.2⟩

lemma steady_getEndpointStats {endpointID : String} : Steady (lb.getEndpointStats endpointID).2 lb := by
  rw [getEndpointStats]
  split
  · exact ⟨rfl, rfl⟩
  · exact ⟨rfl, rfl⟩

lemma steady_modifyEndpointStats (endpointID : String) (c : EndpointStats → EndpointStats) :
    Steady (lb.modifyEndpointStats endpointID c) lb := steady_getEndpointStats

variable (serviceName : String) (endpoints : List Endpoint)

lemma steady_selectRoundRobin : Steady (lb.selectRoundRobin serviceName endpoints).2 lb := by
  rw [selectRoundRobin]
  split_ifs
  · exact ⟨rfl, rfl⟩
  · exact ⟨rfl, rfl⟩

lemma steady_selectWeightedRoundRobin : Steady (lb.selectWeightedRoundRobin serviceName endpoints).2 lb := by
  rw [selectWeightedRoundRobin]
  dsimp only
  split_ifs
  · exact ⟨rfl, rfl⟩
  · exact steady_selectRoundRobin _ _
  · exact ⟨rfl, rfl⟩

lemma steady_leastConnections (mc : Int32) (b : Option Endpoint) :
    Steady (leastConnections endpoints mc b lb).2 lb := by
  induction endpoints generalizing mc b lb with
  | nil => exact ⟨rfl, rfl⟩
  | cons ep r ih =>
    rw [leastConnections]
    dsimp only
    split_ifs
    · exact (ih _ _).trans steady_getEndpointStats
    · exact (ih _ _).trans steady_getEndpointStats

lemma steady_selectByAlgorithm {ca : String} {endpoints : List Endpoint} :
    Steady (lb.selectByAlgorithm serviceName ca endpoints).2 lb := by
  rw [selectByAlgorithm]
  split
  · exact steady_selectRoundRobin _ _
  · exact steady_selectWeightedRoundRobin _ _
  · exact steady_leastConnections _ _ _
  · rw [selectLocalityAware]
    dsimp only
    split
    · exact ⟨rfl, rfl⟩
    · split
      · exact ⟨rfl, rfl⟩
      · exact steady_selectRoundRobin _ _
  · exact steady_selectRoundRobin _ _

lemma steady_affine (now : Time) (serviceName ns ca : String) : Steady (lb.affine now serviceName ns ca).2 lb := by
  have hs : Steady (lb.getSessionEndpoint now serviceName ca).2 lb := by
    rw [getSessionEndpoint]
    split
    · exact ⟨rfl, rfl⟩
    · split_ifs
      · exact ⟨rfl, rfl⟩
      · exact ⟨rfl, rfl⟩
  rw [affine]
  split_ifs
  · dsimp only
    split_ifs
    · exact hs
    · exact hs
  · exact ⟨rfl, rfl⟩

lemma steady_updateRequestStats {now : Time} {serviceName endpointID : String} :
    Steady (lb.updateRequestStats now serviceName endpointID) lb := by
  rw [updateRequestStats]
  exact (steady_modifyEndpointStats _ _).trans ⟨rfl, rfl⟩

lemma steady_selectFresh {now : ℕ → Time} {serviceName ns ca : String} :
    Steady (lb.selectFresh now serviceName ns ca).2 lb := by
  rw [selectFresh]
  dsimp only
  split_ifs
  · exact ⟨rfl, rfl⟩
  · have hnext : Steady (lb.selectByAlgorithm serviceName ca (lb.registry.getHealthyEndpoints serviceName ns)).2 lb :=
      steady_selectByAlgorithm _
    split
    · next he =>
      rwa [he] at hnext
    · next he =>
      rw [he] at hnext
      refine steady_updateRequestStats.trans (Steady.trans ?_ hnext)
      split_ifs
      · exact ⟨rfl, rfl⟩
      · exact ⟨rfl, rfl⟩

lemma steady_selectEndpoint (now : ℕ → Time) (serviceName ns ca : String) :
    Steady (lb.selectEndpoint now serviceName ns ca).2 lb := by
  have hnext : Steady (lb.affine (now 0) serviceName ns ca).2 lb := steady_affine _ _ _ _
  rw [selectEndpoint]
  split
  · next he =>
    rwa [he] at hnext
  · next he =>
    rw [he] at hnext
    exact steady_selectFresh.trans hnext

end Steady

end L4LoadBalancer

end Cloudless.Overlay
