import Cloudless.Scheduler.Types

namespace Cloudless.Scheduler

open Foundations FiniteMaps GoStd Cloudless.Membership

structure ScorerConfig where
  (localityWeight reliabilityWeight costWeight utilizationWeight networkPenaltyWeight : Float)

structure ScoreComponents where
  (localityScore reliabilityScore costScore utilizationScore networkPenalty : Float)

structure ScoredNode where
  node : NodeInfo
  score : Float
  components : ScoreComponents

structure Scorer where
  config : ScorerConfig

def newScorer (config : ScorerConfig) : Scorer :=
  let total := config.localityWeight + config.reliabilityWeight + config.costWeight + config.utilizationWeight +
    config.networkPenaltyWeight
  if total > 0 then
    ⟨⟨config.localityWeight / total, config.reliabilityWeight / total, config.costWeight / total,
      config.utilizationWeight / total, config.networkPenaltyWeight / total⟩⟩
  else ⟨⟨0.25, 0.30, 0.15, 0.20, 0.10⟩⟩

def clampUnit (x : Float) : Float := mathMax 0 (mathMin 1 x)

variable (node : NodeInfo)

def hasLabels (labels : FMap String String) : Bool :=
  !hasEntry (fun key value => node.labels.lookup key ≠ some value) labels

variable (workload : WorkloadSpec)

def calculateLocalityScore : Float :=
  let policy := workload.placementPolicy
  let score : Float :=
    if policy.regions = [] then 0.7
    else match policy.regions.findIdx? (node.region == ·) with
      | some i => 1.0 - i.toFloat * 0.1
      | none => 0.5
  let score :=
    if policy.zones = [] then score
    else if node.zone ∈ policy.zones then score + 0.2 else score - 0.2
  clampUnit score

def conditionAdjustment (score : Float) (condition : NodeCondition) : Float :=
  if condition.status = "True" then
    if condition.type = "MemoryPressure" then score - 0.2
    else if condition.type = "DiskPressure" then score - 0.2
    else if condition.type = "NetworkUnavailable" then score - 0.4
    else if condition.type = "Ready" then score + 0.1
    else score
  else score

def calculateReliabilityScore : Float :=
  let baseScore := node.conditions.foldl conditionAdjustment node.reliabilityScore
  let baseScore := match node.state with
    | .ready => baseScore
    | .enrolling => baseScore * 0.5
    | _ => 0
  clampUnit baseScore

def calculateCostScore : Float :=
  if node.capacity.cpuMillicores = 0 ∨ node.capacity.memoryBytes = 0 then 0
  else
    let cpuRatio := workload.requests.cpuMillicores.toFloat / node.capacity.cpuMillicores.toFloat
    let memRatio := workload.requests.memoryBytes.toFloat / node.capacity.memoryBytes.toFloat
    let avgRatio := (cpuRatio + memRatio) / 2
    let score : Float :=
      if avgRatio < 0.1 then 0.7
      else if avgRatio < 0.3 then 1.0
      else if avgRatio < 0.5 then 0.8
      else if avgRatio < 0.7 then 0.6
      else 0.3
    let score := if 0 < node.capacity.gpuCount ∧ workload.requests.gpuCount = 0 then score - 0.3 else score
    clampUnit score

def calculateUtilizationScore : Float :=
  if node.capacity.cpuMillicores = 0 ∨ node.capacity.memoryBytes = 0 then 0
  else
    let cpu := node.capacity.cpuMillicores.toFloat
    let mem := node.capacity.memoryBytes.toFloat
    let currentCPUUtil := node.usage.cpuMillicores.toFloat / cpu
    let currentMemUtil := node.usage.memoryBytes.toFloat / mem
    let futureCPUUtil := (node.usage.cpuMillicores.toFloat + workload.requests.cpuMillicores.toFloat) / cpu
    let futureMemUtil := (node.usage.memoryBytes.toFloat + workload.requests.memoryBytes.toFloat) / mem
    if futureCPUUtil > 1.0 ∨ futureMemUtil > 1.0 then 0
    else
      let targetUtil := 0.65
      let avgDiff := ((futureCPUUtil - targetUtil).abs + (futureMemUtil - targetUtil).abs) / 2
      let score := 1.0 - avgDiff
      let currentBalance := (currentCPUUtil - currentMemUtil).abs
      let futureBalance := (futureCPUUtil - futureMemUtil).abs
      let score := if futureBalance < currentBalance then score + 0.1 else score
      let score := if futureCPUUtil > 0.9 ∨ futureMemUtil > 0.9 then score - 0.3 else score
      clampUnit score

def missingFeatures (selector : FMap String String) : ℕ :=
  size (filterMap (fun key value =>
    if hasPrefix key "network.feature/" ∧ value = "required" ∧
      trimPrefix key "network.feature/" ∉ node.networkFeatures then some () else none) selector)

def calculateNetworkPenalty : Float :=
  let policy := workload.placementPolicy
  let requiredBandwidth := workload.requests.bandwidthBPS
  let availableBandwidth := node.capacity.bandwidthBPS - node.usage.bandwidthBPS
  let penalty : Float :=
    if 0 < node.capacity.bandwidthBPS ∧ 0 < requiredBandwidth ∧ availableBandwidth < requiredBandwidth then
      0.0 + (1.0 - availableBandwidth.toFloat / requiredBandwidth.toFloat) * 0.5
    else 0.0
  let penalty :=
    if workload.annotations.lookup "network.requirePublicIP" = some "true" ∧ node.publicIP = "" then penalty + 0.1
    else penalty
  let penalty := node.conditions.foldl (fun penalty condition =>
    if condition.type = "NetworkUnavailable" ∧ condition.status = "True" then penalty + 1.0 else penalty) penalty
  let penalty := (· + 0.3)^[missingFeatures node policy.nodeSelector] penalty
  let penalty := if policy.regions ≠ [] ∧ node.region ∉ policy.regions then penalty + 0.2 else penalty
  clampUnit penalty

def nodeMatchesAffinity (affinity : AffinityRule) : Bool :=
  affinity.type = "node" && hasLabels node affinity.matchLabels

def applyAffinityAdjustments (score : Float) (node : NodeInfo) (workload : WorkloadSpec) : Float :=
  let score := workload.placementPolicy.affinity.foldl (fun score affinity =>
    if nodeMatchesAffinity node affinity then
      if affinity.required then score + 0.1 else score + affinity.weight.toFloat / 100.0 * 0.2
    else score) score
  workload.placementPolicy.antiAffinity.foldl (fun score antiAffinity =>
    if nodeMatchesAffinity node antiAffinity then
      if antiAffinity.required then 0 else score - antiAffinity.weight.toFloat / 100.0 * 0.3
    else score) score

def Scorer.scoreNode (s : Scorer) (node : NodeInfo) (workload : WorkloadSpec) : ScoredNode :=
  let components : ScoreComponents :=
    { localityScore := calculateLocalityScore node workload
      reliabilityScore := calculateReliabilityScore node
      costScore := calculateCostScore node workload
      utilizationScore := calculateUtilizationScore node workload
      networkPenalty := calculateNetworkPenalty node workload }
  let totalScore := components.localityScore * s.config.localityWeight +
    components.reliabilityScore * s.config.reliabilityWeight + components.costScore * s.config.costWeight +
    components.utilizationScore * s.config.utilizationWeight -
    components.networkPenalty * s.config.networkPenaltyWeight
  ⟨node, clampUnit (applyAffinityAdjustments totalScore node workload), components⟩

end Cloudless.Scheduler
