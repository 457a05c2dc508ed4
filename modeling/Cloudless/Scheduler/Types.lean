import Cloudless.Membership.Manager

namespace Cloudless.Scheduler

open Foundations FiniteMaps

abbrev ResourceSpec := Membership.ResourceCapacity

structure AffinityRule where
  type : String
  matchLabels : FMap String String
  topologyKey : String
  required : Bool
  weight : Int32

structure Toleration where
  (key value operator effect : String)
  deriving DecidableEq

structure PlacementPolicy where
  regions : List String := []
  zones : List String := []
  nodeSelector : FMap String String := ∅
  affinity : List AffinityRule := []
  antiAffinity : List AffinityRule := []
  tolerations : List Toleration := []

structure RolloutStrategy where
  strategy : String := ""
  maxSurge : Int64 := 0
  maxUnavailable : Int64 := 0
  minAvailable : Int64 := 0
  pauseDuration : Int64 := 0
  deriving DecidableEq

structure WorkloadSpec where
  (id name : String)
  replicas : Int64
  requests : ResourceSpec
  placementPolicy : PlacementPolicy := {}
  rolloutStrategy : RolloutStrategy := {}
  annotations : FMap String String := ∅

end Cloudless.Scheduler
