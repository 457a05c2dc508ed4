import Cloudless.Foundations.FiniteMaps
import Cloudless.Foundations.GoStd

namespace Cloudless.Policies

open Foundations FiniteMaps GoStd

/-- A Go value of type `interface{}`, as far as policies look into it. -/
inductive Value
  | nil
  | bool (b : Bool)
  | number (x : Float)
  | string (s : String)
  | list (vs : List Value)
  | object (fields : List (String × Value))
  | other

inductive PolicyAction
  | allow
  | deny
  | audit
  | other (name : String)
  deriving DecidableEq

inductive RuleType
  | imageRegistry
  | capabilities
  | egressDestination
  | resourceLimit
  | nodeSelector
  | privilegedMode
  | hostNetwork
  | volumeType
  | securityContext
  | seccompProfile
  | appArmorProfile
  | seLinuxOptions
  | runtimeClass
  | runAsNonRoot
  | readOnlyRootFS
  | other (name : String)
  deriving DecidableEq

inductive ConditionOperator
  | equal
  | notEqual
  | in
  | notIn
  | exists
  | doesNotExist
  | matches
  | doesNotMatch
  | other (name : String)
  deriving DecidableEq

structure Condition where
  field : String
  operator : ConditionOperator
  value : Value

structure Rule where
  name : String
  type : RuleType
  config : FMap String Value := ∅
  conditions : List Condition := []

structure Policy where
  (name ns : String)
  enabled : Bool
  priority : Int64
  labels : FMap String String := ∅
  rules : List Rule
  action : PolicyAction
  deletedAt : Option Time := none

structure PolicySeccompProfile where
  type : String
  localhostProfile : String := ""
  deriving DecidableEq

structure PolicyAppArmorProfile where
  type : String
  localhostProfile : String := ""
  deriving DecidableEq

structure PolicySELinuxOptions where
  (user role type level : String)
  deriving DecidableEq

structure PolicyLinuxSecurityOptions where
  seccompProfile : Option PolicySeccompProfile
  appArmorProfile : Option PolicyAppArmorProfile
  seLinuxOptions : Option PolicySELinuxOptions
  deriving DecidableEq

structure PolicySecurityContext where
  linux : Option PolicyLinuxSecurityOptions
  privileged : Bool
  runAsUser : Option Int64
  runAsNonRoot : Option Bool
  readOnlyRootFilesystem : Bool
  runtimeClassName : String
  deriving DecidableEq

structure VolumeSpec where
  (name type source mountPath : String)
  readOnly : Bool
  deriving DecidableEq

structure PortSpec where
  name : String
  port : Int32
  protocol : String
  hostPort : Int32
  deriving DecidableEq

structure WorkloadSpec where
  (name ns : String)
  image : String := ""
  command : List String := []
  args : List String := []
  env : FMap String String := ∅
  labels : FMap String String := ∅
  annotations : FMap String String := ∅
  privileged : Bool := false
  capabilities : List String := []
  hostNetwork : Bool := false
  hostPID : Bool := false
  hostIPC : Bool := false
  securityContext : Option PolicySecurityContext := none
  cpuRequest : Int64 := 0
  memoryRequest : Int64 := 0
  cpuLimit : Int64 := 0
  memoryLimit : Int64 := 0
  volumes : List VolumeSpec := []
  ports : List PortSpec := []
  egressDomains : List String := []
  nodeSelector : FMap String String := ∅
  region : String := ""
  zone : String := ""
  deriving DecidableEq

structure Violation where
  (policyName ruleName message severity field value : String)
  deriving DecidableEq

structure AuditEntry where
  (policyName ruleName message action : String)
  deriving DecidableEq

structure EvaluationResult where
  allowed : Bool
  reason : String
  matchedPolicies : List String
  violations : List Violation
  auditEntries : List AuditEntry
  policyCount : ℕ
  deriving DecidableEq

structure EngineConfig where
  defaultAction : PolicyAction
  cacheEnabled : Bool
  cacheTTL : ℤ

end Cloudless.Policies
