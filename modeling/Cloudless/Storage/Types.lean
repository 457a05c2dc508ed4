import Cloudless.Foundations.FiniteMaps
import Cloudless.Foundations.GoStd

namespace Cloudless.Storage

open Foundations FiniteMaps GoStd

inductive StorageClass
  | hot
  | cold
  | ephemeral
  | other (name : String)
  deriving DecidableEq

structure Bucket where
  name : String
  storageClass : StorageClass
  (quotaBytes usedBytes : Int64)
  (createdAt updatedAt : Time)
  labels : Option (FMap String String)
  owner : String
  deriving DecidableEq

structure Object where
  (bucket key : String)
  size : Int64
  checksum : String
  chunkIDs : List String
  version : ℕ
  storageClass : StorageClass
  contentType : String
  metadata : Option (FMap String String)
  (createdAt updatedAt accessedAt : Time)
  ecEnabled : Bool
  (dataShards parityShards : ℤ)
  shardIndices : List ℤ
  deriving DecidableEq

inductive ReadConsistency
  | strong
  | eventual
  | bounded
  deriving DecidableEq

structure ReadOptions where
  consistency : ReadConsistency
  maxStaleness : ℤ
  preferLocal : Bool

def defaultReadOptions : ReadOptions := ⟨.strong, 0, false⟩

inductive Err
  | msg (text : String)
  | notLeader (leaderAddr nodeID operation : String)
  | notFound (resource : String)
  | staleRead (maxStaleness actualStaleness : ℤ) (lastModified : Time) (consistencyLevel : String)
  | wrap (text : String) (inner : Err)
  deriving DecidableEq

def getObjectKey (bucket key : String) : String := bucket ++ ":" ++ key

lemma colon_mem_getObjectKey (b key : String) : ':' ∈ (getObjectKey b key).toList := by
  simp [getObjectKey, String.toList_append]

end Cloudless.Storage
