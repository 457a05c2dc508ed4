import Cloudless.Foundations.Delimited
import Cloudless.Storage.CacheAgreement
import Cloudless.Storage.ObjectStore

/-! The keys under which buckets and objects are stored and cached, and the records a restarted node finds under them. -/

namespace Cloudless.Storage

open Foundations FiniteMaps GoStd Runs Raft MetadataStore

inductive RecordID
  | bucket (name : String)
  | object (bucket key : String)
  deriving DecidableEq

namespace RecordID

def owner : RecordID → String
  | .bucket name => name
  | .object b _ => b

def fsmKey : RecordID → String
  | .bucket name => "bucket:" ++ name
  | .object b key => "object:" ++ getObjectKey b key

end RecordID

variable {ns : Set String}

variable {V : Type} {json : MetadataJSON V}

inductive Submission (json : MetadataJSON V)
  | createBucket (bucket : Bucket) (value : V) (marshaled : json.bucket.marshal bucket = .ok value)
  | deleteBucket (name : String)
  | putObject (object : Object) (value : V) (marshaled : json.object.marshal object = .ok value)
  | deleteObject (bucket key : String)

variable {s : Submission json}

namespace Submission

def id : Submission json → RecordID
  | .createBucket bucket _ _ => .bucket bucket.name
  | .deleteBucket name => .bucket name
  | .putObject object _ _ => .object object.bucket object.key
  | .deleteObject bucket key => .object bucket key

def record : Submission json → Option (Bucket ⊕ Object)
  | .createBucket bucket _ _ => some (.inl bucket)
  | .putObject object _ _ => some (.inr object)
  | _ => none

def value : Submission json → Option V
  | .createBucket _ value _ => some value
  | .putObject _ value _ => some value
  | _ => none

variable [Inhabited V]

def data : Submission json → LogData V
  | .createBucket bucket value _ => createBucketCmd bucket value
  | .deleteBucket name => deleteBucketCmd name
  | .putObject object value _ => putObjectCmd object value
  | .deleteObject bucket key => deleteObjectCmd bucket key

end Submission

abbrev Catalog := RecordID → Option (Bucket ⊕ Object)

def Catalog.write (c : Catalog) (p : (ℕ → Time) × Submission json) : Catalog := Function.update c p.2.id p.2.record

def decodeRecord (json : MetadataJSON V) : RecordID → V → Option (Bucket ⊕ Object)
  | .bucket _, value => (json.bucket.unmarshal value).toOption.map .inl
  | .object _ _, value => (json.object.unmarshal value).toOption.map .inr

def recordAt (json : MetadataJSON V) (f : FSM V) (id : RecordID) : Option (Bucket ⊕ Object) :=
  (valueAt id.fsmKey f).bind (decodeRecord json id)

variable {id : RecordID}

variable {f : FSM V}

section Writes

variable [Inhabited V]

open Submission

variable {now : ℕ → Time}

/-- The state machine holds exactly the records of the catalog, each under its own key. -/
def Files (json : MetadataJSON V) (names : Set String) (f : FSM V) (c : Catalog) : Prop :=
  WellFormed json f ∧ ∀ id : RecordID, id.owner ∈ names → recordAt json f id = c id

end Writes

def emptyStore : ObjectStore (Bucket ⊕ Object) := .newObjectStore recordJSON defaultStorageConfig none [] ∅ []

end Cloudless.Storage
