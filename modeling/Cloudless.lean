import Cloudless.Raft.Replicas
import Cloudless.Raft.BatchEffects
import Cloudless.Raft.Snapshots
import Cloudless.Storage.Failover
import Cloudless.Storage.ChunkRestart
import Cloudless.Scheduler.Rollout
import Cloudless.Storage.MultipartUploads
import Cloudless.Policy.Matching
import Cloudless.Policy.Priorities
import Cloudless.Secrets.Queries
import Cloudless.Secrets.Validity
import Cloudless.Secrets.LimitedUse
import Cloudless.Secrets.Durability
import Cloudless.Membership.Delivery
import Cloudless.Membership.Locking
import Cloudless.Coordinator.Frames
import Cloudless.Coordinator.Deletion
import Cloudless.Coordinator.Assignments
import Cloudless.Coordinator.Repair
import Cloudless.Storage.MetadataKeys
import Cloudless.Mtls.Identities
import Cloudless.Mtls.Rotation
import Cloudless.Membership.TokenUse
import Cloudless.Overlay.VirtualIPs
import Cloudless.Overlay.Durability
import Cloudless.Overlay.Isolation
import Cloudless.Raft.Encoding
import Cloudless.Storage.ReferentialIntegrity
import Cloudless.Storage.StorageManager
import Cloudless.Storage.ColdData
import Cloudless.Volumes.Restart
import Cloudless.Containers.Enforcement
import Cloudless.Storage.DegradedReads
import Cloudless.Storage.QuotaAdmission
import Cloudless.Storage.Versions
import Cloudless.Storage.MetadataClient
import Cloudless.Scheduler.Preemption
import Cloudless.Scheduler.Identifiers
import Cloudless.Membership.Uncordoning
import Cloudless.Overlay.PoolAddresses
import Cloudless.Coordinator.Scaling
