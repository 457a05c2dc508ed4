import Cloudless.Foundations.MapLoops
import Cloudless.Storage.Metadata

/-! The metadata client: a write that meets a node which does not lead is tried again on the leader it names. -/

namespace Cloudless.Storage

open Foundations FiniteMaps MapLoops

def isNotLeaderError : Err → Bool
  | .notLeader .. => true
  | .wrap _ err => isNotLeaderError err
  | _ => false

structure MetadataClient where
  stores : FMap String (Option String)
  currentStore : Option String
  maxRetries : ℤ

inductive Outcome
  | returned (err : Option Err)
  | panicked
  deriving DecidableEq

structure Retried where
  client : MetadataClient
  calls : List (Option Err)
  outcome : Outcome

structure RetryEnv where
  order : MapOrder
  (ctxErr operation : ℕ → Option Err)

def Retried.called (err : Err) (r : Retried) : Retried := { r with calls := some err :: r.calls }

namespace MetadataClient

def findLeader (order : MapOrder) (leaderAddr : String) (c : MetadataClient) : Option String :=
  ((order.entries c.stores).find? fun entry => entry.2 = some leaderAddr).map Prod.fst

def maxRetriesExceeded (c : MetadataClient) : Option Err → Err
  | some lastErr => .wrap ("max retries (" ++ toString c.maxRetries ++ ") exceeded: ") lastErr
  | none => .msg ("max retries (" ++ toString c.maxRetries ++ ") exceeded: %!w(<nil>)")

def retryFrom (env : RetryEnv) : ℕ → ℕ → Option Err → MetadataClient → Retried
  | 0, _, lastErr, c => ⟨c, [], .returned (some (c.maxRetriesExceeded lastErr))⟩
  | n + 1, attempt, _, c =>
    match env.ctxErr attempt, env.operation attempt with
    | some err, _ => ⟨c, [], .returned (some err)⟩
    | none, none => ⟨c, [none], .returned none⟩
    | none, some err =>
      if isNotLeaderError err then
        match err with
        | .notLeader leaderAddr _ _ =>
          if leaderAddr = "" then (retryFrom env n (attempt + 1) (some err) c).called err
          else
            match c.findLeader env.order leaderAddr with
            | none => ⟨c, [some err],
                .returned (some (.wrap ("leader at " ++ leaderAddr ++ " not available in client store pool: ") err))⟩
            | some nodeID =>
              (retryFrom env n (attempt + 1) (some err) { c with currentStore := some nodeID }).called err
        -- The type assertion on the error fails.
        | _ => ⟨c, [some err], .panicked⟩
      else ⟨c, [some err], .returned (some err)⟩

def retryOnLeaderChange (env : RetryEnv) (c : MetadataClient) : Retried :=
  retryFrom env (c.maxRetries + 1).toNat 0 none c

end MetadataClient

def Unwrapped (err : Err) : Prop :=
  isNotLeaderError err → ∃ leaderAddr nodeID operation, err = .notLeader leaderAddr nodeID operation

namespace Retried

variable {n : ℕ} {r : Retried} {err : Err}

structure Orderly (r : Retried) : Prop where
  success : r.outcome = .returned none ↔ r.calls.getLast? = some none
  redirected : ∀ call ∈ r.calls.dropLast, ∃ err, call = some err ∧ isNotLeaderError err

structure Tracked (n : ℕ) (r : Retried) : Prop extends Orderly r where
  bounded : r.calls.length ≤ n
  panics : r.outcome = .panicked ↔ ∃ err, some err ∈ r.calls ∧ ¬Unwrapped err

structure Safe (maxRetries : ℤ) (r : Retried) : Prop extends Orderly r where
  returns : r.outcome ≠ .panicked
  bounded : r.calls.length ≤ maxRetries + 1

lemma unwrapped_notLeader {la ni o : String} : Unwrapped (.notLeader la ni o) :=
  fun _ => ⟨la, ni, o, rfl⟩

lemma Tracked.called (h : Tracked n r) (he : isNotLeaderError err) (hu : Unwrapped err) :
    Tracked (n + 1) (r.called err) := by
  obtain ⟨c, cs, o⟩ := r
  refine ⟨⟨h.success.trans ?_, ?_⟩, Nat.succ_le_succ h.bounded, h.panics.trans ?_⟩
  · cases cs <;> simp [Retried.called]
  · cases cs with
    | nil => exact fun ca hm => nomatch hm
    | cons ca cs => exact List.forall_mem_cons.mpr ⟨⟨err, rfl, he⟩, h.redirected⟩
  · simp [Retried.called, or_and_right, exists_or, hu]

lemma tracked_once (c : MetadataClient) (err : Err) {o : Outcome} (ho : o ≠ .returned none)
    (hu : o = .panicked ↔ ¬Unwrapped err) : Tracked (n + 1) ⟨c, [some err], o⟩ :=
  ⟨⟨by simp [ho], by simp⟩, by simp, by simp [hu]⟩

lemma tracked_retryFrom (env : RetryEnv) (n a : ℕ) (le : Option Err) (c : MetadataClient) :
    Tracked n (MetadataClient.retryFrom env n a le c) := by
  induction n generalizing a le c with
  | zero =>
    rw [MetadataClient.retryFrom]
    exact ⟨⟨by simp, by simp⟩, le_refl _, by simp⟩
  | succ n ih =>
    rw [MetadataClient.retryFrom]
    split
    · exact ⟨⟨by simp, by simp⟩, by simp, by simp⟩
    · exact ⟨⟨by simp, by simp⟩, by simp, by simp⟩
    · split_ifs with hn
      · split
        · split_ifs
          · exact (ih _ _ c).called rfl unwrapped_notLeader
          · split
            · exact tracked_once c _ (by simp) (by simp [unwrapped_notLeader])
            · exact (ih _ _ _).called rfl unwrapped_notLeader
        · rename_i hw
          refine tracked_once c _ (by simp) (iff_of_true rfl fun hu => ?_)
          obtain ⟨la, ni, o, rfl⟩ := hu hn
          exact hw _ _ _ rfl
      · exact tracked_once c _ (by simp) (iff_of_false (by simp) (not_not.mpr fun h => absurd h hn))

end Retried

open Retried

theorem retry_safe_iff (env : RetryEnv) (c : MetadataClient) : Safe c.maxRetries (c.retryOnLeaderChange env) ↔
      -1 ≤ c.maxRetries ∧ ∀ err, some err ∈ (c.retryOnLeaderChange env).calls → Unwrapped err := by
  have h : Tracked _ (c.retryOnLeaderChange env) := tracked_retryFrom env _ 0 none c
  constructor
  · intro hs
    have hb := hs.bounded
    refine ⟨by omega, fun err hm => ?_⟩
    by_contra hu
    exact hs.returns (h.panics.mpr ⟨err, hm, hu⟩)
  · rintro ⟨hl, hu⟩
    have hb := h.bounded
    refine ⟨h.toOrderly, fun hp => ?_, by omega⟩
    obtain ⟨err, hm, hnot⟩ := h.panics.mp hp
    exact hnot (hu err hm)

/-- The error with which a node that does not lead refuses to create a bucket is wrapped. -/
theorem follower_write_panics :
    let follower : MetadataStore (Bucket ⊕ Object) := ⟨∅, ∅, some ⟨⟨∅⟩, [], false, "leader", "raft"⟩⟩
    let result := (follower.createBucket recordJSON calmEnv (plainBucket "b")).2
    let err := .wrap "failed to apply bucket creation to RAFT: " (.notLeader "leader" "raft" "metadata_write")
    result = .error err ∧
      ((MetadataClient.mk ∅ none 3).retryOnLeaderChange ⟨sortedOrder, fun _ => none, fun _ => some err⟩).outcome =
        .panicked := by
  decide +kernel

end Cloudless.Storage
