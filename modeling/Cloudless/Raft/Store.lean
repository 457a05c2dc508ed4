import Cloudless.Raft.FSM

namespace Cloudless.Raft

open Foundations GoStd

/-- How the consensus library ends a submission. A lost entry is reported as failed although it is
committed and applied. -/
inductive Commit
  | committed
  | failed (err : String)
  | lost (err : String)
  deriving DecidableEq

structure RaftEnv where
  commit : Commit
  now : ℕ → Time

structure RaftStore (V : Type) where
  fsm : FSM V
  log : List (LogData V)
  isLeader : Bool
  (leader raftID : String)

variable {V : Type}

namespace RaftStore

variable (env : RaftEnv)

def append (data : LogData V) (s : RaftStore V) : RaftStore V :=
  { s with fsm := (s.fsm.apply env.now data).1, log := s.log ++ [data] }

def submit (failure : String) (data : LogData V) (s : RaftStore V) : RaftStore V × Option String :=
  if s.isLeader then
    match env.commit with
    | .failed err => (s, some (failure ++ err))
    | .lost err => (s.append env data, some (failure ++ err))
    | .committed => (s.append env data, (s.fsm.apply env.now data).2)
  else (s, some "not leader")

def set (key : String) (value : V) (s : RaftStore V) : RaftStore V × Option String :=
  s.submit env "failed to apply command: " (.ofCommand ⟨"set", key, value, 0⟩)

def delete [Inhabited V] (env : RaftEnv) (key : String) (s : RaftStore V) : RaftStore V × Option String :=
  s.submit env "failed to apply command: " (.ofCommand ⟨"delete", key, default, 0⟩)

def setWithTTL (now : Time) (key : String) (value : V) (ttl : ℤ) (s : RaftStore V) : RaftStore V × Option String :=
  s.submit env "failed to apply command: " (.ofCommand ⟨"set", key, value, unixSeconds (now + ttl)⟩)

def applyBatch [Inhabited V] (env : RaftEnv) (commands : List (Command V)) (s : RaftStore V) :
    RaftStore V × Option String :=
  s.submit env "failed to apply batch: " (.ofBatch commands)

def applyRaw (data : LogData V) (s : RaftStore V) : RaftStore V × Option String :=
  s.submit env "failed to apply command: " data

lemma fsm_append (d : LogData V) (s : RaftStore V) :
    (s.append env d).fsm = s.fsm.performAll (stamp env.now 0 d.mutations) := by
  rw [append, FSM.apply_eq]

lemma apply_set {now : ℕ → Time} {key : String} {v : V} {f : FSM V} : f.apply now (.ofCommand ⟨"set", key, v, 0⟩) =
      (⟨f.data.insert key ⟨v, 0, ((f.data.lookup key).map Entry.createdAt).getD (now 0), now 0⟩⟩, none) := by
  have hd : (LogData.ofCommand ⟨"set", key, v, 0⟩ : LogData V).dispatch = .single ⟨"set", key, v, 0⟩ := rfl
  have he : expired 0 (now 0) = false := by simp [expired]
  simp only [FSM.apply, hd, FSM.applyCommand, if_true, FSM.applySet, he, Bool.false_eq_true, if_false]
  cases f.data.lookup key <;> rfl

lemma set_cases (key : String) (v : V) (s : RaftStore V) : (s.set env key v).1.isLeader = s.isLeader ∧
    ((s.set env key v).1.fsm = s.fsm ∧ (∃ err, (s.set env key v).2 = some err) ∨
      ∃ ca ua, (s.set env key v).1.fsm.data = s.fsm.data.insert key ⟨v, 0, ca, ua⟩) := by
  have ha : ∃ ca ua, (s.append env (.ofCommand ⟨"set", key, v, 0⟩)).fsm.data =
      s.fsm.data.insert key ⟨v, 0, ca, ua⟩ := by
    rw [append, apply_set]
    exact ⟨_, _, rfl⟩
  rw [set, submit]
  split
  · split
    · exact ⟨rfl, .inl ⟨rfl, _, rfl⟩⟩
    · exact ⟨rfl, .inr ha⟩
    · exact ⟨rfl, .inr ha⟩
  · exact ⟨rfl, .inl ⟨rfl, _, rfl⟩⟩

lemma set_eq_none_iff {env : RaftEnv} {key : String} {v : V} {s : RaftStore V} :
    (s.set env key v).2 = none ↔ s.isLeader = true ∧ env.commit = .committed := by
  rw [set, submit]
  split
  · next hl => cases hc : env.commit <;> simp [hl, apply_set]
  · next hl => simp [hl]

end RaftStore

end Cloudless.Raft
