import Cloudless.Raft.FSM

namespace Cloudless.Raft

open Foundations GoStd

variable {V : Type}

inductive Net (V : Type)
  | untouched
  | removed
  | updated (value : V) (expiresAt : ℤ) (createdAt updatedAt : Time)
  | recreated (value : V) (expiresAt : ℤ) (createdAt updatedAt : Time)

variable {n : Net V}

namespace Net

-- A first set keeps the creation time of the entry it finds; a set after a delete starts a new one.
def set (now : Time) (v : V) (e : ℤ) : Net V → Net V
  | untouched => updated v e now now
  | removed => recreated v e now now
  | updated _ _ c _ => updated v e c now
  | recreated _ _ c _ => recreated v e c now

def record (k : String) (n : Net V) (p : Time × Mutation V) : Net V :=
  match p.2 with
  | .set key v e => if key = k ∧ expired e p.1 = false then n.set p.1 v e else n
  | .delete key => if key = k then removed else n
  | .reject _ => n

def after : Net V → Option (Entry V) → Option (Entry V)
  | untouched, o => o
  | removed, _ => none
  | updated v e c u, o => some ⟨v, e, (o.map Entry.createdAt).getD c, u⟩
  | recreated v e c u, _ => some ⟨v, e, c, u⟩

def Restores : Net V → Option (Entry V) → Prop
  | untouched, _ => True
  | removed, o => o = none
  | updated v e _ u, o => ∃ c, o = some ⟨v, e, c, u⟩
  | recreated v e c u, o => o = some ⟨v, e, c, u⟩

variable {o : Option (Entry V)}

lemma after_set {now : Time} {v : V} {e : ℤ} :
    (n.set now v e).after o = some ⟨v, e, ((n.after o).map Entry.createdAt).getD now, now⟩ := by
  cases n <;> rfl

lemma after_eq_iff : n.after o = o ↔ n.Restores o := by
  cases n with
  | untouched => simp [after, Restores]
  | removed | recreated => simp [after, Restores, eq_comm]
  | updated v e c u =>
    cases o with
    | none => simp [after, Restores]
    | some entry =>
      obtain ⟨v', e', c', u'⟩ := entry
      simp [after, Restores, eq_comm]

end Net

def netWrite (k : String) (ps : List (Time × Mutation V)) : Net V := ps.foldl (Net.record k) .untouched

variable (f : FSM V) (k : String) (ps : List (Time × Mutation V))

@[simp] lemma netWrite_snoc {p : Time × Mutation V} : netWrite k (ps ++ [p]) = (netWrite k ps).record k p := by
  simp only [netWrite, List.foldl_append, List.foldl_cons, List.foldl_nil]

lemma Net.record_of_not_writes (p : Time × Mutation V) (h : p.2.writes p.1 k = false) : n.record k p = n := by
  obtain ⟨t, m⟩ := p
  cases m with
  | set key v e =>
    have hh : ¬ (key = k ∧ expired e t = false) := by
      simpa [Mutation.writes] using h
    simp only [record, if_neg hh]
  | delete key =>
    have hh : ¬ key = k := by simpa [Mutation.writes] using h
    simp only [record, if_neg hh]
  | reject err => rfl

lemma lookup_performAll : (f.performAll ps).data.lookup k = (netWrite k ps).after (f.data.lookup k) := by
  induction ps using List.reverseRecOn with
  | nil => rfl
  | append_singleton ps p ih =>
    rw [FSM.performAll_append, FSM.performAll_cons, FSM.performAll_nil, netWrite_snoc]
    by_cases hw : p.2.writes p.1 k = true
    · obtain ⟨t, m⟩ := p
      rcases Mutation.writes_cases hw with ⟨v, e, rfl, he⟩ | rfl
      · rw [FSM.lookup_perform_set _ _ _ _ _ he, ih]
        simp only [Net.record, he, and_self, if_true, Net.after_set]
      · rw [FSM.lookup_perform_delete]
        simp only [Net.record, if_true, Net.after]
    · have hq : p.2.writes p.1 k = false := Bool.eq_false_of_not_eq_true hw
      rw [FSM.lookup_perform_of_not_writes _ _ _ hq, Net.record_of_not_writes _ p hq, ih]

lemma performAll_eq_iff : f.performAll ps = f ↔ ∀ k, (netWrite k ps).Restores (f.data.lookup k) := by
  constructor
  · intro h k
    rw [← Net.after_eq_iff, ← lookup_performAll, h]
  · intro h
    have hd : (f.performAll ps).data = f.data := by
      apply Finmap.ext_lookup
      intro k
      rw [lookup_performAll, Net.after_eq_iff]
      exact h k
    cases hf : f.performAll ps
    cases f
    simp_all

lemma apply_unchanged_iff (now : ℕ → Time) (l : LogData V) : ((f.apply now l).2 ≠ none → (f.apply now l).1 = f) ↔
      (∀ m ∈ l.mutations, m.valid = true) ∨
        ∀ k, (netWrite k (stamp now 0 l.mutations)).Restores (f.data.lookup k) := by
  rw [FSM.apply_eq, ← performAll_eq_iff]
  have he := lastError_eq_none_iff l.mutations none
  by_cases hv : ∀ m ∈ l.mutations, m.valid = true
  · have hn : lastError l.mutations none = none := he.mpr ⟨hv, rfl⟩
    simpa [hn] using .inl hv
  · have hn : lastError l.mutations none ≠ none := fun hh => hv (he.mp hh).1
    simp only [ne_eq, hn, not_false_eq_true, forall_const, hv, false_or]

inductive Batch (V : Type)
  | commands (commands : List (Command V))
  | operations (operations : List (MetadataCommand V))

namespace Batch

def mutations : Batch V → List (Mutation V)
  | commands cs => cs.map Command.mutation
  | operations ops => ops.map MetadataCommand.mutation

def logData [Inhabited V] : Batch V → LogData V
  | commands cs => .ofBatch cs
  | operations ops => .ofMetadataBatch ops

variable [Inhabited V]

lemma mutations_logData {b : Batch V} (h : b.mutations ≠ []) : b.logData.mutations = b.mutations := by
  cases b with
  | commands cs =>
    cases cs with
    | nil => simp [mutations] at h
    | cons c cs => simp [logData, LogData.ofBatch, LogData.mutations, LogData.dispatch,
        LogData.dispatchMetadata, LogData.dispatchCommand, Dispatch.mutations, mutations]
  | operations ops =>
    cases ops with
    | nil => simp [mutations] at h
    | cons c cs => rfl

lemma apply_empty {f : FSM V} {now : ℕ → Time} {b : Batch V} (h : b.mutations = []) :
    (f.apply now b.logData).1 = f := by
  cases b with
  | commands cs =>
    obtain rfl : cs = [] := by simpa [mutations] using h
    rfl
  | operations ops =>
    obtain rfl : ops = [] := by simpa [mutations] using h
    rfl

end Batch

theorem batch_atomic_iff [Inhabited V] (f : FSM V) (now : ℕ → Time) (b : Batch V) :
    ((f.apply now b.logData).2 ≠ none → (f.apply now b.logData).1 = f) ↔ (∀ m ∈ b.mutations, m.valid = true) ∨
        ∀ k, (netWrite k (stamp now 0 b.mutations)).Restores (f.data.lookup k) := by
  by_cases hb : b.mutations = []
  · simp [hb, Batch.apply_empty hb]
  · have hl := apply_unchanged_iff f now b.logData
    rwa [Batch.mutations_logData hb] at hl

theorem batch_not_atomic : ¬ ∀ (f : FSM Bytes) (now : ℕ → Time) (b : Batch Bytes),
    (f.apply now b.logData).2 ≠ none → (f.apply now b.logData).1 = f := by
  intro h
  have hb := h newFSM (fun _ => unix 50) (.commands [⟨"set", "k", [1], 0⟩, ⟨"incr", "k", [], 0⟩]) (by decide)
  exact absurd hb (by decide)

end Cloudless.Raft
