import Cloudless.Foundations.Runs
import Cloudless.Raft.FSM

/-! A state machine and one restored from its snapshot stay equal up to expired entries, so they
answer every later read alike. -/

namespace Cloudless.Raft

open Foundations FiniteMaps GoStd Runs

variable {V B : Type}

def FSM.live (now : Time) (k : String) (f : FSM V) : Option (V × ℤ) :=
  (f.data.lookup k).bind (fun e => if expired e.expiresAt now then none else some (e.value, e.expiresAt))

def SameLive (now : Time) (f g : FSM V) : Prop := ∀ k, f.live now k = g.live now k

variable {now u t : Time} {k : String} {f : FSM V}

lemma live_eq_filter (h : t ≤ u) : f.live u k = (f.live t k).filter (fun p => !expired p.2 u) := by
  simp only [FSM.live]
  cases f.data.lookup k with
  | none => rfl
  | some e =>
    by_cases ht : expired e.expiresAt t = true
    · have hu := expired_mono h ht
      simp [ht, hu]
    · by_cases hu : expired e.expiresAt u = true <;> simp [ht, hu, Option.filter]

variable {g : FSM V}

lemma SameLive.mono (h : t ≤ u) (hs : SameLive t f g) : SameLive u f g := by
  intro k
  rw [live_eq_filter h, live_eq_filter h, hs k]

lemma SameLive.perform {p : Time × Mutation V} (hs : SameLive p.1 f g) :
    SameLive p.1 (f.perform p) (g.perform p) := by
  intro k
  by_cases hw : p.2.writes p.1 k = true
  · obtain ⟨t, m⟩ := p
    rcases Mutation.writes_cases hw with ⟨v, e, rfl, he⟩ | rfl
    · simp only [FSM.live, FSM.lookup_perform_set _ _ _ _ _ he, Option.bind_some, he, Bool.false_eq_true, if_false]
    · simp only [FSM.live, FSM.lookup_perform_delete, Option.bind_none]
  · have hq : p.2.writes p.1 k = false := Bool.eq_false_of_not_eq_true hw
    have hk := hs k
    simp only [FSM.live] at hk ⊢
    rw [FSM.lookup_perform_of_not_writes _ _ _ hq, FSM.lookup_perform_of_not_writes _ _ _ hq, hk]

lemma SameLive.stamp {now : ℕ → Time} (hm : Monotone now) (ms : List (Mutation V)) (i : ℕ) {t' : Time} (ht : t ≤ now i)
    (htt : t ≤ t') (ht' : ∀ j < i + ms.length, now j ≤ t') (hs : SameLive t f g) :
    SameLive t' (f.performAll (Raft.stamp now i ms)) (g.performAll (Raft.stamp now i ms)) := by
  induction ms generalizing i t f g with
  | nil => exact hs.mono htt
  | cons m ms ih =>
    have hi : now i ≤ t' := ht' i (by simp)
    have hp : SameLive (now i) (f.perform (now i, m)) (g.perform (now i, m)) := (hs.mono ht).perform
    exact ih (i + 1) (hm (Nat.le_succ i)) hi (by intro j hj; exact ht' j (by simp at hj ⊢; omega)) hp

lemma live_cleanupExpired (h : now ≤ u) : (f.cleanupExpired now).live u k = f.live u k := by
  simp only [FSM.live, FSM.cleanupExpired, lookup_filterMap]
  cases f.data.lookup k with
  | none => rfl
  | some e =>
    by_cases hn : expired e.expiresAt now = true
    · simp [hn, expired_mono h hn]
    · simp [hn]

lemma live_snapshot : (⟨f.snapshot.data⟩ : FSM V).live now k = f.live now k := by
  simp only [FSM.live, FSM.snapshot, lookup_filterMap]
  cases f.data.lookup k <;> rfl

inductive SnapshotStep (V : Type)
  | command (now : ℕ → Time) (l : LogData V)
  | cleanupOriginal (now : Time)
  | cleanupRestored (now : Time)

def snapshotStep (p : FSM V × FSM V) : SnapshotStep V → FSM V × FSM V
  | .command now l => ((p.1.apply now l).1, (p.2.apply now l).1)
  | .cleanupOriginal now => (p.1.cleanupExpired now, p.2)
  | .cleanupRestored now => (p.1, p.2.cleanupExpired now)

def Chronological : Time → List (SnapshotStep V) → Time → Prop
  | t, [], u => t ≤ u
  | t, .command now l :: steps, u => Monotone now ∧ t ≤ now 0 ∧
      ∃ t', t ≤ t' ∧ (∀ j < l.mutations.length, now j ≤ t') ∧ Chronological t' steps u
  | t, .cleanupOriginal now :: steps, u => t ≤ now ∧ Chronological now steps u
  | t, .cleanupRestored now :: steps, u => t ≤ now ∧ Chronological now steps u

lemma sameLive_run {ss : List (SnapshotStep V)} (hc : Chronological t ss u) (hs : SameLive t f g) :
    SameLive u (run snapshotStep (f, g) ss).1 (run snapshotStep (f, g) ss).2 := by
  induction ss generalizing t f g with
  | nil => exact hs.mono hc
  | cons s ss ih =>
    cases s with
    | command now l =>
      obtain ⟨hm, ht, t', htt, ht', hc⟩ := hc
      have hp := hs.stamp hm l.mutations 0 ht htt (by simpa using ht')
      refine ih hc ?_
      simpa only [FSM.apply_eq] using hp
    | cleanupOriginal now =>
      obtain ⟨ht, hc⟩ := hc
      refine ih hc (fun k => ?_)
      rw [live_cleanupExpired le_rfl]
      exact hs.mono ht k
    | cleanupRestored now =>
      obtain ⟨ht, hc⟩ := hc
      refine ih hc (fun k => ?_)
      rw [live_cleanupExpired le_rfl]
      exact hs.mono ht k

def Refused (k : String) (a : Except String V) : Prop :=
  a = .error ("key not found: " ++ k) ∨ a = .error ("key expired: " ++ k)

def SameAnswer (k : String) (a b : Except String V) : Prop :=
  (∃ v, a = .ok v ∧ b = .ok v) ∨ Refused k a ∧ Refused k b

lemma get_of_live : (∃ v e, f.live now k = some (v, e) ∧ f.get now k = .ok v) ∨
      f.live now k = none ∧ Refused k (f.get now k) := by
  simp only [FSM.live, FSM.get, Refused]
  cases f.data.lookup k with
  | none => simp
  | some e => by_cases he : expired e.expiresAt now = true <;> simp [he]

lemma SameLive.get (hs : SameLive now f g) (k : String) : SameAnswer k (f.get now k) (g.get now k) := by
  have hk := hs k
  rcases get_of_live with ⟨v, e, hl, hv⟩ | ⟨hl, hr⟩
  · rcases get_of_live with ⟨v', e', hl', hv'⟩ | ⟨hl', hr'⟩
    · rw [hl, hl'] at hk
      cases hk
      exact .inl ⟨v, hv, hv'⟩
    · rw [hl, hl'] at hk
      cases hk
  · rcases get_of_live with ⟨v', e', hl', hv'⟩ | ⟨hl', hr'⟩
    · rw [hl, hl'] at hk
      cases hk
    · exact .inr ⟨hr, hr'⟩

lemma lookup_getAll : (f.getAll now).lookup k = (f.live now k).map Prod.fst := by
  simp only [FSM.getAll, FSM.live, lookup_filterMap]
  cases f.data.lookup k with
  | none => rfl
  | some e => by_cases he : expired e.expiresAt now = true <;> simp [he]

lemma SameLive.getAll (hs : SameLive now f g) : f.getAll now = g.getAll now := by
  apply Finmap.ext_lookup
  intro k
  rw [lookup_getAll, lookup_getAll, hs k]

variable {json : Codec (SnapshotData V) B} {sink : SnapshotSink}

lemma persist_ok {s : FSMSnapshot V} {data : B}
    (h : s.persist json now sink = .ok data) : json.marshal ⟨1, now, s.data⟩ = .ok data := by
  rw [FSMSnapshot.persist] at h
  cases hm : json.marshal ⟨1, now, s.data⟩ with
  | error err => simp [hm] at h
  | ok d =>
    rw [hm] at h
    rcases hw : sink.writeErr with _ | e <;> rcases hc : sink.closeErr with _ | e' <;> simp_all

lemma restore_persisted {s : FSM V} {t' : Time} {data : B}
    (hp : s.snapshot.persist json t sink = .ok data) : ∃ r, f.restore json t' data = (r, none) ∧ SameLive t' s r := by
  have hu := json.unmarshal_marshal (persist_ok hp)
  refine ⟨(⟨s.snapshot.data⟩ : FSM V).cleanupExpired t', by simp only [FSM.restore, hu]; rfl, ?_⟩
  intro k
  rw [live_cleanupExpired le_rfl, live_snapshot]

theorem restored_reads_agree (json : Codec (SnapshotData V) B) (s f : FSM V) (t t' : Time) (sink : SnapshotSink)
    (data : B) (hp : s.snapshot.persist json t sink = .ok data) :
    ∃ r, f.restore json t' data = (r, none) ∧ ∀ (steps : List (SnapshotStep V)) (u q : Time),
      Chronological t' steps u → u ≤ q →
        (∀ k, SameAnswer k ((run snapshotStep (s, r) steps).1.get q k) ((run snapshotStep (s, r) steps).2.get q k)) ∧
          (run snapshotStep (s, r) steps).1.getAll q = (run snapshotStep (s, r) steps).2.getAll q := by
  obtain ⟨r, hr, hs⟩ := restore_persisted hp
  refine ⟨r, hr, ?_⟩
  intro steps u q hc hq
  have hu := (sameLive_run hc hs).mono hq
  exact ⟨hu.get, hu.getAll⟩

def treeCodec (α : Type) : Codec α α := ⟨.ok, .ok, by intro a b h; cases h; rfl⟩

def leasedFSM : FSM Bytes := ⟨(∅ : FMap String (Entry Bytes)).insert "k" ⟨[1], 100, unix 5, unix 5⟩⟩

def leasedSteps : List (SnapshotStep Bytes) :=
  [.cleanupOriginal (unix 160), .command (fun _ => unix 170) (.ofCommand ⟨"set", "j", [2], 0⟩)]

theorem restored_reads_agree_leased :
    ∃ r, newFSM.restore (treeCodec (SnapshotData Bytes)) (unix 50) ⟨1, unix 10, leasedFSM.snapshot.data⟩ = (r, none) ∧
      SameAnswer "k" ((run snapshotStep (leasedFSM, r) leasedSteps).1.get (unix 200) "k")
        ((run snapshotStep (leasedFSM, r) leasedSteps).2.get (unix 200) "k") := by
  obtain ⟨r, hr, h⟩ := restored_reads_agree (treeCodec (SnapshotData Bytes)) leasedFSM newFSM (unix 10) (unix 50)
    ⟨none, none⟩ ⟨1, unix 10, leasedFSM.snapshot.data⟩ rfl
  have hc : Chronological (unix 50) leasedSteps (unix 170) :=
    ⟨by decide, monotone_const, by decide, unix 170, by decide, fun _ _ => le_rfl, le_rfl⟩
  exact ⟨r, hr, (h leasedSteps (unix 170) (unix 200) hc (by decide)).1 "k"⟩

end Cloudless.Raft
