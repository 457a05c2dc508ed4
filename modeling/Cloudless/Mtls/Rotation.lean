import Cloudless.Foundations.Runs
import Cloudless.Mtls.Certificates

namespace Cloudless.Mtls

open Foundations FiniteMaps GoStd URLs Runs CertificateManager

structure Cycles where
  cm : CertificateManager
  tick : Time

inductive CycleEvent
  | generateNode (env : IssueEnv) (nodeID nodeName : Bytes) (ips dnsNames : List Bytes) (validityDays : ℤ)
  | generateWorkload (env : IssueEnv) (workloadID workloadName : Bytes) (validityDays : ℤ)
  | rotate (env : IssueEnv) (resaving : Saving) (id : Bytes)
  | cycle (env : Bytes → IssueEnv × Saving) (ids : List Bytes)

def Due (now : Time) (c : Certificate) : Prop := now ≤ c.expiresAt ∧ c.expiresAt - now < hour

namespace Cycles

variable (authorities : Authorities)

variable (s : Cycles)

def next : Time := s.tick + s.cm.rotationInterval

def step : CycleEvent → Cycles
  | .generateNode env nodeID nodeName ips dnsNames validityDays =>
    { s with cm := (s.cm.generateNodeCertificate authorities env nodeID nodeName ips dnsNames validityDays).2 }
  | .generateWorkload env workloadID workloadName validityDays =>
    { s with cm := (s.cm.generateWorkloadCertificate authorities env workloadID workloadName validityDays).2 }
  | .rotate env resaving id => { s with cm := (s.cm.rotateCertificate authorities env resaving id).2 }
  | .cycle env ids => ⟨s.cm.rotateExpiredCertificates authorities env ids, s.next⟩

def Lasting (now : Time) (result : Except CertificateError Certificate) : Prop :=
  s.tick ≤ now ∧ now ≤ s.next ∧ ∀ c, result = .ok c → now + s.cm.rotationInterval < c.expiresAt

/-- A cycle takes place one interval after the last one, ranges over the managed certificates, and no generation in it
fails. -/
def Regular (env : Bytes → IssueEnv × Saving) (ids : List Bytes) : Prop :=
  (∀ id, (env id).1.now = s.next) ∧ ids.Nodup ∧ (∀ id, id ∈ ids ↔ (s.cm.certificates.lookup id).isSome) ∧
    ∀ id old, s.cm.certificates.lookup id = some old → Due s.next old →
      ∀ err cm', s.cm.regenerate authorities (env id).1 id old ≠ some (.error err, cm')

def scope : CycleEvent → Prop
  | .generateNode env nodeID nodeName ips dnsNames validityDays =>
    s.Lasting env.now (s.cm.generateNodeCertificate authorities env nodeID nodeName ips dnsNames validityDays).1
  | .generateWorkload env workloadID workloadName validityDays =>
    s.Lasting env.now (s.cm.generateWorkloadCertificate authorities env workloadID workloadName validityDays).1
  | .rotate env resaving id => s.Lasting env.now (s.cm.rotateCertificate authorities env resaving id).1
  | .cycle env ids => s.Regular authorities env ids

def Unexpired : Prop := ∀ id c, s.cm.certificates.lookup id = some c → s.tick ≤ c.expiresAt

end Cycles

/-- Managed certificates of these types, valid for longer than the interval at the start, never expire before a cycle. -/
def PreventsExpiry (authorities : Authorities) (interval : ℤ) (types : Set CertificateType) : Prop :=
  ∀ (cm : CertificateManager) (start : Time) (as : List CycleEvent), cm.rotationInterval = interval →
    (∀ id c, cm.certificates.lookup id = some c → c.type ∈ types ∧ start + interval < c.expiresAt) →
    Admissible (Cycles.step authorities) (Cycles.scope authorities) ⟨cm, start⟩ as →
    ∀ n, (run (Cycles.step authorities) ⟨cm, start⟩ (as.take n)).Unexpired

section Safe

variable {authorities : Authorities} {s : Cycles} {id : Bytes} {cm : CertificateManager}

def Cycles.Safe (s : Cycles) : Prop :=
  0 ≤ s.cm.rotationInterval ∧ s.cm.rotationInterval ≤ hour ∧
    ∀ id c, s.cm.certificates.lookup id = some c → c.type ≠ .service ∧ s.next ≤ c.expiresAt

lemma Cycles.Safe.unexpired (h : s.Safe) : s.Unexpired := by
  intro id c hl
  have hnext := (h.2.2 id c hl).2
  have hpos := h.1
  rw [Cycles.next] at hnext
  exact le_trans (le_add_of_nonneg_right hpos) hnext

variable {old : Certificate} {now : Time} {c : Certificate} {cm' : CertificateManager}

lemma Cycles.Safe.stores (h : s.Safe) (hs : Stores id c s.cm cm') (ht : c.type ≠ .service)
    (hnow : s.tick ≤ now) (hc : now + s.cm.rotationInterval < c.expiresAt) : Cycles.Safe { s with cm := cm' } := by
  refine ⟨by rw [hs.interval]; exact h.1, by rw [hs.interval]; exact h.2.1, ?_⟩
  intro j c' hl
  dsimp only at hl
  rw [hs.certificates, lookup_insert_if] at hl
  rw [Cycles.next, hs.interval]
  split_ifs at hl
  · cases hl
    exact ⟨ht, le_of_lt (lt_of_le_of_lt (add_le_add_left hnow _) hc)⟩
  · exact h.2.2 j c' hl

variable {env : IssueEnv}

lemma Cycles.Safe.generate {type : CertificateType} {n : Bytes} {ips dn : List Bytes}
    {vd : ℤ} (h : s.Safe) (ht : type ≠ .service)
    (hl : s.Lasting env.now (s.cm.generateCertificate authorities type env id n ips dn vd).1) :
    Cycles.Safe { s with cm := (s.cm.generateCertificate authorities type env id n ips dn vd).2 } := by
  rcases generateCertificate_cases (Prod.mk.eta (p := s.cm.generateCertificate authorities type env ..)).symm with
    ⟨-, he⟩ | ⟨c, hr, hc, hs⟩
  · rwa [he]
  · refine h.stores hs ?_ hl.1 (hl.2.2 c hr)
    rwa [(issue_eq_ok hc).2.1]

lemma rotatedExpiry {d : ℤ} (hd : d = 30 ∨ d = 7) : now + hour ≤ wholeSeconds (now + int64 (d * day)) := by
  have hlt := lt_wholeSeconds_add (now + int64 (d * day))
  have hday : int64 (d * day) = d * day := by
    rcases hd with rfl | rfl <;> decide
  rw [hday] at hlt ⊢
  rcases hd with rfl | rfl
  · have hl : hour + 1000000000 ≤ 30 * day := by decide
    linarith
  · have hl : hour + 1000000000 ≤ 7 * day := by decide
    linarith

lemma regenerate_error {err : CertificateError}
    (h : cm.regenerate authorities env id old = some (.error err, cm')) {cm₂ : CertificateManager} :
    cm₂.regenerate authorities env id old = some (.error err, cm₂) := by
  have hgen : ∀ {type n ips dn d},
      cm.generateCertificate authorities type env id n ips dn d = (.error err, cm') →
      cm₂.generateCertificate authorities type env id n ips dn d = (.error err, cm₂) := by
    intro type n ips dn d hg
    rw [generateCertificate] at hg ⊢
    split at hg
    · cases hg
      rfl
    · cases hg
  rw [regenerate] at h ⊢
  split at h
  · exact congrArg some (hgen (Option.some.inj h))
  · exact congrArg some (hgen (Option.some.inj h))
  · cases h

lemma regenerate_eq_none (h : cm.regenerate authorities env id old = none) : old.type = .service := by
  rw [regenerate] at h
  split at h
  · cases h
  · cases h
  · assumption

variable {env : IssueEnv × Saving}

lemma lookup_rotateIfDue_ne {j : Bytes} (hj : j ≠ id) :
    (cm.rotateIfDue authorities env id).certificates.lookup j = cm.certificates.lookup j := by
  rcases rotateIfDue_cases authorities env id cm with he | ⟨old, c, d, -, -, -, -, -, hs⟩
  · rw [he]
  · rw [hs.certificates, Finmap.lookup_insert_of_ne _ hj]

lemma interval_rotateIfDue : (cm.rotateIfDue authorities env id).rotationInterval = cm.rotationInterval := by
  rcases rotateIfDue_cases authorities env id cm with he | ⟨old, c, d, -, -, -, -, -, hs⟩
  · rw [he]
  · exact hs.interval

lemma lookup_rotateIfDue (ho : cm.certificates.lookup id = some old)
    (htype : old.type ≠ .service) (hnow : env.1.now ≤ old.expiresAt)
    (hg : Due env.1.now old → ∀ err cm', cm.regenerate authorities env.1 id old ≠ some (.error err, cm'))
    (hc : (cm.rotateIfDue authorities env id).certificates.lookup id = some c) :
    c.type ≠ .service ∧ env.1.now + hour ≤ c.expiresAt := by
  rw [rotateIfDue, getCertificate, ho] at hc
  dsimp only at hc
  rw [if_neg (not_lt.mpr hnow)] at hc
  dsimp only at hc
  split_ifs at hc with hdue
  · have hrot := Prod.mk.eta (p := cm.rotateCertificate authorities env.1 env.2 id)
    rcases rotateCertificate_cases hrot.symm with ⟨⟨err, he⟩, -⟩ | ⟨old', c', d, ho', -, hdays, ht, -, hexp, hs⟩
    · rw [rotateCertificate, ho] at he
      dsimp only at he
      split at he
      · next hn => exact absurd (regenerate_eq_none hn) htype
      · next err' cm' hr => exact absurd hr (hg ⟨hnow, hdue⟩ err' cm')
      · cases he
    · rw [ho] at ho'
      cases ho'
      rw [hs.certificates, Finmap.lookup_insert] at hc
      cases hc
      refine ⟨by rw [ht]; exact htype, ?_⟩
      rw [hexp]
      exact rotatedExpiry hdays
  · rw [ho] at hc
    cases hc
    exact ⟨htype, by linarith⟩

variable {ids : List Bytes} {env : Bytes → IssueEnv × Saving}

lemma rotateExpired_frame {authorities : Authorities} (cm : CertificateManager) :
    (cm.rotateExpiredCertificates authorities env ids).rotationInterval = cm.rotationInterval ∧
    ∀ j, j ∉ ids → (cm.rotateExpiredCertificates authorities env ids).certificates.lookup j =
      cm.certificates.lookup j := by
  induction ids generalizing cm with
  | nil => exact ⟨rfl, fun j _ => rfl⟩
  | cons i ids ih =>
    obtain ⟨hin, hf⟩ := ih (cm.rotateIfDue authorities (env i) i)
    refine ⟨hin.trans interval_rotateIfDue, ?_⟩
    intro j hj
    rw [List.mem_cons, not_or] at hj
    exact (hf j hj.2).trans (lookup_rotateIfDue_ne hj.1)

lemma lookup_rotateExpired (henv : ∀ id, (env id).1.now = now) (hn : ids.Nodup)
    (h : ∀ j ∈ ids, ∀ old, cm.certificates.lookup j = some old → old.type ≠ .service ∧ now ≤ old.expiresAt)
    (hg : ∀ j ∈ ids, ∀ old, cm.certificates.lookup j = some old → Due now old →
      ∀ err cm', cm.regenerate authorities (env j).1 j old ≠ some (.error err, cm'))
    {j : Bytes} (hj : j ∈ ids) (hc : (cm.rotateExpiredCertificates authorities env ids).certificates.lookup j = some c) :
    c.type ≠ .service ∧ now + hour ≤ c.expiresAt := by
  induction ids generalizing cm with
  | nil => cases hj
  | cons i ids ih =>
    obtain ⟨hi, hn⟩ := List.nodup_cons.mp hn
    have hr : (cm.rotateExpiredCertificates authorities env (i :: ids)) =
        (cm.rotateIfDue authorities (env i) i).rotateExpiredCertificates authorities env ids := rfl
    rw [hr] at hc
    by_cases hji : j = i
    · -- the entry of the head is left alone by the rest of the loop
      subst hji
      rw [(rotateExpired_frame _).2 j hi] at hc
      cases ho : cm.certificates.lookup j with
      | none =>
        rcases rotateIfDue_cases authorities (env j) j cm with he | ⟨old, -, -, hl, -⟩
        · rw [he, ho] at hc
          cases hc
        · rw [ho] at hl
          cases hl
      | some old =>
        obtain ⟨ht, hnow⟩ := h j hj old ho
        have hlast := lookup_rotateIfDue ho ht (by rw [henv]; exact hnow)
          (by rw [henv]; exact hg j hj old ho) hc
        rwa [henv] at hlast
    · -- the other entries are found as they were before the head's turn
      have hm := (List.mem_cons.mp hj).resolve_left hji
      have ho : ∀ k ∈ ids, ∀ old, (cm.rotateIfDue authorities (env i) i).certificates.lookup k = some old →
          cm.certificates.lookup k = some old := by
        intro k hk old hl
        rwa [lookup_rotateIfDue_ne (show k ≠ i by rintro rfl; exact hi hk)] at hl
      refine ih hn ?_ ?_ hm hc
      · intro k hk old hl
        exact h k (List.mem_cons_of_mem _ hk) old (ho k hk old hl)
      · intro k hk old hl hdue err cm' herr
        exact hg k (List.mem_cons_of_mem _ hk) old (ho k hk old hl) hdue err cm (regenerate_error herr)

lemma Cycles.Safe.step (h : s.Safe) (a : CycleEvent) (ha : s.scope authorities a) : (s.step authorities a).Safe := by
  cases a with
  | generateNode | generateWorkload => exact h.generate (by decide) ha
  | rotate env resaving id =>
    rcases rotateCertificate_cases (Prod.mk.eta (p := s.cm.rotateCertificate authorities env resaving id)).symm with
      ⟨-, he⟩ | ⟨old, c, days, ho, hr, -, ht, -, -, hs⟩
    · rwa [Cycles.step, he]
    · refine h.stores hs ?_ ha.1 (ha.2.2 c hr)
      rw [ht]
      exact (h.2.2 id old ho).1
  | cycle env ids =>
    obtain ⟨henv, hn, hids, hg⟩ := ha
    obtain ⟨hpos, hh, hsafe⟩ := h
    obtain ⟨hin, hf⟩ := rotateExpired_frame s.cm
    refine ⟨by rw [Cycles.step, hin]; exact hpos, by rw [Cycles.step, hin]; exact hh, ?_⟩
    intro j c hl
    have hj : j ∈ ids := by
      by_contra hj
      rw [Cycles.step, hf j hj] at hl
      exact hj ((hids j).mpr (by rw [hl]; rfl))
    obtain ⟨htype, hlast⟩ := lookup_rotateExpired henv hn (fun k _ => hsafe k) (fun k _ => hg k) hj hl
    refine ⟨htype, le_trans ?_ hlast⟩
    rw [Cycles.step, Cycles.next, hin]
    exact add_le_add_right hh _

end Safe

section Expiring

variable {authorities : Authorities} {interval : ℤ}

def heldID : Bytes := ascii "n1"

def heldCertificate (type : CertificateType) : Certificate :=
  { cert := ⟨heldID, heldID, [], [], [], -day, 0⟩
    privateKey := 0
    issuedAt := -day
    expiresAt := 0
    subject := heldID
    type := type }

def holding (type : CertificateType) (interval : ℤ) : CertificateManager :=
  { rotationInterval := interval, certificates := (∅ : FMap Bytes Certificate).insert heldID (heldCertificate type) }

def idleCycle (now : Time) : CycleEvent := .cycle (fun _ => ({ now := now }, .complete)) [heldID]

variable {type : CertificateType} {start : Time}

lemma lookup_holding {id : Bytes} {c : Certificate} (h : (holding type interval).certificates.lookup id = some c) :
    id = heldID ∧ c = heldCertificate type := by
  rw [holding, lookup_insert_if] at h
  split_ifs at h with hid
  · cases h
    exact ⟨hid, rfl⟩
  · cases h

lemma rotateIfDue_holding {env : IssueEnv × Saving} (h : type = .service ∨ ¬Due env.1.now (heldCertificate type)) :
    (holding type interval).rotateIfDue authorities env heldID = holding type interval := by
  have hl : (holding type interval).certificates.lookup heldID = some (heldCertificate type) := Finmap.lookup_insert _
  rw [rotateIfDue, getCertificate, hl]
  dsimp only
  by_cases he : (heldCertificate type).expiresAt < env.1.now
  · rw [if_pos he]
  · rw [if_neg he]
    dsimp only
    split_ifs with hdue
    · rcases h with rfl | hnot
      · rw [rotateCertificate, hl]
        rfl
      · exact absurd ⟨not_lt.mp he, hdue⟩ hnot
    · rfl

lemma step_idleCycle (h : type = .service ∨ ¬Due (start + interval) (heldCertificate type)) :
    Cycles.scope authorities ⟨holding type interval, start⟩ (idleCycle (start + interval)) ∧
    Cycles.step authorities ⟨holding type interval, start⟩ (idleCycle (start + interval)) =
      ⟨holding type interval, start + interval⟩ := by
  refine ⟨⟨fun _ => rfl, List.nodup_singleton _, ?_, ?_⟩, ?_⟩
  · intro id
    dsimp only
    rw [List.mem_singleton, holding, lookup_insert_if]
    split_ifs with hid <;> simp [hid]
  · intro id old hl hdue err cm' hr
    obtain ⟨rfl, rfl⟩ := lookup_holding hl
    rcases h with rfl | hnot
    · cases hr
    · exact hnot hdue
  · have hidle : (holding type interval).rotateIfDue authorities ({ now := start + interval }, .complete) heldID =
        holding type interval := rotateIfDue_holding h
    rw [idleCycle, Cycles.step, rotateExpiredCertificates, List.foldl_cons, List.foldl_nil, hidle]
    rfl

def idleCycles (interval : ℤ) (start : Time) : ℕ → List CycleEvent
  | 0 => []
  | n + 1 => idleCycle (start + interval) :: idleCycles interval (start + interval) n

lemma run_idleCycles {n : ℕ}
    (h : ∀ k < n, type = .service ∨ ¬Due (start + (k + 1) * interval) (heldCertificate type)) :
    Admissible (Cycles.step authorities) (Cycles.scope authorities) ⟨holding type interval, start⟩
      (idleCycles interval start n) ∧
    run (Cycles.step authorities) ⟨holding type interval, start⟩ (idleCycles interval start n) =
      ⟨holding type interval, start + n * interval⟩ := by
  induction n generalizing start with
  | zero => exact ⟨trivial, by simp [idleCycles, run]⟩
  | succ n ih =>
    have hf := h 0 (Nat.zero_lt_succ n)
    rw [Nat.cast_zero, zero_add, one_mul] at hf
    obtain ⟨hsc, hs⟩ := step_idleCycle hf
    have hr : ∀ k < n, type = .service ∨ ¬Due (start + interval + (k + 1) * interval) (heldCertificate type) := by
      intro k hk
      have hk' := h (k + 1) (Nat.succ_lt_succ hk)
      rwa [Nat.cast_add, Nat.cast_one, add_mul (k + 1 : ℤ), one_mul, add_comm ((k + 1 : ℤ) * interval), ← add_assoc] at hk'
    obtain ⟨ha, hrun⟩ := ih hr
    refine ⟨⟨hsc, ?_⟩, ?_⟩
    · rwa [hs]
    · rw [idleCycles, run_cons, hs, hrun]
      congr 1
      push_cast
      ring

lemma not_preventsExpiry {types : Set CertificateType} (start : Time) (n : ℕ) (ht : type ∈ types) (hs : start + interval < 0)
    (hidle : ∀ k < n, type = .service ∨ ¬Due (start + (k + 1) * interval) (heldCertificate type))
    (he : 0 < start + n * interval) : ¬PreventsExpiry authorities interval types := by
  intro hp
  obtain ⟨ha, hr⟩ := run_idleCycles hidle
  have hh : ∀ id c, (holding type interval).certificates.lookup id = some c →
      c.type ∈ types ∧ start + interval < c.expiresAt := by
    intro id c hl
    obtain ⟨-, rfl⟩ := lookup_holding hl
    exact ⟨ht, hs⟩
  have hun := hp (holding type interval) start (idleCycles interval start n) rfl hh ha
    (idleCycles interval start n).length
  rw [List.take_length, hr] at hun
  have hle : start + n * interval ≤ 0 := hun heldID (heldCertificate type) (Finmap.lookup_insert _)
  exact absurd he (not_lt.mpr hle)

end Expiring

theorem rotation_prevents_expiry_iff (authorities : Authorities) (created : Except Bytes Unit) (loading : Loading)
    (config : CertificateManagerConfig) (disk : FMap Bytes CertificateDir) (cm : CertificateManager)
    (types : Set CertificateType) (hnew : newCertificateManager authorities created loading config disk = .ok cm)
    (hnode : .node ∈ types) :
    PreventsExpiry authorities cm.rotationInterval types ↔ cm.rotationInterval ≤ hour ∧ .service ∉ types := by
  have hpos : 0 < cm.rotationInterval := by
    rw [(newCertificateManager_eq_ok hnew).2.2]
    split_ifs with hle
    · decide
    · exact not_le.mp hle
  generalize cm.rotationInterval = interval at hpos ⊢
  constructor
  · intro h
    refine ⟨?_, ?_⟩
    · -- an hour before its end the certificate is not due, and at the next cycle it has expired
      by_contra hlong
      rw [not_le] at hlong
      refine not_preventsExpiry (-interval - hour) 2 hnode ?_ ?_ ?_ h
      · have hh : 0 < hour := by decide
        linarith
      · intro k hk
        refine .inr ?_
        rintro ⟨hnow, hdue⟩
        dsimp only [heldCertificate] at hnow hdue
        interval_cases k
        · push_cast at hdue
          linarith
        · push_cast at hnow
          linarith
      · push_cast
        linarith
    · intro hse
      refine not_preventsExpiry (-interval - 1) 3 hse ?_ (fun k _ => .inl rfl) ?_ h
      · linarith
      · push_cast
        linarith
  · rintro ⟨hh, hse⟩ cm start as hi hf hadm n
    have hsafe : Cycles.Safe ⟨cm, start⟩ := by
      refine ⟨by rw [hi]; exact hpos.le, by rw [hi]; exact hh, ?_⟩
      intro id c hl
      obtain ⟨htype, hlast⟩ := hf id c hl
      refine ⟨fun ht => hse (ht ▸ htype), ?_⟩
      rw [Cycles.next, hi]
      exact hlast.le
    rw [← List.take_append_drop n as, admissible_append] at hadm
    exact (run_invariant Cycles.Safe (fun s a hs ha => hs.step a ha) (as.take n) hsafe hadm.1).unexpired

theorem rotation_prevents_expiry_hourly :
    newCertificateManager plainAuthorities (.ok ()) {} ⟨some [], ascii "data", true, hour⟩ ∅ =
      .ok { rotationInterval := hour } ∧ PreventsExpiry plainAuthorities hour {.node, .workload} :=
  ⟨rfl, (rotation_prevents_expiry_iff plainAuthorities (.ok ()) {} ⟨some [], ascii "data", true, hour⟩ ∅
    { rotationInterval := hour } {.node, .workload} rfl (by simp)).mpr ⟨le_refl _, by simp⟩⟩

def defaultRun : List CycleEvent :=
  [.generateNode { now := 2 * hour } heldID heldID [] [] 2, idleCycle day, idleCycle (2 * day), idleCycle (3 * day)]

theorem default_interval_lets_expire :
    newCertificateManager plainAuthorities (.ok ()) {} ⟨some [], ascii "data", true, 0⟩ ∅ =
      .ok { rotationInterval := day } ∧
    ((run (Cycles.step plainAuthorities) ⟨{ rotationInterval := day }, 0⟩ (defaultRun.take 1)).cm.certificates.lookup
      heldID).map (fun c => c.expiresAt - 2 * hour) = some (2 * day) ∧
    (run (Cycles.step plainAuthorities) ⟨{ rotationInterval := day }, 0⟩ defaultRun).tick = 3 * day ∧
    ((run (Cycles.step plainAuthorities) ⟨{ rotationInterval := day }, 0⟩ defaultRun).cm.certificates.lookup
      heldID).map (fun c => c.expiresAt) = some (2 * day + 2 * hour) ∧
    ¬PreventsExpiry plainAuthorities day {.node, .workload} := by
  refine ⟨rfl, by decide +kernel, by decide +kernel, by decide +kernel, ?_⟩
  refine not_preventsExpiry (-day - hour) 2 (show CertificateType.node ∈ _ by simp) (by decide) ?_ (by decide)
  intro k hk
  refine .inr ?_
  rintro ⟨hnow, hdue⟩
  interval_cases k
  · exact absurd hdue (by decide)
  · exact absurd hnow (by decide)

end Cloudless.Mtls
