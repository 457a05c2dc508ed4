import Cloudless.Foundations.Runs
import Cloudless.Mtls.Certificates

/-! Which identity a certificate shows, and whether the certificate held for an ID keeps the kind it was first generated
with. -/

namespace Cloudless.Mtls

open Foundations FiniteMaps GoStd URLs Runs

variable {authorities : Authorities} {type : CertificateType} {id : Bytes} {x : X509}

inductive Issued (authorities : Authorities) : CertificateType → Bytes → X509 → Prop
  | node (env : IssueEnv) (nodeID nodeName : Bytes) (ips dnsNames : List Bytes) (validityDays : ℤ)
      (cm : CertificateManager) (c : Certificate)
      (h : (cm.generateNodeCertificate authorities env nodeID nodeName ips dnsNames validityDays).1 = .ok c) :
      Issued authorities .node nodeID c.cert
  | workload (env : IssueEnv) (workloadID workloadName : Bytes) (validityDays : ℤ) (cm : CertificateManager)
      (c : Certificate)
      (h : (cm.generateWorkloadCertificate authorities env workloadID workloadName validityDays).1 = .ok c) :
      Issued authorities .workload workloadID c.cert

variable {env : IssueEnv} {cm : CertificateManager} {n : Bytes} {vd : ℤ}

lemma names_of_generateCertificate {ips dn : List Bytes} {c : Certificate}
    (h : (cm.generateCertificate authorities type env id n ips dn vd).1 = .ok c) : Names type id c.cert := by
  rcases generateCertificate_cases (Prod.mk.eta (p := cm.generateCertificate ..)).symm with
    ⟨⟨err, he⟩, -⟩ | ⟨c', hr, hc, -⟩
  · rw [he] at h
    cases h
  · rw [hr] at h
    cases h
    exact (issue_eq_ok hc).1

lemma Issued.names (h : Issued authorities type id x) : Names type id x := by
  cases h with
  | node env ni nn ips dn vd cm c h => exact names_of_generateCertificate h
  | workload env wi wn vd cm c h => exact names_of_generateCertificate h

def ParsesTo (authorities : Authorities) (cert : X509) (type : IdentityType) (id : Bytes) : Prop :=
  ∃ u identity, cert.uris = [u] ∧ parseSPIFFEID authorities (u.string authorities) = .ok identity ∧
    identity.type = type ∧ identity.id = id

lemma ParsesTo.unique {t₁ t₂ : IdentityType} {id₁ id₂ : Bytes} (h₁ : ParsesTo authorities x t₁ id₁)
    (h₂ : ParsesTo authorities x t₂ id₂) : t₁ = t₂ ∧ id₁ = id₂ := by
  obtain ⟨u, i, hu, hp, rfl, rfl⟩ := h₁
  obtain ⟨u', i', hu', hp', rfl, rfl⟩ := h₂
  rw [hu] at hu'
  cases hu'
  rw [hp] at hp'
  cases hp'
  exact ⟨rfl, rfl⟩

lemma Names.parsesTo_iff (h : Names type id x) : ParsesTo authorities x type.identity id ↔ Unreserved id := by
  obtain ⟨u, shown, hu, hs, hl, -⟩ := h
  constructor
  · rintro ⟨u', identity, hu', hp, ht, hid⟩
    rw [hu] at hu'
    cases hu'
    obtain ⟨hsl, -, hi'⟩ := parseSPIFFEID_eq_ok hl hp
    rw [hi'] at hid
    rw [hid] at hsl hs
    exact ⟨hsl, shownID_eq_self_iff.mp hs⟩
  · rintro ⟨hsl, hr⟩
    rw [shownID_eq_self_iff.mpr hr] at hs
    cases hs
    obtain ⟨u', hu'⟩ : ∃ u', parseSPIFFEID authorities (u.string authorities) =
        .ok ⟨trustDomain, type.identity, id, some u'⟩ := parseSPIFFEID_string hl hsl
    exact ⟨u, _, hu, hu', rfl, rfl⟩

lemma CertificateType.identity_injective : Function.Injective CertificateType.identity := by
  intro t₁ t₂ h
  cases t₁ <;> cases t₂ <;> first | rfl | cases h

theorem spiffe_identities_unambiguous_iff (authorities : Authorities) (named : Set (CertificateType × Bytes)) :
    ((∀ p ∈ named, ∀ x, Issued authorities p.1 p.2 x → ParsesTo authorities x p.1.identity p.2) ∧
      ∀ p ∈ named, ∀ q ∈ named, p ≠ q → ∀ x y, Issued authorities p.1 p.2 x → Issued authorities q.1 q.2 y →
        ¬∃ type id, ParsesTo authorities x type id ∧ ParsesTo authorities y type id) ↔
    ∀ p ∈ named, (∃ x, Issued authorities p.1 p.2 x) → Unreserved p.2 := by
  constructor
  · rintro ⟨hs, -⟩ p hp ⟨x, hx⟩
    exact hx.names.parsesTo_iff.mp (hs p hp x hx)
  · intro h
    have hs : ∀ p ∈ named, ∀ x, Issued authorities p.1 p.2 x → ParsesTo authorities x p.1.identity p.2 :=
      fun p hp x hx => hx.names.parsesTo_iff.mpr (h p hp ⟨x, hx⟩)
    refine ⟨hs, ?_⟩
    rintro p hp q hq hne x y hx hy ⟨type, id, hxt, hyt⟩
    obtain ⟨ht, hip⟩ := (hs p hp x hx).unique hxt
    obtain ⟨htq, hiq⟩ := (hs q hq y hy).unique hyt
    apply hne
    exact Prod.ext (CertificateType.identity_injective (ht.trans htq.symm)) (hip.trans hiq.symm)

lemma issued_node
    (h : ((({} : CertificateManager).generateNodeCertificate authorities env id n [] [] vd).1.toOption.map
      Certificate.cert) = some x) : Issued authorities .node id x := by
  obtain ⟨c, hc, rfl⟩ := Option.map_eq_some_iff.mp h
  apply Issued.node env id n [] [] vd {} c
  cases hr : (({} : CertificateManager).generateNodeCertificate authorities env id n [] [] vd).1 with
  | error err =>
    rw [hr] at hc
    cases hc
  | ok c' =>
    rw [hr] at hc
    cases hc
    rfl

def edgeID : Bytes := ascii "node-edge-1700000000"

def guestID : Bytes := ascii "node-edge-1700000000?-1700000001"

def edgeURI (rawQuery : Bytes) : URL :=
  { scheme := uriScheme, host := trustDomain, path := identityPath .node edgeID, rawQuery := rawQuery }

def enrolledX509 (id : Bytes) (uri : URL) : X509 :=
  { commonName := ascii "edge"
    serialNumber := id
    ipAddresses := []
    dnsNames := []
    uris := [uri]
    notBefore := 0
    notAfter := 30 * day }

theorem guest_shares_identity : edgeID ≠ guestID ∧
    Issued plainAuthorities .node edgeID (enrolledX509 edgeID (edgeURI [])) ∧
    Issued plainAuthorities .node guestID (enrolledX509 guestID (edgeURI (ascii "-1700000001"))) ∧
    ParsesTo plainAuthorities (enrolledX509 edgeID (edgeURI [])) .node edgeID ∧
    ParsesTo plainAuthorities (enrolledX509 guestID (edgeURI (ascii "-1700000001"))) .node edgeID := by
  have his : ∀ id uri, ((({} : CertificateManager).generateNodeCertificate plainAuthorities { now := 0 } id
      (ascii "edge") [] [] 30).1.toOption.map Certificate.cert) = some (enrolledX509 id uri) →
      Issued plainAuthorities .node id (enrolledX509 id uri) := fun id uri h => issued_node h
  have hl : ∀ query, (query = [] ∨ query = ascii "-1700000001") →
      Located uriScheme trustDomain (identityPath .node edgeID) (edgeURI query) := by
    rintro query (rfl | rfl) <;> exact ⟨rfl, rfl, rfl, rfl, rfl, .inl rfl, by decide⟩
  have hp : ∀ id query, (query = [] ∨ query = ascii "-1700000001") →
      ParsesTo plainAuthorities (enrolledX509 id (edgeURI query)) .node edgeID := by
    intro id query hq
    obtain ⟨u', hu'⟩ : ∃ u', parseSPIFFEID plainAuthorities ((edgeURI query).string plainAuthorities) =
        .ok ⟨trustDomain, .node, edgeID, some u'⟩ := parseSPIFFEID_string (hl query hq) (by decide)
    exact ⟨edgeURI query, _, rfl, hu', rfl, rfl⟩
  exact ⟨by decide, his _ _ (by decide +kernel), his _ _ (by decide +kernel), hp _ _ (.inl rfl),
    hp _ _ (.inr rfl)⟩

/-! ### The kind of the certificate held for an ID -/

def FileNameSafe (id : Bytes) : Prop := id ≠ [] ∧ slash ∉ id ∧ 0 ∉ id ∧ id ≠ ascii "." ∧ id ≠ ascii ".."

instance (id : Bytes) : Decidable (FileNameSafe id) := inferInstanceAs (Decidable (_ ∧ _))

def uriKind (cert : X509) : Option IdentityType :=
  cert.uris.head?.bind fun u => IdentityType.ofText (cut slash (trimSlash u.path)).1

lemma Names.uriKind (h : Names type id x) : Mtls.uriKind x = some type.identity := by
  obtain ⟨u, sh, hu, -, hl, -⟩ := h
  have hcut : (cut slash (trimSlash (identityPath type.identity sh))).1 = type.identity.text := by
    rw [trimSlash_identityPath, cut_append_self]
    exact type.identity.plain_text.not_mem (by decide)
  rw [Mtls.uriKind, hu, List.head?_cons, Option.bind_some, hl.path_eq, hcut, IdentityType.ofText_text]

structure Issuance where
  cm : CertificateManager := {}
  first : FMap Bytes CertificateType := ∅
  nodeRequests : Finset Bytes := ∅

inductive Request
  | generateNode (env : IssueEnv) (nodeID nodeName : Bytes) (ips dnsNames : List Bytes) (validityDays : ℤ)
  | generateWorkload (env : IssueEnv) (workloadID workloadName : Bytes) (validityDays : ℤ)
  | rotate (env : IssueEnv) (resaving : Saving) (id : Bytes)
  | rotateExpired (env : Bytes → IssueEnv × Saving) (ids : List Bytes)
  | restart (created : Except Bytes Unit) (loading : Loading) (config : CertificateManagerConfig)

namespace Issuance

def generated (type : CertificateType) (id : Bytes) (outcome : Except CertificateError Certificate × CertificateManager)
    (s : Issuance) : Issuance :=
  { s with
    cm := outcome.2
    first := match outcome.1 with
      | .error _ => s.first
      | .ok _ => if (s.first.lookup id).isSome then s.first else s.first.insert id type }

variable (authorities)

def restarted (created : Except Bytes Unit) (loading : Loading) (config : CertificateManagerConfig)
    (disk : FMap Bytes CertificateDir) : CertificateManager :=
  match newCertificateManager authorities created loading config disk with
  | .error _ => { disk := disk }
  | .ok cm => cm

def step (s : Issuance) : Request → Issuance
  | .generateNode env nodeID nodeName ips dnsNames validityDays =>
    { s with nodeRequests := insert nodeID s.nodeRequests }.generated .node nodeID
      (s.cm.generateNodeCertificate authorities env nodeID nodeName ips dnsNames validityDays)
  | .generateWorkload env workloadID workloadName validityDays =>
    s.generated .workload workloadID
      (s.cm.generateWorkloadCertificate authorities env workloadID workloadName validityDays)
  | .rotate env resaving id => { s with cm := (s.cm.rotateCertificate authorities env resaving id).2 }
  | .rotateExpired env ids => { s with cm := s.cm.rotateExpiredCertificates authorities env ids }
  | .restart created loading config => { s with cm := restarted authorities created loading config s.cm.disk }

def scope (_ : Issuance) : Request → Prop
  | .generateNode _ nodeID _ _ _ _ => FileNameSafe nodeID
  | .generateWorkload _ workloadID _ _ => FileNameSafe workloadID
  | _ => True

instance (s : Issuance) : ∀ a, Decidable (s.scope a)
  | .generateNode _ nodeID _ _ _ _ => inferInstanceAs (Decidable (FileNameSafe nodeID))
  | .generateWorkload _ workloadID _ _ => inferInstanceAs (Decidable (FileNameSafe workloadID))
  | .rotate .. => isTrue trivial
  | .rotateExpired .. => isTrue trivial
  | .restart .. => isTrue trivial

def Preserved (s : Issuance) : Prop :=
  ∀ id c, s.cm.certificates.lookup id = some c →
    (∃ type, s.first.lookup id = some type ∧ c.type = type ∧ Mtls.uriKind c.cert = some type.identity) ∧
    (s.first.lookup id = some .workload → Mtls.uriKind c.cert = some .node → id ∈ s.nodeRequests)

/-- No ID gets certificates of both types, and the loader gives every certificate it finds the type first generated. -/
def Consistent (s : Issuance) : Request → Prop
  | .generateNode env nodeID nodeName ips dnsNames validityDays =>
    (∃ c, (s.cm.generateNodeCertificate authorities env nodeID nodeName ips dnsNames validityDays).1 = .ok c) →
      s.first.lookup nodeID ≠ some .workload
  | .generateWorkload env workloadID workloadName validityDays =>
    (∃ c, (s.cm.generateWorkloadCertificate authorities env workloadID workloadName validityDays).1 = .ok c) →
      s.first.lookup workloadID ≠ some .node
  | .restart created loading config =>
    ∀ id c, (restarted authorities created loading config s.cm.disk).certificates.lookup id = some c →
      s.first.lookup id = some (loadedType authorities c.cert)
  | _ => True

structure Recorded (s : Issuance) : Prop where
  memory : ∀ {id c}, s.cm.certificates.lookup id = some c → s.first.lookup id = some c.type ∧ Names c.type id c.cert
  disk : ∀ {id dir x}, s.cm.disk.lookup id = some dir → dir.cert = .holds x →
    ∃ type, s.first.lookup id = some type ∧ Names type id x
  requested : ∀ {id}, s.first.lookup id ≠ some .service

variable {authorities} {s : Issuance}

lemma Recorded.preserved (h : Recorded s) : s.Preserved := by
  intro id c hl
  obtain ⟨hf, hn⟩ := h.memory hl
  refine ⟨⟨c.type, hf, rfl, hn.uriKind⟩, ?_⟩
  intro hw hnode
  rw [hf] at hw
  rw [hn.uriKind, Option.some.inj hw] at hnode
  cases hnode

variable {rs : Finset Bytes}

variable {created : Except Bytes Unit} {loading : Loading} {c : Certificate} {config : CertificateManagerConfig}

variable {cm' : CertificateManager}

lemma Recorded.stores {f' : FMap Bytes CertificateType} (h : Recorded s)
    (hs : Stores id c s.cm cm') (hfi : ∀ {j type}, s.first.lookup j = some type → f'.lookup j = some type)
    (hid : f'.lookup id = some c.type) (hn : Names c.type id c.cert) (hr : ∀ {j}, f'.lookup j ≠ some .service) :
    Recorded ⟨cm', f', rs⟩ where
  memory := by
    intro j c' hl
    dsimp only at hl
    rw [hs.certificates, lookup_insert_if] at hl
    split_ifs at hl with hj
    · subst hj
      cases hl
      exact ⟨hid, hn⟩
    · obtain ⟨hf, hn'⟩ := h.memory hl
      exact ⟨hfi hf, hn'⟩
  disk := by
    intro j dir x hl hx
    rcases hs.disk hl hx with ⟨rfl, rfl⟩ | ⟨dir', hl', hx'⟩
    · exact ⟨c.type, hid, hn⟩
    · obtain ⟨type, hf, hn'⟩ := h.disk hl' hx'
      exact ⟨type, hfi hf, hn'⟩
  requested := hr

lemma Recorded.generated {ips dn : List Bytes} (h : Recorded s) (htype : type ≠ .service)
    (ho : (∃ c, (s.cm.generateCertificate authorities type env id n ips dn vd).1 = .ok c) →
      ∀ t', s.first.lookup id = some t' → t' = type) : Recorded ({ s with nodeRequests := rs }.generated type id
      (s.cm.generateCertificate authorities type env id n ips dn vd)) := by
  rcases generateCertificate_cases (Prod.mk.eta (p := s.cm.generateCertificate authorities type env ..)).symm with
    ⟨⟨err, he⟩, hcm⟩ | ⟨c, hr, hc, hs⟩
  · rw [Issuance.generated, he, hcm]
    exact ⟨h.memory, h.disk, h.requested⟩
  · obtain ⟨hn, ht, -⟩ := issue_eq_ok hc
    have hsame := ho ⟨c, hr⟩
    rw [← ht] at hn
    rw [Issuance.generated, hr]
    dsimp only
    cases hf : s.first.lookup id with
    | some t' =>
      rw [Option.isSome_some, if_pos rfl]
      refine h.stores hs (fun hj => hj) ?_ hn h.requested
      rw [hf, hsame t' hf, ht]
    | none =>
      rw [Option.isSome_none, if_neg (by decide)]
      refine h.stores hs ?_ ?_ hn ?_
      · intro j t' hj
        rw [lookup_insert_if, if_neg]
        · exact hj
        · rintro rfl
          rw [hf] at hj
          cases hj
      · rw [Finmap.lookup_insert, ht]
      · intro j
        rw [lookup_insert_if]
        split_ifs
        · simpa using htype
        · exact h.requested

lemma Recorded.rotated {old : Certificate} (h : Recorded s)
    (ho : s.cm.certificates.lookup id = some old) (ht : c.type = old.type) (hn : Names old.type id c.cert)
    (hs : Stores id c s.cm cm') : Recorded { s with cm := cm' } := by
  rw [← ht] at hn
  refine h.stores hs (fun hj => hj) ?_ hn h.requested
  rw [ht]
  exact (h.memory ho).1

lemma Recorded.rotateExpired (env : Bytes → IssueEnv × Saving) (ids : List Bytes) (h : Recorded s) :
    Recorded { s with cm := s.cm.rotateExpiredCertificates authorities env ids } := by
  refine run_preserves (fun cm => Recorded { s with cm := cm }) ids ?_ h
  intro cm id _ hcm
  rcases rotateIfDue_cases authorities (env id) id cm with he | ⟨old, c, d, ho, -, ht, hn, -, hs⟩
  · rwa [he]
  · exact hcm.rotated ho ht hn hs

lemma lookup_restarted {d : FMap Bytes CertificateDir}
    (h : (restarted authorities created loading config d).certificates.lookup id = some c) :
    ∃ dir, d.lookup id = some dir ∧ dir.cert = .holds c.cert ∧ c.type = loadedType authorities c.cert := by
  rw [restarted] at h
  split at h
  · cases h
  · next cm hcm =>
    rw [(newCertificateManager_eq_ok hcm).1] at h
    exact lookup_loadCertificates h

lemma disk_restarted {disk : FMap Bytes CertificateDir} :
    (restarted authorities created loading config disk).disk = disk := by
  rw [restarted]
  split
  · rfl
  · next cm hcm => exact (newCertificateManager_eq_ok hcm).2.1

lemma Recorded.restart (h : Recorded s)
    (ho : ∀ id c, (restarted authorities created loading config s.cm.disk).certificates.lookup id = some c →
      s.first.lookup id = some (loadedType authorities c.cert)) :
    Recorded { s with cm := restarted authorities created loading config s.cm.disk } where
  memory := by
    intro id c hl
    obtain ⟨dir, hdir, hcert, ht⟩ := lookup_restarted hl
    obtain ⟨type, hf, hn⟩ := h.disk hdir hcert
    have hload := ho id c hl
    rw [← ht] at hload
    refine ⟨hload, ?_⟩
    rw [hload] at hf
    cases hf
    exact hn
  disk := by
    intro id dir x hl
    dsimp only at hl
    rw [disk_restarted] at hl
    exact h.disk hl
  requested := h.requested

lemma Recorded.step (h : Recorded s) (a : Request) (hok : s.Consistent authorities a) :
    Recorded (s.step authorities a) := by
  cases a with
  | generateNode env ni nn ips dn vd =>
    refine h.generated (by decide) ?_
    intro hc type hf
    cases type with
    | node => rfl
    | workload => exact absurd hf (hok hc)
    | service => exact absurd hf h.requested
  | generateWorkload env wi wn vd =>
    refine h.generated (by decide) ?_
    intro hc type hf
    cases type with
    | node => exact absurd hf (hok hc)
    | workload => rfl
    | service => exact absurd hf h.requested
  | rotate env r id =>
    rcases rotateCertificate_cases (Prod.mk.eta (p := s.cm.rotateCertificate authorities env r id)).symm with
      ⟨-, he⟩ | ⟨old, c, days, ho, -, -, ht, hn, -, hs⟩
    · rwa [Issuance.step, he]
    · exact h.rotated ho ht hn hs
  | rotateExpired env ids => exact h.rotateExpired env ids
  | restart created loading config => exact h.restart hok

lemma first_of_generated {ips dn : List Bytes} {t' : CertificateType}
    (h : ({ s with nodeRequests := rs }.generated type id
      (s.cm.generateCertificate authorities type env id n ips dn vd)).Preserved)
    (hc : ∃ c, (s.cm.generateCertificate authorities type env id n ips dn vd).1 = .ok c)
    (hf : s.first.lookup id = some t') : t' = type := by
  obtain ⟨c, hc⟩ := hc
  rcases generateCertificate_cases (Prod.mk.eta (p := s.cm.generateCertificate authorities type env ..)).symm with
    ⟨⟨err, he⟩, -⟩ | ⟨c', hr, hi, hs⟩
  · rw [he] at hc
    cases hc
  · rw [hr] at hc
    cases hc
    rw [Issuance.generated, hr] at h
    dsimp only at h
    rw [hf, Option.isSome_some, if_pos rfl] at h
    obtain ⟨⟨t'', hf', ht, -⟩, -⟩ := h id c (by dsimp only; rw [hs.certificates, Finmap.lookup_insert])
    dsimp only at hf'
    rw [hf] at hf'
    cases hf'
    rw [← ht]
    exact (issue_eq_ok hi).2.1

lemma consistent_of_preserved {a : Request} (h : (s.step authorities a).Preserved) : s.Consistent authorities a := by
  cases a with
  | generateNode env nodeID nodeName ips dnsNames validityDays =>
    intro hc hf
    exact absurd (first_of_generated h hc hf) (by decide)
  | generateWorkload env workloadID workloadName validityDays =>
    intro hc hf
    exact absurd (first_of_generated h hc hf) (by decide)
  | rotate | rotateExpired => trivial
  | restart created loading config =>
    intro id c hl
    obtain ⟨⟨type, hf, ht, -⟩, -⟩ := h id c hl
    obtain ⟨dir, -, -, hload⟩ := lookup_restarted hl
    rwa [← hload, ht]

lemma recorded_start (hc : cm.certificates = ∅) (hd : cm.disk = ∅) : Recorded { cm := cm } where
  memory := by
    intro id c hl
    dsimp only at hl
    rw [hc] at hl
    cases hl
  disk := by
    intro id dir x hl
    dsimp only at hl
    rw [hd] at hl
    cases hl
  requested := by
    intro id hl
    cases hl

theorem certificate_identity_preserved_iff (authorities : Authorities) (caCertificate : Bytes) (rotationInterval : ℤ)
    (as : List Request)
    (h : Admissible (step authorities) scope { cm := ⟨caCertificate, rotationInterval, ∅, ∅⟩ } as) :
    (∀ n, (run (step authorities) { cm := ⟨caCertificate, rotationInterval, ∅, ∅⟩ } (as.take n)).Preserved) ↔
      Admissible (step authorities) (Consistent authorities) { cm := ⟨caCertificate, rotationInterval, ∅, ∅⟩ } as :=
  property_take_iff Recorded Preserved (fun _ => Recorded.preserved) (fun _ a hs _ hok => hs.step a hok)
    (fun _ _ _ _ hp => consistent_of_preserved hp) as (recorded_start rfl rfl) h

def worker : Bytes := ascii "w1"

def reloadedRun : List Request :=
  [.generateWorkload { now := 0 } worker worker 7, .restart (.ok ()) {} ⟨some [], ascii "data", true, 0⟩,
    .rotate { now := hour } .complete worker]

theorem certificate_identity_preserved_reloaded :
    Admissible (step plainAuthorities) scope { cm := ⟨[], day, ∅, ∅⟩ } reloadedRun ∧
    ((∀ n, (run (step plainAuthorities) { cm := ⟨[], day, ∅, ∅⟩ } (reloadedRun.take n)).Preserved) ↔
      Admissible (step plainAuthorities) (Consistent plainAuthorities) { cm := ⟨[], day, ∅, ∅⟩ } reloadedRun) :=
  ⟨by decide, certificate_identity_preserved_iff plainAuthorities [] day reloadedRun (by decide)⟩

theorem reloaded_workload_becomes_node : Admissible (step plainAuthorities) scope {} reloadedRun ∧
    (run (step plainAuthorities) {} reloadedRun).first.lookup worker = some .workload ∧
    (run (step plainAuthorities) {} reloadedRun).nodeRequests = ∅ ∧
    ((run (step plainAuthorities) {} reloadedRun).cm.certificates.lookup worker).map
      (fun c => (c.type, Mtls.uriKind c.cert)) = some (.node, some .node) := by
  refine ⟨by decide, ?_, ?_, ?_⟩ <;> decide +kernel

end Issuance

end Cloudless.Mtls
