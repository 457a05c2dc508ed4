import Cloudless.Foundations.FiniteMaps
import Cloudless.Mtls.Spiffe

namespace Cloudless.Mtls

open Foundations FiniteMaps GoStd URLs

def hour : ℤ := 3600 * 1000000000

def day : ℤ := 24 * hour

inductive CertificateType
  | node
  | workload
  | service
  deriving DecidableEq

def CertificateType.identity : CertificateType → IdentityType
  | .node => .node
  | .workload => .workload
  | .service => .service

structure X509 where
  (commonName serialNumber : Bytes)
  (ipAddresses dnsNames : List Bytes)
  uris : List URL
  (notBefore notAfter : Time)
  deriving DecidableEq

structure Certificate where
  cert : X509
  privateKey : ℕ
  (issuedAt expiresAt : Time)
  subject : Bytes
  type : CertificateType
  deriving DecidableEq

inductive CertificateError
  | crash
  | failed (text : Bytes)
  deriving DecidableEq

def CertificateError.inRotation : CertificateError → CertificateError
  | .crash => .crash
  | .failed text => .failed (ascii "failed to generate new certificate: " ++ text)

def wrap {α : Type} (context : String) : Except Bytes α → Except CertificateError α
  | .ok a => .ok a
  | .error err => .error (.failed (ascii context ++ err))

@[simp] lemma wrap_eq_ok {α : Type} {co : String} {x : Except Bytes α} {a : α} : wrap co x = .ok a ↔ x = .ok a := by
  cases x <;> simp [wrap]

/-- The files of a directory as they can be found after writes that failed half-way. -/
inductive StoredFile (α : Type)
  | missing
  | garbled
  | holds (content : α)
  deriving DecidableEq

structure CertificateDir where
  cert : StoredFile X509 := .missing
  key : StoredFile ℕ := .missing
  deriving DecidableEq

inductive Saving
  | complete
  | noDirectory
  | atCertificate (truncated : Bool)
  | atKey (truncated : Bool)
  | atMetadata
  deriving DecidableEq

structure IssueEnv where
  privateKey : Except Bytes ℕ := .ok 0
  request : Except Bytes Unit := .ok ()
  signature : Except Bytes Unit := .ok ()
  now : Time
  saving : Saving := .complete

structure CertificateManager where
  caCertificate : Bytes := []
  rotationInterval : ℤ := day
  certificates : FMap Bytes Certificate := ∅
  disk : FMap Bytes CertificateDir := ∅

def saveCertificate (saving : Saving) (id : Bytes) (cert : Certificate) (disk : FMap Bytes CertificateDir) :
    FMap Bytes CertificateDir :=
  let dir := (disk.lookup id).getD {}
  match saving with
  | .noDirectory => disk
  | .atCertificate truncated => disk.insert id (if truncated then { dir with cert := .garbled } else dir)
  | .atKey truncated => disk.insert id ⟨.holds cert.cert, if truncated then .garbled else dir.key⟩
  | .atMetadata => disk.insert id ⟨.holds cert.cert, .holds cert.privateKey⟩
  | .complete => disk.insert id ⟨.holds cert.cert, .holds cert.privateKey⟩

/-- The source's `contains`, which compares the end of the text only. -/
def contains (s substr : Bytes) : Bool :=
  substr.length ≤ s.length && s.drop (s.length - substr.length) = substr

section Issuing

variable (authorities : Authorities)

def encodeURI (u : URL) : Except Bytes Bytes :=
  if (u.string authorities).all (· < 128) then .ok (u.string authorities)
  else .error (ascii "x509: URI cannot be encoded as an IA5String")

def decodeURI (text : Bytes) : Except Bytes URL :=
  match parse authorities text with
  | .error _ => .error (ascii "x509: cannot parse URI")
  | .ok u => .ok u

variable (type : CertificateType)

/-- The URI of the template; the error of `url.Parse` is dropped, and a missing URI is dereferenced later. -/
def templateURI (id : Bytes) : Except CertificateError URL :=
  match parse authorities (identityText type.identity id) with
  | .error _ => .error .crash
  | .ok u => .ok u

variable (env : IssueEnv)

def issue (id name : Bytes) (ips dnsNames : List Bytes) (validityDays : ℤ) : Except CertificateError Certificate := do
  let privateKey ← wrap "failed to generate private key: " env.privateKey
  let spiffeURI ← templateURI authorities type id
  let csrText ← wrap "failed to create certificate request: " (encodeURI authorities spiffeURI)
  wrap "failed to create certificate request: " env.request
  let csrURI ← wrap "failed to parse certificate request: " (decodeURI authorities csrText)
  let certText ← wrap "failed to sign certificate: failed to sign certificate: " (encodeURI authorities csrURI)
  wrap "failed to sign certificate: " env.signature
  let certURI ← wrap "failed to sign certificate: failed to parse signed certificate: " (decodeURI authorities certText)
  let cert : X509 :=
    { commonName := name
      serialNumber := id
      ipAddresses := ips
      dnsNames := dnsNames
      uris := [certURI]
      notBefore := wholeSeconds env.now
      notAfter := wholeSeconds (env.now + int64 (validityDays * day)) }
  return { cert := cert, privateKey := privateKey, issuedAt := cert.notBefore, expiresAt := cert.notAfter, subject := id,
           type := type }

namespace CertificateManager

def generateCertificate (id name : Bytes) (ips dnsNames : List Bytes)
    (validityDays : ℤ) (cm : CertificateManager) : Except CertificateError Certificate × CertificateManager :=
  match issue authorities type env id name ips dnsNames validityDays with
  | .error err => (.error err, cm)
  | .ok certificate =>
    (.ok certificate,
      { cm with certificates := cm.certificates.insert id certificate
                disk := saveCertificate env.saving id certificate cm.disk })

def generateNodeCertificate (nodeID nodeName : Bytes) (ips dnsNames : List Bytes) (validityDays : ℤ)
    (cm : CertificateManager) : Except CertificateError Certificate × CertificateManager :=
  cm.generateCertificate authorities .node env nodeID nodeName ips dnsNames validityDays

def generateWorkloadCertificate (workloadID workloadName : Bytes) (validityDays : ℤ)
    (cm : CertificateManager) : Except CertificateError Certificate × CertificateManager :=
  cm.generateCertificate authorities .workload env workloadID workloadName [] [] validityDays

def getCertificate (now : Time) (id : Bytes) (cm : CertificateManager) : Except Bytes Certificate :=
  match cm.certificates.lookup id with
  | none => .error (ascii "certificate not found for ID: " ++ id)
  | some cert =>
    if cert.expiresAt < now then .error (ascii "certificate for " ++ id ++ ascii " has expired") else .ok cert

def regenerate (id : Bytes) (oldCert : Certificate) (cm : CertificateManager) :
    Option (Except CertificateError Certificate × CertificateManager) :=
  match oldCert.type with
  | .node =>
    some (cm.generateNodeCertificate authorities env id oldCert.cert.commonName oldCert.cert.ipAddresses
      oldCert.cert.dnsNames 30)
  | .workload => some (cm.generateWorkloadCertificate authorities env id oldCert.cert.commonName 7)
  | .service => none

-- The new certificate is stored and saved by its generation, and then once more.
def rotateCertificate (env : IssueEnv) (resaving : Saving) (id : Bytes) (cm : CertificateManager) :
    Except CertificateError Certificate × CertificateManager :=
  match cm.certificates.lookup id with
  | none => (.error (.failed (ascii "certificate not found for ID: " ++ id)), cm)
  | some oldCert =>
    match cm.regenerate authorities env id oldCert with
    | none => (.error (.failed (ascii "unknown certificate type: service")), cm)
    | some (.error err, cm') => (.error err.inRotation, cm')
    | some (.ok newCert, cm') =>
      (.ok newCert,
        { cm' with certificates := cm'.certificates.insert id newCert
                   disk := saveCertificate resaving id newCert cm'.disk })

def rotateIfDue (env : IssueEnv × Saving) (id : Bytes) (cm : CertificateManager) : CertificateManager :=
  match cm.getCertificate env.1.now id with
  | .error _ => cm
  | .ok cert => if cert.expiresAt - env.1.now < hour then (cm.rotateCertificate authorities env.1 env.2 id).2 else cm

def rotateExpiredCertificates (env : Bytes → IssueEnv × Saving) (ids : List Bytes) (cm : CertificateManager) :
    CertificateManager :=
  ids.foldl (fun cm id => cm.rotateIfDue authorities (env id) id) cm

end CertificateManager

def loadedType (cert : X509) : CertificateType :=
  match cert.uris with
  | [] => .node
  | u :: _ =>
    if contains (u.string authorities) (ascii "/workload/") then .workload
    else if contains (u.string authorities) (ascii "/service/") then .service
    else .node

structure Loading where
  directory : Except Bytes Unit := .ok ()
  certFile : Bytes → Except Bytes Unit := fun _ => .ok ()
  keyFile : Bytes → Except Bytes Unit := fun _ => .ok ()

def loadCertificate (loading : Loading) (id : Bytes) (dir : CertificateDir) : Except Bytes Certificate :=
  match loading.certFile id, dir.cert with
  | .error err, _ => .error (ascii "failed to read certificate: " ++ err)
  | _, .missing => .error (ascii "failed to read certificate: no such file or directory")
  | .ok (), certFile =>
    match loading.keyFile id, dir.key with
    | .error err, _ => .error (ascii "failed to read private key: " ++ err)
    | _, .missing => .error (ascii "failed to read private key: no such file or directory")
    | .ok (), keyFile =>
      match certFile, keyFile with
      | .holds cert, .holds privateKey =>
        .ok { cert := cert
              privateKey := privateKey
              issuedAt := cert.notBefore
              expiresAt := cert.notAfter
              subject := id
              type := loadedType authorities cert }
      | .holds _, _ => .error (ascii "failed to decode private key PEM")
      | _, _ => .error (ascii "failed to decode certificate PEM")

def loadCertificates (loading : Loading) (disk : FMap Bytes CertificateDir) : FMap Bytes Certificate :=
  match loading.directory with
  | .error _ => ∅
  | .ok () => filterMap (fun id dir => (loadCertificate authorities loading id dir).toOption) disk

structure CertificateManagerConfig where
  ca : Option Bytes
  dataDir : Bytes
  logger : Bool
  rotationInterval : ℤ

def newCertificateManager (created : Except Bytes Unit) (loading : Loading) (config : CertificateManagerConfig)
    (disk : FMap Bytes CertificateDir) : Except Bytes CertificateManager :=
  match config.ca with
  | none => .error (ascii "CA is required")
  | some caCertificate =>
    if config.dataDir = [] then .error (ascii "data directory is required")
    else if config.logger = false then .error (ascii "logger is required")
    else
      match created with
      | .error err => .error (ascii "failed to create certificates directory: " ++ err)
      | .ok () =>
        .ok { caCertificate := caCertificate
              rotationInterval := if config.rotationInterval ≤ 0 then day else config.rotationInterval
              certificates := loadCertificates authorities loading disk
              disk := disk }

end Issuing

section Specs

variable {authorities : Authorities} {type : CertificateType} {env : IssueEnv} {id name : Bytes}
  {ips dn : List Bytes} {vd : ℤ} {cm : CertificateManager} {c : Certificate}

def Names (type : CertificateType) (id : Bytes) (cert : X509) : Prop :=
  ∃ u shown, cert.uris = [u] ∧ shownID id = .ok shown ∧
    Located uriScheme trustDomain (identityPath type.identity shown) u ∧ (hash ∉ id → question ∉ id → u.Bare)

lemma located_of_decode_encode {path text : Bytes} {u v : URL} (h : Located uriScheme trustDomain path u)
    (hp : path.head? = some slash) (he : encodeURI authorities u = .ok text) (hd : decodeURI authorities text = .ok v) :
    Located uriScheme trustDomain path v ∧ (u.Bare → v.Bare) := by
  rw [encodeURI] at he
  split_ifs at he
  cases he
  obtain ⟨u', hpa, hl⟩ : ∃ u', parse authorities (u.string authorities) = .ok u' ∧ Located uriScheme trustDomain path u' :=
    h.parse_string plain_uriScheme plain_trustDomain hp
  rw [decodeURI, hpa] at hd
  cases hd
  exact ⟨hl, fun hb => hb.parse_string h plain_uriScheme plain_trustDomain hp hpa⟩

lemma issue_eq_ok (h : issue authorities type env id name ips dn vd = .ok c) :
    Names type id c.cert ∧ c.type = type ∧ c.expiresAt = wholeSeconds (env.now + int64 (vd * day)) := by
  rw [issue] at h
  obtain ⟨privateKey, -, h⟩ := except_bind_eq_ok.mp h
  obtain ⟨spiffeURI, hs, h⟩ := except_bind_eq_ok.mp h
  obtain ⟨csrText, hcsr, h⟩ := except_bind_eq_ok.mp h
  obtain ⟨-, -, h⟩ := except_bind_eq_ok.mp h
  obtain ⟨csrURI, hp, h⟩ := except_bind_eq_ok.mp h
  obtain ⟨certText, hcert, h⟩ := except_bind_eq_ok.mp h
  obtain ⟨-, -, h⟩ := except_bind_eq_ok.mp h
  obtain ⟨certURI, hsi, h⟩ := except_bind_eq_ok.mp h
  rw [wrap_eq_ok] at hcsr hp hcert hsi
  have ht : parse authorities (identityText type.identity id) = .ok spiffeURI := by
    rw [templateURI] at hs
    split at hs
    · cases hs
    · next u hu =>
      cases hs
      exact hu
  obtain ⟨shown, hsh, hl⟩ := located_of_parse_identityText ht
  obtain ⟨hl', hb'⟩ := located_of_decode_encode hl (head?_identityPath _ _) hcsr hp
  obtain ⟨hl'', hb''⟩ := located_of_decode_encode hl' (head?_identityPath _ _) hcert hsi
  have hb : hash ∉ id → question ∉ id → certURI.Bare := fun hh hq =>
    hb'' (hb' (bare_of_parse_identityText hh hq ht))
  cases h
  exact ⟨⟨certURI, shown, rfl, hsh, hl'', hb⟩, rfl, rfl⟩

lemma saveCertificate_lookup_ne {s : Saving} {j : Bytes} (hj : j ≠ id) {disk : FMap Bytes CertificateDir} :
    (saveCertificate s id c disk).lookup j = disk.lookup j := by
  cases s <;> simp [saveCertificate, Finmap.lookup_insert_of_ne, hj]

variable {disk : FMap Bytes CertificateDir} {dir : CertificateDir}

lemma saveCertificate_holds {s : Saving} {j : Bytes}
    {x : X509} (h : (saveCertificate s id c disk).lookup j = some dir) (hx : dir.cert = .holds x) :
    j = id ∧ x = c.cert ∨ ∃ dir', disk.lookup j = some dir' ∧ dir'.cert = .holds x := by
  by_cases hj : j = id
  · subst hj
    have ho : ((disk.lookup j).getD {}).cert = .holds x → ∃ dir', disk.lookup j = some dir' ∧ dir'.cert = .holds x := by
      intro hd
      cases hl : disk.lookup j with
      | none =>
        rw [hl] at hd
        cases hd
      | some dir' =>
        rw [hl] at hd
        exact ⟨dir', rfl, hd⟩
    cases s with
    | noDirectory => exact .inr ⟨dir, h, hx⟩
    | atCertificate t =>
      rw [saveCertificate, Finmap.lookup_insert] at h
      cases h
      cases t with
      | false => exact .inr (ho hx)
      | true => cases hx
    | atKey t =>
      rw [saveCertificate, Finmap.lookup_insert] at h
      cases h
      cases hx
      exact .inl ⟨rfl, rfl⟩
    | atMetadata =>
      rw [saveCertificate, Finmap.lookup_insert] at h
      cases h
      cases hx
      exact .inl ⟨rfl, rfl⟩
    | complete =>
      rw [saveCertificate, Finmap.lookup_insert] at h
      cases h
      cases hx
      exact .inl ⟨rfl, rfl⟩
  · rw [saveCertificate_lookup_ne hj] at h
    exact .inr ⟨dir, h, hx⟩

structure Stores (id : Bytes) (c : Certificate) (cm cm' : CertificateManager) : Prop where
  interval : cm'.rotationInterval = cm.rotationInterval
  certificates : cm'.certificates = cm.certificates.insert id c
  disk : ∀ {j dir x}, cm'.disk.lookup j = some dir → dir.cert = .holds x →
    j = id ∧ x = c.cert ∨ ∃ dir', cm.disk.lookup j = some dir' ∧ dir'.cert = .holds x

variable {re : Except CertificateError Certificate} {cm' : CertificateManager}

lemma generateCertificate_cases (h : cm.generateCertificate authorities type env id name ips dn vd = (re, cm')) :
    (∃ err, re = .error err) ∧ cm' = cm ∨
    ∃ c, re = .ok c ∧ issue authorities type env id name ips dn vd = .ok c ∧ Stores id c cm cm' := by
  rw [CertificateManager.generateCertificate] at h
  split at h
  · next err _ =>
    cases h
    exact .inl ⟨⟨err, rfl⟩, rfl⟩
  · next c hc =>
    cases h
    exact .inr ⟨c, rfl, hc, rfl, rfl, saveCertificate_holds⟩

lemma regenerate_cases {old : Certificate} (h : cm.regenerate authorities env id old = some (re, cm')) :
    (∃ err, re = .error err) ∧ cm' = cm ∨
    ∃ c d, re = .ok c ∧ (d = 30 ∨ d = 7) ∧ c.type = old.type ∧ Names old.type id c.cert ∧
      c.expiresAt = wholeSeconds (env.now + int64 (d * day)) ∧ Stores id c cm cm' := by
  rw [CertificateManager.regenerate] at h
  split at h
  · next ht =>
    rcases generateCertificate_cases (Option.some.inj h) with he | ⟨c, hr, hc, hs⟩
    · exact .inl he
    · obtain ⟨hn, htype, hexp⟩ := issue_eq_ok hc
      rw [ht]
      exact .inr ⟨c, 30, hr, .inl rfl, htype, hn, hexp, hs⟩
  · next ht =>
    rcases generateCertificate_cases (Option.some.inj h) with he | ⟨c, hr, hc, hs⟩
    · exact .inl he
    · obtain ⟨hn, htype, hexp⟩ := issue_eq_ok hc
      rw [ht]
      exact .inr ⟨c, 7, hr, .inr rfl, htype, hn, hexp, hs⟩
  · cases h

lemma Stores.again {cm₁ : CertificateManager} (h : Stores id c cm cm₁) (s : Saving) :
    Stores id c cm { cm₁ with certificates := cm₁.certificates.insert id c
                              disk := saveCertificate s id c cm₁.disk } where
  interval := h.interval
  certificates := by
    dsimp only
    rw [h.certificates, Finmap.insert_insert]
  disk := by
    intro j dir x hl hx
    rcases saveCertificate_holds hl hx with hnew | ⟨dir', hl', hx'⟩
    · exact .inl hnew
    · exact h.disk hl' hx'

lemma rotateCertificate_cases {r : Saving} (h : cm.rotateCertificate authorities env r id = (re, cm')) :
    (∃ err, re = .error err) ∧ cm' = cm ∨
    ∃ old c d, cm.certificates.lookup id = some old ∧ re = .ok c ∧ (d = 30 ∨ d = 7) ∧ c.type = old.type ∧
      Names old.type id c.cert ∧ c.expiresAt = wholeSeconds (env.now + int64 (d * day)) ∧ Stores id c cm cm' := by
  rw [CertificateManager.rotateCertificate] at h
  split at h
  · cases h
    exact .inl ⟨⟨_, rfl⟩, rfl⟩
  · next old ho =>
    split at h
    · cases h
      exact .inl ⟨⟨_, rfl⟩, rfl⟩
    · next err cm₁ hr =>
      cases h
      rcases regenerate_cases hr with ⟨-, he⟩ | ⟨c, d, hc, -⟩
      · exact .inl ⟨⟨_, rfl⟩, he⟩
      · cases hc
    · next nc cm₁ hr =>
      cases h
      rcases regenerate_cases hr with ⟨⟨err, he⟩, -⟩ | ⟨c, d, hc, hdays, ht, hn, hexp, hs⟩
      · cases he
      · cases hc
        exact .inr ⟨old, nc, d, ho, rfl, hdays, ht, hn, hexp, hs.again r⟩

lemma rotateIfDue_cases (authorities : Authorities) (env : IssueEnv × Saving) (id : Bytes) (cm : CertificateManager) :
    cm.rotateIfDue authorities env id = cm ∨
    ∃ old c d, cm.certificates.lookup id = some old ∧ (d = 30 ∨ d = 7) ∧ c.type = old.type ∧
      Names old.type id c.cert ∧ c.expiresAt = wholeSeconds (env.1.now + int64 (d * day)) ∧
      Stores id c cm (cm.rotateIfDue authorities env id) := by
  rw [CertificateManager.rotateIfDue]
  split
  · exact .inl rfl
  · split_ifs
    · rcases rotateCertificate_cases (Prod.mk.eta (p := cm.rotateCertificate authorities env.1 env.2 id)).symm with
        ⟨-, he⟩ | ⟨old, c, d, ho, -, hr⟩
      · exact .inl he
      · exact .inr ⟨old, c, d, ho, hr⟩
    · exact .inl rfl

variable {l : Loading}

lemma loadCertificate_eq_ok (h : loadCertificate authorities l id dir = .ok c) :
    dir.cert = .holds c.cert ∧ c.type = loadedType authorities c.cert := by
  rw [loadCertificate] at h
  split at h
  · cases h
  · cases h
  · split at h
    · cases h
    · cases h
    · split at h
      · next ce pk hc hk =>
        cases h
        exact ⟨hc, rfl⟩
      · cases h
      · cases h

lemma lookup_loadCertificates (h : (loadCertificates authorities l disk).lookup id = some c) :
    ∃ dir, disk.lookup id = some dir ∧ dir.cert = .holds c.cert ∧ c.type = loadedType authorities c.cert := by
  rw [loadCertificates] at h
  split at h
  · cases h
  · rw [lookup_filterMap] at h
    obtain ⟨dir, hdir, hc⟩ := Option.bind_eq_some_iff.mp h
    refine ⟨dir, hdir, ?_⟩
    cases hl : loadCertificate authorities l id dir with
    | error err =>
      rw [hl] at hc
      cases hc
    | ok c' =>
      rw [hl] at hc
      cases hc
      exact loadCertificate_eq_ok hl

lemma newCertificateManager_eq_ok {cr : Except Bytes Unit} {co : CertificateManagerConfig}
    (h : newCertificateManager authorities cr l co disk = .ok cm) :
    cm.certificates = loadCertificates authorities l disk ∧ cm.disk = disk ∧
      cm.rotationInterval = if co.rotationInterval ≤ 0 then day else co.rotationInterval := by
  rw [newCertificateManager] at h
  generalize (if co.rotationInterval ≤ 0 then day else co.rotationInterval) = interval at h ⊢
  split at h
  · cases h
  · split_ifs at h
    split at h
    · cases h
    · cases h
      exact ⟨rfl, rfl, rfl⟩

end Specs

end Cloudless.Mtls
