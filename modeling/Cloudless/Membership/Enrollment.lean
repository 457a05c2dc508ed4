import Cloudless.Membership.Registry
import Cloudless.Mtls.Certificates
import Cloudless.Mtls.Tokens

namespace Cloudless.Membership

open Foundations GoStd Runs URLs Mtls Raft

variable {V A : Type} {codec : Codec NodeInfo V} {authorities : Authorities} {jwt : TokenSigner}

def utf8 (s : String) : Bytes := s.toUTF8.data.toList

def errorText : CertificateError → String
  | .crash => "runtime error: invalid memory address or nil pointer dereference"
  | .failed text => String.ofList (text.map fun c => Char.ofNat c.toNat)

structure Enrollment (codec : Codec NodeInfo V) (A : Type) where
  registry : Registry codec A
  tokens : TokenManager := {}
  certificates : CertificateManager := {}

structure EnrollEnv where
  clock : ℕ → Time
  issue : IssueEnv
  raft : RaftEnv

structure EnrollNodeResponse where
  nodeId : String
  certificate : X509
  caCertificate : Bytes
  heartbeatInterval : Int64
  deriving DecidableEq

namespace Enrollment

def certificateFor (authorities : Authorities) (issue : IssueEnv) (node : NodeInfo) (s : Enrollment codec A) :
    Except CertificateError Certificate × CertificateManager :=
  s.certificates.generateNodeCertificate authorities issue (utf8 node.id) (utf8 node.name) [] [] 30

def registerNode (authorities : Authorities) (issue : IssueEnv) (now : Time) (token : BootstrapToken)
    (req : EnrollNodeRequest) (s : Enrollment codec A) : Except String (NodeInfo × Certificate) × Enrollment codec A :=
  let node := Registry.enrolledNode now token.nodeID req
  if (s.registry.manager.nodes.lookup node.id).any fun existing =>
      existing.state ≠ .offline && existing.state ≠ .failed then
    (.error ("node " ++ node.id ++ " already enrolled"), s)
  else
    match s.certificateFor authorities issue node with
    | (.error err, certificates) =>
      (.error ("failed to generate certificate: " ++ errorText err), { s with certificates := certificates })
    | (.ok cert, certificates) =>
      (.ok (node, cert), { s with certificates := certificates, registry := s.registry.setNode node })

def useToken (now : Time) (token : BootstrapToken) (node : NodeInfo) (s : Enrollment codec A) : Enrollment codec A :=
  { s with tokens := (s.tokens.useToken now token.id node.id).2 }

def saveNode (env : RaftEnv) (node : NodeInfo) (s : Enrollment codec A) : Enrollment codec A :=
  { s with registry := (s.registry.saveNode env node).2 }

def response (node : NodeInfo) (cert : Certificate) (s : Enrollment codec A) : EnrollNodeResponse :=
  { nodeId := node.id
    certificate := cert.cert
    caCertificate := s.certificates.caCertificate
    heartbeatInterval := 10000000000 }

-- A token that cannot be marked and a record that cannot be written are only logged.
def enrollNode (authorities : Authorities) (jwt : TokenSigner) (env : EnrollEnv) (token : String)
    (req : EnrollNodeRequest) (s : Enrollment codec A) : Except String EnrollNodeResponse × Enrollment codec A :=
  match s.tokens.validateToken jwt env.clock token with
  | .error err => (.error ("invalid token: " ++ err), s)
  | .ok token =>
    match s.registerNode authorities env.issue (env.clock 2) token req with
    | (.error err, s) => (.error err, s)
    | (.ok (node, cert), s) =>
      let s := (s.useToken (env.clock 3) token node).saveNode env.raft node
      (.ok (s.response node cert), s)

variable {req : EnrollNodeRequest} {s : Enrollment codec A}

lemma registerNode_cases {i : IssueEnv} {now : Time} {t : BootstrapToken} {s' : Enrollment codec A}
    {r : Except String (NodeInfo × Certificate)} (h : s.registerNode authorities i now t req = (r, s')) :
    s'.tokens = s.tokens ∧ ((∃ err, r = .error err) ∧ s'.registry = s.registry ∨
      ∃ c, r = .ok (Registry.enrolledNode now t.nodeID req, c) ∧
        s'.registry = s.registry.setNode (Registry.enrolledNode now t.nodeID req)) := by
  rw [registerNode] at h
  split_ifs at h
  · cases h
    exact ⟨rfl, .inl ⟨⟨_, rfl⟩, rfl⟩⟩
  · split at h
    · cases h
      exact ⟨rfl, .inl ⟨⟨_, rfl⟩, rfl⟩⟩
    · next c _ _ =>
      cases h
      exact ⟨rfl, .inr ⟨c, rfl, rfl⟩⟩

lemma tokens_saveNode {env : RaftEnv} {n : NodeInfo} : (s.saveNode env n).tokens = s.tokens := rfl

lemma lookup_saveNode {env : RaftEnv} {n : NodeInfo} :
    (s.saveNode env n).registry.manager = s.registry.manager := (s.registry.saveNode_cases env n).1

lemma enrollNode_eq_ok {env : EnrollEnv} {t : String} {r : EnrollNodeResponse}
    (h : (s.enrollNode authorities jwt env t req).1 = .ok r) : ∃ v, s.tokens.validateToken jwt env.clock t = .ok v ∧
      (s.enrollNode authorities jwt env t req).2.registry.manager.nodes.lookup r.nodeId =
        some (Registry.enrolledNode (env.clock 2) v.nodeID req) := by
  rw [enrollNode] at h
  split at h
  · cases h
  · next v hv =>
    refine ⟨v, hv, ?_⟩
    split at h
    · cases h
    · next n c s' hr =>
      cases h
      rw [enrollNode, hv]
      dsimp only
      rw [hr]
      dsimp only
      rcases (registerNode_cases hr).2 with ⟨⟨err, he⟩, -⟩ | ⟨c', he, hs⟩
      · cases he
      · cases he
        rw [lookup_saveNode, useToken, hs]
        exact (Manager.setNode_lookup ..).trans (if_pos rfl)

lemma tokens_enrollNode {authorities : Authorities} {jwt : TokenSigner} {env : EnrollEnv} {t : String} :
    (s.enrollNode authorities jwt env t req).2.tokens = s.tokens ∨
      ∃ tokenID usedBy, (s.enrollNode authorities jwt env t req).2.tokens =
        (s.tokens.useToken (env.clock 3) tokenID usedBy).2 := by
  rw [enrollNode]
  split
  · exact .inl rfl
  · next v hv =>
    split
    · next err s' hr => exact .inl (registerNode_cases hr).1
    · next n c s' hr =>
      refine .inr ⟨v.id, n.id, ?_⟩
      dsimp only
      rw [tokens_saveNode, useToken, (registerNode_cases hr).1]

end Enrollment

inductive EnrollmentOp
  | generate (uuid : String) (now : Time) (nodeID nodeName region zone : String) (validityDuration maxUses : ℤ)
  | enroll (env : EnrollEnv) (token : String) (req : EnrollNodeRequest)
  | revoke (tokenID : String)
  | cleanup (now : Time)

def EnrollmentOp.Spares (id : String) : EnrollmentOp → Prop
  | .generate uuid .. => uuid ≠ id
  | _ => True

namespace Enrollment

def step (authorities : Authorities) (jwt : TokenSigner) (s : Enrollment codec A) : EnrollmentOp → Enrollment codec A
  | .generate uuid now nodeID nodeName region zone validityDuration maxUses =>
    { s with tokens :=
      (s.tokens.generateToken jwt uuid now nodeID nodeName region zone validityDuration maxUses).2 }
  | .enroll env token req => (s.enrollNode authorities jwt env token req).2
  | .revoke tokenID => { s with tokens := (s.tokens.revokeToken tokenID).2 }
  | .cleanup now => { s with tokens := (s.tokens.cleanupExpiredTokens now).2 }

open TokenManager in
lemma keeps_step {t : BootstrapToken} {s : Enrollment codec A} {op : EnrollmentOp} (h : Keeps t s.tokens)
    (ho : op.Spares t.id) : Keeps t (s.step authorities jwt op).tokens := by
  cases op with
  | generate u now ni nn r z vd mu =>
    exact h.generateToken ho now ni nn r z vd mu
  | enroll env p req =>
    rcases tokens_enrollNode with he | ⟨tokenID, usedBy, he⟩
    · rwa [step, he]
    · rw [step, he]
      exact h.useToken (env.clock 3) tokenID usedBy
  | revoke tokenID => exact h.revokeToken tokenID
  | cleanup now => exact h.cleanupExpiredTokens now

end Enrollment

/-- The node has what the token says in each field the token sets. -/
def Honours (token : BootstrapToken) (node : NodeInfo) : Prop :=
  (token.nodeID ≠ "" → node.id = token.nodeID) ∧ (token.nodeName ≠ "" → node.name = token.nodeName) ∧
    (token.region ≠ "" → node.region = token.region) ∧ (token.zone ≠ "" → node.zone = token.zone)

theorem enrollment_honours_scope_iff {tm tm' : TokenManager} {uuid : String} {now : Time}
    {nodeID nodeName region zone : String} {validityDuration maxUses : ℤ} {token : BootstrapToken}
    (hgen : tm.generateToken jwt uuid now nodeID nodeName region zone validityDuration maxUses = (.ok token, tm'))
    {s : Enrollment codec A} (hs : s.tokens = tm') (ops : List EnrollmentOp) (hops : ∀ op ∈ ops, op.Spares uuid)
    {env : EnrollEnv} {req : EnrollNodeRequest} {resp : EnrollNodeResponse}
    (hok : ((run (Enrollment.step authorities jwt) s ops).enrollNode authorities jwt env token.token req).1 = .ok resp) :
    ∃ node, ((run (Enrollment.step authorities jwt) s ops).enrollNode authorities jwt env token.token
        req).2.registry.manager.nodes.lookup resp.nodeId = some node ∧
      (Honours token node ↔ (nodeName ≠ "" → req.nodeName = nodeName) ∧ (region ≠ "" → req.region = region) ∧
        (zone ≠ "" → req.zone = zone)) := by
  obtain ⟨hid, -, hname, hr, hz, -, -, ⟨cs, hcla, hcl⟩, -⟩ := TokenManager.generateToken_eq_ok hgen
  have hk : TokenManager.Keeps token (run (Enrollment.step authorities jwt) s ops).tokens := by
    refine run_preserves (fun s : Enrollment codec A => TokenManager.Keeps token s.tokens) ops ?_ ?_
    · intro s op ho h
      exact Enrollment.keeps_step h (hid ▸ hops op ho)
    · rw [hs]
      exact TokenManager.keeps_of_generateToken hgen
  obtain ⟨v, hv, hlo⟩ := Enrollment.enrollNode_eq_ok hok
  obtain ⟨cs', st, hc', hl, -, -, rfl⟩ := TokenManager.validateToken_eq_ok hv
  rw [hcla] at hc'
  cases hc'
  rw [hcl, ← hid] at hl
  have hnode : st.nodeID = token.nodeID := (hk st hl).1
  refine ⟨_, hlo, ?_⟩
  rw [Honours, hname, hr, hz]
  constructor
  · rintro ⟨-, h⟩
    exact h
  · intro h
    refine ⟨fun hset => ?_, h⟩
    dsimp only [Registry.enrolledNode]
    rw [hnode, if_neg hset]

lemma exists_eq_ok {E α : Type} {x : Except E α} (h : x.toOption.isSome = true) : ∃ a, x = .ok a := by
  cases x with
  | error err => cases h
  | ok a => exact ⟨a, rfl⟩

def edgeClaims : TokenClaims := ⟨"id", "", "edge", "eu", "", 1, 0, wholeSeconds defaultValidity⟩

def edgeToken : BootstrapToken := ⟨"id", "token", "", "edge", "eu", "", 0, defaultValidity, false, 0, "", 1, 0⟩

def edgeEnrollment : Enrollment Registry.plainNodeCodec String where
  registry := .oneNodeRegistry
  tokens := ({} : TokenManager).put { edgeToken with token := "" }

def calmEnroll : EnrollEnv := ⟨fun _ => 0, { now := 0 }, Registry.committed⟩

def enrollRequest (nodeName region : String) : EnrollNodeRequest := ⟨nodeName, region, "", ∅, none, none⟩

lemma edgeToken_generated : ({} : TokenManager).generateToken (soleSigner edgeClaims) "id" 0 "" "edge" "eu" "" 0 0 =
    (.ok edgeToken, edgeEnrollment.tokens) := TokenManager.generateToken_eq (by decide +kernel)

theorem enrollment_honours_scope_edge :
    ({} : TokenManager).generateToken (soleSigner edgeClaims) "id" 0 "" "edge" "eu" "" 0 0 =
      (.ok edgeToken, edgeEnrollment.tokens) ∧ ∃ resp node,
      ((run (Enrollment.step plainAuthorities (soleSigner edgeClaims)) edgeEnrollment [.cleanup 0]).enrollNode
        plainAuthorities (soleSigner edgeClaims) calmEnroll edgeToken.token (enrollRequest "edge" "eu")).1 = .ok resp ∧
      ((run (Enrollment.step plainAuthorities (soleSigner edgeClaims)) edgeEnrollment [.cleanup 0]).enrollNode
        plainAuthorities (soleSigner edgeClaims) calmEnroll edgeToken.token
          (enrollRequest "edge" "eu")).2.registry.manager.nodes.lookup resp.nodeId = some node ∧
      Honours edgeToken node := by
  obtain ⟨resp, hr⟩ := exists_eq_ok (show ((run (Enrollment.step plainAuthorities (soleSigner edgeClaims))
    edgeEnrollment [.cleanup 0]).enrollNode plainAuthorities (soleSigner edgeClaims) calmEnroll edgeToken.token
      (enrollRequest "edge" "eu")).1.toOption.isSome = true by decide +kernel)
  have ho : ∀ op ∈ [EnrollmentOp.cleanup 0], op.Spares "id" := by
    intro op hop
    rw [List.mem_singleton.mp hop]
    trivial
  obtain ⟨node, hl, hiff⟩ := enrollment_honours_scope_iff (s := edgeEnrollment) edgeToken_generated rfl
    [.cleanup 0] ho hr
  exact ⟨edgeToken_generated, resp, node, hr, hl, hiff.mpr ⟨fun _ => rfl, fun _ => rfl, fun h => absurd rfl h⟩⟩

theorem scope_ignored : ({} : TokenManager).generateToken (soleSigner edgeClaims) "id" 0 "" "edge" "eu" "" 0 0 =
      (.ok edgeToken, edgeEnrollment.tokens) ∧
    (edgeEnrollment.enrollNode plainAuthorities (soleSigner edgeClaims) calmEnroll "token"
      (enrollRequest "intruder" "us")).1.toOption.map EnrollNodeResponse.nodeId =
        some ("node-intruder-" ++ toString (unixSeconds 0)) ∧
    ((edgeEnrollment.enrollNode plainAuthorities (soleSigner edgeClaims) calmEnroll "token"
      (enrollRequest "intruder" "us")).2.registry.manager.nodes.lookup
        ("node-intruder-" ++ toString (unixSeconds 0))).map (fun node => (node.name, node.region)) =
          some ("intruder", "us") := by
  refine ⟨edgeToken_generated, ?_, ?_⟩ <;> decide +kernel

end Cloudless.Membership
