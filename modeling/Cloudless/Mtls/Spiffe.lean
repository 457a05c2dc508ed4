import Cloudless.Foundations.URLs

namespace Cloudless.Mtls

open Foundations GoStd URLs

inductive IdentityType
  | node
  | workload
  | service
  | controller
  deriving DecidableEq

def IdentityType.text : IdentityType → Bytes
  | .node => ascii "node"
  | .workload => ascii "workload"
  | .service => ascii "service"
  | .controller => ascii "controller"

def IdentityType.ofText (s : Bytes) : Option IdentityType :=
  if s = ascii "node" then some .node
  else if s = ascii "workload" then some .workload
  else if s = ascii "service" then some .service
  else if s = ascii "controller" then some .controller
  else none

structure SPIFFEIdentity where
  trustDomain : Bytes
  type : IdentityType
  id : Bytes
  uri : Option URL
  deriving DecidableEq

inductive SPIFFEError
  | uri (err : ParseError)
  | invalid (text : Bytes)
  deriving DecidableEq

def uriScheme : Bytes := ascii "spiffe"

def trustDomain : Bytes := ascii "cloudless"

def identityPath (type : IdentityType) (id : Bytes) : Bytes := slash :: (type.text ++ slash :: id)

def identityText (type : IdentityType) (id : Bytes) : Bytes :=
  uriScheme ++ colon :: slash :: slash :: (trustDomain ++ identityPath type id)

example : identityText .node (ascii "a") = ascii "spiffe://cloudless/node/a" := by decide

variable (authorities : Authorities)

def newIdentity (type : IdentityType) (id : Bytes) : SPIFFEIdentity :=
  { trustDomain := trustDomain
    type := type
    id := id
    uri := (parse authorities (identityText type id)).toOption }

def newNodeIdentity (nodeID : Bytes) : SPIFFEIdentity := newIdentity authorities .node nodeID

def newWorkloadIdentity (workloadID : Bytes) : SPIFFEIdentity := newIdentity authorities .workload workloadID

def newServiceIdentity (serviceID : Bytes) : SPIFFEIdentity := newIdentity authorities .service serviceID

def newControllerIdentity (controllerID : Bytes) : SPIFFEIdentity := newIdentity authorities .controller controllerID

def trimSlash (p : Bytes) : Bytes := if p.head? = some slash then p.tail else p

def parseSPIFFEID (uriStr : Bytes) : Except SPIFFEError SPIFFEIdentity :=
  match parse authorities uriStr with
  | .error err => .error (.uri err)
  | .ok uri =>
    if uri.scheme ≠ uriScheme then .error (.invalid (ascii "invalid SPIFFE URI scheme: " ++ uri.scheme))
    else if uri.host ≠ trustDomain then .error (.invalid (ascii "invalid trust domain: " ++ uri.host))
    else
      match (trimSlash uri.path).splitOn slash with
      | [identityType, id] =>
        match IdentityType.ofText identityType with
        | none => .error (.invalid (ascii "unknown identity type: " ++ identityType))
        | some type => .ok { trustDomain := uri.host, type := type, id := id, uri := some uri }
      | _ => .error (.invalid (ascii "invalid SPIFFE ID path: " ++ uri.path))

def SPIFFEIdentity.string (identity : SPIFFEIdentity) : Bytes :=
  match identity.uri with
  | some uri => uri.string authorities
  | none =>
    uriScheme ++ ascii "://" ++ identity.trustDomain ++ ascii "/" ++ identity.type.text ++ ascii "/" ++ identity.id

/-- What is left of an ID in the path of its URI: the rest is taken for a query and a fragment. -/
def shownID (id : Bytes) : Except ParseError Bytes := unescape (cut question (cut hash id).1).1

def Unreserved (id : Bytes) : Prop := slash ∉ id ∧ question ∉ id ∧ hash ∉ id ∧ percent ∉ id

instance (id : Bytes) : Decidable (Unreserved id) := inferInstanceAs (Decidable (_ ∧ _))

variable {authorities} {type : IdentityType} {id sh : Bytes} {u : URL}

lemma plain_uriScheme : Plain uriScheme := by decide

lemma plain_trustDomain : Plain trustDomain := by decide

lemma IdentityType.plain_text (type : IdentityType) : Plain type.text := by
  cases type <;> decide

@[simp] lemma IdentityType.ofText_text (type : IdentityType) : IdentityType.ofText type.text = some type := by
  cases type <;> decide

lemma length_cut_le (sep : UInt8) (s : Bytes) : (cut sep s).1.length ≤ s.length :=
  (List.takeWhile_sublist _).length_le

lemma length_cut_lt {sep : UInt8} {s : Bytes} (h : sep ∈ s) : (cut sep s).1.length < s.length := by
  rcases (cut_spec sep s).2 with ⟨hn, -⟩ | he
  · exact absurd h hn
  · have hlen := congrArg List.length he
    rw [List.length_append, List.length_cons] at hlen
    omega

lemma shownID_of_not_mem (hh : hash ∉ id) (hq : question ∉ id) : shownID id = unescape id := by
  rw [shownID, cut_of_not_mem hh, cut_of_not_mem hq]

lemma shownID_eq_self_iff : shownID id = .ok id ↔ question ∉ id ∧ hash ∉ id ∧ percent ∉ id := by
  constructor
  · intro h
    have hs := length_unescape h
    have hcut := length_cut_le question (cut hash id).1
    have hh : hash ∉ id := fun hm => by
      have hl := length_cut_lt hm
      omega
    have hcu : cut hash id = (id, []) := cut_of_not_mem hh
    rw [hcu] at hs
    dsimp only at hs
    have hq : question ∉ id := fun hm => by
      have hl := length_cut_lt hm
      omega
    refine ⟨hq, hh, ?_⟩
    rwa [shownID_of_not_mem hh hq, unescape_eq_self_iff] at h
  · rintro ⟨hq, hh, hp⟩
    rwa [shownID_of_not_mem hh hq, unescape_eq_self_iff]

lemma cut_identityPath {sep : UInt8} (hs : sep < 97) (hsl : sep ≠ slash) :
    (cut sep (identityPath type id)).1 = identityPath type (cut sep id).1 := by
  rw [identityPath, cut_cons_of_ne (Ne.symm hsl), cut_append (type.plain_text.not_mem hs),
    cut_cons_of_ne (Ne.symm hsl)]
  rfl

lemma unescape_identityPath : unescape (identityPath type id) = (unescape id).map (identityPath type) := by
  rw [identityPath, unescape_cons_of_ne (by decide), unescape_append (type.plain_text.not_mem (by decide)),
    unescape_cons_of_ne (by decide)]
  cases unescape id <;> rfl

lemma head?_identityPath (type : IdentityType) (id : Bytes) : (identityPath type id).head? = some slash := rfl

@[simp] lemma trimSlash_identityPath (type : IdentityType) (id : Bytes) :
    trimSlash (identityPath type id) = type.text ++ slash :: id := rfl

lemma located_of_parse_identityText (h : parse authorities (identityText type id) = .ok u) :
    ∃ sh, shownID id = .ok sh ∧ Located uriScheme trustDomain (identityPath type sh) u := by
  obtain ⟨p, hp, hl⟩ := located_of_parse plain_uriScheme plain_trustDomain (head?_identityPath type id) h
  rw [cut_identityPath (by decide) (by decide), cut_identityPath (by decide) (by decide), unescape_identityPath] at hp
  rw [shownID]
  cases hu : unescape (cut question (cut hash id).1).1 with
  | error err =>
    rw [hu] at hp
    cases hp
  | ok sh =>
    rw [hu] at hp
    cases hp
    exact ⟨sh, rfl, hl⟩

lemma not_mem_identityPath {c : UInt8} (hc : c < 97) (hs : c ≠ slash) (hid : c ∉ id) : c ∉ identityPath type id := by
  simp only [identityPath, List.mem_cons, List.mem_append, not_or]
  exact ⟨hs, type.plain_text.not_mem hc, hs, hid⟩

lemma bare_of_parse_identityText (hh : hash ∉ id) (hq : question ∉ id)
    (h : parse authorities (identityText type id) = .ok u) : u.Bare :=
  parse_bare plain_uriScheme plain_trustDomain (head?_identityPath type id)
    (not_mem_identityPath (by decide) (by decide) hh) (not_mem_identityPath (by decide) (by decide) hq) h

lemma splitOn_identityPath : (trimSlash (identityPath type id)).splitOn slash = type.text :: id.splitOn slash := by
  have ht : ∀ c ∈ type.text, (c == slash) = false := by
    intro c hc
    rw [beq_eq_false_iff_ne]
    rintro rfl
    exact type.plain_text.not_mem (by decide) hc
  exact List.splitOnP_append_cons_of_forall_mem ht slash (by decide) id

lemma splitOn_of_not_mem (h : slash ∉ id) : id.splitOn slash = [id] := by
  apply List.splitOnP_eq_singleton
  intro c hc
  rw [beq_eq_false_iff_ne]
  rintro rfl
  exact h hc

lemma length_splitOn_of_mem (h : slash ∈ id) : 2 ≤ (id.splitOn slash).length := by
  obtain ⟨s, t, rfl⟩ := List.append_of_mem h
  have hsp : (s ++ slash :: t).splitOn slash = s.splitOn slash ++ t.splitOn slash :=
    List.splitOnP_append_cons s t (by decide)
  have hs := List.length_pos_iff.mpr (List.splitOnP_ne_nil (· == slash) s)
  have ht := List.length_pos_iff.mpr (List.splitOnP_ne_nil (· == slash) t)
  rw [hsp, List.length_append]
  exact Nat.add_le_add hs ht

section

variable (h : Located uriScheme trustDomain (identityPath type id) u)

include h

lemma parseSPIFFEID_string (hid : slash ∉ id) :
    ∃ u', parseSPIFFEID authorities (u.string authorities) = .ok ⟨trustDomain, type, id, some u'⟩ := by
  obtain ⟨u', hp, hl⟩ := h.parse_string plain_uriScheme plain_trustDomain (head?_identityPath type id)
  refine ⟨u', ?_⟩
  rw [parseSPIFFEID, hp]
  dsimp only
  rw [hl.scheme_eq, hl.host_eq, hl.path_eq, if_neg (by simp), if_neg (by simp), splitOn_identityPath,
    splitOn_of_not_mem hid]
  dsimp only
  rw [IdentityType.ofText_text]

lemma parseSPIFFEID_string_of_mem (hid : slash ∈ id) :
    ∃ err, parseSPIFFEID authorities (u.string authorities) = .error err := by
  obtain ⟨u', hp, hl⟩ := h.parse_string plain_uriScheme plain_trustDomain (head?_identityPath type id)
  refine ⟨.invalid (ascii "invalid SPIFFE ID path: " ++ identityPath type id), ?_⟩
  rw [parseSPIFFEID, hp]
  dsimp only
  rw [hl.scheme_eq, hl.host_eq, hl.path_eq, if_neg (by simp), if_neg (by simp), splitOn_identityPath]
  have hlen := length_splitOn_of_mem hid
  split
  · next he =>
    have ho := congrArg List.length (List.cons.inj he).2
    rw [List.length_singleton] at ho
    omega
  · rfl

lemma parseSPIFFEID_eq_ok {identity : SPIFFEIdentity}
    (hp : parseSPIFFEID authorities (u.string authorities) = .ok identity) :
    slash ∉ id ∧ identity.type = type ∧ identity.id = id := by
  by_cases hid : slash ∈ id
  · obtain ⟨err, he⟩ : ∃ err, parseSPIFFEID authorities (u.string authorities) = .error err :=
      parseSPIFFEID_string_of_mem h hid
    rw [he] at hp
    cases hp
  · obtain ⟨u', hu'⟩ : ∃ u', parseSPIFFEID authorities (u.string authorities) = .ok ⟨trustDomain, type, id, some u'⟩ :=
      parseSPIFFEID_string h hid
    rw [hu'] at hp
    cases hp
    exact ⟨hid, rfl, rfl⟩

end

theorem parseSPIFFEID_newIdentity (hu : (newIdentity authorities type id).uri = some u) :
    (∃ u', parseSPIFFEID authorities ((newIdentity authorities type id).string authorities) =
      .ok ⟨trustDomain, type, id, some u'⟩) ↔ Unreserved id := by
  have hp : parse authorities (identityText type id) = .ok u := by
    rw [newIdentity] at hu
    cases hp : parse authorities (identityText type id) <;> simp_all [Except.toOption]
  obtain ⟨sh, hs, hl⟩ := located_of_parse_identityText hp
  rw [SPIFFEIdentity.string, hu]
  constructor
  · rintro ⟨u', h⟩
    obtain ⟨hsl, -, rfl⟩ := parseSPIFFEID_eq_ok hl h
    exact ⟨hsl, shownID_eq_self_iff.mp hs⟩
  · rintro ⟨hsl, hr⟩
    rw [shownID_eq_self_iff.mpr hr] at hs
    cases hs
    exact parseSPIFFEID_string hl hsl

theorem parseSPIFFEID_newIdentity_node : ∃ u',
    parseSPIFFEID plainAuthorities ((newNodeIdentity plainAuthorities (ascii "a")).string plainAuthorities) =
      .ok ⟨trustDomain, .node, ascii "a", some u'⟩ :=
  (parseSPIFFEID_newIdentity (u := ((newNodeIdentity plainAuthorities (ascii "a")).uri.get (by decide)))
    (by decide)).mpr (by decide)

end Cloudless.Mtls
