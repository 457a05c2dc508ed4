import Cloudless.Foundations.Delimited
import Cloudless.Secrets.Operations

/-! Which secret an operation that is addressed to a namespace and a name can reach. -/

namespace Cloudless.Secrets

open Foundations FiniteMaps GoStd Runs

lemma getKey_injective {ns name ns' name' : String} (h : getKey ns name = getKey ns' name')
    (hn : '/' ∉ name.toList) (hn' : '/' ∉ name'.toList) : ns = ns' ∧ name = name' := by
  have hl := congrArg String.toList h
  simp only [getKey, String.toList_append, List.append_assoc] at hl
  obtain ⟨hns, hname⟩ := Delimited.right_injective (List.append_cancel_left hl) hn hn'
  exact ⟨String.toList_injective hns, String.toList_injective hname⟩

namespace Manager

variable {V : Type} {codec : Codec Secret V} {gcm : GCM} {jwt : Signer}

def NamesPlain (m : Manager codec) : Prop :=
  ∀ {ns name secret}, m.Copy (getKey ns name) secret → '/' ∉ secret.name.toList

variable {m : Manager codec}

lemma namesPlain_step (h : m.NamesPlain) {op : Op} : (step gcm jwt m op).NamesPlain := by
  intro ns name secret hcopy
  rcases step_copy hcopy with hcopy | hr
  · exact h hcopy
  · cases hr with
    | created hname =>
      rw [(newSecret_frame ..).2.1]
      exact (ne_empty_of_validateSecretName hname).2.2
    | updated hc =>
      have ho := h (copy_of_current hc)
      exact ho
    | interrupted hc =>
      have ho := h (copy_of_current hc)
      exact ho
    | deleted hc =>
      have ho := h (copy_of_current hc)
      exact ho
    | rotated hn hc =>
      rw [(rotatedSecret_metadata ..).1]
      exact h (copy_of_cache hc)

def Blank (m : Manager codec) : Prop := ∀ ns name secret, ¬m.Copy (getKey ns name) secret

lemma namesPlain_run (h : m.Blank) {ops : List Op} : (run (step gcm jwt) m ops).NamesPlain :=
  run_preserves (fun m : Manager codec => m.NamesPlain) ops (fun _ _ _ hm => namesPlain_step hm)
    fun hc => absurd hc (h _ _ _)

structure Isolated (gcm : GCM) (jwt : Signer) (m : Manager codec) (ns name : String) : Prop where
  get : ∀ clock order audience accessToken resp,
    (m.getSecret gcm jwt clock order ⟨name, ns, audience, accessToken⟩).2 = .ok resp → resp.ns = ns ∧ resp.name = name
  issue : ∀ uuid clock audience ttl maxUses token secret,
    (m.generateAccessToken jwt uuid clock ns name audience ttl maxUses).2 = .ok token →
    m.store.current (getKey ns name) = some secret → secret.ns = ns ∧ secret.name = name
  update_returns : ∀ call data secret, (m.updateSecret gcm call ns name data).2 = .ok secret →
    secret.ns = ns ∧ secret.name = name
  update_changes : ∀ call data key secret, m.store.current key = some secret →
    (m.updateSecret gcm call ns name data).1.store.current key ≠ some secret → secret.ns = ns ∧ secret.name = name
  delete_changes : ∀ call key secret, m.store.current key = some secret →
    (m.deleteSecret call ns name).1.store.current key ≠ some secret → secret.ns = ns ∧ secret.name = name

variable {ns name : String} {secret : Secret} {c : Call}

lemma updateSecret_current {d : FMap String Bytes} {key : String} (hc : m.store.current key = some secret)
    (hch : (m.updateSecret gcm c ns name d).1.store.current key ≠ some secret) :
    ns ≠ "" ∧ name ≠ "" ∧ m.store.current (getKey ns name) = some secret := by
  rcases updateSecret_cases (Prod.mk.eta (p := m.updateSecret gcm c ns name d)).symm with
    ⟨hr, -⟩ | ⟨old, envelopes, hns, hname, ho, -, -, -, hw⟩
  · rw [hr.current] at hch
    exact absurd hc hch
  · have hkey : key = getKey ns name := by
      have hk : old.key = getKey ns name := RaftSecretStore.current_key ho
      by_contra hne
      rw [← hk] at hne
      apply hch
      rw [← hc]
      rcases hw with ⟨-, -, -, -, -, -, hs⟩ | ⟨err, hw, -⟩
      · rw [hs, RaftSecretStore.mutate_current, RaftSecretStore.get_current]
        exact if_neg hne
      · rw [hw.store, save_mutate_current, RaftSecretStore.get_current]
        exact if_neg hne
    exact ⟨hns, hname, hkey ▸ hc⟩

lemma deleteSecret_current {key : String} (hc : m.store.current key = some secret)
    (hch : (m.deleteSecret c ns name).1.store.current key ≠ some secret) :
    ns ≠ "" ∧ name ≠ "" ∧ m.store.current (getKey ns name) = some secret := by
  rcases deleteSecret_cases (Prod.mk.eta (p := m.deleteSecret c ns name)).symm with
    ⟨hr, -, -⟩ | ⟨old, err, hns, hname, ho, -, hw, -⟩
  · rw [hr.current] at hch
    exact absurd hc hch
  · have hkey : key = getKey ns name := by
      have hk : old.key = getKey ns name := RaftSecretStore.current_key ho
      by_contra hne
      rw [← hk] at hne
      apply hch
      rw [← hc, hw.store, save_mutate_current, RaftSecretStore.get_current]
      exact if_neg hne
    exact ⟨hns, hname, hkey ▸ hc⟩

lemma deleteSecret_reaches (hns : ns ≠ "") (hname : name ≠ "") (hc : m.store.current (getKey ns name) = some secret)
    (ht : secret.deletedAt ≠ some (c.clock 1)) :
    (m.deleteSecret c ns name).1.store.current (getKey ns name) ≠ some secret := by
  rcases deleteSecret_cases (Prod.mk.eta (p := m.deleteSecret c ns name)).symm with
    ⟨-, -, hn⟩ | ⟨old, err, -, -, ho, -, hw, -⟩
  · rw [hc] at hn
    simp [hns, hname] at hn
  · rw [hc] at ho
    cases ho
    have hk : secret.key = getKey ns name := RaftSecretStore.current_key hc
    rw [hw.store, save_mutate_current, if_pos (show getKey ns name = (Secret.deletedBy c secret).key from hk.symm)]
    intro h
    apply ht
    rw [← Option.some.inj h]
    rfl

lemma isolated_of_own
    (ho : ∀ secret, ns ≠ "" → m.store.current (getKey ns name) = some secret → secret.ns = ns ∧ secret.name = name) :
    m.Isolated gcm jwt ns name := by
  refine ⟨?_, ?_, ?_, ?_, ?_⟩
  · intro c o a ac r hr
    obtain ⟨-, hns, -, secret, pl, hc, -, -, -, rfl⟩ := getSecret_eq_ok.mp hr
    exact ho secret hns hc
  · intro u c a ttl maxUses t secret ht hc
    rcases (generateAccessToken_cases
        (Prod.mk.eta (p := m.generateAccessToken jwt u c ns name a ttl maxUses)).symm).2 with
      ⟨⟨err, he⟩, -⟩ | ⟨_, _, _, hns, -⟩
    · rw [he] at ht
      cases ht
    · exact ho secret hns hc
  · intro ca d secret hr
    rcases updateSecret_cases (Prod.mk.eta (p := m.updateSecret gcm ca ns name d)).symm with
      ⟨-, err, he⟩ | ⟨old, envelopes, hns, -, hc, -, -, -, ⟨-, -, ⟨err, he⟩, -⟩ | ⟨err, -, ⟨hok, -⟩ | ⟨⟨text, he⟩, -⟩⟩⟩
    · rw [he] at hr
      cases hr
    · rw [he] at hr
      cases hr
    · rw [hok] at hr
      cases hr
      exact ho old hns hc
    · rw [he] at hr
      cases hr
  · intro ca d key secret hc hch
    obtain ⟨hns, -, hcur⟩ := updateSecret_current hc hch
    exact ho secret hns hcur
  · intro ca key secret hc hch
    obtain ⟨hns, -, hcur⟩ := deleteSecret_current hc hch
    exact ho secret hns hcur

theorem isolated_iff {m : Manager codec} (h : m.Blank) (ops : List Op) (ns name : String) :
    (run (step gcm jwt) m ops).Isolated gcm jwt ns name ↔
      ('/' ∈ name.toList → ns ≠ "" → (run (step gcm jwt) m ops).store.current (getKey ns name) = none) := by
  have hp : (run (step gcm jwt) m ops).NamesPlain := namesPlain_run h
  generalize run (step gcm jwt) m ops = m' at hp
  constructor
  · intro hi hs hns
    by_contra hc
    obtain ⟨secret, hc⟩ := Option.ne_none_iff_exists'.mp hc
    have hname : name ≠ "" := by
      rintro rfl
      cases hs
    obtain ⟨t, ht⟩ : ∃ t, secret.deletedAt ≠ some t := by
      refine ⟨secret.deletedAt.getD 0 + 1, ?_⟩
      cases secret.deletedAt <;> simp
    let call : Call := { steadyCall with clock := fun _ => t }
    obtain ⟨-, hsame⟩ := hi.delete_changes call _ secret hc (deleteSecret_reaches hns hname hc ht)
    rw [← hsame] at hs
    exact hp (copy_of_current hc) hs
  · intro hf
    refine isolated_of_own fun secret hns hc => ?_
    have hs : '/' ∉ name.toList := by
      intro hs
      rw [hf hs hns] at hc
      cases hc
    exact getKey_injective (RaftSecretStore.current_key hc) (hp (copy_of_current hc)) hs

lemma blank_freshManager : freshManager.Blank := by
  rintro ns name secret (h | h)
  · cases h
  · cases h

def createNested : Op := .create steadyCall "a/b" "c" passwordData []

theorem isolated_nested :
    ¬(run (step plainGCM (singleSigner readerClaims)) freshManager [createNested]).Isolated plainGCM
      (singleSigner readerClaims) "a" "b/c" := by
  intro h
  have hnone := (isolated_iff blank_freshManager [createNested] "a" "b/c").mp h (by decide) (by decide)
  exact absurd hnone (by decide +kernel)

theorem delete_reaches_other_namespace :
    ((freshManager.createSecret plainGCM steadyCall "a/b" "c" passwordData []).1.store.current (getKey "a/b" "c")).map
      (fun secret => (secret.ns, secret.name, secret.deletedAt)) = some ("a/b", "c", none) ∧
    ((freshManager.createSecret plainGCM steadyCall "a/b" "c" passwordData []).1.deleteSecret steadyCall "a" "b/c").2 =
      none ∧ (((freshManager.createSecret plainGCM steadyCall "a/b" "c" passwordData []).1.deleteSecret steadyCall "a"
      "b/c").1.store.current (getKey "a/b" "c")).map (fun secret => (secret.ns, secret.name, secret.deletedAt)) =
        some ("a/b", "c", some 0) := by
  decide +kernel

end Manager

end Cloudless.Secrets
