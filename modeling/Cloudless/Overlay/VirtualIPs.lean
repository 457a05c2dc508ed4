import Cloudless.Overlay.Persistence

/-! When virtual addresses are unique and stable: along every run of registrations, deregistrations and restarts. -/

namespace Cloudless.Overlay

open Foundations FiniteMaps GoStd MapLoops Runs Raft PersistentServiceRegistry ServiceRegistry

variable {V : Type} {codec : Codec ServicePersistentState V}

structure Addressing (codec : Codec ServicePersistentState V) where
  psr : PersistentServiceRegistry codec
  given : FMap (String × String) String

namespace Addressing

variable (parseCIDR : String → Except String IPNet) (cidr : String)

def note (id : String × String) (ip : String) (given : FMap (String × String) String) : FMap (String × String) String :=
  match given.lookup id with
  | some _ => given
  | none => given.insert id ip

variable (s : Addressing codec)

def givenAfter : RegistryOp → FMap (String × String) String
  | .registerService env service =>
    match (s.psr.registerService env service).1, (assign service s.psr.registry.ipPool).1 with
    | none, .ok ip => note service.identity ip s.given
    | _, _ => s.given
  | .deregisterService _ name ns => s.given.erase (name, orDefault ns)
  | _ => s.given

def step (op : RegistryOp) : Addressing codec :=
  ⟨(s.psr.call parseCIDR cidr op).2, s.givenAfter op⟩

structure Sound (s : Addressing codec) : Prop where
  resolves : ∀ {id vip}, s.given.lookup id = some vip → s.psr.registry.resolveService id.1 id.2 = .ok vip
  leadsBack : ∀ {id vip}, s.given.lookup id = some vip → ∀ order : MapOrder, ∃ service,
    s.psr.registry.reverseLookup order vip = .ok service ∧ service.identity = id
  distinct : ∀ {id id' vip}, s.given.lookup id = some vip → s.given.lookup id' = some vip → id = id'

def Committed (env : CallEnv) : Prop := s.psr.store.isLeader = true ∧ env.raft.commit = .committed

def SoleName (fullName : String) (id : String × String) : Prop :=
  ∀ id' vip, s.given.lookup id' = some vip → Service.fullNameOf id' = fullName → id' = id

/-- A registration that the pool gives an address is a new service's. One with an address of its own brings one that no
other service has, its old one if it is registered, and none of the pool's that is not its own already. A restart finds
no service with an address of the pool. -/
def Orderly : RegistryOp → Prop
  | .registerService env service =>
    s.Committed env ∧ s.SoleName service.fullName service.identity ∧
      if service.virtualIP = "" then s.given.lookup service.identity = none
      else (∀ id vip, s.given.lookup id = some vip → (vip = service.virtualIP ↔ id = service.identity)) ∧
        (s.psr.registry.ipPool.network.Offers service.virtualIP →
          s.given.lookup service.identity = some service.virtualIP)
  | .deregisterService env name ns =>
    s.Committed env ∧ s.SoleName (getFullServiceName name ns) (name, orDefault ns)
  | .restart _ => ∀ id vip, s.given.lookup id = some vip → ¬s.psr.registry.ipPool.network.Offers vip
  | _ => True

def label (service : Service) : (String × String) × String := (service.identity, service.virtualIP)

def SameLabels (psr : PersistentServiceRegistry codec) : Prop :=
  ∀ key, (liveRecord codec psr.store key).map (fun state => label state.service) =
    (psr.registry.services.lookup key).map label

/-- What joins the pool to the services: every registered address that the pool could give is marked in it. -/
structure Kept (s : Addressing codec) : Prop where
  holds : ∀ {id vip}, s.given.lookup id = some vip ↔
    ∃ service, s.psr.registry.services.lookup (Service.fullNameOf id) = some service ∧ label service = (id, vip)
  distinct : ∀ {id id' vip}, s.given.lookup id = some vip → s.given.lookup id' = some vip → id = id'
  recorded : SameLabels s.psr
  addressed : ∀ {key service}, s.psr.registry.services.lookup key = some service → service.virtualIP ≠ ""
  network : ∃ pool, newIPPool parseCIDR cidr = .ok pool ∧ s.psr.registry.ipPool.network = pool.network
  reserved : ∀ {id vip}, s.given.lookup id = some vip → s.psr.registry.ipPool.network.Offers vip →
    vip ∈ s.psr.registry.ipPool.allocated

variable {parseCIDR cidr} {s}

lemma Kept.sound (h : Kept parseCIDR cidr s) : Sound s where
  resolves := by
    intro id vip hg
    obtain ⟨service, hs, hl⟩ := h.holds.mp hg
    exact resolveService_eq_ok.mpr ⟨service, hs, congrArg Prod.snd hl⟩
  leadsBack := by
    intro id vip hg o
    obtain ⟨service, hs, hl⟩ := h.holds.mp hg
    obtain rfl : service.virtualIP = vip := congrArg Prod.snd hl
    obtain ⟨f, hf⟩ := exists_reverseLookup o hs
    obtain ⟨key, hk, hv⟩ := of_reverseLookup_eq_ok hf
    refine ⟨f, hf, ?_⟩
    apply h.distinct _ hg
    rw [← hv]
    apply h.holds.mpr
    rw [Service.fullNameOf_identity, s.psr.registry.keyed hk]
    exact ⟨f, hk, rfl⟩
  distinct := h.distinct

variable {id : String × String} {given : FMap (String × String) String}

lemma lookup_note {id' : String × String} {ip : String} (h : ∀ vip, given.lookup id = some vip → vip = ip) :
    (note id ip given).lookup id' = if id' = id then some ip else given.lookup id' := by
  rw [note]
  cases hg : given.lookup id with
  | none => exact lookup_insert_if _ _ _ _
  | some vip =>
    split_ifs with hid
    · rw [hid, hg, h vip hg]
    · rfl

variable {psr : PersistentServiceRegistry codec}

lemma kept_of_labels (h : Kept parseCIDR cidr s)
    (hla : ∀ key, (psr.registry.services.lookup key).map label = (s.psr.registry.services.lookup key).map label)
    (hr : SameLabels psr) (hn : psr.registry.ipPool.network = s.psr.registry.ipPool.network)
    (hres : ∀ {id vip}, s.given.lookup id = some vip → s.psr.registry.ipPool.network.Offers vip →
      vip ∈ psr.registry.ipPool.allocated) : Kept parseCIDR cidr ⟨psr, s.given⟩ where
  holds := by
    intro id vip
    rw [h.holds, ← Option.map_eq_some_iff, ← Option.map_eq_some_iff, hla]
  distinct := h.distinct
  recorded := hr
  addressed := by
    intro key service hs
    have hl := hla key
    rw [hs, Option.map_some, eq_comm, Option.map_eq_some_iff] at hl
    obtain ⟨old, ho, hlab⟩ := hl
    rw [← show old.virtualIP = service.virtualIP from congrArg Prod.snd hlab]
    exact h.addressed ho
  network := by
    rw [hn]
    exact h.network
  reserved := by
    rw [hn]
    exact hres

lemma SameLabels.saves {psr' : PersistentServiceRegistry codec} {fn : String} (h : SameLabels psr)
    (hsa : PersistentServiceRegistry.Saves fn psr psr') : SameLabels psr' := by
  intro key
  by_cases hk : key = fn
  · have hs := congrArg (Option.map fun e : Service × List Endpoint => label e.1) hsa.saved
    rw [Option.map_map, Option.map_map] at hs
    rwa [hk]
  · rw [hsa.records key hk, hsa.services key hk, h]

lemma SameLabels.withRegistry {r : ServiceRegistry} (h : SameLabels psr)
    (hla : ∀ key, (r.services.lookup key).map label = (psr.registry.services.lookup key).map label) :
    SameLabels (psr.withRegistry r) := by
  intro key
  exact (h key).trans (hla key).symm

lemma SameLabels.persistNamed (h : SameLabels psr) (env : CallEnv) (sn ns : String) :
    SameLabels (psr.persistNamed env sn ns).2 := by
  intro key
  rw [registry_persistNamed, PersistentServiceRegistry.persistNamed]
  cases hg : psr.registry.getService sn ns with
  | error err => exact h key
  | ok service =>
    rcases psr.liveRecord_persistService_cases env service with hl | hl
    · exact (congrArg _ (hl key)).trans (h key)
    · have hl := congrArg (Option.map label) (hl key)
      rw [Option.map_map] at hl
      refine hl.trans ?_
      split_ifs with hk
      · rw [getService] at hg
        split at hg
        · next hs =>
          cases hg
          rw [hk, psr.registry.keyed hs, hs]
        · cases hg
      · rw [Option.map_map]
        exact h key

variable (sr : ServiceRegistry) {env : CallEnv}

lemma labels_registerEndpoint {now : Time} {sn ns : String} {e : Endpoint} {key : String} :
    ((sr.registerEndpoint now sn ns e).services.lookup key).map label = (sr.services.lookup key).map label := by
  rw [ServiceRegistry.registerEndpoint, ServiceRegistry.lookup_touch]
  split_ifs with hk
  · rw [hk, Option.map_map]
    rfl
  · rfl

lemma labels_updateEndpoints {now : Time} {sn ns : String} {es : List Endpoint} (key : String) :
    ((sr.updateEndpoints now sn ns es).services.lookup key).map label = (sr.services.lookup key).map label := by
  rw [updateEndpoints, lookup_modifyService]
  split_ifs with hk
  · rw [hk, Option.map_map]
    rfl
  · rfl

lemma Kept.virtualIP_ne_empty (h : Kept parseCIDR cidr s) (fn : String) (st : ServicePersistentState)
    (hl : liveRecord codec s.psr.store fn = some st) : st.service.virtualIP ≠ "" := by
  have hr := h.recorded fn
  rw [hl, Option.map_some, eq_comm, Option.map_eq_some_iff] at hr
  obtain ⟨service, hs, hla⟩ := hr
  rw [← show service.virtualIP = st.service.virtualIP from congrArg Prod.snd hla]
  exact h.addressed hs

lemma labels_restart (h : Kept parseCIDR cidr s) {env : LoadEnv}
    (hnew : newPersistentServiceRegistry parseCIDR cidr env s.psr.store s.psr.recorded = .ok psr) :
    psr.store = s.psr.store ∧ newIPPool parseCIDR cidr = .ok psr.registry.ipPool ∧ ∀ key,
      (psr.registry.services.lookup key).map label = (s.psr.registry.services.lookup key).map label := by
  obtain ⟨r, hr, hreg, hs⟩ := newPersistentServiceRegistry_eq_ok hnew
  obtain ⟨he, hp⟩ := newServiceRegistry_eq_ok hr
  rw [hreg, ipPool_loadFromRAFT s.psr.recorded h.virtualIP_ne_empty]
  refine ⟨hs, hp, ?_⟩
  intro key
  have hv := congrArg Prod.fst (view_loadFromRAFT s.psr.recorded h.virtualIP_ne_empty env (view_of_empty he) key)
  have hl := congrArg (Option.map label) hv
  rw [← h.recorded]
  simp only [view, Option.map_map] at hl
  exact hl

lemma assign_cases (service : Service) (pool : IPPool) : (∃ err, assign service pool = (.error err, pool)) ∨
    ∃ ip pool', assign service pool = (.ok ip, pool') ∧ pool'.network = pool.network ∧
      (service.virtualIP = "" ∧ pool.network.Offers ip ∧ ip ∉ pool.allocated ∧
          pool'.allocated = insert ip pool.allocated ∨
        service.virtualIP ≠ "" ∧ ip = service.virtualIP ∧ pool'.allocated = pool.allocated) := by
  rw [assign]
  split_ifs with hv
  · rcases pool.allocate_cases with ⟨err, hc⟩ | ⟨ip, pool', hc, ho, hf, -, hn, ha⟩
    · rw [hc]
      exact .inl ⟨_, rfl⟩
    · rw [hc]
      exact .inr ⟨ip, pool', rfl, hn, .inl ⟨hv, ho, hf, ha⟩⟩
  · exact .inr ⟨_, _, rfl, rfl, .inr ⟨hv, rfl, rfl⟩⟩

lemma writeState_eq_none {key : String} {state : ServicePersistentState}
    {hk : key = "service:" ++ state.service.fullName} (hm : ∀ state, ∃ data, codec.marshal state = .ok data)
    (hc : psr.store.isLeader = true ∧ env.raft.commit = .committed) : (psr.writeState env key state hk).1 = none := by
  unfold writeState
  split
  · next err he =>
    obtain ⟨data, hd⟩ := hm state
    rw [hd] at he
    cases he
  · exact congrArg (Option.map _) (RaftStore.set_eq_none_iff.mpr hc)

/-- The address is no other service's: one from the pool is unmarked, and every registered one is marked. -/
lemma Kept.assigned (h : Kept parseCIDR cidr s) {service : Service} {ip : String} {pool : IPPool}
    (hv : if service.virtualIP = "" then s.given.lookup service.identity = none
      else (∀ id vip, s.given.lookup id = some vip → (vip = service.virtualIP ↔ id = service.identity)) ∧
        (s.psr.registry.ipPool.network.Offers service.virtualIP →
          s.given.lookup service.identity = some service.virtualIP))
    (hcase : service.virtualIP = "" ∧ s.psr.registry.ipPool.network.Offers ip ∧
        ip ∉ s.psr.registry.ipPool.allocated ∧ pool.allocated = insert ip s.psr.registry.ipPool.allocated ∨
      service.virtualIP ≠ "" ∧ ip = service.virtualIP ∧ pool.allocated = s.psr.registry.ipPool.allocated) :
    (∀ id vip, s.given.lookup id = some vip → (vip = ip ↔ id = service.identity)) ∧
      (s.psr.registry.ipPool.network.Offers ip → ip ∈ pool.allocated) ∧
      s.psr.registry.ipPool.allocated ⊆ pool.allocated := by
  rcases hcase with ⟨he, ho, hf, hal⟩ | ⟨he, rfl, hal⟩
  · rw [if_pos he] at hv
    rw [hal]
    refine ⟨?_, fun _ => Finset.mem_insert_self _ _, Finset.subset_insert _ _⟩
    intro id vip hg
    constructor
    · rintro rfl
      exact absurd (h.reserved hg ho) hf
    · rintro rfl
      rw [hv] at hg
      cases hg
  · rw [if_neg he] at hv
    rw [hal]
    exact ⟨hv.1, fun ho => h.reserved (hv.2 ho) ho, Finset.Subset.refl _⟩

lemma kept_registerService (h : Kept parseCIDR cidr s) {service : Service}
    (hm : ∀ state, ∃ data, codec.marshal state = .ok data) (hok : s.Orderly (.registerService env service)) :
    Kept parseCIDR cidr (s.step parseCIDR cidr (.registerService env service)) := by
  obtain ⟨hc, hsole, hv⟩ := hok
  rcases assign_cases service s.psr.registry.ipPool with ⟨err, ha⟩ | ⟨ip, pool, ha, hn, hcase⟩
  · have hs : s.psr.registerService env service = (some err, s.psr) := by
      rw [PersistentServiceRegistry.registerService, ServiceRegistry.registerService, ha]
      rfl
    rwa [step, givenAfter, call, hs]
  have hnone : (s.psr.registerService env service).1 = none := by
    rw [PersistentServiceRegistry.registerService, ServiceRegistry.registerService, ha]
    exact writeState_eq_none hm hc
  obtain ⟨ip', pool', ha', hr⟩ := registerService_eq_none hnone
  cases ha.symm.trans ha'
  obtain ⟨hown, hmark, hsub⟩ := h.assigned hv hcase
  have hgi : ∀ id, (s.givenAfter (.registerService env service)).lookup id =
      if id = service.identity then some ip else s.given.lookup id := by
    intro id
    simp only [givenAfter, hnone, ha]
    apply lookup_note
    intro vip hg
    exact (hown _ vip hg).mpr rfl
  have hl : ∀ key, ((s.psr.registerService env service).2.registry.services.lookup key).map label =
      if key = service.fullName then some (service.identity, ip)
      else (s.psr.registry.services.lookup key).map label := by
    intro key
    rw [hr, lookup_storeService]
    exact apply_ite _ _ _ _
  constructor
  · intro id vip
    refine (Eq.congr (hgi id) rfl).trans (Iff.trans ?_ Option.map_eq_some_iff)
    refine Iff.trans ?_ (Eq.congr (hl (Service.fullNameOf id)) rfl).symm
    by_cases hid : id = service.identity
    · rw [if_pos hid, if_pos (by rw [hid, Service.fullNameOf_identity]), hid]
      simp
    · rw [if_neg hid]
      by_cases hname : Service.fullNameOf id = service.fullName
      · rw [if_pos hname]
        constructor
        · intro hg
          exact absurd (hsole id vip hg hname) hid
        · intro he
          cases he
          exact absurd rfl hid
      · rw [if_neg hname, h.holds, Option.map_eq_some_iff]
  · intro id id' vip hg hg'
    have hg := (hgi id).symm.trans hg
    have hg' := (hgi id').symm.trans hg'
    split_ifs at hg hg' with hid hi' hi'
    · rw [hid, hi']
    · cases hg
      rw [hid, (hown id' ip hg').mp rfl]
    · cases hg'
      rw [hi', (hown id ip hg).mp rfl]
    · exact h.distinct hg hg'
  · exact h.recorded.saves (saves_registerService hnone)
  · intro key stored hs
    have hs' : (s.psr.registerService env service).2.registry.services.lookup key = some stored := hs
    rw [hr, lookup_storeService] at hs'
    split_ifs at hs'
    · cases hs'
      exact assign_ne_empty ha
    · exact h.addressed hs'
  · rw [step, call, hr, ipPool_storeService, hn]
    exact h.network
  · intro id vip hg ho
    have hg := (hgi id).symm.trans hg
    rw [step, call, hr, ipPool_storeService] at ho ⊢
    rw [hn] at ho
    split_ifs at hg
    · cases hg
      exact hmark ho
    · exact hsub (h.reserved hg ho)

lemma lookup_deregisterService {name ns key : String} : (sr.deregisterService name ns).services.lookup key =
      if key = getFullServiceName name ns then none else sr.services.lookup key := by
  rw [deregisterService_eq, lookup_removeService]

variable {name ns : String}

lemma sameLabels_deregisterService (h : SameLabels s.psr) (hm : ∀ state, ∃ data, codec.marshal state = .ok data)
    (hc : s.Committed env) : SameLabels (s.psr.deregisterService env name ns).2 := by
  cases hd : (s.psr.deregisterService env name ns).1 with
  | none => exact h.saves (saves_deregisterService hd)
  | some err =>
    -- only a record that is missing or unreadable makes the committed call fail, and then no such service is held
    have hgone : (s.psr.deregisterService env name ns).2.store = s.psr.store ∧
        liveRecord codec s.psr.store (getFullServiceName name ns) = none := by
      rw [PersistentServiceRegistry.deregisterService] at hd ⊢
      unfold markServiceDeleted at hd ⊢
      split at hd
      · next err he =>
        refine ⟨rfl, ?_⟩
        rw [liveRecord]
        cases hl : s.psr.store.fsm.data.lookup ("service:" ++ getFullServiceName name ns) with
        | none => rfl
        | some e => cases (get_of_recorded s.psr.recorded _ (hasPrefix_append _ _) hl).symm.trans he
      · next data hg =>
        split at hd
        · next err hu =>
          refine ⟨rfl, ?_⟩
          rw [liveRecord]
          cases hl : s.psr.store.fsm.data.lookup ("service:" ++ getFullServiceName name ns) with
          | none => rfl
          | some e =>
            cases (get_of_recorded s.psr.recorded (env.now 0) (hasPrefix_append _ _) hl).symm.trans hg
            rw [Option.bind_some, hu]
        · cases hd.symm.trans (writeState_eq_none hm hc)
    intro key
    rw [hgone.1, registry_deregisterService, lookup_deregisterService]
    split_ifs with hk
    · rw [hk, hgone.2]
      rfl
    · exact h key

lemma kept_deregisterService (h : Kept parseCIDR cidr s) (hm : ∀ state, ∃ data, codec.marshal state = .ok data)
    (hok : s.Orderly (.deregisterService env name ns)) :
    Kept parseCIDR cidr (s.step parseCIDR cidr (.deregisterService env name ns)) where
  holds := by
    intro id vip
    rw [step, givenAfter, lookup_erase_if, call, registry_deregisterService, lookup_deregisterService]
    by_cases hid : id = (name, orDefault ns)
    · have hname : Service.fullNameOf id = getFullServiceName name ns := by
        rw [hid]
        exact getFullServiceName_orDefault name ns
      rw [if_pos hid, if_pos hname]
      simp
    · rw [if_neg hid]
      by_cases hname : Service.fullNameOf id = getFullServiceName name ns
      · rw [if_pos hname]
        constructor
        · intro hg
          exact absurd (hok.2 id vip hg hname) hid
        · rintro ⟨service, hs, -⟩
          cases hs
      · rw [if_neg hname, h.holds]
  distinct := by
    intro id id' vip hg hg'
    rw [step, givenAfter, lookup_erase_if] at hg hg'
    split_ifs at hg hg'
    exact h.distinct hg hg'
  recorded := sameLabels_deregisterService h.recorded hm hok.1
  addressed := by
    intro key service hs
    rw [step, call, registry_deregisterService, lookup_deregisterService] at hs
    split_ifs at hs
    exact h.addressed hs
  network := by
    rw [step, call, registry_deregisterService, deregisterService_eq]
    cases s.psr.registry.virtualIPs.lookup (getFullServiceName name ns) <;> exact h.network
  reserved := by
    intro id vip hg ho
    rw [step, givenAfter, lookup_erase_if] at hg
    split_ifs at hg with hid
    rw [step, call, registry_deregisterService, deregisterService_eq] at ho ⊢
    have hvip := s.psr.registry.addressed (getFullServiceName name ns)
    cases hl : s.psr.registry.services.lookup (getFullServiceName name ns) with
    | none =>
      rw [hl, Option.map_none] at hvip
      rw [hvip] at ho ⊢
      exact h.reserved hg ho
    | some service =>
      rw [hl, Option.map_some] at hvip
      rw [hvip] at ho ⊢
      refine Finset.mem_erase.mpr ⟨?_, h.reserved hg ho⟩
      -- the released address is another service's: `service` alone has it, and it has the removed name
      rintro rfl
      have hname : Service.fullNameOf service.identity = getFullServiceName name ns := by
        rw [Service.fullNameOf_identity, s.psr.registry.keyed hl]
      have hown : s.given.lookup service.identity = some service.virtualIP :=
        h.holds.mpr ⟨service, by rw [hname, hl], rfl⟩
      rw [h.distinct hg hown] at hid
      exact hid (hok.2 _ _ hown hname)

lemma kept_step {op : RegistryOp} (hm : ∀ state, ∃ data, codec.marshal state = .ok data) (h : Kept parseCIDR cidr s)
    (ho : s.Orderly op) : Kept parseCIDR cidr (s.step parseCIDR cidr op) := by
  have hpersist : ∀ {r : ServiceRegistry} {env : CallEnv} {sn ns : String},
      (∀ key, (r.services.lookup key).map label = (s.psr.registry.services.lookup key).map label) →
      r.ipPool = s.psr.registry.ipPool →
      Kept parseCIDR cidr ⟨((s.psr.withRegistry r).persistNamed env sn ns).2, s.given⟩ := by
    intro r env sn ns hl hp
    have hr : ((s.psr.withRegistry r).persistNamed env sn ns).2.registry = r := registry_persistNamed
    refine kept_of_labels h ?_ ((h.recorded.withRegistry hl).persistNamed env sn ns) ?_ ?_
    · rw [hr]
      exact hl
    · rw [hr, hp]
    · rw [hr, hp]
      exact h.reserved
  cases op with
  | registerService env service => exact kept_registerService h hm ho
  | deregisterService env name ns => exact kept_deregisterService h hm ho
  | registerEndpoint env sn ns e =>
    exact hpersist (fun key => labels_registerEndpoint _) (ipPool_registerEndpoint _ _ _ _ e)
  | deregisterEndpoint env sn ns endpointID =>
    refine hpersist ?_ (ipPool_deregisterEndpoint sn ns endpointID _)
    intro key
    rw [services_deregisterEndpoint]
  | updateEndpointHealth env sn ns endpointID health =>
    rw [step, call, PersistentServiceRegistry.updateEndpointHealth]
    rcases s.psr.registry.updateEndpointHealth_cases sn ns endpointID health with ⟨err, hr⟩ | ⟨old, new, -, -, hr⟩
    · rw [hr]
      exact h
    · rw [hr]
      exact hpersist (fun key => rfl) rfl
  | updateEndpoints now sn es =>
    have hp := @ipPool_updateEndpoints sn "default" now s.psr.registry es
    refine kept_of_labels h (labels_updateEndpoints _) (h.recorded.withRegistry (labels_updateEndpoints _)) ?_ ?_
    · rw [call, withRegistry, hp]
    · rw [call, withRegistry, hp]
      exact h.reserved
  | restart env =>
    rw [step, call]
    cases hnew : newPersistentServiceRegistry parseCIDR cidr env s.psr.store s.psr.recorded with
    | error err => exact h
    | ok psr =>
      obtain ⟨hst, hp, hl⟩ := labels_restart h hnew
      obtain ⟨pool, hp', hn⟩ := h.network
      cases hp.symm.trans hp'
      refine kept_of_labels h hl ?_ hn.symm ?_
      · intro key
        rw [hl, hst, h.recorded]
      · intro id vip hg hoff
        exact absurd hoff (ho id vip hg)

lemma kept_new {env : LoadEnv} {sto : RaftStore V} {r : Recorded codec sto}
    (hnew : newPersistentServiceRegistry parseCIDR cidr env sto r = .ok psr)
    (he : ∀ key, hasPrefix key "service:" = true → sto.fsm.data.lookup key = none) :
    Kept parseCIDR cidr ⟨psr, ∅⟩ := by
  obtain ⟨re, hr, hreg, hst⟩ := newPersistentServiceRegistry_eq_ok hnew
  obtain ⟨hempty, hp⟩ := newServiceRegistry_eq_ok hr
  have hlive : ∀ key, liveRecord codec sto key = none := by
    intro key
    rw [liveRecord, he _ (hasPrefix_append _ _), Option.bind_none]
  have hvip : ∀ key state, liveRecord codec sto key = some state → state.service.virtualIP ≠ "" := by
    intro key state hl
    rw [hlive] at hl
    cases hl
  have hnone : ∀ key, psr.registry.services.lookup key = none := by
    intro key
    have hv := congrArg Prod.fst (view_loadFromRAFT r hvip env (view_of_empty hempty) key)
    rw [hlive, view] at hv
    rw [hreg]
    exact Option.map_eq_none_iff.mp hv
  refine ⟨?_, ?_, ?_, ?_, ⟨re.ipPool, hp, ?_⟩, ?_⟩
  · intro id vip
    rw [hnone]
    simp
  · intro id id' vip hg
    cases hg
  · intro key
    rw [hst, hlive, hnone]
    rfl
  · intro key service hs
    rw [hnone] at hs
    cases hs
  · rw [hreg, ipPool_loadFromRAFT r hvip]
  · intro id vip hg
    cases hg

theorem virtual_ips_unique_stable {env : LoadEnv} {store : RaftStore V} {recorded : Recorded codec store}
    {psr : PersistentServiceRegistry codec} (hmarshal : ∀ state, ∃ data, codec.marshal state = .ok data)
    (hnew : newPersistentServiceRegistry parseCIDR cidr env store recorded = .ok psr)
    (hempty : ∀ key, hasPrefix key "service:" = true → store.fsm.data.lookup key = none) (ops : List RegistryOp)
    (horderly : Admissible (step parseCIDR cidr) Orderly ⟨psr, ∅⟩ ops) (n : ℕ) :
    Sound (run (step parseCIDR cidr) ⟨psr, ∅⟩ (ops.take n)) := by
  have hn : Admissible (step parseCIDR cidr) Orderly ⟨psr, ∅⟩ (ops.take n) := by
    rw [← ops.take_append_drop n, admissible_append] at horderly
    exact horderly.1
  have hstep : ∀ (s : Addressing codec) op, Kept parseCIDR cidr s → s.Orderly op →
      Kept parseCIDR cidr (s.step parseCIDR cidr op) := by
    intro s op h ho
    exact kept_step hmarshal h ho
  exact (run_invariant _ hstep _ (kept_new hnew hempty) hn).sound

def reopenedOps : List RegistryOp :=
  [.registerService calmCall (bareService "api" "" "fd00::1"), .restart calmLoad,
    .registerService calmCall (bareService "web" "" "")]

lemma given_reopenedOps {n : ℕ} (h : 0 < n) (hn : n < 3) : (run (step (fun _ => .ok serviceNet) "") ⟨freshRegistry, ∅⟩
    (reopenedOps.take n)).given = (∅ : FMap (String × String) String).insert ("api", "default") "fd00::1" := by
  interval_cases n <;> decide +kernel

theorem virtual_ips_unique_stable_reopened :
    Sound (run (step (fun _ => .ok serviceNet) "") ⟨freshRegistry, ∅⟩ (reopenedOps.take 3)) ∧
      (run (step (fun _ => .ok serviceNet) "") ⟨freshRegistry, ∅⟩ reopenedOps).given.lookup ("web", "default") =
        some "10.96.0.1" := by
  have hapi : ∀ {n : ℕ}, 0 < n → n < 3 → ∀ id vip, (run (step (fun _ => .ok serviceNet) "") ⟨freshRegistry, ∅⟩
      (reopenedOps.take n)).given.lookup id = some vip → id = ("api", "default") ∧ vip = "fd00::1" := by
    intro n h hn id vip hg
    rw [given_reopenedOps h hn, lookup_insert_if] at hg
    split_ifs at hg with hid
    · cases hg
      exact ⟨hid, rfl⟩
    · cases hg
  refine ⟨virtual_ips_unique_stable (fun state => ⟨state, rfl⟩) freshRegistry_new (fun key _ => lookup_emptyStore key)
    reopenedOps ⟨⟨⟨rfl, rfl⟩, ?_, ?_, ?_⟩, ?_, ⟨⟨by decide +kernel, rfl⟩, ?_, ?_⟩, trivial⟩ 3,
    by decide +kernel⟩
  · intro id vip hg
    cases hg
  · intro id vip hg
    cases hg
  · intro ho
    exact absurd ho serviceNet_not_offers
  · intro id vip hg
    obtain ⟨-, rfl⟩ := hapi (show 0 < 1 by decide) (by decide) id vip hg
    exact serviceNet_not_offers
  · intro id vip hg hname
    obtain ⟨rfl, -⟩ := hapi (show 0 < 2 by decide) (by decide) id vip hg
    exact absurd hname (by decide +kernel)
  · rw [if_pos (by decide)]
    decide +kernel

theorem restart_gives_address_twice : ((run (step (fun _ => .ok serviceNet) "") ⟨freshRegistry, ∅⟩
      [.registerService calmCall (bareService "web" "" ""), .restart calmLoad,
        .registerService calmCall (bareService "api" "" "")]).psr.registry.resolveService "web" "").toOption =
          some "10.96.0.1" ∧ ((run (step (fun _ => .ok serviceNet) "") ⟨freshRegistry, ∅⟩
      [.registerService calmCall (bareService "web" "" ""), .restart calmLoad,
        .registerService calmCall (bareService "api" "" "")]).psr.registry.resolveService "api" "").toOption =
          some "10.96.0.1" ∧
    ((run (step (fun _ => .ok serviceNet) "") ⟨freshRegistry, ∅⟩ [.registerService calmCall (bareService "web" "" ""),
        .registerService calmCall (bareService "web" "" "")]).psr.registry.resolveService "web" "").toOption =
          some "10.96.0.2" := by
  refine ⟨?_, ?_, ?_⟩ <;> decide +kernel

end Addressing

end Cloudless.Overlay
