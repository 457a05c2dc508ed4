import Cloudless.Foundations.Runs
import Cloudless.Membership.Manager

/-! The way of an assignment from the queue of its node into a heartbeat response, which may not arrive. -/

namespace Cloudless.Membership

open Foundations FiniteMaps GoStd Runs

variable {A : Type}

namespace Manager

def pendingFor (m : Manager A) (id : String) : List A := (m.pendingAssignments.lookup id).getD []

lemma queueAssignment_cases {m m' : Manager A} {nodeID : String} {a : A} {r : Except String Unit}
    (h : m.queueAssignment nodeID a = (r, m')) : (∃ err, r = .error err) ∧ m' = m ∨ r = .ok () ∧
      ∀ id, m'.pendingFor id = if id = nodeID then m.pendingFor nodeID ++ [a] else m.pendingFor id := by
  rw [queueAssignment] at h
  split at h
  · cases h
    exact .inl ⟨⟨_, rfl⟩, rfl⟩
  · cases h
    refine .inr ⟨rfl, ?_⟩
    intro id
    rw [pendingFor, lookup_insert_if]
    split_ifs <;> rfl

lemma queueCommand_pendingFor (m : Manager A) (nodeID c : String) :
    (m.queueCommand nodeID c).2.pendingFor = m.pendingFor := by
  funext id
  rw [queueCommand]
  split <;> rfl

lemma processHeartbeat_cases {m m' : Manager A} {now : Time} {req : HeartbeatRequest}
    {re : Except String (HeartbeatResponse A)} (h : m.processHeartbeat now req = (re, m')) :
    (∃ err, re = .error err) ∧ m' = m ∨ ∃ r, re = .ok r ∧ r.assignments = m.pendingFor req.nodeId ∧
      ∀ id, m'.pendingFor id = if id = req.nodeId then [] else m.pendingFor id := by
  rw [processHeartbeat] at h
  split at h
  · cases h
    exact .inl ⟨⟨_, rfl⟩, rfl⟩
  · cases h
    refine .inr ⟨_, rfl, rfl, ?_⟩
    intro id
    rw [pendingFor, lookup_erase_if]
    split_ifs <;> rfl

end Manager

/-- The manager, with every assignment numbered as it is accepted, and what has become of them. -/
structure Deliveries (A : Type) where
  manager : Manager (ℕ × A)
  next : ℕ := 0
  accepted : String → List (ℕ × A) := fun _ => []
  delivered : String → List (ℕ × A) := fun _ => []
  lost : String → List (ℕ × A) := fun _ => []

inductive Message (A : Type)
  | queueAssignment (nodeID : String) (assignment : A)
  | queueCommand (nodeID command : String)
  | heartbeat (now : Time) (req : HeartbeatRequest) (arrives : Bool)

def extend (histories : String → List (ℕ × A)) (id : String) (assignments : List (ℕ × A)) : String → List (ℕ × A) :=
  Function.update histories id (histories id ++ assignments)

namespace Deliveries

def step (d : Deliveries A) : Message A → Deliveries A
  | .queueAssignment nodeID assignment =>
    match d.manager.queueAssignment nodeID (d.next, assignment) with
    | (.error _, manager) => { d with manager := manager }
    | (.ok _, manager) =>
      { d with
        manager := manager
        next := d.next + 1
        accepted := extend d.accepted nodeID [(d.next, assignment)] }
  | .queueCommand nodeID command => { d with manager := (d.manager.queueCommand nodeID command).2 }
  | .heartbeat now req arrives =>
    match d.manager.processHeartbeat now req with
    | (.error _, manager) => { d with manager := manager }
    | (.ok response, manager) =>
      if arrives then { d with manager := manager, delivered := extend d.delivered req.nodeId response.assignments }
      else { d with manager := manager, lost := extend d.lost req.nodeId response.assignments }

/-- Every accepted assignment is pending or has been delivered, to its own node, in the order of the queue, and once. -/
structure Reliable (d : Deliveries A) : Prop where
  kept : ∀ id, ∀ a ∈ d.accepted id, a ∈ d.manager.pendingFor id ∨ a ∈ d.delivered id
  own : ∀ id id', ∀ a ∈ d.accepted id, a ∈ d.delivered id' → id' = id
  ordered : ∀ id, (d.delivered id).Sublist (d.accepted id)
  once : ∀ id, (d.delivered id).Nodup

structure Accounted (d : Deliveries A) : Prop where
  perm : ∀ id, (d.accepted id).Perm (d.delivered id ++ d.lost id ++ d.manager.pendingFor id)
  ordered : ∀ id, (d.delivered id ++ d.manager.pendingFor id).Sublist (d.accepted id)
  nodup : ∀ id, (d.accepted id).Nodup
  numbered : ∀ id, ∀ a ∈ d.accepted id, a.1 < d.next
  own : ∀ id id', ∀ a ∈ d.accepted id, a ∈ d.accepted id' → id' = id

variable {d : Deliveries A}

lemma Accounted.reliable_iff (h : d.Accounted) : d.Reliable ↔ ∀ id, d.lost id = [] := by
  constructor
  · intro hr id
    rw [List.eq_nil_iff_forall_not_mem]
    intro a ha
    have hno := (h.perm id).nodup_iff.mp (h.nodup id)
    have hacc : a ∈ d.accepted id := (h.perm id).mem_iff.mpr (by simp [ha])
    rw [List.append_assoc, List.nodup_append, List.nodup_append] at hno
    obtain ⟨-, ⟨-, -, hl⟩, hde⟩ := hno
    rcases hr.kept id a hacc with hp | hd
    · exact hl a ha a hp rfl
    · exact hde a hd a (List.mem_append_left _ ha) rfl
  · intro hl
    have hs : ∀ id, (d.delivered id).Sublist (d.accepted id) := fun id =>
      (List.sublist_append_left _ _).trans (h.ordered id)
    refine ⟨?_, ?_, hs, fun id => (h.nodup id).sublist (hs id)⟩
    · intro id a ha
      have hm := (h.perm id).mem_iff.mp ha
      rw [hl id, List.append_nil, List.mem_append] at hm
      exact hm.symm
    · intro id id' a ha hd
      exact h.own id id' a ha ((hs id').subset hd)

lemma extend_apply {his : String → List (ℕ × A)} {id id' : String} {a : List (ℕ × A)} :
    extend his id a id' = if id' = id then his id' ++ a else his id' := by
  rw [extend, Function.update_apply]
  split_ifs with hid
  · rw [hid]
  · rfl

variable {m : Manager (ℕ × A)} {nodeID : String}

lemma Accounted.accept (h : d.Accounted) {assignment : A}
    (hm : ∀ id, m.pendingFor id = if id = nodeID then d.manager.pendingFor nodeID ++ [(d.next, assignment)]
      else d.manager.pendingFor id) : Accounted { d with
      manager := m
      next := d.next + 1
      accepted := extend d.accepted nodeID [(d.next, assignment)] } := by
  have hmem : ∀ id, ∀ a ∈ extend d.accepted nodeID [(d.next, assignment)] id,
      a ∈ d.accepted id ∨ id = nodeID ∧ a = (d.next, assignment) := by
    intro id a ha
    rw [extend_apply] at ha
    split_ifs at ha with hid
    · exact (List.mem_append.mp ha).imp_right fun ha => ⟨hid, List.mem_singleton.mp ha⟩
    · exact .inl ha
  have hf : ∀ id, (d.next, assignment) ∉ d.accepted id := fun id ha => lt_irrefl _ (h.numbered id _ ha)
  refine ⟨?_, ?_, ?_, ?_, ?_⟩
  · intro id
    dsimp only
    rw [hm, extend_apply]
    split_ifs with hid
    · rw [← hid, ← List.append_assoc]
      exact (h.perm id).append_right _
    · exact h.perm id
  · intro id
    dsimp only
    rw [hm, extend_apply]
    split_ifs with hid
    · rw [← hid, ← List.append_assoc]
      exact (h.ordered id).append_right _
    · exact h.ordered id
  · intro id
    dsimp only
    rw [extend_apply]
    split_ifs
    · exact List.Nodup.append (h.nodup id) (List.nodup_singleton _) (List.disjoint_singleton.mpr (hf id))
    · exact h.nodup id
  · intro id a ha
    rcases hmem id a ha with ha | ⟨-, rfl⟩
    · exact Nat.lt_succ_of_lt (h.numbered id a ha)
    · exact Nat.lt_succ_self _
  · intro id id' a ha ha'
    rcases hmem id a ha with ha | ⟨hid, rfl⟩ <;> rcases hmem id' _ ha' with ha' | ⟨hi', he⟩
    · exact h.own id id' a ha ha'
    · rw [he] at ha
      exact absurd ha (hf id)
    · exact absurd ha' (hf id')
    · rw [hid, hi']

lemma Accounted.deliver (h : d.Accounted)
    (hm : ∀ id, m.pendingFor id = if id = nodeID then [] else d.manager.pendingFor id) : Accounted { d with
      manager := m
      delivered := extend d.delivered nodeID (d.manager.pendingFor nodeID) } := by
  refine ⟨?_, ?_, h.nodup, h.numbered, h.own⟩
  · intro id
    dsimp only
    rw [hm, extend_apply]
    split_ifs with hid
    · rw [← hid, List.append_nil]
      refine (h.perm id).trans ?_
      rw [List.append_assoc, List.append_assoc]
      exact List.perm_append_comm.append_left _
    · exact h.perm id
  · intro id
    dsimp only
    rw [hm, extend_apply]
    split_ifs with hid
    · rw [← hid, List.append_nil]
      exact h.ordered id
    · exact h.ordered id

lemma Accounted.lose (h : d.Accounted)
    (hm : ∀ id, m.pendingFor id = if id = nodeID then [] else d.manager.pendingFor id) : Accounted { d with
      manager := m
      lost := extend d.lost nodeID (d.manager.pendingFor nodeID) } := by
  refine ⟨?_, ?_, h.nodup, h.numbered, h.own⟩
  · intro id
    dsimp only
    rw [hm, extend_apply]
    split_ifs with hid
    · rw [← hid, List.append_nil, ← List.append_assoc]
      exact h.perm id
    · exact h.perm id
  · intro id
    dsimp only
    rw [hm]
    split_ifs
    · rw [List.append_nil]
      exact (List.sublist_append_left _ _).trans (h.ordered id)
    · exact h.ordered id

def Received (d : Deliveries A) : Message A → Prop
  | .heartbeat now req false => ∀ response, (d.manager.processHeartbeat now req).1 = .ok response →
    response.assignments = []
  | _ => True

lemma step_accounted (h : d.Accounted) {me : Message A} : (d.step me).Accounted := by
  cases me with
  | queueAssignment nodeID a =>
    rw [step]
    have hca := Manager.queueAssignment_cases
      (Prod.mk.eta (p := d.manager.queueAssignment nodeID (d.next, a))).symm
    generalize d.manager.queueAssignment nodeID (d.next, a) = answer at hca ⊢
    obtain ⟨r, m⟩ := answer
    rcases hca with ⟨⟨err, rfl⟩, rfl⟩ | ⟨rfl, hm⟩
    · exact h
    · exact h.accept hm
  | queueCommand nodeID c =>
    have hm := d.manager.queueCommand_pendingFor nodeID c
    refine ⟨?_, ?_, h.nodup, h.numbered, h.own⟩
    · rw [step, hm]
      exact h.perm
    · rw [step, hm]
      exact h.ordered
  | heartbeat now req ar =>
    rw [step]
    have hca := Manager.processHeartbeat_cases (Prod.mk.eta (p := d.manager.processHeartbeat now req)).symm
    generalize d.manager.processHeartbeat now req = answer at hca ⊢
    obtain ⟨r, m⟩ := answer
    rcases hca with ⟨⟨err, rfl⟩, rfl⟩ | ⟨re, rfl, hr, hm⟩
    · exact h
    · dsimp only
      rw [hr]
      split_ifs
      · exact h.deliver hm
      · exact h.lose hm

variable {req : HeartbeatRequest}

lemma lost_heartbeat_of_error {now : Time} {err : String}
    (h : (d.manager.processHeartbeat now req).1 = .error err) {a : Bool} :
    (d.step (.heartbeat now req a)).lost = d.lost := by
  rw [step]
  split
  · rfl
  · next r m he =>
    rw [he] at h
    cases h

lemma lost_heartbeat_of_ok {now : Time} {r : HeartbeatResponse (ℕ × A)}
    (h : (d.manager.processHeartbeat now req).1 = .ok r) :
    (d.step (.heartbeat now req false)).lost = extend d.lost req.nodeId r.assignments := by
  rw [step]
  split
  · next err m he =>
    rw [he] at h
    cases h
  · next r' m he =>
    rw [he] at h
    cases h
    rfl

lemma step_lost_iff (h : ∀ id, d.lost id = []) {message : Message A} :
    (∀ id, (d.step message).lost id = []) ↔ d.Received message := by
  cases message with
  | queueAssignment nodeID assignment =>
    refine iff_of_true ?_ trivial
    rw [step]
    split <;> exact h
  | queueCommand nodeID command => exact iff_of_true h trivial
  | heartbeat now req arrives =>
    cases hr : (d.manager.processHeartbeat now req).1 with
    | error err =>
      rw [lost_heartbeat_of_error hr]
      cases arrives with
      | true => exact iff_of_true h trivial
      | false =>
        refine iff_of_true h fun response hok => ?_
        rw [hr] at hok
        cases hok
    | ok response =>
      cases arrives with
      | true =>
        refine iff_of_true ?_ trivial
        rw [step]
        split <;> exact h
      | false =>
        rw [lost_heartbeat_of_ok hr]
        constructor
        · intro hl response' hok
          rw [hr] at hok
          cases hok
          have hs := hl req.nodeId
          rwa [extend_apply, if_pos rfl, h, List.nil_append] at hs
        · intro hre id
          rw [extend, hre response hr, List.append_nil, Function.update_eq_self]
          exact h id

theorem reliable_delivery_iff (m : Manager (ℕ × A)) (hm : m.pendingAssignments = ∅) (messages : List (Message A)) :
    (∀ n, (run step { manager := m } (messages.take n)).Reliable) ↔
      Admissible step Received { manager := m } messages := by
  have hs : Accounted { manager := m } := by
    have hnone : m.pendingFor = fun _ => [] := by
      funext id
      rw [Manager.pendingFor, hm]
      rfl
    refine ⟨?_, ?_, ?_, ?_, ?_⟩ <;> simp [hnone]
  apply property_take_iff (fun d : Deliveries A => d.Accounted ∧ ∀ id, d.lost id = []) Reliable
    (fun d h => h.1.reliable_iff.mpr h.2) _ _ messages ⟨hs, fun _ => rfl⟩
    (admissible_of_forall (fun _ => True) messages (fun _ _ => trivial) _)
  · intro d me h _ hr
    exact ⟨step_accounted h.1, (step_lost_iff h.2).mpr hr⟩
  · intro d me h _ hre
    exact (step_lost_iff h.2).mp ((step_accounted h.1).reliable_iff.mp hre)

theorem reliable_delivery_lost : (Manager.oneNode (ℕ × String)).pendingAssignments = ∅ ∧
    ((∀ n, (run step { manager := .oneNode _ } (([.queueAssignment "n1" "web", .heartbeat 0 { nodeId := "n1" } false] :
        List (Message String)).take n)).Reliable) ↔ Admissible step Received { manager := .oneNode _ }
        [.queueAssignment "n1" "web", .heartbeat 0 { nodeId := "n1" } false]) :=
  ⟨rfl, reliable_delivery_iff (.oneNode _) rfl _⟩

theorem lost_response_loses_assignment :
    (run step { manager := .oneNode _ } [.queueAssignment "n1" "web", .heartbeat 0 { nodeId := "n1" } false]).accepted "n1" =
      [(0, "web")] ∧ (run step { manager := .oneNode _ } [.queueAssignment "n1" "web",
      .heartbeat 0 { nodeId := "n1" } false]).manager.pendingFor "n1" = [] ∧
    (run step { manager := .oneNode _ } [.queueAssignment "n1" "web",
      .heartbeat 0 { nodeId := "n1" } false]).delivered "n1" = [] := by
  decide +kernel

end Deliveries

end Cloudless.Membership
