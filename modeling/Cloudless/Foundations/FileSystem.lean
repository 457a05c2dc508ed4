import Cloudless.Foundations.FiniteMaps
import Cloudless.Foundations.GoStd

/-! A file system of directories and files: the operations on it, and the part of it that an operation reads and
writes. -/

namespace Cloudless.Foundations.FileSystem

open FiniteMaps GoStd

abbrev Path := List String

inductive Node
  | dir
  | file (data : Bytes)
  deriving DecidableEq

abbrev Files := FMap Path Node

def elements (name : String) : List String := (name.toList.splitOn '/').map String.ofList

variable (p : Path)

def descend (element : String) : Path :=
  if element = "" ∨ element = "." then p
  else if element = ".." then p.dropLast
  else p ++ [element]

def join (name : String) : Path := (elements name).foldl descend p

def Plain (name : String) : Prop := '/' ∉ name.toList ∧ name ≠ "" ∧ name ≠ "." ∧ name ≠ ".."

instance (name : String) : Decidable (Plain name) := inferInstanceAs (Decidable (_ ∧ _ ∧ _ ∧ _))

lemma join_of_plain {n : String} (h : Plain n) : join p n = p ++ [n] := by
  have he : elements n = [n] := by
    have hs : n.toList.splitOn '/' = [n.toList] := by
      apply List.splitOnP_eq_singleton
      intro c hc
      exact beq_false_of_ne fun hsl => h.1 (hsl ▸ hc)
    rw [elements, hs, List.map_singleton, String.ofList_toList]
  rw [join, he, List.foldl_cons, List.foldl_nil, descend, if_neg (not_or.mpr ⟨h.2.1, h.2.2.1⟩), if_neg h.2.2.2]

def pathError (operation : String) (p : Path) (err : String) : String :=
  operation ++ " /" ++ "/".intercalate p ++ ": " ++ err

structure Faults where
  (mkdir read write : Path → Option String)

def mkdirEach (faults : Faults) : List Path → Files → Files × Option String
  | [], fs => (fs, none)
  | p :: ps, fs =>
    match fs.lookup p with
    | some .dir => mkdirEach faults ps fs
    | some (.file _) => (fs, some (pathError "mkdir" p "not a directory"))
    | none =>
      match faults.mkdir p with
      | some err => (fs, some (pathError "mkdir" p err))
      | none => mkdirEach faults ps (fs.insert p .dir)

def mkdirAll (faults : Faults) (p : Path) (fs : Files) : Files × Option String := mkdirEach faults p.inits.tail fs

def removeAll (fault : Option (String × (Path → Bool))) (root : Path) (fs : Files) : Files × Option String :=
  match fault with
  | none => (filterMap (fun p node => if ¬root <+: p then some node else none) fs, none)
  | some (err, kept) => (filterMap (fun p node => if ¬(root <+: p ∧ ¬kept p) then some node else none) fs, some err)

def readFile (faults : Faults) (p : Path) (fs : Files) : Except String Bytes :=
  match faults.read p, fs.lookup p with
  | some err, _ => .error (pathError "open" p err)
  | none, none => .error (pathError "open" p "no such file or directory")
  | none, some .dir => .error (pathError "read" p "is a directory")
  | none, some (.file data) => .ok data

def writeFile (faults : Faults) (p : Path) (data : Bytes) (fs : Files) : Files × Option String :=
  match faults.write p with
  | some err => (fs, some (pathError "open" p err))
  | none =>
    if fs.lookup p.dropLast ≠ some .dir then (fs, some (pathError "open" p "no such file or directory"))
    else if fs.lookup p = some .dir then (fs, some (pathError "open" p "is a directory"))
    else (fs.insert p (.file data), none)

def childNames (fs : Files) : Finset String :=
  (fs.keys.filter fun q => q ≠ [] ∧ q.dropLast = p).image fun q => q.getLastD ""

def readDirNames (fs : Files) : List String := sortedNames (childNames p fs)

lemma mem_childNames {p : Path} {fs : Files} {name : String} :
    name ∈ childNames p fs ↔ ∃ node, fs.lookup (p ++ [name]) = some node := by
  rw [childNames, Finset.mem_image]
  constructor
  · rintro ⟨q, hq, hl⟩
    rw [Finset.mem_filter, Finmap.mem_keys, Finmap.mem_iff] at hq
    obtain ⟨hnode, hne, hp⟩ := hq
    rcases List.eq_nil_or_concat q with rfl | ⟨pa, last, rfl⟩
    · exact absurd rfl hne
    · rw [List.concat_eq_append] at hp hl hnode
      rw [List.dropLast_concat] at hp
      rw [List.getLastD_concat] at hl
      rwa [← hp, ← hl]
  · intro hnode
    refine ⟨p ++ [name], ?_, by simp⟩
    rw [Finset.mem_filter, Finmap.mem_keys, Finmap.mem_iff]
    exact ⟨hnode, by simp, by simp⟩

def eachName {σ : Type} (body : String → σ → σ × Option String) : List String → σ → σ × Option String
  | [], s => (s, none)
  | name :: names, s =>
    match body name s with
    | (s, some err) => (s, some err)
    | (s, none) => eachName body names s

section Walk

variable {σ : Type} (files : σ → Files) (visit : Path → Node → σ → σ × Option String)

/-- `filepath.Walk` for a function that passes errors on. The names in a directory are read before it is visited; names
nest no deeper than the system allows. -/
def walk : ℕ → Path → σ → σ × Option String
  | 0, p, s => (s, some (pathError "lstat" p "file name too long"))
  | depth + 1, p, s =>
    match (files s).lookup p with
    | none => (s, some (pathError "lstat" p "no such file or directory"))
    | some (.file data) => visit p (.file data) s
    | some .dir =>
      let names := readDirNames p (files s)
      match visit p .dir s with
      | (s, some err) => (s, some err)
      | (s, none) => eachName (fun name => walk depth (p ++ [name])) names s

variable {files visit}

lemma walk_congr {root : Path} (same : σ → σ → Prop)
    (hf : ∀ s s', same s s' → ∀ q, root <+: q → (files s).lookup q = (files s').lookup q)
    (hv : ∀ p node s s', root <+: p → same s s' →
      (visit p node s).2 = (visit p node s').2 ∧ same (visit p node s).1 (visit p node s').1)
    (d : ℕ) (p : Path) (hp : root <+: p) (s s' : σ) (hs : same s s') :
    (walk files visit d p s).2 = (walk files visit d p s').2 ∧
      same (walk files visit d p s).1 (walk files visit d p s').1 := by
  induction d generalizing p s s' with
  | zero => exact ⟨rfl, hs⟩
  | succ d ih =>
    have he : ∀ (ns : List String) (s s' : σ), same s s' →
        (eachName (fun name => walk files visit d (p ++ [name])) ns s).2 =
          (eachName (fun name => walk files visit d (p ++ [name])) ns s').2 ∧
        same (eachName (fun name => walk files visit d (p ++ [name])) ns s).1
          (eachName (fun name => walk files visit d (p ++ [name])) ns s').1 := by
      intro ns
      induction ns with
      | nil =>
        intro s s' hs
        exact ⟨rfl, hs⟩
      | cons name ns ihn =>
        intro s s' hs
        have ho := ih (p ++ [name]) (hp.trans (List.prefix_append p [name])) s s' hs
        rw [eachName, eachName]
        revert ho
        cases walk files visit d (p ++ [name]) s with
        | mk t err =>
          cases walk files visit d (p ++ [name]) s' with
          | mk t' err' =>
            rintro ⟨rfl, ht⟩
            cases err with
            | some err => exact ⟨rfl, ht⟩
            | none => exact ihn t t' ht
    have hna : readDirNames p (files s) = readDirNames p (files s') := by
      rw [readDirNames, readDirNames]
      congr 1
      ext name
      rw [mem_childNames, mem_childNames, hf s s' hs _ (hp.trans (List.prefix_append p [name]))]
    rw [walk, walk, hna, hf s s' hs p hp]
    cases (files s').lookup p with
    | none => exact ⟨rfl, hs⟩
    | some node =>
      cases node with
      | file data => exact hv p (.file data) s s' hp hs
      | dir =>
        have hdir := hv p .dir s s' hp hs
        dsimp only
        revert hdir
        cases visit p .dir s with
        | mk t err =>
          cases visit p .dir s' with
          | mk t' err' =>
            rintro ⟨rfl, ht⟩
            cases err with
            | some err => exact ⟨rfl, ht⟩
            | none => exact he _ t t' ht

end Walk

section Confinement

def SameOn (region : Set Path) (fs fs' : Files) : Prop := ∀ p ∈ region, fs.lookup p = fs'.lookup p

/-- An operation that changes nothing outside a region, and whose outcome does not depend on anything outside. -/
structure Confined {α : Type} (region : Set Path) (f : Files → Files × α) : Prop where
  frame : ∀ fs p, p ∉ region → (f fs).1.lookup p = fs.lookup p
  congr : ∀ fs fs', SameOn region fs fs' → (f fs).2 = (f fs').2 ∧ SameOn region (f fs).1 (f fs').1

variable {α β : Type} {region : Set Path}

lemma confined_pure (a : α) : Confined region fun fs => (fs, a) := ⟨fun _ _ _ => rfl, fun _ _ h => ⟨rfl, h⟩⟩

variable {f : Files → Files × α} (faults : Faults) {fs : Files} {p} {g : α → Files → Files × β}

lemma Confined.bind (hf : Confined region f) (hg : ∀ a, Confined region (g a)) :
    Confined region fun fs => g (f fs).2 (f fs).1 := by
  refine ⟨?_, ?_⟩
  · intro fs p hp
    rw [(hg _).frame _ p hp, hf.frame fs p hp]
  · intro fs fs' h
    obtain ⟨ha, hfs⟩ := hf.congr fs fs' h
    rw [ha]
    exact (hg _).congr _ _ hfs

lemma Confined.of_eq {f' : Files → Files × α} (hf : Confined region f) (h : ∀ fs, f' fs = f fs) :
    Confined region f' := by
  rwa [funext h]

lemma Confined.map (hf : Confined region f) (g : α → β) : Confined region fun fs => ((f fs).1, g (f fs).2) :=
  hf.bind (g := fun a fs => (fs, g a)) fun a => confined_pure (g a)

lemma Confined.onError {f : Files → Files × Option α} (hf : Confined region f)
    (hg : ∀ err, Confined region (g err)) {h : Files → Files × β} (hh : Confined region h) {k : Files → Files × β}
    (hk : ∀ fs, k fs = (f fs).2.elim (h (f fs).1) fun err => g err (f fs).1) : Confined region k := by
  have hb := hf.bind (g := fun a fs => a.elim (h fs) fun err => g err fs) fun a => by
    cases a with
    | none => exact hh
    | some err => exact hg err
  exact hb.of_eq hk

lemma confined_read {r : Files → α} (h : ∀ fs fs', SameOn region fs fs' → r fs = r fs') (g : α → β) :
    Confined region fun fs => (fs, g (r fs)) :=
  ⟨fun _ _ _ => rfl, fun fs fs' hs => ⟨congrArg g (h fs fs' hs), hs⟩⟩

lemma SameOn.insert {fs' : Files} (h : SameOn region fs fs') (p : Path) (n : Node) :
    SameOn region (fs.insert p n) (fs'.insert p n) := by
  intro q hq
  rw [lookup_insert_if, lookup_insert_if, h q hq]

lemma frame_insert {q : Path} (hp : p ∈ region) (hq : q ∉ region) {n : Node} :
    (fs.insert p n).lookup q = fs.lookup q := by
  rw [lookup_insert_if, if_neg]
  rintro rfl
  exact hq hp

lemma confined_mkdirEach {ps : List Path} (hps : ∀ p ∈ ps, p ∈ region) : Confined region (mkdirEach faults ps) := by
  induction ps with
  | nil => exact confined_pure none
  | cons p ps ih =>
    have hp : p ∈ region := hps p (List.mem_cons_self ..)
    have hr := ih fun q hq => hps q (List.mem_cons_of_mem _ hq)
    refine ⟨?_, ?_⟩
    · intro fs q hq
      rw [mkdirEach]
      split
      · exact hr.frame fs q hq
      · rfl
      · split
        · rfl
        · rw [hr.frame _ q hq, frame_insert hp hq]
    · intro fs fs' h
      rw [mkdirEach, mkdirEach, h p hp]
      split
      · exact hr.congr fs fs' h
      · exact ⟨rfl, h⟩
      · split
        · exact ⟨rfl, h⟩
        · exact hr.congr _ _ (h.insert p .dir)

lemma confined_mkdirAll (hp : ∀ q, q ≠ [] → q <+: p → q ∈ region) : Confined region (mkdirAll faults p) := by
  apply confined_mkdirEach
  intro q hq
  refine hp q ?_ ((List.mem_inits q p).mp (List.mem_of_mem_tail hq))
  cases p with
  | nil => cases hq
  | cons n p =>
    rw [List.inits_cons, List.tail_cons] at hq
    obtain ⟨q', -, rfl⟩ := List.mem_map.mp hq
    exact List.cons_ne_nil _ _

lemma lookup_mkdirAll_child (p : Path) (files : Files) (n : String) :
    (mkdirAll faults p files).1.lookup (p ++ [n]) = files.lookup (p ++ [n]) := by
  have hm : Confined {q | q <+: p} (mkdirAll faults p) := confined_mkdirAll faults fun q _ hq => hq
  apply hm.frame
  intro hq
  have hl := List.IsPrefix.length_le hq
  simp at hl

lemma confined_filter {β : Type} (k : Path → Prop) [DecidablePred k] (hk : ∀ p, p ∉ region → k p) {b : β} :
    Confined region fun fs => (filterMap (fun p n => if k p then some n else none) fs, b) := by
  refine ⟨?_, ?_⟩
  · intro fs p hp
    dsimp only
    rw [lookup_filterMap]
    cases fs.lookup p with
    | none => rfl
    | some n => exact if_pos (hk p hp)
  · intro fs fs' h
    refine ⟨rfl, ?_⟩
    intro p hp
    dsimp only
    rw [lookup_filterMap, lookup_filterMap, h p hp]

lemma confined_removeAll (fa : Option (String × (Path → Bool))) {r : Path} (hr : ∀ q, r <+: q → q ∈ region) :
    Confined region (removeAll fa r) := by
  cases fa with
  | none => exact confined_filter (fun p => ¬r <+: p) (fun p hp hq => hp (hr p hq))
  | some fa =>
    exact confined_filter (fun p => ¬(r <+: p ∧ ¬fa.2 p)) (fun p hp hq => hp (hr p hq.1))

lemma readFile_congr (hp : p ∈ region) {fs' : Files} (h : SameOn region fs fs') :
    readFile faults p fs = readFile faults p fs' := by
  rw [readFile, readFile, h p hp]

lemma confined_writeFile (hp : p ∈ region) (hpa : p.dropLast ∈ region) (d : Bytes) :
    Confined region (writeFile faults p d) := by
  refine ⟨?_, ?_⟩
  · intro fs q hq
    rw [writeFile]
    split
    · rfl
    · split_ifs
      · rfl
      · rfl
      · exact frame_insert hp hq
  · intro fs fs' h
    rw [writeFile, writeFile, h p hp, h p.dropLast hpa]
    split
    · exact ⟨rfl, h⟩
    · split_ifs
      · exact ⟨rfl, h⟩
      · exact ⟨rfl, h⟩
      · exact ⟨rfl, h.insert p _⟩

lemma confined_walk {r : Path} (hr : ∀ q, r <+: q → q ∈ region) {visit : Path → Node → Files → Files × Option String}
    (hv : ∀ p n, r <+: p → Confined region (visit p n)) (d : ℕ) : Confined region (walk id visit d r) := by
  refine ⟨?_, ?_⟩
  · intro fs p hp
    have hw := @walk_congr Files id _ _ (fun s s' => s = s' ∧ s.lookup p = fs.lookup p) (by rintro s _ ⟨rfl, -⟩ q -; rfl)
      (fun q n s s' hq hs => ⟨by rw [hs.1], by rw [hs.1], by rw [(hv q n hq).frame s p hp, hs.2]⟩)
      d r List.prefix_rfl fs fs ⟨rfl, rfl⟩
    exact hw.2.2
  · intro fs fs' h
    exact walk_congr (SameOn region) (fun _ _ hs q hq => hs q (hr q hq))
      (fun p n s s' hp hs => (hv p n hp).congr s s' hs) d r List.prefix_rfl fs fs' h

end Confinement

end Cloudless.Foundations.FileSystem
