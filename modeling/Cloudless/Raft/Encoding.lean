import Cloudless.Foundations.JSON
import Cloudless.Raft.FSM

namespace Cloudless.Raft

open Foundations GoStd JSON UTF8

structure GoCommand where
  (op key value : Bytes)
  expiresAt : Int64

structure GoMetadataCommand where
  (op bucket key value : Bytes)

section Marshal

def goString (s : Bytes) : List Char := quoted (runes s)

def goBytes (v : Bytes) : List Char := quoted ((Base64.encode v).map some)

def GoCommand.fields (c : GoCommand) : List (String × List Char) :=
  [("op", goString c.op), ("key", goString c.key)] ++ omitting c.value.isEmpty ("value", goBytes c.value) ++
    omitting (c.expiresAt == 0) ("expires_at", integer c.expiresAt.toInt)

def GoMetadataCommand.fields (c : GoMetadataCommand) : List (String × List Char) :=
  [("op", goString c.op)] ++ omitting c.bucket.isEmpty ("bucket", goString c.bucket) ++
    omitting c.key.isEmpty ("key", goString c.key) ++ omitting c.value.isEmpty ("value", goBytes c.value)

def marshalCommand (c : GoCommand) : Bytes := utf8 (object c.fields)

def marshalMetadataCommand (c : GoMetadataCommand) : Bytes := utf8 (object c.fields)

def marshalBatchCommand (commands : List GoCommand) : Bytes :=
  utf8 (object [("commands", array (commands.map fun c => object c.fields))])

def marshalMetadataBatchCommand (operations : List GoMetadataCommand) : Bytes :=
  utf8 (object [("operations", array (operations.map fun c => object c.fields))])

end Marshal

section Unmarshal

def decodeStruct {α : Type} (decode : List (String × Json) → Option α) (zero : α) : Json → Option α
  | .obj members => decode members
  | .null => some zero
  | _ => none

def decodeCommand : Json → Option (Command Bytes) :=
  decodeStruct (fun members => do
    let op ← field "op" decodeString members ""
    let key ← field "key" decodeString members ""
    let value ← field "value" decodeBytes members []
    let expiresAt ← field "expires_at" decodeInt64 members 0
    return ⟨op, key, value, expiresAt⟩) ⟨"", "", [], 0⟩

def decodeMetadataCommand : Json → Option (MetadataCommand Bytes) :=
  decodeStruct (fun members => do
    let op ← field "op" decodeString members ""
    let bucket ← field "bucket" decodeString members ""
    let key ← field "key" decodeString members ""
    let value ← field "value" decodeBytes members []
    return ⟨op, bucket, key, value⟩) ⟨"", "", "", []⟩

-- A `null` among the commands is a nil pointer, which is no command; such an entry counts as unreadable here.
def decodeElement : Json → Option (Command Bytes)
  | .null => none
  | j => decodeCommand j

def decodeBatchCommand : Json → Option (List (Command Bytes)) :=
  decodeStruct (fun members => field "commands" (decodeSlice decodeElement) members []) []

def decodeMetadataBatchCommand : Json → Option (List (MetadataCommand Bytes)) :=
  decodeStruct (fun members => field "operations" (decodeSlice decodeMetadataCommand) members []) []

/-- The four `json.Unmarshal` calls of `Apply` on the bytes of an entry. -/
def unmarshalLog (data : Bytes) : LogData Bytes :=
  match parse (coerce (runes data)) with
  | none => ⟨none, none, none, .error "invalid character"⟩
  | some j =>
    ⟨decodeMetadataBatchCommand j, decodeMetadataCommand j, decodeBatchCommand j,
      match decodeCommand j with
      | some cmd => .ok cmd
      | none => .error "json: cannot unmarshal"⟩

end Unmarshal

def received (s : Bytes) : String := String.ofList (coerce (runes s))

def GoCommand.received (c : GoCommand) : Command Bytes :=
  ⟨Raft.received c.op, Raft.received c.key, c.value, c.expiresAt.toInt⟩

def GoMetadataCommand.received (c : GoMetadataCommand) : MetadataCommand Bytes :=
  ⟨Raft.received c.op, Raft.received c.bucket, Raft.received c.key, c.value⟩

section Reading

lemma unmarshalLog_utf8 {t : List Char} {j : Json} (h : Reads t j) :
    unmarshalLog (utf8 t) = ⟨decodeMetadataBatchCommand j, decodeMetadataCommand j, decodeBatchCommand j,
      match decodeCommand j with
      | some cmd => .ok cmd
      | none => .error "json: cannot unmarshal"⟩ := by
  rw [unmarshalLog, runes_utf8, coerce_map_some, parse_of_reads h]

def bytesJson (v : Bytes) : Json := .str (String.ofList (Base64.encode v))

lemma reads_goString {s : Bytes} : Reads (goString s) (.str (received s)) := reads_quoted (runes s)

lemma reads_goBytes {v : Bytes} : Reads (goBytes v) (bytesJson v) := by
  have h := reads_quoted ((Base64.encode v).map some)
  rwa [coerce_map_some] at h

lemma decodeBytes_bytesJson (v old : Bytes) : decodeBytes (bytesJson v) old = some v := by
  rw [bytesJson, decodeBytes, String.toList_ofList, Base64.decode_encode]

def GoCommand.members (c : GoCommand) : List (String × Json) :=
  [("op", .str (Raft.received c.op)), ("key", .str (Raft.received c.key))] ++
    omitting c.value.isEmpty ("value", bytesJson c.value) ++
    omitting (c.expiresAt == 0) ("expires_at", .num (integer c.expiresAt.toInt))

def GoMetadataCommand.members (c : GoMetadataCommand) : List (String × Json) :=
  [("op", .str (Raft.received c.op))] ++ omitting c.bucket.isEmpty ("bucket", .str (Raft.received c.bucket)) ++
    omitting c.key.isEmpty ("key", .str (Raft.received c.key)) ++ omitting c.value.isEmpty ("value", bytesJson c.value)

lemma GoCommand.reads (c : GoCommand) : Reads (object c.fields) (.obj c.members) := by
  apply reads_object
  rw [fields, members]
  refine List.rel_append (List.rel_append ?_ ?_) ?_
  · exact .cons ⟨rfl, reads_goString⟩ (.cons ⟨rfl, reads_goString⟩ .nil)
  · exact forall₂_omitting ⟨rfl, reads_goBytes⟩ _
  · exact forall₂_omitting ⟨rfl, reads_integer _⟩ _

lemma GoMetadataCommand.reads (c : GoMetadataCommand) : Reads (object c.fields) (.obj c.members) := by
  apply reads_object
  rw [fields, members]
  refine List.rel_append (List.rel_append (List.rel_append ?_ ?_) ?_) ?_
  · exact .cons ⟨rfl, reads_goString⟩ .nil
  · exact forall₂_omitting ⟨rfl, reads_goString⟩ _
  · exact forall₂_omitting ⟨rfl, reads_goString⟩ _
  · exact forall₂_omitting ⟨rfl, reads_goBytes⟩ _

lemma received_nil : received [] = "" := rfl

lemma received_of_isEmpty {s : Bytes} (h : s.isEmpty = true) : received s = "" := by
  rw [List.isEmpty_iff.mp h, received_nil]

end Reading

section Fields

abbrev fieldNames : List String := ["op", "bucket", "key", "value", "expires_at", "commands", "operations"]

lemma sameField_eq : ∀ name ∈ fieldNames, ∀ key ∈ fieldNames, sameField name key = (name == key) := by
  decide +kernel

variable {name : String}

lemma sameField_self (h : name ∈ fieldNames) : sameField name name = true := by
  rw [sameField_eq name h name h, beq_self_eq_true]

lemma sameField_ne {key : String} (hname : name ∈ fieldNames) (hk : key ∈ fieldNames) (hne : name ≠ key) :
    sameField name key = false := by
  rw [sameField_eq name hname key hk, beq_false_of_ne hne]

variable (c : GoCommand) (m : GoMetadataCommand)

lemma field_value {v : Bytes} : field "value" decodeBytes (omitting v.isEmpty ("value", bytesJson v)) [] = some v :=
  field_omitting_same (sameField_self (by decide)) List.isEmpty_iff.mp (decodeBytes_bytesJson v [])

lemma field_string (hname : sameField name name = true) {s : Bytes} :
    field name decodeString (omitting s.isEmpty (name, .str (received s))) "" = some (received s) :=
  field_omitting_same hname received_of_isEmpty rfl

lemma field_expiresAt {e : Int64} :
    field "expires_at" decodeInt64 (omitting (e == 0) ("expires_at", .num (integer e.toInt))) 0 = some e.toInt := by
  refine field_omitting_same (sameField_self (by decide)) ?_ (decodeInt64_integer ⟨e.le_toInt, e.toInt_lt⟩ 0)
  intro he
  rw [beq_iff_eq.mp he]
  rfl

lemma absent_command {α : Type} {d : Json → α → Option α} {old : α} (hname : name ∈ fieldNames)
    (h : name ∉ ["op", "key", "value", "expires_at"]) : field name d c.members old = some old := by
  simp only [List.mem_cons, not_or] at h
  simp [GoCommand.members, sameField_ne hname (by decide) h.1, sameField_ne hname (by decide) h.2.1,
    sameField_ne hname (by decide) h.2.2.1, sameField_ne hname (by decide) h.2.2.2.1]

lemma absent_metadata {α : Type} {d : Json → α → Option α} {old : α} (hname : name ∈ fieldNames)
    (h : name ∉ ["op", "bucket", "key", "value"]) : field name d m.members old = some old := by
  simp only [List.mem_cons, not_or] at h
  simp [GoMetadataCommand.members, sameField_ne hname (by decide) h.1, sameField_ne hname (by decide) h.2.1,
    sameField_ne hname (by decide) h.2.2.1, sameField_ne hname (by decide) h.2.2.2.1]

lemma op_command : field "op" decodeString c.members "" = some (received c.op) := by
  simp (disch := simp [sameField_eq]) [GoCommand.members, decodeString]

lemma key_command : field "key" decodeString c.members "" = some (received c.key) := by
  simp (disch := simp [sameField_eq]) [GoCommand.members, decodeString]

lemma value_command : field "value" decodeBytes c.members [] = some c.value := by
  simp (disch := simp [sameField_eq]) [GoCommand.members, field_value]

lemma op_metadata : field "op" decodeString m.members "" = some (received m.op) := by
  simp (disch := simp [sameField_eq]) [GoMetadataCommand.members, decodeString]

lemma key_metadata : field "key" decodeString m.members "" = some (received m.key) := by
  simp (disch := simp [sameField_eq]) [GoMetadataCommand.members, field_string]

lemma value_metadata : field "value" decodeBytes m.members [] = some m.value := by
  simp (disch := simp [sameField_eq]) [GoMetadataCommand.members, field_value]

lemma decodeCommand_command : decodeCommand (.obj c.members) = some c.received := by
  have he : field "expires_at" decodeInt64 c.members 0 = some c.expiresAt.toInt := by
    simp (disch := simp [sameField_eq]) [GoCommand.members, field_expiresAt]
  simp only [decodeCommand, decodeStruct, op_command, key_command, value_command, he]
  rfl

lemma decodeElement_command : decodeElement (.obj c.members) = some c.received := decodeCommand_command c

lemma decodeCommand_metadata : decodeCommand (.obj m.members) = some ⟨received m.op, received m.key, m.value, 0⟩ := by
  have he : field "expires_at" decodeInt64 m.members 0 = some 0 := absent_metadata m (by decide) (by decide)
  simp only [decodeCommand, decodeStruct, op_metadata, key_metadata, value_metadata, he]
  rfl

lemma decodeMetadataCommand_metadata : decodeMetadataCommand (.obj m.members) = some m.received := by
  have hb : field "bucket" decodeString m.members "" = some (received m.bucket) := by
    simp (disch := simp [sameField_eq]) [GoMetadataCommand.members, field_string]
  simp only [decodeMetadataCommand, decodeStruct, op_metadata, hb, key_metadata, value_metadata]
  rfl

lemma decodeMetadataCommand_command :
    decodeMetadataCommand (.obj c.members) = some ⟨received c.op, "", received c.key, c.value⟩ := by
  have hb : field "bucket" decodeString c.members "" = some "" := absent_command c (by decide) (by decide)
  simp only [decodeMetadataCommand, decodeStruct, op_command, hb, key_command, value_command]
  rfl

end Fields

section Entries

lemma unmarshalLog_command {c : GoCommand} : unmarshalLog (marshalCommand c) = .ofCommand c.received := by
  have hb : decodeBatchCommand (.obj c.members) = some [] := absent_command c (by decide) (by decide)
  have ho : decodeMetadataBatchCommand (.obj c.members) = some [] := absent_command c (by decide) (by decide)
  rw [marshalCommand, unmarshalLog_utf8 c.reads, hb, ho, decodeMetadataCommand_command,
    decodeCommand_command]
  rfl

lemma unmarshalLog_metadata {c : GoMetadataCommand} :
    unmarshalLog (marshalMetadataCommand c) = .ofMetadata c.received := by
  have hb : decodeBatchCommand (.obj c.members) = some [] := absent_metadata c (by decide) (by decide)
  have ho : decodeMetadataBatchCommand (.obj c.members) = some [] := absent_metadata c (by decide) (by decide)
  rw [marshalMetadataCommand, unmarshalLog_utf8 c.reads, hb, ho, decodeMetadataCommand_metadata,
    decodeCommand_metadata]
  rfl

lemma decode_other (key : String) (j : Json) (hk : key ∈ fieldNames)
    (h : key ∉ ["op", "bucket", "key", "value", "expires_at"]) :
    decodeCommand (.obj [(key, j)]) = some ⟨"", "", [], 0⟩ ∧
      decodeMetadataCommand (.obj [(key, j)]) = some ⟨"", "", "", []⟩ := by
  have hne : ∀ name ∈ fieldNames, name ∈ ["op", "bucket", "key", "value", "expires_at"] → sameField name key = false := by
    intro name hname hm
    apply sameField_ne hname hk
    rintro rfl
    exact h hm
  have ho := hne "op" (by decide) (by decide)
  have hv := hne "value" (by decide) (by decide)
  have hname := hne "key" (by decide) (by decide)
  constructor
  · simp [decodeCommand, decodeStruct, ho, hname, hv, hne "expires_at" (by decide) (by decide)]
  · simp [decodeMetadataCommand, decodeStruct, ho, hne "bucket" (by decide) (by decide), hname, hv]

lemma mapM_decode {α β : Type} {d : Json → Option β} {j : α → Json} {f : α → β}
    (h : ∀ a, d (j a) = some (f a)) {as : List α} : (as.map j).mapM d = some (as.map f) := by
  induction as with
  | nil => rfl
  | cons a as ih => simp [h a, ih]

lemma reads_entry {α : Type} (name : String) {fs : α → List (String × List Char)}
    {ms : α → List (String × Json)} (h : ∀ a, Reads (object (fs a)) (.obj (ms a))) (as : List α) :
    Reads (object [(name, array (as.map fun a => object (fs a)))])
      (.obj [(name, .arr (as.map fun a => .obj (ms a)))]) := by
  refine reads_object (.cons ⟨rfl, reads_array ?_⟩ .nil)
  rw [List.forall₂_map_left_iff, List.forall₂_map_right_iff, List.forall₂_same]
  exact fun a _ => h a

lemma field_entry {α β : Type} {name key : String} {d : Json → Option β} {j : α → Json} {f : α → β}
    (hname : sameField name key = true) (h : ∀ a, d (j a) = some (f a)) {as : List α} :
    field name (decodeSlice d) [(key, .arr (as.map j))] [] = some (as.map f) := by
  rw [field_same hname, decodeSlice, mapM_decode h]
  rfl

lemma unmarshalLog_batch {cs : List GoCommand} :
    unmarshalLog (marshalBatchCommand cs) = .ofBatch (cs.map GoCommand.received) := by
  have hr := unmarshalLog_utf8 (reads_entry "commands" GoCommand.reads cs)
  obtain ⟨hco, hm⟩ := decode_other "commands"
    (.arr (cs.map fun c => .obj c.members)) (by decide) (by decide)
  have hb : decodeBatchCommand (.obj [("commands", .arr (cs.map fun c => .obj c.members))]) =
      some (cs.map GoCommand.received) :=
    field_entry (sameField_self (by decide)) decodeElement_command
  have ho : decodeMetadataBatchCommand (.obj [("commands", .arr (cs.map fun c => .obj c.members))]) =
      some [] := field_other (sameField_ne (by decide) (by decide) (by decide)) _ []
  rw [marshalBatchCommand, hr, hco, hm, hb, ho]
  rfl

lemma unmarshalLog_metadataBatch {os : List GoMetadataCommand} : unmarshalLog (marshalMetadataBatchCommand os) =
      .ofMetadataBatch (os.map GoMetadataCommand.received) := by
  have hr := unmarshalLog_utf8 (reads_entry "operations" GoMetadataCommand.reads os)
  obtain ⟨hco, hm⟩ := decode_other "operations"
    (.arr (os.map fun c => .obj c.members)) (by decide) (by decide)
  have hb : decodeBatchCommand (.obj [("operations", .arr (os.map fun c => .obj c.members))]) = some [] :=
    field_other (sameField_ne (by decide) (by decide) (by decide)) _ []
  have ho : decodeMetadataBatchCommand
      (.obj [("operations", .arr (os.map fun c => .obj c.members))]) =
        some (os.map GoMetadataCommand.received) :=
    field_entry (sameField_self (by decide)) decodeMetadataCommand_metadata
  rw [marshalMetadataBatchCommand, hr, hco, hm, hb, ho]
  rfl

end Entries

section Dispatch

def ValidUTF8 (s : Bytes) : Prop := ∃ text, s = utf8 text

def GoCommand.Valid (c : GoCommand) : Prop := ValidUTF8 c.op ∧ ValidUTF8 c.key

def GoMetadataCommand.Valid (c : GoMetadataCommand) : Prop := ValidUTF8 c.op ∧ ValidUTF8 c.bucket ∧ ValidUTF8 c.key

def Command.Is (cmd : Command Bytes) (c : GoCommand) : Prop :=
  c.op = utf8 cmd.op.toList ∧ c.key = utf8 cmd.key.toList ∧ c.value = cmd.value ∧ c.expiresAt.toInt = cmd.expiresAt

def MetadataCommand.Is (cmd : MetadataCommand Bytes) (c : GoMetadataCommand) : Prop :=
  c.op = utf8 cmd.op.toList ∧ c.bucket = utf8 cmd.bucket.toList ∧ c.key = utf8 cmd.key.toList ∧ c.value = cmd.value

lemma utf8_received {s : Bytes} (h : ValidUTF8 s) : s = utf8 (received s).toList := by
  obtain ⟨t, rfl⟩ := h
  rw [received, runes_utf8, coerce_map_some, String.toList_ofList]

lemma received_ne_empty {s : Bytes} (h : s ≠ []) : received s ≠ "" := by
  intro he
  have hl : coerce (runes s) = [] := by
    rw [← String.toList_ofList (l := coerce (runes s))]
    exact congrArg String.toList he
  exact h (runes_eq_nil_iff.mp (List.map_eq_nil_iff.mp hl))

lemma GoCommand.received_is (c : GoCommand) : c.received.Is c ↔ c.Valid :=
  ⟨fun h => ⟨⟨_, h.1⟩, ⟨_, h.2.1⟩⟩, fun h => ⟨utf8_received h.1, utf8_received h.2, rfl, rfl⟩⟩

lemma GoMetadataCommand.received_is (c : GoMetadataCommand) : c.received.Is c ↔ c.Valid :=
  ⟨fun h => ⟨⟨_, h.1⟩, ⟨_, h.2.1⟩, ⟨_, h.2.2.1⟩⟩,
    fun h => ⟨utf8_received h.1, utf8_received h.2.1, utf8_received h.2.2, rfl⟩⟩

lemma forall₂_received_is {α β : Type} {Is : β → α → Prop} {r : α → β} {Valid : α → Prop}
    (h : ∀ a, Is (r a) a ↔ Valid a) {as : List α} : List.Forall₂ Is (as.map r) as ↔ ∀ a ∈ as, Valid a := by
  rw [List.forall₂_map_left_iff, List.forall₂_same]
  exact forall₂_congr fun a _ => h a

lemma dispatch_command {c : GoCommand} : (unmarshalLog (marshalCommand c)).dispatch = .single c.received := by
  rw [unmarshalLog_command]
  simp [LogData.dispatch, LogData.ofCommand, LogData.dispatchMetadata, LogData.dispatchCommand]

lemma dispatch_metadata (c : GoMetadataCommand) (hb : c.bucket ≠ []) :
    (unmarshalLog (marshalMetadataCommand c)).dispatch =
      if c.op = [] then .single ⟨"", received c.key, c.value, 0⟩ else .metadata c.received := by
  rw [unmarshalLog_metadata]
  split_ifs with ho
  · have hop : received c.op = "" := by rw [ho, received_nil]
    simp [LogData.dispatch, LogData.ofMetadata, LogData.dispatchMetadata, LogData.dispatchCommand,
      GoMetadataCommand.received, hop]
  · simp [LogData.dispatch, LogData.ofMetadata, LogData.dispatchMetadata, GoMetadataCommand.received,
      received_ne_empty ho, received_ne_empty hb]

theorem fsm_dispatch_exact_iff (c : GoCommand) (cs : List GoCommand) (mc : GoMetadataCommand)
    (mcs : List GoMetadataCommand) :
    ((∃ cmd, (unmarshalLog (marshalCommand c)).dispatch = .single cmd ∧ cmd.Is c) ↔ c.Valid) ∧ (cs ≠ [] →
      ((∃ cmds, (unmarshalLog (marshalBatchCommand cs)).dispatch = .batch cmds ∧ List.Forall₂ Command.Is cmds cs) ↔
        ∀ c ∈ cs, c.Valid)) ∧ (mc.bucket ≠ [] →
      ((∃ cmd, (unmarshalLog (marshalMetadataCommand mc)).dispatch = .metadata cmd ∧ cmd.Is mc) ↔
        mc.op ≠ [] ∧ mc.Valid)) ∧ (mcs ≠ [] →
      ((∃ cmds, (unmarshalLog (marshalMetadataBatchCommand mcs)).dispatch = .metadataBatch cmds ∧
        List.Forall₂ MetadataCommand.Is cmds mcs) ↔ ∀ c ∈ mcs, c.Valid)) := by
  refine ⟨?_, ?_, ?_, ?_⟩
  · simp only [dispatch_command, Dispatch.single.injEq, exists_eq_left']
    exact c.received_is
  · intro hne
    have hd : (unmarshalLog (marshalBatchCommand cs)).dispatch = .batch (cs.map GoCommand.received) := by
      rw [unmarshalLog_batch]
      cases cs with
      | nil => exact absurd rfl hne
      | cons c cs => rfl
    simp only [hd, Dispatch.batch.injEq, exists_eq_left']
    exact forall₂_received_is GoCommand.received_is
  · intro hb
    rw [dispatch_metadata mc hb]
    split_ifs with ho
    · simp [ho]
    · simp only [Dispatch.metadata.injEq, exists_eq_left', ne_eq, ho, not_false_eq_true, true_and]
      exact mc.received_is
  · intro hne
    have hd : (unmarshalLog (marshalMetadataBatchCommand mcs)).dispatch =
        .metadataBatch (mcs.map GoMetadataCommand.received) := by
      rw [unmarshalLog_metadataBatch]
      cases mcs with
      | nil => exact absurd rfl hne
      | cons c cs => rfl
    simp only [hd, Dispatch.metadataBatch.injEq, exists_eq_left']
    exact forall₂_received_is GoMetadataCommand.received_is

theorem fsm_dispatch_exact_small :
    (∃ cmds, (unmarshalLog (marshalBatchCommand [⟨utf8 "set".toList, utf8 "a".toList, [1], 5⟩])).dispatch = .batch cmds ∧
      List.Forall₂ Command.Is cmds [⟨utf8 "set".toList, utf8 "a".toList, [1], 5⟩]) ∧
    ∃ cmd, (unmarshalLog (marshalMetadataCommand
      ⟨utf8 "create_bucket".toList, utf8 "b".toList, [], [1]⟩)).dispatch = .metadata cmd ∧
        cmd.Is ⟨utf8 "create_bucket".toList, utf8 "b".toList, [], [1]⟩ := by
  constructor
  · refine ((fsm_dispatch_exact_iff ⟨[], [], [], 0⟩ _ ⟨[], [], [], []⟩ []).2.1 (by simp)).mpr ?_
    intro c hc
    rw [List.mem_singleton.mp hc]
    exact ⟨⟨_, rfl⟩, ⟨_, rfl⟩⟩
  · exact ((fsm_dispatch_exact_iff ⟨[], [], [], 0⟩ [] _ []).2.2.1 (by decide)).mpr ⟨by decide, ⟨_, rfl⟩, ⟨_, rfl⟩, ⟨[], rfl⟩⟩

theorem invalid_key_changes_command :
    (∃ cmd, (unmarshalLog (marshalCommand ⟨utf8 "set".toList, [0xff], [1], 0⟩)).dispatch = .single cmd ∧ cmd.key = "�") ∧
    ∃ cmd, (unmarshalLog (marshalMetadataCommand ⟨[], utf8 "b".toList, [], []⟩)).dispatch = .single cmd := by
  constructor
  · exact ⟨_, dispatch_command, by decide +kernel⟩
  · exact ⟨_, dispatch_metadata _ (by decide)⟩

end Dispatch

end Cloudless.Raft
