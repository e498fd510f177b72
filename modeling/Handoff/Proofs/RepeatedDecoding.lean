import Handoff.Proofs.DecodingRoom
import Handoff.Proofs.RecordFields

/-! Decoding what was decoded. A record may be spelled in several ways, and is written in one:
by name, with every default in its place. Whatever a decoder reads at some depth is read
from that at the same depth, where its defaults fit. -/

namespace Handoff.Json

/-- At a depth, a value is read from the text that is written for it. -/
def ReadsBack {α : Type} (encode : α → Json) (decode : Decoder α) (depth : Nat) (a : α) : Prop :=
  decode depth (encode a).written = some a

/-- All that a decoder reads at a depth reads back. -/
def Rereads {α : Type} (encode : α → Json) (decode : Decoder α) (depth : Nat) : Prop :=
  ∀ json a, decode depth json = some a → ReadsBack encode decode depth a

section Values

variable {α : Type} {encode : α → Json} {decode : Decoder α} {depth : Nat}

theorem readsBack_bool (value : Bool) : ReadsBack .bool Decoder.bool depth value := keeps_bool value depth (Nat.zero_le _)

theorem readsBack_text (s : String) : ReadsBack .text Decoder.text depth s := keeps_text s depth (Nat.zero_le _)

theorem rereads_text : Rereads .text Decoder.text depth := fun _ s _ => readsBack_text s

theorem rereads_bool : Rereads .bool Decoder.bool depth := fun _ value _ => readsBack_bool value

theorem readsBack_real {x : Binary64} (finite : x.isFinite = true) : ReadsBack .real Decoder.binary64 depth x :=
  keeps_real finite depth (Nat.zero_le _)

theorem rereads_real : Rereads .real Decoder.binary64 depth :=
  fun _ _ read => readsBack_real (Promises.binary64 read (Nat.le_refl _))

/-- An unknown name has been read as a case that has a name as well. -/
theorem rereads_named [Named α] (other : α) : Rereads Named.toJson (Named.decodeOr other) depth := by
  intro json a _
  have name : Decoder.caseName depth (.string (some (Named.name a))) = some (Named.name a) := by cases depth <;> rfl
  rw [ReadsBack, Named.toJson, written_text, text, Named.decodeOr, name]
  exact congrArg (fun known => some (Option.getD known other)) (Named.ofName?_name a)

theorem ReadsBack.list {values : List α} (back : ∀ a ∈ values, ReadsBack encode decode depth a) :
    ReadsBack (fun values => .array (values.map encode)) decode.list (depth + 1) values := by
  rw [ReadsBack, written_array, Decoder.list, mapM_eq_some, List.map_map, List.map_map]
  exact List.map_congr_left back

theorem readsBack_nil (room : depth ≠ 0) : ReadsBack (fun values => .array (values.map encode)) decode.list depth [] := by
  obtain ⟨inner, rfl⟩ := Nat.exists_eq_add_one_of_ne_zero room
  exact ReadsBack.list (List.forall_mem_nil _)

theorem Rereads.list (rereads : ∀ inner, depth = inner + 1 → Rereads encode decode inner) :
    Rereads (fun values => .array (values.map encode)) decode.list depth := by
  intro json values read
  cases depth with
  | zero => simp [Decoder.list] at read
  | succ inner =>
    refine ReadsBack.list fun a member => ?_
    obtain ⟨room, item, same, -, found⟩ := inside_of_list read a member
    obtain rfl : inner = room := Nat.succ.inj same
    exact rereads inner rfl _ _ found

theorem ReadsBack.map {map : OrderedMap String α} (back : ∀ entry ∈ map.entries, ReadsBack encode decode depth entry.2) :
    ReadsBack (ofMap encode) (Decoder.map decode) (depth + 1) map := by
  have written : (ofMap encode map).written =
      .object (map.entries.map fun entry => (some entry.1, (encode entry.2).written)) := by
    rw [ofMap, written_record, record, List.map_map, List.map_map]
    rfl
  have pairs : (map.entries.mapM fun entry => (decode depth (encode entry.2).written).bind fun value => some (entry.1, value)) =
      some map.entries := mapM_eq_some.mpr (List.map_congr_left fun entry member => by rw [back entry member]; rfl)
  rw [ReadsBack, written, Decoder.map, List.mapM_map]
  change (map.entries.mapM fun entry => (decode depth (encode entry.2).written).bind fun value => some (entry.1, value)).bind
    (fun pairs => some (OrderedMap.ofList pairs)) = some map
  rw [pairs, Option.bind_some, OrderedMap.ofList_entries]

theorem readsBack_empty (room : depth ≠ 0) : ReadsBack (ofMap encode) (Decoder.map decode) depth .empty := by
  obtain ⟨inner, rfl⟩ := Nat.exists_eq_add_one_of_ne_zero room
  exact ReadsBack.map (List.forall_mem_nil _)

theorem Rereads.map (rereads : ∀ inner, depth = inner + 1 → Rereads encode decode inner) :
    Rereads (ofMap encode) (Decoder.map decode) depth := by
  intro json map read
  cases depth with
  | zero => simp [Decoder.map] at read
  | succ inner =>
    refine ReadsBack.map fun entry member => ?_
    obtain ⟨room, item, same, -, found⟩ := inside_of_map read entry member
    obtain rfl : inner = room := Nat.succ.inj same
    exact rereads inner rfl _ _ found

/-- A value that reads back is not written as null, where null is no value. -/
theorem ReadsBack.option {value : Option α} (refuses : decode depth .null = none)
    (back : ∀ a ∈ value, ReadsBack encode decode depth a) :
    ReadsBack (Json.nullable encode) decode.nullable depth value := by
  cases value with
  | none => rw [ReadsBack, Json.nullable, written] <;> simp [Decoder.nullable]
  | some a =>
    have read := back a rfl
    rw [ReadsBack] at read
    rw [ReadsBack, Json.nullable, Decoder.nullable]
    · rw [read, Option.map_some]
    · intro null
      rw [null, refuses] at read
      cases read

theorem readsBack_none (refuses : decode depth .null = none) : ReadsBack (Json.nullable encode) decode.nullable depth none :=
  ReadsBack.option refuses fun _ member => nomatch member

theorem Rereads.option (refuses : decode depth .null = none) (rereads : Rereads encode decode depth) :
    Rereads (Json.nullable encode) decode.nullable depth := by
  intro json value read
  refine ReadsBack.option refuses fun a member => ?_
  obtain rfl := Option.mem_def.mp member
  exact rereads _ _ (inside_of_nullable read)

end Values

/-! Records -/

section Fields

variable {α : Type} {encode : α → Json} {decode : Decoder α} {record : Record} {all : List (String × Json)}
  (rereads : Rereads encode decode record.depth) (distinct : (all.map Prod.fst).Nodup) (name : String)
include rereads distinct

theorem Rereads.required {a : α} (inside : (name, encode a) ∈ all) (read : record.required name decode = some a) :
    (opened all record.depth).required name decode = some a := by
  obtain ⟨json, -, found⟩ := Option.bind_eq_some_iff.mp read
  rw [required_opened distinct inside]
  exact rereads _ _ found

theorem Rereads.defaulted {a default : α} (inside : (name, encode a) ∈ all)
    (fits : ReadsBack encode decode record.depth default) (read : record.defaulted name default decode = some a) :
    (opened all record.depth).defaulted name default decode = some a := by
  rw [defaulted_opened distinct inside]
  unfold Record.defaulted at read
  split at read
  next json found => exact rereads _ _ read
  next =>
    obtain rfl := Option.some.inj read
    exact fits

/-- What was left out or null is written as null. -/
theorem Rereads.nullable {a : Option α} (inside : (name, Json.nullable encode a) ∈ all)
    (refuses : decode record.depth .null = none) (read : record.nullable name decode = some a) :
    (opened all record.depth).nullable name decode = some a := by
  have again := rereads.option refuses
  rw [Record.nullable, opened, if_neg Bool.false_ne_true]
  unfold Record.nullable at read
  split at read
  · have required := again.required distinct name inside read
    rw [required_opened distinct inside] at required
    exact (defaulted_opened distinct inside _ _).trans required
  · exact again.defaulted distinct name inside (readsBack_none refuses) read

/-- What is left out when there is none is left out again. -/
theorem Rereads.optional {a : Option α} (field : ∀ json, (name, json) ∈ all ↔ ∃ b, a = some b ∧ json = encode b)
    (refuses : decode record.depth .null = none) (read : record.optional name decode = some a) :
    (opened all record.depth).optional name decode = some a := by
  cases a with
  | none =>
    have absent := absent_of_iff field fun _ impossible => by simp at impossible
    rw [Record.optional, Record.defaulted, find?_opened_of_absent absent]
  | some a =>
    have inside : (name, Json.nullable encode (some a)) ∈ all := (field (encode a)).mpr ⟨a, rfl, rfl⟩
    exact (rereads.option refuses).defaulted distinct name inside (readsBack_none refuses) read

end Fields

/-- A record is read again when its fields are. -/
theorem Rereads.record {α : Type} {encode : α → Json} {decode : Decoder α} {names : List String}
    {ofRecord : Record → Option α} {members : α → List (String × Json)} {depth : Nat}
    (encoded : ∀ a, encode a = Json.record (members a))
    (decoded : ∀ json, decode depth json = (Record.open? names depth json).bind ofRecord)
    (known : ∀ a, ((members a).map Prod.fst).Sublist names) (distinct : names.Nodup)
    (fields : ∀ {record : Record} {a all}, depth = record.depth + 1 → (all.map Prod.fst).Nodup →
      (∀ {member}, member ∈ all ↔ member ∈ members a) → ofRecord record = some a → ofRecord (opened all record.depth) = some a) :
    Rereads encode decode depth := by
  intro json a read
  rw [decoded] at read
  obtain ⟨record, opened, made⟩ := Option.bind_eq_some_iff.mp read
  obtain ⟨rfl, -, -⟩ := Record.open?_parts opened
  rw [ReadsBack, decoded, encoded, open?_record (known a) distinct, Option.bind_some]
  exact fields rfl ((known a).nodup distinct) Iff.rfl made

/-- A field of what a record is read to. What was read of it is read again from any record of the same
depth that has it as it is written. -/
structure RecordField (α : Type) (depth : Nat) where
  name : String
  {value : Type}
  get : α → value
  encode : value → Json
  read : Record → Option value
  again : ∀ {record : Record} {all : List (String × Json)} {a : α}, record.depth = depth → (all.map Prod.fst).Nodup →
    (name, encode (get a)) ∈ all → read record = some (get a) → read (opened all depth) = some (get a)

namespace RecordField

variable {α β : Type} {depth : Nat} {encode : β → Json} {decode : Decoder β} (name : String)

def required (get : α → β) (rereads : Rereads encode decode depth) : RecordField α depth where
  name := name
  get := get
  encode := encode
  read := fun record => record.required name decode
  again := by
    rintro record all a rfl distinct inside read
    exact rereads.required distinct name inside read

def defaulted (get : α → β) {default : β} (rereads : Rereads encode decode depth)
    (fits : ReadsBack encode decode depth default) : RecordField α depth where
  name := name
  get := get
  encode := encode
  read := fun record => record.defaulted name default decode
  again := by
    rintro record all a rfl distinct inside read
    exact rereads.defaulted distinct name inside fits read

def nullable (get : α → Option β) (rereads : Rereads encode decode depth) (refuses : decode depth .null = none) :
    RecordField α depth where
  name := name
  get := get
  encode := Json.nullable encode
  read := fun record => record.nullable name decode
  again := by
    rintro record all a rfl distinct inside read
    exact rereads.nullable distinct name inside refuses read

/-- What is written of the field. -/
def member (field : RecordField α depth) (a : α) : String × Json := (field.name, field.encode (field.get a))

end RecordField

/-- What reads back within the limit of documents is read from its text, on one line or on many. -/
theorem decodeText_written {α : Type} {encode : α → Json} {decode : Decoder α} {a : α}
    (back : ReadsBack encode decode depthLimit a) :
    ∀ text ∈ [(encode a).compact, (encode a).pretty], decodeText decode text = some a := by
  simp only [List.forall_mem_cons, List.not_mem_nil, false_implies, implies_true, and_true]
  rw [decodeText, decodeText, parse_compact, parse_pretty]
  exact ⟨back, back⟩

end Handoff.Json
