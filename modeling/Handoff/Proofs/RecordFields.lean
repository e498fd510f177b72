import Handoff.Design.Decoding
import Handoff.Design.Encoding
import Handoff.Proofs.JsonRoundTrip

/-! Fields of records. A record that was written is opened with the fields that were written,
and every field is read from the text of its own value. Reading keeps a value when the
depth allows it, and no value is read that nests deeper. -/

namespace Handoff.Json

theorem written_record (members : List (String × Json)) :
    (record members).written = record (members.map fun member => (member.1, member.2.written)) := by
  rw [record, written, membersWritten_eq_map, record, List.map_map, List.map_map]
  rfl

theorem written_array (items : List Json) : (array items).written = array (items.map written) := by
  rw [written, allWritten_eq_map]

/-- A value that is written denotes a value as deep as itself. -/
theorem depth_written (json : Json) : json.written.depth = json.depth := by
  have bounds : ∀ bound, json.written.depth ≤ bound ↔ json.depth ≤ bound := by
    induction json using partInduction with
    | null | bool _ | string _ => exact fun _ => by rw [written] <;> simp
    | number value =>
      intro bound
      rw [written]
      cases value with
      | integer value => rfl
      | real value => rw [Numeral.written]; split <;> rfl
    | array items ih =>
      intro bound
      rw [written_array, depth_array_le, depth_array_le, List.forall_mem_map]
      exact and_congr_right' (forall₂_congr fun item inside => ih item inside _)
    | object members ih =>
      intro bound
      rw [written, membersWritten_eq_map, depth_object_le, depth_object_le, List.forall_mem_map]
      exact and_congr_right' (forall₂_congr fun member inside => ih member inside _)
  exact Nat.le_antisymm ((bounds _).mpr (Nat.le_refl _)) ((bounds _).mp (Nat.le_refl _))

/-- The record that the text of an object is opened as. -/
def opened (members : List (String × Json)) (depth : Nat) : Record :=
  ⟨false, members.map fun member => (member.1, member.2.written), depth⟩

private theorem named_record (names : List String) (members before : List (String × Json))
    (known : ∀ member ∈ members, member.1 ∈ names) (distinct : ((before ++ members).map Prod.fst).Nodup) :
    (members.map fun member => (some member.1, member.2)).foldlM (fun fields (name, value) => do
      let name ← name
      if name ∈ names then
        if fields.any (·.1 = name) then none else return fields ++ [(name, value)]
      else return fields) before = some (before ++ members) := by
  induction members generalizing before with
  | nil => simp
  | cons member members ih =>
    rw [List.forall_mem_cons] at known
    have fresh : before.any (·.1 = member.1) = false := by
      rw [List.map_append, List.map_cons, List.nodup_append] at distinct
      rw [List.any_eq_false]
      intro other inside
      simpa using distinct.2.2 other.1 (List.mem_map_of_mem inside) member.1 List.mem_cons_self
    have rest := ih (before ++ [member]) known.2 (by simpa using distinct)
    rw [List.map_cons, List.foldlM_cons]
    simp only [Option.bind_eq_bind, Option.bind_some, known.1, if_true, fresh, Bool.false_eq_true,
      if_false, Option.pure_def]
    simpa using rest

/-- A written object is opened when its names are known, none of them twice. -/
theorem open?_record {names : List String} {members : List (String × Json)} (known : (members.map Prod.fst).Sublist names)
    (distinct : names.Nodup) (depth : Nat) :
    Record.open? names (depth + 1) (record members).written = some (opened members depth) := by
  have same : (members.map fun member => (member.1, member.2.written)).map Prod.fst = members.map Prod.fst := by
    simp [Function.comp_def]
  have read := named_record names (members.map fun member => (member.1, member.2.written)) []
    (fun member inside => known.subset (same ▸ List.mem_map_of_mem inside))
      (by simpa only [List.nil_append, same] using known.nodup distinct)
  rw [written_record]
  exact congrArg (fun fields => fields.bind fun fields => some (⟨false, fields, depth⟩ : Record)) read

private theorem open?_zero (names : List String) (json : Json) : Record.open? names 0 json = none := by
  unfold Record.open?
  split <;> first | contradiction | rfl

/-- What a decoder keeps: it reads a value from the value's text wherever the text may nest
deep enough. -/
def Keeps {α : Type} (encode : α → Json) (decode : Decoder α) (a : α) : Prop :=
  ∀ depth, (encode a).depth ≤ depth → decode depth (encode a).written = some a

/-- What a decoder refuses: the text of a value that nests too deep. -/
def Limits {α : Type} (encode : α → Json) (decode : Decoder α) (a : α) : Prop :=
  ∀ depth b, decode depth (encode a).written = some b → (encode a).depth ≤ depth

section Opened

variable {α β : Type} {members : List (String × Json)} {name : String} {depth : Nat}

theorem find?_opened (distinct : (members.map Prod.fst).Nodup) {json : Json} (inside : (name, json) ∈ members) :
    (opened members depth).find? name = some json.written := by
  have found : members.find? (·.1 = name) = some (name, json) := by
    induction members with
    | nil => cases inside
    | cons member members ih =>
      rw [List.map_cons, List.nodup_cons] at distinct
      rcases List.mem_cons.mp inside with rfl | later
      · simp
      · have other : member.1 ≠ name := fun same => distinct.1 (same ▸ List.mem_map_of_mem later)
        simp [other, ih distinct.2 later]
  rw [Record.find?, opened, List.find?_map]
  simp only [Function.comp_def, found, Option.map_some]

theorem find?_opened_of_absent (absent : name ∉ members.map Prod.fst) : (opened members depth).find? name = none := by
  have missing : members.find? (·.1 = name) = none := by
    rw [List.find?_eq_none]
    intro member inside same
    exact absent (by simpa [of_decide_eq_true same] using List.mem_map_of_mem (f := Prod.fst) inside)
  rw [Record.find?, opened, List.find?_map]
  simp only [Function.comp_def, missing, Option.map_none]

theorem required_opened (distinct : (members.map Prod.fst).Nodup) {json : Json} (inside : (name, json) ∈ members)
    (decode : Decoder α) :
    (opened members depth).required name decode = decode depth json.written := by
  rw [Record.required, find?_opened distinct inside]
  rfl

theorem defaulted_opened (distinct : (members.map Prod.fst).Nodup) {json : Json}
    (inside : (name, json) ∈ members) (default : α)
    (decode : Decoder α) : (opened members depth).defaulted name default decode = decode depth json.written := by
  rw [Record.defaulted, find?_opened distinct inside]
  rfl

theorem absent_of_iff {p : Json → Prop} (field : ∀ json, (name, json) ∈ members ↔ p json) (none : ∀ json, ¬p json) :
    name ∉ members.map Prod.fst := by
  intro found
  obtain ⟨⟨other, json⟩, inside, rfl⟩ := List.mem_map.mp found
  exact none json ((field json).mp inside)

/-- The members of a record that may be read: each name once, and no value too deep. -/
structure Fields (members : List (String × Json)) (depth : Nat) : Prop where
  distinct : (members.map Prod.fst).Nodup
  bound : ∀ member ∈ members, member.2.depth ≤ depth

namespace Fields

variable {encode : α → Json} {decode : Decoder α} (fields : Fields members depth) (name)
include fields

theorem required {a : α} (inside : (name, encode a) ∈ members) (keeps : Keeps encode decode a) :
    (opened members depth).required name decode = some a := by
  rw [required_opened fields.distinct inside]
  exact keeps depth (fields.bound _ inside)

theorem defaulted {a default : α} (inside : (name, encode a) ∈ members) (keeps : Keeps encode decode a) :
    (opened members depth).defaulted name default decode = some a := by
  rw [defaulted_opened fields.distinct inside]
  exact keeps depth (fields.bound _ inside)

theorem optional {value : Option α} (field : ∀ json, (name, json) ∈ members ↔ ∃ a, value = some a ∧ json = encode a)
    (keeps : ∀ a ∈ value, Keeps encode decode a) (written : ∀ a ∈ value, (encode a).written ≠ .null) :
    (opened members depth).optional name decode = some value := by
  cases value with
  | none =>
    have absent := absent_of_iff field fun _ impossible => by simp at impossible
    rw [Record.optional, Record.defaulted, find?_opened_of_absent absent]
  | some a =>
    have inside := (field (encode a)).mpr ⟨a, rfl, rfl⟩
    have read := keeps a rfl depth (fields.bound _ inside)
    rw [Record.optional, defaulted_opened fields.distinct inside, Decoder.nullable]
    · rw [read, Option.map_some]
    · exact written a rfl

theorem listed {values : List α} (field : ∀ json, (name, json) ∈ members ↔ values ≠ [] ∧ json = .array (values.map encode))
    (keeps : Keeps (fun values => .array (values.map encode)) decode.list values) :
    (opened members depth).defaulted name [] decode.list = some values := by
  by_cases empty : values = []
  · have absent := absent_of_iff field fun _ impossible => impossible.1 empty
    rw [Record.defaulted, find?_opened_of_absent absent, empty]
  · exact fields.defaulted name ((field _).mpr ⟨empty, rfl⟩) keeps

end Fields

section Limits

variable {encode : α → Json} {decode : Decoder α} {a : α} (limits : Limits encode decode a)
  (distinct : (members.map Prod.fst).Nodup) (inside : (name, encode a) ∈ members)
include limits distinct inside

theorem Limits.required {b : α} (read : (opened members depth).required name decode = some b) :
    (encode a).depth ≤ depth :=
  limits depth b (required_opened distinct inside decode ▸ read)

theorem Limits.defaulted {b default : α} (read : (opened members depth).defaulted name default decode = some b) :
    (encode a).depth ≤ depth :=
  limits depth b (defaulted_opened distinct inside default decode ▸ read)

theorem Limits.optional {b : Option α} (read : (opened members depth).optional name decode = some b) :
    (encode a).depth ≤ depth := by
  rw [Record.optional, defaulted_opened distinct inside] at read
  unfold Decoder.nullable at read
  split at read
  next null =>
    rw [← depth_written, null]
    exact Nat.zero_le _
  next =>
    obtain ⟨inner, found, -⟩ := Option.map_eq_some_iff.mp read
    exact limits _ inner found

end Limits

section Record

variable {encode : α → Json} {decode : Decoder α} {a : α} {names : List String} {ofRecord : Record → Option α}
  (encoded : encode a = record members)
  (decoded : ∀ depth json, decode depth json = (Record.open? names depth json).bind ofRecord)
  (known : (members.map Prod.fst).Sublist names) (distinct : names.Nodup)
include encoded decoded known distinct

theorem Keeps.record (read : ∀ depth, Fields members depth → ofRecord (opened members depth) = some a) :
    Keeps encode decode a := by
  intro depth bound
  rw [encoded, depth_record_le] at bound
  obtain ⟨n, rfl⟩ := Nat.exists_eq_add_of_le' bound.1
  rw [decoded, encoded, open?_record known distinct]
  exact read n ⟨known.nodup distinct, bound.2⟩

theorem Limits.record (read : ∀ depth b, (members.map Prod.fst).Nodup → ofRecord (opened members depth) = some b →
    ∀ member ∈ members, member.2.depth ≤ depth) : Limits encode decode a := by
  intro depth b found
  rw [decoded] at found
  cases depth with
  | zero =>
    rw [open?_zero] at found
    cases found
  | succ n =>
    rw [encoded, open?_record known distinct] at found
    rw [encoded, depth_record_le]
    exact ⟨Nat.succ_pos n, read n b (known.nodup distinct) found⟩

end Record

end Opened

section Values

variable {α : Type} {encode : α → Json} {decode : Decoder α}

theorem limits_of_depth {a : α} (flat : (encode a).depth = 0) : Limits encode decode a :=
  fun _ _ _ => flat ▸ Nat.zero_le _

theorem written_text (s : String) : (text s).written = text s := by rw [text, written] <;> simp

theorem keeps_text (s : String) : Keeps .text Decoder.text s := fun _ _ => by rw [written_text]; rfl

theorem keeps_bool (value : Bool) : Keeps .bool Decoder.bool value := fun _ _ => by rw [written] <;> simp [Decoder.bool]

theorem written_real {x : Binary64} (finite : x.isFinite = true) : (real x).written = real x := by
  rw [real, written, Numeral.written, if_pos finite]
  rfl

theorem text_ne_null (s : String) : (text s).written ≠ .null := by
  rw [written_text]
  exact nofun

theorem real_ne_null {x : Binary64} (finite : x.isFinite = true) : (real x).written ≠ .null := by
  rw [written_real finite]
  exact nofun

theorem record_ne_null (members : List (String × Json)) : (record members).written ≠ .null := by
  rw [written_record]
  exact nofun

theorem keeps_real {x : Binary64} (finite : x.isFinite = true) : Keeps .real Decoder.binary64 x := by
  intro depth _
  rw [written_real finite]
  exact if_pos finite

theorem written_natural {n : Nat} (bound : n < 18446744073709551616) : (integer n).written = integer n := by
  have sign : decide ((n : Int) < 0) = false := by simp
  have value : Binary64.signed (decide ((n : Int) < 0)) (n : Int).natAbs = n := by rw [sign]; rfl
  have held : Numeral.Holds64 n := ⟨by omega, by omega⟩
  rw [integer, written, Numeral.written, Numeral.ofWritten]
  dsimp only
  rw [if_pos ⟨rfl, rfl⟩, value, if_pos ⟨held, by simp [sign]⟩]

theorem keeps_natural {n bound : Nat} (small : n < bound) (held : bound ≤ 18446744073709551616) :
    Keeps (fun n : Nat => .integer n) (Decoder.natBelow bound) n := by
  intro depth _
  have inRange : (0 : Int) ≤ n ∧ (n : Int) < bound := ⟨by omega, by omega⟩
  rw [written_natural (by omega), integer, Decoder.natBelow, if_pos inRange, Int.toNat_natCast]

theorem keeps_named [Named α] (a : α) : Keeps Named.toJson (Named.decode : Decoder α) a := by
  intro depth _
  have name : Decoder.caseName depth (.string (some (Named.name a))) = some (Named.name a) := by cases depth <;> rfl
  rw [Named.toJson, written_text, text, Named.decode, name]
  exact Named.ofName?_name a

theorem Keeps.list {values : List α} (keeps : ∀ a ∈ values, Keeps encode decode a) :
    Keeps (fun values => .array (values.map encode)) decode.list values := by
  intro depth bound
  rw [depth_array_le, List.forall_mem_map] at bound
  obtain ⟨n, rfl⟩ := Nat.exists_eq_add_of_le' bound.1
  rw [written_array, Decoder.list, mapM_eq_some, List.map_map, List.map_map]
  exact List.map_congr_left fun a member => keeps a member n (bound.2 a member)

theorem Limits.list {values : List α} (limits : ∀ a ∈ values, Limits encode decode a) :
    Limits (fun values => .array (values.map encode)) decode.list values := by
  intro depth read found
  rw [written_array] at found
  cases depth with
  | zero => cases found
  | succ n =>
    rw [Decoder.list, mapM_eq_some, List.map_map, List.map_map] at found
    rw [depth_array_le, List.forall_mem_map]
    refine ⟨Nat.succ_pos n, ?_⟩
    intro a member
    have listed : decode n (encode a).written ∈ read.map some := found ▸ List.mem_map_of_mem member
    obtain ⟨b, -, inner⟩ := List.mem_map.mp listed
    exact limits a member n b inner.symm

end Values

/-- A value whose text keeps to every rule of a document that is deep enough. -/
def Plain (json : Json) : Prop := ∀ depth, json.depth ≤ depth → isStrict depth json.written = true

theorem allStrict_iff {depth : Nat} {items : List Json} :
    allStrict depth items = true ↔ ∀ item ∈ items, isStrict depth item = true := by
  induction items with
  | nil => simp [allStrict]
  | cons item items ih => simp [allStrict, ih]

theorem membersStrict_iff {depth : Nat} {members : List (Option String × Json)} :
    membersStrict depth members = true ↔ ∀ member ∈ members, member.1.isSome = true ∧ isStrict depth member.2 = true := by
  induction members with
  | nil => simp [membersStrict]
  | cons member members ih => simp [membersStrict, ih]

theorem depth_le_of_isStrict {depth : Nat} {json : Json} (strict : isStrict depth json = true) : json.depth ≤ depth := by
  induction json using partInduction generalizing depth with
  | null | bool _ | number _ | string _ => exact Nat.zero_le _
  | array items ih =>
    rw [isStrict, Bool.and_eq_true, decide_eq_true_iff, allStrict_iff] at strict
    exact depth_array_le.mpr ⟨strict.1, fun item inside => ih item inside (strict.2 item inside)⟩
  | object members ih =>
    rw [isStrict, Bool.and_eq_true, decide_eq_true_iff, membersStrict_iff] at strict
    exact depth_object_le.mpr ⟨strict.1, fun member inside => ih member inside (strict.2 member inside).2⟩

theorem plain_text (s : String) : Plain (text s) := fun _ _ => by rw [written_text, text, isStrict]; rfl

theorem plain_real {x : Binary64} (finite : x.isFinite = true) : Plain (real x) := by
  intro depth _
  rw [written_real finite, real, isStrict]
  exact finite

theorem plain_natural {n : Nat} (small : n < 1 <<< 53) : Plain (integer n) := by
  intro depth _
  rw [written_natural (by omega), integer, isStrict]
  exact Binary64.isFinite_ofInt small

theorem plain_array {items : List Json} (plain : ∀ item ∈ items, Plain item) : Plain (array items) := by
  intro depth bound
  rw [depth_array_le] at bound
  rw [written_array, isStrict, Bool.and_eq_true, decide_eq_true_iff, allStrict_iff, List.forall_mem_map]
  exact ⟨bound.1, fun item inside => plain item inside _ (bound.2 item inside)⟩

theorem plain_record {members : List (String × Json)} (plain : ∀ member ∈ members, Plain member.2) :
    Plain (record members) := by
  intro depth bound
  rw [depth_record_le] at bound
  rw [written_record, record, isStrict, Bool.and_eq_true, decide_eq_true_iff, membersStrict_iff,
    List.forall_mem_map, List.forall_mem_map]
  exact ⟨bound.1, fun member inside => ⟨rfl, plain member inside _ (bound.2 member inside)⟩⟩

end Handoff.Json
