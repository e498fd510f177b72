import Handoff.Proofs.JsonValues
import Handoff.Proofs.OrderedMaps

/-! What a decoder promises about the values it reads. The room of a value is how deep a
decoder can look into it: no deeper than it may, and no deeper than the value nests. -/

namespace Handoff.Json

/-- A value is a part of the array or object around it. -/
inductive Part : Json → Json → Prop
  | item {items : List Json} {item : Json} (inside : item ∈ items) : Part (.array items) item
  | member {members : List (Option String × Json)} {member : Option String × Json} (inside : member ∈ members) :
    Part (.object members) member.2

theorem Part.depth_lt {outer inner : Json} (part : Part outer inner) : inner.depth < outer.depth := by
  cases part with
  | item inside =>
    rw [depth, Nat.lt_succ_iff]
    exact itemsDepth_le_iff.mp (Nat.le_refl _) _ inside
  | member inside =>
    rw [depth, Nat.lt_succ_iff]
    exact membersDepth_le_iff.mp (Nat.le_refl _) _ inside

theorem Part.record {members : List (String × Json)} {member : String × Json} (inside : member ∈ members) :
    Part (record members) member.2 := by
  have named : (some member.1, member.2) ∈ members.map fun member => (some member.1, member.2) :=
    List.mem_map.mpr ⟨member, inside, rfl⟩
  exact .member named

/-- A value some levels inside another. -/
inductive Nested : Nat → Json → Json → Prop
  | self (json : Json) : Nested 0 json json
  | part {levels : Nat} {outer middle inner : Json} (part : Part outer middle) (nested : Nested levels middle inner) :
    Nested (levels + 1) outer inner

namespace Nested

private theorem depth_le {levels : Nat} {outer inner : Json} (nested : Nested levels outer inner) :
    inner.depth + levels ≤ outer.depth := by
  induction nested with
  | self json => exact Nat.le_refl _
  | part part nested ih =>
    have deeper := part.depth_lt
    omega

theorem trans {first second : Nat} {outer middle inner : Json} (toMiddle : Nested first outer middle)
    (toInner : Nested second middle inner) : Nested (second + first) outer inner := by
  induction toMiddle with
  | self json => exact toInner
  | part part nested ih => exact .part part (ih toInner)

end Nested

/-- Where a value was read: some levels inside a JSON value, with as much less room. -/
def ReadInside {α : Type} (decode : Decoder α) (levels depth : Nat) (json : Json) (a : α) : Prop :=
  ∃ room inner, depth = room + levels ∧ Nested levels json inner ∧ decode room inner = some a

theorem ReadInside.trans {α β : Type} {decode : Decoder α} {decodeInner : Decoder β} {outer inner depth : Nat}
    {json : Json} {a : α} {b : β}
    (read : ReadInside decode outer depth json a)
    (deeper : ∀ {room part}, decode room part = some a → ReadInside decodeInner inner room part b) :
    ReadInside decodeInner (inner + outer) depth json b := by
  obtain ⟨room, part, rfl, nested, read⟩ := read
  obtain ⟨left, innermost, rfl, further, found⟩ := deeper read
  exact ⟨left, innermost, Nat.add_assoc left inner outer, nested.trans further, found⟩

/-- A promise about every value that is read from a JSON value with some room. -/
def Promises {α : Type} (decode : Decoder α) (promise : Nat → α → Prop) : Prop :=
  ∀ {depth json a bound}, decode depth json = some a → min depth json.depth ≤ bound → promise bound a

namespace Record

private theorem mem_of_named_after {names : List String} {members : List (Option String × Json)}
    {before fields : List (String × Json)} (read : members.foldlM (fun fields (name, value) => do
      let name ← name
      if name ∈ names then
        if fields.any (·.1 = name) then none else return fields ++ [(name, value)]
      else return fields) before = some fields) : ∀ field ∈ fields, field ∈ before ∨ (some field.1, field.2) ∈ members := by
  intro field member
  induction members generalizing before with
  | nil =>
    obtain rfl : before = fields := Option.some.inj read
    exact .inl member
  | cons first members ih =>
    rw [List.foldlM_cons] at read
    simp only [Option.bind_eq_bind, Option.bind_eq_some_iff] at read
    obtain ⟨next, ⟨name, named, taken⟩, rest⟩ := read
    rcases ih rest with early | late
    · repeat' split at taken
      all_goals simp only [Option.pure_def, Option.some.injEq, reduceCtorEq] at taken
      · subst taken
        rcases List.mem_append.mp early with before | last
        · exact .inl before
        · rw [List.mem_singleton.mp last, ← named]
          exact .inr List.mem_cons_self
      · exact .inl (taken ▸ early)
    · exact .inr (List.mem_cons_of_mem _ late)

private theorem mem_of_named {names : List String} {members : List (Option String × Json)} {fields : List (String × Json)}
    (read : named names members = some fields) : ∀ field ∈ fields, (some field.1, field.2) ∈ members :=
  fun field member => (mem_of_named_after read field member).resolve_left List.not_mem_nil

theorem open?_parts {names : List String} {depth : Nat} {json : Json} {record : Record}
    (read : open? names depth json = some record) :
    depth = record.depth + 1 ∧ 0 < json.depth ∧ ∀ field ∈ record.fields, Part json field.2 := by
  unfold open? at read
  split at read
  next n members =>
    obtain ⟨fields, named, made⟩ := Option.bind_eq_some_iff.mp read
    obtain rfl : (⟨false, fields, n⟩ : Record) = record := Option.some.inj made
    exact ⟨rfl, Nat.succ_pos _, fun field member => .member (mem_of_named named field member)⟩
  next n items =>
    split at read
    · obtain rfl := Option.some.inj read
      exact ⟨rfl, Nat.succ_pos _, fun field member => .item (List.of_mem_zip member).2⟩
    · cases read
  next => cases read

section Inside

variable {α : Type} {names : List String} {depth : Nat} {json : Json} {record : Record}
  (opened : open? names depth json = some record)
  {name : String} {decode : Decoder α}
include opened

theorem inside_of_found {field : Json} {a : α} (found : record.find? name = some field)
    (read : decode record.depth field = some a) :
    ReadInside decode 1 depth json a := by
  obtain ⟨rfl, -, parts⟩ := open?_parts opened
  obtain ⟨member, first, rfl⟩ := Option.map_eq_some_iff.mp found
  exact ⟨_, _, rfl, .part (parts member (List.mem_of_find?_eq_some first)) (.self _), read⟩

theorem inside_of_required {a : α} (read : record.required name decode = some a) : ReadInside decode 1 depth json a := by
  obtain ⟨field, found, read⟩ := Option.bind_eq_some_iff.mp read
  exact inside_of_found opened found read

theorem inside_of_defaulted {a default : α} (read : record.defaulted name default decode = some a) :
    a = default ∨ ReadInside decode 1 depth json a := by
  unfold Record.defaulted at read
  split at read
  next field found => exact .inr (inside_of_found opened found read)
  next => exact .inl (Option.some.inj read).symm

end Inside

/-- The fields of a record that was read with some room. -/
def Within (record : Record) (bound : Nat) : Prop := ∀ field ∈ record.fields, min record.depth field.2.depth ≤ bound

/-- Opening a record takes one level of the room. -/
theorem open?_within {names : List String} {depth bound : Nat} {json : Json} {record : Record}
    (read : open? names depth json = some record) (room : min depth json.depth ≤ bound) :
    ∃ inner, bound = inner + 1 ∧ record.Within inner := by
  obtain ⟨rfl, deep, parts⟩ := open?_parts read
  obtain ⟨inner, rfl⟩ : ∃ inner, bound = inner + 1 := ⟨bound - 1, by omega⟩
  refine ⟨inner, rfl, ?_⟩
  intro field member
  have deeper := (parts field member).depth_lt
  omega

section Fields

variable {α : Type} {record : Record} {bound : Nat} (within : record.Within bound) {decode : Decoder α}
  {promise : Nat → α → Prop} (promises : Promises decode promise) {name : String}
include within promises

theorem Within.found {json : Json} {a : α} (found : record.find? name = some json)
    (read : decode record.depth json = some a) : promise bound a := by
  obtain ⟨field, first, rfl⟩ := Option.map_eq_some_iff.mp found
  exact promises read (within field (List.mem_of_find?_eq_some first))

theorem Within.required {a : α} (read : record.required name decode = some a) : promise bound a := by
  obtain ⟨json, found, read⟩ := Option.bind_eq_some_iff.mp read
  exact within.found promises found read

theorem Within.defaulted {a default : α} (read : record.defaulted name default decode = some a) :
    a = default ∨ promise bound a := by
  unfold Record.defaulted at read
  split at read
  next json found => exact .inr (within.found promises found read)
  next => exact .inl (Option.some.inj read).symm

theorem Within.nullable {a : Option α} (read : record.nullable name decode = some a) :
    ∀ value ∈ a, promise bound value := by
  have given : ∀ {json}, record.find? name = some json → decode.nullable record.depth json = some a →
    ∀ value ∈ a, promise bound value := by
    intro json found read value member
    unfold Decoder.nullable at read
    split at read
    · obtain rfl := Option.some.inj read
      cases member
    · obtain ⟨b, inner, rfl⟩ := Option.map_eq_some_iff.mp read
      obtain rfl := Option.some.inj member
      exact within.found promises found inner
  unfold Record.nullable at read
  split at read
  · obtain ⟨json, found, read⟩ := Option.bind_eq_some_iff.mp read
    exact given found read
  · unfold Record.optional Record.defaulted at read
    split at read
    next json found => exact given found read
    next =>
      obtain rfl := Option.some.inj read
      exact fun _ member => nomatch member

end Fields

end Record

theorem mem_of_mapM {β γ : Type} {f : β → Option γ} {values : List β} {results : List γ}
    (all : values.mapM f = some results)
    {result : γ} (member : result ∈ results) : ∃ value ∈ values, f value = some result := by
  have listed : some result ∈ values.map f := mapM_eq_some.mp all ▸ List.mem_map_of_mem member
  exact List.mem_map.mp listed

section Inside

variable {α : Type} {decode : Decoder α} {depth : Nat} {json : Json}

theorem inside_of_list {values : List α} (read : decode.list depth json = some values) :
    ∀ a ∈ values, ReadInside decode 1 depth json a := by
  intro a member
  unfold Decoder.list at read
  split at read
  next n items =>
    obtain ⟨item, inside, found⟩ := mem_of_mapM read member
    exact ⟨n, item, rfl, .part (.item inside) (.self item), found⟩
  next => cases read

theorem inside_of_map {map : OrderedMap String α} (read : Decoder.map decode depth json = some map) :
    ∀ entry ∈ map.entries, ReadInside decode 1 depth json entry.2 := by
  intro entry member
  unfold Decoder.map at read
  split at read
  next n members =>
    obtain ⟨pairs, all, made⟩ := Option.bind_eq_some_iff.mp read
    obtain rfl := Option.some.inj made
    obtain ⟨given, inside, found⟩ := mem_of_mapM all (OrderedMap.mem_of_mem_ofList member)
    simp only [Option.bind_eq_bind, Option.bind_eq_some_iff] at found
    obtain ⟨key, -, value, found, same⟩ := found
    obtain rfl := Option.some.inj same
    exact ⟨n, given.2, rfl, .part (.member inside) (.self _), found⟩
  next => cases read

theorem inside_of_nullable {a : α} (read : decode.nullable depth json = some (some a)) : decode depth json = some a := by
  unfold Decoder.nullable at read
  split at read
  · cases read
  · obtain ⟨b, found, same⟩ := Option.map_eq_some_iff.mp read
    obtain rfl := Option.some.inj same
    exact found

end Inside

namespace Promises

variable {α : Type} {decode : Decoder α} {promise : Nat → α → Prop}

/-- What a record promises is what its fields promise, with one level less. -/
theorem record {names : List String} {ofRecord : Record → Option α}
    (decoded : ∀ depth json, decode depth json = (Record.open? names depth json).bind ofRecord)
    (read : ∀ {record inner a}, record.Within inner → ofRecord record = some a → promise (inner + 1) a) :
    Promises decode promise := by
  intro depth json a bound found room
  rw [decoded] at found
  obtain ⟨record, opened, made⟩ := Option.bind_eq_some_iff.mp found
  obtain ⟨inner, rfl, within⟩ := Record.open?_within opened room
  exact read within made

theorem binary64 : Promises Decoder.binary64 fun _ x => x.isFinite = true := by
  intro depth json x bound read _
  unfold Decoder.binary64 at read
  split at read
  · split at read
    next finite =>
      obtain rfl := Option.some.inj read
      exact finite
    next => cases read
  · cases read

variable (promises : Promises decode promise)
include promises

theorem inside {levels depth bound : Nat} {json : Json} {a : α} (read : ReadInside decode levels depth json a)
    (room : min depth json.depth ≤ bound) : levels ≤ bound ∧ promise (bound - levels) a := by
  obtain ⟨left, inner, rfl, nested, found⟩ := read
  have deeper := nested.depth_le
  exact ⟨by omega, promises found (by omega)⟩

theorem list : Promises decode.list fun bound values => ∀ a ∈ values, 1 ≤ bound ∧ promise (bound - 1) a :=
  fun read room a member => promises.inside (inside_of_list read a member) room

theorem listed {record : Record} {bound : Nat} (within : record.Within bound) {name : String} {values : List α}
    (read : record.defaulted name [] decode.list = some values) : ∀ a ∈ values, 1 ≤ bound ∧ promise (bound - 1) a := by
  rcases within.defaulted promises.list read with rfl | promised
  · exact List.forall_mem_nil _
  · exact promised

end Promises

end Handoff.Json
