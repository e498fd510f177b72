import Handoff.Manifest.Reading
import Handoff.Proofs.JsonValues
import Handoff.Proofs.TextExtents

/-! Where a manifest that is rejected is said to be wrong. Its text is searched for the key or
for the value of the field that is wrong, and the search knows nothing of tables: it stops at the
assignment of the field only if nothing above reads the same. -/

namespace Handoff

/-- Whether a token says nothing but where a word or a line ends. -/
def Toml.Token.isIdle : Token → Bool
  | .blank | .newline => true
  | _ => false

namespace Manifest
open Toml (Value)
open Text (Piece)

/-! Fields -/

/-- A field of a manifest that can be wrong. -/
inductive Field where
  | source (key : String)
  | output (key : String)
  | assets (key : String)
  /-- The variable of a colour. -/
  | token (color : String)
  /-- A field of an entry of the sections. -/
  | entry (index : Nat) (key : String)
  deriving DecidableEq

/-- The value of a record's field, given the names of all. -/
def member? (names : List String) (name : String) (value : Value) : Option Value :=
  (fields? names value).bind fun fields => Toml.Entries.find? fields name

/-- The parts of a list, as it is read. -/
def items? : Value → Option (List Value)
  | .array items => some items
  | .tables latestFirst => some (latestFirst.reverse.map (.table .header))
  | _ => none

/-- The value of a colour's field. A moment in place of the table is a field of its own. -/
def tokenValue? (color : String) : Value → Option Value
  | .table _ entries => Toml.Entries.find? entries color
  | .moment written => if color = momentKey then some (.text written) else none
  | _ => none

/-- The value that a document gives to a field. -/
def Field.value? (document : Toml.Entries) : Field → Option Value
  | source key =>
    (document.find? "source").bind (member? ["file_key", "node_id", "token_env", "base_url", "cache_ttl_secs"] key)
  | output key => (document.find? "output").bind (member? ["dir", "targets", "page", "title", "description"] key)
  | assets key => (document.find? "assets").bind (member? ["enabled", "format", "scale"] key)
  | token color => (document.find? "tokens").bind (tokenValue? color)
  | entry index key =>
    ((document.find? "sections").bind items?).bind fun items => items[index]?.bind (member? ["name", "node_id", "activation"] key)

/-! Flaws with the fields that have them -/

def Source.placedFlaws (source : Source) : List (Field × Flaw) :=
  (emptyFlaws "file_key" source.fileKey).map (.source "file_key", ·) ++
    (emptyFlaws "node_id" source.nodeId).map (.source "node_id", ·) ++
    (emptyFlaws "token_env" source.tokenVariable).map (.source "token_env", ·) ++
    (flawIf (!isWebAddress source.baseUrl) (.notWebAddress source.baseUrl)).map (.source "base_url", ·)

def Output.placedFlaws (output : Output) : List (Field × Flaw) :=
  (flawIf output.directory.text.isEmpty .noDirectory).map (.output "dir", ·) ++
    (flawIf output.targets.isEmpty .noTargets ++ (repeated [] output.targets).map Flaw.repeatedTarget).map (.output "targets", ·) ++
    (flawIf (!Naming.isKebabCase output.page) (.pageName output.page)).map (.output "page", ·)

def Assets.placedFlaws (assets : Assets) : List (Field × Flaw) := assets.flaws.map (.assets "scale", ·)

/-- The flaws of entries of the sections, given how many there are before them and their names. -/
def placedEntryFlaws : Nat → List String → List Section → List (Field × Flaw)
  | _, _, [] => []
  | index, names, item :: rest =>
    (flawIf (!Naming.isPascalCase item.name) (.sectionName item.name) ++
        flawIf (item.name ∈ names) (.repeatedSection item.name)).map (.entry index "name", ·) ++
      (emptyFlaws "node_id" item.nodeId).map (.entry index "node_id", ·) ++
      placedEntryFlaws (index + 1) (item.name :: names) rest

/-- The flaws of a manifest in the order in which they are reported, with the fields that have them. -/
def placedFlaws (manifest : Manifest) : List (Field × Flaw) :=
  manifest.source.placedFlaws ++ manifest.output.placedFlaws ++ manifest.assets.placedFlaws ++
    manifest.tokens.flatMap (fun token => (tokenFlaws token).map (.token token.1, ·)) ++ placedEntryFlaws 0 [] manifest.sections

private theorem map_placedEntryFlaws (index : Nat) (names : List String) (items : List Section) :
    (placedEntryFlaws index names items).map Prod.snd = sectionFlaws names items := by
  induction items generalizing index names with
  | nil => rfl
  | cons item rest ih =>
    simp only [placedEntryFlaws, sectionFlaws, List.map_append, List.map_map, Function.comp_def, List.map_id', ih]

private theorem map_placedFlaws (manifest : Manifest) : manifest.placedFlaws.map Prod.snd = manifest.flaws := by
  simp only [placedFlaws, flaws, Source.placedFlaws, Source.flaws, Output.placedFlaws, Output.flaws, Assets.placedFlaws,
    List.map_append, List.map_map, Function.comp_def, List.map_id', List.map_flatMap, map_placedEntryFlaws, List.append_assoc]

/-! Fields that are written -/

variable {α : Type} {fields : Fields} {name : String} {decoder : Decoder α} {value : α}

theorem found_of_required (read : required fields name decoder = some value) :
    ∃ written, Toml.Entries.find? fields name = some written ∧ decoder written = some value :=
  Option.bind_eq_some_iff.mp read

theorem found_of_defaulted {default : α} (read : defaulted fields name default decoder = some value) :
    value = default ∨ ∃ written, Toml.Entries.find? fields name = some written ∧ decoder written = some value := by
  rw [defaulted] at read
  split at read
  next written found => exact .inr ⟨written, found, read⟩
  next => exact .inl (Option.some.inj read).symm

theorem find?_of_required (read : required fields name decoder = some value) :
    ∃ written, Toml.Entries.find? fields name = some written :=
  (found_of_required read).imp fun _ => And.left

/-- A value other than the default was written. -/
theorem find?_of_defaulted {default : α} (read : defaulted fields name default decoder = some value) (other : value ≠ default) :
    ∃ written, Toml.Entries.find? fields name = some written :=
  ((found_of_defaulted read).resolve_left other).imp fun _ => And.left

theorem mem_flawIf {wrong : Bool} {flaw other : Flaw} : other ∈ flawIf wrong flaw ↔ wrong = true ∧ other = flaw := by
  cases wrong <;> simp [flawIf]

/-- What is wrong with a text that must not be blank. -/
theorem mem_emptyFlaws {key text : String} {flaw : Flaw} :
    flaw ∈ emptyFlaws key text ↔ (Text.trim text).isEmpty = true ∧ flaw = .empty key := mem_flawIf

variable {document : Toml.Entries} {field : Field} {flaw : Flaw} {record : Value}

theorem bind_member? {place : Option Value} {names : List String} (found : place = some record)
    (listed : fields? names record = some fields) (name : String) : place.bind (member? names name) = Toml.Entries.find? fields name := by
  rw [found, Option.bind_some, member?, listed, Option.bind_some]

private theorem written_of_sourceFlaw (found : document.find? "source" = some record) {source : Source}
    (decoded : asSource record = some source) (flawed : (field, flaw) ∈ source.placedFlaws) :
    ∃ written, field.value? document = some written := by
  simp only [asSource, Option.bind_eq_bind, Option.bind_eq_some_iff, Option.pure_def, Option.some.injEq] at decoded
  obtain ⟨fields, listed, fileKey, readKey, nodeId, readId, tokenVariable, readVariable, baseUrl, readAddress, timeToLive, -, rfl⟩ := decoded
  have value (key : String) : (Field.source key).value? document = Toml.Entries.find? fields key := bind_member? found listed key
  simp only [Source.placedFlaws, List.mem_append, List.mem_map, mem_emptyFlaws, mem_flawIf, Prod.mk.injEq] at flawed
  rcases flawed with ((⟨_, -, rfl, -⟩ | ⟨_, -, rfl, -⟩) | ⟨_, ⟨wrong, -⟩, rfl, -⟩) | ⟨_, ⟨wrong, -⟩, rfl, -⟩
  · exact value _ ▸ find?_of_required readKey
  · exact value _ ▸ find?_of_required readId
  · refine value _ ▸ find?_of_defaulted readVariable ?_
    rintro rfl
    revert wrong
    decide
  · refine value _ ▸ find?_of_defaulted readAddress ?_
    rintro rfl
    revert wrong
    decide

private theorem written_of_outputFlaw (found : document.find? "output" = some record) {output : Output}
    (decoded : asOutput record = some output) (flawed : (field, flaw) ∈ output.placedFlaws) :
    ∃ written, field.value? document = some written := by
  simp only [asOutput, Option.bind_eq_bind, Option.bind_eq_some_iff, Option.pure_def, Option.some.injEq] at decoded
  obtain ⟨fields, listed, directory, readDirectory, targets, readTargets, page, readPage, title, -, description, -, rfl⟩ := decoded
  have value (key : String) : (Field.output key).value? document = Toml.Entries.find? fields key := bind_member? found listed key
  simp only [Output.placedFlaws, List.mem_append, List.mem_map, mem_flawIf, Prod.mk.injEq] at flawed
  rcases flawed with (⟨_, ⟨wrong, -⟩, rfl, -⟩ | ⟨other, wrong, rfl, -⟩) | ⟨_, ⟨wrong, -⟩, rfl, -⟩
  · refine value _ ▸ find?_of_defaulted readDirectory ?_
    rintro rfl
    revert wrong
    decide
  · refine value _ ▸ find?_of_defaulted readTargets ?_
    rintro rfl
    rcases wrong with ⟨none, -⟩ | ⟨target, again, -⟩
    · cases none
    · revert again
      simp [repeated, Output.default]
  · refine value _ ▸ find?_of_defaulted readPage ?_
    rintro rfl
    revert wrong
    decide

private theorem written_of_assetsFlaw (found : document.find? "assets" = some record) {assets : Assets}
    (decoded : asAssets record = some assets) (flawed : (field, flaw) ∈ assets.placedFlaws) :
    ∃ written, field.value? document = some written := by
  simp only [asAssets, Option.bind_eq_bind, Option.bind_eq_some_iff, Option.pure_def, Option.some.injEq] at decoded
  obtain ⟨fields, listed, enabled, -, format, -, scale, readScale, rfl⟩ := decoded
  have value (key : String) : (Field.assets key).value? document = Toml.Entries.find? fields key := bind_member? found listed key
  simp only [Assets.placedFlaws, Assets.flaws, List.mem_map, mem_flawIf, Prod.mk.injEq] at flawed
  obtain ⟨_, ⟨wrong, -⟩, rfl, -⟩ := flawed
  refine value _ ▸ find?_of_defaulted readScale ?_
  intro same
  have fits : ¬(!isScale Assets.default.scale) = true := by decide +kernel
  exact fits (same ▸ wrong)

private theorem written_of_token (found : document.find? "tokens" = some record) {tokens : List (String × String)}
    (decoded : asTokens record = some tokens) {token : String × String} (listed : token ∈ tokens) :
    ∃ written, (Field.token token.1).value? document = some written := by
  rw [Field.value?, found]
  cases record with
  | moment written =>
    obtain rfl := Option.some.inj decoded
    obtain rfl := List.mem_singleton.mp listed
    exact ⟨.text written, by rw [Option.bind_some, tokenValue?, if_pos rfl]⟩
  | table origin entries =>
    simp only [asTokens, Option.bind_eq_bind, Option.bind_eq_some_iff, Option.pure_def, Option.some.injEq] at decoded
    obtain ⟨unsorted, each, rfl⟩ := decoded
    rw [Json.mapM_eq_some] at each
    have member : some token ∈ unsorted.map some := List.mem_map_of_mem (List.mem_mergeSort.mp listed)
    obtain ⟨entry, present, same⟩ := List.mem_map.mp (each ▸ member)
    obtain ⟨text, -, made⟩ := Option.bind_eq_some_iff.mp same
    obtain rfl := Option.some.inj made
    have known : (List.find? (fun other => other.1 = entry.1) entries).isSome = true :=
      List.find?_isSome.mpr ⟨entry, present, by simp⟩
    obtain ⟨first, here⟩ := Option.isSome_iff_exists.mp known
    exact ⟨first.2, by rw [Option.bind_some, tokenValue?, Toml.Entries.find?, here, Option.map_some]⟩
  | _ => cases decoded

private theorem exists_of_mem_placedEntryFlaws {start : Nat} {names : List String} {items : List Section}
    (flawed : (field, flaw) ∈ placedEntryFlaws start names items) : ∃ index, ∃ item : Section, items[index]? = some item ∧
      (field = .entry (start + index) "name" ∨ field = .entry (start + index) "node_id") := by
  induction items generalizing start names with
  | nil => cases flawed
  | cons item rest ih =>
    simp only [placedEntryFlaws, List.mem_append, List.mem_map, Prod.mk.injEq] at flawed
    rcases flawed with (⟨_, -, rfl, -⟩ | ⟨_, -, rfl, -⟩) | later
    · exact ⟨0, item, rfl, .inl rfl⟩
    · exact ⟨0, item, rfl, .inr rfl⟩
    · obtain ⟨index, other, place, same⟩ := ih later
      refine ⟨index + 1, other, place, ?_⟩
      rwa [← Nat.add_assoc, Nat.add_right_comm]

private theorem items?_of_asList {α : Type} {decoder : Decoder α} {items : List α}
    (decoded : asList decoder record = some items) :
    ∃ values, items? record = some values ∧ values.map decoder = items.map some := by
  cases record with
  | array values => exact ⟨values, rfl, Json.mapM_eq_some.mp decoded⟩
  | tables latestFirst =>
    refine ⟨_, rfl, ?_⟩
    rw [List.map_map]
    exact Json.mapM_eq_some.mp decoded
  | _ => cases decoded

private theorem written_of_entryFlaw (found : document.find? "sections" = some record) {items : List Section}
    (decoded : asList asSection record = some items) (flawed : (field, flaw) ∈ placedEntryFlaws 0 [] items) :
    ∃ written, field.value? document = some written := by
  obtain ⟨values, listed, each⟩ := items?_of_asList decoded
  obtain ⟨index, item, place, named⟩ := exists_of_mem_placedEntryFlaws flawed
  rw [Nat.zero_add] at named
  have same := congrArg (·[index]?) each
  simp only [List.getElem?_map, place, Option.map_some, Option.map_eq_some_iff] at same
  obtain ⟨value, here, read⟩ := same
  simp only [asSection, Option.bind_eq_bind, Option.bind_eq_some_iff, Option.pure_def, Option.some.injEq] at read
  obtain ⟨fields, members, name, readName, nodeId, readId, -⟩ := read
  have value (key : String) : (Field.entry index key).value? document = Toml.Entries.find? fields key := by
    simp only [Field.value?, found, listed, Option.bind_some, bind_member? here members]
  rcases named with rfl | rfl
  · exact value _ ▸ find?_of_required readName
  · exact value _ ▸ find?_of_required readId

/-- What is wrong was written: what a manifest has where nothing was is never wrong. -/
theorem written_of_flaw {manifest : Manifest} (decoded : ofTable document = some manifest)
    (flawed : (field, flaw) ∈ manifest.placedFlaws) : ∃ written, field.value? document = some written := by
  simp only [ofTable, fields?, Option.bind_eq_bind, Option.bind_eq_some_iff, Option.pure_def, Option.some.injEq,
    Option.ite_none_right_eq_some] at decoded
  obtain ⟨_, ⟨-, rfl⟩, source, readSource, output, readOutput, assets, readAssets, tokens, readTokens, items, readItems, rfl⟩ := decoded
  simp only [placedFlaws, List.mem_append] at flawed
  rcases flawed with (((inSource | inOutput) | inAssets) | inTokens) | inItems
  · obtain ⟨record, found, read⟩ := found_of_required readSource
    exact written_of_sourceFlaw found read inSource
  · rcases found_of_defaulted readOutput with rfl | ⟨record, found, read⟩
    · have clean : Output.default.placedFlaws = [] := by decide
      exact absurd inOutput (clean ▸ List.not_mem_nil)
    · exact written_of_outputFlaw found read inOutput
  · rcases found_of_defaulted readAssets with rfl | ⟨record, found, read⟩
    · have clean : Assets.default.placedFlaws = [] := by decide +kernel
      exact absurd inAssets (clean ▸ List.not_mem_nil)
    · exact written_of_assetsFlaw found read inAssets
  · rcases found_of_defaulted readTokens with rfl | ⟨record, found, read⟩
    · cases inTokens
    · obtain ⟨token, listed, inside⟩ := List.mem_flatMap.mp inTokens
      obtain ⟨_, -, same⟩ := List.mem_map.mp inside
      cases same
      exact written_of_token found read listed
  · rcases found_of_defaulted readItems with rfl | ⟨record, found, read⟩
    · cases inItems
    · exact written_of_entryFlaw found read inItems

/-! Pieces that assign -/

/-- Whether a text is a document that gives a value to a field, if it is a document. -/
def Field.isSet? (field : Field) (text : List Char) : Option Bool :=
  (Toml.parse (String.ofList text)).map fun document => (field.value? document).isSome

/-- A piece is the one statement of a text that gives a field its value. What stands above it is a
document already, but with no line end inside the piece; and it ends with the value. -/
structure Field.AssignedBy (field : Field) {text : List Char} (piece : Piece text) : Prop where
  unset : field.isSet? piece.before = some false
  set : field.isSet? (piece.before ++ piece.written) = some true
  single : ∀ first rest, piece.written = first ++ '\n' :: rest → field.isSet? (piece.before ++ first ++ ['\n']) = none
  ended : ((Toml.tokens piece.written).bind List.getLast?).any (!Toml.Token.isIdle ·) = true

/-- The value by which a flaw is found, if the text has it in quotes. -/
def Flaw.quoted? (flaw : Flaw) (text : List Char) : Option String :=
  flaw.place.2.filter fun value => !value.isEmpty && Text.occursIn (Text.inQuotes value.toList) text

/-- Nothing above a piece reads like what a flaw is found by: neither the value in quotes, which
stands in the piece, nor an assignment of the key. -/
def Flaw.IsForemost (flaw : Flaw) {text : List Char} (piece : Piece text) : Prop :=
  match flaw.quoted? text with
  | some value =>
    (∀ front, front ++ Text.inQuotes value.toList <+: text → piece.before.length ≤ front.length) ∧
      Text.inQuotes value.toList <:+: piece.written
  | none => Text.Unassigned flaw.place.1.toList piece.above

/-- A diagnostic points into a piece of a text. -/
def Diagnostic.PointsInto (diagnostic : Diagnostic) {text : List Char} (piece : Piece text) : Prop :=
  ∃ extent, diagnostic.extent = some extent ∧ piece.Holds extent

/-! Diagnostics -/

theorem quoted?_eq_some_iff {flaw : Flaw} {text value : String} :
    flaw.quoted? text.toList = some value ↔ flaw.place.2 = some value ∧ (Text.valueExtent? text value).isSome = true := by
  rw [Flaw.quoted?, Option.filter_eq_some_iff, Text.isSome_valueExtent?_iff, Bool.and_eq_true, Text.occursIn_iff_isInfix]
  simp

/-- A flaw is found at its value in quotes, or else at its key. -/
theorem extent_diagnostic (flaw : Flaw) (source : SourceText) :
    (flaw.diagnostic source).extent =
      match flaw.quoted? source.text.toList with
      | some value => Text.valueExtent? source.text value
      | none => Text.keyExtent? source.text flaw.place.1 := by
  rw [Flaw.diagnostic]
  split
  next key placed =>
    have none : flaw.quoted? source.text.toList = none := by
      rw [Flaw.quoted?, placed]
      rfl
    rw [none, placed]
    rfl
  next key value placed =>
    have named : flaw.place.2 = some value := congrArg Prod.snd placed
    simp only [SourceText.atValue, SourceText.diagnostic]
    cases found : Text.valueExtent? source.text value with
    | some extent =>
      have sought : flaw.quoted? source.text.toList = some value := quoted?_eq_some_iff.mpr ⟨named, by rw [found]; rfl⟩
      rw [sought, Option.some_or]
      exact found.symm
    | none =>
      have none : flaw.quoted? source.text.toList = none := by
        rw [Option.eq_none_iff_forall_ne_some]
        intro other sought
        obtain ⟨named', isSome⟩ := quoted?_eq_some_iff.mp sought
        obtain rfl := Option.some.inj (named'.symm.trans named)
        rw [found] at isSome
        cases isSome
      rw [none, Option.none_or, placed]

private theorem isForemost_of_pointsInto {flaw : Flaw} {source : SourceText} {piece : Piece source.text.toList}
    (points : (flaw.diagnostic source).PointsInto piece) : flaw.IsForemost piece := by
  rw [Diagnostic.PointsInto, extent_diagnostic] at points
  rw [Flaw.IsForemost]
  cases sought : flaw.quoted? source.text.toList with
  | some value =>
    rw [sought] at points
    obtain ⟨filled, quoted⟩ := Text.isSome_valueExtent?_iff.mp (quoted?_eq_some_iff.mp sought).2
    exact (Text.holds_valueExtent?_iff piece filled quoted).mp points
  | none =>
    rw [sought] at points
    obtain ⟨extent, found, holds⟩ := points
    exact Text.unassigned_of_holds found holds

private theorem pointsInto_of_isForemost {flaw : Flaw} {source : SourceText} {piece : Piece source.text.toList}
    (begins : flaw.quoted? source.text.toList = none → piece.BeginsWith flaw.place.1.toList)
    (foremost : flaw.IsForemost piece) : (flaw.diagnostic source).PointsInto piece := by
  rw [Diagnostic.PointsInto, extent_diagnostic]
  rw [Flaw.IsForemost] at foremost
  cases sought : flaw.quoted? source.text.toList with
  | some value =>
    rw [sought] at foremost
    obtain ⟨filled, quoted⟩ := Text.isSome_valueExtent?_iff.mp (quoted?_eq_some_iff.mp sought).2
    exact (Text.holds_valueExtent?_iff piece filled quoted).mpr foremost
  | none =>
    rw [sought] at foremost
    exact Text.holds_keyExtent? (begins sought) foremost

/-- The first flaw of the manifest that a text describes, with the field that has it. -/
def SourceText.rejection? (source : SourceText) : Option (Field × Flaw) :=
  ((Toml.parse source.text).bind ofTable).bind (·.placedFlaws.head?)

theorem read_eq_invalid_iff {source : SourceText} {diagnostic : Diagnostic} :
    Manifest.read source = .error (.invalid diagnostic) ↔
      ∃ field flaw, source.rejection? = some (field, flaw) ∧ diagnostic = flaw.diagnostic source := by
  rw [Manifest.read, SourceText.rejection?]
  cases (Toml.parse source.text).bind ofTable with
  | none => simp
  | some manifest =>
    simp only [← map_placedFlaws, Option.bind_some]
    cases manifest.placedFlaws with
    | nil => simp
    | cons placed rest =>
      obtain ⟨field, flaw⟩ := placed
      simp [eq_comm]

private theorem isSet?_of_rejection? {source : SourceText} (rejected : source.rejection? = some (field, flaw)) :
    field.isSet? source.text.toList = some true := by
  obtain ⟨manifest, read, first⟩ := Option.bind_eq_some_iff.mp rejected
  obtain ⟨document, parsed, decoded⟩ := Option.bind_eq_some_iff.mp read
  obtain ⟨written, found⟩ := written_of_flaw decoded (List.mem_of_head? first)
  rw [Field.isSet?, String.ofList_toList, parsed, Option.map_some, found]
  rfl

/-- A text that describes a manifest is rejected for a field that it gives a value. The diagnostic
points into the statement that does so only if nothing above reads the same; and then it does, if
it is found by the value or the statement begins with the key. -/
theorem rejected_pointsInto (source : SourceText) :
    (∀ diagnostic, Manifest.read source = .error (.invalid diagnostic) ↔
      ∃ field flaw, source.rejection? = some (field, flaw) ∧ diagnostic = flaw.diagnostic source) ∧
    ∀ field flaw, source.rejection? = some (field, flaw) →
      field.isSet? source.text.toList = some true ∧
      ∀ piece : Piece source.text.toList, field.AssignedBy piece →
        ((flaw.diagnostic source).PointsInto piece → flaw.IsForemost piece) ∧
        ((flaw.quoted? source.text.toList = none → piece.BeginsWith flaw.place.1.toList) →
          flaw.IsForemost piece → (flaw.diagnostic source).PointsInto piece) :=
  ⟨fun _ => read_eq_invalid_iff, fun _ _ rejected =>
    ⟨isSet?_of_rejection? rejected, fun _ _ => ⟨isForemost_of_pointsInto, pointsInto_of_isForemost⟩⟩⟩

/-- A statement on one line. -/
theorem Field.assignedBy_of_line {text : List Char} {piece : Piece text} (unset : field.isSet? piece.before = some false)
    (set : field.isSet? (piece.before ++ piece.written) = some true) (line : '\n' ∉ piece.written)
    (ended : ((Toml.tokens piece.written).bind List.getLast?).any (!Toml.Token.isIdle ·) = true) : field.AssignedBy piece where
  unset := unset
  set := set
  single := fun first _ same => absurd (same ▸ List.mem_append_right first List.mem_cons_self) line
  ended := ended

def largeScale : SourceText :=
  ⟨"[source]\nfile_key = \"abc\"\nnode_id = \"1:1\"\n\n[assets]\nscale = 8.0 # too large\n", "figura.toml"⟩

def largeScalePiece : Piece largeScale.text.toList where
  above := ["[source]".toList, "file_key = \"abc\"".toList, "node_id = \"1:1\"".toList, [], "[assets]".toList]
  indent := []
  written := "scale = 8.0".toList
  after := " # too large\n".toList
  whole := by simp [largeScale]
  lines := by simp
  indented := by simp
  apart := by simp

theorem rejected_pointsInto_scale :
    largeScale.rejection? = some (.assets "scale", .scale 8) ∧ (Field.assets "scale").AssignedBy largeScalePiece ∧
      ((Flaw.scale 8).diagnostic largeScale).PointsInto largeScalePiece := by
  have rejected : largeScale.rejection? = some (.assets "scale", .scale 8) := by decide +kernel
  have assigned : (Field.assets "scale").AssignedBy largeScalePiece :=
    Field.assignedBy_of_line (by decide +kernel) (by decide +kernel) (by decide) (by decide +kernel)
  have solid : ∀ c ∈ "scale".toList, Text.isBlank c = false := List.forall_iff_forall_mem.mp (by decide)
  have begins : largeScalePiece.BeginsWith (Flaw.scale 8).place.1.toList :=
    ⟨by simp [largeScalePiece], "scale".toList, [' '], " 8.0".toList, ⟨by decide, .inl ⟨rfl, solid⟩⟩, by simp, rfl⟩
  have foremost : (Flaw.scale 8).IsForemost largeScalePiece :=
    show Text.Unassigned "scale".toList largeScalePiece.above by decide +kernel
  exact ⟨rejected, assigned, (((rejected_pointsInto largeScale).2 _ _ rejected).2 _ assigned).2 (fun _ => begins) foremost⟩

def blankEntry : SourceText :=
  ⟨"[source]\nfile_key = \"k\"\nnode_id = \"0:1\"\n\n[[sections]]\nname = \"Hero\"\nnode_id = \"\"\n", "figura.toml"⟩

/-- The id of the entry of the sections. -/
def entryPiece : Piece blankEntry.text.toList where
  above := ["[source]".toList, "file_key = \"k\"".toList, "node_id = \"0:1\"".toList, [], "[[sections]]".toList, "name = \"Hero\"".toList]
  indent := []
  written := "node_id = \"\"".toList
  after := "\n".toList
  whole := by simp [blankEntry]
  lines := by simp
  indented := by simp
  apart := by simp

/-- The id of the source. -/
def sourcePiece : Piece blankEntry.text.toList where
  above := ["[source]".toList, "file_key = \"k\"".toList]
  indent := []
  written := "node_id = \"0:1\"".toList
  after := "\n\n[[sections]]\nname = \"Hero\"\nnode_id = \"\"\n".toList
  whole := by simp [blankEntry]
  lines := by simp
  indented := by simp
  apart := by simp

/-- An entry of the sections without an id, and a diagnostic that points at the id of the source. -/
theorem pointsInto_other_table :
    ∃ diagnostic extent, Manifest.read blankEntry = .error (.invalid diagnostic) ∧ diagnostic.extent = some extent ∧
      blankEntry.rejection? = some (.entry 0 "node_id", .empty "node_id") ∧
      (Field.entry 0 "node_id").AssignedBy entryPiece ∧ ¬diagnostic.PointsInto entryPiece ∧
      (Field.source "node_id").AssignedBy sourcePiece ∧ diagnostic.PointsInto sourcePiece := by
  have rejected : blankEntry.rejection? = some (.entry 0 "node_id", .empty "node_id") := by decide +kernel
  have extent : ((Flaw.empty "node_id").diagnostic blankEntry).extent = some ⟨24, 7⟩ := by decide +kernel
  refine ⟨_, ⟨24, 7⟩, read_eq_invalid_iff.mpr ⟨_, _, rejected, rfl⟩, extent, rejected, ?_, ?_, ?_, ?_⟩
  · exact Field.assignedBy_of_line (by decide +kernel) (by decide +kernel) (by decide) (by decide +kernel)
  · rintro ⟨other, found, holds⟩
    obtain rfl := Option.some.inj (extent.symm.trans found)
    revert holds
    decide +kernel
  · exact Field.assignedBy_of_line (by decide +kernel) (by decide +kernel) (by decide) (by decide +kernel)
  · exact ⟨⟨24, 7⟩, extent, by decide +kernel⟩

end Manifest

end Handoff
