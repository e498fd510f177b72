import Handoff.Proofs.MarkupReader
import Handoff.Proofs.MarkupSpelling

/-! Reading what the printer wrote. The reader passes through a printed element with its
stack unchanged and one more child; the white space of an indented element becomes blank
texts beside its children, which are dropped when the element is closed. -/

namespace Handoff.Markup

/-- A table whose spellings the reader takes back. The ampersand must be among them, or a
text could spell an entity of its own. -/
structure Decodable (table : Text.EscapeTable) : Prop where
  ampersand : (table.find? (·.1 = '&')).isSome
  entity : ∀ entry ∈ table, ∀ rest, decodeAfter none (entry.2.toList ++ rest) = (decodeAfter none rest).map (entry.1 :: ·)

theorem decodeAfter_plain {c : Char} (plain : c ≠ '&') (rest : List Char) :
    decodeAfter none (c :: rest) = (decodeAfter none rest).map (c :: ·) := by
  rw [decodeAfter]
  exact fun same => plain same

private theorem decodeAfter_escapeChar {table : Text.EscapeTable} (decodable : Decodable table) (c : Char) (rest : List Char) :
    decodeAfter none (Text.escapeChar table c ++ rest) = (decodeAfter none rest).map (c :: ·) := by
  unfold Text.escapeChar
  split
  next entry written found =>
    have same : entry = c := by simpa using List.find?_some found
    subst same
    exact decodable.entity _ (List.mem_of_find?_eq_some found) rest
  next missing =>
    refine decodeAfter_plain ?_ rest
    rintro rfl
    simpa [missing] using decodable.ampersand

theorem decode_escape {table : Text.EscapeTable} (decodable : Decodable table) (s : String) :
    decode (Text.escape table s).toList = some s.toList := by
  have chars : ∀ cs : List Char, decodeAfter none (cs.flatMap (Text.escapeChar table)) = some cs := by
    intro cs
    induction cs with
    | nil => rfl
    | cons c rest ih => rw [List.flatMap_cons, decodeAfter_escapeChar decodable, ih, Option.map_some]
  simpa [Text.escape, decode] using chars s.toList

private theorem decode_plain {cs : List Char} (plain : ∀ c ∈ cs, c ≠ '&') : decode cs = some cs := by
  induction cs with
  | nil => rfl
  | cons c rest ih =>
    have tail := ih fun d member => plain d (List.mem_cons_of_mem _ member)
    rw [decode, decodeAfter_plain (plain c List.mem_cons_self), ← decode, tail, Option.map_some]

private theorem decodable_attributeEntities : Decodable attributeEntities := by
  refine ⟨by decide, ?_⟩
  rintro entry member rest
  simp only [attributeEntities, List.mem_cons, List.not_mem_nil, or_false] at member
  rcases member with rfl | rfl <;> rfl

/-- A character that a table replaces and never writes. -/
def Avoids (table : Text.EscapeTable) (c : Char) : Prop :=
  (table.find? (·.1 = c)).isSome ∧ ∀ entry ∈ table, c ∉ entry.2.toList

instance (table : Text.EscapeTable) (c : Char) : Decidable (Avoids table c) := inferInstanceAs (Decidable (_ ∧ _))

theorem not_mem_escape {table : Text.EscapeTable} {c : Char} (avoids : Avoids table c) (s : String) :
    c ∉ (Text.escape table s).toList := by
  rw [Text.escape, String.toList_ofList, List.mem_flatMap]
  rintro ⟨d, -, member⟩
  unfold Text.escapeChar at member
  split at member
  next found => exact avoids.2 _ (List.mem_of_find?_eq_some found) member
  next missing =>
    rw [List.mem_singleton] at member
    subst member
    simpa [missing] using avoids.1

/-- Names the reader takes as they are. -/
def IsName (name : String) : Prop := name.toList ≠ [] ∧ ∀ c ∈ name.toList, isNameChar c = true

instance (name : String) : Decidable (IsName name) := @instDecidableAnd _ _ _ (List.decidableBAll _ _)

theorem IsName.exists_cons {name : String} (named : IsName name) :
    ∃ first more, name.toList = first :: more ∧ isNameChar first = true ∧ ∀ c ∈ more, isNameChar c = true := by
  obtain ⟨nonempty, chars⟩ := named
  obtain ⟨first, more, spelling⟩ := List.exists_cons_of_ne_nil nonempty
  exact ⟨first, more, spelling, chars first (by simp [spelling]), fun c member => chars c (by simp [spelling, member])⟩

theorem ne_of_isNameChar {c d : Char} (named : isNameChar c = true) (other : isNameChar d = false) : c ≠ d := by
  rintro rfl
  simp [named] at other

namespace Reader

variable {stack : List OpenElement} {children : List Markup}

theorem run_cons (reader : Reader) (c : Char) (rest : List Char) :
    reader.run (c :: rest) = (reader.step c).bind (·.run rest) := rfl

theorem run_collecting (phase : List Char → Phase) (accepts : Char → Prop)
    (collects : ∀ waiting c, accepts c →
      step ⟨phase waiting, stack, children⟩ c = some ⟨phase (c :: waiting), stack, children⟩)
    {text : List Char} (accepted : ∀ c ∈ text, accepts c) (waiting rest : List Char) :
    run ⟨phase waiting, stack, children⟩ (text ++ rest) =
      run ⟨phase (text.reverse ++ waiting), stack, children⟩ rest := by
  induction text generalizing waiting with
  | nil => rfl
  | cons c text ih =>
    rw [List.cons_append, run_cons, collects waiting c (accepted c List.mem_cons_self), Option.bind_some,
      ih (fun d member => accepted d (List.mem_cons_of_mem _ member))]
    simp

theorem run_content {text : List Char} (plain : ∀ c ∈ text, c ≠ '<' ∧ c ≠ '>') (waiting rest : List Char) :
    run ⟨.content waiting, stack, children⟩ (text ++ rest) =
      run ⟨.content (text.reverse ++ waiting), stack, children⟩ rest := by
  refine run_collecting .content (fun c => c ≠ '<' ∧ c ≠ '>') ?_ plain waiting rest
  intro waiting c accepted
  simp [step, accepted.1, accepted.2]

private theorem run_value (tag : StartTag) (name : String) {text : List Char} (plain : ∀ c ∈ text, c ≠ '"')
    (waiting rest : List Char) : run ⟨.value tag name waiting, stack, children⟩ (text ++ rest) =
      run ⟨.value tag name (text.reverse ++ waiting), stack, children⟩ rest := by
  refine run_collecting (.value tag name) (· ≠ '"') ?_ plain waiting rest
  intro waiting c accepted
  simp [step, accepted]

private theorem run_tagName {name : List Char} (named : ∀ c ∈ name, isNameChar c = true) (waiting rest : List Char) :
    run ⟨.tagName waiting, stack, children⟩ (name ++ rest) =
      run ⟨.tagName (name.reverse ++ waiting), stack, children⟩ rest := by
  refine run_collecting .tagName (isNameChar · = true) ?_ named waiting rest
  intro waiting c accepted
  simp [step, accepted]

private theorem run_attributeName (tag : StartTag) {name : List Char} (named : ∀ c ∈ name, isNameChar c = true)
    (waiting rest : List Char) : run ⟨.attributeName tag waiting, stack, children⟩ (name ++ rest) =
      run ⟨.attributeName tag (name.reverse ++ waiting), stack, children⟩ rest := by
  refine run_collecting (.attributeName tag) (isNameChar · = true) ?_ named waiting rest
  intro waiting c accepted
  simp [step, accepted]

private theorem run_closing {name : List Char} (named : ∀ c ∈ name, isNameChar c = true) (waiting rest : List Char) :
    run ⟨.closing waiting, stack, children⟩ (name ++ rest) =
      run ⟨.closing (name.reverse ++ waiting), stack, children⟩ rest := by
  refine run_collecting .closing (isNameChar · = true) ?_ named waiting rest
  intro waiting c accepted
  have bracket : c ≠ '>' := ne_of_isNameChar accepted (by decide)
  simp [step, accepted, bracket]

/-- A phase that has read a start tag up to here and lets any part of it follow. -/
def Ready (phase : Phase) (tag : StartTag) : Prop :=
  ∀ stack children c, isNameChar c = false → c ≠ '=' →
    step ⟨phase, stack, children⟩ c = afterPart ⟨phase, stack, children⟩ tag c

private theorem ready_tagName (name : List Char) : Ready (.tagName name) ⟨String.ofList name.reverse, []⟩ := by
  intro stack children c other _
  simp [step, other]

private theorem ready_attributeName (tag : StartTag) (name : List Char) :
    Ready (.attributeName tag name) (tag.add (.flag (String.ofList name.reverse))) := by
  intro stack children c other equals
  simp [step, other, equals]

private theorem ready_afterValue (tag : StartTag) : Ready (.afterValue tag) tag := fun _ _ _ _ _ => rfl

private theorem run_attributeStart {phase : Phase} {tag : StartTag} (ready : Ready phase tag) {name : String}
    (named : IsName name) : ∃ waiting : List Char, String.ofList waiting.reverse = name ∧ ∀ stack children rest,
      run ⟨phase, stack, children⟩ (' ' :: name.toList ++ rest) =
        run ⟨.attributeName tag waiting, stack, children⟩ rest := by
  obtain ⟨first, more, spelling, firstNamed, moreNamed⟩ := named.exists_cons
  refine ⟨more.reverse ++ [first], by simp [← spelling], ?_⟩
  intro stack children rest
  rw [spelling, List.cons_append, run_cons, ready _ _ _ (by decide) (by decide), ← run_attributeName tag moreNamed]
  simp [afterPart, run_cons, step, firstNamed]

/-- The reader takes a printed attribute and is ready for the next one. -/
theorem run_attribute {phase : Phase} {tag : StartTag} (ready : Ready phase tag) {written : Attribute}
    (named : IsName written.name) :
    ∃ next, Ready next (tag.add written) ∧ ∀ stack children rest,
      run ⟨phase, stack, children⟩ ((writeAttribute written).toList ++ rest) = run ⟨next, stack, children⟩ rest := by
  obtain ⟨waiting, name, started⟩ := run_attributeStart ready named
  cases written with
  | flag label =>
    refine ⟨.attributeName tag waiting, ?_, ?_⟩
    · have ready := ready_attributeName tag waiting
      rwa [name] at ready
    · intro stack children rest
      simpa [writeAttribute, Attribute.name] using started stack children rest
  | value label text =>
    refine ⟨.afterValue (tag.add (.value label text)), ready_afterValue _, ?_⟩
    intro stack children rest
    have quoted : ∀ c ∈ (Text.escape attributeEntities text).toList, c ≠ '"' := by
      rintro c member rfl
      exact not_mem_escape (by decide) text member
    have decoded := decode_escape decodable_attributeEntities text
    have equalsSign : isNameChar '=' = false := by decide
    let escaped := (Text.escape attributeEntities text).toList
    calc run ⟨phase, stack, children⟩ ((writeAttribute (.value label text)).toList ++ rest)
      _ = run ⟨.attributeName tag waiting, stack, children⟩ ('=' :: '"' :: (escaped ++ '"' :: rest)) := by
        simpa [writeAttribute, Attribute.name, escaped] using
          started stack children ('=' :: '"' :: (escaped ++ '"' :: rest))
      _ = run ⟨.value tag label [], stack, children⟩ (escaped ++ '"' :: rest) := by
        simp [run_cons, step, equalsSign, name, Attribute.name]
      _ = run ⟨.value tag label escaped.reverse, stack, children⟩ ('"' :: rest) := by
        simpa using run_value tag label quoted [] ('"' :: rest)
      _ = run ⟨.afterValue (tag.add (.value label text)), stack, children⟩ rest := by
        simp [run_cons, step, escaped, decoded]

private theorem run_attributes {phase : Phase} {tag : StartTag} (ready : Ready phase tag) {attributes : List Attribute}
    (named : ∀ written ∈ attributes, IsName written.name) :
    ∃ next, Ready next ⟨tag.name, attributes.reverse ++ tag.attributes⟩ ∧ ∀ stack children rest,
      run ⟨phase, stack, children⟩ ((String.join (attributes.map writeAttribute)).toList ++ rest) =
        run ⟨next, stack, children⟩ rest := by
  induction attributes generalizing phase tag with
  | nil => exact ⟨phase, ready, fun _ _ _ => by simp⟩
  | cons written attributes ih =>
    obtain ⟨middle, middleReady, first⟩ := run_attribute ready (named written List.mem_cons_self)
    obtain ⟨next, nextReady, more⟩ := ih middleReady fun other member => named other (List.mem_cons_of_mem _ member)
    refine ⟨next, by simpa [StartTag.add] using nextReady, ?_⟩
    intro stack children rest
    rw [List.map_cons, String.join_cons, String.toList_append, List.append_assoc, first, more]

/-- The text that waits before a tag, as children in reverse. -/
def textBefore (waiting text : List Char) : List Markup :=
  if waiting.isEmpty then [] else [.text (String.ofList text)]

theorem endText_eq {waiting text : List Char} (decoded : decode waiting.reverse = some text) (phase next : Phase) :
    endText ⟨phase, stack, children⟩ waiting next = some ⟨next, stack, textBefore waiting text ++ children⟩ := by
  unfold endText textBefore
  split <;> simp [decoded]

/-- The reader takes a start tag up to its end, with text before it. -/
theorem run_openTag {tag : String} (tagNamed : IsName tag) {attributes : List Attribute}
    (named : ∀ written ∈ attributes, IsName written.name) {waiting text : List Char}
    (decoded : decode waiting.reverse = some text) :
    ∃ next, Ready next ⟨tag, attributes.reverse⟩ ∧ ∀ stack children rest,
      run ⟨.content waiting, stack, children⟩ ((openTag tag attributes).toList ++ rest) =
        run ⟨next, stack, textBefore waiting text ++ children⟩ rest := by
  obtain ⟨first, more, spelling, firstNamed, moreNamed⟩ := tagNamed.exists_cons
  have slash : first ≠ '/' := ne_of_isNameChar firstNamed (by decide)
  have name : String.ofList (more.reverse ++ [first]).reverse = tag := by simp [← spelling]
  have ready := ready_tagName (more.reverse ++ [first])
  rw [name] at ready
  obtain ⟨next, nextReady, taken⟩ := run_attributes ready named
  refine ⟨next, by simpa using nextReady, ?_⟩
  intro stack children rest
  calc run ⟨.content waiting, stack, children⟩ ((openTag tag attributes).toList ++ rest)
    _ = run ⟨.bracket, stack, textBefore waiting text ++ children⟩
        (tag.toList ++ (String.join (attributes.map writeAttribute)).toList ++ rest) := by
      simp [openTag, run_cons, step, endText_eq decoded]
    _ = run ⟨.tagName (more.reverse ++ [first]), stack, textBefore waiting text ++ children⟩
        ((String.join (attributes.map writeAttribute)).toList ++ rest) := by
      rw [spelling, ← run_tagName moreNamed]
      simp [run_cons, step, firstNamed, slash]
    _ = run ⟨next, stack, textBefore waiting text ++ children⟩ rest := taken _ _ _

private theorem run_endOfStartTag {phase : Phase} {tag : StartTag} (ready : Ready phase tag) (rest : List Char) :
    run ⟨phase, stack, children⟩ ('>' :: rest) = run ⟨.content [], ⟨tag, children⟩ :: stack, []⟩ rest := by
  rw [run_cons, ready _ _ _ (by decide) (by decide)]
  rfl

private theorem run_endOfEmptyElement {phase : Phase} {tag : StartTag} (ready : Ready phase tag) (rest : List Char) :
    run ⟨phase, stack, children⟩ (" />".toList ++ rest) =
      run ⟨.content [], stack, .element tag.name tag.attributes.reverse [] :: children⟩ rest := by
  have spelling : " />".toList ++ rest = ' ' :: '/' :: '>' :: rest := by simp
  rw [spelling, run_cons, ready _ _ _ (by decide) (by decide)]
  rfl

/-- The reader takes a close tag of the innermost open element, with text before it. -/
theorem run_closeTag {tag : String} (named : IsName tag) {waiting text : List Char}
    (decoded : decode waiting.reverse = some text) (attributes before : List _) (rest : List Char) :
    run ⟨.content waiting, ⟨⟨tag, attributes⟩, before⟩ :: stack, children⟩ ((closeTag tag).toList ++ rest) =
      run ⟨.content [], stack,
        .element tag attributes.reverse (settle (textBefore waiting text ++ children).reverse) :: before⟩ rest := by
  let inside := textBefore waiting text ++ children
  calc run ⟨.content waiting, ⟨⟨tag, attributes⟩, before⟩ :: stack, children⟩ ((closeTag tag).toList ++ rest)
    _ = run ⟨.closing [], ⟨⟨tag, attributes⟩, before⟩ :: stack, inside⟩ (tag.toList ++ '>' :: rest) := by
      simp [closeTag, run_cons, step, endText_eq decoded, inside]
    _ = run ⟨.closing tag.toList.reverse, ⟨⟨tag, attributes⟩, before⟩ :: stack, inside⟩ ('>' :: rest) := by
      simpa using run_closing named.2 [] ('>' :: rest)
    _ = run ⟨.content [], stack, .element tag attributes.reverse (settle inside.reverse) :: before⟩ rest := by
      simp [run_cons, step, close]

end Reader

/-- Markup whose printed form can be read: names are names, and an element holds either
elements alone or a single text. -/
inductive Legible : Markup → Prop where
  | block {tag : String} {attributes : List Attribute} {children : List Markup} (named : IsName tag)
      (attributesNamed : ∀ written ∈ attributes, IsName written.name)
      (inside : ∀ child ∈ children, Legible child) : Legible (.element tag attributes children)
  | label {tag : String} {attributes : List Attribute} (named : IsName tag)
      (attributesNamed : ∀ written ∈ attributes, IsName written.name)
      (text : String) : Legible (.element tag attributes [.text text])

theorem texts?_eq_none {child : Markup} (legible : Legible child) (rest : List Markup) :
    texts? (child :: rest) = none := by
  cases legible <;> rfl

private theorem allWithoutEmptyText_eq_map {children : List Markup} (inside : ∀ child ∈ children, Legible child) :
    allWithoutEmptyText children = children.map withoutEmptyText := by
  induction children with
  | nil => rfl
  | cons child rest ih =>
    have tail := ih fun other member => inside other (List.mem_cons_of_mem _ member)
    cases inside child List.mem_cons_self <;> simp [allWithoutEmptyText, tail]

theorem isElement_withoutEmptyText {markup : Markup} (legible : Legible markup) :
    Markup.isElement markup.withoutEmptyText = true := by
  cases legible <;> rfl

theorem isBlank_of_isElement {markup : Markup} (element : Markup.isElement markup = true) : markup.isBlank = false := by
  cases markup with
  | text s => cases element
  | element tag attributes children => rfl

theorem settle_of_filter {items : List Markup} {child : Markup} {rest : List Markup}
    (kept : items.filter (!isBlank ·) = child :: rest) (element : child.isElement = true) :
    settle items = child :: rest := by
  have member : child ∈ items := (List.mem_filter.mp (kept ▸ List.mem_cons_self)).1
  rw [settle, if_pos (List.any_eq_true.mpr ⟨child, member, element⟩), kept]

namespace Reader

variable {stack : List OpenElement} {children : List Markup}

/-- Blanks between tags: they wait for the next tag and become a blank text before it. -/
theorem decode_of_blank {waiting : List Char} (blank : ∀ c ∈ waiting, c.isWhitespace = true) :
    decode waiting = some waiting := by
  refine decode_plain ?_
  rintro c member rfl
  exact absurd (blank _ member) (by decide)

theorem isBlank_of_mem_textBefore (waiting : List Char) {text : List Char} (blank : ∀ c ∈ text, c.isWhitespace = true) :
    ∀ item ∈ textBefore waiting text, isBlank item = true := by
  intro item member
  unfold textBefore at member
  split at member
  · cases member
  · rw [List.mem_singleton] at member
    subst member
    simpa [isBlank] using blank

theorem run_blanks (level : Nat) (waiting rest : List Char) :
    run ⟨.content waiting, stack, children⟩ (blanks level ++ rest) =
      run ⟨.content ((blanks level).reverse ++ waiting), stack, children⟩ rest := by
  refine run_content ?_ waiting rest
  intro c member
  rw [List.eq_of_mem_replicate member]
  decide

theorem blank_indentation (level : Nat) {waiting : List Char} (blank : ∀ c ∈ waiting, c.isWhitespace = true) :
    ∀ c ∈ ((blanks level).reverse ++ waiting).reverse, c.isWhitespace = true := by
  intro c member
  simp only [List.reverse_append, List.reverse_reverse, List.mem_append, List.mem_reverse] at member
  rcases member with before | inside
  · exact blank c before
  · rw [List.eq_of_mem_replicate inside]
    decide

private theorem run_indentedOpenTag {tag : String} (named : IsName tag) {attributes : List Attribute}
    (attributesNamed : ∀ written ∈ attributes, IsName written.name) (level : Nat) {waiting : List Char}
    (blank : ∀ c ∈ waiting, c.isWhitespace = true) :
    ∃ next gap, Ready next ⟨tag, attributes.reverse⟩ ∧ (∀ item ∈ gap, isBlank item = true) ∧ ∀ stack children rest,
      run ⟨.content waiting, stack, children⟩ (blanks level ++ ((openTag tag attributes).toList ++ rest)) =
        run ⟨next, stack, gap ++ children⟩ rest := by
  have indented := blank_indentation level blank
  obtain ⟨next, ready, opened⟩ := run_openTag named attributesNamed (decode_of_blank indented)
  refine ⟨next, _, ready, isBlank_of_mem_textBefore ((blanks level).reverse ++ waiting) indented, ?_⟩
  intro stack children rest
  rw [run_blanks, opened]

private theorem run_indentedCloseTag {tag : String} (named : IsName tag) (attributes : List Attribute) (level : Nat)
    (stack : List OpenElement) (before children : List Markup) (rest : List Char) :
    ∃ gap, (∀ item ∈ gap, isBlank item = true) ∧
      run ⟨.content [], ⟨⟨tag, attributes⟩, before⟩ :: stack, children⟩ ('\n' :: (blanks level ++ ((closeTag tag).toList ++ rest))) =
        run ⟨.content [], stack, .element tag attributes.reverse (settle (gap ++ children).reverse) :: before⟩ rest := by
  have newline : ∀ c ∈ ['\n'], c.isWhitespace = true := by simp
  have indented := blank_indentation level newline
  refine ⟨_, isBlank_of_mem_textBefore ((blanks level).reverse ++ ['\n']) indented, ?_⟩
  have lineEnd : step ⟨.content [], ⟨⟨tag, attributes⟩, before⟩ :: stack, children⟩ '\n' =
      some ⟨.content ['\n'], ⟨⟨tag, attributes⟩, before⟩ :: stack, children⟩ := by simp [step]
  rw [run_cons, lineEnd, Option.bind_some, run_blanks, run_closeTag named (decode_of_blank indented)]

theorem filter_gap {gap : List Markup} (blank : ∀ item ∈ gap, isBlank item = true) :
    gap.reverse.filter (!isBlank ·) = [] := by
  rw [List.filter_eq_nil_iff]
  intro item member
  simp [blank item (List.mem_reverse.mp member)]

variable {style : Style}

/-- Whatever waits in white space before it, printed markup is read as one more child. -/
def Takes (style : Style) (markup : Markup) : Prop :=
  ∀ level waiting stack children rest, (∀ c ∈ waiting, c.isWhitespace = true) →
    ∃ gap, (∀ item ∈ gap, isBlank item = true) ∧
      run ⟨.content waiting, stack, children⟩ (spelled style level markup ++ rest) =
        run ⟨.content [], stack, markup.withoutEmptyText :: (gap ++ children)⟩ rest

private theorem run_spelledAll {children : List Markup} (legible : ∀ child ∈ children, Legible child)
    (takes : ∀ child ∈ children, Takes style child) (level : Nat) (stack : List OpenElement)
    (before : List Markup) (rest : List Char) :
    ∃ items, items.reverse.filter (!isBlank ·) = children.map withoutEmptyText ∧
      run ⟨.content [], stack, before⟩ (spelledAll style level children ++ rest) =
        run ⟨.content [], stack, items ++ before⟩ rest := by
  induction children generalizing before with
  | nil => exact ⟨[], rfl, rfl⟩
  | cons child children ih =>
    obtain ⟨gap, blank, first⟩ := takes child List.mem_cons_self level ['\n'] stack before
      (spelledAll style level children ++ rest) (by simp)
    obtain ⟨items, kept, more⟩ := ih (fun other member => legible other (List.mem_cons_of_mem _ member))
      (fun other member => takes other (List.mem_cons_of_mem _ member)) (child.withoutEmptyText :: (gap ++ before))
    refine ⟨items ++ child.withoutEmptyText :: gap, ?_, ?_⟩
    · have element := isBlank_of_isElement (isElement_withoutEmptyText (legible child List.mem_cons_self))
      simp only [List.reverse_append, List.reverse_cons, List.filter_append, filter_gap blank, kept]
      simp [element]
    · have newline : step ⟨.content [], stack, before⟩ '\n' = some ⟨.content ['\n'], stack, before⟩ := by simp [step]
      simp only [spelledAll, List.cons_append, List.append_assoc, run_cons, newline, Option.bind_some]
      rw [first, more]

/-- The induction follows the derivation that markup is legible: a block passes its
children to its own close tag, and a label keeps its text until then. -/
theorem takes_of_legible (decodable : Decodable style.textEntities) (opening : Avoids style.textEntities '<')
    (closing : Avoids style.textEntities '>') {markup : Markup} (legible : Legible markup) : Takes style markup := by
  induction legible with
  | @block tag attributes children named attributesNamed inside ih =>
    intro level waiting stack before rest blank
    obtain ⟨next, gap, ready, blankGap, opened⟩ := run_indentedOpenTag named attributesNamed level blank
    refine ⟨gap, blankGap, ?_⟩
    cases children with
    | nil =>
      simp only [spelled, List.append_assoc, opened]
      split
      · rw [run_endOfEmptyElement ready, List.reverse_reverse]
        rfl
      · rw [List.cons_append, run_endOfStartTag ready, run_closeTag named rfl, List.reverse_reverse]
        rfl
    | cons child children =>
      have childLegible := inside child List.mem_cons_self
      obtain ⟨items, kept, taken⟩ := run_spelledAll inside ih (level + 1)
        (⟨⟨tag, attributes.reverse⟩, gap ++ before⟩ :: stack) []
        ('\n' :: (blanks level ++ ((closeTag tag).toList ++ rest)))
      obtain ⟨last, blankLast, closed⟩ := run_indentedCloseTag named attributes.reverse level stack
        (gap ++ before) (items ++ []) rest
      have settled : settle (last ++ (items ++ [])).reverse = (child :: children).map withoutEmptyText := by
        refine settle_of_filter ?_ (isElement_withoutEmptyText childLegible)
        rw [List.append_nil, List.reverse_append, List.filter_append, kept, filter_gap blankLast]
        simp
      simp only [spelled, texts?_eq_none childLegible, List.append_assoc, List.cons_append, opened,
        run_endOfStartTag ready]
      rw [taken, closed, settled, List.reverse_reverse, withoutEmptyText, allWithoutEmptyText_eq_map inside]
  | @label tag attributes named attributesNamed text =>
    intro level waiting stack before rest blank
    obtain ⟨next, gap, ready, blankGap, opened⟩ := run_indentedOpenTag named attributesNamed level blank
    refine ⟨gap, blankGap, ?_⟩
    let written := (Text.escape style.textEntities text).toList
    have plain : ∀ c ∈ written, c ≠ '<' ∧ c ≠ '>' := by
      intro c member
      constructor <;> rintro rfl
      · exact not_mem_escape opening text member
      · exact not_mem_escape closing text member
    have decoded : decode (written.reverse ++ []).reverse = some text.toList := by
      simpa [written] using decode_escape decodable text
    have kept : settle (textBefore (written.reverse ++ []) text.toList ++ []).reverse =
      allWithoutEmptyText [.text text] := by
      by_cases empty : text = ""
      · subst empty
        rfl
      · have nonempty : written ≠ [] := by
          intro missing
          simp [missing, decode, decodeAfter] at decoded
          exact empty decoded
        simp [textBefore, nonempty, settle, isElement, allWithoutEmptyText, empty]
    have spelling : spelled style level (.element tag attributes [.text text]) ++ rest =
        blanks level ++ ((openTag tag attributes).toList ++ '>' :: (written ++ ((closeTag tag).toList ++ rest))) := by
      simp [spelled, texts?, written]
    rw [spelling, opened, run_endOfStartTag ready, run_content plain, run_closeTag named decoded, kept,
      List.reverse_reverse, withoutEmptyText]

end Reader

/-- The printer loses nothing but texts without characters. -/
theorem read_print {style : Style} (decodable : Decodable style.textEntities) (opening : Avoids style.textEntities '<')
    (closing : Avoids style.textEntities '>') {markup : Markup} (legible : Legible markup) :
    read (style.print markup) = some markup.withoutEmptyText := by
  have takes := Reader.takes_of_legible decodable opening closing legible
  cases markup with
  | text s => cases legible
  | element tag attributes children =>
    obtain ⟨gap, blank, taken⟩ := takes style.baseLevel [] [] [] [] (by simp)
    have settled : settle (Markup.withoutEmptyText (.element tag attributes children) :: (gap ++ [])).reverse =
        [Markup.withoutEmptyText (.element tag attributes children)] := by
      have element := isBlank_of_isElement (isElement_withoutEmptyText legible)
      refine settle_of_filter ?_ rfl
      rw [List.append_nil, List.reverse_cons, List.filter_append, Reader.filter_gap blank]
      simp [element]
    rw [List.append_nil] at taken
    have finished : (Reader.start.run (style.print (.element tag attributes children)).toList).bind Reader.finish =
        some [Markup.withoutEmptyText (.element tag attributes children)] := by
      rw [toList_print, Reader.start, taken, ← settled]
      rfl
    rw [read, finished]
    rfl

end Handoff.Markup
