import Handoff.Proofs.MarkupZones
import Mathlib.Data.List.Infix

/-! Characters that a template engine takes in pairs. Nothing that the printer writes around
an attribute value starts or ends with such a character, so a pair in printed markup is a
pair in one value, and escaping a value neither makes a pair nor takes one away. -/

namespace Handoff

def Attribute.value? : Attribute → Option String
  | .flag _ => none
  | .value _ text => some text

namespace Markup

mutual

/-- The attribute values of markup, in the order in which they are printed. -/
def attributeValues : Markup → List String
  | .text _ => []
  | .element _ attributes children => attributes.filterMap Attribute.value? ++ allAttributeValues children

def allAttributeValues : List Markup → List String
  | [] => []
  | child :: rest => attributeValues child ++ allAttributeValues rest

end

theorem allAttributeValues_eq_flatMap (children : List Markup) :
    allAttributeValues children = children.flatMap attributeValues := by
  induction children with
  | nil => rfl
  | cons child rest ih => rw [allAttributeValues, ih, List.flatMap_cons]

/-- A character stands twice in a row. -/
def Doubled (d : Char) (text : List Char) : Prop := [d, d] <:+: text

instance (d : Char) (text : List Char) : Decidable (Doubled d text) := inferInstanceAs (Decidable (_ <:+: _))

variable {d : Char}

theorem doubled_cons {c : Char} {text : List Char} :
    Doubled d (c :: text) ↔ (c = d ∧ text.head? = some d) ∨ Doubled d text := by
  rw [Doubled, List.infix_cons_iff, List.cons_prefix_cons, ← Doubled]
  cases text with
  | nil => simp
  | cons e text => simp [eq_comm]

theorem doubled_cons_of_ne {c : Char} (other : c ≠ d) {text : List Char} : Doubled d (c :: text) ↔ Doubled d text := by
  rw [doubled_cons]
  exact or_iff_right fun same => other same.1

theorem not_doubled_nil : ¬ Doubled d [] := by simp [Doubled]

def AnyDoubled (d : Char) (values : List String) : Prop := ∃ value ∈ values, Doubled d value.toList

instance (d : Char) (values : List String) : Decidable (AnyDoubled d values) := inferInstanceAs (Decidable (∃ _ ∈ _, _))

@[simp] theorem not_anyDoubled_nil : ¬ AnyDoubled d [] := fun ⟨_, member, _⟩ => List.not_mem_nil member

@[simp] theorem anyDoubled_cons {value : String} {values : List String} :
    AnyDoubled d (value :: values) ↔ Doubled d value.toList ∨ AnyDoubled d values := List.exists_mem_cons_iff ..

@[simp] theorem anyDoubled_append {first second : List String} :
    AnyDoubled d (first ++ second) ↔ AnyDoubled d first ∨ AnyDoubled d second := by
  simp only [AnyDoubled, List.mem_append, or_and_right, exists_or]

@[simp] theorem anyDoubled_flatMap {α : Type} {items : List α} {values : α → List String} :
    AnyDoubled d (items.flatMap values) ↔ ∃ item ∈ items, AnyDoubled d (values item) := by
  simp only [AnyDoubled, List.mem_flatMap]
  constructor
  · rintro ⟨value, ⟨item, listed, member⟩, doubled⟩
    exact ⟨item, listed, value, member, doubled⟩
  · rintro ⟨item, listed, value, member, doubled⟩
    exact ⟨value, ⟨item, listed, member⟩, doubled⟩

/-- Whatever comes after a text, the pairs up to its end are those in the listed values. -/
def Carries (d : Char) (text : List Char) (values : List String) : Prop :=
  ∀ rest, Doubled d (text ++ rest) ↔ AnyDoubled d values ∨ Doubled d rest

theorem carries_nil : Carries d [] [] := fun rest => by simp

theorem Carries.append {first second : List Char} {before after : List String} (left : Carries d first before)
    (right : Carries d second after) : Carries d (first ++ second) (before ++ after) := by
  intro rest
  rw [List.append_assoc, left, right, anyDoubled_append, or_assoc]

private theorem Carries.doubled_iff {text : List Char} {values : List String} (carries : Carries d text values) :
    Doubled d text ↔ AnyDoubled d values := by
  rw [← List.append_nil text, carries]
  exact or_iff_left not_doubled_nil

theorem carries_of_not_mem {text : List Char} (absent : d ∉ text) : Carries d text [] := by
  intro rest
  induction text with
  | nil => simp
  | cons c text ih =>
    simp only [List.mem_cons, not_or] at absent
    rw [List.cons_append, doubled_cons_of_ne (Ne.symm absent.1), ih absent.2]

/-- A table that leaves a character alone: it is not replaced, not written and not moved beside another. -/
def Spares (table : Text.EscapeTable) (d : Char) : Prop :=
  ∀ entry ∈ table, entry.1 ≠ d ∧ d ∉ entry.2.toList ∧ entry.2.toList ≠ []

instance (table : Text.EscapeTable) (d : Char) : Decidable (Spares table d) := inferInstanceAs (Decidable (∀ _ ∈ _, _))

namespace Spares

variable {table : Text.EscapeTable} (spares : Spares table d)
include spares

theorem escapeChar_self : Text.escapeChar table d = [d] := by
  have missing : table.find? (·.1 = d) = none := by
    rw [List.find?_eq_none]
    intro entry listed
    simpa using (spares entry listed).1
  rw [Text.escapeChar, missing]

theorem escapeChar_other {c : Char} (other : c ≠ d) :
    d ∉ Text.escapeChar table c ∧ Text.escapeChar table c ≠ [] := by
  unfold Text.escapeChar
  split
  next found => exact (spares _ (List.mem_of_find?_eq_some found)).2
  next => exact ⟨by simpa using Ne.symm other, List.cons_ne_nil _ _⟩

private theorem head?_escaped {rest : List Char} (ends : rest.head? ≠ some d) (text : List Char) :
    (text.flatMap (Text.escapeChar table) ++ rest).head? = some d ↔ text.head? = some d := by
  cases text with
  | nil => simpa using ends
  | cons c text =>
    by_cases same : c = d
    · subst same
      simp [spares.escapeChar_self]
    · obtain ⟨absent, nonempty⟩ := spares.escapeChar_other same
      obtain ⟨first, more, written⟩ := List.exists_cons_of_ne_nil nonempty
      have different : first ≠ d := by
        rintro rfl
        exact absent (written ▸ List.mem_cons_self)
      simp [written, different, same]

private theorem doubled_escaped {rest : List Char} (ends : rest.head? ≠ some d) (text : List Char) :
    Doubled d (text.flatMap (Text.escapeChar table) ++ rest) ↔ Doubled d text ∨ Doubled d rest := by
  induction text with
  | nil => exact (or_iff_right not_doubled_nil).symm
  | cons c text ih =>
    rw [List.flatMap_cons, List.append_assoc]
    by_cases same : c = d
    · subst same
      rw [spares.escapeChar_self, List.singleton_append, doubled_cons, doubled_cons, ih, spares.head?_escaped ends,
        or_assoc]
    · have absent := carries_of_not_mem (spares.escapeChar_other same).1
      rw [absent, doubled_cons_of_ne same, ih]
      simp

end Spares

variable {style : Style}

namespace Foreign

variable (foreign : Foreign style d)
include foreign

private theorem not_mem_name {name : String} (named : IsName name) : d ∉ name.toList := fun member =>
  ne_of_isNameChar (named.2 d member) foreign.name rfl

theorem carries_punctuation {text : List Char} (marks : text ⊆ ['<', '>', '/', '=', '"', ' ', '\n']) :
    Carries d text [] :=
  carries_of_not_mem fun member => foreign.punctuation (marks member)

theorem carries_name {name : String} (named : IsName name) : Carries d name.toList [] :=
  carries_of_not_mem (foreign.not_mem_name named)

variable (spares : Spares attributeEntities d)

include spares in
private theorem carries_attribute {written : Attribute} (named : IsName written.name) :
    Carries d (writeAttribute written).toList written.value?.toList := by
  have space : Carries d [' '] [] := foreign.carries_punctuation (by decide)
  have name := space.append (foreign.carries_name named)
  cases written with
  | flag label => simpa [writeAttribute, Attribute.name, Attribute.value?] using name
  | value label text =>
    have opening : Carries d ['=', '"'] [] := foreign.carries_punctuation (by decide)
    have quoted : Carries d ((Text.escape attributeEntities text).toList ++ ['"']) [text] := by
      intro rest
      have other : '"' ≠ d := fun same => foreign.punctuation (same ▸ by decide)
      have ends : ('"' :: rest).head? ≠ some d := by simpa using other
      rw [Text.escape, String.toList_ofList, List.append_assoc, List.singleton_append, spares.doubled_escaped ends,
        doubled_cons_of_ne other]
      simp
    simpa [writeAttribute, Attribute.name, Attribute.value?] using name.append (opening.append quoted)

include spares in
private theorem carries_attributes {attributes : List Attribute} (named : ∀ written ∈ attributes, IsName written.name) :
    Carries d (String.join (attributes.map writeAttribute)).toList (attributes.filterMap Attribute.value?) := by
  induction attributes with
  | nil => exact carries_nil
  | cons written attributes ih =>
    have first := foreign.carries_attribute spares (named written List.mem_cons_self)
    have more := ih fun other member => named other (List.mem_cons_of_mem _ member)
    have values : (written :: attributes).filterMap Attribute.value? =
        written.value?.toList ++ attributes.filterMap Attribute.value? := by
      cases written <;> rfl
    rw [values]
    simpa [String.join_cons] using first.append more

include spares in
private theorem carries_openTag {tag : String} (named : IsName tag) {attributes : List Attribute}
    (attributesNamed : ∀ written ∈ attributes, IsName written.name) :
    Carries d (openTag tag attributes).toList (attributes.filterMap Attribute.value?) := by
  have bracket : Carries d ['<'] [] := foreign.carries_punctuation (by decide)
  have name := bracket.append (foreign.carries_name named)
  simpa [openTag] using name.append (foreign.carries_attributes spares attributesNamed)

private theorem carries_closeTag {tag : String} (named : IsName tag) : Carries d (closeTag tag).toList [] := by
  have opening : Carries d ['<', '/'] [] := foreign.carries_punctuation (by decide)
  have closing : Carries d ['>'] [] := foreign.carries_punctuation (by decide)
  simpa [closeTag] using (opening.append (foreign.carries_name named)).append closing

private theorem carries_blanks (level : Nat) : Carries d (blanks level) [] := by
  refine foreign.carries_punctuation ?_
  intro c member
  rw [List.eq_of_mem_replicate member]
  decide

private theorem carries_spelledAll {children : List Markup} (level : Nat)
    (inside : ∀ child ∈ children, Carries d (spelled style level child) child.attributeValues) :
    Carries d (spelledAll style level children) (allAttributeValues children) := by
  induction children with
  | nil => exact carries_nil
  | cons child children ih =>
    have newline : Carries d ['\n'] [] := foreign.carries_punctuation (by decide)
    have first := newline.append (inside child List.mem_cons_self)
    have more := ih fun other member => inside other (List.mem_cons_of_mem _ member)
    simpa [spelledAll, allAttributeValues] using first.append more

include spares in
private theorem carries_spelled {markup : Markup} (legible : Legible markup) :
    ∀ level, Carries d (spelled style level markup) markup.attributeValues := by
  have bracket : Carries d ['>'] [] := foreign.carries_punctuation (by decide)
  induction legible with
  | @block tag attributes children named attributesNamed inside ih =>
    intro level
    have started := (foreign.carries_blanks level).append (foreign.carries_openTag spares named attributesNamed)
    have closing := foreign.carries_closeTag named
    cases children with
    | nil =>
      simp only [spelled, attributeValues]
      split
      · have ended : Carries d [' ', '/', '>'] [] := foreign.carries_punctuation (by decide)
        simpa [allAttributeValues] using started.append ended
      · simpa [allAttributeValues] using started.append (bracket.append closing)
    | cons child children =>
      have body := foreign.carries_spelledAll (level + 1) fun other member => ih other member (level + 1)
      have newline : Carries d ['\n'] [] := foreign.carries_punctuation (by decide)
      have ended := (newline.append (foreign.carries_blanks level)).append closing
      simpa [spelled, texts?_eq_none (inside child List.mem_cons_self), attributeValues] using
        started.append (bracket.append (body.append ended))
  | @label tag attributes named attributesNamed text =>
    intro level
    have started := (foreign.carries_blanks level).append (foreign.carries_openTag spares named attributesNamed)
    have body : Carries d (Text.escape style.textEntities text).toList [] :=
      carries_of_not_mem (not_mem_escape foreign.text text)
    simpa [spelled, texts?, attributeValues, allAttributeValues] using
      started.append (bracket.append (body.append (foreign.carries_closeTag named)))

include spares in
/-- Printed markup has a pair of foreign characters exactly when an attribute value has one. -/
theorem doubled_print_iff {markup : Markup} (legible : Legible markup) :
    Doubled d (style.print markup).toList ↔ AnyDoubled d markup.attributeValues := by
  have carried := foreign.carries_spelled spares legible style.baseLevel
  cases markup with
  | text s => cases legible
  | element tag attributes children =>
    rw [toList_print]
    exact carried.doubled_iff

end Foreign

end Markup

end Handoff
