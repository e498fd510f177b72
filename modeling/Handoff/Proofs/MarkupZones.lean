import Handoff.Proofs.MarkupRoundTrip

/-! Characters that printed markup keeps inside attribute values. A target gives some
characters a meaning of its own in its templates; the printer writes none of them outside
quotes, whatever the markup says. -/

namespace Handoff.Markup

/-- A character that is no part of a tag and that texts are written without. -/
structure Foreign (style : Style) (d : Char) : Prop where
  name : isNameChar d = false
  punctuation : d ∉ ['<', '>', '/', '=', '"', ' ', '\n']
  text : Avoids style.textEntities d

/-- Text that leads from one zone to another and has a character only inside values. -/
def Passes (d : Char) (zone : Zone) (text : List Char) (next : Zone) : Prop :=
  text.foldl Zone.after zone = next ∧ d ∉ outsideValues zone text

variable {d : Char} {zone middle next : Zone}

theorem outsideValues_append (zone : Zone) (first second : List Char) :
    outsideValues zone (first ++ second) =
      outsideValues zone first ++ outsideValues (first.foldl Zone.after zone) second := by
  induction first generalizing zone with
  | nil => rfl
  | cons c first ih =>
    simp only [List.cons_append, outsideValues, List.foldl_cons, ih]
    split <;> rfl

theorem Passes.append {first second : List Char} (left : Passes d zone first middle)
    (right : Passes d middle second next) :
    Passes d zone (first ++ second) next := by
  obtain ⟨moved, absent⟩ := left
  refine ⟨by rw [List.foldl_append, moved, right.1], ?_⟩
  rw [outsideValues_append, moved, List.mem_append]
  rintro (before | after)
  · exact absent before
  · exact right.2 after

/-- Text whose characters all keep to one zone outside values. -/
theorem passes_of_stays {text : List Char} (outside : zone ≠ .value)
    (stays : ∀ c ∈ text, zone.after c = zone ∧ c ≠ d) : Passes d zone text zone := by
  induction text with
  | nil => exact ⟨rfl, List.not_mem_nil⟩
  | cons c text ih =>
    obtain ⟨same, other⟩ := stays c List.mem_cons_self
    obtain ⟨moved, absent⟩ := ih fun e member => stays e (List.mem_cons_of_mem _ member)
    refine ⟨by rw [List.foldl_cons, same, moved], ?_⟩
    simp only [outsideValues, if_neg outside, same, List.mem_cons, not_or]
    exact ⟨fun equal => other equal.symm, absent⟩

private theorem passes_value {text : List Char} (quoted : '"' ∉ text) : Passes d .value text .value := by
  induction text with
  | nil => exact ⟨rfl, List.not_mem_nil⟩
  | cons c text ih =>
    simp only [List.mem_cons, not_or] at quoted
    obtain ⟨moved, absent⟩ := ih quoted.2
    have same : Zone.after .value c = .value := by simp [Zone.after, Ne.symm quoted.1]
    exact ⟨by rw [List.foldl_cons, same, moved], by simpa [outsideValues, same] using absent⟩

variable {style : Style}

namespace Foreign

variable (foreign : Foreign style d)
include foreign

theorem passes_char {c : Char} (member : c ∈ ['<', '>', '/', '=', '"', ' ', '\n']) (outside : zone ≠ .value)
    (moves : zone.after c = next) : Passes d zone [c] next := by
  refine ⟨moves, ?_⟩
  simp only [outsideValues, if_neg outside, List.mem_singleton]
  rintro rfl
  exact foreign.punctuation member

theorem passes_name {name : String} (named : IsName name) : Passes d .tag name.toList .tag := by
  refine passes_of_stays (by decide) ?_
  intro c member
  have nameChar := named.2 c member
  have bracket : c ≠ '>' := ne_of_isNameChar nameChar (by decide)
  have quote : c ≠ '"' := ne_of_isNameChar nameChar (by decide)
  exact ⟨by simp [Zone.after, bracket, quote], ne_of_isNameChar nameChar foreign.name⟩

private theorem passes_attribute {written : Attribute} (named : IsName written.name) :
    Passes d .tag (writeAttribute written).toList .tag := by
  have space : Passes d .tag [' '] .tag := foreign.passes_char (by decide) (by decide) rfl
  have name := space.append (foreign.passes_name named)
  cases written with
  | flag label => simpa [writeAttribute, Attribute.name] using name
  | value label text =>
    have equals : Passes d .tag ['='] .tag := foreign.passes_char (by decide) (by decide) rfl
    have opening : Passes d .tag ['"'] .value := foreign.passes_char (by decide) (by decide) rfl
    have quoted : '"' ∉ (Text.escape attributeEntities text).toList := not_mem_escape (by decide) text
    have closing : Passes d .value ['"'] .tag := ⟨rfl, by simp [outsideValues]⟩
    have written := opening.append ((passes_value quoted).append closing)
    simpa [writeAttribute, Attribute.name] using name.append (equals.append written)

private theorem passes_attributes {attributes : List Attribute} (named : ∀ written ∈ attributes, IsName written.name) :
    Passes d .tag (String.join (attributes.map writeAttribute)).toList .tag := by
  induction attributes with
  | nil => exact ⟨rfl, List.not_mem_nil⟩
  | cons written attributes ih =>
    have first := foreign.passes_attribute (named written List.mem_cons_self)
    have more := ih fun other member => named other (List.mem_cons_of_mem _ member)
    simpa [String.join_cons] using first.append more

private theorem passes_openTag {tag : String} (named : IsName tag) {attributes : List Attribute}
    (attributesNamed : ∀ written ∈ attributes, IsName written.name) :
    Passes d .content (openTag tag attributes).toList .tag := by
  have bracket : Passes d .content ['<'] .tag := foreign.passes_char (by decide) (by decide) rfl
  have name := bracket.append (foreign.passes_name named)
  simpa [openTag] using name.append (foreign.passes_attributes attributesNamed)

private theorem passes_closeTag {tag : String} (named : IsName tag) : Passes d .content (closeTag tag).toList .content := by
  have bracket : Passes d .content ['<'] .tag := foreign.passes_char (by decide) (by decide) rfl
  have slash : Passes d .tag ['/'] .tag := foreign.passes_char (by decide) (by decide) rfl
  have ending : Passes d .tag ['>'] .content := foreign.passes_char (by decide) (by decide) rfl
  have name := (bracket.append slash).append (foreign.passes_name named)
  simpa [closeTag] using name.append ending

private theorem passes_blanks (level : Nat) : Passes d .content (blanks level) .content := by
  refine passes_of_stays (by decide) ?_
  intro c member
  rw [List.eq_of_mem_replicate member]
  refine ⟨rfl, ?_⟩
  rintro rfl
  exact foreign.punctuation (by decide)

private theorem passes_spelledAll {children : List Markup} (level : Nat)
    (inside : ∀ child ∈ children, Passes d .content (spelled style level child) .content) :
    Passes d .content (spelledAll style level children) .content := by
  induction children with
  | nil => exact ⟨rfl, List.not_mem_nil⟩
  | cons child children ih =>
    have newline : Passes d .content ['\n'] .content := foreign.passes_char (by decide) (by decide) rfl
    have first := newline.append (inside child List.mem_cons_self)
    have more := ih fun other member => inside other (List.mem_cons_of_mem _ member)
    simpa [spelledAll] using first.append more

theorem passes_spelled (opening : Avoids style.textEntities '<') {markup : Markup} (legible : Legible markup) :
    ∀ level, Passes d .content (spelled style level markup) .content := by
  have closing : Passes d .tag ['>'] .content := foreign.passes_char (by decide) (by decide) rfl
  induction legible with
  | @block tag attributes children named attributesNamed inside ih =>
    intro level
    have started := (foreign.passes_blanks level).append (foreign.passes_openTag named attributesNamed)
    cases children with
    | nil =>
      simp only [spelled]
      split
      · have space : Passes d .tag [' '] .tag := foreign.passes_char (by decide) (by decide) rfl
        have slash : Passes d .tag ['/'] .tag := foreign.passes_char (by decide) (by decide) rfl
        simpa using started.append ((space.append slash).append closing)
      · simpa using started.append (closing.append (foreign.passes_closeTag named))
    | cons child children =>
      have body := foreign.passes_spelledAll (level + 1) fun other member => ih other member (level + 1)
      have newline : Passes d .content ['\n'] .content := foreign.passes_char (by decide) (by decide) rfl
      have ended := (newline.append (foreign.passes_blanks level)).append (foreign.passes_closeTag named)
      simpa [spelled, texts?_eq_none (inside child List.mem_cons_self)] using
        started.append (closing.append (body.append ended))
  | @label tag attributes named attributesNamed text =>
    intro level
    have started := (foreign.passes_blanks level).append (foreign.passes_openTag named attributesNamed)
    have body : Passes d .content (Text.escape style.textEntities text).toList .content := by
      refine passes_of_stays (by decide) ?_
      intro c member
      have bracket : c ≠ '<' := by rintro rfl; exact not_mem_escape opening text member
      refine ⟨by simp [Zone.after, bracket], ?_⟩
      rintro rfl
      exact not_mem_escape foreign.text text member
    simpa [spelled, texts?] using started.append (closing.append (body.append (foreign.passes_closeTag named)))

/-- Printed markup has a foreign character inside attribute values only. -/
theorem not_mem_outsideValues_print (opening : Avoids style.textEntities '<') {markup : Markup}
    (legible : Legible markup) :
    d ∉ outsideValues .content (style.print markup).toList := by
  have passed := foreign.passes_spelled opening legible style.baseLevel
  cases markup with
  | text s => cases legible
  | element tag attributes children =>
    rw [toList_print]
    exact passed.2

end Foreign

end Handoff.Markup
