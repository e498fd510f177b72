import Handoff.Proofs.ComponentModules
import Handoff.Proofs.ScriptLiterals

/-! Templates inside the files of components for Angular. The template is embedded as a
literal between backquotes, and a script that evaluates the literal gets the template back:
what is escaped in it opens no expression and does not end the literal. -/

namespace Handoff
open Script Text Naming CodeBuilder

namespace Text

/-- Text in which every occurrence of a word, found from the left, is replaced. -/
def replaceAll (word replacement : List Char) : List Char → List Char
  | [] => []
  | c :: rest =>
    if word.isPrefixOf (c :: rest) then replacement ++ replaceAll word replacement (rest.drop (word.length - 1))
    else c :: replaceAll word replacement rest
termination_by text => text.length
decreasing_by all_goals simp only [List.length_drop, List.length_cons]; omega

section Replacing
variable {word replacement text : List Char} {c : Char}

theorem replaceAll_prefix (nonempty : word ≠ []) :
    replaceAll word replacement (word ++ text) = replacement ++ replaceAll word replacement text := by
  cases word with
  | nil => exact absurd rfl nonempty
  | cons c word =>
    have found : (c :: word).isPrefixOf (c :: (word ++ text)) = true := List.isPrefixOf_iff_prefix.mpr ⟨text, rfl⟩
    rw [List.cons_append, replaceAll, if_pos found]
    simp

theorem replaceAll_cons (other : ¬ word <+: c :: text) :
    replaceAll word replacement (c :: text) = c :: replaceAll word replacement text := by
  rw [replaceAll, if_neg fun found => other (List.isPrefixOf_iff_prefix.mp found)]

theorem replaceAll_found (c : Char) (replacement rest : List Char) :
    replaceAll [c] replacement (c :: rest) = replacement ++ replaceAll [c] replacement rest :=
  replaceAll_prefix (List.cons_ne_nil c [])

theorem replaceAll_other {d : Char} (other : c ≠ d) (replacement rest : List Char) :
    replaceAll [d] replacement (c :: rest) = c :: replaceAll [d] replacement rest :=
  replaceAll_cons fun found => other (List.cons_prefix_cons.mp found).1.symm

/-- A character that no replacement begins with was there before. -/
theorem head?_replaceAll {d e : Char} (other : e ≠ c)
    (starts : (replaceAll [d] (e :: replacement) text).head? = some c) : text.head? = some c := by
  cases text with
  | nil => simp [replaceAll] at starts
  | cons first rest =>
    by_cases same : d = first
    · rw [← same, replaceAll_found] at starts
      exact absurd (Option.some.inj starts) other
    · rw [replaceAll_other (Ne.symm same)] at starts
      exact starts

end Replacing

/-- Text in which line feeds end the lines, as scripts read templates. -/
def feedLines : List Char → List Char
  | [] => []
  | '\r' :: '\n' :: rest => '\n' :: feedLines rest
  | '\r' :: rest => '\n' :: feedLines rest
  | c :: rest => c :: feedLines rest

private theorem feedLines_of_not_mem {text : List Char} (absent : '\r' ∉ text) : feedLines text = text := by
  fun_induction feedLines text with
  | case1 => rfl
  | case2 => exact absurd List.mem_cons_self absent
  | case3 => exact absurd List.mem_cons_self absent
  | case4 c rest _ _ ih => rw [ih fun member => absent (List.mem_cons_of_mem c member)]

end Text

namespace Component.Angular

theorem escapeLiteral_plain {c : Char} {rest : List Char} (slash : c ≠ '\\') (quote : c ≠ '\x60')
    (opens : c = '$' → rest.head? ≠ some '\x7b') : escapeLiteral (c :: rest) = c :: escapeLiteral rest := by
  rw [escapeLiteral.eq_def]
  split
  next same => cases same
  next same => cases same; exact absurd rfl slash
  next same => cases same; exact absurd rfl quote
  next same => cases same; exact absurd rfl (opens rfl)
  next same => cases same; rfl

theorem escapeLiteral_letter {c : Char} (letter : c ∉ ['\\', '\x60', '$']) (rest : List Char) :
    escapeLiteral (c :: rest) = c :: escapeLiteral rest := by
  simp only [List.mem_cons, List.not_mem_nil, or_false, not_or] at letter
  exact escapeLiteral_plain letter.1 letter.2.1 fun same => absurd same letter.2.2

/-- Escaping puts nothing but backslashes before the characters of a text. -/
theorem head?_escapeLiteral {c : Char} (plain : c ∉ ['\\', '\x60']) {text rest : List Char}
    (starts : (escapeLiteral text ++ '\x60' :: rest).head? = some c) : text.head? = some c := by
  simp only [List.mem_cons, List.not_mem_nil, or_false, not_or] at plain
  fun_cases escapeLiteral text with
  | case1 => exact absurd (Option.some.inj starts).symm plain.2
  | case2 => exact absurd (Option.some.inj starts).symm plain.1
  | case3 => exact absurd (Option.some.inj starts).symm plain.1
  | case4 => exact absurd (Option.some.inj starts).symm plain.1
  | case5 d rest slash quote opens =>
    rw [escapeLiteral] at starts
    · exact starts
    · exact slash
    · exact quote
    · exact opens

/-- A character of a template is read back from what it is escaped to. -/
theorem readLiteral_escapeLiteral_cons (acc : List Json.Piece) {c : Char} (other : c ≠ '\r') (text rest : List Char) :
    readLiteral '\x60' acc (escapeLiteral (c :: text) ++ '\x60' :: rest) =
      readLiteral '\x60' (.char c :: acc) (escapeLiteral text ++ '\x60' :: rest) := by
  have escaped : ∀ {d : Char} {more : List Char}, readEscape (d :: more) = some ([.char d], more) →
      readLiteral '\x60' acc ('\\' :: d :: more) = readLiteral '\x60' (.char d :: acc) more :=
    fun read => readLiteral_escape (by decide) read
  by_cases slash : c = '\\'
  · subst slash
    exact escaped rfl
  by_cases quote : c = '\x60'
  · subst quote
    exact escaped rfl
  by_cases opens : c = '$' ∧ text.head? = some '\x7b'
  · obtain ⟨rfl, brace⟩ := opens
    obtain ⟨tail, rfl⟩ := List.head?_eq_some_iff.mp brace
    rw [escapeLiteral_letter (by decide) tail]
    exact escaped rfl
  · have alone : c = '$' → text.head? ≠ some '\x7b' := fun same brace => opens ⟨same, brace⟩
    rw [escapeLiteral_plain slash quote alone]
    refine readLiteral_template (by simp [quote, slash, other]) fun same brace => ?_
    exact alone same (head?_escapeLiteral (by decide) brace)

private theorem readLiteral_escapeLiteral (acc : List Json.Piece) (text rest : List Char) :
    readLiteral '\x60' acc (escapeLiteral text ++ '\x60' :: rest) =
      some (acc.reverse ++ (feedLines text).map .char, .closed, rest) := by
  have returned : ∀ more, escapeLiteral ('\r' :: more) = '\r' :: escapeLiteral more := escapeLiteral_letter (by decide)
  fun_induction feedLines text generalizing acc with
  | case1 => exact (readLiteral_quote _ acc rest).trans (by simp)
  | case2 text ih =>
    rw [returned, escapeLiteral_letter (by decide) text, List.cons_append, readLiteral_return, List.cons_append, afterReturn, ih]
    simp
  | case3 text other ih =>
    have kept : afterReturn (escapeLiteral text ++ '\x60' :: rest) = escapeLiteral text ++ '\x60' :: rest := by
      refine afterReturn_of_head? fun starts => ?_
      obtain ⟨tail, rfl⟩ := List.head?_eq_some_iff.mp (head?_escapeLiteral (by decide) starts)
      exact other tail rfl
    rw [returned, List.cons_append, readLiteral_return, kept, ih]
    simp
  | case4 c text _ other ih =>
    rw [readLiteral_escapeLiteral_cons acc other, ih]
    simp

private theorem escapeLiteral_append {c : Char} (other : c ≠ '\x7b') (text rest : List Char) :
    escapeLiteral (text ++ c :: rest) = escapeLiteral text ++ escapeLiteral (c :: rest) := by
  fun_induction escapeLiteral text with
  | case1 => rfl
  | case2 text ih => exact congrArg ('\\' :: '\\' :: ·) ih
  | case3 text ih => exact congrArg ('\\' :: '\x60' :: ·) ih
  | case4 text ih => exact congrArg ('\\' :: '$' :: '\x7b' :: ·) ih
  | case5 d text slash quote opens ih =>
    rw [List.cons_append, escapeLiteral_plain slash quote fun same brace => ?_, ih, List.cons_append]
    cases text with
    | nil => exact other (Option.some.inj brace)
    | cons e text => exact opens text same (congrArg (· :: text) (Option.some.inj brace))

/-- Escaping is the same as replacing backslashes, then quotes, and then what opens an expression. -/
theorem escapeLiteral_eq_replaceAll (text : List Char) :
    escapeLiteral text =
      replaceAll ['$', '\x7b'] ['\\', '$', '\x7b']
        (replaceAll ['\x60'] ['\\', '\x60'] (replaceAll ['\\'] ['\\', '\\'] text)) := by
  have opening : ∀ {c : Char} {rest : List Char}, ¬(c = '$' ∧ rest.head? = some '\x7b') →
      replaceAll ['$', '\x7b'] ['\\', '$', '\x7b'] (c :: rest) =
        c :: replaceAll ['$', '\x7b'] ['\\', '$', '\x7b'] rest := by
    intro c rest other
    refine replaceAll_cons ?_
    rintro ⟨tail, same⟩
    cases same
    exact other ⟨rfl, rfl⟩
  fun_induction escapeLiteral text with
  | case1 => simp [replaceAll]
  | case2 rest ih =>
    rw [replaceAll_found, List.cons_append, List.cons_append, List.nil_append, replaceAll_other (by decide),
      replaceAll_other (by decide), opening (by simp), opening (by simp), ← ih]
  | case3 rest ih =>
    rw [replaceAll_other (by decide), replaceAll_found, List.cons_append, List.cons_append, List.nil_append,
      opening (by simp), opening (by simp), ← ih]
  | case4 rest ih =>
    have replaced : ∀ text, replaceAll ['$', '\x7b'] ['\\', '$', '\x7b'] ('$' :: '\x7b' :: text) =
        '\\' :: '$' :: '\x7b' :: replaceAll ['$', '\x7b'] ['\\', '$', '\x7b'] text :=
      fun _ => replaceAll_prefix (List.cons_ne_nil _ _)
    rw [replaceAll_other (by decide), replaceAll_other (by decide), replaceAll_other (by decide),
      replaceAll_other (by decide), ih]
    exact (replaced _).symm
  | case5 c rest slash quote opens ih =>
    rw [replaceAll_other slash, replaceAll_other quote, opening, ← ih]
    rintro ⟨same, brace⟩
    obtain ⟨tail, rfl⟩ := List.head?_eq_some_iff.mp (head?_replaceAll (by decide) (head?_replaceAll (by decide) brace))
    exact opens tail same rfl

/-- The lines of a component's file before that of its template. -/
def headerLines (name : String) (imports : Imports) : List String :=
  (allImports imports).map (fun entry => importLine entry.1 entry.2 ++ ";") ++
    ["", "@Component(\x7b", indented 1 ("selector: 'app-" ++ kebabCase name ++ "',"), indented 1 "standalone: true,",
      indented 1 ("imports: [" ++ String.intercalate ", " ("CommonModule" :: imports.symbols) ++ "],")]

/-- What stands before the template and its quote. -/
def beforeTemplate (name : String) (imports : Imports) : List Char :=
  joinLines (headerLines name imports) ++ (indented 1 "template: ").toList

/-- What stands after the template and its quote. -/
def afterTemplate (name : String) : List Char :=
  joinLines [",", "\x7d)", "export class " ++ name ++ "Component \x7b\x7d"]

theorem wrap_eq (name template : String) (imports : Imports) :
    (wrap name template imports).toList =
      beforeTemplate name imports ++ '\x60' ::
        (escapeLiteral ("\n" ++ template ++ "\n  ").toList ++ '\x60' :: afterTemplate name) := by
  have inside : escapeLiteral ("\n" ++ template ++ "\n  ").toList =
      '\n' :: (escapeLiteral template.toList ++ ['\n', ' ', ' ']) := by
    have opening : "\n".toList = ['\n'] := rfl
    have closing : "\n  ".toList = ['\n', ' ', ' '] := rfl
    have plain : escapeLiteral ['\n', ' ', ' '] = ['\n', ' ', ' '] := rfl
    rw [String.toList_append, String.toList_append, opening, closing, List.cons_append, List.nil_append,
      List.cons_append, escapeLiteral_letter (by decide), escapeLiteral_append (by decide), plain]
  have header : joinLines (headerLines name imports) =
      joinLines (baseImports.map fun entry => importLine entry.1 [entry.2] ++ ";") ++
        joinLines (imports.toList.map fun entry => importLine entry.1 entry.2 ++ ";") ++ joinLines [""] ++
          joinLines ["@Component(\x7b"] ++ joinLines [indented 1 ("selector: 'app-" ++ kebabCase name ++ "',")] ++
            joinLines [indented 1 "standalone: true,"] ++
              joinLines [indented 1 ("imports: [" ++ String.intercalate ", " ("CommonModule" :: imports.symbols) ++ "],")] := by
    simp only [← joinLines_append]
    simp [headerLines, allImports, Function.comp_def]
  have started : (atLevel 0).text.toList = [] := rfl
  have opened : joinLines [indented 1 "template: \x60"] = (indented 1 "template: ").toList ++ '\x60' :: "\n".toList := rfl
  have closed : joinLines [indented 1 "\x60,"] = [' ', ' '] ++ '\x60' :: joinLines [","] := rfl
  have ended : afterTemplate name =
      joinLines [","] ++ (joinLines ["\x7d)"] ++ joinLines ["export class " ++ name ++ "Component \x7b\x7d"]) := by
    simp only [afterTemplate, ← joinLines_append, List.cons_append, List.nil_append]
  rw [inside, beforeTemplate, header]
  simp only [wrap, text_line, text_lines, text_raw, text_indent, text_dedent, text_blank, level_line, level_lines, level_raw,
    level_indent, level_dedent, level_blank, CodeBuilder.empty, level_atLevel, Nat.zero_add, Nat.sub_self, indented_zero, id,
    List.map_id, String.toList_ofList, started, opened, closed, ended, List.append_assoc, List.cons_append, List.nil_append]
  rfl

private theorem not_mem_joinLines {c : Char} (other : c ≠ '\n') {lines : List String} (absent : ∀ line ∈ lines, c ∉ line.toList) :
    c ∉ joinLines lines := by
  intro member
  obtain ⟨line, listed, inside⟩ := List.mem_flatMap.mp member
  rcases List.mem_append.mp inside with within | last
  · exact absent line listed within
  · exact other (List.mem_singleton.mp last)

/-- The texts that every header has. -/
def headerTexts : List String :=
  ["import \x7b ", ", ", " \x7d from '", "'", ";", "", "@Component(\x7b", "  ", "selector: 'app-", "',", "standalone: true,",
    "imports: [", "],", "@angular/core", "@angular/common", "Component", "CommonModule"]

/-- A character of the header stands in a fixed text, in an import or in a name with hyphens. -/
theorem not_mem_headerLines {c : Char} (fixed : ∀ text ∈ headerTexts, c ∉ text.toList) (other : isNamePart c = false)
    (hyphen : c ≠ '-') (name : String)
    (unused : ∀ entry ∈ imports.toList, c ∉ entry.1.toList ∧ ∀ symbol ∈ entry.2, c ∉ symbol.toList) :
    ∀ line ∈ headerLines name imports, c ∉ line.toList := by
  have common : c ∉ "CommonModule".toList := fixed _ (by simp [headerTexts])
  have component : c ∉ "Component".toList := fixed _ (by simp [headerTexts])
  have core : c ∉ "@angular/core".toList := fixed _ (by simp [headerTexts])
  have angular : c ∉ "@angular/common".toList := fixed _ (by simp [headerTexts])
  have base : ∀ entry ∈ baseImports.map fun entry => (entry.1, [entry.2]),
      c ∉ entry.1.toList ∧ ∀ symbol ∈ entry.2, c ∉ symbol.toList :=
    List.forall_mem_cons.mpr ⟨⟨core, List.forall_mem_singleton.mpr component⟩,
      List.forall_mem_singleton.mpr ⟨angular, List.forall_mem_singleton.mpr common⟩⟩
  have all : ∀ entry ∈ allImports imports, c ∉ entry.1.toList ∧ ∀ symbol ∈ entry.2, c ∉ symbol.toList :=
    List.forall_mem_append.mpr ⟨base, unused⟩
  have importTexts : ∀ text ∈ ["import \x7b ", ", ", " \x7d from '", "'"], c ∉ text.toList := fun text listed =>
    fixed text (by simp only [headerTexts, List.mem_cons] at listed ⊢; tauto)
  have kebab : c ∉ (kebabCase name).toList := by
    intro member
    rcases isNamePart_kebabCase name _ member with part | same
    · exact ne_of_isNamePart part other rfl
    · exact hyphen same
  have symbols : c ∉ (String.intercalate ", " ("CommonModule" :: imports.symbols)).toList := by
    refine not_mem_intercalate (importTexts ", " (by simp)) (List.forall_mem_cons.mpr ⟨common, fun symbol member => ?_⟩)
    obtain ⟨entry, listed, offered⟩ := List.mem_flatMap.mp member
    exact (unused entry listed).2 symbol offered
  have blank : c ∉ "".toList := fixed _ (by simp [headerTexts])
  have decorator : c ∉ "@Component(\x7b".toList := fixed _ (by simp [headerTexts])
  have selector : c ∉ ("selector: 'app-" ++ kebabCase name ++ "',").toList :=
    not_mem_append (not_mem_append (fixed _ (by simp [headerTexts])) kebab) (fixed _ (by simp [headerTexts]))
  have standalone : c ∉ "standalone: true,".toList := fixed _ (by simp [headerTexts])
  have used : c ∉ ("imports: [" ++ String.intercalate ", " ("CommonModule" :: imports.symbols) ++ "],").toList :=
    not_mem_append (not_mem_append (fixed _ (by simp [headerTexts])) symbols) (fixed _ (by simp [headerTexts]))
  have indentedLine : ∀ {line : String}, c ∉ line.toList → c ∉ (indented 1 line).toList :=
    not_mem_append (fixed "  " (by simp [headerTexts]))
  refine List.forall_mem_append.mpr ⟨fun line member => ?_, ?_⟩
  · obtain ⟨entry, listed, rfl⟩ := List.mem_map.mp member
    have imported := not_mem_importLine importTexts (all entry listed).1 (all entry listed).2
    exact not_mem_append imported (fixed ";" (by simp [headerTexts]))
  · intro line member
    simp only [List.mem_cons, List.not_mem_nil, or_false] at member
    rcases member with rfl | rfl | rfl | rfl | rfl
    · exact blank
    · exact decorator
    · exact indentedLine selector
    · exact indentedLine standalone
    · exact indentedLine used

/-- The first backquote of a component's file opens its template, unless one is imported. -/
theorem quote_not_mem_beforeTemplate (name : String)
    (unquoted : ∀ entry ∈ imports.toList, '\x60' ∉ entry.1.toList ∧ ∀ symbol ∈ entry.2, '\x60' ∉ symbol.toList) :
    '\x60' ∉ beforeTemplate name imports := by
  have lines := not_mem_headerLines (by decide) (by decide) (by decide) name unquoted
  rw [beforeTemplate, List.mem_append, not_or]
  exact ⟨not_mem_joinLines (by decide) lines, by decide⟩

/-- A script that evaluates the literal in a component's file gets the template, on lines of its own.
The literal ends at the quote that closes it in the file, and no expression opens before that: escaping
is undone for every text, but for the ends of lines that a script reads as line feeds. -/
theorem template_embedded (name template : String) (imports : Imports) (unreturned : '\r' ∉ template.toList) :
    (∃ written,
      (wrap name template imports).toList =
        beforeTemplate name imports ++ '\x60' :: (written ++ '\x60' :: afterTemplate name) ∧
      literal? '\x60' (written ++ '\x60' :: afterTemplate name) =
        some ("\n" ++ template ++ "\n  ", .closed, afterTemplate name)) ∧
    ((∀ entry ∈ imports.toList, '\x60' ∉ entry.1.toList ∧ ∀ symbol ∈ entry.2, '\x60' ∉ symbol.toList) →
      '\x60' ∉ beforeTemplate name imports) ∧
    (∀ text, escapeLiteral text =
      replaceAll ['$', '\x7b'] ['\\', '$', '\x7b']
        (replaceAll ['\x60'] ['\\', '\x60'] (replaceAll ['\\'] ['\\', '\\'] text))) ∧
    (∀ text rest, literal? '\x60' (escapeLiteral text ++ '\x60' :: rest) =
      some (String.ofList (feedLines text), .closed, rest)) ∧
    ∀ text, '\r' ∉ text → feedLines text = text := by
  have evaluated : ∀ text rest, literal? '\x60' (escapeLiteral text ++ '\x60' :: rest) =
      some (String.ofList (feedLines text), .closed, rest) :=
    fun text rest => literal?_of_readLiteral (readLiteral_escapeLiteral [] text rest)
  have fed : feedLines ("\n" ++ template ++ "\n  ").toList = ("\n" ++ template ++ "\n  ").toList := by
    refine feedLines_of_not_mem ?_
    simpa using unreturned
  refine ⟨⟨_, wrap_eq name template imports, ?_⟩, quote_not_mem_beforeTemplate name, escapeLiteral_eq_replaceAll,
    evaluated, fun text => feedLines_of_not_mem⟩
  rw [evaluated, fed, String.ofList_toList]

theorem template_embedded_sample :
    let template := "<p>\\\\\x60 $\x7bprice\x7d \\$\x7b</p>"
    let imports := Imports.empty.addAll "@spartan-ng/ui-label-helm" ["HlmLabelDirective"]
    '\r' ∉ template.toList ∧ ∃ written,
      (wrap "PriceNote" template imports).toList =
        beforeTemplate "PriceNote" imports ++ '\x60' :: (written ++ '\x60' :: afterTemplate "PriceNote") ∧
      literal? '\x60' (written ++ '\x60' :: afterTemplate "PriceNote") =
        some ("\n" ++ template ++ "\n  ", .closed, afterTemplate "PriceNote") := by
  intro template imports
  have unreturned : '\r' ∉ template.toList := by decide
  exact ⟨unreturned, (template_embedded "PriceNote" template imports unreturned).1⟩

end Component.Angular

end Handoff
