import Handoff.Proofs.CollectedImports
import Handoff.Proofs.MarkupZones
import Handoff.Proofs.ModuleReading

/-! The lines of an import and of a template, as they are read in the files that hold them.
An import says its names and its source, and leaves no brace open; a template opens and
closes everything it holds, so no line of it stands at the top of a module. -/

namespace Handoff
open Naming Text Component

theorem Component.IsSource.not_mem {source : String} (legible : IsSource source) {c : Char}
    (other : isSourcePart c = false) : c ∉ source.toList := by
  intro member
  simp [legible c member] at other

namespace Script
open Markup Nesting

variable {symbols : List String} {source ending : String}

/-- Written names are cut into words with commas between them, whatever ends the last one. -/
theorem lexAfter_names (nonempty : symbols ≠ []) (plain : ∀ symbol ∈ symbols, IsPlain symbol) {rest : List Char}
    {tail : List Token} (ended : ∀ word, lexAfter (.word word) rest = .word (String.ofList word.reverse) :: tail) :
    lexAfter .nothing ((String.intercalate ", " symbols).toList ++ rest) =
      (symbols.map Token.word).intersperse (.mark ',') ++ tail := by
  have comma : ∀ word more : List Char, lexAfter (.word word) (", ".toList ++ more) =
      .word (String.ofList word.reverse) :: .mark ',' :: lexAfter .nothing more :=
    fun _ _ => rfl
  induction symbols with
  | nil => exact absurd rfl nonempty
  | cons symbol symbols ih =>
    obtain ⟨first, more⟩ := List.forall_mem_cons.mp plain
    cases symbols with
    | nil =>
      have single : (String.intercalate ", " [symbol]).toList = symbol.toList := by simp
      rw [single, lexAfter_name first, ended]
      simp
    | cons next symbols =>
      have split : (String.intercalate ", " (symbol :: next :: symbols)).toList =
          symbol.toList ++ (", ".toList ++ (String.intercalate ", " (next :: symbols)).toList) := by
        simp only [String.toList_intercalate, List.map_cons, List.intercalate_cons_cons, List.append_assoc]
      rw [split, List.append_assoc, lexAfter_name first, List.append_assoc, comma, ih (List.cons_ne_nil _ _) more]
      simp

/-- Names with commas between them are read up to the brace that follows. -/
theorem names?_lexed (nonempty : symbols ≠ []) (plain : ∀ symbol ∈ symbols, IsPlain symbol) (rest : List Char) :
    names? (lexAfter .nothing ((String.intercalate ", " symbols).toList ++ (" \x7d from '".toList ++ rest))) =
      some (symbols, .word "from" :: lexAfter (.quoted []) rest) := by
  have read : ∀ tail, names? ((symbols.map Token.word).intersperse (.mark ',') ++ .mark '\x7d' :: tail) = some (symbols, tail) := by
    intro tail
    clear plain
    induction symbols with
    | nil => exact absurd rfl nonempty
    | cons symbol symbols ih =>
      cases symbols with
      | nil => simp [names?]
      | cons next symbols =>
        have more := ih (List.cons_ne_nil next symbols)
        simp only [List.map_cons, List.intersperse_cons_cons, List.cons_append, names?] at more ⊢
        rw [if_pos trivial, more, Option.map_some]
  rw [lexAfter_names nonempty plain fun _ => rfl]
  exact read _

theorem lex_importLine (source : String) (symbols : List String) (ending : String) :
    lex (importLine source symbols ++ ending) =
      .word "import" :: .mark '\x7b' :: lexAfter .nothing
        ((String.intercalate ", " symbols).toList ++
          (" \x7d from '".toList ++ (source.toList ++ '\'' :: ending.toList))) := by
  have opening : ∀ rest : List Char, lexAfter .nothing ("import \x7b ".toList ++ rest) =
      .word "import" :: .mark '\x7b' :: lexAfter .nothing rest := fun _ => rfl
  simp only [lex, importLine, String.toList_append, List.append_assoc]
  exact opening _

theorem closedTag?_importLine (source : String) (symbols : List String) (ending : String) :
    closedTag? (importLine source symbols ++ ending) = none := by
  rw [closedTag?, lex_importLine]

theorem ofTokens?_importLine (nonempty : symbols ≠ []) (plain : ∀ symbol ∈ symbols, IsPlain symbol)
    (legible : IsSource source) (ending : String) :
    Statement.ofTokens? (lex (importLine source symbols ++ ending)) = some (.importNamed symbols source) := by
  have unquoted : '\'' ∉ source.toList := legible.not_mem (by decide)
  rw [lex_importLine, Statement.ofTokens?, import?, names?_lexed nonempty plain, lexAfter_quoted unquoted]
  simp [source?]

theorem isFlat_of_isSourcePart {c : Char} (part : isSourcePart c = true) : isFlat c = true := by
  have other : ∀ d ∈ ['<', '\x7b', '\x7d'], isSourcePart d = false := by decide
  rw [isFlat, decide_eq_true_eq]
  intro listed
  simp [other c listed] at part

theorem isFlat_of_isNamePart {c : Char} (part : isNamePart c = true) : isFlat c = true :=
  isFlat_of_isSourcePart (by simp [isSourcePart, part])

private theorem afterText_importLine (plain : ∀ symbol ∈ symbols, IsPlain symbol) (legible : IsSource source)
    (flat : ∀ c ∈ ending.toList, isFlat c = true) :
    (Nesting.code 0).afterText (importLine source symbols ++ ending).toList = .code 0 := by
  have opened : (Nesting.code 0).afterText "import \x7b ".toList = .code 1 := rfl
  have closed : (Nesting.code 1).afterText " \x7d from '".toList = .code 0 := rfl
  have quote : (Nesting.code 0).afterText "'".toList = .code 0 := rfl
  have names : ∀ c ∈ (String.intercalate ", " symbols).toList, isFlat c = true :=
    forall_mem_intercalate (by decide) fun symbol member c inside =>
      isFlat_of_isNamePart ((plain symbol member).parts c inside)
  have path : ∀ c ∈ source.toList, isFlat c = true := fun c member => isFlat_of_isSourcePart (legible c member)
  simp only [importLine, String.toList_append, afterText_append, opened]
  rw [afterText_flat names, closed, afterText_flat path, quote, afterText_flat flat]

theorem not_mem_importLine {c : Char} (fixed : ∀ part ∈ ["import \x7b ", ", ", " \x7d from '", "'"], c ∉ part.toList)
    (path : c ∉ source.toList) (names : ∀ symbol ∈ symbols, c ∉ symbol.toList) : c ∉ (importLine source symbols).toList := by
  have listed := not_mem_intercalate (fixed ", " (by simp)) names
  simp only [importLine, String.toList_append, List.mem_append, not_or]
  exact ⟨⟨⟨⟨fixed _ (by simp), listed⟩, fixed _ (by simp)⟩, path⟩, fixed _ (by simp)⟩

private theorem newline_not_mem_importLine (plain : ∀ symbol ∈ symbols, IsPlain symbol) (legible : IsSource source) :
    '\n' ∉ (importLine source symbols).toList :=
  not_mem_importLine (by decide) (legible.not_mem (by decide)) fun symbol member => (plain symbol member).not_mem (by decide)

theorem newline_not_mem_imports {entries : List (String × List String)}
    (plain : ∀ entry ∈ entries, ∀ symbol ∈ entry.2, IsPlain symbol) (legible : ∀ entry ∈ entries, IsSource entry.1)
    (whole : '\n' ∉ ending.toList) :
    ∀ line ∈ entries.map (fun entry => importLine entry.1 entry.2 ++ ending), '\n' ∉ line.toList := by
  intro line member
  obtain ⟨entry, listed, rfl⟩ := List.mem_map.mp member
  rw [String.toList_append, List.mem_append, not_or]
  exact ⟨newline_not_mem_importLine (plain entry listed) (legible entry listed), whole⟩

/-- Imports at the top of a module are all read, and leave the reader at the top. -/
theorem topLines_imports {entries : List (String × List String)}
    (plain : ∀ entry ∈ entries, ∀ symbol ∈ entry.2, IsPlain symbol) (legible : ∀ entry ∈ entries, IsSource entry.1)
    (flat : ∀ c ∈ ending.toList, isFlat c = true) (rest : List String) :
    topLines (.code 0) (entries.map (fun entry => importLine entry.1 entry.2 ++ ending) ++ rest) =
      entries.map (fun entry => importLine entry.1 entry.2 ++ ending) ++ topLines (.code 0) rest := by
  induction entries with
  | nil => rfl
  | cons entry entries ih =>
    obtain ⟨plainFirst, plainMore⟩ := List.forall_mem_cons.mp plain
    obtain ⟨legibleFirst, legibleMore⟩ := List.forall_mem_cons.mp legible
    rw [List.map_cons, List.cons_append, List.cons_append,
      topLines_top 0 (afterText_importLine plainFirst legibleFirst flat), ih plainMore legibleMore]

theorem statements_imports {entries : List (String × List String)} (nonempty : ∀ entry ∈ entries, entry.2 ≠ [])
    (plain : ∀ entry ∈ entries, ∀ symbol ∈ entry.2, IsPlain symbol) (legible : ∀ entry ∈ entries, IsSource entry.1)
    (ending : String) :
    statements (entries.map fun entry => importLine entry.1 entry.2 ++ ending) =
      entries.map fun entry => .importNamed entry.2 entry.1 := by
  rw [statements, List.filterMap_map, ← List.filterMap_eq_map]
  refine List.filterMap_congr fun entry member => ?_
  exact ofTokens?_importLine (nonempty entry member) (plain entry member) (legible entry member) ending

/-! Templates -/

/-- Text that ends in the zone it begins in and has no braces outside values. -/
structure Closed (text : List Char) : Prop where
  content : text.foldl Zone.after .content = .content
  openBrace : '\x7b' ∉ outsideValues .content text
  closeBrace : '\x7d' ∉ outsideValues .content text

private theorem topLines_inside {nesting : Nesting} (deep : 0 < nesting.depth) {lines : List String}
    (opening : '\x7b' ∉ outsideValues nesting.zone (joinLines lines))
    (closing : '\x7d' ∉ outsideValues nesting.zone (joinLines lines)) : topLines nesting lines = [] := by
  induction lines generalizing nesting with
  | nil => rfl
  | cons line lines ih =>
    have inside : nesting ≠ .code 0 := by
      rintro rfl
      exact absurd deep (Nat.lt_irrefl 0)
    rw [joinLines, List.flatMap_cons, outsideValues_append, List.mem_append, not_or] at opening closing
    have next := Nesting.afterText_of_not_mem opening.1 closing.1
    rw [topLines, if_neg inside, List.nil_append, next]
    exact ih deep opening.2 closing.2

theorem topLines_template {template : String} (closed : Closed template.toList) {depth : Nat} (deep : 0 < depth)
    (rest : List String) : topLines (.code depth) (linesOf template ++ rest) = topLines (.code depth) rest := by
  have absent : ∀ d, d ∉ outsideValues .content template.toList → d ≠ '\n' →
      d ∉ outsideValues .content (joinLines (linesOf template)) := by
    intro d outside other
    rw [joinLines_linesOf, outsideValues_append, closed.content, List.mem_append, not_or]
    exact ⟨outside, by simpa [outsideValues] using other⟩
  have opening := absent _ closed.openBrace (by decide)
  have closing := absent _ closed.closeBrace (by decide)
  have same : (Nesting.code depth).afterText (joinLines (linesOf template)) = .code depth := by
    have moved : template.toList.foldl Zone.after (Nesting.code depth).zone = .content := closed.content
    rw [Nesting.afterText_of_not_mem opening closing, joinLines_linesOf, List.foldl_append, moved]
    rfl
  rw [topLines_append, topLines_inside deep opening closing, same, List.nil_append]

end Script

end Handoff
