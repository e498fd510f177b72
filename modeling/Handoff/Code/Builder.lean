/-!
Indented text, built line by line.
-/
namespace Handoff

/-- Text so far, and the level at which the next line is indented. -/
structure CodeBuilder where
  level : Nat
  text : String

namespace CodeBuilder

def atLevel (level : Nat) : CodeBuilder := ⟨level, ""⟩

def empty : CodeBuilder := atLevel 0

/-- Two spaces for each level. -/
def indentation (level : Nat) : String := String.ofList (List.replicate (2 * level) ' ')

def line (b : CodeBuilder) (s : String) : CodeBuilder :=
  { b with text := b.text ++ indentation b.level ++ s ++ "\n" }

def blank (b : CodeBuilder) : CodeBuilder := { b with text := b.text ++ "\n" }

/-- Adds text as it is. -/
def raw (b : CodeBuilder) (s : String) : CodeBuilder := { b with text := b.text ++ s }

def indent (b : CodeBuilder) : CodeBuilder := { b with level := b.level + 1 }

/-- Goes back one level; there is none before the first. -/
def dedent (b : CodeBuilder) : CodeBuilder := { b with level := b.level - 1 }

def lines (b : CodeBuilder) (lines : List String) : CodeBuilder := lines.foldl line b

/-- The text without the line ends that close it. -/
def trimmed (b : CodeBuilder) : String :=
  String.ofList (b.text.toList.reverse.dropWhile (· == '\n')).reverse

end CodeBuilder

end Handoff
