/-!
Tables of code points. A table lists spans in rising order; a span takes every `stride`-th code
point from its first to its last, so that alternating capitals and small letters stay short.
-/
namespace Handoff.Text

/-- The code points `first`, `first + stride`, … up to `last`. -/
structure Span where
  first : Nat
  last : Nat
  stride : Nat

namespace Span

def contains (span : Span) (code : Nat) : Bool :=
  decide (span.first ≤ code) && decide (code ≤ span.last) && (code - span.first) % span.stride == 0

/-- Looks a code point up in a rising table and stops at the first span that ends past it. -/
def tableContains : List Span → Nat → Bool
  | [], _ => false
  | span :: rest, code =>
    if code ≤ span.last then span.contains code else tableContains rest code

/-- A table of unbroken ranges. -/
def ofRanges (ranges : List (Nat × Nat)) : List Span :=
  ranges.map fun (first, last) => ⟨first, last, 1⟩

def ofTriples (triples : List (Nat × Nat × Nat)) : List Span :=
  triples.map fun (first, last, stride) => ⟨first, last, stride⟩

/-- A table of unbroken ranges with a value each. -/
def ofRangesWith {α : Type} (ranges : List (Nat × Nat × α)) : List (Span × α) :=
  ranges.map fun (first, last, value) => (⟨first, last, 1⟩, value)

/-- A table of spans with their strides and a value each. -/
def ofTriplesWith {α : Type} (triples : List (Nat × Nat × Nat × α)) : List (Span × α) :=
  triples.map fun (first, last, stride, value) => (⟨first, last, stride⟩, value)

/-- The span of a rising table that a code point lies on, with its value. -/
def tableFind? {α : Type} : List (Span × α) → Nat → Option (Span × α)
  | [], _ => none
  | (span, value) :: rest, code =>
    if code ≤ span.last then (if span.contains code then some (span, value) else none)
    else tableFind? rest code

end Span

/-- The value of a code point in a table that lists single code points in rising order. -/
def lookUp? {α : Type} : List (Nat × α) → Nat → Option α
  | [], _ => none
  | (key, value) :: rest, code =>
    if key < code then lookUp? rest code else if key = code then some value else none

end Handoff.Text
