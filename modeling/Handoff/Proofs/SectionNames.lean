import Mathlib.Algebra.Group.Nat.Defs
import Handoff.Proofs.PageSections

/-! The names that labels get as sections of a page. A search tries a label's own name and
then that name with a number after it, from two on, until one is new. It ends because only so
many names are taken, and it ends at the least number, whatever the names before it look like. -/

namespace Handoff.Site

/-- What a base is called among names that are taken: the base, or the base with the least
number from two on that makes it new. -/
inductive IsClaimed (taken : List String) (base : String) : String → Prop
  | bare (fresh : base ∉ taken) : IsClaimed taken base base
  | withNumber {number : Nat} (known : base ∈ taken) (two_le : 2 ≤ number) (fresh : base ++ toString number ∉ taken)
    (least : ∀ smaller, 2 ≤ smaller → smaller < number → base ++ toString smaller ∈ taken) :
    IsClaimed taken base (base ++ toString number)

private theorem IsClaimed.congr {taken others : List String} (same : ∀ name, name ∈ taken ↔ name ∈ others) {base name : String}
    (claimed : IsClaimed taken base name) : IsClaimed others base name := by
  cases claimed with
  | bare fresh => exact .bare ((not_congr (same _)).mp fresh)
  | withNumber known two_le fresh least =>
    refine .withNumber ((same _).mp known) two_le ((not_congr (same _)).mp fresh) ?_
    intro smaller low high
    exact (same _).mp (least smaller low high)

/-- A search for a new name: what is tried now, and the number that is tried next. The number
is a word of 32 bits with a sign, and wraps. -/
structure Search where
  name : String
  next : Int32

def Search.start (base : String) : Search := ⟨base, 2⟩

def Search.advance (base : String) (search : Search) : Search := ⟨base ++ toString search.next, search.next + 1⟩

/-- A search goes on while the name that it tries is taken, and ends at one that is not. -/
inductive Search.EndsAt (taken : List String) (base : String) : Search → String → Prop
  | fresh {search : Search} (new : search.name ∉ taken) : EndsAt taken base search search.name
  | again {search : Search} {name : String} (known : search.name ∈ taken) (later : EndsAt taken base (search.advance base) name) :
    EndsAt taken base search name

private theorem Search.EndsAt.congr {taken others : List String} (same : ∀ name, name ∈ taken ↔ name ∈ others)
    {base name : String} {search : Search} (ends : search.EndsAt taken base name) : search.EndsAt others base name := by
  induction ends with
  | fresh new => exact .fresh ((not_congr (same _)).mp new)
  | again known _ ih => exact .again ((same _).mp known) ih

/-- The first numbered form that is not taken, with all forms before it. -/
theorem freeName_eq (taken : List String) (base : String) :
    ∃ index ≤ taken.length, freeName taken base = numbered base index ∧ numbered base index ∉ taken ∧
      ∀ earlier < index, numbered base earlier ∈ taken := by
  have fresh := freeName_not_mem taken base
  unfold freeName at fresh ⊢
  rw [List.find?_map] at fresh ⊢
  cases found : (List.range (taken.length + 1)).find? ((fun name => decide (name ∉ taken)) ∘ numbered base) with
  | none =>
    rw [found] at fresh
    have base_known : numbered base 0 ∈ taken := by
      simpa using List.find?_eq_none.mp found 0 (List.mem_range.mpr (Nat.succ_pos _))
    exact absurd base_known fresh
  | some index =>
    obtain ⟨new, inside, before⟩ := List.find?_range_eq_some.mp found
    refine ⟨index, Nat.le_of_lt_succ (List.mem_range.mp inside), rfl, by simpa using new, fun earlier sooner => ?_⟩
    simpa using before earlier sooner

private theorem isClaimed_freeName (taken : List String) (base : String) : IsClaimed taken base (freeName taken base) := by
  obtain ⟨index, -, named, fresh, before⟩ := freeName_eq taken base
  rw [named]
  cases index with
  | zero => exact .bare fresh
  | succ index =>
    refine .withNumber (before 0 (Nat.succ_pos index)) (Nat.le_add_left 2 index) fresh fun smaller low high => ?_
    obtain ⟨earlier, rfl⟩ := Nat.exists_eq_add_of_le' low
    exact before (earlier + 1) (by omega)

/-- The search after some names that were taken. -/
def Search.after (base : String) (tried : Nat) : Search := ⟨numbered base tried, Int32.ofNat (tried + 2)⟩

private theorem Search.advance_after (base : String) {tried : Nat} (small : tried + 2 < 2 ^ 31) :
    (Search.after base tried).advance base = Search.after base (tried + 1) := by
  have written : toString (Int32.ofNat (tried + 2)) = toString (tried + 2) := by
    change toString (Int32.ofNat (tried + 2)).toInt = _
    rw [Int32.toInt_ofNat_of_lt small]
    rfl
  have counted : Int32.ofNat (tried + 2) + 1 = Int32.ofNat (tried + 1 + 2) := (Int32.ofNat_add (tried + 2) 1).symm
  change Search.mk (base ++ toString (Int32.ofNat (tried + 2))) (Int32.ofNat (tried + 2) + 1) = _
  rw [written, counted]
  rfl

/-- Every number below the one at which the search ends is small enough for its word. -/
theorem Search.endsAt_freeName {taken : List String} (few : taken.length + 1 < 2 ^ 31) (base : String) :
    (Search.start base).EndsAt taken base (freeName taken base) := by
  obtain ⟨index, bounded, named, fresh, before⟩ := freeName_eq taken base
  rw [named]
  have fromHere : ∀ left tried, tried + left = index → (Search.after base tried).EndsAt taken base (numbered base index) := by
    intro left
    induction left with
    | zero =>
      rintro tried rfl
      exact .fresh fresh
    | succ left ih =>
      intro tried same
      refine .again (before tried (by omega)) ?_
      rw [advance_after base (by omega)]
      exact ih (tried + 1) (by omega)
  exact fromHere index 0 (Nat.zero_add index)

/-- Each name is made from its own label when those before it are taken. -/
theorem namesAfter_split {taken labels before after : List String} {name : String}
    (split : namesAfter taken labels = before ++ name :: after) :
    ∃ label, labels[before.length]? = some label ∧ name = freeName (before.reverse ++ taken) (Naming.pascalCase label) := by
  induction labels generalizing taken before with
  | nil => simp [namesAfter] at split
  | cons label rest ih =>
    rw [namesAfter] at split
    cases before with
    | nil =>
      injection split with first
      exact ⟨label, rfl, first.symm⟩
    | cons earlier before =>
      injection split with first later
      subst first
      obtain ⟨found, listed, named⟩ := ih later
      refine ⟨found, by simpa using listed, ?_⟩
      rw [named, List.reverse_cons, List.append_assoc, List.singleton_append]

theorem nodes_derivedSections (root : Node) : (derivedSections root).map Section.node = root.withoutDecoration.children := by
  rw [(derivedSections_eq root).2.2, children_withoutDecoration]

/-- A section is called by its own label among the sections before it. -/
theorem name_derivedSections {root : Node} {before after : List Section} {item : Section}
    (split : derivedSections root = before ++ item :: after) :
    item.name = freeName (before.map Section.name).reverse (Naming.pascalCase item.node.value.name) := by
  have names := names_derivedSections root
  have nodes := nodes_derivedSections root
  rw [split, List.map_append, List.map_cons] at names nodes
  obtain ⟨label, listed, named⟩ := namesAfter_split names.symm
  rw [← nodes, List.length_map, List.map_append, List.map_map, List.getElem?_append_right (by simp)] at listed
  have own : item.node.value.name = label := by simpa using listed
  rw [named, List.append_nil, own]

/-- The sections of a page are its layers in their order, under names that differ. Each search
for a name ends, and at the layer's own name or the least number after it. -/
theorem derivedSections_claimed {root : Node} (few : root.children.length < 2 ^ 31) :
    (derivedSections root).map Section.node = root.withoutDecoration.children ∧
      ((derivedSections root).map Section.name).Nodup ∧
      ∀ before item after, derivedSections root = before ++ item :: after →
        (Search.start (Naming.pascalCase item.node.value.name)).EndsAt (before.map Section.name)
            (Naming.pascalCase item.node.value.name) item.name ∧
          IsClaimed (before.map Section.name) (Naming.pascalCase item.node.value.name) item.name := by
  refine ⟨nodes_derivedSections root, (derivedSections_eq root).1, fun before item after split => ?_⟩
  have kept : (derivedSections root).length ≤ root.children.length := by
    rw [← List.length_map Section.node, (derivedSections_eq root).2.2, List.length_map]
    exact List.length_filter_le _ _
  have bounded : before.length + 1 ≤ (derivedSections root).length := by
    rw [split, List.length_append, List.length_cons]
    omega
  have few : (before.map Section.name).reverse.length + 1 < 2 ^ 31 := by
    rw [List.length_reverse, List.length_map]
    omega
  have same : ∀ name, name ∈ (before.map Section.name).reverse ↔ name ∈ before.map Section.name := fun _ => List.mem_reverse
  rw [name_derivedSections split]
  exact ⟨(Search.endsAt_freeName few _).congr same, (isClaimed_freeName _ _).congr same⟩

/-- Labels that end in digits, and a decoration that is left out. -/
def cardPage : Node :=
  pageOf [.node (.bare "1:1" "card 2" .hero) [], .node (.bare "1:2" "sparkle" .icon) [], .node (.bare "1:3" "Card" .hero) [],
    .node (.bare "1:4" "card" .hero) [], .node (.bare "1:5" "Card" .hero) []]

theorem derivedSections_claimed_cards :
    cardPage.children.length < 2 ^ 31 ∧ (derivedSections cardPage).map Section.name = ["Card2", "Card", "Card3", "Card4"] ∧
      (Search.start "Card").EndsAt ["Card2", "Card", "Card3"] "Card" "Card4" ∧ IsClaimed ["Card2", "Card", "Card3"] "Card" "Card4" := by
  have few : cardPage.children.length < 2 ^ 31 := by decide
  obtain ⟨-, -, claimed⟩ := derivedSections_claimed few
  have names : (derivedSections cardPage).map Section.name = ["Card2", "Card", "Card3", "Card4"] := by decide +kernel
  have earlier : ((derivedSections cardPage).take 3).map Section.name = ["Card2", "Card", "Card3"] := by
    rw [List.map_take, names, List.take]
    rfl
  have own : Naming.pascalCase "Card" = "Card" := by decide +kernel
  obtain ⟨ends, least⟩ := claimed ((derivedSections cardPage).take 3) ⟨"Card4", .node (.bare "1:5" "Card" .hero) [], .none⟩ []
    (by decide +kernel)
  rw [earlier] at ends least
  change (Search.start (Naming.pascalCase "Card")).EndsAt _ (Naming.pascalCase "Card") _ at ends
  change IsClaimed _ (Naming.pascalCase "Card") _ at least
  rw [own] at ends least
  exact ⟨few, names, ends, least⟩

end Handoff.Site
