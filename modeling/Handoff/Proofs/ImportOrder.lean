import Handoff.Proofs.CollectedImports

/-! The order of imports. Modules come as they are first asked for by a design that is read
from its root on, children in order, and so do the symbols of a module. A role that was seen
before asks for nothing new, so looking at each role once is as good as looking at each layer. -/

namespace Handoff

private theorem firstAppearances_concat {α : Type} [DecidableEq α] (values : List α) (last : α) :
    firstAppearances (values ++ [last]) =
      if last ∈ values then firstAppearances values else firstAppearances values ++ [last] := by
  rw [firstAppearances_eq_eraseDups, firstAppearances_eq_eraseDups, eraseDups_concat]

namespace Imports

/-- What pairs of a module and a symbol say of one module. -/
def symbolsFrom (pairs : List (String × String)) (module : String) : List String :=
  ((pairs.filter (·.1 = module)).map Prod.snd).eraseDups

/-- Pairs by module: modules and symbols without repetitions, in the order of the pairs. -/
def grouped (pairs : List (String × String)) : List (String × List String) :=
  (pairs.map Prod.fst).eraseDups.map fun module => (module, symbolsFrom pairs module)

variable {imports : Imports} {pairs : List (String × String)} {module symbol : String}

private theorem mem_symbolsFrom : symbol ∈ symbolsFrom pairs module ↔ (module, symbol) ∈ pairs := by
  simp [symbolsFrom]

private theorem symbolsFrom_concat_self :
    symbolsFrom (pairs ++ [(module, symbol)]) module =
      if (module, symbol) ∈ pairs then symbolsFrom pairs module else symbolsFrom pairs module ++ [symbol] := by
  have last : (pairs ++ [(module, symbol)]).filter (·.1 = module) = pairs.filter (·.1 = module) ++ [(module, symbol)] := by
    simp
  rw [symbolsFrom, last, List.map_append, List.map_singleton, eraseDups_concat]
  simp [symbolsFrom]

private theorem symbolsFrom_concat_other {other : String} (different : other ≠ module) :
    symbolsFrom (pairs ++ [(module, symbol)]) other = symbolsFrom pairs other := by
  simp [symbolsFrom, Ne.symm different]

private theorem getD_get? (same : imports.toList = grouped pairs) :
    (imports.modules.get? module).getD [] = symbolsFrom pairs module := by
  by_cases known : module ∈ (pairs.map Prod.fst).eraseDups
  · have stored : (module, symbolsFrom pairs module) ∈ imports.modules.entries := by
      change _ ∈ imports.toList
      exact same ▸ List.mem_map_of_mem known
    rw [OrderedMap.get?_eq_some_iff.mpr stored, Option.getD_some]
  · have absent : imports.modules.get? module = none := by
      rw [Option.eq_none_iff_forall_ne_some]
      intro symbols found
      have stored : (module, symbols) ∈ imports.toList := OrderedMap.get?_eq_some_iff.mp found
      rw [same] at stored
      obtain ⟨other, listed, equal⟩ := List.mem_map.mp stored
      exact known ((Prod.mk.inj equal).1 ▸ listed)
    have unasked : pairs.filter (·.1 = module) = [] := by
      rw [List.filter_eq_nil_iff]
      intro pair member asked
      exact known (List.mem_eraseDups.mpr (of_decide_eq_true asked ▸ List.mem_map_of_mem member))
    rw [absent, symbolsFrom, unasked]
    rfl

private theorem toList_add (same : imports.toList = grouped pairs) :
    (imports.add module symbol).toList = grouped (pairs ++ [(module, symbol)]) := by
  have known : symbol ∈ (imports.modules.get? module).getD [] ↔ (module, symbol) ∈ pairs := by
    rw [getD_get? same, mem_symbolsFrom]
  have modules : ((pairs ++ [(module, symbol)]).map Prod.fst).eraseDups =
      if module ∈ pairs.map Prod.fst then (pairs.map Prod.fst).eraseDups else (pairs.map Prod.fst).eraseDups ++ [module] := by
    rw [List.map_append, List.map_singleton, eraseDups_concat]
  have others : ∀ other, other ≠ module → symbolsFrom (pairs ++ [(module, symbol)]) other = symbolsFrom pairs other :=
    fun other => symbolsFrom_concat_other
  unfold add
  dsimp only
  split
  next offered =>
    have member := known.mp offered
    rw [same, grouped, grouped, modules, if_pos (List.mem_map_of_mem member)]
    refine List.map_congr_left fun other _ => ?_
    by_cases equal : other = module
    · rw [equal, symbolsFrom_concat_self, if_pos member]
    · rw [others other equal]
  next fresh =>
    have added : symbolsFrom pairs module ++ [symbol] = symbolsFrom (pairs ++ [(module, symbol)]) module := by
      rw [symbolsFrom_concat_self, if_neg fun member => fresh (known.mpr member)]
    change OrderedMap.put module _ imports.toList = _
    rw [getD_get? same, added, same, grouped, OrderedMap.put_graph (nodup_eraseDups _) others, grouped, modules]
    simp only [List.mem_eraseDups]

private theorem toList_foldl_add (same : imports.toList = grouped pairs) (more : List (String × String)) :
    (more.foldl (fun imports pair => imports.add pair.1 pair.2) imports).toList = grouped (pairs ++ more) := by
  induction more generalizing imports pairs with
  | nil => rw [List.append_nil]; exact same
  | cons pair more ih =>
    have added : (imports.add pair.1 pair.2).toList = grouped (pairs ++ [pair]) := toList_add same
    have next := ih added
    rw [List.append_assoc] at next
    exact next

end Imports

namespace Component
open Imports

/-- What a library imports for a role: each symbol with its module. -/
def Library.requests (library : Library) (role : Role) : List (String × String) :=
  match library.wrapper? role with
  | some wrapper => wrapper.symbols.map (wrapper.module, ·)
  | none => []

theorem Library.collect_eq (library : Library) (imports : Imports) (role : Role) :
    library.collect imports role = (library.requests role).foldl (fun imports pair => imports.add pair.1 pair.2) imports := by
  rw [collect, requests]
  cases library.wrapper? role with
  | some wrapper =>
    dsimp only
    rw [List.foldl_map]
    rfl
  | none => rfl

private theorem Library.mem_requests {library : Library} {role : Role} {pair : String × String} :
    pair ∈ library.requests role ↔
      ∃ wrapper, library.wrapper? role = some wrapper ∧ pair.1 = wrapper.module ∧ pair.2 ∈ wrapper.symbols := by
  rw [requests]
  cases library.wrapper? role with
  | some wrapper =>
    rw [List.mem_map]
    constructor
    · rintro ⟨symbol, member, rfl⟩
      exact ⟨wrapper, rfl, rfl, member⟩
    · rintro ⟨_, ⟨⟩, same, member⟩
      exact ⟨pair.2, member, by rw [← same]⟩
  | none => simp

private theorem addPairs_of_offers {imports : Imports} {pairs : List (String × String)}
    (offered : ∀ pair ∈ pairs, imports.Offers pair.1 pair.2) :
    pairs.foldl (fun imports pair => imports.add pair.1 pair.2) imports = imports := by
  induction pairs with
  | nil => rfl
  | cons pair pairs ih =>
    obtain ⟨first, more⟩ := List.forall_mem_cons.mp offered
    have same : imports.add pair.1 pair.2 = imports := by rw [add, if_pos (known_getD.mpr first)]
    rw [List.foldl_cons, same, ih more]

/-- A role that has been looked at offers nothing new. -/
theorem Library.collect_again (library : Library) {roles : List Role} {role : Role} (seen : role ∈ roles) :
    library.collect (roles.foldl library.collect .empty) role = roles.foldl library.collect .empty := by
  rw [collect_eq]
  refine addPairs_of_offers fun pair member => ?_
  obtain ⟨wrapper, found, module, symbol⟩ := mem_requests.mp member
  exact (Renderer.offers_foldl library roles .empty).mpr (.inr ⟨role, seen, wrapper, found, module, symbol⟩)

private theorem Library.foldl_firstAppearances (library : Library) (roles : List Role) :
    (firstAppearances roles).foldl library.collect .empty = roles.foldl library.collect .empty := by
  induction roles using List.reverseRecOn with
  | nil => rfl
  | append_singleton roles role ih =>
    rw [firstAppearances_concat, List.foldl_append, List.foldl_cons, List.foldl_nil]
    split
    next seen => rw [ih, library.collect_again seen]
    next => rw [List.foldl_append, ih]; rfl

/-- What a component imports: what its layers ask for, in the order of the layers, by module. -/
theorem Renderer.toList_imports (renderer : Renderer) (node : Node) :
    (renderer.imports node).toList = grouped (node.values.flatMap fun layer => renderer.library.requests layer.role) := by
  have pairs : (node.values.map (·.role)).foldl renderer.library.collect .empty =
      (node.values.flatMap fun layer => renderer.library.requests layer.role).foldl
        (fun imports pair => imports.add pair.1 pair.2) .empty := by
    rw [List.foldl_map, List.foldl_flatMap]
    simp only [Library.collect_eq]
  rw [imports_eq_foldl, Node.roles, Library.foldl_firstAppearances, pairs]
  have started : Imports.empty.toList = grouped [] := rfl
  exact toList_foldl_add started _

end Component

end Handoff
