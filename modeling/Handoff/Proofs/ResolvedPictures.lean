import Handoff.Proofs.ExportedPictures
import Handoff.Proofs.Trees
import Handoff.Service.Resolution
import Mathlib.Data.Finset.Card

/-! Giving a design the addresses of its pictures. Each id that needs a picture is reported once,
as resolved or as missing; the layers with a resolved id get its address, wherever they are, and
nothing else about the design changes. An export that fails leaves the design as it was. -/

namespace Handoff

/-- The layer is an image, or it is painted with one. -/
def Layer.ShowsPicture (layer : Layer) : Prop := layer.role = .image ∨ ∃ fill ∈ layer.fills, fill.isImage = true

instance (layer : Layer) : Decidable layer.ShowsPicture := inferInstanceAs (Decidable (_ ∨ _))

/-- The ids of the layers that show pictures, one for each such layer, in reading order. -/
def Node.pictureIds (node : Node) : List String := (node.values.filter (Layer.ShowsPicture ·)).map (·.id)

private theorem Node.assetIds_eq (node : Node) : node.assetIds = node.pictureIds.eraseDups := by
  have same : ∀ layer : Layer, layer.bearsAsset = decide layer.ShowsPicture := by
    intro layer
    rw [Layer.bearsAsset, Layer.hasImageFill, Bool.eq_iff_iff, decide_eq_true_iff, Layer.ShowsPicture]
    simp
  rw [assetIds, firstAppearances_eq_eraseDups, pictureIds]
  simp only [same]

namespace Service

/-- The layer with the address that its id has, if it has one. -/
def placed (address : String → Option String) (layer : Layer) : Layer :=
  match address layer.id with
  | some url => { layer with assetUrl := some url }
  | none => layer

/-- The tree with the address of one id put in, if there is one. -/
def patched (root : Node) (entry : String × Option String) : Node :=
  match entry.2 with
  | some url => Node.patchAsset root entry.1 url
  | none => root

/-- Addresses of one id after another. An id comes once, so their order does not matter. -/
theorem foldl_patchAsset (entries : List (String × Option String)) (root : Node)
    (distinct : (entries.map Prod.fst).Nodup) :
    entries.foldl patched root =
      root.map (placed fun id => ((entries.find? (·.1 = id)).map Prod.snd).join) := by
  induction entries generalizing root with
  | nil => exact (Tree.map_id root).symm
  | cons entry rest ih =>
    obtain ⟨id, url⟩ := entry
    obtain ⟨fresh, distinct⟩ := List.nodup_cons.mp distinct
    have later : rest.find? (·.1 = id) = none := by
      rw [List.find?_eq_none]
      intro other member same
      exact fresh (List.mem_map.mpr ⟨other, member, of_decide_eq_true same⟩)
    rw [List.foldl_cons, ih _ distinct]
    cases url with
    | none =>
      congr 1
      funext layer
      by_cases same : id = layer.id
      · subst same
        simp [placed, later]
      · simp [placed, same]
    | some url =>
      simp only [patched, Node.patchAsset, Tree.map_map]
      congr 1
      funext layer
      by_cases same : id = layer.id
      · subst same
        simp [placed, later]
      · simp [placed, same, Ne.symm same]

/-- The address that an export has for an id. -/
def exportedAddress? (exported : Except Failure Pictures) (id : String) : Option String :=
  match exported with
  | .ok pictures => (pictures.get? id).join
  | .error _ => none

private theorem entries_eq_map (pictures : Pictures) :
    pictures.entries = pictures.keys.map fun id => (id, (pictures.get? id).join) := by
  rw [OrderedMap.keys, List.map_map]
  refine (List.map_id _).symm.trans (List.map_congr_left ?_)
  rintro ⟨id, url⟩ member
  have found : pictures.get? id = some url := OrderedMap.get?_eq_some_iff.mpr member
  simp [found]

private theorem place_eq (pictures : Pictures) (root : Node) :
    place pictures root =
      (root.map (placed (exportedAddress? (.ok pictures))),
        pictures.keys.filter fun id => (exportedAddress? (.ok pictures) id).isSome,
        pictures.keys.filter fun id => (exportedAddress? (.ok pictures) id).isNone) := by
  have filtered : ∀ test : Option String → Bool, (pictures.entries.filter fun entry => test entry.2).map Prod.fst =
      pictures.keys.filter fun id => test (exportedAddress? (.ok pictures) id) := by
    intro test
    rw [entries_eq_map, List.filter_map, List.map_map]
    exact List.map_id _
  have root : pictures.entries.foldl patched root = root.map (placed (exportedAddress? (.ok pictures))) :=
    foldl_patchAsset pictures.entries root pictures.distinct
  rw [← filtered Option.isSome, ← filtered Option.isNone, ← root]
  rfl

variable {transport : Transport} {asked : Export} {ids : List String} {client : Client}

theorem keys_exportPictures {pictures : Pictures} (exported : (client.exportPictures transport asked ids).1 = .ok pictures) :
    pictures.keys = ids.eraseDups := by
  by_cases valid : asked.IsValid
  · by_cases allowed : ∀ outcome ∈ client.outcomes transport asked ids, ¬ Denied outcome
    · obtain ⟨final, succeeded, entries⟩ := Client.exportPictures_of_allowed valid allowed
      cases exported.symm.trans succeeded
      rw [OrderedMap.keys, entries, List.map_map]
      exact List.map_id _
    · obtain ⟨-, reason, -⟩ := exportPictures_isolates transport asked ids client
      push Not at allowed
      obtain ⟨error, failed⟩ := reason.mpr (.inr allowed)
      cases exported.symm.trans failed
  · obtain ⟨error, failed⟩ := exportPictures_of_not_valid valid
    rw [failed] at exported
    cases exported

theorem mem_of_exportedAddress? {id url : String}
    (address : exportedAddress? (client.exportPictures transport asked ids).1 id = some url) : id ∈ ids := by
  cases exported : (client.exportPictures transport asked ids).1 with
  | error error =>
    rw [exported] at address
    cases address
  | ok pictures =>
    rw [exported] at address
    have found : pictures.get? id = some (some url) := Option.join_eq_some_iff.mp address
    have key : id ∈ pictures.keys := List.mem_map_of_mem (OrderedMap.get?_eq_some_iff.mp found)
    rw [keys_exportPictures exported] at key
    exact List.mem_eraseDups.mp key

theorem map_placed_of_none {address : String → Option String} (root : Node) (absent : ∀ id, address id = none) :
    root.map (placed address) = root := by
  have same : placed address = fun layer => layer := by
    funext layer
    simp only [placed, absent]
  rw [same, Tree.map_id]

/-- A design without pictures asks for none; any other is told by its export alone. -/
theorem resolve_eq (transport : Transport) (asked : Export) (root : Node) (client : Client) :
    let wanted := root.pictureIds.eraseDups
    let exported := (client.exportPictures transport asked wanted).1
    ∃ failure last, client.resolve transport asked root =
        (⟨wanted.length, wanted.filter fun id => (exportedAddress? exported id).isSome,
          wanted.filter fun id => (exportedAddress? exported id).isNone, failure⟩,
          root.map (placed (exportedAddress? exported)), last) ∧
      ∀ error, failure = some error ↔ root.pictureIds ≠ [] ∧ exported = .error error := by
  intro wanted exported
  have known : ∀ id url, exportedAddress? exported id = some url → id ∈ wanted := fun _ _ => mem_of_exportedAddress?
  have none_iff : wanted = [] ↔ root.pictureIds = [] := by
    simp only [List.eq_nil_iff_forall_not_mem, wanted, List.mem_eraseDups]
  rw [Client.resolve, Node.assetIds_eq]
  dsimp only
  split
  next empty =>
    have empty : wanted = [] := List.isEmpty_iff.mp empty
    have absent : ∀ id, exportedAddress? exported id = none := by
      intro id
      rw [Option.eq_none_iff_forall_ne_some]
      intro url address
      have inside := known id url address
      rw [empty] at inside
      cases inside
    refine ⟨none, client, ?_, fun error => by simp [none_iff.mp empty]⟩
    rw [map_placed_of_none root absent, empty]
    rfl
  next asks =>
    have asks : root.pictureIds ≠ [] := fun nothing => asks (List.isEmpty_iff.mpr (none_iff.mpr nothing))
    cases result : client.exportPictures transport asked root.pictureIds.eraseDups with
    | mk outcome last =>
      have same : exported = outcome := congrArg Prod.fst result
      cases outcome with
      | error error =>
        refine ⟨some error, last, ?_, fun other => by simp [same, asks]⟩
        have resolved : wanted.filter (fun id => (exportedAddress? exported id).isSome) = [] := by
          simp [same, exportedAddress?]
        have missing : wanted.filter (fun id => (exportedAddress? exported id).isNone) = wanted := by
          simp [same, exportedAddress?]
        have unchanged : root.map (placed (exportedAddress? exported)) = root :=
          map_placed_of_none root fun id => congrArg (exportedAddress? · id) same
        rw [resolved, missing, unchanged]
      | ok pictures =>
        have keys : pictures.keys = wanted :=
          (keys_exportPictures same).trans (eraseDups_of_nodup (nodup_eraseDups root.pictureIds))
        refine ⟨none, last, ?_, fun error => by simp [same]⟩
        rw [same]
        dsimp only
        rw [place_eq, keys]

/-- What a report says of the pictures of a design, and what the design becomes with them. -/
structure Resolved (exported : Except Failure Pictures) (before after : Design) (report : AssetReport) : Prop where
  requested : report.requested = before.root.pictureIds.toFinset.card
  once : (report.resolved ++ report.missing).Nodup
  complete : ∀ id, id ∈ report.resolved ++ report.missing ↔ id ∈ before.root.pictureIds
  resolvedInOrder : report.resolved.Sublist before.root.pictureIds.eraseDups
  missingInOrder : report.missing.Sublist before.root.pictureIds.eraseDups
  addressed : ∀ id ∈ before.root.pictureIds, id ∈ report.resolved ↔ ∃ url, exportedAddress? exported id = some url
  patched : after = { before with
    root := before.root.map fun layer =>
      if layer.id ∈ report.resolved then { layer with assetUrl := exportedAddress? exported layer.id } else layer }
  failure : ∀ error, report.failure = some error ↔ before.root.pictureIds ≠ [] ∧ exported = .error error
  failed : report.failure ≠ none → report.missing = before.root.pictureIds.eraseDups ∧ after = before

/-- A design that gets the addresses of its pictures is changed nowhere else; whatever comes of the
export, there is a report on every picture. -/
theorem resolve_partitions (transport : Transport) (asked : Export) (design : Design) (client : Client) :
    ∃ report after last, client.resolveDesign transport asked design = (report, after, last) ∧
      Resolved (client.exportPictures transport asked design.root.pictureIds.eraseDups).1 design after report := by
  obtain ⟨failure, last, done, failed⟩ := resolve_eq transport asked design.root client
  have known : ∀ id url, exportedAddress? (client.exportPictures transport asked design.root.pictureIds.eraseDups).1 id = some url →
      id ∈ design.root.pictureIds.eraseDups := fun _ _ => mem_of_exportedAddress?
  have distinct := nodup_eraseDups design.root.pictureIds
  revert failed
  generalize (client.exportPictures transport asked design.root.pictureIds.eraseDups).1 = exported at *
  intro failed
  rw [Client.resolveDesign, done]
  refine ⟨_, _, last, rfl, ?_, ?_, ?_, List.filter_sublist, List.filter_sublist, ?_, ?_, failed, ?_⟩
  · refine (List.toFinset_card_of_nodup distinct).symm.trans (congrArg Finset.card ?_)
    ext id
    simp
  · refine List.nodup_append.mpr ⟨distinct.filter _, distinct.filter _, ?_⟩
    rintro id resolved other missing rfl
    have given := (List.mem_filter.mp resolved).2
    have absent := (List.mem_filter.mp missing).2
    rw [Option.isNone_iff_eq_none.mp absent] at given
    cases given
  · intro id
    rw [List.mem_append, List.mem_filter, List.mem_filter, List.mem_eraseDups, ← and_or_left]
    cases exportedAddress? exported id <;> simp
  · intro id wanted
    rw [List.mem_filter, List.mem_eraseDups, Option.isSome_iff_exists]
    exact and_iff_right wanted
  · congr 2
    funext layer
    cases address : exportedAddress? exported layer.id with
    | none => simp [placed, address]
    | some url => simp [placed, address, List.mem_eraseDups.mp (known _ _ address)]
  · intro set
    obtain ⟨error, rfl⟩ := Option.ne_none_iff_exists'.mp set
    obtain ⟨-, rfl⟩ := (failed error).mp rfl
    refine ⟨List.filter_eq_self.mpr fun _ _ => rfl, ?_⟩
    exact congrArg (fun root => { design with root }) (map_placed_of_none design.root fun _ => rfl)

end Service

end Handoff
