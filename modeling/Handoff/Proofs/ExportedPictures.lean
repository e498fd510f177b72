import Handoff.Proofs.PictureBatches

/-! What an export of pictures gives. It fails only if it was not asked for properly or if a batch
was denied; a batch that fails otherwise takes nothing from the ids of the others. If the service
gives each id its address, then the batches cannot be seen in the result. -/

namespace Handoff.Service

/-- What came of the batches of an export. -/
def Client.outcomes (transport : Transport) (asked : Export) (ids : List String) (client : Client) :
    List (List String × BatchOutcome) :=
  (client.exportBatches transport asked (batches client.settings.batchSize ids)).1

variable {transport : Transport} {asked : Export} {ids : List String} {client : Client}

theorem Client.exportBatches_outcomes (transport : Transport) (asked : Export) (ids : List String) (client : Client) :
    ∃ sent, client.exportBatches transport asked (batches client.settings.batchSize ids) =
        (client.outcomes transport asked ids, { client with sent }) ∧
      (client.outcomes transport asked ids).map Prod.fst = batches client.settings.batchSize ids ∧
      ExportedAll transport client.settings asked client.sent (client.outcomes transport asked ids) sent := by
  obtain ⟨outcomes, sent, done, groups, exported⟩ :=
    client.exportBatches_eq transport asked (batches client.settings.batchSize ids)
  have same : client.outcomes transport asked ids = outcomes := by rw [Client.outcomes, done]
  exact ⟨sent, same ▸ done, same ▸ groups, same ▸ exported⟩

theorem Client.subset_of_mem_outcomes {outcome : List String × BatchOutcome}
    (member : outcome ∈ client.outcomes transport asked ids) : outcome.1 ⊆ ids := by
  obtain ⟨sent, -, groups, -⟩ := client.exportBatches_outcomes transport asked ids
  have batch := List.mem_map_of_mem (f := Prod.fst) member
  rw [groups] at batch
  exact subset_of_mem_batches batch

/-- The pictures of some ids before any batch has come. -/
def unanswered (ids : List String) : Pictures := .ofList (ids.map fun id => (id, none))

theorem exportPictures_of_not_valid (bad : ¬ asked.IsValid) :
    ∃ error, ∀ transport ids client, Client.exportPictures transport asked ids client = (.error error, client) := by
  rw [← Export.check_eq_ok_iff] at bad
  cases checked : asked.check with
  | error error => exact ⟨error, fun transport ids client => by rw [Client.exportPictures, checked]⟩
  | ok => exact absurd checked bad

theorem Client.exportPictures_of_valid (valid : asked.IsValid) :
    client.exportPictures transport asked ids =
      (takeBatches (unanswered ids) (client.outcomes transport asked ids),
        (client.exportBatches transport asked (batches client.settings.batchSize ids)).2) := by
  rw [exportPictures, Export.check_eq_ok_iff.mpr valid]
  rfl

theorem Client.exportPictures_of_denied (valid : asked.IsValid) {error : Failure}
    (found : (client.outcomes transport asked ids).findSome? denial? = some error) :
    (client.exportPictures transport asked ids).1 = .error error := by
  rw [exportPictures_of_valid valid, takeBatches_of_denied found]

theorem Client.exportPictures_of_allowed (valid : asked.IsValid)
    (allowed : ∀ outcome ∈ client.outcomes transport asked ids, ¬ Denied outcome) :
    ∃ pictures, (client.exportPictures transport asked ids).1 = .ok pictures ∧
      pictures.entries = ids.eraseDups.map fun id => (id, lastAddress? id (client.outcomes transport asked ids)) := by
  have none : (client.outcomes transport asked ids).findSome? denial? = none :=
    List.findSome?_eq_none_iff.mpr fun outcome member => denial?_eq_none_iff.mpr (allowed outcome member)
  have started : (unanswered ids).entries = ids.eraseDups.map fun id => (id, Option.none) :=
    OrderedMap.entries_ofList_graph ids fun _ => Option.none
  rw [exportPictures_of_valid valid]
  obtain ⟨pictures, taken, entries⟩ := entries_takeBatches none (nodup_eraseDups ids) started
    fun outcome member id inside => List.mem_eraseDups.mpr (subset_of_mem_outcomes member inside)
  simp only [Option.or_none] at entries
  exact ⟨pictures, taken, entries⟩

/-- An export fails exactly when it was not asked for properly or a batch was denied, and then for
the first such batch. Otherwise each id has the last address that a successful batch with it has
given it. A batch that fails without being denied might as well have succeeded with nothing. -/
theorem exportPictures_isolates (transport : Transport) (asked : Export) (ids : List String) (client : Client) :
    let outcomes := client.outcomes transport asked ids
    let result := (client.exportPictures transport asked ids).1
    (outcomes.map Prod.fst = batches client.settings.batchSize ids ∧
      ∃ sent, ExportedAll transport client.settings asked client.sent outcomes sent) ∧
    ((∃ error, result = .error error) ↔ ¬ asked.IsValid ∨ ∃ outcome ∈ outcomes, Denied outcome) ∧
    (asked.IsValid → ∀ before batch error after, outcomes = before ++ (batch, .error error) :: after →
      error.IsDenial → (∀ outcome ∈ before, ¬ Denied outcome) → result = .error error) ∧
    (asked.IsValid → (∀ outcome ∈ outcomes, ¬ Denied outcome) → ∃ pictures, result = .ok pictures ∧
      pictures.entries = ids.eraseDups.map fun id => (id, lastAddress? id outcomes)) ∧
    ∀ otherTransport other, List.Forall₂ Excuses outcomes (Client.outcomes otherTransport asked ids other) →
      (other.exportPictures otherTransport asked ids).1 = result := by
  intro outcomes result
  refine ⟨?_, ⟨?_, ?_⟩, ?_, ?_, ?_⟩
  · obtain ⟨sent, -, groups, exported⟩ := client.exportBatches_outcomes transport asked ids
    exact ⟨groups, sent, exported⟩
  · rintro ⟨error, failed⟩
    by_contra! fine
    obtain ⟨pictures, succeeded, -⟩ := Client.exportPictures_of_allowed fine.1 fine.2
    cases failed.symm.trans succeeded
  · intro reason
    by_cases valid : asked.IsValid
    · obtain ⟨outcome, member, denied⟩ := reason.resolve_left (not_not.mpr valid)
      cases found : outcomes.findSome? denial? with
      | none => exact absurd denied (denial?_eq_none_iff.mp (List.findSome?_eq_none_iff.mp found outcome member))
      | some error => exact ⟨error, Client.exportPictures_of_denied valid found⟩
    · obtain ⟨error, failed⟩ := exportPictures_of_not_valid valid
      exact ⟨error, congrArg Prod.fst (failed transport ids client)⟩
  · intro valid before batch error after split denial first
    refine Client.exportPictures_of_denied valid (List.findSome?_eq_some_iff.mpr ⟨before, _, after, split, ?_, ?_⟩)
    · exact denial?_eq_some_iff.mpr ⟨rfl, denial⟩
    · exact fun outcome member => denial?_eq_none_iff.mpr (first outcome member)
  · exact Client.exportPictures_of_allowed
  · intro otherTransport other excused
    by_cases valid : asked.IsValid
    · simp only [result, Client.exportPictures_of_valid valid]
      exact takeBatches_excused excused
    · obtain ⟨error, failed⟩ := exportPictures_of_not_valid valid
      simp only [result, failed]

def sampleExport : Export := ⟨"abc", .png, 2⟩

def sampleIds : List String := ["1:1", "1:2", "1:3", "7:7", "1:1"]

def sampleAnswer (pairs : List (String × Json)) : Response := ⟨200, (Json.record [("images", .record pairs)]).compact⟩

def sampleAddresses : List (String × Json) :=
  [("1:1", .text "https://cdn.test/1.png"), ("1:2", .null), ("1:3", .text ""), ("9:9", .text "https://cdn.test/9.png")]

/-- A service that answers the first and the third request, the third one without any address. -/
def sampleFaults : Transport := fun sent _ =>
  [sampleAnswer sampleAddresses, ⟨500, "render timeout"⟩, sampleAnswer []][sent.length]?

def sampleOutcomes : List (List String × BatchOutcome) :=
  (Client.ofSettings sampleSettings).outcomes sampleFaults sampleExport sampleIds

/-- The same service without leave to read the file from the second request on. -/
def sampleDenials : Transport := fun sent request => if sent.length < 1 then sampleFaults sent request else some ⟨403, ""⟩

def deniedOutcomes : List (List String × BatchOutcome) :=
  (Client.ofSettings sampleSettings).outcomes sampleDenials sampleExport sampleIds

theorem isValid_sampleExport : sampleExport.IsValid := ⟨by decide +kernel, by decide +kernel⟩

theorem exportPictures_isolates_sample :
    (∃ pictures, ((Client.ofSettings sampleSettings).exportPictures sampleFaults sampleExport sampleIds).1 = .ok pictures ∧
      pictures.entries = [("1:1", some "https://cdn.test/1.png"), ("1:2", none), ("1:3", none), ("7:7", none)]) ∧
    ((Client.ofSettings sampleSettings).exportPictures sampleDenials sampleExport sampleIds).1 = .error (.access "abc") := by
  obtain ⟨-, -, -, succeeds, -⟩ := exportPictures_isolates sampleFaults sampleExport sampleIds (.ofSettings sampleSettings)
  obtain ⟨-, -, fails, -, -⟩ := exportPictures_isolates sampleDenials sampleExport sampleIds (.ofSettings sampleSettings)
  rw [← sampleOutcomes] at succeeds
  rw [← deniedOutcomes] at fails
  have answered : (∀ outcome ∈ sampleOutcomes, denial? outcome = none) ∧
      sampleIds.eraseDups.map (fun id => (id, lastAddress? id sampleOutcomes)) =
        [("1:1", some "https://cdn.test/1.png"), ("1:2", none), ("1:3", none), ("7:7", none)] := by decide +kernel
  have denied : (∀ outcome ∈ deniedOutcomes.take 1, denial? outcome = none) ∧ deniedOutcomes =
      deniedOutcomes.take 1 ++ [(["1:3", "7:7"], .error (.access "abc")), (["1:1"], .error (.access "abc"))] := by
    decide +kernel
  refine ⟨?_, ?_⟩
  · obtain ⟨pictures, exported, entries⟩ := succeeds isValid_sampleExport fun outcome member =>
      denial?_eq_none_iff.mp (answered.1 outcome member)
    exact ⟨pictures, exported, entries.trans answered.2⟩
  · exact fails isValid_sampleExport _ _ _ _ denied.2 (.inr ⟨"abc", rfl⟩) fun outcome member =>
      denial?_eq_none_iff.mp (denied.1 outcome member)

/-! A service that gives each id its address -/

/-- The service answers each request for some of the ids with their addresses. -/
def Serves (transport : Transport) (settings : Settings) (asked : Export) (ids : List String)
    (address : String → Option String) : Prop :=
  ∀ sent batch request, batch ⊆ ids → settings.exportRequest asked batch = .ok request →
    ∃ response images, transport sent request = some response ∧ response.isSuccess = true ∧
      Json.decodeText Document.Images.decode response.body = some images ∧ images.err = none ∧
      ∀ id ∈ batch, (images.images.get? id).join = address id

/-- The batch succeeded, and its ids have their addresses. -/
def Delivered (address : String → Option String) (outcome : List String × BatchOutcome) : Prop :=
  ∃ images, outcome.2 = .ok images ∧ ∀ id ∈ outcome.1, (images.get? id).join = address id

variable {settings : Settings} {address : String → Option String} {sent last : List Request} {batch : List String}
  {outcomes : List (List String × BatchOutcome)}

private theorem Exported.delivered {outcome : BatchOutcome} (exported : Exported transport settings asked batch sent outcome last)
    (reached : settings.Reaches ("images/" ++ asked.fileKey)) (serves : Serves transport settings asked ids address)
    (known : batch ⊆ ids) :
    Delivered address (batch, outcome) ∧
      ∃ request, settings.exportRequest asked batch = .ok request ∧ last = sent ++ [request] := by
  cases exported with
  | unbuilt failed =>
    obtain ⟨request, built⟩ := reached.request
      [("ids", String.intercalate "," batch), ("format", Named.name asked.format), ("scale", asked.scale.plain)]
    cases failed.symm.trans built
  | @sent request _ built answered =>
    refine ⟨?_, request, built, rfl⟩
    obtain ⟨response, images, came, success, decoded, accepted, given⟩ := serves sent batch request known built
    rw [came] at answered
    cases answered with
    | rejected status => cases success.symm.trans status
    | undecodable _ body => cases decoded.symm.trans body
    | refused _ body refusal =>
      cases decoded.symm.trans body
      cases accepted.symm.trans refusal
    | given _ body _ =>
      cases decoded.symm.trans body
      exact ⟨images.images, rfl, given⟩

private theorem ExportedAll.delivered (exported : ExportedAll transport settings asked sent outcomes last)
    (reached : settings.Reaches ("images/" ++ asked.fileKey)) (serves : Serves transport settings asked ids address)
    (known : ∀ outcome ∈ outcomes, outcome.1 ⊆ ids) :
    (∀ outcome ∈ outcomes, Delivered address outcome) ∧
      ∃ requests, last = sent ++ requests ∧
        List.Forall₂ (fun batch request => settings.exportRequest asked batch = .ok request)
          (outcomes.map Prod.fst) requests := by
  induction exported with
  | nil => exact ⟨List.forall_mem_nil _, [], (List.append_nil _).symm, .nil⟩
  | cons first rest ih =>
    obtain ⟨known, others⟩ := List.forall_mem_cons.mp known
    obtain ⟨delivered, request, built, rfl⟩ := first.delivered reached serves known
    obtain ⟨allDelivered, requests, rfl, allBuilt⟩ := ih others
    exact ⟨List.forall_mem_cons.mpr ⟨delivered, allDelivered⟩, request :: requests, List.append_assoc .., .cons built allBuilt⟩

private theorem lastAddress?_of_delivered (delivered : ∀ outcome ∈ outcomes, Delivered address outcome) (id : String) :
    lastAddress? id outcomes =
      if id ∈ (outcomes.map Prod.fst).flatten then (address id).filter (· ≠ "") else none := by
  induction outcomes with
  | nil => rfl
  | cons outcome rest ih =>
    obtain ⟨first, others⟩ := List.forall_mem_cons.mp delivered
    obtain ⟨batch, outcome⟩ := outcome
    obtain ⟨images, rfl, given⟩ := first
    have own : addressIn? id (batch, .ok images) = if id ∈ batch then (address id).filter (· ≠ "") else none := by
      rw [addressIn?]
      split
      next inside => rw [given id inside]
      next => rfl
    rw [lastAddress?_cons, ih others, own, List.map_cons, List.flatten_cons]
    by_cases later : id ∈ (rest.map Prod.fst).flatten
    · rw [if_pos later, if_pos (List.mem_append_right _ later)]
      split
      next => exact Option.or_self
      next => exact Option.or_none
    · simp only [later, List.mem_append, or_false, if_false, Option.none_or]

/-- No request depends on the size of batches. -/
theorem request_resize (settings : Settings) (batchSize : Nat) :
    ({ settings with batchSize } : Settings).request = settings.request := by
  funext path parameters
  simp only [Settings.request]

private theorem exportRequest_resize (settings : Settings) (batchSize : Nat) :
    ({ settings with batchSize } : Settings).exportRequest = settings.exportRequest := by
  funext asked batch
  rw [Settings.exportRequest, Settings.exportRequest, request_resize]

private theorem Client.exportPictures_delivered (valid : asked.IsValid)
    (reached : client.settings.Reaches ("images/" ++ asked.fileKey))
    (serves : Serves transport client.settings asked ids address) :
    ∃ pictures requests, client.exportPictures transport asked ids =
        (.ok pictures, { client with sent := client.sent ++ requests }) ∧
      pictures.entries = ids.eraseDups.map (fun id => (id, (address id).filter (· ≠ ""))) ∧
      List.Forall₂ (fun batch request => client.settings.exportRequest asked batch = .ok request)
        (batches client.settings.batchSize ids) requests := by
  obtain ⟨sent, done, groups, exported⟩ := client.exportBatches_outcomes transport asked ids
  obtain ⟨delivered, requests, rfl, built⟩ := exported.delivered reached serves fun outcome => subset_of_mem_outcomes
  have allowed : ∀ outcome ∈ client.outcomes transport asked ids, ¬ Denied outcome := by
    rintro outcome member ⟨error, failed, -⟩
    obtain ⟨images, succeeded, -⟩ := delivered outcome member
    cases failed.symm.trans succeeded
  obtain ⟨pictures, taken, entries⟩ := exportPictures_of_allowed valid allowed
  refine ⟨pictures, requests, ?_, ?_, groups ▸ built⟩
  · rw [exportPictures_of_valid valid] at taken ⊢
    rw [done, ← taken]
  · rw [entries]
    refine List.map_congr_left fun id member => congrArg (Prod.mk id) ?_
    rw [lastAddress?_of_delivered delivered, groups, flatten_batches, if_pos (List.mem_eraseDups.mp member)]

/-- Batches cannot be seen. If the service gives each id its address, then so does the export, for
any size of batches; the batches are the ids in order, none is empty, and none is too large. -/
theorem exportPictures_batched (valid : asked.IsValid) (reached : settings.Reaches ("images/" ++ asked.fileKey))
    (serves : Serves transport settings asked ids address) :
    ∃ pictures : Pictures,
      pictures.entries = ids.eraseDups.map (fun id => (id, (address id).filter (· ≠ ""))) ∧
      ∀ batchSize cache sent, ∃ groups requests,
        Client.exportPictures transport asked ids ⟨{ settings with batchSize }, cache, sent⟩ =
          (.ok pictures, ⟨{ settings with batchSize }, cache, sent ++ requests⟩) ∧
        List.Forall₂ (fun batch request => settings.exportRequest asked batch = .ok request) groups requests ∧
        groups.flatten = ids ∧ ∀ batch ∈ groups, batch ≠ [] ∧ batch.length ≤ max batchSize 1 := by
  let pictures : Pictures := .ofList (ids.map fun id => (id, (address id).filter (· ≠ "")))
  have listed : pictures.entries = ids.eraseDups.map fun id => (id, (address id).filter (· ≠ "")) :=
    OrderedMap.entries_ofList_graph ids fun id => (address id).filter (· ≠ "")
  refine ⟨pictures, listed, fun batchSize cache sent => ?_⟩
  have reached : ({ settings with batchSize } : Settings).Reaches ("images/" ++ asked.fileKey) := by
    rwa [Settings.Reaches, request_resize]
  have serves : Serves transport { settings with batchSize } asked ids address := by
    rwa [Serves, exportRequest_resize]
  obtain ⟨same, requests, done, entries, built⟩ :=
    @Client.exportPictures_delivered transport asked ids ⟨{ settings with batchSize }, cache, sent⟩ address valid reached serves
  obtain rfl : same = pictures := OrderedMap.eq_of_entries (entries.trans listed.symm)
  rw [exportRequest_resize] at built
  exact ⟨batches batchSize ids, requests, done, built, flatten_batches batchSize ids, bounds_batches batchSize ids⟩

def sampleAddress (id : String) : Option String :=
  if id = "1:1" then some "https://cdn.test/1.png" else if id = "1:3" then some "" else none

theorem exportPictures_batched_sample :
    ∃ pictures : Pictures,
      pictures.entries = [("1:1", some "https://cdn.test/1.png"), ("1:2", none), ("1:3", none), ("7:7", none)] ∧
      ∀ batchSize, (Client.exportPictures (fun _ _ => some (sampleAnswer sampleAddresses)) sampleExport sampleIds
        (.ofSettings { sampleSettings with batchSize })).1 = .ok pictures := by
  have reached : sampleSettings.Reaches ("images/" ++ "abc") :=
    ⟨⟨"https://design.test/v1/images/abc?", "token"⟩, by decide +kernel⟩
  have decoded : (Json.decodeText Document.Images.decode (sampleAnswer sampleAddresses).body).any
      (fun images => images.err = none ∧ ∀ id ∈ sampleIds, (images.images.get? id).join = sampleAddress id) = true := by
    decide +kernel
  obtain ⟨images, body, good⟩ := (Option.any_eq_true _ _).mp decoded
  obtain ⟨accepted, given⟩ := of_decide_eq_true good
  obtain ⟨pictures, entries, exported⟩ := @exportPictures_batched (fun _ _ => some (sampleAnswer sampleAddresses))
    sampleExport sampleIds sampleSettings sampleAddress isValid_sampleExport reached fun sent batch request known built =>
      ⟨_, images, rfl, by decide +kernel, body, accepted, fun id member => given id (known member)⟩
  refine ⟨pictures, entries.trans (by decide +kernel), fun batchSize => ?_⟩
  obtain ⟨groups, requests, done, -⟩ := exported batchSize [] []
  exact congrArg Prod.fst done

end Handoff.Service
