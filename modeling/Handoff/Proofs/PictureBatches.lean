import Handoff.Proofs.FetchOutcomes
import Handoff.Proofs.OrderedMaps

/-! Pictures are asked for in batches. The batches are the ids in order, each batch makes one
request, and what comes of them is put together id by id: the last address that a batch has
given stays, and a failed batch changes nothing, unless it would fail everywhere. -/

namespace Handoff.Service

/-! Batches -/

theorem flatten_batches {α : Type} (size : Nat) (items : List α) : (batches size items).flatten = items := by
  fun_induction batches size items with
  | case1 => rfl
  | case2 item rest ih => rw [List.flatten_cons, ih, List.cons_append, List.take_append_drop]

theorem bounds_batches {α : Type} (size : Nat) (items : List α) :
    ∀ batch ∈ batches size items, batch ≠ [] ∧ batch.length ≤ max size 1 := by
  fun_induction batches size items with
  | case1 => exact List.forall_mem_nil _
  | case2 item rest ih =>
    refine List.forall_mem_cons.mpr ⟨⟨List.cons_ne_nil _ _, ?_⟩, ih⟩
    rw [List.length_cons, List.length_take]
    omega

theorem subset_of_mem_batches {α : Type} {size : Nat} {items batch : List α} (member : batch ∈ batches size items) :
    batch ⊆ items := by
  intro item inside
  rw [← flatten_batches size items]
  exact List.mem_flatten_of_mem member inside

/-! Requests -/

/-- What pictures may be asked for: those of a file, at a scale within bounds. -/
structure Export.IsValid (asked : Export) : Prop where
  fileKey : IsKey asked.fileKey
  scale : 0 < asked.scale ∧ asked.scale ≤ 4

theorem Export.check_eq_ok_iff {asked : Export} : asked.check = .ok () ↔ asked.IsValid := by
  have valid : asked.IsValid ↔ IsKey asked.fileKey ∧ 0 < asked.scale ∧ asked.scale ≤ 4 :=
    ⟨fun valid => ⟨valid.fileKey, valid.scale⟩, fun both => ⟨both.1, both.2⟩⟩
  rw [valid, ← checkFileKey_eq_ok_iff, check]
  cases checkFileKey asked.fileKey with
  | error error => simp [bind, Except.bind]
  | ok =>
    simp only [bind, Except.bind]
    split <;> simp_all [pure, Except.pure, throw, throwThe, MonadExceptOf.throw]

variable {transport : Transport} {settings : Settings} {asked : Export} {batch ids keys : List String} {client : Client}

/-- What comes of the request for a batch by its answer. -/
inductive Export.Answered (asked : Export) (batch : List String) (request : Request) :
    Option Response → BatchOutcome → Prop where
  | silent : Answered asked batch request none (.error (.transport request.url))
  | rejected {response} (status : response.isSuccess = false) :
      Answered asked batch request (some response) (.error (.ofResponse response asked.fileKey batch))
  | undecodable {response} (status : response.isSuccess = true)
      (body : Json.decodeText Document.Images.decode response.body = none) :
      Answered asked batch request (some response) (.error .undecodable)
  | refused {response images reason} (status : response.isSuccess = true)
      (body : Json.decodeText Document.Images.decode response.body = some images) (refusal : images.err = some reason) :
      Answered asked batch request (some response) (.error (.refused reason))
  | given {response images} (status : response.isSuccess = true)
      (body : Json.decodeText Document.Images.decode response.body = some images) (accepted : images.err = none) :
      Answered asked batch request (some response) (.ok images.images)

/-- What comes of a batch, and the requests that were made up to its end. -/
inductive Exported (transport : Transport) (settings : Settings) (asked : Export) (batch : List String)
    (sent : List Request) : BatchOutcome → List Request → Prop where
  | unbuilt {reason} (failed : settings.exportRequest asked batch = .error (.invalid (.url reason))) :
      Exported transport settings asked batch sent (.error (.invalid (.url reason))) sent
  | sent {request outcome} (built : settings.exportRequest asked batch = .ok request)
      (answered : asked.Answered batch request (transport sent request) outcome) :
      Exported transport settings asked batch sent outcome (sent ++ [request])

/-- What comes of batches one after the other. -/
inductive ExportedAll (transport : Transport) (settings : Settings) (asked : Export) :
    List Request → List (List String × BatchOutcome) → List Request → Prop where
  | nil {sent} : ExportedAll transport settings asked sent [] sent
  | cons {batch sent outcome middle outcomes last} (first : Exported transport settings asked batch sent outcome middle)
      (rest : ExportedAll transport settings asked middle outcomes last) :
      ExportedAll transport settings asked sent ((batch, outcome) :: outcomes) last

private theorem Export.answered_imagesOf (asked : Export) (batch : List String) (request : Request) (answer : Option Response) :
    asked.Answered batch request answer (imagesOf asked batch request answer) := by
  cases answer with
  | none => exact .silent
  | some response =>
    rw [imagesOf]
    cases status : response.isSuccess with
    | false =>
      rw [bodyOf, if_neg (by simp [status])]
      exact .rejected status
    | true =>
      rw [bodyOf, if_pos status]
      simp only [bind, Except.bind]
      split
      next body => exact .undecodable status body
      next images body =>
        split
        next reason refusal => exact .refused status body refusal
        next accepted => exact .given status body accepted

private theorem exportRequest_error {error : Failure} (failed : settings.exportRequest asked batch = .error error) :
    ∃ reason, error = .invalid (.url reason) := by
  rw [Settings.exportRequest, Settings.request] at failed
  split at failed
  · cases failed
  · cases failed
    exact ⟨_, rfl⟩

private theorem Client.exportBatch_eq (transport : Transport) (asked : Export) (batch : List String) (client : Client) :
    ∃ outcome sent, client.exportBatch transport asked batch = (outcome, { client with sent }) ∧
      Exported transport client.settings asked batch client.sent outcome sent := by
  rw [exportBatch]
  cases built : client.settings.exportRequest asked batch with
  | error error =>
    obtain ⟨reason, rfl⟩ := exportRequest_error built
    exact ⟨_, client.sent, rfl, .unbuilt built⟩
  | ok request => exact ⟨_, _, rfl, .sent built (asked.answered_imagesOf ..)⟩

theorem Client.exportBatches_eq (transport : Transport) (asked : Export) (groups : List (List String)) (client : Client) :
    ∃ outcomes sent, client.exportBatches transport asked groups = (outcomes, { client with sent }) ∧
      outcomes.map Prod.fst = groups ∧ ExportedAll transport client.settings asked client.sent outcomes sent := by
  induction groups generalizing client with
  | nil => exact ⟨[], client.sent, rfl, rfl, .nil⟩
  | cons batch rest ih =>
    obtain ⟨outcome, middle, done, first⟩ := client.exportBatch_eq transport asked batch
    obtain ⟨outcomes, sent, final, groups, others⟩ := ih { client with sent := middle }
    rw [exportBatches, done]
    dsimp only
    rw [final]
    exact ⟨_, sent, rfl, congrArg _ groups, .cons first others⟩

/-! Denials -/

/-- The service does not know the token, or does not let it read the file. -/
def Failure.IsDenial (error : Failure) : Prop := error = .auth ∨ ∃ fileKey, error = .access fileKey

theorem Failure.isCredential_iff {error : Failure} : error.isCredential = true ↔ error.IsDenial := by
  cases error <;> simp [isCredential, IsDenial]

/-- A batch that was denied. -/
def Denied (outcome : List String × BatchOutcome) : Prop := ∃ error, outcome.2 = .error error ∧ error.IsDenial

/-- The failure of a batch that would fail everywhere. -/
def denial? : List String × BatchOutcome → Option Failure
  | (_, .error error) => if error.isCredential then some error else none
  | (_, .ok _) => none

theorem denial?_eq_some_iff {outcome : List String × BatchOutcome} {error : Failure} :
    denial? outcome = some error ↔ outcome.2 = .error error ∧ error.IsDenial := by
  obtain ⟨batch, failure | images⟩ := outcome
  · simp only [denial?, Option.ite_none_right_eq_some, Option.some.injEq, Except.error.injEq, ← Failure.isCredential_iff]
    constructor
    · rintro ⟨credential, rfl⟩
      exact ⟨rfl, credential⟩
    · rintro ⟨rfl, credential⟩
      exact ⟨credential, rfl⟩
  · exact ⟨nofun, nofun⟩

theorem denial?_eq_none_iff {outcome : List String × BatchOutcome} : denial? outcome = none ↔ ¬ Denied outcome := by
  rw [Option.eq_none_iff_forall_ne_some, Denied, not_exists]
  exact forall_congr' fun error => not_congr denial?_eq_some_iff

/-! Addresses -/

private theorem addressOf?_eq (images : OrderedMap String (Option String)) (id : String) :
    addressOf? images id = (images.get? id).join.filter (· ≠ "") := by
  rw [addressOf?]
  congr
  funext url
  by_cases empty : url = "" <;> simp [empty]

/-- The address that a batch gives an id, if the id is one of the batch and the batch succeeded. -/
def addressIn? (id : String) : List String × BatchOutcome → Option String
  | (ids, .ok images) => if id ∈ ids then (images.get? id).join.filter (· ≠ "") else none
  | (_, .error _) => none

/-- The address that the last of the batches that give one gives an id. -/
def lastAddress? (id : String) (outcomes : List (List String × BatchOutcome)) : Option String :=
  (outcomes.filterMap (addressIn? id)).getLast?

theorem lastAddress?_cons {id : String} {outcome : List String × BatchOutcome} {outcomes : List (List String × BatchOutcome)} :
    lastAddress? id (outcome :: outcomes) = (lastAddress? id outcomes).or (addressIn? id outcome) := by
  rw [lastAddress?, List.filterMap_cons]
  cases addressIn? id outcome with
  | none => rw [Option.or_none, lastAddress?]
  | some address =>
    rw [List.getLast?_cons, lastAddress?]
    cases (outcomes.filterMap (addressIn? id)).getLast? <;> rfl

/-- Takes the address that a batch gives one id. -/
def takeAddress (images : OrderedMap String (Option String)) (pictures : Pictures) (id : String) : Pictures :=
  match addressOf? images id with
  | some url => pictures.insert id (some url)
  | none => pictures

theorem takeBatch_eq_foldl (pictures : Pictures) (ids : List String) (images : OrderedMap String (Option String)) :
    takeBatch pictures ids images = ids.foldl (takeAddress images) pictures := rfl

variable {pictures : Pictures} {address : String → Option String} {images : OrderedMap String (Option String)}

private theorem entries_takeAddress {id : String} (distinct : keys.Nodup)
    (listed : pictures.entries = keys.map fun key => (key, address key)) (known : id ∈ keys) :
    (takeAddress images pictures id).entries =
      keys.map fun key => (key, if key = id then (addressOf? images id).or (address key) else address key) := by
  rw [takeAddress]
  cases addressOf? images id with
  | none => simpa using listed
  | some url =>
    have others : ∀ key, key ≠ id → (if key = id then (some url).or (address key) else address key) = address key :=
      fun key different => if_neg different
    have stored := OrderedMap.put_graph distinct others
    rw [if_pos known, if_pos rfl, Option.some_or] at stored
    rw [← stored, ← listed]
    rfl

private theorem entries_takeBatch (distinct : keys.Nodup)
    (listed : pictures.entries = keys.map fun key => (key, address key)) (known : batch ⊆ keys) :
    (takeBatch pictures batch images).entries =
      keys.map fun key => (key, (addressIn? key (batch, .ok images)).or (address key)) := by
  -- An id may come again in its batch; it then gets the same address a second time.
  rw [takeBatch_eq_foldl]
  induction batch generalizing pictures address with
  | nil => simpa [addressIn?] using listed
  | cons id rest ih =>
    obtain ⟨known, others⟩ := List.cons_subset.mp known
    rw [List.foldl_cons, ih (entries_takeAddress distinct listed known) others]
    refine List.map_congr_left fun key member => congrArg (Prod.mk key) ?_
    by_cases same : key = id
    · subst same
      by_cases again : key ∈ rest <;> simp [addressIn?, addressOf?_eq, again, ← Option.or_assoc]
    · simp [addressIn?, same]

variable {outcomes : List (List String × BatchOutcome)}

theorem takeBatches_of_denied {error : Failure} (denied : outcomes.findSome? denial? = some error) :
    takeBatches pictures outcomes = .error error := by
  induction outcomes generalizing pictures with
  | nil => cases denied
  | cons outcome rest ih =>
    obtain ⟨batch, failure | images⟩ := outcome
    · rw [takeBatches]
      by_cases credential : failure.isCredential = true
      · rw [List.findSome?_cons, denial?, if_pos credential] at denied
        cases denied
        rw [if_pos credential]
      · rw [List.findSome?_cons, denial?, if_neg credential] at denied
        rw [if_neg credential, ih denied]
    · exact ih denied

theorem entries_takeBatches (allowed : outcomes.findSome? denial? = none) (distinct : keys.Nodup)
    (listed : pictures.entries = keys.map fun key => (key, address key)) (known : ∀ outcome ∈ outcomes, outcome.1 ⊆ keys) :
    ∃ final, takeBatches pictures outcomes = .ok final ∧
      final.entries = keys.map fun key => (key, (lastAddress? key outcomes).or (address key)) := by
  induction outcomes generalizing pictures address with
  | nil => exact ⟨pictures, rfl, by simpa [lastAddress?] using listed⟩
  | cons outcome rest ih =>
    obtain ⟨known, others⟩ := List.forall_mem_cons.mp known
    obtain ⟨first, later⟩ := List.forall_mem_cons.mp (List.findSome?_eq_none_iff.mp allowed)
    rw [← List.findSome?_eq_none_iff] at later
    obtain ⟨batch, failure | images⟩ := outcome
    · have isolated : ¬ failure.isCredential = true := by simpa [denial?] using first
      rw [takeBatches, if_neg isolated]
      simp only [lastAddress?_cons, addressIn?, Option.or_none]
      exact ih later listed others
    · -- What the batches after this one give goes before what it gives itself.
      rw [takeBatches]
      simp only [lastAddress?_cons, Option.or_assoc]
      exact ih later (entries_takeBatch distinct listed known) others

private theorem takeBatch_empty (pictures : Pictures) (batch : List String) : takeBatch pictures batch .empty = pictures := by
  rw [takeBatch_eq_foldl]
  induction batch with
  | nil => rfl
  | cons id rest ih => exact ih

/-- The same outcome, or success without any address instead of a failure that concerns one batch only. -/
inductive Excuses : List String × BatchOutcome → List String × BatchOutcome → Prop where
  | same (batch : List String) (outcome : BatchOutcome) : Excuses (batch, outcome) (batch, outcome)
  | isolated {batch : List String} {error : Failure} (allowed : ¬ error.IsDenial) :
      Excuses (batch, .error error) (batch, .ok .empty)

theorem takeBatches_excused {others : List (List String × BatchOutcome)} (excused : List.Forall₂ Excuses outcomes others) :
    takeBatches pictures others = takeBatches pictures outcomes := by
  induction excused generalizing pictures with
  | nil => rfl
  | cons first rest ih =>
    cases first with
    | same batch outcome =>
      cases outcome with
      | error failure => rw [takeBatches, takeBatches, ih]
      | ok images => exact ih
    | isolated allowed =>
      rw [← Failure.isCredential_iff] at allowed
      rw [takeBatches, takeBatches, takeBatch_empty, if_neg allowed, ih]

end Handoff.Service
