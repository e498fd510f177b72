import Handoff.Json.Printer
import Handoff.Proofs.DocumentCache
import Handoff.Service.Client

/-! What can come of a fetch. Whatever happens, it makes one request at most, and it stores a
document only if the document came in a successful answer and has an entry for every id. -/

namespace Handoff.Service

variable {fileKey : String} {ids : List String}

/-- The key of a file: letters and digits, at least one. -/
def IsKey (key : String) : Prop := key ≠ "" ∧ ∀ c ∈ key.toList, c.isAlphanum = true

instance (key : String) : Decidable (IsKey key) := inferInstanceAs (Decidable (_ ∧ ∀ c ∈ key.toList, _))

/-- What a document may be asked for: the key of a file and ids, none of them blank. -/
def IsQuestion (fileKey : String) (ids : List String) : Prop :=
  IsKey fileKey ∧ ids ≠ [] ∧ ∀ id ∈ ids, Text.trim id ≠ ""

instance (fileKey : String) (ids : List String) : Decidable (IsQuestion fileKey ids) :=
  inferInstanceAs (Decidable (_ ∧ _ ∧ ∀ id ∈ ids, _))

theorem checkFileKey_eq_ok_iff : checkFileKey fileKey = .ok () ↔ IsKey fileKey := by
  have same : isFileKey fileKey = true ↔ IsKey fileKey := by simp [isFileKey, IsKey]
  rw [← same, checkFileKey]
  split <;> simp_all

theorem checkFetch_eq_ok_iff : checkFetch fileKey ids = .ok () ↔ IsQuestion fileKey ids := by
  rw [IsQuestion, ← checkFileKey_eq_ok_iff, checkFetch]
  cases checkFileKey fileKey with
  | error error => simp [bind, Except.bind]
  | ok =>
    have shown : (ids.isEmpty = true ∨ ids.any (fun id => (Text.trim id).isEmpty) = true) ↔
        ¬ (ids ≠ [] ∧ ∀ id ∈ ids, Text.trim id ≠ "") := by
      simp only [List.isEmpty_iff, List.any_eq_true, String.isEmpty_iff]
      grind
    simp only [bind, Except.bind, shown]
    split <;> simp_all [pure, Except.pure, throw, throwThe, MonadExceptOf.throw]

private theorem bodyOf_eq_ok_iff {request : Request} {answer : Option Response} {body : String} :
    bodyOf request fileKey ids answer = .ok body ↔
      ∃ response, answer = some response ∧ response.isSuccess = true ∧ response.body = body := by
  cases answer with
  | none => simp [bodyOf]
  | some response =>
    rw [bodyOf]
    split <;> simp_all

/-- A document is taken from an answer that is a success, if it has an entry for every id. -/
theorem documentOf_eq_ok_iff {request : Request} {answer : Option Response} {document : Document.File} :
    documentOf fileKey ids request answer = .ok document ↔
      (∃ response, answer = some response ∧ response.isSuccess = true ∧
        Json.decodeText Document.File.decode response.body = some document) ∧
      ∀ id ∈ ids, (document.node? id).isSome = true := by
  rw [documentOf]
  cases came : bodyOf request fileKey ids answer with
  | error error =>
    refine ⟨(nomatch ·), ?_⟩
    rintro ⟨⟨response, given, success, -⟩, -⟩
    cases came.symm.trans (bodyOf_eq_ok_iff.mpr ⟨response, given, success, rfl⟩)
  | ok body =>
    obtain ⟨response, rfl, success, rfl⟩ := bodyOf_eq_ok_iff.mp came
    have answered : (∃ other, some response = some other ∧ other.isSuccess = true ∧
        Json.decodeText Document.File.decode other.body = some document) ↔
        Json.decodeText Document.File.decode response.body = some document := by simp [success]
    rw [answered]
    simp only [bind, Except.bind]
    cases Json.decodeText Document.File.decode response.body with
    | none => simp [throw, throwThe, MonadExceptOf.throw]
    | some found =>
      cases missing : ids.find? fun id => (found.node? id).isNone with
      | none =>
        simp only [pure, Except.pure, Except.ok.injEq, Option.some.injEq, missing]
        refine ⟨?_, And.left⟩
        rintro rfl
        exact ⟨rfl, by simpa [Option.isSome_iff_ne_none] using List.find?_eq_none.mp missing⟩
      | some id =>
        simp only [throw, throwThe, MonadExceptOf.throw, missing]
        refine ⟨(nomatch ·), ?_⟩
        rintro ⟨same, complete⟩
        obtain rfl := Option.some.inj same
        have absent := List.find?_some missing
        have present := complete id (List.mem_of_find?_eq_some missing)
        simp [Option.isNone_iff_eq_none.mp absent] at present

/-! Requests -/

/-- Addresses below the base address can be read. -/
def Settings.Reaches (settings : Settings) (path : String) : Prop := ∃ request, settings.request path [] = .ok request

theorem Settings.Reaches.request {settings : Settings} {path : String} (reached : settings.Reaches path)
    (parameters : List (String × String)) : ∃ request, settings.request path parameters = .ok request := by
  obtain ⟨request, built⟩ := reached
  rw [Settings.request] at built ⊢
  split at built
  next url read => exact ⟨_, rfl⟩
  next => cases built

/-! Fetches -/

/-- What comes of a fetch, and the client after it. -/
inductive Client.Fetches (transport : Transport) (now : Nat) (fileKey : String) (ids : List String) (client : Client) :
    Except Failure Document.File → Client → Prop where
  | invalid {error} (bad : ¬ IsQuestion fileKey ids) : Fetches transport now fileKey ids client (.error error) client
  | recalled {document cache} (question : IsQuestion fileKey ids)
      (hit : client.cache.lookup client.settings.timeToLive now (.ofIds fileKey ids) = (some document, cache)) :
      Fetches transport now fileKey ids client (.ok document) { client with cache }
  | unbuilt {error cache} (question : IsQuestion fileKey ids)
      (miss : client.cache.lookup client.settings.timeToLive now (.ofIds fileKey ids) = (none, cache))
      (failed : client.settings.fetchRequest fileKey ids = .error error) :
      Fetches transport now fileKey ids client (.error error) { client with cache }
  | failed {error cache request} (question : IsQuestion fileKey ids)
      (miss : client.cache.lookup client.settings.timeToLive now (.ofIds fileKey ids) = (none, cache))
      (built : client.settings.fetchRequest fileKey ids = .ok request)
      (rejected : documentOf fileKey ids request (transport client.sent request) = .error error) :
      Fetches transport now fileKey ids client (.error error) { client with cache, sent := client.sent ++ [request] }
  | received {document cache request} (question : IsQuestion fileKey ids)
      (miss : client.cache.lookup client.settings.timeToLive now (.ofIds fileKey ids) = (none, cache))
      (built : client.settings.fetchRequest fileKey ids = .ok request)
      (accepted : documentOf fileKey ids request (transport client.sent request) = .ok document) :
      Fetches transport now fileKey ids client (.ok document)
        { client with
          cache := cache.store client.settings.timeToLive now (.ofIds fileKey ids) document
          sent := client.sent ++ [request] }

theorem Client.fetches (transport : Transport) (now : Nat) (fileKey : String) (ids : List String) (client : Client) :
    ∃ result after, client.fetch transport now fileKey ids = (result, after) ∧
      client.Fetches transport now fileKey ids result after := by
  refine ⟨_, _, (Prod.mk.eta (p := client.fetch transport now fileKey ids)).symm, ?_⟩
  rw [Client.fetch]
  cases checked : checkFetch fileKey ids with
  | error error =>
    exact .invalid fun question => by cases checked.symm.trans (checkFetch_eq_ok_iff.mpr question)
  | ok =>
    have question := checkFetch_eq_ok_iff.mp checked
    simp only
    split
    next document cache hit => exact .recalled question hit
    next cache miss =>
      rw [Client.retrieve]
      cases built : client.settings.fetchRequest fileKey ids with
      | error error => exact .unbuilt question miss built
      | ok request =>
        simp only
        cases came : documentOf fileKey ids request (transport client.sent request) with
        | error error => exact .failed question miss built came
        | ok document => exact .received question miss built came

/-! A service for examples, which knows two frames until it has answered two requests -/

def sampleSettings : Settings := ⟨"https://design.test/v1", "token", 300, 2⟩

def sampleText : String :=
  let frame (id : String) : String × Json := (id, .record [("document", .record [("id", .text id), ("type", .text "FRAME")])])
  (Json.record [("nodes", .record [frame "1:2", frame "1:3"])]).compact

def sampleFile : Document.File :=
  (Json.decodeText Document.File.decode sampleText).getD ⟨"", "", none, none, .empty⟩

def sampleTransport : Transport := fun sent _ => if sent.length < 2 then some ⟨200, sampleText⟩ else none

end Handoff.Service
