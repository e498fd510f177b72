import Handoff.Interpretation.Design
import Handoff.Proofs.FetchOutcomes

/-! Fetches that overlap on one client. A fetch looks into the cache, makes its request and
stores its document, and phases of other fetches may come between these, in any order. What
the cache holds was served for its key all the same, and so was what any fetch ends with. -/

namespace Handoff.Service

/-- How far a fetch has come. -/
inductive Progress where
  | begun
  | missed
  | received (document : Document.File)
  | ended (result : Except Failure Document.File)
  deriving DecidableEq

/-- The document that a fetch has got. -/
def Progress.document? : Progress → Option Document.File
  | .received document => some document
  | .ended (.ok document) => some document
  | _ => none

structure Fetch where
  fileKey : String
  ids : List String
  progress : Progress
  deriving DecidableEq

namespace Fetch

def key (fetch : Fetch) : CacheKey := .ofIds fetch.fileKey fetch.ids

/-- The next phase of a fetch. -/
def advance (transport : Transport) (now : Nat) (fetch : Fetch) (client : Client) : Fetch × Client :=
  match fetch.progress with
  | .begun =>
    match checkFetch fetch.fileKey fetch.ids with
    | .error error => ({ fetch with progress := .ended (.error error) }, client)
    | .ok () =>
      match client.cache.lookup client.settings.timeToLive now fetch.key with
      | (some document, cache) => ({ fetch with progress := .ended (.ok document) }, { client with cache })
      | (none, cache) => ({ fetch with progress := .missed }, { client with cache })
  | .missed =>
    match client.retrieve transport fetch.fileKey fetch.ids with
    | (.ok document, client) => ({ fetch with progress := .received document }, client)
    | (.error error, client) => ({ fetch with progress := .ended (.error error) }, client)
  | .received document => ({ fetch with progress := .ended (.ok document) }, client.remember now fetch.key document)
  | .ended _ => (fetch, client)

end Fetch

/-- A client with the fetches that were begun on it. -/
structure Traffic where
  client : Client
  fetches : List Fetch

/-- What may happen next: a fetch begins, the fetch at some place does its next phase, or
everything is forgotten. -/
inductive Action where
  | begin (fileKey : String) (ids : List String)
  | advance (now place : Nat)
  | clear

namespace Traffic

def ofSettings (settings : Settings) : Traffic := ⟨.ofSettings settings, []⟩

def perform (transport : Transport) (traffic : Traffic) : Action → Traffic
  | .begin fileKey ids => { traffic with fetches := traffic.fetches ++ [⟨fileKey, ids, .begun⟩] }
  | .advance now place =>
    match traffic.fetches[place]? with
    | none => traffic
    | some fetch =>
      let (fetch, client) := fetch.advance transport now traffic.client
      ⟨client, traffic.fetches.set place fetch⟩
  | .clear => { traffic with client := traffic.client.clear }

def run (transport : Transport) (traffic : Traffic) (schedule : List Action) : Traffic :=
  schedule.foldl (perform transport) traffic

end Traffic

/-- A document came in a successful answer to a request for a file and exactly the ids of a
key, and has an entry for each of them. -/
structure Served (transport : Transport) (settings : Settings) (sent : List Request) (key : CacheKey)
    (document : Document.File) : Prop where
  answered : ∃ ids before request after response, (∀ id, id ∈ ids ↔ id ∈ key.ids) ∧
    settings.fetchRequest key.fileKey ids = .ok request ∧ sent = before ++ request :: after ∧
    transport before request = some response ∧ response.isSuccess = true ∧
    Json.decodeText Document.File.decode response.body = some document
  complete : ∀ id ∈ key.ids, (document.node? id).isSome = true

variable {transport : Transport} {settings : Settings} {sent : List Request} {key : CacheKey} {document : Document.File}

theorem Served.later (served : Served transport settings sent key document) (more : List Request) :
    Served transport settings (sent ++ more) key document := by
  obtain ⟨⟨ids, before, request, after, response, same, built, rfl, rest⟩, complete⟩ := served
  refine ⟨⟨ids, before, request, after ++ more, response, same, built, ?_, rest⟩, complete⟩
  rw [List.append_assoc, List.cons_append]

private theorem served_of_documentOf {fileKey : String} {ids : List String} {request : Request}
    (built : settings.fetchRequest fileKey ids = .ok request)
    (accepted : documentOf fileKey ids request (transport sent request) = .ok document) :
    Served transport settings (sent ++ [request]) (.ofIds fileKey ids) document := by
  obtain ⟨⟨response, answered, success, decoded⟩, complete⟩ := documentOf_eq_ok_iff.mp accepted
  refine ⟨⟨ids, sent, request, [], response, ?_, built, rfl, answered, success, decoded⟩, ?_⟩
  · exact fun id => CacheKey.mem_ids_ofIds.symm
  · exact fun id member => complete id (CacheKey.mem_ids_ofIds.mp member)

/-- What a client with these settings remembers was served for its key. -/
structure Client.IsSound (transport : Transport) (settings : Settings) (client : Client) : Prop where
  settled : client.settings = settings
  cached : ∀ stored ∈ client.cache, Served transport settings client.sent stored.key stored.document

def Fetch.IsSound (transport : Transport) (settings : Settings) (sent : List Request) (fetch : Fetch) : Prop :=
  ∀ document, fetch.progress.document? = some document → Served transport settings sent fetch.key document

structure Traffic.IsSound (transport : Transport) (settings : Settings) (traffic : Traffic) : Prop where
  client : traffic.client.IsSound transport settings
  fetches : ∀ fetch ∈ traffic.fetches, fetch.IsSound transport settings traffic.client.sent

private theorem Client.IsSound.shrink {client : Client} (sound : client.IsSound transport settings) {cache : Cache}
    (fewer : cache ⊆ client.cache) : ({ client with cache } : Client).IsSound transport settings :=
  ⟨sound.settled, fun stored member => sound.cached stored (fewer member)⟩

private theorem Client.IsSound.send {client : Client} (sound : client.IsSound transport settings) (request : Request) :
    ({ client with sent := client.sent ++ [request] } : Client).IsSound transport settings :=
  ⟨sound.settled, fun stored member => (sound.cached stored member).later [request]⟩

private theorem Client.IsSound.remember {client : Client} (sound : client.IsSound transport settings) (now : Nat)
    (served : Served transport settings client.sent key document) :
    (client.remember now key document).IsSound transport settings := by
  refine ⟨sound.settled, fun stored member => ?_⟩
  rcases Cache.mem_store member with member | rfl
  · exact sound.cached stored member
  · exact served

private theorem Client.IsSound.found {client : Client} (sound : client.IsSound transport settings)
    (present : client.cache.document? key = some document) : Served transport settings client.sent key document := by
  obtain ⟨stored, member, rfl, rfl⟩ := Cache.mem_of_document? present
  exact sound.cached stored member

theorem Fetch.isSound_of_none {fetch : Fetch} (none : fetch.progress.document? = none) : fetch.IsSound transport settings sent := by
  intro document got
  rw [none] at got
  cases got

/-- Any phase of a fetch, on a client that other fetches may have used since the one before. -/
theorem Fetch.advance_sound {fetch : Fetch} {client : Client} (now : Nat) (held : client.IsSound transport settings)
    (own : fetch.IsSound transport settings client.sent) :
    (fetch.advance transport now client).2.IsSound transport settings ∧
      (fetch.advance transport now client).1.IsSound transport settings (fetch.advance transport now client).2.sent ∧
      client.sent <+: (fetch.advance transport now client).2.sent := by
  obtain ⟨fileKey, ids, progress⟩ := fetch
  cases progress with
  | begun =>
    simp only [advance]
    split
    next => exact ⟨held, isSound_of_none rfl, List.prefix_rfl⟩
    next =>
      split
      next document cache hit =>
        obtain ⟨present, rfl⟩ := Cache.lookup_hit hit
        refine ⟨held, ?_, List.prefix_rfl⟩
        rintro _ ⟨⟩
        exact held.found present
      next cache miss => exact ⟨held.shrink (Cache.lookup_miss miss).1, isSound_of_none rfl, List.prefix_rfl⟩
  | missed =>
    simp only [advance, Client.retrieve]
    cases built : client.settings.fetchRequest fileKey ids with
    | error error => exact ⟨held, isSound_of_none rfl, List.prefix_rfl⟩
    | ok request =>
      simp only
      rw [held.settled] at built
      cases came : documentOf fileKey ids request (transport client.sent request) with
      | error error => exact ⟨held.send request, isSound_of_none rfl, List.prefix_append ..⟩
      | ok document =>
        refine ⟨held.send request, ?_, List.prefix_append ..⟩
        rintro _ ⟨⟩
        exact served_of_documentOf built came
  | received document =>
    have served := own document rfl
    refine ⟨held.remember now served, ?_, List.prefix_rfl⟩
    rintro _ ⟨⟩
    exact served
  | ended result => exact ⟨held, own, List.prefix_rfl⟩

namespace Traffic

private theorem IsSound.perform {traffic : Traffic} (sound : traffic.IsSound transport settings) (action : Action) :
    (traffic.perform transport action).IsSound transport settings := by
  cases action with
  | begin fileKey ids =>
    refine ⟨sound.client, ?_⟩
    simp only [Traffic.perform, List.forall_mem_append, List.forall_mem_singleton]
    exact ⟨sound.fetches, Fetch.isSound_of_none rfl⟩
  | advance now place =>
    rw [Traffic.perform]
    split
    next => exact sound
    next fetch found =>
      obtain ⟨client, own, more, sent⟩ := fetch.advance_sound now sound.client (sound.fetches fetch (List.mem_of_getElem? found))
      refine ⟨client, ?_⟩
      intro other member
      rcases List.mem_or_eq_of_mem_set member with member | rfl
      · intro document got
        exact sent ▸ (sound.fetches other member document got).later more
      · exact own
  | clear => exact ⟨⟨sound.client.settled, List.forall_mem_nil _⟩, sound.fetches⟩

private theorem IsSound.run {traffic : Traffic} (sound : traffic.IsSound transport settings) (schedule : List Action) :
    (traffic.run transport schedule).IsSound transport settings := by
  induction schedule generalizing traffic with
  | nil => exact sound
  | cons action rest ih => exact ih (sound.perform action)

private theorem isSound_ofSettings (transport : Transport) (settings : Settings) :
    (ofSettings settings).IsSound transport settings :=
  ⟨⟨rfl, List.forall_mem_nil _⟩, List.forall_mem_nil _⟩

/-- The phases of a fetch that nothing comes between. -/
def uninterrupted (now : Nat) (fileKey : String) (ids : List String) (place : Nat) : List Action :=
  [.begin fileKey ids, .advance now place, .advance now place, .advance now place]

private theorem perform_last (transport : Transport) (now : Nat) (client : Client) (fetches : List Fetch) (fetch : Fetch) :
    perform transport ⟨client, fetches ++ [fetch]⟩ (.advance now fetches.length) =
      ⟨(fetch.advance transport now client).2, fetches ++ [(fetch.advance transport now client).1]⟩ := by
  simp [perform]

/-- A fetch as a whole is one of the interleavings of its phases. -/
theorem run_uninterrupted (transport : Transport) (now : Nat) (fileKey : String) (ids : List String) (traffic : Traffic) :
    traffic.run transport (uninterrupted now fileKey ids traffic.fetches.length) =
      ⟨(traffic.client.fetch transport now fileKey ids).2,
        traffic.fetches ++ [⟨fileKey, ids, .ended (traffic.client.fetch transport now fileKey ids).1⟩]⟩ := by
  obtain ⟨client, fetches⟩ := traffic
  simp only [run, uninterrupted, List.foldl_cons, List.foldl_nil]
  rw [show perform transport ⟨client, fetches⟩ (.begin fileKey ids) = ⟨client, fetches ++ [⟨fileKey, ids, .begun⟩]⟩ from rfl]
  simp only [perform_last]
  cases checked : checkFetch fileKey ids with
  | error error => simp only [Fetch.advance, Client.fetch, checked]
  | ok =>
    rcases looked : client.cache.lookup client.settings.timeToLive now (.ofIds fileKey ids) with ⟨_ | document, cache⟩
    · rcases came : ({ client with cache } : Client).retrieve transport fileKey ids with ⟨error | document, after⟩
      · simp only [Fetch.advance, Fetch.key, Client.fetch, checked, looked, came]
      · simp only [Fetch.advance, Fetch.key, Client.fetch, checked, looked, came]
    · simp only [Fetch.advance, Fetch.key, Client.fetch, checked, looked]

end Traffic

open Interpretation

private theorem Served.designs {fileKey : String} {ids : List String}
    (served : Served transport settings sent (.ofIds fileKey ids) document) :
    ∀ id ∈ ids, (document.node? id).isSome = true ∧ ∃ design, designOf document id = .ok design := by
  intro id member
  have present := served.complete id (CacheKey.mem_ids_ofIds.mpr member)
  obtain ⟨entry, found⟩ := Option.isSome_iff_exists.mp present
  exact ⟨present, by rw [designOf, found]; exact ⟨_, rfl⟩⟩

/-- However fetches overlap, and whatever the service answers: what the cache holds was served
for its key, and a fetch that succeeds has an entry for every id that it asked for, so that a
design can be made of each of them. -/
theorem run_served (transport : Transport) (settings : Settings) (schedule : List Action) :
    let traffic := (Traffic.ofSettings settings).run transport schedule
    (∀ stored ∈ traffic.client.cache, Served transport settings traffic.client.sent stored.key stored.document) ∧
    (∀ fetch ∈ traffic.fetches, ∀ document, fetch.progress = .ended (.ok document) →
      Served transport settings traffic.client.sent fetch.key document ∧
      ∀ id ∈ fetch.ids, (document.node? id).isSome = true ∧ ∃ design, designOf document id = .ok design) ∧
    ∀ now fileKey ids document, (traffic.client.fetch transport now fileKey ids).1 = .ok document →
      ∀ id ∈ ids, (document.node? id).isSome = true ∧ ∃ design, designOf document id = .ok design := by
  intro traffic
  have sound := Traffic.isSound_ofSettings transport settings
  refine ⟨(sound.run schedule).client.cached, ?_, ?_⟩
  · intro fetch member document ended
    have served := (sound.run schedule).fetches fetch member document (by rw [ended]; rfl)
    exact ⟨served, served.designs⟩
  · intro now fileKey ids document succeeded
    have alone := (sound.run schedule).run (Traffic.uninterrupted now fileKey ids traffic.fetches.length)
    rw [Traffic.run_uninterrupted] at alone
    have served := alone.fetches _ List.mem_concat_self document (by rw [succeeded]; rfl)
    exact served.designs

/-- Two fetches of the same two frames that overlap, with the cache emptied between the two times
that they store, and a third one that finds what the second has stored. -/
def overlapping : List Action :=
  [.begin "abc" ["1:2", "1:3"], .begin "abc" ["1:3", "1:2", "1:3"], .advance 0 0, .advance 1 1, .advance 2 1, .advance 3 0,
    .advance 4 0, .clear, .advance 5 1, .begin "abc" ["1:3", "1:2"], .advance 6 2]

def overlapped : Traffic := (Traffic.ofSettings sampleSettings).run sampleTransport overlapping

theorem run_served_overlapping :
    (∃ stored ∈ overlapped.client.cache,
      Served sampleTransport sampleSettings overlapped.client.sent stored.key stored.document) ∧
    (∃ fetch ∈ overlapped.fetches, fetch.progress = .ended (.ok sampleFile) ∧ fetch.ids = ["1:3", "1:2"] ∧
      Served sampleTransport sampleSettings overlapped.client.sent fetch.key sampleFile ∧
      ∃ design, designOf sampleFile "1:3" = .ok design) ∧
    (overlapped.client.fetch sampleTransport 7 "abc" ["1:2", "1:3"]).1 = .ok sampleFile ∧
      ∃ design, designOf sampleFile "1:2" = .ok design := by
  obtain ⟨cached, ended, fetched⟩ := run_served sampleTransport sampleSettings overlapping
  rw [← overlapped] at cached ended fetched
  obtain ⟨cache, last, again⟩ : overlapped.client.cache = [⟨.ofIds "abc" ["1:2", "1:3"], sampleFile, 5⟩] ∧
      overlapped.fetches[2]? = some ⟨"abc", ["1:3", "1:2"], .ended (.ok sampleFile)⟩ ∧
      (overlapped.client.fetch sampleTransport 7 "abc" ["1:2", "1:3"]).1 = .ok sampleFile := by decide +kernel
  have member := List.mem_of_getElem? last
  obtain ⟨served, designs⟩ := ended _ member _ rfl
  have first := designs "1:3" (by decide)
  have second := fetched _ _ _ _ again "1:2" (by decide)
  rw [cache] at cached ⊢
  exact ⟨⟨_, List.mem_singleton_self _, cached _ (List.mem_singleton_self _)⟩,
    ⟨_, member, rfl, rfl, served, first.2⟩, again, second.2⟩

end Handoff.Service
