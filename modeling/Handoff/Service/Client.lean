import Handoff.Document.Decoding
import Handoff.Service.Cache
import Handoff.Service.Exchange
import Handoff.Text.Parts

/-!
The client of the design service: it fetches documents, which it remembers, and asks for exported
pictures in batches. A fetch looks into the cache, makes its request and stores the document; each
of these is a function of its own, because other calls may come between them.
-/
namespace Handoff.Service

/-- A client with its cache and the requests that it has made. -/
structure Client where
  settings : Settings
  cache : Cache
  sent : List Request

namespace Client

def ofSettings (settings : Settings) : Client := ⟨settings, [], []⟩

def clear (client : Client) : Client := { client with cache := [] }

end Client

/-- The request for a path and parameters below the base address. -/
def Settings.request (settings : Settings) (path : String) (parameters : List (String × String)) :
    Except Failure Request :=
  let base := String.ofList (Text.dropFinal (· == '/') settings.baseUrl.toList)
  match Url.read (base ++ "/" ++ path) with
  | .ok url => .ok ⟨(url.withParameters parameters).text, settings.token⟩
  | .error error => .error (.invalid (.url error))

/-! Documents -/

/-- A document is asked for by the key of its file and ids that are not blank. -/
def checkFetch (fileKey : String) (ids : List String) : Except Failure Unit := do
  checkFileKey fileKey
  if ids.isEmpty ∨ ids.any (fun id => (Text.trim id).isEmpty) then throw (.invalid .noIds)

def Settings.fetchRequest (settings : Settings) (fileKey : String) (ids : List String) :
    Except Failure Request :=
  settings.request ("files/" ++ fileKey ++ "/nodes") [("ids", String.intercalate "," ids)]

/-- The document in an answer, which must have an entry for every id. -/
def documentOf (fileKey : String) (ids : List String) (request : Request)
    (answer : Option Response) :
    Except Failure Document.File := do
  let body ← bodyOf request fileKey ids answer
  match Json.decodeText Document.File.decode body with
  | none => throw .undecodable
  | some document =>
    match ids.find? fun id => (document.node? id).isNone with
    | some id => throw (.notFound fileKey [id])
    | none => return document

def Client.retrieve (transport : Transport) (fileKey : String) (ids : List String)
    (client : Client) :
    Except Failure Document.File × Client :=
  match client.settings.fetchRequest fileKey ids with
  | .error error => (.error error, client)
  | .ok request =>
    (documentOf fileKey ids request (transport client.sent request),
      { client with sent := client.sent ++ [request] })

def Client.remember (now : Nat) (key : CacheKey) (document : Document.File) (client : Client) :
    Client :=
  { client with cache := client.cache.store client.settings.timeToLive now key document }

def Client.fetch (transport : Transport) (now : Nat) (fileKey : String) (ids : List String)
    (client : Client) : Except Failure Document.File × Client :=
  match checkFetch fileKey ids with
  | .error error => (.error error, client)
  | .ok () =>
    let key := CacheKey.ofIds fileKey ids
    match client.cache.lookup client.settings.timeToLive now key with
    | (some document, cache) => (.ok document, { client with cache })
    | (none, cache) =>
      match { client with cache }.retrieve transport fileKey ids with
      | (.ok document, client) => (.ok document, client.remember now key document)
      | (.error error, client) => (.error error, client)

/-! Pictures -/

/-- What pictures are asked for. -/
structure Export where
  fileKey : String
  format : AssetFormat
  scale : Binary64

/-- A scale is above zero and at most four. -/
def Export.check (asked : Export) : Except Failure Unit := do
  checkFileKey asked.fileKey
  if ¬(0 < asked.scale ∧ asked.scale ≤ 4) then throw (.invalid (.scale asked.scale))

/-- Items in order in batches of a size, the last of which may be smaller. No size is below one. -/
def batches {α : Type} (size : Nat) (items : List α) : List (List α) :=
  match items with
  | [] => []
  | item :: rest => (item :: rest.take (size - 1)) :: batches size (rest.drop (size - 1))
termination_by items.length
decreasing_by simp only [List.length_drop, List.length_cons]; omega

def Settings.exportRequest (settings : Settings) (asked : Export) (ids : List String) :
    Except Failure Request :=
  settings.request ("images/" ++ asked.fileKey)
    [("ids", String.intercalate "," ids), ("format", Named.name asked.format),
      ("scale", asked.scale.plain)]

def imagesOf (asked : Export) (ids : List String) (request : Request) (answer : Option Response) :
    Except Failure (OrderedMap String (Option String)) := do
  let body ← bodyOf request asked.fileKey ids answer
  match Json.decodeText Document.Images.decode body with
  | none => throw .undecodable
  | some images =>
    match images.err with
    | some reason => throw (.refused reason)
    | none => return images.images

abbrev BatchOutcome := Except Failure (OrderedMap String (Option String))

def Client.exportBatch (transport : Transport) (asked : Export) (ids : List String)
    (client : Client) : BatchOutcome × Client :=
  match client.settings.exportRequest asked ids with
  | .error error => (.error error, client)
  | .ok request =>
    (imagesOf asked ids request (transport client.sent request),
      { client with sent := client.sent ++ [request] })

/-- Makes the requests for all batches, whatever comes of each of them. -/
def Client.exportBatches (transport : Transport) (asked : Export) :
    List (List String) → Client → List (List String × BatchOutcome) × Client
  | [], client => ([], client)
  | ids :: rest, client =>
    let (outcome, client) := client.exportBatch transport asked ids
    let (outcomes, client) := client.exportBatches transport asked rest
    ((ids, outcome) :: outcomes, client)

abbrev Pictures := OrderedMap String (Option String)

/-- The address that a batch gives an id. No address is empty. -/
def addressOf? (images : OrderedMap String (Option String)) (id : String) : Option String :=
  (images.get? id).join.filter (!·.isEmpty)

/-- Takes the addresses that a batch gives its ids. -/
def takeBatch (pictures : Pictures) (ids : List String)
    (images : OrderedMap String (Option String)) : Pictures :=
  ids.foldl (fun pictures id =>
    match addressOf? images id with
    | some url => pictures.insert id (some url)
    | none => pictures) pictures

/-- Takes the batches in order. A failed one gives no addresses, unless it would fail everywhere. -/
def takeBatches (pictures : Pictures) :
    List (List String × BatchOutcome) → Except Failure Pictures
  | [] => .ok pictures
  | (ids, .ok images) :: rest => takeBatches (takeBatch pictures ids images) rest
  | (_, .error error) :: rest =>
    if error.isCredential then .error error else takeBatches pictures rest

/-- The pictures of some ids, in the order of the ids. -/
def Client.exportPictures (transport : Transport) (asked : Export) (ids : List String)
    (client : Client) : Except Failure Pictures × Client :=
  match asked.check with
  | .error error => (.error error, client)
  | .ok () =>
    let (outcomes, client) :=
      client.exportBatches transport asked (batches client.settings.batchSize ids)
    (takeBatches (.ofList (ids.map (·, none))) outcomes, client)

end Handoff.Service
