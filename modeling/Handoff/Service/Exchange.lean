import Handoff.Binary64.Text
import Handoff.Target
import Handoff.Url.Basic

/-!
How the design service is reached: the settings of a client, its requests and what comes of them.
-/
namespace Handoff.Service

def defaultBaseUrl : String := "https://api.figma.com/v1"

/-- How long documents are remembered, in seconds, if nothing is said. -/
def defaultTimeToLive : Nat := 300

/-- The largest number of ids that the service takes in one request for pictures. -/
def defaultBatchSize : Nat := 80

/-- The settings of a client. -/
structure Settings where
  baseUrl : String
  token : String
  /-- How long documents are remembered, in seconds. -/
  timeToLive : Nat
  batchSize : Nat
  deriving DecidableEq

def Settings.ofToken (token : String) : Settings :=
  ⟨defaultBaseUrl, token, defaultTimeToLive, defaultBatchSize⟩

/-- A request for an address, with the access token. -/
structure Request where
  url : String
  token : String
  deriving DecidableEq

/-- The answer to a request. -/
structure Response where
  status : Nat
  body : String
  deriving DecidableEq

def Response.isSuccess (response : Response) : Bool :=
  200 ≤ response.status && response.status < 300

/-- The service as it is seen from here: given the requests made before, it answers a request, or
the request is never completed. -/
abbrev Transport := List Request → Request → Option Response

/-- What is wrong with a request before it is made. -/
inductive InvalidRequest where
  | fileKey (key : String)
  | noIds
  | scale (scale : Binary64)
  | url (error : Url.Failure)
  deriving DecidableEq

/-- Why the service gave nothing. -/
inductive Failure where
  | auth
  | access (fileKey : String)
  | notFound (fileKey : String) (ids : List String)
  | rateLimited
  | status (code : Nat) (body : String)
  | refused (reason : String)
  | transport (url : String)
  | undecodable
  | invalid (reason : InvalidRequest)
  deriving DecidableEq

def InvalidRequest.message : InvalidRequest → String
  | .fileKey key => "file key '" ++ key ++ "' must be a non-empty alphanumeric string"
  | .noIds => "at least one non-empty node id is required"
  | .scale value => "asset scale must be in (0, 4], got " ++ value.plain
  | .url error => "bad request url: " ++ error.message

namespace Failure

def message : Failure → String
  | .auth => "authentication failed, check the design service access token"
  | .access fileKey =>
    "access denied to file '" ++ fileKey ++ "', ensure the token can read it"
  | .notFound fileKey ids =>
    "file '" ++ fileKey ++ "' or node(s) '" ++ String.intercalate ", " ids ++ "' not found"
  | .rateLimited => "design service rate limit exceeded, wait a moment and try again"
  | .status code body => "design service returned " ++ toString code ++ ": " ++ body
  | .refused reason => "asset export failed: " ++ reason
  | .transport url => "request to " ++ url ++ " failed"
  | .undecodable => "failed to decode design service response"
  | .invalid reason => "invalid request: " ++ reason.message

def ofResponse (response : Response) (fileKey : String) (ids : List String) : Failure :=
  match response.status with
  | 401 => .auth
  | 403 => .access fileKey
  | 404 => .notFound fileKey ids
  | 429 => .rateLimited
  | code => .status code response.body

/-- Whether the failure would meet every other request as well. -/
def isCredential : Failure → Bool
  | .auth => true
  | .access _ => true
  | _ => false

end Failure

/-- Keys of files are letters and digits of ASCII. -/
def isFileKey (key : String) : Bool := !key.isEmpty && key.toList.all Char.isAlphanum

def checkFileKey (key : String) : Except Failure Unit :=
  if isFileKey key then .ok () else .error (.invalid (.fileKey key))

/-- The body of a successful answer to a request. -/
def bodyOf (request : Request) (fileKey : String) (ids : List String) (answer : Option Response) :
    Except Failure String :=
  match answer with
  | none => .error (.transport request.url)
  | some response =>
    if response.isSuccess then .ok response.body else .error (.ofResponse response fileKey ids)

end Handoff.Service
