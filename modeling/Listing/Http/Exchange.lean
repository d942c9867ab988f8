import Listing.Http.MediaType
import Listing.Http.Query
import Listing.Request.Binding
import Listing.Service

/-!
# Requests and answers over HTTP

A request for a listing comes as the query of an address or as a JSON body.  The
answer is a page, or an error with its status; both are JSON.
-/

namespace Listing.Http

/-- A request as it is sent. -/
inductive Sent where
  /-- A request with an address. -/
  | address (uri : String)
  /-- A request with a body, and the type that it is said to have. -/
  | body (text : String) (mediaType : Option String)
  deriving DecidableEq, Repr

/-- An answer. -/
structure Answer where
  status : Nat
  body : Doc

/-- The message about a body that is not what it should be. -/
def bodyMessage : Fault → String
  | .malformed _ => "Failed to parse the request body as JSON"
  | .unsuitable path cause =>
    "Failed to deserialize the JSON body into the target type: " ++
      (if path.isEmpty then "" else path.text ++ ": ") ++ cause.message

/-- Read the body of a request. -/
def readBody (schema : Schema) (text : String) (mediaType : Option String) :
    Except Error FilterRequest :=
  if (mediaType.bind MediaType.read?).any (·.isJson) then
    ((FilterRequest.decoder schema).fromText text).mapError fun fault =>
      .request (.invalidJson (bodyMessage fault))
  else
    .error (.request (.invalidJson "Expected request with `Content-Type: application/json`"))

/-- Read a request with a filter of some type. -/
def Sent.read (schema : Schema) : Sent → Except Error FilterRequest
  | address uri => FilterRequest.ofParameters schema (parameters (queryOf uri))
  | body text mediaType => readBody schema text mediaType

namespace Answer

/-- The answer that tells an error. -/
def ofError (e : Error) : Answer := ⟨e.status, e.toDoc⟩

/-- The answer that carries a page. -/
def ofPage (p : Page Record) : Answer := ⟨200, p.toDoc Record.encode⟩

end Answer

/-- Answer a request. -/
def respond {μ : Type → Type} [Monad μ] (listing : EntityListing μ Record) (schema : Schema)
    (sent : Sent) : μ Answer := do
  match sent.read schema with
  | .error e => return .ofError e
  | .ok request =>
    match ← listing.run request with
    | .error e => return .ofError e
    | .ok page => return .ofPage page

end Listing.Http
