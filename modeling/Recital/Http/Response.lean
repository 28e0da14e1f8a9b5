import Recital.Catalogue.Json
import Recital.Http.Place

/-!
# Responses

* `Response` : a status and a body.
* `Refusal` : why a request is not understood; `Refusal.response` answers it.
* `Response.ofFault` : how the fault of a use case is answered.
* `Response.shown`, `Response.created`, `Response.noContent` : how its success is.
-/

set_option autoImplicit false

namespace Recital.Http

open Json Showable

/-- A status and a body. -/
structure Response where
  status : Nat
  body : Option Value := none
  deriving Repr, Inhabited

/-- Why a request is not understood. -/
inductive Refusal where
  | unknownPlace
  | unknownMethod
  /-- A parameter is not UTF-8. -/
  | undecodable
  /-- A parameter is no id. -/
  | notAnId
  | badQuery
  /-- The content type is not JSON. -/
  | notJson
  /-- The body is not JSON. -/
  | badJson
  /-- The body is JSON of another form. -/
  | badBody
  deriving DecidableEq, Repr, Inhabited

/-- The object that tells an error. -/
def errorBody (code message : String) : Value :=
  .object [("error", .object [("code", .string code), ("message", .string message)])]

namespace Refusal

/-- The wording of a refusal that has one. -/
def message? : Refusal → Option String
  | unknownPlace => none
  | unknownMethod => none
  | undecodable => some "Invalid UTF-8 in"
  | notAnId => some "Cannot parse"
  | badQuery => some "Failed to deserialize query string"
  | notJson => some "Expected request with"
  | badJson => some "Failed to parse the request body as JSON"
  | badBody => some "Failed to deserialize the JSON body into the target type"

/-- The status of a refusal. -/
def status : Refusal → Nat
  | unknownPlace => 404
  | unknownMethod => 405
  | _ => 400

/-- The answer to a request that is not understood. -/
def response (r : Refusal) : Response :=
  ⟨r.status, r.message?.map (errorBody "BAD_REQUEST")⟩

end Refusal

namespace Response

/-- The answer to a request whose use case fails. -/
def ofFault (e : Fault) : Response :=
  ⟨e.statusCode, some (errorBody e.code e.message)⟩

/-- The answer that shows a value. -/
def shown {α : Type} [Showable α] (a : α) : Response :=
  ⟨200, some (encode a)⟩

/-- The answer to a creation: the new entity, and the mark by which the client knows it. -/
def created {α : Type} [Showable α] (mark : Option String) (a : α) : Response :=
  ⟨201, some (.object (("data", encode a) :: (mark.map fun s => ("temp_id", .string s)).toList))⟩

/-- The answer to a deletion. -/
def noContent : Response :=
  ⟨204, none⟩

/-- The answer without its body. -/
def bodiless (r : Response) : Response :=
  { r with body := none }

/-- Whether a response tells of success. -/
def isSuccess (r : Response) : Bool :=
  200 ≤ r.status && r.status < 300

end Response

end Recital.Http
