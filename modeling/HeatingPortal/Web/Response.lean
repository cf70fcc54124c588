import HeatingPortal.Warning
import HeatingPortal.Web.Page

/-!
# Responses

A response has a status, perhaps a location to go to, and a document. Serving a request may also
yield warnings for the operator, and a system mode to publish.
-/

namespace HeatingPortal.Web

open Text

/-! ### Documents -/

/-- What a response carries. -/
inductive Document where
  | empty
  | plain (text : String)
  | system (page : SystemPage)
  | entities (page : ListPage)
  | entity (page : EntityPage)
  | manifest (title : String)
  | status (mode : Option UInt8)
  | error (error : Error)

namespace Document

/-- The JSON document of a page. -/
def json? : Document → Option Json
  | empty | plain _ => none
  | system page => some page.toJson
  | entities page => some page.toJson
  | entity page => some page.toJson
  | manifest title => some (manifestJson title)
  | status mode => some (statusJson mode)
  | error e => some (errorJson e)

/-- The content type of a document. -/
def contentType? : Document → Option String
  | empty => none
  | plain _ => some "text/plain; charset=utf-8"
  | _ => some "application/json"

/-- The text of a document. -/
def text (document : Document) : String :=
  match document with
  | plain text => text
  | document => document.json?.elim "" Json.write

end Document

/-! ### Responses -/

/-- The response to a request. -/
structure Response where
  status : Nat
  location : Option String
  document : Document
  /-- Whether only the description of the document is sent, and not its text. -/
  headersOnly : Bool

namespace Response

/-- A response without a location. -/
def plain (status : Nat) (document : Document) : Response :=
  ⟨status, none, document, false⟩

/-- The response that sends a client to a location, to be read from there. -/
def redirect (location : String) : Response :=
  ⟨303, some location, .empty, false⟩

/-- The response to a request that failed. -/
def ofError (error : Error) : Response :=
  plain error.status (.error error)

/-- The text that is sent. -/
def body (response : Response) : String :=
  if response.headersOnly then "" else response.document.text

end Response

/-! ### Outcomes -/

/-- What serving a request yields. -/
structure Outcome where
  response : Response
  warnings : List Warning
  /-- The system mode to publish. -/
  publish : Option UInt8

namespace Outcome

/-- An outcome that is a response and nothing more. -/
def ofResponse (response : Response) : Outcome :=
  ⟨response, [], none⟩

/-- The outcome of a request that failed. -/
def ofError (error : Error) : Outcome :=
  ofResponse (.ofError error)

/-- The outcome of a request that was answered or failed. -/
def ofExcept : Except Error Outcome → Outcome
  | .ok outcome => outcome
  | .error error => ofError error

end Outcome

end HeatingPortal.Web
