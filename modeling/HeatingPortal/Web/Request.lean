import HeatingPortal.Caller.Identity
import HeatingPortal.Text.Utf8

/-!
# Requests

A request has a method, a target, headers in the order in which they came, and a body of bytes.
The caller is named by one header: the first of that name, whatever its case.
-/

namespace HeatingPortal.Web

open Caller

/-- What a request wants done with its target. -/
inductive Method where
  | get
  | head
  | post
  | other
deriving DecidableEq

/-- The method of a word; the case counts. -/
def Method.ofWord : String → Method
  | "GET" => get
  | "HEAD" => head
  | "POST" => post
  | _ => other

/-- A request of a client. -/
structure Request where
  method : Method
  target : String
  headers : List (String × String)
  body : List UInt8
deriving DecidableEq

/-! ### Headers -/

/-- The punctuation marks that a header name may contain. -/
def headerMarks : List Char :=
  ['!', '#', '$', '%', '&', '\'', '*', '+', '-', '.', '^', '_', '\x60', '|', '~']

/-- A character that a header name may contain. -/
def isHeaderNameChar (c : Char) : Bool :=
  c.isAlphanum || headerMarks.contains c

/-- A text that can be the name of a header. -/
def isHeaderName (name : String) : Bool :=
  !name.isEmpty && name.toList.all isHeaderNameChar

/-- Two names of the same header. -/
def sameHeader (a b : String) : Bool :=
  a.map Char.toLower == b.map Char.toLower

/-- The value of the first header of a name. -/
def header? (headers : List (String × String)) (name : String) : Option String :=
  if isHeaderName name then
    (headers.find? fun header => sameHeader header.1 name).map (·.2)
  else none

/-- A character that shows in a header value. -/
def isVisible (c : Char) : Bool :=
  c = '\t' || (' ' ≤ c && c ≤ '~')

/-- The value of the first header of a name, if all its characters show. -/
def visibleHeader? (headers : List (String × String)) (name : String) : Option String :=
  (header? headers name).filter (·.toList.all isVisible)

/-- The header that names the caller, unless another one is configured. -/
def defaultIdentityHeader : String :=
  "x-remote-user"

/-- The caller that a header names. -/
def callerOf (headers : List (String × String)) (name : String) : Identity :=
  (visibleHeader? headers name).elim .anonymous .ofName

/-! ### Submissions -/

/-- The content type of a submitted form. -/
def formType : String :=
  "application/x-www-form-urlencoded"

/-- Whether the body is a submitted form: its content type begins with that of forms. -/
def Request.isForm (request : Request) : Bool :=
  (visibleHeader? request.headers "content-type").any (·.startsWith formType)

end HeatingPortal.Web
