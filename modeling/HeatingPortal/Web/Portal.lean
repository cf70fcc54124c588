import HeatingPortal.Text.Percent
import HeatingPortal.Web.Entities
import HeatingPortal.Web.Route
import HeatingPortal.Web.SystemMode

/-!
# The portal

A portal has settings and knows which header names the caller. A request is refused in a fixed
order: an unknown path, a method that the route does not answer, an id that is no text, a body
that is no form. Only then it is handled for its caller.
-/

namespace HeatingPortal.Web

open Caller Form Plant Settings Text

/-- A portal. -/
structure Portal where
  settings : Settings
  identityHeader : String

/-- A portal whose callers are named by the default header. -/
def Portal.ofSettings (settings : Settings) : Portal :=
  ⟨settings, defaultIdentityHeader⟩

/-- A portal whose callers are named by a header of any case. -/
def Portal.withIdentityHeader (portal : Portal) (name : String) : Portal :=
  { portal with identityHeader := name.map Char.toLower }

/-! ### Simple pages -/

/-- Shows the manifest, which needs a title. -/
def showManifest (settings : Settings) : Except Error Outcome :=
  match settings.nonemptyText? appTitle with
  | some title => .ok (.ofResponse (.plain 200 (.manifest title)))
  | none => .error (.disabled appTitle)

/-- Shows whether the plant can be reached. -/
def showStatus : Program Outcome := do
  let mode := (← readSystemMode.run).toOption
  return .ofResponse (.plain 200 (.status mode))

/-! ### Requests -/

/-- Why an id is refused that is no text. -/
def idNotText : String :=
  "Invalid URL: Invalid UTF-8 in \x60id\x60"

/-- Why a submission is refused that is no form. -/
def notForm : String :=
  "Form requests must have \x60Content-Type: " ++ formType ++ "\x60"

/-- The route with its id decoded, or the refusal. -/
def Route.decode : Route → Except Response Route
  | .entity kind segment =>
    match decode? (percentDecode (encode segment)) with
    | some id => .ok (.entity kind id)
    | none => .error (.plain 400 (.plain idNotText))
  | route => .ok route

/-- The texts that a body submits. -/
def submittedTexts (body : List UInt8) : Texts :=
  Texts.ofPairs (formPairs body)

namespace Portal

/-- Handles the reading of a decoded route. -/
def view (settings : Settings) (caller : Identity) : Route → Task Error Outcome
  | .system => showSystemMode settings caller
  | .entities kind => listEntities settings caller kind
  | .entity kind id => showEntity settings caller kind id
  | .manifest => Task.ofExcept (showManifest settings)
  | .status => showStatus

/-- Handles a submission to a decoded route. -/
def submit (settings : Settings) (caller : Identity) (submission : Texts) :
    Route → Task Error Outcome
  | .system => submitSystemMode settings caller submission
  | .entity kind id => submitEntity settings caller kind id submission
  | .entities _ | .manifest | .status => return .ofResponse (.plain 405 .empty)

/-- The decoded route of a request, or the refusal. A body may have any length here. Where the
portal is served, a submission that is not refused here but has more than two mebibytes is
answered with the status 413 in place of being handled: no field of it is checked, nothing is
called and nothing is published. -/
def accept (request : Request) : Except Response Route := do
  let some route := Route.ofTarget? request.target | throw (.plain 404 .empty)
  unless route.allows request.method do
    throw (.plain 405 .empty)
  let route ← route.decode
  if request.method = .post ∧ !request.isForm then
    throw (.plain 415 (.plain notForm))
  return route

/-- Handles an accepted request. -/
def handle (portal : Portal) (request : Request) (route : Route) : Task Error Outcome :=
  let caller := callerOf request.headers portal.identityHeader
  if request.method = .post then
    submit portal.settings caller (submittedTexts request.body) route
  else
    view portal.settings caller route

/-- An outcome as the method wants it: asking for the head only gets no text. -/
def cut (method : Method) (outcome : Outcome) : Outcome :=
  { outcome with response := { outcome.response with headersOnly := method = .head } }

/-- Serves a request. -/
def serve (portal : Portal) (request : Request) : Program Outcome := do
  match accept request with
  | .error response => return cut request.method (.ofResponse response)
  | .ok route => return cut request.method (.ofExcept (← (portal.handle request route).run))

end Portal

end HeatingPortal.Web
