import HeatingPortal.Kdl.Reader
import HeatingPortal.Settings.Document

/-!
# Loading settings

Every top-level node of a KDL document is a key. Its shape decides its value: one argument is a
scalar, several are ids, none is an empty list, and a block is a list of choices. Loaded settings
have passed the check.
-/

namespace HeatingPortal.Settings

/-! ### Nodes -/

/-- The arguments of a node, which may have no property. -/
def arguments (node : Kdl.Node) : Except Fault (List Kdl.Value) :=
  node.entries.mapM fun entry =>
    match entry.name with
    | some name => .error (.property node.name name)
    | none => .ok entry.value

/-- An integer that fits 64 bits. -/
def integer (key : String) : Kdl.Value → Except Fault Int64
  | .integer value =>
    match Text.word? value with
    | some word => .ok word
    | none => .error (.integerRange key value)
  | value => .error (.notInteger key value)

/-- The only argument of a node. -/
def scalar (key : String) : Kdl.Value → Except Fault Scalar
  | .text value => .ok (.text value)
  | .integer value => (integer key (.integer value)).map .integer
  | .real value => .ok (.real value)
  | .bool value => .ok (.bool value)
  | .null => .error (.nullValue key)

/-- A child node in a block of choices. -/
def choice (key : String) (node : Kdl.Node) : Except Fault Choice := do
  if node.name ≠ "choice" then
    throw (.notChoice key node.name)
  match ← arguments node with
  | [code, .text label] => return ⟨← integer key code, label⟩
  | _ => throw (.choiceShape key)

/-- Adds a choice to those before it, whose codes it may not repeat. -/
def addChoice (key : String) (choices : List Choice) (node : Kdl.Node) :
    Except Fault (List Choice) := do
  let choice ← choice key node
  if choices.any (·.code = choice.code) then
    throw (.duplicateCode key choice.code)
  return choices ++ [choice]

/-- The value of a node. -/
def value (node : Kdl.Node) : Except Fault Value := do
  let arguments ← arguments node
  match node.children, arguments with
  | some children, [] => return .choices (← children.foldlM (addChoice node.name) [])
  | some _, _ => throw (.argumentsAndBlock node.name)
  | none, [] => return .ids []
  | none, [single] => return .scalar (← scalar node.name single)
  | none, several => return .ids (← several.mapM (integer node.name))

/-- The version that a node gives. -/
def formatVersion (node : Kdl.Node) : Except Fault Int64 := do
  match ← arguments node with
  | [.integer value] =>
    match Text.word? value with
    | some word => return word
    | none => throw (.versionRange value)
  | _ => throw .versionShape

/-! ### Documents -/

/-- The settings read so far, and whether a version was among them. -/
structure Loading where
  settings : Settings
  versionSeen : Bool

/-- Adds what a node says. -/
def Loading.addNode (loading : Loading) (node : Kdl.Node) : Except Fault Loading := do
  if node.name = versionKey then
    if loading.versionSeen then
      throw (.duplicateKey versionKey)
    return ⟨{ loading.settings with version := ← formatVersion node }, true⟩
  if (loading.settings.get? node.name).isSome then
    throw (.duplicateKey node.name)
  return { loading with settings := loading.settings.insert node.name (← value node) }

/-- The settings that a document spells, which must pass the check. -/
def ofKdl (document : Kdl.Document) : Except Fault Settings := do
  let loading ← document.foldlM Loading.addNode ⟨empty, false⟩
  loading.settings.check
  return loading.settings

/-- The settings that a text spells. -/
def ofText (text : String) : Except Fault Settings :=
  match Kdl.read? text with
  | some document => ofKdl document
  | none => .error .notKdl

/-- The settings in a file of known path: its text, or why it cannot be read. -/
def ofFile (path : String) : Except String String → Except Fault Settings
  | .error cause => .error (.unreadable path cause)
  | .ok text => (ofText text).mapError (.inFile path)

end HeatingPortal.Settings
