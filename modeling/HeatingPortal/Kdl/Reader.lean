import HeatingPortal.Kdl.Token

/-!
# Reading KDL

The reader takes the tokens of a document one by one. It keeps the blocks that are
open, outermost last, and in each of them the nodes that are complete and the place
reached in the node under way.

A node ends at a line end or a semicolon, or with the block around it. It also ends where neither
an entry nor a block of it can follow; after such an end the block around it holds no more nodes,
only spaces, line ends and removed nodes. So nothing but a removed block may stand between the
block of a node and its line end. A text and a number must be set off from what follows; a
keyword and a block need not be.

Slashdash removes the node, entry or block after it, which is read all the same. What it removes
may begin with a slashdash of its own, so as many entries are removed as slashdashes were read. A
removed node needs no line end after it, and a semicolon cannot end it.
-/

namespace HeatingPortal.Kdl

/-! ### States -/

/-- How far the node under way has come. -/
inductive Stage where
  /-- Entries and blocks may follow. -/
  | entries
  /-- The block of the node was read last, so no entry may follow. -/
  | block
  /-- A removed block was read last, so no entry may follow. -/
  | removedBlock
deriving DecidableEq

/-- What stands right before a place in a node. -/
inductive Preceding where
  /-- A text or a number. -/
  | word
  /-- A keyword or a block. -/
  | closed
  | space
deriving DecidableEq

/-- The node under way. -/
structure Draft where
  /-- Whether a slashdash removes the node. -/
  removed : Bool
  name : String
  /-- The entries so far, the newest first. -/
  entries : List Entry
  /-- How many of the entries that follow are removed. -/
  removals : Nat
  stage : Stage
  children : Option (List Node)

/-- What an annotation in parentheses belongs to. -/
inductive Annotated where
  /-- The node whose name follows. -/
  | node (removed : Bool)
  /-- The argument that follows. -/
  | argument (draft : Draft)
  /-- The value of a property. -/
  | property (draft : Draft) (name : String)

/-- The place reached inside a block. -/
inductive Place where
  /-- Before a node or the end of the block. -/
  | between
  /-- After a slashdash that removes the next node. -/
  | removing
  /-- After an opening parenthesis. -/
  | typeName (target : Annotated)
  /-- After the text of an annotation. -/
  | typeEnd (target : Annotated)
  /-- After an annotation. -/
  | typed (target : Annotated)
  /-- In a node. -/
  | inside (draft : Draft) (preceding : Preceding)
  /-- After a text that is an argument unless an equals sign follows. -/
  | afterText (draft : Draft) (text : String) (preceding : Preceding)
  /-- After the equals sign of a property. -/
  | equals (draft : Draft) (name : String)
  /-- After a slashdash that removes the next entry or block. -/
  | removingEntry (draft : Draft)
  /-- After a slashdash that removes the next block, or else the next node. -/
  | removingBlock (draft : Draft)

/-- An open block. -/
structure Block where
  /-- The complete nodes, the newest first. -/
  nodes : List Node
  /-- Whether no more nodes may follow, unless they are removed. -/
  closed : Bool
  place : Place

/-- A block around the innermost one: its complete nodes, whether no more may follow, the node
under way, and whether the inner block is removed. -/
structure Outer where
  nodes : List Node
  closed : Bool
  draft : Draft
  removed : Bool

/-- The innermost block and those around it. -/
structure Reader where
  block : Block
  outer : List Outer

/-! ### Steps -/

/-- A node that has a name only. -/
def Draft.ofName (removed : Bool) (name : String) : Draft :=
  ⟨removed, name, [], 0, .entries, none⟩

/-- The complete node. -/
def Draft.toNode (draft : Draft) : Node :=
  ⟨draft.name, draft.entries.reverse, draft.children⟩

/-- Adds an entry to the node under way, or removes it. -/
def Draft.addEntry (draft : Draft) (name : Option String) (value : Value) : Draft :=
  if draft.removals = 0 then { draft with entries := ⟨name, value⟩ :: draft.entries }
  else { draft with removals := draft.removals - 1 }

/-- Adds a complete block to the node under way, or removes it. -/
def Draft.addBlock (draft : Draft) (removed : Bool) (nodes : List Node) : Draft :=
  if removed then { draft with stage := .removedBlock }
  else { draft with stage := .block, children := some nodes }

/-- A line end or semicolon here ends the node, and so lets others follow. -/
def Draft.mayEnd (draft : Draft) (preceding : Preceding) : Bool :=
  draft.children.isNone || preceding ≠ .space

/-- A block without nodes so far. -/
def Block.empty : Block :=
  ⟨[], false, .between⟩

/-- The same blocks with another place in the innermost one. -/
def Reader.goTo (reader : Reader) (place : Place) : Reader :=
  { reader with block := { reader.block with place } }

/-- Completes the node under way. -/
def Reader.completeNode (reader : Reader) (draft : Draft) : Reader :=
  if draft.removed then reader.goTo .between
  else
    { reader with block := { reader.block with
        nodes := draft.toNode :: reader.block.nodes, place := .between } }

/-- Completes the node under way where nothing ends it: unless it is
removed, no more may follow. -/
def Reader.breakOff (reader : Reader) (draft : Draft) : Reader :=
  let reader := reader.completeNode draft
  { reader with block := { reader.block with closed := reader.block.closed || !draft.removed } }

/-- Opens a block of the node under way. -/
def Reader.openBlock (reader : Reader) (draft : Draft) (removed : Bool) : Reader :=
  ⟨.empty, ⟨reader.block.nodes, reader.block.closed, draft, removed⟩ :: reader.outer⟩

/-- Closes the innermost block. -/
def Reader.closeBlock? (reader : Reader) : Option Reader :=
  match reader.outer with
  | [] => none
  | ⟨nodes, closed, draft, removed⟩ :: outer =>
    let draft := draft.addBlock removed reader.block.nodes.reverse
    some ⟨⟨nodes, closed, .inside draft .closed⟩, outer⟩

/-- A token where a node may begin. -/
def Reader.beginNode? (reader : Reader) (removed : Bool) : Token → Option Reader
  | .space | .newline => some reader
  | .openType =>
    if reader.block.closed && !removed then none
    else some (reader.goTo (.typeName (.node removed)))
  | .text name =>
    if reader.block.closed && !removed then none
    else some (reader.goTo (.inside (.ofName removed name) .word))
  | _ => none

/-- A token before a node or the end of the block. -/
def Reader.between? (reader : Reader) : Token → Option Reader
  | .slashdash => some (reader.goTo .removing)
  | .closeBlock => reader.closeBlock?
  | token => reader.beginNode? false token

/-- A token where an entry may begin. -/
def Reader.beginEntry? (reader : Reader) (draft : Draft) : Token → Option Reader
  | .openType => some (reader.goTo (.typeName (.argument draft)))
  | .text text => some (reader.goTo (.afterText draft text .word))
  | .number value => some (reader.goTo (.inside (draft.addEntry none value) .word))
  | .keyword value => some (reader.goTo (.inside (draft.addEntry none value) .closed))
  | .slashdash =>
    some (reader.goTo (.removingEntry { draft with removals := draft.removals + 1 }))
  | _ => none

/-- A slashdash inside a node that lacks no entries. -/
def Reader.slashdash? (reader : Reader) (draft : Draft) (preceding : Preceding) :
    Option Reader :=
  if preceding = .word then none
  else if draft.stage = .entries && preceding = .space then reader.beginEntry? draft .slashdash
  else if draft.stage = .block || draft.stage = .removedBlock && preceding = .space then
    some (reader.goTo (.removingBlock draft))
  else some ((reader.breakOff draft).goTo .removing)

/-- A token inside a node that lacks no entries. -/
def Reader.insideNode? (reader : Reader) (draft : Draft) (preceding : Preceding) :
    Token → Option Reader
  | .space => some (reader.goTo (.inside draft .space))
  | .newline =>
    some (if draft.mayEnd preceding then reader.completeNode draft else reader.breakOff draft)
  | .semicolon =>
    if draft.mayEnd preceding && !draft.removed then some (reader.completeNode draft) else none
  | .closeBlock => (reader.completeNode draft).closeBlock?
  | .openBlock => if draft.children.isSome then none else some (reader.openBlock draft false)
  | .slashdash => reader.slashdash? draft preceding
  | token =>
    if draft.stage = .entries && preceding = .space then reader.beginEntry? draft token
    else if preceding = .word then none
    else (reader.breakOff draft).beginNode? false token

/-- A token inside a node that lacks entries, since slashdashes ask for more. -/
def Reader.lackingEntry? (reader : Reader) (draft : Draft) (preceding : Preceding) :
    Token → Option Reader
  | .space => some (reader.goTo (.inside draft .space))
  | token => if preceding = .space then reader.beginEntry? draft token else none

/-- A token inside a node. -/
def Reader.inside? (reader : Reader) (draft : Draft) (preceding : Preceding) (token : Token) :
    Option Reader :=
  if draft.removals = 0 then reader.insideNode? draft preceding token
  else reader.lackingEntry? draft preceding token

/-- Adds an annotated argument or property to the node under way, or begins an annotated node. -/
def Reader.annotated? (reader : Reader) : Annotated → Token → Option Reader
  | .node removed, .text name => some (reader.goTo (.inside (.ofName removed name) .word))
  | .node _, _ => none
  | .argument draft, token => entry? draft none token
  | .property draft name, token => entry? draft (some name) token
where
  /-- Adds an entry whose value is a token. -/
  entry? (draft : Draft) (name : Option String) : Token → Option Reader
    | .text text => some (reader.goTo (.inside (draft.addEntry name (.text text)) .word))
    | .number value => some (reader.goTo (.inside (draft.addEntry name value) .word))
    | .keyword value => some (reader.goTo (.inside (draft.addEntry name value) .closed))
    | _ => none

/-- Takes one token. -/
def Reader.next? (reader : Reader) (token : Token) : Option Reader :=
  match reader.block.place with
  | .between => reader.between? token
  | .removing => reader.beginNode? true token
  | .typeName target =>
    match token with
    | .space => some reader
    | .text _ => some (reader.goTo (.typeEnd target))
    | _ => none
  | .typeEnd target =>
    match token with
    | .space => some reader
    | .closeType => some (reader.goTo (.typed target))
    | _ => none
  | .typed target =>
    match token with
    | .space => some reader
    | token => reader.annotated? target token
  | .inside draft preceding => reader.inside? draft preceding token
  | .afterText draft text preceding =>
    match token with
    | .space => some (reader.goTo (.afterText draft text .space))
    | .equals => some (reader.goTo (.equals draft text))
    | token => reader.inside? (draft.addEntry none (.text text)) preceding token
  | .equals draft name =>
    match token with
    | .space => some reader
    | .openType => some (reader.goTo (.typeName (.property draft name)))
    | token => reader.annotated? (.property draft name) token
  | .removingEntry draft =>
    match token with
    | .space | .newline => some reader
    | .openBlock =>
      if draft.removals = 1 then some (reader.openBlock { draft with removals := 0 } true)
      else none
    | token => reader.beginEntry? draft token
  | .removingBlock draft =>
    match token with
    | .space | .newline => some reader
    | .openBlock => some (reader.openBlock draft true)
    | token => ((reader.breakOff draft).goTo .removing).beginNode? true token

/-- The document, if it may end here. -/
def Reader.finish? (reader : Reader) : Option Document :=
  match reader.outer, reader.block.place with
  | [], .between => some reader.block.nodes.reverse
  | [], .inside draft _ => finishNode? reader draft
  | [], .afterText draft text _ => finishNode? reader (draft.addEntry none (.text text))
  | _, _ => none
where
  /-- The document, if the node under way may end it. -/
  finishNode? (reader : Reader) (draft : Draft) : Option Document :=
    if draft.removals = 0 then some (reader.completeNode draft).block.nodes.reverse else none

/-! ### Documents -/

/-- The document that a list of tokens spells. -/
def ofTokens? (tokens : List Token) : Option Document :=
  (tokens.foldlM Reader.next? ⟨.empty, []⟩).bind Reader.finish?

/-- Removes a byte order mark at the front. -/
def dropByteOrderMark : List Char → List Char
  | '\uFEFF' :: rest => rest
  | cs => cs

/-- Reads a document. -/
def read? (text : String) : Option Document :=
  (tokens? (dropByteOrderMark text.toList)).bind ofTokens?

end HeatingPortal.Kdl
