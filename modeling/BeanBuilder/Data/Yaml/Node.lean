import BeanBuilder.Data.Yaml.Scalar
import BeanBuilder.Data.Yaml.Token

/-!
# Nodes of YAML

The tokens of a text describe one document, which is made of scalars, sequences and mappings.  A
node may carry a tag, and an anchor by which later nodes and the nodes within it refer to it.  So a
document is a graph: its nodes are numbered, and collections hold the numbers of theirs.

A text with more than one document is refused.
-/

namespace BeanBuilder
namespace Yaml

/-- The number of a node in its document. -/
abbrev NodeId := Nat

/-- What a node holds. -/
inductive Content where
  | scalar (text : List Char)
  | sequence (items : List NodeId)
  | mapping (entries : List (NodeId × NodeId))
  deriving Repr

/-- A node with its type. -/
structure Node where
  type : NodeType
  content : Content
  deriving Repr

namespace Node

/-- The node that stands where nothing is written. -/
def empty : Node :=
  ⟨.null, .scalar []⟩

end Node

/-- The nodes of a document, and the one that holds all others. -/
structure Document where
  nodes : Array Node
  root : NodeId
  deriving Repr

namespace Document

/-- The node with a number. -/
def node (d : Document) (id : NodeId) : Node :=
  d.nodes.getD id .empty

/-- The entries of a node; a node that is no mapping has none. -/
def entries (d : Document) (id : NodeId) : List (NodeId × NodeId) :=
  match (d.node id).content with
  | .mapping entries => entries
  | _ => []

/-- The document with other entries in a mapping. -/
def setEntries (d : Document) (id : NodeId) (entries : List (NodeId × NodeId)) : Document :=
  { d with nodes := d.nodes.modify id fun n => { n with content := .mapping entries } }

/-- The document in which a node has another type. -/
def setType (d : Document) (id : NodeId) (type : NodeType) : Document :=
  { d with nodes := d.nodes.modify id fun n => { n with type } }

end Document

/-- The tokens that are still to be read, the nodes that were read, and the names of those that have
anchors. -/
structure Reading where
  tokens : List Token
  nodes : Array Node := #[]
  anchors : List (String × NodeId) := []

/-- What tag handles stand for. -/
abbrev Handles := List (String × String)

namespace Reading

/-- The reading behind the next token. -/
def next (r : Reading) : Reading :=
  { r with tokens := r.tokens.drop 1 }

/-- Whether the next token is a given one. -/
def isAt (r : Reading) (t : Token) : Bool :=
  r.tokens.head? = some t

/-- The anchor that stands here, if there is one. -/
def anchor (r : Reading) : Option String × Reading :=
  match r.tokens with
  | .anchor name :: rest => (some name, { r with tokens := rest })
  | _ => (none, r)

/-- The tag that stands here in full, if there is one; its handle has to be known. -/
def tag? (handles : Handles) (r : Reading) : Option (Option String × Reading) :=
  match r.tokens with
  | .tag none suffix :: rest => some (some suffix, { r with tokens := rest })
  | .tag (some handle) suffix :: rest =>
    (handles.lookup handle).map fun start => (some (start ++ suffix), { r with tokens := rest })
  | _ => some (none, r)

/-- The anchor and the tag that stand here, in either order. -/
def properties? (handles : Handles) (r : Reading) :
    Option (Option String × Option String × Reading) := do
  let (anchor, r) := r.anchor
  let (tag, r) ← r.tag? handles
  if anchor.isNone then
    let (anchor, r) := r.anchor
    return (anchor, tag, r)
  else return (anchor, tag, r)

/-- One more node. -/
def add (r : Reading) (n : Node) : NodeId × Reading :=
  (r.nodes.size, { r with nodes := r.nodes.push n })

/-- The reading in which an anchor names a node; no name is given twice. -/
def name? (r : Reading) (anchor : Option String) (id : NodeId) : Option Reading :=
  match anchor with
  | none => some r
  | some name =>
    if (r.anchors.lookup name).isSome then none
    else some { r with anchors := (name, id) :: r.anchors }

/-- One more node that perhaps has an anchor. -/
def addNamed? (r : Reading) (anchor : Option String) (n : Node) : Option (NodeId × Reading) :=
  let (id, r) := r.add n
  (r.name? anchor id).map (id, ·)

/-- The empty node before one of some tokens, else what a reader finds. -/
def nodeUnless? (r : Reading) (stops : List Token)
    (read : Reading → Option (NodeId × Reading)) : Option (NodeId × Reading) :=
  if stops.any r.isAt then some (r.add .empty) else read r

/-- A value behind its token, or the empty node. -/
def valueUnless? (r : Reading) (stops : List Token)
    (read : Reading → Option (NodeId × Reading)) : Option (NodeId × Reading) :=
  if r.isAt .value then r.next.nodeUnless? stops read else some (r.add .empty)

/-- A collection whose content a reader finds.  Its anchor is known within the content. -/
def collect? {α : Type} (r : Reading) (anchor : Option String) (type : NodeType)
    (read : Reading → Option (α × Reading)) (make : α → Content) : Option (NodeId × Reading) := do
  let (id, r) ← r.addNamed? anchor ⟨type, .scalar []⟩
  let (found, r) ← read r
  return (id, { r with nodes := r.nodes.modify id fun n => { n with content := make found } })

end Reading

/-- The type of a scalar.  The single mark asks for the type that the text suggests, and a quoted
text without a tag is a string. -/
def scalarType (tag : Option String) (style : ScalarStyle) (text : List Char) : NodeType :=
  match tag, style with
  | none, .plain => .ofText text
  | none, _ => .text
  | some tag, _ => if tag = "!" then .ofText text else .ofTag tag

/-- The type of a collection, which is `usual` without a tag.  The single mark says nothing. -/
def collectionType (tag : Option String) (usual : NodeType) : NodeType :=
  match tag with
  | none => usual
  | some tag => if tag = "!" then usual else .ofTag tag

section
open Reading

mutual

/-- A node with its properties.  `inBlock` says whether block collections may stand here, and
`indentless` whether a list may whose dashes stand at the column of the enclosing key. -/
def node? (handles : Handles) (inBlock indentless : Bool) : (calls : Nat) → Reading →
    Option (NodeId × Reading)
  | 0, _ => none
  | calls + 1, r =>
    match r.tokens with
    | .alias name :: rest => (r.anchors.lookup name).map fun id => (id, { r with tokens := rest })
    | _ => do
      let (anchor, tag, r) ← r.properties? handles
      let sequence (r : Reading) (read : Reading → Option (List NodeId × Reading)) :=
        r.collect? anchor (collectionType tag .list) read .sequence
      let mapping (r : Reading) (read : Reading → Option (List (NodeId × NodeId) × Reading)) :=
        r.collect? anchor (collectionType tag .mapping) read .mapping
      match r.tokens, inBlock, indentless with
      | .dash :: _, _, true => sequence r (dashItems? handles false calls)
      | .scalar text style :: _, _, _ =>
        r.next.addNamed? anchor ⟨scalarType tag style text, .scalar text⟩
      | .listOpen :: _, _, _ => sequence r.next (flowItems? handles true calls)
      | .braceOpen :: _, _, _ => mapping r.next (flowEntries? handles true calls)
      | .sequenceStart :: _, true, _ => sequence r.next (dashItems? handles true calls)
      | .mappingStart :: _, true, _ => mapping r.next (blockEntries? handles calls)
      | _, _, _ =>
        if anchor.isSome ∨ tag.isSome then
          r.addNamed? anchor ⟨scalarType tag .plain [], .scalar []⟩
        else none

/-- The items of a block list; an indentless list has no token for its end. -/
def dashItems? (handles : Handles) (ended : Bool) : (calls : Nat) → Reading →
    Option (List NodeId × Reading)
  | 0, _ => none
  | calls + 1, r =>
    if r.isAt .dash then do
      let stops := if ended then [Token.dash, .blockEnd] else [Token.dash, .key, .value, .blockEnd]
      let (item, r) ← r.next.nodeUnless? stops (node? handles true false calls)
      let (items, r) ← dashItems? handles ended calls r
      return (item :: items, r)
    else if !ended then some ([], r)
    else if r.isAt .blockEnd then some ([], r.next)
    else none

/-- The entries of a block mapping up to its end. -/
def blockEntries? (handles : Handles) : (calls : Nat) → Reading →
    Option (List (NodeId × NodeId) × Reading)
  | 0, _ => none
  | calls + 1, r =>
    if r.isAt .key then do
      let stops := [Token.key, .value, .blockEnd]
      let (key, r) ← r.next.nodeUnless? stops (node? handles true true calls)
      let (value, r) ← r.valueUnless? stops (node? handles true true calls)
      let (entries, r) ← blockEntries? handles calls r
      return ((key, value) :: entries, r)
    else if r.isAt .blockEnd then some ([], r.next)
    else none

/-- The items of a list in brackets; an entry among them is a mapping of its own. -/
def flowItems? (handles : Handles) (first : Bool) : (calls : Nat) → Reading →
    Option (List NodeId × Reading)
  | 0, _ => none
  | calls + 1, r =>
    if r.isAt .listClose then some ([], r.next)
    else do
      let r ← if first then pure r else if r.isAt .comma then pure r.next else failure
      if r.isAt .listClose then return ([], r.next)
      let (item, r) ←
        if r.isAt .key then do
          let (key, r) ← r.next.nodeUnless? [.value, .comma, .listClose]
            (node? handles false false calls)
          let (value, r) ← r.valueUnless? [.comma, .listClose] (node? handles false false calls)
          pure (r.add ⟨.mapping, .mapping [(key, value)]⟩)
        else node? handles false false calls r
      let (items, r) ← flowItems? handles false calls r
      return (item :: items, r)

/-- The entries of a mapping in braces; a node alone is a key without a value. -/
def flowEntries? (handles : Handles) (first : Bool) : (calls : Nat) → Reading →
    Option (List (NodeId × NodeId) × Reading)
  | 0, _ => none
  | calls + 1, r =>
    if r.isAt .braceClose then some ([], r.next)
    else do
      let r ← if first then pure r else if r.isAt .comma then pure r.next else failure
      if r.isAt .braceClose then return ([], r.next)
      let (entry, r) ←
        if r.isAt .key then do
          let (key, r) ← r.next.nodeUnless? [.value, .comma, .braceClose]
            (node? handles false false calls)
          let (value, r) ← r.valueUnless? [.comma, .braceClose] (node? handles false false calls)
          pure ((key, value), r)
        else do
          let (key, r) ← node? handles false false calls r
          let (value, r) := r.add .empty
          pure ((key, value), r)
      let (entries, r) ← flowEntries? handles false calls r
      return (entry :: entries, r)

end
end

/-- The handles that every document knows. -/
def knownHandles : Handles :=
  [("!", "!"), ("!!", standardTag "")]

/-- The directives before a document: whether the version was given, the handles, and the tokens
behind them. -/
def directives? : (given : Bool) → Handles → List Token → Option (Handles × List Token)
  | given, handles, .directive name major handle start :: rest =>
    if name = "YAML" then
      if given ∨ major ≠ 1 then none else directives? true handles rest
    else if name = "TAG" then
      if (handles.lookup handle).isSome then none
      else directives? given ((handle, start) :: handles) rest
    else directives? given handles rest
  | _, handles, tokens => some (handles ++ knownHandles, tokens)

/-- Whether a token begins or ends a document or belongs before one. -/
def Token.bounds : Token → Bool
  | .directive .. => true
  | .documentStart => true
  | .documentEnd => true
  | _ => false

/-- The document without a text. -/
def Document.empty : Document :=
  ⟨#[.empty], 0⟩

/-- The first document that some tokens hold, and the tokens behind it. -/
def document? (tokens : List Token) : Option (Document × List Token) := do
  let read (handles : Handles) (tokens : List Token) : Option (Document × List Token) := do
    let (root, r) ← node? handles true false (3 * tokens.length + 3) { tokens }
    return (⟨r.nodes, root⟩, r.tokens)
  match tokens with
  | [] => return (.empty, [])
  | first :: _ =>
    if first.bounds ∧ first ≠ .documentEnd then
      let (handles, tokens) ← directives? false [] tokens
      match tokens with
      | .documentStart :: rest =>
        if rest.head?.all Token.bounds then return (.empty, rest) else read handles rest
      | _ => none
    else read knownHandles tokens

/-- The document of a text that holds at most one. -/
def Document.ofTokens? (tokens : List Token) : Option Document := do
  let (d, rest) ← document? tokens
  if rest.all (· = .documentEnd) then some d else none

end Yaml
end BeanBuilder
