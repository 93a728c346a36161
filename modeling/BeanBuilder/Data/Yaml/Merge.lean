import BeanBuilder.Data.Yaml.Node

/-!
# Merge keys of YAML

A mapping may bring in the entries of other mappings under the key `<<`: those of one mapping, or
those of the mappings of a list, the first of which counts most.  Entries that are brought in stand
before the own ones, so that the own ones count.

A mapping may bring itself in, and mappings may bring in each other.  The keys are taken out one by
one before what they bring is looked up, so each is followed once.
-/

namespace BeanBuilder
namespace Yaml

/-- Entries of mappings. -/
abbrev NodeEntries := List (NodeId × NodeId)

namespace Document

/-- Whether a node has a type. -/
def hasType (d : Document) (type : NodeType) (id : NodeId) : Bool :=
  (d.node id).type = type

/-- Whether a node is a mapping, whatever its type. -/
def isMapping (d : Document) (id : NodeId) : Bool :=
  match (d.node id).content with
  | .mapping _ => true
  | _ => false

/-- The value of the first merge key among some entries, and the entries without it. -/
def takeMergeKey? (d : Document) : NodeEntries → Option (NodeId × NodeEntries)
  | [] => none
  | e :: rest =>
    if d.hasType .merge e.1 then some (e.2, rest)
    else (d.takeMergeKey? rest).map fun (value, others) => (value, e :: others)

/-- The document in which the keys for the scalar of a mapping are ordinary texts. -/
def settleKeys (d : Document) (entries : NodeEntries) : Document :=
  entries.foldl (fun d e => if d.hasType .equals e.1 then d.setType e.1 .text else d) d

/-- The number of merge keys in a document. -/
def mergeKeys (d : Document) : Nat :=
  d.nodes.foldl (fun count n =>
    match n.content with
    | .mapping entries => count + (entries.filter fun e => d.hasType .merge e.1).length
    | _ => count) 0

mutual

/-- The document in which a mapping has the entries that its merge keys bring instead of them. -/
def merge? : (calls : Nat) → NodeId → Document → Option Document
  | 0, _, _ => none
  | calls + 1, id, d => do
    let (brought, d) ← followKeys? calls id d
    let own := d.entries id
    return (d.settleKeys own).setEntries id (brought ++ own)

/-- The entries that the merge keys of a mapping bring, and the document without those keys. -/
def followKeys? : (calls : Nat) → NodeId → Document → Option (NodeEntries × Document)
  | 0, _, _ => none
  | calls + 1, id, d =>
    match d.takeMergeKey? (d.entries id) with
    | none => some ([], d)
    | some (value, others) => do
      let (brought, d) ← bring? calls value (d.setEntries id others)
      let (more, d) ← followKeys? calls id d
      return (brought ++ more, d)

/-- The entries that the value of a merge key brings. -/
def bring? : (calls : Nat) → NodeId → Document → Option (NodeEntries × Document)
  | 0, _, _ => none
  | calls + 1, id, d =>
    match (d.node id).content with
    | .scalar _ => none
    | .mapping _ => do
      let d ← merge? calls id d
      return (d.entries id, d)
    | .sequence items => do
      let (parts, d) ← items.foldlM (fun (parts, d) item => do
        if !d.isMapping item then failure
        let d ← merge? calls item d
        return (d.entries item :: parts, d)) (([] : List NodeEntries), d)
      return (parts.flatten, d)

end

/-- The document in which a mapping has no merge keys.  A number of calls that is enough: every key
is taken out before its value is looked up, which takes three calls. -/
def merged? (d : Document) (id : NodeId) : Option Document :=
  merge? (4 * d.mergeKeys + 4) id d

end Document
end Yaml
end BeanBuilder
