import BeanBuilder.Data.Yaml.Merge

/-!
# Reading YAML

The value of a document.  Scalars become values by their types; only the standard types are known.
The insides of collections are read one collection after another, those met first first, and every
node once, however many places it stands in.  Then the collections are put into each other, each
with an anchor, so that its places are known to be one.
-/

namespace BeanBuilder
namespace Yaml

/-- A part of a collection: a value, or a collection by the number of its node. -/
inductive Part where
  | value (v : Value)
  | collection (id : NodeId)

/-- What is inside a collection. -/
inductive Inside where
  | list (items : List Part)
  | pairs (items : List (Part × Part))
  | set (members : List Value)
  | mapping (entries : List (Value × Part))

/-- The number of the node of a collection. -/
def Part.id? : Part → Option NodeId
  | .value _ => none
  | .collection id => some id

/-- The collections inside a collection. -/
def Inside.collections : Inside → List NodeId
  | .list items => items.filterMap Part.id?
  | .pairs items => items.flatMap fun (a, b) => a.id?.toList ++ b.id?.toList
  | .set _ => []
  | .mapping entries => entries.filterMap fun e => e.2.id?

namespace Document

/-- The text of a scalar, or of the scalar that a mapping stands for: the one under its first key
for that. -/
def scalarText? (d : Document) : (calls : Nat) → NodeId → Option (List Char)
  | 0, _ => none
  | calls + 1, id =>
    match (d.node id).content with
    | .scalar text => some text
    | .sequence _ => none
    | .mapping entries =>
      (entries.find? fun e => d.hasType .equals e.1).bind fun e => d.scalarText? calls e.2

/-- A node as a part of a collection.  Moments are read from scalars alone, which is not looked out
for. -/
def part (d : Document) (id : NodeId) : Except ReadFault Part := do
  let n := d.node id
  if n.type.isCollection then return .collection id
  let text ← ReadFault.orUnreadable (d.scalarText? (d.nodes.size + 1) id)
  match n.type, n.content with
  | .time, .mapping _ => throw (.broken .wrongKind)
  | type, _ => return .value (← type.value text)

/-- A node as a key, which is no collection. -/
def key (d : Document) (id : NodeId) : Except ReadFault Value := do
  match ← d.part id with
  | .value v => return v
  | .collection _ => throw .unreadable

/-- The entries of a mapping. -/
def parts (d : Document) (id : NodeId) : Except ReadFault (List (Value × Part)) :=
  (d.entries id).mapM fun (key, value) => do return (← d.key key, ← d.part value)

/-- The only entry of a mapping. -/
def single (d : Document) (id : NodeId) : Except ReadFault (Part × Part) :=
  match d.entries id with
  | [(key, value)] => do return (← d.part key, ← d.part value)
  | _ => .error .unreadable

/-- Values without the ones that are equal to an earlier one, whole numbers in ascending order. -/
def membersOf (keys : List Value) : List Value :=
  let members := keys.foldl
    (fun (found : List Value) k => if found.any (Value.sameKey k) then found else found ++ [k]) []
  let wholes := members.filterMap fun
    | .whole n => some n
    | _ => none
  if wholes.length = members.length then (wholes.mergeSort (· ≤ ·)).map .whole else members

/-- What is inside a collection, the collections that are met in it, and the document after its
merge keys were followed. -/
def inside (d : Document) (id : NodeId) :
    Except ReadFault (Inside × List NodeId × Document) := do
  let n := d.node id
  match n.type, n.content with
  | .list, .sequence items =>
    let inside := Inside.list (← items.mapM d.part)
    return (inside, inside.collections, d)
  | .pairs, .sequence items =>
    let inside := Inside.pairs (← items.mapM d.single)
    return (inside, inside.collections, d)
  | .mapping, .mapping _ =>
    let d ← ReadFault.orUnreadable (d.merged? id)
    let inside := Inside.mapping (← d.parts id)
    return (inside, inside.collections, d)
  | .set, .mapping _ =>
    let d ← ReadFault.orUnreadable (d.merged? id)
    let entries ← d.parts id
    return (Inside.set (membersOf (entries.map Prod.fst)), (Inside.mapping entries).collections, d)
  | _, _ => throw .unreadable

/-- The insides of the collections in a queue and of all that are met in them, by their numbers. -/
def insides : (steps : Nat) → (queue : List NodeId) → (queued : Array Bool) →
    (found : Array (Option Inside)) → Document → Except ReadFault (Array (Option Inside))
  | _, [], _, found, _ => .ok found
  | 0, _ :: _, _, _, _ => .error .unreadable
  | steps + 1, id :: queue, queued, found, d => do
    let (inside, met, d) ← d.inside id
    let fresh := (met.filter fun n => !queued.getD n true).eraseDups
    let queued := fresh.foldl (fun (q : Array Bool) n => q.set! n true) queued
    insides steps (queue ++ fresh) queued (found.set! id (some inside)) d

end Document

/-! ### Putting collections into each other -/

/-- The insides of all collections, and the values of those that are finished. -/
structure Assembly where
  insides : Array (Option Inside)
  finished : Array (Option Value)

namespace Assembly

/-- The assembly in which a collection is finished. -/
def finish (a : Assembly) (id : NodeId) (v : Value) : Assembly :=
  { a with finished := a.finished.set! id (some v) }

/-- A value, and the collections around it that stand in it by their numbers. -/
abbrev Open := Value × List NodeId

/-- Reads parts one after another. -/
def all {α β : Type} (read : α → Assembly → β × Assembly) : List α → Assembly →
    List β × Assembly
  | [], a => ([], a)
  | x :: rest, a =>
    let (y, a) := read x a
    let (ys, a) := all read rest a
    (y :: ys, a)

/-- The value of a collection within the collections `around`. -/
def value (around : List NodeId) : (calls : Nat) → NodeId → Assembly → Open × Assembly
  | 0, id, a => ((.again id, [id]), a)
  | calls + 1, id, a =>
    if around.contains id then ((.again id, [id]), a)
    else match a.finished.getD id none with
      | some v => ((v, []), a)
      | none =>
        let part (p : Part) (a : Assembly) : Open × Assembly :=
          match p with
          | .value v => ((v, []), a)
          | .collection inner => value (id :: around) calls inner a
        let ((v, free), a) : Open × Assembly := match a.insides.getD id none with
          | none => ((.null, []), a)
          | some (.set members) => ((.set members, []), a)
          | some (.list items) =>
            let (items, a) := all part items a
            ((.list (items.map Prod.fst), items.flatMap Prod.snd), a)
          | some (.pairs items) =>
            let (items, a) := all (fun (p, q) a =>
              let ((v, fv), a) := part p a
              let ((w, fw), a) := part q a
              ((Value.pair v w, fv ++ fw), a)) items a
            ((.list (items.map Prod.fst), items.flatMap Prod.snd), a)
          | some (.mapping entries) =>
            let (entries, a) := all (fun (k, p) a =>
              let ((v, free), a) := part p a
              (((k, v), free), a)) entries a
            ((Value.mappingOf (entries.map Prod.fst), entries.flatMap Prod.snd), a)
        let v := Value.anchored id (free.contains id) v
        let free := (free.filter (· ≠ id)).eraseDups
        if free.isEmpty then ((v, []), a.finish id v) else ((v, free), a)

end Assembly

/-- The value of a document. -/
def Document.value (d : Document) : Except ReadFault Value := do
  match ← d.part d.root with
  | .value v => return v
  | .collection root =>
    let size := d.nodes.size
    let queued := (Array.replicate size false).set! root true
    let insides ← insides size [root] queued (Array.replicate size none) d
    let ((v, _), _) := Assembly.value [] (size + 1) root ⟨insides, Array.replicate size none⟩
    return v

/-- The value of a YAML text, which is to be one document of the standard types. -/
def read (text : String) : Except ReadFault Value := do
  let tokens ← ReadFault.orUnreadable (tokens? text.toList)
  let d ← ReadFault.orUnreadable (Document.ofTokens? tokens)
  d.value

end Yaml
end BeanBuilder
