import BeanBuilder.Data.Shown
import BeanBuilder.Files.Store
import BeanBuilder.Settings
import BeanBuilder.Trace

/-!
# Making builders by settings

A run makes builders one after another, as a round does.  But its settings need not be texts, and
its paths can hold characters that no name of a file can hold.  What is wrong shows when a builder
comes to use it: the suffix before the members are sorted, the indentation at the header of the
class, the name of the factory method when all other names were found good, the ending of files when
the text is finished, and a null character when the file is written.  The run breaks down there,
with the builders that were stored before in place, and what was logged by then.

A bean that is passed over needs none of that, and neither does one with a name that cannot be used
further in front.
-/

namespace BeanBuilder

open Files Log

namespace Value

/-- The parts that a value consists of when it is gone through: the numbers of its bytes, its
items, its members or its keys. -/
def parts? : Value → Option (List Value)
  | .bytes data => some (data.map fun byte => .whole byte.toNat)
  | .list items => some items
  | .pair first second => some [first, second]
  | .set members => some members
  | .mapping entries => some (entries.map Prod.fst)
  | .anchored _ _ v => v.parts?
  | _ => none

/-- Whether a byte is a blank. -/
def isBlankByte (byte : UInt8) : Bool :=
  byte = 0x20 || (0x09 ≤ byte && byte ≤ 0x0d)

/-- Whether a part of a value consists of blanks; only texts and bytes can be asked. -/
def isBlank : Value → Except Breakdown Bool
  | .text s => .ok (!s.toList.isEmpty && s.toList.all Text.isBlank)
  | .bytes data => .ok (!data.isEmpty && data.all isBlankByte)
  | _ => .error .missingOperation

/-- Whether one of some parts consists of blanks, asked of each up to the first that does. -/
def anyBlank : List Value → Except Breakdown Bool
  | [] => .ok false
  | v :: rest => do
    if ← v.isBlank then return true
    anyBlank rest

/-- What becomes of a value that is no text as the name of a method: it is refused like a text with
a blank if one of its parts is one, and breaks down otherwise.  Settings with a name that counts as
false do not load. -/
def asName (v : Value) : Except Breakdown Problem := do
  match v.parts? with
  | none => throw .wrongKind
  | some parts =>
    if ← anyBlank parts then
      return InvalidLiteral.problemOf (v.within []) "method"
    throw .wrongKind

end Value

namespace CommandLine

/-- The work of a run on some beans: what came of it, what was logged, the files that were written,
all files, and the error that broke it off if there was one. -/
structure Work where
  round : Round := {}
  records : List Record := []
  written : List Path := []
  tree : Tree
  error : Option Breakdown := none

/-- The work on some beans and then on others. -/
def Work.followedBy (w next : Work) : Work where
  round := w.round.merge next.round
  records := w.records ++ next.records
  written := w.written ++ next.written
  tree := next.tree
  error := next.error

/-- What a run makes builders by. -/
structure Workshop where
  generation : GenerationSettings := {}
  strict : Bool := false
  requireConstructor : Bool := true
  directory : String
  extension : Value
  /-- The steps that the file system refuses of writing each builder. -/
  trouble : String → Trouble := fun _ => noTrouble

namespace Workshop

/-- The rules of a round with the same demands. -/
def rules (k : Workshop) (style : BuilderStyle) : RoundRules where
  strict := k.strict
  requireConstructor := k.requireConstructor
  style

/-- The store with an ending of files. -/
def store (k : Workshop) (extension : String) : Store where
  directory := k.directory
  extension

/-- The work on a bean that breaks off, after some records. -/
def brokenWork (t : Tree) (records : List Record) (e : Breakdown) : Work where
  records
  tree := t
  error := some e

/-- The work on a bean whose builder has a name that cannot be used, after some records. -/
def unnamedWork (b : Bean) (t : Tree) (records : List Record) (p : Problem) : Work :=
  let d : Diagnostic := ⟨.invalidLiteral, p.text, some b.qualifiedName⟩
  { round.diagnostics := [d], records := records ++ [d.record], tree := t }

/-- The work on a bean while the text of its builder depends on settings that are no texts. -/
def spoiledWork (k : Workshop) (b : Bean) (t : Tree) : Work :=
  let begun := b.begunRecords k.strict
  match k.generation.builderSuffix.text? with
  | none => brokenWork t begun .wrongKind
  | some builderSuffix =>
    -- names are looked at in the same way whatever the other texts are
    let style : BuilderStyle := { builderSuffix }
    let sorted := begun ++ BuilderStyle.sortingRecords {} b
    match style.header? b, k.generation.indent.text? with
    | .error e, _ => unnamedWork b t sorted e.problem
    | .ok _, none => brokenWork t sorted .wrongKind
    | .ok _, some _ =>
      match style.generate? {} b with
      | .error e => unnamedWork b t (begun ++ style.records {} b) e.problem
      | .ok _ =>
        let written := begun ++ BuilderStyle.writingRecords {} b
        match k.generation.factoryName.asName with
        | .error e => brokenWork t written e
        | .ok p => unnamedWork b t written p

/-- The work on a bean that comes to an outcome. -/
def settledWork (k : Workshop) (style : BuilderStyle) (store : Store) (b : Bean) (o : Outcome)
    (t : Tree) : Work where
  round := o.round b
  records := (k.rules style).outcomeRecords (store.destination k.trouble) b o
  written := o.generated.map store.pathFor
  tree := t

/-- Stores the builder of a bean. -/
def keep (k : Workshop) (style : BuilderStyle) (b : Bean) (source : BuilderSource) (t : Tree) :
    Work :=
  let made := b.begunRecords k.strict ++ style.records {} b
  match k.extension.text? with
  | none => brokenWork t made .wrongKind
  | some extension =>
    let store := k.store extension
    match store.brokenOff? (k.trouble source.qualifiedName) source.qualifiedName t with
    | some t => brokenWork t made .wrongValue
    | none =>
      match (store.destination k.trouble).write source.qualifiedName source.text t with
      | (.error e, t) => k.settledWork style store b (.unstored source e) t
      | (.ok (), t) => k.settledWork style store b (.stored source) t

/-- Makes and stores the builder of one bean. -/
def workOn (k : Workshop) (b : Bean) (t : Tree) : Work :=
  let objections := b.objections k.strict k.requireConstructor
  if objections.isEmpty then
    match k.generation.style? with
    | none => k.spoiledWork b t
    | some style =>
      match style.generate? {} b with
      | .error e => unnamedWork b t (b.begunRecords k.strict ++ style.records {} b) e.problem
      | .ok source => k.keep style b source t
  else
    { round.diagnostics := objections, records := b.skippedRecords k.strict objections, tree := t }

/-- Makes and stores the builders of some beans, up to the first with which the run breaks down. -/
def workOnAll (k : Workshop) : List Bean → Tree → Work
  | [], t => { tree := t }
  | b :: rest, t =>
    let first := k.workOn b t
    if first.error.isSome then first else first.followedBy (k.workOnAll rest first.tree)

end Workshop
end CommandLine
end BeanBuilder
