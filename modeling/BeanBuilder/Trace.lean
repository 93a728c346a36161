import BeanBuilder.Round

/-!
# What a round logs

The records of a round follow from its beans and their outcomes: first how the pairing was
counted, then why a bean was passed over, or how its members were sorted, written and stored.
-/

namespace BeanBuilder

open Log

/-- The word for a truth value in messages. -/
def truthWord (b : Bool) : String :=
  if b then "True" else "False"

/-- How the getters and setters of a bean were counted. -/
def Bean.pairingRecord (b : Bean) (strict : Bool) : Record where
  level := .debug
  logger := "buildergen.synthesis.validator"
  message :=
    "POJO check for " ++ b.qualifiedName ++ ": getters=" ++ toString b.getters.length
      ++ ", setters=" ++ toString b.setters.length ++ ", matched=" ++ toString b.pairedCount
      ++ ", strict=" ++ truthWord strict

/-- How many candidates there were of each category. -/
def Classification.record (k : Classification) : Record where
  level := .debug
  logger := "buildergen.synthesis.classifier"
  message :=
    "Classified " ++ toString k.size ++ " members: collections=" ++ toString k.collections.size
      ++ ", primitives=" ++ toString k.primitives.size ++ ", references="
      ++ toString k.references.size

namespace BuilderStyle

/-- A record of the work on one builder. -/
def workRecord (message : String) : Record :=
  ⟨.debug, "buildergen.synthesis.synthesizer", message⟩

/-- The members whose field was taken by an earlier one; `taken` holds the earlier fields. -/
def redefinitions (b : Bean) (taken : List String) : List Member → List Record
  | [] => []
  | m :: rest =>
    if m.field ∈ taken then
      workRecord ("Field '" ++ m.field ++ "' of " ++ b.qualifiedName ++ " redefined by "
        ++ m.accessor) :: redefinitions b taken rest
    else redefinitions b (m.field :: taken) rest

/-- The collections that get no method for adding an element. -/
def skippedAdders (members : List Member) : List Record :=
  (members.filter fun m => m.category = .collection && m.element.isNone).map fun m =>
    workRecord ("No element type for " ++ m.accessor ++ ", skipping adder")

/-- The class block that was opened. -/
def openedRecord : Record :=
  ⟨.debug, "buildergen.codegen.emitter", "Opened class block at depth 1"⟩

/-- The records of sorting the members of a bean. -/
def sortingRecords (c : Containers) (b : Bean) : List Record :=
  let k := c.classify b.accessors
  k.record :: redefinitions b [] (c.members k)

/-- The records of writing a builder up to its last methods. -/
def writingRecords (c : Containers) (b : Bean) : List Record :=
  sortingRecords c b ++ openedRecord :: skippedAdders (c.builderMembers b)

/-- The records of writing a builder, up to the name that could not be used if there was one. -/
def records (s : BuilderStyle) (c : Containers) (b : Bean) : List Record :=
  match s.generate? c b with
  | .ok source =>
    writingRecords c b ++
      [workRecord ("Synthesized " ++ source.qualifiedName ++ ": "
        ++ toString (c.builderMembers b).length ++ " members")]
  | .error e =>
    if e.position = "field" then sortingRecords c b ++ [openedRecord]
    else if e.position = "method" then writingRecords c b
    else sortingRecords c b

end BuilderStyle

/-- A record of the round itself. -/
def roundRecord (level : Level) (message : String) : Record :=
  ⟨level, "buildergen.processor", message⟩

/-- The record of a diagnostic. -/
def Diagnostic.record (d : Diagnostic) : Record :=
  roundRecord .error d.text

/-- The start of the work on a type. -/
def startRecord (type : String) (accessors : Int) : Record :=
  roundRecord .info ("Synthesizing builder for " ++ type ++ " (" ++ toString accessors
    ++ " accessors)")

/-- A type that was passed over. -/
def skipRecord (type reason : String) : Record :=
  roundRecord .warning ("Skipping " ++ type ++ ": " ++ reason)

/-- A builder that was stored. -/
def writtenRecord (builder : String) (characters : Int) : Record :=
  roundRecord .debug ("Wrote " ++ builder ++ " (" ++ toString characters ++ " chars)")

/-- The end of a round. -/
def summaryRecord (generated failed : Int) : Record :=
  roundRecord .info ("Round complete: generated=" ++ toString generated ++ ", failed="
    ++ toString failed)

/-- The records of a bean that is passed over. -/
def Bean.skippedRecords (b : Bean) (strict : Bool) (objections : List Diagnostic) : List Record :=
  b.pairingRecord strict :: objections.map Diagnostic.record
    ++ [skipRecord b.qualifiedName (Text.joinStrings ", " (objections.map fun d => d.kind.word))]

/-- The records of a bean up to the making of its builder. -/
def Bean.begunRecords (b : Bean) (strict : Bool) : List Record :=
  [b.pairingRecord strict, startRecord b.qualifiedName b.accessors.length]

namespace RoundRules

variable {σ : Type}

/-- The records of the work on one bean. -/
def outcomeRecords (r : RoundRules) (d : Destination σ) (b : Bean) (o : Outcome) : List Record :=
  let writing := b.begunRecords r.strict ++ r.style.records r.containers b
  match o with
  | .passedOver objections => b.skippedRecords r.strict objections
  | .unnamed _ | .unstored _ _ => writing ++ (o.diagnostics b).map Diagnostic.record
  | .stored source =>
    writing ++ d.records source.qualifiedName
      ++ [writtenRecord source.qualifiedName source.text.length]

/-- The records of a round from its beans and their outcomes. -/
def records (r : RoundRules) (d : Destination σ) (beans : List Bean) (outcomes : List Outcome) :
    List Record :=
  let result := roundOf beans outcomes
  ((beans.zip outcomes).flatMap fun (b, o) => r.outcomeRecords d b o)
    ++ [summaryRecord result.generated.length result.failedTypes.length]

end RoundRules
end BeanBuilder
