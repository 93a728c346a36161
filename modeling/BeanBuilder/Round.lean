import BeanBuilder.Builder
import BeanBuilder.Destination
import BeanBuilder.Diagnostic
import BeanBuilder.Pairing

/-!
# Rounds

A round makes the builders of some beans, one after another.  Each bean has one outcome: it is
passed over because of objections, its builder cannot be written down because of a name, its
builder cannot be stored, or its builder is stored.  No outcome stops the round.

The result of a round collects the names of the builders that were stored and the diagnostics of
the other outcomes.
-/

namespace BeanBuilder

/-- What a round produced. -/
structure Round where
  generated : List String := []
  diagnostics : List Diagnostic := []
  deriving DecidableEq, Repr

namespace Round

/-- Whether nothing was reported. -/
def ok (r : Round) : Bool :=
  r.diagnostics.isEmpty

/-- The first occurrences in a list that are not among some that were seen before. -/
def firstsAfter (seen : List String) : List String → List String
  | [] => []
  | s :: rest =>
    if s ∈ seen then firstsAfter seen rest else s :: firstsAfter (s :: seen) rest

/-- The subjects of the diagnostics, each once. -/
def failedTypes (r : Round) : List String :=
  firstsAfter [] (r.diagnostics.filterMap Diagnostic.namedSubject?)

/-- Two rounds, one after the other. -/
def merge (r other : Round) : Round where
  generated := r.generated ++ other.generated
  diagnostics := r.diagnostics ++ other.diagnostics

end Round

/-- What is asked of beans and how their builders look. -/
structure RoundRules where
  strict : Bool := false
  requireConstructor : Bool := true
  style : BuilderStyle := {}
  containers : Containers := {}
  deriving DecidableEq, Repr

/-- What became of one bean. -/
inductive Outcome where
  | passedOver (objections : List Diagnostic)
  | unnamed (e : InvalidLiteral)
  | unstored (source : BuilderSource) (e : WriteFailure)
  | stored (source : BuilderSource)
  deriving DecidableEq, Repr

namespace Outcome

/-- The diagnostics of an outcome for a bean. -/
def diagnostics (b : Bean) : Outcome → List Diagnostic
  | .passedOver objections => objections
  | .unnamed e => [⟨.invalidLiteral, e.text, some b.qualifiedName⟩]
  | .unstored _ e => [⟨.sinkWriteFailure, e.text, some b.qualifiedName⟩]
  | .stored _ => []

/-- The name of the builder, if it was stored. -/
def generated : Outcome → List String
  | .stored source => [source.qualifiedName]
  | _ => []

/-- The outcome for a bean as the result of a round of one. -/
def round (b : Bean) (o : Outcome) : Round where
  generated := o.generated
  diagnostics := o.diagnostics b

end Outcome

namespace RoundRules

variable {σ : Type}

/-- Makes and stores the builder of one bean. -/
def processOne (r : RoundRules) (d : Destination σ) (b : Bean) (state : σ) : Outcome × σ :=
  let objections := b.objections r.strict r.requireConstructor
  if objections.isEmpty then
    match r.style.generate? r.containers b with
    | .error e => (.unnamed e, state)
    | .ok source =>
      match d.write source.qualifiedName source.text state with
      | (.error e, state) => (.unstored source e, state)
      | (.ok (), state) => (.stored source, state)
  else (.passedOver objections, state)

/-- Makes and stores the builders of some beans; the answer has one outcome for each. -/
def process (r : RoundRules) (d : Destination σ) : List Bean → σ → List Outcome × σ
  | [], state => ([], state)
  | b :: rest, state =>
    let (outcome, state) := r.processOne d b state
    let (outcomes, state) := r.process d rest state
    (outcome :: outcomes, state)

/-- The result of a round from the outcomes for its beans. -/
def roundOf : List Bean → List Outcome → Round
  | b :: beans, o :: outcomes => (o.round b).merge (roundOf beans outcomes)
  | _, _ => {}

end RoundRules
end BeanBuilder
