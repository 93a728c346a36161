import BeanBuilder.Draft.Source
import BeanBuilder.OrderedMap

/-!
# Writing sessions

A session writes one source file and any number of methods at the same time.  The methods are
kept by name: they can be shown on their own, put into the source file, changed and put in
again.  A call that is refused leaves the session as it was.
-/

namespace BeanBuilder
namespace Draft

/-- The source file and the methods of a session. -/
structure Session where
  source : SourceDraft := {}
  methods : OrderedMap String MethodDraft := {}
  deriving DecidableEq, Repr

/-- The calls of a session; `key` names a method within the session. -/
inductive Call where
  | source (call : SourceCall)
  | addMethod (key : String)
  | renderSource
  | newMethod (key name : String)
  | method (key : String) (call : MethodCall)
  | methodSignature (key : String)
  | renderMethod (key : String) (outer : Nat) (layout : Layout)
  deriving DecidableEq, Repr

/-- Why a call is refused. -/
inductive Refusal where
  | literal (e : InvalidLiteral)
  | unknownMethod (key : String)
  deriving DecidableEq, Repr

/-- What a call answers, with the depth of the draft it was made on. -/
inductive Reply where
  /-- The text that the call added to the source file. -/
  | added (text : String) (depth : Nat)
  /-- A text that was asked for. -/
  | shown (text : String) (depth : Nat)
  /-- A change to a method. -/
  | changed (depth : Nat)
  deriving DecidableEq, Repr

namespace Session

/-- The answer to a call that led from one source draft to another. -/
def reportAdded (before after : SourceDraft) : Reply :=
  .added (after.text.drop before.text.length).toString after.depth

/-- A method of the session. -/
def method? (s : Session) (key : String) : Except Refusal MethodDraft :=
  match s.methods.get? key with
  | some m => .ok m
  | none => .error (.unknownMethod key)

/-- The session with a method under a name. -/
def putMethod (s : Session) (key : String) (m : MethodDraft) : Session :=
  { s with methods := s.methods.insert key m }

/-- One call: its answer and the session after it. -/
def step? (s : Session) : Call → Except Refusal (Reply × Session)
  | .source call => do
    let source ← (s.source.after? call).mapError .literal
    return (reportAdded s.source source, { s with source })
  | .addMethod key => do
    let m ← s.method? key
    let source := s.source.addMethod m
    return (reportAdded s.source source, { s.putMethod key m.finish with source })
  | .renderSource =>
    let (text, source) := s.source.render
    .ok (.shown text source.depth, { s with source })
  | .newMethod key name => do
    let m ← (MethodDraft.new? name).mapError .literal
    return (.changed m.depth, s.putMethod key m)
  | .method key call => do
    let m ← s.method? key
    let m ← (m.after? call).mapError .literal
    return (.changed m.depth, s.putMethod key m)
  | .methodSignature key => do
    let m ← s.method? key
    return (.shown m.signature m.depth, s)
  | .renderMethod key outer layout => do
    let m ← s.method? key
    let (text, m) := m.render layout outer
    return (.shown text m.depth, s.putMethod key m)

/-- Calls one after another: the answer to each and the session at the end. -/
def run : Session → List Call → List (Except Refusal Reply) × Session
  | s, [] => ([], s)
  | s, call :: calls =>
    match s.step? call with
    | .error e =>
      let (replies, last) := run s calls
      (.error e :: replies, last)
    | .ok (reply, s) =>
      let (replies, last) := run s calls
      (.ok reply :: replies, last)

end Session
end Draft
end BeanBuilder
