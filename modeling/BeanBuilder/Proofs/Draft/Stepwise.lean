import BeanBuilder.Proofs.Draft.Calls
import BeanBuilder.Proofs.OrderedMap

/-! # Calls statement by statement

A call on a draft checks the names that it is given and then writes one piece of text after
another.  Here the calls are carried out in this way: every statement changes the draft on its own
(`SourceDraft.perform`, `MethodDraft.perform`), and a statement that is refused leaves the draft as
the statements before it have made it.

All names of a call are checked before anything is written.  So a refused call has changed
nothing, and a call carried out statement by statement does what it does as a whole
(`SourceDraft.perform_eq`, `MethodDraft.perform_eq`, `Session.perform_eq`).
-/
namespace BeanBuilder
namespace Draft

/-! ## All or nothing -/

section AllOrNothing

variable {ε σ α : Type}

/-- A change that is made as a whole, or refused and not made at all. -/
def allOrNothing (change : Except ε (α × σ)) (s : σ) : EStateM.Result ε σ α :=
  match change with
  | .ok (a, s') => .ok a s'
  | .error e => .error e s

/-- A statement that only checks something. -/
def checking (check : Except ε α) : EStateM ε σ α :=
  fun s => allOrNothing (check.map fun a => (a, s)) s

/-- What follows some statements starts from what they have made, unless one is refused. -/
theorem bind_apply {β : Type} (x : EStateM ε σ α) (f : α → EStateM ε σ β) (s : σ) :
    (x >>= f) s = match x s with
      | .ok a s' => f a s'
      | .error e s' => .error e s' :=
  rfl

theorem get_bind_apply (f : σ → EStateM ε σ α) (s : σ) : (get >>= f) s = f s s := rfl

theorem modify_bind_apply (g : σ → σ) (f : PUnit → EStateM ε σ α) (s : σ) :
    (modify g >>= f) s = f ⟨⟩ (g s) := rfl

end AllOrNothing

/-! ## Source drafts -/

namespace SourceDraft

/-- The statements of a call. -/
def perform : SourceCall → EStateM InvalidLiteral SourceDraft Unit
  | .definePackage name => do
    if name = some "" then return
    if ← checking (literalPresent name "package") then
      modify fun d => d.append ("package " ++ name.getD "")
      modify fun d => d.endStatement
      modify fun d => d.append d.layout.lineSeparator
  | .addImport name => do
    if ← checking (literalPresent name "import") then
      modify fun d => d.appendIndented ("import " ++ name.getD "")
      modify fun d => d.endStatement
  | .defineClass visibility name superclass => do
    checking (requireLiteral name "class")
    let header := visibility.modifier ++ "class " ++ name
    let extended ← checking (literalPresent superclass "superclass")
    let header := if extended then header ++ " extends " ++ superclass.getD "" else header
    modify fun d => d.append d.layout.lineSeparator
    modify fun d => d.appendIndented header
    modify fun d => d.openBrace .classBody header
  | .addField visibility type name initial => do
    checking (requireLiteral name "field")
    let line := visibility.modifier ++ type ++ " " ++ name
    let line := match initial with
      | none => line
      | some value => line ++ " = " ++ value
    modify fun d => d.appendIndented line
    modify fun d => d.endStatement
  | .addLine line => do
    modify fun d => d.appendIndented line
    modify fun d => d.append d.layout.lineSeparator
  | .openBlock header => do
    modify fun d => d.appendIndented header
    modify fun d => d.openBrace .custom header
  | .closeBlock => do
    match (← get).blocks.pop with
    | (none, _) => return
    | (some _, blocks) =>
      modify fun d => { d with blocks }
      modify fun d => d.appendIndented r"}"
      if (← get).depth = 0 then return
      modify fun d => d.append d.layout.lineSeparator

/-- **A call on a source draft is carried out as a whole or not at all.** -/
theorem perform_eq (call : SourceCall) (d : SourceDraft) :
    perform call d = allOrNothing ((d.after? call).map fun d' => ((), d')) d := by
  cases call with
  | definePackage name =>
    cases name with
    | none => rfl
    | some name =>
      by_cases hn : name = ""
      · subst hn
        rfl
      · have hsome : ¬ some name = some "" := fun h => hn (Option.some.inj h)
        simp only [perform, after?, definePackage?, if_neg hn, if_neg hsome, literalPresent]
        cases requireLiteral name "package" <;> rfl
  | addImport name =>
    cases name with
    | none => rfl
    | some name =>
      simp only [perform, after?, addImport?, literalPresent]
      cases requireLiteral name "import" <;> rfl
  | defineClass visibility name superclass =>
    simp only [perform, after?, defineClass?]
    cases requireLiteral name "class" with
    | error e => rfl
    | ok _ => cases literalPresent superclass "superclass" <;> rfl
  | addField visibility type name initial =>
    simp only [perform, after?, addField?]
    cases requireLiteral name "field" <;> rfl
  | addLine line => rfl
  | openBlock header => rfl
  | closeBlock =>
    have hcall : d.after? .closeBlock = .ok d.closeBlock := rfl
    rw [hcall, closeBlock, perform, get_bind_apply]
    rcases d.blocks.pop with ⟨- | b, blocks⟩
    · rfl
    · simp only [modify_bind_apply, get_bind_apply]
      split <;> rfl

/-- A class whose superclass cannot be named is not written, though its own name can be used. -/
example (d : SourceDraft) : perform (.defineClass .everyone "Task" (some "no name")) d =
    .error ⟨some "no name", "superclass"⟩ d := rfl

end SourceDraft

/-! ## Method drafts -/

namespace MethodDraft

/-- The statements of a call. -/
def perform : MethodCall → EStateM InvalidLiteral MethodDraft Unit
  | .setVisibility visibility => modify fun m => { m with visibility }
  | .setStatic isStatic => modify fun m => { m with isStatic }
  | .setReturnType type => modify fun m => { m with returnType := type }
  | .addParameter type name => do
    checking (requireLiteral name "parameter")
    modify fun m => { m with parameters := m.parameters ++ [(type, name)] }
  | .addLine line => modify fun m => m.addLine line
  | .openHeaded header => do
    modify fun m => m.addLine (header ++ r" {")
    modify fun m => { m with blocks := m.blocks.push ⟨.nested, header⟩ }
  | .openBare => do
    modify fun m => m.addLine r"{"
    modify fun m => { m with blocks := m.blocks.push ⟨.nested, ""⟩ }
  | .closeBlock => do
    match (← get).blocks.pop with
    | (none, _) => return
    | (some _, blocks) =>
      modify fun m => { m with blocks }
      modify fun m => m.addLine r"}"
  | .finish => do
    if (← get).finished then return
    let (closed, blocks) := (← get).blocks.unwind
    modify fun m => { m with blocks }
    modify fun m => { m with lines := m.lines ++ closers closed.length }
    modify fun m => { m with finished := true }

/-- The statements that show a method. -/
def performRender (l : Layout) (outer : Nat) : EStateM InvalidLiteral MethodDraft String := do
  perform .finish
  return (← get).text l outer

/-- **A call on a method is carried out as a whole or not at all.** -/
theorem perform_eq (call : MethodCall) (m : MethodDraft) :
    perform call m = allOrNothing ((m.after? call).map fun m' => ((), m')) m := by
  cases call with
  | addParameter type name =>
    simp only [perform, after?, addParameter?]
    cases requireLiteral name "parameter" <;> rfl
  | closeBlock =>
    have hcall : m.after? .closeBlock = .ok m.closeBlock := rfl
    rw [hcall, closeBlock, perform, get_bind_apply]
    rcases m.blocks.pop with ⟨- | b, blocks⟩ <;> rfl
  | finish =>
    have hcall : m.after? .finish = .ok m.finish := rfl
    rw [hcall, finish, perform, get_bind_apply]
    split <;> rfl
  | _ => rfl

theorem performRender_eq (l : Layout) (outer : Nat) (m : MethodDraft) :
    performRender l outer m = .ok (m.finish.text l outer) m.finish := by
  have hfinish : perform .finish m = .ok () m.finish := perform_eq .finish m
  rw [performRender, bind_apply, hfinish]
  rfl

end MethodDraft

/-! ## Sessions -/

namespace Session

variable {α : Type}

/-- Statements on the source file.  What they have made of it stays, also where one is refused. -/
def onSource (statements : EStateM InvalidLiteral SourceDraft α) : EStateM Refusal Session α :=
  fun s =>
    match statements s.source with
    | .ok a source => .ok a { s with source }
    | .error e source => .error (.literal e) { s with source }

/-- Statements on a method of the session.  What they have made of it stays, also where one is
refused. -/
def onMethod (key : String) (statements : EStateM InvalidLiteral MethodDraft α) :
    EStateM Refusal Session α :=
  fun s =>
    match s.methods.get? key with
    | none => .error (.unknownMethod key) s
    | some m =>
      match statements m with
      | .ok a m => .ok a (s.putMethod key m)
      | .error e m => .error (.literal e) (s.putMethod key m)

/-- The statements of a call, and its answer. -/
def perform : Call → EStateM Refusal Session Reply
  | .source call => do
    let before := (← get).source
    onSource (SourceDraft.perform call)
    return reportAdded before (← get).source
  | .addMethod key => do
    let before := (← get).source
    let text ← onMethod key (MethodDraft.performRender before.layout before.depth)
    onSource (modify fun d => d.append text)
    return reportAdded before (← get).source
  | .renderSource => do
    onSource (modify SourceDraft.closeAll)
    let source := (← get).source
    return .shown source.text source.depth
  | .newMethod key name => do
    let m ← checking ((MethodDraft.new? name).mapError .literal)
    modify fun s => s.putMethod key m
    return .changed m.depth
  | .method key call => onMethod key do
    MethodDraft.perform call
    return .changed (← get).depth
  | .methodSignature key => onMethod key do
    let m ← get
    return .shown m.signature m.depth
  | .renderMethod key outer layout => onMethod key do
    let text ← MethodDraft.performRender layout outer
    return .shown text (← get).depth

/-- Putting a method back as it is changes nothing. -/
theorem putMethod_eq_self {s : Session} {key : String} {m : MethodDraft}
    (h : s.methods.get? key = some m) : s.putMethod key m = s := by
  rw [putMethod, OrderedMap.insert_eq_self h]

/-- **A call of a session is carried out as a whole or not at all.** -/
theorem perform_eq (call : Call) (s : Session) :
    perform call s = allOrNothing (s.step? call) s := by
  cases call with
  | source call =>
    rw [perform, get_bind_apply, bind_apply, onSource, SourceDraft.perform_eq, step?]
    cases s.source.after? call <;> rfl
  | addMethod key =>
    rw [perform, get_bind_apply, bind_apply, onMethod, step?, method?]
    cases s.methods.get? key with
    | none => rfl
    | some m =>
      simp only [MethodDraft.performRender_eq]
      rfl
  | renderSource => rfl
  | newMethod key name =>
    simp only [perform, step?]
    cases MethodDraft.new? name <;> rfl
  | method key call =>
    rw [perform, onMethod, step?, method?]
    cases hget : s.methods.get? key with
    | none => rfl
    | some m =>
      simp only [bind_apply, MethodDraft.perform_eq, except_ok_bind]
      cases m.after? call with
      | ok m' => rfl
      -- the method is put back as it was
      | error e => exact congrArg (EStateM.Result.error _) (putMethod_eq_self hget)
  | methodSignature key =>
    rw [perform, onMethod, step?, method?]
    cases hget : s.methods.get? key with
    | none => rfl
    | some m => exact congrArg (EStateM.Result.ok _) (putMethod_eq_self hget)
  | renderMethod key outer layout =>
    rw [perform, onMethod, step?, method?]
    cases s.methods.get? key with
    | none => rfl
    | some m =>
      simp only [bind_apply, MethodDraft.performRender_eq]
      rfl

end Session
end Draft
end BeanBuilder
