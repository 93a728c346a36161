import BeanBuilder.Draft.Session
import BeanBuilder.Proofs.Results

/-! # What the calls on drafts do

A call on a source draft is described by three things: the names that it checks
(`SourceCall.names`), the text that it writes (`SourceCall.writes`) and the block that it opens
(`SourceCall.opens?`).  It succeeds exactly when its names are literals, and then it leads to one
draft (`SourceDraft.after?_eq_ok_iff`).  Only the call that closes a block stands apart: it
checks nothing, and what it writes depends on whether a block is open at all
(`closeBlock_of_open`).

A method draft has its block tracker to itself.  Closing a block there adds the line of its brace
or changes nothing (`MethodDraft.closeBlock_eq_self_or`); finishing the method adds the lines of
all the braces that are missing (`lines_finish`).
-/
namespace BeanBuilder

/-! ## Checking literals -/

section Literal

variable {β : Type} {s position : String}

/-- A step that checks a literal first goes on exactly when the literal can be used. -/
theorem requireLiteral_bind_eq_ok_iff {f : Unit → Except InvalidLiteral β} {y : β} :
    (requireLiteral s position >>= f) = .ok y ↔ isLiteral s = true ∧ f () = .ok y := by
  rw [except_bind_eq_ok_iff]
  constructor
  · rintro ⟨⟨⟩, hs, hf⟩
    exact ⟨requireLiteral_eq_ok_iff.mp hs, hf⟩
  · rintro ⟨hs, hf⟩
    exact ⟨(), requireLiteral_eq_ok_iff.mpr hs, hf⟩

theorem literalPresent_bind_eq_ok_iff {slot : Option String} {f : Bool → Except InvalidLiteral β}
    {y : β} :
    (literalPresent slot position >>= f) = .ok y ↔
      (∀ name ∈ slot, isLiteral name = true) ∧ f slot.isSome = .ok y := by
  cases slot with
  | none => exact ⟨fun h => ⟨fun _ hn => (nomatch hn), h⟩, fun h => h.2⟩
  | some name =>
    by_cases h : isLiteral name = true
    · simp [literalPresent, requireLiteral_eq_ok_iff.mpr h, h, Except.map]
    · simp only [literalPresent, requireLiteral, h, Except.map]
      exact ⟨fun hf => (nomatch hf), fun hf => absurd (hf.1 name rfl) h⟩

theorem ne_empty_of_isLiteral (h : isLiteral s = true) : s ≠ "" := by
  rintro rfl
  exact absurd h (by decide)

end Literal

namespace Draft

/-! ## Indentation -/

namespace Layout

variable (l : Layout) (depth : Nat) (text : String)

@[simp] theorem indented_zero : l.indented 0 text = text := by
  simp [indented, indentation, Text.repeated]

theorem indented_succ : l.indented (depth + 1) text = l.indentUnit ++ l.indented depth text := by
  simp [indented, indentation, Text.repeated, String.append_assoc]

end Layout

/-! ## Source drafts -/

namespace SourceCall

/-- A class header up to its brace. -/
def classHeader (visibility : Visibility) (name : String) (superclass : Option String) : String :=
  visibility.modifier ++ "class " ++ name ++
    match superclass with
    | none => ""
    | some s => " extends " ++ s

/-- A field up to its semicolon. -/
def fieldText (visibility : Visibility) (type name : String) (initial : Option String) : String :=
  visibility.modifier ++ type ++ " " ++ name ++
    match initial with
    | none => ""
    | some value => " = " ++ value

/-- The names that have to be literals for a call to succeed. -/
def names : SourceCall → List String
  | .definePackage name => name.toList.filter (· ≠ "")
  | .addImport name => name.toList
  | .defineClass _ name superclass => name :: superclass.toList
  | .addField _ _ name _ => [name]
  | .addLine _ | .openBlock _ | .closeBlock => []

/-- The block that a call opens. -/
def opens? : SourceCall → Option Block
  | .defineClass visibility name superclass =>
    some ⟨.classBody, classHeader visibility name superclass⟩
  | .openBlock header => some ⟨.custom, header⟩
  | .definePackage _ | .addImport _ | .addField .. | .addLine _ | .closeBlock => none

/-- The text that a call writes at a depth, closing blocks apart. -/
def writes (l : Layout) (depth : Nat) : SourceCall → String
  | .definePackage none => ""
  | .definePackage (some name) =>
    if name = "" then "" else "package " ++ name ++ ";" ++ l.lineSeparator ++ l.lineSeparator
  | .addImport none => ""
  | .addImport (some name) => l.indented depth ("import " ++ name) ++ ";" ++ l.lineSeparator
  | .defineClass visibility name superclass =>
    l.lineSeparator ++ l.indented depth (classHeader visibility name superclass)
      ++ (r" {" ++ l.lineSeparator)
  | .addField visibility type name initial =>
    l.indented depth (fieldText visibility type name initial) ++ ";" ++ l.lineSeparator
  | .addLine line => l.indented depth line ++ l.lineSeparator
  | .openBlock header => l.indented depth header ++ (r" {" ++ l.lineSeparator)
  | .closeBlock => ""

end SourceCall

namespace SourceDraft

variable {d d' : SourceDraft}

@[simp] theorem text_append (d : SourceDraft) (t : String) : (d.append t).text = d.text ++ t := rfl
@[simp] theorem depth_append (d : SourceDraft) (t : String) : (d.append t).depth = d.depth := rfl
@[simp] theorem append_empty (d : SourceDraft) : d.append "" = d := by simp [append]

/-- The draft after a call that writes a text and may open a block. -/
def extended (d : SourceDraft) (text : String) (block? : Option Block) : SourceDraft :=
  { d.append text with blocks := block?.elim d.blocks d.blocks.push }

@[simp] theorem append_append (d : SourceDraft) (t t' : String) :
    (d.append t).append t' = d.append (t ++ t') := by
  simp [append, String.append_assoc]

@[simp] theorem extended_none (d : SourceDraft) (t : String) : d.extended t none = d.append t := rfl

@[simp] theorem text_extended (text : String) (block? : Option Block) :
    (d.extended text block?).text = d.text ++ text := rfl

section Described

attribute [local simp] SourceCall.names SourceCall.writes SourceCall.opens? extended append
  appendIndented endStatement openBrace String.append_assoc

/-- **A call succeeds exactly when its names are literals**, and then the draft has grown by what
the call writes and opens. -/
theorem after?_eq_ok_iff (call : SourceCall) (hc : call ≠ .closeBlock) :
    d.after? call = .ok d' ↔
      (∀ name ∈ call.names, isLiteral name = true) ∧
        d' = d.extended (call.writes d.layout d.depth) call.opens? := by
  cases call with
  | definePackage name =>
    cases name with
    | none =>
      simp only [after?, definePackage?, except_ok_eq_ok_iff]
      simp
    | some name =>
      by_cases hn : name = ""
      · simp only [after?, definePackage?, hn, if_true, except_pure_eq_ok_iff]
        simp
      · simp only [after?, definePackage?, hn, if_false, requireLiteral_bind_eq_ok_iff,
          except_pure_eq_ok_iff]
        simp [hn]
  | addImport name =>
    cases name with
    | none =>
      simp only [after?, addImport?, except_ok_eq_ok_iff]
      simp
    | some name =>
      simp only [after?, addImport?, requireLiteral_bind_eq_ok_iff, except_pure_eq_ok_iff]
      simp
  | defineClass visibility name superclass =>
    have hheader : (if superclass.isSome = true then
        visibility.modifier ++ "class " ++ name ++ " extends " ++ superclass.getD ""
        else visibility.modifier ++ "class " ++ name) =
          SourceCall.classHeader visibility name superclass := by
      cases superclass <;> simp [SourceCall.classHeader]
    simp only [after?, defineClass?, requireLiteral_bind_eq_ok_iff,
      literalPresent_bind_eq_ok_iff, except_pure_eq_ok_iff, hheader]
    simp [depth, and_assoc]
  | addField visibility type name initial =>
    simp only [after?, addField?, requireLiteral_bind_eq_ok_iff, except_pure_eq_ok_iff]
    cases initial <;> simp [SourceCall.fieldText]
  | addLine line =>
    simp only [after?, addLine, except_ok_eq_ok_iff]
    simp
  | openBlock header =>
    simp only [after?, openBlock, except_ok_eq_ok_iff]
    simp
  | closeBlock => exact absurd rfl hc

end Described

/-- Where no block is open there is nothing to close. -/
theorem closeBlock_of_depth_eq_zero (h : d.depth = 0) : d.closeBlock = d := by
  have hb : d.blocks.blocks = [] := List.eq_nil_of_length_eq_zero h
  simp [closeBlock, BlockStack.pop, hb]

/-- Closing the innermost block writes its brace at the depth that is left. -/
theorem closeBlock_of_open {b : Block} {rest : List Block} (hb : d.blocks.blocks = b :: rest)
    (hg : d.blocks.guarded = 0) :
    d.closeBlock = { d.append (d.layout.indented rest.length r"}" ++
        if rest = [] then "" else d.layout.lineSeparator) with
      blocks := { d.blocks with blocks := rest } } := by
  cases rest <;>
    simp [closeBlock, BlockStack.pop, BlockStack.depth, hb, hg, appendIndented, append, depth,
      String.append_assoc]

end SourceDraft

/-! ## Method drafts -/

namespace MethodDraft

variable {m m' : MethodDraft}

theorem new?_eq_ok_iff {name : String} :
    new? name = .ok m ↔
      isLiteral name = true ∧
        m = { name, blocks := ({} : BlockStack).push ⟨.methodBody, name⟩ true } := by
  rw [new?, requireLiteral_bind_eq_ok_iff, except_pure_eq_ok_iff]

theorem addParameter?_eq_ok_iff {type name : String} :
    m.addParameter? type name = .ok m' ↔
      isLiteral name = true ∧ m' = { m with parameters := m.parameters ++ [(type, name)] } := by
  rw [addParameter?, requireLiteral_bind_eq_ok_iff, except_pure_eq_ok_iff]

/-- Closing a block adds the line of its brace, if there is a block that can be closed. -/
theorem closeBlock_eq_self_or (m : MethodDraft) :
    m.closeBlock = m ∨ ∃ b rest, m.blocks.blocks = b :: rest ∧
      m.closeBlock = { m with
        blocks := { m.blocks with blocks := rest }
        lines := m.lines ++ [(rest.length, r"}")] } := by
  unfold closeBlock BlockStack.pop
  cases hb : m.blocks.blocks with
  | nil => exact Or.inl rfl
  | cons b rest =>
    by_cases hg : m.blocks.depth ≤ m.blocks.guarded
    · exact Or.inl (by simp only [if_pos hg])
    · refine Or.inr ⟨b, rest, rfl, ?_⟩
      simp only [if_neg hg]
      rfl

@[simp] theorem signature_finish (m : MethodDraft) : m.finish.signature = m.signature := by
  unfold finish
  split <;> rfl

theorem lines_finish (h : m.finished = false) :
    m.finish.lines = m.lines ++ closers m.depth := by
  simp [finish, h, BlockStack.unwind, depth, BlockStack.depth]

theorem finish_of_finished (h : m.finished = true) : m.finish = m :=
  if_pos h

theorem depth_finish (h : m.finished = false) : m.finish.depth = 0 := by
  simp [finish, h, BlockStack.unwind, depth]

theorem finished_finish (m : MethodDraft) : m.finish.finished = true := by
  unfold finish
  split
  · assumption
  · rfl

theorem lineText_append (l : Layout) (outer : Nat) (above below : List (Nat × String)) :
    lineText l outer (above ++ below) = lineText l outer above ++ lineText l outer below := by
  induction above with
  | nil => simp [lineText]
  | cons line rest ih => simp [lineText, ih, String.append_assoc]

end MethodDraft
end Draft
end BeanBuilder
