import BeanBuilder.Proofs.Draft.Calls

/-! # Braces in drafts

Nothing but the braces of a text (`braces`) decides how deep it nests.  A text *nests* from one
depth to another when reading it with the one number of blocks open leaves the other number open
and never closes a block that is not open (`Nests`).

The texts that a caller supplies are free of braces, so the braces of a draft are those that the
draft writes itself: one for every block that a call opens (`braces_writes`), one for every block
that it closes (`nests_closers`).
-/
namespace BeanBuilder
namespace Draft

/-! ## The braces of a text -/

/-- The braces of a text, in their order. -/
def braces (text : String) : List Char :=
  text.toList.filter fun c => c = '{' || c = '}'

/-- A text without braces. -/
def BraceFree (text : String) : Prop :=
  '{' ∉ text.toList ∧ '}' ∉ text.toList

instance (text : String) : Decidable (BraceFree text) :=
  inferInstanceAs (Decidable (_ ∧ _))

theorem BraceFree.braces_eq {text : String} (h : BraceFree text) : braces text = [] := by
  rw [braces, List.filter_eq_nil_iff]
  rintro c hc hbrace
  rcases (Bool.or_eq_true_iff.mp hbrace).imp of_decide_eq_true of_decide_eq_true with rfl | rfl
  · exact h.1 hc
  · exact h.2 hc

@[simp] theorem braces_append (s t : String) : braces (s ++ t) = braces s ++ braces t := by
  simp [braces]

theorem braces_joinStrings {sep : String} (hs : BraceFree sep) {pieces : List String}
    (h : ∀ piece ∈ pieces, braces piece = []) : braces (Text.joinStrings sep pieces) = [] := by
  induction pieces with
  | nil => rfl
  | cons piece rest ih =>
    have hrest : braces (Text.joinStrings sep rest) = [] := by
      apply ih
      intro other ho
      exact h other (List.mem_cons_of_mem _ ho)
    cases rest with
    | nil => exact h piece List.mem_cons_self
    | cons next rest =>
      rw [Text.joinStrings, braces_append, braces_append, h piece List.mem_cons_self,
        hs.braces_eq, hrest]
      · rfl
      · exact List.cons_ne_nil _ _

theorem braces_opening : braces r"{" = ['{'] := by decide

theorem braces_closing : braces r"}" = ['}'] := by decide

theorem braces_modifier (v : Visibility) : braces v.modifier = [] := by
  cases v <;> decide

/-! ## Nesting -/

/-- Braces that lead from one number of open blocks to another, none of them closing a block
that is not open. -/
inductive Nests : Nat → List Char → Nat → Prop
  | nil (depth : Nat) : Nests depth [] depth
  | opening {depth last : Nat} {cs : List Char} (h : Nests (depth + 1) cs last) :
      Nests depth ('{' :: cs) last
  | closing {depth last : Nat} {cs : List Char} (h : Nests depth cs last) :
      Nests (depth + 1) ('}' :: cs) last

namespace Nests

variable {depth middle last : Nat} {cs cs' p : List Char}

theorem append (h : Nests depth cs middle) (h' : Nests middle cs' last) :
    Nests depth (cs ++ cs') last := by
  induction h with
  | nil => exact h'
  | opening _ ih => exact opening (ih h')
  | closing _ ih => exact closing (ih h')

/-- Braces nest in the same way inside further blocks. -/
theorem inside (h : Nests depth cs last) (outer : Nat) :
    Nests (outer + depth) cs (outer + last) := by
  induction h with
  | nil depth => exact nil _
  | opening _ ih => exact opening ih
  | closing _ ih => exact closing ih

theorem of_append (h : Nests depth (cs ++ cs') last) : ∃ middle, Nests depth cs middle := by
  induction cs generalizing depth with
  | nil => exact ⟨depth, nil depth⟩
  | cons c rest ih =>
    cases h with
    | opening h =>
      obtain ⟨middle, hm⟩ := ih h
      exact ⟨middle, opening hm⟩
    | closing h =>
      obtain ⟨middle, hm⟩ := ih h
      exact ⟨middle, closing hm⟩

theorem count_eq (h : Nests depth cs last) : depth + cs.count '{' = last + cs.count '}' := by
  induction h with
  | nil => rfl
  | opening _ ih =>
    rw [List.count_cons_self, List.count_cons_of_ne (by decide)]
    omega
  | closing _ ih =>
    rw [List.count_cons_self, List.count_cons_of_ne (by decide)]
    omega

section Text
variable {text : String}

/-- The number of open blocks is what the braces of the text leave open. -/
theorem depth_eq (h : Nests 0 (braces text) last) :
    (last : Int) = text.toList.count '{' - text.toList.count '}' := by
  have hcount := h.count_eq
  rw [braces, List.count_filter (by decide), List.count_filter (by decide)] at hcount
  omega

/-- No beginning of the text closes more blocks than it opens. -/
theorem count_le_of_prefix (h : Nests 0 (braces text) last) (hp : p <+: text.toList) :
    p.count '}' ≤ p.count '{' := by
  obtain ⟨rest, hr⟩ := hp.filter fun c => c = '{' || c = '}'
  rw [braces, ← hr] at h
  obtain ⟨middle, hm⟩ := h.of_append
  have hcount := hm.count_eq
  rw [List.count_filter (by decide), List.count_filter (by decide)] at hcount
  omega

end Text
end Nests

/-! ## Layouts -/

/-- A layout that writes no braces. -/
structure Layout.BraceFree (l : Layout) : Prop where
  lineSeparator : Draft.BraceFree l.lineSeparator
  indentUnit : Draft.BraceFree l.indentUnit

namespace Layout.BraceFree

variable {l : Layout}

theorem braces_lineSeparator (hl : l.BraceFree) : braces l.lineSeparator = [] :=
  hl.lineSeparator.braces_eq

theorem braces_indented (hl : l.BraceFree) (depth : Nat) (text : String) :
    braces (l.indented depth text) = braces text := by
  induction depth with
  | zero => rw [indented_zero]
  | succ depth ih => rw [indented_succ, braces_append, hl.indentUnit.braces_eq, ih, List.nil_append]

end Layout.BraceFree

/-! ## Calls on the source -/

namespace SourceCall

/-- The texts that a caller supplies. -/
def texts : SourceCall → List String
  | .definePackage name => name.toList
  | .addImport name => name.toList
  | .defineClass _ name superclass => name :: superclass.toList
  | .addField _ type name initial => type :: name :: initial.toList
  | .addLine line => [line]
  | .openBlock header => [header]
  | .closeBlock => []

attribute [local simp] texts writes opens? classHeader fieldText braces_modifier

/-- A call writes no brace but the one of the block that it opens. -/
theorem braces_writes {l : Layout} (hl : l.BraceFree) (depth : Nat) {call : SourceCall}
    (h : ∀ text ∈ call.texts, BraceFree text) :
    braces (call.writes l depth) = if call.opens?.isSome then ['{'] else [] := by
  have hfree : ∀ text ∈ call.texts, braces text = [] := by
    intro text ht
    exact (h text ht).braces_eq
  have hline := hl.braces_lineSeparator
  have hindent := hl.braces_indented depth
  -- the words that the calls write themselves
  have hwords : braces "package " = [] ∧ braces "import " = [] ∧ braces "class " = [] ∧
      braces " extends " = [] ∧ braces " = " = [] ∧ braces ";" = [] ∧ braces " " = [] ∧
      braces "" = [] := by decide
  have hopen : braces r" {" = ['{'] := by decide
  cases call with
  | definePackage name => cases name <;> simp_all [apply_ite braces]
  | addImport name => cases name <;> simp_all
  | defineClass visibility name superclass => cases superclass <;> simp_all
  | addField visibility type name initial => cases initial <;> simp_all
  | addLine line => simp_all
  | openBlock header => simp_all
  | closeBlock => rfl

end SourceCall

/-! ## Methods -/

namespace MethodCall

/-- The texts that a caller supplies. -/
def texts : MethodCall → List String
  | .setReturnType type => type.toList
  | .addParameter type name => [type, name]
  | .addLine line => [line]
  | .openHeaded header => [header]
  | .setVisibility _ | .setStatic _ | .openBare | .closeBlock | .finish => []

/-- Whether a call opens a block inside the body. -/
def opens : MethodCall → Bool
  | .openHeaded _ | .openBare => true
  | _ => false

end MethodCall

/-- The braces of some lines. -/
def lineBraces (lines : List (Nat × String)) : List Char :=
  lines.flatMap fun line => braces line.2

theorem lineBraces_cons (line : Nat × String) (rest : List (Nat × String)) :
    lineBraces (line :: rest) = braces line.2 ++ lineBraces rest :=
  List.flatMap_cons

theorem lineBraces_append (lines more : List (Nat × String)) :
    lineBraces (lines ++ more) = lineBraces lines ++ lineBraces more :=
  List.flatMap_append

theorem lineBraces_singleton (depth : Nat) (line : String) :
    lineBraces [(depth, line)] = braces line := by
  simp [lineBraces]

/-- Where a method is shown does not change its braces. -/
theorem Layout.BraceFree.braces_lineText {l : Layout} (hl : l.BraceFree) (outer : Nat)
    (lines : List (Nat × String)) :
    braces (MethodDraft.lineText l outer lines) = lineBraces lines := by
  induction lines with
  | nil => rfl
  | cons line rest ih =>
    rw [MethodDraft.lineText, braces_append, braces_append, hl.braces_indented, hl.braces_indented,
      hl.braces_lineSeparator, ih, List.append_nil, lineBraces_cons]

namespace MethodDraft

/-- The braces that close all blocks nest from their number to none. -/
theorem nests_closers (depth : Nat) : Nests depth (lineBraces (closers depth)) 0 := by
  induction depth with
  | zero => exact .nil 0
  | succ depth ih =>
    rw [closers, lineBraces_cons, braces_closing]
    exact .closing ih

end MethodDraft
end Draft
end BeanBuilder
