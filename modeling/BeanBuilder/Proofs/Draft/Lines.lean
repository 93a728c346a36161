import BeanBuilder.Proofs.Draft.Braces
import BeanBuilder.Proofs.Text.Pieces

/-! # Lines of source files

A source file is a list of lines (`Line`).  A line is indented by one unit for every block that is
open around it, a closing brace by those that remain open (`Line.shown`), and the lines below one
another are laid out by counting the blocks on the way (`Layout.lay`).  So a closing brace stands
right below the line that opened its block (`getElem?_lay_closing`).

Lines that hold no line break are found again in a text in which each of them is ended, and in a
text in which the last one is not (`textLines_ended_append`).
-/
namespace BeanBuilder
namespace Draft

/-- A line of a source file, without its indentation. -/
inductive Line where
  | blank
  | package (name : String)
  | plain (text : String)
  /-- A line that opens a block, with its brace. -/
  | opening (kind : BlockKind) (text : String)
  | closing
  deriving DecidableEq, Repr

namespace Line

/-- What the line says. -/
def text : Line → String
  | .blank => ""
  | .package name => "package " ++ name ++ ";"
  | .plain text => text
  | .opening _ text => text
  | .closing => r"}"

/-- The number of open blocks behind a line. -/
def depthBehind (depth : Nat) : Line → Nat
  | .opening .. => depth + 1
  | .closing => depth - 1
  | .blank | .package _ | .plain _ => depth

/-- The number of blocks by which a line is indented: those around it, or for a closing brace those
that remain open. -/
def level (depth : Nat) : Line → Nat
  | .closing => depth - 1
  | .blank | .package _ | .plain _ | .opening .. => depth

/-- A line as it is shown where some blocks are open.  A blank line is not indented. -/
def shown (l : Layout) (depth : Nat) (line : Line) : String :=
  if line = .blank then "" else l.indented (line.level depth) line.text

/-- The brace by which a line opens or closes a block. -/
def brace : Line → List Char
  | .opening .. => ['{']
  | .closing => ['}']
  | .blank | .package _ | .plain _ => []

/-- Whether a line opens a block of the source file itself, and not one of a method. -/
def isOuter : Line → Bool
  | .opening .classBody _ | .opening .custom _ => true
  | _ => false

/-- Whether a line has no blank line beside it on its own account. -/
def standsAlone : Line → Bool
  | .plain _ | .opening .custom _ | .opening .nested _ | .closing => true
  | .blank | .package _ | .opening .classBody _ | .opening .methodBody _ => false

end Line

/-! ## Open blocks -/

/-- The number of open blocks behind some lines. -/
def depthBehind (depth : Nat) (lines : List Line) : Nat :=
  lines.foldl Line.depthBehind depth

/-- Lines that lead from one number of open blocks to another, none of them closing a block that is
not open. -/
def Leads (depth : Nat) (lines : List Line) (last : Nat) : Prop :=
  Nests depth (lines.flatMap Line.brace) last

/-- The braces that close a number of blocks. -/
def closings (n : Nat) : List Line :=
  List.replicate n .closing

namespace Leads

variable {depth middle last : Nat} {line : Line} {lines more : List Line}

theorem nil (depth : Nat) : Leads depth [] depth :=
  Nests.nil depth

theorem append (h : Leads depth lines middle) (h' : Leads middle more last) :
    Leads depth (lines ++ more) last := by
  rw [Leads, List.flatMap_append]
  exact Nests.append h h'

/-- Lines lead on in the same way inside further blocks. -/
theorem inside (h : Leads depth lines last) (outer : Nat) :
    Leads (outer + depth) lines (outer + last) :=
  Nests.inside h outer

theorem still (h : line.brace = []) : Leads depth [line] depth := by
  rw [Leads, List.flatMap_singleton, h]
  exact .nil depth

theorem opening (kind : BlockKind) (text : String) :
    Leads depth [.opening kind text] (depth + 1) :=
  Nests.opening (.nil _)

theorem closing : Leads (depth + 1) [.closing] depth :=
  Nests.closing (.nil _)

theorem closings (n : Nat) : Leads n (closings n) 0 := by
  induction n with
  | zero => exact .nil 0
  | succ n ih => exact .append .closing ih

/-- Lines lead on from where the first of them leads. -/
theorem of_cons (h : Leads depth (line :: lines) last) :
    Leads depth [line] (line.depthBehind depth) ∧ Leads (line.depthBehind depth) lines last := by
  rw [Leads, List.flatMap_cons] at h
  cases line with
  | opening kind text =>
    cases h with
    | opening h => exact ⟨.opening kind text, h⟩
  | closing =>
    cases h with
    | closing h => exact ⟨.closing, h⟩
  | blank => exact ⟨.still rfl, h⟩
  | package name => exact ⟨.still rfl, h⟩
  | plain text => exact ⟨.still rfl, h⟩

/-- What is counted along the lines is where they lead. -/
theorem depthBehind_eq (h : Leads depth lines last) : depthBehind depth lines = last := by
  induction lines generalizing depth with
  | nil =>
    cases h
    rfl
  | cons line rest ih => exact ih h.of_cons.2

theorem of_append (h : Leads depth (lines ++ more) last) :
    Leads depth lines (depthBehind depth lines) ∧ Leads (depthBehind depth lines) more last := by
  induction lines generalizing depth with
  | nil => exact ⟨.nil depth, h⟩
  | cons line rest ih =>
    obtain ⟨hline, hrest⟩ := h.of_cons
    exact ⟨hline.append (ih hrest).1, (ih hrest).2⟩

/-- Where a block is open, some line opened it, and the lines since have closed all that they
opened. -/
theorem exists_opening (h : Leads 0 lines (last + 1)) :
    ∃ before kind text inside, lines = before ++ .opening kind text :: inside ∧
      Leads 0 before last ∧ Leads 0 inside 0 := by
  induction hn : lines.length using Nat.strongRecOn generalizing lines last with
  | ind n ih =>
    rcases List.eq_nil_or_concat' lines with rfl | ⟨above, line, rfl⟩
    · exact absurd h.depthBehind_eq (Nat.succ_ne_zero last).symm
    · rw [List.length_append, List.length_singleton] at hn
      have habove := h.of_append.1
      have hline := h.of_append.2
      generalize depthBehind 0 above = middle at habove hline
      -- a line that opens or closes nothing leads on from the lines above it
      have hstill : line.brace = [] → ∃ before kind text inside,
          above ++ [line] = before ++ .opening kind text :: inside ∧
            Leads 0 before last ∧ Leads 0 inside 0 := by
        intro hbrace
        have hsame : Leads middle [line] middle := still hbrace
        obtain rfl := hsame.depthBehind_eq.symm.trans hline.depthBehind_eq
        obtain ⟨before, kind, text, inside, rfl, hbefore, hinside⟩ := ih _ (by omega) habove rfl
        exact ⟨before, kind, text, inside ++ [line], by simp, hbefore,
          hinside.append (still hbrace)⟩
      cases line with
      | blank => exact hstill rfl
      | package name => exact hstill rfl
      | plain text => exact hstill rfl
      | opening kind text =>
        have hsame := hline.depthBehind_eq
        obtain rfl : middle = last := Nat.succ.inj hsame
        exact ⟨above, kind, text, [], rfl, habove, .nil 0⟩
      | closing =>
        cases hline with
        | @closing middle _ _ hrest =>
          cases (hrest : Nests middle [] (last + 1))
          -- the block that is closed stands inside the one that is looked for
          obtain ⟨before, kind, text, inside, rfl, hbefore, hinside⟩ := ih _ (by omega) habove rfl
          obtain ⟨outer, outerKind, outerText, between, rfl, houter, hbetween⟩ :=
            ih _ (by simp at hn ⊢; omega) hbefore rfl
          refine ⟨outer, outerKind, outerText,
            between ++ .opening kind text :: (inside ++ [.closing]), by simp, houter, ?_⟩
          exact hbetween.append (.append (.opening kind text) ((hinside.inside 1).append .closing))

end Leads

/-! ## Lines below one another -/

namespace Layout

variable (l : Layout) {lines : List Line}

/-- Lines as they are shown below one another. -/
def lay (l : Layout) : (depth : Nat) → List Line → List String
  | _, [] => []
  | depth, line :: rest => line.shown l depth :: l.lay (line.depthBehind depth) rest

theorem lay_append (depth : Nat) (lines more : List Line) :
    l.lay depth (lines ++ more) = l.lay depth lines ++ l.lay (depthBehind depth lines) more := by
  induction lines generalizing depth with
  | nil => rfl
  | cons line rest ih =>
    rw [List.cons_append, lay, lay, ih, List.cons_append]
    rfl

theorem length_lay (depth : Nat) (lines : List Line) :
    (l.lay depth lines).length = lines.length := by
  induction lines generalizing depth with
  | nil => rfl
  | cons line rest ih => rw [lay, List.length_cons, ih, List.length_cons]

/-- **Every line is indented by the blocks that are open around it.** -/
theorem getElem?_lay (depth : Nat) (before : List Line) (line : Line) (behind : List Line) :
    (l.lay depth (before ++ line :: behind))[before.length]? =
      some (line.shown l (depthBehind depth before)) := by
  rw [lay_append, List.getElem?_append_right (Nat.le_of_eq (l.length_lay depth before)), length_lay,
    Nat.sub_self]
  rfl

/-- **A closing brace is indented as the line that opened its block.** -/
theorem getElem?_lay_closing (depth : Nat) (before : List Line) (kind : BlockKind) (text : String)
    {inside : List Line} (hinside : Leads 0 inside 0) (behind : List Line) :
    (l.lay depth (before ++ .opening kind text :: (inside ++ .closing :: behind)))[
        before.length]? = some (l.indented (depthBehind depth before) text) ∧
    (l.lay depth (before ++ .opening kind text :: (inside ++ .closing :: behind)))[
        before.length + 1 + inside.length]? =
      some (l.indented (depthBehind depth before) r"}") := by
  refine ⟨l.getElem?_lay depth before _ _, ?_⟩
  have hsplit : before ++ .opening kind text :: (inside ++ .closing :: behind) =
      (before ++ .opening kind text :: inside) ++ .closing :: behind := by
    simp
  have hlength : before.length + 1 + inside.length =
      (before ++ .opening kind text :: inside).length := by
    rw [List.length_append, List.length_cons]
    omega
  have hdepth : depthBehind depth (before ++ .opening kind text :: inside) =
      depthBehind depth before + 1 := by
    have hup := (hinside.inside (depthBehind depth before + 1)).depthBehind_eq
    rw [depthBehind, List.foldl_append, List.foldl_cons]
    exact hup
  rw [hsplit, hlength, getElem?_lay, hdepth]
  rfl

/-- Lines with the line separator behind each of them. -/
def ended (l : Layout) : List String → String
  | [] => ""
  | line :: rest => line ++ l.lineSeparator ++ l.ended rest

theorem ended_append (xs ys : List String) : l.ended (xs ++ ys) = l.ended xs ++ l.ended ys := by
  induction xs with
  | nil => simp [ended]
  | cons x rest ih => simp [ended, ih, String.append_assoc]

theorem ended_singleton (x : String) : l.ended [x] = x ++ l.lineSeparator := by
  simp [ended]

end Layout

/-! ## Lines of a text -/

/-- A text without line breaks. -/
def OneLine (text : String) : Prop :=
  '\n' ∉ text.toList ∧ '\r' ∉ text.toList

instance (text : String) : Decidable (OneLine text) :=
  inferInstanceAs (Decidable (_ ∧ _))

theorem oneLine_append {s t : String} : OneLine (s ++ t) ↔ OneLine s ∧ OneLine t := by
  simp only [OneLine, String.toList_append, List.mem_append, not_or]
  exact and_and_and_comm

theorem oneLine_joinStrings {sep : String} (hsep : OneLine sep) {pieces : List String}
    (h : ∀ piece ∈ pieces, OneLine piece) : OneLine (Text.joinStrings sep pieces) := by
  induction pieces with
  | nil => exact (by decide : OneLine "")
  | cons piece rest ih =>
    rw [List.forall_mem_cons] at h
    cases rest with
    | nil => exact h.1
    | cons next rest =>
      rw [Text.joinStrings, oneLine_append, oneLine_append]
      · exact ⟨⟨h.1, hsep⟩, ih h.2⟩
      · exact List.cons_ne_nil _ _

theorem oneLine_modifier (v : Visibility) : OneLine v.modifier := by
  cases v <;> decide

theorem Layout.oneLine_indented {l : Layout} (hunit : OneLine l.indentUnit) (depth : Nat)
    {text : String} (h : OneLine text) : OneLine (l.indented depth text) := by
  induction depth with
  | zero => rwa [indented_zero]
  | succ depth ih =>
    rw [indented_succ, oneLine_append]
    exact ⟨hunit, ih⟩

/-- A line without the carriage return at its end. -/
def withoutReturn (cs : List Char) : List Char :=
  if cs.getLast? = some '\r' then cs.dropLast else cs

/-- The lines of a text: what stands between its line feeds, without a carriage return in front of
these. -/
def textLines (text : String) : List String :=
  (Text.cutAt '\n' text.toList).map fun cs => String.ofList (withoutReturn cs)

theorem withoutReturn_of_not_mem {cs : List Char} (h : '\r' ∉ cs) : withoutReturn cs = cs :=
  if_neg fun hlast => h (List.mem_of_getLast? hlast)

theorem textLines_of_oneLine {text : String} (h : OneLine text) : textLines text = [text] := by
  rw [textLines, Text.cutAt_of_not_mem h.1, List.map_singleton, withoutReturn_of_not_mem h.2,
    String.ofList_toList]

section Separator

variable {l : Layout} (hsep : l.lineSeparator = "\n" ∨ l.lineSeparator = "\r\n")
include hsep

theorem textLines_line_append {line : String} (hline : OneLine line) (rest : String) :
    textLines (line ++ l.lineSeparator ++ rest) = line :: textLines rest := by
  rcases hsep with h | h
  · have hchars : (line ++ l.lineSeparator ++ rest).toList =
        line.toList ++ '\n' :: rest.toList := by
      simp [h]
    rw [textLines, hchars, Text.cutAt_append_cons hline.1, List.map_cons,
      withoutReturn_of_not_mem hline.2, String.ofList_toList]
    rfl
  · have hchars : (line ++ l.lineSeparator ++ rest).toList =
        (line.toList ++ ['\r']) ++ '\n' :: rest.toList := by
      simp [h]
    have hfeed : '\n' ∉ line.toList ++ ['\r'] := by
      rw [List.mem_append, not_or]
      exact ⟨hline.1, by decide⟩
    have hreturn : withoutReturn (line.toList ++ ['\r']) = line.toList := by
      simp [withoutReturn]
    rw [textLines, hchars, Text.cutAt_append_cons hfeed, List.map_cons, hreturn,
      String.ofList_toList]
    rfl

/-- **The lines of a text that is put together line by line** are these lines, and what stands
behind the last line separator. -/
theorem textLines_ended_append {lines : List String} (h : ∀ line ∈ lines, OneLine line)
    {last : String} (hlast : OneLine last) :
    textLines (l.ended lines ++ last) = lines ++ [last] := by
  induction lines with
  | nil =>
    rw [Layout.ended, String.empty_append, textLines_of_oneLine hlast]
    rfl
  | cons line rest ih =>
    rw [List.forall_mem_cons] at h
    rw [Layout.ended, String.append_assoc, textLines_line_append hsep h.1, ih h.2,
      List.cons_append]

end Separator

/-! ## Blank lines -/

/-- Blank lines stand behind package lines and before the heads of classes and methods, one each,
and nowhere else. -/
inductive Spaced : List Line → Prop
  | nil : Spaced []
  | package {name : String} {rest : List Line} (h : Spaced rest) :
      Spaced (.package name :: .blank :: rest)
  | head {kind : BlockKind} {text : String} {rest : List Line}
      (hkind : kind = .classBody ∨ kind = .methodBody) (h : Spaced rest) :
      Spaced (.blank :: .opening kind text :: rest)
  | alone {line : Line} {rest : List Line} (hline : line.standsAlone = true) (h : Spaced rest) :
      Spaced (line :: rest)

theorem Spaced.append {lines more : List Line} (h : Spaced lines) (h' : Spaced more) :
    Spaced (lines ++ more) := by
  induction h with
  | nil => exact h'
  | package _ ih => exact .package ih
  | head hkind _ ih => exact .head hkind ih
  | alone hline _ ih => exact .alone hline ih

theorem Spaced.of_forall {lines : List Line} (h : ∀ line ∈ lines, line.standsAlone = true) :
    Spaced lines := by
  induction lines with
  | nil => exact .nil
  | cons line rest ih =>
    rw [List.forall_mem_cons] at h
    exact .alone h.1 (ih h.2)

/-- A line that says something, on one line, unless it is blank. -/
def Line.Fits (line : Line) : Prop :=
  OneLine line.text ∧ (line.text = "" → line = .blank)

theorem indented_eq_empty_imp {l : Layout} {depth : Nat} {text : String}
    (h : l.indented depth text = "") : text = "" := by
  induction depth with
  | zero => rwa [Layout.indented_zero] at h
  | succ depth ih =>
    rw [Layout.indented_succ] at h
    exact ih (String.append_eq_empty_iff.mp h).2

theorem Line.Fits.shown_eq_empty_iff {l : Layout} {line : Line} (h : line.Fits) (depth : Nat) :
    line.shown l depth = "" ↔ line = .blank := by
  rw [Line.shown]
  constructor
  · intro heq
    by_contra hne
    rw [if_neg hne] at heq
    exact hne (h.2 (indented_eq_empty_imp heq))
  · exact fun heq => if_pos heq

theorem Line.Fits.oneLine_shown {l : Layout} (hunit : OneLine l.indentUnit) {line : Line}
    (h : line.Fits) (depth : Nat) : OneLine (line.shown l depth) := by
  rw [Line.shown]
  split
  · decide
  · exact Layout.oneLine_indented hunit _ h.1

section Fits

variable {l : Layout} {lines : List Line} (hfits : ∀ line ∈ lines, line.Fits)
include hfits

theorem oneLine_of_mem_lay (hunit : OneLine l.indentUnit) (depth : Nat) :
    ∀ shown ∈ l.lay depth lines, OneLine shown := by
  induction lines generalizing depth with
  | nil => exact fun _ h => absurd h List.not_mem_nil
  | cons line rest ih =>
    rw [List.forall_mem_cons] at hfits
    rw [Layout.lay, List.forall_mem_cons]
    exact ⟨hfits.1.oneLine_shown hunit depth, ih hfits.2 _⟩

/-- The lines that are shown blank are the blank ones. -/
theorem getElem?_lay_eq_empty_iff (depth i : Nat) :
    (l.lay depth lines)[i]? = some "" ↔ lines[i]? = some .blank := by
  induction lines generalizing depth i with
  | nil => simp [Layout.lay]
  | cons line rest ih =>
    rw [List.forall_mem_cons] at hfits
    cases i with
    | zero =>
      rw [Layout.lay, List.getElem?_cons_zero, List.getElem?_cons_zero, Option.some.injEq,
        Option.some.injEq]
      exact hfits.1.shown_eq_empty_iff depth
    | succ i =>
      rw [Layout.lay, List.getElem?_cons_succ, List.getElem?_cons_succ]
      exact ih hfits.2 _ i

end Fits

end Draft
end BeanBuilder
