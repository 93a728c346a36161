import BeanBuilder.Proofs.Draft.Lines
import BeanBuilder.Proofs.Draft.Replay

/-! # The lines that calls write

Every call on a source file writes whole lines (`SourceCall.lines`), and every call on a method adds
whole lines to it (`MethodCall.lines`).  So a source file is laid out from the lines of the calls on
it (`SourceDraft.Laid.after?`), and a method keeps those of the calls on itself with their depths
(`MethodDraft.Laid.after`), which are laid out where the method is put
(`MethodDraft.Laid.text_eq_ended`).

The brace of the outermost block is the only line that is not ended when it is written; nothing may
be written behind it.
-/
namespace BeanBuilder
namespace Draft

/-! ## The lines of a call -/

namespace SourceCall

/-- Whether a call declares the package. -/
def isPackage : SourceCall → Bool
  | .definePackage _ => true
  | _ => false

/-- The lines that a call writes where some blocks are open. -/
def lines (depth : Nat) : SourceCall → List Line
  | .definePackage none => []
  | .definePackage (some name) => if name = "" then [] else [.package name, .blank]
  | .addImport none => []
  | .addImport (some name) => [.plain ("import " ++ name ++ ";")]
  | .defineClass visibility name superclass =>
    [.blank, .opening .classBody (classHeader visibility name superclass ++ r" {")]
  | .addField visibility type name initial =>
    [.plain (fieldText visibility type name initial ++ ";")]
  | .addLine line => [.plain line]
  | .openBlock header => [.opening .custom (header ++ r" {")]
  | .closeBlock => if depth = 0 then [] else [.closing]

variable {call : SourceCall} {depth : Nat}

/-- What a call writes are its lines, each of them ended. -/
theorem writes_eq_ended (l : Layout) (hclose : call ≠ .closeBlock)
    (hpackage : call.isPackage = true → depth = 0) :
    call.writes l depth = l.ended (l.lay depth (call.lines depth)) := by
  cases call with
  | definePackage name =>
    obtain rfl := hpackage rfl
    cases name with
    | none => rfl
    | some name =>
      rw [writes, lines]
      split
      · rfl
      · simp [Layout.lay, Layout.ended, Line.shown, Line.level, Line.text, String.append_assoc]
  | addImport name =>
    cases name with
    | none => rfl
    | some name =>
      simp [writes, lines, Layout.lay, Layout.ended, Line.shown, Line.level, Line.text,
        Layout.indented, String.append_assoc]
  | defineClass visibility name superclass =>
    simp [writes, lines, Layout.lay, Layout.ended, Line.shown, Line.level, Line.text,
      Line.depthBehind, Layout.indented, String.append_assoc]
  | addField visibility type name initial =>
    simp [writes, lines, Layout.lay, Layout.ended, Line.shown, Line.level, Line.text,
      Layout.indented, String.append_assoc]
  | addLine line =>
    simp [writes, lines, Layout.lay, Layout.ended, Line.shown, Line.level, Line.text]
  | openBlock header =>
    simp [writes, lines, Layout.lay, Layout.ended, Line.shown, Line.level, Line.text,
      Layout.indented, String.append_assoc]
  | closeBlock => exact absurd rfl hclose

theorem leads_lines (hclose : call ≠ .closeBlock) :
    Leads depth (call.lines depth) (if call.opens?.isSome then depth + 1 else depth) := by
  cases call with
  | definePackage name =>
    cases name with
    | none => exact .nil depth
    | some name =>
      rw [lines]
      split
      · exact .nil depth
      · exact .append (.still rfl) (.still rfl)
  | addImport name =>
    cases name with
    | none => exact .nil depth
    | some name => exact .still rfl
  | defineClass visibility name superclass => exact .append (.still rfl) (.opening _ _)
  | addField visibility type name initial => exact .still rfl
  | addLine line => exact .still rfl
  | openBlock header => exact .opening _ _
  | closeBlock => exact absurd rfl hclose

theorem any_isOuter_lines (hclose : call ≠ .closeBlock) :
    (call.lines depth).any Line.isOuter = call.opens?.isSome := by
  cases call with
  | definePackage name =>
    cases name with
    | none => rfl
    | some name =>
      rw [lines]
      split <;> rfl
  | addImport name => cases name <;> rfl
  | closeBlock => exact absurd rfl hclose
  | _ => rfl

theorem spaced_lines (call : SourceCall) (depth : Nat) : Spaced (call.lines depth) := by
  cases call with
  | definePackage name =>
    cases name with
    | none => exact .nil
    | some name =>
      rw [lines]
      split
      · exact .nil
      · exact .package .nil
  | addImport name =>
    cases name with
    | none => exact .nil
    | some name => exact .alone rfl .nil
  | defineClass visibility name superclass => exact .head (Or.inl rfl) .nil
  | closeBlock =>
    rw [lines]
    split
    · exact .nil
    · exact .alone rfl .nil
  | _ => exact .alone rfl .nil

end SourceCall

/-- A text that a caller may supply: it is there, and holds no line break. -/
def IsFreeText (text : String) : Prop :=
  text ≠ "" ∧ OneLine text

instance (text : String) : Decidable (IsFreeText text) :=
  inferInstanceAs (Decidable (_ ∧ _))

theorem Line.fits_of_append {line : Line} {text tail : String} (h : line.text = text ++ tail)
    (htext : OneLine text) (htail : OneLine tail) (hne : tail ≠ "") : line.Fits := by
  rw [Line.Fits, h, oneLine_append]
  exact ⟨⟨htext, htail⟩, fun hempty => absurd (String.append_eq_empty_iff.mp hempty).2 hne⟩

theorem fits_blank : Line.blank.Fits :=
  ⟨by decide, fun _ => rfl⟩

theorem fits_closing : Line.closing.Fits :=
  ⟨by decide, fun h => absurd h (by decide)⟩

namespace SourceCall

theorem oneLine_classHeader (visibility : Visibility) {name : String} {superclass : Option String}
    (hname : OneLine name) (hsuper : ∀ s ∈ superclass, OneLine s) :
    OneLine (classHeader visibility name superclass) := by
  have hhead : OneLine (visibility.modifier ++ "class " ++ name) := by
    rw [oneLine_append, oneLine_append]
    exact ⟨⟨oneLine_modifier visibility, by decide⟩, hname⟩
  cases superclass with
  | none => exact oneLine_append.mpr ⟨hhead, by decide⟩
  | some s =>
    exact oneLine_append.mpr ⟨hhead, oneLine_append.mpr ⟨by decide, hsuper s rfl⟩⟩

theorem oneLine_fieldText (visibility : Visibility) {type name : String} {initial : Option String}
    (htype : OneLine type) (hname : OneLine name) (hinitial : ∀ s ∈ initial, OneLine s) :
    OneLine (fieldText visibility type name initial) := by
  have hhead : OneLine (visibility.modifier ++ type ++ " " ++ name) := by
    rw [oneLine_append, oneLine_append, oneLine_append]
    exact ⟨⟨⟨oneLine_modifier visibility, htype⟩, by decide⟩, hname⟩
  cases initial with
  | none => exact oneLine_append.mpr ⟨hhead, by decide⟩
  | some s =>
    exact oneLine_append.mpr ⟨hhead, oneLine_append.mpr ⟨by decide, hinitial s rfl⟩⟩

/-- The lines of a call hold no line breaks, and only the blank ones are empty. -/
theorem fits_lines {call : SourceCall} (h : ∀ text ∈ call.texts, IsFreeText text) (depth : Nat) :
    ∀ line ∈ call.lines depth, line.Fits := by
  cases call with
  | definePackage name =>
    cases name with
    | none => exact List.forall_mem_nil _
    | some name =>
      have hname := (h name List.mem_cons_self).2
      rw [lines]
      split
      · exact List.forall_mem_nil _
      · rw [List.forall_mem_cons, List.forall_mem_singleton]
        exact ⟨Line.fits_of_append rfl (oneLine_append.mpr ⟨by decide, hname⟩) (by decide)
          (by decide), fits_blank⟩
  | addImport name =>
    cases name with
    | none => exact List.forall_mem_nil _
    | some name =>
      have hname := (h name List.mem_cons_self).2
      exact List.forall_mem_singleton.mpr (Line.fits_of_append rfl
        (oneLine_append.mpr ⟨by decide, hname⟩) (by decide) (by decide))
  | defineClass visibility name superclass =>
    have hheader := oneLine_classHeader visibility (h name List.mem_cons_self).2
      fun s hs => (h s (List.mem_cons_of_mem _ (Option.mem_toList.mpr hs))).2
    rw [lines, List.forall_mem_cons, List.forall_mem_singleton]
    exact ⟨fits_blank, Line.fits_of_append rfl hheader (by decide) (by decide)⟩
  | addField visibility type name initial =>
    have hfield := oneLine_fieldText visibility (h type List.mem_cons_self).2
      (h name (List.mem_cons_of_mem _ List.mem_cons_self)).2
      fun s hs => (h s (List.mem_cons_of_mem _ (List.mem_cons_of_mem _
        (Option.mem_toList.mpr hs)))).2
    exact List.forall_mem_singleton.mpr (Line.fits_of_append rfl hfield (by decide) (by decide))
  | addLine line =>
    have hline := h line List.mem_cons_self
    exact List.forall_mem_singleton.mpr ⟨hline.2, fun hempty => absurd hempty hline.1⟩
  | openBlock header =>
    have hheader := (h header List.mem_cons_self).2
    exact List.forall_mem_singleton.mpr
      (Line.fits_of_append rfl hheader (by decide) (by decide))
  | closeBlock =>
    rw [lines]
    split
    · exact List.forall_mem_nil _
    · exact List.forall_mem_singleton.mpr fits_closing

end SourceCall

namespace MethodCall

/-- The lines that a call adds to a method in which some blocks are open, the body included. -/
def lines (depth : Nat) : MethodCall → List Line
  | .addLine line => [.plain line]
  | .openHeaded header => [.opening .nested (header ++ r" {")]
  | .openBare => [.opening .nested r"{"]
  | .closeBlock => if depth ≤ 1 then [] else [.closing]
  | .finish => closings depth
  | .setVisibility _ | .setStatic _ | .setReturnType _ | .addParameter .. => []

end MethodCall

/-! ## Source files -/

namespace SourceDraft

variable {d : SourceDraft} {lines added : List Line}

theorem layout_closeBlock (d : SourceDraft) : d.closeBlock.layout = d.layout := by
  unfold closeBlock
  split
  · rfl
  · dsimp only
    split <;> rfl

theorem layout_closeBlocks (d : SourceDraft) (n : Nat) : (d.closeBlocks n).layout = d.layout := by
  induction n generalizing d with
  | zero => rfl
  | succ n ih => exact (ih d.closeBlock).trans d.layout_closeBlock

theorem layout_after? {d' : SourceDraft} {call : SourceCall} (h : d.after? call = .ok d') :
    d'.layout = d.layout := by
  by_cases hclose : call = .closeBlock
  · subst hclose
    obtain rfl := except_ok_eq_ok_iff.mp h
    exact d.layout_closeBlock
  · obtain ⟨-, rfl⟩ := (after?_eq_ok_iff call hclose).mp h
    rfl

theorem depth_closeBlock (h : d.blocks.guarded = 0) : d.closeBlock.depth = d.depth - 1 := by
  cases hb : d.blocks.blocks with
  | nil =>
    have hzero : d.depth = 0 := congrArg List.length hb
    rw [closeBlock_of_depth_eq_zero hzero, hzero]
  | cons b rest =>
    have hdepth : d.depth = rest.length + 1 := congrArg List.length hb
    rw [closeBlock_of_open hb h, hdepth]
    rfl

theorem depth_closeBlocks (h : d.blocks.guarded = 0) (n : Nat) :
    (d.closeBlocks n).depth = d.depth - n := by
  induction n generalizing d with
  | zero => rfl
  | succ n ih =>
    rw [closeBlocks, ih (guarded_closeBlock h), depth_closeBlock h]
    omega

/-- The outermost block of a source file was opened and is closed again. -/
def Closed (d : SourceDraft) (lines : List Line) : Prop :=
  lines.any Line.isOuter = true ∧ d.depth = 0

/-- A source file to which some lines were written.  Each of them is ended, unless it is the brace
of the outermost block. -/
structure Laid (d : SourceDraft) (lines : List Line) : Prop where
  guarded : d.blocks.guarded = 0
  leads : Leads 0 lines d.depth
  opened : 0 < d.depth → lines.any Line.isOuter = true
  text : ¬ d.Closed lines → d.text = d.layout.ended (d.layout.lay 0 lines)
  closed : d.Closed lines → ∃ above, lines = above ++ [.closing] ∧ Leads 0 above 1 ∧
    d.text = d.layout.ended (d.layout.lay 0 above) ++ r"}"
  spaced : Spaced lines
  fits : ∀ line ∈ lines, line.Fits

namespace Laid

theorem empty (l : Layout) : ({ layout := l } : SourceDraft).Laid [] where
  guarded := rfl
  leads := .nil 0
  opened := fun h => absurd h (Nat.lt_irrefl 0)
  text := fun _ => rfl
  closed := fun h => Bool.noConfusion h.1
  spaced := .nil
  fits := List.forall_mem_nil _

/-- More lines are written below, and perhaps a block is opened, while the outermost block is not
closed. -/
theorem extend (h : d.Laid lines) (hopen : ¬ d.Closed lines) {block? : Option Block}
    (hleads : Leads d.depth added (if block?.isSome then d.depth + 1 else d.depth))
    (houter : added.any Line.isOuter = block?.isSome) (hspaced : Spaced added)
    (hfits : ∀ line ∈ added, line.Fits) :
    (d.extended (d.layout.ended (d.layout.lay d.depth added)) block?).Laid (lines ++ added) := by
  have hdepth : (d.extended (d.layout.ended (d.layout.lay d.depth added)) block?).depth =
      if block?.isSome then d.depth + 1 else d.depth := by
    cases block? <;> rfl
  have hstill : ¬ (d.extended (d.layout.ended (d.layout.lay d.depth added)) block?).Closed
      (lines ++ added) := by
    rintro ⟨hany, hzero⟩
    rw [List.any_append, houter, Bool.or_eq_true] at hany
    cases block? with
    | none => exact hopen ⟨hany.resolve_right (by decide), hzero⟩
    | some block => exact absurd hzero (Nat.succ_ne_zero _)
  refine ⟨?_, ?_, ?_, fun _ => ?_, fun hc => absurd hc hstill, h.spaced.append hspaced, ?_⟩
  · cases block? with
    | none => exact h.guarded
    | some block => exact h.guarded
  · rw [hdepth]
    exact h.leads.append hleads
  · intro hpos
    rw [List.any_append, houter, Bool.or_eq_true]
    cases block? with
    | none => exact Or.inl (h.opened hpos)
    | some block => exact Or.inr rfl
  · rw [text_extended, h.text hopen]
    change _ = d.layout.ended (d.layout.lay 0 (lines ++ added))
    rw [Layout.lay_append, Layout.ended_append, h.leads.depthBehind_eq]
  · intro line hline
    rcases List.mem_append.mp hline with hold | hnew
    · exact h.fits line hold
    · exact hfits line hnew

/-- Closing a block writes its brace, which is not ended if the block is the outermost one. -/
theorem closeBlock (h : d.Laid lines) :
    d.closeBlock.Laid (lines ++ if d.depth = 0 then [] else [.closing]) := by
  cases hb : d.blocks.blocks with
  | nil =>
    have hzero : d.depth = 0 := congrArg List.length hb
    rw [closeBlock_of_depth_eq_zero hzero, if_pos hzero, List.append_nil]
    exact h
  | cons b rest =>
    have hdepth : d.depth = rest.length + 1 := congrArg List.length hb
    have hopen : ¬ d.Closed lines := fun hc => by
      have hzero := hc.2
      omega
    have hleads := h.leads
    rw [hdepth] at hleads
    have houter : (lines ++ [Line.closing]).any Line.isOuter = true := by
      rw [List.any_append, h.opened (by omega), Bool.true_or]
    have hpos : d.depth ≠ 0 := by omega
    rw [if_neg hpos, closeBlock_of_open hb h.guarded]
    refine ⟨h.guarded, hleads.append .closing, fun _ => houter, fun hstill => ?_, fun hclosed => ?_,
      h.spaced.append (.alone rfl .nil), ?_⟩
    · have hne : rest ≠ [] := by
        rintro rfl
        exact hstill ⟨houter, rfl⟩
      change d.text ++ _ = d.layout.ended (d.layout.lay 0 (lines ++ [.closing]))
      rw [if_neg hne, h.text hopen, Layout.lay_append, Layout.ended_append, hleads.depthBehind_eq]
      exact congrArg (_ ++ ·) (d.layout.ended_singleton _).symm
    · have hrest : rest = [] := List.eq_nil_of_length_eq_zero hclosed.2
      subst hrest
      refine ⟨lines, rfl, hleads, ?_⟩
      change d.text ++ (d.layout.indented 0 r"}" ++ _) = _
      rw [if_pos rfl, Layout.indented_zero, String.append_empty, h.text hopen]
      rfl
    · intro line hline
      rcases List.mem_append.mp hline with hold | hnew
      · exact h.fits line hold
      · exact List.mem_singleton.mp hnew ▸ fits_closing

theorem closeBlocks (h : d.Laid lines) {n : Nat} (hn : n ≤ d.depth) :
    (d.closeBlocks n).Laid (lines ++ closings n) := by
  induction n generalizing d lines with
  | zero =>
    rw [closings, List.replicate_zero, List.append_nil]
    exact h
  | succ n ih =>
    have hclose := h.closeBlock
    have hdepth := depth_closeBlock h.guarded
    rw [if_neg (by omega)] at hclose
    have hrest := ih hclose (by omega)
    rw [List.append_assoc] at hrest
    exact hrest

/-- Showing the source file writes the braces of all open blocks. -/
theorem closeAll (h : d.Laid lines) : d.closeAll.Laid (lines ++ closings d.depth) :=
  h.closeBlocks (Nat.le_refl _)

/-- **One call** writes its lines below the others. -/
theorem after? (h : d.Laid lines) {call : SourceCall} {d' : SourceDraft}
    (hcall : d.after? call = .ok d') (htexts : ∀ text ∈ call.texts, IsFreeText text)
    (hpackage : call.isPackage = true → d.depth = 0)
    (hopen : call = .closeBlock ∨ ¬ d.Closed lines) : d'.Laid (lines ++ call.lines d.depth) := by
  by_cases hclose : call = .closeBlock
  · subst hclose
    obtain rfl := except_ok_eq_ok_iff.mp hcall
    exact h.closeBlock
  · obtain ⟨-, rfl⟩ := (after?_eq_ok_iff call hclose).mp hcall
    rw [SourceCall.writes_eq_ended d.layout hclose hpackage]
    exact h.extend (hopen.resolve_left hclose) (SourceCall.leads_lines hclose)
      (SourceCall.any_isOuter_lines hclose) (call.spaced_lines d.depth)
      (SourceCall.fits_lines htexts d.depth)

end Laid
end SourceDraft

/-! ## Methods -/

/-- Lines as a method keeps them: each with the number of blocks by which it is indented. -/
def recorded : (depth : Nat) → List Line → List (Nat × String)
  | _, [] => []
  | depth, line :: rest => (line.level depth, line.text) :: recorded (line.depthBehind depth) rest

theorem recorded_append (depth : Nat) (lines more : List Line) :
    recorded depth (lines ++ more) =
      recorded depth lines ++ recorded (depthBehind depth lines) more := by
  induction lines generalizing depth with
  | nil => rfl
  | cons line rest ih =>
    rw [List.cons_append, recorded, recorded, ih, List.cons_append]
    rfl

theorem recorded_closings (n : Nat) : recorded n (closings n) = MethodDraft.closers n := by
  induction n with
  | zero => rfl
  | succ n ih => exact congrArg (_ :: ·) ih

/-- A line that a method may have. -/
def Line.IsInner (line : Line) : Prop :=
  line.standsAlone = true ∧ line.isOuter = false ∧ line.Fits

theorem isInner_closing : Line.closing.IsInner :=
  ⟨rfl, rfl, fits_closing⟩

theorem isInner_of_mem_closings {n : Nat} {line : Line} (h : line ∈ closings n) : line.IsInner :=
  List.eq_of_mem_replicate h ▸ isInner_closing

/-- Inside a source file the lines of a method are laid out as those of the file are. -/
theorem lineText_recorded (l : Layout) (outer : Nat) {depth last : Nat} {lines : List Line}
    (hlead : Leads depth lines last) (hinner : ∀ line ∈ lines, line.IsInner) :
    MethodDraft.lineText l outer (recorded depth lines) =
      l.ended (l.lay (depth + outer) lines) := by
  induction lines generalizing depth with
  | nil => rfl
  | cons line rest ih =>
    rw [List.forall_mem_cons] at hinner
    rw [Leads, List.flatMap_cons] at hlead
    rw [recorded, MethodDraft.lineText, Layout.lay, Layout.ended, ← Layout.indented_add]
    cases line with
    | blank => exact absurd hinner.1.1 (by decide)
    | package name => cases hinner.1.1
    | plain text => exact congrArg (_ ++ ·) (ih hlead hinner.2)
    | opening kind text =>
      cases hlead with
      | opening hrest =>
        have hup : depth + 1 + outer = depth + outer + 1 := by omega
        have hlines := ih hrest hinner.2
        rw [hup] at hlines
        exact congrArg (_ ++ ·) hlines
    | closing =>
      cases hlead with
      | @closing depth _ _ hrest =>
        have hdown : depth + 1 + outer - 1 = depth + outer := by omega
        have hlines := ih hrest hinner.2
        simp only [Line.shown, Line.level, Line.depthBehind, Line.text, hdown,
          Nat.add_sub_cancel] at hlines ⊢
        exact congrArg (_ ++ ·) hlines

namespace MethodDraft

variable {m m' : MethodDraft} {body : List Line}

/-- A method to which the calls on it added some lines, and whose head is on one line.  It is still
being written, or all its blocks are closed. -/
structure Laid (m : MethodDraft) (body : List Line) : Prop where
  lines : m.lines = recorded 1 body
  leads : Leads 1 body m.depth
  stage : m.Unfinished ∨ m.finished = true ∧ m.depth = 0
  inner : ∀ line ∈ body, line.IsInner
  name : OneLine m.name
  returnType : ∀ type ∈ m.returnType, OneLine type
  parameters : ∀ parameter ∈ m.parameters, OneLine parameter.1 ∧ OneLine parameter.2

namespace Laid

theorem new {name : String} (hname : OneLine name) (h : new? name = .ok m) : m.Laid [] := by
  have hunfinished := Unfinished.new h
  obtain ⟨-, rfl⟩ := new?_eq_ok_iff.mp h
  exact ⟨rfl, .nil 1, Or.inl hunfinished, nofun, hname, nofun, nofun⟩

theorem oneLine_signature (h : m.Laid body) : OneLine m.signature := by
  have hreturn : OneLine m.returnText := by
    rw [returnText]
    cases htype : m.returnType with
    | none => decide
    | some type =>
      dsimp only
      split
      · decide
      · exact h.returnType type htype
  have hparameters : OneLine m.parameterText := by
    refine oneLine_joinStrings (by decide) fun piece hpiece => ?_
    obtain ⟨parameter, hmem, rfl⟩ := List.mem_map.mp hpiece
    have hp := h.parameters parameter hmem
    exact oneLine_append.mpr ⟨oneLine_append.mpr ⟨hp.1, by decide⟩, hp.2⟩
  have hstatic : OneLine (if m.isStatic then "static " else "") := by
    split <;> decide
  simp only [signature, oneLine_append]
  exact ⟨⟨⟨⟨⟨⟨⟨oneLine_modifier _, hstatic⟩, hreturn⟩, by decide⟩, h.name⟩, by decide⟩,
    hparameters⟩, by decide⟩

/-- Lines that a method which is still being written gets. -/
theorem add (h : m.Laid body) (added : List Line) (blocks : BlockStack)
    (hunfinished : ({ m with
      lines := m.lines ++ recorded m.depth added, blocks } : MethodDraft).Unfinished)
    (hleads : Leads m.depth added blocks.depth) (hinner : ∀ line ∈ added, line.IsInner) :
    ({ m with
      lines := m.lines ++ recorded m.depth added, blocks } : MethodDraft).Laid (body ++ added) where
  lines := by
    rw [recorded_append, h.leads.depthBehind_eq, ← h.lines]
  leads := h.leads.append hleads
  stage := Or.inl hunfinished
  inner := by
    intro line hline
    rcases List.mem_append.mp hline with hold | hnew
    · exact h.inner line hold
    · exact hinner line hnew
  name := h.name
  returnType := h.returnType
  parameters := h.parameters

theorem closeBlock (h : m.Laid body) (hm : m.Unfinished) :
    m.closeBlock.Laid (body ++ MethodCall.closeBlock.lines m.depth) := by
  rw [MethodCall.lines]
  by_cases hd : m.depth ≤ 1
  · rw [if_pos hd, List.append_nil, closeBlock_of_le (hm.guarded ▸ hd)]
    exact h
  · rw [if_neg hd]
    obtain ⟨b, rest, hb⟩ := List.exists_cons_of_length_pos (l := m.blocks.blocks) hm.one_le_depth
    have hlength : m.depth = rest.length + 1 := congrArg List.length hb
    have hclosed := hm.closeBlock
    rw [closeBlock_of_cons hb (by rw [hm.guarded]; omega)] at hclosed ⊢
    have hlines : [(rest.length, r"}")] = recorded m.depth [.closing] := by
      rw [hlength]
      rfl
    rw [hlines] at hclosed ⊢
    refine h.add _ _ hclosed ?_ (List.forall_mem_singleton.mpr isInner_closing)
    rw [hlength]
    exact .closing

/-- Finishing a method adds the braces that are missing, and none if it was finished before. -/
theorem finish (h : m.Laid body) : m.finish.Laid (body ++ closings m.depth) := by
  rcases h.stage with hm | ⟨hfinished, hzero⟩
  · have hlines := lines_finish hm.finished
    have hdepth := depth_finish hm.finished
    have hstage := m.finished_finish
    rw [MethodDraft.finish, if_neg (by rw [hm.finished]; decide)] at hlines hdepth hstage ⊢
    refine ⟨?_, hdepth ▸ h.leads.append (.closings m.depth), Or.inr ⟨hstage, hdepth⟩, ?_, h.name,
      h.returnType, h.parameters⟩
    · rw [hlines, recorded_append, h.leads.depthBehind_eq, recorded_closings, ← h.lines]
    · intro line hline
      rcases List.mem_append.mp hline with hold | hnew
      · exact h.inner line hold
      · exact isInner_of_mem_closings hnew
  · rw [finish_of_finished hfinished, hzero, closings, List.replicate_zero, List.append_nil]
    exact h

/-- **One call** adds its lines to a method that is not finished. -/
theorem after (h : m.Laid body) {call : MethodCall} (htexts : ∀ text ∈ call.texts, IsFreeText text)
    (hcall : call = .finish ∨ m.finished = false) :
    (m.after call).Laid (body ++ call.lines m.depth) := by
  by_cases hfinish : call = .finish
  · subst hfinish
    exact h.finish
  · have hm : m.Unfinished := by
      rcases h.stage with hm | ⟨hfinished, -⟩
      · exact hm
      · rw [hcall.resolve_left hfinish] at hfinished
        cases hfinished
    have hafter := hm.after hfinish
    cases call with
    | setVisibility visibility =>
      rw [MethodCall.lines, List.append_nil]
      exact ⟨h.lines, h.leads, Or.inl hafter, h.inner, h.name, h.returnType, h.parameters⟩
    | setStatic isStatic =>
      rw [MethodCall.lines, List.append_nil]
      exact ⟨h.lines, h.leads, Or.inl hafter, h.inner, h.name, h.returnType, h.parameters⟩
    | setReturnType type =>
      rw [MethodCall.lines, List.append_nil]
      refine ⟨h.lines, h.leads, Or.inl hafter, h.inner, h.name, fun t ht => ?_, h.parameters⟩
      exact (htexts t (Option.mem_toList.mpr ht)).2
    | addParameter type name =>
      rw [after_addParameter] at hafter ⊢
      rw [MethodCall.lines, List.append_nil]
      refine ⟨h.lines, h.leads, Or.inl hafter, h.inner, h.name, h.returnType, fun p hp => ?_⟩
      rcases List.mem_append.mp hp with hold | hnew
      · exact h.parameters p hold
      · split at hnew
        · obtain rfl := List.mem_singleton.mp hnew
          exact ⟨(htexts type List.mem_cons_self).2,
            (htexts name (List.mem_cons_of_mem _ List.mem_cons_self)).2⟩
        · exact absurd hnew List.not_mem_nil
    | addLine line =>
      have hline := htexts line List.mem_cons_self
      exact h.add [.plain line] m.blocks hafter (.still rfl) (List.forall_mem_singleton.mpr
        ⟨rfl, rfl, hline.2, fun hempty => absurd hempty hline.1⟩)
    | openHeaded header =>
      have hheader := (htexts header List.mem_cons_self).2
      exact h.add [.opening .nested (header ++ r" {")] (m.blocks.push ⟨.nested, header⟩) hafter
        (.opening _ _) (List.forall_mem_singleton.mpr ⟨rfl, rfl,
          Line.fits_of_append rfl hheader (by decide) (by decide)⟩)
    | openBare =>
      exact h.add [.opening .nested r"{"] (m.blocks.push ⟨.nested, ""⟩) hafter (.opening _ _)
        (List.forall_mem_singleton.mpr ⟨rfl, rfl, by decide, fun hempty =>
          absurd hempty (by decide : r"{" ≠ "")⟩)
    | closeBlock => exact h.closeBlock hm
    | finish => exact absurd rfl hfinish

/-- No line of a method opens a block of the source file itself. -/
theorem any_isOuter (h : m.Laid body) : body.any Line.isOuter = false := by
  rw [List.any_eq_false]
  intro line hline
  rw [(h.inner line hline).2.1]
  exact Bool.false_ne_true

/-- The lines of a method that is put into a source file: a blank one, its head, and its body. -/
theorem text_eq_ended (h : m.Laid body) (l : Layout) (outer : Nat) :
    m.text l outer =
      l.ended (l.lay outer (.blank :: .opening .methodBody (m.signature ++ r" {") :: body)) := by
  rw [text, h.lines, lineText_recorded l outer h.leads h.inner, Nat.add_comm 1 outer]
  simp only [Layout.lay, Layout.ended, Line.shown, Line.level, Line.depthBehind, Line.text,
    if_true, String.empty_append, String.append_assoc]
  rfl

end Laid
end MethodDraft

end Draft
end BeanBuilder
