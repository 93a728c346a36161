import Mathlib.Logic.Function.Basic
import BeanBuilder.Proofs.Draft.CallLines

/-! # Source files as pages of lines

What a run writes into a source file is what its calls write, one after the other
(`Session.outputs`).  A call that closes a block writes the brace of the block, showing the source
file writes those of all open blocks, and putting a method in writes the lines that the calls on the
method have left.

In an orderly run nothing is written behind the brace of the outermost block, and no method is
changed after it was finished (`Session.Orderly`).  Then the source file is laid out from the lines
of the calls all along (`Session.Laid.run`), and so is what is shown of it: every line is that of
one call, indented by the blocks around it, and the lines that close blocks stand below those that
opened them (`Session.shows_run`).
-/
namespace BeanBuilder
namespace Draft
namespace Session

variable {s : Session} {call : Call}

/-! ## What a run writes -/

/-- The lines of the bodies of the methods, by the names of these within the session. -/
abbrev Bodies := String → List Line

/-- The lines that a call writes into the source file.  A call that is refused writes none. -/
def writes (s : Session) (bodies : Bodies) : Call → List Line
  | .source call =>
    match s.source.after? call with
    | .ok _ => call.lines s.source.depth
    | .error _ => []
  | .addMethod key =>
    match s.methods.get? key with
    | some m =>
      .blank :: .opening .methodBody (m.signature ++ r" {") :: (bodies key ++ closings m.depth)
    | none => []
  | .renderSource => closings s.source.depth
  | .newMethod .. | .method .. | .methodSignature _ | .renderMethod .. => []

/-- The bodies with more lines for one method, if there is such a method. -/
def extendBody (s : Session) (bodies : Bodies) (key : String) (call : MethodCall) : Bodies :=
  match s.methods.get? key with
  | some m => Function.update bodies key (bodies key ++ call.lines m.depth)
  | none => bodies

/-- The bodies behind a call.  Showing a method or putting it into the source file finishes it. -/
def bodiesAfter (s : Session) (bodies : Bodies) : Call → Bodies
  | .newMethod key name =>
    match MethodDraft.new? name with
    | .ok _ => Function.update bodies key []
    | .error _ => bodies
  | .method key call => s.extendBody bodies key call
  | .addMethod key | .renderMethod key _ _ => s.extendBody bodies key .finish
  | .source _ | .renderSource | .methodSignature _ => bodies

/-- The lines that each call of a run writes into the source file. -/
def outputs : Session → Bodies → List Call → List (List Line)
  | _, _, [] => []
  | s, bodies, call :: calls =>
    s.writes bodies call :: outputs (s.after call) (s.bodiesAfter bodies call) calls

/-- Whether a call may be made, given whether a block of the source file was opened before.  A
package is declared outside all blocks, nothing but closing and showing follows the outermost block,
and a finished method is not changed. -/
def allows (s : Session) (opened : Bool) : Call → Prop
  | .source call =>
    (call.isPackage = true → s.source.depth = 0) ∧
      (call = .closeBlock ∨ ¬ (opened = true ∧ s.source.depth = 0))
  | .addMethod _ => ¬ (opened = true ∧ s.source.depth = 0)
  | .method key call => call = .finish ∨ ∀ m ∈ s.methods.get? key, m.finished = false
  | .renderSource | .newMethod .. | .methodSignature _ | .renderMethod .. => True

instance (s : Session) (opened : Bool) : (call : Call) → Decidable (s.allows opened call)
  | .source call =>
    inferInstanceAs (Decidable ((call.isPackage = true → s.source.depth = 0) ∧
      (call = .closeBlock ∨ ¬ (opened = true ∧ s.source.depth = 0))))
  | .addMethod _ => inferInstanceAs (Decidable (¬ (opened = true ∧ s.source.depth = 0)))
  | .method key call =>
    inferInstanceAs (Decidable (call = .finish ∨ ∀ m ∈ s.methods.get? key, m.finished = false))
  | .renderSource | .newMethod .. | .methodSignature _ | .renderMethod .. =>
    inferInstanceAs (Decidable True)

/-- Whether a block of the source file was opened up to a call, the call included. -/
def openedAfter (s : Session) (opened : Bool) (call : Call) : Bool :=
  opened || decide ((s.after call).source.depth ≠ 0)

/-- A run all of whose calls may be made where they are made. -/
def Orderly : Session → (opened : Bool) → List Call → Prop
  | _, _, [] => True
  | s, opened, call :: calls =>
    s.allows opened call ∧ (s.after call).Orderly (s.openedAfter opened call) calls

instance instDecidableOrderly : (s : Session) → (opened : Bool) → (calls : List Call) →
    Decidable (s.Orderly opened calls)
  | _, _, [] => inferInstanceAs (Decidable True)
  | s, opened, call :: calls =>
    have := instDecidableOrderly (s.after call) (s.openedAfter opened call) calls
    inferInstanceAs (Decidable (_ ∧ _))

/-! ## Single calls -/

/-- A session whose source file and methods are laid out from lines. -/
structure Laid (s : Session) (bodies : Bodies) (lines : List Line) : Prop where
  source : s.source.Laid lines
  methods : ∀ key m, s.methods.get? key = some m → m.Laid (bodies key)

theorem laid_start (l : Layout) (bodies : Bodies) : (start l).Laid bodies [] :=
  ⟨.empty l, nofun⟩

section Equations

variable {key name : String} {m : MethodDraft}

theorem after_source_of_ok {call : SourceCall} {d : SourceDraft}
    (h : s.source.after? call = .ok d) :
    s.after (.source call) = { s with source := d } := by
  rw [after, step?, h]
  rfl

theorem after_source_of_error {call : SourceCall} {e : InvalidLiteral}
    (h : s.source.after? call = .error e) : s.after (.source call) = s := by
  rw [after, step?, h]
  rfl

theorem after_addMethod (h : s.methods.get? key = some m) :
    s.after (.addMethod key) =
      { s.putMethod key m.finish with source := s.source.addMethod m } := by
  rw [after, step?, method?, h]
  rfl

theorem after_newMethod_of_ok (h : MethodDraft.new? name = .ok m) :
    s.after (.newMethod key name) = s.putMethod key m := by
  rw [after, step?, h]
  rfl

theorem after_newMethod_of_error {e : InvalidLiteral} (h : MethodDraft.new? name = .error e) :
    s.after (.newMethod key name) = s := by
  rw [after, step?, h]
  rfl

theorem after_renderMethod (h : s.methods.get? key = some m) (outer : Nat) (layout : Layout) :
    s.after (.renderMethod key outer layout) = s.putMethod key m.finish := by
  rw [after, step?, method?, h]
  rfl

/-- A name that no method has is refused. -/
theorem after_of_get?_eq_none (h : s.methods.get? key = none) :
    s.after (.addMethod key) = s ∧
      (∀ call, s.after (.method key call) = s) ∧
      ∀ outer layout, s.after (.renderMethod key outer layout) = s := by
  refine ⟨?_, fun call => ?_, fun outer layout => ?_⟩ <;>
    · rw [after, step?, method?, h]
      rfl

theorem after_methodSignature (s : Session) (key : String) :
    s.after (.methodSignature key) = s := by
  rw [after, step?, method?]
  cases s.methods.get? key <;> rfl

/-- A call on a method leaves the source file and the other methods. -/
theorem after_method (h : s.methods.get? key = some m) (call : MethodCall) :
    (s.after (.method key call)).source = s.source ∧
      ∀ other, (s.after (.method key call)).methods.get? other =
        if other = key then some (m.after call) else s.methods.get? other := by
  have hstep : s.step? (.method key call) = ((m.after? call).mapError Refusal.literal).map
      fun m' => (.changed m'.depth, s.putMethod key m') := by
    rw [step?, method?, h]
    rfl
  rw [after, hstep, MethodDraft.after]
  cases m.after? call with
  | ok m' => exact ⟨rfl, fun other => OrderedMap.get?_insert _ _ _ _⟩
  | error e =>
    refine ⟨rfl, fun other => ?_⟩
    change s.methods.get? other = if other = key then some m else s.methods.get? other
    by_cases hother : other = key
    · rw [if_pos hother, hother, h]
    · rw [if_neg hother]

theorem layout_after (s : Session) (call : Call) :
    (s.after call).source.layout = s.source.layout := by
  cases call with
  | source call =>
    cases hcall : s.source.after? call with
    | ok d =>
      rw [after_source_of_ok hcall]
      exact SourceDraft.layout_after? hcall
    | error e => rw [after_source_of_error hcall]
  | addMethod key =>
    cases hget : s.methods.get? key with
    | none => rw [(after_of_get?_eq_none hget).1]
    | some m =>
      rw [after_addMethod hget]
      rfl
  | renderSource => exact s.source.layout_closeBlocks _
  | newMethod key name =>
    cases hnew : MethodDraft.new? name with
    | ok m =>
      rw [after_newMethod_of_ok hnew]
      rfl
    | error e => rw [after_newMethod_of_error hnew]
  | method key call =>
    cases hget : s.methods.get? key with
    | none => rw [(after_of_get?_eq_none hget).2.1]
    | some m => rw [(after_method hget call).1]
  | methodSignature key => rw [after_methodSignature]
  | renderMethod key outer layout =>
    cases hget : s.methods.get? key with
    | none => rw [(after_of_get?_eq_none hget).2.2]
    | some m =>
      rw [after_renderMethod hget]
      rfl

theorem layout_run (s : Session) (calls : List Call) :
    (s.run calls).2.source.layout = s.source.layout := by
  induction calls generalizing s with
  | nil => rfl
  | cons call calls ih =>
    rw [run_cons, ih]
    exact layout_after s call

end Equations

namespace Laid

variable {bodies : Bodies} {lines : List Line} {opened : Bool}

theorem withMethod (h : s.Laid bodies lines) (s' : Session) (hsource : s'.source = s.source)
    {key : String} {m : MethodDraft} {body : List Line} (hm : m.Laid body)
    (hmethods : ∀ other, s'.methods.get? other =
      if other = key then some m else s.methods.get? other) :
    s'.Laid (Function.update bodies key body) lines := by
  refine ⟨hsource ▸ h.source, fun other m' hget => ?_⟩
  rw [hmethods] at hget
  by_cases heq : other = key
  · subst heq
    rw [if_pos rfl, Option.some.injEq] at hget
    rw [Function.update_self, ← hget]
    exact hm
  · rw [if_neg heq] at hget
    rw [Function.update_of_ne heq]
    exact h.methods other m' hget

theorem putMethod (h : s.Laid bodies lines) (key : String) {m : MethodDraft} {body : List Line}
    (hm : m.Laid body) : (s.putMethod key m).Laid (Function.update bodies key body) lines :=
  h.withMethod (s.putMethod key m) rfl hm fun other => OrderedMap.get?_insert _ _ other _

theorem nil_append (h : s.Laid bodies lines) : s.Laid bodies (lines ++ []) :=
  (List.append_nil lines).symm ▸ h

theorem addMethod (h : s.Laid bodies lines) (hopen : ¬ s.source.Closed lines) (key : String) :
    (s.after (.addMethod key)).Laid (s.extendBody bodies key .finish)
      (lines ++ s.writes bodies (.addMethod key)) := by
  rw [extendBody, writes]
  cases hget : s.methods.get? key with
  | none =>
    rw [(after_of_get?_eq_none hget).1]
    exact h.nil_append
  | some m =>
    have hm := (h.methods key m hget).finish
    -- the method is finished first, and closes inside the source file all that it opened
    have hbody : Leads (s.source.depth + 1) (bodies key ++ closings m.depth) s.source.depth :=
      ((h.methods key m hget).leads.append (.closings m.depth)).inside s.source.depth
    have hblank : Leads s.source.depth [.blank] s.source.depth := .still rfl
    have hleads : Leads s.source.depth (.blank :: .opening .methodBody (m.signature ++ r" {") ::
        (bodies key ++ closings m.depth)) s.source.depth :=
      hblank.append (.append (.opening _ _) hbody)
    have hspaced : Spaced (.blank :: .opening .methodBody (m.signature ++ r" {") ::
        (bodies key ++ closings m.depth)) :=
      .head (Or.inr rfl) (.of_forall fun line hline => (hm.inner line hline).1)
    have hfits : ∀ line ∈ Line.blank :: .opening .methodBody (m.signature ++ r" {") ::
        (bodies key ++ closings m.depth), line.Fits := by
      rw [List.forall_mem_cons, List.forall_mem_cons]
      exact ⟨fits_blank, Line.fits_of_append rfl (h.methods key m hget).oneLine_signature
        (by decide) (by decide), fun line hline => (hm.inner line hline).2.2⟩
    have houter : (Line.blank :: .opening .methodBody (m.signature ++ r" {") ::
        (bodies key ++ closings m.depth)).any Line.isOuter = (none : Option Block).isSome :=
      hm.any_isOuter
    have hsource := h.source.extend hopen hleads houter hspaced hfits
    have htext := hm.text_eq_ended s.source.layout s.source.depth
    rw [MethodDraft.signature_finish] at htext
    rw [SourceDraft.extended_none, ← htext] at hsource
    rw [after_addMethod hget]
    exact ⟨hsource, (h.putMethod key hm).methods⟩

/-- **One call** that may be made writes its lines below the others. -/
theorem after (h : s.Laid bodies lines) (hopened : opened = lines.any Line.isOuter)
    (htexts : ∀ text ∈ call.texts, IsFreeText text) (hallows : s.allows opened call) :
    (s.after call).Laid (s.bodiesAfter bodies call) (lines ++ s.writes bodies call) := by
  subst hopened
  cases call with
  | source call =>
    rw [writes, bodiesAfter]
    cases hcall : s.source.after? call with
    | ok d =>
      rw [after_source_of_ok hcall]
      exact ⟨h.source.after? hcall htexts hallows.1 hallows.2, h.methods⟩
    | error e =>
      rw [after_source_of_error hcall]
      exact h.nil_append
  | addMethod key => exact h.addMethod hallows key
  | renderSource => exact ⟨h.source.closeAll, h.methods⟩
  | newMethod key name =>
    rw [writes, bodiesAfter]
    cases hnew : MethodDraft.new? name with
    | ok m =>
      rw [after_newMethod_of_ok hnew]
      exact (h.putMethod key (.new (htexts name List.mem_cons_self).2 hnew)).nil_append
    | error e =>
      rw [after_newMethod_of_error hnew]
      exact h.nil_append
  | method key call =>
    rw [writes, bodiesAfter, extendBody]
    cases hget : s.methods.get? key with
    | none =>
      rw [(after_of_get?_eq_none hget).2.1]
      exact h.nil_append
    | some m =>
      have hm := (h.methods key m hget).after htexts
        (hallows.imp_right fun hfinished => hfinished m hget)
      obtain ⟨hsource, hmethods⟩ := after_method hget call
      exact (h.withMethod _ hsource hm hmethods).nil_append
  | methodSignature key =>
    rw [after_methodSignature]
    exact h.nil_append
  | renderMethod key outer layout =>
    rw [writes, bodiesAfter, extendBody]
    cases hget : s.methods.get? key with
    | none =>
      rw [(after_of_get?_eq_none hget).2.2]
      exact h.nil_append
    | some m =>
      rw [after_renderMethod hget]
      exact (h.putMethod key (h.methods key m hget).finish).nil_append

/-- A call that writes a line which opens a block of the source file leaves that block open. -/
theorem depth_ne_zero_of_any_isOuter (h : s.Laid bodies lines)
    (hany : (s.writes bodies call).any Line.isOuter = true) : (s.after call).source.depth ≠ 0 := by
  cases call with
  | source call =>
    rw [writes] at hany
    cases hcall : s.source.after? call with
    | error e =>
      rw [hcall] at hany
      cases hany
    | ok d =>
      rw [hcall] at hany
      dsimp only at hany
      by_cases hclose : call = .closeBlock
      · subst hclose
        rw [SourceCall.lines] at hany
        split at hany
        · cases hany
        · cases hany
      · rw [SourceCall.any_isOuter_lines hclose] at hany
        obtain ⟨block, hblock⟩ := Option.isSome_iff_exists.mp hany
        obtain ⟨-, rfl⟩ := (SourceDraft.after?_eq_ok_iff call hclose).mp hcall
        rw [after_source_of_ok hcall, hblock]
        exact Nat.succ_ne_zero _
  | addMethod key =>
    rw [writes] at hany
    cases hget : s.methods.get? key with
    | none =>
      rw [hget] at hany
      cases hany
    | some m =>
      rw [hget] at hany
      have hbody : (bodies key ++ closings m.depth).any Line.isOuter = true := hany
      rw [(h.methods key m hget).finish.any_isOuter] at hbody
      cases hbody
  | renderSource =>
    obtain ⟨line, hline, houter⟩ := List.any_eq_true.mp hany
    rw [List.eq_of_mem_replicate hline] at houter
    cases houter
  | newMethod key name => cases hany
  | method key call => cases hany
  | methodSignature key => cases hany
  | renderMethod key outer layout => cases hany

/-- A block of the source file was opened if some line did it. -/
theorem openedAfter_eq (h : s.Laid bodies lines)
    (hafter : (s.after call).Laid (s.bodiesAfter bodies call) (lines ++ s.writes bodies call)) :
    s.openedAfter (lines.any Line.isOuter) call =
      (lines ++ s.writes bodies call).any Line.isOuter := by
  by_cases hdepth : (s.after call).source.depth = 0
  · have hnone : (s.writes bodies call).any Line.isOuter = false :=
      Bool.eq_false_iff.mpr fun hany => depth_ne_zero_of_any_isOuter h hany hdepth
    rw [openedAfter, List.any_append, hnone, hdepth]
    rfl
  · rw [hafter.source.opened (Nat.pos_of_ne_zero hdepth), openedAfter, decide_eq_true hdepth,
      Bool.or_true]

/-- **An orderly run** writes the lines of its calls, one call below the other. -/
theorem run {calls : List Call} (h : s.Laid bodies lines)
    (htexts : ∀ call ∈ calls, ∀ text ∈ call.texts, IsFreeText text)
    (horderly : s.Orderly (lines.any Line.isOuter) calls) :
    (s.run calls).2.source.Laid (lines ++ (s.outputs bodies calls).flatten) := by
  induction calls generalizing s bodies lines with
  | nil =>
    rw [outputs, List.flatten_nil, List.append_nil]
    exact h.source
  | cons call calls ih =>
    rw [List.forall_mem_cons] at htexts
    have hafter := h.after rfl htexts.1 horderly.1
    have hrest := horderly.2
    rw [openedAfter_eq h hafter] at hrest
    rw [run_cons, outputs, List.flatten_cons, ← List.append_assoc]
    exact ih hafter htexts.2 hrest

end Laid

theorem outputs_concat_renderSource (s : Session) (bodies : Bodies) (calls : List Call) :
    s.outputs bodies (calls ++ [.renderSource]) =
      s.outputs bodies calls ++ [closings (s.run calls).2.source.depth] := by
  induction calls generalizing s bodies with
  | nil => rfl
  | cons call calls ih =>
    rw [List.cons_append, outputs, ih, run_cons]
    rfl

end Session

/-! ## What is shown -/

/-- A text in a layout shows some lines. -/
structure Layout.Shows (l : Layout) (text : String) (lines : List Line) : Prop where
  /-- The lines of the text are these lines.  Behind the last line separator stands nothing, or the
  closing brace of the outermost block. -/
  textLines_eq : textLines text = l.lay 0 lines ++ if lines.any Line.isOuter then [] else [""]
  /-- Each is indented by the blocks that are open around it. -/
  indented : ∀ before line behind, lines = before ++ line :: behind →
    (textLines text)[before.length]? = some (line.shown l (depthBehind 0 before))
  /-- Every block is closed. -/
  leads : Leads 0 lines 0
  /-- Every closing brace stands at the indentation of the line that opened its block. -/
  aligned : ∀ above behind, lines = above ++ .closing :: behind →
    ∃ before kind header inside depth, above = before ++ .opening kind header :: inside ∧
      Leads 0 inside 0 ∧
      (textLines text)[before.length]? = some (l.indented depth header) ∧
      (textLines text)[above.length]? = some (l.indented depth r"}")
  /-- The blank lines are shown empty, and no other line is. -/
  blank : ∀ i < lines.length, ((textLines text)[i]? = some "" ↔ lines[i]? = some .blank)
  /-- They stand behind package lines and before the heads of classes and methods. -/
  spaced : Spaced lines
  /-- The text ends with the closing brace of the outermost block, if one was opened. -/
  ends : lines.any Line.isOuter = true → ∃ above, text = l.ended above ++ r"}" ∧
    textLines text = above ++ [r"}"]

namespace SourceDraft.Laid

variable {d : SourceDraft} {lines : List Line}

/-- A source file whose outermost block is closed ends with the brace of that block. -/
theorem exists_ending (h : d.Laid lines) (hclosed : d.Closed lines)
    (hsep : d.layout.lineSeparator = "\n" ∨ d.layout.lineSeparator = "\r\n")
    (hunit : OneLine d.layout.indentUnit) :
    ∃ above, d.text = d.layout.ended above ++ r"}" ∧ textLines d.text = above ++ [r"}"] ∧
      d.layout.lay 0 lines = above ++ [r"}"] := by
  obtain ⟨above, rfl, habove, htext⟩ := h.closed hclosed
  have hlines := oneLine_of_mem_lay (fun line hline => h.fits line (List.mem_append_left _ hline))
    hunit 0
  refine ⟨d.layout.lay 0 above, htext, ?_, ?_⟩
  · rw [htext, textLines_ended_append hsep hlines (by decide)]
  · rw [Layout.lay_append, habove.depthBehind_eq]
    exact congrArg (fun brace => _ ++ [brace]) (Layout.indented_zero _ _)

/-- The lines of the text are the lines that are laid out.  Behind the last line separator stands
nothing, or the brace of the outermost block. -/
theorem textLines_text (h : d.Laid lines) (hzero : d.depth = 0)
    (hsep : d.layout.lineSeparator = "\n" ∨ d.layout.lineSeparator = "\r\n")
    (hunit : OneLine d.layout.indentUnit) :
    textLines d.text =
      d.layout.lay 0 lines ++ if lines.any Line.isOuter then [] else [""] := by
  by_cases hany : lines.any Line.isOuter = true
  · obtain ⟨above, -, hlines, hlay⟩ := h.exists_ending ⟨hany, hzero⟩ hsep hunit
    rw [if_pos hany, List.append_nil, hlines, hlay]
  · have htext := h.text fun hclosed => hany hclosed.1
    have hlines := textLines_ended_append hsep (oneLine_of_mem_lay h.fits hunit 0)
      (by decide : OneLine "")
    rw [String.append_empty] at hlines
    rw [if_neg hany, htext, hlines]

/-- A source file in which no block is open shows its lines. -/
theorem shows (h : d.Laid lines) (hzero : d.depth = 0)
    (hsep : d.layout.lineSeparator = "\n" ∨ d.layout.lineSeparator = "\r\n")
    (hunit : OneLine d.layout.indentUnit) : d.layout.Shows d.text lines := by
  have hleads : Leads 0 lines 0 := hzero ▸ h.leads
  have htextLines := h.textLines_text hzero hsep hunit
  -- what is found among the lines that are laid out is found in the text
  have hget : ∀ {i : Nat}, i < lines.length →
      (textLines d.text)[i]? = (d.layout.lay 0 lines)[i]? := by
    intro i hi
    rw [htextLines, List.getElem?_append_left (by rwa [Layout.length_lay])]
  refine ⟨htextLines, ?_, hleads, ?_, fun i hi => ?_, h.spaced, fun hany => ?_⟩
  · rintro before line behind rfl
    rw [hget (by simp), Layout.getElem?_lay]
  · rintro above behind rfl
    have habove := hleads.of_append
    cases hdepth : depthBehind 0 above with
    | zero =>
      rw [hdepth] at habove
      cases habove.2
    | succ depth =>
      rw [hdepth] at habove
      obtain ⟨before, kind, header, inside, rfl, hbefore, hinside⟩ := habove.1.exists_opening
      have hlength : (before ++ .opening kind header :: inside).length =
          before.length + 1 + inside.length := by
        rw [List.length_append, List.length_cons]
        omega
      have hpair := d.layout.getElem?_lay_closing 0 before kind header hinside behind
      refine ⟨before, kind, header, inside, depthBehind 0 before, rfl, hinside, ?_, ?_⟩
      · rw [hget (by simp), List.append_assoc, List.cons_append]
        exact hpair.1
      · rw [hget (by simp), hlength, List.append_assoc, List.cons_append]
        exact hpair.2
  · rw [hget hi]
    exact getElem?_lay_eq_empty_iff h.fits 0 i
  · obtain ⟨above, htext, hlines, -⟩ := h.exists_ending ⟨hany, hzero⟩ hsep hunit
    exact ⟨above, htext, hlines⟩

end SourceDraft.Laid

namespace Session

/-- **What an orderly run shows are the lines of its calls.**  Where lines are separated by line
feeds, with or without carriage returns, and the texts that are supplied hold no line breaks, the
source file that is shown at the end consists of the lines that the calls write, one call below the
other.  Each line is indented by the blocks around it, a closing brace as the line that opened its
block; the blank lines are those behind package lines and before the heads of classes and methods;
and if a block of the source file was opened, its brace ends the text. -/
theorem shows_run {l : Layout} (hsep : l.lineSeparator = "\n" ∨ l.lineSeparator = "\r\n")
    (hunit : OneLine l.indentUnit) {calls : List Call}
    (htexts : ∀ call ∈ calls, ∀ text ∈ call.texts, IsFreeText text)
    (horderly : (start l).Orderly false calls) :
    ∃ text, ((start l).run (calls ++ [.renderSource])).1.getLast? = some (.ok (.shown text 0)) ∧
      l.Shows text ((start l).outputs (fun _ => []) (calls ++ [.renderSource])).flatten := by
  have hlaid := (laid_start l fun _ => []).run htexts horderly
  have hlayout : ((start l).run calls).2.source.closeAll.layout = l :=
    (SourceDraft.layout_closeBlocks _ _).trans (layout_run (start l) calls)
  have hzero : ((start l).run calls).2.source.closeAll.depth = 0 :=
    (SourceDraft.depth_closeBlocks hlaid.guarded _).trans (Nat.sub_self _)
  refine ⟨((start l).run calls).2.source.closeAll.text, ?_, ?_⟩
  · rw [run_append]
    change (_ ++
      [Except.ok (Reply.shown _ ((start l).run calls).2.source.closeAll.depth)]).getLast? = _
    rw [List.getLast?_concat, hzero]
  · rw [outputs_concat_renderSource, List.flatten_append, List.flatten_singleton]
    have hshows := hlaid.closeAll.shows hzero (hlayout.symm ▸ hsep) (hlayout.symm ▸ hunit)
    rwa [hlayout] at hshows

/-- Calls that put a method into a block, show the source file early and close it once more. -/
def pageCalls : List Call :=
  [.newMethod "m" "run", .method "m" (.openHeaded "if (ready)"), .method "m" (.addLine "next();"),
    .source (.definePackage (some "p")), .source (.defineClass .everyone "Task" none),
    .source (.openBlock "static"), .addMethod "m", .renderSource, .source .closeBlock]

theorem shows_run_pageCalls :
    ∃ text, ((start ⟨"\r\n", "  "⟩).run (pageCalls ++ [.renderSource])).1.getLast? =
        some (.ok (.shown text 0)) ∧
      (⟨"\r\n", "  "⟩ : Layout).Shows text ((start ⟨"\r\n", "  "⟩).outputs (fun _ => [])
        (pageCalls ++ [.renderSource])).flatten :=
  shows_run (Or.inr rfl) (by decide) (by decide) (by decide +kernel)

example :
    textLines ((start ⟨"\r\n", "  "⟩).run pageCalls).2.source.text =
      ["package p;", "", "", r"public class Task {", r"  static {", "", r"    void run() {",
        r"      if (ready) {", "        next();", r"      }", r"    }", r"  }", r"}"] := by
  decide +kernel

end Session
end Draft
end BeanBuilder
