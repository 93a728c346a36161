import BeanBuilder.Proofs.Draft.MethodSteps

/-! # Methods against the source file they are put into

A method keeps its lines with their depths and closes its blocks when it is finished; a source file
writes each line at once.  Putting a method into a source file comes to the same as making the
calls of the method on the source file itself: a blank line, the head opened as a block, the calls
on the body one after another, and then as many closing braces as lead back to the depth at the
start (`SourceDraft.addMethod_eq_append`).

A call that closes a block is passed over where the method has only its body open; on the source
file it would close the body (`replay`).  The proof keeps the two block trackers in step
(`Follows`): the source file has the blocks of the method open on top of those that were open
before.
-/
namespace BeanBuilder
namespace Draft

/-- The calls on a source file that do what calls on the body of a method do, `nested` blocks being
open inside the body. -/
def replay : (nested : Nat) → List MethodCall → List SourceCall
  | _, [] => []
  | nested, .addLine line :: calls => .addLine line :: replay nested calls
  | nested, .openHeaded header :: calls => .openBlock header :: replay (nested + 1) calls
  | 0, .closeBlock :: calls => replay 0 calls
  | nested + 1, .closeBlock :: calls => .closeBlock :: replay nested calls
  | nested, _ :: calls => replay nested calls

namespace SourceDraft

/-- A source file after a call, also after one that is refused. -/
def after (d : SourceDraft) (call : SourceCall) : SourceDraft :=
  match d.after? call with
  | .ok d' => d'
  | .error _ => d

/-- A source file after calls. -/
def afterAll (d : SourceDraft) (calls : List SourceCall) : SourceDraft :=
  calls.foldl after d

/-- A source file on which the calls of a method are made: its head is opened as a block, the calls
on its body follow, and then blocks are closed down to the depth at the start. -/
def replayed (d : SourceDraft) (head : String) (calls : List MethodCall) : SourceDraft :=
  let inside := (d.openBlock head).afterAll (replay 0 calls)
  inside.closeBlocks (inside.depth - d.depth)

end SourceDraft

/-! ## Depths -/

theorem Layout.indented_add (l : Layout) (inner outer : Nat) (text : String) :
    l.indented (inner + outer) text = l.indented outer (l.indented inner text) := by
  induction outer with
  | zero => rw [Nat.add_zero, indented_zero]
  | succ outer ih => rw [← Nat.add_assoc, indented_succ, ih, indented_succ]

namespace SourceDraft

variable {d : SourceDraft}

/-- Closing the blocks that are open on top of others writes the same braces as a method that ends
inside those others. -/
theorem closeBlocks_eq_append {opened base : List Block} (hbase : base ≠ [])
    (hb : d.blocks = { blocks := opened ++ base }) :
    d.closeBlocks opened.length = { d.append (MethodDraft.lineText d.layout base.length
      (MethodDraft.closers opened.length)) with blocks := { blocks := base } } := by
  induction opened generalizing d with
  | nil =>
    rw [List.length_nil, closeBlocks, MethodDraft.closers, MethodDraft.lineText, append_empty]
    rw [List.nil_append] at hb
    rw [← hb]
  | cons b opened ih =>
    have hne : opened ++ base ≠ [] := List.append_ne_nil_of_right_ne_nil opened hbase
    have hblocks : d.blocks.blocks = b :: (opened ++ base) := congrArg BlockStack.blocks hb
    rw [List.length_cons, closeBlocks,
      closeBlock_of_open hblocks (congrArg BlockStack.guarded hb), if_neg hne, ih (by rw [hb])]
    simp only [append, MethodDraft.closers, MethodDraft.lineText, List.length_append,
      Layout.indented_add, String.append_assoc]

end SourceDraft

/-! ## The two block trackers -/

/-- A source file `e` follows a method that is being written into `d`: it has the blocks of the
method open on top of those of `d`, and its text is that of `d` with the head and the lines of the
method. -/
structure Follows (d : SourceDraft) (head : String) (m : MethodDraft) (e : SourceDraft) :
    Prop where
  layout : e.layout = d.layout
  blocks : ∃ opened, e.blocks = { blocks := opened ++ d.blocks.blocks } ∧ opened.length = m.depth
  text : e.text = d.text ++ (d.layout.indented d.depth (head ++ r" {") ++
    d.layout.lineSeparator ++ MethodDraft.lineText d.layout d.depth m.lines)

namespace Follows

variable {d e : SourceDraft} {m : MethodDraft} {head : String}

theorem depth_eq (h : Follows d head m e) : e.depth = m.depth + d.depth := by
  obtain ⟨opened, hopened, hlength⟩ := h.blocks
  rw [SourceDraft.depth, BlockStack.depth, hopened, List.length_append, hlength]
  rfl

/-- Both have one more line, which stands inside `inner` blocks of the method. -/
theorem text_append (h : Follows d head m e) (inner : Nat) (line : String) :
    e.text ++ (e.layout.indented (inner + d.depth) line ++ e.layout.lineSeparator) =
      d.text ++ (d.layout.indented d.depth (head ++ r" {") ++ d.layout.lineSeparator ++
        MethodDraft.lineText d.layout d.depth (m.lines ++ [(inner, line)])) := by
  rw [h.text, h.layout, MethodDraft.lineText_append, Layout.indented_add]
  simp only [MethodDraft.lineText, String.append_assoc, String.append_empty]

/-- The head of a method without lines, opened as a block. -/
theorem openBlock (hg : d.blocks.guarded = 0) (hlines : m.lines = []) (hdepth : m.depth = 1)
    (head : String) : Follows d head m (d.openBlock head) where
  layout := rfl
  blocks := by
    refine ⟨[⟨.custom, head⟩], ?_, hdepth.symm⟩
    rw [← hg]
    rfl
  text := by
    simp [SourceDraft.openBlock, SourceDraft.openBrace, SourceDraft.appendIndented,
      SourceDraft.append, Layout.indented, MethodDraft.lineText, hlines, String.append_assoc]

theorem addLine (h : Follows d head m e) (line : String) :
    Follows d head (m.addLine line) (e.addLine line) where
  layout := h.layout
  blocks := h.blocks
  text := by
    rw [MethodDraft.addLine, ← h.text_append, ← h.depth_eq]
    simp [SourceDraft.addLine, SourceDraft.appendIndented, SourceDraft.append,
      String.append_assoc]

theorem openHeaded (h : Follows d head m e) (header : String) :
    Follows d head (m.openHeaded header) (e.openBlock header) where
  layout := h.layout
  blocks := by
    obtain ⟨opened, hopened, hlength⟩ := h.blocks
    refine ⟨⟨.custom, header⟩ :: opened, ?_, congrArg (· + 1) hlength⟩
    simp [SourceDraft.openBlock, SourceDraft.openBrace, SourceDraft.appendIndented,
      SourceDraft.append, BlockStack.push, hopened]
  text := by
    rw [MethodDraft.openHeaded, MethodDraft.addLine, ← h.text_append, ← h.depth_eq]
    simp [SourceDraft.openBlock, SourceDraft.openBrace, SourceDraft.appendIndented,
      SourceDraft.append, Layout.indented, String.append_assoc]

/-- A block inside the body is closed by both. -/
theorem closeBlock (h : Follows d head m e) (hm : m.Unfinished) (hd : 1 < m.depth) :
    Follows d head m.closeBlock e.closeBlock := by
  obtain ⟨opened, hopened, hlength⟩ := h.blocks
  obtain ⟨b, rest, hb⟩ := List.exists_cons_of_length_pos (l := m.blocks.blocks) hm.one_le_depth
  obtain ⟨b', opened', rfl⟩ := List.exists_cons_of_length_pos (l := opened) (by omega)
  have hdepth : m.depth = rest.length + 1 := congrArg List.length hb
  have hsame : opened'.length = rest.length := by
    rw [List.length_cons] at hlength
    omega
  have hblocks : e.blocks.blocks = b' :: (opened' ++ d.blocks.blocks) :=
    congrArg BlockStack.blocks hopened
  have hne : opened' ++ d.blocks.blocks ≠ [] :=
    List.append_ne_nil_of_left_ne_nil (List.ne_nil_of_length_pos (by omega)) _
  rw [MethodDraft.closeBlock_of_cons hb (by rw [hm.guarded]; omega),
    SourceDraft.closeBlock_of_open hblocks (congrArg BlockStack.guarded hopened), if_neg hne]
  refine ⟨h.layout, ⟨opened', by rw [hopened], hsame⟩, ?_⟩
  have hlevel : (opened' ++ d.blocks.blocks).length = rest.length + d.depth := by
    rw [List.length_append, hsame]
    rfl
  rw [← h.text_append, ← hlevel]
  rfl

/-- Where only the body is open, the method closes nothing. -/
theorem closeBlock_body (h : Follows d head m e) (hm : m.Unfinished) (hd : m.depth = 1) :
    Follows d head m.closeBlock e := by
  have hsame : m.closeBlock = m := MethodDraft.closeBlock_of_le (hm.guarded ▸ Nat.le_of_eq hd)
  rw [hsame]
  exact h

/-- **One call after the other, the source file follows the method.** -/
theorem afterAll (h : Follows d head m e) (hm : m.Unfinished) {calls : List MethodCall}
    (hcalls : ∀ call ∈ calls, call ≠ .openBare ∧ call ≠ .finish) {nested : Nat}
    (hd : m.depth = nested + 1) :
    Follows d head (m.afterSteps (calls.map .change)) (e.afterAll (replay nested calls)) := by
  induction calls generalizing m e nested with
  | nil => exact h
  | cons call calls ih =>
    obtain ⟨hbare, hfinish⟩ := hcalls call List.mem_cons_self
    have hrest : ∀ call ∈ calls, call ≠ .openBare ∧ call ≠ .finish := fun other ho =>
      hcalls other (List.mem_cons_of_mem _ ho)
    have hnext : (m.after call).Unfinished := hm.after hfinish
    -- calls on the head leave the lines and the blocks of the method alone
    have hsame : ∀ {m' : MethodDraft}, m'.lines = m.lines → m'.depth = m.depth →
        Follows d head m' e := by
      intro m' hlines hdepth
      exact ⟨h.layout, hdepth ▸ h.blocks, hlines ▸ h.text⟩
    cases call with
    | setVisibility visibility =>
      exact ih (m := m.after (.setVisibility visibility)) (hsame rfl rfl) hnext hrest hd
    | setStatic isStatic =>
      exact ih (m := m.after (.setStatic isStatic)) (hsame rfl rfl) hnext hrest hd
    | setReturnType type =>
      exact ih (m := m.after (.setReturnType type)) (hsame rfl rfl) hnext hrest hd
    | addParameter type name =>
      have hhead := m.after_addParameter type name
      refine ih (m := m.after (.addParameter type name)) (hsame ?_ ?_) hnext hrest ?_
      · rw [hhead]
      · rw [hhead]; rfl
      · rw [hhead]; exact hd
    | addLine line => exact ih (h.addLine line) hnext hrest hd
    | openHeaded header => exact ih (h.openHeaded header) hnext hrest (congrArg (· + 1) hd)
    | openBare => exact absurd rfl hbare
    | closeBlock =>
      have hdepth := hm.depth_closeBlock
      cases nested with
      | zero => exact ih (h.closeBlock_body hm hd) hnext hrest (hdepth.trans (by omega))
      | succ nested =>
        exact ih (h.closeBlock hm (by omega)) hnext hrest (hdepth.trans (by omega))
    | finish => exact absurd rfl hfinish

end Follows

/-! ## Source files have no protected blocks -/

namespace SourceDraft

variable {d : SourceDraft}

theorem guarded_closeBlock (h : d.blocks.guarded = 0) : d.closeBlock.blocks.guarded = 0 := by
  cases hb : d.blocks.blocks with
  | nil => rw [closeBlock_of_depth_eq_zero (congrArg List.length hb), h]
  | cons b rest =>
    rw [closeBlock_of_open hb h]
    exact h

theorem guarded_closeBlocks (h : d.blocks.guarded = 0) (n : Nat) :
    (d.closeBlocks n).blocks.guarded = 0 := by
  induction n generalizing d with
  | zero => exact h
  | succ n ih => exact ih (guarded_closeBlock h)

theorem guarded_after? (h : d.blocks.guarded = 0) {call : SourceCall} {d' : SourceDraft}
    (hcall : d.after? call = .ok d') : d'.blocks.guarded = 0 := by
  by_cases hclose : call = .closeBlock
  · subst hclose
    cases hcall
    exact guarded_closeBlock h
  · obtain ⟨-, rfl⟩ := (after?_eq_ok_iff call hclose).mp hcall
    cases hopens : call.opens? <;> exact h

end SourceDraft

namespace Session

variable {s : Session}

/-- No call protects a block of the source file. -/
theorem guarded_source_after (h : s.source.blocks.guarded = 0) (call : Call) :
    (s.after call).source.blocks.guarded = 0 := by
  rw [after]
  cases hstep : s.step? call with
  | error e => exact h
  | ok result =>
    obtain ⟨reply, s'⟩ := result
    cases call with
    | source call =>
      obtain ⟨d', hd', hs'⟩ := except_bind_eq_ok_iff.mp hstep
      rw [mapError_eq_ok_iff] at hd'
      cases hs'
      exact SourceDraft.guarded_after? h hd'
    | addMethod key =>
      obtain ⟨m, -, hs'⟩ := except_bind_eq_ok_iff.mp hstep
      cases hs'
      exact h
    | renderSource =>
      cases hstep
      exact SourceDraft.guarded_closeBlocks h _
    | newMethod key name =>
      obtain ⟨m, -, hs'⟩ := except_bind_eq_ok_iff.mp hstep
      cases hs'
      exact h
    | method key call =>
      obtain ⟨m, -, hstep⟩ := except_bind_eq_ok_iff.mp hstep
      obtain ⟨m', -, hs'⟩ := except_bind_eq_ok_iff.mp hstep
      cases hs'
      exact h
    | methodSignature key =>
      obtain ⟨m, -, hs'⟩ := except_bind_eq_ok_iff.mp hstep
      cases hs'
      exact h
    | renderMethod key outer layout =>
      obtain ⟨m, -, hs'⟩ := except_bind_eq_ok_iff.mp hstep
      cases hs'
      exact h

theorem guarded_source_run (h : s.source.blocks.guarded = 0) (calls : List Call) :
    (s.run calls).2.source.blocks.guarded = 0 := by
  induction calls generalizing s with
  | nil => exact h
  | cons call calls ih =>
    rw [run_cons]
    exact ih (guarded_source_after h call)

end Session

/-! ## Putting a method into a source file -/

/-- Showing a method changes nothing of what it becomes. -/
theorem MethodDraft.finish_afterSteps_of_finishes (m : MethodDraft) {shown : List MethodStep}
    (hshown : ∀ step ∈ shown, step.finishes = true) : (m.afterSteps shown).finish = m.finish := by
  induction shown generalizing m with
  | nil => rfl
  | cons step rest ih =>
    rw [afterSteps, List.foldl_cons, afterStep_of_finishes (hshown step List.mem_cons_self)]
    exact (ih m.finish fun other ho => hshown other (List.mem_cons_of_mem _ ho)).trans
      (finish_of_finished m.finished_finish)

namespace SourceDraft

variable {d : SourceDraft} {m : MethodDraft}

/-- Where blocks are open and none is protected, a method that is not finished is written as the
calls on it would be. -/
theorem replayed_eq_append {name : String} (hnew : MethodDraft.new? name = .ok m)
    (hg : d.blocks.guarded = 0) (hd : 1 ≤ d.depth) {calls : List MethodCall}
    (hcalls : ∀ call ∈ calls, call ≠ .openBare ∧ call ≠ .finish) (head : String) :
    d.replayed head calls = d.append (d.layout.indented d.depth (head ++ r" {") ++
      d.layout.lineSeparator ++
        MethodDraft.lineText d.layout d.depth (m.afterSteps (calls.map .change)).finish.lines) := by
  have hm := MethodDraft.Unfinished.new hnew
  obtain ⟨hlines, hdepth⟩ : m.lines = [] ∧ m.depth = 0 + 1 := by
    obtain ⟨-, rfl⟩ := MethodDraft.new?_eq_ok_iff.mp hnew
    exact ⟨rfl, rfl⟩
  have hfollows := (Follows.openBlock hg hlines hdepth head).afterAll hm hcalls hdepth
  have hlast : (m.afterSteps (calls.map .change)).Unfinished := by
    refine hm.afterSteps fun step hstep => ?_
    obtain ⟨call, hcall, rfl⟩ := List.mem_map.mp hstep
    exact MethodStep.finishes_change (hcalls call hcall).2
  generalize m.afterSteps (calls.map .change) = written at hfollows hlast
  obtain ⟨opened, hopened, hlength⟩ := hfollows.blocks
  have hbase : d.blocks.blocks ≠ [] := List.ne_nil_of_length_pos hd
  rw [replayed, hfollows.depth_eq, Nat.add_sub_cancel, ← hlength,
    closeBlocks_eq_append hbase hopened, hlength, MethodDraft.lines_finish hlast.finished,
    MethodDraft.lineText_append, append, append, hfollows.text, hfollows.layout]
  have hsame : d.blocks = { blocks := d.blocks.blocks } := by rw [← hg]
  simp only [← hsame, String.append_assoc]
  rfl

/-- **A method is put into a source file as if its calls were made on the source file.**  Behind a
blank line stands what the source file would have for the head opened as a block, the calls on the
body in order, and the braces back to the depth at the start; in which layouts and at which depths
the method was shown before makes no difference. -/
theorem addMethod_eq_append {l : Layout} {before : List Call}
    (hd : 1 ≤ ((Session.start l).run before).2.source.depth) {name : String}
    (hnew : MethodDraft.new? name = .ok m) {calls : List MethodCall}
    (hcalls : ∀ call ∈ calls, call ≠ .openBare ∧ call ≠ .finish) {shown : List MethodStep}
    (hshown : ∀ step ∈ shown, step.finishes = true) :
    let d := ((Session.start l).run before).2.source
    let written := (m.afterSteps (calls.map .change)).afterSteps shown
    ∃ text, d.replayed written.signature calls = d.append text ∧
      d.addMethod written = d.append (d.layout.lineSeparator ++ text) := by
  intro d written
  have hg : d.blocks.guarded = 0 := Session.guarded_source_run rfl before
  refine ⟨_, replayed_eq_append hnew hg hd hcalls _, ?_⟩
  have hfinish : written.finish = (m.afterSteps (calls.map .change)).finish :=
    MethodDraft.finish_afterSteps_of_finishes _ hshown
  have hsignature : (m.afterSteps (calls.map .change)).finish.signature = written.signature := by
    rw [← hfinish, MethodDraft.signature_finish]
  simp only [addMethod, MethodDraft.render, MethodDraft.text, hfinish, hsignature,
    String.append_assoc]

/-- Calls that close more blocks than they open. -/
def surplusCloses : List MethodCall :=
  [.closeBlock, .openHeaded "if (ready)", .addLine "next();", .closeBlock, .closeBlock,
    .addParameter "int" "n", .openHeaded "while (more)"]

theorem addMethod_eq_append_surplusCloses :
    ∃ m text, MethodDraft.new? "run" = .ok m ∧
      let d := ((Session.start ⟨"\r\n", "  "⟩).run
        [.source (.defineClass .everyone "Task" none)]).2.source
      let written := (m.afterSteps (surplusCloses.map .change)).afterSteps [.render 3 {}]
      d.replayed "void run(int n)" surplusCloses = d.append text ∧
        d.addMethod written = d.append ("\r\n" ++ text) := by
  obtain ⟨text, hreplayed, hadded⟩ := @addMethod_eq_append _ ⟨"\r\n", "  "⟩
    [.source (.defineClass .everyone "Task" none)] (by decide +kernel) "run" rfl surplusCloses
    (by decide) [.render 3 {}] (by decide)
  exact ⟨_, text, rfl, hreplayed, hadded⟩

end SourceDraft
end Draft
end BeanBuilder
