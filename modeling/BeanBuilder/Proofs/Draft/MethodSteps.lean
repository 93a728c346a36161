import BeanBuilder.Proofs.Draft.Balance

/-! # Methods that go on after they are finished

A method can be shown at any time, and showing it finishes it: every open block is closed, once and
for all.  The calls that change it can still be made.  A finished method has no protected block any
more and its lines are never taken back, so later calls only add lines behind the brace of the body
(`MethodDraft.Finished.afterSteps`).

What is shown is therefore the lines up to the first finish, the braces that were missing then, and
the lines since (`MethodDraft.lines_afterSteps`).  It never closes more blocks than it opens.  It is
one whole method as long as no line was added since the first finish; and its braces match as long
as the blocks opened since are closed again (`MethodDraft.text_render_afterSteps`).
-/
namespace BeanBuilder
namespace Draft

/-! ## Steps -/

/-- What is done with a method: it is changed, or it is shown at a depth in a layout. -/
inductive MethodStep where
  | change (call : MethodCall)
  | render (outer : Nat) (layout : Layout)
  deriving DecidableEq, Repr

namespace MethodStep

/-- Whether a step finishes the method. -/
def finishes : MethodStep → Bool
  | change .finish | render _ _ => true
  | _ => false

/-- Whether a step adds a line to every method. -/
def adds : MethodStep → Bool
  | change (.addLine _) | change (.openHeaded _) | change .openBare => true
  | _ => false

/-- The texts that a caller supplies. -/
def texts : MethodStep → List String
  | change call => call.texts
  | render _ _ => []

/-- The number of open blocks after a step on a finished method. -/
def depthAfter (depth : Nat) : MethodStep → Nat
  | change (.openHeaded _) | change .openBare => depth + 1
  | change .closeBlock => depth - 1
  | _ => depth

theorem depthAfter_zero {step : MethodStep} (h : step.adds = false) : step.depthAfter 0 = 0 := by
  cases step with
  | render outer layout => rfl
  | change call => cases call <;> simp_all [adds, depthAfter]

/-- The steps before the first one that finishes the method. -/
def untilFinish (steps : List MethodStep) : List MethodStep :=
  steps.takeWhile fun step => !step.finishes

/-- The first step that finishes the method and all steps behind it. -/
def sinceFinish (steps : List MethodStep) : List MethodStep :=
  steps.dropWhile fun step => !step.finishes

theorem finishes_of_mem_untilFinish {steps : List MethodStep} {step : MethodStep}
    (h : step ∈ untilFinish steps) : step.finishes = false := by
  have hall : (untilFinish steps).all fun step => !step.finishes := List.all_takeWhile
  simpa using List.all_eq_true.mp hall step h

theorem finishes_change {call : MethodCall} (h : call ≠ .finish) :
    (change call).finishes = false := by
  cases call with
  | finish => exact absurd rfl h
  | _ => rfl

/-- The blocks that are opened and not closed again once the method is finished. -/
def reopened (steps : List MethodStep) : Nat :=
  (sinceFinish steps).foldl depthAfter 0

end MethodStep

namespace MethodDraft

/-- A method after a call, also after one that is refused. -/
def after (m : MethodDraft) (call : MethodCall) : MethodDraft :=
  match m.after? call with
  | .ok m' => m'
  | .error _ => m

/-- A method after a step. -/
def afterStep (m : MethodDraft) : MethodStep → MethodDraft
  | .change call => m.after call
  | .render outer layout => (m.render layout outer).2

/-- A method after steps. -/
def afterSteps (m : MethodDraft) (steps : List MethodStep) : MethodDraft :=
  steps.foldl afterStep m

variable {m m' : MethodDraft}

theorem after_of_ok {call : MethodCall} (h : m.after? call = .ok m') : m.after call = m' := by
  rw [after, h]

/-- A parameter leaves the body alone, whether it is refused or not. -/
theorem after_addParameter (m : MethodDraft) (type name : String) :
    m.after (.addParameter type name) = { m with
      parameters := m.parameters ++ if isLiteral name then [(type, name)] else [] } := by
  by_cases hname : isLiteral name = true
  · rw [if_pos hname]
    exact after_of_ok (addParameter?_eq_ok_iff.mpr ⟨hname, rfl⟩)
  · simp [after, after?, addParameter?, requireLiteral, hname, bind, Except.bind]

theorem afterSteps_append (m : MethodDraft) (steps more : List MethodStep) :
    m.afterSteps (steps ++ more) = (m.afterSteps steps).afterSteps more :=
  List.foldl_append

/-- The innermost block is closed unless it is protected. -/
theorem closeBlock_of_cons {b : Block} {rest : List Block} (hb : m.blocks.blocks = b :: rest)
    (hg : m.blocks.guarded ≤ rest.length) :
    m.closeBlock = { m with
      blocks := { m.blocks with blocks := rest }
      lines := m.lines ++ [(rest.length, r"}")] } := by
  have hopen : ¬ rest.length + 1 ≤ m.blocks.guarded := by omega
  simp only [closeBlock, BlockStack.pop, hb, BlockStack.depth, List.length_cons, if_neg hopen]

/-- Where every open block is protected, none is closed. -/
theorem closeBlock_of_le (h : m.depth ≤ m.blocks.guarded) : m.closeBlock = m := by
  unfold closeBlock BlockStack.pop
  cases hb : m.blocks.blocks with
  | nil => rfl
  | cons b rest => simp only [if_pos (show m.blocks.depth ≤ m.blocks.guarded from h)]

/-! ## Methods that are not finished -/

/-- A method that is still being written: its body is open, and nothing but the body is
protected. -/
structure Unfinished (m : MethodDraft) : Prop where
  finished : m.finished = false
  guarded : m.blocks.guarded = 1
  one_le_depth : 1 ≤ m.depth

namespace Unfinished

theorem new {name : String} (h : new? name = .ok m) : m.Unfinished := by
  obtain ⟨-, rfl⟩ := new?_eq_ok_iff.mp h
  exact ⟨rfl, rfl, Nat.le_refl 1⟩

/-- Closing stops at the body. -/
theorem depth_closeBlock (hm : m.Unfinished) : m.closeBlock.depth = max 1 (m.depth - 1) := by
  by_cases hd : m.depth ≤ 1
  · rw [closeBlock_of_le (hm.guarded ▸ hd)]
    have := hm.one_le_depth
    omega
  · obtain ⟨b, rest, hb⟩ := List.exists_cons_of_length_pos (l := m.blocks.blocks) hm.one_le_depth
    have hlength : m.depth = rest.length + 1 := congrArg List.length hb
    rw [closeBlock_of_cons hb (by rw [hm.guarded]; omega)]
    change rest.length = _
    omega

theorem closeBlock (hm : m.Unfinished) : m.closeBlock.Unfinished where
  finished := by
    rcases closeBlock_eq_self_or m with hsame | ⟨b, rest, -, hclose⟩
    · rw [hsame, hm.finished]
    · rw [hclose, hm.finished]
  guarded := by
    rcases closeBlock_eq_self_or m with hsame | ⟨b, rest, -, hclose⟩
    · rw [hsame, hm.guarded]
    · rw [hclose, hm.guarded]
  one_le_depth := hm.depth_closeBlock ▸ Nat.le_max_left 1 _

/-- Calls other than finishing leave the body open. -/
theorem after (hm : m.Unfinished) {call : MethodCall} (hcall : call ≠ .finish) :
    (m.after call).Unfinished := by
  cases call with
  | setVisibility visibility => exact ⟨hm.finished, hm.guarded, hm.one_le_depth⟩
  | setStatic isStatic => exact ⟨hm.finished, hm.guarded, hm.one_le_depth⟩
  | setReturnType type => exact ⟨hm.finished, hm.guarded, hm.one_le_depth⟩
  | addParameter type name =>
    rw [after_addParameter]
    exact ⟨hm.finished, hm.guarded, hm.one_le_depth⟩
  | addLine line => exact ⟨hm.finished, hm.guarded, hm.one_le_depth⟩
  | openHeaded header => exact ⟨hm.finished, hm.guarded, Nat.le_add_left 1 _⟩
  | openBare => exact ⟨hm.finished, hm.guarded, Nat.le_add_left 1 _⟩
  | closeBlock => exact hm.closeBlock
  | finish => exact absurd rfl hcall

theorem afterSteps (hm : m.Unfinished) {steps : List MethodStep}
    (hsteps : ∀ step ∈ steps, step.finishes = false) : (m.afterSteps steps).Unfinished := by
  induction steps generalizing m with
  | nil => exact hm
  | cons step rest ih =>
    refine ih ?_ fun other ho => hsteps other (List.mem_cons_of_mem _ ho)
    have hstep := hsteps step List.mem_cons_self
    cases step with
    | change call =>
      refine hm.after ?_
      rintro rfl
      exact absurd hstep (by decide)
    | render outer layout => exact absurd hstep (by simp [MethodStep.finishes])

theorem afterSteps_untilFinish (hm : m.Unfinished) (steps : List MethodStep) :
    (m.afterSteps (MethodStep.untilFinish steps)).Unfinished :=
  hm.afterSteps fun _ hs => MethodStep.finishes_of_mem_untilFinish hs

end Unfinished

/-! ## Methods that are finished -/

/-- A method that has been finished: no block in it is protected any more. -/
structure Finished (m : MethodDraft) : Prop where
  finished : m.finished = true
  guarded : m.blocks.guarded = 0

theorem Unfinished.finish (hm : m.Unfinished) : m.finish.Finished := by
  refine ⟨m.finished_finish, ?_⟩
  rw [MethodDraft.finish, if_neg (by simp [hm.finished])]
  rfl

namespace Finished

/-- What one step adds to a finished method. -/
structure Grows (m m' : MethodDraft) (step : MethodStep) : Prop where
  finished : m'.Finished
  depth : m'.depth = step.depthAfter m.depth
  lines : ∃ added, m'.lines = m.lines ++ added ∧ (step.adds = true → added ≠ []) ∧
    (step.adds = false → m.depth = 0 → added = [])

theorem grows_closeBlock (hm : m.Finished) : Grows m m.closeBlock (.change .closeBlock) := by
  cases hb : m.blocks.blocks with
  | nil =>
    have hzero : m.depth = 0 := congrArg List.length hb
    rw [closeBlock_of_le (by omega)]
    exact ⟨hm, by rw [MethodStep.depthAfter, hzero], [], (List.append_nil _).symm, nofun,
      fun _ _ => rfl⟩
  | cons b rest =>
    have hdepth : m.depth = rest.length + 1 := congrArg List.length hb
    rw [closeBlock_of_cons hb (by rw [hm.guarded]; omega)]
    exact ⟨⟨hm.finished, hm.guarded⟩, by rw [MethodStep.depthAfter, hdepth]; rfl,
      [(rest.length, r"}")], rfl, nofun, fun _ hzero => by omega⟩

theorem grows_afterStep (hm : m.Finished) (step : MethodStep) :
    Grows m (m.afterStep step) step := by
  have hsame : ∀ {m' : MethodDraft}, m'.Finished → m'.depth = step.depthAfter m.depth →
      m'.lines = m.lines → step.adds = false → Grows m m' step := by
    intro m' hfinished hdepth hlines hadds
    refine ⟨hfinished, hdepth, [], ?_, ?_, fun _ _ => rfl⟩
    · rw [hlines, List.append_nil]
    · rw [hadds]
      exact nofun
  have hmore : ∀ {m' : MethodDraft} (line : Nat × String), m'.Finished →
      m'.depth = step.depthAfter m.depth → m'.lines = m.lines ++ [line] → step.adds = true →
      Grows m m' step := by
    intro m' line hfinished hdepth hlines hadds
    refine ⟨hfinished, hdepth, [line], hlines, fun _ => List.cons_ne_nil _ _, ?_⟩
    rw [hadds]
    exact nofun
  cases step with
  | render outer layout =>
    rw [MethodDraft.afterStep, render, finish_of_finished hm.finished]
    exact hsame hm rfl rfl rfl
  | change call =>
    rw [MethodDraft.afterStep]
    cases call with
    | setVisibility visibility => exact hsame ⟨hm.finished, hm.guarded⟩ rfl rfl rfl
    | setStatic isStatic => exact hsame ⟨hm.finished, hm.guarded⟩ rfl rfl rfl
    | setReturnType type => exact hsame ⟨hm.finished, hm.guarded⟩ rfl rfl rfl
    | addParameter type name =>
      rw [after_addParameter]
      exact hsame ⟨hm.finished, hm.guarded⟩ rfl rfl rfl
    | addLine line => exact hmore (m.depth, line) ⟨hm.finished, hm.guarded⟩ rfl rfl rfl
    | openHeaded header =>
      exact hmore (m.depth, header ++ r" {") ⟨hm.finished, hm.guarded⟩ rfl rfl rfl
    | openBare => exact hmore (m.depth, r"{") ⟨hm.finished, hm.guarded⟩ rfl rfl rfl
    | closeBlock => exact hm.grows_closeBlock
    | finish =>
      have hfinish : m.after .finish = m := finish_of_finished hm.finished
      rw [hfinish]
      exact hsame hm rfl rfl rfl

/-- **Steps on a finished method only add lines** behind those that it has.  Where no block is
open, they add none exactly when no step is one that adds a line. -/
theorem afterSteps (hm : m.Finished) (steps : List MethodStep) :
    (m.afterSteps steps).Finished ∧
      (m.afterSteps steps).depth = steps.foldl MethodStep.depthAfter m.depth ∧
      ∃ added, (m.afterSteps steps).lines = m.lines ++ added ∧
        (m.depth = 0 → (added = [] ↔ ∀ step ∈ steps, step.adds = false)) := by
  induction steps generalizing m with
  | nil => exact ⟨hm, rfl, [], (List.append_nil _).symm, by simp⟩
  | cons step rest ih =>
    have hgrows := hm.grows_afterStep step
    obtain ⟨hlast, hdepth, more, hmore, hnone⟩ := ih hgrows.finished
    obtain ⟨first, hfirst, hadds, hquiet⟩ := hgrows.lines
    refine ⟨hlast, ?_, first ++ more, ?_, ?_⟩
    · rw [List.foldl_cons, ← hgrows.depth]
      exact hdepth
    · rw [← List.append_assoc, ← hfirst]
      exact hmore
    · intro hzero
      rw [List.append_eq_nil_iff, List.forall_mem_cons]
      cases hstep : step.adds with
      | true => simp [hadds hstep]
      | false =>
        -- a step that adds no line opens no block either
        have hstill : (m.afterStep step).depth = 0 := by
          rw [hgrows.depth, hzero, MethodStep.depthAfter_zero hstep]
        simp [hquiet hstep hzero, hnone hstill]

end Finished

/-! ## Before and after the first finish -/

/-- The brace of the body is the last of the braces that close everything. -/
theorem closers_succ_eq_append (n : Nat) : ∃ inner, closers (n + 1) = inner ++ [(0, r"}")] := by
  induction n with
  | zero => exact ⟨[], rfl⟩
  | succ n ih =>
    obtain ⟨inner, hinner⟩ := ih
    exact ⟨(n + 1, r"}") :: inner, by rw [closers, hinner, List.cons_append]⟩

theorem afterStep_of_finishes {step : MethodStep} (h : step.finishes = true) :
    m.afterStep step = m.finish := by
  cases step with
  | render outer layout => rfl
  | change call =>
    cases call with
    | finish => rfl
    | _ => exact absurd h (by simp [MethodStep.finishes])

/-- Finishing a method at the end makes the same of it as finishing it where it was finished
first. -/
theorem Unfinished.finish_afterSteps (hm : m.Unfinished) (steps : List MethodStep) :
    (m.afterSteps steps).finish =
      (m.afterSteps (MethodStep.untilFinish steps)).finish.afterSteps
        (MethodStep.sinceFinish steps) := by
  have hsplit : m.afterSteps steps =
      (m.afterSteps (MethodStep.untilFinish steps)).afterSteps (MethodStep.sinceFinish steps) := by
    rw [← afterSteps_append, MethodStep.untilFinish, MethodStep.sinceFinish,
      List.takeWhile_append_dropWhile]
  have hearly := hm.afterSteps_untilFinish steps
  rw [hsplit]
  generalize m.afterSteps (MethodStep.untilFinish steps) = early at hearly
  cases hlate : MethodStep.sinceFinish steps with
  | nil => rfl
  | cons first rest =>
    have hfirst : first.finishes = true := by
      have hhead := List.head?_dropWhile_not (fun step : MethodStep => !step.finishes) steps
      rw [← MethodStep.sinceFinish, hlate] at hhead
      simpa using hhead
    have hfinished := hearly.finish
    rw [MethodDraft.afterSteps, List.foldl_cons, afterStep_of_finishes hfirst,
      MethodDraft.afterSteps, List.foldl_cons, afterStep_of_finishes hfirst,
      finish_of_finished hfinished.finished]
    exact finish_of_finished (hfinished.afterSteps rest).1.finished

/-- The lines of a method, wherever it was finished: those of the steps before the first finish,
the braces that were missing then, the last of which closes the body, and what was added since. -/
theorem Unfinished.lines_finish_afterSteps (hm : m.Unfinished) (steps : List MethodStep) :
    ∃ above added,
      (m.afterSteps (MethodStep.untilFinish steps)).lines <+: above ∧
      (m.afterSteps steps).finish.lines = above ++ (0, r"}") :: added ∧
      (added = [] ↔ ∀ step ∈ MethodStep.sinceFinish steps, step.adds = false) ∧
      (m.afterSteps steps).finish.depth = MethodStep.reopened steps := by
  have hearly := hm.afterSteps_untilFinish steps
  rw [hm.finish_afterSteps steps]
  generalize m.afterSteps (MethodStep.untilFinish steps) = early at hearly
  obtain ⟨-, hdepth, added, hadded, hnone⟩ :=
    hearly.finish.afterSteps (MethodStep.sinceFinish steps)
  have hzero := depth_finish hearly.finished
  obtain ⟨nested, hnested⟩ := Nat.exists_eq_add_of_le' hearly.one_le_depth
  obtain ⟨inner, hinner⟩ := closers_succ_eq_append nested
  rw [hzero] at hdepth
  rw [lines_finish hearly.finished, hnested, hinner] at hadded
  exact ⟨early.lines ++ inner, added, List.prefix_append _ _, by simpa using hadded, hnone hzero,
    hdepth⟩

/-! ## Braces -/

/-- A method whose braces lead from its open body to the blocks that are open in it, finished or
not. -/
def Tracked (m : MethodDraft) : Prop :=
  ({ m with finished := false } : MethodDraft).Balanced

/-- Only finishing a method asks whether it was finished before. -/
theorem after_unfinished {call : MethodCall} (hcall : call ≠ .finish) :
    ({ m with finished := false } : MethodDraft).after call =
      { m.after call with finished := false } := by
  cases call with
  | addParameter type name => rw [after_addParameter, after_addParameter]
  | closeBlock =>
    cases hb : m.blocks.blocks with
    | nil => simp [after, after?, closeBlock, BlockStack.pop, hb]
    | cons b rest =>
      simp only [after, after?, closeBlock, BlockStack.pop, hb]
      split <;> rfl
  | finish => exact absurd rfl hcall
  | _ => rfl

namespace Tracked

theorem of_balanced (hm : m.Balanced) : m.Tracked :=
  ⟨hm.name, hm.returnType, hm.parameters, hm.lines, nofun⟩

/-- Every call keeps a method tracked: one that is finished already is not finished again. -/
theorem after (hm : m.Tracked) {call : MethodCall} (hfree : ∀ text ∈ call.texts, BraceFree text) :
    (m.after call).Tracked := by
  by_cases hcall : call = .finish
  · subst hcall
    have hfinish : m.after .finish = m.finish := rfl
    rw [hfinish]
    cases hf : m.finished with
    | true => rwa [finish_of_finished hf]
    | false =>
      have hbalanced : m.Balanced := by
        have h : ({ m with finished := false } : MethodDraft).Balanced := hm
        rwa [← hf] at h
      exact of_balanced hbalanced.finish
  · rw [Tracked, ← after_unfinished hcall]
    cases hafter : ({ m with finished := false } : MethodDraft).after? call with
    | error e =>
      rw [MethodDraft.after, hafter]
      exact hm
    | ok m' =>
      rw [after_of_ok hafter]
      exact hm.after? hfree (fun _ => rfl) hafter

theorem finish (hm : m.Tracked) : m.finish.Tracked :=
  hm.after (show ∀ text ∈ MethodCall.finish.texts, BraceFree text from nofun)

theorem afterSteps (hm : m.Tracked) {steps : List MethodStep}
    (hfree : ∀ step ∈ steps, ∀ text ∈ step.texts, BraceFree text) :
    (m.afterSteps steps).Tracked := by
  induction steps generalizing m with
  | nil => exact hm
  | cons step rest ih =>
    refine ih ?_ fun other ho => hfree other (List.mem_cons_of_mem _ ho)
    cases step with
    | change call => exact hm.after (hfree (.change call) List.mem_cons_self)
    | render outer layout => exact hm.finish

/-- The text of a method nests from every depth to the blocks that are open in it. -/
theorem nests_text (hm : m.Tracked) {l : Layout} (hl : l.BraceFree) (outer depth : Nat) :
    Nests depth (braces (m.text l outer)) (depth + m.depth) :=
  Balanced.nests_text hm hl outer depth

end Tracked

/-! ## Showing a method -/

/-- **What is shown of a method**, after any steps that supply no braces: its head, the lines up to
the first finish, the brace of the body as the last of the braces that were missing then, and what
was added since.  Nothing was added exactly when no step since then is one that adds a line.  The
text never closes more blocks than it opens, and its braces match exactly when the blocks that
were opened since the first finish are closed again. -/
theorem text_render_afterSteps {name : String} (hname : BraceFree name) (hnew : new? name = .ok m)
    {steps : List MethodStep} (hfree : ∀ step ∈ steps, ∀ text ∈ step.texts, BraceFree text)
    {l : Layout} (hl : l.BraceFree) (outer : Nat) :
    ∃ text above added,
      ((m.afterSteps steps).render l outer).1 = text ∧
      text = l.lineSeparator ++ l.indented outer ((m.afterSteps steps).signature ++ r" {")
        ++ l.lineSeparator ++ lineText l outer (above ++ (0, r"}") :: added) ∧
      (m.afterSteps (MethodStep.untilFinish steps)).lines <+: above ∧
      (added = [] ↔ ∀ step ∈ MethodStep.sinceFinish steps, step.adds = false) ∧
      (∀ p, p <+: text.toList → p.count '}' ≤ p.count '{') ∧
      (text.toList.count '{' = text.toList.count '}' ↔ MethodStep.reopened steps = 0) := by
  obtain ⟨above, added, habove, hlines, hadded, hdepth⟩ :=
    (Unfinished.new hnew).lines_finish_afterSteps steps
  have htracked : (m.afterSteps steps).finish.Tracked :=
    ((Tracked.of_balanced (.new hname hnew)).afterSteps hfree).finish
  have hnests := htracked.nests_text hl outer 0
  rw [Nat.zero_add, hdepth] at hnests
  refine ⟨(m.afterSteps steps).finish.text l outer, above, added, rfl, ?_, habove, hadded,
    fun p => hnests.count_le_of_prefix, ?_⟩
  · rw [text, signature_finish, hlines]
  · have hcount := hnests.depth_eq
    omega

/-- A block that is opened before a method is shown, and another one behind it. -/
def lateSteps : List MethodStep :=
  [.change (.openHeaded "if (ready)"), .render 1 {}, .change (.openHeaded "while (more)"),
    .change (.addLine "next();")]

theorem text_render_afterSteps_lateSteps :
    ∃ m text above added, new? "run" = .ok m ∧ ((m.afterSteps lateSteps).render {} 0).1 = text ∧
      text = "\nvoid run()" ++ r" {" ++ "\n" ++ lineText {} 0 (above ++ (0, r"}") :: added) ∧
      [(1, r"if (ready) {")] <+: above ∧ added ≠ [] ∧
      (∀ p, p <+: text.toList → p.count '}' ≤ p.count '{') ∧
      text.toList.count '{' ≠ text.toList.count '}' := by
  obtain ⟨text, above, added, htext, hlines, habove, hadded, hprefix, hcount⟩ :=
    text_render_afterSteps (show BraceFree "run" by decide) rfl
      (show ∀ step ∈ lateSteps, ∀ text ∈ step.texts, BraceFree text by decide)
      (show Layout.BraceFree {} from ⟨by decide, by decide⟩) 0
  refine ⟨_, text, above, added, rfl, htext, hlines, habove, ?_, hprefix, ?_⟩
  · exact fun hnil => absurd (hadded.mp hnil) (by decide)
  · exact fun heq => absurd (hcount.mp heq) (by decide)

/-- **A method that goes on after it was shown is not shown whole again.**  A block that is opened
then stays open, and a line that is added then stands behind the brace of the body. -/
theorem run_reopened_is_not_whole :
    ∃ m, new? "run" = .ok m ∧
      ((m.afterSteps [.render 0 {}, .change .openBare]).render {} 0).1 =
        "\nvoid run()" ++ r" {" ++ "\n" ++ r"}" ++ "\n" ++ r"{" ++ "\n" ∧
      ((m.afterSteps [.change .finish, .change (.addLine "next();")]).render {} 0).1 =
        "\nvoid run()" ++ r" {" ++ "\n" ++ r"}" ++ "\nnext();\n" :=
  ⟨_, rfl, by decide +kernel, by decide +kernel⟩

end MethodDraft
end Draft
end BeanBuilder
