import BeanBuilder.Proofs.Draft.Braces

/-! # Balanced drafts and sessions

A draft is *balanced* when its braces lead from nothing to the blocks that it has open.  Every
call keeps a method balanced (`MethodDraft.Balanced.after?`) except one that opens a block in a
finished method: finishing closes blocks only once.  Every call keeps a source file balanced
(`SourceDraft.Balanced.after?`), and so does a balanced method that is put into it, since it is
finished first.

So the source file of a session stays balanced through all calls whose texts are free of braces,
as long as no finished method is opened again (`Session.Balanced.run`).
-/
namespace BeanBuilder
namespace Draft

/-! ## Methods -/

namespace MethodDraft

/-- A balanced method.  The texts of its head are free of braces, and the lines of its body lead
from the open body to the blocks that are open now. -/
structure Balanced (m : MethodDraft) : Prop where
  name : BraceFree m.name
  returnType : ∀ type ∈ m.returnType, BraceFree type
  parameters : ∀ parameter ∈ m.parameters, BraceFree parameter.1 ∧ BraceFree parameter.2
  lines : Nests 1 (lineBraces m.lines) m.depth
  /-- Once it is finished, no block is open again. -/
  finished : m.finished = true → m.depth = 0

namespace Balanced

variable {m m' : MethodDraft}

theorem new {name : String} (hn : BraceFree name) (h : new? name = .ok m) : m.Balanced := by
  obtain ⟨-, rfl⟩ := new?_eq_ok_iff.mp h
  exact ⟨hn, nofun, nofun, .nil 1, nofun⟩

/-- A line without braces keeps a method balanced. -/
theorem addLine (hm : m.Balanced) {line : String} (hl : BraceFree line) :
    (m.addLine line).Balanced := by
  refine ⟨hm.name, hm.returnType, hm.parameters, ?_, hm.finished⟩
  have hlines := hm.lines
  rw [MethodDraft.addLine, lineBraces_append, lineBraces_singleton, hl.braces_eq, List.append_nil]
  exact hlines

/-- So does the line that opens a block, as long as the method is not finished. -/
theorem openBlock (hm : m.Balanced) (hopen : m.finished = false) {line : String}
    (hl : braces line = ['{']) (block : Block) :
    ({ m.addLine line with blocks := m.blocks.push block } : MethodDraft).Balanced := by
  refine ⟨hm.name, hm.returnType, hm.parameters, ?_, ?_⟩
  · have hlines := hm.lines.append (.opening (.nil (m.depth + 1)))
    simp only [MethodDraft.addLine, lineBraces_append, lineBraces_singleton, hl]
    exact hlines
  · intro hf
    rw [show m.finished = true from hf] at hopen
    cases hopen

theorem closeBlock (hm : m.Balanced) : m.closeBlock.Balanced := by
  rcases m.closeBlock_eq_self_or with heq | ⟨b, rest, hb, heq⟩
  · rw [heq]
    exact hm
  · have hd : m.depth = rest.length + 1 := congrArg List.length hb
    rw [heq]
    refine ⟨hm.name, hm.returnType, hm.parameters, ?_, ?_⟩
    · have hlines := hm.lines
      rw [hd] at hlines
      simp only [lineBraces_append, lineBraces_singleton, braces_closing]
      exact hlines.append (.closing (.nil _))
    · intro hf
      have hzero := hm.finished hf
      omega

theorem finish (hm : m.Balanced) : m.finish.Balanced := by
  by_cases hf : m.finished = true
  · rw [finish_of_finished hf]
    exact hm
  · have hopen : m.finished = false := Bool.eq_false_iff.mpr hf
    have hlines : Nests 1 (lineBraces m.finish.lines) m.finish.depth := by
      rw [lines_finish hopen, depth_finish hopen, lineBraces_append]
      exact hm.lines.append (nests_closers m.depth)
    have hdepth := depth_finish hopen
    simp only [MethodDraft.finish, if_neg hf] at hlines hdepth ⊢
    exact ⟨hm.name, hm.returnType, hm.parameters, hlines, fun _ => hdepth⟩

/-- **Calls keep a method balanced**, unless one opens a block in a finished method. -/
theorem after? (hm : m.Balanced) {call : MethodCall} (hfree : ∀ text ∈ call.texts, BraceFree text)
    (hopen : call.opens = true → m.finished = false) (h : m.after? call = .ok m') :
    m'.Balanced := by
  cases call with
  | setVisibility visibility =>
    obtain rfl := except_ok_eq_ok_iff.mp h
    exact ⟨hm.name, hm.returnType, hm.parameters, hm.lines, hm.finished⟩
  | setStatic isStatic =>
    obtain rfl := except_ok_eq_ok_iff.mp h
    exact ⟨hm.name, hm.returnType, hm.parameters, hm.lines, hm.finished⟩
  | setReturnType type =>
    obtain rfl := except_ok_eq_ok_iff.mp h
    exact ⟨hm.name, fun t ht => hfree t (Option.mem_toList.mpr ht), hm.parameters, hm.lines,
      hm.finished⟩
  | addParameter type name =>
    obtain ⟨-, rfl⟩ := addParameter?_eq_ok_iff.mp h
    refine ⟨hm.name, hm.returnType, ?_, hm.lines, hm.finished⟩
    intro parameter hp
    rcases List.mem_append.mp hp with hold | hnew
    · exact hm.parameters parameter hold
    · rw [List.mem_singleton.mp hnew]
      exact ⟨hfree type List.mem_cons_self, hfree name (List.mem_cons_of_mem _ List.mem_cons_self)⟩
  | addLine line =>
    obtain rfl := except_ok_eq_ok_iff.mp h
    exact hm.addLine (hfree line List.mem_cons_self)
  | openHeaded header =>
    obtain rfl := except_ok_eq_ok_iff.mp h
    have hline : braces (header ++ r" {") = ['{'] := by
      rw [braces_append, (hfree header List.mem_cons_self).braces_eq]
      decide
    exact hm.openBlock (hopen rfl) hline _
  | openBare =>
    obtain rfl := except_ok_eq_ok_iff.mp h
    exact hm.openBlock (hopen rfl) braces_opening _
  | closeBlock =>
    obtain rfl := except_ok_eq_ok_iff.mp h
    exact hm.closeBlock
  | finish =>
    obtain rfl := except_ok_eq_ok_iff.mp h
    exact hm.finish

theorem braces_signature (hm : m.Balanced) : braces m.signature = [] := by
  have hparameters : braces m.parameterText = [] := by
    apply braces_joinStrings (by decide)
    intro piece hpiece
    obtain ⟨parameter, hp, rfl⟩ := List.mem_map.mp hpiece
    have hfree := hm.parameters parameter hp
    rw [braces_append, braces_append, hfree.1.braces_eq, hfree.2.braces_eq]
    decide
  have hreturn : braces m.returnText = [] := by
    unfold returnText
    split
    · decide
    · rename_i type htype
      split
      · decide
      · exact (hm.returnType type htype).braces_eq
  have hstatic : braces (if m.isStatic then "static " else "") = [] := by
    split <;> decide
  simp only [signature, braces_append, braces_modifier, hstatic, hreturn, hm.name.braces_eq,
    hparameters, List.append_nil]
  decide

/-- The text of a method nests from every depth to the blocks that are open in it. -/
theorem nests_text (hm : m.Balanced) {l : Layout} (hl : l.BraceFree) (outer depth : Nat) :
    Nests depth (braces (m.text l outer)) (depth + m.depth) := by
  have hopen : braces r" {" = ['{'] := by decide
  have hlines := hm.lines.inside depth
  simp only [text, braces_append, hl.braces_lineSeparator, hl.braces_indented, hm.braces_signature,
    hopen, hl.braces_lineText, List.nil_append, List.append_nil]
  exact .opening hlines

end Balanced
end MethodDraft

/-! ## Source files -/

namespace SourceDraft

/-- A balanced source file: its text leads from no open block to those that are open now. -/
structure Balanced (d : SourceDraft) : Prop where
  layout : d.layout.BraceFree
  guarded : d.blocks.guarded = 0
  text : Nests 0 (braces d.text) d.depth

namespace Balanced

variable {d d' : SourceDraft}

theorem empty {l : Layout} (hl : l.BraceFree) : ({ layout := l } : SourceDraft).Balanced :=
  ⟨hl, rfl, .nil 0⟩

theorem append (hd : d.Balanced) {text : String} (ht : Nests d.depth (braces text) d.depth) :
    (d.append text).Balanced := by
  refine ⟨hd.layout, hd.guarded, ?_⟩
  rw [text_append, braces_append, depth_append]
  exact hd.text.append ht

theorem addMethod (hd : d.Balanced) {m : MethodDraft} (hm : m.Balanced) :
    (d.addMethod m).Balanced := by
  -- the method is finished first, so no block is open at the end of its text
  have htext := hm.finish.nests_text hd.layout d.depth d.depth
  rw [hm.finish.finished m.finished_finish] at htext
  exact hd.append htext

/-- Closing a block writes one brace, and nothing where no block is open. -/
theorem closeBlock (hd : d.Balanced) :
    d.closeBlock.Balanced ∧ d.closeBlock.depth = d.depth - 1 := by
  cases hb : d.blocks.blocks with
  | nil =>
    have hzero : d.depth = 0 := congrArg List.length hb
    rw [closeBlock_of_depth_eq_zero hzero, hzero]
    exact ⟨hd, rfl⟩
  | cons b rest =>
    have hdepth : d.depth = rest.length + 1 := congrArg List.length hb
    have htext := hd.text
    rw [hdepth] at htext
    -- besides the brace only blanks and a line end are written
    rw [closeBlock_of_open hb hd.guarded, hdepth]
    refine ⟨⟨hd.layout, hd.guarded, ?_⟩, rfl⟩
    have hend : braces (if rest = [] then "" else d.layout.lineSeparator) = [] := by
      split
      · rfl
      · exact hd.layout.braces_lineSeparator
    simp only [text_append, braces_append, hd.layout.braces_indented, braces_closing, hend]
    exact htext.append (.closing (.nil _))

/-- **Calls keep a source file balanced.** -/
theorem after? (hd : d.Balanced) {call : SourceCall} (hfree : ∀ text ∈ call.texts, BraceFree text)
    (h : d.after? call = .ok d') : d'.Balanced := by
  by_cases hc : call = .closeBlock
  · subst hc
    obtain rfl := except_ok_eq_ok_iff.mp h
    exact hd.closeBlock.1
  · obtain ⟨-, rfl⟩ := (after?_eq_ok_iff call hc).mp h
    have hwrites := SourceCall.braces_writes hd.layout d.depth hfree
    cases hopens : call.opens? with
    | none =>
      rw [extended_none]
      refine hd.append ?_
      rw [hwrites, hopens]
      exact .nil _
    | some block =>
      refine ⟨hd.layout, hd.guarded, ?_⟩
      rw [text_extended, braces_append, hwrites, hopens]
      exact hd.text.append (.opening (.nil _))

theorem closeBlocks (hd : d.Balanced) (n : Nat) :
    (d.closeBlocks n).Balanced ∧ (d.closeBlocks n).depth = d.depth - n := by
  induction n generalizing d with
  | zero => exact ⟨hd, rfl⟩
  | succ n ih =>
    obtain ⟨hclose, hdepth⟩ := hd.closeBlock
    obtain ⟨hrest, hlast⟩ := ih hclose
    refine ⟨hrest, hlast.trans ?_⟩
    omega

theorem closeAll (hd : d.Balanced) : d.closeAll.Balanced ∧ d.closeAll.depth = 0 := by
  obtain ⟨hall, hdepth⟩ := hd.closeBlocks d.depth
  exact ⟨hall, hdepth.trans (Nat.sub_self _)⟩

end Balanced

/-- Where no block is open, showing the draft changes nothing. -/
theorem render_of_depth_eq_zero {d : SourceDraft} (h : d.depth = 0) : d.render = (d.text, d) := by
  rw [render, closeAll, h, closeBlocks]

end SourceDraft

/-! ## Sessions -/

/-- The texts that a caller supplies for the source file or for a method.  The layout in which a
method is shown on its own is not among them: it does not reach the source file. -/
def Call.texts : Call → List String
  | .source call => call.texts
  | .newMethod _ name => [name]
  | .method _ call => call.texts
  | .addMethod _ | .renderSource | .methodSignature _ | .renderMethod .. => []

/-- A call that supplies no braces. -/
def Call.BraceFree (call : Call) : Prop :=
  ∀ text ∈ call.texts, Draft.BraceFree text

instance (call : Call) : Decidable call.BraceFree :=
  inferInstanceAs (Decidable (∀ text ∈ call.texts, Draft.BraceFree text))

namespace Session

variable {s : Session} {call : Call}

/-- The session in which nothing has been written. -/
def start (l : Layout) : Session where
  source := { layout := l }

/-- The session after a call, also after one that is refused. -/
def after (s : Session) (call : Call) : Session :=
  match s.step? call with
  | .ok (_, s') => s'
  | .error _ => s

/-- The answer to a call. -/
def answer (s : Session) (call : Call) : Except Refusal Reply :=
  (s.step? call).map Prod.fst

theorem run_cons (s : Session) (call : Call) (calls : List Call) :
    s.run (call :: calls) =
      (s.answer call :: ((s.after call).run calls).1, ((s.after call).run calls).2) := by
  rw [run, answer, after]
  cases s.step? call <;> rfl

theorem run_append (s : Session) (calls more : List Call) :
    s.run (calls ++ more) =
      ((s.run calls).1 ++ ((s.run calls).2.run more).1, ((s.run calls).2.run more).2) := by
  induction calls generalizing s with
  | nil => rfl
  | cons call calls ih => rw [List.cons_append, run_cons, ih, run_cons, List.cons_append]

theorem length_run (s : Session) (calls : List Call) : (s.run calls).1.length = calls.length := by
  induction calls generalizing s with
  | nil => rfl
  | cons call calls ih => rw [run_cons, List.length_cons, ih, List.length_cons]

/-- Whether a call opens a block in a method that was finished before. -/
def reopens (s : Session) : Call → Bool
  | .method key call => call.opens && (s.methods.get? key).any MethodDraft.finished
  | _ => false

/-- No call of a run opens a block in a method that was finished before. -/
def NeverReopens : Session → List Call → Prop
  | _, [] => True
  | s, call :: calls => s.reopens call = false ∧ (s.after call).NeverReopens calls

instance : (s : Session) → (calls : List Call) → Decidable (s.NeverReopens calls)
  | _, [] => inferInstanceAs (Decidable True)
  | s, call :: calls =>
    have := instDecidableNeverReopens (s.after call) calls
    inferInstanceAs (Decidable (_ ∧ _))

theorem NeverReopens.of_append {calls more : List Call} (h : s.NeverReopens (calls ++ more)) :
    s.NeverReopens calls := by
  induction calls generalizing s with
  | nil => exact trivial
  | cons call calls ih => exact ⟨h.1, ih h.2⟩

/-- A session in which everything is balanced. -/
structure Balanced (s : Session) : Prop where
  source : s.source.Balanced
  methods : ∀ key m, s.methods.get? key = some m → m.Balanced

theorem method?_eq_ok_iff {key : String} {m : MethodDraft} :
    s.method? key = .ok m ↔ s.methods.get? key = some m := by
  rw [method?]
  cases s.methods.get? key <;> simp

namespace Balanced

theorem start {l : Layout} (hl : l.BraceFree) : (start l).Balanced :=
  ⟨.empty hl, nofun⟩

theorem withSource (hs : s.Balanced) {source : SourceDraft} (hsource : source.Balanced) :
    ({ s with source } : Session).Balanced :=
  ⟨hsource, hs.methods⟩

theorem putMethod (hs : s.Balanced) (key : String) {m : MethodDraft} (hm : m.Balanced) :
    (s.putMethod key m).Balanced := by
  refine ⟨hs.source, ?_⟩
  intro other m' hget
  rw [Session.putMethod, OrderedMap.get?_insert] at hget
  split at hget
  · exact Option.some.inj hget ▸ hm
  · exact hs.methods other m' hget

theorem method? (hs : s.Balanced) {key : String} {m : MethodDraft} (h : s.method? key = .ok m) :
    m.Balanced :=
  hs.methods key m (method?_eq_ok_iff.mp h)

theorem step? (hs : s.Balanced) (hfree : call.BraceFree) (hopen : s.reopens call = false)
    {reply : Reply} {s' : Session} (h : s.step? call = .ok (reply, s')) : s'.Balanced := by
  cases call with
  | source call =>
    obtain ⟨source, hsource, h⟩ := except_bind_eq_ok_iff.mp h
    obtain ⟨-, rfl⟩ := Prod.mk.inj (except_pure_eq_ok_iff.mp h)
    exact hs.withSource (hs.source.after? hfree (mapError_eq_ok_iff.mp hsource))
  | addMethod key =>
    obtain ⟨m, hm, h⟩ := except_bind_eq_ok_iff.mp h
    obtain ⟨-, rfl⟩ := Prod.mk.inj (except_pure_eq_ok_iff.mp h)
    -- the method is finished first, so its text ends at the depth where it begins
    have hput := hs.putMethod key (hs.method? hm).finish
    exact hput.withSource (hs.source.addMethod (hs.method? hm))
  | renderSource =>
    obtain ⟨-, rfl⟩ := Prod.mk.inj (except_ok_eq_ok_iff.mp h)
    exact hs.withSource hs.source.closeAll.1
  | newMethod key name =>
    obtain ⟨m, hm, h⟩ := except_bind_eq_ok_iff.mp h
    obtain ⟨-, rfl⟩ := Prod.mk.inj (except_pure_eq_ok_iff.mp h)
    exact hs.putMethod key (.new (hfree name List.mem_cons_self) (mapError_eq_ok_iff.mp hm))
  | method key call =>
    obtain ⟨m, hm, h⟩ := except_bind_eq_ok_iff.mp h
    obtain ⟨m', hm', h⟩ := except_bind_eq_ok_iff.mp h
    obtain ⟨-, rfl⟩ := Prod.mk.inj (except_pure_eq_ok_iff.mp h)
    have hfinished : call.opens = true → m.finished = false := by
      intro ho
      simpa [reopens, ho, method?_eq_ok_iff.mp hm] using hopen
    exact hs.putMethod key ((hs.method? hm).after? hfree hfinished (mapError_eq_ok_iff.mp hm'))
  | methodSignature key =>
    obtain ⟨m, -, h⟩ := except_bind_eq_ok_iff.mp h
    obtain ⟨-, rfl⟩ := Prod.mk.inj (except_pure_eq_ok_iff.mp h)
    exact hs
  | renderMethod key outer layout =>
    obtain ⟨m, hm, h⟩ := except_bind_eq_ok_iff.mp h
    obtain ⟨-, rfl⟩ := Prod.mk.inj (except_pure_eq_ok_iff.mp h)
    exact hs.putMethod key (hs.method? hm).finish

theorem after (hs : s.Balanced) (hfree : call.BraceFree) (hopen : s.reopens call = false) :
    (s.after call).Balanced := by
  unfold Session.after
  split
  · rename_i h
    exact hs.step? hfree hopen h
  · exact hs

/-- **A session stays balanced** through calls that supply no braces and never open a finished
method again. -/
theorem run {calls : List Call} (hs : s.Balanced) (hfree : ∀ call ∈ calls, call.BraceFree)
    (hopen : s.NeverReopens calls) : (s.run calls).2.Balanced := by
  induction calls generalizing s with
  | nil => exact hs
  | cons call calls ih =>
    rw [run_cons]
    -- one call keeps the session balanced, and the rest of the run starts from there
    refine ih (hs.after (hfree call List.mem_cons_self) hopen.1) ?_ hopen.2
    intro other ho
    exact hfree other (List.mem_cons_of_mem _ ho)

end Balanced

/-! ## Showing and closing -/

/-- What a reader of the source file sees of its braces. -/
structure BracesMatch (s : Session) : Prop where
  /-- The depth is the number of opening braces that are not closed. -/
  depth_eq : (s.source.depth : Int) =
    s.source.text.toList.count '{' - s.source.text.toList.count '}'
  /-- No beginning of the text closes more than it opens. -/
  count_le : ∀ p, p <+: s.source.text.toList → p.count '}' ≤ p.count '{'
  /-- Showing the source file closes every block, and showing it again changes nothing. -/
  shown : ∃ text s', s.step? .renderSource = .ok (.shown text 0, s') ∧ s'.source.depth = 0 ∧
    text.toList.count '{' = text.toList.count '}' ∧
    s'.step? .renderSource = .ok (.shown text 0, s')

theorem Balanced.bracesMatch (hs : s.Balanced) : s.BracesMatch := by
  obtain ⟨hall, hzero⟩ := hs.source.closeAll
  refine ⟨hs.source.text.depth_eq, fun p => hs.source.text.count_le_of_prefix, ?_⟩
  refine ⟨s.source.closeAll.text, { s with source := s.source.closeAll }, ?_, hzero, ?_, ?_⟩
  · simp only [Session.step?, SourceDraft.render, hzero]
  · have hdepth := hall.text.depth_eq
    omega
  · simp only [Session.step?, SourceDraft.render_of_depth_eq_zero hzero, hzero]

/-- A call that leaves the source file as it is adds no text. -/
theorem reportAdded_self (d : SourceDraft) : reportAdded d d = .added "" d.depth := by
  have hdrop : (d.text.drop d.text.length).toString = "" := by
    rw [← String.toList_inj, ← String.length_toList]
    simp
  rw [reportAdded, hdrop]

/-- Closing a block where none is open adds no text and changes nothing. -/
theorem run_closeBlock_cons (h : s.source.depth = 0) (calls : List Call) :
    s.run (.source .closeBlock :: calls) =
      (.ok (.added "" 0) :: (s.run calls).1, (s.run calls).2) := by
  have hstep : s.step? (.source .closeBlock) = .ok (.added "" 0, s) := by
    have hclose : s.source.after? .closeBlock = .ok s.source :=
      congrArg _ (SourceDraft.closeBlock_of_depth_eq_zero h)
    rw [step?, hclose, ← h, ← reportAdded_self]
    rfl
  rw [run, hstep]

theorem insertIdx_length_append {α : Type} (xs ys : List α) (a : α) :
    (xs ++ ys).insertIdx xs.length a = xs ++ a :: ys := by
  induction xs with
  | nil => rfl
  | cons x xs ih => rw [List.cons_append, List.length_cons, List.insertIdx_succ_cons, ih]; rfl

/-- **Braces match throughout a session.**  After any calls that supply no braces and never open a
finished method again, the braces of the source file match its depth; and where no block is open,
one more call that closes a block changes nothing but that it is answered. -/
theorem bracesMatch_run {l : Layout} (hl : l.BraceFree) {before rest : List Call}
    (hfree : ∀ call ∈ before ++ rest, call.BraceFree)
    (hopen : (start l).NeverReopens (before ++ rest)) :
    ((start l).run before).2.BracesMatch ∧
      (((start l).run before).2.source.depth = 0 →
        (start l).run (before ++ .source .closeBlock :: rest) =
          (((start l).run (before ++ rest)).1.insertIdx before.length (.ok (.added "" 0)),
            ((start l).run (before ++ rest)).2)) := by
  have hbefore : ∀ call ∈ before, call.BraceFree := by
    intro call hc
    exact hfree call (List.mem_append_left rest hc)
  refine ⟨((Balanced.start hl).run hbefore hopen.of_append).bracesMatch, ?_⟩
  intro hzero
  rw [run_append, run_append, run_closeBlock_cons hzero, ← length_run (start l) before,
    insertIdx_length_append]

/-- Calls that finish a method early, show it twice and close more blocks than are open. -/
def sampleCalls : List Call :=
  [.newMethod "m" "run", .method "m" (.openHeaded "if (ready)"), .renderMethod "m" 0 {},
    .source .closeBlock, .source (.defineClass .everyone "Task" none), .addMethod "m",
    .renderSource]

theorem bracesMatch_run_sampleCalls :
    ((start {}).run sampleCalls).2.BracesMatch ∧
      (start {}).run (sampleCalls ++ [.source .closeBlock, .addMethod "m"]) =
        (((start {}).run (sampleCalls ++ [.addMethod "m"])).1.insertIdx 7 (.ok (.added "" 0)),
          ((start {}).run (sampleCalls ++ [.addMethod "m"])).2) := by
  have h := @bracesMatch_run {} ⟨by decide, by decide⟩ sampleCalls [.addMethod "m"] (by decide)
    (by decide)
  exact ⟨h.1, h.2 (by decide)⟩

end Session
end Draft
end BeanBuilder
