import BeanBuilder.Proofs.Draft.Balance
import BeanBuilder.Proofs.Draft.Stepwise

/-! # Refused calls

A call is refused for a name exactly when the method that it is made on exists and one of its names
is empty or holds a blank (`Session.exists_step?_eq_literal_iff`).  In a run that is carried out
statement by statement and goes on after every refusal (`Session.play`), the refused calls leave no
trace: the answers to the others and the session at the end are those of a run of the others alone
(`Session.play_withoutRefused`).
-/
namespace BeanBuilder

/-! ## Names that cannot be used -/

/-- A name that is no literal is empty or holds a blank. -/
theorem isLiteral_ne_true_iff {s : String} :
    ¬isLiteral s = true ↔ s = "" ∨ ∃ c ∈ s.toList, Text.isBlank c = true := by
  simp only [isLiteral, Bool.and_eq_true, Bool.not_eq_true', List.isEmpty_eq_false_iff,
    List.all_eq_true, not_and_or, not_not, not_forall]
  refine or_congr String.toList_eq_nil_iff ?_
  simp

namespace Draft

/-- The names that have to be literals for a call on a method to succeed. -/
def MethodCall.names : MethodCall → List String
  | .addParameter _ name => [name]
  | .setVisibility _ | .setStatic _ | .setReturnType _ | .addLine _ | .openHeaded _ | .openBare
  | .closeBlock | .finish => []

namespace Call

/-- The names that have to be literals for a call to succeed. -/
def names : Call → List String
  | .source call => call.names
  | .newMethod _ name => [name]
  | .method _ call => call.names
  | .addMethod _ | .renderSource | .methodSignature _ | .renderMethod .. => []

/-- The method that has to exist for a call. -/
def key? : Call → Option String
  | .addMethod key | .method key _ | .methodSignature key | .renderMethod key _ _ => some key
  | .source _ | .renderSource | .newMethod _ _ => none

end Call

theorem SourceDraft.exists_after?_eq_error_iff {d : SourceDraft} {call : SourceCall} :
    (∃ e, d.after? call = .error e) ↔ ∃ name ∈ call.names, ¬isLiteral name = true := by
  rw [exists_eq_error_iff, ← not_iff_not, not_not]
  push Not
  by_cases hc : call = .closeBlock
  · subst hc
    exact iff_of_true ⟨_, rfl⟩ fun _ hname => absurd hname List.not_mem_nil
  · simp only [after?_eq_ok_iff call hc, exists_and_left, exists_eq, and_true]

theorem MethodDraft.exists_after?_eq_error_iff {m : MethodDraft} {call : MethodCall} :
    (∃ e, m.after? call = .error e) ↔ ∃ name ∈ call.names, ¬isLiteral name = true := by
  rw [exists_eq_error_iff, ← not_iff_not, not_not]
  push Not
  cases call with
  | addParameter type name =>
    simp only [after?, addParameter?_eq_ok_iff, exists_and_left, exists_eq, and_true,
      MethodCall.names, List.forall_mem_singleton]
  | _ => exact iff_of_true ⟨_, rfl⟩ fun _ hname => absurd hname List.not_mem_nil

theorem MethodDraft.exists_new?_eq_error_iff {name : String} :
    (∃ e, new? name = .error e) ↔ ¬isLiteral name = true := by
  rw [exists_eq_error_iff, not_iff_not]
  simp only [new?_eq_ok_iff, exists_and_left, exists_eq, and_true]

namespace Session

variable {s : Session} {call : Call}

/-! ## When a call is refused -/

/-- Whether the method that a call is made on exists. -/
def Knows (s : Session) (call : Call) : Prop :=
  ∀ key ∈ call.key?, key ∈ s.methods.keys

/-- A call that begins with a step on a draft is refused for a name exactly when that step is. -/
theorem exists_mapError_bind_eq_literal_iff {α β : Type} {x : Except InvalidLiteral α}
    {f : α → β} :
    (∃ e, (x.mapError Refusal.literal >>= fun a => pure (f a)) = .error (.literal e)) ↔
      ∃ e, x = .error e := by
  cases x with
  | ok a =>
    refine iff_of_false ?_ ?_
    · rintro ⟨e, h⟩
      cases h
    · rintro ⟨e, h⟩
      cases h
  | error e => exact iff_of_true ⟨e, rfl⟩ ⟨e, rfl⟩

theorem exists_method?_bind_eq_literal_iff {β : Type} {key : String}
    {f : MethodDraft → Except Refusal β} :
    (∃ e, (s.method? key >>= f) = .error (.literal e)) ↔
      ∃ m, s.methods.get? key = some m ∧ ∃ e, f m = .error (.literal e) := by
  rw [method?]
  cases s.methods.get? key with
  | none =>
    refine iff_of_false ?_ ?_
    · rintro ⟨e, h⟩
      cases h
    · rintro ⟨m, h, -⟩
      cases h
  | some m => simp

/-- **A call is refused for a name** exactly when the method that it is made on exists and one of
its names is no literal. -/
theorem exists_step?_eq_literal_iff :
    (∃ e, s.step? call = .error (.literal e)) ↔
      s.Knows call ∧ ∃ name ∈ call.names, ¬isLiteral name = true := by
  cases call with
  | source call =>
    have hknows : s.Knows (.source call) := fun _ hkey => absurd hkey (Option.not_mem_none _)
    rw [and_iff_right hknows]
    exact exists_mapError_bind_eq_literal_iff.trans SourceDraft.exists_after?_eq_error_iff
  | newMethod key name =>
    have hknows : s.Knows (.newMethod key name) := fun _ hkey => absurd hkey (Option.not_mem_none _)
    rw [and_iff_right hknows]
    simp only [Call.names, List.mem_singleton, exists_eq_left]
    exact exists_mapError_bind_eq_literal_iff.trans MethodDraft.exists_new?_eq_error_iff
  | method key call =>
    have hknows : s.Knows (.method key call) ↔ ∃ m, s.methods.get? key = some m := by
      rw [← Option.isSome_iff_exists, OrderedMap.isSome_get?_iff]
      exact ⟨fun h => h key rfl, fun h _ hother => Option.some.inj hother ▸ h⟩
    rw [hknows, ← exists_and_right]
    refine exists_method?_bind_eq_literal_iff.trans (exists_congr fun m => ?_)
    refine and_congr_right fun _ => ?_
    exact exists_mapError_bind_eq_literal_iff.trans MethodDraft.exists_after?_eq_error_iff
  | renderSource =>
    refine iff_of_false ?_ ?_
    · rintro ⟨e, h⟩
      cases h
    · rintro ⟨-, name, hname, -⟩
      exact absurd hname List.not_mem_nil
  | addMethod key | methodSignature key | renderMethod key outer layout =>
    refine iff_of_false (fun h => ?_) ?_
    · obtain ⟨m, -, e, h⟩ := exists_method?_bind_eq_literal_iff.mp h
      cases h
    · rintro ⟨-, name, hname, -⟩
      exact absurd hname List.not_mem_nil

/-! ## Runs that go on -/

/-- Calls one after another, statement by statement: the answer to each and the session at the end.
After a call that is refused the run goes on with what the call has left. -/
def play : Session → List Call → List (Except Refusal Reply) × Session
  | s, [] => ([], s)
  | s, call :: calls =>
    match perform call s with
    | .ok reply s =>
      let (replies, last) := play s calls
      (.ok reply :: replies, last)
    | .error e s =>
      let (replies, last) := play s calls
      (.error e :: replies, last)

/-- Carried out statement by statement, a run is what it is call by call. -/
theorem play_eq_run (s : Session) (calls : List Call) : s.play calls = s.run calls := by
  induction calls generalizing s with
  | nil => rfl
  | cons call calls ih =>
    rw [play, run, perform_eq]
    cases s.step? call with
    | error e => simp only [allOrNothing, ih]
    | ok result => simp only [allOrNothing, ih]

/-- Whether an answer refuses a name. -/
def refusesName : Except Refusal Reply → Bool
  | .error (.literal _) => true
  | .error (.unknownMethod _) | .ok _ => false

/-- The calls of a run that are not refused for a name. -/
def withoutRefused (s : Session) (calls : List Call) : List Call :=
  ((calls.zip (s.play calls).1).filter fun (_, answer) => !refusesName answer).map Prod.fst

/-- A refused call leaves the session as it was. -/
theorem after_of_refusesName (h : refusesName (s.answer call) = true) : s.after call = s := by
  rw [answer] at h
  rw [after]
  cases hstep : s.step? call with
  | error e => rfl
  | ok result =>
    rw [hstep] at h
    exact absurd h Bool.false_ne_true

theorem withoutRefused_cons (s : Session) (call : Call) (calls : List Call) :
    s.withoutRefused (call :: calls) =
      if refusesName (s.answer call) then (s.after call).withoutRefused calls
      else call :: (s.after call).withoutRefused calls := by
  simp only [withoutRefused, play_eq_run, run_cons, List.zip_cons_cons, List.filter_cons]
  cases refusesName (s.answer call) <;> rfl

theorem run_withoutRefused (s : Session) (calls : List Call) :
    s.run (s.withoutRefused calls) =
      ((s.run calls).1.filter fun answer => !refusesName answer, (s.run calls).2) := by
  induction calls generalizing s with
  | nil => rfl
  | cons call calls ih =>
    rw [withoutRefused_cons, run_cons]
    cases h : refusesName (s.answer call) with
    | true =>
      -- the call is left out, and the session goes on as if it had not been made
      rw [List.filter_cons_of_neg (by simp [h]), after_of_refusesName h]
      exact ih s
    | false =>
      rw [List.filter_cons_of_pos (by simp [h])]
      exact (run_cons s call _).trans (by rw [ih])

/-- **Refused calls leave no trace.**  Where names are refused and the run goes on, the answers to
the other calls, with all texts and depths, and the session at the end are those of a run without
the refused calls.  A call is refused in a session exactly when the method that it is made on
exists and one of its names is empty or holds a blank. -/
theorem play_withoutRefused (s : Session) (calls : List Call) :
    s.play (s.withoutRefused calls) =
        ((s.play calls).1.filter fun answer => !refusesName answer, (s.play calls).2) ∧
      ∀ call, (∃ e left, perform call s = .error (.literal e) left) ↔
        s.Knows call ∧
          ∃ name ∈ call.names, name = "" ∨ ∃ c ∈ name.toList, Text.isBlank c = true := by
  refine ⟨?_, fun call => ?_⟩
  · rw [play_eq_run, play_eq_run, run_withoutRefused]
  · simp only [← isLiteral_ne_true_iff]
    rw [← exists_step?_eq_literal_iff, perform_eq]
    cases s.step? call <;> simp [allOrNothing]

end Session
end Draft
end BeanBuilder
