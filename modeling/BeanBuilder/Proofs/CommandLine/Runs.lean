import BeanBuilder.CommandLine.Run
import BeanBuilder.Proofs.Files.Tree

/-! # What a run depends on

A run looks at the setup of the log and at the files, and adds to what was written before.  Two
states that agree in the log and the files, and whose errors begin differently, therefore come to
states of the same kind (`RunState.Alike`).  This goes part by part: two parts of runs that are
alike give the same answer, or break down with the same error (`Progress.Alike`), and what comes
behind them is alike again (`Progress.Alike.andThen`).

Setting up the log anew forgets the setup before, unless the level cannot be used (`renew_cases`).
So states whose logs differ come to states that are alike there, or the run ends with both.

A run changes little of the session once the log is set up: it leaves the settings as they are,
unless it asks for strict pairing, and of the setup of the log it can only give up the file
(`RunState.KeepsSession`).
-/
namespace BeanBuilder

open Files

/-! ## Setting up the log -/

namespace Log.Setup

/-- A log that is set up like another one, or has given up its file since. -/
structure Keeps (s s' : Setup) : Prop where
  level : s'.level = s.level
  file : s'.file = s.file ∨ s'.file = none

variable {s s' s'' : Setup}

theorem Keeps.refl (s : Setup) : s.Keeps s :=
  ⟨rfl, Or.inl rfl⟩

theorem Keeps.trans (h : s.Keeps s') (h' : s'.Keeps s'') : s.Keeps s'' := by
  refine ⟨h'.level.trans h.level, ?_⟩
  rcases h'.file with hsame | hnone
  · exact h.file.imp hsame.trans hsame.trans
  · exact Or.inr hnone

/-- **Setting up the log anew** leaves everything as it was if the level cannot be used.  Otherwise
it does not depend on the setup before. -/
theorem renew_cases (env : Environment) (refused : Option OsError) (level file : Value) (t : Tree) :
    (∃ e, ∀ s : Setup, s.renew env refused level file t = (.error e, s, t)) ∨
      ∃ answer setup t', ∀ s : Setup, s.renew env refused level file t = (answer, setup, t') := by
  cases hlevel : Level.ofValue env level with
  | error e => exact Or.inl ⟨e, fun s => by simp only [renew, hlevel]⟩
  | ok found =>
    let renewed := renew env refused level file { level := found } t
    exact Or.inr ⟨renewed.1, renewed.2.1, renewed.2.2, fun s => by
      simp only [renewed, renew, hlevel]⟩

/-- Lines at the end of the log file are in the way of no writing. -/
theorem placeToWrite_extend (s : Setup) (lines : String) (t : Tree) (p : Path) :
    (s.extend lines t).placeToWrite p = t.placeToWrite p := by
  unfold extend
  split
  · rfl
  · split
    · rfl
    · split
      · rfl
      · rename_i hfile
        exact Tree.placeToWrite_put_file hfile _ p

/-- Whether the log file can be opened depends on where files can be written. -/
theorem openFile_cases {t t' : Tree} (h : ∀ p, t'.placeToWrite p = t.placeToWrite p)
    (refused : Option OsError) (name : String) :
    (∃ e, openFile refused name t = .error e ∧ openFile refused name t' = .error e) ∨
      ∃ opened opened', openFile refused name t = .ok opened ∧
        openFile refused name t' = .ok opened' := by
  unfold openFile Tree.append
  rw [h]
  split
  · exact Or.inl ⟨.wrongValue, rfl, rfl⟩
  · cases refused with
    | some e => exact Or.inl ⟨.refused e, rfl, rfl⟩
    | none =>
      cases t.placeToWrite (Path.ofString name).straight with
      | error e => exact Or.inl ⟨.refused e, rfl, rfl⟩
      | ok place => exact Or.inr ⟨_, _, rfl, rfl⟩

/-- What becomes of the setup of the log does not depend on the lines that were logged before, and
not on whether the log file was given up. -/
theorem Keeps.renew (h : s.Keeps s') {t t' : Tree}
    (ht : ∀ p, t'.placeToWrite p = t.placeToWrite p) (env : Environment)
    (refused : Option OsError) (level file : Value) :
    (s'.renew env refused level file t').1 = (s.renew env refused level file t).1 ∧
      (s.renew env refused level file t).2.1.Keeps (s'.renew env refused level file t').2.1 := by
  unfold Setup.renew
  cases Level.ofValue env level with
  | error e => exact ⟨rfl, h⟩
  | ok found =>
    cases fileOf file with
    | error e => exact ⟨rfl, .refl _⟩
    | ok named =>
      cases named with
      | none => exact ⟨rfl, .refl _⟩
      | some name =>
        rcases openFile_cases ht refused name with
          ⟨e, hopen, hopen'⟩ | ⟨opened, opened', hopen, hopen'⟩
        · simp only [hopen, hopen']
          exact ⟨True.intro, .refl _⟩
        · simp only [hopen, hopen']
          exact ⟨True.intro, .refl _⟩

end Log.Setup

namespace CommandLine

variable {w : Surroundings} {s s' s'' : RunState} {front front' : String} {α β : Type}

/-! ## States that are alike -/

/-- Two states with the same files and output, and with the same errors behind two different
beginnings. -/
structure RunState.EndsAlike (front front' : String) (s s' : RunState) : Prop where
  tree : s'.tree = s.tree
  output : s'.output = s.output
  errors : ∃ rest, s.errors = front ++ rest ∧ s'.errors = front' ++ rest

/-- Two such states with the same log. -/
structure RunState.Alike (front front' : String) (s s' : RunState) : Prop
    extends RunState.EndsAlike front front' s s' where
  log : s'.session.log = s.session.log

/-- Two parts of runs with the same answer that come to states with which runs end alike. -/
structure Progress.EndsAlike (front front' : String) (p p' : Progress α) : Prop where
  answer : p'.1 = p.1
  ends : p.2.EndsAlike front front' p'.2

/-- Two parts of runs behind which runs go on alike. -/
structure Progress.Alike (front front' : String) (p p' : Progress α) : Prop
    extends Progress.EndsAlike front front' p p' where
  /-- Only a run that has not broken down goes on. -/
  log : p.1.isOk = true → p'.2.session.log = p.2.session.log

/-- Adding the same to the errors of both states. -/
theorem RunState.EndsAlike.addErrors (h : s.EndsAlike front front' s') (told : String) :
    RunState.EndsAlike front front' { s with errors := s.errors ++ told }
      { s' with errors := s'.errors ++ told } := by
  obtain ⟨rest, hs, hs'⟩ := h.errors
  refine ⟨h.tree, h.output, rest ++ told, ?_, ?_⟩
  · simp only [hs, String.append_assoc]
  · simp only [hs', String.append_assoc]

namespace RunState.Alike

theorem progress (h : s.Alike front front' s') (answer : Except Breakdown α) :
    Progress.Alike front front' (answer, s) (answer, s') :=
  ⟨⟨rfl, h.toEndsAlike⟩, fun _ => h.log⟩

theorem addErrors (h : s.Alike front front' s') (told : String) :
    RunState.Alike front front' { s with errors := s.errors ++ told }
      { s' with errors := s'.errors ++ told } :=
  ⟨h.toEndsAlike.addErrors told, h.log⟩

theorem addOutput (h : s.Alike front front' s') (output : String) :
    RunState.Alike front front' { s with output := s.output ++ output }
      { s' with output := s'.output ++ output } :=
  ⟨⟨h.tree, congrArg (· ++ output) h.output, h.errors⟩, h.log⟩

/-- The settings that are installed do not count. -/
theorem withSettings (h : s.Alike front front' s') (settings settings' : SettingsSession) :
    RunState.Alike front front' { s with session.settings := settings }
      { s' with session.settings := settings' } :=
  ⟨⟨h.tree, h.output, h.errors⟩, h.log⟩

theorem withTree (h : s.Alike front front' s') (t : Tree) :
    RunState.Alike front front' { s with tree := t } { s' with tree := t } :=
  ⟨⟨rfl, h.output, h.errors⟩, h.log⟩

/-- Giving up the log file. -/
theorem withoutFile (h : s.Alike front front' s') :
    RunState.Alike front front' { s with session.log.file := none }
      { s' with session.log.file := none } :=
  ⟨⟨h.tree, h.output, h.errors⟩, congrArg (fun log => { log with file := none }) h.log⟩

theorem logged (h : s.Alike front front' s') (time : String) (records : List Log.Record) :
    (s.log time records).Alike front front' (s'.log time records) := by
  simp only [RunState.log, h.log, h.tree]
  have hstored := h.withTree (s.session.log.write time records s.tree).2
  exact hstored.addErrors (s.session.log.write time records s.tree).1

end RunState.Alike

/-! ## Parts of runs that are alike -/

/-- **What comes behind parts that are alike** is alike. -/
theorem Progress.Alike.andThen {p p' : Progress α} {next next' : α → RunState → Progress β}
    (h : p.Alike front front' p')
    (hnext : ∀ a s s', s.Alike front front' s' →
      (next a s).Alike front front' (next' a s')) :
    (p.andThen next).Alike front front' (p'.andThen next') := by
  obtain ⟨answer, s⟩ := p
  obtain ⟨answer', s'⟩ := p'
  obtain rfl : answer' = answer := h.answer
  cases answer' with
  | error e => exact ⟨⟨rfl, h.ends⟩, nofun⟩
  | ok a => exact hnext a s s' ⟨h.ends, h.log rfl⟩

/-- **Setting up the log** makes states alike whose logs may differ, or the run breaks down. -/
theorem RunState.EndsAlike.setLog (h : s.EndsAlike front front' s') (w : Surroundings)
    (level file : Value) :
    (s.setLog w level file).Alike front front' (s'.setLog w level file) := by
  simp only [RunState.setLog, h.tree]
  rcases Log.Setup.renew_cases w.environment w.logRefused level file s.tree with
    ⟨e, hkept⟩ | ⟨answer, setup, t, hnew⟩
  · rw [hkept, hkept]
    exact ⟨⟨rfl, rfl, h.output, h.errors⟩, nofun⟩
  · rw [hnew, hnew]
    exact ⟨⟨rfl, rfl, h.output, h.errors⟩, fun _ => rfl⟩

/-- A run that gets no settings ends. -/
theorem RunState.EndsAlike.giveUp (h : s.EndsAlike front front' s') (e : SettingsError) :
    (giveUp e s).EndsAlike front front' (giveUp e s') := by
  unfold CommandLine.giveUp
  split
  · exact ⟨rfl, h⟩
  · exact ⟨rfl, h.addErrors _⟩

namespace RunState.Alike

theorem readFiles (h : s.Alike front front' s') (time : String) (c : Java.Catalog)
    (names : List String) :
    (readFiles time c names s).Alike front front' (readFiles time c names s') := by
  induction names generalizing c s s' with
  | nil => exact h.progress _
  | cons name rest ih =>
    simp only [CommandLine.readFiles, h.tree]
    split
    · exact h.progress _
    · exact (ih (h.logged time _) _).andThen fun _ _ _ h => h.progress _

theorem logIsReplaced (h : s.Alike front front' s') (written : List Path) :
    logIsReplaced written s' = logIsReplaced written s := by
  simp only [CommandLine.logIsReplaced, h.log, h.tree]

theorem build (h : s.Alike front front' s') (w : Surroundings) (k : Workshop) (beans : List Bean) :
    (build w k beans s).Alike front front' (build w k beans s') := by
  simp only [CommandLine.build, h.tree]
  generalize k.workOnAll beans s.tree = work
  rw [(h.withTree work.tree).logIsReplaced]
  -- both logs lose their file, or both keep it
  have hstored : RunState.Alike front front'
      (if CommandLine.logIsReplaced work.written { s with tree := work.tree } then
        { s with tree := work.tree, session.log.file := none } else { s with tree := work.tree })
      (if CommandLine.logIsReplaced work.written { s with tree := work.tree } then
        { s' with tree := work.tree, session.log.file := none }
        else { s' with tree := work.tree }) := by
    split
    · exact (h.withTree work.tree).withoutFile
    · exact h.withTree work.tree
  cases work.error with
  | some e => exact (hstored.logged w.time _).progress _
  | none => exact (hstored.logged w.time _).progress _

theorem present (h : s.Alike front front' s') (json : Bool) (r : Round) :
    (present json r s).Alike front front' (present json r s') := by
  unfold CommandLine.present
  split
  · exact h.addOutput (jsonText r)
  · exact (h.addOutput _).addErrors _

/-- **Requests from states that are alike.** -/
theorem generate (h : s.Alike front front' s') (w : Surroundings) (settings : Settings)
    (g : GenerateRequest) :
    (generate w settings g s).Alike front front' (generate w settings g s') := by
  simp only [CommandLine.generate, h.tree]
  refine (h.readFiles w.time {} _).andThen fun read s s' h => ?_
  refine ((h.logged w.time _).progress _).andThen fun directory s s' h => ?_
  exact (h.build w _ _).andThen fun round s s' h => (h.present g.json _).progress _

theorem inform (h : s.Alike front front' s') {found found' : Instance}
    (hfound : found'.loaded = found.loaded) :
    (inform found s).Alike front front' (inform found' s') := by
  have htold : About.report (.ok found') s'.tree = About.report (.ok found) s.tree := by
    simp only [About.report, About.settingsLines, hfound, h.tree]
  have hthere : s'.tree.isThere? found'.loaded.file.path =
      s.tree.isThere? found.loaded.file.path := by
    rw [hfound, h.tree]
  unfold CommandLine.inform
  rw [hthere, htold]
  cases s.tree.isThere? found.loaded.file.path with
  | error e => exact (h.addOutput About.heading).progress _
  | ok found => exact (h.addOutput _).progress _

/-- **Runs from states that are alike**, whatever number their settings have. -/
theorem perform (h : s.Alike front front' s') (w : Surroundings) {found found' : Instance}
    (hfound : found'.loaded = found.loaded) (command : Command) :
    (perform w found command s).Alike front front' (perform w found' command s') := by
  cases command with
  | info => exact h.inform hfound
  | generate g =>
    simp only [CommandLine.perform, hfound]
    exact (h.withSettings _ _).generate w found.loaded.settings g

end RunState.Alike

/-- An end of a run with more errors in front. -/
def RunEnd.behind (front : String) : RunEnd → RunEnd
  | .usage e => .usage e
  | .finished r => .finished { r with errors := front ++ r.errors }
  | .broken e r => .broken e { r with errors := front ++ r.errors }

/-- **Runs that end alike** end in the same way behind what was shown before. -/
theorem Progress.EndsAlike.exists_end {p p' : Progress Nat} (h : p.EndsAlike front front' p') :
    ∃ told t, (p.2.finish p.1, p.2.tree) = (RunEnd.behind front told, t) ∧
      (p'.2.finish p'.1, p'.2.tree) = (RunEnd.behind front' told, t) := by
  obtain ⟨rest, hs, hs'⟩ := h.ends.errors
  refine ⟨RunState.finish { p.2 with errors := rest } p.1, p.2.tree, ?_, ?_⟩
  · cases p.1 <;> simp only [RunState.finish, RunState.report, RunEnd.behind, hs]
  · rw [h.answer, h.ends.tree]
    cases p.1 <;>
      simp only [RunState.finish, RunState.report, RunEnd.behind, hs', h.ends.output]

/-! ## The session during a run -/

/-- The session is as before, except that the log file may have been given up. -/
structure RunState.KeepsSession (s s' : RunState) : Prop where
  settings : s'.session.settings = s.session.settings
  log : s.session.log.Keeps s'.session.log

namespace RunState.KeepsSession

theorem of_eq (h : s'.session = s.session) : s.KeepsSession s' :=
  ⟨by rw [h], by rw [h]; exact .refl _⟩

theorem trans (h : s.KeepsSession s') (h' : s'.KeepsSession s'') : s.KeepsSession s'' :=
  ⟨h'.settings.trans h.settings, h.log.trans h'.log⟩

/-- Two parts of a run that keep the session, one behind the other. -/
theorem andThen {p : Progress α} {next : α → RunState → Progress β} (h : s.KeepsSession p.2)
    (hnext : ∀ a (s : RunState), s.KeepsSession (next a s).2) :
    s.KeepsSession (p.andThen next).2 := by
  obtain ⟨e | a, s'⟩ := p
  · exact h
  · exact h.trans (hnext a s')

theorem logged (s : RunState) (time : String) (records : List Log.Record) :
    s.KeepsSession (s.log time records) :=
  .of_eq rfl

theorem readFiles (time : String) (c : Java.Catalog) (names : List String) (s : RunState) :
    s.KeepsSession (readFiles time c names s).2 := by
  induction names generalizing c s with
  | nil => exact .of_eq rfl
  | cons name rest ih =>
    simp only [CommandLine.readFiles]
    split
    · exact .of_eq rfl
    · exact ((logged s time _).trans (ih _ _)).andThen fun _ _ => .of_eq rfl

theorem build (w : Surroundings) (k : Workshop) (beans : List Bean) (s : RunState) :
    s.KeepsSession (build w k beans s).2 := by
  simp only [CommandLine.build]
  generalize k.workOnAll beans s.tree = work
  have hstored : s.KeepsSession
      (if logIsReplaced work.written { s with tree := work.tree } then
        { s with tree := work.tree, session.log.file := none }
        else { s with tree := work.tree }) := by
    split
    · exact ⟨rfl, rfl, Or.inr rfl⟩
    · exact .of_eq rfl
  cases work.error with
  | some e => exact hstored.trans (logged _ w.time _)
  | none => exact hstored.trans (logged _ w.time _)

theorem present (json : Bool) (r : Round) (s : RunState) :
    s.KeepsSession (present json r s) := by
  unfold CommandLine.present
  split <;> exact .of_eq rfl

/-- **A request** leaves the session as it is, but for the log file. -/
theorem generate (w : Surroundings) (settings : Settings) (g : GenerateRequest) (s : RunState) :
    s.KeepsSession (generate w settings g s).2 :=
  (readFiles w.time {} _ s).andThen fun _ s =>
    andThen (p := (_, _)) (logged s w.time _) fun _ s =>
      (build w _ _ s).andThen fun _ s => present g.json _ s

theorem inform (found : Instance) (s : RunState) : s.KeepsSession (inform found s).2 := by
  unfold CommandLine.inform
  split <;> exact .of_eq rfl

theorem giveUp (e : SettingsError) (s : RunState) : s.KeepsSession (giveUp e s).2 := by
  unfold CommandLine.giveUp
  split <;> exact .of_eq rfl

end RunState.KeepsSession

/-- Whether a command asks for strict pairing. -/
def Command.asksStrict : Command → Bool
  | .info => false
  | .generate g => g.strict

/-- The settings of a session behind a command. -/
def Command.settingsBehind (command : Command) (S : SettingsSession) : SettingsSession :=
  if command.asksStrict then S.makeStrict else S

/-- **A command** leaves the session as it is, but for the log file and for strict pairing if it
asks for it. -/
theorem keepsSession_perform (w : Surroundings) (found : Instance) (command : Command)
    (s : RunState) :
    RunState.KeepsSession
      { s with session.settings := command.settingsBehind s.session.settings }
      (perform w found command s).2 := by
  cases command with
  | info => exact .inform found s
  | generate g => exact .generate w found.loaded.settings g _

end CommandLine
end BeanBuilder
