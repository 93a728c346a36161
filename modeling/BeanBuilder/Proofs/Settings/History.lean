import Mathlib.Data.Nat.Init
import BeanBuilder.Settings.Session

/-! # Histories of installed settings

Settings are asked for, loaded from files with a name and taken away again, while the files and the
variables around change.  What an event does to a session is one of a few things (`step`): it finds
settings that are installed, it fails to load any and leaves everything as it is, it makes a new
instance and installs it, it resets the session, or it makes no request.

The instance that is in force is told by the answers alone (`InForce`): it is that of the last load
that succeeded, and if none has since the last reset, that of the first request that did.  This is
the instance that is installed (`installed_iff_inForce`), whatever failed in between.

Every instance was made by one event, from the files and variables of that moment, and keeps its
values (`exists_createdAt`).
-/
namespace BeanBuilder

open Files

/-- What happens to a session or around it. -/
inductive SettingsEvent where
  | get
  | load (name : Option String)
  | reset
  | environment (env : Environment)
  | files (t : Tree)

/-- Loading from a file fails and changes nothing, or installs the next instance. -/
theorem SettingsSession.install_cases (S : SettingsSession) (f : SettingsFile) (env : Environment)
    (t : Tree) :
    (∃ e, (f.load env t).1 = .error e ∧ S.install f env t = (.error e, S, (f.load env t).2)) ∨
      ∃ i, i.number = S.loads ∧ (f.load env t).1 = .ok i.loaded ∧
        S.install f env t = (.ok i, ⟨some i, S.loads + 1⟩, (f.load env t).2) := by
  unfold install
  generalize f.load env t = answer
  obtain ⟨e | loaded, records⟩ := answer
  · exact Or.inl ⟨e, rfl, rfl⟩
  · exact Or.inr ⟨⟨S.loads, loaded⟩, rfl, rfl, rfl⟩

/-- A session, with the variables and the files that it finds. -/
structure SettingsWorld where
  session : SettingsSession := {}
  environment : Environment
  tree : Tree

namespace SettingsWorld

variable {w : SettingsWorld} {events : List SettingsEvent} {event : SettingsEvent} {i j : Instance}
  {e : SettingsError} {k m n : Nat}

/-- The answer to an event, if it is a request. -/
def answer? (w : SettingsWorld) : SettingsEvent → Option SettingsAnswer
  | .get => some (w.session.get w.environment w.tree).1
  | .load name => some (w.session.load name w.environment w.tree).1
  | .reset | .environment _ | .files _ => none

/-- The world behind an event. -/
def after (w : SettingsWorld) : SettingsEvent → SettingsWorld
  | .get => { w with session := (w.session.get w.environment w.tree).2.1 }
  | .load name => { w with session := (w.session.load name w.environment w.tree).2.1 }
  | .reset => { w with session := w.session.reset }
  | .environment env => { w with environment := env }
  | .files t => { w with tree := t }

/-- The file that an event loads settings from. -/
def file? (w : SettingsWorld) : SettingsEvent → Option SettingsFile
  | .get => if w.session.installed.isSome then none else some (.usual w.environment w.tree)
  | .load name => some (.choose w.environment w.tree name)
  | .reset | .environment _ | .files _ => none

/-! ## One event -/

/-- What one event does: what it answers, and the world that it leaves. -/
inductive Step (w : SettingsWorld) (event : SettingsEvent) :
    Option SettingsAnswer → SettingsWorld → Prop
  | finds {i : Instance} (hevent : event = .get) (hinstalled : w.session.installed = some i) :
      Step w event (some (.ok i)) w
  | fails {f : SettingsFile} {e : SettingsError} (hfile : w.file? event = some f)
      (hload : (f.load w.environment w.tree).1 = .error e) : Step w event (some (.error e)) w
  | creates {f : SettingsFile} {i : Instance} (hnumber : i.number = w.session.loads)
      (hfile : w.file? event = some f) (hload : (f.load w.environment w.tree).1 = .ok i.loaded) :
      Step w event (some (.ok i)) { w with session := ⟨some i, w.session.loads + 1⟩ }
  | resets (hevent : event = .reset) : Step w event none { w with session := w.session.reset }
  | changes {w' : SettingsWorld} (hevent : event ≠ .reset) (hsession : w'.session = w.session) :
      Step w event none w'

/-- **Every event does one of these things.** -/
theorem step (w : SettingsWorld) (event : SettingsEvent) :
    w.Step event (w.answer? event) (w.after event) := by
  cases event with
  | get =>
    cases hinstalled : w.session.installed with
    | some i =>
      simp only [answer?, after, SettingsSession.get, hinstalled]
      exact .finds rfl hinstalled
    | none =>
      have hfile : w.file? .get = some (.usual w.environment w.tree) := by
        rw [file?, hinstalled]
        rfl
      have hget : w.session.get w.environment w.tree =
          w.session.install (.usual w.environment w.tree) w.environment w.tree := by
        rw [SettingsSession.get, hinstalled]
      rw [answer?, after, hget]
      rcases w.session.install_cases (.usual w.environment w.tree) w.environment w.tree with
        ⟨e, hload, hinstall⟩ | ⟨i, hnumber, hload, hinstall⟩
      · rw [hinstall]
        exact .fails hfile hload
      · rw [hinstall]
        exact .creates hnumber hfile hload
  | load name =>
    rw [answer?, after, SettingsSession.load]
    rcases w.session.install_cases (.choose w.environment w.tree name) w.environment w.tree with
      ⟨e, hload, hinstall⟩ | ⟨i, hnumber, hload, hinstall⟩
    · rw [hinstall]
      exact .fails rfl hload
    · rw [hinstall]
      exact .creates hnumber rfl hload
  | reset => exact .resets rfl
  | environment env => exact .changes SettingsEvent.noConfusion rfl
  | files t => exact .changes SettingsEvent.noConfusion rfl

/-- An event makes an instance, with the values that its file has by now, and installs it. -/
structure Creates (w : SettingsWorld) (event : SettingsEvent) (i : Instance) : Prop where
  number : i.number = w.session.loads
  loaded : ∃ f, w.file? event = some f ∧ (f.load w.environment w.tree).1 = .ok i.loaded
  answer : w.answer? event = some (.ok i)
  session : (w.after event).session = ⟨some i, w.session.loads + 1⟩

/-- **A request that fails changes nothing**, and its file cannot be loaded. -/
theorem of_error (h : w.answer? event = some (.error e)) : w.after event = w ∧
    ∃ f, w.file? event = some f ∧ (f.load w.environment w.tree).1 = .error e := by
  have hstep := w.step event
  rw [h] at hstep
  generalize w.after event = w' at hstep ⊢
  cases hstep with
  | fails hfile hload => exact ⟨rfl, _, hfile, hload⟩

/-- An instance that is answered was installed, or is made by the request. -/
theorem found_or_creates (h : w.answer? event = some (.ok i)) :
    (event = .get ∧ w.session.installed = some i ∧ w.after event = w) ∨ w.Creates event i := by
  have hstep := w.step event
  rw [h] at hstep
  generalize hafter : w.after event = w' at hstep
  cases hstep with
  | finds hevent hinstalled => exact Or.inl ⟨hevent, hinstalled, rfl⟩
  | creates hnumber hfile hload =>
    exact Or.inr ⟨hnumber, ⟨_, hfile, hload⟩, h, by rw [hafter]⟩

/-- **What is answered is installed then.** -/
theorem installed_after_of_ok (h : w.answer? event = some (.ok i)) :
    (w.after event).session.installed = some i := by
  rcases found_or_creates h with ⟨-, hinstalled, hafter⟩ | hcreates
  · rw [hafter, hinstalled]
  · rw [hcreates.session]

/-- **What is installed stays**, unless a load succeeds or the session is reset. -/
theorem installed_after_of_some (h : w.session.installed = some i) (hreset : event ≠ .reset)
    (hload : ∀ name j, event = .load name → w.answer? event ≠ some (.ok j)) :
    (w.after event).session.installed = some i := by
  have hstep := w.step event
  generalize w.answer? event = answer, w.after event = w' at hstep hload ⊢
  cases hstep with
  | finds | fails => exact h
  | creates hnumber hfile _ =>
    cases event with
    | load name => exact absurd rfl (hload name _ rfl)
    | get =>
      -- a request for settings makes none while there are some
      rw [file?, h] at hfile
      cases hfile
    | reset | environment _ | files _ => cases hfile
  | resets hevent => exact absurd hevent hreset
  | changes _ hsession => rw [hsession, h]

/-- What an event installs where nothing was installed is its answer. -/
theorem answer?_of_installed_after (h : w.session.installed = none)
    (hafter : (w.after event).session.installed = some i) : w.answer? event = some (.ok i) := by
  have hstep := w.step event
  generalize w.answer? event = answer, w.after event = w' at hstep hafter ⊢
  cases hstep with
  | creates => rw [Option.some.inj hafter]
  | finds | fails =>
    rw [h] at hafter
    cases hafter
  | resets => cases hafter
  | changes _ hsession =>
    rw [hsession, h] at hafter
    cases hafter

theorem loads_le_after (w : SettingsWorld) (event : SettingsEvent) :
    w.session.loads ≤ (w.after event).session.loads := by
  have hstep := w.step event
  generalize w.answer? event = answer, w.after event = w' at hstep ⊢
  cases hstep with
  | finds | fails | resets => exact Nat.le_refl _
  | creates => exact Nat.le_succ _
  | changes _ hsession => exact Nat.le_of_eq (congrArg (·.loads) hsession.symm)

/-! ## Events one after another -/

/-- The world when a number of events has happened. -/
def worldAt (w : SettingsWorld) (events : List SettingsEvent) (n : Nat) : SettingsWorld :=
  (events.take n).foldl after w

/-- The answer to an event, known by its number. -/
def answerAt? (w : SettingsWorld) (events : List SettingsEvent) (n : Nat) : Option SettingsAnswer :=
  events[n]?.bind (w.worldAt events n).answer?

theorem worldAt_succ (h : events[n]? = some event) :
    w.worldAt events (n + 1) = (w.worldAt events n).after event := by
  rw [worldAt, List.take_add_one, h, Option.toList_some, List.foldl_append]
  rfl

theorem worldAt_succ_of_none (h : events[n]? = none) :
    w.worldAt events (n + 1) = w.worldAt events n := by
  rw [worldAt, List.take_add_one, h, Option.toList_none, List.append_nil, worldAt]

theorem answerAt?_of_getElem? (h : events[n]? = some event) :
    w.answerAt? events n = (w.worldAt events n).answer? event := by
  rw [answerAt?, h, Option.bind_some]

theorem exists_event_of_answerAt? {a : SettingsAnswer} (h : w.answerAt? events n = some a) :
    ∃ event, events[n]? = some event ∧ (w.worldAt events n).answer? event = some a :=
  Option.bind_eq_some_iff.mp h

theorem loads_mono (h : m ≤ n) :
    (w.worldAt events m).session.loads ≤ (w.worldAt events n).session.loads := by
  induction n, h using Nat.le_induction with
  | base => exact Nat.le_refl _
  | succ n hle ih =>
    cases hevent : events[n]? with
    | none =>
      rw [worldAt_succ_of_none hevent]
      exact ih
    | some event =>
      rw [worldAt_succ hevent]
      exact Nat.le_trans ih (loads_le_after _ event)

/-! ## The instance in force -/

/-- A load succeeds. -/
def LoadsAt (w : SettingsWorld) (events : List SettingsEvent) (n : Nat) : Prop :=
  ∃ name i, events[n]? = some (.load name) ∧ w.answerAt? events n = some (.ok i)

/-- A request for the settings succeeds. -/
def GetsAt (w : SettingsWorld) (events : List SettingsEvent) (n : Nat) : Prop :=
  ∃ i, events[n]? = some .get ∧ w.answerAt? events n = some (.ok i)

/-- A stretch of events without a reset and without a load that succeeds. -/
def Undisturbed (w : SettingsWorld) (events : List SettingsEvent) (m n : Nat) : Prop :=
  ∀ k, m ≤ k → k < n → events[k]? ≠ some .reset ∧ ¬w.LoadsAt events k

/-- An event is the last load that succeeded, and nothing was reset since. -/
structure LastLoad (w : SettingsWorld) (events : List SettingsEvent) (k n : Nat) : Prop where
  lt : k < n
  loads : w.LoadsAt events k
  since : w.Undisturbed events (k + 1) n

/-- The number of the first event of all, or of the first one behind a reset. -/
def BeginsAt (events : List SettingsEvent) (n : Nat) : Prop :=
  n = 0 ∨ ∃ m, n = m + 1 ∧ events[m]? = some .reset

/-- An event is the first request for the settings that succeeded since the last reset, and no load
has succeeded since that reset. -/
structure FirstGet (w : SettingsWorld) (events : List SettingsEvent) (k n : Nat) : Prop where
  lt : k < n
  gets : w.GetsAt events k
  first : ∃ m, m ≤ k ∧ BeginsAt events m ∧ w.Undisturbed events m n ∧
    ∀ l, m ≤ l → l < k → ¬w.GetsAt events l

/-- The instance that the events up to a number put in force. -/
def InForce (w : SettingsWorld) (events : List SettingsEvent) (n : Nat) (i : Instance) : Prop :=
  ∃ k, (w.LastLoad events k n ∨ w.FirstGet events k n) ∧ w.answerAt? events k = some (.ok i)

theorem Undisturbed.concat (h : w.Undisturbed events m n) (hreset : events[n]? ≠ some .reset)
    (hloads : ¬w.LoadsAt events n) : w.Undisturbed events m (n + 1) := by
  intro k hmk hkn
  rcases Nat.lt_succ_iff_lt_or_eq.mp hkn with hlt | rfl
  · exact h k hmk hlt
  · exact ⟨hreset, hloads⟩

theorem InForce.concat (h : w.InForce events n i) (hreset : events[n]? ≠ some .reset)
    (hloads : ¬w.LoadsAt events n) : w.InForce events (n + 1) i := by
  obtain ⟨k, hlast | hfirst, hanswer⟩ := h
  · exact ⟨k, Or.inl ⟨Nat.lt_succ_of_lt hlast.lt, hlast.loads, hlast.since.concat hreset hloads⟩,
      hanswer⟩
  · obtain ⟨m, hmk, hbegins, hsince, hnone⟩ := hfirst.first
    exact ⟨k, Or.inr ⟨Nat.lt_succ_of_lt hfirst.lt, hfirst.gets,
      m, hmk, hbegins, hsince.concat hreset hloads, hnone⟩, hanswer⟩

theorem installed_succ_of_answerAt? (h : w.answerAt? events n = some (.ok i)) :
    (w.worldAt events (n + 1)).session.installed = some i := by
  obtain ⟨event, hevent, hanswer⟩ := exists_event_of_answerAt? h
  rw [worldAt_succ hevent]
  exact installed_after_of_ok hanswer

theorem installed_succ_of_some (h : (w.worldAt events n).session.installed = some i)
    (hreset : events[n]? ≠ some .reset) (hloads : ¬w.LoadsAt events n) :
    (w.worldAt events (n + 1)).session.installed = some i := by
  cases hevent : events[n]? with
  | none =>
    rw [worldAt_succ_of_none hevent]
    exact h
  | some event =>
    rw [worldAt_succ hevent]
    apply installed_after_of_some h
    · rintro rfl
      exact hreset hevent
    · rintro name j rfl hanswer
      rw [← answerAt?_of_getElem? hevent] at hanswer
      exact hloads ⟨name, j, hevent, hanswer⟩

/-- What is installed behind an event stays while nothing disturbs it. -/
theorem installed_of_undisturbed (h : w.answerAt? events k = some (.ok i)) (hlt : k < n)
    (hsince : w.Undisturbed events (k + 1) n) :
    (w.worldAt events n).session.installed = some i := by
  induction n, Nat.succ_le_of_lt hlt using Nat.le_induction with
  | base => exact installed_succ_of_answerAt? h
  | succ n hle ih =>
    have hstays := ih hle fun l hl hln => hsince l hl (Nat.lt_succ_of_lt hln)
    obtain ⟨hreset, hloads⟩ := hsince n hle (Nat.lt_succ_self n)
    exact installed_succ_of_some hstays hreset hloads

/-- While nothing is installed, nothing was loaded or got since the last reset. -/
theorem begins_of_installed_none (h : (w.worldAt events n).session.installed = none) :
    ∃ m, m ≤ n ∧ BeginsAt events m ∧ w.Undisturbed events m n ∧
      ∀ l, m ≤ l → l < n → ¬w.GetsAt events l := by
  induction n with
  | zero =>
    exact ⟨0, Nat.le_refl 0, Or.inl rfl, fun k _ hk => absurd hk (Nat.not_lt_zero k),
      fun l _ hl => absurd hl (Nat.not_lt_zero l)⟩
  | succ n ih =>
    have hanswer : ∀ i, w.answerAt? events n ≠ some (.ok i) := by
      intro i hok
      rw [installed_succ_of_answerAt? hok] at h
      cases h
    by_cases hreset : events[n]? = some .reset
    · refine ⟨n + 1, Nat.le_refl _, Or.inr ⟨n, rfl, hreset⟩, ?_, ?_⟩
      · intro k hk hlt
        omega
      · intro l hl hlt
        omega
    · have hloads : ¬w.LoadsAt events n := fun ⟨_, i, _, hok⟩ => hanswer i hok
      have hinstalled : (w.worldAt events n).session.installed = none := by
        cases hsome : (w.worldAt events n).session.installed with
        | none => rfl
        | some i =>
          rw [installed_succ_of_some hsome hreset hloads] at h
          cases h
      obtain ⟨m, hmn, hbegins, hsince, hnone⟩ := ih hinstalled
      refine ⟨m, Nat.le_succ_of_le hmn, hbegins, hsince.concat hreset hloads, ?_⟩
      intro l hml hl hgets
      rcases Nat.lt_succ_iff_lt_or_eq.mp hl with hlt | rfl
      · exact hnone l hml hlt hgets
      · obtain ⟨i, -, hok⟩ := hgets
        exact hanswer i hok

/-- Where no load has succeeded, only a request for the settings can have installed some. -/
theorem firstGet_of_installed_succ (hbefore : (w.worldAt events n).session.installed = none)
    (hreset : events[n]? ≠ some .reset) (hloads : ¬w.LoadsAt events n)
    (h : (w.worldAt events (n + 1)).session.installed = some i) :
    w.FirstGet events n (n + 1) ∧ w.answerAt? events n = some (.ok i) := by
  obtain ⟨m, hmn, hbegins, hsince, hnone⟩ := begins_of_installed_none hbefore
  cases hevent : events[n]? with
  | none =>
    rw [worldAt_succ_of_none hevent, hbefore] at h
    cases h
  | some event =>
    rw [worldAt_succ hevent] at h
    have hok := answer?_of_installed_after hbefore h
    rw [← answerAt?_of_getElem? hevent] at hok
    have hgets : w.GetsAt events n := by
      cases event with
      | get => exact ⟨i, hevent, hok⟩
      | load name => exact absurd ⟨name, i, hevent, hok⟩ hloads
      | reset | environment _ | files _ =>
        rw [answerAt?_of_getElem? hevent] at hok
        cases hok
    exact ⟨⟨Nat.lt_succ_self n, hgets, m, hmn, hbegins, hsince.concat hreset hloads, hnone⟩, hok⟩

theorem inForce_of_installed (hw : w.session.installed = none)
    (h : (w.worldAt events n).session.installed = some i) : w.InForce events n i := by
  induction n generalizing i with
  | zero =>
    have hnone : (w.worldAt events 0).session.installed = none := hw
    rw [hnone] at h
    cases h
  | succ n ih =>
    by_cases hloads : w.LoadsAt events n
    · -- the load is the last one that succeeded
      have hlast : w.LastLoad events n (n + 1) :=
        ⟨Nat.lt_succ_self n, hloads, fun k hk hlt => by omega⟩
      obtain ⟨name, j, -, hanswer⟩ := hloads
      rw [installed_succ_of_answerAt? hanswer] at h
      cases h
      exact ⟨n, Or.inl hlast, hanswer⟩
    · have hreset : events[n]? ≠ some .reset := by
        intro hevent
        rw [worldAt_succ hevent] at h
        cases h
      cases hbefore : (w.worldAt events n).session.installed with
      | some j =>
        rw [installed_succ_of_some hbefore hreset hloads] at h
        cases h
        exact (ih hbefore).concat hreset hloads
      | none =>
        obtain ⟨hfirst, hanswer⟩ := firstGet_of_installed_succ hbefore hreset hloads h
        exact ⟨n, Or.inr hfirst, hanswer⟩

/-- **What is installed is the instance in force.** -/
theorem installed_iff_inForce (hw : w.session.installed = none) :
    (w.worldAt events n).session.installed = some i ↔ w.InForce events n i := by
  constructor
  · exact inForce_of_installed hw
  · rintro ⟨k, hlast | hfirst, hanswer⟩
    · exact installed_of_undisturbed hanswer hlast.lt hlast.since
    · obtain ⟨m, hmk, -, hsince, -⟩ := hfirst.first
      exact installed_of_undisturbed hanswer hfirst.lt fun l hl => hsince l (by omega)

/-! ## The values of an instance -/

/-- An event makes an instance: with the values that its file and the variables have by then, and
unlike all that was answered before.  What is answered under its number is this instance ever
after. -/
structure CreatedAt (w : SettingsWorld) (events : List SettingsEvent) (n : Nat) (i : Instance) :
    Prop where
  answer : w.answerAt? events n = some (.ok i)
  loaded : ∃ event f, events[n]? = some event ∧ (w.worldAt events n).file? event = some f ∧
    (f.load (w.worldAt events n).environment (w.worldAt events n).tree).1 = .ok i.loaded
  only : ∀ m j, w.answerAt? events m = some (.ok j) → j.number = i.number → j = i ∧ n ≤ m

/-- Every instance that is answered was made by some event, the first that answered it. -/
theorem exists_creates (hw : w.session.installed = none)
    (h : w.answerAt? events n = some (.ok i)) :
    ∃ k event, k ≤ n ∧ events[k]? = some event ∧ (w.worldAt events k).Creates event i := by
  induction n using Nat.strong_induction_on with
  | _ n ih =>
    obtain ⟨event, hevent, hanswer⟩ := exists_event_of_answerAt? h
    rcases found_or_creates hanswer with ⟨-, hinstalled, -⟩ | hcreates
    · obtain ⟨k, hk, hok⟩ := inForce_of_installed hw hinstalled
      have hlt : k < n := hk.elim LastLoad.lt FirstGet.lt
      obtain ⟨l, event, hl, hcreated⟩ := ih k hlt hok
      exact ⟨l, event, by omega, hcreated⟩
    · exact ⟨n, event, Nat.le_refl n, hevent, hcreates⟩

/-- Behind the event that makes an instance its number is taken. -/
theorem Creates.number_lt (h : (w.worldAt events k).Creates event i)
    (hevent : events[k]? = some event) (hlt : k < n) :
    i.number < (w.worldAt events n).session.loads := by
  have hle : (w.worldAt events (k + 1)).session.loads ≤ (w.worldAt events n).session.loads :=
    loads_mono hlt
  rw [worldAt_succ hevent, h.session] at hle
  rw [h.number]
  exact hle

/-- No two events make instances with one number. -/
theorem Creates.eq_of_number {event' : SettingsEvent} (hk : events[k]? = some event)
    (hm : events[m]? = some event') (hi : (w.worldAt events k).Creates event i)
    (hj : (w.worldAt events m).Creates event' j) (h : j.number = i.number) : m = k := by
  rcases Nat.lt_trichotomy m k with hlt | heq | hgt
  · have hnumber := hj.number_lt hm hlt
    rw [h, hi.number] at hnumber
    exact absurd hnumber (Nat.lt_irrefl _)
  · exact heq
  · have hnumber := hi.number_lt hk hgt
    rw [← h, hj.number] at hnumber
    exact absurd hnumber (Nat.lt_irrefl _)

theorem createdAt_of_creates (hw : w.session.installed = none) (hevent : events[n]? = some event)
    (h : (w.worldAt events n).Creates event i) : w.CreatedAt events n i where
  answer := by
    rw [answerAt?_of_getElem? hevent]
    exact h.answer
  loaded := by
    obtain ⟨f, hfile, hload⟩ := h.loaded
    exact ⟨event, f, hevent, hfile, hload⟩
  only := by
    intro m j hm hnumber
    obtain ⟨k, event', hk, hevent', hcreates⟩ := exists_creates hw hm
    obtain rfl := h.eq_of_number hevent hevent' hcreates hnumber
    obtain rfl : event' = event := Option.some.inj (hevent'.symm.trans hevent)
    obtain rfl : j = i := Except.ok.inj (Option.some.inj (hcreates.answer.symm.trans h.answer))
    exact ⟨rfl, hk⟩

/-- **Every instance was made once, and keeps its values.** -/
theorem exists_createdAt (hw : w.session.installed = none)
    (h : w.answerAt? events n = some (.ok i)) : ∃ k, k ≤ n ∧ w.CreatedAt events k i := by
  obtain ⟨k, event, hk, hevent, hcreates⟩ := exists_creates hw h
  exact ⟨k, hk, createdAt_of_creates hw hevent hcreates⟩

/-! ## Whole histories -/

/-- A request fails as its file cannot be loaded, and changes nothing. -/
structure FailsAt (w : SettingsWorld) (events : List SettingsEvent) (n : Nat) (e : SettingsError) :
    Prop where
  answer : w.answerAt? events n = some (.error e)
  loaded : ∃ event f, events[n]? = some event ∧ (w.worldAt events n).file? event = some f ∧
    (f.load (w.worldAt events n).environment (w.worldAt events n).tree).1 = .error e
  unchanged : w.worldAt events (n + 1) = w.worldAt events n

theorem failsAt_of_error (h : w.answerAt? events n = some (.error e)) : w.FailsAt events n e := by
  obtain ⟨event, hevent, hanswer⟩ := exists_event_of_answerAt? h
  obtain ⟨hafter, f, hfile, hload⟩ := of_error hanswer
  exact ⟨h, ⟨event, f, hevent, hfile, hload⟩, (worldAt_succ hevent).trans hafter⟩

/-- A request that does not find installed settings fails, or makes an instance. -/
theorem failsAt_or_createdAt (hw : w.session.installed = none) (hevent : events[n]? = some event)
    (hfile : (w.worldAt events n).file? event ≠ none) :
    (∃ e, w.FailsAt events n e) ∨ ∃ i, w.CreatedAt events n i := by
  cases hanswer : w.answerAt? events n with
  | some answer =>
    cases answer with
    | error e => exact Or.inl ⟨e, failsAt_of_error hanswer⟩
    | ok i =>
      rw [answerAt?_of_getElem? hevent] at hanswer
      rcases found_or_creates hanswer with ⟨rfl, hinstalled, -⟩ | hcreates
      · rw [file?, hinstalled] at hfile
        exact absurd rfl hfile
      · exact Or.inr ⟨i, createdAt_of_creates hw hevent hcreates⟩
  | none =>
    rw [answerAt?_of_getElem? hevent] at hanswer
    cases event with
    | get | load _ => cases hanswer
    | reset | environment _ | files _ => exact absurd rfl hfile

/-- **Which settings a session has**, whatever happens to it and around it.

The instance that is installed is the instance in force: that of the last load that succeeded, or,
if none has succeeded since the last reset, that of the first request for the settings that has.  A
request for the settings answers this very instance; without one it fails, or makes the instance
that is in force then.  A load fails, or makes the instance that is in force then.

A request only fails if its file cannot be loaded, and leaves everything as it was.  Every instance
that is answered was made by one event, from its file and the variables of that moment; whatever is
answered under its number, before new files and variables or after them, is the same instance. -/
theorem requests_answer_instance_in_force (env : Environment) (t : Tree)
    (events : List SettingsEvent) :
    let w : SettingsWorld := { environment := env, tree := t }
    (∀ n i, (w.worldAt events n).session.installed = some i ↔ w.InForce events n i) ∧
    (∀ n, events[n]? = some .get →
      (∀ i, w.InForce events n i → w.answerAt? events n = some (.ok i) ∧
        w.worldAt events (n + 1) = w.worldAt events n) ∧
      ((∀ i, ¬w.InForce events n i) →
        (∃ e, w.FailsAt events n e) ∨ ∃ i, w.CreatedAt events n i)) ∧
    (∀ n name, events[n]? = some (.load name) →
      (∃ e, w.FailsAt events n e) ∨ ∃ i, w.CreatedAt events n i) ∧
    (∀ n e, w.answerAt? events n = some (.error e) → w.FailsAt events n e) ∧
    (∀ n i, w.answerAt? events n = some (.ok i) →
      w.InForce events (n + 1) i ∧ ∃ k, k ≤ n ∧ w.CreatedAt events k i) ∧
    (∀ n, ((∃ env', events[n]? = some (.environment env')) ∨ ∃ t', events[n]? = some (.files t')) →
      (w.worldAt events (n + 1)).session = (w.worldAt events n).session) := by
  intro w
  have hw : w.session.installed = none := rfl
  have hforce : ∀ n i, (w.worldAt events n).session.installed = some i ↔ w.InForce events n i :=
    fun n i => installed_iff_inForce hw
  refine ⟨hforce, fun n hevent => ⟨?_, ?_⟩, ?_, fun n e => failsAt_of_error, ?_, ?_⟩
  · intro i hi
    have hinstalled := (hforce n i).mpr hi
    rw [answerAt?_of_getElem? hevent, worldAt_succ hevent]
    simp only [answer?, after, SettingsSession.get, hinstalled, and_self]
  · intro hnone
    apply failsAt_or_createdAt hw hevent
    cases hinstalled : (w.worldAt events n).session.installed with
    | none =>
      rw [file?, hinstalled]
      exact Option.some_ne_none _
    | some i => exact absurd ((hforce n i).mp hinstalled) (hnone i)
  · intro n name hevent
    exact failsAt_or_createdAt hw hevent (Option.some_ne_none _)
  · intro n i hanswer
    exact ⟨(hforce _ i).mp (installed_succ_of_answerAt? hanswer), exists_createdAt hw hanswer⟩
  · rintro n (⟨env', hevent⟩ | ⟨t', hevent⟩)
    · rw [worldAt_succ hevent]
      rfl
    · rw [worldAt_succ hevent]
      rfl

/-- Settings that are got, a load that fails, one that succeeds under another variable, a reset. -/
def changingEvents : List SettingsEvent :=
  [.get, .files ⟨[(["conf.json"], .directory)]⟩, .load (some "conf.json"),
    .environment { strictPairing := some "1" }, .get, .load (some "other.json"), .get, .reset, .get]

/-- The first instance stands until a load succeeds, and does not become strict. -/
theorem requests_answer_instance_in_force_changingEvents :
    let w : SettingsWorld := { environment := {}, tree := {} }
    (List.range 9).map (fun n => ((w.answerAt? changingEvents n).bind Except.toOption).map
        fun i => (i.number, i.loaded.settings.validation.strict)) =
      [some (0, false), none, none, none, some (0, false), some (1, true), some (1, true), none,
        some (2, true)] ∧
    (∃ e, w.FailsAt changingEvents 2 e) ∧
    ∃ i, w.InForce changingEvents 6 i ∧ w.answerAt? changingEvents 6 = some (.ok i) ∧
      w.CreatedAt changingEvents 5 i := by
  intro w
  obtain ⟨-, hget, hload, herror, hok, -⟩ := requests_answer_instance_in_force {} {} changingEvents
  refine ⟨by decide, ?_, ?_⟩
  · exact ⟨_, herror 2 _ rfl⟩
  · rcases hload 5 (some "other.json") rfl with ⟨e, hfails⟩ | ⟨i, hcreated⟩
    · cases hfails.answer
    · have hforce := (hok 5 i hcreated.answer).1
      exact ⟨i, hforce, ((hget 6 rfl).1 i hforce).1, hcreated⟩

end SettingsWorld
end BeanBuilder
