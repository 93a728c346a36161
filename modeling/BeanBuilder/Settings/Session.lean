import BeanBuilder.Settings.File

/-!
# The settings of a session

A session has at most one set of settings installed.  Settings are loaded from the usual file when
they are asked for and none are installed; naming a file loads and installs it; a reset takes them
away.  A load that fails leaves everything as it was, and installed settings do not change with
the files and variables that they came from.

Settings that were loaded are numbered, so that one can tell whether two answers are the same
instance.
-/

namespace BeanBuilder

open Files

/-- Settings that were loaded, with their number. -/
structure Instance where
  number : Nat
  loaded : LoadedSettings
  deriving Repr

/-- The settings that are installed, and how many were loaded. -/
structure SettingsSession where
  installed : Option Instance := none
  loads : Nat := 0
  deriving Repr

/-- What a request to a session comes to. -/
abbrev SettingsAnswer := Except SettingsError Instance

namespace SettingsSession

/-- Loads and installs settings from a file. -/
def install (s : SettingsSession) (f : SettingsFile) (env : Environment) (t : Tree) :
    SettingsAnswer × SettingsSession × List Log.Record :=
  match f.load env t with
  | (.error e, records) => (.error e, s, records)
  | (.ok loaded, records) =>
    let i : Instance := ⟨s.loads, loaded⟩
    (.ok i, { installed := some i, loads := s.loads + 1 }, records)

/-- The settings that are installed; if none are, those of the usual file are installed. -/
def get (s : SettingsSession) (env : Environment) (t : Tree) :
    SettingsAnswer × SettingsSession × List Log.Record :=
  match s.installed with
  | some i => (.ok i, s, [])
  | none => s.install (.usual env t) env t

/-- Loads and installs the settings of a file with a name. -/
def load (s : SettingsSession) (name : Option String) (env : Environment) (t : Tree) :
    SettingsAnswer × SettingsSession × List Log.Record :=
  s.install (.choose env t name) env t

/-- The session without settings. -/
def reset (s : SettingsSession) : SettingsSession :=
  { s with installed := none }

/-- The session after a change to the settings that are installed, which stay the same instance. -/
def makeStrict (s : SettingsSession) : SettingsSession :=
  { s with
    installed := s.installed.map fun i =>
      { i with loaded.settings := i.loaded.settings.makeStrict } }

end SettingsSession
end BeanBuilder
