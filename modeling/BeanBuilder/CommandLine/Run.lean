import BeanBuilder.About
import BeanBuilder.CommandLine.Invocation
import BeanBuilder.CommandLine.Workshop
import BeanBuilder.Data.Json.Printer
import BeanBuilder.Java.Sources
import BeanBuilder.Log.Output

/-!
# Runs

A run carries out one command line on the files as they are.  Runs of one process share the
settings that are installed and the setup of the log: a file of settings that is named in one run
stays in force in the next ones, and so does a request for strict pairing.

A run that meets an error for which nothing is prepared breaks down.  What it installed, wrote and
set up before stays.
-/

namespace BeanBuilder
namespace CommandLine

open Files

/-- What the runs of one process share. -/
structure Session where
  settings : SettingsSession := {}
  log : Log.Setup := {}

/-- The session that a process begins with, if the environment names a level. -/
def Session.fresh (env : Environment) : Except Breakdown Session :=
  (Log.Setup.initial env).map fun log => { log }

/-- What a run writes to the console, and its exit code. -/
structure Report where
  code : Nat
  output : String := ""
  errors : String := ""
  deriving DecidableEq, Repr

/-- What a run comes to: it ends in the command line, it reports, or it breaks down.  A report on
a run that broke down holds what was written before the message of the error. -/
inductive RunEnd where
  | usage (e : UsageEnd)
  | finished (r : Report)
  | broken (e : Breakdown) (r : Report)
  deriving DecidableEq, Repr

/-- What stays the same during a run: the environment, the time in log lines, and what the file
system refuses for reasons that the files do not show. -/
structure Surroundings where
  environment : Environment
  time : String
  /-- The error with which the log file is refused. -/
  logRefused : Option OsError := none
  /-- The steps that are refused of writing each builder. -/
  trouble : String → Trouble := fun _ => noTrouble

/-- The state of a run: the shared state, the files, and what was written so far. -/
structure RunState where
  session : Session
  tree : Tree
  output : String := ""
  errors : String := ""

/-- What a part of a run comes to: its answer or the error with which the run breaks down, and the
state behind it. -/
abbrev Progress (α : Type) :=
  Except Breakdown α × RunState

/-- Goes on with the answer of a part of a run. -/
def Progress.andThen {α β : Type} (p : Progress α) (next : α → RunState → Progress β) :
    Progress β :=
  match p with
  | (.error e, s) => (.error e, s)
  | (.ok a, s) => next a s

namespace RunState

/-- Logs records. -/
def log (s : RunState) (time : String) (records : List Log.Record) : RunState :=
  let (lines, tree) := s.session.log.write time records s.tree
  { s with tree, errors := s.errors ++ lines }

/-- Sets up the log anew with the level and the file that two values ask for. -/
def setLog (s : RunState) (w : Surroundings) (level file : Value) : Progress Unit :=
  let (answer, setup, tree) := s.session.log.renew w.environment w.logRefused level file s.tree
  (answer, { s with session.log := setup, tree })

/-- The report of a run with an exit code. -/
def report (s : RunState) (code : Nat) : Report :=
  ⟨code, s.output, s.errors⟩

/-- The end of a run with an exit code, or with an error that nothing is prepared for. -/
def finish (s : RunState) : Except Breakdown Nat → RunEnd
  | .ok code => .finished (s.report code)
  | .error e => .broken e (s.report 1)

end RunState

/-- What a run asks its session for: the settings of the file that it names, or else those that
the session has. -/
def Invocation.asks (i : Invocation) (env : Environment) (t : Tree) (S : SettingsSession) :
    SettingsAnswer × SettingsSession × List Log.Record :=
  match i.settingsFile.filter (· ≠ "") with
  | some name => S.load (some name) env t
  | none => S.get env t

/-- The level that a run asks for, in its command line or else in its settings. -/
def Invocation.levelUnder (i : Invocation) (s : LoggingSettings) : Value :=
  ((i.logLevel.filter (· ≠ "")).map Value.text).getD s.level

/-- The log file that settings ask for. -/
def logFileUnder (s : LoggingSettings) : Value :=
  if s.toFile then s.file else .null

/-- The annotation that asks for a builder. -/
def builderMarker : String :=
  "BuilderPattern"

/-- The beans that builders are made for. -/
def selected (g : GenerateRequest) (beans : List Bean) : List Bean :=
  if g.allTypes then beans else beans.filter fun b => b.isAnnotatedWith builderMarker

/-- The record of how many classes were found. -/
def foundRecord (found chosen : Nat) : Log.Record :=
  ⟨.info, "buildergen.cli", "Found " ++ toString found ++ " classes, " ++ toString chosen
    ++ " selected for generation"⟩

/-- The output directory that a request or else the settings name. -/
def directoryOf (s : Settings) (g : GenerateRequest) : Except Breakdown String :=
  match (g.outputDirectory.filter (· ≠ "")).or s.output.directory.text? with
  | some directory => .ok directory
  | none => .error .wrongKind

/-- What a run makes builders by under settings. -/
def workshopOf (w : Surroundings) (s : Settings) (g : GenerateRequest) (directory : String) :
    Workshop where
  generation := s.generation
  strict := s.validation.strict || g.strict
  requireConstructor := s.validation.requireConstructor
  directory
  extension := s.output.extension
  trouble := w.trouble

/-- A diagnostic as a value. -/
def diagnosticValue (d : Diagnostic) : Value :=
  .record [("kind", .text d.kind.word), ("message", .text d.message),
    ("subject_type", (d.subject.map Value.text).getD .null)]

/-- A round as a JSON text. -/
def jsonText (r : Round) : String :=
  Json.write (.record [("generated", .list (r.generated.map .text)),
    ("diagnostics", .list (r.diagnostics.map diagnosticValue))]) ++ "\n"

/-- Lines of text, each with its beginning. -/
def linesOf (beginning : String) (texts : List String) : String :=
  Text.joinStrings "" (texts.map fun text => beginning ++ text ++ "\n")

/-- Presents the result of a round. -/
def present (json : Bool) (r : Round) (s : RunState) : RunState :=
  if json then { s with output := s.output ++ jsonText r }
  else
    { s with
      output := s.output ++ linesOf "generated " r.generated
      errors := s.errors ++ linesOf "error: " (r.diagnostics.map Diagnostic.text) }

/-- Reads files one after another.  What a file comes to is logged before the next one is read, so
a log file among them is read as far as it was written by then. -/
def readFiles (time : String) (c : Java.Catalog) : List String → RunState →
    Progress (Java.Catalog × List Diagnostic)
  | [], s => (.ok (c, []), s)
  | name :: rest, s =>
    if Path.holdsNull name then (.error .wrongValue, s)
    else
      let reading := c.readNext s.tree name
      (readFiles time reading.catalog rest (s.log time reading.records)).andThen
        fun (c, diagnostics) s => (.ok (c, reading.diagnostics ++ diagnostics), s)

/-- Whether a builder now stands where the log file was. -/
def logIsReplaced (written : List Path) (s : RunState) : Bool :=
  s.session.log.file.any fun name =>
    let place := (s.tree.place? (Path.ofString name).straight).toOption
    written.any fun p => (s.tree.place? p).toOption == place

/-- Makes and stores the builders of some beans.  A log file whose place a builder takes is given
up. -/
def build (w : Surroundings) (k : Workshop) (beans : List Bean) (s : RunState) : Progress Round :=
  let work := k.workOnAll beans s.tree
  let s := { s with tree := work.tree }
  let s := if logIsReplaced work.written s then { s with session.log.file := none } else s
  match work.error with
  | some e => (.error e, s.log w.time work.records)
  | none =>
    let summary := summaryRecord work.round.generated.length work.round.failedTypes.length
    (.ok work.round, s.log w.time (work.records ++ [summary]))

/-- Reads sources, makes and stores the builders, and shows the result. -/
def generate (w : Surroundings) (settings : Settings) (g : GenerateRequest) (s : RunState) :
    Progress Nat :=
  (readFiles w.time {} (Java.Catalog.expandAll s.tree g.paths) s).andThen
    fun (catalog, faults) s =>
      let all := catalog.link.beans
      let beans := selected g all
      let s := s.log w.time (catalog.linkRecords ++ [foundRecord all.length beans.length])
      Progress.andThen (directoryOf settings g, s) fun directory s =>
        (build w (workshopOf w settings g directory) beans s).andThen fun round s =>
          let round := { round with diagnostics := faults ++ round.diagnostics }
          (.ok (if round.ok then 0 else 1), present g.json round s)

/-- Shows the report on the generator.  Whether the settings file is there is asked once more. -/
def inform (found : Instance) (s : RunState) : Progress Nat :=
  match s.tree.isThere? found.loaded.file.path with
  | .error e => (.error (.refused e), { s with output := s.output ++ About.heading })
  | .ok _ => (.ok 0, { s with output := s.output ++ About.report (.ok found) s.tree })

/-- What a run does with its settings once it has them. -/
def perform (w : Surroundings) (found : Instance) : Command → RunState → Progress Nat
  | .info, s => inform found s
  | .generate g, s =>
    let settings := if g.strict then s.session.settings.makeStrict else s.session.settings
    generate w found.loaded.settings g { s with session.settings := settings }

/-- Ends a run that gets no settings. -/
def giveUp (e : SettingsError) (s : RunState) : Progress Nat :=
  match e with
  | .broken e => (.error e, s)
  | e => (.ok 2, { s with errors := s.errors ++ ("error: " ++ e.text ++ "\n") })

/-- Carries out an invocation: puts its settings in force, sets up the log by them, and does what
the command asks.  The answer is an exit code. -/
def carryOut (w : Surroundings) (i : Invocation) (s : RunState) : Progress Nat :=
  let (answer, settings, records) := i.asks w.environment s.tree s.session.settings
  let s := { s with session.settings := settings }.log w.time records
  match answer with
  | .error e => giveUp e s
  | .ok found =>
    let logging := found.loaded.settings.logging
    (s.setLog w (i.levelUnder logging) (logFileUnder logging)).andThen fun _ s =>
      perform w found i.command s

/-- Carries out a command line. -/
def run (w : Surroundings) (session : Session) (tree : Tree) (words : List String) :
    RunEnd × Session × Tree :=
  match Invocation.ofWords words with
  | .error e => (.usage e, session, tree)
  | .ok i =>
    let (answer, s) := carryOut w i { session, tree }
    (s.finish answer, s.session, s.tree)

end CommandLine
end BeanBuilder
