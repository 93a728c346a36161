import BeanBuilder.Proofs.CommandLine.Sessions
import BeanBuilder.Proofs.CommandLine.Workshop
import BeanBuilder.Proofs.Files.Rounds
import BeanBuilder.Proofs.Java.ListedClasses

/-! # What a run that generates comes to

As long as no log file is kept, the files that are read are those that the run found, and the
classes that are selected from them are handed to one round (`exists_generate_eq`).  They have
different names, so the round tells of each of them what became of it.  Nothing is reported exactly
when every file was read and every selected class got its builder (`ok_shownRound_iff`).

Builders are kept apart by their paths, so a run accounts for every class that it selects,
whichever steps of storing builders are refused (`accounts_run`).  It has to be able to use its
settings for that (`Fits`): a setting that is no text, a level that is none, and a null character in
a path end the run where they are used.  A suffix of builders with a slash directly behind a dot
takes the paths of all builders out of the directory of the store, to one and the same file
(`not_expected`).
-/
namespace BeanBuilder
namespace CommandLine

open Files

variable {w : Surroundings} {settings : Settings} {g : GenerateRequest} {style : BuilderStyle}
  {store : Store} {rules : RoundRules} {trouble : String → Trouble} {s s' s'' : RunState} {t : Tree}

/-! ## Runs without a log file -/

/-- Between two states only log lines were shown. -/
structure RunState.OnlyShows (s s' : RunState) : Prop where
  session : s'.session = s.session
  tree : s'.tree = s.tree
  output : s'.output = s.output
  errors : ∃ logged, s'.errors = s.errors ++ logged

namespace RunState.OnlyShows

theorem refl (s : RunState) : s.OnlyShows s :=
  ⟨rfl, rfl, rfl, "", String.append_empty.symm⟩

theorem trans (h : s.OnlyShows s') (h' : s'.OnlyShows s'') : s.OnlyShows s'' := by
  obtain ⟨logged, hlogged⟩ := h.errors
  obtain ⟨more, hmore⟩ := h'.errors
  refine ⟨h'.session.trans h.session, h'.tree.trans h.tree, h'.output.trans h.output,
    logged ++ more, ?_⟩
  rw [hmore, hlogged, String.append_assoc]

theorem withTree (h : s.OnlyShows s') (t : Tree) :
    RunState.OnlyShows { s with tree := t } { s' with tree := t } :=
  ⟨h.session, rfl, h.output, h.errors⟩

/-- Without a log file, records leave the files alone. -/
theorem logged (h : s.session.log.file = none) (time : String) (records : List Log.Record) :
    s.OnlyShows (s.log time records) := by
  refine ⟨rfl, ?_, rfl, s.session.log.lines time records, rfl⟩
  simp only [RunState.log, Log.Setup.write, Log.Setup.extend, h]

end RunState.OnlyShows

/-- Without a log file, all files are read as they were at the beginning. -/
theorem exists_readFiles_eq (h : s.session.log.file = none) (time : String) (c : Java.Catalog)
    {names : List String} (hnames : ∀ name ∈ names, Path.holdsNull name = false) :
    ∃ s', s.OnlyShows s' ∧ readFiles time c names s =
      (.ok ((c.readFiles s.tree names).catalog, (c.readFiles s.tree names).diagnostics), s') := by
  induction names generalizing c s with
  | nil => exact ⟨s, .refl s, rfl⟩
  | cons name rest ih =>
    rw [List.forall_mem_cons] at hnames
    have hlogged := RunState.OnlyShows.logged h time (c.readNext s.tree name).records
    obtain ⟨s', hshows, hrest⟩ := ih (s := s.log time (c.readNext s.tree name).records)
      (by rw [hlogged.session, h]) (c.readNext s.tree name).catalog hnames.2
    rw [hlogged.tree] at hrest
    refine ⟨s', hlogged.trans hshows, ?_⟩
    simp only [readFiles, hnames.1, Bool.false_eq_true, if_false, hrest, Progress.andThen]
    rfl

/-! ## One request -/

/-- What the files that a request names hold. -/
def readingOf (t : Tree) (g : GenerateRequest) : Java.Catalog.Reading :=
  ({} : Java.Catalog).readPaths t g.paths

/-- The classes that a request selects. -/
def beansOf (t : Tree) (g : GenerateRequest) : List Bean :=
  selected g (readingOf t g).catalog.beans

/-- The rules of the round that a request asks for. -/
def rulesOf (settings : Settings) (g : GenerateRequest) (style : BuilderStyle) : RoundRules where
  strict := settings.validation.strict || g.strict
  requireConstructor := settings.validation.requireConstructor
  style

/-- Settings that a request can use: they are texts, which make a style and a store, and no null
character gets into the paths of builders. -/
structure Fits (settings : Settings) (g : GenerateRequest) (style : BuilderStyle) (store : Store) :
    Prop where
  made : settings.generation.style? = some style
  below : directoryOf settings g = .ok store.directory
  ending : settings.output.extension.text? = some store.extension
  noNull : ∀ s ∈ [style.builderSuffix, store.directory, store.extension], Path.holdsNull s = false

theorem Fits.workshop (h : Fits settings g style store) (w : Surroundings) :
    (workshopOf w settings g store.directory).Fits style store :=
  ⟨h.made, rfl, h.ending, h.noNull⟩

/-- The outcomes for the classes that a request selects, and the files after them. -/
def processed (rules : RoundRules) (store : Store) (trouble : String → Trouble)
    (g : GenerateRequest) (t : Tree) : List Outcome × Tree :=
  rules.process (store.destination trouble) (beansOf t g) t

/-- The round that a request comes to. -/
def roundFor (rules : RoundRules) (store : Store) (trouble : String → Trouble)
    (g : GenerateRequest) (t : Tree) : Round :=
  RoundRules.roundOf (beansOf t g) (processed rules store trouble g t).1

/-- What a request shows in the end: its round, behind the reports on files that were not read. -/
def shownRound (rules : RoundRules) (store : Store) (trouble : String → Trouble)
    (g : GenerateRequest) (t : Tree) : Round :=
  { roundFor rules store trouble g t with
    diagnostics := (readingOf t g).diagnostics ++ (roundFor rules store trouble g t).diagnostics }

theorem exists_build_eq (h : s.session.log.file = none) (hs : s.OnlyShows s') {k : Workshop}
    (hk : k.Fits style store) {beans : List Bean}
    (hbeans : ∀ b ∈ beans, Path.holdsNull b.qualifiedName = false) (w : Surroundings) :
    let done := (k.rules style).process (store.destination k.trouble) beans s.tree
    ∃ s'', RunState.OnlyShows { s with tree := done.2 } s'' ∧
      build w k beans s' = (.ok (RoundRules.roundOf beans done.1), s'') := by
  intro done
  have hnone : s'.session.log.file = none := by rw [hs.session, h]
  have hkept : ∀ written t, logIsReplaced written { s' with tree := t } = false := by
    intro written t
    simp only [logIsReplaced, hnone, Option.any_none]
  obtain ⟨herror, hround, htree⟩ := Workshop.workOnAll_eq hk hbeans s.tree
  simp only [build, hs.tree, hkept, Bool.false_eq_true, if_false, herror, hround, htree]
  exact ⟨_, (hs.withTree done.2).trans (.logged (by exact hnone) w.time _), rfl⟩

theorem beansOf_sublist (t : Tree) (g : GenerateRequest) :
    (beansOf t g).Sublist (readingOf t g).catalog.beans := by
  unfold beansOf selected
  split
  · exact List.Sublist.refl _
  · exact List.filter_sublist

/-- **A request without a log file** makes one round of the classes that it selects, and shows it in
the end. -/
theorem exists_generate_eq (h : s.session.log.file = none) (hfits : Fits settings g style store)
    (hpaths : ∀ file ∈ Java.Catalog.expandAll s.tree g.paths, Path.holdsNull file = false)
    (w : Surroundings) :
    let rules := rulesOf settings g style
    let shown := shownRound rules store w.trouble g s.tree
    ∃ s', RunState.OnlyShows { s with tree := (processed rules store w.trouble g s.tree).2 } s' ∧
      generate w settings g s = (.ok (if shown.ok then 0 else 1), present g.json shown s') := by
  intro rules shown
  obtain ⟨read, hread, hreading⟩ := exists_readFiles_eq h w.time {} hpaths
  let c := (({} : Java.Catalog).readFiles s.tree (Java.Catalog.expandAll s.tree g.paths)).catalog
  have hfound := hread.trans (.logged (hread.session ▸ h) w.time
    (c.linkRecords ++ [foundRecord c.link.beans.length (selected g c.link.beans).length]))
  have hbeans : ∀ b ∈ beansOf s.tree g, Path.holdsNull b.qualifiedName = false := fun b hb =>
    Java.Catalog.holdsNull_qualifiedName_readPaths ((beansOf_sublist s.tree g).subset hb)
  obtain ⟨s', hshows, hbuild⟩ := exists_build_eq h hfound (hfits.workshop w) hbeans w
  refine ⟨s', hshows, ?_⟩
  simp only [generate, hreading, Progress.andThen, hfits.below]
  change (build w (workshopOf w settings g store.directory) (beansOf s.tree g) _).andThen _ = _
  rw [hbuild]
  rfl

/-! ## What a request comes to -/

/-- The classes that a request selects have different names. -/
theorem nodup_beansOf (t : Tree) (g : GenerateRequest) :
    ((beansOf t g).map Bean.qualifiedName).Nodup :=
  ((beansOf_sublist t g).map Bean.qualifiedName).nodup
    (Java.Catalog.nodup_qualifiedName_readPaths t g.paths)

theorem concludes_processed (rules : RoundRules) (store : Store) (trouble : String → Trouble)
    (g : GenerateRequest) (t : Tree) :
    List.Forall₂ rules.Concludes (beansOf t g) (processed rules store trouble g t).1 :=
  RoundRules.concludes_process _ _ _ t

/-- Every file that a request names was read. -/
def AllRead (t : Tree) (g : GenerateRequest) : Prop :=
  ∀ file ∈ Java.Catalog.expandAll t g.paths, Java.faultOf? t file = none

/-- Every class that a request selects got its builder in a round. -/
def AllBuilt (rules : RoundRules) (g : GenerateRequest) (t : Tree) (r : Round) : Prop :=
  ∀ b ∈ beansOf t g, b.qualifiedName ++ rules.style.builderSuffix ∈ r.generated

theorem diagnostics_readingOf_eq_nil_iff : (readingOf t g).diagnostics = [] ↔ AllRead t g := by
  rw [readingOf, Java.Catalog.diagnostics_readPaths, List.filterMap_eq_nil_iff]
  simp only [Option.map_eq_none_iff, AllRead]

theorem diagnostics_roundFor_eq_nil_iff :
    (roundFor rules store trouble g t).diagnostics = [] ↔
      AllBuilt rules g t (roundFor rules store trouble g t) := by
  have hconcludes := concludes_processed rules store trouble g t
  have htold := RoundRules.told_roundOf hconcludes (nodup_beansOf t g)
  constructor
  · intro hnone b hb
    cases htold b hb with
    | generated source made once =>
      rw [BuilderStyle.qualifiedName_generate? made] at once
      exact List.count_pos_iff.mp (once ▸ Nat.one_pos)
    | reported d mem =>
      have hmem : d ∈ (roundFor rules store trouble g t).diagnostics := mem
      rw [hnone] at hmem
      exact absurd hmem List.not_mem_nil
  · intro hbuilt
    refine List.eq_nil_iff_forall_not_mem.mpr fun d hd => ?_
    obtain ⟨b, hb, hsubject⟩ := RoundRules.subject_of_mem_roundOf hconcludes hd
    cases htold b hb with
    | generated source _ _ unreported => exact unreported d hd hsubject
    | reported _ _ _ _ ungenerated => exact ungenerated (hbuilt b hb)

/-- A request has nothing to report when all files were read and all builders were made. -/
theorem ok_shownRound_iff :
    (shownRound rules store trouble g t).ok = true ↔
      AllRead t g ∧ AllBuilt rules g t (roundFor rules store trouble g t) := by
  rw [Round.ok, List.isEmpty_iff, shownRound, List.append_eq_nil_iff,
    diagnostics_readingOf_eq_nil_iff, diagnostics_roundFor_eq_nil_iff]

/-- A round, the report of a run and the files after it account for all that was asked for. -/
structure Accounts (rules : RoundRules) (store : Store) (g : GenerateRequest) (t : Tree) (r : Round)
    (report : Report) (t' : Tree) : Prop where
  /-- Classes are told apart by their names. -/
  distinct : ((beansOf t g).map Bean.qualifiedName).Nodup
  /-- The builder of a class is counted once and is in its file, or a diagnostic names the class. -/
  accounted : ∀ b ∈ beansOf t g, rules.Accounted store t' r b
  /-- No other builders are counted. -/
  generated : r.generated.Sublist
    ((beansOf t g).map fun b => b.qualifiedName ++ rules.style.builderSuffix)
  succeeds : report.code = 0 ↔ AllRead t g ∧ AllBuilt rules g t r
  fails : report.code ≠ 0 → report.code = 1
  /-- Files that were not read are reported in front of the classes without builders. -/
  output : report.output =
    if g.json then jsonText ⟨r.generated, (readingOf t g).diagnostics ++ r.diagnostics⟩
    else linesOf "generated " r.generated
  errors : ∃ logged, report.errors = logged ++ if g.json then "" else
    linesOf "error: " (((readingOf t g).diagnostics ++ r.diagnostics).map Diagnostic.text)

/-- After a run that succeeded the builder of every class is in its file. -/
theorem Accounts.exists_place {r : Round} {report : Report} {t' : Tree} {b : Bean}
    {source : BuilderSource} (h : Accounts rules store g t r report t') (hcode : report.code = 0)
    (hb : b ∈ beansOf t g) (hmade : rules.style.generate? rules.containers b = .ok source) :
    ∃ place, t'.place? (store.pathFor source.qualifiedName) = .ok place ∧
      t'.fileAt? place = some source.text.toUTF8 := by
  have hbuilt := (h.succeeds.mp hcode).2 b hb
  rw [← BuilderStyle.qualifiedName_generate? hmade] at hbuilt
  exact (h.accounted b hb).held source hmade hbuilt

/-- **A request without a log file accounts for all that was asked for.** -/
theorem accounts_generate (hlog : s.session.log.file = none) (houtput : s.output = "")
    (hfits : Fits settings g style store) (hbelow : store.StaysBelow style.builderSuffix)
    (hpaths : ∀ file ∈ Java.Catalog.expandAll s.tree g.paths, Path.holdsNull file = false) :
    let rules := rulesOf settings g style
    ∃ code s', generate w settings g s = (.ok code, s') ∧
      Accounts rules store g s.tree (roundFor rules store w.trouble g s.tree) (s'.report code)
        s'.tree := by
  intro rules
  obtain ⟨s', hshows, hgenerate⟩ := exists_generate_eq hlog hfits hpaths w
  have hqualified : ∀ b ∈ beansOf s.tree g, Store.IsQualified b.qualifiedName := fun b hb =>
    Java.Catalog.isQualified_qualifiedName_readPaths ((beansOf_sublist s.tree g).subset hb)
  have htree : (present g.json (shownRound rules store w.trouble g s.tree) s').tree =
      (processed rules store w.trouble g s.tree).2 := by
    rw [present]
    split <;> exact hshows.tree
  have hout : s'.output = "" := hshows.output.trans houtput
  refine ⟨_, _, hgenerate, nodup_beansOf s.tree g, ?_, RoundRules.generated_roundOf_sublist
    (concludes_processed rules store w.trouble g s.tree), ?_, ?_, ?_, ?_⟩
  · rw [htree]
    exact RoundRules.accounted_process hbelow (nodup_beansOf s.tree g) hqualified w.trouble s.tree
  · rw [← ok_shownRound_iff]
    simp [RunState.report, rules]
  · intro hcode
    simp only [RunState.report] at hcode ⊢
    split at hcode
    · exact absurd rfl hcode
    · rename_i hfailed
      rw [if_neg hfailed]
  · simp only [RunState.report, present]
    split <;> simp only [hout, String.empty_append] <;> rfl
  · obtain ⟨logged, hlogged⟩ := hshows.errors
    refine ⟨s.errors ++ logged, ?_⟩
    simp only [RunState.report, present]
    split
    · rw [hlogged, String.append_empty]
    · rw [hlogged]
      rfl

/-! ## Runs that generate -/

/-- The files that a run works on.  They are those that it finds, unless an earlier run of the
process has left a log file, to which loading the settings is logged. -/
def treeToRead (w : Surroundings) (S : Session) (i : Invocation) (t : Tree) : Tree :=
  (S.log.write w.time (settingsOf w.environment S.installed i t).2 t).2

theorem treeToRead_eq {S : Session} (h : S.log.file = none) (w : Surroundings) (i : Invocation)
    (t : Tree) : treeToRead w S i t = t := by
  simp only [treeToRead, Log.Setup.write, Log.Setup.extend, h]

/-- A run that gets its settings sets up the log by them, without a file if they ask for none. -/
theorem exists_carryOut_eq {S : Session} {i : Invocation} {l : LoadedSettings} {level : Log.Level}
    (hload : (settingsOf w.environment S.installed i t).1 = .ok l)
    (hlevel : Log.Level.ofValue w.environment (i.levelUnder l.settings.logging) = .ok level)
    (hfile : Log.fileOf (logFileUnder l.settings.logging) = .ok none) :
    ∃ found s, found.loaded = l ∧ s.session.log.file = none ∧ s.output = "" ∧
      s.tree = treeToRead w S i t ∧
      carryOut w i { session := S, tree := t } = perform w found i.command s := by
  rcases carryOut_cases w i { session := S, tree := t } with
    ⟨e, hasked, -⟩ | ⟨found, settings, hasked, -, hcarried⟩
  · simp only [hload] at hasked
    cases hasked
  · obtain rfl := Except.ok.inj (hload.symm.trans hasked)
    rw [hcarried]
    simp only [RunState.setLog, Log.Setup.renew, hlevel, hfile]
    refine ⟨found, _, rfl, ?_, ?_, ?_, rfl⟩ <;> rfl

/-- **A run accounts for every class that it selects**, whatever files it finds and whichever steps
of storing builders are refused, as long as it gets its settings and can use them: the level is one,
no log file is kept, what makes builders and their paths are texts, no path holds a null character,
and the settings give no ending of files with a slash and no suffix of builders with a slash
directly behind a dot.  Such a run reports.  Each of the classes has a name of its own; its builder
is counted once and its text is in the file for it at the end, or the class is the subject of a
diagnostic.  The exit code is zero if all files were read and all builders were made, and one
otherwise, and what is reported of files comes before what is reported of classes. -/
theorem accounts_run {S : Session} {words : List String} {i : Invocation} {l : LoadedSettings}
    {level : Log.Level} (hwords : Invocation.ofWords words = .ok i)
    (hcommand : i.command = .generate g)
    (hload : (settingsOf w.environment S.installed i t).1 = .ok l)
    (hlevel : Log.Level.ofValue w.environment (i.levelUnder l.settings.logging) = .ok level)
    (hfile : Log.fileOf (logFileUnder l.settings.logging) = .ok none)
    (hfits : Fits l.settings g style store) (hbelow : store.StaysBelow style.builderSuffix)
    (hpaths : ∀ file ∈ Java.Catalog.expandAll (treeToRead w S i t) g.paths,
      Path.holdsNull file = false) :
    ∃ r report S' t', run w S t words = (.finished report, S', t') ∧
      Accounts (rulesOf l.settings g style) store g (treeToRead w S i t) r report t' := by
  obtain ⟨found, s, rfl, hlog, houtput, htree, hcarried⟩ := exists_carryOut_eq hload hlevel hfile
  rw [← htree] at hpaths ⊢
  rw [hcommand, perform] at hcarried
  -- strict pairing, if it is asked for, stays in the session
  let settings := if g.strict then s.session.settings.makeStrict else s.session.settings
  obtain ⟨code, s', hgenerate, haccounts⟩ := accounts_generate (w := w) (g := g)
    (s := { s with session.settings := settings }) hlog houtput hfits hbelow hpaths
  refine ⟨_, s'.report code, s'.session, s'.tree, ?_, haccounts⟩
  rw [run, hwords]
  simp only [hcarried]
  rw [hgenerate]
  rfl

/-- Files of which one holds three classes, the second without a constructor to call, and one is no
Java. -/
def mixedTree : Tree where
  entries :=
    [(["Mixed.java"],
        .file "package p; class Kept { } class Sealed { Sealed(int a) { } } class Late { }".toUTF8),
      (["Broken.java"], .file r"class {".toUTF8)]

/-- A request for the builders of all classes. -/
def mixedRequest : GenerateRequest where
  paths := ["Mixed.java", "Broken.java"]
  outputDirectory := some "out"
  allTypes := true

/-- A disk that is full when the builder of the third class is written. -/
def fullDisk (name : String) : Trouble :=
  fun step => if name = "p.LateBuilder" ∧ step = .fill then some .noSpace else none

/-- The call that makes the request. -/
def mixedCall : Call where
  tree := mixedTree
  words := ["generate", "Mixed.java", "Broken.java", "-o", "out", "--all-types"]
  trouble := fullDisk

theorem accounts_run_mixedCall :
    let w := mixedCall.surroundings {}
    let i : Invocation := { command := .generate mixedRequest }
    let l : LoadedSettings := ⟨{}, .usual {} mixedTree⟩
    Invocation.ofWords mixedCall.words = .ok i ∧
      (settingsOf {} none i mixedTree).1 = .ok l ∧
      Log.Level.ofValue {} (i.levelUnder l.settings.logging) = .ok .info ∧
      Log.fileOf (logFileUnder l.settings.logging) = .ok none ∧
      Fits l.settings mixedRequest {} ⟨"out", ".java"⟩ ∧
      Store.StaysBelow ⟨"out", ".java"⟩ "Builder" ∧
      Java.Catalog.expandAll (treeToRead w {} i mixedTree) mixedRequest.paths =
        ["Mixed.java", "Broken.java"] ∧
      (beansOf mixedTree mixedRequest).map Bean.qualifiedName = ["p.Kept", "p.Sealed", "p.Late"] ∧
      ∃ r report S' t', run w {} mixedTree mixedCall.words = (.finished report, S', t') ∧
        Accounts (rulesOf l.settings mixedRequest {}) ⟨"out", ".java"⟩ mixedRequest
          (treeToRead w {} i mixedTree) r report t' := by
  intro w i l
  have hwords : Invocation.ofWords mixedCall.words = .ok i := by decide +kernel
  have hload : (settingsOf {} none i mixedTree).1 = .ok l := by rfl
  have hfits : Fits l.settings mixedRequest {} ⟨"out", ".java"⟩ :=
    ⟨rfl, rfl, rfl, by decide +kernel⟩
  have hbelow : Store.StaysBelow ⟨"out", ".java"⟩ "Builder" := ⟨by decide, by decide⟩
  have hpaths : Java.Catalog.expandAll (treeToRead w {} i mixedTree) mixedRequest.paths =
      ["Mixed.java", "Broken.java"] := by
    rw [treeToRead_eq rfl]
    decide +kernel
  have hbeans : (beansOf mixedTree mixedRequest).map Bean.qualifiedName =
      ["p.Kept", "p.Sealed", "p.Late"] := by
    decide +kernel
  refine ⟨hwords, hload, rfl, rfl, hfits, hbelow, hpaths, hbeans, ?_⟩
  refine accounts_run hwords rfl hload rfl rfl hfits hbelow ?_
  rw [hpaths]
  decide +kernel

/-! ## Settings that cannot be used -/

/-- The error with which a run breaks down. -/
def RunEnd.breakdown? : RunEnd → Option Breakdown
  | .broken e _ => some e
  | _ => none

/-- The exit code of a run that reports. -/
def RunEnd.code? : RunEnd → Option Nat
  | .finished r => some r.code
  | _ => none

/-- What is to be expected of a call that generates in a process of its own, if its settings load,
give an ending of files without a slash, and ask for no log file. -/
def Expected (c : Call) : Prop :=
  ∀ i g l, Invocation.ofWords c.words = .ok i → i.command = .generate g →
    (settingsOf {} none i c.tree).1 = .ok l → l.settings.logging.toFile = false →
    (∀ ending ∈ l.settings.output.extension.text?, '/' ∉ ending.toList) →
      ∃ report S' t', c.carriedOut {} {} = (.finished report, S', t') ∧
        ∀ style store, Fits l.settings g style store →
          ∃ r, Accounts (rulesOf l.settings g style) store g c.tree r report t'

/-- A request for the builders of two classes. -/
def ownRequest : GenerateRequest where
  paths := ["A.java"]
  allTypes := true

def ownInvocation : Invocation where
  settingsFile := some "own"
  command := .generate ownRequest

/-- A call that makes the builders by settings in a file. -/
def callWith (settings : String) : Call where
  tree.entries :=
    [(["A.java"], .file "class A { } class B { }".toUTF8), (["own"], .file settings.toUTF8)]
  words := ["--config", "own", "generate", "A.java", "--all-types"]

theorem ofWords_callWith (settings : String) :
    Invocation.ofWords (callWith settings).words = .ok ownInvocation :=
  rfl

/-- What settings say of log files and of the files of builders. -/
def filesUnder (l : LoadedSettings) : Bool × Option String :=
  (l.settings.logging.toFile, l.settings.output.extension.text?)

/-- What is expected of the call, if its settings are of this kind. -/
theorem Expected.exists_finished {settings : String} {l : LoadedSettings}
    (h : Expected (callWith settings))
    (hload : (settingsOf {} none ownInvocation (callWith settings).tree).1 = .ok l)
    (hfiles : filesUnder l = (false, some ".java")) :
    ∃ report S' t', (callWith settings).carriedOut {} {} = (.finished report, S', t') ∧
      ∀ style store, Fits l.settings ownRequest style store →
        ∃ r, Accounts (rulesOf l.settings ownRequest style) store ownRequest
          (callWith settings).tree r report t' := by
  obtain ⟨hfile, hending⟩ := Prod.mk.inj hfiles
  refine h ownInvocation ownRequest l (ofWords_callWith settings) rfl hload hfile ?_
  rw [hending]
  intro ending hsome
  obtain rfl := Option.some.inj hsome
  decide

/-- A run that breaks down is not as expected. -/
theorem not_expected_of_broken {settings : String}
    (hload : (settingsOf {} none ownInvocation (callWith settings).tree).1.toOption.map filesUnder =
      some (false, some ".java"))
    (hbroken : ((callWith settings).carriedOut {} {}).1.breakdown?.isSome = true) :
    ¬ Expected (callWith settings) := by
  intro h
  obtain ⟨l, hloaded, hfiles⟩ := Option.map_eq_some_iff.mp hload
  obtain ⟨report, S', t', hrun, -⟩ := h.exists_finished (toOption_eq_some_iff.mp hloaded) hfiles
  rw [hrun] at hbroken
  cases hbroken

/-- Settings that load, and with which a run breaks down: values that are no texts, a level that is
none, and a suffix with a null character. -/
def spoiledSettings : List String :=
  [r#"{"generation": {"indent": 4}}"#,
    r#"{"generation": {"builder_suffix": 4}}"#,
    r#"{"generation": {"factory_method_name": 4}}"#,
    r#"{"generation": {"builder_suffix": "\u0000"}}"#,
    r#"{"output": {"output_dir": 4}}"#,
    r#"{"logging": {"level": 4}}"#]

/-- Settings with a suffix of builders that leads out of every directory. -/
def straySettings : String :=
  r#"{"generation": {"builder_suffix": "./tmp/SharedBuilder"}}"#

/-- The style that they make. -/
def strayStyle : BuilderStyle where
  builderSuffix := "./tmp/SharedBuilder"

/-- The store that they make. -/
def strayStore : Store where
  directory := "generated-sources"

/-- The first of the two classes. -/
def strayBean : Bean where
  simpleName := "A"
  constructors := [[]]

/-- What the request can use of settings. -/
def usedOf (l : LoadedSettings) : Option BuilderStyle × Option String :=
  (l.settings.generation.style?, (directoryOf l.settings ownRequest).toOption)

theorem not_expected :
    ¬ Expected (callWith straySettings) ∧
      ∀ settings ∈ spoiledSettings, ¬ Expected (callWith settings) := by
  have hspoiled : ∀ settings ∈ spoiledSettings,
      (settingsOf {} none ownInvocation (callWith settings).tree).1.toOption.map filesUnder =
          some (false, some ".java") ∧
        ((callWith settings).carriedOut {} {}).1.breakdown?.isSome = true := by
    decide +kernel
  refine ⟨fun h => ?_, fun settings hmem =>
    not_expected_of_broken (hspoiled settings hmem).1 (hspoiled settings hmem).2⟩
  have hload : (settingsOf {} none ownInvocation (callWith straySettings).tree).1.toOption.map
      (fun l => (filesUnder l, usedOf l)) =
        some ((false, some ".java"), some strayStyle, some "generated-sources") := by
    decide +kernel
  -- the run succeeds, and the file for the first class does not hold its builder
  have hended : ((callWith straySettings).carriedOut {} {}).1.code? = some 0 ∧
      ((callWith straySettings).carriedOut {} {}).2.2.place?
          (strayStore.pathFor "A./tmp/SharedBuilder") = .ok ["/", "tmp", "SharedBuilder.java"] ∧
      ((callWith straySettings).carriedOut {} {}).2.2.fileAt? ["/", "tmp", "SharedBuilder.java"] ≠
        ((strayStyle.generate? {} strayBean).toOption.map fun source => source.text.toUTF8) := by
    decide +kernel
  have hbean : strayBean ∈ beansOf (callWith straySettings).tree ownRequest := by decide +kernel
  have hmade : (strayStyle.generate? {} strayBean).isOk = true := by decide +kernel
  obtain ⟨l, hloaded, hused⟩ := Option.map_eq_some_iff.mp hload
  obtain ⟨hfiles, hused⟩ := Prod.mk.inj hused
  obtain ⟨hstyle, hdirectory⟩ := Prod.mk.inj hused
  have hfits : Fits l.settings ownRequest strayStyle strayStore :=
    ⟨hstyle, toOption_eq_some_iff.mp hdirectory, (Prod.mk.inj hfiles).2, by decide +kernel⟩
  obtain ⟨report, S', t', hrun, hexpected⟩ :=
    h.exists_finished (toOption_eq_some_iff.mp hloaded) hfiles
  obtain ⟨r, haccounts⟩ := hexpected strayStyle strayStore hfits
  rw [hrun] at hended
  obtain ⟨hcode, hplace, hfile⟩ := hended
  cases hm : strayStyle.generate? {} strayBean with
  | error e =>
    rw [hm] at hmade
    cases hmade
  | ok source =>
    obtain ⟨place, hheld, htext⟩ := haccounts.exists_place (Option.some.inj hcode) hbean hm
    rw [BuilderStyle.qualifiedName_generate? hm] at hheld
    obtain rfl := Except.ok.inj (hplace.symm.trans hheld)
    rw [hm] at hfile
    exact hfile htext

end CommandLine
end BeanBuilder
