import BeanBuilder.Proofs.Data.Values
import BeanBuilder.Proofs.Files.Path
import BeanBuilder.Proofs.Results
import BeanBuilder.Proofs.Text.Utf8
import BeanBuilder.Settings.File

/-! # Saved settings

Settings are made of four sections (`Settings.Sections`), and a mapping is accepted if its sections
are sound (`Settings.ofEntries_eq_ok_iff`).  Accepted settings are settled: what the environment
asks for is in them already, and neither of the two names is empty (`Settings.Settled`).  Their own
mapping therefore makes the same settings again in the same environment, and a mapping that is like
it makes settings that are like them (`Settings.Settled.ofEntries_of_like`).

A settings file is written as bytes, and read as a value of its format.  As long as the format reads
back what it wrote (`SettingsFile.ReadsBack`), settings that were saved are loaded again
(`LoadedSettings.load_save`).
-/
namespace BeanBuilder

open Files

namespace Settings

variable {env : Environment} {entries fields : Entries} {s : Settings} {e : LineEnd}

/-! ## Sections -/

/-- The looks of builders that a section makes, with a line end. -/
def generationFrom (found : Entries) (e : LineEnd) : GenerationSettings :=
  let d : GenerationSettings := {}
  { lineEnd := e
    indent := valueOr found "indent" d.indent
    builderSuffix := valueOr found "builder_suffix" d.builderSuffix
    factoryName := valueOr found "factory_method_name" d.factoryName }

/-- Whether a section holds a line end and two names that are not empty. -/
structure Sound (found : Entries) (e : LineEnd) : Prop where
  lineEnd : LineEnd.ofValue?
    (valueOr found "line_separator" (.text ({} : GenerationSettings).lineEnd.text)) = some e
  builderSuffix : (generationFrom found e).builderSuffix.isTruthy = true
  factoryName : (generationFrom found e).factoryName.isTruthy = true

theorem generationOf_eq_ok_iff {g : GenerationSettings} :
    generationOf entries = .ok g ↔ ∃ found e, section? entries "generation" = .ok found ∧
      Sound found e ∧ g = generationFrom found e := by
  constructor
  · intro h
    obtain ⟨found, hfound, h⟩ := except_bind_eq_ok_iff.mp h
    split at h
    · cases h
    · rename_i e he
      dsimp only at h
      split at h
      · rename_i hnames
        exact ⟨found, e, hfound, ⟨he, hnames.1, hnames.2⟩, except_pure_eq_ok_iff.mp h⟩
      · cases h
  · rintro ⟨found, e, hfound, ⟨he, hsuffix, hfactory⟩, rfl⟩
    rw [generationOf, hfound, except_ok_bind]
    simp only [he]
    exact if_pos ⟨hsuffix, hfactory⟩

/-- The entries of the four sections. -/
structure Sections where
  generation : Entries
  validation : Entries
  output : Entries
  logging : Entries

/-- Whether the sections are those of a mapping. -/
structure Sections.In (x : Sections) (entries : Entries) : Prop where
  generation : section? entries "generation" = .ok x.generation
  validation : section? entries "validation" = .ok x.validation
  output : section? entries "output" = .ok x.output
  logging : section? entries "logging" = .ok x.logging

/-- The settings that the sections and the environment make, with a line end. -/
def Sections.make (x : Sections) (env : Environment) (e : LineEnd) : Settings :=
  let d : Settings := {}
  { generation := generationFrom x.generation e
    validation :=
      { strict := env.asksStrict || truthOr x.validation "strict_pojo_check" d.validation.strict
        requireConstructor :=
          truthOr x.validation "require_no_arg_constructor" d.validation.requireConstructor }
    output :=
      { directory :=
          (env.namedOutput?.map Value.text).getD (valueOr x.output "output_dir" d.output.directory)
        extension := valueOr x.output "file_extension" d.output.extension }
    logging :=
      { level := valueOr x.logging "level" d.logging.level
        toFile := truthOr x.logging "enable_file_logging" d.logging.toFile
        file := valueOr x.logging "log_file" d.logging.file } }

/-- **A mapping is accepted if its sections are sound**, and makes the settings that they make. -/
theorem ofEntries_eq_ok_iff : ofEntries env entries = .ok s ↔
    ∃ (x : Sections) (e : LineEnd), x.In entries ∧ Sound x.generation e ∧ s = x.make env e := by
  constructor
  · intro h
    obtain ⟨generation, hgeneration, h⟩ := except_bind_eq_ok_iff.mp h
    obtain ⟨validation, hvalidation, h⟩ := except_bind_eq_ok_iff.mp h
    obtain ⟨output, houtput, h⟩ := except_bind_eq_ok_iff.mp h
    obtain ⟨logging, hlogging, h⟩ := except_bind_eq_ok_iff.mp h
    obtain ⟨g, e, hg, hsound, rfl⟩ := generationOf_eq_ok_iff.mp hgeneration
    obtain ⟨v, hv, hvalidation⟩ := except_bind_eq_ok_iff.mp hvalidation
    obtain ⟨o, ho, houtput⟩ := except_bind_eq_ok_iff.mp houtput
    obtain ⟨l, hl, hlogging⟩ := except_bind_eq_ok_iff.mp hlogging
    rw [except_pure_eq_ok_iff] at h hvalidation houtput hlogging
    refine ⟨⟨g, v, o, l⟩, e, ⟨hg, hv, ho, hl⟩, hsound, ?_⟩
    rw [h, hvalidation, houtput, hlogging]
    rfl
  · rintro ⟨x, e, ⟨hg, hv, ho, hl⟩, hsound, rfl⟩
    have hgeneration := generationOf_eq_ok_iff.mpr ⟨x.generation, e, hg, hsound, rfl⟩
    rw [ofEntries, hgeneration, validationOf, hv, outputOf, ho, loggingOf, hl]
    rfl

/-! ## Settings that were accepted -/

/-- Settings that an environment has nothing to add to. -/
structure Settled (s : Settings) (env : Environment) : Prop where
  builderSuffix : s.generation.builderSuffix.isTruthy = true
  factoryName : s.generation.factoryName.isTruthy = true
  strict : env.asksStrict = true → s.validation.strict = true
  directory : ∀ name, env.namedOutput? = some name → s.output.directory = .text name

/-- **Accepted settings are settled.** -/
theorem settled_of_ofEntries (h : ofEntries env entries = .ok s) : s.Settled env := by
  obtain ⟨x, e, -, hsound, rfl⟩ := ofEntries_eq_ok_iff.mp h
  refine ⟨hsound.builderSuffix, hsound.factoryName, fun hstrict => ?_, fun name hname => ?_⟩
  · simp only [Sections.make, hstrict, Bool.true_or]
  · simp only [Sections.make, hname, Option.map_some, Option.getD_some]

/-- The sections of the mapping of settings. -/
def sections (s : Settings) : Sections where
  generation :=
    [("line_separator", .text s.generation.lineEnd.text), ("indent", s.generation.indent),
      ("builder_suffix", s.generation.builderSuffix),
      ("factory_method_name", s.generation.factoryName)]
  validation :=
    [("strict_pojo_check", .truth s.validation.strict),
      ("require_no_arg_constructor", .truth s.validation.requireConstructor)]
  output := [("output_dir", s.output.directory), ("file_extension", s.output.extension)]
  logging :=
    [("level", s.logging.level), ("enable_file_logging", .truth s.logging.toFile),
      ("log_file", s.logging.file)]

theorem Settled.sound (h : s.Settled env) : Sound s.sections.generation s.generation.lineEnd :=
  ⟨LineEnd.ofValue?_text s.generation.lineEnd, h.builderSuffix, h.factoryName⟩

/-- The sections of settled settings make them again. -/
theorem Settled.make_sections (h : s.Settled env) :
    s.sections.make env s.generation.lineEnd = s := by
  have hstrict : (env.asksStrict || s.validation.strict) = s.validation.strict := by
    cases hasks : env.asksStrict with
    | false => rfl
    | true => rw [h.strict hasks, Bool.or_self]
  have hdirectory : (env.namedOutput?.map Value.text).getD s.output.directory =
      s.output.directory := by
    cases hnamed : env.namedOutput? with
    | none => rfl
    | some name => exact (h.directory name hnamed).symm
  obtain ⟨generation, validation, output, logging⟩ := s
  change Settings.mk generation
    ⟨env.asksStrict || validation.strict, validation.requireConstructor⟩
    ⟨(env.namedOutput?.map Value.text).getD output.directory, output.extension⟩ logging = _
  rw [hstrict, hdirectory]

/-- The sections of the mapping of settings are found in it. -/
theorem sections_in_toEntries (s : Settings) : s.sections.In s.toEntries :=
  ⟨rfl, rfl, rfl, rfl⟩

/-- **Settled settings are made again** by their own mapping. -/
theorem Settled.ofEntries_toEntries (h : s.Settled env) : ofEntries env s.toEntries = .ok s :=
  ofEntries_eq_ok_iff.mpr
    ⟨s.sections, s.generation.lineEnd, s.sections_in_toEntries, h.sound, h.make_sections.symm⟩

/-! ## Mappings that are alike -/

section Alike

variable {xs ys : Entries} {x y : Sections}

theorem valueOr_like (h : Value.FieldsLike xs ys) (key : String) (otherwise : Value) :
    (valueOr xs key otherwise).Like (valueOr ys key otherwise) := by
  have hmap := h.map_field? key
  unfold valueOr
  cases hx : Value.field? xs key <;> cases hy : Value.field? ys key <;>
    rw [hx, hy] at hmap <;> simp_all [Value.Like]

theorem truthOr_eq (h : Value.FieldsLike xs ys) (key : String) (otherwise : Bool) :
    truthOr xs key otherwise = truthOr ys key otherwise :=
  (valueOr_like h key (.truth otherwise)).isTruthy_eq

theorem ofValue?_eq_of_like {v w : Value} (h : v.Like w) :
    LineEnd.ofValue? v = LineEnd.ofValue? w := by
  have htext : ∀ v : Value, LineEnd.ofValue? v.unnumbered = LineEnd.ofValue? v := by
    intro v
    unfold Value.unnumbered
    split <;> rfl
  rw [← htext v, h, htext w]

theorem Sound.of_like (h : Sound ys e) (hlike : Value.FieldsLike xs ys) : Sound xs e where
  lineEnd := (ofValue?_eq_of_like (valueOr_like hlike _ _)).trans h.lineEnd
  builderSuffix := (valueOr_like hlike _ _).isTruthy_eq.trans h.builderSuffix
  factoryName := (valueOr_like hlike _ _).isTruthy_eq.trans h.factoryName

/-- Sections that are alike. -/
structure Sections.Like (x y : Sections) : Prop where
  generation : Value.FieldsLike x.generation y.generation
  validation : Value.FieldsLike x.validation y.validation
  output : Value.FieldsLike x.output y.output
  logging : Value.FieldsLike x.logging y.logging

/-- Sections that are alike make settings whose mappings are alike. -/
theorem Sections.Like.toEntries_make (h : x.Like y) (env : Environment) (e : LineEnd) :
    (Value.record (x.make env e).toEntries).Like (Value.record (y.make env e).toEntries) := by
  have hg : ∀ key v, (valueOr x.generation key v).unnumbered =
      (valueOr y.generation key v).unnumbered := valueOr_like h.generation
  have hl : ∀ key v, (valueOr x.logging key v).unnumbered =
      (valueOr y.logging key v).unnumbered := valueOr_like h.logging
  have hextension : (valueOr x.output "file_extension" _).unnumbered =
      (valueOr y.output "file_extension" _).unnumbered := valueOr_like h.output _ (.text ".java")
  have hdirectory : ((x.make env e).output.directory).unnumbered =
      ((y.make env e).output.directory).unnumbered := by
    simp only [Sections.make]
    cases env.namedOutput? with
    | none => exact valueOr_like h.output _ _
    | some name => rfl
  simp only [Sections.make] at hdirectory
  simp only [Value.Like, toEntries, Sections.make, generationFrom, Value.unnumbered_record,
    List.map_cons, List.map_nil, truthOr_eq h.validation, truthOr_eq h.logging, hg, hl, hextension,
    hdirectory]

/-- The section of a mapping that is like one with a record for it. -/
theorem exists_section? {name : String} (h : Value.FieldsLike entries ys)
    (hfield : Value.field? ys name = some (.record fields)) (hne : fields ≠ []) :
    ∃ found, section? entries name = .ok found ∧ Value.FieldsLike found fields := by
  have hmap := h.map_field? name
  rw [hfield, Option.map_some] at hmap
  obtain ⟨v, hv, hlike⟩ := Option.map_eq_some_iff.mp hmap
  have hlike : v.Like (.record fields) := hlike
  obtain ⟨found, hfound, hfields⟩ := hlike.exists_fields?
  have htruthy : v.isTruthy = true := by
    rw [hlike.isTruthy_eq]
    cases fields with
    | nil => exact absurd rfl hne
    | cons f rest => rfl
  refine ⟨found, ?_, hfields⟩
  rw [section?, hv, Option.filter_some_pos htruthy]
  simp only [hfound]

theorem exists_sections_in (h : Value.FieldsLike entries s.toEntries) :
    ∃ x : Sections, x.In entries ∧ x.Like s.sections := by
  have hall : ∀ name fields, Value.field? s.toEntries name = some (.record fields) →
      fields ≠ [] → ∃ found, section? entries name = .ok found ∧ Value.FieldsLike found fields :=
    fun _ _ hfield hne => exists_section? h hfield hne
  obtain ⟨g, hg, hglike⟩ := hall "generation" s.sections.generation rfl (List.cons_ne_nil _ _)
  obtain ⟨v, hv, hvlike⟩ := hall "validation" s.sections.validation rfl (List.cons_ne_nil _ _)
  obtain ⟨o, ho, holike⟩ := hall "output" s.sections.output rfl (List.cons_ne_nil _ _)
  obtain ⟨l, hl, hllike⟩ := hall "logging" s.sections.logging rfl (List.cons_ne_nil _ _)
  exact ⟨⟨g, v, o, l⟩, ⟨hg, hv, ho, hl⟩, ⟨hglike, hvlike, holike, hllike⟩⟩

/-- **A mapping that is like that of settled settings** makes settings that are like them. -/
theorem Settled.ofEntries_of_like (hs : s.Settled env)
    (h : Value.FieldsLike entries s.toEntries) :
    ∃ s', ofEntries env entries = .ok s' ∧
      (Value.record s'.toEntries).Like (Value.record s.toEntries) := by
  obtain ⟨x, hx, hlike⟩ := exists_sections_in h
  have hsound := hs.sound.of_like hlike.generation
  refine ⟨_, ofEntries_eq_ok_iff.mpr ⟨x, _, hx, hsound, rfl⟩, ?_⟩
  have hmake := hlike.toEntries_make env s.generation.lineEnd
  rwa [hs.make_sections] at hmake

end Alike

end Settings

/-! ## Files -/

namespace SettingsFile

variable {f g : SettingsFile} {s : Settings} {t : Tree}

/-- Whether the format of a file reads back what it wrote: the text of some settings holds their
mapping. -/
def ReadsBack (f : SettingsFile) (s : Settings) : Prop :=
  ∃ v, f.valueOf (String.ofList (Text.unifyLineEnds (f.textOf s).toList)) = .ok v ∧
    v.Like (.record s.toEntries)

theorem proper_choose (env : Environment) (t : Tree) (name : Option String) :
    (choose env t name).path.Proper := by
  unfold choose usual
  split
  · exact Path.proper_ofString _
  · split <;> exact Path.proper_ofString _

/-- What a file holds is a matter of its path, however the file is shown. -/
theorem entries_of_path_eq {found : Settings.Entries} (hpath : g.path = f.path)
    (h : f.entries t = .ok found) : g.entries t = .ok found := by
  obtain ⟨path, shown⟩ := g
  subst hpath
  have hvalue : value ⟨f.path, shown⟩ t = f.value t := rfl
  unfold entries at h ⊢
  rw [hvalue]
  split at h
  · cases h
  · cases h
  · exact h
  · split at h
    · exact h
    · cases h

/-- The entries in a file that holds the text of some settings. -/
theorem exists_entries (h : f.ReadsBack s) (hread : t.read f.path.text = .ok (f.textOf s).toUTF8) :
    ∃ found, f.entries t = .ok found ∧ Value.FieldsLike found s.toEntries := by
  obtain ⟨v, hv, hlike⟩ := h
  have hvalue : f.value t = .ok v := by
    simp only [value, hread, Text.decodeUtf8_toUTF8, Except.toOption, ReadFault.orUnreadable,
      except_ok_bind, hv]
  obtain ⟨found, hfound, hfields⟩ := hlike.exists_fields?
  have hnull : v ≠ .null := by
    rintro rfl
    cases hfound
  refine ⟨found, ?_, hfields⟩
  unfold entries
  rw [hvalue]
  split
  · rename_i hfault
    cases hfault
  · rename_i hfault
    cases hfault
  · rename_i hsame
    exact absurd (Except.ok.inj hsame) hnull
  · rename_i hsame
    rw [← Except.ok.inj hsame, hfound]

end SettingsFile

namespace LoadedSettings

variable {env : Environment} {entries : Settings.Entries} {s : Settings}

theorem proper_target {l : LoadedSettings} (h : l.file.path.Proper) (name : Option String) :
    (l.target name).path.Proper := by
  unfold target
  split
  · exact Path.proper_ofString _
  · exact h

/-- **Accepted settings survive saving.**  Their own mapping makes them again in the same
environment.  They are saved wherever a file can be written, under any name and in either format;
and loading what is there, however the file is shown, gives settings with the same mapping, as long
as the format reads back what it wrote. -/
theorem load_save (h : Settings.ofEntries env entries = .ok s) :
    Settings.ofEntries env s.toEntries = .ok s ∧
    ∀ (given name : Option String) (t₀ t : Tree) (place : Place),
      let l : LoadedSettings := ⟨s, SettingsFile.choose env t₀ given⟩
      let f := l.target name
      t.placeToWrite f.path = .ok place → f.ReadsBack s →
        ∃ (t' : Tree) (s' : Settings), (l.save name t).1 = .ok t' ∧
          (∀ g : SettingsFile, g.path = f.path → (g.load env t').1 = .ok ⟨s', g⟩) ∧
            (Value.record s'.toEntries).Like (Value.record s.toEntries) := by
  have hs := Settings.settled_of_ofEntries h
  refine ⟨hs.ofEntries_toEntries, ?_⟩
  intro given name t₀ t place l f hplace hreads
  have hproper : f.path.Proper := l.proper_target (SettingsFile.proper_choose env t₀ given) name
  obtain ⟨hthere, hread⟩ := Tree.read_of_placeToWrite hproper hplace (f.textOf s).toUTF8
  obtain ⟨found, hfound, hlike⟩ := SettingsFile.exists_entries hreads hread
  obtain ⟨s', hmade, hsame⟩ := hs.ofEntries_of_like hlike
  refine ⟨t.put place (.file (f.textOf s).toUTF8), s', ?_, ?_, hsame⟩
  · simp only [save, Tree.write]
    rw [hplace]
  · intro g hpath
    have hentries := SettingsFile.entries_of_path_eq hpath hfound
    simp only [SettingsFile.load, hpath, hthere, hentries, hmade]
    rfl

/-- An environment that names a directory. -/
def sendingEnvironment : Environment where
  outputDirectory := some "sent"

/-- A mapping with values that are no texts, and without a section. -/
def oddEntries : Settings.Entries :=
  [("generation", .record [("indent", .whole 3), ("factory_method_name", .list [.null])]),
    ("validation", .record [("strict_pojo_check", .text "no")]),
    ("output", .null), ("logging", .record [("level", .truth false)])]

/-- What it makes. -/
def oddSettings : Settings where
  generation := { indent := .whole 3, factoryName := .list [.null] }
  validation := { strict := true }
  output := { directory := .text "sent" }
  logging := { level := .truth false }

/-- A text is read by its characters. -/
theorem read?_of_toList {text : String} {chars : List Char} {v : Value} (h : text.toList = chars)
    (hv : Json.readValue? (2 * (Text.unifyLineEnds chars).length + 2)
      (Json.skipSpace (Text.unifyLineEnds chars)) = some (v, [])) :
    ReadFault.orUnreadable (Json.read? (String.ofList (Text.unifyLineEnds text.toList))) =
      .ok v := by
  subst h
  simp only [Json.read?, String.toList_ofList, hv]
  rfl

set_option maxRecDepth 2000 in
theorem readsBack_oddSettings : (SettingsFile.named "saved").ReadsBack oddSettings := by
  have hyaml : (SettingsFile.named "saved").isYaml = false := by decide +kernel
  refine ⟨.record oddSettings.toEntries, ?_, rfl⟩
  simp only [SettingsFile.valueOf, SettingsFile.textOf, hyaml, Bool.false_eq_true, if_false]
  -- the kernel is slow at the characters of a long text, but not at those of its pieces
  apply read?_of_toList
  case h =>
    simp only [Json.write, Json.valueText, Json.entriesText, Json.itemsText, Json.stringText,
      Json.newLine, Json.keyText, Value.shown, Text.repeated, Value.record, Settings.toEntries,
      oddSettings, List.map_cons, List.map_nil, List.isEmpty_cons, List.isEmpty_nil, if_true,
      Bool.false_eq_true, if_false, String.toList_append, String.toList_ofList]
    exact rfl
  case hv => decide +kernel

theorem load_save_oddSettings :
    Settings.ofEntries sendingEnvironment oddEntries = .ok oddSettings ∧
      Settings.ofEntries sendingEnvironment oddSettings.toEntries = .ok oddSettings ∧
      ∃ (t' : Tree) (s' : Settings),
        (LoadedSettings.save ⟨oddSettings, .named "saved"⟩ none {}).1 = .ok t' ∧
          ((SettingsFile.named "saved").load sendingEnvironment t').1 =
            .ok ⟨s', .named "saved"⟩ ∧
          (Value.record s'.toEntries).Like (Value.record oddSettings.toEntries) := by
  have hmade : Settings.ofEntries sendingEnvironment oddEntries = .ok oddSettings := rfl
  have hplace : ({} : Tree).placeToWrite (SettingsFile.named "saved").path = .ok ["saved"] := by
    decide +kernel
  obtain ⟨hagain, hall⟩ := load_save hmade
  obtain ⟨t', s', hsave, hload, hlike⟩ :=
    hall (some "saved") none {} {} ["saved"] hplace readsBack_oddSettings
  exact ⟨hmade, hagain, t', s', hsave, hload _ rfl, hlike⟩

end LoadedSettings
end BeanBuilder
