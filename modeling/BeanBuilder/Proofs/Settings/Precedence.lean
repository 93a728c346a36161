import BeanBuilder.Proofs.Settings.Saving

/-! # Where settings come from

Every setting is kept under a key of a section (`Setting`).  What the environment says about it
comes first, then what the file gives, and then what holds without both (`preferred`).

All settings but one follow this.  A word in the environment can make the demands on beans strict,
but no word there makes them lenient again where the file makes them strict
(`Settings.Overruled`).
-/
namespace BeanBuilder
namespace Settings

variable {env : Environment} {entries : Entries} {s : Settings}

/-! ## Settings one by one -/

/-- The settings. -/
inductive Setting where
  | lineSeparator
  | indent
  | builderSuffix
  | factoryName
  | strict
  | requireConstructor
  | directory
  | extension
  | level
  | toFile
  | logFile
  deriving DecidableEq, Repr

namespace Setting

/-- The section that a setting is kept in. -/
def inSection : Setting → String
  | lineSeparator | indent | builderSuffix | factoryName => "generation"
  | strict | requireConstructor => "validation"
  | directory | extension => "output"
  | level | toFile | logFile => "logging"

/-- The key that a setting is kept under. -/
def key : Setting → String
  | lineSeparator => "line_separator"
  | indent => "indent"
  | builderSuffix => "builder_suffix"
  | factoryName => "factory_method_name"
  | strict => "strict_pojo_check"
  | requireConstructor => "require_no_arg_constructor"
  | directory => "output_dir"
  | extension => "file_extension"
  | level => "level"
  | toFile => "enable_file_logging"
  | logFile => "log_file"

/-- Whether a setting is a truth value, whatever the file gives for it. -/
def isTruth : Setting → Bool
  | strict | requireConstructor | toFile => true
  | _ => false

/-- What a value in the file means for a setting. -/
def meaning (x : Setting) (v : Value) : Value :=
  if x.isTruth then .truth v.isTruthy else v

/-- The word that the environment has for a setting. -/
def word? (x : Setting) (env : Environment) : Option String :=
  match x with
  | strict => env.strictPairing
  | directory => env.outputDirectory
  | _ => none

/-- What a word in the environment means for a setting. -/
def wordMeaning (x : Setting) (word : String) : Value :=
  if x.isTruth then .truth (Environment.affirms (some word)) else .text word

end Setting

/-- The value of a setting. -/
def value (s : Settings) : Setting → Value
  | .lineSeparator => .text s.generation.lineEnd.text
  | .indent => s.generation.indent
  | .builderSuffix => s.generation.builderSuffix
  | .factoryName => s.generation.factoryName
  | .strict => .truth s.validation.strict
  | .requireConstructor => .truth s.validation.requireConstructor
  | .directory => s.output.directory
  | .extension => s.output.extension
  | .level => s.logging.level
  | .toFile => .truth s.logging.toFile
  | .logFile => s.logging.file

/-- What some entries hold under the key of a setting. -/
def given? (entries : Entries) (x : Setting) : Option Value :=
  (section? entries x.inSection).toOption.bind fun found => Value.field? found x.key

/-- What the environment says about a setting; an empty word says nothing. -/
def said? (env : Environment) (x : Setting) : Option Value :=
  ((x.word? env).filter (· ≠ "")).map x.wordMeaning

/-- The value of a setting by precedence: what the environment says, else what the file gives, else
what holds without both. -/
def preferred (env : Environment) (entries : Entries) (x : Setting) : Value :=
  ((said? env x).or ((given? entries x).map x.meaning)).getD (({} : Settings).value x)

/-- The environment says that the demands on beans are not strict, and the file that they are. -/
def Overruled (env : Environment) (entries : Entries) : Prop :=
  said? env .strict = some (.truth false) ∧
    (given? entries .strict).map Setting.strict.meaning = some (.truth true)

instance (env : Environment) (entries : Entries) : Decidable (Overruled env entries) :=
  inferInstanceAs (Decidable (_ ∧ _))

/-! ## The value of a setting -/

/-- The entries of the section that a setting is kept in. -/
def Sections.holding (x : Sections) (setting : Setting) : Entries :=
  match setting with
  | .lineSeparator | .indent | .builderSuffix | .factoryName => x.generation
  | .strict | .requireConstructor => x.validation
  | .directory | .extension => x.output
  | .level | .toFile | .logFile => x.logging

theorem Sections.In.given?_eq {x : Sections} (h : x.In entries) (setting : Setting) :
    given? entries setting = Value.field? (x.holding setting) setting.key := by
  have hsection : section? entries setting.inSection = .ok (x.holding setting) := by
    cases setting with
    | lineSeparator | indent | builderSuffix | factoryName => exact h.generation
    | strict | requireConstructor => exact h.validation
    | directory | extension => exact h.output
    | level | toFile | logFile => exact h.logging
  rw [given?, hsection]
  rfl

/-- A value that is taken as it is. -/
theorem valueOr_eq (found : Entries) (setting : Setting) (h : setting.isTruth = false)
    (otherwise : Value) :
    valueOr found setting.key otherwise =
      ((Value.field? found setting.key).map setting.meaning).getD otherwise := by
  have hmeaning : setting.meaning = id := by
    funext v
    rw [Setting.meaning, h]
    rfl
  rw [hmeaning, Option.map_id, id, valueOr]

/-- A value of which only the truth is taken. -/
theorem truth_truthOr_eq (found : Entries) (setting : Setting) (h : setting.isTruth = true)
    (otherwise : Bool) :
    Value.truth (truthOr found setting.key otherwise) =
      ((Value.field? found setting.key).map setting.meaning).getD (.truth otherwise) := by
  rw [truthOr, valueOr]
  cases Value.field? found setting.key with
  | none => rfl
  | some v => simp [Setting.meaning, h]

theorem eq_text_of_ofValue? {v : Value} {e : LineEnd} (h : LineEnd.ofValue? v = some e) :
    v = .text e.text := by
  unfold LineEnd.ofValue? at h
  split at h
  · split_ifs at h with hfeed hreturn
    · rw [hfeed, ← Option.some.inj h]
      rfl
    · rw [hreturn, ← Option.some.inj h]
      rfl
  · cases h

/-- Where the environment says nothing, the file decides. -/
theorem preferred_of_said?_eq_none {setting : Setting} (h : said? env setting = none) :
    preferred env entries setting =
      ((given? entries setting).map setting.meaning).getD (({} : Settings).value setting) := by
  rw [preferred, h, Option.none_or]

/-- The environment asks for strict demands exactly if it says so. -/
theorem asksStrict_eq_true_iff :
    env.asksStrict = true ↔ said? env .strict = some (.truth true) := by
  rw [Environment.asksStrict, said?]
  simp only [Setting.word?]
  cases env.strictPairing with
  | none => decide
  | some word =>
    by_cases hword : word = ""
    · subst hword
      decide
    · rw [Option.filter_some_pos (by simpa using hword)]
      simp [Setting.wordMeaning, Setting.isTruth]

/-- **All settings but the strictness of demands** follow the precedence. -/
theorem value_eq_preferred (h : ofEntries env entries = .ok s) {setting : Setting}
    (hne : setting ≠ .strict) : s.value setting = preferred env entries setting := by
  obtain ⟨x, e, hin, hsound, rfl⟩ := ofEntries_eq_ok_iff.mp h
  have hgiven := hin.given?_eq setting
  cases setting with
  | lineSeparator =>
    rw [preferred_of_said?_eq_none rfl, hgiven, ← valueOr_eq _ _ rfl]
    exact (eq_text_of_ofValue? hsound.lineEnd).symm
  | indent | builderSuffix | factoryName | extension | level | logFile =>
    rw [preferred_of_said?_eq_none rfl, hgiven, ← valueOr_eq _ _ rfl]
    rfl
  | requireConstructor =>
    rw [preferred_of_said?_eq_none rfl, hgiven]
    exact truth_truthOr_eq _ .requireConstructor rfl _
  | toFile =>
    rw [preferred_of_said?_eq_none rfl, hgiven]
    exact truth_truthOr_eq _ .toFile rfl _
  | directory =>
    have hsaid : said? env .directory = env.namedOutput?.map .text := rfl
    rw [preferred, hsaid, hgiven]
    simp only [value, Sections.make]
    cases env.namedOutput? with
    | none =>
      rw [Option.map_none, Option.none_or, Option.getD_none]
      exact valueOr_eq _ .directory rfl _
    | some name => rfl
  | strict => exact absurd rfl hne

/-- **The demands on beans are strict** if the environment says so or the file does. -/
theorem strict_iff (h : ofEntries env entries = .ok s) :
    s.validation.strict = true ↔
      said? env .strict = some (.truth true) ∨
        (given? entries .strict).map Setting.strict.meaning = some (.truth true) := by
  obtain ⟨x, e, hin, -, rfl⟩ := ofEntries_eq_ok_iff.mp h
  have hfile : truthOr x.validation "strict_pojo_check" false = true ↔
      (given? entries .strict).map Setting.strict.meaning = some (.truth true) := by
    rw [hin.given?_eq .strict, truthOr, valueOr]
    simp only [Sections.holding, Setting.key]
    cases Value.field? x.validation "strict_pojo_check" with
    | none => simp [Value.isTruthy]
    | some v => simp [Setting.meaning, Setting.isTruth]
  have hmade : (x.make env e).validation.strict =
      (env.asksStrict || truthOr x.validation "strict_pojo_check" false) := rfl
  rw [hmade, Bool.or_eq_true, asksStrict_eq_true_iff, hfile]

/-- What is said about the strictness of demands is a truth value. -/
theorem said?_strict_cases (env : Environment) :
    said? env .strict = none ∨ ∃ b, said? env .strict = some (.truth b) := by
  rw [said?]
  cases (Setting.strict.word? env).filter (· ≠ "") with
  | none => exact Or.inl rfl
  | some word => exact Or.inr ⟨Environment.affirms (some word), rfl⟩

/-- So is what the file gives for it. -/
theorem given?_strict_cases (entries : Entries) :
    (given? entries .strict).map Setting.strict.meaning = none ∨
      ∃ b, (given? entries .strict).map Setting.strict.meaning = some (.truth b) := by
  cases given? entries .strict with
  | none => exact Or.inl rfl
  | some v => exact Or.inr ⟨v.isTruthy, rfl⟩

/-- Strictness follows the precedence unless the environment is overruled. -/
theorem value_strict_eq_preferred_iff (h : ofEntries env entries = .ok s) :
    s.value .strict = preferred env entries .strict ↔ ¬Overruled env entries := by
  have hstrict := strict_iff h
  have hstandard : ({} : Settings).value .strict = .truth false := rfl
  rw [value, preferred, Overruled, hstandard]
  rcases said?_strict_cases env with hsaid | ⟨b, hsaid⟩
  · -- the file decides, and without it the demands are lenient
    rcases given?_strict_cases entries with hgiven | ⟨c, hgiven⟩ <;>
      simp only [hsaid, hgiven] at hstrict ⊢
    · simpa using hstrict
    · cases c <;> simpa using hstrict
  · -- the environment decides, unless it is overruled
    simp only [hsaid, Option.some_or, Option.getD_some] at hstrict ⊢
    cases b with
    | true => simpa using hstrict
    | false =>
      rcases given?_strict_cases entries with hgiven | ⟨c, hgiven⟩ <;> rw [hgiven] at hstrict ⊢
      · simpa using hstrict
      · cases c <;> simpa using hstrict

/-- **Where the settings come from.**  Every setting is what the environment says, else what the
file gives, else what holds without both; only a word of the environment against strict demands does
not count where the file makes them strict.  So a setting is the same wherever the environment says
the same about it and the file gives the same for it. -/
theorem value_eq_preferred_iff (h : ofEntries env entries = .ok s) :
    (∀ x, s.value x = preferred env entries x ↔ ¬(x = .strict ∧ Overruled env entries)) ∧
    ∀ env' entries' s', ofEntries env' entries' = .ok s' →
      ∀ x, said? env' x = said? env x → given? entries' x = given? entries x →
        s'.value x = s.value x := by
  refine ⟨fun x => ?_, fun env' entries' s' h' x hsaid hgiven => ?_⟩
  · by_cases hx : x = .strict
    · subst hx
      rw [value_strict_eq_preferred_iff h]
      simp
    · exact iff_of_true (value_eq_preferred h hx) fun hboth => hx hboth.1
  · by_cases hx : x = .strict
    · subst hx
      have hsame : s'.validation.strict = s.validation.strict := by
        rw [Bool.eq_iff_iff, strict_iff h, strict_iff h', hsaid, hgiven]
      rw [value, value, hsame]
    · rw [value_eq_preferred h hx, value_eq_preferred h' hx, preferred, preferred, hsaid, hgiven]

/-- An environment that asks for strict demands, and names no directory. -/
def strictEnvironment : Environment where
  strictPairing := some "Yes"
  outputDirectory := some ""

/-- A mapping with values that are no texts and no truth values. -/
def mixedEntries : Entries :=
  [("generation", .record [("indent", .null)]), ("output", .record [("output_dir", .whole 7)]),
    ("validation", .record
      [("strict_pojo_check", .text ""), ("require_no_arg_constructor", .list [])])]

/-- The word counts in any case of its letters and against the file, an empty word does not count,
and the file counts with the values that it has. -/
theorem value_eq_preferred_iff_mixedEntries :
    ∃ s, ofEntries strictEnvironment mixedEntries = .ok s ∧
      s.value .strict = .truth true ∧ s.value .directory = .whole 7 ∧ s.value .indent = .null ∧
      s.value .requireConstructor = .truth false ∧ s.value .extension = .text ".java" := by
  obtain ⟨s, hs⟩ : ∃ s, ofEntries strictEnvironment mixedEntries = .ok s := ⟨_, rfl⟩
  obtain ⟨hvalue, -⟩ := value_eq_preferred_iff hs
  have hcounts : ¬Overruled strictEnvironment mixedEntries := by decide +kernel
  have hsources : preferred strictEnvironment mixedEntries .strict = .truth true ∧
      preferred strictEnvironment mixedEntries .directory = .whole 7 ∧
      preferred strictEnvironment mixedEntries .indent = .null ∧
      preferred strictEnvironment mixedEntries .requireConstructor = .truth false ∧
      preferred strictEnvironment mixedEntries .extension = .text ".java" := by decide +kernel
  have hall : ∀ x, s.value x = preferred strictEnvironment mixedEntries x :=
    fun x => (hvalue x).mpr fun hboth => hcounts hboth.2
  refine ⟨s, hs, ?_⟩
  simp only [hall]
  exact hsources

/-- A word against strict demands does not make them lenient, where the file makes them strict. -/
theorem word_against_strict_is_overruled :
    ∃ s, ofEntries { strictPairing := some "0" }
        [("validation", .record [("strict_pojo_check", .truth true)])] = .ok s ∧
      s.value .strict = .truth true ∧
      preferred { strictPairing := some "0" }
        [("validation", .record [("strict_pojo_check", .truth true)])] .strict = .truth false := by
  refine ⟨_, rfl, ?_, ?_⟩ <;> decide +kernel

end Settings
end BeanBuilder
