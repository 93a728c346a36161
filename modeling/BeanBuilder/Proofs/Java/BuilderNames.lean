import BeanBuilder.Builder
import BeanBuilder.Proofs.AccessorName
import BeanBuilder.Proofs.Member
import BeanBuilder.Proofs.Java.TypeTokens

/-! # Names of builders as identifiers

The methods of a builder and the builder itself have names that are identifiers, whatever the
accessors are called (`isIdentifier_setterName`, `isIdentifier_adderName`): a stem in front of a
suffix makes no reserved word.  The name of a field is a word as well (`isName_fieldName`), but it
may be a reserved one.
-/
namespace BeanBuilder
namespace Java

open Text (Run Shift covered shifted isUpper lower upperLetters lowerShifts)

/-! ## Reserved words -/

/-- The words that are no identifiers. -/
def reservedWords : List String :=
  basicTypeWords ++ modifierWords ++ plainKeywords ++ literalWords

theorem wordKind_eq_identifier_iff {word : String} :
    wordKind word = .identifier ↔ word ∉ reservedWords := by
  simp only [wordKind, reservedWords, List.contains_iff_mem, List.mem_append, not_or]
  split_ifs with h₁ h₂ h₃ h₄ <;> simp [*]

theorem isIdentifier_iff {word : String} :
    IsIdentifier word ↔ isName word = true ∧ word ∉ reservedWords :=
  and_congr_right' wordKind_eq_identifier_iff

section Append

variable {word more : String}

/-- All characters of a word may stand inside a name. -/
theorem isIdentifierPart_of_isName (h : isName word = true) :
    ∀ c ∈ word.toList, isIdentifierPart c = true := by
  obtain ⟨c, w, hw, hc, hparts⟩ := isName_iff.mp h
  intro d hd
  rw [hw, List.mem_cons] at hd
  rcases hd with rfl | hd
  · rw [isIdentifierPart, hc, Bool.true_or]
  · exact hparts d hd

theorem isName_append (hword : isName word = true)
    (hmore : ∀ c ∈ more.toList, isIdentifierPart c = true) : isName (word ++ more) = true := by
  obtain ⟨c, w, hw, hc, hparts⟩ := isName_iff.mp hword
  refine isName_iff.mpr ⟨c, w ++ more.toList, by rw [String.toList_append, hw]; rfl, hc, ?_⟩
  intro d hd
  exact (List.mem_append.mp hd).elim (hparts d) (hmore d)

end Append

/-! ## Upper-case letters and their lower-case forms -/

/-- The last code point of the run without gaps that a code point lies on, zero if there is none. -/
def runEnd (runs : List Run) (code : Nat) : Nat :=
  runs.foldr (fun r rest =>
    bif Nat.blt code r.first then 0
    else bif Nat.ble code r.last then bif Nat.beq r.step 1 then r.last else 0
    else rest) 0

/-- The code points up to the end of a run are covered with its beginning. -/
theorem covered_of_le_runEnd {runs : List Run} {code n : Nat} (hn : code ≤ n)
    (hend : n ≤ runEnd runs code) (hpos : 0 < n) : covered runs n = true := by
  induction runs with
  | nil => exact absurd hend (Nat.not_le_of_lt hpos)
  | cons r rest ih =>
    simp only [runEnd, List.foldr_cons] at hend
    cases hfirst : Nat.blt code r.first with
    | true =>
      rw [hfirst] at hend
      exact absurd hend (Nat.not_le_of_lt hpos)
    | false =>
      rw [hfirst] at hend
      have hge : ¬ code < r.first := by
        rw [← Nat.blt_eq, hfirst]
        exact Bool.false_ne_true
      rw [covered, if_neg (by omega)]
      cases hlast : Nat.ble code r.last with
      | true =>
        rw [hlast] at hend
        cases hstep : Nat.beq r.step 1 with
        | true =>
          rw [hstep] at hend
          have hone : r.step = 1 := Nat.eq_of_beq_eq_true hstep
          have hle : n ≤ r.last := hend
          rw [if_pos hle, Run.covers, hone]
          simp only [Nat.mod_one, Bool.and_eq_true, decide_eq_true_eq, beq_self_eq_true, and_true]
          omega
        | false =>
          rw [hstep] at hend
          exact absurd hend (Nat.not_le_of_lt hpos)
      | false =>
        rw [hlast] at hend
        have hgt : ¬ code ≤ r.last := by
          rw [← Nat.ble_eq, hlast]
          exact Bool.false_ne_true
        rw [if_neg (by omega)]
        exact ih hend

/-- What is covered lies on one of the runs. -/
theorem exists_covers_of_covered {runs : List Run} {n : Nat} (h : covered runs n = true) :
    ∃ r ∈ runs, r.covers n = true := by
  induction runs with
  | nil => exact nomatch h
  | cons r rest ih =>
    rw [covered] at h
    split_ifs at h with hfirst hlast
    · exact ⟨r, List.mem_cons_self, h⟩
    · obtain ⟨r', hr', hcovers⟩ := ih h
      exact ⟨r', List.mem_cons_of_mem _ hr', hcovers⟩

/-- A code point stays where it is or is moved with its run. -/
theorem shifted_eq_or (shifts : List Shift) (n : Nat) :
    shifted shifts n = n ∨
      ∃ s ∈ shifts, s.run.covers n = true ∧ shifted shifts n = (n + s.distance).toNat := by
  induction shifts with
  | nil => exact Or.inl rfl
  | cons s rest ih =>
    rw [shifted]
    split_ifs with hfirst hcovers
    · exact Or.inl rfl
    · exact Or.inr ⟨s, List.mem_cons_self, hcovers, rfl⟩
    · exact ih.imp_right fun ⟨s', hs', h⟩ => ⟨s', List.mem_cons_of_mem _ hs', h⟩

theorem covers_iff {r : Run} {n : Nat} :
    r.covers n = true ↔ r.first ≤ n ∧ n ≤ r.last ∧ (n - r.first) % r.step = 0 := by
  simp [Run.covers, and_assoc]

/-- The code points of a run. -/
def runCodes (r : Run) : List Nat :=
  (List.range (r.last - r.first + 1)).map (r.first + ·)

/-- Upper-case letters begin names. -/
theorem covered_startRuns_of_covered {n : Nat} (h : covered upperLetters n = true) :
    covered startRuns n = true := by
  have hall : ∀ r ∈ upperLetters, Nat.ble 1 r.first = true ∧
        (Nat.ble r.last (runEnd startRuns r.first) ||
          (runCodes r).all fun n => !r.covers n || Nat.ble n (runEnd startRuns n)) = true := by
    decide +kernel
  obtain ⟨r, hr, hcovers⟩ := exists_covers_of_covered h
  obtain ⟨hpos, hruns⟩ := hall r hr
  obtain ⟨hfirst, hlast, -⟩ := covers_iff.mp hcovers
  rw [Nat.ble_eq] at hpos
  rcases Bool.or_eq_true_iff.mp hruns with hrun | hcodes
  · rw [Nat.ble_eq] at hrun
    exact covered_of_le_runEnd hfirst (hlast.trans hrun) (by omega)
  · have hmem : n ∈ runCodes r := List.mem_map.mpr ⟨n - r.first, List.mem_range.mpr (by omega),
      by omega⟩
    have hn := List.all_eq_true.mp hcodes n hmem
    rw [hcovers, Bool.not_true, Bool.false_or, Nat.ble_eq] at hn
    exact covered_of_le_runEnd (Nat.le_refl n) hn (by omega)

/-- **The lower-case form of an upper-case letter begins a name.** -/
theorem covered_startRuns_shifted {n : Nat} (h : covered upperLetters n = true) :
    covered startRuns (shifted lowerShifts n) = true := by
  have hall : ∀ s ∈ lowerShifts,
      (Nat.ble 1 (s.run.first + s.distance).toNat && Nat.ble (s.run.last + s.distance).toNat
        (runEnd startRuns (s.run.first + s.distance).toNat)) = true ∨
      ∀ r ∈ upperLetters,
        Nat.blt r.last s.run.first = true ∨ Nat.blt s.run.last r.first = true := by
    decide +kernel
  rcases shifted_eq_or lowerShifts n with heq | ⟨s, hs, hcovers, heq⟩
  · rw [heq]
    exact covered_startRuns_of_covered h
  · obtain ⟨hfirst, hlast, -⟩ := covers_iff.mp hcovers
    rcases hall s hs with hinside | hapart
    · rw [Bool.and_eq_true, Nat.ble_eq, Nat.ble_eq] at hinside
      have hbegin : (s.run.first + s.distance).toNat ≤ (n + s.distance).toNat := by omega
      rw [heq]
      exact covered_of_le_runEnd hbegin (by omega) (by omega)
    · obtain ⟨r, hr, hupper⟩ := exists_covers_of_covered h
      obtain ⟨hge, hle, -⟩ := covers_iff.mp hupper
      rcases hapart r hr with hbelow | habove
      · rw [Nat.blt_eq] at hbelow
        omega
      · rw [Nat.blt_eq] at habove
        omega

/-- What begins a name is a character. -/
theorem isValidChar_of_covered {n : Nat} (h : covered startRuns n = true) : n.isValidChar := by
  have hall : ∀ r ∈ startRuns, (Nat.blt r.last 0xd800 ||
      (Nat.blt 0xdfff r.first && Nat.blt r.last 0x110000)) = true := by decide +kernel
  obtain ⟨r, hr, hcovers⟩ := exists_covers_of_covered h
  obtain ⟨hfirst, hlast, -⟩ := covers_iff.mp hcovers
  have hrun := hall r hr
  simp only [Bool.or_eq_true, Bool.and_eq_true, Nat.blt_eq] at hrun
  rcases hrun with hlow | ⟨hhigh, hmax⟩
  · exact Or.inl (by omega)
  · exact Or.inr ⟨by omega, by omega⟩

theorem exists_lower_eq_cons {c : Char} (h : isUpper c = true) :
    ∃ d w, lower c = d :: w ∧ isIdentifierStart d = true ∧ ∀ e ∈ w, isIdentifierPart e = true := by
  rw [lower]
  split_ifs with hdotted
  · exact ⟨'i', _, rfl, by decide, List.all_iff_forall_prop.mp (by decide)⟩
  · have hcovered := covered_startRuns_shifted h
    refine ⟨_, [], rfl, ?_, by simp⟩
    rw [isIdentifierStart, Char.ofNat, dif_pos (isValidChar_of_covered hcovered)]
    exact hcovered

/-! ## The names of a builder -/

section Names

variable {name stem suffix : String}

/-- A suffix is a part of its name. -/
theorem mem_toList_of_mem_suffixOf {c : Char} (hc : c ∈ (AccessorName.suffixOf name).toList) :
    c ∈ name.toList := by
  cases hparse : AccessorName.parse? name with
  | none =>
    rw [AccessorName.suffixOf, hparse] at hc
    exact hc
  | some n =>
    rw [AccessorName.suffixOf_of_parse? hparse] at hc
    rw [(AccessorName.parse?_eq_some_iff.mp hparse).1]
    exact List.mem_append_right _ hc

/-- The suffix of a name holds only characters that may stand inside a name. -/
theorem isIdentifierPart_of_mem_suffixOf (h : isName name = true) :
    ∀ c ∈ (AccessorName.suffixOf name).toList, isIdentifierPart c = true := by
  intro c hc
  exact isIdentifierPart_of_isName h c (mem_toList_of_mem_suffixOf hc)

theorem mem_toList_of_mem_singular {c : Char} (hc : c ∈ (singular suffix).toList) :
    c ∈ suffix.toList := by
  rw [singular] at hc
  split at hc
  · rename_i d rest hreverse
    rw [String.toList_ofList, List.mem_reverse] at hc
    rw [← List.mem_reverse, hreverse]
    exact List.mem_cons_of_mem _ hc
  · exact hc

/-- A stem that begins no reserved word makes an identifier with any suffix. -/
theorem isIdentifier_stem (hstem : isName stem = true)
    (hreserved : ∀ word ∈ reservedWords, Text.beginsWith stem.toList word.toList = false)
    (hsuffix : ∀ c ∈ suffix.toList, isIdentifierPart c = true) : IsIdentifier (stem ++ suffix) := by
  refine isIdentifier_iff.mpr ⟨isName_append hstem hsuffix, fun hmem => ?_⟩
  have hbegins : Text.beginsWith stem.toList (stem ++ suffix).toList = true := by
    rw [Text.beginsWith_iff, String.toList_append]
    exact List.prefix_append _ _
  rw [hreserved _ hmem] at hbegins
  exact nomatch hbegins

/-- **The method that sets a value has an identifier as its name.** -/
theorem isIdentifier_setterName (h : isName name = true) : IsIdentifier (setterName name) :=
  isIdentifier_stem (by decide) (by decide) (isIdentifierPart_of_mem_suffixOf h)

/-- **The method that adds one element has an identifier as its name.** -/
theorem isIdentifier_adderName (h : isName name = true) : IsIdentifier (adderName name) :=
  isIdentifier_stem (by decide) (by decide) fun c hc =>
    isIdentifierPart_of_mem_suffixOf h c (mem_toList_of_mem_singular hc)

/-- No reserved word ends in the suffix of builders. -/
theorem isIdentifier_builderName {b : Bean} (h : isName b.simpleName = true) :
    IsIdentifier (({} : BuilderStyle).builderName b) := by
  have hparts : ∀ c ∈ "Builder".toList, isIdentifierPart c = true :=
    List.all_iff_forall_prop.mp (by decide)
  have hreserved : ∀ word ∈ reservedWords,
      Text.beginsWith "redliuB".toList word.toList.reverse = false := by decide
  refine isIdentifier_iff.mpr ⟨isName_append h hparts, fun hmem => ?_⟩
  have hbegins : Text.beginsWith "redliuB".toList
      (({} : BuilderStyle).builderName b).toList.reverse = true := by
    rw [Text.beginsWith_iff, BuilderStyle.builderName, String.toList_append, List.reverse_append]
    exact List.prefix_append _ _
  rw [hreserved _ hmem] at hbegins
  exact nomatch hbegins

/-- **The field of an accessor has a word as its name.** -/
theorem isName_fieldName {a : Accessor} (h : isName a.name = true) (ha : a.isCandidate = true) :
    isName (fieldName a.name) = true := by
  obtain ⟨letter, rest, -, hupper, hsuffix, hfield⟩ := Accessor.exists_letter_of_isCandidate ha
  have hparts := isIdentifierPart_of_mem_suffixOf h
  rw [hsuffix] at hparts
  obtain ⟨d, w, hlower, hd, hw⟩ := exists_lower_eq_cons hupper
  refine isName_iff.mpr ⟨d, w ++ rest, ?_, hd, fun e he => ?_⟩
  · rw [hfield, hlower, List.cons_append]
  · exact (List.mem_append.mp he).elim (hw e) fun hrest =>
      hparts e (List.mem_cons_of_mem _ hrest)

end Names

end Java
end BeanBuilder
