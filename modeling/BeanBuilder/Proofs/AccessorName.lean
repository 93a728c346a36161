import BeanBuilder.AccessorName
import BeanBuilder.Proofs.Text.Pieces

/-! # The one reading of an accessor name

A name is read as a stem and a suffix exactly when it is that stem followed by that suffix and
the suffix begins with an upper-case letter (`parse?_eq_some_iff`).  No text begins with two of the
stems (`eq_of_stem_prefix`), so the order in which they are tried does not matter
(`parseTrying?_congr`).

The field behind a `get` name is the suffix with its first letter in lower case
(`exists_letter_of_reads_get`).

Writing `set` in front of the suffix of a name gives the only setter name with that suffix
(`suffixOf_eq_iff_of_isSetter`), and one that is read back where the suffix begins with an
upper-case letter (`parse?_setterName_iff`), as that of every accessor name does.
-/
namespace BeanBuilder

theorem AccessorKind.mem_all (kind : AccessorKind) : kind ∈ AccessorKind.all := by
  cases kind <;> decide

namespace AccessorName

variable {name other : String} {n : AccessorName} {kind kind' : AccessorKind}
variable {order order' : List AccessorKind} {text suffix : List Char}

/-! ## One stem -/

/-- The stems begin with four different letters, so no text begins with two of them. -/
theorem eq_of_stem_prefix (h : kind.stem <+: text) (h' : kind'.stem <+: text) :
    kind = kind' := by
  have hfirst : ∀ {stem : AccessorKind}, stem.stem <+: text → text.head? = stem.stem.head? := by
    rintro stem ⟨rest, rfl⟩
    cases stem <;> rfl
  have hletter : kind.stem.head? = kind'.stem.head? := (hfirst h).symm.trans (hfirst h')
  cases kind <;> cases kind' <;> simp_all [AccessorKind.stem]

theorem suffixAfter?_eq_some_iff :
    suffixAfter? kind text = some suffix ↔
      text = kind.stem ++ suffix ∧ startsUpper suffix = true := by
  rw [suffixAfter?, Option.filter_eq_some_iff, Text.afterStart?_eq_some_iff]

theorem stem_prefix_of_suffixAfter? (h : suffixAfter? kind text = some suffix) :
    kind.stem <+: text :=
  ⟨suffix, (suffixAfter?_eq_some_iff.mp h).1.symm⟩

theorem startsUpper_iff :
    startsUpper text = true ↔
      ∃ letter rest, text = letter :: rest ∧ Text.isUpper letter = true := by
  cases text <;> simp [startsUpper]

/-! ## One stem after another -/

/-- The reading of a name with the first stem of an order that fits. -/
def parseTrying? (order : List AccessorKind) (name : String) : Option AccessorName :=
  order.findSome? fun kind =>
    (suffixAfter? kind name.toList).map fun suffix => ⟨kind, String.ofList suffix⟩

theorem parse?_eq_parseTrying? : parse? name = parseTrying? AccessorKind.all name := rfl

theorem parseTrying?_cons_of_fits (h : suffixAfter? kind name.toList = some suffix) :
    parseTrying? (kind :: order) name = some ⟨kind, String.ofList suffix⟩ := by
  simp [parseTrying?, h]

theorem parseTrying?_cons_of_not_fits (h : suffixAfter? kind name.toList = none) :
    parseTrying? (kind :: order) name = parseTrying? order name := by
  simp [parseTrying?, h]

/-- A name is read with the one stem that fits, wherever in the order that stem stands. -/
theorem parseTrying?_eq_some_iff :
    parseTrying? order name = some n ↔
      n.kind ∈ order ∧ suffixAfter? n.kind name.toList = some n.suffix.toList := by
  induction order with
  | nil => simp [parseTrying?]
  | cons kind order ih =>
    cases hfits : suffixAfter? kind name.toList with
    | none =>
      rw [parseTrying?_cons_of_not_fits hfits, ih, List.mem_cons]
      refine and_congr_left fun hn => (or_iff_right ?_).symm
      rintro rfl
      simp [hfits] at hn
    | some suffix =>
      rw [parseTrying?_cons_of_fits hfits]
      constructor
      · intro h
        obtain rfl := Option.some.inj h
        exact ⟨List.mem_cons_self, by simpa using hfits⟩
      · rintro ⟨-, hn⟩
        -- a later stem that fits as well would be a second one the name begins with
        obtain rfl : kind = n.kind :=
          eq_of_stem_prefix (stem_prefix_of_suffixAfter? hfits) (stem_prefix_of_suffixAfter? hn)
        obtain rfl : suffix = n.suffix.toList := Option.some.inj (hfits.symm.trans hn)
        rw [String.ofList_toList]

/-- **The order of the stems does not matter**: two orders of the same stems read every name
alike. -/
theorem parseTrying?_congr (h : ∀ kind, kind ∈ order ↔ kind ∈ order') :
    parseTrying? order name = parseTrying? order' name := by
  refine Option.ext fun n => ?_
  rw [parseTrying?_eq_some_iff, parseTrying?_eq_some_iff, h]

/-- **A name has one reading**: the stem and the suffix that it is put together from. -/
theorem parse?_eq_some_iff :
    parse? name = some n ↔
      name.toList = n.kind.stem ++ n.suffix.toList ∧ startsUpper n.suffix.toList = true := by
  rw [parse?_eq_parseTrying?, parseTrying?_eq_some_iff, suffixAfter?_eq_some_iff]
  exact and_iff_right (AccessorKind.mem_all _)

/-! ## The names that are read -/

theorem eq_of_parse? (h : parse? name = some n) :
    name = String.ofList n.kind.stem ++ n.suffix := by
  rw [← String.toList_inj, String.toList_append, String.toList_ofList]
  exact (parse?_eq_some_iff.mp h).1

theorem suffixOf_of_parse? (h : parse? name = some n) : suffixOf name = n.suffix := by
  rw [suffixOf, h]

theorem reads_iff {kinds : List AccessorKind} :
    reads kinds name = true ↔
      isReflective name = false ∧ ∃ n, parse? name = some n ∧ n.kind ∈ kinds := by
  cases h : parse? name <;> simp [reads, h]

/-- More kinds read more names. -/
theorem reads_mono {kinds kinds' : List AccessorKind} (h : kinds ⊆ kinds')
    (hr : reads kinds name = true) : reads kinds' name = true := by
  obtain ⟨hrefl, n, hn, hk⟩ := reads_iff.mp hr
  exact reads_iff.mpr ⟨hrefl, n, hn, h hk⟩

/-- The `get` names are `get` with an upper-case letter behind it, `getClass` and longer names of
its start apart. -/
theorem reads_get_iff :
    reads [.get] name = true ↔
      (∃ letter rest, name.toList = 'g' :: 'e' :: 't' :: letter :: rest ∧
        Text.isUpper letter = true) ∧
        ¬ "getClass".toList <+: name.toList := by
  have hclass : isReflective name = false ↔ ¬ "getClass".toList <+: name.toList := by
    rw [← Bool.not_eq_true, isReflective, Text.beginsWith_iff]
    exact Iff.rfl
  rw [reads_iff, hclass, and_comm]
  refine and_congr_left fun _ => ⟨?_, ?_⟩
  · rintro ⟨⟨kind, suffix⟩, hn, hk⟩
    obtain rfl := List.mem_singleton.mp hk
    obtain ⟨hname, hupper⟩ := parse?_eq_some_iff.mp hn
    obtain ⟨letter, rest, hs, hletter⟩ := startsUpper_iff.mp hupper
    rw [hs] at hname
    exact ⟨letter, rest, hname, hletter⟩
  · rintro ⟨letter, rest, hname, hupper⟩
    refine ⟨⟨.get, String.ofList (letter :: rest)⟩, ?_, List.mem_singleton_self _⟩
    rw [parse?_eq_some_iff, String.toList_ofList]
    exact ⟨hname, hupper⟩

/-- The field behind a `get` name is the suffix with its first letter in lower case. -/
theorem exists_letter_of_reads_get (h : reads [.get] name = true) :
    ∃ letter rest, name.toList = 'g' :: 'e' :: 't' :: letter :: rest ∧
      Text.isUpper letter = true ∧ (suffixOf name).toList = letter :: rest ∧
      (fieldName name).toList = Text.lower letter ++ rest := by
  obtain ⟨⟨letter, rest, hname, hupper⟩, -⟩ := reads_get_iff.mp h
  have hparse : parse? name = some ⟨.get, String.ofList (letter :: rest)⟩ := by
    rw [parse?_eq_some_iff, String.toList_ofList]
    exact ⟨hname, hupper⟩
  have hsuffix : (suffixOf name).toList = letter :: rest := by
    rw [suffixOf_of_parse? hparse, String.toList_ofList]
  refine ⟨letter, rest, hname, hupper, hsuffix, ?_⟩
  rw [fieldName, decapitalize, hsuffix, String.toList_ofList]

/-! ## Setter names -/

theorem isSetter_iff : isSetter name = true ↔ ∃ suffix, parse? name = some ⟨.set, suffix⟩ := by
  cases h : parse? name with
  | none => simp [isSetter, h]
  | some n =>
    obtain ⟨kind, suffix⟩ := n
    simp [isSetter, h]

/-- The setter name made from a name is read back with the suffix of that name, unless no
upper-case letter begins the suffix. -/
theorem parse?_setterName_iff :
    parse? (setterName name) = some ⟨.set, suffixOf name⟩ ↔
      startsUpper (suffixOf name).toList = true := by
  rw [parse?_eq_some_iff, setterName, String.toList_append]
  exact and_iff_right rfl

example : suffixOf "issetX" = "issetX" ∧ parse? (setterName "issetX") = none := by decide

/-- The setter name made from an accessor name is read back with the same suffix. -/
theorem parse?_setterName (h : parse? name = some n) :
    parse? (setterName name) = some ⟨.set, n.suffix⟩ := by
  rw [← suffixOf_of_parse? h, parse?_setterName_iff, suffixOf_of_parse? h]
  exact (parse?_eq_some_iff.mp h).2

/-- **Setters are named by their suffix**: a setter has the suffix of a name, be that an accessor
name or a name that is its own suffix, exactly when it is the setter name made from it. -/
theorem suffixOf_eq_iff_of_isSetter (h : isSetter other = true) :
    suffixOf other = suffixOf name ↔ other = setterName name := by
  obtain ⟨suffix, hother⟩ := isSetter_iff.mp h
  have hset : other = "set" ++ suffix := eq_of_parse? hother
  rw [suffixOf_of_parse? hother, setterName, hset, String.append_right_inj]

/-- Among all names, only `setterName name` is that of a setter with the suffix of `name`. -/
theorem isSetter_and_suffixOf_eq_iff (h : parse? name = some n) :
    isSetter other = true ∧ suffixOf other = suffixOf name ↔ other = setterName name := by
  rw [and_congr_right fun hset => suffixOf_eq_iff_of_isSetter hset, and_iff_right_iff_imp]
  rintro rfl
  exact isSetter_iff.mpr ⟨_, parse?_setterName h⟩

/-- **Accessor names and their setters.**  A name is read as a stem and a suffix exactly when it is
that stem followed by that suffix and an upper-case letter begins the suffix; it begins with one
stem at most, so the stems may be tried in any order.  The setter name made from an accessor name
is read back as a setter name with the same suffix.  A setter name has the suffix of a name,
accessor name or not, exactly when it is the setter name made from that name. -/
theorem one_reading_and_one_setter (name : String) :
    (∀ kind suffix, parse? name = some ⟨kind, suffix⟩ ↔
      name = String.ofList kind.stem ++ suffix ∧
        ∃ letter rest, suffix.toList = letter :: rest ∧ Text.isUpper letter = true) ∧
    (∀ kind kind' : AccessorKind, kind.stem <+: name.toList → kind'.stem <+: name.toList →
      kind = kind') ∧
    (∀ order : List AccessorKind, (∀ kind, kind ∈ order) →
      parseTrying? order name = parse? name) ∧
    ((parse? name).isSome = true →
      parse? (setterName name) = some ⟨.set, suffixOf name⟩) ∧
    ∀ setter, isSetter setter = true →
      (suffixOf setter = suffixOf name ↔ setter = setterName name) := by
  refine ⟨fun kind suffix => ?reading, fun _ _ => eq_of_stem_prefix, fun order hall => ?order,
    fun haccessor => ?setter, fun _ => suffixOf_eq_iff_of_isSetter⟩
  case reading =>
    rw [parse?_eq_some_iff, startsUpper_iff, ← String.toList_inj, String.toList_append,
      String.toList_ofList]
  case order =>
    rw [parse?_eq_parseTrying?]
    exact parseTrying?_congr fun kind => iff_of_true (hall kind) (AccessorKind.mem_all kind)
  case setter =>
    obtain ⟨n, hn⟩ := Option.isSome_iff_exists.mp haccessor
    rw [suffixOf_of_parse? hn]
    exact parse?_setterName hn

/-- What follows `get` in `getSetX` is no accessor name and so its own suffix: `setSetX` is the
setter name made from either of the two. -/
theorem one_reading_and_one_setter_getSetX :
    isSetter "setSetX" = true ∧ parse? "getSetX" = some ⟨.get, "SetX"⟩ ∧
      parseTrying? [.is, .has, .set, .get] "getSetX" = parse? "getSetX" ∧
      (∀ kind : AccessorKind, kind.stem <+: "getSetX".toList → kind = .get) ∧
      parse? (setterName "getSetX") = some ⟨.set, suffixOf "getSetX"⟩ ∧
      (suffixOf "setSetX" = suffixOf "getSetX" ↔ "setSetX" = setterName "getSetX") ∧
      (suffixOf "setSetX" = suffixOf "SetX" ↔ "setSetX" = setterName "SetX") := by
  have hset : isSetter "setSetX" = true := by decide
  obtain ⟨hreads, hstem, horder, hsetter, hsuffix⟩ := one_reading_and_one_setter "getSetX"
  obtain ⟨-, -, -, -, hwhole⟩ := one_reading_and_one_setter "SetX"
  have hparse : parse? "getSetX" = some ⟨.get, "SetX"⟩ :=
    (hreads .get "SetX").mpr ⟨by decide, 'S', _, rfl, by decide⟩
  exact ⟨hset, hparse, horder _ (by rintro (_ | _ | _ | _) <;> decide),
    fun kind hk => hstem kind .get hk ⟨_, rfl⟩, hsetter (by rw [hparse]; rfl),
    hsuffix _ hset, hwhole _ hset⟩

end AccessorName
end BeanBuilder
