import Mathlib.Data.List.Perm.Basic
import BeanBuilder.Proofs.Classification
import BeanBuilder.Proofs.Java.BuilderNames
import BeanBuilder.Proofs.PairingSignatures

/-! # Members that would share a field

A field is named after the suffix of its getter with the first letter in lower case.  Two letters
can have one lower-case form (`K` and the Kelvin sign, which both give `k`), so two getters can
lead to one field, also from different categories.

The candidates of a type in the order of their categories are `Containers.emitted`.  Of those with
one field the last is the member that stays, and it stands where the first one stood
(`Containers.mem_builderMembers_iff`, `Containers.pairwise_idxOf_builderMembers`).

Among the ASCII letters no two have one lower-case form.  Where all suffixes begin with one,
nothing is replaced, and the members are the candidates (`Hierarchy.members_of_candidates`).
-/
namespace BeanBuilder

/-! ## Letters and their lower-case forms -/

namespace Text

variable {c c' : Char}

/-- The upper-case letters within ASCII are those from `A` to `Z`. -/
theorem toNat_of_isUpper_of_isAlpha (hupper : isUpper c = true) (halpha : c.isAlpha = true) :
    0x41 ≤ c.toNat ∧ c.toNat ≤ 0x5a := by
  have hruns : ∀ r ∈ upperLetters, r = ⟨0x41, 0x5a, 1⟩ ∨ 0x80 ≤ r.first := by decide +kernel
  have hascii : c.toNat ≤ 0x7a := by
    rcases Bool.or_eq_true_iff.mp halpha with hletter | hletter
    · have hle : c.val ≤ 'Z'.val := (of_decide_eq_true hletter).2
      exact Nat.le_trans (UInt32.le_iff_toNat_le.mp hle) (by decide)
    · have hle : c.val ≤ 'z'.val := of_decide_eq_true (Bool.and_eq_true_iff.mp hletter).2
      exact UInt32.le_iff_toNat_le.mp hle
  obtain ⟨r, hr, hcovers⟩ := Java.exists_covers_of_covered hupper
  obtain ⟨hfirst, hlast, -⟩ := Java.covers_iff.mp hcovers
  rcases hruns r hr with rfl | hbeyond
  · exact ⟨hfirst, hlast⟩
  · omega

theorem lower_of_toNat (hfirst : 0x41 ≤ c.toNat) (hlast : c.toNat ≤ 0x5a) :
    lower c = [Char.ofNat (c.toNat + 32)] := by
  have hshifted : ∀ n ∈ List.range' 0x41 26, shifted lowerShifts n = n + 32 := by decide
  rw [lower, if_neg (by omega), hshifted]
  rw [List.mem_range'_1]
  omega

/-- **Among the ASCII letters no two upper-case ones have one lower-case form.** -/
theorem eq_of_lower_append_eq {rest rest' : List Char} (hupper : isUpper c = true)
    (halpha : c.isAlpha = true) (hupper' : isUpper c' = true) (halpha' : c'.isAlpha = true)
    (h : lower c ++ rest = lower c' ++ rest') : c :: rest = c' :: rest' := by
  obtain ⟨hfirst, hlast⟩ := toNat_of_isUpper_of_isAlpha hupper halpha
  obtain ⟨hfirst', hlast'⟩ := toNat_of_isUpper_of_isAlpha hupper' halpha'
  rw [lower_of_toNat hfirst hlast, lower_of_toNat hfirst' hlast'] at h
  obtain ⟨hchar, hrest⟩ := List.cons.inj h
  have hcode : ∀ n, n < 0x80 → (Char.ofNat n).toNat = n := by decide
  have hsum := congrArg Char.toNat hchar
  rw [hcode _ (by omega), hcode _ (by omega)] at hsum
  rw [Char.toNat_inj.mp (Nat.add_right_cancel hsum)]
  exact congrArg (c' :: ·) hrest

end Text

namespace AccessorName

/-- Whether the suffix of a name begins with an ASCII letter. -/
def beginsAscii (name : String) : Bool :=
  (suffixOf name).toList.head?.any Char.isAlpha

end AccessorName

/-- Candidates whose suffixes begin with ASCII letters have different fields. -/
theorem Accessor.name_eq_of_fieldName_eq {a a' : Accessor} (ha : a.isCandidate = true)
    (ha' : a'.isCandidate = true) (hascii : AccessorName.beginsAscii a.name = true)
    (hascii' : AccessorName.beginsAscii a'.name = true)
    (h : fieldName a.name = fieldName a'.name) : a.name = a'.name := by
  obtain ⟨letter, rest, hname, hupper, hsuffix, hfield⟩ := exists_letter_of_isCandidate ha
  obtain ⟨letter', rest', hname', hupper', hsuffix', hfield'⟩ := exists_letter_of_isCandidate ha'
  rw [AccessorName.beginsAscii, hsuffix] at hascii
  rw [AccessorName.beginsAscii, hsuffix'] at hascii'
  have hlower : Text.lower letter ++ rest = Text.lower letter' ++ rest' := by
    rw [← hfield, ← hfield', h]
  rw [← String.toList_inj, hname, hname',
    Text.eq_of_lower_append_eq hupper hascii hupper' hascii' hlower]

/-! ## What is emitted -/

namespace Containers

variable {c : Containers} {accessors : List Accessor} {a : Accessor} {b : Bean} {m : Member}

/-- The member that a candidate makes by itself. -/
def candidate? (c : Containers) (a : Accessor) : Option Member :=
  if a.isCandidate then a.returnType.map fun type => c.member a.name type (c.category type)
  else none

/-- The members that the candidates make, first all collections, then the primitives and then the
references, each category in the order of the accessors. -/
def emitted (c : Containers) (accessors : List Accessor) : List Member :=
  Category.all.flatMap fun category =>
    (accessors.filterMap c.candidate?).filter fun m => m.category = category

theorem candidate?_eq_some_iff :
    c.candidate? a = some m ↔ a.isCandidate = true ∧
      ∃ type, a.returnType = some type ∧ c.member a.name type (c.category type) = m := by
  rw [candidate?]
  split_ifs with ha <;> simp [ha]

theorem exists_candidate?_eq_some (ha : a.isCandidate = true) : ∃ m, c.candidate? a = some m := by
  have htype : a.returnType.isSome = true := by
    simp only [Accessor.isCandidate, Bool.and_eq_true] at ha
    exact ha.1.2
  obtain ⟨type, htype⟩ := Option.isSome_iff_exists.mp htype
  exact ⟨_, candidate?_eq_some_iff.mpr ⟨ha, type, htype, rfl⟩⟩

theorem field_of_candidate? (h : c.candidate? a = some m) : m.field = fieldName a.name := by
  obtain ⟨-, type, -, rfl⟩ := candidate?_eq_some_iff.mp h
  rfl

/-- The entry of a candidate in a category is the member it makes, if that is in the category. -/
theorem map_entry?_eq_filter_candidate? (category : Category) :
    (c.entry? category a).map (fun e => c.member e.1 e.2 category) =
      (c.candidate? a).filter fun m => m.category = category := by
  apply Option.ext
  intro m
  rw [Option.map_eq_some_iff, Option.filter_eq_some_iff, candidate?_eq_some_iff]
  simp only [entry?_eq_some_iff, decide_eq_true_eq]
  constructor
  · rintro ⟨e, ⟨hc, hname, htype, rfl⟩, rfl⟩
    exact ⟨⟨hc, e.2, htype, by rw [hname]⟩, rfl⟩
  · rintro ⟨⟨hc, type, htype, rfl⟩, rfl⟩
    exact ⟨(a.name, type), ⟨hc, rfl, htype, rfl⟩, rfl⟩

/-- Sorting accessors of different signatures into categories and listing the members category by
category gives each candidate's member. -/
theorem members_classify (hn : (accessors.map Accessor.signature).Nodup) :
    c.members (c.classify accessors) = c.emitted accessors := by
  rw [members, emitted]
  refine List.flatMap_congr fun category _ => ?_
  rw [toList_select_classify hn, List.map_filterMap, List.filter_filterMap]
  exact List.filterMap_congr fun a _ => map_entry?_eq_filter_candidate? category

/-- Listing by categories loses and repeats nothing. -/
theorem perm_flatMap_filter_category (members : List Member) :
    (Category.all.flatMap fun category => members.filter fun m => m.category = category).Perm
      members := by
  simp only [Category.all, List.flatMap_cons, List.flatMap_nil, List.append_nil]
  induction members with
  | nil => exact List.Perm.refl []
  | cons m rest ih =>
    cases hm : m.category with
    | collection =>
      simp only [List.filter_cons, hm, decide_true, if_true, reduceCtorEq, decide_false,
        Bool.false_eq_true, if_false, List.cons_append]
      exact ih.cons m
    | primitive =>
      simp only [List.filter_cons, hm, decide_true, if_true, reduceCtorEq, decide_false,
        Bool.false_eq_true, if_false, List.cons_append]
      exact List.perm_middle.trans (ih.cons m)
    | reference =>
      simp only [List.filter_cons, hm, decide_true, if_true, reduceCtorEq, decide_false,
        Bool.false_eq_true, if_false]
      rw [← List.append_assoc]
      refine List.perm_middle.trans (List.Perm.cons m ?_)
      rwa [List.append_assoc]

theorem perm_emitted (c : Containers) (accessors : List Accessor) :
    (c.emitted accessors).Perm (accessors.filterMap c.candidate?) :=
  perm_flatMap_filter_category _

/-! ## What stays of it -/

/-- **Of the members with one field the last one stays.** -/
theorem mem_builderMembers_iff (hn : (b.accessors.map Accessor.signature).Nodup) :
    m ∈ c.builderMembers b ↔
      ∃ front behind, c.emitted b.accessors = front ++ m :: behind ∧
        ∀ m' ∈ behind, m'.field ≠ m.field := by
  have hentry : m ∈ c.builderMembers b ↔ (m.field, m) ∈ (c.fields b).toList := by
    rw [builderMembers, OrderedMap.values, List.mem_map]
    constructor
    · rintro ⟨⟨field, m'⟩, hentry, rfl⟩
      obtain rfl : field = m'.field := (of_mem_fields hentry).1
      exact hentry
    · exact fun hentry => ⟨_, hentry, rfl⟩
  rw [hentry, fields, OrderedMap.mem_toList_ofList_iff, members_classify hn]
  constructor
  · rintro ⟨front, behind, hsplit, hbehind⟩
    obtain ⟨ms, ms', hms, -, hcons⟩ := List.map_eq_append_iff.mp hsplit
    obtain ⟨m', rest, rfl, hm', rfl⟩ := List.map_eq_cons_iff.mp hcons
    obtain rfl : m' = m := congrArg Prod.snd hm'
    exact ⟨ms, rest, hms, fun m'' hm'' => hbehind _ (List.mem_map_of_mem hm'')⟩
  · rintro ⟨front, behind, hsplit, hbehind⟩
    refine ⟨front.map fun m => (m.field, m), behind.map fun m => (m.field, m), ?_, ?_⟩
    · rw [hsplit, List.map_append, List.map_cons]
    · exact List.forall_mem_map.mpr hbehind

/-- **A field stands where it came first.** -/
theorem pairwise_idxOf_builderMembers (hn : (b.accessors.map Accessor.signature).Nodup) :
    (c.builderMembers b).Pairwise fun m m' =>
      ((c.emitted b.accessors).map Member.field).idxOf m.field <
        ((c.emitted b.accessors).map Member.field).idxOf m'.field := by
  have hkeys := OrderedMap.pairwise_idxOf_keys_ofList
    ((c.members (c.classify b.accessors)).map fun m => (m.field, m))
  rw [← fields, ← map_field_builderMembers, List.pairwise_map, List.map_map,
    members_classify hn] at hkeys
  exact hkeys

/-- Every field of a candidate is the field of a member, and there are no others. -/
theorem exists_field_builderMembers_iff (hn : (b.accessors.map Accessor.signature).Nodup)
    {field : String} :
    (∃ m ∈ c.builderMembers b, m.field = field) ↔
      ∃ a ∈ b.accessors, a.isCandidate = true ∧ fieldName a.name = field := by
  rw [← List.mem_map, map_field_builderMembers, fields, OrderedMap.mem_keys_ofList_iff,
    members_classify hn, List.map_map, List.mem_map]
  simp only [Function.comp_apply, (perm_emitted c b.accessors).mem_iff, List.mem_filterMap]
  constructor
  · rintro ⟨m, ⟨a, ha, hm⟩, rfl⟩
    exact ⟨a, ha, (candidate?_eq_some_iff.mp hm).1, (field_of_candidate? hm).symm⟩
  · rintro ⟨a, ha, hc, rfl⟩
    obtain ⟨m, hm⟩ := exists_candidate?_eq_some (c := c) hc
    exact ⟨m, ⟨a, ha, hm⟩, field_of_candidate? hm⟩

/-! ## Where suffixes begin with ASCII letters -/

section Ascii

variable (hn : (accessors.map Accessor.signature).Nodup)
  (hascii : ∀ a ∈ accessors, a.isCandidate = true → AccessorName.beginsAscii a.name = true)

include hn hascii

/-- No two candidates share a field. -/
theorem eq_of_fieldName_eq {a' : Accessor} (ha : a ∈ accessors) (ha' : a' ∈ accessors)
    (hc : a.isCandidate = true) (hc' : a'.isCandidate = true)
    (h : fieldName a.name = fieldName a'.name) : a = a' := by
  have hname : a.name = a'.name :=
    Accessor.name_eq_of_fieldName_eq hc hc' (hascii a ha hc) (hascii a' ha' hc') h
  have hsignature : a.signature = a'.signature := by
    rw [signature_of_isCandidate hc, signature_of_isCandidate hc', hname]
  exact List.inj_on_of_nodup_map hn ha ha' hsignature

theorem nodup_field_emitted (c : Containers) : ((c.emitted accessors).map Member.field).Nodup := by
  refine ((perm_emitted c accessors).map Member.field).nodup_iff.mpr ?_
  have hapart : accessors.Pairwise fun a a' => a ≠ a' := (List.Nodup.of_map _ hn)
  rw [List.nodup_iff_pairwise_ne, List.pairwise_map, List.pairwise_filterMap]
  refine hapart.imp_of_mem fun ha ha' hne m hm m' hm' hfield => hne ?_
  rw [field_of_candidate? hm, field_of_candidate? hm'] at hfield
  exact eq_of_fieldName_eq hn hascii ha ha' (candidate?_eq_some_iff.mp hm).1
    (candidate?_eq_some_iff.mp hm').1 hfield

end Ascii

/-- Where nothing shares a field, all that is emitted stays as it is. -/
theorem builderMembers_eq_emitted (hn : (b.accessors.map Accessor.signature).Nodup)
    (hfields : ((c.emitted b.accessors).map Member.field).Nodup) :
    c.builderMembers b = c.emitted b.accessors := by
  rw [builderMembers, fields, members_classify hn, OrderedMap.values,
    OrderedMap.toList_ofList_of_nodup, List.map_map]
  · exact List.map_id _
  · rwa [List.map_map]

theorem length_filterMap_candidate? (c : Containers) (accessors : List Accessor) :
    (accessors.filterMap c.candidate?).length = accessors.countP Accessor.isCandidate := by
  rw [List.length_filterMap_eq_countP]
  refine List.countP_congr fun a _ => ?_
  constructor
  · intro hsome
    obtain ⟨m, hm⟩ := Option.isSome_iff_exists.mp hsome
    exact (candidate?_eq_some_iff.mp hm).1
  · intro ha
    exact Option.isSome_iff_exists.mpr (exists_candidate?_eq_some ha)

end Containers

namespace Hierarchy

variable {h : Hierarchy} {id : TypeId} {b : Bean}

theorem nodup_signature_of_bean? (hb : h.bean? id = some b) :
    (b.accessors.map Accessor.signature).Nodup := by
  rw [accessors_of_bean? hb]
  exact Accessor.nodup_signature_firsts _

/-- **The members of a type**, whatever its chain of superclasses and the containers are.  No two
members share a field, and their fields are those of the candidates.  Of the members that the
candidates make, in the order of the categories, the last one with a field stays, and it stands
where the first one with this field stood.

If the suffix of every candidate begins with an ASCII letter, then no two candidates share a field,
and the members are those that the candidates make: one for each of them. -/
theorem members_of_candidates (c : Containers) (hb : h.bean? id = some b) :
    ((c.builderMembers b).map Member.field).Nodup ∧
    (∀ field, (∃ m ∈ c.builderMembers b, m.field = field) ↔
      ∃ a ∈ b.accessors, a.isCandidate = true ∧ fieldName a.name = field) ∧
    (∀ m, m ∈ c.builderMembers b ↔
      ∃ front behind, c.emitted b.accessors = front ++ m :: behind ∧
        ∀ m' ∈ behind, m'.field ≠ m.field) ∧
    ((c.builderMembers b).Pairwise fun m m' =>
      ((c.emitted b.accessors).map Member.field).idxOf m.field <
        ((c.emitted b.accessors).map Member.field).idxOf m'.field) ∧
    ((∀ a ∈ b.accessors, a.isCandidate = true → AccessorName.beginsAscii a.name = true) →
      (∀ a ∈ b.accessors, ∀ a' ∈ b.accessors, a.isCandidate = true → a'.isCandidate = true →
        fieldName a.name = fieldName a'.name → a = a') ∧
      c.builderMembers b = c.emitted b.accessors ∧
      (c.builderMembers b).Perm (b.accessors.filterMap c.candidate?) ∧
      (c.builderMembers b).length = b.accessors.countP Accessor.isCandidate) := by
  have hn := nodup_signature_of_bean? hb
  refine ⟨Containers.nodup_field_builderMembers c b,
    fun _ => Containers.exists_field_builderMembers_iff hn,
    fun _ => Containers.mem_builderMembers_iff hn,
    Containers.pairwise_idxOf_builderMembers hn, ?_⟩
  intro hascii
  have hall : c.builderMembers b = c.emitted b.accessors :=
    Containers.builderMembers_eq_emitted hn (Containers.nodup_field_emitted hn hascii c)
  have hperm := Containers.perm_emitted c b.accessors
  rw [hall]
  refine ⟨?_, rfl, hperm, ?_⟩
  · intro a ha a' ha' hc hc' hfield
    exact Containers.eq_of_fieldName_eq hn hascii ha ha' hc hc' hfield
  · rw [hperm.length_eq, Containers.length_filterMap_candidate?]

/-- A type with two getters that differ in a `K` and a Kelvin sign, and the type that it
extends. -/
def kelvinTypes : Hierarchy where
  declarations := [
    { simpleName := "Probe"
      declared := [{ name := "getK", returnType := some "long" },
        { name := "getName", returnType := some "String" },
        { name := "get\u212a", returnType := some "List<String>" }]
      superclass := some 1 },
    { simpleName := "Device"
      declared := [{ name := "getName", returnType := some "Object" },
        { name := "getPorts", returnType := some "java.util.Set<Integer>" },
        { name := "isOpen", returnType := some "boolean" }] }]

theorem members_of_candidates_kelvinTypes :
    ∃ probe device, kelvinTypes.bean? 0 = some probe ∧ kelvinTypes.bean? 1 = some device ∧
      ((({} : Containers).builderMembers probe).map Member.field).Nodup ∧
      (({} : Containers).emitted probe.accessors).map Member.accessor =
        ["get\u212a", "getPorts", "getK", "getName"] ∧
      (({} : Containers).builderMembers probe).map Member.accessor =
        ["getK", "getPorts", "getName"] ∧
      ({} : Containers).builderMembers device = ({} : Containers).emitted device.accessors ∧
      (({} : Containers).builderMembers device).length = 2 := by
  have hprobe : kelvinTypes.bean? 0 = some ((kelvinTypes.bean? 0).get rfl) := rfl
  have hdevice : kelvinTypes.bean? 1 = some ((kelvinTypes.bean? 1).get rfl) := rfl
  obtain ⟨hnodup, -⟩ := members_of_candidates {} hprobe
  obtain ⟨-, -, -, -, hascii⟩ := members_of_candidates {} hdevice
  obtain ⟨-, hall, -, hlength⟩ := hascii (by decide)
  exact ⟨_, _, hprobe, hdevice, hnodup, rfl, by decide +kernel, hall, hlength⟩

end Hierarchy
end BeanBuilder
