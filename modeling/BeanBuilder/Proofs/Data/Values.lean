import BeanBuilder.Data.Value

/-! # Values apart from the numbers of their collections

The reader of a data file may number the collections it finds, and what is written and read again
need not have the old numbers.  Two values are alike if they differ in such numbers alone (`Like`).
Values that are alike count as true together (`Like.isTruthy_eq`), and the fields of a mapping that
is like a record are found under the same names and are alike (`Like.exists_fields?`).
-/
namespace BeanBuilder
namespace Value

mutual

/-- A value without the numbers of its collections; a circular collection keeps its number, by
which it is known within itself. -/
def unnumbered : Value → Value
  | .anchored _ false (.list items) => .list (unnumberedAll items)
  | .anchored _ false (.set members) => .set members
  | .anchored _ false (.mapping entries) => .mapping (unnumberedEntries entries)
  | .list items => .list (unnumberedAll items)
  | .pair a b => .pair a.unnumbered b.unnumbered
  | .mapping entries => .mapping (unnumberedEntries entries)
  | v => v

/-- Values without the numbers of their collections. -/
def unnumberedAll : List Value → List Value
  | [] => []
  | v :: rest => v.unnumbered :: unnumberedAll rest

/-- Entries without the numbers of their collections; no key is a collection. -/
def unnumberedEntries : List (Value × Value) → List (Value × Value)
  | [] => []
  | (k, v) :: rest => (k, v.unnumbered) :: unnumberedEntries rest

end

/-- Whether two values differ at most in the numbers of their collections. -/
def Like (v w : Value) : Prop :=
  v.unnumbered = w.unnumbered

instance (v w : Value) : Decidable (v.Like w) :=
  inferInstanceAs (Decidable (_ = _))

/-- Whether two lists have the same names and values that are alike. -/
def FieldsLike (xs ys : List (String × Value)) : Prop :=
  (xs.map fun f => (f.1, f.2.unnumbered)) = ys.map fun f => (f.1, f.2.unnumbered)

variable {v w : Value} {xs ys fields : List (String × Value)} {entries : List (Value × Value)}

theorem isEmpty_unnumberedAll (items : List Value) :
    (unnumberedAll items).isEmpty = items.isEmpty := by
  cases items <;> rfl

theorem isEmpty_unnumberedEntries (entries : List (Value × Value)) :
    (unnumberedEntries entries).isEmpty = entries.isEmpty := by
  cases entries <;> rfl

theorem isTruthy_unnumbered (v : Value) : v.unnumbered.isTruthy = v.isTruthy := by
  unfold unnumbered
  split <;> simp only [isTruthy, isEmpty_unnumberedAll, isEmpty_unnumberedEntries]

theorem Like.isTruthy_eq (h : v.Like w) : v.isTruthy = w.isTruthy := by
  rw [← v.isTruthy_unnumbered, h, w.isTruthy_unnumbered]

/-! ## Fields -/

theorem fieldsOf_unnumberedEntries (entries : List (Value × Value)) :
    fieldsOf (unnumberedEntries entries) =
      (fieldsOf entries).map fun f => (f.1, f.2.unnumbered) := by
  induction entries with
  | nil => rfl
  | cons e rest ih =>
    obtain ⟨k, v⟩ := e
    cases k <;> simp_all [unnumberedEntries, fieldsOf]

theorem unnumbered_record (fields : List (String × Value)) :
    (record fields).unnumbered = record (fields.map fun f => (f.1, f.2.unnumbered)) := by
  simp only [record, unnumbered, mapping.injEq]
  induction fields with
  | nil => rfl
  | cons f rest ih => simp only [List.map_cons, unnumberedEntries, ih]

theorem exists_entries_of_unnumbered (h : v.unnumbered = .mapping entries) :
    ∃ found, v.fields? = some (fieldsOf found) ∧ unnumberedEntries found = entries := by
  unfold unnumbered at h
  split at h
  · cases h
  · cases h
  · exact ⟨_, rfl, mapping.inj h⟩
  · cases h
  · cases h
  · exact ⟨_, rfl, mapping.inj h⟩
  · rename_i hnone
    exact absurd h (hnone entries)

/-- **A value that is like a record** has fields that are like those of the record. -/
theorem Like.exists_fields? (h : v.Like (record fields)) :
    ∃ found, v.fields? = some found ∧ FieldsLike found fields := by
  rw [Like, unnumbered_record] at h
  obtain ⟨found, hfound, hentries⟩ := exists_entries_of_unnumbered h
  refine ⟨fieldsOf found, hfound, ?_⟩
  rw [FieldsLike, ← fieldsOf_unnumberedEntries, hentries, fieldsOf_map]

theorem FieldsLike.map_field? (h : FieldsLike xs ys) (name : String) :
    (field? xs name).map unnumbered = (field? ys name).map unnumbered := by
  have hmap : ∀ fields : List (String × Value), (field? fields name).map unnumbered =
      field? (fields.map fun f => (f.1, f.2.unnumbered)) name := by
    intro fields
    induction fields with
    | nil => rfl
    | cons f rest ih =>
      obtain ⟨key, v⟩ := f
      rw [field?, field?, List.map_cons, List.lookup_cons, List.lookup_cons]
      cases name == key with
      | true => rfl
      | false => exact ih
  rw [hmap, hmap, h]

end Value
end BeanBuilder
