import BeanBuilder.Files.Tree
import BeanBuilder.Proofs.Results

/-! # What stands in a file tree

A tree is known by what stands at its places.  Putting an entry at a place and removing what stands
there change that place alone (`find?_put`, `find?_remove`), unless the place is one of those that
always hold a directory.

A path is followed through directories only.  A tree in which all directories of another one are
still directories therefore leads every path to the place where it led there
(`place?_of_keepsDirectories`).
-/
namespace BeanBuilder
namespace Files
namespace Tree

variable {t t' t'' : Tree} {place other : Place} {entry : Entry}

/-! ## Entries -/

theorem lookup_filter_ne (entries : List (Place × Entry)) (place other : Place) :
    (entries.filter fun e => e.1 ≠ place).lookup other =
      if other = place then none else entries.lookup other := by
  induction entries with
  | nil => simp
  | cons e rest ih =>
    obtain ⟨p, entry⟩ := e
    by_cases hp : p = place
    · subst hp
      rw [List.filter_cons_of_neg (by simp), ih, List.lookup_cons]
      by_cases ho : other = p
      · simp [ho]
      · simp [ho, beq_eq_false_iff_ne.mpr ho]
    · rw [List.filter_cons_of_pos (by simpa using hp), List.lookup_cons, List.lookup_cons, ih]
      by_cases ho : other = p
      · subst ho
        simp [hp]
      · simp [beq_eq_false_iff_ne.mpr ho]

/-- Where nothing stands, it is not a place that always holds a directory. -/
theorem isGiven_eq_false_of_find?_eq_none (h : t.find? place = none) : isGiven place = false := by
  rw [find?] at h
  split at h
  · cases h
  · exact Bool.eq_false_iff.mpr ‹_›

theorem isGiven_eq_false_of_isDirectoryAt (h : t.isDirectoryAt place = false) :
    isGiven place = false := by
  by_cases hgiven : isGiven place = true
  · rw [isDirectoryAt, find?, if_pos hgiven] at h
    cases h
  · exact Bool.eq_false_iff.mpr hgiven

/-- Removing what stands at a place leaves all other places alone. -/
theorem find?_remove (hp : isGiven place = false) (other : Place) :
    (t.remove place).find? other = if other = place then none else t.find? other := by
  by_cases ho : other = place
  · subst ho
    rw [find?, hp, if_neg Bool.false_ne_true, remove, lookup_filter_ne, if_pos rfl, if_pos rfl]
  · rw [find?, find?, remove, lookup_filter_ne, if_neg ho, if_neg ho]

/-- Putting an entry at a place leaves all other places alone. -/
theorem find?_put (hp : isGiven place = false) (entry : Entry) (other : Place) :
    (t.put place entry).find? other = if other = place then some entry else t.find? other := by
  by_cases ho : other = place
  · subst ho
    rw [find?, hp, if_neg Bool.false_ne_true, put, List.lookup_cons_self, if_pos rfl]
  · rw [if_neg ho, find?, find?, put, List.lookup_cons, beq_eq_false_iff_ne.mpr ho, remove]
    simp only [lookup_filter_ne, if_neg ho]

theorem isDirectoryAt_eq_true_iff :
    t.isDirectoryAt place = true ↔ t.find? place = some .directory := by
  rw [isDirectoryAt]
  split
  · rename_i h
    simp [h]
  · rename_i h
    simpa using h

theorem fileAt?_eq_some_iff {bytes : ByteArray} :
    t.fileAt? place = some bytes ↔ t.find? place = some (.file bytes) := by
  rw [fileAt?]
  split
  · rename_i h
    simp [h]
  · rename_i h
    simpa using h bytes

/-- An empty tree has no files. -/
theorem fileAt?_empty (place : Place) : ({} : Tree).fileAt? place = none := by
  by_cases hgiven : isGiven place
  · rw [fileAt?, find?, if_pos hgiven]
  · rw [fileAt?, find?, if_neg hgiven]
    rfl

theorem fileAt?_congr (h : t'.find? place = t.find? place) :
    t'.fileAt? place = t.fileAt? place := by
  rw [fileAt?, fileAt?, h]

/-! ## Trees with the same directories -/

/-- Every directory of one tree is still a directory in another one. -/
def KeepsDirectories (t t' : Tree) : Prop :=
  ∀ place, t.isDirectoryAt place = true → t'.isDirectoryAt place = true

theorem KeepsDirectories.refl (t : Tree) : t.KeepsDirectories t :=
  fun _ h => h

theorem KeepsDirectories.trans (h : t.KeepsDirectories t') (h' : t'.KeepsDirectories t'') :
    t.KeepsDirectories t'' :=
  fun place hd => h' place (h place hd)

/-- Putting an entry where no directory stands keeps all directories. -/
theorem KeepsDirectories.put (hp : t.isDirectoryAt place = false) (entry : Entry) :
    t.KeepsDirectories (t.put place entry) := by
  intro other ho
  have hne : other ≠ place := by
    rintro rfl
    rw [hp] at ho
    cases ho
  rw [isDirectoryAt_eq_true_iff, find?_put (isGiven_eq_false_of_isDirectoryAt hp), if_neg hne]
  exact isDirectoryAt_eq_true_iff.mp ho

theorem follow_of_keepsDirectories (h : t.KeepsDirectories t') {names : List String}
    (hf : t.follow place names = .ok other) : t'.follow place names = .ok other := by
  induction names generalizing place with
  | nil => exact hf
  | cons name rest ih =>
    rw [follow] at hf
    -- the place on the way is a directory, or the path would lead nowhere
    cases hfind : t.find? place with
    | none =>
      rw [hfind] at hf
      cases hf
    | some entry =>
      cases entry with
      | file bytes =>
        rw [hfind] at hf
        cases hf
      | directory =>
        have hkept := isDirectoryAt_eq_true_iff.mp (h place (isDirectoryAt_eq_true_iff.mpr hfind))
        rw [hfind] at hf
        simp only [follow, hkept]
        simp only at hf
        by_cases hlong : name.utf8ByteSize > 255
        · rw [if_pos hlong] at hf
          cases hf
        · rw [if_neg hlong] at hf ⊢
          by_cases hdots : name = ".."
          · rw [if_pos hdots] at hf ⊢
            exact ih hf
          · rw [if_neg hdots] at hf ⊢
            exact ih hf

/-- **Paths go on leading to the same places** where directories are kept. -/
theorem place?_of_keepsDirectories (h : t.KeepsDirectories t') {p : Path}
    (hp : t.place? p = .ok place) : t'.place? p = .ok place := by
  rw [place?] at hp ⊢
  split at hp
  · cases hp
  · rename_i hlength
    rw [if_neg hlength]
    exact follow_of_keepsDirectories h hp

/-! ## Files with other bytes -/

/-- Other bytes in a file lead no path elsewhere. -/
theorem follow_put_file {before : ByteArray} (h : t.fileAt? place = some before)
    (bytes : ByteArray) (names : List String) (start : Place) :
    (t.put place (.file bytes)).follow start names = t.follow start names := by
  have hfile := fileAt?_eq_some_iff.mp h
  have hgiven : isGiven place = false :=
    isGiven_eq_false_of_isDirectoryAt (by rw [isDirectoryAt, hfile])
  induction names generalizing start with
  | nil => rfl
  | cons name rest ih =>
    rw [follow, follow, find?_put hgiven]
    by_cases hstart : start = place
    · rw [if_pos hstart, hstart, hfile]
    · rw [if_neg hstart, ih, ih]

/-- A file with other bytes is in the way of no writing. -/
theorem placeToWrite_put_file {before : ByteArray} (h : t.fileAt? place = some before)
    (bytes : ByteArray) (p : Path) :
    (t.put place (.file bytes)).placeToWrite p = t.placeToWrite p := by
  have hfile := fileAt?_eq_some_iff.mp h
  have hgiven : isGiven place = false :=
    isGiven_eq_false_of_isDirectoryAt (by rw [isDirectoryAt, hfile])
  have hplace : (t.put place (.file bytes)).place? p = t.place? p := by
    rw [place?, place?, follow_put_file h]
  have hdirectory : ∀ other,
      (t.put place (.file bytes)).isDirectoryAt other = t.isDirectoryAt other := by
    intro other
    rw [isDirectoryAt, isDirectoryAt, find?_put hgiven]
    by_cases hother : other = place
    · rw [if_pos hother, hother, hfile]
    · rw [if_neg hother]
  rw [placeToWrite, placeToWrite, hplace]
  cases t.place? p with
  | error e => rfl
  | ok other =>
    simp only [except_ok_bind, find?_put hgiven, hdirectory]
    by_cases hother : other = place
    · simp only [hother, if_true, hfile]
    · simp only [if_neg hother]

/-! ## Files that were written -/

section Written

variable {p : Path} {bytes : ByteArray}

theorem of_placeToWrite (h : t.placeToWrite p = .ok place) :
    t.place? p = .ok place ∧ t.isDirectoryAt place = false := by
  obtain ⟨found, hfound, h⟩ := except_bind_eq_ok_iff.mp h
  split at h
  · cases h
  · rename_i hfind
    obtain rfl := except_pure_eq_ok_iff.mp h
    exact ⟨hfound, by rw [isDirectoryAt, hfind]⟩
  · rename_i hfind
    split at h
    · obtain rfl := except_pure_eq_ok_iff.mp h
      exact ⟨hfound, by rw [isDirectoryAt, hfind]⟩
    · cases h

/-- A path without parts leads to a directory. -/
theorem parts_ne_nil_of_placeToWrite (h : t.placeToWrite p = .ok place) : p.parts ≠ [] := by
  intro hparts
  obtain ⟨hplace, hdirectory⟩ := of_placeToWrite h
  rw [place?, hparts] at hplace
  split at hplace
  · cases hplace
  · obtain rfl := Except.ok.inj hplace
    have hgiven : isGiven (start p) = true := by
      unfold start
      split <;> rfl
    rw [isGiven_eq_false_of_isDirectoryAt hdirectory] at hgiven
    cases hgiven

/-- **A file that was written stands where its path leads.** -/
theorem entry_put_of_placeToWrite (h : t.placeToWrite p = .ok place) (bytes : ByteArray) :
    Tree.entry? (t.put place (.file bytes)) p = .ok (.file bytes) := by
  obtain ⟨hplace, hdirectory⟩ := of_placeToWrite h
  have hkept := place?_of_keepsDirectories (KeepsDirectories.put hdirectory (.file bytes)) hplace
  have hfind : (t.put place (.file bytes)).find? place = some (.file bytes) := by
    rw [find?_put (isGiven_eq_false_of_isDirectoryAt hdirectory), if_pos rfl]
  unfold entry?
  rw [hkept, except_ok_bind, hfind]
  rfl

end Written

end Tree
end Files
end BeanBuilder
