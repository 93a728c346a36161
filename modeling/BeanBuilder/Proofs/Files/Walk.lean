import Mathlib.Data.List.Sort
import Mathlib.Data.List.Nodup
import BeanBuilder.Files.Walk
import BeanBuilder.Proofs.Files.Path

/-! # What a walk finds, and in which order

A directory may list its entries in any order (`Tree.Lists`).  Two listings of one directory hold
the same names, and names that are put in order are the same list (`inOrder_eq_of_perm`); so the
walk is the same whatever the listings are (`walk_eq_of_lists`).

A walk finds exactly the files that lie below the directory (`mem_walk_iff`), each of them once
(`nodup_walk`).  It comes to the files of the directory first, and then to those of each
subdirectory (`walk_succ`).  The tree is no deeper than the walk has levels, so more levels would
make no difference (`walk_succ_eq`).

What a walk finds in a subdirectory it finds in the directory too, with the same text in front
(`expand_subset_expand`).
-/
namespace BeanBuilder
namespace Files

variable {name : String} {names names' : List String}

/-! ## Names in order -/

theorem putInOrder_eq (name : String) (names : List String) :
    putInOrder name names = names.orderedInsert (· ≤ ·) name := by
  induction names with
  | nil => rfl
  | cons other rest ih => rw [putInOrder, ih, List.orderedInsert]

theorem inOrder_eq (names : List String) : inOrder names = names.insertionSort (· ≤ ·) := by
  induction names with
  | nil => rfl
  | cons name rest ih =>
    rw [List.insertionSort_cons, ← ih, ← putInOrder_eq]
    rfl

theorem inOrder_perm (names : List String) : (inOrder names).Perm names :=
  inOrder_eq names ▸ names.perm_insertionSort (· ≤ ·)

theorem mem_inOrder : name ∈ inOrder names ↔ name ∈ names :=
  (inOrder_perm names).mem_iff

theorem pairwise_le_inOrder (names : List String) : (inOrder names).Pairwise (· ≤ ·) :=
  inOrder_eq names ▸ names.pairwise_insertionSort (· ≤ ·)

/-- **The order of names does not depend on the order in which they are listed.** -/
theorem inOrder_eq_of_perm (h : names.Perm names') : inOrder names = inOrder names' := by
  have hperm : (inOrder names).Perm (inOrder names') :=
    (inOrder_perm names).trans (h.trans (inOrder_perm names').symm)
  exact hperm.eq_of_pairwise (fun a b _ _ hab hba => String.le_antisymm hab hba)
    (pairwise_le_inOrder names) (pairwise_le_inOrder names')

/-- Different names stand in strict order. -/
theorem pairwise_lt_inOrder (h : names.Nodup) : (inOrder names).Pairwise (· < ·) := by
  have hnodup : (inOrder names).Nodup := (inOrder_perm names).nodup_iff.mpr h
  refine (List.Pairwise.and hnodup (pairwise_le_inOrder names)).imp ?_
  rintro a b ⟨hne, hle⟩
  exact String.not_le.mp fun hge => hne (String.le_antisymm hle hge)

/-! ## Listings -/

namespace Listing

variable {list : Listing} {ending : String} {levels : Nat} {directory : Place}

/-- A name has an ending. -/
def EndsWith (ending name : String) : Prop :=
  ending.toList <:+ name.toList

/-- The files of a directory that a walk finds. -/
def ownFiles (list : Listing) (ending : String) (directory : Place) : List String :=
  (inOrder (list.files directory)).filter fun name => Text.finishesWith ending.toList name.toList

theorem mem_ownFiles_iff : name ∈ list.ownFiles ending directory ↔
    name ∈ list.files directory ∧ EndsWith ending name := by
  rw [ownFiles, List.mem_filter, mem_inOrder, Text.finishesWith_iff]
  exact Iff.rfl

/-- **A walk comes to the files of a directory first**, and then to each of its subdirectories. -/
theorem walk_succ (list : Listing) (ending : String) (levels : Nat) (directory : Place) :
    list.walk ending (levels + 1) directory =
      (list.ownFiles ending directory).map (fun name => [name]) ++
        (inOrder (list.directories directory)).flatMap fun name =>
          (list.walk ending levels (directory ++ [name])).map (name :: ·) := by
  rw [walk, rounds, List.flatMap_cons, List.flatMap_assoc]
  congr 1
  refine List.flatMap_congr fun name _ => ?_
  rw [walk, List.flatMap_map, List.map_flatMap]
  refine List.flatMap_congr fun round _ => ?_
  rw [List.map_map]
  rfl

theorem mem_files_iff : name ∈ list.files directory ↔
    ∃ bytes, (name, Entry.file bytes) ∈ list directory := by
  rw [files, List.mem_filterMap]
  constructor
  · rintro ⟨⟨other, entry⟩, hmem, hname⟩
    cases entry with
    | file bytes => exact ⟨bytes, Option.some.inj hname ▸ hmem⟩
    | directory => cases hname
  · rintro ⟨bytes, hmem⟩
    exact ⟨_, hmem, rfl⟩

theorem mem_directories_iff : name ∈ list.directories directory ↔
    (name, Entry.directory) ∈ list directory := by
  rw [directories, List.mem_filterMap]
  constructor
  · rintro ⟨⟨other, entry⟩, hmem, hname⟩
    cases entry with
    | file bytes => cases hname
    | directory => exact Option.some.inj hname ▸ hmem
  · intro hmem
    exact ⟨_, hmem, rfl⟩

/-- Names that are kept of a list with different names are different. -/
theorem nodup_filterMap_of_nodup {entries : List (String × Entry)}
    {f : String × Entry → Option String} (hf : ∀ e n, f e = some n → n = e.1)
    (h : (entries.map Prod.fst).Nodup) : (entries.filterMap f).Nodup := by
  induction entries with
  | nil => exact List.nodup_nil
  | cons e rest ih =>
    rw [List.map_cons, List.nodup_cons] at h
    cases he : f e with
    | none =>
      rw [List.filterMap_cons_none he]
      exact ih h.2
    | some n =>
      rw [List.filterMap_cons_some he, List.nodup_cons]
      refine ⟨fun hmem => h.1 ?_, ih h.2⟩
      obtain ⟨e', he', hn⟩ := List.mem_filterMap.mp hmem
      rw [← hf e n he, hf e' n hn]
      exact List.mem_map_of_mem he'

theorem nodup_files (h : ((list directory).map Prod.fst).Nodup) : (list.files directory).Nodup := by
  apply nodup_filterMap_of_nodup _ h
  rintro ⟨other, entry⟩ n hn
  cases entry with
  | file bytes => exact (Option.some.inj hn).symm
  | directory => cases hn

theorem nodup_directories (h : ((list directory).map Prod.fst).Nodup) :
    (list.directories directory).Nodup := by
  apply nodup_filterMap_of_nodup _ h
  rintro ⟨other, entry⟩ n hn
  cases entry with
  | file bytes => cases hn
  | directory => exact (Option.some.inj hn).symm

end Listing

/-! ## Listings of a tree -/

theorem leadsDown_iff : leadsDown name = true ↔ name ≠ "/" ∧ name ≠ ".." := by
  simp [leadsDown]

theorem isGiven_append (h : leadsDown name = true) (place : Place) :
    Tree.isGiven (place ++ [name]) = false := by
  obtain ⟨hroot, hdots⟩ := leadsDown_iff.mp h
  have hne : place ++ [name] ≠ ["/"] := by
    intro heq
    cases place with
    | nil => exact hroot (List.cons.inj heq).1
    | cons first rest => simp at heq
  simp [Tree.isGiven, hne, hdots]

theorem nameIn?_eq_some_iff {directory place : Place} :
    nameIn? directory place = some name ↔
      place = directory ++ [name] ∧ leadsDown name = true := by
  induction directory generalizing place with
  | nil =>
    cases place with
    | nil => simp [nameIn?]
    | cons first rest =>
      cases rest with
      | nil =>
        rw [nameIn?]
        split
        · rename_i hdown
          simp only [Option.some.injEq, List.nil_append, List.cons.injEq, and_true]
          exact ⟨fun h => ⟨h, h ▸ hdown⟩, fun h => h.1⟩
        · rename_i hdown
          simp only [List.nil_append, List.cons.injEq, and_true]
          exact ⟨fun h => (nomatch h), fun h => absurd (h.1 ▸ h.2) hdown⟩
      | cons second rest => simp [nameIn?]
  | cons d ds ih =>
    cases place with
    | nil => simp [nameIn?]
    | cons first rest =>
      rw [nameIn?]
      split
      · rename_i hd
        rw [ih, List.cons_append, List.cons.injEq]
        simp [hd]
      · rename_i hd
        simp [Ne.symm hd]

theorem nodup_eraseDups (names : List String) : names.eraseDups.Nodup := by
  induction hlength : names.length using Nat.strong_induction_on generalizing names with
  | _ n ih =>
    cases names with
    | nil => exact List.nodup_nil
    | cons name rest =>
      rw [List.eraseDups_cons, List.nodup_cons]
      have hshort : (rest.filter fun other => !other == name).length < n := by
        have hle := List.length_filter_le (fun other => !other == name) rest
        rw [List.length_cons] at hlength
        omega
      refine ⟨?_, ih _ hshort _ rfl⟩
      simp [List.mem_eraseDups]

namespace Tree

variable {t : Tree} {list list' : Listing} {place directory : Place} {ending : String}
  {levels : Nat}

/-- The listings are those of the tree: a directory lists each thing in it once, in any order. -/
structure Lists (t : Tree) (list : Listing) : Prop where
  nodup : ∀ directory, ((list directory).map Prod.fst).Nodup
  mem_iff : ∀ directory name entry, (name, entry) ∈ list directory ↔
    leadsDown name = true ∧ t.find? (directory ++ [name]) = some entry

theorem mem_entries_of_find? {entry : Entry} (hgiven : isGiven place = false)
    (h : t.find? place = some entry) : (place, entry) ∈ t.entries := by
  rw [find?, hgiven, if_neg Bool.false_ne_true] at h
  obtain ⟨before, behind, hentries, -⟩ := List.lookup_eq_some_iff.mp h
  rw [hentries]
  simp

theorem lists_listing (t : Tree) : t.Lists t.listing where
  nodup := by
    intro directory
    have hkeys : ∀ names : List String, (((names.filterMap fun name =>
        (t.find? (directory ++ [name])).map fun entry => (name, entry)).map Prod.fst).Sublist
          names) := by
      intro names
      induction names with
      | nil => exact List.Sublist.refl _
      | cons name rest ih =>
        cases hfind : t.find? (directory ++ [name]) with
        | none =>
          rw [List.filterMap_cons_none (by rw [hfind]; rfl)]
          exact ih.cons name
        | some entry =>
          rw [List.filterMap_cons_some (by rw [hfind]; rfl), List.map_cons]
          exact ih.cons_cons name
    exact (nodup_eraseDups _).sublist (hkeys _)
  mem_iff := by
    intro directory name entry
    rw [listing, List.mem_filterMap]
    constructor
    · rintro ⟨other, hmem, hentry⟩
      obtain ⟨found, hfound, heq⟩ := Option.map_eq_some_iff.mp hentry
      obtain ⟨rfl, rfl⟩ := Prod.mk.inj heq
      obtain ⟨e, -, hname⟩ := List.mem_filterMap.mp (List.mem_eraseDups.mp hmem)
      exact ⟨(nameIn?_eq_some_iff.mp hname).2, hfound⟩
    · rintro ⟨hdown, hfound⟩
      have hentry := mem_entries_of_find? (isGiven_append hdown directory) hfound
      refine ⟨name, List.mem_eraseDups.mpr (List.mem_filterMap.mpr ⟨_, hentry, ?_⟩), ?_⟩
      · exact nameIn?_eq_some_iff.mpr ⟨rfl, hdown⟩
      · rw [hfound]
        rfl

namespace Lists

theorem mem_files_iff (h : t.Lists list) : name ∈ list.files directory ↔
    leadsDown name = true ∧ ∃ bytes, t.find? (directory ++ [name]) = some (.file bytes) := by
  rw [Listing.mem_files_iff]
  constructor
  · rintro ⟨bytes, hmem⟩
    obtain ⟨hdown, hfind⟩ := (h.mem_iff _ _ _).mp hmem
    exact ⟨hdown, bytes, hfind⟩
  · rintro ⟨hdown, bytes, hfind⟩
    exact ⟨bytes, (h.mem_iff _ _ _).mpr ⟨hdown, hfind⟩⟩

theorem mem_directories_iff (h : t.Lists list) : name ∈ list.directories directory ↔
    leadsDown name = true ∧ t.find? (directory ++ [name]) = some .directory := by
  rw [Listing.mem_directories_iff]
  exact h.mem_iff _ _ _

theorem inOrder_files_eq (h : t.Lists list) (h' : t.Lists list') (directory : Place) :
    inOrder (list.files directory) = inOrder (list'.files directory) := by
  apply inOrder_eq_of_perm
  rw [List.perm_ext_iff_of_nodup (Listing.nodup_files (h.nodup directory))
    (Listing.nodup_files (h'.nodup directory))]
  intro name
  rw [h.mem_files_iff, h'.mem_files_iff]

theorem inOrder_directories_eq (h : t.Lists list) (h' : t.Lists list') (directory : Place) :
    inOrder (list.directories directory) = inOrder (list'.directories directory) := by
  apply inOrder_eq_of_perm
  rw [List.perm_ext_iff_of_nodup (Listing.nodup_directories (h.nodup directory))
    (Listing.nodup_directories (h'.nodup directory))]
  intro name
  rw [h.mem_directories_iff, h'.mem_directories_iff]

/-- **A walk does not depend on the order in which directories list their entries.** -/
theorem walk_eq_of_lists (h : t.Lists list) (h' : t.Lists list') (ending : String) (levels : Nat)
    (directory : Place) :
    list.walk ending levels directory = list'.walk ending levels directory := by
  induction levels generalizing directory with
  | zero => rfl
  | succ levels ih =>
    rw [Listing.walk_succ, Listing.walk_succ, Listing.ownFiles, Listing.ownFiles,
      h.inOrder_files_eq h', h.inOrder_directories_eq h']
    congr 1
    exact List.flatMap_congr fun name _ => by rw [ih]

end Lists

/-! ## What a walk finds -/

/-- Some names lead from a directory through directories down to a file. -/
inductive FileBelow (t : Tree) : Place → Place → Prop
  | here {directory : Place} {name : String} {bytes : ByteArray} (hdown : leadsDown name = true)
      (hfile : t.find? (directory ++ [name]) = some (.file bytes)) :
      FileBelow t directory [name]
  | inside {directory names : Place} {name : String} (hdown : leadsDown name = true)
      (hdirectory : t.find? (directory ++ [name]) = some .directory)
      (hrest : FileBelow t (directory ++ [name]) names) : FileBelow t directory (name :: names)

theorem FileBelow.ne_nil (h : t.FileBelow directory names) : names ≠ [] := by
  cases h with
  | here => exact List.cons_ne_nil _ _
  | inside => exact List.cons_ne_nil _ _

/-- The way of a file that lies below a directory is that of the directory and the one down. -/
theorem FileBelow.exists_find? (h : t.FileBelow directory names) :
    ∃ bytes, t.find? (directory ++ names) = some (.file bytes) := by
  induction h with
  | here _ hfile => exact ⟨_, hfile⟩
  | inside _ _ _ ih =>
    obtain ⟨bytes, hbytes⟩ := ih
    exact ⟨bytes, by rwa [List.append_assoc] at hbytes⟩

theorem FileBelow.leadsDown_of_mem (h : t.FileBelow directory names) (hname : name ∈ names) :
    leadsDown name = true := by
  induction h with
  | here hdown => exact List.mem_singleton.mp hname ▸ hdown
  | inside hdown _ _ ih =>
    rcases List.mem_cons.mp hname with rfl | hrest
    · exact hdown
    · exact ih hrest

theorem length_le_height {e : Place × Entry} (h : e ∈ t.entries) : e.1.length ≤ t.height := by
  obtain ⟨entries⟩ := t
  simp only [height]
  induction entries with
  | nil => exact absurd h List.not_mem_nil
  | cons first rest ih =>
    rw [List.foldr_cons]
    rcases List.mem_cons.mp h with rfl | hrest
    · exact Nat.le_max_left _ _
    · exact (ih hrest).trans (Nat.le_max_right _ _)

theorem length_lt_height {entry : Entry} (hdown : leadsDown name = true)
    (h : t.find? (directory ++ [name]) = some entry) : directory.length < t.height := by
  have hle := length_le_height (mem_entries_of_find? (isGiven_append hdown directory) h)
  rw [List.length_append, List.length_singleton] at hle
  omega

theorem FileBelow.length_le (h : t.FileBelow directory names) :
    directory.length + names.length ≤ t.height := by
  induction h with
  | here hdown hfile =>
    have hlt := length_lt_height hdown hfile
    rw [List.length_singleton]
    omega
  | inside _ _ _ ih =>
    rw [List.length_append, List.length_singleton] at ih
    rw [List.length_cons]
    omega

namespace Lists

/-- **A walk finds the files below a directory**, as many levels down as it has. -/
theorem mem_walk_iff (h : t.Lists list) : names ∈ list.walk ending levels directory ↔
    t.FileBelow directory names ∧ names.length ≤ levels ∧
      Listing.EndsWith ending (names.getLast?.getD "") := by
  induction levels generalizing directory names with
  | zero =>
    constructor
    · exact fun hmem => absurd hmem List.not_mem_nil
    · rintro ⟨hfile, hlength, -⟩
      exact absurd (List.eq_nil_of_length_eq_zero (Nat.le_zero.mp hlength)) hfile.ne_nil
  | succ levels ih =>
    rw [Listing.walk_succ, List.mem_append, List.mem_map, List.mem_flatMap]
    constructor
    · rintro (⟨name, hname, rfl⟩ | ⟨name, hname, hbelow⟩)
      · obtain ⟨hmem, hending⟩ := Listing.mem_ownFiles_iff.mp hname
        obtain ⟨hdown, bytes, hfile⟩ := h.mem_files_iff.mp hmem
        exact ⟨.here hdown hfile, Nat.succ_le_succ (Nat.zero_le _), hending⟩
      · obtain ⟨rest, hrest, rfl⟩ := List.mem_map.mp hbelow
        obtain ⟨hfile, hlength, hending⟩ := ih.mp hrest
        obtain ⟨hdown, hdirectory⟩ := h.mem_directories_iff.mp (mem_inOrder.mp hname)
        refine ⟨.inside hdown hdirectory hfile, Nat.succ_le_succ hlength, ?_⟩
        rwa [List.getLast?_cons_of_ne_nil hfile.ne_nil]
    · rintro ⟨hfile, hlength, hending⟩
      cases hfile with
      | here hdown hfile =>
        refine Or.inl ⟨_, Listing.mem_ownFiles_iff.mpr ⟨?_, hending⟩, rfl⟩
        exact h.mem_files_iff.mpr ⟨hdown, _, hfile⟩
      | inside hdown hdirectory hrest =>
        right
        rw [List.getLast?_cons_of_ne_nil hrest.ne_nil] at hending
        refine ⟨_, mem_inOrder.mpr (h.mem_directories_iff.mpr ⟨hdown, hdirectory⟩), ?_⟩
        exact List.mem_map_of_mem (ih.mpr ⟨hrest, Nat.le_of_succ_le_succ hlength, hending⟩)

/-- **A walk finds no file twice.** -/
theorem nodup_walk (h : t.Lists list) (ending : String) (levels : Nat) (directory : Place) :
    (list.walk ending levels directory).Nodup := by
  induction levels generalizing directory with
  | zero => exact List.nodup_nil
  | succ levels ih =>
    have hfiles := (inOrder_perm _).nodup_iff.mpr (Listing.nodup_files (h.nodup directory))
    have hdirectories := (inOrder_perm _).nodup_iff.mpr
      (Listing.nodup_directories (h.nodup directory))
    rw [Listing.walk_succ]
    refine List.nodup_append.mpr ⟨?_, ?_, ?_⟩
    · exact (hfiles.filter _).map fun a b hab => (List.cons.inj hab).1
    · refine List.nodup_flatMap.mpr ⟨fun name _ => ?_, hdirectories.imp ?_⟩
      · exact (ih _).map fun a b hab => (List.cons.inj hab).2
      · -- ways through different subdirectories begin with different names
        intro name other hne way hway hother
        obtain ⟨rest, -, rfl⟩ := List.mem_map.mp hway
        obtain ⟨rest', -, heq⟩ := List.mem_map.mp hother
        exact hne (List.cons.inj heq).1.symm
    · -- a way through a subdirectory has more than one name
      rintro way hway _ hother rfl
      obtain ⟨name, -, rfl⟩ := List.mem_map.mp hway
      obtain ⟨other, -, hbelow⟩ := List.mem_flatMap.mp hother
      obtain ⟨rest, hrest, heq⟩ := List.mem_map.mp hbelow
      exact (h.mem_walk_iff.mp hrest).1.ne_nil (List.cons.inj heq).2

/-- **One more level makes no difference** when there are levels for the whole tree. -/
theorem walk_succ_eq (h : t.Lists list) (ending : String)
    (hlevels : t.height ≤ levels + directory.length) :
    list.walk ending (levels + 1) directory = list.walk ending levels directory := by
  induction levels generalizing directory with
  | zero =>
    have hnone : ∀ name entry, (name, entry) ∉ list directory := by
      intro name entry hmem
      obtain ⟨hdown, hfind⟩ := (h.mem_iff _ _ _).mp hmem
      have hlt := length_lt_height hdown hfind
      omega
    have hempty : list directory = [] :=
      List.eq_nil_iff_forall_not_mem.mpr fun e he => hnone e.1 e.2 he
    rw [Listing.walk_succ, Listing.ownFiles, Listing.files, Listing.directories, hempty]
    rfl
  | succ levels ih =>
    rw [Listing.walk_succ, Listing.walk_succ list ending levels]
    congr 1
    refine List.flatMap_congr fun name _ => ?_
    rw [ih]
    rw [List.length_append, List.length_singleton]
    omega

end Lists

/-! ## Walks of a tree -/

/-- The walk of a tree, with any listings of it. -/
theorem walk_eq (h : t.Lists list) (ending : String) (directory : Place) :
    t.walk ending directory = list.walk ending t.height directory :=
  t.lists_listing.walk_eq_of_lists h ending t.height directory

theorem mem_walk_iff : names ∈ t.walk ending directory ↔
    t.FileBelow directory names ∧ Listing.EndsWith ending (names.getLast?.getD "") := by
  rw [walk, t.lists_listing.mem_walk_iff]
  constructor
  · exact fun h => ⟨h.1, h.2.2⟩
  · rintro ⟨hfile, hending⟩
    have hle := hfile.length_le
    exact ⟨hfile, by omega, hending⟩

/-- **The order of a walk**: the files of the directory, and then what lies below each of its
subdirectories. -/
theorem walk_eq_append (t : Tree) (ending : String) (directory : Place) :
    t.walk ending directory =
      (t.listing.ownFiles ending directory).map (fun name => [name]) ++
        (inOrder (t.listing.directories directory)).flatMap fun name =>
          (t.walk ending (directory ++ [name])).map (name :: ·) := by
  have hmore := t.lists_listing.walk_succ_eq ending (Nat.le_add_right t.height directory.length)
  rw [walk, ← hmore, Listing.walk_succ]
  rfl

/-! ## Texts for what is found -/

/-- The names on the way to every entry can be parts of paths. -/
def PlainNames (t : Tree) : Prop :=
  ∀ e ∈ t.entries, ∀ name ∈ e.1, leadsDown name = true → Path.IsPart name

theorem FileBelow.isPart_of_mem (hplain : t.PlainNames) (h : t.FileBelow directory names)
    (hname : name ∈ names) : Path.IsPart name := by
  obtain ⟨bytes, hfile⟩ := h.exists_find?
  have hgiven : isGiven (directory ++ names) = false := by
    by_contra hgiven
    rw [find?, if_pos (by simpa using hgiven)] at hfile
    cases hfile
  exact hplain _ (mem_entries_of_find? hgiven hfile) name (List.mem_append_right directory hname)
    (h.leadsDown_of_mem hname)

/-- What is found below a directory has the text of the directory in front. -/
theorem exists_toList_nameBelow (directory : String) :
    ∃ front : List Char, ∀ names, (nameBelow directory names).toList =
      front ++ (Text.joinStrings "/" names).toList := by
  by_cases hslash : Text.finishesWith ['/'] directory.toList = true
  · refine ⟨directory.toList, fun names => ?_⟩
    simp only [nameBelow, if_pos hslash, String.toList_append]
  · refine ⟨directory.toList ++ ['/'], fun names => ?_⟩
    simp only [nameBelow, if_neg hslash, String.toList_append]
    rfl

/-- **Different files below a directory have different texts.** -/
theorem eq_of_nameBelow_eq (hplain : t.PlainNames) (h : t.FileBelow directory names)
    (h' : t.FileBelow directory names') (heq : nameBelow name names = nameBelow name names') :
    names = names' := by
  obtain ⟨front, hfront⟩ := exists_toList_nameBelow name
  have hjoined : (Text.joinStrings "/" names).toList = (Text.joinStrings "/" names').toList := by
    have hlist := congrArg String.toList heq
    rw [hfront, hfront] at hlist
    exact List.append_cancel_left hlist
  rw [← Path.namesOf_joinStrings fun part hpart => h.isPart_of_mem hplain hpart, hjoined,
    Path.namesOf_joinStrings fun part hpart => h'.isPart_of_mem hplain hpart]

/-- The text for what lies in a subdirectory goes on from that of the subdirectory. -/
theorem nameBelow_nameBelow (directory : String) (hname : Path.IsPart name) (hnames : names ≠ []) :
    nameBelow (nameBelow directory [name]) names = nameBelow directory (name :: names) := by
  have hsingle : Text.joinStrings "/" [name] = name := rfl
  have hopen : Text.finishesWith ['/'] (nameBelow directory [name]).toList = false := by
    rw [← Bool.not_eq_true, Text.finishesWith_iff]
    intro hsuffix
    obtain ⟨front, hfront⟩ := exists_toList_nameBelow directory
    rw [hfront, hsingle] at hsuffix
    have hchars : name.toList ≠ [] := by simpa using hname.ne_empty
    have hlast := hsuffix.getLast (List.cons_ne_nil '/' [])
    rw [List.getLast_append_of_ne_nil _ hchars, List.getLast_singleton] at hlast
    exact hname.no_slash (hlast ▸ List.getLast_mem hchars)
  rw [nameBelow, hopen, if_neg Bool.false_ne_true]
  simp only [nameBelow, hsingle, Text.joinStrings_cons "/" name hnames]
  split
  · simp only [String.append_assoc]
  · simp only [String.append_assoc]

theorem nameBelow_ne_empty (directory : String) (hname : Path.IsPart name) :
    nameBelow directory [name] ≠ "" := by
  intro hempty
  obtain ⟨front, hfront⟩ := exists_toList_nameBelow directory
  have hchars := hfront [name]
  rw [hempty] at hchars
  have hnil := (List.append_eq_nil_iff.mp hchars.symm).2
  exact hname.ne_empty (String.toList_eq_nil_iff.mp hnil)

/-- A text that leads to a directory stands for what a walk finds there. -/
theorem expand_of_directory (hname : name ≠ "") (hplace : t.place? (Path.ofString name) = .ok place)
    (hdirectory : t.isDirectoryAt place = true) (ending : String) :
    t.expand ending name = (t.walk ending place).map (nameBelow name) := by
  rw [expand, if_neg hname, hplace]
  exact if_pos hdirectory

/-- **A subdirectory stands for no other files than its directory**, with the same texts. -/
theorem expand_subset_expand {directory : String} (hdirectory : directory ≠ "")
    (hplace : t.place? (Path.ofString directory) = .ok place)
    (hfound : t.isDirectoryAt place = true) (hdown : leadsDown name = true)
    (hname : Path.IsPart name)
    (hinner : t.place? (Path.ofString (nameBelow directory [name])) = .ok (place ++ [name]))
    (hsub : t.isDirectoryAt (place ++ [name]) = true) (ending : String) :
    t.expand ending (nameBelow directory [name]) ⊆ t.expand ending directory := by
  intro file hfile
  rw [expand_of_directory (nameBelow_ne_empty directory hname) hinner hsub, List.mem_map] at hfile
  obtain ⟨names, hnames, rfl⟩ := hfile
  obtain ⟨hbelow, hending⟩ := mem_walk_iff.mp hnames
  rw [expand_of_directory hdirectory hplace hfound, List.mem_map]
  refine ⟨name :: names, mem_walk_iff.mpr ⟨?_, ?_⟩,
    (nameBelow_nameBelow directory hname hbelow.ne_nil).symm⟩
  · exact .inside hdown (isDirectoryAt_eq_true_iff.mp hsub) hbelow
  · rwa [List.getLast?_cons_of_ne_nil hbelow.ne_nil]

/-- **The sources below a directory.**  A text that leads to a directory stands for the files below
it that are named `.java` at the end, for each of them once and for nothing else.  They come in the
order of a walk, which is always the same, in whatever order directories list their entries: first
the files of the directory by name, then what lies below its subdirectories, by their names. -/
theorem expand_lists_sources_once {t : Tree} {name : String} {place : Place}
    (hplain : t.PlainNames) (hname : name ≠ "")
    (hplace : t.place? (Path.ofString name) = .ok place)
    (hdirectory : t.isDirectoryAt place = true) :
    (∀ list, t.Lists list →
      t.expand ".java" name = (list.walk ".java" t.height place).map (nameBelow name)) ∧
    (∀ file, file ∈ t.expand ".java" name ↔ ∃ names, t.FileBelow place names ∧
      Listing.EndsWith ".java" (names.getLast?.getD "") ∧ file = nameBelow name names) ∧
    (t.expand ".java" name).Nodup ∧
    (∀ names names', t.FileBelow place names → t.FileBelow place names' →
      nameBelow name names = nameBelow name names' → names = names') ∧
    t.expand ".java" name = (t.walk ".java" place).map (nameBelow name) ∧
    ∀ directory, ∃ files directories : List String,
      files.Pairwise (· < ·) ∧ directories.Pairwise (· < ·) ∧
      (∀ n, n ∈ files ↔ t.FileBelow directory [n] ∧ Listing.EndsWith ".java" n) ∧
      (∀ n, n ∈ directories ↔
        leadsDown n = true ∧ t.isDirectoryAt (directory ++ [n]) = true) ∧
      t.walk ".java" directory = files.map (fun n => [n]) ++
        directories.flatMap fun n => (t.walk ".java" (directory ++ [n])).map (n :: ·) := by
  have hexpand := expand_of_directory hname hplace hdirectory ".java"
  have hlists := t.lists_listing
  refine ⟨?_, ?_, ?_, fun names names' => eq_of_nameBelow_eq hplain, hexpand, ?_⟩
  · intro list hlist
    rw [hexpand, walk_eq hlist]
  · intro file
    rw [hexpand, List.mem_map]
    constructor
    · rintro ⟨names, hnames, rfl⟩
      obtain ⟨hfile, hending⟩ := mem_walk_iff.mp hnames
      exact ⟨names, hfile, hending, rfl⟩
    · rintro ⟨names, hfile, hending, rfl⟩
      exact ⟨names, mem_walk_iff.mpr ⟨hfile, hending⟩, rfl⟩
  · rw [hexpand]
    refine (hlists.nodup_walk ".java" t.height place).map_on ?_
    intro names hnames names' hnames' heq
    exact eq_of_nameBelow_eq hplain (mem_walk_iff.mp hnames).1 (mem_walk_iff.mp hnames').1 heq
  · intro directory
    have hfiles := pairwise_lt_inOrder (Listing.nodup_files (hlists.nodup directory))
    refine ⟨t.listing.ownFiles ".java" directory, inOrder (t.listing.directories directory),
      hfiles.sublist List.filter_sublist,
      pairwise_lt_inOrder (Listing.nodup_directories (hlists.nodup directory)), ?_, ?_,
      walk_eq_append t ".java" directory⟩
    · intro n
      rw [Listing.mem_ownFiles_iff, hlists.mem_files_iff]
      refine and_congr_left fun _ => ?_
      constructor
      · rintro ⟨hdown, bytes, hfile⟩
        exact .here hdown hfile
      · intro hfile
        cases hfile with
        | here hdown hfile => exact ⟨hdown, _, hfile⟩
        | inside _ _ hrest => exact absurd rfl hrest.ne_nil
    · intro n
      rw [mem_inOrder, hlists.mem_directories_iff, isDirectoryAt_eq_true_iff]

/-- Sources in two directories, listed in no order, with a directory that is named like a source, a
file that is none, and a source that lies elsewhere. -/
def scatteredTree : Tree where
  entries :=
    [(["src", "z"], .directory), (["src", "z", "B.java"], .file "".toUTF8),
      (["src", "b.java"], .directory), (["src", "Main.java"], .file "".toUTF8),
      (["/", "tmp", "X.java"], .file "".toUTF8), (["src", "App.java"], .file "".toUTF8),
      (["src", "b.java", "Inner.java"], .file "".toUTF8), (["src"], .directory),
      (["src", "z", "A.java"], .file "".toUTF8), (["src", "notes.txt"], .file "".toUTF8)]

theorem expand_lists_sources_once_scatteredTree :
    scatteredTree.expand ".java" "src/" =
        ["src/App.java", "src/Main.java", "src/b.java/Inner.java", "src/z/A.java", "src/z/B.java"] ∧
      (scatteredTree.expand ".java" "src/").Nodup ∧
      ∀ list, scatteredTree.Lists list → scatteredTree.expand ".java" "src/" =
        (list.walk ".java" scatteredTree.height ["src"]).map (nameBelow "src/") := by
  have hplain : scatteredTree.PlainNames := by
    have hparts : ∀ e ∈ scatteredTree.entries, ∀ name ∈ e.1, leadsDown name = true →
        name ≠ "" ∧ name ≠ "." ∧ '/' ∉ name.toList := by
      decide +kernel
    intro e he name hname hdown
    obtain ⟨hempty, hdot, hslash⟩ := hparts e he name hname hdown
    exact ⟨hempty, hdot, hslash⟩
  have hfound : scatteredTree.place? (Path.ofString "src/") = .ok ["src"] := by
    decide +kernel
  obtain ⟨hany, -, hnodup, -⟩ := expand_lists_sources_once hplain (by decide) hfound
    (by decide +kernel)
  exact ⟨by decide +kernel, hnodup, hany⟩

end Tree
end Files
end BeanBuilder
