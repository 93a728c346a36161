import Mathlib.Data.List.Nodup
import Mathlib.Data.List.Perm.Subperm
import BeanBuilder.Files.Store
import BeanBuilder.Proofs.Files.Tree
import BeanBuilder.Proofs.OrderedMap
import BeanBuilder.Proofs.Results

/-! # Writes into a directory store

A write either fails or succeeds, whatever stands in the tree and whichever of its steps are
refused.  A write that fails leaves all files as they were: no file is changed, lost or new, so no
temporary file stays behind (`Tree.Extends`).  A write that succeeds differs from that in one place
only, the one to which the path of its name leads (`Tree.Stores`).

The number of a temporary file is looked for among as many numbers as the tree has entries, and one
more; by counting, one of these is free (`find?_freshPlace`).

Directories are never lost, so a path goes on leading to the place where its text was stored.  As
long as no other name leads there, a run of writes therefore ends with the texts that a memory holds
which was given the successful writes alone (`Store.afterAll_writes`).
-/
namespace BeanBuilder
namespace Files

namespace Tree

variable {t t' t'' : Tree} {place temporary : Place} {p target : Path} {trouble : Trouble}

/-! ## Temporary files -/

/-- The digits behind the zeros tell the number. -/
theorem temporaryName_injective {m n : Nat} (h : temporaryName m = temporaryName n) : m = n := by
  have hvalue : ∀ zeros k,
      Nat.ofDigitChars 10 (List.replicate zeros '0' ++ Nat.toDigits 10 k) 0 = k := by
    intro zeros k
    rw [Nat.ofDigitChars_append, Nat.ofDigitChars_replicate_zero, Nat.mul_zero,
      Nat.ofDigitChars_ten_toDigits]
  unfold temporaryName at h
  rw [String.append_left_inj, String.append_right_inj, String.ofList_inj] at h
  rw [← hvalue _ m, h, hvalue]

/-- No directory that is always there has the name of a temporary file. -/
theorem isGiven_temporary (directory : Place) (n : Nat) :
    isGiven (directory ++ [temporaryName n]) = false := by
  have hlong : 2 < (temporaryName n).length := by
    unfold temporaryName
    rw [String.length_append, String.length_append]
    have hstart : ".buildergen-".length = 12 := by decide
    omega
  have hslash : temporaryName n ≠ "/" := by
    intro h
    rw [h] at hlong
    exact absurd hlong (by decide)
  have hdots : temporaryName n ≠ ".." := by
    intro h
    rw [h] at hlong
    exact absurd hlong (by decide)
  simp [isGiven, hdots, List.append_eq_singleton_iff, hslash]

/-- The search for a number ends at one that is free, or it has tried all of them in vain. -/
theorem freshNumber_cases (t : Tree) (directory : Place) (tries n : Nat) :
    t.find? (directory ++ [temporaryName (t.freshNumber directory tries n)]) = none ∨
      t.freshNumber directory tries n = n + tries ∧
        ∀ k, n ≤ k → k < n + tries → (t.find? (directory ++ [temporaryName k])).isSome := by
  induction tries generalizing n with
  | zero => exact Or.inr ⟨rfl, fun k hn hk => absurd hk (by omega)⟩
  | succ tries ih =>
    rw [freshNumber]
    split
    · rename_i htaken
      refine (ih (n + 1)).imp_right ?_
      rintro ⟨hlast, hall⟩
      refine ⟨by omega, fun k hn hk => ?_⟩
      by_cases hfirst : k = n
      · exact hfirst ▸ htaken
      · exact hall k (by omega) (by omega)
    · rename_i hfree
      exact Or.inl (Option.not_isSome_iff_eq_none.mp hfree)

theorem mem_keys_of_find?_temporary {directory : Place} {n : Nat}
    (h : (t.find? (directory ++ [temporaryName n])).isSome) :
    directory ++ [temporaryName n] ∈ t.entries.map Prod.fst := by
  rw [find?, if_neg (by rw [isGiven_temporary]; exact Bool.false_ne_true)] at h
  obtain ⟨entry, hentry⟩ := Option.isSome_iff_exists.mp h
  obtain ⟨before, behind, hentries, -⟩ := List.lookup_eq_some_iff.mp hentry
  rw [hentries]
  simp

/-- **A temporary file is a new one.** -/
theorem find?_freshPlace (t : Tree) (directory : Place) :
    t.find? (t.freshPlace directory) = none := by
  rcases t.freshNumber_cases directory t.entries.length 0 with hfree | ⟨hlast, hall⟩
  · exact hfree
  · by_contra htaken
    -- there would be more places with an entry than entries
    have hplaces : ∀ k, k < t.entries.length + 1 →
        directory ++ [temporaryName k] ∈ t.entries.map Prod.fst := by
      intro k hk
      apply mem_keys_of_find?_temporary
      by_cases hk' : k < t.entries.length
      · exact hall k (Nat.zero_le k) (by omega)
      · have hkey : k = t.freshNumber directory t.entries.length 0 := by omega
        rw [hkey]
        exact Option.isSome_iff_ne_none.mpr htaken
    have hnodup : ((List.range (t.entries.length + 1)).map
        fun k => directory ++ [temporaryName k]).Nodup := by
      refine List.Nodup.map ?_ List.nodup_range
      intro m n h
      exact temporaryName_injective (by simpa using h)
    have hsubset : (List.range (t.entries.length + 1)).map
        (fun k => directory ++ [temporaryName k]) ⊆ t.entries.map Prod.fst := by
      intro place hplace
      obtain ⟨k, hk, rfl⟩ := List.mem_map.mp hplace
      exact hplaces k (List.mem_range.mp hk)
    have hlength := (List.subperm_of_subset hnodup hsubset).length_le
    rw [List.length_map, List.length_map, List.length_range] at hlength
    omega

theorem find?_of_temporaryPlace (h : temporaryPlace trouble t p = .ok temporary) :
    t.find? temporary = none := by
  unfold temporaryPlace at h
  cases htrouble : trouble .makeTemporary with
  | some e =>
    rw [htrouble] at h
    cases h
  | none =>
    rw [htrouble] at h
    obtain ⟨directory, -, h⟩ := except_bind_eq_ok_iff.mp h
    split at h
    · cases h
    · obtain rfl := except_pure_eq_ok_iff.mp h
      exact t.find?_freshPlace directory

/-! ## Trees with the same files -/

/-- A tree with the files of another one, and at least its directories. -/
structure Extends (t t' : Tree) : Prop where
  directories : t.KeepsDirectories t'
  files : ∀ place, t'.fileAt? place = t.fileAt? place

theorem Extends.refl (t : Tree) : t.Extends t :=
  ⟨.refl t, fun _ => rfl⟩

theorem Extends.trans (h : t.Extends t') (h' : t'.Extends t'') : t.Extends t'' :=
  ⟨h.directories.trans h'.directories, fun place => (h'.files place).trans (h.files place)⟩

/-- Where the same stands at every place, nothing has changed. -/
theorem Extends.of_find? (h : ∀ place, t'.find? place = t.find? place) : t.Extends t' := by
  refine ⟨fun place hd => ?_, fun place => fileAt?_congr (h place)⟩
  rw [isDirectoryAt_eq_true_iff, h]
  exact isDirectoryAt_eq_true_iff.mp hd

/-! ## Directories -/

theorem extends_of_makeDirectory (h : t.makeDirectory p = .ok t') : t.Extends t' := by
  obtain ⟨place, -, h⟩ := except_bind_eq_ok_iff.mp h
  cases hfind : t.find? place with
  | some entry =>
    rw [hfind] at h
    cases h
  | none =>
    rw [hfind] at h
    obtain rfl := except_pure_eq_ok_iff.mp h
    have hgiven := isGiven_eq_false_of_find?_eq_none hfind
    have hdirectory : t.isDirectoryAt place = false := by rw [isDirectoryAt, hfind]
    refine ⟨.put hdirectory .directory, fun other => ?_⟩
    by_cases ho : other = place
    -- nothing stood at the place, so there was no file either
    · rw [fileAt?, fileAt?, find?_put hgiven, if_pos ho, ho, hfind]
    · apply fileAt?_congr
      rw [find?_put hgiven, if_neg ho]

theorem extends_of_tryDirectory {again : Bool} (h : tryDirectory trouble t p again = .ok t') :
    t.Extends t' := by
  rw [tryDirectory] at h
  split at h
  · cases h
  · exact extends_of_makeDirectory h

theorem extends_settleDirectory {attempt : Except OsError Tree}
    (h : ∀ t', attempt = .ok t' → t.Extends t') : t.Extends (settleDirectory t p attempt).2 := by
  cases attempt with
  | ok t' => exact h t' rfl
  | error e =>
    simp only [settleDirectory]
    split
    · exact .refl t
    · exact .refl t

/-- **Making directories leaves the files alone**, also where it fails halfway. -/
theorem extends_makeDirectories (trouble : Trouble) (t : Tree) (levels : Nat) (p : Path) :
    t.Extends (makeDirectories trouble t levels p).2 := by
  induction levels generalizing t p with
  | zero => exact extends_settleDirectory fun _ => extends_of_tryDirectory
  | succ levels ih =>
    rw [makeDirectories]
    split
    · split
      · exact .refl t
      · have habove := ih t p.parent
        split
        · rename_i hmade
          rw [hmade] at habove
          exact habove
        · rename_i hmade
          rw [hmade] at habove
          exact habove.trans (extends_settleDirectory fun _ => extends_of_tryDirectory)
    · exact extends_settleDirectory fun _ => extends_of_tryDirectory

/-! ## Files -/

/-- A tree in which a path leads to a file with some bytes.  All other files are those of another
tree, and all directories of that tree are still there. -/
structure Stores (t : Tree) (target : Path) (bytes : ByteArray) (t' : Tree) : Prop where
  directories : t.KeepsDirectories t'
  file : ∃ place, t'.place? target = .ok place ∧ t'.fileAt? place = some bytes ∧
    ∀ other, other ≠ place → t'.fileAt? other = t.fileAt? other

theorem Extends.stores {bytes : ByteArray} (h : t.Extends t') (h' : t'.Stores target bytes t'') :
    t.Stores target bytes t'' := by
  obtain ⟨place, hplace, hbytes, hothers⟩ := h'.file
  refine ⟨h.directories.trans h'.directories, place, hplace, hbytes, fun other ho => ?_⟩
  rw [hothers other ho, h.files]

section Temporary

variable (hfresh : t.find? temporary = none) {entry : Entry}
include hfresh

/-- A new entry that is removed again leaves no trace. -/
theorem find?_remove_of_put {filled : Tree}
    (hfilled : ∀ other, filled.find? other = (t.put temporary entry).find? other) (other : Place) :
    (filled.remove temporary).find? other = t.find? other := by
  have hgiven := isGiven_eq_false_of_find?_eq_none hfresh
  rw [find?_remove hgiven, hfilled, find?_put hgiven]
  by_cases ho : other = temporary
  · rw [if_pos ho, ho, hfresh]
  · rw [if_neg ho, if_neg ho]

/-- Filling a new entry is putting it there with its bytes. -/
theorem find?_put_put (first : Entry) (other : Place) :
    ((t.put temporary first).put temporary entry).find? other =
      (t.put temporary entry).find? other := by
  have hgiven := isGiven_eq_false_of_find?_eq_none hfresh
  rw [find?_put hgiven, find?_put hgiven, find?_put hgiven]
  by_cases ho : other = temporary
  · rw [if_pos ho, if_pos ho]
  · rw [if_neg ho, if_neg ho, if_neg ho]

/-- A new file is no directory, so following a path does not pass it. -/
theorem keepsDirectories_of_filled {filled : Tree} {bytes : ByteArray}
    (hfilled : ∀ other, filled.find? other = (t.put temporary (.file bytes)).find? other) :
    filled.KeepsDirectories t := by
  have hgiven := isGiven_eq_false_of_find?_eq_none hfresh
  intro other ho
  rw [isDirectoryAt_eq_true_iff, hfilled, find?_put hgiven] at ho
  by_cases heq : other = temporary
  · rw [if_pos heq] at ho
    cases ho
  · rw [if_neg heq] at ho
    exact isDirectoryAt_eq_true_iff.mpr ho

end Temporary

/-- No file is moved onto a directory, or to a path that ends in two dots. -/
theorem of_placeToReplace (h : placeToReplace trouble t target = .ok place) :
    target.name ≠ ".." ∧ t.place? target = .ok place ∧ t.isDirectoryAt place = false := by
  unfold placeToReplace at h
  cases htrouble : trouble .replace with
  | some e =>
    rw [htrouble] at h
    cases h
  | none =>
    rw [htrouble] at h
    split at h
    · cases h
    · rename_i hname
      obtain ⟨found, hfound, h⟩ := except_bind_eq_ok_iff.mp h
      split at h
      · cases h
      · rename_i hdirectory
        obtain rfl := except_pure_eq_ok_iff.mp h
        exact ⟨fun heq => hname (Or.inr heq), hfound, Bool.eq_false_iff.mpr hdirectory⟩

/-- Once the temporary file is filled, the replacement stores its bytes at the target. -/
theorem stores_of_filled {filled : Tree} {bytes : ByteArray} (hfresh : t.find? temporary = none)
    (hfilled : ∀ other, filled.find? other = (t.put temporary (.file bytes)).find? other)
    (h : placeToReplace trouble filled target = .ok place) :
    t.Stores target bytes ((filled.remove temporary).put place (.file bytes)) := by
  obtain ⟨-, hplace, hfree⟩ := of_placeToReplace h
  have hnone : t.isDirectoryAt temporary = false := by rw [isDirectoryAt, hfresh]
  have hforth : t.KeepsDirectories filled :=
    (KeepsDirectories.put hnone _).trans (Extends.of_find? hfilled).directories
  have hback := keepsDirectories_of_filled hfresh hfilled
  have hfree' : t.isDirectoryAt place = false := by
    rw [Bool.eq_false_iff] at hfree ⊢
    exact fun hd => hfree (hforth place hd)
  have hgiven' := isGiven_eq_false_of_isDirectoryAt hfree'
  have hlast : ∀ other, ((filled.remove temporary).put place (.file bytes)).find? other =
      if other = place then some (.file bytes) else t.find? other := by
    intro other
    rw [find?_put hgiven', find?_remove_of_put hfresh hfilled]
  have hkept : t.KeepsDirectories ((filled.remove temporary).put place (.file bytes)) := by
    have hsame : (t.put place (.file bytes)).Extends
        ((filled.remove temporary).put place (.file bytes)) :=
      .of_find? fun other => by rw [hlast, find?_put hgiven']
    exact (KeepsDirectories.put hfree' (.file bytes)).trans hsame.directories
  refine ⟨hkept, place, place?_of_keepsDirectories (hback.trans hkept) hplace, ?_, ?_⟩
  · rw [fileAt?_eq_some_iff, hlast, if_pos rfl]
  · intro other ho
    apply fileAt?_congr
    rw [hlast, if_neg ho]

/-- **Replacing a file changes nothing when it fails**, and otherwise the target alone. -/
theorem replaceFile_cases (trouble : Trouble) (t : Tree) (target : Path) (bytes : ByteArray) :
    (∃ e t', replaceFile trouble t target bytes = (.error e, t') ∧ t.Extends t') ∨
      ∃ t', replaceFile trouble t target bytes = (.ok (), t') ∧ t.Stores target bytes t' := by
  unfold replaceFile
  cases htemporary : temporaryPlace trouble t target.parent with
  | error e => exact Or.inl ⟨_, t, rfl, .refl t⟩
  | ok temporary =>
    have hfresh := find?_of_temporaryPlace htemporary
    cases hfill : trouble .fill with
    | some e => exact Or.inl ⟨_, _, rfl, .of_find? (find?_remove_of_put hfresh fun _ => rfl)⟩
    | none =>
      simp only
      -- the tree in which the temporary file has its bytes
      have hfilled : ∀ other, _ = (t.put temporary (.file bytes)).find? other :=
        find?_put_put hfresh (.file ByteArray.empty)
      generalize (t.put temporary (.file ByteArray.empty)).put temporary (.file bytes) = filled
        at hfilled
      cases hplace : placeToReplace trouble filled target with
      | error e => exact Or.inl ⟨_, _, rfl, .of_find? (find?_remove_of_put hfresh hfilled)⟩
      | ok place => exact Or.inr ⟨_, rfl, stores_of_filled hfresh hfilled hplace⟩

end Tree

/-! ## Writes -/

namespace Store

variable {s : Store} {t : Tree}

/-- **A write that fails leaves all files alone**, and one that succeeds stores its text where the
path of its name leads and leaves all other files alone. -/
theorem write_cases (s : Store) (trouble : Trouble) (qualifiedName text : String) (t : Tree) :
    (∃ e t', s.write trouble qualifiedName text t = (.error e, t') ∧
      e.qualifiedName = qualifiedName ∧ t.Extends t') ∨
    ∃ t', s.write trouble qualifiedName text t = (.ok (), t') ∧
      t.Stores (s.pathFor qualifiedName) text.toUTF8 t' := by
  have hmade := Tree.extends_makeDirectories trouble t (s.pathFor qualifiedName).parent.parts.length
    (s.pathFor qualifiedName).parent
  simp only [write]
  split
  · rename_i hfault
    rw [hfault] at hmade
    exact Or.inl ⟨_, _, rfl, rfl, hmade⟩
  · rename_i t₁ hdirectory
    rw [hdirectory] at hmade
    rcases Tree.replaceFile_cases trouble t₁ (s.pathFor qualifiedName) text.toUTF8 with
      ⟨e, t', hreplace, hextends⟩ | ⟨t', hreplace, hstores⟩
    · rw [hreplace]
      exact Or.inl ⟨_, t', rfl, rfl, hmade.trans hextends⟩
    · rw [hreplace]
      exact Or.inr ⟨t', rfl, hmade.stores hstores⟩

/-- A text to be stored under a name, and the steps that the file system refuses meanwhile. -/
structure Request where
  qualifiedName : String
  text : String
  trouble : Trouble := noTrouble

/-- What a write comes to. -/
def answer (s : Store) (t : Tree) (r : Request) : Except WriteFailure Unit :=
  (s.write r.trouble r.qualifiedName r.text t).1

/-- The tree after a write, also after one that fails. -/
def after (s : Store) (t : Tree) (r : Request) : Tree :=
  (s.write r.trouble r.qualifiedName r.text t).2

/-- The tree after writes. -/
def afterAll (s : Store) (t : Tree) (requests : List Request) : Tree :=
  requests.foldl s.after t

/-- The writes of a run that succeed. -/
def stored (s : Store) : Tree → List Request → List Request
  | _, [] => []
  | t, r :: rest =>
    match s.answer t r with
    | .ok () => r :: s.stored (s.after t r) rest
    | .error _ => s.stored (s.after t r) rest

/-- What a memory holds that is given some writes. -/
def remembered (requests : List Request) (kept : OrderedMap String String := {}) :
    OrderedMap String String :=
  requests.foldl (fun kept r => (Destination.memory.write r.qualifiedName r.text kept).2) kept

/-- What one write does to the files: it fails, names the type and leaves them all alone, or it
stores its text and leaves all others alone. -/
def Settles (s : Store) (t : Tree) (r : Request) : Prop :=
  (∃ e, s.answer t r = .error e ∧ e.qualifiedName = r.qualifiedName ∧ t.Extends (s.after t r)) ∨
    s.answer t r = .ok () ∧ t.Stores (s.pathFor r.qualifiedName) r.text.toUTF8 (s.after t r)

theorem settles (s : Store) (t : Tree) (r : Request) : s.Settles t r := by
  have hcases := s.write_cases r.trouble r.qualifiedName r.text t
  unfold Settles answer after
  rcases hcases with ⟨e, t', hwrite, hname, hextends⟩ | ⟨t', hwrite, hstores⟩
  · rw [hwrite]
    exact Or.inl ⟨e, rfl, hname, hextends⟩
  · rw [hwrite]
    exact Or.inr ⟨rfl, hstores⟩

theorem afterAll_cons (s : Store) (t : Tree) (r : Request) (rest : List Request) :
    s.afterAll t (r :: rest) = s.afterAll (s.after t r) rest :=
  List.foldl_cons ..

theorem stored_of_error {r : Request} {e : WriteFailure} (h : s.answer t r = .error e)
    (rest : List Request) : s.stored t (r :: rest) = s.stored (s.after t r) rest := by
  rw [stored, h]

theorem stored_of_ok {r : Request} (h : s.answer t r = .ok ()) (rest : List Request) :
    s.stored t (r :: rest) = r :: s.stored (s.after t r) rest := by
  rw [stored, h]

theorem stored_cons (s : Store) (t : Tree) (r : Request) (rest : List Request) :
    s.stored t (r :: rest) = s.stored t [r] ++ s.stored (s.after t r) rest := by
  rcases s.settles t r with ⟨e, hanswer, -, -⟩ | ⟨hanswer, -⟩
  · rw [stored_of_error hanswer, stored_of_error hanswer]
    rfl
  · rw [stored_of_ok hanswer, stored_of_ok hanswer]
    rfl

/-! ## Runs of writes -/

theorem Settles.keepsDirectories {r : Request} (h : s.Settles t r) :
    t.KeepsDirectories (s.after t r) := by
  rcases h with ⟨e, -, -, hextends⟩ | ⟨-, hstores⟩
  · exact hextends.directories
  · exact hstores.directories

theorem keepsDirectories_afterAll (s : Store) (t : Tree) (requests : List Request) :
    t.KeepsDirectories (s.afterAll t requests) := by
  induction requests generalizing t with
  | nil => exact .refl t
  | cons r rest ih =>
    rw [afterAll_cons]
    exact (s.settles t r).keepsDirectories.trans (ih (s.after t r))

/-- A tree holds every text of a memory in the file to which the path of its name leads. -/
def Holds (s : Store) (t : Tree) (kept : OrderedMap String String) : Prop :=
  ∀ name text, kept.get? name = some text →
    ∃ place, t.place? (s.pathFor name) = .ok place ∧ t.fileAt? place = some text.toUTF8

/-- The paths of different names among some lead to different places. -/
def Apart (s : Store) (t : Tree) (names : List String) : Prop :=
  ∀ n ∈ names, ∀ n' ∈ names, n ≠ n' → t.place? (s.pathFor n) ≠ t.place? (s.pathFor n')

instance (s : Store) (t : Tree) (names : List String) : Decidable (s.Apart t names) :=
  inferInstanceAs (Decidable (∀ n ∈ names, ∀ n' ∈ names, n ≠ n' → _ ≠ _))

theorem holds_empty {t : Tree} : s.Holds t {} := by
  intro name text hkept
  cases hkept

/-- A write that fails leaves what a tree holds. -/
theorem Holds.of_extends {t' : Tree} {kept : OrderedMap String String} (h : s.Holds t kept)
    (hextends : t.Extends t') : s.Holds t' kept := by
  intro name text hkept
  obtain ⟨place, hplace, hbytes⟩ := h name text hkept
  refine ⟨place, Tree.place?_of_keepsDirectories hextends.directories hplace, ?_⟩
  rw [hextends.files, hbytes]

/-- A text that is stored replaces that of its own name, and no other one as long as no other path
leads to its place. -/
theorem Holds.of_stores {t' : Tree} {kept : OrderedMap String String} {name text : String}
    (h : s.Holds t kept) (hstores : t.Stores (s.pathFor name) text.toUTF8 t')
    (hapart : ∀ n ∈ kept.keys, n ≠ name → t'.place? (s.pathFor n) ≠ t'.place? (s.pathFor name)) :
    s.Holds t' (kept.insert name text) := by
  obtain ⟨place, hplace, hbytes, hothers⟩ := hstores.file
  intro n x hkept
  rw [OrderedMap.get?_insert] at hkept
  by_cases hn : n = name
  · rw [if_pos hn] at hkept
    obtain rfl := Option.some.inj hkept
    exact ⟨place, hn ▸ hplace, hbytes⟩
  · rw [if_neg hn] at hkept
    obtain ⟨other, hother, hx⟩ := h n x hkept
    have hother' := Tree.place?_of_keepsDirectories hstores.directories hother
    have hne : other ≠ place := by
      rintro rfl
      have hkey : n ∈ kept.keys := OrderedMap.isSome_get?_iff.mp (by rw [hkept]; rfl)
      exact hapart n hkey hn (hother'.trans hplace.symm)
    refine ⟨other, hother', ?_⟩
    rw [hothers other hne, hx]

theorem holds_afterAll {kept : OrderedMap String String} {names : List String}
    {requests : List Request} (h : s.Holds t kept) (hkept : kept.keys ⊆ names)
    (hnames : (s.stored t requests).map Request.qualifiedName ⊆ names)
    (hapart : s.Apart (s.afterAll t requests) names) :
    s.Holds (s.afterAll t requests) (remembered (s.stored t requests) kept) := by
  induction requests generalizing t kept with
  | nil => exact h
  | cons r rest ih =>
    rw [afterAll_cons] at hapart ⊢
    rcases s.settles t r with ⟨e, hanswer, -, hextends⟩ | ⟨hanswer, hstores⟩
    · rw [stored_of_error hanswer] at hnames ⊢
      exact ih (h.of_extends hextends) hkept hnames hapart
    · rw [stored_of_ok hanswer] at hnames ⊢
      rw [List.map_cons, List.cons_subset] at hnames
      have hkeys : (kept.insert r.qualifiedName r.text).keys ⊆ names := by
        intro n hn
        rcases OrderedMap.mem_keys_insert.mp hn with rfl | hold
        · exact hnames.1
        · exact hkept hold
      refine ih (h.of_stores hstores fun n hn hne heq => ?_) hkeys hnames.2 hapart
      -- the two paths would lead to one place at the end, too
      obtain ⟨place, hplace, -, -⟩ := hstores.file
      have hlast := s.keepsDirectories_afterAll (s.after t r) rest
      have hn' := Tree.place?_of_keepsDirectories hlast (heq.trans hplace)
      have hr' := Tree.place?_of_keepsDirectories hlast hplace
      exact hapart n (hkept hn) r.qualifiedName hnames.1 hne (hn'.trans hr'.symm)

theorem mem_keys_remembered {requests : List Request} {kept : OrderedMap String String}
    {name : String} (h : name ∈ kept.keys ∨ name ∈ requests.map Request.qualifiedName) :
    name ∈ (remembered requests kept).keys := by
  induction requests generalizing kept with
  | nil => exact h.resolve_right List.not_mem_nil
  | cons r rest ih =>
    refine ih ?_
    have hkeys := OrderedMap.keys_insert kept r.qualifiedName r.text
    rw [List.map_cons, List.mem_cons] at h
    rcases h with hold | rfl | hrest
    · exact Or.inl (OrderedMap.mem_keys_insert.mpr (Or.inr hold))
    · exact Or.inl (OrderedMap.mem_keys_insert.mpr (Or.inl rfl))
    · exact Or.inr hrest

/-- A memory is the map made of the texts by their names. -/
theorem remembered_eq_ofList (requests : List Request) :
    remembered requests =
      OrderedMap.ofList (requests.map fun r => (r.qualifiedName, r.text)) := by
  rw [remembered, OrderedMap.ofList, List.foldl_map]
  rfl

/-- A memory that is given each name once holds all texts. -/
theorem get?_remembered {requests : List Request} {r : Request}
    (hn : (requests.map Request.qualifiedName).Nodup) (hr : r ∈ requests) :
    (remembered requests).get? r.qualifiedName = some r.text := by
  have hmem : (r.qualifiedName, r.text) ∈
      (OrderedMap.ofList (requests.map fun r => (r.qualifiedName, r.text))).toList := by
    rw [OrderedMap.toList_ofList_of_nodup (by rwa [List.map_map])]
    exact List.mem_map_of_mem hr
  rw [remembered_eq_ofList]
  exact OrderedMap.get?_eq_some_of_mem (OrderedMap.nodup_keys_ofList _) hmem

/-- A memory holds the text that it is given last under a name. -/
theorem get?_remembered_of_last {front behind : List Request} {r : Request}
    (h : ∀ r' ∈ behind, r'.qualifiedName ≠ r.qualifiedName) :
    (remembered (front ++ r :: behind)).get? r.qualifiedName = some r.text := by
  rw [remembered_eq_ofList, OrderedMap.get?_ofList_eq_some_iff]
  refine ⟨front.map fun r => (r.qualifiedName, r.text),
    behind.map fun r => (r.qualifiedName, r.text), ?_, List.forall_mem_map.mpr h⟩
  rw [List.map_append, List.map_cons]

/-- **What writes leave behind**, from any tree on and with any steps refused.  Each write either
fails, names the type and leaves every file as it was, or it stores its text and leaves every other
file as it was.  After all of them every name that was stored once has the text that a memory holds
for it which was given the successful writes alone, as long as the paths of different names lead to
different files. -/
theorem afterAll_writes (s : Store) :
    (∀ t r, s.Settles t r) ∧
    ∀ (t : Tree) (requests : List Request),
      s.Apart (s.afterAll t requests) ((s.stored t requests).map Request.qualifiedName) →
        (∀ r ∈ s.stored t requests,
          ((remembered (s.stored t requests)).get? r.qualifiedName).isSome) ∧
        s.Holds (s.afterAll t requests) (remembered (s.stored t requests)) := by
  refine ⟨s.settles, fun t requests hapart => ⟨fun r hr => ?_, ?_⟩⟩
  · have hkey : r.qualifiedName ∈ (remembered (s.stored t requests)).keys :=
      mem_keys_remembered (Or.inr (List.mem_map_of_mem hr))
    exact OrderedMap.isSome_get?_iff.mpr hkey
  · exact holds_afterAll s.holds_empty (List.nil_subset _) (List.Subset.refl _) hapart

/-- A tree in which a file stands where a package would be. -/
def blockedTree : Tree where
  entries := [(["out"], .directory), (["out", "p"], .file ByteArray.empty)]

/-- Writes of which three fail: the disk is full, a file is in the way, and the last step is
refused. -/
def troubledRequests : List Request :=
  [{ qualifiedName := "a.B", text := "first" },
    { qualifiedName := "a.B", text := "second",
      trouble := fun step => if step = .fill then some .noSpace else none },
    { qualifiedName := "p.C", text := "third" },
    { qualifiedName := "a.D", text := "fourth",
      trouble := fun step => if step = .replace then some .accessDenied else none },
    { qualifiedName := "a.D", text := "fifth" }]

theorem afterAll_writes_troubledRequests :
    let s : Store := { directory := "out" }
    s.Apart (s.afterAll blockedTree troubledRequests) ["a.B", "a.D"] ∧
      s.Holds (s.afterAll blockedTree troubledRequests) ⟨[("a.B", "first"), ("a.D", "fifth")]⟩ := by
  intro s
  have hnames : (s.stored blockedTree troubledRequests).map Request.qualifiedName =
      ["a.B", "a.D"] := by
    decide +kernel
  have hkept : remembered (s.stored blockedTree troubledRequests) =
      ⟨[("a.B", "first"), ("a.D", "fifth")]⟩ := by
    decide +kernel
  have hapart : s.Apart (s.afterAll blockedTree troubledRequests) ["a.B", "a.D"] := by
    decide +kernel
  have hall := s.afterAll_writes.2 blockedTree troubledRequests (hnames ▸ hapart)
  exact ⟨hapart, hkept ▸ hall.2⟩

end Store
end Files
end BeanBuilder
