import BeanBuilder.Proofs.Files.Layout

/-! # Files below the output directory

A qualified name can be laid out when each of its segments can be the name of a directory: none is
empty or has a slash or NUL in it (`CanBeLaidOut`).  Segments have no dots, so none of them is one
of the special names `.` and `..`, and the ending behind the last one does not make it special
(`isPart_of_mem_segments`).  So the path for the name is that of the output directory with one part
for each segment (`pathFor_eq_append`), and it tells the name (`eq_of_segments_eq`).

A file that writes change is one to which the path of a stored name leads
(`exists_stored_of_changed`).  It lies below the output directory, and no other name leads there:
writes keep to the output directory and out of each other's files
(`lays_out_below_directory`).
-/
namespace BeanBuilder
namespace Files

/-! ## Texts of paths -/

namespace Path

variable {p : Path} {names : List String}

/-- A path is no longer than one that goes on from it. -/
theorem utf8ByteSize_text_le (p : Path) (hnames : ∀ name ∈ names, IsPart name) :
    p.text.utf8ByteSize ≤ ({ p with parts := p.parts ++ names } : Path).text.utf8ByteSize := by
  obtain ⟨root, parts⟩ := p
  by_cases hnone : names = []
  · exact Nat.le_of_eq (by rw [hnone, List.append_nil])
  · have hlong : ¬(root = "" ∧ parts ++ names = []) := by simp [hnone]
    simp only [text, if_neg hlong]
    by_cases hparts : parts = []
    · -- the working directory itself is one dot, and the names are not empty
      have hsome : (Text.joinStrings "/" names).utf8ByteSize ≠ 0 := by
        rw [ne_eq, String.utf8ByteSize_eq_zero_iff]
        intro hempty
        have hread := namesOf_joinStrings hnames
        rw [hempty] at hread
        exact hnone hread.symm
      have hdot : ".".utf8ByteSize = 1 := rfl
      rw [hparts, List.nil_append, Text.joinStrings, String.append_empty,
        String.utf8ByteSize_append]
      split_ifs <;> omega
    · rw [if_neg (by simp [hparts]), Text.joinStrings_append "/" hparts hnone]
      simp only [String.utf8ByteSize_append]
      omega

end Path

/-- **A place behind a path lies below the place of the path**, unless two dots lead back. -/
theorem Tree.exists_place?_append {t : Tree} {p : Path} {names : List String} {place : Place}
    (hnames : ∀ name ∈ names, Path.IsPart name) (hdots : ".." ∉ names)
    (hplace : t.place? { p with parts := p.parts ++ names } = .ok place) :
    ∃ below, t.place? p = .ok below ∧ place = below ++ names := by
  obtain ⟨below, hfollow, happend⟩ := exists_of_place? hdots hplace
  have hle := p.utf8ByteSize_text_le hnames
  rw [place?] at hplace ⊢
  split at hplace
  · cases hplace
  · rw [if_neg (by omega), hfollow]
    exact ⟨below, rfl, happend⟩

/-! ## Names that can be laid out -/

/-- A text that can be a part of the name of a file: without slashes and NUL. -/
def FitsFileName (text : String) : Prop :=
  '/' ∉ text.toList ∧ '\x00' ∉ text.toList

instance : DecidablePred FitsFileName := fun _ => inferInstanceAs (Decidable (_ ∧ _))

/-- A qualified name whose segments can all be names of files. -/
def CanBeLaidOut (name : String) : Prop :=
  ∀ segment ∈ Text.cutString '.' name, segment ≠ "" ∧ FitsFileName segment

instance : DecidablePred CanBeLaidOut := fun name =>
  List.decidableBAll (fun segment => segment ≠ "" ∧ FitsFileName segment) (Text.cutString '.' name)

namespace Store

variable {s : Store} {t : Tree} {name name' : String} {requests : List Request} {place : Place}

/-- The segments of a name, the last one with the ending of the files behind it. -/
theorem exists_segments_eq (s : Store) (name : String) :
    ∃ front last, Text.cutString '.' name = front ++ [last] ∧
      s.segments name = front ++ [last ++ s.extension] := by
  obtain ⟨front, piece, hcut⟩ := exists_cutAt_eq name.toList
  refine ⟨front.map String.ofList, String.ofList piece, ?_, segments_eq hcut⟩
  rw [Text.cutString, hcut, List.map_append, List.map_singleton]

theorem isWord_of_mem_cutString (hname : CanBeLaidOut name) {segment : String}
    (h : segment ∈ Text.cutString '.' name) : IsWord segment := by
  obtain ⟨hempty, hslash, -⟩ := hname segment h
  refine ⟨hempty, ?_, hslash⟩
  obtain ⟨piece, hpiece, rfl⟩ := List.mem_map.mp h
  rw [String.toList_ofList]
  exact Text.not_mem_of_mem_cutAt hpiece

/-- A word does not become special, whatever stands behind it. -/
theorem isPart_append {word ending : String} (h : IsWord word) (hending : '/' ∉ ending.toList) :
    Path.IsPart (word ++ ending) ∧ word ++ ending ≠ ".." := by
  obtain ⟨c, more, hchars⟩ := List.exists_cons_of_ne_nil h.toList_ne_nil
  have hdot : c ≠ '.' := by
    rintro rfl
    exact h.no_dot (hchars ▸ List.mem_cons_self)
  have hhead : ∀ text : String, word ++ ending = text → text.toList.head? = some c := by
    rintro _ rfl
    rw [String.toList_append, hchars, List.cons_append, List.head?_cons]
  refine ⟨⟨fun hempty => ?_, fun hone => ?_, ?_⟩, fun htwo => ?_⟩
  · exact nomatch hhead _ hempty
  · exact hdot (Option.some.inj (hhead _ hone)).symm
  · rw [String.toList_append, List.mem_append, not_or]
    exact ⟨h.no_slash, hending⟩
  · exact hdot (Option.some.inj (hhead _ htwo)).symm

/-- **No segment of a name is special**, also with the ending of the files behind it. -/
theorem isPart_of_mem_segments (hextension : FitsFileName s.extension) (hname : CanBeLaidOut name)
    {part : String} (h : part ∈ s.segments name) : Path.IsPart part ∧ part ≠ ".." := by
  obtain ⟨front, last, hcut, hsegments⟩ := s.exists_segments_eq name
  have hwords : ∀ segment ∈ front ++ [last], IsWord segment := fun segment hsegment =>
    isWord_of_mem_cutString hname (hcut ▸ hsegment)
  rw [hsegments] at h
  rcases List.mem_append.mp h with hfront | hlast
  · have hpart := isPart_append (hwords part (List.mem_append_left _ hfront))
      (show '/' ∉ "".toList by decide)
    rwa [String.append_empty] at hpart
  · rw [List.mem_singleton.mp hlast]
    exact isPart_append (hwords last (List.mem_append_right _ (List.mem_singleton_self last)))
      hextension.1

/-- **The path for a name** is that of the output directory with one part for each segment. -/
theorem pathFor_eq_append (hextension : FitsFileName s.extension) (hname : CanBeLaidOut name) :
    s.pathFor name =
      { Path.ofString s.directory with
        parts := (Path.ofString s.directory).parts ++ s.segments name } := by
  have hparts : ∀ segment ∈ s.segments name, Path.IsPart segment := fun segment hsegment =>
    (isPart_of_mem_segments hextension hname hsegment).1
  have hnames : ((s.segments name).flatMap fun segment => Path.namesOf segment.toList) =
      s.segments name := by
    rw [List.flatMap_congr fun segment hsegment => (hparts segment hsegment).namesOf]
    exact List.flatMap_singleton' _
  rw [pathFor, Path.foldl_join, hnames]
  intro segment hsegment hslash
  exact (hparts segment hsegment).no_slash (List.mem_of_head? hslash)

/-- The segments tell the name. -/
theorem eq_of_segments_eq (h : s.segments name = s.segments name') : name = name' := by
  obtain ⟨front, last, hcut, hsegments⟩ := s.exists_segments_eq name
  obtain ⟨front', last', hcut', hsegments'⟩ := s.exists_segments_eq name'
  rw [hsegments, hsegments'] at h
  obtain ⟨rfl, hlast⟩ := List.append_inj' h rfl
  obtain rfl := (String.append_left_inj s.extension).mp (List.cons.inj hlast).1
  rw [← Text.joinStrings_cutString '.' name, ← Text.joinStrings_cutString '.' name', hcut, hcut']

theorem proper_pathFor (hextension : FitsFileName s.extension) (hname : CanBeLaidOut name) :
    (s.pathFor name).Proper := by
  have hdirectory := Path.proper_ofString s.directory
  rw [pathFor_eq_append hextension hname]
  refine ⟨hdirectory.root, fun part hpart => ?_⟩
  rcases List.mem_append.mp hpart with hfront | hsegment
  · exact hdirectory.parts part hfront
  · exact (isPart_of_mem_segments hextension hname hsegment).1

theorem eq_of_text_pathFor_eq (hextension : FitsFileName s.extension) (hname : CanBeLaidOut name)
    (hname' : CanBeLaidOut name') (h : (s.pathFor name).text = (s.pathFor name').text) :
    name = name' := by
  have hpath : s.pathFor name = s.pathFor name' := by
    rw [← (proper_pathFor hextension hname).ofString_text, h,
      (proper_pathFor hextension hname').ofString_text]
  rw [pathFor_eq_append hextension hname, pathFor_eq_append hextension hname', Path.mk.injEq,
    List.append_cancel_left_eq] at hpath
  exact eq_of_segments_eq hpath.2

/-! ## Places -/

/-- The path for a name leads below the output directory, segment by segment. -/
theorem exists_place?_directory (hextension : FitsFileName s.extension) (hname : CanBeLaidOut name)
    (hplace : t.place? (s.pathFor name) = .ok place) :
    ∃ below, t.place? (Path.ofString s.directory) = .ok below ∧
      place = below ++ s.segments name := by
  have hparts : ∀ part ∈ s.segments name, Path.IsPart part ∧ part ≠ ".." :=
    fun _ => isPart_of_mem_segments hextension hname
  rw [pathFor_eq_append hextension hname] at hplace
  exact Tree.exists_place?_append (fun part hpart => (hparts part hpart).1)
    (fun hdots => (hparts ".." hdots).2 rfl) hplace

/-- **The paths for different names lead to different places** in any tree. -/
theorem eq_of_place?_pathFor_eq (hextension : FitsFileName s.extension) (hname : CanBeLaidOut name)
    (hname' : CanBeLaidOut name') (hplace : t.place? (s.pathFor name) = .ok place)
    (hplace' : t.place? (s.pathFor name') = .ok place) : name = name' := by
  obtain ⟨below, hbelow, hsegments⟩ := exists_place?_directory hextension hname hplace
  obtain ⟨below', hbelow', hsegments'⟩ := exists_place?_directory hextension hname' hplace'
  obtain rfl := Except.ok.inj (hbelow.symm.trans hbelow')
  exact eq_of_segments_eq (List.append_cancel_left (hsegments.symm.trans hsegments'))

/-! ## Writes -/

/-- A write changes at most the file to which the path of its name leads. -/
theorem place?_of_changed {r : Request}
    (h : (s.after t r).fileAt? place ≠ t.fileAt? place) :
    s.answer t r = .ok () ∧ (s.after t r).place? (s.pathFor r.qualifiedName) = .ok place := by
  rcases s.settles t r with ⟨e, -, -, hextends⟩ | ⟨hanswer, hstores⟩
  · exact absurd (hextends.files place) h
  · obtain ⟨target, htarget, -, hothers⟩ := hstores.file
    by_cases hsame : place = target
    · exact ⟨hanswer, hsame ▸ htarget⟩
    · exact absurd (hothers place hsame) h

/-- **Every file that writes change is that of a stored name.** -/
theorem exists_stored_of_changed
    (h : (s.afterAll t requests).fileAt? place ≠ t.fileAt? place) :
    ∃ r ∈ s.stored t requests,
      (s.afterAll t requests).place? (s.pathFor r.qualifiedName) = .ok place := by
  induction requests generalizing t with
  | nil => exact absurd rfl h
  | cons first rest ih =>
    rw [afterAll_cons] at h ⊢
    rw [stored_cons]
    by_cases hrest : (s.afterAll (s.after t first) rest).fileAt? place =
        (s.after t first).fileAt? place
    · -- then the first write has changed it, and its path goes on leading there
      rw [hrest] at h
      obtain ⟨hanswer, hplace⟩ := place?_of_changed h
      have hkept := s.keepsDirectories_afterAll (s.after t first) rest
      refine ⟨first, ?_, Tree.place?_of_keepsDirectories hkept hplace⟩
      rw [stored_of_ok hanswer]
      exact List.mem_append_left _ List.mem_cons_self
    · obtain ⟨r, hr, hplace⟩ := ih hrest
      exact ⟨r, List.mem_append_right _ hr, hplace⟩

/-- **Files are laid out below the output directory**, each name on its own.  Take any output
directory and any ending of files without slashes and NUL, and names whose segments between dots are
not empty and have no slashes and NUL either.

The path for a name is that of the output directory with one part for each segment, the last one
with the ending behind it, and no part is empty, a dot or two dots.  Different names have different
paths, and these lead to different places in every tree.

After any writes under such names, from any tree on and with any steps refused, every file that has
changed is that of a stored name, and it lies below the output directory.  The text that was stored
last under a name is in the file of that name. -/
theorem lays_out_below_directory (hextension : FitsFileName s.extension) :
    (∀ name, CanBeLaidOut name → ∃ front last,
      Text.cutString '.' name = front ++ [last] ∧
      s.pathFor name =
        { Path.ofString s.directory with
          parts := (Path.ofString s.directory).parts ++ (front ++ [last ++ s.extension]) } ∧
      ∀ part ∈ front ++ [last ++ s.extension], Path.IsPart part ∧ part ≠ "..") ∧
    (∀ name name', CanBeLaidOut name → CanBeLaidOut name' → name ≠ name' →
      s.pathFor name ≠ s.pathFor name' ∧ (s.pathFor name).text ≠ (s.pathFor name').text ∧
      ∀ (t : Tree) (place : Place), t.place? (s.pathFor name) = .ok place →
        t.place? (s.pathFor name') ≠ .ok place) ∧
    (∀ (t : Tree) (requests : List Request), (∀ r ∈ requests, CanBeLaidOut r.qualifiedName) →
      (∀ place, (s.afterAll t requests).fileAt? place ≠ t.fileAt? place →
        ∃ r ∈ s.stored t requests, ∃ below,
          (s.afterAll t requests).place? (Path.ofString s.directory) = .ok below ∧
          place = below ++ s.segments r.qualifiedName) ∧
      ∀ front r behind, s.stored t requests = front ++ r :: behind →
        (∀ r' ∈ behind, r'.qualifiedName ≠ r.qualifiedName) →
          ∃ place, (s.afterAll t requests).place? (s.pathFor r.qualifiedName) = .ok place ∧
            (s.afterAll t requests).fileAt? place = some r.text.toUTF8) := by
  refine ⟨?_, ?_, ?_⟩
  · intro name hname
    obtain ⟨front, last, hcut, hsegments⟩ := s.exists_segments_eq name
    refine ⟨front, last, hcut, ?_, ?_⟩
    · rw [pathFor_eq_append hextension hname, hsegments]
    · intro part hpart
      exact isPart_of_mem_segments hextension hname (hsegments ▸ hpart)
  · intro name name' hname hname' hne
    have htext : (s.pathFor name).text ≠ (s.pathFor name').text :=
      fun h => hne (eq_of_text_pathFor_eq hextension hname hname' h)
    refine ⟨fun h => htext (congrArg Path.text h), htext, ?_⟩
    intro t place hplace hplace'
    exact hne (eq_of_place?_pathFor_eq hextension hname hname' hplace hplace')
  · intro t requests hnames
    have hstored : ∀ n ∈ (s.stored t requests).map Request.qualifiedName, CanBeLaidOut n := by
      intro n hn
      obtain ⟨r, hr, rfl⟩ := List.mem_map.mp hn
      exact hnames r (mem_of_mem_stored hr)
    constructor
    · intro place hchanged
      obtain ⟨r, hr, hplace⟩ := exists_stored_of_changed hchanged
      obtain ⟨below, hbelow, happend⟩ :=
        exists_place?_directory hextension (hstored _ (List.mem_map_of_mem hr)) hplace
      exact ⟨r, hr, below, hbelow, happend⟩
    · intro front r behind hsplit hlast
      have hapart : s.Apart (s.afterAll t requests)
          ((s.stored t requests).map Request.qualifiedName) := by
        intro n hn n' hn' hne hsame
        obtain ⟨r, hr, rfl⟩ := List.mem_map.mp hn
        obtain ⟨-, place, hplace⟩ := exists_place_of_mem_stored hr
        exact hne (eq_of_place?_pathFor_eq hextension (hstored _ hn) (hstored _ hn') hplace
          (hsame.symm.trans hplace))
      have hholds := holds_afterAll s.holds_empty (List.nil_subset _) (List.Subset.refl _) hapart
      apply hholds
      rw [hsplit]
      exact get?_remembered_of_last hlast

/-- Writes under two names, of which the last one is refused. -/
def laidOutRequests : List Request :=
  [{ qualifiedName := "a.B", text := "first" },
    { qualifiedName := "a.b.B", text := "second" },
    { qualifiedName := "a.B", text := "third" },
    { qualifiedName := "a.b.B", text := "fourth",
      trouble := fun step => if step = .fill then some .noSpace else none }]

theorem lays_out_below_directory_laidOutRequests :
    let s : Store := { directory := "/srv/./out/" }
    FitsFileName s.extension ∧ (∀ r ∈ laidOutRequests, CanBeLaidOut r.qualifiedName) ∧
      s.pathFor "a.B" ≠ s.pathFor "a.b.B" ∧
      (s.pathFor "a.b.B").text = "/srv/out/a/b/B.java" ∧
      (s.stored {} laidOutRequests).map Request.text = ["first", "second", "third"] ∧
      ∃ place, (s.afterAll {} laidOutRequests).place? (s.pathFor "a.b.B") = .ok place ∧
        (s.afterAll {} laidOutRequests).fileAt? place = some "second".toUTF8 ∧
        ∃ r ∈ s.stored {} laidOutRequests, ∃ below,
          (s.afterAll {} laidOutRequests).place? (Path.ofString s.directory) = .ok below ∧
          place = below ++ s.segments r.qualifiedName := by
  intro s
  have hextension : FitsFileName s.extension := by decide
  have hnames : ∀ r ∈ laidOutRequests, CanBeLaidOut r.qualifiedName := by decide
  obtain ⟨-, hdifferent, hwrites⟩ := lays_out_below_directory hextension
  have hpaths := (hdifferent "a.B" "a.b.B" (by decide) (by decide) (by decide)).1
  have hstored : s.stored {} laidOutRequests =
      [{ qualifiedName := "a.B", text := "first" }] ++
        { qualifiedName := "a.b.B", text := "second" } ::
          [{ qualifiedName := "a.B", text := "third" }] := by
    rw [laidOutRequests, stored_of_ok (by decide +kernel), stored_of_ok (by decide +kernel),
      stored_of_ok (by decide +kernel),
      stored_of_error (e := ⟨"a.b.B", "[Errno 28] No space left on device"⟩) (by decide +kernel)]
    rfl
  obtain ⟨hbelow, htexts⟩ := hwrites {} laidOutRequests hnames
  obtain ⟨place, hplace, htext⟩ := htexts _ _ _ hstored (by decide)
  have hchanged : (s.afterAll {} laidOutRequests).fileAt? place ≠ ({} : Tree).fileAt? place := by
    rw [htext, Tree.fileAt?_empty]
    exact Option.some_ne_none _
  exact ⟨hextension, hnames, hpaths, by decide +kernel, by rw [hstored]; rfl, place, hplace, htext,
    hbelow place hchanged⟩

end Store
end Files
end BeanBuilder
