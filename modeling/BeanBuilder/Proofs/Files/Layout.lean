import BeanBuilder.Proofs.Files.Path
import BeanBuilder.Proofs.Files.Store

/-! # Where a store lays out its files

The path for a qualified name leads from the directory of the store through the words of the name.
What stands behind the last word, a suffix and the ending of the files, can hold dots and slashes of
its own, and is the same for all names (`exists_namesFor`).  So the paths of different names differ
(`namesFor_injective`).

A slash directly behind a dot of the suffix would make a path start again from the root
(`StaysBelow`).  Without one, paths that differ lead to different places as long as no name on the
way is two dots.  Only the last one can be that (`getLast?_namesFor_of_mem`), and no file is moved
to such a path.  So a text that was stored is never replaced by that of another name
(`apart_afterAll`).
-/
namespace BeanBuilder
namespace Files

/-- A word as it stands between the dots of a qualified name. -/
structure IsWord (word : String) : Prop where
  ne_empty : word ≠ ""
  no_dot : '.' ∉ word.toList
  no_slash : '/' ∉ word.toList

theorem IsWord.toList_ne_nil {word : String} (h : IsWord word) : word.toList ≠ [] :=
  fun hnil => h.ne_empty (String.toList_eq_nil_iff.mp hnil)

theorem IsWord.head?_append {word : String} (h : IsWord word) (cs : List Char) :
    (word.toList ++ cs).head? ≠ some '/' := by
  obtain ⟨c, more, hchars⟩ := List.exists_cons_of_ne_nil h.toList_ne_nil
  rw [hchars, List.cons_append, List.head?_cons]
  intro hslash
  refine h.no_slash ?_
  rw [hchars, Option.some.inj hslash]
  exact List.mem_cons_self

/-! ## Names in a path -/

namespace Path

variable {p : Path} {word : String} {segments : List String}

theorem join_of_head? {s : String} (h : s.toList.head? ≠ some '/') :
    p.join s = { p with parts := p.parts ++ namesOf s.toList } := by
  simp only [join, ofString, (rootOf_of_head? h).1, if_true]

/-- A path goes on with the names of all segments that do not begin at the root. -/
theorem foldl_join (h : ∀ s ∈ segments, s.toList.head? ≠ some '/') :
    segments.foldl join p =
      { p with parts := p.parts ++ segments.flatMap fun s => namesOf s.toList } := by
  induction segments generalizing p with
  | nil => simp
  | cons s rest ih =>
    rw [List.forall_mem_cons] at h
    rw [List.foldl_cons, join_of_head? h.1, ih h.2, List.flatMap_cons, List.append_assoc]

theorem namesOf_word (h : IsWord word) : namesOf word.toList = [word] :=
  IsPart.namesOf ⟨h.ne_empty, fun hdot => h.no_dot (by simp [hdot]), h.no_slash⟩

/-- What stands behind a word makes its name longer, and gives the same names after it. -/
theorem exists_namesOf_append (ds : List Char) :
    ∃ behind names, ∀ word, IsWord word →
      namesOf (word.toList ++ ds) = (word ++ behind) :: names := by
  obtain ⟨piece, pieces, hcut⟩ := List.exists_cons_of_ne_nil (Text.cutAt_ne_nil '/' ds)
  refine ⟨String.ofList piece, (pieces.filter isNamed).map String.ofList, fun word hword => ?_⟩
  have hnamed : isNamed (word.toList ++ piece) = true := by
    have hdot : word.toList ++ piece ≠ ['.'] := by
      intro h
      obtain ⟨c, more, hchars⟩ := List.exists_cons_of_ne_nil hword.toList_ne_nil
      rw [hchars, List.cons_append] at h
      obtain ⟨rfl, -⟩ := List.cons.inj h
      exact hword.no_dot (by rw [hchars]; exact List.mem_cons_self)
    simp [isNamed, hword.toList_ne_nil, hdot]
  rw [namesOf, Text.cutAt_append_of_not_mem hword.no_slash hcut, List.filter_cons_of_pos hnamed,
    List.map_cons, String.ofList_append, String.ofList_toList]

theorem dot_mem_of_ofList {piece : List Char} (h : String.ofList piece = "..") : '.' ∈ piece := by
  rw [← String.toList_ofList (l := piece), h]
  decide

/-- Two dots are no name among characters without dots. -/
theorem not_mem_namesOf {cs : List Char} (h : '.' ∉ cs) : ".." ∉ namesOf cs := by
  intro hmem
  obtain ⟨piece, hpiece, hdots⟩ := List.mem_map.mp hmem
  exact h (Text.subset_of_mem_cutAt (List.mem_filter.mp hpiece).1 (dot_mem_of_ofList hdots))

/-- Where dots stand behind the last slash only, two dots are at most the last name. -/
theorem getLast?_namesOf_of_mem {cs ds : List Char} (hcs : '.' ∉ cs) (hds : '/' ∉ ds)
    (h : ".." ∈ namesOf (cs ++ ds)) : (namesOf (cs ++ ds)).getLast? = some ".." := by
  obtain ⟨front, last, hcut, happend⟩ := Text.exists_cutAt_append hds cs
  have hfront : ".." ∉ (front.filter isNamed).map String.ofList := by
    intro hmem
    obtain ⟨piece, hpiece, hdots⟩ := List.mem_map.mp hmem
    have hpiece' : piece ∈ Text.cutAt '/' cs := by
      rw [hcut]
      exact List.mem_append_left _ (List.mem_filter.mp hpiece).1
    exact hcs (Text.subset_of_mem_cutAt hpiece' (dot_mem_of_ofList hdots))
  rw [namesOf, happend, List.filter_append, List.map_append] at h ⊢
  have hlast := (List.mem_append.mp h).resolve_left hfront
  cases hnamed : isNamed (last ++ ds) with
  | false => simp [hnamed] at hlast
  | true =>
    rw [List.filter_cons_of_pos hnamed, List.filter_nil, List.map_singleton, List.mem_singleton]
      at hlast
    rw [List.filter_cons_of_pos hnamed, List.filter_nil, List.map_singleton, ← hlast,
      List.getLast?_concat]

end Path

/-! ## The path for a name -/

namespace Store

variable {s : Store} {suffix word last : String} {words : List String}

/-- The names below the directory of a store that lead to the file for a qualified name. -/
def namesFor (s : Store) (qualifiedName : String) : List String :=
  (s.segments qualifiedName).flatMap fun segment => Path.namesOf segment.toList

/-- No path for a name with the suffix starts again from the root, and the ending of the files adds
nothing but characters to its last name. -/
structure StaysBelow (s : Store) (suffix : String) : Prop where
  suffix : ¬ ['.', '/'] <:+: suffix.toList
  extension : '/' ∉ s.extension.toList

theorem segments_eq {name : String} {front : List (List Char)} {piece : List Char}
    (h : Text.cutAt '.' name.toList = front ++ [piece]) :
    s.segments name = front.map String.ofList ++ [String.ofList piece ++ s.extension] := by
  simp only [segments, Text.cutString, h, List.map_append, List.map_singleton, List.dropLast_concat,
    List.getLast?_concat, Option.getD_some]

theorem exists_cutAt_eq (cs : List Char) :
    ∃ front piece, Text.cutAt '.' cs = front ++ [piece] :=
  ⟨_, _, (List.dropLast_concat_getLast (Text.cutAt_ne_nil '.' cs)).symm⟩

theorem segments_word (h : IsWord word) (name : String) :
    s.segments (word ++ "." ++ name) = word :: s.segments name := by
  obtain ⟨front, piece, hcut⟩ := exists_cutAt_eq name.toList
  have hword : Text.cutAt '.' (word ++ "." ++ name).toList = (word.toList :: front) ++ [piece] := by
    have hchars : (word ++ "." ++ name).toList = word.toList ++ '.' :: name.toList := by
      simp [String.toList_append]
    rw [hchars, Text.cutAt_append_cons h.no_dot, hcut, List.cons_append]
  rw [segments_eq hword, segments_eq hcut, List.map_cons, String.ofList_toList, List.cons_append]

theorem segments_append (h : IsWord word) {head : String} {tail : List String}
    (hs : s.segments suffix = head :: tail) :
    s.segments (word ++ suffix) = (word ++ head) :: tail := by
  obtain ⟨front, piece, hcut⟩ := exists_cutAt_eq suffix.toList
  rw [segments_eq hcut] at hs
  cases front with
  | nil =>
    obtain ⟨rfl, rfl⟩ := List.cons.inj hs
    have hword : Text.cutAt '.' (word ++ suffix).toList = [] ++ [word.toList ++ piece] := by
      rw [String.toList_append, Text.cutAt_append_of_not_mem h.no_dot hcut, List.nil_append]
    rw [segments_eq hword, String.ofList_append, String.ofList_toList, String.append_assoc]
    rfl
  | cons first front =>
    obtain ⟨rfl, rfl⟩ := List.cons.inj hs
    have hword : Text.cutAt '.' (word ++ suffix).toList =
        ((word.toList ++ first) :: front) ++ [piece] := by
      rw [String.toList_append, Text.cutAt_append_of_not_mem h.no_dot hcut]
      rfl
    rw [segments_eq hword, List.map_cons, String.ofList_append, String.ofList_toList]
    rfl

/-- A name of some words and a last one. -/
def joined (words : List String) (last : String) : String :=
  Text.joinStrings "." (words ++ [last])

theorem joined_cons (word : String) (words : List String) (last : String) :
    joined (word :: words) last = word ++ "." ++ joined words last :=
  Text.joinStrings_cons "." word (by simp)

theorem segments_joined (hwords : ∀ word ∈ words, IsWord word) (hlast : IsWord last)
    {head : String} {tail : List String} (hs : s.segments suffix = head :: tail) :
    s.segments (joined words last ++ suffix) = words ++ (last ++ head) :: tail := by
  induction words with
  | nil => exact segments_append hlast hs
  | cons word words ih =>
    rw [List.forall_mem_cons] at hwords
    rw [joined_cons, String.append_assoc, segments_word hwords.1, ih hwords.2, List.cons_append]

theorem exists_segments_eq_cons (s : Store) (name : String) :
    ∃ head tail, s.segments name = head :: tail := by
  refine List.exists_cons_of_ne_nil ?_
  simp [segments]

/-- **The words of a name are the names on the way to its file**; what stands behind the last one
is the same for all names. -/
theorem exists_namesFor (s : Store) (suffix : String) :
    ∃ behind names, ∀ words last, (∀ word ∈ words, IsWord word) → IsWord last →
      s.namesFor (joined words last ++ suffix) = words ++ (last ++ behind) :: names := by
  obtain ⟨head, tail, hs⟩ := s.exists_segments_eq_cons suffix
  obtain ⟨behind, names, hnames⟩ := Path.exists_namesOf_append head.toList
  refine ⟨behind, names ++ tail.flatMap fun segment => Path.namesOf segment.toList, ?_⟩
  intro words last hwords hlast
  have hall : ∀ ws : List String, (∀ word ∈ ws, IsWord word) →
      (ws.flatMap fun word => Path.namesOf word.toList) = ws := by
    intro ws hws
    rw [List.flatMap_congr fun word hword => Path.namesOf_word (hws word hword)]
    exact List.flatMap_singleton' ws
  rw [namesFor, segments_joined hwords hlast hs, List.flatMap_append, hall words hwords,
    List.flatMap_cons, String.toList_append, hnames last hlast, List.cons_append]

/-- A name of words with dots between them. -/
def IsQualified (name : String) : Prop :=
  ∃ words last, (∀ word ∈ words, IsWord word) ∧ IsWord last ∧ name = joined words last

/-- **Different names have different names on the way to their files.** -/
theorem namesFor_injective {name name' : String} (hname : IsQualified name)
    (hname' : IsQualified name')
    (h : s.namesFor (name ++ suffix) = s.namesFor (name' ++ suffix)) : name = name' := by
  obtain ⟨behind, names, hnames⟩ := s.exists_namesFor suffix
  obtain ⟨words, last, hwords, hlast, rfl⟩ := hname
  obtain ⟨words', last', hwords', hlast', rfl⟩ := hname'
  rw [hnames words last hwords hlast, hnames words' last' hwords' hlast', List.append_cons,
    List.append_cons words', List.append_cancel_right_eq] at h
  obtain ⟨rfl, hsame⟩ := List.append_inj' h rfl
  obtain rfl := (String.append_left_inj behind).mp (List.cons.inj hsame).1
  rfl

/-- Behind the first segment of a suffix, no segment begins at the root. -/
theorem StaysBelow.head?_tail (h : s.StaysBelow suffix) {head : String} {tail : List String}
    (hs : s.segments suffix = head :: tail) :
    ∀ segment ∈ tail, segment.toList.head? ≠ some '/' := by
  obtain ⟨front, piece, hcut⟩ := exists_cutAt_eq suffix.toList
  have hpieces : ∀ p ∈ (front ++ [piece]).tail, p.head? ≠ some '/' := by
    intro p hp
    rw [← hcut] at hp
    exact Text.head?_ne_of_mem_tail_cutAt h.suffix hp
  rw [segments_eq hcut] at hs
  cases front with
  | nil =>
    obtain ⟨-, rfl⟩ := List.cons.inj hs
    exact fun _ hmem => absurd hmem List.not_mem_nil
  | cons first front =>
    obtain ⟨-, rfl⟩ := List.cons.inj hs
    rw [List.cons_append, List.tail_cons] at hpieces
    intro segment hsegment
    rcases List.mem_append.mp hsegment with hfront | hlast
    · obtain ⟨p, hp, rfl⟩ := List.mem_map.mp hfront
      rw [String.toList_ofList]
      exact hpieces p (List.mem_append_left _ hp)
    -- the last segment begins with its piece, or with the ending of the files
    · rw [List.mem_singleton.mp hlast, String.toList_append, String.toList_ofList]
      cases piece with
      | nil => exact fun hslash => h.extension (List.mem_of_head? hslash)
      | cons c piece => exact hpieces (c :: piece) (List.mem_append_right _ List.mem_cons_self)

/-- **The path for a name leads on from the directory of the store.** -/
theorem StaysBelow.pathFor_eq (h : s.StaysBelow suffix) {name : String} (hname : IsQualified name) :
    s.pathFor (name ++ suffix) =
      { Path.ofString s.directory with
        parts := (Path.ofString s.directory).parts ++ s.namesFor (name ++ suffix) } := by
  obtain ⟨words, last, hwords, hlast, rfl⟩ := hname
  obtain ⟨head, tail, hs⟩ := s.exists_segments_eq_cons suffix
  refine Path.foldl_join fun segment hsegment => ?_
  rw [segments_joined hwords hlast hs] at hsegment
  rcases List.mem_append.mp hsegment with hword | hbehind
  · have hhead := (hwords segment hword).head?_append []
    rwa [List.append_nil] at hhead
  · rcases List.mem_cons.mp hbehind with rfl | htail
    · rw [String.toList_append]
      exact hlast.head?_append head.toList
    · exact h.head?_tail hs segment htail

/-- Two dots are at most the last name on the way to a file. -/
theorem StaysBelow.getLast?_namesFor_of_mem (h : s.StaysBelow suffix) {name : String}
    (hmem : ".." ∈ s.namesFor name) : (s.namesFor name).getLast? = some ".." := by
  obtain ⟨front, piece, hcut⟩ := exists_cutAt_eq name.toList
  have hdots : ∀ p ∈ front ++ [piece], '.' ∉ p := by
    intro p hp
    rw [← hcut] at hp
    exact Text.not_mem_of_mem_cutAt hp
  have hfront : ".." ∉ (front.map String.ofList).flatMap fun segment =>
      Path.namesOf segment.toList := by
    intro hnames
    obtain ⟨segment, hsegment, hname⟩ := List.mem_flatMap.mp hnames
    obtain ⟨p, hp, rfl⟩ := List.mem_map.mp hsegment
    rw [String.toList_ofList] at hname
    exact Path.not_mem_namesOf (hdots p (List.mem_append_left _ hp)) hname
  rw [namesFor, segments_eq hcut, List.flatMap_append, List.flatMap_singleton,
    String.toList_append, String.toList_ofList] at hmem ⊢
  have hlast := (List.mem_append.mp hmem).resolve_left hfront
  have hpiece := hdots piece (List.mem_append_right _ List.mem_cons_self)
  rw [List.getLast?_append, Path.getLast?_namesOf_of_mem hpiece h.extension hlast]
  rfl

end Store

/-! ## Places -/

namespace Tree

variable {t : Tree} {place other : Place} {names more : List String}

theorem follow_append (t : Tree) (place : Place) (names more : List String) :
    t.follow place (names ++ more) = t.follow place names >>= fun p => t.follow p more := by
  induction names generalizing place with
  | nil => rfl
  | cons name rest ih =>
    rw [List.cons_append, follow, follow]
    split
    · rfl
    · rfl
    · split
      · rfl
      · split
        · exact ih _
        · exact ih _

/-- Names that lead nowhere back are the end of the place they lead to. -/
theorem eq_append_of_follow (h : ".." ∉ names) (hf : t.follow place names = .ok other) :
    other = place ++ names := by
  induction names generalizing place with
  | nil => rw [List.append_nil, Except.ok.inj hf]
  | cons name rest ih =>
    rw [List.mem_cons, not_or] at h
    rw [follow] at hf
    split at hf
    · cases hf
    · cases hf
    · split at hf
      · cases hf
      · rw [if_neg (Ne.symm h.1)] at hf
        rw [ih h.2 hf, List.append_assoc, List.singleton_append]

/-- A place behind a path ends with the names that lead there. -/
theorem exists_of_place? {p : Path} (h : ".." ∉ names)
    (hplace : t.place? { p with parts := p.parts ++ names } = .ok place) :
    ∃ front, t.follow (start p) p.parts = .ok front ∧ place = front ++ names := by
  rw [place?] at hplace
  split at hplace
  · cases hplace
  · simp only [follow_append] at hplace
    obtain ⟨front, hfront, hrest⟩ := except_bind_eq_ok_iff.mp hplace
    exact ⟨front, hfront, eq_append_of_follow h hrest⟩

/-- No file is moved to a path that ends in two dots. -/
theorem name_ne_of_replaceFile {trouble : Trouble} {target : Path} {bytes : ByteArray}
    (h : (replaceFile trouble t target bytes).1 = .ok ()) : target.name ≠ ".." := by
  unfold replaceFile at h
  split at h
  · cases h
  · simp only at h
    split at h
    · cases h
    · split at h
      · cases h
      · exact (of_placeToReplace ‹_›).1

end Tree

/-! ## Runs of writes -/

namespace Store

variable {s : Store} {t : Tree} {r : Request} {requests : List Request} {suffix : String}

theorem name_ne_of_answer (h : s.answer t r = .ok ()) :
    (s.pathFor r.qualifiedName).name ≠ ".." := by
  simp only [answer, write] at h
  split at h
  · cases h
  · split at h
    · cases h
    · rename_i hreplaced
      exact Tree.name_ne_of_replaceFile (congrArg Prod.fst hreplaced)

/-- A text that is stored in a run was stored by one of its writes, on the files that the writes
before it had left. -/
theorem exists_eq_append_of_mem_stored (h : r ∈ s.stored t requests) :
    ∃ front rest, requests = front ++ r :: rest ∧ s.answer (s.afterAll t front) r = .ok () := by
  induction requests generalizing t with
  | nil => exact absurd h List.not_mem_nil
  | cons first rest ih =>
    -- the text was stored by the first write, or in the run behind it
    have hcases :
        (r = first ∧ s.answer t first = .ok ()) ∨ r ∈ s.stored (s.after t first) rest := by
      rcases s.settles t first with ⟨e, hanswer, -, -⟩ | ⟨hanswer, -⟩
      · rw [stored_of_error hanswer] at h
        exact Or.inr h
      · rw [stored_of_ok hanswer] at h
        exact (List.mem_cons.mp h).imp_left (⟨·, hanswer⟩)
    rcases hcases with ⟨rfl, hanswer⟩ | hrest
    · exact ⟨[], rest, rfl, hanswer⟩
    · obtain ⟨front, behind, rfl, hanswer⟩ := ih hrest
      exact ⟨first :: front, behind, rfl, hanswer⟩

theorem mem_of_mem_stored (h : r ∈ s.stored t requests) : r ∈ requests := by
  obtain ⟨front, rest, rfl, -⟩ := exists_eq_append_of_mem_stored h
  exact List.mem_append_right front List.mem_cons_self

/-- The path for a text that was stored leads to a place, and does not end in two dots. -/
theorem exists_place_of_mem_stored (h : r ∈ s.stored t requests) :
    (s.pathFor r.qualifiedName).name ≠ ".." ∧
      ∃ place, (s.afterAll t requests).place? (s.pathFor r.qualifiedName) = .ok place := by
  obtain ⟨front, rest, rfl, hanswer⟩ := exists_eq_append_of_mem_stored h
  refine ⟨name_ne_of_answer hanswer, ?_⟩
  rcases s.settles (s.afterAll t front) r with ⟨e, hfailed, -, -⟩ | ⟨-, hstores⟩
  · rw [hanswer] at hfailed
    cases hfailed
  · obtain ⟨place, hplace, -, -⟩ := hstores.file
    have hkept := s.keepsDirectories_afterAll (s.after (s.afterAll t front) r) rest
    rw [afterAll, List.foldl_append, List.foldl_cons]
    exact ⟨place, Tree.place?_of_keepsDirectories hkept hplace⟩

/-- A qualified name with the suffix behind it. -/
def HasSuffix (suffix name : String) : Prop :=
  ∃ front, IsQualified front ∧ name = front ++ suffix

/-- The place where a text was stored ends with the names for it. -/
theorem StaysBelow.exists_place_eq_append (h : s.StaysBelow suffix) (hr : r ∈ s.stored t requests)
    (hname : HasSuffix suffix r.qualifiedName) :
    ∃ front, (s.afterAll t requests).follow (Tree.start (Path.ofString s.directory))
        (Path.ofString s.directory).parts = .ok front ∧
      (s.afterAll t requests).place? (s.pathFor r.qualifiedName) =
        .ok (front ++ s.namesFor r.qualifiedName) := by
  obtain ⟨hdots, place, hplace⟩ := exists_place_of_mem_stored hr
  obtain ⟨name, hqualified, hsuffix⟩ := hname
  have hpath := h.pathFor_eq hqualified
  rw [← hsuffix] at hpath
  -- two dots among the names would be the last one
  have hnames : ".." ∉ s.namesFor r.qualifiedName := by
    intro hmem
    refine hdots ?_
    rw [hpath, Path.name, List.getLast?_append, h.getLast?_namesFor_of_mem hmem]
    rfl
  rw [hpath] at hplace ⊢
  obtain ⟨front, hfront, rfl⟩ := Tree.exists_of_place? hnames hplace
  exact ⟨front, hfront, hplace⟩

/-- **Texts of different names are stored at different places.** -/
theorem StaysBelow.apart_afterAll (h : s.StaysBelow suffix) (t : Tree)
    (hnames : ∀ r ∈ requests, HasSuffix suffix r.qualifiedName) :
    s.Apart (s.afterAll t requests) ((s.stored t requests).map Request.qualifiedName) := by
  intro n hn n' hn' hne hsame
  obtain ⟨r, hr, rfl⟩ := List.mem_map.mp hn
  obtain ⟨r', hr', rfl⟩ := List.mem_map.mp hn'
  have hname := hnames r (mem_of_mem_stored hr)
  have hname' := hnames r' (mem_of_mem_stored hr')
  obtain ⟨front, hfront, hplace⟩ := h.exists_place_eq_append hr hname
  obtain ⟨front', hfront', hplace'⟩ := h.exists_place_eq_append hr' hname'
  -- both places are reached from the directory of the store
  obtain rfl := Except.ok.inj (hfront.symm.trans hfront')
  rw [hplace, hplace'] at hsame
  have hpaths := List.append_cancel_left (Except.ok.inj hsame)
  obtain ⟨name, hqualified, hsuffix⟩ := hname
  obtain ⟨name', hqualified', hsuffix'⟩ := hname'
  rw [hsuffix, hsuffix'] at hpaths hne
  exact hne (congrArg (· ++ suffix) (namesFor_injective hqualified hqualified' hpaths))

end Store

end Files
end BeanBuilder
