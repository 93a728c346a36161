import BeanBuilder.Files.Path
import BeanBuilder.Files.Tree
import BeanBuilder.Proofs.Files.Tree
import BeanBuilder.Proofs.Text.Pieces

/-! # Paths and their texts

The parts of a path that was read from a text are names without slashes, and none of them is a
single dot (`Path.Proper`).  The text of such a path is read as the path again (`ofString_text`), so
a file that was written at the path is read under its text (`Tree.read_of_placeToWrite`).
-/
namespace BeanBuilder
namespace Files
namespace Path

variable {p : Path} {part : String} {parts : List String} {cs ds : List Char}

/-! ## Parts -/

/-- A name that can be a part of a path. -/
structure IsPart (part : String) : Prop where
  ne_empty : part ≠ ""
  ne_dot : part ≠ "."
  no_slash : '/' ∉ part.toList

theorem IsPart.isNamed (h : IsPart part) : isNamed part.toList = true := by
  have hempty : part.toList ≠ [] := fun hnil => h.ne_empty (String.toList_eq_nil_iff.mp hnil)
  have hdot : part.toList ≠ ['.'] := fun hdot => h.ne_dot (String.toList_inj.mp hdot)
  simp [Path.isNamed, hempty, hdot]

theorem isPart_of_mem_namesOf (h : part ∈ namesOf cs) : IsPart part := by
  obtain ⟨piece, hpiece, rfl⟩ := List.mem_map.mp h
  obtain ⟨hcut, hnamed⟩ := List.mem_filter.mp hpiece
  rw [Path.isNamed, Bool.and_eq_true, decide_eq_true_eq, decide_eq_true_eq] at hnamed
  refine ⟨fun hempty => hnamed.1 ?_, fun hdot => hnamed.2 ?_, ?_⟩
  · simpa using congrArg String.toList hempty
  · simpa using congrArg String.toList hdot
  · rw [String.toList_ofList]
    exact Text.not_mem_of_mem_cutAt hcut

/-- The names on both sides of a slash. -/
theorem namesOf_append_slash (cs ds : List Char) :
    namesOf (cs ++ '/' :: ds) = namesOf cs ++ namesOf ds := by
  rw [namesOf, Text.cutAt_append_sep, List.filter_append, List.map_append]
  rfl

theorem namesOf_slash (cs : List Char) : namesOf ('/' :: cs) = namesOf cs :=
  namesOf_append_slash [] cs

theorem IsPart.namesOf (h : IsPart part) : namesOf part.toList = [part] := by
  rw [Path.namesOf, Text.cutAt_of_not_mem h.no_slash, List.filter_cons_of_pos h.isNamed,
    List.filter_nil, List.map_singleton, String.ofList_toList]

theorem toList_joinStrings_cons (part next : String) (rest : List String) :
    (Text.joinStrings "/" (part :: next :: rest)).toList =
      part.toList ++ '/' :: (Text.joinStrings "/" (next :: rest)).toList := by
  rw [Text.joinStrings_cons _ _ (List.cons_ne_nil next rest), String.toList_append,
    String.toList_append, List.append_assoc]
  rfl

theorem namesOf_joinStrings (h : ∀ part ∈ parts, IsPart part) :
    namesOf (Text.joinStrings "/" parts).toList = parts := by
  induction parts with
  | nil => rfl
  | cons part rest ih =>
    rw [List.forall_mem_cons] at h
    cases rest with
    | nil => exact h.1.namesOf
    | cons next rest =>
      rw [toList_joinStrings_cons, namesOf_append_slash, ih h.2, h.1.namesOf, List.singleton_append]

/-- Joined parts do not begin with a slash. -/
theorem head?_joinStrings_ne (h : ∀ part ∈ parts, IsPart part) :
    (Text.joinStrings "/" parts).toList.head? ≠ some '/' := by
  have hhead : ∀ part, IsPart part → part.toList.head? ≠ some '/' := fun part hpart hslash =>
    hpart.no_slash (List.mem_of_head? hslash)
  cases parts with
  | nil => decide
  | cons part rest =>
    rw [List.forall_mem_cons] at h
    cases rest with
    | nil => exact hhead part h.1
    | cons next rest =>
      rw [toList_joinStrings_cons]
      cases hchars : part.toList with
      | nil => exact absurd (String.toList_eq_nil_iff.mp hchars) h.1.ne_empty
      | cons c others =>
        have hc := hhead part h.1
        rw [hchars] at hc
        exact hc

/-! ## Roots -/

theorem rootOf_of_head? (h : cs.head? ≠ some '/') :
    rootOf cs = "" ∧ rootOf ('/' :: cs) = "/" ∧ rootOf ('/' :: '/' :: cs) = "//" := by
  cases cs with
  | nil => exact ⟨rfl, rfl, rfl⟩
  | cons c cs =>
    have hc : c ≠ '/' := fun heq => h (congrArg some heq)
    refine ⟨?_, ?_, ?_⟩ <;> simp [rootOf, hc]

theorem rootOf_cases (cs : List Char) : rootOf cs = "" ∨ rootOf cs = "/" ∨ rootOf cs = "//" := by
  unfold rootOf
  split
  · exact .inr (.inl rfl)
  · exact .inr (.inr rfl)
  · exact .inr (.inl rfl)
  · exact .inl rfl

/-! ## Texts -/

/-- A path that a text denotes. -/
structure Proper (p : Path) : Prop where
  root : p.root = "" ∨ p.root = "/" ∨ p.root = "//"
  parts : ∀ part ∈ p.parts, IsPart part

theorem proper_ofString (s : String) : (ofString s).Proper :=
  ⟨rootOf_cases s.toList, fun _ hpart => isPart_of_mem_namesOf hpart⟩

/-- **The text of a path denotes the path.** -/
theorem Proper.ofString_text (h : p.Proper) : ofString p.text = p := by
  obtain ⟨root, parts⟩ := p
  obtain ⟨hroot, hparts⟩ := h
  simp only at hroot hparts
  unfold text
  split
  · rename_i hdot
    obtain ⟨rfl, rfl⟩ := hdot
    rfl
  · obtain ⟨hnone, hone, htwo⟩ := rootOf_of_head? (head?_joinStrings_ne hparts)
    have hnames := namesOf_joinStrings hparts
    simp only [ofString, String.toList_append, Path.mk.injEq]
    rcases hroot with rfl | rfl | rfl
    · exact ⟨hnone, hnames⟩
    · exact ⟨hone, (namesOf_slash _).trans hnames⟩
    · exact ⟨htwo, (namesOf_slash _).trans ((namesOf_slash _).trans hnames)⟩

/-- The text of a path ends with its last part. -/
theorem exists_text_eq_append (h : p.parts ≠ []) :
    ∃ front, p.text.toList = front ++ (p.parts.getLast h).toList := by
  obtain ⟨root, parts⟩ := p
  simp only at h ⊢
  have hjoin : ∀ parts (h : parts ≠ []), ∃ front,
      (Text.joinStrings "/" parts).toList = front ++ (parts.getLast h).toList := by
    intro parts h
    induction parts with
    | nil => exact absurd rfl h
    | cons part rest ih =>
      cases rest with
      | nil => exact ⟨[], rfl⟩
      | cons next rest =>
        obtain ⟨front, hfront⟩ := ih (List.cons_ne_nil next rest)
        refine ⟨part.toList ++ '/' :: front, ?_⟩
        rw [toList_joinStrings_cons, hfront, List.getLast_cons_cons, List.append_assoc,
          List.cons_append]
  obtain ⟨front, hfront⟩ := hjoin parts h
  refine ⟨root.toList ++ front, ?_⟩
  rw [text, if_neg (fun hdot => h hdot.2), String.toList_append, hfront, List.append_assoc]

/-- A path with parts is no path of a directory by its text. -/
theorem Proper.asksDirectory_text (hp : p.Proper) (h : p.parts ≠ []) :
    p.text ≠ "" ∧ Tree.asksDirectory p.text = false := by
  obtain ⟨front, htext⟩ := exists_text_eq_append h
  obtain ⟨hempty, hdot, hslash⟩ := hp.parts _ (List.getLast_mem h)
  generalize p.parts.getLast h = last at htext hempty hdot hslash
  -- the last character of the text is that of its last part, and so is the one before it
  cases hlast : last.toList.reverse with
  | nil => exact absurd (String.toList_eq_nil_iff.mp (List.reverse_eq_nil_iff.mp hlast)) hempty
  | cons c others =>
    have hmem : ∀ d ∈ c :: others, d ≠ '/' := by
      rintro d hd rfl
      exact hslash (List.mem_reverse.mp (hlast ▸ hd))
    have hreverse : p.text.toList.reverse = c :: (others ++ front.reverse) := by
      rw [htext, List.reverse_append, hlast, List.cons_append]
    constructor
    · intro hnone
      rw [hnone] at hreverse
      cases hreverse
    · have hc : c ≠ '/' := hmem c List.mem_cons_self
      simp only [Tree.asksDirectory, Text.finishesWith, Text.beginsWith, hreverse]
      cases others with
      | nil =>
        have hc' : c ≠ '.' := by
          rintro rfl
          exact hdot (String.toList_inj.mp (List.reverse_eq_cons_iff.mp hlast))
        simp [Text.afterStart?, hc.symm, hc'.symm]
      | cons d others =>
        have hd : d ≠ '/' := hmem d (List.mem_cons_of_mem _ List.mem_cons_self)
        simp [Text.afterStart?, hc.symm, hd.symm]

end Path

/-- **A file that was written is read under the text of its path.** -/
theorem Tree.read_of_placeToWrite {t : Tree} {p : Path} {place : Place} (hp : p.Proper)
    (h : t.placeToWrite p = .ok place) (bytes : ByteArray) :
    (t.put place (.file bytes)).isThere? p = .ok true ∧
      (t.put place (.file bytes)).read p.text = .ok bytes := by
  have hentry := entry_put_of_placeToWrite h bytes
  obtain ⟨hempty, hasks⟩ := hp.asksDirectory_text (parts_ne_nil_of_placeToWrite h)
  constructor
  · rw [isThere?, hentry]
  · simp only [read, if_neg hempty, hp.ofString_text, hentry, hasks, Bool.false_eq_true, if_false]

end Files
end BeanBuilder
