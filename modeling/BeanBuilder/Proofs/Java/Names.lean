import BeanBuilder.Java.Scope
import BeanBuilder.Proofs.TypeText

/-! # Names in Java types

The names in a type are words of letters, marks and digits (`WellNamed`), and what a source imports
are such words with points between them.  So the name that a scope gives for a word is a text
without blanks, brackets, commas and question marks (`pathText_resolve`): in a type as it is
written, every such sign comes from the structure of the type.
-/
namespace BeanBuilder
namespace Java

/-! ## Words and paths -/

/-- Whether a text is a word that can stand as a name. -/
def isName (s : String) : Bool :=
  match s.toList with
  | [] => false
  | c :: rest => isIdentifierStart c && rest.all isIdentifierPart

/-- A text that is put together from names and points. -/
structure PathText (s : String) : Prop where
  ne_nil : s.toList ≠ []
  forall_mem : ∀ c ∈ s.toList, isIdentifierPart c = true ∨ c = '.'

/-- Names with points between them. -/
def IsDotted (s : String) : Prop :=
  ∃ names : List String, names ≠ [] ∧ (∀ n ∈ names, isName n = true) ∧
    s = Text.joinStrings "." names

/-- The code points of the blanks. -/
def blankCodes : List Nat :=
  List.range' 9 5 ++ List.range' 0x1c 5 ++ [0x85, 0xa0, 0x1680] ++ List.range' 0x2000 11 ++
    [0x2028, 0x2029, 0x202f, 0x205f, 0x3000]

theorem toNat_mem_blankCodes {c : Char} (h : Text.isBlank c = true) : c.toNat ∈ blankCodes := by
  simp only [Text.isBlank, Bool.or_eq_true, Bool.and_eq_true, decide_eq_true_eq, beq_iff_eq] at h
  simp only [blankCodes, List.mem_append, List.mem_range'_1, List.mem_cons, List.not_mem_nil,
    or_false]
  omega

/-- Names hold no blanks. -/
theorem isBlank_of_isIdentifierPart {c : Char} (h : isIdentifierPart c = true) :
    Text.isBlank c = false := by
  have hall : ∀ n ∈ blankCodes,
      (Text.covered startRuns n || Text.covered markRuns n) = false := by decide +kernel
  by_contra hb
  rw [Bool.not_eq_false] at hb
  have hpart := hall c.toNat (toNat_mem_blankCodes hb)
  rw [isIdentifierPart, isIdentifierStart, hpart] at h
  exact absurd h (by decide)

namespace PathText

variable {s t : String}

theorem of_isName (h : isName s = true) : PathText s := by
  unfold isName at h
  split at h
  · exact absurd h (by decide)
  · rename_i c rest hs
    rw [Bool.and_eq_true, List.all_eq_true] at h
    refine ⟨by simp [hs], ?_⟩
    intro d hd
    rw [hs, List.mem_cons] at hd
    rcases hd with rfl | hd
    · exact Or.inl (by rw [isIdentifierPart, h.1, Bool.true_or])
    · exact Or.inl (h.2 d hd)

theorem append (hs : PathText s) (ht : PathText t) : PathText (s ++ t) where
  ne_nil := by
    rw [String.toList_append]
    exact fun h => hs.ne_nil (List.append_eq_nil_iff.mp h).1
  forall_mem := by
    intro c hc
    rw [String.toList_append, List.mem_append] at hc
    exact hc.elim (hs.forall_mem c) (ht.forall_mem c)

theorem point : PathText "." :=
  ⟨List.cons_ne_nil _ _, fun _ hc => Or.inr (List.mem_singleton.mp hc)⟩

theorem of_isDotted (h : IsDotted s) : PathText s := by
  obtain ⟨names, hne, hnames, rfl⟩ := h
  induction names with
  | nil => exact absurd rfl hne
  | cons n rest ih =>
    have hn := of_isName (hnames n List.mem_cons_self)
    cases rest with
    | nil => exact hn
    | cons m more =>
      exact (hn.append point).append
        (ih (List.cons_ne_nil _ _) fun k hk => hnames k (List.mem_cons_of_mem _ hk))

theorem isBlank_eq_false (h : PathText s) {c : Char} (hc : c ∈ s.toList) :
    Text.isBlank c = false := by
  rcases h.forall_mem c hc with hpart | rfl
  · exact isBlank_of_isIdentifierPart hpart
  · decide

theorem tight (h : PathText s) : Text.Tight s.toList :=
  Text.Tight.of_forall h.ne_nil fun _ hc => h.isBlank_eq_false hc

/-- None of the signs of a type is in a name. -/
theorem ne_of_mem (h : PathText s) {sign : Char} (hpart : isIdentifierPart sign = false)
    (hpoint : sign ≠ '.') : ∀ c ∈ s.toList, c ≠ sign := by
  rintro c hc rfl
  rcases h.forall_mem c hc with hyes | rfl
  · rw [hyes] at hpart
    exact absurd hpart (by decide)
  · exact hpoint rfl

theorem passes (h : PathText s) (depth : Int) : TypeText.Passes depth s.toList :=
  TypeText.Passes.of_forall fun c hc =>
    ⟨h.ne_of_mem (by decide) (by decide) c hc,
      h.ne_of_mem (by decide) (by decide) c hc,
      h.ne_of_mem (by decide) (by decide) c hc⟩

end PathText

/-! ## Types and scopes with words as names -/

mutual

/-- Every name in a type is a word. -/
def JavaType.WellNamed : JavaType → Prop
  | .basic name _ => isName name = true
  | .named path _ => path.WellNamed

/-- Every name in a path is a word. -/
def TypePath.WellNamed : TypePath → Prop
  | .last name arguments => isName name = true ∧ ArgumentsWellNamed arguments
  | .outer name arguments inner =>
    isName name = true ∧ ArgumentsWellNamed arguments ∧ inner.WellNamed

/-- Every name in some arguments is a word. -/
def ArgumentsWellNamed : List TypeArgument → Prop
  | [] => True
  | a :: rest => a.WellNamed ∧ ArgumentsWellNamed rest

/-- Every name in an argument is a word. -/
def TypeArgument.WellNamed : TypeArgument → Prop
  | .any => True
  | .exact type => type.WellNamed
  | .upper bound => bound.WellNamed
  | .lower bound => bound.WellNamed

end

theorem argumentsWellNamed_iff {arguments : List TypeArgument} :
    ArgumentsWellNamed arguments ↔ ∀ a ∈ arguments, a.WellNamed := by
  induction arguments with
  | nil => simp [ArgumentsWellNamed]
  | cons a rest ih => simp [ArgumentsWellNamed, ih]

/-- What a scope imports by name are words with points between them. -/
def Scope.WellNamed (s : Scope) : Prop :=
  ∀ e ∈ s.named, IsDotted e.2

/-- A way of resolving names that makes path texts of words. -/
def Resolve.KeepsNames (resolve : Resolve) : Prop :=
  ∀ name, isName name = true → PathText (resolve name)

theorem keepsNames_id : Resolve.KeepsNames id :=
  fun _ hname => PathText.of_isName hname

/-- **A scope makes path texts of words.** -/
theorem Scope.keepsNames_resolve {s : Scope} (hs : s.WellNamed) :
    Resolve.KeepsNames s.resolve := by
  intro name hname
  unfold Scope.resolve
  split
  · exact PathText.of_isName hname
  · split
    · rename_i path hlookup
      obtain ⟨l₁, l₂, hnamed, -⟩ := List.lookup_eq_some_iff.mp hlookup
      exact PathText.of_isDotted (hs (name, path) (by rw [hnamed]; simp))
    · split
      · have hutility : PathText utilityPackage :=
          PathText.of_isDotted ⟨["java", "util"], by decide, by decide, rfl⟩
        exact (hutility.append PathText.point).append (PathText.of_isName hname)
      · exact PathText.of_isName hname

/-- The scope of some imports is well named when the paths of the imports are. -/
theorem Scope.wellNamed_ofImports {imports : List Import} (h : ∀ i ∈ imports, IsDotted i.path) :
    (Scope.ofImports imports).WellNamed := by
  intro e he
  simp only [Scope.ofImports, List.mem_reverse, List.mem_map, List.mem_filter] at he
  obtain ⟨i, ⟨⟨hi, -⟩, -⟩, rfl⟩ := he
  exact h i hi

end Java
end BeanBuilder
