import BeanBuilder.CommandLine.Workshop
import BeanBuilder.Proofs.Outcomes
import BeanBuilder.Proofs.Text.Pieces

/-! # Work by settings that are texts

Where the settings of a workshop are texts, and no null character gets into a path, nothing breaks
down: the work on a bean is what a round makes of it (`workOn_eq`), and the work on all beans is a
round (`workOnAll_eq`), whatever the file system refuses.
-/
namespace BeanBuilder

open Files

/-! ## Paths without null characters -/

namespace Files.Path

variable {p : Path} {s s' : String}

/-- A path none of whose names holds a null character. -/
structure IsClean (p : Path) : Prop where
  root : holdsNull p.root = false
  parts : ∀ part ∈ p.parts, holdsNull part = false

theorem holdsNull_eq_false_iff : holdsNull s = false ↔ '\x00' ∉ s.toList := by
  rw [holdsNull, List.contains_eq_mem, decide_eq_false_iff_not]

theorem holdsNull_append (h : holdsNull s = false) (h' : holdsNull s' = false) :
    holdsNull (s ++ s') = false := by
  rw [holdsNull_eq_false_iff] at h h' ⊢
  rw [String.toList_append, List.mem_append, not_or]
  exact ⟨h, h'⟩

theorem holdsNull_joinStrings {pieces : List String} (h : ∀ s ∈ pieces, holdsNull s = false) :
    holdsNull (Text.joinStrings "/" pieces) = false := by
  induction pieces with
  | nil => rfl
  | cons first rest ih =>
    rw [List.forall_mem_cons] at h
    cases rest with
    | nil => exact h.1
    | cons next rest => exact holdsNull_append (holdsNull_append h.1 rfl) (ih h.2)

/-- The characters of a piece of a text are characters of the text. -/
theorem holdsNull_of_mem_cutAt {sep : Char} {piece : List Char} (h : holdsNull s = false)
    (hpiece : piece ∈ Text.cutAt sep s.toList) : holdsNull (String.ofList piece) = false := by
  rw [holdsNull_eq_false_iff] at h ⊢
  rw [String.toList_ofList]
  exact fun hnull => h (Text.subset_of_mem_cutAt hpiece hnull)

theorem isClean_ofString (h : holdsNull s = false) : (ofString s).IsClean where
  root := by
    unfold ofString rootOf
    dsimp only
    split <;> decide
  parts := by
    intro part hpart
    obtain ⟨piece, hpiece, rfl⟩ := List.mem_map.mp hpart
    exact holdsNull_of_mem_cutAt h (List.mem_filter.mp hpiece).1

theorem IsClean.join (hp : p.IsClean) (h : holdsNull s = false) : (p.join s).IsClean := by
  have hclean := isClean_ofString h
  unfold Path.join
  dsimp only
  split
  · exact ⟨hp.root, fun part hpart =>
      (List.mem_append.mp hpart).elim (hp.parts part) (hclean.parts part)⟩
  · exact hclean

theorem IsClean.foldl_join {segments : List String} (hp : p.IsClean)
    (h : ∀ s ∈ segments, holdsNull s = false) : (segments.foldl Path.join p).IsClean := by
  induction segments generalizing p with
  | nil => exact hp
  | cons s rest ih =>
    rw [List.forall_mem_cons] at h
    exact ih (hp.join h.1) h.2

theorem IsClean.parent (h : p.IsClean) : p.parent.IsClean :=
  ⟨h.root, fun part hpart => h.parts part (List.dropLast_subset _ hpart)⟩

theorem IsClean.holdsNull_text (h : p.IsClean) : holdsNull p.text = false := by
  unfold text
  split
  · rfl
  · exact holdsNull_append h.root (holdsNull_joinStrings h.parts)

theorem IsClean.holdsNull_name (h : p.IsClean) : holdsNull p.name = false := by
  unfold name
  cases hlast : p.parts.getLast? with
  | none => rfl
  | some part => exact h.parts part (List.mem_of_getLast? hlast)

end Files.Path

namespace Files.Store

variable {s : Store} {name : String}

theorem isClean_pathFor (hdirectory : Path.holdsNull s.directory = false)
    (hextension : Path.holdsNull s.extension = false) (hname : Path.holdsNull name = false) :
    (s.pathFor name).IsClean := by
  have hparts : ∀ part ∈ Text.cutString '.' name, Path.holdsNull part = false := by
    intro part hpart
    obtain ⟨piece, hpiece, rfl⟩ := List.mem_map.mp hpart
    exact Path.holdsNull_of_mem_cutAt hname hpiece
  refine (Path.isClean_ofString hdirectory).foldl_join fun segment hsegment => ?_
  rcases List.mem_append.mp hsegment with hfront | hlast
  · exact hparts segment (List.dropLast_subset _ hfront)
  · rw [List.mem_singleton.mp hlast]
    refine Path.holdsNull_append ?_ hextension
    cases hfound : (Text.cutString '.' name).getLast? with
    | none => rfl
    | some part => exact hparts part (List.mem_of_getLast? hfound)

/-- A write breaks off at a null character only. -/
theorem brokenOff?_of_isClean (h : (s.pathFor name).IsClean) (trouble : Trouble) (t : Tree) :
    s.brokenOff? trouble name t = none := by
  unfold brokenOff?
  rw [if_neg (by rw [h.parent.holdsNull_text]; exact Bool.false_ne_true),
    if_neg (by rw [h.holdsNull_name]; exact Bool.false_ne_true)]

end Files.Store

/-! ## Work and rounds -/

namespace CommandLine

/-- A workshop whose settings are texts: they make a style and a store, and no null character gets
into the paths of files. -/
structure Workshop.Fits (k : Workshop) (style : BuilderStyle) (store : Store) : Prop where
  made : k.generation.style? = some style
  below : k.directory = store.directory
  ending : k.extension.text? = some store.extension
  noNull : ∀ s ∈ [style.builderSuffix, store.directory, store.extension], Path.holdsNull s = false

namespace Workshop

variable {k : Workshop} {style : BuilderStyle} {store : Store} {b : Bean} {beans : List Bean}

theorem Fits.store_eq (h : k.Fits style store) : k.store store.extension = store := by
  rw [Workshop.store, h.below]

/-- The path for a builder is clean where the name of its bean is. -/
theorem Fits.isClean_pathFor (h : k.Fits style store) (hb : Path.holdsNull b.qualifiedName = false)
    {source : BuilderSource} (hmade : style.generate? {} b = .ok source) :
    (store.pathFor source.qualifiedName).IsClean := by
  have hnone := h.noNull
  simp only [List.forall_mem_cons] at hnone
  refine Store.isClean_pathFor hnone.2.1 hnone.2.2.1 ?_
  rw [BuilderStyle.qualifiedName_generate? hmade]
  exact Path.holdsNull_append hb hnone.1

/-- A builder is stored in the file for it. -/
theorem Fits.keep_eq (h : k.Fits style store) (hb : Path.holdsNull b.qualifiedName = false)
    {source : BuilderSource} (hmade : style.generate? {} b = .ok source) (t : Tree) :
    k.keep style b source t =
      match (store.destination k.trouble).write source.qualifiedName source.text t with
      | (.error e, t) => k.settledWork style store b (.unstored source e) t
      | (.ok (), t) => k.settledWork style store b (.stored source) t := by
  have hclean := Store.brokenOff?_of_isClean (h.isClean_pathFor hb hmade)
    (k.trouble source.qualifiedName) t
  rcases hwrite : (store.destination k.trouble).write source.qualifiedName source.text t with
    ⟨_ | _, t'⟩
  all_goals simp only [keep, h.ending, h.store_eq, hclean, hwrite]

/-- **The work on one bean** is what a round makes of it. -/
theorem workOn_eq (h : k.Fits style store) (hb : Path.holdsNull b.qualifiedName = false)
    (t : Tree) :
    k.workOn b t =
      k.settledWork style store b
        ((k.rules style).processOne (store.destination k.trouble) b t).1
        ((k.rules style).processOne (store.destination k.trouble) b t).2 := by
  unfold workOn RoundRules.processOne
  by_cases hnone : (b.objections k.strict k.requireConstructor).isEmpty = true
  · have hnone' : (b.objections (k.rules style).strict (k.rules style).requireConstructor).isEmpty =
        true := hnone
    rw [if_pos hnone, if_pos hnone', h.made]
    simp only [rules]
    cases hmade : style.generate? {} b with
    | error e => rfl
    | ok source =>
      simp only [h.keep_eq hb hmade]
      obtain ⟨answer, t⟩ := (store.destination k.trouble).write source.qualifiedName source.text t
      cases answer <;> rfl
  · have hnone' : ¬ (b.objections (k.rules style).strict
        (k.rules style).requireConstructor).isEmpty = true := hnone
    rw [if_neg hnone, if_neg hnone']
    rfl

/-- **The work on some beans** is a round, and nothing breaks it off. -/
theorem workOnAll_eq (h : k.Fits style store)
    (hbeans : ∀ b ∈ beans, Path.holdsNull b.qualifiedName = false) (t : Tree) :
    (k.workOnAll beans t).error = none ∧
      (k.workOnAll beans t).round = RoundRules.roundOf beans
        ((k.rules style).process (store.destination k.trouble) beans t).1 ∧
      (k.workOnAll beans t).tree =
        ((k.rules style).process (store.destination k.trouble) beans t).2 := by
  induction beans generalizing t with
  | nil => exact ⟨rfl, rfl, rfl⟩
  | cons b rest ih =>
    rw [List.forall_mem_cons] at hbeans
    simp only [workOnAll, workOn_eq h hbeans.1, settledWork, Option.isSome_none,
      Bool.false_eq_true, if_false, RoundRules.process, RoundRules.roundOf, Work.followedBy]
    obtain ⟨herror, hround, htree⟩ := ih hbeans.2
      ((k.rules style).processOne (store.destination k.trouble) b t).2
    exact ⟨herror, by rw [hround], htree⟩

end Workshop
end CommandLine
end BeanBuilder
