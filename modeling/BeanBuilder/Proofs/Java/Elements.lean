import BeanBuilder.Proofs.Java.ReadBeans
import BeanBuilder.Proofs.Java.RenderedType

/-! # Elements of containers that are read

The type of an element is cut out of the text of its container, between the first and the last angle
bracket.  These belong together where one segment of the container's name has arguments; the element
is then written like an argument, and its text is a type text.  Where two segments have arguments,
as in `List<A>.M<B>`, what is cut out closes a bracket that it does not open.

So elements that close only their own brackets are type texts (`isTypeText_of_element?`).
-/
namespace BeanBuilder

/-! ## Trimming a text that goes on -/

namespace Text

variable {v p : List Char} {d : Char}

theorem trimEnd_append_cons (hd : isBlank d = false) (v p : List Char) :
    trimEnd (v ++ d :: p) = v ++ d :: trimEnd p := by
  have hdrop : ∀ u : List Char, (u ++ d :: v.reverse).dropWhile isBlank =
      u.dropWhile isBlank ++ d :: v.reverse := by
    intro u
    induction u with
    | nil => rw [List.nil_append, List.dropWhile_cons, hd]; rfl
    | cons c u ih =>
      rw [List.cons_append, List.dropWhile_cons, List.dropWhile_cons]
      split
      · exact ih
      · rfl
  rw [trimEnd, List.reverse_append, List.reverse_cons, List.append_assoc, List.singleton_append,
    hdrop, trimEnd]
  simp

/-- Trimming leaves a tight text and a sign behind it alone. -/
theorem exists_trim_append_cons (hv : Tight v) (hd : isBlank d = false) (p : List Char) :
    ∃ q, trim (v ++ d :: p) = v ++ d :: q ∧ Tight (d :: q) := by
  refine ⟨trimEnd p, ?_, List.cons_ne_nil _ _, fun c hc => Option.some.inj hc ▸ hd, ?_⟩
  · have hstart : trimStart (v ++ d :: p) = v ++ d :: p := by
      cases v with
      | nil => exact absurd rfl hv.ne_nil
      | cons c v => rw [trimStart, List.cons_append, List.dropWhile_cons, hv.head c rfl]; rfl
    rw [trim, hstart, trimEnd_append_cons hd]
  · intro c hc
    cases htrim : trimEnd p with
    | nil =>
      rw [htrim] at hc
      exact Option.some.inj hc ▸ hd
    | cons e q =>
      rw [htrim, List.getLast?_cons_cons, ← htrim, trimEnd, List.getLast?_reverse] at hc
      have hnot := List.head?_dropWhile_not isBlank p.reverse
      rw [hc] at hnot
      simpa using hnot

theorem trim_cons_of_isBlank {b : Char} (hb : isBlank b = true) (w : List Char) :
    trim (b :: w) = trim w := by
  rw [trim, trimStart, List.dropWhile_cons_of_pos hb]
  rfl

theorem trim_append_ne_nil (hv : Tight v) (w : List Char) : trim (v ++ w) ≠ [] := by
  cases v with
  | nil => exact absurd rfl hv.ne_nil
  | cons c v =>
    have hc := hv.head c rfl
    rw [trim, trimStart, List.cons_append, List.dropWhile_cons, hc]
    exact ne_of_eq_of_ne (trimEnd_append_cons hc [] (v ++ w)) (List.cons_ne_nil _ _)

end Text

/-! ## Depth -/

namespace TypeText

variable {depth : Int} {u v w name : List Char}

/-- The depth of angle brackets behind a text. -/
def depthBehind (depth : Int) (w : List Char) : Int :=
  w.foldl depthAfter depth

/-- Whether the depth of angle brackets is never below zero. -/
def neverBelow : Int → List Char → Bool
  | _, [] => true
  | depth, c :: rest => decide (0 ≤ depthAfter depth c) && neverBelow (depthAfter depth c) rest

/-- Whether no angle bracket in a text closes one that the text does not open. -/
def closesOwn (type : String) : Bool :=
  neverBelow 0 type.toList

/-- The pieces of a longer text are cut where the depth behind its beginning tells. -/
theorem exists_topPieces_append (depth : Int) (v : List Char) :
    ∃ pieces last, ∀ rest, topPieces depth (v ++ rest) =
      pieces ++ headOnto last (topPieces (depthBehind depth v) rest) := by
  induction v generalizing depth with
  | nil => exact ⟨[], [], fun rest => Passes.nil depth rest⟩
  | cons c v ih =>
    obtain ⟨pieces, last, hpieces⟩ := ih (depthAfter depth c)
    have hbehind : depthBehind depth (c :: v) = depthBehind (depthAfter depth c) v := rfl
    by_cases hcut : c = ',' ∧ depthAfter depth c = 0
    · refine ⟨[] :: pieces, last, fun rest => ?_⟩
      rw [List.cons_append, topPieces, if_pos hcut, hbehind, List.cons_append, ← hpieces]
    · cases pieces with
      | nil =>
        refine ⟨[], c :: last, fun rest => ?_⟩
        rw [List.cons_append, topPieces_cons hcut, hpieces, hbehind, List.nil_append,
          List.nil_append, ← headOnto_append]
        rfl
      | cons piece pieces =>
        refine ⟨(c :: piece) :: pieces, last, fun rest => ?_⟩
        rw [List.cons_append, topPieces_cons hcut, hpieces, hbehind]
        rfl

/-- A text that stays in one piece closes what it opens. -/
theorem Passes.depthBehind_eq (h : Passes 0 w) : depthBehind 0 w = 0 := by
  by_contra hne
  obtain ⟨pieces, last, hpieces⟩ := exists_topPieces_append 0 w
  -- a comma behind the text would not be cut at
  have hcomma := hpieces [',']
  have hdeep : ¬ (',' = ',' ∧ depthAfter (depthBehind 0 w) ',' = 0) := fun hcut => hne hcut.2
  rw [h, topPieces_cons hdeep] at hcomma
  have hlast := congrArg List.getLast? hcomma
  simp [topPieces, depthAfter, headOnto] at hlast

theorem one_le_depthBehind (h : neverBelow depth (v ++ '>' :: w) = true) :
    1 ≤ depthBehind depth v := by
  induction v generalizing depth with
  | nil =>
    rw [List.nil_append, neverBelow, Bool.and_eq_true, decide_eq_true_eq] at h
    have hclose : depthAfter depth '>' = depth - 1 := rfl
    rw [depthBehind, List.foldl_nil]
    omega
  | cons c v ih =>
    rw [List.cons_append, neverBelow, Bool.and_eq_true] at h
    exact ih h.2

/-- A bracket that closes behind a whole text is not the text's own. -/
theorem Passes.neverBelow_eq_false (h : Passes 0 v) (w : List Char) :
    neverBelow 0 (v ++ '>' :: w) = false := by
  by_contra hne
  rw [Bool.not_eq_false] at hne
  have hdepth := one_le_depthBehind hne
  rw [h.depthBehind_eq] at hdepth
  omega

/-! ## Texts with two pairs of brackets -/

/-- What lies between the first bracket that opens and the last one that closes. -/
theorem bracketed?_eq_some (hname : ∀ c ∈ name, c ≠ '<') (hv : ∀ c ∈ v, c ≠ '>') :
    bracketed? (name ++ '<' :: (u ++ '>' :: v)) = some u := by
  have hdrop : (name ++ '<' :: (u ++ '>' :: v)).dropWhile (· ≠ '<') = '<' :: (u ++ '>' :: v) := by
    rw [List.dropWhile_append_of_pos (by simpa using hname), List.dropWhile_cons_of_neg (by decide)]
  have hreverse : (u ++ '>' :: v).reverse.dropWhile (· ≠ '>') = '>' :: u.reverse := by
    rw [List.reverse_append, List.reverse_cons, List.append_assoc, List.singleton_append,
      List.dropWhile_append_of_pos (by simpa using hv), List.dropWhile_cons_of_neg (by decide)]
  rw [bracketed?, hdrop]
  simp only [hreverse, List.reverse_reverse]

/-- The last bracket that closes is the one behind the arguments, or one further behind. -/
theorem bracketed?_cases (hname : ∀ c ∈ name, c ≠ '<') (u w : List Char) :
    bracketed? (name ++ '<' :: (u ++ '>' :: w)) = some u ∨
      ∃ between, bracketed? (name ++ '<' :: (u ++ '>' :: w)) = some (u ++ '>' :: between) := by
  by_cases hw : '>' ∈ w
  · obtain ⟨behind, between, hsplit, hnot⟩ :=
      List.eq_append_cons_of_mem (List.mem_reverse.mpr hw)
    have htext : w = between.reverse ++ '>' :: behind.reverse := by
      rw [← List.reverse_reverse w, hsplit]
      simp
    have hbehind : ∀ c ∈ behind.reverse, c ≠ '>' :=
      fun c hc heq => hnot (heq ▸ List.mem_reverse.mp hc)
    have hsome := bracketed?_eq_some (u := u ++ '>' :: between.reverse) hname hbehind
    rw [List.append_assoc, List.cons_append] at hsome
    exact Or.inr ⟨between.reverse, htext ▸ hsome⟩
  · exact Or.inl (bracketed?_eq_some hname fun c hc heq => hw (heq ▸ hc))

theorem eq_trim_of_trimmedPieces_eq {piece : List Char} {pieces : List (List Char)}
    (h : trimmedPieces (piece :: pieces) = [w]) : w = Text.trim piece := by
  cases pieces with
  | nil =>
    rw [trimmedPieces] at h
    split at h
    · cases h
    · exact (List.head_eq_of_cons_eq h).symm
  | cons next more =>
    rw [trimmedPieces] at h
    · exact (List.head_eq_of_cons_eq h).symm
    · intro h
      cases h

theorem trimmedPieces_ne_nil {piece : List Char} (h : Text.trim piece ≠ [])
    (pieces : List (List Char)) : trimmedPieces (piece :: pieces) ≠ [] := by
  cases pieces with
  | nil =>
    rw [trimmedPieces, if_neg h]
    exact List.cons_ne_nil _ _
  | cons next more =>
    rw [trimmedPieces]
    · exact List.cons_ne_nil _ _
    · intro h
      cases h

/-- If more brackets follow those around some arguments, an only argument begins with the only one
of these, and goes on with the bracket that closes behind it. -/
theorem exists_of_bracketed?_between {type argument : String} {ws : List (List Char)}
    (hw : Passes 0 w) (ht : Text.Tight w) (hws : ∀ v ∈ ws, Passes 0 v ∧ Text.Tight v)
    (hbracketed : bracketed? type.toList = some (w ++ furtherList ws ++ '>' :: v))
    (h : arguments type = [argument]) :
    ws = [] ∧ ∃ q, Text.Tight ('>' :: q) ∧ argument.toList = w ++ '>' :: q := by
  rw [arguments, hbracketed] at h
  obtain ⟨only, honly, hargument⟩ := List.map_eq_singleton_iff.mp h
  cases ws with
  | nil =>
    obtain ⟨piece, pieces, hpieces⟩ := List.exists_cons_of_ne_nil (topPieces_ne_nil (-1) v)
    have htop : topPieces 0 (w ++ furtherList [] ++ '>' :: v) = (w ++ '>' :: piece) :: pieces := by
      have hclose : depthAfter 0 '>' = -1 := rfl
      rw [furtherList, List.append_nil, hw, topPieces_cons fun h => absurd h.1 (by decide), hclose,
        hpieces]
      rfl
    rw [htop] at honly
    obtain ⟨q, htrim, hq⟩ := Text.exists_trim_append_cons ht (by decide : Text.isBlank '>' = false)
      piece
    refine ⟨rfl, q, hq, ?_⟩
    rw [← hargument, String.toList_ofList, eq_trim_of_trimmedPieces_eq honly, htrim]
  | cons next more =>
    -- behind the comma there is another piece, which is not blank
    obtain ⟨hnext, htight⟩ := hws next List.mem_cons_self
    have hblank : Passes 0 (' ' :: next) := (Passes.of_all rfl : Passes 0 [' ']).append hnext
    obtain ⟨piece, pieces, hpieces⟩ :=
      List.exists_cons_of_ne_nil (topPieces_ne_nil 0 (furtherList more ++ '>' :: v))
    have htop : topPieces 0 (w ++ furtherList (next :: more) ++ '>' :: v) =
        w :: (' ' :: (next ++ piece)) :: pieces := by
      have htext : w ++ furtherList (next :: more) ++ '>' :: v =
          w ++ ',' :: ((' ' :: next) ++ (furtherList more ++ '>' :: v)) := by
        rw [furtherList]
        simp only [List.append_assoc, List.cons_append]
      rw [htext, hw, topPieces_zero_comma, hblank, hpieces]
      exact congrArg (· :: _) (List.append_nil w)
    rw [htop, trimmedPieces] at honly
    · have hnonblank : Text.trim (' ' :: (next ++ piece)) ≠ [] := by
        rw [Text.trim_cons_of_isBlank rfl]
        exact Text.trim_append_ne_nil htight piece
      exact absurd (List.tail_eq_of_cons_eq honly) (trimmedPieces_ne_nil hnonblank pieces)
    · intro h
      cases h

end TypeText

namespace Java

open TypeText (Passes furtherList)
open Text (Tight)

/-! ## Readable types are well named -/

mutual

theorem JavaType.Readable.wellNamed : ∀ {type : JavaType}, type.Readable → type.WellNamed
  | .basic _ _, h => isName_of_wordKind_basicType h
  | .named path _, h => TypePath.Readable.wellNamed (show path.Readable from h)

theorem TypePath.Readable.wellNamed : ∀ {path : TypePath}, path.Readable → path.WellNamed
  | .last _ _, h => ⟨h.1.1, ArgumentsReadable.wellNamed h.2⟩
  | .outer _ _ _, h => ⟨h.1.1, ArgumentsReadable.wellNamed h.2.1, TypePath.Readable.wellNamed h.2.2⟩

theorem ArgumentsReadable.wellNamed : ∀ {as : List TypeArgument}, ArgumentsReadable as →
    ArgumentsWellNamed as
  | [], _ => trivial
  | _ :: _, h => ⟨TypeArgument.Readable.wellNamed h.1, ArgumentsReadable.wellNamed h.2⟩

theorem TypeArgument.Readable.wellNamed : ∀ {a : TypeArgument}, a.Readable → a.WellNamed
  | .any, _ => trivial
  | .exact _, h => JavaType.Readable.wellNamed h.2
  | .upper _, h => JavaType.Readable.wellNamed h.2
  | .lower _, h => JavaType.Readable.wellNamed h.2

end

/-! ## The first brackets of a type -/

/-- Characters that have no bracket, or whose first brackets stand around readable arguments. -/
def BracketsArguments (w : List Char) : Prop :=
  (∀ c ∈ w, c ≠ '<') ∨ ∃ (name : List Char) (a : TypeArgument) (more : List TypeArgument)
    (tail : List Char), (∀ c ∈ name, c ≠ '<') ∧ a.Readable ∧ ArgumentsReadable more ∧
      w = name ++ '<' :: (a.characters id ++ furtherList (more.map (TypeArgument.characters id)) ++
        '>' :: tail)

theorem BracketsArguments.cons_append {v w : List Char} (hv : ∀ c ∈ v, c ≠ '<')
    (hw : BracketsArguments w) : BracketsArguments (v ++ w) := by
  rcases hw with hnone | ⟨name, a, more, tail, hname, ha, hmore, rfl⟩
  · exact Or.inl fun c hc => (List.mem_append.mp hc).elim (hv c) (hnone c)
  · refine Or.inr ⟨v ++ name, a, more, tail, ?_, ha, hmore, (List.append_assoc _ _ _).symm⟩
    exact fun c hc => (List.mem_append.mp hc).elim (hv c) (hname c)

theorem BracketsArguments.append {v w : List Char} (hw : BracketsArguments w)
    (hv : ∀ c ∈ v, c ≠ '<') : BracketsArguments (w ++ v) := by
  rcases hw with hnone | ⟨name, a, more, tail, hname, ha, hmore, rfl⟩
  · exact Or.inl fun c hc => (List.mem_append.mp hc).elim (hnone c) (hv c)
  · refine Or.inr ⟨name, a, more, tail ++ v, hname, ha, hmore, ?_⟩
    simp only [List.append_assoc, List.cons_append]

theorem ne_open_of_isName {name : String} (h : isName name = true) :
    ∀ c ∈ name.toList, c ≠ '<' :=
  (PathText.of_isName h).ne_of_mem (by decide) (by decide)

theorem TypePath.bracketsArguments : ∀ {path : TypePath}, path.Readable →
    BracketsArguments (path.render id id).toList
  | .last name [], h => by
    rw [TypePath.render, argumentsText, String.append_empty]
    exact Or.inl (ne_open_of_isName h.1.1)
  | .last name (a :: more), h => by
    rw [TypePath.render, String.toList_append, toList_argumentsText_cons]
    exact Or.inr ⟨name.toList, a, more, [], ne_open_of_isName h.1.1, h.2.1, h.2.2, rfl⟩
  | .outer name [] inner, h => by
    rw [TypePath.render, argumentsText, String.append_empty, String.toList_append,
      String.toList_append]
    refine (TypePath.bracketsArguments h.2.2).cons_append fun c hc => ?_
    rcases List.mem_append.mp hc with hname | hpoint
    · exact ne_open_of_isName h.1.1 c hname
    · exact List.mem_singleton.mp hpoint ▸ by decide
  | .outer name (a :: more) inner, h => by
    rw [TypePath.render, String.toList_append, String.toList_append, String.toList_append,
      toList_argumentsText_cons]
    refine Or.inr ⟨name.toList, a, more, ".".toList ++ (inner.render id id).toList,
      ne_open_of_isName h.1.1, h.2.1.1, h.2.1.2, ?_⟩
    simp only [List.append_assoc, List.cons_append, List.nil_append]

theorem JavaType.bracketsArguments {type : JavaType} (h : type.Readable) :
    BracketsArguments (type.render id).toList := by
  have hdimensions : ∀ n, ∀ c ∈ (dimensionText n).toList, c ≠ '<' := by
    intro n c hc
    rcases mem_toList_dimensionText hc with rfl | rfl <;> decide
  cases type with
  | basic name n =>
    rw [JavaType.render, String.toList_append]
    have hname : BracketsArguments name.toList :=
      Or.inl (ne_open_of_isName (isName_of_wordKind_basicType h))
    exact hname.append (hdimensions n)
  | named path n =>
    rw [JavaType.render, String.toList_append]
    exact (TypePath.bracketsArguments h).append (hdimensions n)

/-! ## Elements -/

theorem isTypeText_of_elementOf {as : List TypeArgument} {element : String}
    (has : ArgumentsReadable as) (h : elementOf id as = some element) : IsTypeText element := by
  match as with
  | [.exact type] => exact ⟨type, has.1.2, Option.some.inj h⟩
  | [.lower bound] => exact ⟨bound, has.1.2, Option.some.inj h⟩
  | [] => exact nomatch h
  | [.any] => exact nomatch h
  | [.upper _] => exact nomatch h
  | a :: b :: more => cases a <;> exact nomatch h

/-- What an argument tells of an element, if a bracket that closes follows it. -/
theorem closesOwn_eq_false {type argument element : String} {a : TypeArgument} {q : List Char}
    (ha : a.Readable) (hq : Tight ('>' :: q))
    (hargument : argument.toList = a.characters id ++ '>' :: q)
    (harguments : TypeText.arguments type = [argument])
    (h : TypeText.element? type = some element) : TypeText.closesOwn element = false := by
  have hwell := ha.wellNamed
  cases a with
  | any =>
    rw [TypeArgument.characters_any] at hargument
    rw [TypeText.element?_of_wildcard harguments hargument] at h
    have hnone : TypeText.lowerBound? ('>' :: q) = none := by
      rw [TypeText.lowerBound?, hq.trim_eq]
      rfl
    cases hnone.symm.trans h
  | exact inner =>
    rw [TypeArgument.characters_exact] at hargument
    have hhead : ∀ c ∈ argument.toList.head?, c ≠ '?' := by
      rw [hargument, List.head?_append_of_ne_nil _ (inner.tight_render keepsNames_id hwell).ne_nil]
      exact JavaType.head?_render_ne keepsNames_id hwell
    rw [TypeText.element?_of_exact harguments hhead] at h
    obtain rfl := Option.some.inj h
    rw [TypeText.closesOwn, hargument]
    exact (inner.passes_render keepsNames_id hwell (by decide)).neverBelow_eq_false q
  | upper bound =>
    rw [TypeArgument.characters_upper, List.append_assoc] at hargument
    have htight : Tight ((bound.render id).toList ++ '>' :: q) :=
      (bound.tight_render keepsNames_id hwell).append hq
    have hmark : argument.toList =
        '?' :: (" extends ".toList ++ ((bound.render id).toList ++ '>' :: q)) := hargument
    rw [TypeText.element?_of_wildcard harguments hmark, TypeText.lowerBound?_extends htight] at h
    cases h
  | lower bound =>
    rw [TypeArgument.characters_lower, List.append_assoc] at hargument
    have htight : Tight ((bound.render id).toList ++ '>' :: q) :=
      (bound.tight_render keepsNames_id hwell).append hq
    have hmark : argument.toList =
        '?' :: (" super ".toList ++ ((bound.render id).toList ++ '>' :: q)) := hargument
    rw [TypeText.element?_of_wildcard harguments hmark, TypeText.lowerBound?_super htight] at h
    obtain rfl := Option.some.inj h
    rw [TypeText.closesOwn, String.toList_ofList]
    exact (bound.passes_render keepsNames_id hwell (by decide)).neverBelow_eq_false q

/-- **An element that closes only its own brackets** is a type text, if it comes from one. -/
theorem isTypeText_of_element? {type element : String} (htype : IsTypeText type)
    (h : TypeText.element? type = some element) (hclose : TypeText.closesOwn element = true) :
    IsTypeText element := by
  obtain ⟨t, ht, rfl⟩ := htype
  rcases JavaType.bracketsArguments ht with hnone | ⟨name, a, more, tail, hname, ha, hmore, htext⟩
  · -- without brackets there are no arguments
    rw [TypeText.element?, TypeText.arguments, TypeText.bracketed?_of_forall hnone] at h
    cases h
  have hfirst := a.passes_render keepsNames_id ha.wellNamed (le_refl 0)
  have htight := TypeArgument.tight_characters keepsNames_id ha.wellNamed
  have hfurther : ∀ v ∈ more.map (TypeArgument.characters id), Passes 0 v ∧ Tight v := by
    intro v hv
    obtain ⟨b, hb, rfl⟩ := List.mem_map.mp hv
    have hwell := argumentsWellNamed_iff.mp hmore.wellNamed b hb
    exact ⟨b.passes_render keepsNames_id hwell (le_refl 0),
      TypeArgument.tight_characters keepsNames_id hwell⟩
  rcases TypeText.bracketed?_cases hname _ tail with hwhole | ⟨between, hbetween⟩
  · -- the arguments are all that lies between the brackets
    rw [← htext] at hwhole
    have harguments : TypeText.arguments (t.render id) =
        (a :: more).map (TypeArgument.render id) := by
      rw [TypeText.arguments, hwhole]
      simp only [TypeText.trimmedPieces_furtherList hfirst htight hfurther, List.map_cons,
        List.map_map]
      exact congrArg₂ List.cons String.ofList_toList
        (List.map_congr_left fun b _ => String.ofList_toList)
    have hall : ArgumentsReadable (a :: more) := ⟨ha, hmore⟩
    rw [JavaType.element?_of_arguments keepsNames_id (argumentsWellNamed_iff.mp hall.wellNamed)
      harguments] at h
    exact isTypeText_of_elementOf hall h
  · -- an element would begin with the argument and the bracket that closes behind it
    rw [← htext] at hbetween
    obtain ⟨argument, harguments⟩ : ∃ argument, TypeText.arguments (t.render id) = [argument] := by
      rw [TypeText.element?] at h
      split at h
      · rename_i argument harguments
        exact ⟨argument, harguments⟩
      · cases h
    obtain ⟨-, q, hq, hargument⟩ :=
      TypeText.exists_of_bracketed?_between hfirst htight hfurther hbetween harguments
    rw [closesOwn_eq_false ha hq hargument harguments h] at hclose
    cases hclose

end Java

end BeanBuilder
