import BeanBuilder.Proofs.Java.Names

/-! # Types that are written and taken apart again

A type is written with the names in it resolved, and later only its text is looked at.  This loses
nothing that is asked of it: where only the last segment of the name has arguments and the type is
no array, the raw type of the text is the dotted name, the arguments of the text are the written
arguments, and its element type is the one argument or the lower bound of the one wildcard
(`split_renderIn`).

The names in the type are words, and what the scope imports are paths of words, as in every source
that can be read.  The proof follows the structure of types.  At any depth of brackets the text of
a type stays in one piece (`JavaType.passes_render`), and it neither begins nor ends with a blank
(`JavaType.tight_render`).
-/
namespace BeanBuilder
namespace Java

open TypeText (Passes furtherList)
open Text (Tight)

variable {resolve : Resolve} {depth : Int}

/-! ## Arguments and dimensions -/

theorem toList_dimensionText (n : Nat) :
    (dimensionText n).toList = (List.replicate n ['[', ']']).flatten := by
  induction n with
  | zero => rfl
  | succ n ih =>
    rw [dimensionText] at ih ⊢
    rw [Text.repeated, String.toList_append, ih]
    rfl

theorem mem_toList_dimensionText {n : Nat} {c : Char} (hc : c ∈ (dimensionText n).toList) :
    c = '[' ∨ c = ']' := by
  rw [toList_dimensionText, List.mem_flatten] at hc
  obtain ⟨l, hl, hc⟩ := hc
  rw [List.eq_of_mem_replicate hl] at hc
  simpa using hc

theorem passes_dimensionText (n : Nat) : Passes depth (dimensionText n).toList := by
  refine Passes.of_forall fun c hc => ?_
  rcases mem_toList_dimensionText hc with rfl | rfl <;> decide

theorem tight_dimensionText (n : Nat) :
    (dimensionText n).toList = [] ∨ Tight (dimensionText n).toList := by
  by_cases hn : (dimensionText n).toList = []
  · exact Or.inl hn
  · refine Or.inr (Tight.of_forall hn fun c hc => ?_)
    rcases mem_toList_dimensionText hc with rfl | rfl <;> decide

/-- The text of an argument, character by character. -/
def TypeArgument.characters (resolve : Resolve) (a : TypeArgument) : List Char :=
  (a.render resolve).toList

theorem TypeArgument.characters_any (resolve : Resolve) :
    TypeArgument.characters resolve .any = ['?'] := by
  rw [characters, render]
  rfl

theorem TypeArgument.characters_exact (resolve : Resolve) (type : JavaType) :
    TypeArgument.characters resolve (.exact type) = (type.render resolve).toList := by
  rw [characters, render]

theorem TypeArgument.characters_upper (resolve : Resolve) (bound : JavaType) :
    TypeArgument.characters resolve (.upper bound) =
      "? extends ".toList ++ (bound.render resolve).toList := by
  rw [characters, render, String.toList_append]

theorem TypeArgument.characters_lower (resolve : Resolve) (bound : JavaType) :
    TypeArgument.characters resolve (.lower bound) =
      "? super ".toList ++ (bound.render resolve).toList := by
  rw [characters, render, String.toList_append]

theorem toList_furtherText (resolve : Resolve) (arguments : List TypeArgument) :
    (furtherText resolve arguments).toList =
      furtherList (arguments.map (TypeArgument.characters resolve)) := by
  induction arguments with
  | nil => rfl
  | cons a rest ih =>
    rw [furtherText, String.toList_append, String.toList_append, ih]
    rfl

theorem toList_argumentsText_cons (resolve : Resolve) (a : TypeArgument)
    (rest : List TypeArgument) :
    (argumentsText resolve (a :: rest)).toList =
      '<' :: (a.characters resolve ++
        furtherList (rest.map (TypeArgument.characters resolve)) ++ ['>']) := by
  rw [argumentsText]
  simp only [String.toList_append, toList_furtherText, List.append_assoc]
  rfl

theorem tight_argumentsText (resolve : Resolve) (arguments : List TypeArgument) :
    (argumentsText resolve arguments).toList = [] ∨
      Tight (argumentsText resolve arguments).toList := by
  cases arguments with
  | nil => exact Or.inl rfl
  | cons a rest =>
    rw [toList_argumentsText_cons]
    exact Or.inr (Tight.between (by decide) (by decide) _)

/-! ## No piece ends inside a type -/

mutual

/-- **The text of a type stays in one piece** at any depth of brackets. -/
theorem JavaType.passes_render (hr : Resolve.KeepsNames resolve) :
    ∀ (type : JavaType) {depth : Int}, type.WellNamed → 0 ≤ depth →
      Passes depth (type.render resolve).toList
  | .basic name n, depth, hn, _ => by
    rw [JavaType.render, String.toList_append]
    exact ((PathText.of_isName hn).passes depth).append (passes_dimensionText n)
  | .named path n, _, hn, hd => by
    rw [JavaType.render, String.toList_append]
    exact (path.passes_render hr hr hn hd).append (passes_dimensionText n)

theorem TypePath.passes_render (hr : Resolve.KeepsNames resolve) :
    ∀ (path : TypePath) {resolveHead : Resolve} {depth : Int}, Resolve.KeepsNames resolveHead →
      path.WellNamed → 0 ≤ depth → Passes depth (path.render resolve resolveHead).toList
  | .last name arguments, _, depth, hhead, hn, hd => by
    rw [TypePath.render, String.toList_append]
    exact ((hhead name hn.1).passes depth).append (passes_argumentsText hr arguments hn.2 hd)
  | .outer name arguments inner, _, depth, _, hn, hd => by
    rw [TypePath.render, String.toList_append, String.toList_append, String.toList_append]
    exact ((((PathText.of_isName hn.1).passes depth).append
      (passes_argumentsText hr arguments hn.2.1 hd)).append (PathText.point.passes depth)).append
        (inner.passes_render hr keepsNames_id hn.2.2 hd)

theorem passes_argumentsText (hr : Resolve.KeepsNames resolve) :
    ∀ (arguments : List TypeArgument) {depth : Int}, ArgumentsWellNamed arguments → 0 ≤ depth →
      Passes depth (argumentsText resolve arguments).toList
  | [], depth, _, _ => Passes.nil depth
  | a :: rest, depth, hn, hd => by
    have hdeeper : 0 ≤ depth + 1 := by omega
    have hinside : depth + 1 ≠ 0 := by omega
    rw [toList_argumentsText_cons]
    exact Passes.brackets ((a.passes_render hr hn.1 hdeeper).append
      (Passes.furtherList hinside (passes_arguments hr rest hn.2 hdeeper)))

/-- Each of some arguments stays in one piece. -/
theorem passes_arguments (hr : Resolve.KeepsNames resolve) :
    ∀ (arguments : List TypeArgument) {depth : Int}, ArgumentsWellNamed arguments → 0 ≤ depth →
      ∀ w ∈ arguments.map (TypeArgument.characters resolve), Passes depth w
  | [], _, _, _, _, hw => absurd hw List.not_mem_nil
  | a :: rest, _, hn, hd, w, hw => by
    rcases List.mem_cons.mp hw with rfl | hrest
    · exact a.passes_render hr hn.1 hd
    · exact passes_arguments hr rest hn.2 hd w hrest

theorem TypeArgument.passes_render (hr : Resolve.KeepsNames resolve) :
    ∀ (a : TypeArgument) {depth : Int}, a.WellNamed → 0 ≤ depth →
      Passes depth (a.characters resolve)
  | .any, _, _, _ => by
    rw [TypeArgument.characters_any]
    exact Passes.of_all rfl
  | .exact type, _, hn, hd => by
    rw [TypeArgument.characters_exact]
    exact type.passes_render hr hn hd
  | .upper bound, _, hn, hd => by
    rw [TypeArgument.characters_upper]
    exact (Passes.of_all rfl).append (bound.passes_render hr hn hd)
  | .lower bound, _, hn, hd => by
    rw [TypeArgument.characters_lower]
    exact (Passes.of_all rfl).append (bound.passes_render hr hn hd)

end

/-! ## No blanks around a type -/

theorem TypePath.tight_render (resolve : Resolve) :
    ∀ (path : TypePath) {resolveHead : Resolve}, Resolve.KeepsNames resolveHead →
      path.WellNamed → Tight (path.render resolve resolveHead).toList
  | .last name arguments, _, hhead, hn => by
    rw [TypePath.render, String.toList_append]
    exact (hhead name hn.1).tight.append_of (tight_argumentsText resolve arguments)
  | .outer name arguments inner, _, _, hn => by
    rw [TypePath.render, String.toList_append, String.toList_append, String.toList_append]
    exact (((PathText.of_isName hn.1).tight.append_of
      (tight_argumentsText resolve arguments)).append PathText.point.tight).append
        (inner.tight_render resolve keepsNames_id hn.2.2)

/-- **The text of a type neither begins nor ends with a blank.** -/
theorem JavaType.tight_render (hr : Resolve.KeepsNames resolve) {type : JavaType}
    (hn : type.WellNamed) : Tight (type.render resolve).toList := by
  cases type with
  | basic name n =>
    rw [JavaType.render, String.toList_append]
    exact (PathText.of_isName hn).tight.append_of (tight_dimensionText n)
  | named path n =>
    rw [JavaType.render, String.toList_append]
    exact (path.tight_render resolve hr hn).append_of (tight_dimensionText n)

theorem TypeArgument.tight_characters (hr : Resolve.KeepsNames resolve) {a : TypeArgument}
    (hn : a.WellNamed) : Tight (a.characters resolve) := by
  cases a with
  | any =>
    rw [characters_any]
    exact Tight.of_forall (List.cons_ne_nil _ _) fun c hc => List.mem_singleton.mp hc ▸ rfl
  | exact type =>
    rw [characters_exact]
    exact type.tight_render hr hn
  | upper bound =>
    rw [characters_upper]
    exact Tight.cons_append (by decide) " extends ".toList (bound.tight_render hr hn)
  | lower bound =>
    rw [characters_lower]
    exact Tight.cons_append (by decide) " super ".toList (bound.tight_render hr hn)

/-! ## The parts of a type -/

/-- The segments of a path, without their arguments. -/
def TypePath.segments : TypePath → List String
  | .last name _ => [name]
  | .outer name _ inner => name :: inner.segments

/-- The arguments of the last segment. -/
def TypePath.finalArguments : TypePath → List TypeArgument
  | .last _ arguments => arguments
  | .outer _ _ inner => inner.finalArguments

/-- No segment but the last one has arguments. -/
def TypePath.ArgumentsOnlyLast : TypePath → Prop
  | .last _ _ => True
  | .outer _ arguments inner => arguments = [] ∧ inner.ArgumentsOnlyLast

namespace JavaType

/-- The number of dimensions of an array type, zero for any other type. -/
def dimensions : JavaType → Nat
  | basic _ dimensions => dimensions
  | named _ dimensions => dimensions

/-- The name without arguments: an unqualified one resolved, a qualified one as it is. -/
def dottedName (resolve : Resolve) : JavaType → String
  | basic name _ => name
  | named path _ =>
    match path.segments with
    | [name] => resolve name
    | names => Text.joinStrings "." names

/-- The arguments of the last segment of the name. -/
def arguments : JavaType → List TypeArgument
  | basic _ _ => []
  | named path _ => path.finalArguments

/-- No segment of the name but the last one has arguments. -/
def ArgumentsOnlyLast : JavaType → Prop
  | basic _ _ => True
  | named path _ => path.ArgumentsOnlyLast

end JavaType

/-- The type of an element that some arguments tell: the only argument, or its lower bound. -/
def elementOf (resolve : Resolve) : List TypeArgument → Option String
  | [.exact type] => some (type.render resolve)
  | [.lower bound] => some (bound.render resolve)
  | _ => none

/-! ## A type as its name and its arguments -/

theorem TypePath.segments_ne_nil (path : TypePath) : path.segments ≠ [] := by
  cases path <;> exact List.cons_ne_nil _ _

theorem TypePath.isName_of_mem_segments :
    ∀ path : TypePath, path.WellNamed → ∀ name ∈ path.segments, isName name = true
  | .last _ _, hn, _, hmem => List.mem_singleton.mp hmem ▸ hn.1
  | .outer _ _ inner, hn, _, hmem => by
    rcases List.mem_cons.mp hmem with rfl | hinner
    · exact hn.1
    · exact inner.isName_of_mem_segments hn.2.2 _ hinner

theorem TypePath.wellNamed_finalArguments :
    ∀ path : TypePath, path.WellNamed → ArgumentsWellNamed path.finalArguments
  | .last _ _, hn => hn.2
  | .outer _ _ inner, hn => inner.wellNamed_finalArguments hn.2.2

/-- Where only the last segment has arguments, they stand behind the whole name. -/
theorem TypePath.render_id_eq (resolve : Resolve) :
    ∀ path : TypePath, path.ArgumentsOnlyLast →
      path.render resolve id =
        Text.joinStrings "." path.segments ++ argumentsText resolve path.finalArguments
  | .last _ _, _ => rfl
  | .outer name arguments inner, h => by
    obtain ⟨m, more, hm⟩ := List.exists_cons_of_ne_nil inner.segments_ne_nil
    have hjoin : Text.joinStrings "." (name :: m :: more) =
        name ++ "." ++ Text.joinStrings "." (m :: more) := rfl
    rw [TypePath.render, inner.render_id_eq resolve h.2, h.1, segments, finalArguments, hm, hjoin,
      argumentsText, String.append_empty]
    simp only [String.append_assoc]

namespace JavaType

variable {type : JavaType}

theorem render_eq_dottedName_append (resolve : Resolve) (hd : type.dimensions = 0)
    (hl : type.ArgumentsOnlyLast) :
    type.render resolve = type.dottedName resolve ++ argumentsText resolve type.arguments := by
  cases type with
  | basic name n =>
    obtain rfl : n = 0 := hd
    rfl
  | named path n =>
    obtain rfl : n = 0 := hd
    rw [render, dimensionText, Text.repeated, String.append_empty]
    cases path with
    | last name arguments => rfl
    | outer name arguments inner =>
      obtain ⟨m, more, hm⟩ := List.exists_cons_of_ne_nil inner.segments_ne_nil
      have hrender := (TypePath.outer name arguments inner).render_id_eq resolve hl
      rw [TypePath.render] at hrender ⊢
      rw [hrender, dottedName, JavaType.arguments, TypePath.segments, hm]

/-- The dotted name of a type is a path text. -/
theorem pathText_dottedName (hr : Resolve.KeepsNames resolve) (hn : type.WellNamed) :
    PathText (type.dottedName resolve) := by
  cases type with
  | basic name n => exact PathText.of_isName hn
  | named path n =>
    have hnames := path.isName_of_mem_segments hn
    rw [dottedName]
    split
    · rename_i name hs
      exact hr name (hnames name (hs ▸ List.mem_singleton_self _))
    · exact PathText.of_isDotted ⟨path.segments, path.segments_ne_nil, hnames, rfl⟩

theorem ne_of_mem_dottedName (hr : Resolve.KeepsNames resolve) (hn : type.WellNamed) :
    ∀ c ∈ (type.dottedName resolve).toList, c ≠ '<' :=
  (pathText_dottedName hr hn).ne_of_mem (by decide) (by decide)

theorem wellNamed_of_mem_arguments (hn : type.WellNamed) {a : TypeArgument}
    (ha : a ∈ type.arguments) : a.WellNamed := by
  cases type with
  | basic name n => exact absurd ha List.not_mem_nil
  | named path n => exact argumentsWellNamed_iff.mp (path.wellNamed_finalArguments hn) a ha

/-- A type begins with a name, and so not like a wildcard. -/
theorem head?_render_ne (hr : Resolve.KeepsNames resolve) (hn : type.WellNamed) :
    ∀ c ∈ (type.render resolve).toList.head?, c ≠ '?' := by
  have hstart : ∀ {name : String} (w : List Char), PathText name →
      ∀ c ∈ (name.toList ++ w).head?, c ≠ '?' := by
    intro name w hname c hc
    rw [List.head?_append_of_ne_nil _ hname.ne_nil] at hc
    exact hname.ne_of_mem (by decide) (by decide) c (List.mem_of_mem_head? hc)
  cases type with
  | basic name n =>
    rw [render, String.toList_append]
    exact hstart _ (PathText.of_isName hn)
  | named path n =>
    cases path with
    | last name arguments =>
      rw [render, TypePath.render, String.toList_append, String.toList_append, List.append_assoc]
      exact hstart _ (hr name hn.1)
    | outer name arguments inner =>
      rw [render, TypePath.render]
      simp only [String.toList_append, List.append_assoc]
      exact hstart _ (PathText.of_isName hn.1)

/-! ## The text of a type taken apart -/

theorem raw_render (hr : Resolve.KeepsNames resolve) (hn : type.WellNamed)
    (hd : type.dimensions = 0) (hl : type.ArgumentsOnlyLast) :
    TypeText.raw (type.render resolve) = type.dottedName resolve := by
  have hname := pathText_dottedName hr hn
  have hopen := ne_of_mem_dottedName hr hn
  have hbefore : TypeText.beforeBracket (type.render resolve).toList =
      (type.dottedName resolve).toList := by
    rw [render_eq_dottedName_append resolve hd hl, String.toList_append]
    cases type.arguments with
    | nil =>
      rw [argumentsText, String.toList_empty, List.append_nil]
      exact TypeText.beforeBracket_of_forall hopen
    | cons a rest =>
      rw [toList_argumentsText_cons]
      exact TypeText.beforeBracket_append_bracket hopen _
  rw [TypeText.raw, hbefore, hname.tight.trim_eq, String.ofList_toList]

theorem arguments_render (hr : Resolve.KeepsNames resolve) (hn : type.WellNamed)
    (hd : type.dimensions = 0) (hl : type.ArgumentsOnlyLast) :
    TypeText.arguments (type.render resolve) =
      type.arguments.map (TypeArgument.render resolve) := by
  have hopen := ne_of_mem_dottedName hr hn
  have hwhole : ∀ a ∈ type.arguments,
      Passes 0 (a.characters resolve) ∧ Tight (a.characters resolve) := fun a ha =>
    have hwell := wellNamed_of_mem_arguments hn ha
    ⟨a.passes_render hr hwell (by decide), TypeArgument.tight_characters hr hwell⟩
  have htext := congrArg String.toList (render_eq_dottedName_append resolve hd hl)
  rw [String.toList_append] at htext
  cases hargs : type.arguments with
  | nil =>
    rw [hargs, argumentsText, String.toList_empty, List.append_nil] at htext
    rw [TypeText.arguments, htext, TypeText.bracketed?_of_forall hopen, List.map_nil]
  | cons a rest =>
    rw [hargs] at hwhole
    rw [hargs, toList_argumentsText_cons] at htext
    obtain ⟨hfirst, htight⟩ := hwhole a List.mem_cons_self
    have hfurther : ∀ v ∈ rest.map (TypeArgument.characters resolve),
        Passes 0 v ∧ Tight v := by
      intro v hv
      obtain ⟨b, hb, rfl⟩ := List.mem_map.mp hv
      exact hwhole b (List.mem_cons_of_mem _ hb)
    rw [TypeText.arguments_of_argumentList hopen hfirst htight hfurther htext, ← List.map_cons,
      List.map_map]
    exact List.map_congr_left fun b _ => String.ofList_toList

/-- The arguments of a text tell the type of an element. -/
theorem element?_of_arguments {text : String} {as : List TypeArgument}
    (hr : Resolve.KeepsNames resolve) (hwell : ∀ a ∈ as, a.WellNamed)
    (harguments : TypeText.arguments text = as.map (TypeArgument.render resolve)) :
    TypeText.element? text = elementOf resolve as := by
  match as with
  | [] =>
    rw [TypeText.element?, harguments]
    rfl
  | [a] =>
    have ha := hwell a List.mem_cons_self
    cases a with
    | any =>
      rw [TypeText.element?_of_wildcard harguments (TypeArgument.characters_any resolve)]
      rfl
    | exact inner =>
      rw [List.map_singleton, TypeArgument.render] at harguments
      exact TypeText.element?_of_exact harguments (head?_render_ne hr ha)
    | upper bound =>
      rw [TypeText.element?_of_wildcard harguments (TypeArgument.characters_upper resolve bound)]
      exact TypeText.lowerBound?_extends (bound.tight_render hr ha)
    | lower bound =>
      rw [TypeText.element?_of_wildcard harguments (TypeArgument.characters_lower resolve bound)]
      exact (TypeText.lowerBound?_super (bound.tight_render hr ha)).trans
        (congrArg some String.ofList_toList)
  | a :: b :: rest =>
    rw [TypeText.element?, harguments]
    cases a <;> rfl

theorem element?_render (hr : Resolve.KeepsNames resolve) (hn : type.WellNamed)
    (hd : type.dimensions = 0) (hl : type.ArgumentsOnlyLast) :
    TypeText.element? (type.render resolve) = elementOf resolve type.arguments :=
  element?_of_arguments hr (fun _ ha => wellNamed_of_mem_arguments hn ha)
    (arguments_render hr hn hd hl)

end JavaType

/-! ## Types in the scope of a source -/

/-- **A type is told from its text**: where its name has arguments at most in the last segment and
the type is no array, the text gives back the resolved name, the arguments and the type of an
element. -/
theorem JavaType.split_renderIn {s : Scope} {type : JavaType} (hs : s.WellNamed)
    (hn : type.WellNamed) (hd : type.dimensions = 0) (hl : type.ArgumentsOnlyLast) :
    TypeText.raw (type.renderIn s) = type.dottedName s.resolve ∧
      TypeText.arguments (type.renderIn s) = type.arguments.map (TypeArgument.render s.resolve) ∧
      TypeText.element? (type.renderIn s) = elementOf s.resolve type.arguments :=
  have hr := Scope.keepsNames_resolve hs
  ⟨raw_render hr hn hd hl, arguments_render hr hn hd hl, element?_render hr hn hd hl⟩

/-- The scope of a source that imports `java.util.*` and `shop.stock.Item`. -/
def stockScope : Scope :=
  { named := [("Item", "shop.stock.Item")], packages := ["java.util"] }

/-- The type `Collection<? super Map<Item, List<int[]>>>`. -/
def stockType : JavaType :=
  let amounts := JavaType.named (.last "List" [.exact (.basic "int" 1)]) 0
  let items := JavaType.named (.last "Item" []) 0
  .named (.last "Collection"
    [.lower (.named (.last "Map" [.exact items, .exact amounts]) 0)]) 0

theorem split_renderIn_stockType :
    stockScope.WellNamed ∧ stockType.WellNamed ∧ stockType.dimensions = 0 ∧
      stockType.ArgumentsOnlyLast ∧
      TypeText.raw (stockType.renderIn stockScope) = "java.util.Collection" ∧
      TypeText.arguments (stockType.renderIn stockScope) =
        ["? super java.util.Map<shop.stock.Item, java.util.List<int[]>>"] ∧
      TypeText.element? (stockType.renderIn stockScope) =
        some "java.util.Map<shop.stock.Item, java.util.List<int[]>>" := by
  have hs : stockScope.WellNamed := by
    intro e he
    rw [List.mem_singleton.mp he]
    exact ⟨["shop", "stock", "Item"], by decide, by decide, by decide⟩
  have hn : stockType.WellNamed := by
    simp only [stockType, JavaType.WellNamed, TypePath.WellNamed, ArgumentsWellNamed,
      TypeArgument.WellNamed]
    decide
  obtain ⟨hraw, harguments, helement⟩ := stockType.split_renderIn hs hn rfl trivial
  exact ⟨hs, hn, rfl, trivial, hraw, harguments, helement⟩

end Java
end BeanBuilder
