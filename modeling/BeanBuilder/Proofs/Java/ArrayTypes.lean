import BeanBuilder.Builder
import BeanBuilder.Proofs.Member
import BeanBuilder.Proofs.Java.Elements

/-! # Arrays as members

Whether a member is a collection is told from the text in front of the first angle bracket of its
type.  The dimensions of an array are written behind everything else, so they are in that text only
if nothing in the name has arguments (`JavaType.raw_render_of_not_hasArguments`).  Behind arguments
they count for nothing (`Containers.memberOf_append_of_mem`): an array of lists is stored just as
one of these lists.

So an array is stored as a reference exactly where its name has no arguments or the dotted name in
front of them is not a known one (`Containers.isArrayMember_memberOf_renderIn_iff`).
-/
namespace BeanBuilder

/-! ## Texts behind arguments -/

namespace TypeText

variable {w : List Char} {type : String}

theorem beforeBracket_append_of_mem (hw : '<' ∈ w) (v : List Char) :
    beforeBracket (w ++ v) = beforeBracket w := by
  obtain ⟨name, rest, rfl, hname⟩ := List.eq_append_cons_of_mem hw
  have hne : ∀ c ∈ name, c ≠ '<' := fun c hc heq => hname (heq ▸ hc)
  rw [List.append_assoc, List.cons_append, beforeBracket_append_bracket hne,
    beforeBracket_append_bracket hne]

theorem bracketed?_append_of_mem {v : List Char} (hw : '<' ∈ w) (hv : ∀ c ∈ v, c ≠ '>') :
    bracketed? (w ++ v) = bracketed? w := by
  obtain ⟨name, rest, rfl, hname⟩ := List.eq_append_cons_of_mem hw
  have hdrop : ∀ behind, (name ++ '<' :: behind).dropWhile (· ≠ '<') = '<' :: behind := by
    intro behind
    rw [List.dropWhile_append_of_pos, List.dropWhile_cons_of_neg (by decide)]
    exact fun c hc => decide_eq_true fun heq => hname (heq ▸ hc)
  -- the search for the last bracket that closes begins behind what is put there
  have hreverse : (rest ++ v).reverse.dropWhile (· ≠ '>') =
      rest.reverse.dropWhile (· ≠ '>') := by
    rw [List.reverse_append, List.dropWhile_append_of_pos]
    exact fun c hc => decide_eq_true (hv c (List.mem_reverse.mp hc))
  rw [bracketed?, bracketed?, List.append_assoc, List.cons_append, hdrop, hdrop]
  simp only [hreverse]

theorem raw_append_of_mem (h : '<' ∈ type.toList) (behind : String) :
    raw (type ++ behind) = raw type := by
  rw [raw, raw, String.toList_append, beforeBracket_append_of_mem h]

theorem element?_append_of_mem {behind : String} (h : '<' ∈ type.toList)
    (hbehind : ∀ c ∈ behind.toList, c ≠ '>') : element? (type ++ behind) = element? type := by
  have harguments : arguments (type ++ behind) = arguments type := by
    rw [arguments, arguments, String.toList_append, bracketed?_append_of_mem h hbehind]
  rw [element?, element?, harguments]

end TypeText

/-! ## Members and the texts of their types -/

/-- Whether a member is stored as a reference to an array: it is `null` at first, and no method adds
an element to it. -/
def Member.IsArrayMember (m : Member) : Prop :=
  m.category = .reference ∧ m.initial = some "null" ∧ m.element = none ∧
    ∀ builderType, BuilderStyle.adder? builderType m = .ok none

namespace Containers

variable {c : Containers} {type : String}

/-- The member that an accessor of a type becomes. -/
def memberOf (c : Containers) (accessor type : String) : Member :=
  c.member accessor type (c.category type)

/-- The members of a builder are made in this way. -/
theorem eq_memberOf_of_mem_builderMembers {b : Bean} {m : Member} (hm : m ∈ c.builderMembers b) :
    m = c.memberOf m.accessor m.type := by
  obtain ⟨a, -, -, text, -, rfl⟩ := exists_candidate_of_mem_builderMembers hm
  rfl

theorem category_memberOf (accessor : String) :
    (c.memberOf accessor type).category = c.category type := rfl

/-- A text with a sign that no primitive type has is none. -/
theorem isPrimitive_eq_false {sign : Char} (h : sign ∈ type.toList)
    (hsign : ∀ word ∈ Accessor.primitiveTypes, sign ∉ word.toList) :
    Accessor.isPrimitive type = false := by
  by_contra hne
  rw [Bool.not_eq_false, Accessor.isPrimitive, List.contains_iff_mem] at hne
  exact hsign type hne h

theorem category_eq_collection_iff :
    c.category type = .collection ↔ TypeText.raw type ∈ c.sequences ++ c.sets := by
  unfold category isSequence isSet
  split
  · simp_all
  · split <;> simp_all

/-- A type that is not primitive makes an array member unless its raw type is known. -/
theorem isArrayMember_memberOf_iff (hprimitive : Accessor.isPrimitive type = false)
    (accessor : String) :
    (c.memberOf accessor type).IsArrayMember ↔
      TypeText.raw type ∉ c.sequences ++ c.sets ++ c.strings := by
  by_cases hcontainer : TypeText.raw type ∈ c.sequences ++ c.sets
  · have hcategory := category_eq_collection_iff.mpr hcontainer
    refine iff_of_false (fun h => ?_) fun h => h (List.mem_append_left _ hcontainer)
    exact absurd (hcategory.symm.trans h.1) (by decide)
  · have hcategory : c.category type = .reference := by
      have hnot : ¬ (c.isSequence type || c.isSet type) = true := by
        simpa [isSequence, isSet, not_or] using hcontainer
      rw [category, if_neg hnot, hprimitive]
      rfl
    by_cases hstring : TypeText.raw type ∈ c.strings
    · refine iff_of_false (fun h => ?_) fun h => h (List.mem_append_right _ hstring)
      have hinitial : (c.memberOf accessor type).initial = some "\"\"" := by
        rw [memberOf, member, hcategory]
        exact if_pos (List.contains_iff_mem.mpr hstring)
      exact absurd (hinitial.symm.trans h.2.1) (by decide)
    · have hinitial : c.initialValue type .reference = some "null" :=
        if_neg fun h => hstring (List.contains_iff_mem.mp h)
      rw [memberOf, member, hcategory, hinitial]
      refine iff_of_true ⟨rfl, rfl, rfl, fun _ => rfl⟩ fun h => ?_
      exact (List.mem_append.mp h).elim hcontainer hstring

/-- **What is put behind arguments does not count**: the member is that of the type without it,
but for the text of the type. -/
theorem memberOf_append_of_mem {behind : String} (h : '<' ∈ type.toList)
    (hbehind : ∀ c ∈ behind.toList, c ≠ '>') (accessor : String) :
    c.memberOf accessor (type ++ behind) =
      { c.memberOf accessor type with type := type ++ behind } := by
  have hraw := TypeText.raw_append_of_mem h behind
  have hmem : '<' ∈ (type ++ behind).toList := by
    rw [String.toList_append]
    exact List.mem_append_left _ h
  have hprimitive : Accessor.isPrimitive (type ++ behind) = Accessor.isPrimitive type :=
    (isPrimitive_eq_false hmem (by decide)).trans (isPrimitive_eq_false h (by decide)).symm
  have hcategory : c.category (type ++ behind) = c.category type := by
    rw [category, category, isSequence, isSequence, isSet, isSet, hraw, hprimitive]
  have hinitial : ∀ k, c.initialValue (type ++ behind) k = c.initialValue type k := by
    intro k
    cases k
    · rw [initialValue, initialValue, isSequence, isSequence, hraw]
    · rfl
    · rw [initialValue, initialValue, hraw]
  rw [memberOf, memberOf, hcategory, member, member, hinitial,
    TypeText.element?_append_of_mem h hbehind]

end Containers

namespace Java

variable {resolve : Resolve} {type : JavaType}

/-! ## What stands in front of the arguments -/

namespace TypePath

/-- Some segment of the path has arguments. -/
def HasArguments : TypePath → Prop
  | .last _ arguments => arguments ≠ []
  | .outer _ arguments inner => arguments ≠ [] ∨ inner.HasArguments

/-- The path up to the first segment that has arguments, without them. -/
def front (resolveHead : Resolve) : TypePath → String
  | .last name _ => resolveHead name
  | .outer name [] inner => name ++ "." ++ inner.front id
  | .outer name (_ :: _) _ => name

theorem pathText_front : ∀ (path : TypePath) {resolveHead : Resolve},
    Resolve.KeepsNames resolveHead → path.WellNamed → PathText (path.front resolveHead)
  | .last name _, _, hhead, hn => hhead name hn.1
  | .outer _ [] inner, _, _, hn =>
    ((PathText.of_isName hn.1).append PathText.point).append
      (inner.pathText_front keepsNames_id hn.2.2)
  | .outer _ (_ :: _) _, _, _, hn => PathText.of_isName hn.1

/-- With arguments the path goes on with a bracket behind its front. -/
theorem exists_toList_render_eq (resolve : Resolve) :
    ∀ (path : TypePath) (resolveHead : Resolve), path.HasArguments →
      ∃ tail, (path.render resolve resolveHead).toList =
        (path.front resolveHead).toList ++ '<' :: tail
  | .last _ [], _, h => absurd rfl h
  | .last name (a :: rest), resolveHead, _ => by
    rw [TypePath.render, String.toList_append, toList_argumentsText_cons]
    exact ⟨_, rfl⟩
  | .outer name [] inner, _, h => by
    obtain ⟨tail, htail⟩ :=
      inner.exists_toList_render_eq resolve id (h.resolve_left fun hne => hne rfl)
    refine ⟨tail, ?_⟩
    rw [TypePath.render, front, argumentsText, String.append_empty]
    simp only [String.toList_append, htail, List.append_assoc]
  | .outer name (a :: rest) inner, _, _ => by
    rw [TypePath.render, front]
    simp only [String.toList_append, toList_argumentsText_cons, List.append_assoc]
    exact ⟨_, rfl⟩

/-- Without arguments it is all front. -/
theorem render_eq_front (resolve : Resolve) :
    ∀ (path : TypePath) (resolveHead : Resolve), ¬path.HasArguments →
      path.render resolve resolveHead = path.front resolveHead
  | .last _ [], _, _ => String.append_empty
  | .last _ (a :: rest), _, h => absurd (List.cons_ne_nil a rest) h
  | .outer _ [] inner, _, h => by
    rw [TypePath.render, front, argumentsText, String.append_empty,
      inner.render_eq_front resolve id fun hinner => h (Or.inr hinner)]
  | .outer _ (a :: rest) _, _, h => absurd (Or.inl (List.cons_ne_nil a rest)) h

end TypePath

namespace JavaType

/-- Some segment of the name has arguments. -/
def HasArguments : JavaType → Prop
  | basic _ _ => False
  | named path _ => path.HasArguments

/-- The dotted name in front of the first arguments. -/
def front (resolve : Resolve) : JavaType → String
  | basic name _ => name
  | named path _ => path.front resolve

/-- The type of the items of an array, however many dimensions it has. -/
def item : JavaType → JavaType
  | basic name _ => basic name 0
  | named path _ => named path 0

theorem render_eq_item_append (resolve : Resolve) (type : JavaType) :
    type.render resolve = type.item.render resolve ++ dimensionText type.dimensions := by
  have hnone : dimensionText 0 = "" := rfl
  cases type <;> simp only [item, render, dimensions, hnone, String.append_empty]

theorem pathText_front (hr : Resolve.KeepsNames resolve) (hn : type.WellNamed) :
    PathText (type.front resolve) := by
  cases type with
  | basic name n => exact PathText.of_isName hn
  | named path n => exact path.pathText_front hr hn

theorem exists_toList_render_item_eq (resolve : Resolve) (h : type.HasArguments) :
    ∃ tail, (type.item.render resolve).toList = (type.front resolve).toList ++ '<' :: tail := by
  cases type with
  | basic name n => exact absurd h not_false
  | named path n =>
    obtain ⟨tail, htail⟩ := path.exists_toList_render_eq resolve resolve h
    refine ⟨tail, ?_⟩
    rw [item, render, String.toList_append, htail]
    exact List.append_nil _

theorem mem_toList_render_item (resolve : Resolve) (h : type.HasArguments) :
    '<' ∈ (type.item.render resolve).toList := by
  obtain ⟨tail, htail⟩ := exists_toList_render_item_eq resolve h
  rw [htail]
  exact List.mem_append_right _ List.mem_cons_self

theorem render_item_eq_front (resolve : Resolve) (h : ¬type.HasArguments) :
    type.item.render resolve = type.front resolve := by
  cases type with
  | basic name n => exact String.append_empty
  | named path n =>
    rw [item, render, path.render_eq_front resolve resolve h]
    exact String.append_empty

/-- The raw type of a type with arguments does not tell whether it is an array. -/
theorem raw_render_of_hasArguments (hr : Resolve.KeepsNames resolve) (hn : type.WellNamed)
    (h : type.HasArguments) : TypeText.raw (type.render resolve) = type.front resolve := by
  have hfront := pathText_front hr hn
  obtain ⟨tail, htail⟩ := exists_toList_render_item_eq resolve h
  have hopen : ∀ c ∈ (type.front resolve).toList, c ≠ '<' :=
    hfront.ne_of_mem (by decide) (by decide)
  rw [render_eq_item_append, TypeText.raw_append_of_mem (mem_toList_render_item resolve h),
    TypeText.raw, htail, TypeText.beforeBracket_append_bracket hopen, hfront.tight.trim_eq,
    String.ofList_toList]

/-- The raw type of a type without arguments is all of it. -/
theorem raw_render_of_not_hasArguments (hr : Resolve.KeepsNames resolve) (hn : type.WellNamed)
    (h : ¬type.HasArguments) : TypeText.raw (type.render resolve) = type.render resolve := by
  have hopen : ∀ c ∈ (type.render resolve).toList, c ≠ '<' := by
    intro c hc
    rw [render_eq_item_append, render_item_eq_front resolve h, String.toList_append,
      List.mem_append] at hc
    rcases hc with hfront | hdimension
    · exact (pathText_front hr hn).ne_of_mem (by decide) (by decide) c hfront
    · rcases mem_toList_dimensionText hdimension with rfl | rfl <;> decide
  rw [TypeText.raw, TypeText.beforeBracket_of_forall hopen, (type.tight_render hr hn).trim_eq,
    String.ofList_toList]

theorem mem_toList_render (resolve : Resolve) (hd : type.dimensions ≠ 0) :
    ']' ∈ (type.render resolve).toList := by
  obtain ⟨n, hn⟩ := Nat.exists_eq_succ_of_ne_zero hd
  rw [render_eq_item_append, hn, String.toList_append, toList_dimensionText, List.replicate_succ,
    List.flatten_cons]
  simp

end JavaType

end Java

/-! ## Members of array types -/

namespace Containers

open Java

variable {c : Containers} {resolve : Resolve} {type : JavaType}

/-- The raw type of an array that is a known one stands in front of arguments. -/
theorem raw_render_mem_iff {known : List String} (hknown : ∀ word ∈ known, ']' ∉ word.toList)
    (hr : Resolve.KeepsNames resolve) (hn : type.WellNamed) (hd : type.dimensions ≠ 0) :
    TypeText.raw (type.render resolve) ∈ known ↔
      type.HasArguments ∧ type.front resolve ∈ known := by
  by_cases h : type.HasArguments
  · rw [type.raw_render_of_hasArguments hr hn h]
    exact (and_iff_right h).symm
  · rw [type.raw_render_of_not_hasArguments hr hn h]
    exact iff_of_false (fun hmem => hknown _ hmem (type.mem_toList_render resolve hd))
      fun hboth => h hboth.1

/-- An array with arguments is stored just as one of its items. -/
theorem memberOf_render_of_hasArguments (h : type.HasArguments) (accessor : String) :
    c.memberOf accessor (type.render resolve) =
      { c.memberOf accessor (type.item.render resolve) with type := type.render resolve } := by
  rw [type.render_eq_item_append resolve]
  refine memberOf_append_of_mem (type.mem_toList_render_item resolve h) (fun sign hsign => ?_)
    accessor
  rcases mem_toList_dimensionText hsign with rfl | rfl <;> decide

/-- **An array is stored as a reference** exactly where nothing in its name has arguments or what
stands in front of these is no list, no set and no string.  An array with arguments is stored just
as one of its items, and so an array of lists or sets as a collection. -/
theorem isArrayMember_memberOf_renderIn_iff {s : Scope} (hs : s.WellNamed) (hn : type.WellNamed)
    (hd : type.dimensions ≠ 0) (accessor : String) :
    let c : Containers := {}
    let m := c.memberOf accessor (type.renderIn s)
    let front := type.front s.resolve
    (m.IsArrayMember ↔ (type.HasArguments → front ∉ c.sequences ++ c.sets ++ c.strings)) ∧
      (m.category = .collection ↔ type.HasArguments ∧ front ∈ c.sequences ++ c.sets) ∧
      (type.HasArguments →
        m = { c.memberOf accessor (type.item.renderIn s) with type := type.renderIn s }) := by
  have hr := Scope.keepsNames_resolve hs
  have hprimitive : Accessor.isPrimitive (type.renderIn s) = false :=
    isPrimitive_eq_false (type.mem_toList_render s.resolve hd) (by decide)
  refine ⟨?_, ?_, fun h => memberOf_render_of_hasArguments h accessor⟩
  · rw [isArrayMember_memberOf_iff hprimitive accessor, ← not_and, not_iff_not]
    exact raw_render_mem_iff (by decide) hr hn hd
  · rw [category_memberOf, category_eq_collection_iff]
    exact raw_render_mem_iff (by decide) hr hn hd

/-- The type `Map<Item, List<Item>>[][]`. -/
def stockTables : JavaType :=
  let items := JavaType.named (.last "Item" []) 0
  .named (.last "Map" [.exact items, .exact (.named (.last "List" [.exact items]) 0)]) 2

/-- Lists among the arguments do not make an array a collection. -/
theorem isArrayMember_memberOf_stockTables :
    stockScope.WellNamed ∧ stockTables.WellNamed ∧ stockTables.dimensions ≠ 0 ∧
      stockTables.HasArguments ∧
      (({} : Containers).memberOf "getTables" (stockTables.renderIn stockScope)).IsArrayMember := by
  have hs : stockScope.WellNamed := by
    intro e he
    rw [List.mem_singleton.mp he]
    exact ⟨["shop", "stock", "Item"], by decide, by decide, by decide⟩
  have hn : stockTables.WellNamed := by
    simp only [stockTables, JavaType.WellNamed, TypePath.WellNamed, ArgumentsWellNamed,
      TypeArgument.WellNamed]
    decide
  have hd : stockTables.dimensions ≠ 0 := by decide
  have hfront : stockTables.front stockScope.resolve ∉
      ["java.util.List", "List"] ++ ["java.util.Set", "Set"] ++ ["java.lang.String", "String"] := by
    decide
  have hmember := (isArrayMember_memberOf_renderIn_iff hs hn hd "getTables").1.mpr fun _ => hfront
  exact ⟨hs, hn, hd, List.cons_ne_nil _ _, hmember⟩

/-- The type `List<Item>[]`. -/
def stockRows : JavaType :=
  .named (.last "List" [.exact (.named (.last "Item" []) 0)]) 1

/-- An array of lists is a collection: it begins as an empty list, and items of its lists are
added to it. -/
theorem memberOf_stockRows :
    let m := ({} : Containers).memberOf "getRows" (stockRows.renderIn stockScope)
    stockRows.dimensions = 1 ∧ stockRows.renderIn stockScope = "java.util.List<shop.stock.Item>[]" ∧
      m.category = .collection ∧ m.initial = some "new java.util.ArrayList<>()" ∧
      m.element = some "shop.stock.Item" ∧
      (∃ draft, BuilderStyle.adder? "shop.BoardBuilder" m = .ok (some draft)) ∧
      ¬m.IsArrayMember := by
  refine ⟨rfl, rfl, rfl, rfl, rfl, ⟨_, rfl⟩, fun h => ?_⟩
  exact absurd (h.1 : Category.collection = .reference) (by decide)

end Containers
end BeanBuilder
