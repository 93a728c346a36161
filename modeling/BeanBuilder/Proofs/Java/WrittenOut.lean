import BeanBuilder.Proofs.Java.ReadBeans
import BeanBuilder.Proofs.Java.ReadingOrder
import BeanBuilder.Proofs.Text.Pieces

/-! # Types written out

A file can write a type with the short names that it imports, or with the names written out.
`JavaType.writtenOut` writes out every unqualified name that a scope resolves: the arguments of the
short name go to the last segment of the long one, the array dimensions stay with the type, and the
segments of a name that is qualified already stay as they are, arguments apart.

What is written out needs no imports (`JavaType.renderIn_writtenOut`).  So it does not matter in
which of the two ways a file writes its types: it gives the same classes
(`SourceFile.readClasses_writtenOut`), and the signatures and categories are the same
(`reads_alike_of_writtenOut`).
-/
namespace BeanBuilder
namespace Java

/-! ## Writing out -/

/-- An unqualified name with arguments, written out segment by segment if it stands for another
name. -/
def Scope.spelled (s : Scope) (name : String) (arguments : List TypeArgument) : TypePath :=
  if s.resolve name = name then .last name arguments
  else
    let segments := Text.cutString '.' (s.resolve name)
    .ofNamesWith arguments (segments.headD "") segments.tail

mutual

/-- A type with the names that a scope resolves written out. -/
def JavaType.writtenOut (s : Scope) : JavaType → JavaType
  | .basic name dimensions => .basic name dimensions
  | .named path dimensions => .named (path.writtenOut s) dimensions

/-- A path with the names that a scope resolves written out. -/
def TypePath.writtenOut (s : Scope) : TypePath → TypePath
  | .last name arguments => s.spelled name (argumentsWrittenOut s arguments)
  | .outer name arguments inner =>
    .outer name (argumentsWrittenOut s arguments) (inner.writtenOutWithin s)

/-- A path that keeps its segments, with the names in their arguments written out. -/
def TypePath.writtenOutWithin (s : Scope) : TypePath → TypePath
  | .last name arguments => .last name (argumentsWrittenOut s arguments)
  | .outer name arguments inner =>
    .outer name (argumentsWrittenOut s arguments) (inner.writtenOutWithin s)

/-- Arguments with the names that a scope resolves written out. -/
def argumentsWrittenOut (s : Scope) : List TypeArgument → List TypeArgument
  | [] => []
  | a :: rest => a.writtenOut s :: argumentsWrittenOut s rest

/-- An argument with the names that a scope resolves written out. -/
def TypeArgument.writtenOut (s : Scope) : TypeArgument → TypeArgument
  | .any => .any
  | .exact type => .exact (type.writtenOut s)
  | .upper bound => .upper (bound.writtenOut s)
  | .lower bound => .lower (bound.writtenOut s)

end

/-- A method with the names in its types written out. -/
def Method.writtenOut (s : Scope) (m : Method) : Method :=
  { m with
    result := m.result.map (JavaType.writtenOut s)
    parameters := m.parameters.map (JavaType.writtenOut s) }

/-- A class with the names in its types written out. -/
def ClassDeclaration.writtenOut (s : Scope) (d : ClassDeclaration) : ClassDeclaration :=
  { d with
    superclass := d.superclass.map (JavaType.writtenOut s)
    methods := d.methods.map (Method.writtenOut s)
    constructors := d.constructors.map fun parameters => parameters.map (JavaType.writtenOut s) }

/-- A source file without imports that writes the names in its types out. -/
def SourceFile.writtenOut (u : SourceFile) : SourceFile :=
  { u with
    imports := []
    classes := u.classes.map (ClassDeclaration.writtenOut (Scope.ofImports u.imports)) }

/-! ## Types -/

/-- An unqualified name that is written out shows what it stands for. -/
theorem Scope.render_spelled (s : Scope) (name : String) (arguments : List TypeArgument) :
    (s.spelled name arguments).render id id = s.resolve name ++ argumentsText id arguments := by
  rw [spelled]
  split_ifs with hsame
  · rw [hsame, TypePath.render, id]
  · obtain ⟨first, more, hcut⟩ :=
      List.exists_cons_of_ne_nil (Text.cutString_ne_nil '.' (s.resolve name))
    have hjoin := Text.joinStrings_cutString '.' (s.resolve name)
    rw [hcut] at hjoin ⊢
    rw [TypePath.render_ofNamesWith]
    exact congrArg (· ++ argumentsText id arguments) hjoin

mutual

theorem JavaType.render_writtenOut (s : Scope) :
    ∀ type : JavaType, (type.writtenOut s).render id = type.render s.resolve
  | .basic _ _ => rfl
  | .named path _ => by
    rw [JavaType.writtenOut, JavaType.render, JavaType.render, path.render_writtenOut s]

theorem TypePath.render_writtenOut (s : Scope) :
    ∀ path : TypePath, (path.writtenOut s).render id id = path.render s.resolve s.resolve
  | .last name arguments => by
    rw [TypePath.writtenOut, TypePath.render, s.render_spelled,
      argumentsText_writtenOut s arguments]
  | .outer name arguments inner => by
    rw [TypePath.writtenOut, TypePath.render, TypePath.render, argumentsText_writtenOut s arguments,
      inner.render_writtenOutWithin s]

/-- Segments of a qualified name stand for themselves, and the names in their arguments do not. -/
theorem TypePath.render_writtenOutWithin (s : Scope) :
    ∀ path : TypePath, (path.writtenOutWithin s).render id id = path.render s.resolve id
  | .last name arguments => by
    rw [TypePath.writtenOutWithin, TypePath.render, TypePath.render,
      argumentsText_writtenOut s arguments]
  | .outer name arguments inner => by
    rw [TypePath.writtenOutWithin, TypePath.render, TypePath.render,
      argumentsText_writtenOut s arguments, inner.render_writtenOutWithin s]

theorem argumentsText_writtenOut (s : Scope) :
    ∀ arguments : List TypeArgument,
      argumentsText id (argumentsWrittenOut s arguments) = argumentsText s.resolve arguments
  | [] => rfl
  | a :: rest => by
    rw [argumentsWrittenOut, argumentsText, argumentsText, a.render_writtenOut s,
      furtherText_writtenOut s rest]

theorem furtherText_writtenOut (s : Scope) :
    ∀ arguments : List TypeArgument,
      furtherText id (argumentsWrittenOut s arguments) = furtherText s.resolve arguments
  | [] => rfl
  | a :: rest => by
    rw [argumentsWrittenOut, furtherText, furtherText, a.render_writtenOut s,
      furtherText_writtenOut s rest]

theorem TypeArgument.render_writtenOut (s : Scope) :
    ∀ a : TypeArgument, (a.writtenOut s).render id = a.render s.resolve
  | .any => rfl
  | .exact type => by
    rw [TypeArgument.writtenOut, TypeArgument.render, TypeArgument.render, type.render_writtenOut s]
  | .upper bound => by
    rw [TypeArgument.writtenOut, TypeArgument.render, TypeArgument.render,
      bound.render_writtenOut s]
  | .lower bound => by
    rw [TypeArgument.writtenOut, TypeArgument.render, TypeArgument.render,
      bound.render_writtenOut s]

end

/-- Without imports every name stands for itself. -/
theorem Scope.resolve_empty : ({} : Scope).resolve = id := by
  funext name
  simp [resolve]

/-- **What is written out needs no imports.** -/
theorem JavaType.renderIn_writtenOut (s : Scope) (type : JavaType) :
    (type.writtenOut s).renderIn {} = type.renderIn s := by
  rw [renderIn, renderIn, Scope.resolve_empty, type.render_writtenOut s]

theorem JavaType.renderIn_comp_writtenOut (s : Scope) :
    JavaType.renderIn {} ∘ JavaType.writtenOut s = JavaType.renderIn s :=
  funext fun type => type.renderIn_writtenOut s

/-! ## Writing out twice -/

section Twice

variable {s s' : Scope}

/-- The names of a qualified path are not written out, only those in its arguments. -/
theorem TypePath.writtenOutWithin_ofNamesWith (arguments : List TypeArgument) (name : String)
    (more : List String) : (ofNamesWith arguments name more).writtenOutWithin s =
      ofNamesWith (argumentsWrittenOut s arguments) name more := by
  induction more generalizing name with
  | nil => rfl
  | cons next more ih => rw [ofNamesWith, ofNamesWith, writtenOutWithin, ih, argumentsWrittenOut]

/-- What is spelled out is left alone by a scope that leaves alone what the name stands for. -/
theorem Scope.writtenOut_spelled {name : String} {arguments : List TypeArgument}
    (hkeeps : s'.resolve (s.resolve name) = s.resolve name)
    (harguments : argumentsWrittenOut s' arguments = arguments) :
    (s.spelled name arguments).writtenOut s' = s.spelled name arguments := by
  rw [spelled]
  split_ifs with hsame
  · rw [hsame] at hkeeps
    rw [TypePath.writtenOut, spelled, if_pos hkeeps, harguments]
  · obtain ⟨first, more, hcut⟩ :=
      List.exists_cons_of_ne_nil (Text.cutString_ne_nil '.' (s.resolve name))
    have hjoin := Text.joinStrings_cutString '.' (s.resolve name)
    rw [hcut] at hjoin ⊢
    -- only a name of one segment could be resolved once more
    cases more with
    | nil =>
      obtain rfl : first = s.resolve name := hjoin
      show (TypePath.last (s.resolve name) arguments).writtenOut s' =
        .last (s.resolve name) arguments
      rw [TypePath.writtenOut, spelled, if_pos hkeeps, harguments]
    | cons next more =>
      show (TypePath.outer first [] (.ofNamesWith arguments next more)).writtenOut s' =
        .outer first [] (.ofNamesWith arguments next more)
      rw [TypePath.writtenOut, argumentsWrittenOut, TypePath.writtenOutWithin_ofNamesWith,
        harguments]

/-- A scope leaves alone what names stand for in another one. -/
def Scope.Keeps (s' s : Scope) : Prop :=
  ∀ name, s'.resolve (s.resolve name) = s.resolve name

mutual

/-- **What is written out stays as it is** in a scope that leaves alone what names stand for. -/
theorem JavaType.writtenOut_writtenOut (hkeeps : s'.Keeps s) :
    ∀ type : JavaType, (type.writtenOut s).writtenOut s' = type.writtenOut s
  | .basic _ _ => rfl
  | .named path _ => by
    rw [JavaType.writtenOut, JavaType.writtenOut, path.writtenOut_writtenOut hkeeps]

theorem TypePath.writtenOut_writtenOut (hkeeps : s'.Keeps s) :
    ∀ path : TypePath, (path.writtenOut s).writtenOut s' = path.writtenOut s
  | .last name arguments => by
    rw [TypePath.writtenOut,
      Scope.writtenOut_spelled (hkeeps name) (argumentsWrittenOut_writtenOut hkeeps arguments)]
  | .outer _ arguments inner => by
    rw [TypePath.writtenOut, TypePath.writtenOut, argumentsWrittenOut_writtenOut hkeeps arguments,
      inner.writtenOutWithin_writtenOut hkeeps]

theorem TypePath.writtenOutWithin_writtenOut (hkeeps : s'.Keeps s) :
    ∀ path : TypePath, (path.writtenOutWithin s).writtenOutWithin s' = path.writtenOutWithin s
  | .last _ arguments => by
    rw [TypePath.writtenOutWithin, TypePath.writtenOutWithin,
      argumentsWrittenOut_writtenOut hkeeps arguments]
  | .outer _ arguments inner => by
    rw [TypePath.writtenOutWithin, TypePath.writtenOutWithin,
      argumentsWrittenOut_writtenOut hkeeps arguments, inner.writtenOutWithin_writtenOut hkeeps]

theorem argumentsWrittenOut_writtenOut (hkeeps : s'.Keeps s) :
    ∀ arguments : List TypeArgument,
      argumentsWrittenOut s' (argumentsWrittenOut s arguments) = argumentsWrittenOut s arguments
  | [] => rfl
  | a :: rest => by
    rw [argumentsWrittenOut, argumentsWrittenOut, a.writtenOut_writtenOut hkeeps,
      argumentsWrittenOut_writtenOut hkeeps rest]

theorem TypeArgument.writtenOut_writtenOut (hkeeps : s'.Keeps s) :
    ∀ a : TypeArgument, (a.writtenOut s).writtenOut s' = a.writtenOut s
  | .any => rfl
  | .exact type => by
    rw [TypeArgument.writtenOut, TypeArgument.writtenOut, type.writtenOut_writtenOut hkeeps]
  | .upper bound => by
    rw [TypeArgument.writtenOut, TypeArgument.writtenOut, bound.writtenOut_writtenOut hkeeps]
  | .lower bound => by
    rw [TypeArgument.writtenOut, TypeArgument.writtenOut, bound.writtenOut_writtenOut hkeeps]

end

/-- Without imports every name is left alone. -/
theorem Scope.keeps_empty (s : Scope) : Scope.Keeps {} s := by
  intro name
  rw [resolve_empty, id]

/-- What imports make of a name is qualified, unless the name stands for itself. -/
theorem Scope.resolve_ofImports (imports : List Import) (name : String) :
    (Scope.ofImports imports).resolve name = name ∨
      ((Scope.ofImports imports).resolve name).toList.contains '.' = true := by
  unfold resolve
  split
  · exact Or.inl rfl
  · split
    · rename_i path hlookup
      obtain ⟨before, behind, hnamed, -⟩ := List.lookup_eq_some_iff.mp hlookup
      have hmem : (name, path) ∈ (Scope.ofImports imports).named := by
        rw [hnamed]
        exact List.mem_append_right _ List.mem_cons_self
      simp only [ofImports, List.mem_reverse, List.mem_map] at hmem
      obtain ⟨i, -, heq⟩ := hmem
      obtain ⟨rfl, rfl⟩ := Prod.mk.inj heq
      by_cases hdot : i.path.toList.contains '.' = true
      · exact Or.inr hdot
      · -- a path without points is its own last part
        have hcut : Text.cutAt '.' i.path.toList = [i.path.toList] :=
          Text.cutAt_of_not_mem (mt List.contains_iff_mem.mpr hdot)
        refine Or.inl ?_
        rw [lastPart, Text.cutString, hcut]
        exact (String.ofList_toList).symm
    · split
      · refine Or.inr ?_
        rw [List.contains_iff_mem, String.toList_append, String.toList_append]
        exact List.mem_append_left _ (List.mem_append_right _ (List.mem_singleton_self _))
      · exact Or.inl rfl

/-- **Imports leave alone what they make of names.** -/
theorem Scope.keeps_ofImports (imports : List Import) :
    (Scope.ofImports imports).Keeps (Scope.ofImports imports) := by
  intro name
  rcases resolve_ofImports imports name with hsame | hdot
  · rw [hsame, hsame]
  · rw [resolve, if_pos hdot]

end Twice

/-! ## Methods, classes and files -/

/-- A method with its types written out is the same accessor. -/
theorem Method.accessor_writtenOut (s : Scope) (m : Method) :
    (m.writtenOut s).accessor {} = m.accessor s := by
  simp only [accessor, writtenOut, Option.map_map, List.map_map, JavaType.renderIn_comp_writtenOut]

namespace ClassDeclaration

theorem declaration_writtenOut (s : Scope) (package : Option String) (d : ClassDeclaration) :
    (d.writtenOut s).declaration {} package = d.declaration s package := by
  have hmethods : ∀ methods : List Method,
      ((methods.map (Method.writtenOut s)).filter fun m => !m.modifiers.isStatic).map
          (Method.accessor {}) =
        (methods.filter fun m => !m.modifiers.isStatic).map (Method.accessor s) := by
    intro methods
    rw [List.filter_map, List.map_map]
    exact List.map_congr_left fun m _ => m.accessor_writtenOut s
  simp only [declaration, writtenOut, hmethods, List.isEmpty_map, List.map_map, Function.comp_def,
    JavaType.renderIn_writtenOut]

theorem superclassName?_writtenOut (s : Scope) (d : ClassDeclaration) :
    (d.writtenOut s).superclassName? {} = d.superclassName? s := by
  simp only [superclassName?, writtenOut, Option.map_map, Function.comp_def,
    JavaType.renderIn_writtenOut]

end ClassDeclaration

/-- **A file that writes its types out gives the same classes.** -/
theorem SourceFile.readClasses_writtenOut (u : SourceFile) :
    u.writtenOut.readClasses = u.readClasses := by
  rw [readClasses, readClasses, writtenOut, List.map_map]
  refine List.map_congr_left fun d _ => ?_
  have hscope : Scope.ofImports [] = {} := rfl
  simp only [Function.comp_apply, hscope, d.declaration_writtenOut, d.superclassName?_writtenOut]

/-! ## Comparing types -/

mutual

/-- Whether two types are the same. -/
def JavaType.decEq : (t t' : JavaType) → Decidable (t = t')
  | .basic name dimensions, .basic name' dimensions' =>
    decidable_of_iff (name = name' ∧ dimensions = dimensions') (by simp)
  | .named path dimensions, .named path' dimensions' =>
    have := path.decEq path'
    decidable_of_iff (path = path' ∧ dimensions = dimensions') (by simp)
  | .basic .., .named .. => isFalse nofun
  | .named .., .basic .. => isFalse nofun

/-- Whether two paths are the same. -/
def TypePath.decEq : (p p' : TypePath) → Decidable (p = p')
  | .last name arguments, .last name' arguments' =>
    have := decEqArguments arguments arguments'
    decidable_of_iff (name = name' ∧ arguments = arguments') (by simp)
  | .outer name arguments inner, .outer name' arguments' inner' =>
    have := decEqArguments arguments arguments'
    have := inner.decEq inner'
    decidable_of_iff (name = name' ∧ arguments = arguments' ∧ inner = inner') (by simp)
  | .last .., .outer .. => isFalse nofun
  | .outer .., .last .. => isFalse nofun

/-- Whether two lists of arguments are the same. -/
def decEqArguments : (as as' : List TypeArgument) → Decidable (as = as')
  | [], [] => isTrue rfl
  | a :: rest, a' :: rest' =>
    have := a.decEq a'
    have := decEqArguments rest rest'
    decidable_of_iff (a = a' ∧ rest = rest') (by simp)
  | [], _ :: _ => isFalse nofun
  | _ :: _, [] => isFalse nofun

/-- Whether two arguments are the same. -/
def TypeArgument.decEq : (a a' : TypeArgument) → Decidable (a = a')
  | .any, .any => isTrue rfl
  | .exact type, .exact type' | .upper type, .upper type' | .lower type, .lower type' =>
    have := type.decEq type'
    decidable_of_iff (type = type') (by simp)
  | .any, .exact _ | .any, .upper _ | .any, .lower _ => isFalse nofun
  | .exact _, .any | .exact _, .upper _ | .exact _, .lower _ => isFalse nofun
  | .upper _, .any | .upper _, .exact _ | .upper _, .lower _ => isFalse nofun
  | .lower _, .any | .lower _, .exact _ | .lower _, .upper _ => isFalse nofun

end

instance : DecidableEq JavaType := JavaType.decEq

deriving instance DecidableEq for Method, ClassDeclaration, SourceFile

/-! ## Files that are spelled alike -/

section Twice

variable {s s' : Scope}

theorem Method.writtenOut_writtenOut (hkeeps : s'.Keeps s) (m : Method) :
    (m.writtenOut s).writtenOut s' = m.writtenOut s := by
  simp only [writtenOut, Option.map_map, List.map_map, Function.comp_def,
    JavaType.writtenOut_writtenOut hkeeps]

theorem ClassDeclaration.writtenOut_writtenOut (hkeeps : s'.Keeps s) (d : ClassDeclaration) :
    (d.writtenOut s).writtenOut s' = d.writtenOut s := by
  simp only [writtenOut, Option.map_map, List.map_map, Function.comp_def,
    JavaType.writtenOut_writtenOut hkeeps, Method.writtenOut_writtenOut hkeeps]

theorem SourceFile.writtenOut_writtenOut (u : SourceFile) {imports : List Import}
    (hkeeps : (Scope.ofImports imports).Keeps (Scope.ofImports u.imports)) :
    SourceFile.writtenOut { u.writtenOut with imports := imports } = u.writtenOut := by
  simp only [writtenOut, List.map_map, Function.comp_def,
    ClassDeclaration.writtenOut_writtenOut hkeeps]

end Twice

/-- Two texts are one source file but for the types that they write out and the imports that they
have, or neither of them is a source file. -/
def SpelledAlike (source source' : String) : Prop :=
  (SourceFile.parse source).toOption.map SourceFile.writtenOut =
    (SourceFile.parse source').toOption.map SourceFile.writtenOut

instance (source source' : String) : Decidable (SpelledAlike source source') :=
  inferInstanceAs (Decidable (_ = _))

/-- A text that writes out the types of another one, with the imports of that one or without any, is
spelled like it. -/
theorem spelledAlike_of_parse {source source' : String} {u : SourceFile} {imports : List Import}
    (hu : SourceFile.parse source = .ok u)
    (hu' : SourceFile.parse source' = .ok { u.writtenOut with imports := imports })
    (himports : imports = u.imports ∨ imports = []) : SpelledAlike source source' := by
  have hkeeps : (Scope.ofImports imports).Keeps (Scope.ofImports u.imports) := by
    rcases himports with rfl | rfl
    · exact Scope.keeps_ofImports u.imports
    · exact Scope.keeps_empty _
  rw [SpelledAlike, hu, hu']
  exact congrArg some (u.writtenOut_writtenOut hkeeps).symm

theorem classesOf_eq_of_spelledAlike {source source' : String} (h : SpelledAlike source source') :
    classesOf source = classesOf source' := by
  have hclasses : ∀ source, classesOf source =
      ((SourceFile.parse source).toOption.map SourceFile.writtenOut).elim []
        SourceFile.readClasses := by
    intro source
    rw [classesOf]
    cases SourceFile.parse source with
    | error e => rfl
    | ok u => exact u.readClasses_writtenOut.symm
  rw [hclasses, hclasses, h]

/-- **The way in which types are spelled does not count.**  In any scope, a type is written as it is
written without imports when every unqualified name that the scope resolves is written out.

So methods of one name have the same signature if their parameters are the same types when written
out, each in its own scope, and types that are the same when written out fall into one category.
Sources that are spelled alike, each in its own way, give the same catalog. -/
theorem reads_alike_of_writtenOut :
    (∀ (s : Scope) (type : JavaType),
      type.renderIn s = (type.writtenOut s).renderIn (Scope.ofImports [])) ∧
    (∀ (s s' : Scope) (m m' : Method), m.name = m'.name →
      m.parameters.map (JavaType.writtenOut s) = m'.parameters.map (JavaType.writtenOut s') →
      (m.accessor s).signature = (m'.accessor s').signature) ∧
    (∀ (c : Containers) (s s' : Scope) (type type' : JavaType),
      type.writtenOut s = type'.writtenOut s' →
      c.category (type.renderIn s) = c.category (type'.renderIn s')) ∧
    (∀ sources sources' : List String, List.Forall₂ SpelledAlike sources sources' →
      Catalog.readAll sources = Catalog.readAll sources') := by
  refine ⟨fun s type => (type.renderIn_writtenOut s).symm, ?_, ?_, ?_⟩
  · intro s s' m m' hname hparameters
    have htexts : m.parameters.map (JavaType.renderIn s) =
        m'.parameters.map (JavaType.renderIn s') := by
      rw [← JavaType.renderIn_comp_writtenOut s, ← JavaType.renderIn_comp_writtenOut s',
        ← List.map_map, ← List.map_map, hparameters]
    exact Prod.ext hname htexts
  · intro c s s' type type' hsame
    rw [← type.renderIn_writtenOut s, ← type'.renderIn_writtenOut s', hsame]
  · intro sources sources' halike
    have hclasses : sources.flatMap classesOf = sources'.flatMap classesOf := by
      induction halike with
      | nil => rfl
      | cons hsource _ ih =>
        rw [List.flatMap_cons, List.flatMap_cons, classesOf_eq_of_spelledAlike hsource, ih]
    rw [Catalog.readAll_eq, Catalog.readAll_eq, hclasses]

/-- Imports of one name and of one package. -/
def itemImports : Scope where
  named := [("Item", "q.Item")]
  packages := ["java.util"]

/-- A list of arrays with the short names. -/
def shortItems : JavaType :=
  .named (.last "List" [.exact (.named (.last "Item" []) 1)]) 0

/-- A list of arrays with the names written out. -/
def longItems : JavaType :=
  .named (.outer "java" [] (.outer "util" [] (.last "List"
    [.exact (.named (.outer "q" [] (.last "Item" [])) 1)]))) 0

/-- A method that is given a list. -/
def putShort : Method where
  name := "put"
  modifiers := {}
  result := none
  parameters := [shortItems]

/-- A method that overrides it. -/
def putLong : Method where
  name := "put"
  modifiers := { annotations := ["Override"] }
  result := none
  parameters := [longItems]

/-- A class with a short name that it imports, and one that extends it and writes the name out. -/
def shelfFiles : List String :=
  ["import java.util.*; class A { void put(List<B[]> x) { } }",
    "class C extends A { void put(java.util.List<B[]> x) { } }"]

/-- The same classes, the first one with the name written out and the second one with an import. -/
def respelledShelfFiles : List String :=
  ["class A { void put(java.util.List<B[]> x) { } }",
    "import java.util.*; class C extends A { void put(List<B[]> x) { } }"]

theorem reads_alike_of_writtenOut_shelfFiles :
    shortItems.writtenOut itemImports = longItems.writtenOut {} ∧
      shortItems.renderIn itemImports = "java.util.List<q.Item[]>" ∧
      (shortItems.writtenOut itemImports).renderIn {} = "java.util.List<q.Item[]>" ∧
      (putShort.accessor itemImports).signature = (putLong.accessor {}).signature ∧
      ({} : Containers).category (shortItems.renderIn itemImports) =
        ({} : Containers).category (longItems.renderIn {}) ∧
      List.Forall₂ SpelledAlike shelfFiles respelledShelfFiles ∧
      Catalog.readAll shelfFiles = Catalog.readAll respelledShelfFiles ∧
      ((Catalog.readAll shelfFiles).hierarchy.accessors 1).map Accessor.signature =
        [("put", ["java.util.List<B[]>"])] := by
  have hsame : shortItems.writtenOut itemImports = longItems.writtenOut {} := by decide +kernel
  have hshort : shortItems.renderIn itemImports = "java.util.List<q.Item[]>" := by decide +kernel
  have halike : List.Forall₂ SpelledAlike shelfFiles respelledShelfFiles :=
    .cons (by decide +kernel) (.cons (by decide +kernel) .nil)
  obtain ⟨hrender, hsignature, hcategory, hsources⟩ := reads_alike_of_writtenOut
  refine ⟨hsame, hshort, (hrender _ _).symm.trans hshort, ?_, hcategory {} _ _ _ _ hsame, halike,
    hsources _ _ halike, by decide +kernel⟩
  exact hsignature itemImports {} putShort putLong rfl (congrArg List.singleton hsame)

end Java
end BeanBuilder
