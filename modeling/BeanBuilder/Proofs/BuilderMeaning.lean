import Mathlib.Data.List.Nodup
import BeanBuilder.Proofs.BuilderText

/-! # What a generated builder does

The setters of a builder and its method `build` are given their meaning in Java.  Their lines are
the texts of statements, and a statement changes the fields of the builder, the local variables of
the running method and the list of the calls that were made.  An unqualified name stands for the
local variable of that name if there is one, otherwise for the field (`Activation.value?`).

One call of a setter replaces the value of one field (`set?_eq`), so after any calls each field
holds what its setter was given last (`Holds.sets?`).  `build` hands over the fields one after
another (`run?_handOvers`).  Its local variable is called `obj`, and a field of that name is hidden
by it: there `build` hands over the bean itself (`handsOver_of_generate?`).
-/
namespace BeanBuilder
namespace Meaning

variable {V : Type}

/-! ## Statements -/

/-- An expression in the body of a method. -/
inductive Expression where
  | name (text : String)
  | self
  | make (type : String)

/-- A statement in the body of a method: an assignment to a field, the declaration of a local
variable, a call of a method, and the end of the body with an answer. -/
inductive Statement where
  | assign (field : String) (value : Expression)
  | declare (type variableName : String) (value : Expression)
  | call (receiver : Expression) (method : String) (argument : Expression)
  | answer (value : Expression)

def Expression.text : Expression → String
  | name text => text
  | self => "this"
  | make type => "new " ++ type ++ "()"

def Statement.text : Statement → String
  | assign field value => "this." ++ field ++ " = " ++ value.text ++ ";"
  | declare type variableName value => type ++ " " ++ variableName ++ " = " ++ value.text ++ ";"
  | call receiver method argument =>
    receiver.text ++ "." ++ method ++ "(" ++ argument.text ++ ");"
  | answer value => "return " ++ value.text ++ ";"

/-- A method as it is called: its name, the names of its parameters and its statements. -/
structure Routine where
  name : String
  parameters : List String
  body : List Statement

/-- A draft is the text of a routine. -/
structure Routine.WrittenAs (r : Routine) (d : Draft.MethodDraft) : Prop where
  name : d.name = r.name
  parameters : d.parameters.map Prod.snd = r.parameters
  lines : d.lines.map Prod.snd = r.body.map Statement.text

/-! ## Running statements -/

/-- A value while a builder is used: one that was given to it, the builder itself, or the bean
that `build` has made. -/
inductive Value (V : Type) where
  | given (v : V)
  | builder
  | bean
  deriving DecidableEq, Repr

/-- A call of a method with one argument. -/
structure Call (V : Type) where
  receiver : Value V
  method : String
  argument : Value V
  deriving DecidableEq, Repr

/-- A method of the builder that is running. -/
structure Activation (V : Type) where
  fields : OrderedMap String (Value V)
  locals : OrderedMap String (Value V) := {}
  calls : List (Call V) := []
  answer : Option (Value V) := none

namespace Activation

/-- The value of an expression; a name without a variable and without a field has none. -/
def value? (a : Activation V) : Expression → Option (Value V)
  | .name text => (a.locals.get? text).or (a.fields.get? text)
  | .self => some .builder
  | .make _ => some .bean

/-- What a statement does.  Only fields that exist are assigned to, and no variable is declared
twice. -/
def after? (a : Activation V) : Statement → Option (Activation V)
  | .assign field value =>
    if field ∈ a.fields.keys then
      (a.value? value).map fun v => { a with fields := a.fields.insert field v }
    else none
  | .declare _ variableName value =>
    if variableName ∈ a.locals.keys then none
    else (a.value? value).map fun v => { a with locals := a.locals.insert variableName v }
  | .call receiver method argument => do
    let r ← a.value? receiver
    let v ← a.value? argument
    return { a with calls := a.calls ++ [⟨r, method, v⟩] }
  | .answer value => (a.value? value).map fun v => { a with answer := some v }

/-- What statements do one after another; none may stand behind the answer. -/
def run? (a : Activation V) : List Statement → Option (Activation V)
  | [] => some a
  | statement :: rest =>
    if a.answer.isSome then none else (a.after? statement).bind fun a' => a'.run? rest

end Activation

/-- A call of a routine on a builder with some fields. -/
def Routine.call? (r : Routine) (fields : OrderedMap String (Value V))
    (arguments : List (Value V)) : Option (Activation V) :=
  if arguments.length = r.parameters.length then
    ({ fields, locals := OrderedMap.ofList (r.parameters.zip arguments) } :
      Activation V).run? r.body
  else none

/-- The methods of a builder that take part: its setters and `build`. -/
structure BuilderCode where
  setters : List Routine
  build : Routine

namespace BuilderCode

/-- The fields after a call of a setter, which answers with the builder. -/
def set? (code : BuilderCode) (fields : OrderedMap String (Value V)) (name : String) (v : V) :
    Option (OrderedMap String (Value V)) := do
  let r ← code.setters.find? fun r => r.name = name
  let a ← r.call? fields [.given v]
  match a.answer with
  | some .builder => some a.fields
  | _ => none

/-- The fields after calls of setters, each with its argument. -/
def sets? (code : BuilderCode) (fields : OrderedMap String (Value V)) :
    List (String × V) → Option (OrderedMap String (Value V))
  | [] => some fields
  | (name, v) :: rest => (code.set? fields name v).bind fun fields' => code.sets? fields' rest

/-- The calls that `build` makes, which answers with the bean. -/
def build? (code : BuilderCode) (fields : OrderedMap String (Value V)) :
    Option (List (Call V)) := do
  let a ← code.build.call? fields []
  match a.answer with
  | some .bean => some a.calls
  | _ => none

/-- The calls that `build` makes after some calls of setters. -/
def handsOver? (code : BuilderCode) (fields : OrderedMap String (Value V))
    (history : List (String × V)) : Option (List (Call V)) :=
  (code.sets? fields history).bind code.build?

end BuilderCode

/-- The argument that a setter was given last. -/
def lastGiven? (history : List (String × V)) (setter : String) : Option V :=
  history.reverse.lookup setter

/-! ## The code of a builder -/

/-- The routine that sets a member. -/
def setterRoutine (m : Member) : Routine where
  name := setterName m.accessor
  parameters := ["obj"]
  body := [.assign m.field (.name "obj"), .answer .self]

/-- The statement that hands over one field. -/
def handOver (m : Member) : Statement :=
  .call (.name "obj") (setterName m.accessor) (.name m.field)

/-- The routine that makes a bean and hands over every field. -/
def buildRoutine (beanType : String) (members : List Member) : Routine where
  name := "build"
  parameters := []
  body := .declare beanType "obj" (.make beanType) ::
    (members.map handOver ++ [.answer (.name "obj")])

/-- The setters of some members and the method that makes the bean. -/
def builderCode (beanType : String) (members : List Member) : BuilderCode where
  setters := members.map setterRoutine
  build := buildRoutine beanType members

/-- The fields of a new builder. -/
def initialFields (members : List Member) (initially : Member → V) :
    OrderedMap String (Value V) :=
  OrderedMap.ofList (members.map fun m => (m.field, .given (initially m)))

/-- The call that `build` makes for a member whose field has a value.  The local variable `obj`
hides a field of that name. -/
def handed (m : Member) (v : V) : Call V where
  receiver := .bean
  method := setterName m.accessor
  argument := if m.field = "obj" then .bean else .given v

/-- A builder is written with some code: its text is made of methods, and among them the setters
and `build` are the texts of that code. -/
def BuilderCode.WrittenIn (code : BuilderCode) (s : BuilderStyle) (b : Bean)
    (members : List Member) (text : String) : Prop :=
  ∃ opening adders setters build factory,
    s.opening? b members = .ok opening ∧
      s.methods? b members = .ok (adders ++ setters ++ [build, factory]) ∧
      text = ((adders ++ setters ++ [build, factory]).foldl Draft.SourceDraft.addMethod
        opening).render.1 ∧
      List.Forall₂ Routine.WrittenAs code.setters setters ∧ code.build.WrittenAs build

/-! ## The text of the code -/

section Text
open BuilderStyle Draft

theorem writtenAs_of_setter? {builderType : String} {m : Member} {d : MethodDraft}
    (h : setter? builderType m = .ok d) : (setterRoutine m).WrittenAs d := by
  obtain ⟨-, rfl⟩ := fluentMethod?_eq_ok_iff.mp h
  exact ⟨rfl, rfl, by simp [setterRoutine, Statement.text, Expression.text, String.append_assoc]⟩

theorem writtenAs_of_buildMethod? {beanType : String} {members : List Member} {d : MethodDraft}
    (h : buildMethod? beanType members = .ok d) : (buildRoutine beanType members).WrittenAs d := by
  rw [buildMethod?_eq, except_ok_eq_ok_iff] at h
  subst h
  refine ⟨rfl, rfl, ?_⟩
  have hmake : " obj = new " ++ (beanType ++ "();") =
      " obj = " ++ ("new " ++ (beanType ++ "();")) := by
    rw [← String.append_assoc]
    rfl
  simp [buildRoutine, buildStatements, handOver, Statement.text, Expression.text,
    Function.comp_def, String.append_assoc, hmake]

/-- **A generated builder is written with its code.** -/
theorem writtenIn_of_generate? {s : BuilderStyle} {c : Containers} {b : Bean}
    {source : BuilderSource} (h : s.generate? c b = .ok source) :
    (builderCode b.qualifiedName (c.builderMembers b)).WrittenIn s b (c.builderMembers b)
      source.text := by
  obtain ⟨opening, hopening, h⟩ := except_bind_eq_ok_iff.mp h
  obtain ⟨drafts, hdrafts, h⟩ := except_bind_eq_ok_iff.mp h
  rw [except_pure_eq_ok_iff] at h
  obtain ⟨adders, -, hmethods⟩ := except_bind_eq_ok_iff.mp hdrafts
  obtain ⟨setters, hsetters, hmethods⟩ := except_bind_eq_ok_iff.mp hmethods
  obtain ⟨build, hbuild, hmethods⟩ := except_bind_eq_ok_iff.mp hmethods
  obtain ⟨factory, -, hmethods⟩ := except_bind_eq_ok_iff.mp hmethods
  rw [except_pure_eq_ok_iff] at hmethods
  subst hmethods
  have hwritten : List.Forall₂ (fun m d => (setterRoutine m).WrittenAs d)
      (c.builderMembers b) setters :=
    forall₂_of_mapM_eq_ok (f := setter? (s.builderType b))
      (fun _ _ hd => writtenAs_of_setter? hd) hsetters
  have htext : source.text = ((adders.filterMap id ++ setters ++ [build, factory]).foldl
      SourceDraft.addMethod opening).render.1 := by
    rw [h]
  exact ⟨opening, adders.filterMap id, setters, build, factory, hopening, hdrafts, htext,
    List.forall₂_map_left_iff.mpr hwritten, writtenAs_of_buildMethod? hbuild⟩

end Text

/-! ## Fields -/

section Fields
variable {members : List Member} {value initially : Member → V}
  {fields : OrderedMap String (Value V)} {m : Member} {v : V}

/-- The fields hold a value for every member, and there are no other fields. -/
structure Holds (members : List Member) (value : Member → V)
    (fields : OrderedMap String (Value V)) : Prop where
  keys : fields.keys = members.map Member.field
  get? : ∀ m ∈ members, fields.get? m.field = some (.given (value m))

theorem holds_initialFields (hf : (members.map Member.field).Nodup) :
    Holds members initially (initialFields members initially) := by
  have hkeys : (members.map fun m => (m.field, Value.given (initially m))).map Prod.fst =
      members.map Member.field := by rw [List.map_map]; rfl
  have hlist := OrderedMap.toList_ofList_of_nodup (hkeys ▸ hf)
  refine ⟨by rw [initialFields, OrderedMap.keys, hlist, hkeys], fun m hm => ?_⟩
  have hmem : (m.field, Value.given (initially m)) ∈ (initialFields members initially).toList := by
    rw [initialFields, hlist]
    exact List.mem_map_of_mem hm
  exact OrderedMap.get?_eq_some_of_mem (OrderedMap.nodup_keys_ofList _) hmem

theorem lastGiven?_cons (name : String) (v : V) (rest : List (String × V)) (setter : String) :
    lastGiven? ((name, v) :: rest) setter =
      (lastGiven? rest setter).or (if setter = name then some v else none) := by
  rw [lastGiven?, List.reverse_cons, List.lookup_append, lastGiven?]
  by_cases hname : setter = name <;> simp [hname, List.lookup_cons, beq_eq_false_iff_ne.mpr]

theorem find?_setterRoutine (hs : (members.map fun m => setterName m.accessor).Nodup)
    (hm : m ∈ members) :
    (members.map setterRoutine).find? (fun r => r.name = setterName m.accessor) =
      some (setterRoutine m) := by
  induction members with
  | nil => exact absurd hm List.not_mem_nil
  | cons m' rest ih =>
    rw [List.map_cons, List.nodup_cons] at hs
    rw [List.map_cons, List.find?_cons]
    rcases List.mem_cons.mp hm with rfl | hrest
    · simp [setterRoutine]
    · have hne : setterName m'.accessor ≠ setterName m.accessor :=
        fun heq => hs.1 (heq ▸ List.mem_map.mpr ⟨m, hrest, rfl⟩)
      simpa [setterRoutine, hne] using ih hs.2 hrest

/-- A call of a setter changes the field of its member and no other. -/
theorem set?_eq (beanType : String) (hs : (members.map fun m => setterName m.accessor).Nodup)
    (hfields : Holds members value fields) (hm : m ∈ members) (v : V) :
    (builderCode beanType members).set? fields (setterName m.accessor) v =
      some (fields.insert m.field (.given v)) := by
  have hkey : m.field ∈ fields.keys := hfields.keys ▸ List.mem_map_of_mem hm
  have hlocal : (OrderedMap.ofList [("obj", Value.given v)]).get? "obj" = some (.given v) := rfl
  have hcall : (setterRoutine m).call? fields [.given v] = some {
      fields := fields.insert m.field (.given v)
      locals := OrderedMap.ofList [("obj", .given v)]
      answer := some .builder } := by
    simp [Routine.call?, setterRoutine, Activation.run?, Activation.after?, Activation.value?,
      hkey, hlocal]
  rw [BuilderCode.set?, builderCode, find?_setterRoutine hs hm]
  simp [hcall]

theorem Holds.insert (hf : (members.map Member.field).Nodup)
    (hs : (members.map fun m => setterName m.accessor).Nodup)
    (hfields : Holds members value fields) (hm : m ∈ members) (v : V) :
    Holds members
      (fun m' => if setterName m'.accessor = setterName m.accessor then v else value m')
      (fields.insert m.field (.given v)) where
  keys := by
    rw [OrderedMap.keys_insert, if_pos (hfields.keys ▸ List.mem_map_of_mem hm), hfields.keys]
  get? m' hm' := by
    rw [OrderedMap.get?_insert]
    by_cases hsame : m' = m
    · simp [hsame]
    · have hfield : m'.field ≠ m.field := fun h => hsame (List.inj_on_of_nodup_map hf hm' hm h)
      have hsetter : setterName m'.accessor ≠ setterName m.accessor :=
        fun h => hsame (List.inj_on_of_nodup_map hs hm' hm h)
      rw [if_neg hfield, if_neg hsetter, hfields.get? m' hm']

/-- **After any calls of the setters** every field holds what its setter was given last, or what
it held before. -/
theorem Holds.sets? (beanType : String) (hf : (members.map Member.field).Nodup)
    (hs : (members.map fun m => setterName m.accessor).Nodup) {history : List (String × V)}
    (hhistory : ∀ call ∈ history, call.1 ∈ members.map fun m => setterName m.accessor)
    (hfields : Holds members value fields) :
    ∃ fields', (builderCode beanType members).sets? fields history = some fields' ∧
      Holds members
        (fun m => (lastGiven? history (setterName m.accessor)).getD (value m)) fields' := by
  induction history generalizing value fields with
  | nil => exact ⟨fields, rfl, hfields⟩
  | cons call rest ih =>
    obtain ⟨name, v⟩ := call
    obtain ⟨m, hm, rfl⟩ := List.mem_map.mp (hhistory _ List.mem_cons_self)
    obtain ⟨fields', hrun, hfields'⟩ := ih (fun c hc => hhistory c (List.mem_cons_of_mem _ hc))
      (hfields.insert hf hs hm v)
    refine ⟨fields', ?_, hfields'.keys, fun m' hm' => ?_⟩
    · rw [BuilderCode.sets?, set?_eq beanType hs hfields hm, Option.bind_some, hrun]
    · rw [hfields'.get? m' hm', lastGiven?_cons]
      cases lastGiven? rest (setterName m'.accessor) with
      | some w => rfl
      | none => by_cases hsame : setterName m'.accessor = setterName m.accessor <;> simp [hsame]

/-! ## Handing over -/

/-- `build` hands over the fields of some members, one after another, and answers with the
bean. -/
theorem run?_handOvers {members' : List Member} (hsub : ∀ m ∈ members', m ∈ members)
    {a : Activation V} (hlocals : a.locals = OrderedMap.ofList [("obj", .bean)])
    (hanswer : a.answer = none) (hfields : Holds members value a.fields) :
    a.run? (members'.map handOver ++ [.answer (.name "obj")]) =
      some { a with
        calls := a.calls ++ members'.map fun m => handed m (value m)
        answer := some .bean } := by
  have hobj : a.locals.get? "obj" = some .bean := by rw [hlocals]; rfl
  induction members' generalizing a with
  | nil => simp [Activation.run?, Activation.after?, Activation.value?, hanswer, hobj]
  | cons m rest ih =>
    have hargument : a.value? (.name m.field) = some (handed m (value m)).argument := by
      rw [Activation.value?, hfields.get? m (hsub m List.mem_cons_self), hlocals, handed]
      by_cases hname : m.field = "obj"
      · rw [hname, if_pos rfl]
        rfl
      · have hnone : (OrderedMap.ofList [("obj", (Value.bean : Value V))]).get? m.field = none := by
          simp [OrderedMap.ofList, OrderedMap.insert, OrderedMap.put, OrderedMap.get?,
            List.lookup_cons, beq_eq_false_iff_ne.mpr hname]
        rw [hnone, if_neg hname]
        rfl
    have hstep : a.after? (handOver m) =
        some { a with calls := a.calls ++ [handed m (value m)] } := by
      rw [handOver, Activation.after?, hargument]
      simp [Activation.value?, hobj, handed]
    have hrest := ih (a := { a with calls := a.calls ++ [handed m (value m)] })
      (fun m' hm' => hsub m' (List.mem_cons_of_mem _ hm')) hlocals hanswer hfields hobj
    rw [List.map_cons, List.cons_append, Activation.run?, hstep, hanswer, Option.bind_some]
    rw [hanswer] at hrest
    simp [hrest]

theorem build?_eq (beanType : String) (hfields : Holds members value fields) :
    (builderCode beanType members).build? fields =
      some (members.map fun m => handed m (value m)) := by
  have hrun := run?_handOvers (fun m (hm : m ∈ members) => hm)
    (a := { fields, locals := OrderedMap.ofList [("obj", .bean)] }) rfl rfl hfields
  have hcall : (buildRoutine beanType members).call? fields [] = some {
      fields, locals := OrderedMap.ofList [("obj", .bean)]
      calls := members.map fun m => handed m (value m)
      answer := some .bean } := by
    have hlength : ([] : List (Value V)).length =
        (buildRoutine beanType members).parameters.length := rfl
    rw [Routine.call?, if_pos hlength]
    exact hrun
  rw [BuilderCode.build?, builderCode]
  simp [hcall]

end Fields

/-! ## Generated builders -/

section Generated
variable {s : BuilderStyle} {c : Containers} {b : Bean} {source : BuilderSource}

/-- **What `build` hands over**, for every builder that can be generated and all calls of its
setters: to each setter of the bean, what the setter of the builder was given last or else the
initial value of the field; but where the field is called `obj`, the bean itself. -/
theorem handsOver_of_generate? (h : s.generate? c b = .ok source) (initially : Member → V)
    {history : List (String × V)}
    (hhistory : ∀ call ∈ history,
      call.1 ∈ (c.builderMembers b).map fun m => setterName m.accessor) :
    (builderCode b.qualifiedName (c.builderMembers b)).WrittenIn s b (c.builderMembers b)
        source.text ∧
      (builderCode b.qualifiedName (c.builderMembers b)).handsOver?
          (initialFields (c.builderMembers b) initially) history =
        some ((c.builderMembers b).map fun m => {
          receiver := .bean
          method := setterName m.accessor
          argument := if m.field = "obj" then .bean
            else .given ((lastGiven? history (setterName m.accessor)).getD (initially m)) }) := by
  refine ⟨writtenIn_of_generate? h, ?_⟩
  have hf := c.nodup_field_builderMembers b
  have hs := c.nodup_setterName_builderMembers b
  obtain ⟨fields', hsets, hfields'⟩ :=
    (holds_initialFields hf).sets? b.qualifiedName hf hs hhistory
  rw [BuilderCode.handsOver?, hsets, Option.bind_some, build?_eq b.qualifiedName hfields']
  rfl

/-- A bean with a text and an object. -/
def boxBean : Bean where
  simpleName := "Box"
  package := some "p"
  accessors := [{ name := "getLabel", returnType := some "String" },
    { name := "setLabel", parameterTypes := ["String"] },
    { name := "getObj", returnType := some "String" },
    { name := "setObj", parameterTypes := ["String"] }]
  constructors := [[]]

/-- The builder of that bean: its code, and its fields before any call. -/
def boxCode : BuilderCode :=
  builderCode boxBean.qualifiedName (({} : Containers).builderMembers boxBean)

def boxFields : OrderedMap String (Value Nat) :=
  initialFields (({} : Containers).builderMembers boxBean) fun _ => 0

theorem isOk_generate?_boxBean : (({} : BuilderStyle).generate? {} boxBean).isOk = true := rfl

theorem handsOver_of_generate?_boxBean :
    ∃ source, ({} : BuilderStyle).generate? {} boxBean = .ok source ∧
      boxCode.WrittenIn {} boxBean (({} : Containers).builderMembers boxBean) source.text ∧
      boxCode.handsOver? boxFields [("setLabel", 1), ("setObj", 2), ("setLabel", 3)] =
        some [⟨.bean, "setLabel", .given 3⟩, ⟨.bean, "setObj", .bean⟩] := by
  have hok := isOk_generate?_boxBean
  have hcalls : ∀ call ∈ [("setLabel", 1), ("setObj", 2), ("setLabel", 3)],
      call.1 ∈ (({} : Containers).builderMembers boxBean).map fun m => setterName m.accessor := by
    decide +kernel
  cases h : ({} : BuilderStyle).generate? {} boxBean with
  | error e =>
    rw [h] at hok
    cases hok
  | ok source =>
    obtain ⟨hwritten, hcall⟩ := handsOver_of_generate? h (fun _ => 0) hcalls
    exact ⟨source, rfl, hwritten, hcall⟩

/-- `setObj` of the bean is not given the value that `setObj` of the builder was given. -/
theorem boxBean_setObj_given_itself :
    (({} : BuilderStyle).generate? {} boxBean).isOk = true ∧
      boxCode.handsOver? boxFields [("setLabel", 1), ("setObj", 2)] =
        some [⟨.bean, "setLabel", .given 1⟩, ⟨.bean, "setObj", .bean⟩] ∧
      boxCode.handsOver? boxFields [("setLabel", 1), ("setObj", 2)] ≠
        some ((({} : Containers).builderMembers boxBean).map fun m => {
          receiver := .bean
          method := setterName m.accessor
          argument := .given ((lastGiven? [("setLabel", 1), ("setObj", 2)]
            (setterName m.accessor)).getD 0) }) :=
  ⟨isOk_generate?_boxBean, by decide +kernel, by decide +kernel⟩

end Generated
end Meaning
end BeanBuilder
