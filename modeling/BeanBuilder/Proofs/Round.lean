import Mathlib.Data.List.Basic
import BeanBuilder.Proofs.OrderedMap
import BeanBuilder.Proofs.Outcomes

/-! # What a round in memory comes to

Each bean of a round has one outcome.  Either its builder is kept in memory under the name of the
bean with the suffix behind it, or some diagnostics say why not, and all of them name the bean
(`Settled`).  The outcome follows from the bean alone: neither the beans around it nor what the
memory held before have a part in it (`process_memory`).  So the result of a round is put together
from the results of any two parts of it (`roundOf_append`).

Builders of different beans have different names.  Where the beans have different names, none of
them empty, every bean is therefore counted once, among the builders or among the failed types,
and a memory that was empty holds one text for each builder (`process_memory_settles`).
-/
namespace BeanBuilder

/-- The text that an outcome leaves in memory with its name, if there is one. -/
def Outcome.entries : Outcome → List (String × String)
  | .stored source => [(source.qualifiedName, source.text)]
  | _ => []

theorem Outcome.generated_eq_map (o : Outcome) : o.generated = o.entries.map Prod.fst := by
  cases o <;> rfl

namespace RoundRules

variable {r : RoundRules} {b : Bean} {o : Outcome} {beans : List Bean}

/-! ## One bean -/

/-- The two ways in which the work on a bean can end. -/
inductive Settled (r : RoundRules) (b : Bean) (o : Outcome) : Prop
  /-- The text of the builder is written once, and nothing is reported. -/
  | kept (source : BuilderSource) (unobjected : b.objections r.strict r.requireConstructor = [])
    (made : r.style.generate? r.containers b = .ok source)
    (named : o.generated = [b.qualifiedName ++ r.style.builderSuffix])
    (unreported : o.diagnostics b = [])
    (written : o.entries = [(b.qualifiedName ++ r.style.builderSuffix, source.text)])
  /-- Something is reported of the bean, and nothing is written. -/
  | reported
    (cause : b.objections r.strict r.requireConstructor ≠ [] ∨
      ∃ e, r.style.generate? r.containers b = .error e)
    (unnamed : o.generated = []) (some_diagnostic : o.diagnostics b ≠ [])
    (subject : ∀ d ∈ o.diagnostics b, d.subject = some b.qualifiedName)
    (unwritten : o.entries = [])

/-- What the work on a bean comes to where every text can be stored. -/
def outcomeOf (r : RoundRules) (b : Bean) : Outcome :=
  if b.objections r.strict r.requireConstructor = [] then
    match r.style.generate? r.containers b with
    | .error e => .unnamed e
    | .ok source => .stored source
  else .passedOver (b.objections r.strict r.requireConstructor)

/-- One step of a round: the outcome of the bean does not depend on the memory, and the memory
takes the entries of the outcome. -/
theorem processOne_memory (r : RoundRules) (b : Bean) (kept : OrderedMap String String) :
    r.processOne Destination.memory b kept =
      (r.outcomeOf b, kept.union ⟨(r.outcomeOf b).entries⟩) := by
  simp only [processOne, outcomeOf, List.isEmpty_iff]
  by_cases hb : b.objections r.strict r.requireConstructor = []
  · rw [if_pos hb, if_pos hb]
    cases r.style.generate? r.containers b <;> rfl
  · rw [if_neg hb, if_neg hb]
    rfl

theorem settled_outcomeOf (r : RoundRules) (b : Bean) : r.Settled b (r.outcomeOf b) := by
  unfold outcomeOf
  by_cases hb : b.objections r.strict r.requireConstructor = []
  · rw [if_pos hb]
    cases hmade : r.style.generate? r.containers b with
    | error e =>
      exact .reported (.inr ⟨e, hmade⟩) rfl (List.cons_ne_nil _ _)
        (fun d hd => by rw [List.mem_singleton.mp hd]) rfl
    | ok source =>
      have hname := BuilderStyle.qualifiedName_generate? hmade
      exact .kept source hb hmade (congrArg (fun n => [n]) hname) rfl
        (congrArg (fun n => [(n, source.text)]) hname)
  · rw [if_neg hb]
    exact .reported (.inl hb) rfl hb (fun d hd => Bean.subject_of_mem_objections hd) rfl

/-! ## All beans -/

/-- **The outcomes of a round in memory are those of its beans**, in their order, and the memory
takes the entries of the outcomes one after another. -/
theorem process_memory (r : RoundRules) (beans : List Bean) (kept : OrderedMap String String) :
    r.process Destination.memory beans kept =
      (beans.map r.outcomeOf, kept.union ⟨(beans.map r.outcomeOf).flatMap Outcome.entries⟩) := by
  induction beans generalizing kept with
  | nil => rfl
  | cons b rest ih =>
    rw [process, processOne_memory]
    simp only [ih, List.map_cons, List.flatMap_cons, OrderedMap.union_append]

theorem roundOf_append {xs ys : List Bean} {os ps : List Outcome} (h : xs.length = os.length) :
    roundOf (xs ++ ys) (os ++ ps) = (roundOf xs os).merge (roundOf ys ps) := by
  induction xs generalizing os with
  | nil =>
    rw [List.length_nil, eq_comm, List.length_eq_zero_iff] at h
    subst h
    simp [roundOf, Round.merge]
  | cons b rest ih =>
    cases os with
    | nil => simp at h
    | cons o others =>
      rw [List.cons_append, List.cons_append, roundOf, roundOf, ih (Nat.succ.inj h)]
      simp [Round.merge]

theorem roundOf_map_outcomeOf (r : RoundRules) (beans : List Bean) :
    roundOf beans (beans.map r.outcomeOf) =
      ⟨beans.flatMap fun b => (r.outcomeOf b).generated,
        beans.flatMap fun b => (r.outcomeOf b).diagnostics b⟩ := by
  induction beans with
  | nil => rfl
  | cons b rest ih =>
    rw [List.map_cons, roundOf, ih]
    rfl

/-! ## Counting -/

/-- A name that was not seen is kept once, however often it is repeated at the start. -/
theorem firstsAfter_append_of_forall_eq {seen names rest : List String} {name : String}
    (hn : names ≠ []) (hall : ∀ n ∈ names, n = name) (hs : name ∉ seen) :
    Round.firstsAfter seen (names ++ rest) = name :: Round.firstsAfter (name :: seen) rest := by
  have hrepeated : ∀ more : List String, (∀ n ∈ more, n = name) →
      Round.firstsAfter (name :: seen) (more ++ rest) =
        Round.firstsAfter (name :: seen) rest := by
    intro more hmore
    induction more with
    | nil => rfl
    | cons n more ih =>
      rw [hmore n List.mem_cons_self, List.cons_append, Round.firstsAfter,
        if_pos List.mem_cons_self]
      exact ih fun n hm => hmore n (List.mem_cons_of_mem _ hm)
  obtain ⟨n, more, rfl⟩ := List.exists_cons_of_ne_nil hn
  rw [hall n List.mem_cons_self, List.cons_append, Round.firstsAfter, if_neg hs,
    hrepeated more fun n hm => hall n (List.mem_cons_of_mem _ hm)]

/-- The subjects of the diagnostics of a bean whose name is not empty are all its name. -/
theorem namedSubject?_of_subject {d : Diagnostic} (h : d.subject = some b.qualifiedName)
    (hb : b.qualifiedName ≠ "") : d.namedSubject? = some b.qualifiedName := by
  simp [Diagnostic.namedSubject?, h, hb]

/-- Every bean is counted once: its builder is generated or its name is a failed one. -/
theorem length_generated_add_failed (r : RoundRules) {seen : List String}
    (hn : (beans.map Bean.qualifiedName).Nodup) (hne : ∀ b ∈ beans, b.qualifiedName ≠ "")
    (hs : ∀ b ∈ beans, b.qualifiedName ∉ seen) :
    (beans.flatMap fun b => (r.outcomeOf b).generated).length +
      (Round.firstsAfter seen ((beans.flatMap fun b => (r.outcomeOf b).diagnostics b).filterMap
        Diagnostic.namedSubject?)).length = beans.length := by
  induction beans generalizing seen with
  | nil => rfl
  | cons b rest ih =>
    rw [List.map_cons, List.nodup_cons] at hn
    have hrest := fun b' hb' => hne b' (List.mem_cons_of_mem b hb')
    have hb := hne b List.mem_cons_self
    rw [List.flatMap_cons, List.flatMap_cons, List.filterMap_append, List.length_append,
      List.length_cons]
    rcases r.settled_outcomeOf b with
      ⟨source, -, -, hnamed, hnone, -⟩ | ⟨-, hnamed, hsome, hsubject, -⟩
    · rw [hnamed, hnone, List.filterMap_nil, List.nil_append, List.length_singleton,
        ← ih hn.2 hrest fun b' hb' => hs b' (List.mem_cons_of_mem _ hb')]
      omega
    -- the diagnostics of the bean give its name once; no later bean has it
    · have hnames : ((r.outcomeOf b).diagnostics b).filterMap Diagnostic.namedSubject? =
          ((r.outcomeOf b).diagnostics b).map fun _ => b.qualifiedName := by
        rw [← List.filterMap_eq_map]
        exact List.filterMap_congr fun d hd => namedSubject?_of_subject (hsubject d hd) hb
      have hnew : ∀ b' ∈ rest, b'.qualifiedName ∉ b.qualifiedName :: seen := by
        intro b' hb' hmem
        rcases List.mem_cons.mp hmem with heq | hold
        · exact hn.1 (heq ▸ List.mem_map_of_mem hb')
        · exact hs b' (List.mem_cons_of_mem _ hb') hold
      rw [hnames, firstsAfter_append_of_forall_eq
        (fun h => hsome (List.map_eq_nil_iff.mp h)) (by simp) (hs b List.mem_cons_self),
        List.length_cons, hnamed, List.length_nil, ← ih hn.2 hrest hnew]
      omega

/-- Beans with different names have builders with different names. -/
theorem nodup_generated (r : RoundRules) (hn : (beans.map Bean.qualifiedName).Nodup) :
    (beans.flatMap fun b => (r.outcomeOf b).generated).Nodup := by
  have hnodup := nodup_generated_roundOf (r.concludes_process Destination.memory beans {}) hn
  rwa [process_memory, roundOf_map_outcomeOf] at hnodup

/-- The names in the entries of a round are those of its builders. -/
theorem map_fst_entries (r : RoundRules) (beans : List Bean) :
    ((beans.map r.outcomeOf).flatMap Outcome.entries).map Prod.fst =
      beans.flatMap fun b => (r.outcomeOf b).generated := by
  rw [List.map_flatMap, List.flatMap_map]
  exact List.flatMap_congr fun b _ => (Outcome.generated_eq_map _).symm

/-! ## The round as a whole -/

/-- A round whose texts are kept in memory: its result, and what the memory holds after it. -/
def run (r : RoundRules) (beans : List Bean) (kept : OrderedMap String String) :
    Round × OrderedMap String String :=
  (roundOf beans (r.process Destination.memory beans kept).1,
    (r.process Destination.memory beans kept).2)

theorem run_eq (r : RoundRules) (beans : List Bean) (kept : OrderedMap String String) :
    r.run beans kept =
      (roundOf beans (beans.map r.outcomeOf),
        kept.union ⟨(beans.map r.outcomeOf).flatMap Outcome.entries⟩) := by
  rw [run, process_memory]

/-- **What a round in memory comes to.**  Every bean is settled on its own, whatever the other
beans are and whatever the memory holds; two rounds one after the other are one round of all their
beans; and a round of beans with different names, none of them empty, counts every bean once and
leaves in an empty memory exactly one text for each builder. -/
theorem process_memory_settles (r : RoundRules) :
    (∃ settle : Bean → Outcome, (∀ b, r.Settled b (settle b)) ∧
      ∀ beans kept, r.process Destination.memory beans kept =
        (beans.map settle, kept.union ⟨(beans.map settle).flatMap Outcome.entries⟩)) ∧
    (∀ xs ys kept kept' kept'',
      (r.run (xs ++ ys) kept).1 = (r.run xs kept').1.merge (r.run ys kept'').1 ∧
        (r.run (xs ++ ys) kept).2 = (r.run ys (r.run xs kept).2).2) ∧
    ∀ beans : List Bean, (beans.map Bean.qualifiedName).Nodup →
      (∀ b ∈ beans, b.qualifiedName ≠ "") →
      (r.run beans {}).1.generated.length + (r.run beans {}).1.failedTypes.length =
          beans.length ∧
        (r.run beans {}).2.keys = (r.run beans {}).1.generated ∧
        (r.run beans {}).1.generated.Nodup := by
  refine ⟨⟨r.outcomeOf, r.settled_outcomeOf, r.process_memory⟩, ?_, ?_⟩
  · intro xs ys kept kept' kept''
    simp only [run_eq, List.map_append, List.flatMap_append, OrderedMap.union_append, and_true]
    exact roundOf_append (List.length_map _).symm
  · intro beans hn hne
    have hnodup := nodup_generated r hn
    rw [run_eq, roundOf_map_outcomeOf]
    refine ⟨length_generated_add_failed r hn hne fun _ _ => List.not_mem_nil, ?_, hnodup⟩
    rw [← map_fst_entries] at hnodup ⊢
    rw [OrderedMap.keys, ← OrderedMap.ofList_eq_union, OrderedMap.toList_ofList_of_nodup hnodup]

/-- A bean whose builder is kept, one without a constructor, and one whose builder has no usable
name. -/
def mixedBeans : List Bean :=
  [{ simpleName := "Kept", package := some "p", constructors := [[]] },
    { simpleName := "Sealed", package := some "p" },
    { simpleName := "No name", package := some "p", constructors := [[]] }]

theorem process_memory_settles_mixedBeans :
    (mixedBeans.map Bean.qualifiedName).Nodup ∧ (∀ b ∈ mixedBeans, b.qualifiedName ≠ "") ∧
      (({} : RoundRules).run mixedBeans {}).1.generated.length +
          (({} : RoundRules).run mixedBeans {}).1.failedTypes.length = 3 ∧
        (({} : RoundRules).run mixedBeans {}).2.keys = ["p.KeptBuilder"] ∧
        (({} : RoundRules).run mixedBeans {}).1.failedTypes = ["p.Sealed", "p.No name"] := by
  have hn : (mixedBeans.map Bean.qualifiedName).Nodup := by decide
  have hne : ∀ b ∈ mixedBeans, b.qualifiedName ≠ "" := by decide
  have hall := (process_memory_settles {}).2.2 mixedBeans hn hne
  have hgenerated : (({} : RoundRules).run mixedBeans {}).1.generated = ["p.KeptBuilder"] := rfl
  exact ⟨hn, hne, hall.1, hall.2.1.trans hgenerated, rfl⟩

end RoundRules
end BeanBuilder
