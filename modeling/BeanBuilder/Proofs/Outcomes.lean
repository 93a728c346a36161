import BeanBuilder.Round
import BeanBuilder.Proofs.Draft.Calls

/-! # What a round tells of its beans

Whatever the destination of a round is, the work on a bean ends in one of two ways: its builder is
stored and nothing is reported, or something is reported of the bean and nothing is stored
(`concludes_process`).

A builder is stored under the name of its bean with the suffix behind it.  Beans with different
names therefore have builders with different names, and the result of a round tells of each bean
which of the two ways it was (`told_roundOf`).
-/
namespace BeanBuilder

/-- Only the simple name of a type is made longer by a suffix. -/
theorem qualify_append (package : Option String) (name suffix : String) :
    qualify package (name ++ suffix) = qualify package name ++ suffix := by
  cases package with
  | none => rfl
  | some p =>
    by_cases hp : p = ""
    · simp [qualify, hp]
    · simp [qualify, hp, String.append_assoc]

namespace BuilderStyle

variable {s : BuilderStyle} {c : Containers} {b : Bean} {source : BuilderSource}

/-- A builder is kept under the name of its bean with the suffix behind it. -/
theorem qualifiedName_generate? (h : s.generate? c b = .ok source) :
    source.qualifiedName = b.qualifiedName ++ s.builderSuffix := by
  obtain ⟨d, -, h⟩ := except_bind_eq_ok_iff.mp h
  obtain ⟨drafts, -, h⟩ := except_bind_eq_ok_iff.mp h
  rw [except_pure_eq_ok_iff] at h
  rw [h]
  exact qualify_append b.package b.simpleName s.builderSuffix

end BuilderStyle

namespace Bean

variable {b : Bean} {d : Diagnostic} {strict requireConstructor : Bool}

/-- An objection to a bean is that it has no constructor or is not shaped as it should be. -/
theorem eq_of_mem_objections (h : d ∈ b.objections strict requireConstructor) :
    d = ⟨.missingConstructor, "Missing no argument constructor", some b.qualifiedName⟩ ∨
      d = ⟨.notAPojo, "Class " ++ b.qualifiedName ++ " is not POJO.", some b.qualifiedName⟩ := by
  rcases List.mem_append.mp h with hc | hs
  · split at hc
    · unfold constructorDiagnostics at hc
      split at hc
      · exact absurd hc List.not_mem_nil
      · exact Or.inl (List.mem_singleton.mp hc)
    · exact absurd hc List.not_mem_nil
  · unfold shapeDiagnostics at hs
    split at hs
    · exact absurd hs List.not_mem_nil
    · exact Or.inr (List.mem_singleton.mp hs)

/-- Every objection to a bean names the bean. -/
theorem subject_of_mem_objections (h : d ∈ b.objections strict requireConstructor) :
    d.subject = some b.qualifiedName := by
  rcases eq_of_mem_objections h with rfl | rfl <;> rfl

end Bean

namespace RoundRules

variable {σ : Type} {rules : RoundRules} {b : Bean} {o : Outcome} {beans : List Bean}
  {outcomes : List Outcome} {d : Diagnostic}

/-! ## One bean -/

/-- The two ways in which the work on a bean ends. -/
inductive Concludes (rules : RoundRules) (b : Bean) : Outcome → Prop
  | stored (source : BuilderSource) (made : rules.style.generate? rules.containers b = .ok source) :
      Concludes rules b (.stored source)
  | reported (o : Outcome) (unnamed : o.generated = []) (some_diagnostic : o.diagnostics b ≠ [])
      (subject : ∀ d ∈ o.diagnostics b,
        d.subject = some b.qualifiedName ∧ d.kind ≠ .sourceParseFailure) : Concludes rules b o

theorem concludes_processOne (rules : RoundRules) (d : Destination σ) (b : Bean) (state : σ) :
    rules.Concludes b (rules.processOne d b state).1 := by
  -- a single diagnostic on the bean
  have hone : ∀ {kind : DiagnosticKind} {message : String}, kind ≠ .sourceParseFailure →
      ∀ e ∈ [(⟨kind, message, some b.qualifiedName⟩ : Diagnostic)],
        e.subject = some b.qualifiedName ∧ e.kind ≠ .sourceParseFailure := by
    intro kind message hkind e he
    rw [List.mem_singleton.mp he]
    exact ⟨rfl, hkind⟩
  simp only [processOne]
  by_cases hnone : (b.objections rules.strict rules.requireConstructor).isEmpty = true
  · rw [if_pos hnone]
    cases hmade : rules.style.generate? rules.containers b with
    | error e => exact .reported _ rfl (List.cons_ne_nil _ _) (hone (by decide))
    | ok source =>
      simp only
      split
      · exact .reported _ rfl (List.cons_ne_nil _ _) (hone (by decide))
      · exact .stored source hmade
  · rw [if_neg hnone]
    refine .reported _ rfl (fun hnil => hnone (List.isEmpty_iff.mpr hnil)) fun e he => ?_
    rcases Bean.eq_of_mem_objections he with rfl | rfl
    · exact ⟨rfl, by simp⟩
    · exact ⟨rfl, by simp⟩

/-! ## All beans -/

/-- **Every bean of a round has its outcome.** -/
theorem concludes_process (rules : RoundRules) (d : Destination σ) (beans : List Bean) (state : σ) :
    List.Forall₂ rules.Concludes beans (rules.process d beans state).1 := by
  induction beans generalizing state with
  | nil => exact .nil
  | cons b rest ih => exact .cons (rules.concludes_processOne d b state) (ih _)

/-- The builders of a round are named after some of its beans, in their order. -/
theorem generated_roundOf_sublist (h : List.Forall₂ rules.Concludes beans outcomes) :
    (roundOf beans outcomes).generated.Sublist
      (beans.map fun b => b.qualifiedName ++ rules.style.builderSuffix) := by
  induction h with
  | nil => exact List.Sublist.refl []
  | cons hfirst _ ih =>
    cases hfirst with
    | stored source made =>
      rw [List.map_cons, ← BuilderStyle.qualifiedName_generate? made]
      exact ih.cons_cons source.qualifiedName
    | reported o unnamed =>
      rw [roundOf, Round.merge, Outcome.round, unnamed]
      exact ih.cons _

/-- Beans with different names have builders with different names. -/
theorem nodup_generated_roundOf (h : List.Forall₂ rules.Concludes beans outcomes)
    (hn : (beans.map Bean.qualifiedName).Nodup) : (roundOf beans outcomes).generated.Nodup := by
  refine (generated_roundOf_sublist h).nodup ?_
  rw [List.nodup_iff_pairwise_ne, List.pairwise_map] at hn ⊢
  exact hn.imp fun hne heq => hne ((String.append_left_inj rules.style.builderSuffix).mp heq)

/-- Every diagnostic of a round names one of its beans. -/
theorem subject_of_mem_roundOf (h : List.Forall₂ rules.Concludes beans outcomes)
    (hd : d ∈ (roundOf beans outcomes).diagnostics) :
    ∃ b ∈ beans, d.subject = some b.qualifiedName := by
  induction h with
  | nil => exact absurd hd List.not_mem_nil
  | cons hfirst _ ih =>
    rcases List.mem_append.mp hd with hhead | hrest
    · cases hfirst with
      | stored source => exact absurd hhead List.not_mem_nil
      | reported o _ _ subject => exact ⟨_, List.mem_cons_self, (subject d hhead).1⟩
    · obtain ⟨b, hb, hsubject⟩ := ih hrest
      exact ⟨b, List.mem_cons_of_mem _ hb, hsubject⟩

/-- What a round tells of a bean: its builder was made and is named once, or it is the subject of a
diagnostic. -/
inductive Told (rules : RoundRules) (r : Round) (b : Bean) : Prop
  | generated (source : BuilderSource)
      (made : rules.style.generate? rules.containers b = .ok source)
      (once : r.generated.count source.qualifiedName = 1)
      (unreported : ∀ d ∈ r.diagnostics, d.subject ≠ some b.qualifiedName)
  | reported (d : Diagnostic) (mem : d ∈ r.diagnostics) (subject : d.subject = some b.qualifiedName)
      (kind : d.kind ≠ .sourceParseFailure)
      (ungenerated : b.qualifiedName ++ rules.style.builderSuffix ∉ r.generated)

/-- The name of a builder tells the name of its bean. -/
theorem qualifiedName_mem_of_mem_generated (h : List.Forall₂ rules.Concludes beans outcomes)
    (hmem : b.qualifiedName ++ rules.style.builderSuffix ∈ (roundOf beans outcomes).generated) :
    b.qualifiedName ∈ beans.map Bean.qualifiedName := by
  obtain ⟨b', hb', hname⟩ := List.mem_map.mp ((generated_roundOf_sublist h).subset hmem)
  rw [← (String.append_left_inj rules.style.builderSuffix).mp hname]
  exact List.mem_map_of_mem hb'

/-- The outcome of a bean tells what became of it, as no other bean has its name. -/
theorem told_cons_self (h : rules.Concludes b o)
    (hrest : List.Forall₂ rules.Concludes beans outcomes)
    (hb : b.qualifiedName ∉ beans.map Bean.qualifiedName) :
    rules.Told ((o.round b).merge (roundOf beans outcomes)) b := by
  have hnew : b.qualifiedName ++ rules.style.builderSuffix ∉ (roundOf beans outcomes).generated :=
    fun hmem => hb (qualifiedName_mem_of_mem_generated hrest hmem)
  cases h with
  | stored source made =>
    rw [← BuilderStyle.qualifiedName_generate? made] at hnew
    refine .generated source made ?_ fun d hd hsubject => ?_
    · exact List.count_cons_self.trans (congrArg (· + 1) (List.count_eq_zero.mpr hnew))
    · obtain ⟨b', hb', hsame⟩ := subject_of_mem_roundOf hrest hd
      have hname := Option.some.inj (hsubject.symm.trans hsame)
      exact hb (hname ▸ List.mem_map_of_mem hb')
  | reported o unnamed some_diagnostic subject =>
    obtain ⟨d, more, hdiagnostics⟩ := List.exists_cons_of_ne_nil some_diagnostic
    have hd : d ∈ o.diagnostics b := by
      rw [hdiagnostics]
      exact List.mem_cons_self
    refine .reported d (List.mem_append_left _ hd) (subject d hd).1 (subject d hd).2 ?_
    rw [Round.merge, Outcome.round, unnamed]
    exact hnew

/-- The outcome of another bean adds nothing to what is told of a bean. -/
theorem Told.cons {b' : Bean} {r : Round} (h : rules.Told r b') (ho : rules.Concludes b o)
    (hne : b.qualifiedName ≠ b'.qualifiedName) : rules.Told ((o.round b).merge r) b' := by
  have hbuilder : b.qualifiedName ++ rules.style.builderSuffix ≠
      b'.qualifiedName ++ rules.style.builderSuffix :=
    fun hsame => hne ((String.append_left_inj _).mp hsame)
  cases ho with
  | stored source made =>
    rw [← BuilderStyle.qualifiedName_generate? made] at hbuilder
    cases h with
    | generated source' made' once unreported =>
      rw [← BuilderStyle.qualifiedName_generate? made'] at hbuilder
      exact .generated source' made' ((List.count_cons_of_ne hbuilder).trans once) unreported
    | reported d mem subject kind ungenerated =>
      refine .reported d mem subject kind fun hmem => ?_
      exact (List.mem_cons.mp hmem).elim (fun hsame => hbuilder hsame.symm) ungenerated
  | reported o unnamed _ hsubject =>
    have hsame : ((o.round b).merge r).generated = r.generated := by
      rw [Round.merge, Outcome.round, unnamed, List.nil_append]
    cases h with
    | generated source' made' once unreported =>
      refine .generated source' made' (hsame ▸ once) fun d hd => ?_
      rcases List.mem_append.mp hd with hfirst | hrest
      · rw [(hsubject d hfirst).1]
        exact fun heq => hne (Option.some.inj heq)
      · exact unreported d hrest
    | reported d mem subject kind ungenerated =>
      exact .reported d (List.mem_append_right _ mem) subject kind (hsame ▸ ungenerated)

/-- **The result of a round tells of every bean** what became of it. -/
theorem told_roundOf (h : List.Forall₂ rules.Concludes beans outcomes)
    (hn : (beans.map Bean.qualifiedName).Nodup) :
    ∀ b ∈ beans, rules.Told (roundOf beans outcomes) b := by
  induction h with
  | nil => exact fun _ hb => absurd hb List.not_mem_nil
  | @cons b o rest others hfirst hrest ih =>
    rw [List.map_cons, List.nodup_cons] at hn
    intro b' hb'
    rw [roundOf]
    rcases List.mem_cons.mp hb' with rfl | hmem
    · exact told_cons_self hfirst hrest hn.1
    · exact (ih hn.2 b' hmem).cons hfirst fun hname => hn.1 (hname ▸ List.mem_map_of_mem hmem)

end RoundRules
end BeanBuilder
