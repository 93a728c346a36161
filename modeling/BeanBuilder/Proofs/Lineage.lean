import Mathlib.Data.List.Forall2
import BeanBuilder.Proofs.Hierarchy

/-! # The same types at other places

Two hierarchies may hold the same types at places that correspond one to one.  Where the
superclasses of the types along a lineage correspond, too, the lineages run in parallel
(`forall₂_lineage`), and the generator sees the same bean at both places (`bean?_eq`).  Superclasses
elsewhere may differ.
-/
namespace BeanBuilder

/-- A declaration as it is read, before its superclass is found. -/
def TypeDeclaration.unlinked (d : TypeDeclaration) : TypeDeclaration :=
  { d with superclass := none }

namespace Hierarchy

variable {h h' : Hierarchy} {R : TypeId → TypeId → Prop} {i j : TypeId} {steps : Nat}
  {seen seen' : List TypeId}

/-- More steps than there are declarations left lead no further. -/
theorem Passed.climb_add (hp : h.Passed seen i) (hsteps : h.size ≤ steps + seen.length)
    (more : Nat) : h.climb (steps + more) seen i = h.climb steps seen i := by
  induction steps generalizing seen i with
  | zero =>
    rw [Nat.zero_add] at hsteps ⊢
    cases more with
    | zero => rfl
    | succ more =>
      rw [climb, climb]
      by_cases hi : i ∈ seen
      · rw [if_pos hi]
      · have hnone : h.get? i = none := by
          apply List.getElem?_eq_none
          rw [← Nat.not_lt]
          intro hlt
          exact hi (mem_of_size_le_length hp.nodup hp.declared hsteps hlt)
        rw [if_neg hi, hnone]
  | succ steps ih =>
    rw [Nat.add_right_comm, climb, climb]
    by_cases hi : i ∈ seen
    · rw [if_pos hi, if_pos hi]
    · rw [if_neg hi, if_neg hi]
      cases hd : h.get? i with
      | none => rfl
      | some d =>
        cases hs : d.superclass with
        | none => simp only [hs]
        | some parent =>
          have hparent : h.parent? i = some parent := by rw [parent?, hd, Option.bind_some, hs]
          have hsteps' : h.size ≤ steps + (i :: seen).length := by
            rw [List.length_cons]
            omega
          simp only [hs]
          rw [ih (hp.step hi hparent) hsteps']

/-- The lineage is the chain with any number of steps that is large enough. -/
theorem climb_eq_lineage (i : TypeId) (hsteps : h.size ≤ steps) :
    h.climb steps [] i = h.lineage i := by
  obtain ⟨more, rfl⟩ := Nat.exists_eq_add_of_le hsteps
  exact (Passed.nil h i).climb_add (Nat.le_refl _) more

/-- Two hierarchies hold the same types at places that correspond, apart from the superclasses that
these have.  Types at other places may be different ones. -/
structure Corresponds (h h' : Hierarchy) (R : TypeId → TypeId → Prop) : Prop where
  biUnique : Relator.BiUnique R
  declared : ∀ i j, R i j → ∃ d d', h.get? i = some d ∧ h'.get? j = some d' ∧
    d.unlinked = d'.unlinked

/-- Up from two places that correspond there are places that correspond, or none. -/
def ParentsCorrespond (h h' : Hierarchy) (R : TypeId → TypeId → Prop) (i : TypeId) : Prop :=
  ∀ j, R i j → Option.Rel R (h.parent? i) (h'.parent? j)

theorem Corresponds.forall₂_climb (hR : h.Corresponds h' R) (hij : R i j)
    (hseen : List.Forall₂ R seen seen')
    (hup : ∀ k ∈ h.climb steps seen i, h.ParentsCorrespond h' R k) :
    List.Forall₂ R (h.climb steps seen i) (h'.climb steps seen' j) := by
  induction steps generalizing seen seen' i j with
  | zero => exact .nil
  | succ steps ih =>
    obtain ⟨d, d', hd, hd', -⟩ := hR.declared i j hij
    have hmem : i ∈ seen ↔ j ∈ seen' := List.rel_mem hR.biUnique hij hseen
    simp only [climb, hd] at hup
    simp only [climb, hd, hd']
    by_cases hi : i ∈ seen
    · rw [if_pos hi, if_pos (hmem.mp hi)]
      exact .nil
    · rw [if_neg hi] at hup
      rw [if_neg hi, if_neg (mt hmem.mpr hi)]
      have hrel := hup i List.mem_cons_self j hij
      simp only [parent?, hd, hd', Option.bind_some] at hrel
      refine .cons hij ?_
      cases hs : d.superclass with
      | none =>
        cases hs' : d'.superclass with
        | none => exact .nil
        | some parent' =>
          rw [hs, hs'] at hrel
          cases hrel
      | some parent =>
        cases hs' : d'.superclass with
        | none =>
          rw [hs, hs'] at hrel
          cases hrel
        | some parent' =>
          rw [hs, hs'] at hrel
          cases hrel with
          | some hparent =>
            refine ih hparent (.cons hij hseen) fun k hk => hup k ?_
            rw [hs]
            exact List.mem_cons_of_mem _ hk

/-- **Lineages run in parallel** as far as the superclasses on them correspond. -/
theorem Corresponds.forall₂_lineage (hR : h.Corresponds h' R) (hij : R i j)
    (hup : ∀ k ∈ h.lineage i, h.ParentsCorrespond h' R k) :
    List.Forall₂ R (h.lineage i) (h'.lineage j) := by
  have hsize := Nat.le_max_left h.size h'.size
  rw [← climb_eq_lineage i hsize] at hup ⊢
  rw [← climb_eq_lineage j (Nat.le_max_right h.size h'.size)]
  exact hR.forall₂_climb hij .nil hup

theorem flatMap_eq_of_forall₂ {α : Type} {f g : TypeId → List α} {line line' : List TypeId}
    (hline : List.Forall₂ R line line') (hfg : ∀ i j, R i j → f i = g j) :
    line.flatMap f = line'.flatMap g := by
  induction hline with
  | nil => rfl
  | cons hij _ ih => rw [List.flatMap_cons, List.flatMap_cons, hfg _ _ hij, ih]

theorem Corresponds.accessors_eq (hR : h.Corresponds h' R) (hij : R i j)
    (hup : ∀ k ∈ h.lineage i, h.ParentsCorrespond h' R k) :
    h.accessors i = h'.accessors j := by
  have hown : ∀ k l, R k l → ((h.get? k).map TypeDeclaration.declared).getD [] =
      ((h'.get? l).map TypeDeclaration.declared).getD [] := by
    intro k l hkl
    obtain ⟨d, d', hd, hd', heq⟩ := hR.declared k l hkl
    have hdeclared : d.declared = d'.declared := (TypeDeclaration.mk.inj heq).2.2.1
    rw [hd, hd', Option.map_some, Option.map_some, hdeclared]
  rw [accessors, accessors, declaredAlong, declaredAlong,
    flatMap_eq_of_forall₂ (hR.forall₂_lineage hij hup) hown]

/-- **The generator sees the same bean** at places that correspond, if the superclasses along the
lineage do. -/
theorem Corresponds.bean?_eq (hR : h.Corresponds h' R) (hij : R i j)
    (hup : ∀ k ∈ h.lineage i, h.ParentsCorrespond h' R k) : h.bean? i = h'.bean? j := by
  obtain ⟨d, d', hd, hd', heq⟩ := hR.declared i j hij
  obtain ⟨hname, hpackage, -, hconstructors, -, hannotations⟩ := TypeDeclaration.mk.inj heq
  rw [bean?, bean?, hd, hd', Option.map_some, Option.map_some, hR.accessors_eq hij hup, hname,
    hpackage, hconstructors, hannotations]

end Hierarchy
end BeanBuilder
