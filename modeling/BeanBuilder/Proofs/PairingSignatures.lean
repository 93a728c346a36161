import Mathlib.Data.List.Nodup
import BeanBuilder.Pairing
import BeanBuilder.Proofs.Hierarchy

/-! # The signatures behind an objection

Getters and setters are told by their names and by the number of their parameters, so all that the
check of a bean counts is counted by signature (`Bean.countP_signature_eq`).  Two beans that have
the same signatures, each as often as the other, are judged alike.

The accessors of a type have each signature once that is declared on the way upward from it
(`Hierarchy.declares_iff`).  It does not matter where on the way it is declared, how often, in which
order, with which return type, and whether it is ignored.  So types that declare the same signatures
somewhere along their superclasses are objected to alike
(`Hierarchy.objections_eq_of_declares_iff`).
-/
namespace BeanBuilder

/-! ## Beans with the same signatures -/

namespace Bean

open AccessorName

section SameSignatures

variable {b b' : Bean}
  (hperm : (b.accessors.map Accessor.signature).Perm (b'.accessors.map Accessor.signature))

include hperm

/-- What is counted by signature is counted alike. -/
theorem countP_signature_eq (p : String × List String → Bool) :
    (b.accessors.countP fun a => p a.signature) = b'.accessors.countP fun a => p a.signature := by
  have hcount := hperm.countP_eq p
  rwa [List.countP_map, List.countP_map] at hcount

theorem length_getters_eq : b.getters.length = b'.getters.length := by
  rw [getters, getters, ← List.countP_eq_length_filter, ← List.countP_eq_length_filter]
  exact countP_signature_eq hperm fun signature => reads readingKinds signature.1

theorem length_setters_eq : b.setters.length = b'.setters.length := by
  rw [setters, setters, ← List.countP_eq_length_filter, ← List.countP_eq_length_filter]
  exact countP_signature_eq hperm fun signature => isSetter signature.1

theorem length_settersFor_eq (suffix : String) :
    (settersFor b.setters suffix).length = (settersFor b'.setters suffix).length := by
  rw [settersFor, settersFor, setters, setters, List.filter_filter, List.filter_filter,
    ← List.countP_eq_length_filter, ← List.countP_eq_length_filter]
  exact countP_signature_eq hperm fun signature =>
    (decide (suffixOf signature.1 = suffix) && decide (signature.2.length = 1)) &&
      isSetter signature.1

theorem pairedCount_eq : b.pairedCount = b'.pairedCount := by
  have hpaired : isPaired b'.setters = isPaired b.setters := by
    funext getter
    rw [isPaired, isPaired, length_settersFor_eq hperm]
  rw [pairedCount, pairedCount, hpaired, getters, getters, List.countP_filter, List.countP_filter]
  exact countP_signature_eq hperm fun signature =>
    decide ((settersFor b.setters (suffixOf signature.1)).length = 1) &&
      reads readingKinds signature.1

theorem isPojoShaped_eq (strict : Bool) : b.isPojoShaped strict = b'.isPojoShaped strict := by
  rw [isPojoShaped, isPojoShaped, pairedCount_eq hperm, length_getters_eq hperm,
    length_setters_eq hperm]

end SameSignatures

end Bean

/-! ## Types that declare the same signatures -/

/-- Of every signature one accessor is kept. -/
theorem Accessor.mem_map_signature_firsts_iff {accessors : List Accessor}
    {signature : String × List String} :
    signature ∈ (firsts accessors).map Accessor.signature ↔
      signature ∈ accessors.map Accessor.signature := by
  simp only [List.mem_map, mem_firsts_iff]
  constructor
  · rintro ⟨a, hfind, hsignature⟩
    exact ⟨a, List.mem_of_find?_eq_some hfind, hsignature⟩
  · rintro ⟨a, ha, rfl⟩
    have hsome : (accessors.find? (·.signature = a.signature)).isSome = true :=
      List.find?_isSome.mpr ⟨a, ha, decide_eq_true rfl⟩
    obtain ⟨first, hfirst⟩ := Option.isSome_iff_exists.mp hsome
    have hsame : first.signature = a.signature := by simpa using List.find?_some hfirst
    exact ⟨first, hsame ▸ hfirst, hsame⟩

namespace Hierarchy

variable {h h' : Hierarchy} {id id' : TypeId} {b b' : Bean} {signature : String × List String}

/-- A signature is declared by a type or by one of those that lie above it. -/
def Declares (h : Hierarchy) (id : TypeId) (signature : String × List String) : Prop :=
  ∃ n place, h.above? id n = some place ∧
    signature ∈ (h.ownAccessors place).map Accessor.signature

theorem mem_declaredAlong_iff {a : Accessor} :
    a ∈ h.declaredAlong id ↔ ∃ n place, h.above? id n = some place ∧ a ∈ h.ownAccessors place := by
  rw [declaredAlong, List.mem_flatMap]
  constructor
  · rintro ⟨place, hplace, ha⟩
    obtain ⟨n, hn⟩ := List.mem_iff_getElem?.mp hplace
    exact ⟨n, place, above?_of_getElem?_climb hn, ha⟩
  · rintro ⟨n, place, habove, ha⟩
    refine ⟨place, mem_lineage_of_above? habove ?_, ha⟩
    -- only a declared type has accessors of its own
    by_contra hlt
    rw [ownAccessors, get?, List.getElem?_eq_none (Nat.le_of_not_lt hlt)] at ha
    exact absurd ha List.not_mem_nil

/-- **The accessors of a type have the signatures that are declared** on the way upward from it. -/
theorem declares_iff :
    h.Declares id signature ↔ signature ∈ (h.accessors id).map Accessor.signature := by
  rw [accessors, Accessor.mem_map_signature_firsts_iff, List.mem_map]
  simp only [Declares, mem_declaredAlong_iff, List.mem_map]
  constructor
  · rintro ⟨n, place, habove, a, ha, hsignature⟩
    exact ⟨a, ⟨n, place, habove, ha⟩, hsignature⟩
  · rintro ⟨a, ⟨n, place, habove, ha⟩, hsignature⟩
    exact ⟨n, place, habove, a, ha, hsignature⟩

theorem accessors_of_bean? (hb : h.bean? id = some b) : b.accessors = h.accessors id := by
  obtain ⟨d, -, rfl⟩ := Option.map_eq_some_iff.mp hb
  rfl

/-- Each signature is there once, so the same signatures are the same signatures equally often. -/
theorem perm_signature_of_declares_iff (hb : h.bean? id = some b) (hb' : h'.bean? id' = some b')
    (hsignatures : ∀ signature, h.Declares id signature ↔ h'.Declares id' signature) :
    (b.accessors.map Accessor.signature).Perm (b'.accessors.map Accessor.signature) := by
  rw [accessors_of_bean? hb, accessors_of_bean? hb']
  refine (List.perm_ext_iff_of_nodup (Accessor.nodup_signature_firsts _)
    (Accessor.nodup_signature_firsts _)).mpr fun signature => ?_
  exact declares_iff.symm.trans ((hsignatures signature).trans declares_iff)

/-- **Types that declare the same signatures are objected to alike.**  Take any two types, each in
any hierarchy, that have one qualified name and agree on whether they can be built without
arguments.  If the same signatures are declared on the ways upward from them, wherever, however
often and whatever else is declared with them, then there are the same objections to both, in the
strict and in the lenient sense. -/
theorem objections_eq_of_declares_iff (hb : h.bean? id = some b) (hb' : h'.bean? id' = some b')
    (hname : b.qualifiedName = b'.qualifiedName)
    (hconstructor : b.hasNoArgConstructor = b'.hasNoArgConstructor)
    (hsignatures : ∀ signature, h.Declares id signature ↔ h'.Declares id' signature)
    (strict requireConstructor : Bool) :
    b.objections strict requireConstructor = b'.objections strict requireConstructor := by
  have hshape : b.isPojoShaped strict = b'.isPojoShaped strict :=
    Bean.isPojoShaped_eq (perm_signature_of_declares_iff hb hb' hsignatures) strict
  rw [Bean.objections, Bean.objections, Bean.constructorDiagnostics, Bean.constructorDiagnostics,
    Bean.shapeDiagnostics, Bean.shapeDiagnostics, hshape, hname, hconstructor]

/-- A type that overrides a method of the class above it, which extends it in turn. -/
def loopedLedgers : Hierarchy where
  declarations := [
    { simpleName := "Account"
      declared := [{ name := "getOwner", returnType := some "Object", ignored := true },
        { name := "getId", returnType := some "long" },
        { name := "setId", parameterTypes := ["long"] }]
      superclass := some 1 },
    { simpleName := "Ledger"
      package := some "bank"
      declared := [{ name := "getOwner", returnType := some "String" },
        { name := "setOwner", parameterTypes := ["String"] },
        { name := "isOpen", returnType := some "boolean" }]
      constructors := [["String"], []]
      superclass := some 0 }]

/-- The same signatures in one type, in another order and one of them twice. -/
def flatLedger : Hierarchy where
  declarations := [
    { simpleName := "Ledger"
      package := some "bank"
      declared := [{ name := "setId", parameterTypes := ["long"] },
        { name := "isOpen", returnType := some "Boolean", ignored := true },
        { name := "setOwner", parameterTypes := ["String"] },
        { name := "getId" },
        { name := "getOwner", returnType := some "int" },
        { name := "getId", returnType := some "long" }]
      constructors := [[]] }]

theorem objections_eq_of_declares_iff_ledgers :
    ∃ b b', loopedLedgers.bean? 1 = some b ∧ flatLedger.bean? 0 = some b' ∧
      b.qualifiedName = b'.qualifiedName ∧ b.hasNoArgConstructor = b'.hasNoArgConstructor ∧
      (∀ signature, loopedLedgers.Declares 1 signature ↔ flatLedger.Declares 0 signature) ∧
      b.objections true true = b'.objections true true ∧ b'.objections true true ≠ [] ∧
      b.objections false true = b'.objections false true ∧ b'.objections false true = [] := by
  have hsignatures : ∀ signature,
      loopedLedgers.Declares 1 signature ↔ flatLedger.Declares 0 signature := by
    intro signature
    rw [declares_iff, declares_iff]
    have hperm : ((loopedLedgers.accessors 1).map Accessor.signature).Perm
        ((flatLedger.accessors 0).map Accessor.signature) := by decide
    exact hperm.mem_iff
  have hb : loopedLedgers.bean? 1 = some ((loopedLedgers.bean? 1).get rfl) := rfl
  have hb' : flatLedger.bean? 0 = some ((flatLedger.bean? 0).get rfl) := rfl
  have hsame := objections_eq_of_declares_iff hb hb' rfl rfl hsignatures
  exact ⟨_, _, hb, hb', rfl, rfl, hsignatures, hsame true true, by decide, hsame false true, rfl⟩

end Hierarchy
end BeanBuilder
