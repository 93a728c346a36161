import Mathlib.Data.Finset.Card
import BeanBuilder.Hierarchy

/-! # The first declaration of a signature

Following superclasses upward from a type leads to one place after another, round and round where
the chain runs into a cycle (`above?`).  The lineage of a type is this walk up to the first place
that comes again, so nothing that the walk meets is missing from it (`mem_lineage_of_above?`): the
steps that it is given are enough, since every step sees a new declaration.

Of all that is declared along the walk, an accessor of the type is the one that comes first among
those with its signature (`mem_accessors_iff`).
-/
namespace BeanBuilder

namespace Accessor

variable {a : Accessor} {accessors : List Accessor} {seen : List (String × List String)}

theorem mem_firstsAfter_iff :
    a ∈ firstsAfter seen accessors ↔
      a.signature ∉ seen ∧ accessors.find? (·.signature = a.signature) = some a := by
  induction accessors generalizing seen with
  | nil => simp [firstsAfter]
  | cons x rest ih =>
    rw [firstsAfter]
    by_cases hx : x.signature ∈ seen
    · rw [if_pos hx, ih]
      constructor
      · rintro ⟨ha, hfind⟩
        have hne : x.signature ≠ a.signature := fun h => ha (h ▸ hx)
        exact ⟨ha, by rw [List.find?_cons_of_neg (by simpa using hne), hfind]⟩
      · rintro ⟨ha, hfind⟩
        have hne : x.signature ≠ a.signature := fun h => ha (h ▸ hx)
        rw [List.find?_cons_of_neg (by simpa using hne)] at hfind
        exact ⟨ha, hfind⟩
    · rw [if_neg hx, List.mem_cons, ih]
      by_cases hsig : x.signature = a.signature
      · rw [List.find?_cons_of_pos (by simpa using hsig), Option.some.injEq, eq_comm (a := x)]
        constructor
        · rintro (hax | ⟨hnew, -⟩)
          · exact ⟨hsig ▸ hx, hax⟩
          · exact absurd (hsig ▸ List.mem_cons_self) hnew
        · exact fun h => Or.inl h.2
      · rw [List.find?_cons_of_neg (by simpa using hsig), List.mem_cons, not_or]
        constructor
        · rintro (rfl | ⟨⟨-, hnew⟩, hfind⟩)
          · exact absurd rfl hsig
          · exact ⟨hnew, hfind⟩
        · exact fun ⟨ha, hfind⟩ => Or.inr ⟨⟨Ne.symm hsig, ha⟩, hfind⟩

/-- The first accessors of their signatures are those that a search for the signature finds. -/
theorem mem_firsts_iff :
    a ∈ firsts accessors ↔ accessors.find? (·.signature = a.signature) = some a := by
  simp [firsts, mem_firstsAfter_iff]

theorem nodup_signature_firstsAfter (seen : List (String × List String))
    (accessors : List Accessor) : ((firstsAfter seen accessors).map signature).Nodup := by
  induction accessors generalizing seen with
  | nil => exact List.nodup_nil
  | cons x rest ih =>
    rw [firstsAfter]
    split
    · exact ih seen
    · rw [List.map_cons, List.nodup_cons]
      refine ⟨?_, ih _⟩
      intro hmem
      obtain ⟨a, ha, hsig⟩ := List.mem_map.mp hmem
      exact (mem_firstsAfter_iff.mp ha).1 (hsig ▸ List.mem_cons_self)

theorem nodup_signature_firsts (accessors : List Accessor) :
    ((firsts accessors).map signature).Nodup :=
  nodup_signature_firstsAfter [] accessors

end Accessor

namespace Hierarchy

variable {h : Hierarchy} {id place : TypeId} {n steps : Nat} {seen : List TypeId} {a : Accessor}

/-! ## The walk upward -/

/-- The place that a type names as its superclass. -/
def parent? (h : Hierarchy) (id : TypeId) : Option TypeId :=
  (h.get? id).bind TypeDeclaration.superclass

/-- The place that a number of steps to superclasses lead to from a type. -/
def above? (h : Hierarchy) : TypeId → Nat → Option TypeId
  | id, 0 => some id
  | id, n + 1 => (h.parent? id).bind fun parent => h.above? parent n

/-- What a type declares itself. -/
def ownAccessors (h : Hierarchy) (id : TypeId) : List Accessor :=
  ((h.get? id).map TypeDeclaration.declared).getD []

/-- An accessor is the first declaration of its signature on the way upward from a type: it is
declared before any other in the first type that declares the signature at all. -/
def FirstDeclared (h : Hierarchy) (id : TypeId) (a : Accessor) : Prop :=
  ∃ n place, h.above? id n = some place ∧
    (h.ownAccessors place).find? (·.signature = a.signature) = some a ∧
    ∀ k < n, ∀ below, h.above? id k = some below →
      ∀ x ∈ h.ownAccessors below, x.signature ≠ a.signature

theorem lt_size_of_get?_eq_some {d : TypeDeclaration} (hd : h.get? id = some d) : id < h.size :=
  (List.getElem?_eq_some_iff.mp hd).1

/-- Nothing lies above a place where nothing is declared. -/
theorem eq_of_above?_of_get?_eq_none (hd : h.get? id = none)
    (habove : h.above? id n = some place) : place = id := by
  cases n with
  | zero => exact (Option.some.inj habove).symm
  | succ n => simp [above?, parent?, hd] at habove

/-! ## The lineage follows the walk -/

/-- The type that stands at some place of the chain is that many steps up. -/
theorem above?_of_getElem?_climb (hget : (h.climb steps seen id)[n]? = some place) :
    h.above? id n = some place := by
  induction steps generalizing seen id n with
  | zero => simp [climb] at hget
  | succ steps ih =>
    rw [climb] at hget
    split at hget
    · simp at hget
    · cases hd : h.get? id with
      | none => simp [hd] at hget
      | some d =>
        simp only [hd] at hget
        cases n with
        | zero => simpa [above?] using hget
        | succ n =>
          rw [List.getElem?_cons_succ] at hget
          cases hs : d.superclass with
          | none => simp [hs] at hget
          | some parent =>
            simp only [hs] at hget
            simp only [above?, parent?, hd, Option.bind_some, hs]
            exact ih hget

/-- A set of places that is closed under going up is not left by going up. -/
theorem mem_of_above?_of_closed
    (hclosed : ∀ s ∈ seen, ∀ parent, h.parent? s = some parent → parent ∈ seen)
    (hid : id ∈ seen) (habove : h.above? id n = some place) : place ∈ seen := by
  induction n generalizing id with
  | zero => exact Option.some.inj habove ▸ hid
  | succ n ih =>
    obtain ⟨parent, hparent, hup⟩ := Option.bind_eq_some_iff.mp habove
    exact ih (hclosed id hid parent hparent) hup

/-- As many different places as there are declarations are all of them. -/
theorem mem_of_size_le_length (hnodup : seen.Nodup) (hdeclared : ∀ s ∈ seen, s < h.size)
    (hlen : h.size ≤ seen.length) (hplace : place < h.size) : place ∈ seen := by
  have hsub : seen.toFinset ⊆ Finset.range h.size := fun s hs =>
    Finset.mem_range.mpr (hdeclared s (List.mem_toFinset.mp hs))
  have hcard : (Finset.range h.size).card ≤ seen.toFinset.card := by
    rw [Finset.card_range, List.toFinset_card_of_nodup hnodup]
    exact hlen
  rw [← List.mem_toFinset, Finset.eq_of_subset_of_card_le hsub hcard]
  exact Finset.mem_range.mpr hplace

/-- Some places have been passed on the way up to a type: they are different and declared, and each
of them leads to another one or to the type. -/
structure Passed (h : Hierarchy) (seen : List TypeId) (id : TypeId) : Prop where
  nodup : seen.Nodup
  declared : ∀ s ∈ seen, s < h.size
  leads : ∀ s ∈ seen, ∀ parent, h.parent? s = some parent → parent ∈ seen ∨ parent = id

theorem Passed.nil (h : Hierarchy) (id : TypeId) : h.Passed [] id :=
  ⟨List.nodup_nil, fun _ hs => absurd hs List.not_mem_nil, fun _ hs => absurd hs List.not_mem_nil⟩

/-- One step up: the type is passed too. -/
theorem Passed.step {parent : TypeId} (hp : h.Passed seen id) (hid : id ∉ seen)
    (hparent : h.parent? id = some parent) : h.Passed (id :: seen) parent where
  nodup := List.nodup_cons.mpr ⟨hid, hp.nodup⟩
  declared := by
    intro s hs
    rcases List.mem_cons.mp hs with rfl | hold
    · obtain ⟨d, hd, -⟩ := Option.bind_eq_some_iff.mp hparent
      exact lt_size_of_get?_eq_some hd
    · exact hp.declared s hold
  leads := by
    intro s hs p hsp
    rcases List.mem_cons.mp hs with rfl | hold
    · exact Or.inr (Option.some.inj (hsp.symm.trans hparent))
    · refine Or.inl ?_
      rcases hp.leads s hold p hsp with hmem | rfl
      · exact List.mem_cons_of_mem _ hmem
      · exact List.mem_cons_self

/-- Where the way comes back to a place that was passed, it goes on among the places passed. -/
theorem Passed.mem_of_above? (hp : h.Passed seen id) (hid : id ∈ seen)
    (habove : h.above? id n = some place) : place ∈ seen := by
  refine mem_of_above?_of_closed (fun s hs parent hparent => ?_) hid habove
  rcases hp.leads s hs parent hparent with hmem | rfl
  · exact hmem
  · exact hid

/-- What the rest of the chain does not hold has been passed, as long as there are steps left for
all the declarations that have not. -/
theorem Passed.mem_or_mem_climb (hp : h.Passed seen id) (hsteps : h.size ≤ steps + seen.length)
    (habove : h.above? id n = some place) (hplace : place < h.size) :
    place ∈ seen ∨ place ∈ h.climb steps seen id := by
  induction steps generalizing seen id n with
  | zero =>
    rw [Nat.zero_add] at hsteps
    exact Or.inl (mem_of_size_le_length hp.nodup hp.declared hsteps hplace)
  | succ steps ih =>
    rw [climb]
    by_cases hid : id ∈ seen
    · exact Or.inl (hp.mem_of_above? hid habove)
    · rw [if_neg hid]
      cases hd : h.get? id with
      | none =>
        rw [eq_of_above?_of_get?_eq_none hd habove] at hplace
        exact absurd (List.getElem?_eq_none_iff.mp hd) (Nat.not_le_of_lt hplace)
      | some d =>
        cases n with
        | zero =>
          rw [above?, Option.some.injEq] at habove
          exact Or.inr (habove ▸ List.mem_cons_self)
        | succ n =>
          obtain ⟨parent, hparent, habove⟩ := Option.bind_eq_some_iff.mp habove
          have hsuper : d.superclass = some parent := by simpa [parent?, hd] using hparent
          have hsteps' : h.size ≤ steps + (id :: seen).length := by
            rw [List.length_cons]
            omega
          simp only [hsuper]
          rcases ih (hp.step hid hparent) hsteps' habove with hmem | hmem
          · rcases List.mem_cons.mp hmem with rfl | hold
            · exact Or.inr List.mem_cons_self
            · exact Or.inl hold
          · exact Or.inr (List.mem_cons_of_mem _ hmem)

/-- **The lineage misses no declaration** that the walk upward meets, however long the walk goes
on. -/
theorem mem_lineage_of_above? (habove : h.above? id n = some place) (hplace : place < h.size) :
    place ∈ h.lineage id :=
  ((Passed.nil h id).mem_or_mem_climb (Nat.le_refl _) habove hplace).resolve_left List.not_mem_nil

/-- A search along the lineage finds what the walk upward meets first. -/
theorem findSome?_lineage_eq_some_iff {α : Type} {f : TypeId → Option α} {x : α}
    (hf : ∀ i, h.get? i = none → f i = none) :
    (h.lineage id).findSome? f = some x ↔
      ∃ n place, h.above? id n = some place ∧ f place = some x ∧
        ∀ k < n, ∀ below, h.above? id k = some below → f below = none := by
  have hfirst : ∀ y, (h.lineage id).findSome? f = some y →
      ∃ n place, h.above? id n = some place ∧ f place = some y ∧
        ∀ k < n, ∀ below, h.above? id k = some below → f below = none := by
    intro y hy
    obtain ⟨before, place, after, hline, hplace, hbefore⟩ := List.findSome?_eq_some_iff.mp hy
    have hwalk : ∀ k i, (before ++ place :: after)[k]? = some i → h.above? id k = some i :=
      fun k i hk => above?_of_getElem?_climb (hline ▸ hk)
    refine ⟨before.length, place, hwalk _ _ (by simp), hplace, ?_⟩
    intro k hk below hbelow
    have hmem : before[k] ∈ before := List.getElem_mem hk
    have hk' := hwalk k before[k]
      (by rw [List.getElem?_append_left hk, List.getElem?_eq_getElem hk])
    rw [hk', Option.some.injEq] at hbelow
    exact hbelow ▸ hbefore _ hmem
  constructor
  · exact hfirst x
  · rintro ⟨n, place, habove, hplace, hbelow⟩
    have hdeclared : place < h.size := by
      by_contra hlt
      rw [hf place (List.getElem?_eq_none (Nat.le_of_not_lt hlt))] at hplace
      cases hplace
    have hsome : ((h.lineage id).findSome? f).isSome :=
      List.findSome?_isSome_iff.mpr
        ⟨place, mem_lineage_of_above? habove hdeclared, by simp [hplace]⟩
    obtain ⟨y, hy⟩ := Option.isSome_iff_exists.mp hsome
    -- the search and the walk stop at the same step
    obtain ⟨m, other, hother, hfound, hunfound⟩ := hfirst y hy
    rcases Nat.lt_trichotomy m n with hlt | rfl | hgt
    · rw [hbelow m hlt other hother] at hfound
      cases hfound
    · rw [habove, Option.some.injEq] at hother
      rw [hy, ← hfound, ← hother, hplace]
    · rw [hunfound n hgt place habove] at hplace
      cases hplace

/-- **The accessors of a type** are the first declarations of their signatures. -/
theorem mem_accessors_iff : a ∈ h.accessors id ↔ h.FirstDeclared id a := by
  have hsearch : (h.declaredAlong id).find? (·.signature = a.signature) =
      (h.lineage id).findSome? fun i => (h.ownAccessors i).find? (·.signature = a.signature) := by
    rw [declaredAlong, List.find?_flatMap]
    rfl
  rw [accessors, Accessor.mem_firsts_iff, hsearch, findSome?_lineage_eq_some_iff, FirstDeclared]
  · simp only [List.find?_eq_none, decide_eq_true_eq, ne_eq]
  · intro i hi
    simp [ownAccessors, hi]

/-- There is one first declaration of a signature at most. -/
theorem FirstDeclared.eq_of_signature {a b : Accessor} (ha : h.FirstDeclared id a)
    (hb : h.FirstDeclared id b) (hs : a.signature = b.signature) : a = b := by
  rw [← mem_accessors_iff, accessors, Accessor.mem_firsts_iff] at ha hb
  rw [hs, hb] at ha
  exact (Option.some.inj ha).symm

end Hierarchy
end BeanBuilder
