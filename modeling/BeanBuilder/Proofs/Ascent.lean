import Mathlib.Logic.Function.Iterate
import BeanBuilder.Proofs.PairingSignatures

/-! # The walk that gathers accessors

The accessors of a type are gathered on a walk upward.  Each round of the walk visits one type,
takes of what is declared there the accessors with new signatures, and goes on to the superclass.
The walk remembers the types that it has visited and the signatures that it has met, and it ends
where there is no superclass or where this was visited before.

Superclasses are linked in any way whatever, so the visited types are all that makes the walk end.
Every round visits a new one: after as many rounds as there are types the walk has ended, and the
accessors of the type have been taken (`ended_and_taken`).

They are taken in the order of their positions, which count the steps upward first and then the
declarations of one type (`pairwise_position_accessors`).
-/
namespace BeanBuilder

/-! ## Rounds -/

/-- The accessors that were taken, and the signatures that were met. -/
structure Gathering where
  seen : List (String × List String) := []
  taken : List Accessor := []

namespace Gathering

/-- An accessor is taken if its signature is new. -/
def add (g : Gathering) (a : Accessor) : Gathering :=
  if g.seen.contains a.signature then g
  else { seen := a.signature :: g.seen, taken := g.taken ++ [a] }

theorem taken_foldl_add (g : Gathering) (accessors : List Accessor) :
    (accessors.foldl add g).taken = g.taken ++ Accessor.firstsAfter g.seen accessors := by
  induction accessors generalizing g with
  | nil => exact (List.append_nil g.taken).symm
  | cons a rest ih =>
    rw [List.foldl_cons, ih, add, Accessor.firstsAfter]
    by_cases ha : a.signature ∈ g.seen
    · rw [if_pos ha, if_pos (List.contains_iff_mem.mpr ha)]
    · rw [if_neg ha, if_neg (mt List.contains_iff_mem.mp ha), List.append_assoc]
      rfl

end Gathering

/-- Where a walk upward has got to: the type that it visits next, those that it has visited, the
last one first, and what it has gathered. -/
structure Ascent where
  next : Option TypeId
  visited : List TypeId := []
  gathering : Gathering := {}

namespace Ascent

variable {h : Hierarchy} {w : Ascent} {id : TypeId} {seen : List TypeId} {steps : Nat}

/-- A walk that has not begun yet. -/
def start (id : TypeId) : Ascent where
  next := some id

/-- The walk one round later, unless it has ended. -/
def step? (h : Hierarchy) (w : Ascent) : Option Ascent :=
  match w.next with
  | none => none
  | some id =>
    if id ∈ w.visited then none
    else (h.get? id).map fun d =>
      { next := d.superclass
        visited := id :: w.visited
        gathering := d.declared.foldl Gathering.add w.gathering }

/-- One round; a walk that has ended stays where it is. -/
def round (h : Hierarchy) (w : Ascent) : Ascent :=
  (w.step? h).getD w

theorem iterate_round_of_ended (hended : w.step? h = none) (n : Nat) :
    (round h)^[n] w = w := by
  refine Function.iterate_fixed ?_ n
  rw [round, hended]
  rfl

/-- **One step** of a walk visits the next type, if this is declared and was not visited; else the
walk has ended, and so has the chain of superclasses. -/
theorem step?_cases (h : Hierarchy) (hnext : w.next = some id) :
    (w.step? h = none ∧ ∀ steps, h.climb steps w.visited id = []) ∨
      ∃ d, h.get? id = some d ∧ id ∉ w.visited ∧
        w.step? h = some
          { next := d.superclass
            visited := id :: w.visited
            gathering := d.declared.foldl Gathering.add w.gathering } := by
  simp only [step?, hnext]
  by_cases hid : id ∈ w.visited
  · refine Or.inl ⟨if_pos hid, fun steps => ?_⟩
    cases steps with
    | zero => rfl
    | succ steps => rw [Hierarchy.climb, if_pos hid]
  · rw [if_neg hid]
    cases hd : h.get? id with
    | none =>
      refine Or.inl ⟨rfl, fun steps => ?_⟩
      cases steps with
      | zero => rfl
      | succ steps => rw [Hierarchy.climb, if_neg hid, hd]
    | some d => exact Or.inr ⟨d, rfl, hid, rfl⟩

/-- The rounds follow the chain of superclasses, as long as there is one left for every type that
was not visited. -/
theorem iterate_round (hnext : w.next = some id) (hpassed : h.Passed w.visited id)
    (hsteps : h.size ≤ steps + w.visited.length) :
    ((round h)^[steps] w).step? h = none ∧
      ((round h)^[steps] w).gathering =
        ((h.climb steps w.visited id).flatMap h.ownAccessors).foldl Gathering.add w.gathering := by
  induction steps generalizing w id with
  | zero =>
    rcases step?_cases h hnext with ⟨hended, -⟩ | ⟨d, hd, hid, -⟩
    · exact ⟨hended, rfl⟩
    · -- everything that is declared has been visited
      rw [Nat.zero_add] at hsteps
      exact absurd (Hierarchy.mem_of_size_le_length hpassed.nodup hpassed.declared hsteps
        (Hierarchy.lt_size_of_get?_eq_some hd)) hid
  | succ steps ih =>
    rcases step?_cases h hnext with ⟨hended, hclimb⟩ | ⟨d, hd, hid, hstep⟩
    · rw [iterate_round_of_ended hended, hclimb]
      exact ⟨hended, rfl⟩
    · let w' : Ascent :=
        { next := d.superclass
          visited := id :: w.visited
          gathering := d.declared.foldl Gathering.add w.gathering }
      have hround : round h w = w' := by rw [round, hstep, Option.getD_some]
      have hown : h.ownAccessors id = d.declared := by
        rw [Hierarchy.ownAccessors, hd, Option.map_some, Option.getD_some]
      rw [Function.iterate_succ_apply, hround, Hierarchy.climb, if_neg hid, hd]
      simp only
      rw [List.flatMap_cons, List.foldl_append, hown]
      cases hs : d.superclass with
      | none =>
        have hended : w'.step? h = none := by simp only [step?, w', hs]
        rw [iterate_round_of_ended hended]
        exact ⟨hended, rfl⟩
      | some parent =>
        have hparent : h.parent? id = some parent := by
          rw [Hierarchy.parent?, hd, Option.bind_some, hs]
        have hlength : h.size ≤ steps + w'.visited.length := by
          show h.size ≤ steps + (w.visited.length + 1)
          omega
        exact ih (w := w') hs (hpassed.step hid hparent) hlength

/-- **A walk ends** after at most as many rounds as there are types, however they are linked, and
has then taken the accessors of the type that it began at. -/
theorem ended_and_taken (h : Hierarchy) (id : TypeId) :
    ((round h)^[h.size] (start id)).step? h = none ∧
      ((round h)^[h.size] (start id)).gathering.taken = h.accessors id := by
  have hsteps : h.size ≤ h.size + (start id).visited.length := Nat.le_refl h.size
  obtain ⟨hended, hgathered⟩ := iterate_round rfl (.nil h id) hsteps
  refine ⟨hended, ?_⟩
  rw [hgathered, Gathering.taken_foldl_add]
  rfl

end Ascent

/-! ## Positions -/

/-- A position on the way upward from a type: a number of steps, and a number of declarations that
are passed in the type that they lead to. -/
structure Position where
  steps : Nat
  index : Nat

/-- A position comes before another one when it is reached with fewer steps, or in the same type
with fewer declarations passed. -/
def Position.Before (p q : Position) : Prop :=
  p.steps < q.steps ∨ p.steps = q.steps ∧ p.index < q.index

namespace Position

variable {p q : Position}

theorem Before.ne (h : p.Before q) : p ≠ q := by
  rintro rfl
  rcases h with hlt | ⟨-, hlt⟩ <;> exact Nat.lt_irrefl _ hlt

theorem Before.steps_le (h : p.Before q) : p.steps ≤ q.steps := by
  unfold Before at h
  omega

theorem Before.asymm (h : p.Before q) : ¬ q.Before p := by
  unfold Before at h ⊢
  omega

theorem before_trichotomy (p q : Position) : p.Before q ∨ p = q ∨ q.Before p := by
  obtain ⟨n, k⟩ := p
  obtain ⟨n', k'⟩ := q
  simp only [Before, Position.mk.injEq]
  omega

end Position

namespace Hierarchy

variable {h : Hierarchy} {id : TypeId} {p q : Position} {a b : Accessor}
  {signature : String × List String}

/-- The declaration at a position on the way upward from a type. -/
def declaration? (h : Hierarchy) (id : TypeId) (p : Position) : Option Accessor :=
  (h.above? id p.steps).bind fun place => (h.ownAccessors place)[p.index]?

/-- The first declaration of a signature on the way upward from a type is the one at a position. -/
structure FirstAt (h : Hierarchy) (id : TypeId) (p : Position) (a : Accessor) : Prop where
  declared : h.declaration? id p = some a
  first : ∀ q, q.Before p → ∀ x, h.declaration? id q = some x → x.signature ≠ a.signature

/-- A signature has one first position. -/
theorem FirstAt.position_eq (ha : h.FirstAt id p a) (hb : h.FirstAt id q b)
    (hsignature : a.signature = b.signature) : p = q := by
  rcases Position.before_trichotomy p q with hlt | heq | hgt
  · exact absurd hsignature (hb.first p hlt a ha.declared)
  · exact heq
  · exact absurd hsignature.symm (ha.first q hgt b hb.declared)

theorem FirstAt.eq_of_signature (ha : h.FirstAt id p a) (hb : h.FirstAt id q b)
    (hsignature : a.signature = b.signature) : a = b := by
  obtain rfl := ha.position_eq hb hsignature
  exact Option.some.inj (ha.declared.symm.trans hb.declared)

/-! ### The declarations along a chain, with their positions -/

/-- The declarations of the types of a chain, with positions that count from a number of steps. -/
def placed (h : Hierarchy) : (steps : Nat) → List TypeId → List (Position × Accessor)
  | _, [] => []
  | steps, place :: rest =>
    (h.ownAccessors place).zipIdx.map (fun e => (⟨steps, e.2⟩, e.1)) ++ h.placed (steps + 1) rest

theorem map_snd_placed (h : Hierarchy) (steps : Nat) (chain : List TypeId) :
    (h.placed steps chain).map Prod.snd = chain.flatMap h.ownAccessors := by
  induction chain generalizing steps with
  | nil => rfl
  | cons place rest ih =>
    rw [placed, List.map_append, List.map_map, ih, List.flatMap_cons]
    congr 1
    exact List.zipIdx_map_fst 0 (h.ownAccessors place)

theorem mem_placed_iff {steps : Nat} {chain : List TypeId} :
    (p, a) ∈ h.placed steps chain ↔
      ∃ n place, p.steps = steps + n ∧ chain[n]? = some place ∧
        (h.ownAccessors place)[p.index]? = some a := by
  induction chain generalizing steps with
  | nil => simp [placed]
  | cons place rest ih =>
    rw [placed, List.mem_append, ih]
    constructor
    · rintro (hhere | ⟨n, other, hn, hget, ha⟩)
      · obtain ⟨⟨x, k⟩, hmem, heq⟩ := List.mem_map.mp hhere
        obtain ⟨rfl, rfl⟩ := Prod.mk.inj heq
        exact ⟨0, place, rfl, rfl, List.mem_zipIdx_iff_getElem?.mp hmem⟩
      · exact ⟨n + 1, other, by omega, hget, ha⟩
    · rintro ⟨n, other, hn, hget, ha⟩
      cases n with
      | zero =>
        refine Or.inl (List.mem_map.mpr ⟨(a, p.index), ?_, ?_⟩)
        · rw [List.mem_zipIdx_iff_getElem?, Option.some.inj hget]
          exact ha
        · obtain ⟨k, index⟩ := p
          exact congrArg (fun k => (Position.mk k index, a)) hn.symm
      | succ n => exact Or.inr ⟨n, other, by omega, hget, ha⟩

theorem pairwise_before_placed (h : Hierarchy) (steps : Nat) (chain : List TypeId) :
    (h.placed steps chain).Pairwise fun e e' => e.1.Before e'.1 := by
  induction chain generalizing steps with
  | nil => exact List.Pairwise.nil
  | cons place rest ih =>
    rw [placed, List.pairwise_append]
    refine ⟨?_, ih (steps + 1), ?_⟩
    · rw [List.pairwise_map, List.pairwise_iff_getElem]
      intro i j hi hj hij
      rw [List.getElem_zipIdx, List.getElem_zipIdx]
      exact Or.inr ⟨rfl, Nat.add_lt_add_left hij 0⟩
    · rintro e he ⟨p, a⟩ hp
      obtain ⟨x, -, rfl⟩ := List.mem_map.mp he
      obtain ⟨n, -, hn, -⟩ := mem_placed_iff.mp hp
      apply Or.inl
      show steps < p.steps
      omega

/-! ### Which declarations are taken -/

/-- Of declarations in the order of their positions those are taken that come before every other one
with their signature. -/
theorem exists_sublist_of_firstsAfter {declarations : List (Position × Accessor)}
    (hplaced : declarations.Pairwise fun e e' => e.1.Before e'.1)
    (seen : List (String × List String)) :
    ∃ kept : List (Position × Accessor), kept.Sublist declarations ∧
      kept.map Prod.snd = Accessor.firstsAfter seen (declarations.map Prod.snd) ∧
      ∀ e ∈ kept, ∀ e' ∈ declarations, e'.2.signature = e.2.signature →
        e = e' ∨ e.1.Before e'.1 := by
  induction declarations generalizing seen with
  | nil => exact ⟨[], List.Sublist.refl [], rfl, fun e he => absurd he List.not_mem_nil⟩
  | cons d rest ih =>
    rw [List.pairwise_cons] at hplaced
    rw [List.map_cons, Accessor.firstsAfter]
    by_cases hd : d.2.signature ∈ seen
    · obtain ⟨kept, hsublist, hkept, hfirst⟩ := ih hplaced.2 seen
      refine ⟨kept, hsublist.cons d, by rw [if_pos hd, hkept], ?_⟩
      intro e he e' he' hsignature
      rcases List.mem_cons.mp he' with rfl | hrest
      · have htaken : e.2 ∈ Accessor.firstsAfter seen (rest.map Prod.snd) :=
          hkept ▸ List.mem_map_of_mem he
        exact absurd (hsignature ▸ hd) (Accessor.mem_firstsAfter_iff.mp htaken).1
      · exact hfirst e he e' hrest hsignature
    · obtain ⟨kept, hsublist, hkept, hfirst⟩ := ih hplaced.2 (d.2.signature :: seen)
      refine ⟨d :: kept, hsublist.cons_cons d, by rw [if_neg hd, List.map_cons, hkept], ?_⟩
      intro e he e' he' hsignature
      rcases List.mem_cons.mp he with rfl | hlater
      · rcases List.mem_cons.mp he' with rfl | hrest
        · exact Or.inl rfl
        · exact Or.inr (hplaced.1 e' hrest)
      · rcases List.mem_cons.mp he' with rfl | hrest
        · have htaken : e.2 ∈
              Accessor.firstsAfter (e'.2.signature :: seen) (rest.map Prod.snd) :=
            hkept ▸ List.mem_map_of_mem hlater
          exact absurd (hsignature ▸ List.mem_cons_self) (Accessor.mem_firstsAfter_iff.mp htaken).1
        · exact hfirst e hlater e' hrest hsignature

/-- The accessors of a type with their positions. -/
theorem exists_positions (h : Hierarchy) (id : TypeId) :
    ∃ kept : List (Position × Accessor), kept.map Prod.snd = h.accessors id ∧
      (kept.Pairwise fun e e' => e.1.Before e'.1) ∧ ∀ e ∈ kept, h.FirstAt id e.1 e.2 := by
  have hplaced := h.pairwise_before_placed 0 (h.lineage id)
  have hwalk : ∀ {p a}, (p, a) ∈ h.placed 0 (h.lineage id) → ∃ place,
      (h.lineage id)[p.steps]? = some place ∧ h.above? id p.steps = some place ∧
        (h.ownAccessors place)[p.index]? = some a := by
    intro p a hmem
    obtain ⟨n, place, hn, hget, ha⟩ := mem_placed_iff.mp hmem
    obtain rfl : p.steps = n := hn.trans (Nat.zero_add n)
    exact ⟨place, hget, above?_of_getElem?_climb hget, ha⟩
  obtain ⟨kept, hsublist, hkept, hfirst⟩ := exists_sublist_of_firstsAfter hplaced []
  refine ⟨kept, ?_, hplaced.sublist hsublist, ?_⟩
  · rw [hkept, map_snd_placed]
    rfl
  rintro ⟨p, a⟩ he
  obtain ⟨place, hplace, habove, ha⟩ := hwalk (hsublist.subset he)
  refine ⟨by rw [declaration?, habove, Option.bind_some, ha], ?_⟩
  intro q hq x hx hsignature
  obtain ⟨other, hother, hx⟩ := Option.bind_eq_some_iff.mp hx
  -- an earlier position lies in a type of the lineage, too
  have hlength : p.steps < (h.lineage id).length := (List.getElem?_eq_some_iff.mp hplace).1
  have hlt : q.steps < (h.lineage id).length := Nat.lt_of_le_of_lt hq.steps_le hlength
  have hget := List.getElem?_eq_getElem hlt
  rw [above?_of_getElem?_climb hget, Option.some.injEq] at hother
  have hmem : (q, x) ∈ h.placed 0 (h.lineage id) :=
    mem_placed_iff.mpr ⟨q.steps, other, (Nat.zero_add _).symm, hother ▸ hget, hx⟩
  rcases hfirst (p, a) he (q, x) hmem hsignature with heq | hbefore
  · exact hq.ne (congrArg Prod.fst heq).symm
  · exact hq.asymm hbefore

/-- **The accessors of a type are the first declarations** on the way upward from it. -/
theorem mem_accessors_iff_firstAt : a ∈ h.accessors id ↔ ∃ p, h.FirstAt id p a := by
  obtain ⟨kept, hkept, -, hfirst⟩ := h.exists_positions id
  constructor
  · intro ha
    rw [← hkept] at ha
    obtain ⟨e, he, rfl⟩ := List.mem_map.mp ha
    exact ⟨e.1, hfirst e he⟩
  · rintro ⟨p, ha⟩
    obtain ⟨place, habove, hget⟩ := Option.bind_eq_some_iff.mp ha.declared
    have hdeclared : h.Declares id a.signature :=
      ⟨p.steps, place, habove, List.mem_map_of_mem (List.mem_of_getElem? hget)⟩
    obtain ⟨b, hb, hsignature⟩ := List.mem_map.mp (declares_iff.mp hdeclared)
    rw [← hkept] at hb
    obtain ⟨e, he, rfl⟩ := List.mem_map.mp hb
    rw [ha.eq_of_signature (hfirst e he) hsignature.symm, ← hkept]
    exact List.mem_map_of_mem he

/-- **Accessors stand in the order of their positions.** -/
theorem pairwise_position_accessors (h : Hierarchy) (id : TypeId) :
    (h.accessors id).Pairwise fun a b =>
      ∀ p q, h.FirstAt id p a → h.FirstAt id q b → p.Before q := by
  obtain ⟨kept, hkept, hpairwise, hfirst⟩ := h.exists_positions id
  rw [← hkept, List.pairwise_map]
  refine hpairwise.imp_of_mem ?_
  intro e e' he he' hbefore p q hp hq
  rw [hp.position_eq (hfirst e he) rfl, hq.position_eq (hfirst e' he') rfl]
  exact hbefore

end Hierarchy
end BeanBuilder
