import BeanBuilder.Proofs.Ascent

/-! # Inherited accessors, declared by the type itself

A type that declares all its accessors itself and has no superclass (`flattened`) is as good as the
type with its superclasses: its accessors are the same, and so are those of every type that inherits
from it, directly or further up, also where it inherits from them in turn (`accessors_flattened`).

With this, and with the walk that gathers them, it is told what the accessors of a type are however
the superclasses are linked (`accessors_along_any_links`).
-/
namespace BeanBuilder

namespace Accessor

variable {seen seen' : List (String × List String)} {inherited rest : List Accessor}

/-- It does not matter in which order and how often signatures were seen. -/
theorem firstsAfter_congr (h : ∀ s, s ∈ seen ↔ s ∈ seen') (accessors : List Accessor) :
    firstsAfter seen accessors = firstsAfter seen' accessors := by
  induction accessors generalizing seen seen' with
  | nil => rfl
  | cons a rest ih =>
    rw [firstsAfter, firstsAfter]
    by_cases ha : a.signature ∈ seen
    · rw [if_pos ha, if_pos ((h _).mp ha), ih h]
    · rw [if_neg ha, if_neg (mt (h _).mpr ha), ih]
      intro s
      rw [List.mem_cons, List.mem_cons, h s]

theorem firstsAfter_append (seen : List (String × List String)) (accessors others : List Accessor) :
    firstsAfter seen (accessors ++ others) =
      firstsAfter seen accessors ++ firstsAfter (accessors.map signature ++ seen) others := by
  induction accessors generalizing seen with
  | nil => rfl
  | cons a rest ih =>
    rw [List.cons_append, firstsAfter, firstsAfter]
    by_cases ha : a.signature ∈ seen
    · rw [if_pos ha, if_pos ha, ih]
      congr 1
      apply firstsAfter_congr
      intro s
      simp only [List.map_cons, List.cons_append, List.mem_cons, List.mem_append]
      constructor
      · exact Or.inr
      · rintro (rfl | h)
        · exact Or.inr ha
        · exact h
    · rw [if_neg ha, if_neg ha, ih, List.cons_append]
      congr 2
      apply firstsAfter_congr
      intro s
      simp only [List.map_cons, List.cons_append, List.mem_cons, List.mem_append]
      tauto

/-- Leaving repetitions out twice is the same as leaving them out once. -/
theorem firstsAfter_firstsAfter (h : seen ⊆ seen') (accessors : List Accessor) :
    firstsAfter seen' (firstsAfter seen accessors) = firstsAfter seen' accessors := by
  induction accessors generalizing seen seen' with
  | nil => rfl
  | cons a rest ih =>
    rw [firstsAfter]
    by_cases ha : a.signature ∈ seen
    · rw [if_pos ha, ih h, firstsAfter, if_pos (h ha)]
    · rw [if_neg ha, firstsAfter, firstsAfter]
      by_cases ha' : a.signature ∈ seen'
      · rw [if_pos ha', if_pos ha', ih (List.cons_subset.mpr ⟨ha', h⟩)]
      · rw [if_neg ha', if_neg ha', ih (List.cons_subset_cons _ h)]

theorem firstsAfter_eq_nil (h : ∀ a ∈ rest, a.signature ∈ seen) : firstsAfter seen rest = [] := by
  rw [List.eq_nil_iff_forall_not_mem]
  intro a ha
  obtain ⟨hnew, hfind⟩ := mem_firstsAfter_iff.mp ha
  exact hnew (h a (List.mem_of_find?_eq_some hfind))

/-- Behind some accessors, the first ones of others are as good as these, less what would be a
repetition anyway. -/
theorem firsts_append_firsts (own : List Accessor)
    (h : ∀ a ∈ rest, a.signature ∈ own.map signature) :
    firsts (own ++ firsts (inherited ++ rest)) = firsts (own ++ inherited) := by
  have hrest : ∀ a ∈ rest, a.signature ∈ inherited.map signature ++ (own.map signature ++ []) := by
    intro a ha
    rw [List.append_nil]
    exact List.mem_append_right _ (h a ha)
  calc firsts (own ++ firsts (inherited ++ rest))
    _ = firsts own ++ firstsAfter (own.map signature ++ []) (firsts (inherited ++ rest)) :=
      firstsAfter_append [] own _
    _ = firsts own ++ firstsAfter (own.map signature ++ []) (inherited ++ rest) := by
      rw [firsts, firsts, firstsAfter_firstsAfter (List.nil_subset _)]
    _ = firsts own ++ firstsAfter (own.map signature ++ []) inherited := by
      rw [firstsAfter_append, firstsAfter_eq_nil hrest, List.append_nil]
    _ = firsts (own ++ inherited) := (firstsAfter_append [] own inherited).symm

end Accessor

namespace Hierarchy

variable {h : Hierarchy} {id other place : TypeId} {m n steps : Nat} {seen : List TypeId}
  {before after line : List TypeId}

/-! ## Chains -/

theorem above?_add (hm : h.above? id m = some other) (hn : h.above? other n = some place) :
    h.above? id (m + n) = some place := by
  induction m generalizing id with
  | zero =>
    rw [Nat.zero_add, Option.some.inj hm]
    exact hn
  | succ m ih =>
    obtain ⟨parent, hparent, hm⟩ := Option.bind_eq_some_iff.mp hm
    rw [Nat.add_right_comm, above?, hparent, Option.bind_some]
    exact ih hm

/-- The types of a chain are declared, different, and none of those seen before. -/
theorem nodup_climb (h : Hierarchy) (steps : Nat) (seen : List TypeId) (id : TypeId) :
    (h.climb steps seen id).Nodup ∧ ∀ s ∈ h.climb steps seen id, s ∉ seen ∧ s < h.size := by
  induction steps generalizing seen id with
  | zero => exact ⟨List.nodup_nil, fun s hs => absurd hs List.not_mem_nil⟩
  | succ steps ih =>
    rw [climb]
    by_cases hid : id ∈ seen
    · rw [if_pos hid]
      exact ⟨List.nodup_nil, fun s hs => absurd hs List.not_mem_nil⟩
    · rw [if_neg hid]
      cases hd : h.get? id with
      | none => exact ⟨List.nodup_nil, fun s hs => absurd hs List.not_mem_nil⟩
      | some d =>
        have hlt := lt_size_of_get?_eq_some hd
        cases hs : d.superclass with
        | none =>
          simp only [hs]
          refine ⟨List.nodup_singleton id, ?_⟩
          intro s hmem
          obtain rfl := List.mem_singleton.mp hmem
          exact ⟨hid, hlt⟩
        | some parent =>
          obtain ⟨hnodup, hnew⟩ := ih (id :: seen) parent
          simp only [hs]
          constructor
          · exact List.nodup_cons.mpr ⟨fun hmem => (hnew id hmem).1 List.mem_cons_self, hnodup⟩
          · intro s hmem
            rcases List.mem_cons.mp hmem with rfl | hup
            · exact ⟨hid, hlt⟩
            · exact ⟨fun hold => (hnew s hup).1 (List.mem_cons_of_mem _ hold), (hnew s hup).2⟩

theorem nodup_lineage (h : Hierarchy) (id : TypeId) : (h.lineage id).Nodup :=
  (h.nodup_climb h.size [] id).1

theorem lt_size_of_mem_lineage (hmem : other ∈ h.lineage id) : other < h.size :=
  ((h.nodup_climb h.size [] id).2 other hmem).2

/-- With more types seen and fewer steps left a chain is cut off earlier. -/
theorem climb_prefix {seen' : List TypeId} {steps' : Nat} (hseen : seen ⊆ seen')
    (hsteps : steps' ≤ steps) : h.climb steps' seen' id <+: h.climb steps seen id := by
  induction steps' generalizing seen seen' steps id with
  | zero => exact List.nil_prefix
  | succ steps' ih =>
    obtain ⟨steps, rfl⟩ := Nat.exists_eq_add_one_of_ne_zero (Nat.ne_zero_of_lt hsteps)
    rw [climb, climb]
    by_cases hid : id ∈ seen'
    · rw [if_pos hid]
      exact List.nil_prefix
    · rw [if_neg hid, if_neg fun hold => hid (hseen hold)]
      cases hd : h.get? id with
      | none => exact List.nil_prefix
      | some d =>
        cases hs : d.superclass with
        | none =>
          simp only [hs]
          exact List.prefix_refl _
        | some parent =>
          simp only [hs]
          rw [List.prefix_cons_inj]
          exact ih (List.cons_subset_cons id hseen) (Nat.le_of_succ_le_succ hsteps)

/-- Every end of a chain is a chain. -/
theorem exists_climb_of_append (hclimb : h.climb steps seen other = before ++ id :: after) :
    ∃ steps' seen', steps' ≤ steps ∧ h.climb steps' seen' id = id :: after := by
  induction steps generalizing seen other before with
  | zero => simp [climb] at hclimb
  | succ steps ih =>
    cases before with
    | nil =>
      -- a chain begins with the type that it begins at
      have hother : other = id := by
        have hzero : (h.climb (steps + 1) seen other)[0]? = some id := by rw [hclimb]; rfl
        exact Option.some.inj (above?_of_getElem?_climb hzero)
      exact ⟨steps + 1, seen, Nat.le_refl _, hother ▸ hclimb⟩
    | cons first before =>
      rw [climb] at hclimb
      split at hclimb
      · cases hclimb
      · cases hd : h.get? other with
        | none => simp [hd] at hclimb
        | some d =>
          cases hs : d.superclass with
          | none => simp [hd, hs] at hclimb
          | some parent =>
            simp only [hd, hs, List.cons_append, List.cons.injEq] at hclimb
            obtain ⟨steps', seen', hle, heq⟩ := ih hclimb.2
            exact ⟨steps', seen', Nat.le_succ_of_le hle, heq⟩

/-- What lies above a type of a lineage lies further up in it, or has been passed below the type. -/
theorem exists_lineage_append (hline : h.lineage other = before ++ id :: after) :
    ∃ rest, h.lineage id = (id :: after) ++ rest ∧ ∀ t ∈ rest, t ∈ before := by
  obtain ⟨steps', seen', hle, hclimb⟩ := exists_climb_of_append hline
  obtain ⟨rest, hrest⟩ : (id :: after) <+: h.lineage id := by
    rw [← hclimb]
    exact climb_prefix (List.nil_subset _) hle
  refine ⟨rest, hrest.symm, ?_⟩
  intro t ht
  have hmem : t ∈ h.lineage id := hrest ▸ List.mem_append_right _ ht
  -- the way from the lower type leads through `id` to `t`
  have hwalk : ∃ k, h.above? other k = some t := by
    obtain ⟨n, hn⟩ := List.mem_iff_getElem?.mp hmem
    have hid : (h.lineage other)[before.length]? = some id := by rw [hline]; simp
    exact ⟨_, above?_add (above?_of_getElem?_climb hid) (above?_of_getElem?_climb hn)⟩
  obtain ⟨k, hk⟩ := hwalk
  have hother := mem_lineage_of_above? hk (lt_size_of_mem_lineage hmem)
  rw [hline] at hother
  rcases List.mem_append.mp hother with hbefore | hbehind
  · exact hbefore
  · have hnodup := h.nodup_lineage id
    rw [← hrest] at hnodup
    exact absurd rfl ((List.nodup_append.mp hnodup).2.2 t hbehind t ht)

/-! ## Flattened types -/

/-- The hierarchy in which a type declares all its accessors itself and has no superclass. -/
def flattened (h : Hierarchy) (id : TypeId) : Hierarchy where
  declarations := h.declarations.modify id fun d =>
    { d with declared := h.accessors id, superclass := none }

theorem get?_flattened (h : Hierarchy) (id other : TypeId) :
    (h.flattened id).get? other =
      if other = id then
        (h.get? id).map fun d => { d with declared := h.accessors id, superclass := none }
      else h.get? other := by
  rw [get?, flattened, List.getElem?_modify]
  by_cases ho : other = id
  · subst ho
    simp [get?]
  · simp [get?, ho, Ne.symm ho]

theorem size_flattened (h : Hierarchy) (id : TypeId) : (h.flattened id).size = h.size :=
  List.length_modify ..

theorem ownAccessors_flattened_of_ne (hne : other ≠ id) :
    (h.flattened id).ownAccessors other = h.ownAccessors other := by
  rw [ownAccessors, get?_flattened, if_neg hne, ownAccessors]

theorem ownAccessors_flattened_self (hid : id < h.size) :
    (h.flattened id).ownAccessors id = h.accessors id := by
  rw [ownAccessors, get?_flattened, if_pos rfl, get?, List.getElem?_eq_getElem hid]
  rfl

/-- A chain up to a type, the whole chain if the type is not on it. -/
def upTo (id : TypeId) : List TypeId → List TypeId
  | [] => []
  | place :: rest => if place = id then [id] else place :: upTo id rest

theorem upTo_of_not_mem (hid : id ∉ line) : upTo id line = line := by
  induction line with
  | nil => rfl
  | cons place rest ih =>
    rw [List.mem_cons, not_or] at hid
    rw [upTo, if_neg (Ne.symm hid.1), ih hid.2]

theorem upTo_append_cons (hid : id ∉ before) :
    upTo id (before ++ id :: after) = before ++ [id] := by
  induction before with
  | nil => rw [List.nil_append, upTo, if_pos rfl, List.nil_append]
  | cons place rest ih =>
    rw [List.mem_cons, not_or] at hid
    rw [List.cons_append, upTo, if_neg (Ne.symm hid.1), ih hid.2, List.cons_append]

/-- A flattened type ends every chain. -/
theorem climb_flattened (h : Hierarchy) (id : TypeId) (steps : Nat) (seen : List TypeId)
    (other : TypeId) :
    (h.flattened id).climb steps seen other = upTo id (h.climb steps seen other) := by
  induction steps generalizing seen other with
  | zero => rfl
  | succ steps ih =>
    rw [climb, climb, get?_flattened]
    by_cases hseen : other ∈ seen
    · rw [if_pos hseen, if_pos hseen]
      rfl
    · rw [if_neg hseen, if_neg hseen]
      by_cases ho : other = id
      · subst ho
        rw [if_pos rfl]
        cases h.get? other with
        | none => rfl
        | some d => exact (if_pos rfl).symm
      · rw [if_neg ho]
        cases h.get? other with
        | none => rfl
        | some d =>
          cases hs : d.superclass with
          | none => simp only [hs, upTo, if_neg ho]
          | some parent => simp only [hs, upTo, if_neg ho, ih]

/-- **Flattening a type leaves all accessors as they are**, its own ones and those of every type of
the hierarchy. -/
theorem accessors_flattened (h : Hierarchy) (id other : TypeId) :
    (h.flattened id).accessors other = h.accessors other := by
  have hlineage : (h.flattened id).lineage other = upTo id (h.lineage other) := by
    rw [lineage, size_flattened, climb_flattened, lineage]
  have hbelow : ∀ line : List TypeId, id ∉ line →
      line.flatMap (h.flattened id).ownAccessors = line.flatMap h.ownAccessors := by
    intro line hline
    refine List.flatMap_congr fun place hplace => ownAccessors_flattened_of_ne ?_
    rintro rfl
    exact hline hplace
  show Accessor.firsts (((h.flattened id).lineage other).flatMap (h.flattened id).ownAccessors) =
    Accessor.firsts ((h.lineage other).flatMap h.ownAccessors)
  rw [hlineage]
  by_cases hid : id ∈ h.lineage other
  · obtain ⟨before, after, hline⟩ := List.append_of_mem hid
    obtain ⟨rest, hrest, hpassed⟩ := exists_lineage_append hline
    have hbefore : id ∉ before := by
      have hnodup := h.nodup_lineage other
      rw [hline] at hnodup
      exact fun hmem => (List.nodup_append.mp hnodup).2.2 id hmem id List.mem_cons_self rfl
    have hall : h.accessors id = Accessor.firsts
        ((id :: after).flatMap h.ownAccessors ++ rest.flatMap h.ownAccessors) := by
      rw [← List.flatMap_append, ← hrest]
      rfl
    rw [hline, upTo_append_cons hbefore, List.flatMap_append, hbelow before hbefore,
      List.flatMap_singleton, ownAccessors_flattened_self (lt_size_of_mem_lineage hid), hall,
      List.flatMap_append]
    -- what comes again behind the type is declared below it as well
    apply Accessor.firsts_append_firsts
    intro a ha
    obtain ⟨place, hplace, hown⟩ := List.mem_flatMap.mp ha
    exact List.mem_map_of_mem (List.mem_flatMap.mpr ⟨place, hpassed place hplace, hown⟩)
  · rw [upTo_of_not_mem hid, hbelow _ hid]

/-! ## The accessors of a type -/

/-- Of a signature that is declared on the way upward there is one accessor. -/
theorem exists_filter_accessors_eq {signature : String × List String}
    (hdeclared : h.Declares id signature) :
    ∃ p a, h.FirstAt id p a ∧ (h.accessors id).filter (·.signature = signature) = [a] := by
  obtain ⟨a, ha, hsignature⟩ := List.mem_map.mp (declares_iff.mp hdeclared)
  obtain ⟨p, hp⟩ := mem_accessors_iff_firstAt.mp ha
  refine ⟨p, a, hp, ?_⟩
  have hmem : a ∈ (h.accessors id).filter (·.signature = signature) :=
    List.mem_filter.mpr ⟨ha, decide_eq_true hsignature⟩
  have hall : ∀ b ∈ (h.accessors id).filter (·.signature = signature), b = a := by
    intro b hb
    obtain ⟨hb, hsame⟩ := List.mem_filter.mp hb
    obtain ⟨q, hq⟩ := mem_accessors_iff_firstAt.mp hb
    exact hq.eq_of_signature hp ((of_decide_eq_true hsame).trans hsignature.symm)
  have hnodup : (h.accessors id).Nodup := .of_map _ (Accessor.nodup_signature_firsts _)
  rw [← List.perm_singleton, List.perm_ext_iff_of_nodup (hnodup.filter _) (List.nodup_singleton a)]
  intro b
  rw [List.mem_singleton]
  exact ⟨hall b, fun heq => heq ▸ hmem⟩

/-- **The accessors of a type, however the superclasses are linked**: types may extend themselves or
each other, and a chain may run into a cycle that it does not begin on.

The walk that gathers the accessors ends after as many rounds as there are types.  Of each signature
that is declared anywhere on the way upward one accessor is gathered, the first declaration of the
signature, and nothing else.  No two signatures are equal, and the accessors stand in the order of
their positions, the type's own declarations in front.  If the type declared all of them itself and
had no superclass, neither its own accessors would change nor those of any other type. -/
theorem accessors_along_any_links (h : Hierarchy) (id : TypeId) :
    (((Ascent.round h)^[h.size] (.start id)).step? h = none ∧
      ((Ascent.round h)^[h.size] (.start id)).gathering.taken = h.accessors id) ∧
    (∀ signature, h.Declares id signature →
      ∃ p a, h.FirstAt id p a ∧ (h.accessors id).filter (·.signature = signature) = [a]) ∧
    (∀ a, a ∈ h.accessors id ↔ ∃ p, h.FirstAt id p a) ∧
    ((h.accessors id).map Accessor.signature).Nodup ∧
    ((h.accessors id).Pairwise fun a b =>
      ∀ p q, h.FirstAt id p a → h.FirstAt id q b → p.Before q) ∧
    ∀ other, (h.flattened id).accessors other = h.accessors other :=
  ⟨Ascent.ended_and_taken h id, fun _ => exists_filter_accessors_eq,
    fun _ => mem_accessors_iff_firstAt, Accessor.nodup_signature_firsts _,
    h.pairwise_position_accessors id, h.accessors_flattened id⟩

/-- A type below two that extend each other.  All three declare `getId`, and one overloads it. -/
def shelfTypes : Hierarchy where
  declarations := [
    { simpleName := "Shelf"
      declared := [{ name := "getRow", returnType := some "int" },
        { name := "getId", returnType := some "long" }]
      superclass := some 1 },
    { simpleName := "Rack"
      declared := [{ name := "getId", returnType := some "Object" },
        { name := "getId", returnType := some "String", parameterTypes := ["int"] }]
      superclass := some 2 },
    { simpleName := "Room"
      declared := [{ name := "getDoor", returnType := some "int" }, { name := "getId" }]
      superclass := some 1 }]

example :
    (shelfTypes.accessors 0).map Accessor.signature =
        [("getRow", []), ("getId", []), ("getId", ["int"]), ("getDoor", [])] ∧
      ((shelfTypes.flattened 1).accessors 0) = shelfTypes.accessors 0 := by
  decide

end Hierarchy
end BeanBuilder
