import Mathlib.Data.List.Basic
import Mathlib.Data.List.Induction
import BeanBuilder.OrderedMap

/-! # Keys of ordered maps

Putting a key in again leaves its place, so no key occurs twice (`nodup_keys_ofList`), and an
entry of a map made from a list is an entry of the list (`mem_of_mem_ofList`).  Entries with new
keys come behind the others in their own order (`toList_union_of_new`).

In a map made from a list a key has the last value that the list gives it
(`mem_toList_ofList_iff`), at the place where the list has it first (`pairwise_idxOf_keys_ofList`).
-/
namespace BeanBuilder
namespace OrderedMap

variable {α β : Type} [DecidableEq α] {m : OrderedMap α β} {e : α × β}

theorem mem_of_mem_insert {key : α} {value : β} (h : e ∈ (m.insert key value).toList) :
    e = (key, value) ∨ e ∈ m.toList := by
  obtain ⟨entries⟩ := m
  simp only [insert] at h ⊢
  induction entries with
  | nil => simpa [put] using h
  | cons entry rest ih =>
    obtain ⟨k, v⟩ := entry
    rw [put] at h
    split at h
    · rename_i hk
      rcases List.mem_cons.mp h with rfl | hrest
      · exact Or.inl (by rw [hk])
      · exact Or.inr (List.mem_cons_of_mem _ hrest)
    · rcases List.mem_cons.mp h with rfl | hrest
      · exact Or.inr List.mem_cons_self
      · exact (ih hrest).imp_right (List.mem_cons_of_mem _)

theorem mem_keys_insert {key k : α} {value : β} :
    k ∈ (m.insert key value).keys ↔ k = key ∨ k ∈ m.keys := by
  rw [keys_insert]
  split
  · rename_i hkey
    exact ⟨Or.inr, fun h => h.elim (fun heq => heq ▸ hkey) id⟩
  · rw [List.mem_append, List.mem_singleton]
    exact or_comm

/-- A key can be looked up exactly when it is present. -/
theorem isSome_get?_iff {key : α} : (m.get? key).isSome ↔ key ∈ m.keys := by
  obtain ⟨entries⟩ := m
  simp only [get?, keys]
  induction entries with
  | nil => simp
  | cons entry rest ih =>
    rw [List.lookup_cons, List.map_cons, List.mem_cons]
    by_cases hk : key = entry.1
    · simp [hk]
    · rw [beq_eq_false_iff_ne.mpr hk]
      simp only [ih, hk, false_or]

/-- Putting in the value that a key has already changes nothing. -/
theorem insert_eq_self {key : α} {value : β} (h : m.get? key = some value) :
    m.insert key value = m := by
  obtain ⟨entries⟩ := m
  rw [insert]
  congr 1
  change entries.lookup key = some value at h
  change put key value entries = entries
  induction entries with
  | nil => cases h
  | cons entry rest ih =>
    obtain ⟨k, v⟩ := entry
    rw [put]
    by_cases hk : k = key
    · subst hk
      rw [List.lookup_cons_self] at h
      rw [if_pos rfl, Option.some.inj h]
    · rw [List.lookup_cons, beq_eq_false_iff_ne.mpr (Ne.symm hk)] at h
      rw [if_neg hk, ih h]

theorem nodup_keys_insert (h : m.keys.Nodup) (key : α) (value : β) :
    (m.insert key value).keys.Nodup := by
  rw [keys_insert]
  split
  · exact h
  · rename_i hkey
    refine List.nodup_append.mpr ⟨h, by simp, ?_⟩
    rintro k hk _ hs rfl
    exact hkey (List.mem_singleton.mp hs ▸ hk)

theorem nodup_keys_union (other : OrderedMap α β) (h : m.keys.Nodup) :
    (m.union other).keys.Nodup := by
  obtain ⟨entries⟩ := other
  simp only [union]
  induction entries generalizing m with
  | nil => exact h
  | cons entry rest ih => exact ih (nodup_keys_insert h entry.1 entry.2)

theorem mem_of_mem_union {other : OrderedMap α β} (h : e ∈ (m.union other).toList) :
    e ∈ m.toList ∨ e ∈ other.toList := by
  obtain ⟨entries⟩ := other
  simp only [union] at h ⊢
  induction entries generalizing m with
  | nil => exact Or.inl h
  | cons entry rest ih =>
    rcases ih h with hm | hr
    · rcases mem_of_mem_insert hm with rfl | hold
      · exact Or.inr List.mem_cons_self
      · exact Or.inl hold
    · exact Or.inr (List.mem_cons_of_mem _ hr)

theorem ofList_eq_union (entries : List (α × β)) :
    ofList entries = ({} : OrderedMap α β).union ⟨entries⟩ := rfl

/-- **No key occurs twice** in a map made from a list, however often it occurs there. -/
theorem nodup_keys_ofList (entries : List (α × β)) : (ofList entries).keys.Nodup := by
  rw [ofList_eq_union]
  exact nodup_keys_union _ List.nodup_nil

theorem mem_of_mem_ofList {entries : List (α × β)} (h : e ∈ (ofList entries).toList) :
    e ∈ entries := by
  rw [ofList_eq_union] at h
  exact (mem_of_mem_union h).resolve_left List.not_mem_nil

/-- Where no key occurs twice, every entry can be looked up. -/
theorem get?_eq_some_of_mem (hn : m.keys.Nodup) (h : e ∈ m.toList) : m.get? e.1 = some e.2 := by
  obtain ⟨entries⟩ := m
  simp only [get?, keys] at hn h ⊢
  induction entries with
  | nil => exact absurd h List.not_mem_nil
  | cons entry rest ih =>
    rw [List.map_cons, List.nodup_cons] at hn
    rcases List.mem_cons.mp h with rfl | hrest
    · exact List.lookup_cons_self
    · have hne : e.1 ≠ entry.1 := fun heq => hn.1 (heq ▸ List.mem_map_of_mem hrest)
      rw [List.lookup_cons, beq_eq_false_iff_ne.mpr hne]
      exact ih hn.2 hrest

theorem mem_of_get?_eq_some (h : m.get? e.1 = some e.2) : e ∈ m.toList := by
  obtain ⟨entries⟩ := m
  simp only [get?] at h ⊢
  induction entries with
  | nil => cases h
  | cons entry rest ih =>
    rw [List.lookup_cons] at h
    by_cases hk : e.1 = entry.1
    · rw [beq_iff_eq.mpr hk] at h
      exact List.mem_cons.mpr (Or.inl (Prod.ext hk (Option.some.inj h).symm))
    · rw [beq_eq_false_iff_ne.mpr hk] at h
      exact List.mem_cons_of_mem _ (ih h)

/-- The values of a map are what its keys have, one after another. -/
theorem values_eq_filterMap (hn : m.keys.Nodup) : m.values = m.keys.filterMap m.get? := by
  have hget : ∀ e ∈ m.toList, (m.get? ∘ Prod.fst) e = some e.2 :=
    fun e he => get?_eq_some_of_mem hn he
  rw [keys, List.filterMap_map, List.filterMap_congr hget, List.filterMap_eq_map']
  rfl

/-! ## New keys -/

theorem toList_insert_of_new {key : α} (value : β) (h : key ∉ m.keys) :
    (m.insert key value).toList = m.toList ++ [(key, value)] := by
  obtain ⟨entries⟩ := m
  simp only [insert, keys] at h ⊢
  induction entries with
  | nil => rfl
  | cons entry rest ih =>
    obtain ⟨k, v⟩ := entry
    rw [List.map_cons, List.mem_cons, not_or] at h
    rw [put, if_neg (Ne.symm h.1), ih h.2, List.cons_append]

theorem union_append (m : OrderedMap α β) (xs ys : List (α × β)) :
    m.union ⟨xs ++ ys⟩ = (m.union ⟨xs⟩).union ⟨ys⟩ := by
  rw [union, List.foldl_append]
  rfl

theorem union_cons (m : OrderedMap α β) (e : α × β) (rest : List (α × β)) :
    m.union ⟨e :: rest⟩ = (m.insert e.1 e.2).union ⟨rest⟩ := rfl

/-- Entries whose keys are new and all different are put behind the others. -/
theorem toList_union_of_new {entries : List (α × β)} (hn : (entries.map Prod.fst).Nodup)
    (h : ∀ e ∈ entries, e.1 ∉ m.keys) : (m.union ⟨entries⟩).toList = m.toList ++ entries := by
  induction entries generalizing m with
  | nil => simp [union]
  | cons e rest ih =>
    rw [List.map_cons, List.nodup_cons] at hn
    have he := h e List.mem_cons_self
    rw [union_cons, ih hn.2, toList_insert_of_new e.2 he, List.append_assoc, List.singleton_append]
    intro e' he' hk
    rw [keys_insert, if_neg he, List.mem_append, List.mem_singleton] at hk
    rcases hk with hold | hnew
    · exact h e' (List.mem_cons_of_mem _ he') hold
    · exact hn.1 (hnew ▸ List.mem_map_of_mem he')

/-- A list of entries without a repeated key is the map made from it. -/
theorem toList_ofList_of_nodup {entries : List (α × β)} (hn : (entries.map Prod.fst).Nodup) :
    (ofList entries).toList = entries := by
  rw [ofList_eq_union, toList_union_of_new hn fun _ _ => List.not_mem_nil, List.nil_append]

/-! ## Last values at first places -/

variable {entries : List (α × β)} {key : α} {value : β}

theorem ofList_append_singleton (entries : List (α × β)) (e : α × β) :
    ofList (entries ++ [e]) = (ofList entries).insert e.1 e.2 := by
  rw [ofList, List.foldl_append]
  rfl

theorem mem_keys_ofList_iff : key ∈ (ofList entries).keys ↔ key ∈ entries.map Prod.fst := by
  induction entries using List.reverseRecOn with
  | nil => exact Iff.rfl
  | append_singleton entries e ih =>
    rw [ofList_append_singleton, mem_keys_insert, ih, List.map_append, List.mem_append, or_comm,
      List.map_singleton, List.mem_singleton]

/-- With one more element at the end, only elements of a kind follow an element if it is that one,
or if that one is of the kind and so were those that followed before. -/
theorem exists_behind_append_singleton_iff {γ : Type} {xs : List γ} {x last : γ} {p : γ → Prop} :
    (∃ front behind, xs ++ [last] = front ++ x :: behind ∧ ∀ y ∈ behind, p y) ↔
      last = x ∨ p last ∧ ∃ front behind, xs = front ++ x :: behind ∧ ∀ y ∈ behind, p y := by
  constructor
  · rintro ⟨front, behind, hsplit, hbehind⟩
    induction behind using List.reverseRecOn with
    | nil => exact Or.inl (List.cons.inj (List.append_inj_right' hsplit rfl)).1
    | append_singleton behind y _ =>
      rw [← List.cons_append, ← List.append_assoc] at hsplit
      obtain ⟨hxs, hlast⟩ := List.append_inj' hsplit rfl
      obtain rfl := (List.cons.inj hlast).1
      rw [List.forall_mem_append] at hbehind
      exact Or.inr ⟨hbehind.2 last (List.mem_singleton_self last), front, behind, hxs, hbehind.1⟩
  · rintro (rfl | ⟨hlast, front, behind, rfl, hbehind⟩)
    · exact ⟨xs, [], rfl, List.forall_mem_nil _⟩
    · refine ⟨front, behind ++ [last], by rw [List.append_assoc, List.cons_append], ?_⟩
      exact List.forall_mem_append.mpr ⟨hbehind, List.forall_mem_singleton.mpr hlast⟩

/-- A key has the last value that the list gives it. -/
theorem get?_ofList_eq_some_iff :
    (ofList entries).get? key = some value ↔
      ∃ front behind, entries = front ++ (key, value) :: behind ∧ ∀ e ∈ behind, e.1 ≠ key := by
  induction entries using List.reverseRecOn with
  | nil =>
    constructor
    · exact nofun
    · rintro ⟨front, behind, hsplit, -⟩
      exact absurd hsplit.symm (List.append_ne_nil_of_right_ne_nil front (List.cons_ne_nil _ _))
  | append_singleton entries last ih =>
    rw [ofList_append_singleton, get?_insert, exists_behind_append_singleton_iff, ← ih]
    by_cases hkey : key = last.1
    · rw [if_pos hkey, Option.some.injEq, Prod.ext_iff]
      simp [hkey]
    · rw [if_neg hkey, Prod.ext_iff]
      simp [Ne.symm hkey]

/-- **The last entry for a key is the one that stays.** -/
theorem mem_toList_ofList_iff :
    e ∈ (ofList entries).toList ↔
      ∃ front behind, entries = front ++ e :: behind ∧ ∀ e' ∈ behind, e'.1 ≠ e.1 := by
  refine Iff.trans ?_ get?_ofList_eq_some_iff
  exact ⟨get?_eq_some_of_mem (nodup_keys_ofList entries), mem_of_get?_eq_some⟩

/-- **A key stays at the place where it came first**, whatever values it is given later. -/
theorem pairwise_idxOf_keys_ofList (entries : List (α × β)) :
    (ofList entries).keys.Pairwise fun k k' =>
      (entries.map Prod.fst).idxOf k < (entries.map Prod.fst).idxOf k' := by
  induction entries using List.reverseRecOn with
  | nil => exact List.Pairwise.nil
  | append_singleton entries e ih =>
    have hplace : ∀ k ∈ (ofList entries).keys,
        ((entries ++ [e]).map Prod.fst).idxOf k = (entries.map Prod.fst).idxOf k := by
      intro k hk
      rw [List.map_append, List.idxOf_append_of_mem (mem_keys_ofList_iff.mp hk)]
    have hold : (ofList entries).keys.Pairwise fun k k' =>
        ((entries ++ [e]).map Prod.fst).idxOf k < ((entries ++ [e]).map Prod.fst).idxOf k' := by
      refine ih.imp_of_mem fun hk hk' hlt => ?_
      rwa [hplace _ hk, hplace _ hk']
    rw [ofList_append_singleton, keys_insert]
    split_ifs with hmem
    · exact hold
    · refine List.pairwise_append.mpr ⟨hold, List.pairwise_singleton _ _, ?_⟩
      intro k hk k' hk'
      rw [List.mem_singleton.mp hk', hplace k hk, List.map_append,
        List.idxOf_append_of_notMem (mt mem_keys_ofList_iff.mpr hmem)]
      exact Nat.lt_add_right _ (List.idxOf_lt_length_of_mem (mem_keys_ofList_iff.mp hk))

end OrderedMap
end BeanBuilder
