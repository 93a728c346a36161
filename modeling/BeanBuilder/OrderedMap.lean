/-!
# Ordered maps

A map that keeps its keys in the order in which they were first put in.  Putting a key in again
replaces its value and leaves its place.
-/

namespace BeanBuilder

/-- Keys with their values, oldest key first. -/
structure OrderedMap (α β : Type) where
  toList : List (α × β) := []
  deriving DecidableEq, Repr

namespace OrderedMap

variable {α β : Type} [DecidableEq α]

instance : Inhabited (OrderedMap α β) := ⟨{}⟩

/-- The number of keys. -/
def size (m : OrderedMap α β) : Nat :=
  m.toList.length

/-- The keys, oldest first. -/
def keys (m : OrderedMap α β) : List α :=
  m.toList.map Prod.fst

/-- The values, in the order of their keys. -/
def values (m : OrderedMap α β) : List β :=
  m.toList.map Prod.snd

/-- The value of a key. -/
def get? (m : OrderedMap α β) (key : α) : Option β :=
  m.toList.lookup key

/-- Whether a key is present. -/
def contains (m : OrderedMap α β) (key : α) : Bool :=
  m.toList.any fun entry => entry.1 = key

/-- Entries with the value of a key replaced in place, or with the key at the end. -/
def put (key : α) (value : β) : List (α × β) → List (α × β)
  | [] => [(key, value)]
  | (k, v) :: rest => if k = key then (k, value) :: rest else (k, v) :: put key value rest

/-- The map with a value for a key. -/
def insert (m : OrderedMap α β) (key : α) (value : β) : OrderedMap α β where
  toList := put key value m.toList

/-- The map with all entries of another one put in, in their order. -/
def union (m other : OrderedMap α β) : OrderedMap α β :=
  other.toList.foldl (fun acc (key, value) => acc.insert key value) m

/-- The map made by putting entries in one after another. -/
def ofList (entries : List (α × β)) : OrderedMap α β :=
  entries.foldl (fun acc (key, value) => acc.insert key value) {}

theorem keys_insert (m : OrderedMap α β) (key : α) (value : β) :
    (m.insert key value).keys = if key ∈ m.keys then m.keys else m.keys ++ [key] := by
  obtain ⟨entries⟩ := m
  simp only [insert, keys]
  induction entries with
  | nil => simp [put]
  | cons entry rest ih =>
    obtain ⟨k, v⟩ := entry
    rw [put]
    split
    · rename_i h
      simp [h]
    · rename_i h
      simp only [List.map_cons, List.mem_cons, Ne.symm h, false_or, ih]
      split <;> rename_i hmem <;> simp [hmem]

theorem get?_insert (m : OrderedMap α β) (key other : α) (value : β) :
    (m.insert key value).get? other = if other = key then some value else m.get? other := by
  obtain ⟨entries⟩ := m
  simp only [insert, get?]
  induction entries with
  | nil => by_cases ho : other = key <;> simp [put, List.lookup_cons, ho, beq_eq_false_iff_ne.2]
  | cons entry rest ih =>
    obtain ⟨k, v⟩ := entry
    rw [put]
    split
    · rename_i h
      subst h
      by_cases ho : other = k <;> simp [List.lookup_cons, ho, beq_eq_false_iff_ne.2]
    · rename_i h
      by_cases hk : other = k
      · simp [hk, h]
      · simp [List.lookup_cons, ih, beq_eq_false_iff_ne.2 hk]

end OrderedMap
end BeanBuilder
