import BeanBuilder.Data.Value

/-!
# Collections that are written once

A collection that stands in several places of a value is written in the first of them, with a
number, and as its number alone in the others.  The numbers count from one, in the order in which
the collections are met a second time.  A collection that stands in one place loses its number.
-/

namespace BeanBuilder
namespace Yaml

/-- The anchored collections that were met, and those that were met again, in the order of that. -/
structure Encounters where
  met : List Nat := []
  repeated : List Nat := []

/-- Meets a collection that was met before. -/
def Encounters.meetAgain (e : Encounters) (id : Nat) : Encounters :=
  if e.repeated.contains id then e else { e with repeated := e.repeated ++ [id] }

mutual

/-- Meets the collections of a value. -/
def meetIn (e : Encounters) : Value → Encounters
  | .anchored id _ v =>
    if e.met.contains id then e.meetAgain id else meetIn { e with met := id :: e.met } v
  | .again id => e.meetAgain id
  | .list items => meetAll e items
  | .pair a b => meetIn (meetIn e a) b
  | .mapping entries => meetEntries e entries
  | _ => e

/-- Meets the collections of values. -/
def meetAll (e : Encounters) : List Value → Encounters
  | [] => e
  | v :: rest => meetAll (meetIn e v) rest

/-- Meets the collections of entries. -/
def meetEntries (e : Encounters) : List (Value × Value) → Encounters
  | [] => e
  | (_, v) :: rest => meetEntries (meetIn e v) rest

end

mutual

/-- A value with its collections numbered, and the collections that are written after it. -/
def numberIn (repeated written : List Nat) : Value → Value × List Nat
  | .anchored id circular v =>
    match repeated.idxOf? id with
    | none => numberIn repeated written v
    | some n =>
      if written.contains id then (.again (n + 1), written)
      else
        let (v, written) := numberIn repeated (id :: written) v
        (.anchored (n + 1) circular v, written)
  | .again id => (.again (repeated.idxOf id + 1), written)
  | .list items =>
    let (items, written) := numberAll repeated written items
    (.list items, written)
  | .pair a b =>
    let (a, written) := numberIn repeated written a
    let (b, written) := numberIn repeated written b
    (.pair a b, written)
  | .mapping entries =>
    let (entries, written) := numberEntries repeated written entries
    (.mapping entries, written)
  | v => (v, written)

/-- Values with their collections numbered. -/
def numberAll (repeated written : List Nat) : List Value → List Value × List Nat
  | [] => ([], written)
  | v :: rest =>
    let (v, written) := numberIn repeated written v
    let (rest, written) := numberAll repeated written rest
    (v :: rest, written)

/-- Entries with their collections numbered. -/
def numberEntries (repeated written : List Nat) :
    List (Value × Value) → List (Value × Value) × List Nat
  | [] => ([], written)
  | (k, v) :: rest =>
    let (v, written) := numberIn repeated written v
    let (rest, written) := numberEntries repeated written rest
    ((k, v) :: rest, written)

end

/-- A value whose collections are written once. -/
def shared (v : Value) : Value :=
  (numberIn (meetIn {} v).repeated [] v).1

end Yaml
end BeanBuilder
