import BeanBuilder.Data.Binary64
import BeanBuilder.Data.Moment
import BeanBuilder.Text.Pieces

/-!
# Values of data files

The values that settings files hold: nothing, truth values, whole numbers, double-precision
numbers, texts, bytes, moments, lists, pairs, sets and mappings.  A mapping keeps its keys in the
order of their first occurrence.

A collection may be anchored: it has a number, by which the places in which it stands are known to
be one.  Within itself it stands as its number alone, so that every value is a finite tree.

The module also writes numbers.  A double-precision number is written with the fewest digits
that read back, positionally when its first digit stands at a power of ten from -4 to 15 and
with an exponent otherwise.
-/

namespace BeanBuilder

/-- A value of a data file. -/
inductive Value where
  | null
  | truth (b : Bool)
  | whole (n : Int)
  | real (bits : UInt64)
  | text (s : String)
  | bytes (data : List UInt8)
  | moment (m : Moment)
  | list (items : List Value)
  | pair (first second : Value)
  | set (members : List Value)
  | mapping (entries : List (Value × Value))
  /-- A collection that has a number; within a circular one its number stands for it. -/
  | anchored (id : Nat) (circular : Bool) (v : Value)
  /-- An anchored collection within itself. -/
  | again (id : Nat)
  deriving Repr, Inhabited

namespace Value

/-! ### Identity -/

mutual

/-- Whether two values are the same. -/
def same : Value → Value → Bool
  | .null, .null => true
  | .truth a, .truth b => a = b
  | .whole m, .whole n => m = n
  | .real a, .real b => a = b
  | .text s, .text t => s = t
  | .bytes a, .bytes b => a = b
  | .moment m, .moment n => m = n
  | .list xs, .list ys => sameAll xs ys
  | .pair a b, .pair c d => same a c && same b d
  | .set xs, .set ys => sameAll xs ys
  | .mapping xs, .mapping ys => sameEntries xs ys
  | .anchored m a v, .anchored n b w => m = n && a = b && same v w
  | .again m, .again n => m = n
  | _, _ => false

/-- Whether two lists hold the same values. -/
def sameAll : List Value → List Value → Bool
  | [], [] => true
  | v :: vs, w :: ws => same v w && sameAll vs ws
  | _, _ => false

/-- Whether two lists hold the same entries. -/
def sameEntries : List (Value × Value) → List (Value × Value) → Bool
  | [], [] => true
  | (k, v) :: rest, (l, w) :: others => same k l && same v w && sameEntries rest others
  | _, _ => false

end

mutual

theorem same_iff : ∀ {v w : Value}, same v w = true ↔ v = w
  | v, w => by
    cases v <;> cases w <;> simp [same, same_iff, sameAll_iff, sameEntries_iff, and_assoc]

theorem sameAll_iff : ∀ {vs ws : List Value}, sameAll vs ws = true ↔ vs = ws
  | vs, ws => by cases vs <;> cases ws <;> simp [sameAll, same_iff, sameAll_iff]

theorem sameEntries_iff : ∀ {vs ws : List (Value × Value)}, sameEntries vs ws = true ↔ vs = ws
  | vs, ws => by
    cases vs <;> cases ws <;> simp [sameEntries, same_iff, sameEntries_iff, Prod.ext_iff, and_assoc]

end

instance : DecidableEq Value :=
  fun v w => decidable_of_iff (same v w = true) same_iff

/-! ### Truth and text -/

/-- Whether a value counts as true: no zero and nothing empty does. -/
def isTruthy : Value → Bool
  | .null => false
  | .truth b => b
  | .whole n => n != 0
  | .real bits =>
    match Binary64.parts bits with
    | .finite _ 0 _ => false
    | _ => true
  | .text s => s != ""
  | .bytes data => !data.isEmpty
  | .moment _ => true
  | .list items => !items.isEmpty
  | .pair _ _ => true
  | .set members => !members.isEmpty
  | .mapping entries => !entries.isEmpty
  | .anchored _ _ v => v.isTruthy
  | .again _ => true

/-- The text that a value is. -/
def text? : Value → Option String
  | .text s => some s
  | _ => none

/-! ### Equality -/

/-- A number in the form that it shares with all equal numbers: as a whole number if it is one. -/
def numberForm : Value → Value
  | .truth b => .whole (if b then 1 else 0)
  | .real bits =>
    match Binary64.whole? bits with
    | some n => .whole n
    | none => .real bits
  | v => v

/-- Whether a value without parts equals itself. -/
def equalsItself : Value → Bool
  | .real bits => Binary64.equalsItself bits
  | _ => true

/-- Whether two values without parts are equal as keys of a mapping. -/
def sameKey (k l : Value) : Bool :=
  match k, l with
  | .text s, .text t => s = t
  | .moment m, .moment n => m.same n
  | k, l => k.numberForm == l.numberForm && k.equalsItself

mutual

/-- A value without anchors, its numbers in the form of all equal numbers. -/
def plainForm : Value → Value
  | .list items => .list (plainForms items)
  | .pair a b => .pair a.plainForm b.plainForm
  | .set members => .set (plainForms members)
  | .mapping entries => .mapping (plainEntries entries)
  | .anchored _ _ v => v.plainForm
  | v => v.numberForm

/-- Values without anchors. -/
def plainForms : List Value → List Value
  | [] => []
  | v :: rest => v.plainForm :: plainForms rest

/-- Entries without anchors. -/
def plainEntries : List (Value × Value) → List (Value × Value)
  | [] => []
  | (k, v) :: rest => (k.plainForm, v.plainForm) :: plainEntries rest

end

mutual

/-- Whether a value holds one that equals nothing. -/
def hasUnequal : Value → Bool
  | .list items => anyHasUnequal items
  | .pair a b => a.hasUnequal || b.hasUnequal
  | .set members => anyHasUnequal members
  | .mapping entries => anyEntryHasUnequal entries
  | .anchored _ _ v => v.hasUnequal
  | v => !v.equalsItself

/-- Whether one of some values holds one that equals nothing. -/
def anyHasUnequal : List Value → Bool
  | [] => false
  | v :: rest => hasUnequal v || anyHasUnequal rest

/-- Whether one of some entries holds a value that equals nothing. -/
def anyEntryHasUnequal : List (Value × Value) → Bool
  | [] => false
  | (k, v) :: rest => hasUnequal k || hasUnequal v || anyEntryHasUnequal rest

end

/-- Whether two values are the same and equal themselves. -/
def equals (v w : Value) : Bool :=
  v.plainForm == w.plainForm && !v.hasUnequal

/-! ### Mappings -/

/-- The entries of a mapping with one more; a key that is present keeps its place. -/
def put (entries : List (Value × Value)) (key value : Value) : List (Value × Value) :=
  match entries with
  | [] => [(key, value)]
  | (k, v) :: rest => if sameKey k key then (k, value) :: rest else (k, v) :: put rest key value

/-- The mapping of some entries, the last one of each key counting. -/
def mappingOf (entries : List (Value × Value)) : Value :=
  .mapping (entries.foldl (fun acc (key, value) => put acc key value) [])

/-- The mapping of fields, which are entries under different texts. -/
def record (fields : List (String × Value)) : Value :=
  .mapping (fields.map fun (name, v) => (.text name, v))

/-- The value of the first field with a name. -/
def field? (fields : List (String × Value)) (name : String) : Option Value :=
  fields.lookup name

/-- The entries under texts. -/
def fieldsOf (entries : List (Value × Value)) : List (String × Value) :=
  entries.filterMap fun
    | (.text name, v) => some (name, v)
    | _ => none

mutual

/-- A value in which an anchored collection stands instead of its number. -/
def restore (id : Nat) (whole : Value) : Value → Value
  | .again n => if n = id then whole else .again n
  | .anchored n circular v =>
    if n = id then .anchored n circular v else .anchored n circular (restore id whole v)
  | .list items => .list (restoreAll id whole items)
  | .pair a b => .pair (restore id whole a) (restore id whole b)
  | .mapping entries => .mapping (restoreEntries id whole entries)
  | v => v

/-- Values in which an anchored collection stands instead of its number. -/
def restoreAll (id : Nat) (whole : Value) : List Value → List Value
  | [] => []
  | v :: rest => restore id whole v :: restoreAll id whole rest

/-- Entries in which an anchored collection stands instead of its number. -/
def restoreEntries (id : Nat) (whole : Value) : List (Value × Value) → List (Value × Value)
  | [] => []
  | (k, v) :: rest => (k, restore id whole v) :: restoreEntries id whole rest

end

/-- The fields of a mapping; in those of a circular one it stands in full. -/
def fields? : Value → Option (List (String × Value))
  | .mapping entries => some (fieldsOf entries)
  | .anchored _ false (.mapping entries) => some (fieldsOf entries)
  | .anchored id true (.mapping entries) =>
    some (fieldsOf (restoreEntries id (.anchored id true (.mapping entries)) entries))
  | _ => none

theorem fieldsOf_map (fields : List (String × Value)) :
    fieldsOf (fields.map fun (name, v) => (.text name, v)) = fields := by
  induction fields with
  | nil => rfl
  | cons f rest ih => simp_all [fieldsOf]

@[simp] theorem fields?_record (fields : List (String × Value)) :
    (record fields).fields? = some fields := by
  simp [record, fields?, fieldsOf_map]

/-! ### Numbers -/

/-- The decimal digits of a whole number. -/
def wholeText (n : Int) : String :=
  match n with
  | .ofNat n => String.ofList (Nat.toDigits 10 n)
  | .negSucc n => "-" ++ String.ofList (Nat.toDigits 10 (n + 1))

/-- An exponent with its sign and at least two digits. -/
def exponentText (e : Int) : List Char :=
  let digits := Nat.toDigits 10 e.natAbs
  'e' :: (if e < 0 then '-' else '+') :: List.replicate (2 - digits.length) '0' ++ digits

/-- Digits whose first one stands at the power `lead` of ten. -/
def decimalText (digits : List Char) (lead : Int) : List Char :=
  if lead < -4 ∨ 16 ≤ lead then
    match digits with
    | [] => []
    | [d] => d :: exponentText lead
    | d :: rest => d :: '.' :: rest ++ exponentText lead
  else if lead < 0 then
    '0' :: '.' :: List.replicate (-lead - 1).toNat '0' ++ digits
  else
    let front := lead.toNat + 1
    let zeros := List.replicate (front - digits.length) '0'
    let fraction := digits.drop front
    digits.take front ++ zeros ++ '.' :: if fraction.isEmpty then ['0'] else fraction

/-- How the numbers that are no decimal fractions are spelled. -/
structure SpecialNumbers where
  infinity : String
  notANumber : String

/-- A double-precision number in decimal digits. -/
def realText (special : SpecialNumbers) (bits : UInt64) : String :=
  match Binary64.parts bits with
  | .notANumber => special.notANumber
  | .infinity negative => (if negative then "-" else "") ++ special.infinity
  | .finite negative significand exponent =>
    let magnitude :=
      if significand = 0 then ['0', '.', '0']
      else match Binary64.shortest? significand exponent with
        | none => ['0', '.', '0']
        | some (n, power) =>
          let digits := Nat.toDigits 10 n
          decimalText digits (power + digits.length - 1)
    String.ofList (if negative then '-' :: magnitude else magnitude)

end Value
end BeanBuilder
