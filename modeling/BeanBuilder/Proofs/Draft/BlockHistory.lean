import Mathlib.Data.Nat.Init
import BeanBuilder.Draft.Block

/-! # Histories of open blocks

Blocks are opened and closed by calls, and equal blocks may be opened many times.  A block is known
by the call that opened it: `heldAfter` tells which calls have opened the blocks on the stack, and
`returnedBy` those whose blocks a call gives back.

A call either puts its own block in front or takes some blocks off the front
(`givesBack_append_blocks`).  So the calls whose blocks are on the stack stand there latest first
(`pairwise_heldAfter`), and a block that is gone is gone for good.

Protection is one number, the depth behind the last protected push.  No pop gets below it, and only
unwinding takes it back (`blocks_suffix_afterAll`).
-/
namespace BeanBuilder
namespace Draft

/-- The calls on a stack of open blocks. -/
inductive StackCall where
  | push (b : Block) (isProtected : Bool)
  | pop
  | peek
  | unwind
  deriving DecidableEq, Repr

namespace StackCall

/-- The block that a call opens. -/
def opens? : StackCall → Option Block
  | .push b _ => some b
  | .pop | .peek | .unwind => none

/-- Whether a call opens a protected block. -/
def protects : StackCall → Bool
  | .push _ isProtected => isProtected
  | .pop | .peek | .unwind => false

end StackCall

namespace BlockStack

variable {s : BlockStack} {call : StackCall} {calls more : List StackCall} {b : Block} {i j n : Nat}

/-- The stack behind a call. -/
def after (s : BlockStack) : StackCall → BlockStack
  | .push b isProtected => s.push b isProtected
  | .pop => s.pop.2
  | .peek => s
  | .unwind => s.unwind.2

/-- The blocks that a call takes off the stack and gives back, in their order. -/
def givesBack (s : BlockStack) : StackCall → List Block
  | .pop => s.pop.1.toList
  | .unwind => s.unwind.1
  | .push .. | .peek => []

/-- The stack behind calls, one after another. -/
def afterAll (s : BlockStack) (calls : List StackCall) : BlockStack :=
  calls.foldl after s

theorem afterAll_append (s : BlockStack) (calls more : List StackCall) :
    s.afterAll (calls ++ more) = (s.afterAll calls).afterAll more := by
  rw [afterAll, List.foldl_append]
  rfl

theorem afterAll_concat (s : BlockStack) (calls : List StackCall) (call : StackCall) :
    s.afterAll (calls ++ [call]) = (s.afterAll calls).after call := by
  rw [afterAll_append]
  rfl

/-! ## One call -/

/-- What a pop does: nothing at the guarded blocks, else it takes the innermost one. -/
theorem pop_cases (s : BlockStack) :
    (s.depth ≤ s.guarded ∧ s.pop = (none, s)) ∨
      (s.guarded < s.depth ∧ ∃ b rest, s.blocks = b :: rest ∧
        s.pop = (some b, { s with blocks := rest })) := by
  unfold pop
  cases hblocks : s.blocks with
  | nil =>
    left
    refine ⟨?_, rfl⟩
    rw [depth, hblocks]
    exact Nat.zero_le _
  | cons b rest =>
    by_cases hle : s.depth ≤ s.guarded
    · exact Or.inl ⟨hle, if_pos hle⟩
    · exact Or.inr ⟨Nat.lt_of_not_le hle, b, rest, rfl, if_neg hle⟩

theorem blocks_after_of_opens (h : call.opens? = some b) :
    (s.after call).blocks = b :: s.blocks ∧ s.givesBack call = [] := by
  cases call with
  | push b' isProtected =>
    obtain rfl := Option.some.inj h
    exact ⟨rfl, rfl⟩
  | pop | peek | unwind => cases h

/-- **A call that opens no block takes blocks off the front**, and gives back just these. -/
theorem givesBack_append_blocks (h : call.opens? = none) :
    s.givesBack call ++ (s.after call).blocks = s.blocks := by
  cases call with
  | push b isProtected => cases h
  | pop =>
    rcases s.pop_cases with ⟨-, hpop⟩ | ⟨-, b, rest, hblocks, hpop⟩
    · simp [givesBack, after, hpop]
    · simp [givesBack, after, hpop, hblocks]
  | peek => rfl
  | unwind => exact List.append_nil _

/-- No more blocks are guarded than there are. -/
theorem guarded_le_depth_after (h : s.guarded ≤ s.depth) (call : StackCall) :
    (s.after call).guarded ≤ (s.after call).depth := by
  cases call with
  | push b isProtected =>
    simp only [after, push, depth, List.length_cons]
    rw [depth] at h
    split <;> omega
  | pop =>
    rcases s.pop_cases with ⟨-, hpop⟩ | ⟨hlt, b, rest, hblocks, hpop⟩
    · rw [after, hpop]
      exact h
    · rw [after, hpop]
      rw [depth, hblocks, List.length_cons] at hlt
      show s.guarded ≤ rest.length
      omega
  | peek => exact h
  | unwind => exact Nat.zero_le _

theorem guarded_le_depth_afterAll (h : s.guarded ≤ s.depth) (calls : List StackCall) :
    (s.afterAll calls).guarded ≤ (s.afterAll calls).depth := by
  induction calls generalizing s with
  | nil => exact h
  | cons call rest ih => exact ih (guarded_le_depth_after h call)

theorem guarded_after_of_not_protects (h : call.protects = false) (hne : call ≠ .unwind) :
    (s.after call).guarded = s.guarded := by
  cases call with
  | push b isProtected =>
    obtain rfl : isProtected = false := h
    rfl
  | pop =>
    rcases s.pop_cases with ⟨-, hpop⟩ | ⟨-, b, rest, -, hpop⟩
    · rw [after, hpop]
    · rw [after, hpop]
  | peek => rfl
  | unwind => exact absurd rfl hne

/-! ## Protected blocks -/

/-- Blocks at the bottom of a stack that are all guarded. -/
def Guards (s : BlockStack) (kept : List Block) : Prop :=
  kept <:+ s.blocks ∧ kept.length ≤ s.guarded ∧ s.guarded ≤ s.depth

/-- Only unwinding takes guarded blocks away. -/
theorem Guards.after {kept : List Block} (h : s.Guards kept) (hne : call ≠ .unwind) :
    (s.after call).Guards kept := by
  obtain ⟨hsuffix, hkept, hle⟩ := h
  refine ⟨?_, ?_, guarded_le_depth_after hle call⟩
  · cases call with
    | push b isProtected => exact hsuffix.trans (List.suffix_cons b s.blocks)
    | pop =>
      rcases s.pop_cases with ⟨-, hpop⟩ | ⟨hlt, b, rest, hblocks, hpop⟩
      · rw [BlockStack.after, hpop]
        exact hsuffix
      · rw [BlockStack.after, hpop]
        rw [hblocks] at hsuffix
        rcases List.suffix_cons_iff.mp hsuffix with rfl | hrest
        · -- the block that is taken would be guarded
          rw [depth, hblocks] at hlt
          omega
        · exact hrest
    | peek => exact hsuffix
    | unwind => exact absurd rfl hne
  · cases call with
    | push b isProtected =>
      show kept.length ≤ if isProtected then s.depth + 1 else s.guarded
      split <;> omega
    | pop =>
      rw [guarded_after_of_not_protects rfl hne]
      exact hkept
    | peek => exact hkept
    | unwind => exact absurd rfl hne

theorem Guards.afterAll {kept : List Block} (h : s.Guards kept) (hunwind : .unwind ∉ calls) :
    (s.afterAll calls).Guards kept := by
  induction calls generalizing s with
  | nil => exact h
  | cons call rest ih =>
    rw [List.mem_cons, not_or] at hunwind
    exact ih (h.after (Ne.symm hunwind.1)) hunwind.2

/-- A protected push guards its block and everything below it. -/
theorem guards_push (s : BlockStack) (b : Block) : (s.push b true).Guards (b :: s.blocks) :=
  ⟨List.suffix_refl _, Nat.le_refl _, Nat.le_refl _⟩

/-- **No pop removes what a protected push has guarded**, until everything is unwound. -/
theorem blocks_suffix_afterAll (s : BlockStack) (b : Block) (hunwind : .unwind ∉ calls) :
    b :: s.blocks <:+ ((s.push b true).afterAll calls).blocks :=
  ((s.guards_push b).afterAll hunwind).1

theorem guarded_afterAll_of_not_protects (hunwind : .unwind ∉ calls)
    (hprotects : ∀ call ∈ calls, call.protects = false) :
    (s.afterAll calls).guarded = s.guarded := by
  induction calls generalizing s with
  | nil => rfl
  | cons call rest ih =>
    rw [List.mem_cons, not_or] at hunwind
    rw [List.forall_mem_cons] at hprotects
    have hrest : ((s.after call).afterAll rest).guarded = (s.after call).guarded :=
      ih hunwind.2 hprotects.2
    exact hrest.trans (guarded_after_of_not_protects hprotects.1 (Ne.symm hunwind.1))

/-- Everything above the last protected block can be popped. -/
theorem pop_eq_none_iff_of_protected (s : BlockStack) (b : Block) (hunwind : .unwind ∉ calls)
    (hprotects : ∀ call ∈ calls, call.protects = false) :
    ((s.push b true).afterAll calls).pop.1 = none ↔
      ((s.push b true).afterAll calls).blocks = b :: s.blocks := by
  have hsuffix := blocks_suffix_afterAll s b hunwind
  have hguarded : ((s.push b true).afterAll calls).guarded = s.depth + 1 :=
    guarded_afterAll_of_not_protects hunwind hprotects
  generalize (s.push b true).afterAll calls = t at hsuffix hguarded ⊢
  have hlength : (b :: s.blocks).length = s.depth + 1 := rfl
  constructor
  · intro hnone
    rcases t.pop_cases with ⟨hle, -⟩ | ⟨-, b', rest, -, hpop⟩
    · exact (hsuffix.eq_of_length_le (by rw [hlength, ← hguarded]; exact hle)).symm
    · rw [hpop] at hnone
      cases hnone
  · intro hblocks
    rcases t.pop_cases with ⟨-, hpop⟩ | ⟨hlt, -⟩
    · rw [hpop]
    · have hdepth : t.depth = s.depth + 1 := (congrArg List.length hblocks).trans hlength
      omega

/-! ## The calls whose blocks are on the stack -/

/-- The stack when a number of calls has been made. -/
def stackAt (calls : List StackCall) (n : Nat) : BlockStack :=
  ({} : BlockStack).afterAll (calls.take n)

/-- The block that a call opens, known by its number. -/
def openedBy? (calls : List StackCall) (i : Nat) : Option Block :=
  calls[i]?.bind StackCall.opens?

/-- How many blocks a call gives back. -/
def backCount (calls : List StackCall) (n : Nat) : Nat :=
  (calls[n]?.map fun call => ((stackAt calls n).givesBack call).length).getD 0

/-- The calls whose blocks are on the stack when a number of calls has been made, innermost block
first.  What a call gives back is taken to be the blocks of the calls in front. -/
def heldAfter (calls : List StackCall) : Nat → List Nat
  | 0 => []
  | n + 1 =>
    if (openedBy? calls n).isSome then n :: heldAfter calls n
    else (heldAfter calls n).drop (backCount calls n)

/-- The calls whose blocks a call gives back, in their order. -/
def returnedBy (calls : List StackCall) (n : Nat) : List Nat :=
  (heldAfter calls n).take (backCount calls n)

theorem stackAt_succ (h : calls[n]? = some call) :
    stackAt calls (n + 1) = (stackAt calls n).after call := by
  rw [stackAt, List.take_add_one, h, Option.toList_some, afterAll_concat, stackAt]

theorem stackAt_succ_of_none (h : calls[n]? = none) : stackAt calls (n + 1) = stackAt calls n := by
  rw [stackAt, List.take_add_one, h, Option.toList_none, List.append_nil, stackAt]

theorem openedBy?_of_getElem? (h : calls[n]? = some call) : openedBy? calls n = call.opens? := by
  rw [openedBy?, h, Option.bind_some]

theorem backCount_of_getElem? (h : calls[n]? = some call) :
    backCount calls n = ((stackAt calls n).givesBack call).length := by
  rw [backCount, h, Option.map_some, Option.getD_some]

theorem backCount_of_opens (h : (openedBy? calls n).isSome) : backCount calls n = 0 := by
  obtain ⟨b, hb⟩ := Option.isSome_iff_exists.mp h
  obtain ⟨call, hcall, hopens⟩ := Option.bind_eq_some_iff.mp hb
  rw [backCount_of_getElem? hcall, (blocks_after_of_opens hopens).2]
  rfl

/-- A call that opens a block puts its number in front, and gives nothing back. -/
theorem heldAfter_succ_of_opens (h : (openedBy? calls n).isSome) :
    heldAfter calls (n + 1) = n :: heldAfter calls n ∧ returnedBy calls n = [] := by
  refine ⟨by rw [heldAfter, if_pos h], ?_⟩
  rw [returnedBy, backCount_of_opens h, List.take_zero]

/-- Any other call divides what is on the stack into what it gives back and what stays. -/
theorem returnedBy_append_heldAfter (h : openedBy? calls n = none) :
    returnedBy calls n ++ heldAfter calls (n + 1) = heldAfter calls n := by
  rw [heldAfter, h, if_neg (by simp), returnedBy, List.take_append_drop]

/-- **The blocks on the stack are those of the calls that are held**, in their order. -/
theorem map_openedBy?_heldAfter (calls : List StackCall) (n : Nat) :
    (heldAfter calls n).map (openedBy? calls) = (stackAt calls n).blocks.map some := by
  induction n with
  | zero => rfl
  | succ n ih =>
    cases hcall : calls[n]? with
    | none =>
      have hopened : openedBy? calls n = none := by rw [openedBy?, hcall, Option.bind_none]
      have hcount : backCount calls n = 0 := by rw [backCount, hcall]; rfl
      rw [heldAfter, hopened, if_neg (by simp), hcount, List.drop_zero,
        stackAt_succ_of_none hcall, ih]
    | some call =>
      have hopened := openedBy?_of_getElem? hcall
      rw [stackAt_succ hcall]
      cases hopens : call.opens? with
      | some b =>
        have hsome : (openedBy? calls n).isSome := by rw [hopened, hopens]; rfl
        rw [(heldAfter_succ_of_opens hsome).1, List.map_cons, ih, hopened, hopens,
          (blocks_after_of_opens hopens).1, List.map_cons]
      | none =>
        have hblocks := givesBack_append_blocks (s := stackAt calls n) hopens
        rw [heldAfter, hopened, hopens, if_neg (by simp), List.map_drop, ih, ← hblocks,
          backCount_of_getElem? hcall, List.map_append]
        exact List.drop_left' (List.length_map _)

/-- **What a call gives back** are the blocks of the calls that are returned, in their order. -/
theorem map_openedBy?_returnedBy (h : calls[n]? = some call) :
    (returnedBy calls n).map (openedBy? calls) = ((stackAt calls n).givesBack call).map some := by
  rw [returnedBy, List.map_take, map_openedBy?_heldAfter, backCount_of_getElem? h]
  cases hopens : call.opens? with
  | some b => rw [(blocks_after_of_opens hopens).2]; rfl
  | none =>
    rw [← givesBack_append_blocks hopens, List.map_append]
    exact List.take_left' (List.length_map _)

/-! ## Every block comes back once -/

theorem lt_of_mem_heldAfter (h : i ∈ heldAfter calls n) : i < n := by
  induction n with
  | zero => exact absurd h List.not_mem_nil
  | succ n ih =>
    rw [heldAfter] at h
    split at h
    · rcases List.mem_cons.mp h with rfl | hold
      · exact Nat.lt_succ_self _
      · exact Nat.lt_succ_of_lt (ih hold)
    · exact Nat.lt_succ_of_lt (ih (List.mem_of_mem_drop h))

/-- **The blocks on the stack stand latest first.** -/
theorem pairwise_heldAfter (calls : List StackCall) (n : Nat) :
    (heldAfter calls n).Pairwise (· > ·) := by
  induction n with
  | zero => exact List.Pairwise.nil
  | succ n ih =>
    rw [heldAfter]
    split
    · exact List.pairwise_cons.mpr ⟨fun i hi => lt_of_mem_heldAfter hi, ih⟩
    · exact ih.sublist (List.drop_sublist _ _)

theorem pairwise_returnedBy (calls : List StackCall) (n : Nat) :
    (returnedBy calls n).Pairwise (· > ·) :=
  (pairwise_heldAfter calls n).sublist (List.take_sublist _ _)

theorem mem_heldAfter_of_mem_returnedBy (h : i ∈ returnedBy calls n) : i ∈ heldAfter calls n :=
  List.mem_of_mem_take h

/-- What a call gives back is older than nothing that stays. -/
theorem lt_of_mem_returnedBy (hi : i ∈ heldAfter calls (n + 1)) (hj : j ∈ returnedBy calls n) :
    i < j := by
  cases hopened : openedBy? calls n with
  | some b =>
    have hsome : (openedBy? calls n).isSome := by rw [hopened]; rfl
    rw [(heldAfter_succ_of_opens hsome).2] at hj
    exact absurd hj List.not_mem_nil
  | none =>
    have hpairwise := pairwise_heldAfter calls n
    rw [← returnedBy_append_heldAfter hopened, List.pairwise_append] at hpairwise
    exact hpairwise.2.2 j hj i hi

/-- What is on the stack is given back by the next call, or stays. -/
theorem mem_returnedBy_or_mem_heldAfter (h : i ∈ heldAfter calls n) :
    i ∈ returnedBy calls n ∨ i ∈ heldAfter calls (n + 1) := by
  cases hopened : openedBy? calls n with
  | some b =>
    have hsome : (openedBy? calls n).isSome := by rw [hopened]; rfl
    rw [(heldAfter_succ_of_opens hsome).1]
    exact Or.inr (List.mem_cons_of_mem n h)
  | none =>
    rw [← returnedBy_append_heldAfter hopened] at h
    exact List.mem_append.mp h

/-- What is gone does not come back. -/
theorem mem_heldAfter_of_le (hlt : i < n) (hle : n ≤ j) (h : i ∈ heldAfter calls j) :
    i ∈ heldAfter calls n := by
  induction j, hle using Nat.le_induction with
  | base => exact h
  | succ j hle ih =>
    rw [heldAfter] at h
    split at h
    · rcases List.mem_cons.mp h with rfl | hold
      · omega
      · exact ih hold
    · exact ih (List.mem_of_mem_drop h)

/-- A block that was on the stack is there still, or a call has given it back since. -/
theorem mem_heldAfter_or_exists_mem_returnedBy (h : i ∈ heldAfter calls n) (hle : n ≤ j) :
    i ∈ heldAfter calls j ∨ ∃ k, n ≤ k ∧ k < j ∧ i ∈ returnedBy calls k := by
  induction j, hle using Nat.le_induction with
  | base => exact Or.inl h
  | succ j hle ih =>
    rcases ih with hheld | ⟨k, hk, hkj, hback⟩
    · rcases mem_returnedBy_or_mem_heldAfter hheld with hback | hstays
      · exact Or.inr ⟨j, hle, Nat.lt_succ_self j, hback⟩
      · exact Or.inl hstays
    · exact Or.inr ⟨k, hk, Nat.lt_succ_of_lt hkj, hback⟩

theorem notMem_heldAfter_succ (h : i ∈ returnedBy calls n) : i ∉ heldAfter calls (n + 1) :=
  fun hheld => Nat.lt_irrefl i (lt_of_mem_returnedBy hheld h)

theorem returnedBy_unique (hi : i ∈ returnedBy calls n) (hj : i ∈ returnedBy calls j) : n = j := by
  have hn := lt_of_mem_heldAfter (mem_heldAfter_of_mem_returnedBy hi)
  have hj' := lt_of_mem_heldAfter (mem_heldAfter_of_mem_returnedBy hj)
  rcases Nat.lt_trichotomy n j with hlt | heq | hgt
  · have hheld :=
      mem_heldAfter_of_le (Nat.lt_succ_of_lt hn) hlt (mem_heldAfter_of_mem_returnedBy hj)
    exact absurd hheld (notMem_heldAfter_succ hi)
  · exact heq
  · have hheld :=
      mem_heldAfter_of_le (Nat.lt_succ_of_lt hj') hgt (mem_heldAfter_of_mem_returnedBy hi)
    exact absurd hheld (notMem_heldAfter_succ hj)

/-- Only pops and unwinding give blocks back. -/
theorem pop_or_unwind_of_mem_returnedBy (h : i ∈ returnedBy calls n) :
    calls[n]? = some .pop ∨ calls[n]? = some .unwind := by
  have hpositive : 0 < backCount calls n := by
    apply Nat.pos_of_ne_zero
    intro hzero
    rw [returnedBy, hzero, List.take_zero] at h
    exact absurd h List.not_mem_nil
  rw [backCount] at hpositive
  cases hcall : calls[n]? with
  | none =>
    rw [hcall] at hpositive
    exact absurd hpositive (Nat.lt_irrefl 0)
  | some call =>
    rw [hcall] at hpositive
    cases call with
    | pop => exact Or.inl rfl
    | unwind => exact Or.inr rfl
    | push b isProtected => exact absurd hpositive (Nat.lt_irrefl 0)
    | peek => exact absurd hpositive (Nat.lt_irrefl 0)

theorem lt_length_of_mem_returnedBy (h : i ∈ returnedBy calls n) : n < calls.length := by
  rcases pop_or_unwind_of_mem_returnedBy h with hcall | hcall
  · exact (List.getElem?_eq_some_iff.mp hcall).1
  · exact (List.getElem?_eq_some_iff.mp hcall).1

theorem mem_heldAfter_succ_of_opens (h : (openedBy? calls i).isSome) :
    i ∈ heldAfter calls (i + 1) := by
  rw [(heldAfter_succ_of_opens h).1]
  exact List.mem_cons_self

/-- **Every block that was pushed is still there, or was given back once.** -/
theorem held_or_returned_once (h : (openedBy? calls i).isSome) :
    (i ∈ heldAfter calls calls.length ∧ ∀ n, i ∉ returnedBy calls n) ∨
      (i ∉ heldAfter calls calls.length ∧ ∃ n, i < n ∧ i ∈ returnedBy calls n ∧
        ∀ m, i ∈ returnedBy calls m → m = n) := by
  have hlength : i + 1 ≤ calls.length := by
    obtain ⟨b, hb⟩ := Option.isSome_iff_exists.mp h
    obtain ⟨call, hcall, -⟩ := Option.bind_eq_some_iff.mp hb
    exact (List.getElem?_eq_some_iff.mp hcall).1
  by_cases hheld : i ∈ heldAfter calls calls.length
  · left
    refine ⟨hheld, fun n hback => ?_⟩
    have hi := lt_of_mem_heldAfter (mem_heldAfter_of_mem_returnedBy hback)
    have hlater :=
      mem_heldAfter_of_le (Nat.lt_succ_of_lt hi) (lt_length_of_mem_returnedBy hback) hheld
    exact notMem_heldAfter_succ hback hlater
  · right
    refine ⟨hheld, ?_⟩
    rcases mem_heldAfter_or_exists_mem_returnedBy (mem_heldAfter_succ_of_opens h) hlength with
      hend | ⟨n, hn, -, hback⟩
    · exact absurd hend hheld
    · exact ⟨n, hn, hback, fun m hm => returnedBy_unique hm hback⟩

/-- **A block comes back after those that were pushed on top of it.** -/
theorem exists_mem_returnedBy_of_lt (hij : i < j) (hj : (openedBy? calls j).isSome) (hjn : j < n)
    (hi : i ∈ returnedBy calls n) : ∃ m, m ≤ n ∧ j ∈ returnedBy calls m := by
  rcases mem_heldAfter_or_exists_mem_returnedBy (j := n + 1) (mem_heldAfter_succ_of_opens hj)
    (by omega) with hheld | ⟨m, -, hm, hback⟩
  · have hlt := lt_of_mem_returnedBy hheld hi
    omega
  · exact ⟨m, by omega, hback⟩

/-! ## Whole histories -/

/-- **What becomes of blocks**, whatever calls are made on a new stack.

Never more blocks are guarded than there are.  What a protected push finds, and its own block, stay
at the bottom of the stack as long as nothing is unwound; and if no other protected push follows,
all that stands above can be popped.

The blocks on the stack are those of some pushes, the latest in front, and so is what a call gives
back.  Every push has its block still on the stack, or has it given back once, by a pop or by
unwinding; and a block is given back only with or after all those that were pushed on top of it.

Unwinding leaves a new stack. -/
theorem blocks_return_last_first (calls : List StackCall) :
    (∀ n, (stackAt calls n).guarded ≤ (stackAt calls n).depth) ∧
    (∀ front b behind, calls = front ++ .push b true :: behind → .unwind ∉ behind →
      (afterAll {} (front ++ [.push b true])).blocks <:+ (afterAll {} calls).blocks ∧
      ((∀ call ∈ behind, call.protects = false) →
        ((afterAll {} calls).pop.1 = none ↔
          (afterAll {} calls).blocks = (afterAll {} (front ++ [.push b true])).blocks))) ∧
    (∀ n, (heldAfter calls n).map (openedBy? calls) = (stackAt calls n).blocks.map some) ∧
    (∀ n call, calls[n]? = some call →
      (returnedBy calls n).map (openedBy? calls) = ((stackAt calls n).givesBack call).map some) ∧
    (∀ i, (openedBy? calls i).isSome →
      (i ∈ heldAfter calls calls.length ∧ ∀ n, i ∉ returnedBy calls n) ∨
      (i ∉ heldAfter calls calls.length ∧ ∃ n, i < n ∧ i ∈ returnedBy calls n ∧
        (calls[n]? = some .pop ∨ calls[n]? = some .unwind) ∧
        ∀ m, i ∈ returnedBy calls m → m = n)) ∧
    (∀ n, (returnedBy calls n).Pairwise (· > ·) ∧ (heldAfter calls n).Pairwise (· > ·)) ∧
    (∀ i j n, i < j → (openedBy? calls j).isSome → j < n → i ∈ returnedBy calls n →
      ∃ m, m ≤ n ∧ j ∈ returnedBy calls m) ∧
    afterAll {} (calls ++ [.unwind]) = {} := by
  refine ⟨?_, ?_, map_openedBy?_heldAfter calls, fun n call => map_openedBy?_returnedBy, ?_,
    fun n => ⟨pairwise_returnedBy calls n, pairwise_heldAfter calls n⟩,
    fun i j n => exists_mem_returnedBy_of_lt, afterAll_concat {} calls .unwind⟩
  · intro n
    exact guarded_le_depth_afterAll (Nat.le_refl 0) (calls.take n)
  · intro front b behind hcalls hunwind
    have hfront : afterAll {} (front ++ [.push b true]) = (afterAll {} front).push b true :=
      afterAll_concat {} front (.push b true)
    have hall : afterAll {} calls = ((afterAll {} front).push b true).afterAll behind := by
      rw [hcalls, afterAll_append]
      rfl
    rw [hfront, hall]
    exact ⟨blocks_suffix_afterAll _ b hunwind, pop_eq_none_iff_of_protected _ b hunwind⟩
  · intro i hi
    rcases held_or_returned_once hi with hheld | ⟨hgone, n, hlt, hback, honce⟩
    · exact Or.inl hheld
    · exact Or.inr ⟨hgone, n, hlt, hback, pop_or_unwind_of_mem_returnedBy hback, honce⟩

/-- A method body that is opened inside a class, with pops that reach down to it. -/
def bodyCalls : List StackCall :=
  [.push ⟨.classBody, "class A"⟩ false, .push ⟨.methodBody, "run"⟩ true,
    .push ⟨.nested, "if (a)"⟩ false, .pop, .pop, .peek, .unwind, .push ⟨.nested, ""⟩ false]

/-- The inner block is popped, the body and the class only come back when all is unwound. -/
theorem blocks_return_last_first_bodyCalls :
    (afterAll {} (bodyCalls.take 2)).blocks <:+ (stackAt bodyCalls 6).blocks ∧
      (stackAt bodyCalls 6).pop.1 = none ∧
      (returnedBy bodyCalls 3, returnedBy bodyCalls 4, returnedBy bodyCalls 6) = ([2], [], [1, 0]) ∧
      heldAfter bodyCalls bodyCalls.length = [7] := by
  obtain ⟨-, hguards, -⟩ := blocks_return_last_first (bodyCalls.take 6)
  obtain ⟨hsuffix, hpop⟩ := hguards (bodyCalls.take 1) ⟨.methodBody, "run"⟩
    ((bodyCalls.take 6).drop 2) rfl (by decide)
  exact ⟨hsuffix, (hpop (by decide)).mpr (by decide), by decide, by decide⟩

end BlockStack
end Draft
end BeanBuilder
