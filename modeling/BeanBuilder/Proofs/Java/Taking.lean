import BeanBuilder.Java.SourceFile
import BeanBuilder.Proofs.Java.TypeTokens

/-! # Tokens that rules take

`Takes k r ts rest` says that the rule `r` takes the tokens `ts` up to `rest`, wherever an attempt
around it would begin again, as soon as `k` phrases within phrases are granted.  Each way to put
rules together has a lemma, so a statement is taken the way it is written down
(`takes_block`).

What decides between rules are the next tokens.  Where the first of them has none of the texts that
a question asks for, the answer is no (`Avoids`).
-/
namespace BeanBuilder
namespace Java

/-! ## Questions about the tokens ahead -/

namespace Avoids

variable {words : List String} {ts : List Token} {text : String}

theorem mono {fewer : List String} (h : Avoids words ts) (hsub : fewer ⊆ words) :
    Avoids fewer ts :=
  fun t ht hmem => h t ht (hsub hmem)

theorem all_eq_false (h : Avoids words ts) (htext : text ∈ words) (tests : List TokenTest) :
    Ahead.all (.word text :: tests) ts = false := by
  cases ts with
  | nil => rfl
  | cons t more =>
    have hne : t.text ≠ text := h.ne htext t rfl
    simp [Ahead.all, TokenTest.holds, hne]

theorem word_eq_false (h : Avoids words ts) (htext : text ∈ words) :
    Ahead.word text ts = false :=
  h.all_eq_false htext []

theorem words_eq_false (h : Avoids words ts) (htext : text ∈ words) (more : List String) :
    Ahead.words (text :: more) ts = false :=
  h.all_eq_false htext _

theorem oneOf_eq_false {texts : List String} (h : Avoids words ts) (hsub : texts ⊆ words) :
    Ahead.oneOf texts ts = false := by
  cases ts with
  | nil => rfl
  | cons t more =>
    have hnot : t.text ∉ texts := fun hmem => h t rfl (hsub hmem)
    simp [Ahead.oneOf, hnot]

end Avoids

namespace Grammar

open Rule

/-! ## Rules -/

/-- A rule takes some tokens up to a rest. -/
def Takes (k : Nat) (r : JavaRule) (ts rest : List Token) : Prop :=
  ∀ n, k ≤ n → ∀ back, ∃ back', r.run (follow n) ⟨ts, back⟩ = .ok ⟨rest, back'⟩

namespace Takes

variable {k j : Nat} {r a b : JavaRule} {t : Token} {ts mid rest : List Token} {look : Ahead}

theorem mono (h : Takes k r ts rest) (hkj : k ≤ j) : Takes j r ts rest :=
  fun n hn => h n (hkj.trans hn)

theorem empty : Takes k .empty ts ts :=
  fun _ _ back => ⟨back, rfl⟩

theorem seq (ha : Takes k a ts mid) (hb : Takes k b mid rest) : Takes k (a ++ b) ts rest := by
  intro n hn back
  obtain ⟨back₁, h₁⟩ := ha n hn back
  obtain ⟨back₂, h₂⟩ := hb n hn back₁
  refine ⟨back₂, ?_⟩
  change (a.run (follow n) ⟨ts, back⟩).bind (b.run (follow n)) = _
  rw [h₁]
  exact h₂

theorem take {test : TokenTest} (h : test.holds t = true) : Takes k (.take test) (t :: ts) ts :=
  fun _ _ back => ⟨back, if_pos h⟩

theorem word {text : String} (h : t.text = text) : Takes k (.word text) (t :: ts) ts :=
  take (decide_eq_true h)

theorem identifier (h : t.kind = .identifier) : Takes k .identifier (t :: ts) ts :=
  take (decide_eq_true h)

theorem any : Takes k .any (t :: ts) ts :=
  fun _ _ back => ⟨back, rfl⟩

theorem yes (hlook : look ts = true) (h : Takes k a ts rest) : Takes k (.choose look a b) ts rest :=
  fun n hn back => (h n hn back).imp fun _ hrun => (if_pos hlook).trans hrun

theorem no (hlook : look ts = false) (h : Takes k b ts rest) : Takes k (.choose look a b) ts rest :=
  fun n hn back => (h n hn back).imp fun _ hrun =>
    (if_neg (by rw [hlook]; exact Bool.false_ne_true)).trans hrun

theorem call {p : Phrase} (h : Takes k (rule p) ts rest) : Takes (k + 1) (.call p) ts rest := by
  intro n hn back
  cases n with
  | zero => exact absurd hn (Nat.not_succ_le_zero k)
  | succ n => exact h n (Nat.le_of_succ_le_succ hn) back

theorem skip {read : List Token → Option (List Token)} (h : read ts = some rest) :
    Takes k (.skip read) ts rest := by
  intro n _ back
  refine ⟨back, ?_⟩
  change Course.behind ⟨ts, back⟩ (read ts) = _
  rw [h]
  rfl

theorem first (h : Takes k a ts rest) : Takes k (.orElse a b) ts rest := by
  intro n hn back
  obtain ⟨back', hrun⟩ := h n hn ts
  refine ⟨back', ?_⟩
  rw [run, Course.start, hrun]

/-- The second rule is tried where the first one is refused and reading begins again at its
start. -/
theorem second (hrefused : ∀ n, k ≤ n → a.run (follow n) (.start ts) = .error ts)
    (h : Takes k b ts rest) : Takes k (.orElse a b) ts rest := by
  intro n hn back
  obtain ⟨back', hrun⟩ := h n hn back
  refine ⟨back', ?_⟩
  rw [run, hrefused n hn]
  exact hrun

/-! ### Repetitions and choices among several rules -/

theorem loop_mono {read : Step} {c d : Course} {m n : Nat} (h : loop look read m c = .ok d)
    (hmn : m ≤ n) : loop look read n c = .ok d := by
  induction m generalizing c n with
  | zero => exact nomatch h
  | succ m ih =>
    obtain ⟨n, rfl⟩ := Nat.exists_eq_succ_of_ne_zero (Nat.ne_zero_of_lt hmn)
    rw [loop] at h ⊢
    split_ifs at h ⊢
    · cases hread : read c with
      | error again =>
        rw [hread] at h
        exact nomatch h
      | ok c' =>
        rw [hread] at h
        exact ih h (Nat.le_of_succ_le_succ hmn)
    · exact h

theorem repeated_nil (hlook : look ts = false) : Takes k (.repeated look r) ts ts :=
  fun _ _ back => ⟨back, if_neg (by rw [hlook]; exact Bool.false_ne_true)⟩

theorem repeated_cons (hlook : look ts = true) (h : Takes k r ts mid)
    (hshorter : mid.length < ts.length) (hmore : Takes k (.repeated look r) mid rest) :
    Takes k (.repeated look r) ts rest := by
  intro n hn back
  obtain ⟨back₁, h₁⟩ := h n hn back
  obtain ⟨back₂, h₂⟩ := hmore n hn back₁
  refine ⟨back₂, ?_⟩
  rw [run, loop, if_pos hlook, h₁]
  exact loop_mono h₂ hshorter

theorem ifAhead_no (hlook : look ts = false) : Takes k (.ifAhead look r) ts ts :=
  no hlook empty

theorem separated_one {separator : String} (h : Takes k r ts rest)
    (hend : Ahead.word separator rest = false) : Takes k (.separated separator r) ts rest :=
  h.seq (repeated_nil hend)

/-- The last rule applies where no question is answered with yes. -/
theorem otherwise {options : List (Ahead × JavaRule)}
    (hnone : (options.any fun o => o.1 ts) = false) (h : Takes k r ts rest) :
    Takes k (.firstOf options r) ts rest := by
  induction options with
  | nil => exact h
  | cons o options ih =>
    rw [List.any_cons, Bool.or_eq_false_iff] at hnone
    exact no hnone.1 (ih hnone.2)

/-- The rule at a place applies where no question before it is answered with yes. -/
theorem option {options : List (Ahead × JavaRule)} (i : Nat)
    (hi : options[i]? = some (look, a)) (hlook : look ts = true)
    (hnone : ((options.take i).any fun o => o.1 ts) = false) (h : Takes k a ts rest) :
    Takes k (.firstOf options r) ts rest := by
  induction options generalizing i with
  | nil => exact nomatch hi
  | cons o options ih =>
    cases i with
    | zero =>
      obtain rfl : o = (look, a) := Option.some.inj hi
      exact yes hlook h
    | succ i =>
      rw [List.take_succ_cons, List.any_cons, Bool.or_eq_false_iff] at hnone
      exact no hnone.1 (ih i hi hnone.2)

end Takes

/-- What a rule takes as an attempt of its own. -/
theorem after?_of_takes {k : Nat} {r : JavaRule} {ts rest : List Token} (h : Takes k r ts rest)
    (hk : k ≤ phraseCalls ts) : after? r ts = some rest := by
  obtain ⟨back, hrun⟩ := h _ hk ts
  rw [after?, course?, Course.start, hrun]
  rfl

end Grammar
end Java
end BeanBuilder
