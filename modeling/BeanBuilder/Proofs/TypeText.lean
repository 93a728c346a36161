import Mathlib.Data.List.Basic
import Mathlib.Data.List.TakeWhile
import BeanBuilder.TypeText

/-! # Cutting written types at their outer commas

The cutting counts angle brackets.  A text that closes every bracket which it opens, and has no
comma outside them, is passed over in one piece (`Passes`): it stays together with what follows it.
Texts one after another are passed over if each of them is, and brackets around a text that is
passed over one level deeper are passed over as well, so nesting needs no account of its own.

Arguments that are passed over and have no blank at either end are therefore found again in the
list that is written of them (`arguments_of_argumentList`).
-/
namespace BeanBuilder

/-! ## Blanks at the ends -/

namespace Text

variable {v w : List Char}

/-- A text that is not empty and neither begins nor ends with a blank. -/
structure Tight (w : List Char) : Prop where
  ne_nil : w ≠ []
  head : ∀ c ∈ w.head?, isBlank c = false
  last : ∀ c ∈ w.getLast?, isBlank c = false

theorem Tight.of_forall (hne : w ≠ []) (h : ∀ c ∈ w, isBlank c = false) : Tight w where
  ne_nil := hne
  head c hc := h c (List.mem_of_mem_head? hc)
  last c hc := h c (List.mem_of_mem_getLast? hc)

theorem Tight.append (hv : Tight v) (hw : Tight w) : Tight (v ++ w) where
  ne_nil h := hv.ne_nil (List.append_eq_nil_iff.mp h).1
  head c hc := hv.head c (by rwa [List.head?_append_of_ne_nil v hv.ne_nil] at hc)
  last c hc := hw.last c (by rwa [List.getLast?_append_of_ne_nil v hw.ne_nil] at hc)

/-- A text stays tight when nothing or a tight text is put behind it. -/
theorem Tight.append_of (hv : Tight v) (hw : w = [] ∨ Tight w) : Tight (v ++ w) := by
  rcases hw with rfl | hw
  · rwa [List.append_nil]
  · exact hv.append hw

/-- Between two signs that are no blanks there may be anything. -/
theorem Tight.between {c d : Char} (hc : isBlank c = false) (hd : isBlank d = false)
    (w : List Char) : Tight (c :: (w ++ [d])) where
  ne_nil := List.cons_ne_nil _ _
  head a ha := (Option.some.inj ha) ▸ hc
  last a ha := by
    rw [← List.cons_append, List.getLast?_concat] at ha
    exact (Option.some.inj ha) ▸ hd

/-- In front of a tight text there may be anything that begins with no blank. -/
theorem Tight.cons_append {c : Char} (hc : isBlank c = false) (v : List Char) (hw : Tight w) :
    Tight (c :: v ++ w) where
  ne_nil := List.cons_ne_nil _ _
  head a ha := (Option.some.inj ha) ▸ hc
  last a ha := by
    rw [List.getLast?_append_of_ne_nil _ hw.ne_nil] at ha
    exact hw.last a ha

theorem Tight.trimStart_eq (hw : Tight w) : trimStart w = w := by
  cases w with
  | nil => rfl
  | cons c rest =>
    have hc := hw.head c rfl
    rw [trimStart, List.dropWhile_cons, hc]
    rfl

theorem Tight.trimEnd_eq (hw : Tight w) : trimEnd w = w := by
  have hreverse : Tight w.reverse :=
    ⟨by simpa using hw.ne_nil, by simpa using hw.last, by simpa using hw.head⟩
  have hdrop := hreverse.trimStart_eq
  rw [trimStart] at hdrop
  rw [trimEnd, hdrop, List.reverse_reverse]

theorem Tight.trim_eq (hw : Tight w) : trim w = w := by
  rw [trim, hw.trimStart_eq, hw.trimEnd_eq]

theorem Tight.trim_cons_blank (hw : Tight w) {b : Char} (hb : isBlank b = true) :
    trim (b :: w) = w := by
  have hstart : trimStart (b :: w) = trimStart w := by
    rw [trimStart, List.dropWhile_cons_of_pos hb, trimStart]
  rw [trim, hstart, hw.trimStart_eq, hw.trimEnd_eq]

end Text

namespace TypeText

variable {depth : Int} {c : Char} {v w rest : List Char}

/-! ## Passing over a text -/

/-- Pieces with a text in front of the first one. -/
def headOnto (w : List Char) : List (List Char) → List (List Char)
  | [] => [w]
  | piece :: pieces => (w ++ piece) :: pieces

theorem headOnto_append (v w : List Char) (pieces : List (List Char)) :
    headOnto (v ++ w) pieces = headOnto v (headOnto w pieces) := by
  cases pieces <;> simp [headOnto]

theorem topPieces_ne_nil (depth : Int) (cs : List Char) : topPieces depth cs ≠ [] := by
  cases cs with
  | nil => simp [topPieces]
  | cons c rest =>
    rw [topPieces]
    split
    · simp
    · split <;> simp

theorem topPieces_cons (h : ¬ (c = ',' ∧ depthAfter depth c = 0)) :
    topPieces depth (c :: rest) = headOnto [c] (topPieces (depthAfter depth c) rest) := by
  rw [topPieces, if_neg h]
  cases topPieces (depthAfter depth c) rest <;> rfl

theorem topPieces_zero_comma (rest : List Char) :
    topPieces 0 (',' :: rest) = [] :: topPieces 0 rest := rfl

/-- At a depth, a text stays in one piece with what follows it, and the depth behind it is the
same. -/
def Passes (depth : Int) (w : List Char) : Prop :=
  ∀ rest, topPieces depth (w ++ rest) = headOnto w (topPieces depth rest)

theorem Passes.nil (depth : Int) : Passes depth [] := by
  intro rest
  obtain ⟨piece, pieces, h⟩ := List.exists_cons_of_ne_nil (topPieces_ne_nil depth rest)
  rw [List.nil_append, h]
  rfl

theorem Passes.append (hv : Passes depth v) (hw : Passes depth w) : Passes depth (v ++ w) := by
  intro rest
  rw [List.append_assoc, hv, hw, headOnto_append]

/-- Any character but a bracket is passed over, a comma only inside brackets. -/
theorem Passes.singleton (hopen : c ≠ '<') (hclose : c ≠ '>') (hcomma : c = ',' → depth ≠ 0) :
    Passes depth [c] := by
  intro rest
  have hd : depthAfter depth c = depth := by rw [depthAfter, if_neg hopen, if_neg hclose]
  rw [List.singleton_append, topPieces_cons, hd]
  rw [hd]
  exact fun h => hcomma h.1 h.2

/-- A text without brackets and commas is passed over. -/
theorem Passes.of_forall (h : ∀ c ∈ w, c ≠ '<' ∧ c ≠ '>' ∧ c ≠ ',') : Passes depth w := by
  induction w with
  | nil => exact Passes.nil depth
  | cons c rest ih =>
    obtain ⟨hopen, hclose, hcomma⟩ := h c List.mem_cons_self
    exact (Passes.singleton hopen hclose fun hc => absurd hc hcomma).append
      (ih fun d hd => h d (List.mem_cons_of_mem _ hd))

/-- The same, checked character by character. -/
theorem Passes.of_all (h : (w.all fun c => c != '<' && c != '>' && c != ',') = true) :
    Passes depth w := by
  refine Passes.of_forall fun c hc => ?_
  have hsigns := List.all_eq_true.mp h c hc
  simpa [and_assoc] using hsigns

/-- Brackets are passed over together with what they hold. -/
theorem Passes.brackets (hw : Passes (depth + 1) w) : Passes depth ('<' :: (w ++ ['>'])) := by
  intro rest
  have hopen : depthAfter depth '<' = depth + 1 := rfl
  have hclose : depthAfter (depth + 1) '>' = depth := by
    rw [depthAfter, if_neg (by decide), if_pos rfl]
    omega
  rw [List.cons_append, topPieces_cons fun h => absurd h.1 (by decide), hopen, List.append_assoc,
    hw, List.singleton_append, topPieces_cons fun h => absurd h.1 (by decide), hclose,
    ← headOnto_append, ← headOnto_append]
  rfl

/-! ## Lists of arguments -/

/-- Texts behind one another, each after a comma and a blank. -/
def furtherList : List (List Char) → List Char
  | [] => []
  | w :: ws => ',' :: ' ' :: (w ++ furtherList ws)

/-- Inside brackets further arguments are passed over with their commas. -/
theorem Passes.furtherList {ws : List (List Char)} (hd : depth ≠ 0)
    (hws : ∀ v ∈ ws, Passes depth v) : Passes depth (furtherList ws) := by
  induction ws with
  | nil => exact Passes.nil depth
  | cons v vs ih =>
    have hcomma : Passes depth [','] := Passes.singleton (by decide) (by decide) fun _ => hd
    have hblank : Passes depth [' '] := Passes.of_all rfl
    exact hcomma.append (hblank.append ((hws v List.mem_cons_self).append
      (ih fun u hu => hws u (List.mem_cons_of_mem _ hu))))

/-- The pieces of a list of arguments: every one but the first has the blank in front that was
written behind the comma. -/
theorem topPieces_furtherList {ws : List (List Char)} (hw : Passes 0 w)
    (hws : ∀ v ∈ ws, Passes 0 v) :
    topPieces 0 (w ++ furtherList ws) = w :: ws.map (' ' :: ·) := by
  induction ws generalizing w with
  | nil =>
    rw [furtherList, hw]
    exact congrArg (fun v => [v]) (List.append_nil w)
  | cons v vs ih =>
    have hblank : Passes 0 [' '] := Passes.of_all rfl
    have hrest := ih (w := ' ' :: v) (hblank.append (hws v List.mem_cons_self))
      fun u hu => hws u (List.mem_cons_of_mem _ hu)
    rw [List.cons_append] at hrest
    rw [furtherList, hw, topPieces_zero_comma, hrest, headOnto, List.append_nil, List.map_cons]

/-- Trimming pieces keeps all of them, if the last one is not blank. -/
theorem trimmedPieces_eq_map {pieces : List (List Char)}
    (h : ∀ piece ∈ pieces.getLast?, Text.trim piece ≠ []) :
    trimmedPieces pieces = pieces.map Text.trim := by
  induction pieces with
  | nil => rfl
  | cons piece rest ih =>
    cases rest with
    | nil => rw [trimmedPieces, if_neg (h piece rfl), List.map_singleton]
    | cons next more =>
      have hrest := ih fun last hlast => h last (by rwa [List.getLast?_cons_cons])
      rw [trimmedPieces, hrest]
      · rfl
      · exact List.cons_ne_nil _ _

theorem trimmedPieces_furtherList {ws : List (List Char)} (hw : Passes 0 w)
    (ht : Text.Tight w) (hws : ∀ v ∈ ws, Passes 0 v ∧ Text.Tight v) :
    trimmedPieces (topPieces 0 (w ++ furtherList ws)) = w :: ws := by
  have htrim : ∀ v ∈ ws, Text.trim (' ' :: v) = v := fun v hv => (hws v hv).2.trim_cons_blank rfl
  have hne : ∀ piece ∈ w :: ws.map (' ' :: ·), Text.trim piece ≠ [] := by
    intro piece hpiece
    rcases List.mem_cons.mp hpiece with rfl | hmem
    · rw [ht.trim_eq]
      exact ht.ne_nil
    · obtain ⟨v, hv, rfl⟩ := List.mem_map.mp hmem
      rw [htrim v hv]
      exact (hws v hv).2.ne_nil
  rw [topPieces_furtherList hw fun v hv => (hws v hv).1,
    trimmedPieces_eq_map fun piece hp => hne piece (List.mem_of_mem_getLast? hp),
    List.map_cons, ht.trim_eq, List.map_map]
  exact congrArg (w :: ·) ((List.map_congr_left htrim).trans (List.map_id ws))

/-! ## A name with a list of arguments -/

variable {name : List Char}

theorem beforeBracket_append_bracket (hname : ∀ c ∈ name, c ≠ '<') (rest : List Char) :
    beforeBracket (name ++ '<' :: rest) = name := by
  rw [beforeBracket, List.takeWhile_append_of_pos (by simpa using hname),
    List.takeWhile_cons_of_neg (by decide), List.append_nil]

theorem beforeBracket_of_forall (hname : ∀ c ∈ name, c ≠ '<') : beforeBracket name = name :=
  List.takeWhile_eq_self_iff.mpr (by simpa using hname)

theorem bracketed?_append_bracket (hname : ∀ c ∈ name, c ≠ '<') (w : List Char) :
    bracketed? (name ++ '<' :: (w ++ ['>'])) = some w := by
  have hdrop : (name ++ '<' :: (w ++ ['>'])).dropWhile (· ≠ '<') = '<' :: (w ++ ['>']) := by
    rw [List.dropWhile_append_of_pos (by simpa using hname), List.dropWhile_cons_of_neg (by decide)]
  rw [bracketed?, hdrop]
  simp only [List.reverse_append, List.reverse_cons, List.reverse_nil, List.nil_append,
    List.singleton_append]
  rw [List.dropWhile_cons_of_neg (by decide)]
  exact congrArg some (List.reverse_reverse w)

theorem bracketed?_of_forall (hname : ∀ c ∈ name, c ≠ '<') : bracketed? name = none := by
  have hdrop : name.dropWhile (· ≠ '<') = [] :=
    List.dropWhile_eq_nil_iff.mpr (by simpa using hname)
  rw [bracketed?, hdrop]

/-- **Arguments are found again** in a name with a list of them in brackets. -/
theorem arguments_of_argumentList {type : String} {ws : List (List Char)}
    (hname : ∀ c ∈ name, c ≠ '<') (hw : Passes 0 w) (ht : Text.Tight w)
    (hws : ∀ v ∈ ws, Passes 0 v ∧ Text.Tight v)
    (htype : type.toList = name ++ '<' :: (w ++ furtherList ws ++ ['>'])) :
    arguments type = (w :: ws).map String.ofList := by
  rw [arguments, htype, bracketed?_append_bracket hname]
  simp only [trimmedPieces_furtherList hw ht hws]

/-! ## The type of an element -/

/-- What a wildcard with a lower bound accepts. -/
theorem lowerBound?_super (hw : Text.Tight w) :
    lowerBound? (" super ".toList ++ w) = some (String.ofList w) := by
  have htrim : Text.trim (" super ".toList ++ w) = ['s', 'u', 'p', 'e', 'r', ' '] ++ w :=
    Text.Tight.trim_cons_blank (hw.cons_append (by decide) ['u', 'p', 'e', 'r', ' ']) rfl
  rw [lowerBound?, htrim, Text.afterStart?_append]
  simp only [hw.trim_eq, if_neg hw.ne_nil]

/-- A wildcard with an upper bound accepts nothing. -/
theorem lowerBound?_extends (hw : Text.Tight w) :
    lowerBound? (" extends ".toList ++ w) = none := by
  have htrim : Text.trim (" extends ".toList ++ w) = "extends ".toList ++ w :=
    Text.Tight.trim_cons_blank (hw.cons_append (by decide) "xtends ".toList) rfl
  rw [lowerBound?, htrim]
  rfl

/-- The only argument is the type of an element, if it is no wildcard. -/
theorem element?_of_exact {type argument : String} (h : arguments type = [argument])
    (hmark : ∀ c ∈ argument.toList.head?, c ≠ '?') : element? type = some argument := by
  rw [element?, h]
  simp only
  split
  · rename_i hlist
    rw [hlist] at hmark
    exact absurd rfl (hmark '?' rfl)
  · rfl

/-- Of a wildcard it is what the wildcard accepts. -/
theorem element?_of_wildcard {type argument : String} (h : arguments type = [argument])
    (hmark : argument.toList = '?' :: w) : element? type = lowerBound? w := by
  rw [element?, h]
  simp only [hmark]

end TypeText
end BeanBuilder
