import BeanBuilder.Text.Pieces

/-! # Cutting a text and joining its pieces

Cutting at a separator undoes joining with it, as long as no piece holds the separator
(`cutAt_append_cons`, `cutAt_of_not_mem`); the pieces together are the text without its separators
(`flatten_cutAt`), and joining them undoes the cutting (`joinStrings_cutString`).  What is put to
either end of a text goes to the piece that stands there (`cutAt_append_of_not_mem`,
`exists_cutAt_append`).  A text begins or finishes with its prefixes and suffixes (`beginsWith_iff`,
`finishesWith_iff`).
-/
namespace BeanBuilder
namespace Text

variable {sep : Char} {cs piece : List Char}

theorem cutAt_append_cons (h : sep ∉ cs) (rest : List Char) :
    cutAt sep (cs ++ sep :: rest) = cs :: cutAt sep rest := by
  induction cs with
  | nil => rw [List.nil_append, cutAt, if_pos rfl]
  | cons c cs ih =>
    rw [List.mem_cons, not_or] at h
    rw [List.cons_append, cutAt, if_neg (Ne.symm h.1), ih h.2]

theorem cutAt_of_not_mem (h : sep ∉ cs) : cutAt sep cs = [cs] := by
  induction cs with
  | nil => rfl
  | cons c cs ih =>
    rw [List.mem_cons, not_or] at h
    rw [cutAt, if_neg (Ne.symm h.1), ih h.2]

/-- The pieces one behind the other are the text without its separators. -/
theorem flatten_cutAt (sep : Char) (cs : List Char) :
    (cutAt sep cs).flatten = cs.filter (· ≠ sep) := by
  induction cs with
  | nil => rfl
  | cons c cs ih =>
    rw [cutAt]
    split
    · rename_i hc
      rw [List.flatten_cons, List.nil_append, ih, List.filter_cons_of_neg (by simp [hc])]
    · rename_i hc
      rw [List.filter_cons_of_pos (by simp [hc]), ← ih]
      cases hcut : cutAt sep cs with
      | nil => exact absurd hcut (cutAt_ne_nil sep cs)
      | cons first pieces => rfl

/-- The characters of a piece are characters of the text, other than the separator. -/
theorem mem_filter_of_mem_cutAt (h : piece ∈ cutAt sep cs) {c : Char} (hc : c ∈ piece) :
    c ∈ cs.filter (· ≠ sep) := by
  rw [← flatten_cutAt]
  exact List.mem_flatten_of_mem h hc

theorem not_mem_of_mem_cutAt (h : piece ∈ cutAt sep cs) : sep ∉ piece := fun hsep =>
  of_decide_eq_true (List.mem_filter.mp (mem_filter_of_mem_cutAt h hsep)).2 rfl

theorem subset_of_mem_cutAt (h : piece ∈ cutAt sep cs) : piece ⊆ cs := fun _ hc =>
  (List.mem_filter.mp (mem_filter_of_mem_cutAt h hc)).1

/-- Cutting at a separator in the middle of a text. -/
theorem cutAt_append_sep (sep : Char) (cs rest : List Char) :
    cutAt sep (cs ++ sep :: rest) = cutAt sep cs ++ cutAt sep rest := by
  induction cs with
  | nil => simp [cutAt]
  | cons c cs ih =>
    rw [List.cons_append, cutAt, cutAt, ih]
    split
    · rfl
    · cases hcut : cutAt sep cs with
      | nil => exact absurd hcut (cutAt_ne_nil sep cs)
      | cons first pieces => rfl

theorem joinStrings_cons {pieces : List String} (sep first : String) (h : pieces ≠ []) :
    joinStrings sep (first :: pieces) = first ++ sep ++ joinStrings sep pieces := by
  cases pieces with
  | nil => exact absurd rfl h
  | cons next rest => rfl

theorem cutString_ne_nil (sep : Char) (text : String) : cutString sep text ≠ [] :=
  mt List.map_eq_nil_iff.mp (cutAt_ne_nil sep text.toList)

theorem joinStrings_append {pieces more : List String} (sep : String) (h : pieces ≠ [])
    (hmore : more ≠ []) :
    joinStrings sep (pieces ++ more) = joinStrings sep pieces ++ sep ++ joinStrings sep more := by
  induction pieces with
  | nil => exact absurd rfl h
  | cons first rest ih =>
    cases rest with
    | nil => exact joinStrings_cons sep first hmore
    | cons next rest =>
      rw [List.cons_append, joinStrings_cons sep first (by simp), ih (List.cons_ne_nil next rest),
        joinStrings_cons sep first (List.cons_ne_nil next rest)]
      simp only [String.append_assoc]

/-- Joining the pieces of a text gives it back. -/
theorem joinStrings_cutString (sep : Char) (text : String) :
    joinStrings (String.singleton sep) (cutString sep text) = text := by
  have hjoin : ∀ cs : List Char,
      (joinStrings (String.singleton sep) ((cutAt sep cs).map String.ofList)).toList = cs := by
    intro cs
    induction cs with
    | nil => rfl
    | cons c rest ih =>
      rw [cutAt]
      split
      · rename_i hc
        rw [List.map_cons, joinStrings_cons _ _ (mt List.map_eq_nil_iff.mp (cutAt_ne_nil sep rest)),
          String.toList_append, ih]
        simp [hc]
      · cases hcut : cutAt sep rest with
        | nil => exact absurd hcut (cutAt_ne_nil sep rest)
        | cons piece pieces =>
          rw [hcut] at ih
          -- the character comes in front of the first piece, however many there are
          cases pieces <;> simpa [joinStrings] using ih
  rw [cutString, ← String.toList_inj, hjoin]

/-! ## Texts that are cut as one -/

/-- What stands in front without a separator goes to the first piece. -/
theorem cutAt_append_of_not_mem {ds : List Char} {pieces : List (List Char)} (h : sep ∉ cs)
    (hds : cutAt sep ds = piece :: pieces) : cutAt sep (cs ++ ds) = (cs ++ piece) :: pieces := by
  induction cs with
  | nil => exact hds
  | cons c cs ih =>
    rw [List.mem_cons, not_or] at h
    rw [List.cons_append, cutAt, if_neg (Ne.symm h.1), ih h.2]
    rfl

/-- What stands behind without a separator goes to the last piece. -/
theorem exists_cutAt_append {ds : List Char} (h : sep ∉ ds) (cs : List Char) :
    ∃ front last, cutAt sep cs = front ++ [last] ∧
      cutAt sep (cs ++ ds) = front ++ [last ++ ds] := by
  induction cs with
  | nil => exact ⟨[], [], rfl, cutAt_of_not_mem h⟩
  | cons c cs ih =>
    obtain ⟨front, last, hcut, happend⟩ := ih
    rw [List.cons_append, cutAt, cutAt, hcut, happend]
    split
    · exact ⟨[] :: front, last, rfl, rfl⟩
    · cases front with
      | nil => exact ⟨[], c :: last, rfl, rfl⟩
      | cons first front => exact ⟨(c :: first) :: front, last, rfl, rfl⟩

/-- A text begins with its first piece. -/
theorem prefix_of_cutAt {pieces : List (List Char)} (h : cutAt sep cs = piece :: pieces) :
    piece <+: cs := by
  induction cs generalizing piece pieces with
  | nil =>
    obtain ⟨rfl, -⟩ := List.cons.inj h
    exact List.nil_prefix
  | cons c cs ih =>
    rw [cutAt] at h
    split at h
    · obtain ⟨rfl, -⟩ := List.cons.inj h
      exact List.nil_prefix
    · split at h
      · exact absurd ‹_› (cutAt_ne_nil sep cs)
      · rename_i hcut
        obtain ⟨rfl, -⟩ := List.cons.inj h
        exact (List.prefix_cons_inj c).mpr (ih hcut)

/-- The pieces behind the first one begin behind separators. -/
theorem head?_ne_of_mem_tail_cutAt {c : Char} (h : ¬ [sep, c] <:+: cs)
    (hp : piece ∈ (cutAt sep cs).tail) : piece.head? ≠ some c := by
  induction cs with
  | nil => exact absurd hp List.not_mem_nil
  | cons d cs ih =>
    have hrest : ¬ [sep, c] <:+: cs := fun hinner =>
      h (hinner.trans (List.suffix_cons d cs).isInfix)
    rw [cutAt] at hp
    cases hcut : cutAt sep cs with
    | nil => exact absurd hcut (cutAt_ne_nil sep cs)
    | cons first pieces =>
      rw [hcut] at hp ih
      split at hp
      · rename_i hd
        rcases List.mem_cons.mp hp with rfl | hbehind
        · intro hhead
          obtain ⟨more, rfl⟩ := List.head?_eq_some_iff.mp hhead
          obtain ⟨behind, rfl⟩ := prefix_of_cutAt hcut
          exact h ⟨[], more ++ behind, by rw [hd]; rfl⟩
        · exact ih hrest hbehind
      · exact ih hrest hp

/-! ## The ends of a text -/

theorem afterStart?_eq_some_iff {start text rest : List Char} :
    afterStart? start text = some rest ↔ text = start ++ rest :=
  ⟨eq_append_of_afterStart?, fun h => h ▸ afterStart?_append start rest⟩

theorem beginsWith_iff {start text : List Char} :
    beginsWith start text = true ↔ start <+: text := by
  rw [beginsWith, Option.isSome_iff_exists]
  exact exists_congr fun rest => afterStart?_eq_some_iff.trans eq_comm

theorem finishesWith_iff {tail text : List Char} :
    finishesWith tail text = true ↔ tail <:+ text := by
  rw [finishesWith, beginsWith_iff, List.reverse_prefix]

end Text
end BeanBuilder
