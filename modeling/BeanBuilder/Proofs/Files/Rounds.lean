import BeanBuilder.Proofs.Files.Layout
import BeanBuilder.Proofs.Outcomes

/-! # Rounds whose builders are stored in files

Where the destination of a round is a store, the files after the round are those after the writes
that it asks for, and the builders that it counts as generated are those that were stored
(`process_destination`).  Builders of beans with different names have files of their own, so each
builder that was generated is in its file at the end, too (`accounted_process`).
-/
namespace BeanBuilder

open Files

namespace RoundRules

variable {rules : RoundRules} {b : Bean} {beans : List Bean} {s : Store}
  {trouble : String → Trouble} {t : Tree} {request : Store.Request}

/-! ## Writes of a round -/

/-- What a round asks a store to write for a bean, if anything. -/
def request? (rules : RoundRules) (trouble : String → Trouble) (b : Bean) :
    Option Store.Request :=
  if (b.objections rules.strict rules.requireConstructor).isEmpty then
    match rules.style.generate? rules.containers b with
    | .ok source => some ⟨source.qualifiedName, source.text, trouble source.qualifiedName⟩
    | .error _ => none
  else none

theorem exists_source_of_request? (h : rules.request? trouble b = some request) :
    ∃ source, rules.style.generate? rules.containers b = .ok source ∧
      request.qualifiedName = source.qualifiedName ∧ request.text = source.text := by
  unfold request? at h
  split at h
  · split at h
    · rename_i source hmade
      obtain rfl := Option.some.inj h
      exact ⟨source, hmade, rfl, rfl⟩
    · cases h
  · cases h

/-- The writes that a round asks for are those of its beans. -/
theorem exists_bean_of_mem_filterMap (h : request ∈ beans.filterMap (rules.request? trouble)) :
    ∃ b ∈ beans, ∃ source, rules.style.generate? rules.containers b = .ok source ∧
      request.qualifiedName = source.qualifiedName ∧ request.text = source.text := by
  obtain ⟨b, hb, hasked⟩ := List.mem_filterMap.mp h
  exact ⟨b, hb, exists_source_of_request? hasked⟩

/-- A bean without a request leaves the files as they are. -/
theorem processOne_of_none (h : rules.request? trouble b = none) :
    (rules.processOne (s.destination trouble) b t).1.generated = [] ∧
      (rules.processOne (s.destination trouble) b t).2 = t := by
  unfold request? at h
  simp only [processOne]
  split at h
  · rename_i hnone
    rw [if_pos hnone]
    split at h
    · cases h
    · rename_i hmade
      rw [hmade]
      exact ⟨rfl, rfl⟩
  · rename_i hobjections
    rw [if_neg hobjections]
    exact ⟨rfl, rfl⟩

/-- For a bean with a request the work is the write that it asks for. -/
theorem processOne_of_some (h : rules.request? trouble b = some request) :
    (rules.processOne (s.destination trouble) b t).1.generated =
        (s.stored t [request]).map Store.Request.qualifiedName ∧
      (rules.processOne (s.destination trouble) b t).2 = s.after t request := by
  unfold request? at h
  simp only [processOne]
  split at h
  · rename_i hnone
    rw [if_pos hnone]
    split at h
    · rename_i source hmade
      obtain rfl := Option.some.inj h
      rw [hmade]
      simp only [Store.stored, Store.answer, Store.after, Store.destination]
      split <;> rename_i hwrite <;> rw [hwrite] <;> exact ⟨rfl, rfl⟩
    · cases h
  · cases h

/-- **A round into a store** writes what it asks for, and counts what was stored. -/
theorem process_destination (rules : RoundRules) (s : Store) (trouble : String → Trouble)
    (beans : List Bean) (t : Tree) :
    (roundOf beans (rules.process (s.destination trouble) beans t).1).generated =
        (s.stored t (beans.filterMap (rules.request? trouble))).map Store.Request.qualifiedName ∧
      (rules.process (s.destination trouble) beans t).2 =
        s.afterAll t (beans.filterMap (rules.request? trouble)) := by
  induction beans generalizing t with
  | nil => exact ⟨rfl, rfl⟩
  | cons b rest ih =>
    simp only [process, roundOf, Round.merge, Outcome.round]
    cases h : rules.request? trouble b with
    | none =>
      obtain ⟨hgenerated, hafter⟩ := processOne_of_none (s := s) (t := t) h
      rw [List.filterMap_cons_none h, hgenerated, hafter, List.nil_append]
      exact ih t
    | some request =>
      obtain ⟨hgenerated, hafter⟩ := processOne_of_some (s := s) (t := t) h
      obtain ⟨hrest, hlast⟩ := ih (s.after t request)
      rw [List.filterMap_cons_some h, hgenerated, hafter, hrest, hlast, ← List.map_append,
        ← Store.stored_cons, Store.afterAll_cons]
      exact ⟨rfl, rfl⟩

/-! ## Files after a round -/

/-- What a round tells of a bean, and its builder in its file if the round counts it. -/
structure Accounted (rules : RoundRules) (s : Store) (t : Tree) (r : Round) (b : Bean) : Prop where
  told : rules.Told r b
  held : ∀ source, rules.style.generate? rules.containers b = .ok source →
    source.qualifiedName ∈ r.generated →
      ∃ place, t.place? (s.pathFor source.qualifiedName) = .ok place ∧
        t.fileAt? place = some source.text.toUTF8

/-- **After a round into a store every bean is accounted for**, whichever steps of each write are
refused: something was reported of it, or its builder is counted once and is in its file. -/
theorem accounted_process (h : s.StaysBelow rules.style.builderSuffix)
    (hn : (beans.map Bean.qualifiedName).Nodup)
    (hq : ∀ b ∈ beans, Store.IsQualified b.qualifiedName) (trouble : String → Trouble)
    (t : Tree) :
    ∀ b ∈ beans, rules.Accounted s (rules.process (s.destination trouble) beans t).2
      (roundOf beans (rules.process (s.destination trouble) beans t).1) b := by
  intro b hb
  have hconcludes := rules.concludes_process (s.destination trouble) beans t
  refine ⟨told_roundOf hconcludes hn b hb, fun source hmade hmem => ?_⟩
  obtain ⟨hgenerated, hafter⟩ := rules.process_destination s trouble beans t
  have hbuilders := nodup_generated_roundOf hconcludes hn
  rw [hgenerated] at hbuilders
  have hsuffix : ∀ request ∈ beans.filterMap (rules.request? trouble),
      Store.HasSuffix rules.style.builderSuffix request.qualifiedName := by
    intro request hrequest
    obtain ⟨b, hb, source, hmade, hname, -⟩ := exists_bean_of_mem_filterMap hrequest
    exact ⟨b.qualifiedName, hq b hb, hname.trans (BuilderStyle.qualifiedName_generate? hmade)⟩
  have hapart := h.apart_afterAll t hsuffix
  have hholds := Store.holds_afterAll s.holds_empty (List.nil_subset _) (List.Subset.refl _) hapart
  rw [hgenerated] at hmem
  obtain ⟨request, hstored, hname⟩ := List.mem_map.mp hmem
  -- the text was written for this bean, as no other one has the name
  obtain ⟨b', hb', source', hmade', hname', htext⟩ :=
    exists_bean_of_mem_filterMap (Store.mem_of_mem_stored hstored)
  have hsame : b'.qualifiedName = b.qualifiedName := by
    rw [hname', BuilderStyle.qualifiedName_generate? hmade',
      BuilderStyle.qualifiedName_generate? hmade] at hname
    exact (String.append_left_inj _).mp hname
  obtain rfl := List.inj_on_of_nodup_map hn hb' hb hsame
  obtain rfl := Except.ok.inj (hmade'.symm.trans hmade)
  rw [hafter, ← hname', ← htext]
  exact hholds _ _ (Store.get?_remembered hbuilders hstored)

end RoundRules
end BeanBuilder
