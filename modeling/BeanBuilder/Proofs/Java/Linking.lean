import BeanBuilder.Proofs.Java.Catalogs

/-! # When superclasses are linked

A class gets what the name of its superclass means at the first link after the class was read, and
never anything else (`standing`).  Classes that are read later do not count for it, and a class that
is declared again later stays the superclass of those that were linked to it.

Linking once at the end gives the class what the name means at the end; the two agree exactly when
the name means the same at both times (`parent?_linkedAlong_eq_iff`).
-/
namespace BeanBuilder
namespace Java
namespace Catalog

variable {i : Nat} {k : ReadClass}

/-! ## Runs -/

/-- The classes that requests read, in their order.  A class stands in store at its place here. -/
def classesRead (requests : List Request) : List ReadClass :=
  requests.flatMap Request.classes

theorem classesRead_concat (requests : List Request) (r : Request) :
    classesRead (requests ++ [r]) = classesRead requests ++ r.classes := by
  rw [classesRead, List.flatMap_append, List.flatMap_singleton]
  rfl

/-- Requests leave the classes that they read, whenever they link. -/
theorem sameClasses_afterAll (requests : List Request) :
    (({} : Catalog).afterAll requests).SameClasses
      (({} : Catalog).addAll (classesRead requests)) := by
  induction requests using List.reverseRecOn with
  | nil => exact .refl _
  | append_singleton requests r ih =>
    rw [afterAll_concat, classesRead_concat, addAll_append]
    cases r with
    | parse source =>
      rw [after_parse]
      exact ih.addAll _
    | link => exact (sameClasses_link _).trans ih

theorem length_stored_afterAll (requests : List Request) :
    (({} : Catalog).afterAll requests).stored.length = (classesRead requests).length := by
  rw [(sameClasses_afterAll requests).length_stored, length_stored_addAll]
  exact Nat.zero_add _

/-- What became of the class at a place, by the superclass that it names: it names none, or it
waits for it, or it got at some link what the name meant then. -/
inductive Standing (requests : List Request) (i : Nat) : Option String → Prop
  | alone (hpending : (({} : Catalog).afterAll requests).pending.lookup i = none)
      (hparent : (({} : Catalog).afterAll requests).hierarchy.parent? i = none) :
      Standing requests i none
  | waiting {name : String}
      (hpending : (({} : Catalog).afterAll requests).pending.lookup i = some name)
      (hparent : (({} : Catalog).afterAll requests).hierarchy.parent? i = none) :
      Standing requests i (some name)
  | linked {name : String} {before behind : List Request}
      (hsplit : requests = before ++ .link :: behind)
      (hbefore : (({} : Catalog).afterAll before).pending.lookup i = some name)
      (hpending : (({} : Catalog).afterAll requests).pending.lookup i = none)
      (hparent : (({} : Catalog).afterAll requests).hierarchy.parent? i =
        (({} : Catalog).afterAll before).superclass? i name) :
      Standing requests i (some name)

theorem Standing.parse {requests : List Request} {superclass : Option String}
    (h : Standing requests i superclass) (hi : i < (classesRead requests).length)
    (source : String) : Standing (requests ++ [.parse source]) i superclass := by
  have hparent : (({} : Catalog).afterAll (requests ++ [.parse source])).hierarchy.parent? i =
      (({} : Catalog).afterAll requests).hierarchy.parent? i := by
    rw [afterAll_concat, after_parse, parent?_addAll]
  have hpending : (({} : Catalog).afterAll (requests ++ [.parse source])).pending.lookup i =
      (({} : Catalog).afterAll requests).pending.lookup i := by
    rw [afterAll_concat, after_parse, (wellFormed_afterAll requests).lookup_pending_addAll,
      length_stored_afterAll, if_pos hi]
  cases h with
  | alone hp hs => exact .alone (hpending.trans hp) (hparent.trans hs)
  | waiting hp hs => exact .waiting (hpending.trans hp) (hparent.trans hs)
  | @linked name before behind hsplit hbefore hp hs =>
    have hsplit' : requests ++ [.parse source] =
        before ++ .link :: (behind ++ [.parse source]) := by
      rw [hsplit, List.append_assoc, List.cons_append]
    exact .linked hsplit' hbefore (hpending.trans hp) (hparent.trans hs)

theorem Standing.link {requests : List Request} {superclass : Option String}
    (h : Standing requests i superclass) : Standing (requests ++ [.link]) i superclass := by
  have hparent : (({} : Catalog).afterAll (requests ++ [.link])).hierarchy.parent? i =
      (((({} : Catalog).afterAll requests).pending.lookup i).bind
        ((({} : Catalog).afterAll requests).superclass? i)).or
          ((({} : Catalog).afterAll requests).hierarchy.parent? i) := by
    rw [afterAll_concat]
    exact parent?_link (wellFormed_afterAll requests) i
  have hpending : (({} : Catalog).afterAll (requests ++ [.link])).pending.lookup i = none := by
    rw [afterAll_concat]
    rfl
  cases h with
  | alone hp hs =>
    rw [hp, hs] at hparent
    exact .alone hpending hparent
  | waiting hp hs =>
    rw [hp, hs, Option.or_none] at hparent
    exact .linked rfl hp hpending hparent
  | @linked name before behind hsplit hbefore hp hs =>
    rw [hp] at hparent
    have hsplit' : requests ++ [.link] = before ++ .link :: (behind ++ [.link]) := by
      rw [hsplit, List.append_assoc, List.cons_append]
    exact .linked hsplit' hbefore hpending (hparent.trans hs)

/-- Every class that was read names no superclass, waits for it, or got it at one of the links. -/
theorem standing {requests : List Request} (hk : (classesRead requests)[i]? = some k) :
    Standing requests i k.superclass := by
  induction requests using List.reverseRecOn with
  | nil => cases hk
  | append_singleton requests r ih =>
    rw [classesRead_concat] at hk
    cases r with
    | link => exact (ih (by simpa [Request.classes] using hk)).link
    | parse source =>
      by_cases hi : i < (classesRead requests).length
      · rw [List.getElem?_append_left hi] at hk
        exact (ih hk).parse hi source
      · -- the class is one of the text that is read last
        have hnew : (({} : Catalog).afterAll (requests ++ [.parse source])).pending.lookup i =
            k.superclass := by
          rw [afterAll_concat, after_parse, (wellFormed_afterAll requests).lookup_pending_addAll,
            length_stored_afterAll, if_neg hi]
          rw [List.getElem?_append_right (by omega)] at hk
          exact congrArg (Option.bind · ReadClass.superclass) hk
        have hparent :
            (({} : Catalog).afterAll (requests ++ [.parse source])).hierarchy.parent? i = none := by
          have hout : (({} : Catalog).afterAll requests).stored[i]? = none := by
            rw [List.getElem?_eq_none_iff, length_stored_afterAll]
            omega
          rw [afterAll_concat, after_parse, parent?_addAll, Hierarchy.parent?, Hierarchy.get?,
            hierarchy, hout]
          rfl
        cases hs : k.superclass with
        | none => exact .alone (hnew.trans hs) hparent
        | some name => exact .waiting (hnew.trans hs) hparent

/-- The catalog behind requests and a link at the end. -/
def linkedAlong (requests : List Request) : Catalog :=
  ({} : Catalog).afterAll (requests ++ [.link])

/-- The catalog behind the same texts and a single link at the end. -/
def linkedOnce (requests : List Request) : Catalog :=
  ({} : Catalog).afterAll (requests.filter (· ≠ .link) ++ [.link])

/-- Without links among the requests, every class that names a superclass waits for it. -/
theorem afterAll_filter (requests : List Request) :
    ({} : Catalog).afterAll (requests.filter (· ≠ .link)) =
      ({} : Catalog).addAll (classesRead requests) := by
  induction requests using List.reverseRecOn with
  | nil => rfl
  | append_singleton requests r ih =>
    rw [classesRead_concat, addAll_append, ← ih, List.filter_append]
    cases r with
    | parse source => exact (afterAll_concat {} _ _).trans (after_parse _ source)
    | link =>
      change ({} : Catalog).afterAll (requests.filter (· ≠ .link) ++ []) = _
      rw [List.append_nil]
      rfl

theorem linkedOnce_eq (requests : List Request) :
    linkedOnce requests = (({} : Catalog).addAll (classesRead requests)).link := by
  rw [linkedOnce, afterAll_concat, afterAll_filter]
  rfl

theorem sameClasses_linkedAlong (requests : List Request) :
    (linkedAlong requests).SameClasses (linkedOnce requests) := by
  rw [linkedAlong, afterAll_concat, linkedOnce_eq]
  exact (sameClasses_link _).trans
    ((sameClasses_afterAll requests).trans (sameClasses_link _).symm)

/-- **Links among the requests and a single link at the end.**  Both list the same classes at the
same places.  The single link attaches listed classes only, and gives a class what the name of its
superclass means when everything is read.  With links among the requests a class gets what the name
means at the first link behind the text of the class.  So the class ends with the superclass that
the single link gives it exactly if the name means the same at that link as at the end. -/
theorem parent?_linkedAlong_eq_iff (requests : List Request) :
    (linkedAlong requests).listed = (linkedOnce requests).listed ∧
    (∀ id parent, (linkedOnce requests).hierarchy.parent? id = some parent →
      parent ∈ (linkedOnce requests).ids) ∧
    ∀ id k, (classesRead requests)[id]? = some k →
      (k.superclass = none →
        (linkedAlong requests).hierarchy.parent? id = none ∧
        (linkedOnce requests).hierarchy.parent? id = none) ∧
      ∀ name, k.superclass = some name →
        ∃ before behind, requests ++ [.link] = before ++ .link :: behind ∧
          (({} : Catalog).afterAll before).pending.lookup id = some name ∧
          (linkedAlong requests).hierarchy.parent? id =
            (({} : Catalog).afterAll before).superclass? id name ∧
          (linkedOnce requests).hierarchy.parent? id =
            (({} : Catalog).afterAll requests).superclass? id name ∧
          ((linkedAlong requests).hierarchy.parent? id =
              (linkedOnce requests).hierarchy.parent? id ↔
            (({} : Catalog).afterAll before).superclass? id name =
              (({} : Catalog).afterAll requests).superclass? id name) := by
  have hread := sameClasses_afterAll requests
  refine ⟨(sameClasses_linkedAlong requests).listed, ?_, ?_⟩
  · intro id parent hparent
    rw [linkedOnce_eq, parent?_link_addAll] at hparent
    obtain ⟨name, -, hname⟩ := Option.bind_eq_some_iff.mp hparent
    have hmem := mem_ids_of_superclass? hname
    rwa [linkedOnce_eq, ids, (sameClasses_link _).listed]
  · intro id k hk
    have honce : (linkedOnce requests).hierarchy.parent? id =
        k.superclass.bind ((({} : Catalog).afterAll requests).superclass? id) := by
      rw [linkedOnce_eq, parent?_link_addAll, hk, Option.bind_some]
      exact congrArg k.superclass.bind (funext fun name => (hread.superclass?_eq id name).symm)
    have hlast := (standing hk).link
    constructor
    · intro hnone
      rw [hnone] at hlast honce
      cases hlast with
      | alone _ hparent => exact ⟨hparent, honce⟩
    · intro name hname
      rw [hname] at hlast honce
      rw [Option.bind_some] at honce
      cases hlast with
      | waiting hpending _ =>
        -- behind a link no class waits
        rw [afterAll_concat] at hpending
        cases hpending
      | @linked _ before behind hsplit hbefore _ hparent =>
        exact ⟨before, behind, hsplit, hbefore, hparent, honce, by rw [linkedAlong, hparent, honce]⟩

/-- A class is read and linked before its superclass is read. -/
def lateSuperclass : List Request :=
  [.parse "class B extends A { }", .link, .parse "class A { }"]

/-- The class that waits is linked by the first link, when its superclass is not yet read. -/
theorem parent?_linkedAlong_eq_iff_lateSuperclass :
    ∃ before behind, lateSuperclass ++ [.link] = before ++ .link :: behind ∧
      (({} : Catalog).afterAll before).pending.lookup 0 = some "A" ∧
      (linkedAlong lateSuperclass).hierarchy.parent? 0 =
        (({} : Catalog).afterAll before).superclass? 0 "A" := by
  have hread : (classesRead lateSuperclass)[0]?.map ReadClass.superclass = some (some "A") := by
    decide +kernel
  obtain ⟨k, hk, hname⟩ := Option.map_eq_some_iff.mp hread
  obtain ⟨before, behind, hsplit, hwaits, hparent, -, -⟩ :=
    ((parent?_linkedAlong_eq_iff lateSuperclass).2.2 0 k hk).2 "A" hname
  exact ⟨before, behind, hsplit, hwaits, hparent⟩

/-- A superclass is declared again behind a link. -/
def superclassAgain : List Request :=
  [.parse "class A { }", .parse "class B extends A { }", .link,
    .parse "class A { int getX() { return 1; } }"]

/-- An early link leaves the first class without the superclass that a single link finds, and the
second one with a superclass that is not listed any more. -/
theorem early_link_loses_superclass :
    ((linkedAlong lateSuperclass).hierarchy.parent? 0 = none ∧
      (linkedOnce lateSuperclass).hierarchy.parent? 0 = some 1) ∧
    ((linkedAlong superclassAgain).hierarchy.parent? 1 = some 0 ∧
      (linkedAlong superclassAgain).ids = [2, 1] ∧
      (linkedOnce superclassAgain).hierarchy.parent? 1 = some 2) := by
  decide +kernel

end Catalog
end Java
end BeanBuilder
