import BeanBuilder.Proofs.Java.ReadMembers

/-! # Classes that are read back

A file with a package and one public class is read as this package and this class with its members
(`parse_classText`).
-/
namespace BeanBuilder
namespace Java

open Grammar

/-! ## The tokens of a class -/

section Class

variable {name : String} {more : List String} {ts rest : List Token} {members : List Member}

theorem length_pointTokens (more : List String) :
    (pointTokens more).length = 2 * more.length := by
  induction more with
  | nil => rfl
  | cons name more ih =>
    simp only [pointTokens, List.length_cons, ih]
    omega

theorem readQualified?_tokens (hname : IsIdentifier name) (hmore : ∀ m ∈ more, IsIdentifier m)
    (hrest : Avoids ["."] rest) {steps : Nat} (hsteps : more.length < steps) :
    readQualified? steps (.ofWord name :: (pointTokens more ++ rest)) =
      some (name :: more, rest) := by
  induction more generalizing name steps with
  | nil =>
    obtain ⟨steps, rfl⟩ := Nat.exists_eq_succ_of_ne_zero (Nat.ne_zero_of_lt hsteps)
    rw [readQualified?, textOf?_ofWord hname.2]
    simp only [pointTokens, List.nil_append, Option.bind_eq_bind, Option.bind_some,
      afterText?_eq_none (hrest.ne List.mem_cons_self)]
    rfl
  | cons next more ih =>
    rw [List.forall_mem_cons] at hmore
    obtain ⟨steps, rfl⟩ := Nat.exists_eq_succ_of_ne_zero (Nat.ne_zero_of_lt hsteps)
    have hpoint : ∀ ts, afterText? "." (.separator '.' :: ts) = some ts := fun _ =>
      afterText?_cons (by decide)
    have hinner := ih hmore.1 hmore.2 (Nat.lt_of_succ_lt_succ hsteps)
    rw [readQualified?, textOf?_ofWord hname.2]
    simp only [pointTokens, List.cons_append, Option.bind_eq_bind, Option.bind_some, hpoint, hinner]
    rfl

/-- What a class declares with some members. -/
def classOf (name : String) (members : List Member) : ClassDeclaration where
  name := name
  methods := members.filterMap fun
    | .method m => some m
    | _ => none
  constructors := members.filterMap fun
    | .constructor parameters => some parameters
    | _ => none

/-- A class without type parameters and superclass is read with its members. -/
theorem readClass?_tokens (hname : IsIdentifier name)
    (hmembers : ∀ more steps, ts.length < steps →
      readMembers? steps (ts ++ .separator '}' :: more) = some (members, more)) :
    readClass? {} (.ofWord "class" :: .ofWord name :: .separator '{' ::
        (ts ++ .separator '}' :: rest)) = some (classOf name members, rest) := by
  have hplain : ∀ ts, after? (.ifWord "<" typeParameters) (.separator '{' :: ts) =
      some (.separator '{' :: ts) := fun _ =>
    after?_of_takes (k := 0) (.ifAhead_no rfl) (Nat.zero_le _)
  have hsuper : ∀ ts, readSuperclass? (.separator '{' :: ts) =
      some (none, .separator '{' :: ts) := by
    intro ts
    rw [readSuperclass?, afterText?_eq_none fun _ hu => Option.some.inj hu ▸ by decide]
  have himplements : ∀ ts, after? implementsList (.separator '{' :: ts) =
      some (.separator '{' :: ts) := fun _ =>
    after?_of_takes (k := 0) (.ifAhead_no rfl) (Nat.zero_le _)
  have hopen : ∀ ts, afterText? r"{" (.separator '{' :: ts) = some ts := fun _ =>
    afterText?_cons (by decide)
  have hread := hmembers rest ((ts ++ .separator '}' :: rest).length + 1) (by
    rw [List.length_append]
    omega)
  rw [readClass?, afterText?_ofWord]
  simp only [Option.bind_eq_bind, Option.bind_some, textOf?_ofWord hname.2, hplain, hsuper,
    himplements, hopen, hread]
  rfl

/-- One public class is all that a file holds behind its package. -/
theorem readClasses?_tokens (hname : IsIdentifier name)
    (hmembers : ∀ more steps, ts.length < steps →
      readMembers? steps (ts ++ .separator '}' :: more) = some (members, more)) (steps : Nat) :
    readClasses? (steps + 2) (.ofWord "public" :: .ofWord "class" :: .ofWord name ::
      .separator '{' :: (ts ++ [.separator '}'])) = some [classOf name members] := by
  have hend : ∀ ts, afterText? ";" (.ofWord "public" :: ts) = none := fun _ =>
    afterText?_eq_none fun _ hu => Option.some.inj hu ▸ by decide
  have hplain : ∀ ts steps,
      readModifiers? (steps + 2) {} (.ofWord "public" :: .ofWord "class" :: ts) =
      some ({}, .ofWord "class" :: ts) := by
    intro ts steps
    rw [readModifiers?_ofWord (by decide), readModifiers?, textOf?_eq_none (by decide)]
    simp only [annotationAhead_eq_false (show (Token.ofWord "class").kind ≠ .at by decide)]
    rfl
  have hclass : ∀ ts, startsWith "class" (.ofWord "class" :: ts) = true := fun _ => rfl
  rw [readClasses?, hend]
  · simp only [List.length_cons, hplain, Option.bind_eq_bind, Option.bind_some, hclass, if_true,
      readClass?_tokens hname hmembers]
    rfl
  · intro h
    cases h

end Class

/-! ## Files -/

/-- The tokens of a package, if there is one. -/
def packageTokens : Option (String × List String) → List Token
  | none => []
  | some (name, more) => .ofWord "package" :: .ofWord name :: (pointTokens more ++ [.separator ';'])

/-- **A file with one public class** is read as its package and this class. -/
theorem ofTokens?_class {package : Option (String × List String)} {name : String} {ts : List Token}
    {members : List Member} (hpackage : ∀ p ∈ package, IsIdentifier p.1 ∧ ∀ m ∈ p.2, IsIdentifier m)
    (hname : IsIdentifier name) (hmembers : ∀ more steps, ts.length < steps →
      readMembers? steps (ts ++ .separator '}' :: more) = some (members, more)) :
    SourceFile.ofTokens? (packageTokens package ++ .ofWord "public" :: .ofWord "class" ::
        .ofWord name :: .separator '{' :: (ts ++ [.separator '}'])) =
      some { package := package.map fun p => Text.joinStrings "." (p.1 :: p.2)
             classes := [classOf name members] } := by
  have himports : ∀ ts, readImports? ((Token.ofWord "public" :: ts).length + 1)
      (.ofWord "public" :: ts) = some ([], .ofWord "public" :: ts) := by
    intro ts
    rw [readImports?, afterText?_eq_none fun _ hu => Option.some.inj hu ▸ by decide]
  have hclasses : readClasses? ((Token.ofWord "public" :: .ofWord "class" :: .ofWord name ::
      .separator '{' :: (ts ++ [.separator '}'])).length + 1) (.ofWord "public" ::
        .ofWord "class" :: .ofWord name :: .separator '{' :: (ts ++ [.separator '}'])) =
          some [classOf name members] := readClasses?_tokens hname hmembers _
  have hattempt : ∀ t ts, t.kind ≠ .at →
      course? (.repeated annotationAhead (.call .annotationMark)) (t :: ts) =
        some (.start (t :: ts)) := by
    intro t ts hat
    rw [course?, Rule.run, Rule.loop, if_neg (by simp [Course.start, annotationAhead_eq_false hat])]
    rfl
  cases package with
  | none =>
    have hnone : ∀ ts, afterText? "package" (.ofWord "public" :: ts) = none := fun _ =>
      afterText?_eq_none fun _ hu => Option.some.inj hu ▸ by decide
    rw [packageTokens, List.nil_append, SourceFile.ofTokens?, readPackage?,
      hattempt _ _ (by decide)]
    simp only [Course.start, Option.bind_eq_bind, Option.pure_def, Option.bind_some, hnone,
      himports, hclasses]
    rfl
  | some p =>
    obtain ⟨hp, hmore⟩ := hpackage p rfl
    have hdotted : ∀ ts, readName? (.ofWord p.1 :: (pointTokens p.2 ++ .separator ';' :: ts)) =
        some (Text.joinStrings "." (p.1 :: p.2), .separator ';' :: ts) := by
      intro ts
      rw [readName?, readQualified?_tokens hp hmore (.cons (by decide))]
      · rfl
      · simp only [List.length_cons, List.length_append, length_pointTokens]
        omega
    have hend : ∀ ts, afterText? ";" (.separator ';' :: ts) = some ts := fun _ =>
      afterText?_cons (by decide)
    rw [packageTokens, List.cons_append, SourceFile.ofTokens?, readPackage?,
      hattempt _ _ (by decide)]
    simp only [Course.start, Option.bind_eq_bind, Option.pure_def, Option.bind_some,
      afterText?_ofWord, List.cons_append, List.append_assoc, List.nil_append, hdotted, hend,
      himports, hclasses]
    rfl

/-- A package as it is written, if there is one. -/
def packageText : Option (String × List String) → String
  | none => ""
  | some (name, more) => "package " ++ Text.joinStrings "." (name :: more) ++ ";" ++ "\n" ++ "\n"

theorem scans_packageText {package : Option (String × List String)}
    (hpackage : ∀ p ∈ package, IsIdentifier p.1 ∧ ∀ m ∈ p.2, IsIdentifier m) (rest : List Char) :
    Scans ((packageText package).toList ++ rest) (packageTokens package) rest := by
  cases package with
  | none => exact .done rest
  | some p =>
    obtain ⟨hname, hmore⟩ := hpackage p rfl
    rw [packageText]
    simp only [String.toList_append, List.append_assoc]
    exact (Scans.fixed [.word "package", .blank ' '] (by decide) _).append
      ((scans_names hname hmore (TypeEnds.of_text (by decide))).append
        (((Scans.fixed [.separator ';'] (by decide) _).then_blank (by decide)).then_blank
          (by decide)))

/-- **A file with one public class is read as it is written.** -/
theorem parse_classText {package : Option (String × List String)} {name : String}
    {texts : List String} {members : List Member}
    (hpackage : ∀ p ∈ package, IsIdentifier p.1 ∧ ∀ m ∈ p.2, IsIdentifier m)
    (hname : IsIdentifier name) (h : List.Forall₂ ReadsMember texts members) :
    SourceFile.parse (packageText package ++ "\n" ++ "public class " ++ name ++ r" {" ++ "\n" ++
        String.join texts ++ r"}") =
      .ok { package := package.map fun p => Text.joinStrings "." (p.1 :: p.2)
            classes := [classOf name members] } := by
  obtain ⟨ts, hscan, hread⟩ := exists_readMembers? h
  have htokens : tokens? (packageText package ++ "\n" ++ "public class " ++ name ++ r" {" ++
      "\n" ++ String.join texts ++ r"}") =
        some (packageTokens package ++ .ofWord "public" :: .ofWord "class" :: .ofWord name ::
          .separator '{' :: (ts ++ [.separator '}'])) := by
    refine tokens?_of_scans ?_
    simp only [String.toList_append, List.append_assoc]
    have hend : Scans ['}'] [.separator '}'] [] :=
      Scans.separator (by decide) fun h => absurd h (by decide)
    exact (scans_packageText hpackage _).append
      ((Scans.fixed [.blank '\n'] (by decide) _).append
        ((Scans.fixed [.word "public", .blank ' ', .word "class", .blank ' '] (by decide)
          _).append ((Scans.word hname.1 (TypeEnds.of_text (by decide)).part).append
            ((Scans.fixed [.blank ' ', .separator '{'] (by decide) _).append
              ((Scans.fixed [.blank '\n'] (by decide) _).append
                ((hscan _).append hend))))))
  rw [SourceFile.parse, htokens]
  simp only [ofTokens?_class hpackage hname hread]

end Java
end BeanBuilder
