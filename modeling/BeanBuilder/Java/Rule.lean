import BeanBuilder.Java.Type

/-!
# Syntax rules

A rule says which tokens a text may begin with.  It reads tokens one after another, looks ahead to
choose between two rules, tries a rule before another one, or repeats a rule for as long as the
tokens ahead ask for it.  A rule may refer to the phrases of a grammar, and thereby to itself.

Looking ahead decides for good: if the chosen rule fails, the other one is not tried.

Trying a rule is an attempt, and attempts nest.  When an attempt fails, reading begins again where
the last attempt that succeeded within it began, or at its own start if there was none.
-/

namespace BeanBuilder
namespace Java

/-- What is asked of a token. -/
inductive TokenTest where
  | word (text : String)
  | kind (k : TokenKind)
  deriving DecidableEq, Repr

/-- Whether a token meets a test. -/
def TokenTest.holds (t : Token) : TokenTest → Bool
  | .word text => t.text = text
  | .kind k => t.kind = k

/-- A question about the tokens ahead. -/
abbrev Ahead := List Token → Bool

namespace Ahead

/-- Whether the next tokens meet tests, one by one. -/
def all : List TokenTest → Ahead
  | [], _ => true
  | _ :: _, [] => false
  | test :: tests, t :: ts => test.holds t && all tests ts

/-- Whether the next token has a given text. -/
def word (text : String) : Ahead :=
  all [.word text]

/-- Whether the next tokens have given texts. -/
def words (texts : List String) : Ahead :=
  all (texts.map .word)

/-- Whether the next token is of a given kind. -/
def kind (k : TokenKind) : Ahead :=
  all [.kind k]

/-- Whether the next token has one of some texts. -/
def oneOf (texts : List String) : Ahead :=
  fun ts => ts.head?.any fun t => texts.contains t.text

/-- The opposite answer. -/
def no (look : Ahead) : Ahead :=
  fun ts => !look ts

/-- Whether one of two questions is answered with yes. -/
def or (a b : Ahead) : Ahead :=
  fun ts => a ts || b ts

end Ahead

/-- A rule over the phrases `P` of a grammar. -/
inductive Rule (P : Type) where
  | empty
  | never
  | take (test : TokenTest)
  | any
  | seq (first second : Rule P)
  | choose (look : Ahead) (yes no : Rule P)
  | orElse (first second : Rule P)
  | repeated (look : Ahead) (body : Rule P)
  | skip (read : List Token → Option (List Token))
  | call (phrase : P)

namespace Rule

variable {P : Type}

instance : Append (Rule P) := ⟨seq⟩

/-- A token with a given text. -/
def word (text : String) : Rule P :=
  take (.word text)

/-- Tokens with given texts. -/
def words (texts : List String) : Rule P :=
  texts.foldr (fun text rest => word text ++ rest) empty

/-- An identifier. -/
def identifier : Rule P :=
  take (.kind .identifier)

/-- A rule that applies only if the tokens ahead ask for it. -/
def ifAhead (look : Ahead) (r : Rule P) : Rule P :=
  choose look r empty

/-- A rule that applies only before a token with a given text. -/
def ifWord (text : String) (r : Rule P) : Rule P :=
  ifAhead (Ahead.word text) r

/-- A rule that applies unless a token with a given text comes next. -/
def unlessWord (text : String) (r : Rule P) : Rule P :=
  choose (Ahead.word text) empty r

/-- A rule once or more, with tokens of a given text between. -/
def separated (separator : String) (r : Rule P) : Rule P :=
  r ++ repeated (Ahead.word separator) (word separator ++ r)

/-- A rule any number of times up to a token with a given text, and that token. -/
def untilWord (text : String) (r : Rule P) : Rule P :=
  repeated (Ahead.word text).no r ++ word text

/-- The first rule whose tokens are ahead, otherwise the last rule. -/
def firstOf (options : List (Ahead × Rule P)) (otherwise : Rule P) : Rule P :=
  options.foldr (fun o rest => choose o.1 o.2 rest) otherwise

end Rule

/-- How far reading has come: the tokens that are left, and those at which it begins again if the
attempt around it fails. -/
structure Course where
  rest : List Token
  back : List Token

namespace Course

/-- Reading that begins an attempt of its own. -/
def start (ts : List Token) : Course :=
  ⟨ts, ts⟩

/-- The course behind what a reader finds, or where reading begins again. -/
def behind (c : Course) (found : Option (List Token)) : Except (List Token) Course :=
  match found with
  | some rest => .ok { c with rest }
  | none => .error c.back

end Course

/-- A step of reading: it comes further, or it is refused and tells where reading begins again. -/
abbrev Step := Course → Except (List Token) Course

namespace Rule

variable {P : Type}

/-- Reads as long as the tokens ahead ask for it; `steps` bounds the repetitions. -/
def loop (look : Ahead) (read : Step) : (steps : Nat) → Step
  | 0, c => .error c.back
  | steps + 1, c => if look c.rest then (read c).bind (loop look read steps) else .ok c

/-- The step that a rule describes; `phrase` reads the phrases. -/
def run (phrase : P → Step) : Rule P → Step
  | empty, c => .ok c
  | never, c => .error c.back
  | take test, c =>
    match c.rest with
    | t :: rest => if test.holds t then .ok { c with rest } else .error c.back
    | [] => .error c.back
  | any, c => c.behind c.rest.tail?
  | seq first second, c => (first.run phrase c).bind (second.run phrase)
  | choose look yes no, c => if look c.rest then yes.run phrase c else no.run phrase c
  | orElse first second, c =>
    match first.run phrase (.start c.rest) with
    | .ok d => .ok d
    | .error again => second.run phrase ⟨again, c.back⟩
  | repeated look body, c => loop look (body.run phrase) (c.rest.length + 1) c
  | skip read, c => c.behind (read c.rest)
  | call p, c => phrase p c

end Rule
end Java
end BeanBuilder
