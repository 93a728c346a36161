import BeanBuilder.Text.Digit
import BeanBuilder.Text.Pieces

/-!
# Options on a command line

An option has a long name after two dashes and perhaps a letter after one dash, and it may take a
value.  A long name may be cut short as long as it is still the name of one option only.  A value
stands behind an equals sign or in the next word, and behind a letter also without any sign; letters
without values may stand together.  Behind a word of two dashes nothing is an option.

Words that are neither options nor values are operands.
-/

namespace BeanBuilder
namespace CommandLine

/-- An option of a command. -/
structure OptionSpec where
  long : String
  letter : Option Char := none
  takesValue : Bool := false
  deriving DecidableEq, Repr

/-- An option that occurs on the command line, with its value. -/
structure Occurrence where
  long : String
  value : String := ""
  deriving DecidableEq, Repr

/-- Why a command line ends without a command being run. -/
inductive UsageEnd where
  | help
  | misuse
  deriving DecidableEq, Repr

namespace UsageEnd

/-- The exit code. -/
def code : UsageEnd → Nat
  | .help => 0
  | .misuse => 2

end UsageEnd

/-- What a word is. -/
inductive WordKind where
  | operand
  | separator
  /-- An option, with what is glued to it, and whether it is written as a letter. -/
  | option (spec : OptionSpec) (glued : Option (List Char)) (byLetter : Bool)
  | unknown
  deriving DecidableEq, Repr

/-- The option that asks for help, which every command has. -/
def helpOption : OptionSpec where
  long := "help"
  letter := some 'h'

/-- Whether a text is a negative number: it has digits of any script, perhaps with a point before
the last ones.  A line feed may stand at the end. -/
def isNegativeNumber (word : List Char) : Bool :=
  match word with
  | '-' :: digits =>
    let digits := Text.withoutLastBreak digits
    let whole := digits.takeWhile Text.isDecimal
    match digits.drop whole.length with
    | [] => !whole.isEmpty
    | '.' :: fraction => !fraction.isEmpty && fraction.all Text.isDecimal
    | _ => false
  | _ => false

/-- A word that begins with a dash and is no option. -/
def otherWord (word : List Char) : WordKind :=
  if isNegativeNumber word || word.contains ' ' then .operand else .unknown

/-- What a word with two dashes and more is; a name that is cut short too much is misuse. -/
def longWord (specs : List OptionSpec) (word : List Char) : Except UsageEnd WordKind :=
  let body := word.drop 2
  let name := body.takeWhile (· ≠ '=')
  let glued := if body.contains '=' then some (body.drop (name.length + 1)) else none
  match specs.find? fun o => o.long.toList = body, specs.find? fun o => o.long.toList = name with
  | some o, _ => .ok (.option o none false)
  | none, some o => .ok (.option o glued false)
  | none, none =>
    match specs.filter fun o => Text.beginsWith name o.long.toList with
    | [] => .ok (otherWord word)
    | [o] => .ok (.option o glued false)
    | _ => .error .misuse

/-- What a word with one dash is. -/
def letterWord (specs : List OptionSpec) (letter : Char) (rest word : List Char) : WordKind :=
  match specs.find? fun o => o.letter = some letter, rest with
  | some o, [] => .option o none true
  | some o, '=' :: value => .option o (some value) true
  | some o, glued => .option o (some glued) true
  | none, _ => otherWord word

/-- What a word is by itself. -/
def wordKind (specs : List OptionSpec) (word : String) : Except UsageEnd WordKind :=
  match word.toList with
  | ['-', '-'] => .ok .separator
  | '-' :: '-' :: rest => longWord specs ('-' :: '-' :: rest)
  | '-' :: letter :: rest => .ok (letterWord specs letter rest ('-' :: letter :: rest))
  | _ => .ok .operand

/-- What the words of a command line are. -/
def wordKinds (specs : List OptionSpec) : List String → Except UsageEnd (List (String × WordKind))
  | [] => .ok []
  | word :: rest => do
    let kind ← wordKind specs word
    if kind = .separator then return (word, kind) :: rest.map fun w => (w, .operand)
    else return (word, kind) :: (← wordKinds specs rest)

/-- The value of an option in the next word. -/
def nextValue (words : List (String × WordKind)) :
    Except UsageEnd (String × List (String × WordKind)) :=
  match words with
  | (value, .operand) :: rest => .ok (value, rest)
  | _ => .error .misuse

/-- The occurrences that a word for an option stands for, and the words behind it and its value. -/
def readOption (specs : List OptionSpec) (byLetter : Bool) (words : List (String × WordKind)) :
    (steps : Nat) → OptionSpec → Option (List Char) →
    Except UsageEnd (List Occurrence × List (String × WordKind))
  | 0, _, _ => .error .misuse
  | steps + 1, o, glued =>
    match o.takesValue, glued with
    | true, some value => .ok ([⟨o.long, String.ofList value⟩], words)
    | true, none => do
      let (value, words) ← nextValue words
      return ([⟨o.long, value⟩], words)
    | false, none => .ok ([⟨o.long, ""⟩], words)
    | false, some [] => .error .misuse
    | false, some (letter :: more) =>
      if byLetter then
        match specs.find? fun p => p.letter = some letter with
        | none => .error .misuse
        | some p => do
          let (found, words) ←
            readOption specs byLetter words steps p (if more.isEmpty then none else some more)
          return (⟨o.long, ""⟩ :: found, words)
      else .error .misuse

/-- Whether help is asked for. -/
def asksHelp (found : List Occurrence) : Bool :=
  found.any fun o => o.long = helpOption.long

/-- The value of the last occurrence of an option. -/
def valueOf? (found : List Occurrence) (long : String) : Option String :=
  (found.reverse.find? fun o => o.long = long).map (·.value)

/-- Whether an option occurs. -/
def isSet (found : List Occurrence) (long : String) : Bool :=
  (valueOf? found long).isSome

end CommandLine
end BeanBuilder
