import BeanBuilder.CommandLine.Options

/-!
# Invocations

A command line names a command, with options for all commands before its name and options and
operands of its own behind it.  `generate` takes the files and directories to read, all of them in
one place; `info` takes none.
-/

namespace BeanBuilder
namespace CommandLine

/-- The options of `generate` and its operands. -/
structure GenerateRequest where
  paths : List String
  outputDirectory : Option String := none
  strict : Bool := false
  allTypes : Bool := false
  json : Bool := false
  deriving DecidableEq, Repr

/-- A command. -/
inductive Command where
  | generate (request : GenerateRequest)
  | info
  deriving DecidableEq, Repr

/-- A command with the options for all commands. -/
structure Invocation where
  settingsFile : Option String := none
  logLevel : Option String := none
  command : Command
  deriving DecidableEq, Repr

/-- The options for all commands. -/
def commonSpecs : List OptionSpec :=
  [helpOption, { long := "config", takesValue := true },
    { long := "log-level", takesValue := true }]

/-- The options of `generate`. -/
def generateSpecs : List OptionSpec :=
  [helpOption, { long := "output-dir", letter := some 'o', takesValue := true },
    { long := "strict" }, { long := "all-types" }, { long := "json" }]

/-- The options of `info`. -/
def infoSpecs : List OptionSpec :=
  [helpOption]

/-- What was read of the words of a command. -/
structure CommandWords where
  found : List Occurrence := []
  operands : Option (List String) := none
  /-- Whether there are words that the command does not take. -/
  surplus : Bool := false

/-- Whether a word is no option. -/
def isOperand : WordKind → Bool
  | .operand => true
  | .separator => true
  | _ => false

/-- The operands in a stretch of words that are no options, without the first separator; nothing
if there is no operand among them. -/
def operandsOf (stretch : List (String × WordKind)) : Option (List String) :=
  if stretch.any fun w => w.2 = .operand then some ((stretch.map Prod.fst).erase "--") else none

/-- Reads the words of a command from left to right; a request for help ends the reading. -/
def readWords (specs : List OptionSpec) (takesOperands : Bool) :
    (steps : Nat) → CommandWords → List (String × WordKind) → Except UsageEnd CommandWords
  | 0, _, _ => .error .misuse
  | _ + 1, c, [] => .ok c
  | steps + 1, c, (word, kind) :: rest =>
    match kind with
    | .unknown => readWords specs takesOperands steps { c with surplus := true } rest
    | .option o glued byLetter => do
      let (found, rest) ← readOption specs byLetter rest (word.length + 1) o glued
      if asksHelp found then throw .help
      readWords specs takesOperands steps { c with found := c.found ++ found } rest
    | _ =>
      let stretch := ((word, kind) :: rest).takeWhile fun w => isOperand w.2
      let behind := ((word, kind) :: rest).dropWhile fun w => isOperand w.2
      let operands := if takesOperands && c.operands.isNone then operandsOf stretch else none
      let c := match operands with
        | some operands => { c with operands := some operands }
        | none => { c with surplus := true }
      readWords specs takesOperands steps c behind

/-- Reads all words of a command. -/
def readCommand (specs : List OptionSpec) (takesOperands : Bool) (words : List String) :
    Except UsageEnd CommandWords := do
  let words ← wordKinds specs words
  readWords specs takesOperands (words.length + 1) {} words

/-- The `generate` command of some words, and whether there are surplus words. -/
def readGenerate (words : List String) : Except UsageEnd (Command × Bool) := do
  let c ← readCommand generateSpecs true words
  match c.operands with
  | none => throw .misuse
  | some paths =>
    let request : GenerateRequest :=
      { paths
        outputDirectory := valueOf? c.found "output-dir"
        strict := isSet c.found "strict"
        allTypes := isSet c.found "all-types"
        json := isSet c.found "json" }
    return (.generate request, c.surplus)

/-- The `info` command of some words, and whether there are surplus words. -/
def readInfo (words : List String) : Except UsageEnd (Command × Bool) := do
  let c ← readCommand infoSpecs false words
  return (.info, c.surplus)

/-- The command of a name and the words behind it, and whether there are surplus words. -/
def readNamed (name : String) (words : List String) : Except UsageEnd (Command × Bool) :=
  if name = "generate" then readGenerate words
  else if name = "info" then readInfo words
  else .error .misuse

/-- Reads the options for all commands up to the name of a command, and the command. -/
def readInvocation : (steps : Nat) → (found : List Occurrence) → (surplus : Bool) →
    List (String × WordKind) → Except UsageEnd Invocation
  | 0, _, _, _ => .error .misuse
  | _ + 1, _, _, [] => .error .misuse
  | steps + 1, found, surplus, (word, kind) :: rest =>
    match kind with
    | .separator => .error .misuse
    | .unknown => readInvocation steps found true rest
    | .option o glued byLetter => do
      let (more, rest) ← readOption commonSpecs byLetter rest (word.length + 1) o glued
      if asksHelp more then throw .help
      readInvocation steps (found ++ more) surplus rest
    | .operand => do
      let (command, more) ← readNamed word (rest.map Prod.fst)
      if surplus || more then throw .misuse
      return {
        settingsFile := valueOf? found "config"
        logLevel := valueOf? found "log-level"
        command }

/-- The invocation that the words of a command line ask for. -/
def Invocation.ofWords (words : List String) : Except UsageEnd Invocation := do
  let words ← wordKinds commonSpecs words
  readInvocation (words.length + 1) [] false words

end CommandLine
end BeanBuilder
