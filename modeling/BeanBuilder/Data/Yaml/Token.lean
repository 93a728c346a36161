import BeanBuilder.Data.Json.Reader
import BeanBuilder.Data.Yaml.Cursor
import BeanBuilder.Text.Utf8

/-!
# Tokens of YAML

A text is read into tokens from left to right.  Blocks are told by indentation: a column that is
further right than the enclosing block opens a block, a column further left closes blocks.

Whether a word is a key is only known at the colon behind it.  So the reader remembers, for every
level of brackets, where a key may have begun, and puts the key token there when the colon comes.
A key stands on one line and is at most 1024 characters long.
-/

namespace BeanBuilder
namespace Yaml

/-- How a scalar is written. -/
inductive ScalarStyle where
  | plain
  | quoted
  | block
  deriving DecidableEq, Repr

/-- The tokens of a text. -/
inductive Token where
  | directive (name : String) (major : Nat) (handle tagStart : String)
  | documentStart
  | documentEnd
  | sequenceStart
  | mappingStart
  | blockEnd
  | listOpen
  | listClose
  | braceOpen
  | braceClose
  | dash
  | comma
  | key
  | value
  | alias (name : String)
  | anchor (name : String)
  | tag (handle : Option String) (suffix : String)
  | scalar (text : List Char) (style : ScalarStyle)
  deriving DecidableEq, Repr

/-- A place where a key may have begun. -/
structure KeyPlace where
  token : Nat
  required : Bool
  index : Nat
  line : Nat
  column : Nat

/-- The tokens read so far and what is known at the cursor. -/
structure Scan where
  cursor : Cursor
  tokens : List Token := []
  brackets : Nat := 0
  indent : Int := -1
  outer : List Int := []
  keyAllowed : Bool := true
  keys : List (Nat × KeyPlace) := []

/-! ### Words of one kind -/

/-- A name, and the cursor behind it. -/
def scanName? (c : Cursor) : Option (String × Cursor) :=
  let (name, c) := c.span isNameChar
  if name.isEmpty then none else some (String.ofList name, c)

/-- A whole number, and the cursor behind it. -/
def scanNumber? (c : Cursor) : Option (Nat × Cursor) :=
  let (digits, c) := c.span Char.isDigit
  if digits.isEmpty then none else some (Json.digitsValue digits, c)

/-- The rest of a line that holds nothing but a comment. -/
def scanLineRest? (c : Cursor) : Option Cursor :=
  let c := c.skipBlanks
  let c := if c.isAt '#' then c.skipLine else c
  if c.atLineEnd then some c.lineBreak.2 else none

/-- The characters of a tag that stand as themselves. -/
def isTagChar (c : Char) : Bool :=
  c.isAlphanum || "-;/?:@&=+$,_.!~*'()[]".toList.contains c

/-- The bytes of percent escapes, and the cursor behind them. -/
def scanEscapedBytes? : (steps : Nat) → Cursor → Option (List UInt8 × Cursor)
  | 0, c => some ([], c)
  | steps + 1, c =>
    match c.rest with
    | '%' :: a :: b :: _ => do
      let high ← Text.hexValue? a
      let low ← Text.hexValue? b
      let (bytes, c) ← scanEscapedBytes? steps (c.skip 3)
      return (UInt8.ofNat (high * 16 + low) :: bytes, c)
    | '%' :: _ => none
    | _ => some ([], c)

/-- The text of a tag, and the cursor behind it. -/
def scanTagText? : (steps : Nat) → Cursor → Option (List Char × Cursor)
  | 0, c => some ([], c)
  | steps + 1, c =>
    let (plain, c) := c.span isTagChar
    if c.isAt '%' then do
      let (bytes, c) ← scanEscapedBytes? c.rest.length c
      let escaped ← (Text.decodeFrom none 0 bytes).toOption
      let (more, c) ← scanTagText? steps c
      return (plain ++ escaped ++ more, c)
    else some (plain, c)

/-- The text of a tag that is not empty. -/
def scanTagUri? (c : Cursor) : Option (String × Cursor) := do
  let (text, c) ← scanTagText? (c.rest.length + 1) c
  if text.isEmpty then none else some (String.ofList text, c)

/-- The handle of a tag: one or two exclamation marks, with a name between them. -/
def scanHandle? (c : Cursor) : Option (String × Cursor) :=
  if c.isAt '!' then
    if c.next.isAt ' ' then some ("!", c.next)
    else
      let (name, c) := c.next.span isNameChar
      if c.isAt '!' then some (String.ofList ('!' :: name ++ ['!']), c.next) else none
  else none

/-- A directive line. -/
def scanDirective? (c : Cursor) : Option (Token × Cursor) := do
  let (name, c) ← scanName? c.next
  if !c.atBlankOrEnd then failure
  if name = "YAML" then
    let (major, c) ← scanNumber? c.skipBlanks
    if !c.isAt '.' then failure
    let (_, c) ← scanNumber? c.next
    if !c.atBlankOrEnd then failure
    return (.directive name major "" "", ← scanLineRest? c)
  else if name = "TAG" then
    let (handle, c) ← scanHandle? c.skipBlanks
    if !c.isAt ' ' then failure
    let (tagStart, c) ← scanTagUri? c.skipBlanks
    if !c.atBlankOrEnd then failure
    return (.directive name 0 handle tagStart, ← scanLineRest? c)
  else return (.directive name 0 "" "", ← scanLineRest? c.skipLine)

/-- The name of an anchor or an alias behind its mark. -/
def scanAnchorName? (c : Cursor) : Option (String × Cursor) := do
  let (name, c) ← scanName? c.next
  let ended := c.peek?.all fun x => isGap x || r"?:,]}%@`".toList.contains x
  if ended then some (name, c) else none

/-- Whether another exclamation mark comes before the next blank. -/
def hasSecondMark (rest : List Char) : Bool :=
  (rest.takeWhile fun x => !(x = ' ' || isBreak x)).contains '!'

/-- A tag. -/
def scanTag? (c : Cursor) : Option (Token × Cursor) := do
  let (token, c) ←
    if c.next.isAt '<' then do
      let (suffix, c) ← scanTagUri? (c.skip 2)
      if !c.isAt '>' then failure
      pure (Token.tag none suffix, c.next)
    else if c.gapAhead 1 then pure (Token.tag none "!", c.next)
    else do
      let (handle, c) ←
        if hasSecondMark c.next.rest then scanHandle? c else pure ("!", c.next)
      let (suffix, c) ← scanTagUri? c
      pure (Token.tag (some handle) suffix, c)
  if c.atBlankOrEnd then some (token, c) else none

/-! ### Block scalars -/

/-- What happens to the line ends at the end of a block scalar. -/
inductive Chomping where
  | strip
  | clip
  | keep
  deriving DecidableEq, Repr

/-- The chomping mark, if there is one. -/
def scanChomping (c : Cursor) : Option Chomping × Cursor :=
  if c.isAt '+' then (some .keep, c.next)
  else if c.isAt '-' then (some .strip, c.next)
  else (none, c)

/-- The indentation mark, if there is one; zero is refused. -/
def scanIncrement? (c : Cursor) : Option (Option Nat × Cursor) :=
  match c.peek? with
  | some x =>
    if x.isDigit then if x = '0' then none else some (some (x.toNat - 48), c.next)
    else some (none, c)
  | none => some (none, c)

/-- The marks behind the sign of a block scalar, in either order. -/
def scanBlockMarks? (c : Cursor) : Option (Chomping × Option Nat × Cursor) := do
  let (chomping, c) := scanChomping c
  let (increment, c) ← scanIncrement? c
  let (later, c) :=
    if chomping.isNone ∧ increment.isSome then scanChomping c else (none, c)
  if c.atBlankOrEnd then
    some ((chomping.or later).getD .clip, increment, c)
  else none

/-- Empty lines, the deepest column that blanks reach, and the cursor behind them. -/
def scanLeadingLines : (steps : Nat) → Nat → Cursor → List (List Char) × Nat × Cursor
  | 0, deepest, c => ([], deepest, c)
  | steps + 1, deepest, c =>
    match c.peek? with
    | none => ([], deepest, c)
    | some x =>
      if x = ' ' then
        let c := c.next
        scanLeadingLines steps (max deepest c.column) c
      else if isBreak x then
        let (br, c) := c.lineBreak
        let (breaks, deepest, c) := scanLeadingLines steps deepest c
        (br :: breaks, deepest, c)
      else ([], deepest, c)

/-- The cursor behind blanks, no further than a column. -/
def skipToColumn (indent : Nat) : (steps : Nat) → Cursor → Cursor
  | 0, c => c
  | steps + 1, c =>
    if c.column < indent ∧ c.isAt ' ' then skipToColumn indent steps c.next else c

/-- Empty lines up to an indentation, and the cursor behind them. -/
def scanEmptyLines (indent : Nat) : (steps : Nat) → Cursor → List (List Char) × Cursor
  | 0, c => ([], c)
  | steps + 1, c =>
    let c := skipToColumn indent (indent + 1) c
    if c.atEnd ∨ !c.atLineEnd then ([], c)
    else
      let (br, c) := c.lineBreak
      let (breaks, c) := scanEmptyLines indent steps c
      (br :: breaks, c)

/-- Whether the next character is a blank or a tab. -/
def atSpace (c : Cursor) : Bool :=
  c.isAt ' ' || c.isAt '\t'

/-- The lines of a block scalar: the text, the last line end, the empty lines behind it. -/
def scanBlockLines (folded : Bool) (indent : Nat) : (steps : Nat) → List (List Char) → Cursor →
    List Char × List Char × List (List Char) × Cursor
  | 0, breaks, c => ([], [], breaks, c)
  | steps + 1, breaks, c =>
    let flush := !atSpace c
    let (line, c) := c.span fun x => !isBreak x
    let (br, c) := c.lineBreak
    let (after, c) := scanEmptyLines indent (c.rest.length + 1) c
    let here := breaks.flatten ++ line
    if c.column = indent ∧ !c.atEnd then
      let joint :=
        if folded ∧ br = ['\n'] ∧ flush ∧ !atSpace c then if after.isEmpty then [' '] else []
        else br
      let (text, last, final, c) := scanBlockLines folded indent steps after c
      (here ++ joint ++ text, last, final, c)
    else (here, br, after, c)

/-- A block scalar within a block of some indentation. -/
def scanBlockScalar? (folded : Bool) (blockIndent : Int) (c : Cursor) :
    Option (List Char × Cursor) := do
  let (chomping, increment, c) ← scanBlockMarks? c.next
  let c ← scanLineRest? c
  let least := max 1 (blockIndent + 1).toNat
  let size := c.rest.length + 1
  let (indent, breaks, c) := match increment with
    | none =>
      let (breaks, deepest, c) := scanLeadingLines size 0 c
      (max least deepest, breaks, c)
    | some n =>
      let indent := least + n - 1
      let (breaks, c) := scanEmptyLines indent size c
      (indent, breaks, c)
  let (text, last, final, c) :=
    if c.column = indent ∧ !c.atEnd then scanBlockLines folded indent size breaks c
    else ([], [], breaks, c)
  match chomping with
  | .strip => return (text, c)
  | .clip => return (text ++ last, c)
  | .keep => return (text ++ last ++ final.flatten, c)

/-! ### Quoted scalars -/

/-- The characters behind a backslash that stand for another one. -/
def escapes : List (Char × Nat) :=
  [('0', 0), ('a', 7), ('b', 8), ('t', 9), ('\t', 9), ('n', 10), ('v', 11), ('f', 12), ('r', 13),
    ('e', 0x1b), (' ', 0x20), ('"', 0x22), ('\\', 0x5c), ('/', 0x2f), ('N', 0x85), ('_', 0xa0),
    ('L', 0x2028), ('P', 0x2029)]

/-- The number of hexadecimal digits behind a backslash and a letter. -/
def escapeWidth? (c : Char) : Option Nat :=
  [('x', 2), ('u', 4), ('U', 8)].lookup c

/-- The number that hexadecimal digits stand for. -/
def hexNumber? (digits : List Char) : Option Nat :=
  digits.foldlM (fun n d => (Text.hexValue? d).map (n * 16 + ·)) 0

/-- The line ends between two lines of a quoted scalar; a document marker is refused. -/
def scanQuotedBreaks? : (steps : Nat) → Cursor → Option (List (List Char) × Cursor)
  | 0, c => some ([], c)
  | steps + 1, c =>
    if c.atAnyMarker then none
    else
      let c := (c.span fun x => x = ' ' || x = '\t').2
      if c.atEnd ∨ !c.atLineEnd then some ([], c)
      else do
        let (br, c) := c.lineBreak
        let (breaks, c) ← scanQuotedBreaks? steps c
        return (br :: breaks, c)

/-- What stands for a line end and the empty lines behind it. -/
def foldedBreaks (br : List Char) (breaks : List (List Char)) : List Char :=
  (if br ≠ ['\n'] then br else if breaks.isEmpty then [' '] else []) ++ breaks.flatten

/-- The character that an escape stands for. -/
def scanEscape? (c : Cursor) : Option (List Char × Cursor) := do
  let letter ← c.peek?
  match escapes.lookup letter, escapeWidth? letter with
  | some code, _ => return ([Char.ofNat code], c.next)
  | none, some width =>
    let digits := c.next.rest.take width
    if digits.length < width then failure
    let code ← hexNumber? digits
    if code > 0x10ffff then failure
    return ([Json.charOf code], c.next.skip width)
  | none, none =>
    if !isBreak letter then failure
    let (breaks, c) ← scanQuotedBreaks? (c.rest.length + 1) c.lineBreak.2
    return (breaks.flatten, c)

/-- The rest of a quoted scalar up to its closing quote. -/
def scanQuoted? (quote : Char) : (steps : Nat) → Cursor → Option (List Char × Cursor)
  | 0, _ => none
  | steps + 1, c => do
    let x ← c.peek?
    if x = quote then
      if quote = '\'' ∧ c.next.isAt '\'' then
        let (more, c) ← scanQuoted? quote steps (c.skip 2)
        return ('\'' :: more, c)
      else return ([], c.next)
    else if x = '\\' ∧ quote = '"' then
      let (text, c) ← scanEscape? c.next
      let (more, c) ← scanQuoted? quote steps c
      return (text ++ more, c)
    else if isGap x then
      let (blanks, c) := c.span fun x => x = ' ' || x = '\t'
      if c.atEnd then failure
      let (text, c) ←
        if c.atLineEnd then do
          let (br, c) := c.lineBreak
          let (breaks, c) ← scanQuotedBreaks? (c.rest.length + 1) c
          pure (foldedBreaks br breaks, c)
        else pure (blanks, c)
      let (more, c) ← scanQuoted? quote steps c
      return (text ++ more, c)
    else
      let (more, c) ← scanQuoted? quote steps c.next
      return (x :: more, c)

/-! ### Plain scalars -/

/-- The characters that end a plain scalar within brackets. -/
def isBracketMark (c : Char) : Bool :=
  ",[]{}".toList.contains c

/-- One stretch of a plain scalar, up to a gap, a colon before a gap, or a mark of brackets. -/
def plainStretch (inBrackets : Bool) : List Char → List Char
  | [] => []
  | x :: rest =>
    if isGap x then []
    else if inBrackets && (isBracketMark x || x = '?') then []
    else if x = ':' && (rest.head?.all fun y => isGap y || (inBrackets && isBracketMark y)) then []
    else x :: plainStretch inBrackets rest

/-- The line ends between two lines of a plain scalar; nothing at a document marker. -/
def scanPlainBreaks : (steps : Nat) → Cursor → Option (List (List Char)) × Cursor
  | 0, c => (some [], c)
  | steps + 1, c =>
    match c.peek? with
    | none => (some [], c)
    | some x =>
      if x = ' ' then scanPlainBreaks steps c.next
      else if isBreak x then
        let (br, c) := c.lineBreak
        if c.atAnyMarker then (none, c)
        else
          let (breaks, c) := scanPlainBreaks steps c
          (breaks.map (br :: ·), c)
      else (some [], c)

/-- What stands for the gap behind a stretch, whether a line ended in it, and the cursor behind
it; nothing where the scalar ends. -/
def scanPlainGap (c : Cursor) : List Char × Bool × Cursor :=
  let (blanks, c) := c.span (· = ' ')
  if c.atEnd ∨ !c.atLineEnd then (blanks, false, c)
  else
    let (br, c) := c.lineBreak
    if c.atAnyMarker then ([], true, c)
    else match scanPlainBreaks (c.rest.length + 1) c with
      | (none, c) => ([], true, c)
      | (some breaks, c) => (foldedBreaks br breaks, true, c)

/-- A plain scalar, whether a key may follow it, and the cursor behind it. -/
def scanPlain (inBrackets : Bool) (indent : Int) : (steps : Nat) → (gap : List Char) →
    (lineEnded : Bool) → Cursor → List Char × Bool × Cursor
  | 0, _, lineEnded, c => ([], lineEnded, c)
  | steps + 1, gap, lineEnded, c =>
    let stretch := if c.isAt '#' then [] else plainStretch inBrackets c.rest
    if stretch.isEmpty then ([], lineEnded, c)
    else
      let (gapAfter, ended, c) := scanPlainGap (c.skip stretch.length)
      if gapAfter.isEmpty || c.isAt '#' || (!inBrackets && c.column < indent) then
        (gap ++ stretch, ended, c)
      else
        let (more, lineEnded, c) := scanPlain inBrackets indent steps gapAfter ended c
        (gap ++ stretch ++ more, lineEnded, c)

/-! ### Tokens in their order -/

namespace Scan

/-- The scan with one more token. -/
def push (s : Scan) (token : Token) : Scan :=
  { s with tokens := s.tokens ++ [token] }

/-- The place where a key of the current level may have begun. -/
def key? (s : Scan) : Option KeyPlace :=
  s.keys.lookup s.brackets

/-- The scan without a possible key on the current level; a required key may not be given up. -/
def dropKey? (s : Scan) : Option Scan :=
  match s.key? with
  | some k =>
    if k.required then none
    else some { s with keys := s.keys.filter fun e => e.1 ≠ s.brackets }
  | none => some s

/-- The scan with a possible key at the cursor. -/
def saveKey? (s : Scan) : Option Scan :=
  if s.keyAllowed then do
    let required := s.brackets = 0 && s.indent = s.cursor.column
    let s ← s.dropKey?
    let k : KeyPlace :=
      { token := s.tokens.length, required, index := s.cursor.index, line := s.cursor.line
        column := s.cursor.column }
    return { s with keys := (s.brackets, k) :: s.keys }
  else some s

/-- Whether a possible key is too far back. -/
def isStale (s : Scan) (k : KeyPlace) : Bool :=
  k.line ≠ s.cursor.line || s.cursor.index - k.index > 1024

/-- The scan without the possible keys that are too far back. -/
def dropStale? (s : Scan) : Option Scan :=
  if s.keys.any fun e => s.isStale e.2 && e.2.required then none
  else some { s with keys := s.keys.filter fun e => !s.isStale e.2 }

/-- The scan after closing the blocks that are further right than a column. -/
def closeTo (s : Scan) (column : Int) : Scan :=
  if s.brackets > 0 then s
  else go s.outer s
where
  /-- Closes blocks as long as they are further right, `outer` holding the indents around. -/
  go : List Int → Scan → Scan
    | [], s => s
    | indent :: outer, s =>
      if s.indent > column then go outer { s.push .blockEnd with indent, outer } else s

/-- The scan after opening a block at a column, if it is further right, with a token for it. -/
def openAt (s : Scan) (column : Nat) (position : Nat) (token : Token) : Scan :=
  if s.indent < column then
    { s with
      indent := column
      outer := s.indent :: s.outer
      tokens := s.tokens.take position ++ token :: s.tokens.drop position }
  else s

/-- The cursor before the next token; a line end allows a key again outside brackets. -/
def skipGaps : (steps : Nat) → Scan → Scan
  | 0, s => s
  | steps + 1, s =>
    let c := s.cursor.skipBlanks
    let c := if c.isAt '#' then c.skipLine else c
    if c.atEnd ∨ !c.atLineEnd then { s with cursor := c }
    else
      skipGaps steps
        { s with cursor := c.lineBreak.2, keyAllowed := s.keyAllowed || s.brackets = 0 }

/-- The scan after a token of a fixed length that no key can begin with. -/
def mark (s : Scan) (length : Nat) (token : Token) : Scan :=
  { s.push token with cursor := s.cursor.skip length }

/-- A document marker or a directive ends all blocks. -/
def endBlocks? (s : Scan) : Option Scan := do
  let s ← (s.closeTo (-1)).dropKey?
  return { s with keyAllowed := false }

/-- An opening bracket, which may begin a key. -/
def openBracket? (s : Scan) (token : Token) : Option Scan := do
  let s ← s.saveKey?
  return { s.mark 1 token with brackets := s.brackets + 1, keyAllowed := true }

/-- A closing bracket. -/
def closeBracket? (s : Scan) (token : Token) : Option Scan := do
  let s ← s.dropKey?
  return { s.mark 1 token with brackets := s.brackets - 1, keyAllowed := false }

/-- A comma. -/
def comma? (s : Scan) : Option Scan := do
  let s ← s.dropKey?
  return { s.mark 1 .comma with keyAllowed := true }

/-- The dash of a list entry. -/
def dash? (s : Scan) : Option Scan := do
  let s ←
    if s.brackets > 0 then pure s
    else if s.keyAllowed then pure (s.openAt s.cursor.column s.tokens.length .sequenceStart)
    else failure
  let s ← s.dropKey?
  return { s.mark 1 .dash with keyAllowed := true }

/-- The question mark of a key. -/
def questionMark? (s : Scan) : Option Scan := do
  let s ←
    if s.brackets > 0 then pure s
    else if s.keyAllowed then pure (s.openAt s.cursor.column s.tokens.length .mappingStart)
    else failure
  let s ← s.dropKey?
  return { s.mark 1 .key with keyAllowed := s.brackets = 0 }

/-- The colon of a value; the key before it gets its token now. -/
def colon? (s : Scan) : Option Scan :=
  match s.key? with
  | some k =>
    let s := { s with
      keys := s.keys.filter fun e => e.1 ≠ s.brackets
      tokens := s.tokens.take k.token ++ Token.key :: s.tokens.drop k.token }
    let s := if s.brackets = 0 then s.openAt k.column k.token .mappingStart else s
    some { s.mark 1 .value with keyAllowed := false }
  | none => do
    let s ←
      if s.brackets > 0 then pure s
      else if s.keyAllowed then pure (s.openAt s.cursor.column s.tokens.length .mappingStart)
      else failure
    let s ← s.dropKey?
    return { s.mark 1 .value with keyAllowed := s.brackets = 0 }

/-- A token that may begin a key, made of the text at the cursor. -/
def word? (s : Scan) (read : Cursor → Option (Token × Cursor)) : Option Scan := do
  let s ← s.saveKey?
  let (token, cursor) ← read s.cursor
  return { s.push token with cursor, keyAllowed := false }

/-- A block scalar. -/
def blockScalar? (s : Scan) (folded : Bool) : Option Scan := do
  let s ← s.dropKey?
  let (text, cursor) ← scanBlockScalar? folded s.indent s.cursor
  return { s.push (.scalar text .block) with cursor, keyAllowed := true }

/-- A plain scalar. -/
def plain? (s : Scan) : Option Scan := do
  let s ← s.saveKey?
  let (text, lineEnded, cursor) :=
    scanPlain (s.brackets > 0) (s.indent + 1) (s.cursor.rest.length + 1) [] false s.cursor
  return { s.push (.scalar text .plain) with cursor, keyAllowed := lineEnded }

/-- Whether a plain scalar may begin with a character. -/
def startsPlain (s : Scan) (x : Char) : Bool :=
  if x = '-' then !s.cursor.gapAhead 1
  else if x = '?' || x = ':' then !s.cursor.gapAhead 1 && s.brackets = 0
  else !isGap x && !",[]{}#&*!|>'\"%@`".toList.contains x

/-- Reads the token that begins with a character. -/
def token? (s : Scan) (x : Char) : Option Scan :=
  let c := s.cursor
  let free := s.brackets = 0
  if x = '%' && c.column = 0 then do
    let s ← s.endBlocks?
    let (token, cursor) ← scanDirective? s.cursor
    return { s.push token with cursor }
  else if c.column = 0 && c.atMarker '-' then s.endBlocks?.map (·.mark 3 .documentStart)
  else if c.column = 0 && c.atMarker '.' then s.endBlocks?.map (·.mark 3 .documentEnd)
  else if x = '[' then s.openBracket? .listOpen
  else if x = '{' then s.openBracket? .braceOpen
  else if x = ']' then s.closeBracket? .listClose
  else if x = '}' then s.closeBracket? .braceClose
  else if x = ',' then s.comma?
  else if x = '-' && c.gapAhead 1 then s.dash?
  else if x = '?' && (!free || c.gapAhead 1) then s.questionMark?
  else if x = ':' && (!free || c.gapAhead 1) then s.colon?
  else if x = '*' then s.word? fun c => (scanAnchorName? c).map fun (n, c) => (.alias n, c)
  else if x = '&' then s.word? fun c => (scanAnchorName? c).map fun (n, c) => (.anchor n, c)
  else if x = '!' then s.word? scanTag?
  else if x = '|' && free then s.blockScalar? false
  else if x = '>' && free then s.blockScalar? true
  else if x = '\'' || x = '"' then
    s.word? fun c =>
      (scanQuoted? x (c.rest.length + 1) c.next).map fun (text, c) => (.scalar text .quoted, c)
  else if s.startsPlain x then s.plain?
  else none

/-- Reads tokens to the end of the text. -/
def run? : (steps : Nat) → Scan → Option Scan
  | 0, _ => none
  | steps + 1, s => do
    let s := skipGaps (s.cursor.rest.length + 1) s
    let s := (← s.dropStale?)
    let s := s.closeTo s.cursor.column
    match s.cursor.peek? with
    | none => (s.closeTo (-1)).dropKey?
    | some x => run? steps (← s.token? x)

end Scan

/-- The tokens of a text, nothing if it holds a character or a word that none begins with. -/
def tokens? (text : List Char) : Option (List Token) := do
  if !text.all isAllowed then failure
  let text := match text with
    | x :: rest => if x.toNat = 0xfeff then rest else text
    | [] => text
  let s ← Scan.run? (text.length + 1) { cursor := { rest := text } }
  return s.tokens

end Yaml
end BeanBuilder
