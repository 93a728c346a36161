import BeanBuilder.Java.Rule

/-!
# The grammar of Java

Declarations, statements and expressions of Java 8, as far as it matters which texts are Java.
Some texts beyond the language are accepted: every modifier may stand before every declaration, any
expression is a statement, and a member that looks like a constructor may have any name.

The phrases of the grammar are those that occur within themselves.
-/

namespace BeanBuilder
namespace Java

/-- The phrases that rules refer to. -/
inductive Phrase where
  | annotationMark
  | elementValue
  | nestedType
  | classBody
  | parametersRest
  | block
  | statement
  | initializer
  | expression
  | conditional
  | operand
  deriving DecidableEq, Repr

namespace Grammar

open Rule

/-- A rule over the phrases of Java. -/
abbrev JavaRule := Rule Phrase

/-! ### Words ahead -/

/-- An annotation, not the declaration of one. -/
def annotationAhead : Ahead
  | a :: b :: _ => a.kind = .at && b.text ≠ "interface"
  | [a] => a.kind = .at
  | [] => false

/-- The declaration of an annotation type. -/
def annotationTypeAhead : Ahead :=
  .words ["@", "interface"]

/-- The word that declares a type. -/
def typeWordAhead : Ahead :=
  .or (.oneOf ["class", "enum", "interface"]) annotationTypeAhead

/-- A name and an opening bracket. -/
def callAhead : Ahead :=
  .all [.kind .identifier, .word "("]

/-- A name and a colon. -/
def labelAhead : Ahead :=
  .all [.kind .identifier, .word ":"]

/-- The signs between two operands. -/
def infixWords : List String :=
  ["||", "&&", "|", "^", "&", "==", "!=", "<", ">", "<=", ">=", "<<", "+", "-", "*", "/", "%",
    "instanceof"]

/-- The signs before an operand. -/
def signWords : List String :=
  ["++", "--", "!", "~", "+", "-"]

/-- The signs of assignments. -/
def assignmentWords : List String :=
  ["=", "+=", "-=", "*=", "/=", "&=", "|=", "^=", "%=", "<<=", ">>=", ">>>="]

/-! ### Types and names -/

/-- A name with points between its parts. -/
def qualified : JavaRule :=
  separated "." identifier

/-- Any type. -/
def type : JavaRule :=
  skip fun ts => (readType? ts).map Prod.snd

/-- A type that values refer to. -/
def referenceType : JavaRule :=
  skip fun ts => (readReferenceType? ts).map Prod.snd

/-- A named type that is no array. -/
def typePath : JavaRule :=
  skip fun ts => (readTypePath? ts).map Prod.snd

/-- Type arguments in angle brackets. -/
def typeArguments : JavaRule :=
  skip fun ts => (readTypeArguments? ts).map Prod.snd

/-- Array dimensions. -/
def dimensions : JavaRule :=
  skip fun ts => some (readDimensions ts).2

/-- Types with commas between them. -/
def typeList : JavaRule :=
  separated "," referenceType

/-- Types in angle brackets, without wildcards. -/
def plainArguments : JavaRule :=
  word "<" ++ typeList ++ word ">"

/-- An empty pair of angle brackets, or a rule for what stands in them. -/
def orDiamond (r : JavaRule) : JavaRule :=
  choose (.words ["<", ">"]) (words ["<", ">"]) r

/-- The type parameters of a declaration. -/
def typeParameters : JavaRule :=
  word "<"
    ++ separated "," (identifier ++ ifWord "extends" (word "extends" ++ separated "&" typePath))
    ++ word ">"

/-! ### Modifiers and annotations -/

/-- Modifiers and annotations in any order. -/
def modifiers : JavaRule :=
  repeated (.or (.kind .modifier) annotationAhead)
    (choose (.kind .modifier) any (call .annotationMark))

/-- The modifiers of variables: `final` and annotations. -/
def variableModifiers : JavaRule :=
  repeated (.or (.word "final") annotationAhead)
    (choose (.word "final") any (call .annotationMark))

/-- An annotation. -/
def annotationMark : JavaRule :=
  word "@" ++ qualified ++ ifWord "("
    (word "("
      ++ unlessWord ")"
        (choose (.all [.kind .identifier, .word "="])
          (separated "," (identifier ++ word "=" ++ call .elementValue))
          (call .elementValue))
      ++ word ")")

/-- The value of an element of an annotation. -/
def elementValue : JavaRule :=
  choose annotationAhead (call .annotationMark)
    (choose (.word r"{")
      (word r"{"
        ++ unlessWord r"}"
          (call .elementValue
            ++ repeated (Ahead.or (.word r"}") (.words [",", r"}"])).no
              (word "," ++ call .elementValue)
            ++ ifWord "," (word ","))
        ++ word r"}")
      (call .conditional))

/-! ### Declarations -/

/-- The parameters of a method, one by one up to the closing bracket; one that takes any number of
arguments is the last one. -/
def parametersRest : JavaRule :=
  variableModifiers ++ type ++
    choose (.word "...")
      (word "..." ++ identifier ++ dimensions ++ word ")")
      (identifier ++ dimensions ++
        choose (.word ",") (word "," ++ call .parametersRest) (word ")"))

/-- The parameters of a method in brackets. -/
def parameters : JavaRule :=
  word "(" ++ choose (.word ")") (word ")") (call .parametersRest)

/-- The exceptions of a method. -/
def throwsList : JavaRule :=
  ifWord "throws" (word "throws" ++ separated "," qualified)

/-- A body, or a semicolon instead. -/
def bodyOrNone : JavaRule :=
  choose (.word r"{") (call .block) (word ";")

/-- A method behind its name. -/
def methodRest : JavaRule :=
  parameters ++ dimensions ++ throwsList ++ bodyOrNone

/-- A method without result behind its name. -/
def voidMethodRest : JavaRule :=
  parameters ++ throwsList ++ bodyOrNone

/-- A constructor behind its name. -/
def constructorRest : JavaRule :=
  parameters ++ throwsList ++ call .block

/-- A variable behind its name. -/
def declaratorRest : JavaRule :=
  dimensions ++ ifWord "=" (word "=" ++ call .initializer)

/-- A variable. -/
def declarator : JavaRule :=
  identifier ++ declaratorRest

/-- Fields behind the name of the first one. -/
def fieldsRest : JavaRule :=
  declaratorRest ++ repeated (.word ",") (word "," ++ declarator)

/-- Constants behind the name of the first one. -/
def constantsRest : JavaRule :=
  let one := dimensions ++ word "=" ++ call .initializer
  one ++ repeated (.word ",") (word "," ++ identifier ++ one)

/-- A generic method or constructor. -/
def genericMember : JavaRule :=
  typeParameters ++ firstOf
    [(callAhead, identifier ++ constructorRest),
      (.word "void", word "void" ++ identifier ++ voidMethodRest)]
    (type ++ identifier ++ methodRest)

/-- A member of a class behind its modifiers. -/
def memberRest : JavaRule :=
  firstOf
    [(.word "void", word "void" ++ identifier ++ voidMethodRest),
      (.word "<", genericMember),
      (typeWordAhead, call .nestedType),
      (callAhead, identifier ++ constructorRest)]
    (type ++ identifier ++ choose (.word "(") methodRest (fieldsRest ++ word ";"))

/-- A member of a class, or a block that initializes it. -/
def member : JavaRule :=
  firstOf
    [(.word ";", word ";"),
      (.words ["static", r"{"], word "static" ++ call .block),
      (.word r"{", call .block)]
    (modifiers ++ memberRest)

/-- The members of a class in braces. -/
def classBody : JavaRule :=
  word r"{" ++ untilWord r"}" member

/-- A member of an interface. -/
def interfaceMember : JavaRule :=
  choose (.word ";") (word ";")
    (modifiers ++ firstOf
      [(typeWordAhead, call .nestedType),
        (.word "<", typeParameters ++ choose (.word "void") (word "void") type ++ identifier
          ++ methodRest),
        (.word "void", word "void" ++ identifier ++ voidMethodRest)]
      (type ++ identifier ++ choose (.word "(") methodRest (constantsRest ++ word ";")))

/-- An element of an annotation type. -/
def annotationMember : JavaRule :=
  modifiers ++ choose typeWordAhead (call .nestedType)
    (type ++ identifier
      ++ choose (.word "(")
        (words ["(", ")"] ++ dimensions ++ ifWord "default" (word "default" ++ call .elementValue))
        constantsRest
      ++ word ";")

/-- A constant of an enumeration. -/
def enumConstant : JavaRule :=
  repeated annotationAhead (call .annotationMark) ++ identifier
    ++ ifWord "(" (word "(" ++ unlessWord ")" (separated "," (call .expression)) ++ word ")")
    ++ ifWord r"{" (call .classBody)

/-- The constants of an enumeration, and members behind a semicolon. -/
def enumBody : JavaRule :=
  let constants :=
    choose (.or (.word ";") (.word r"}")) empty enumConstant
  word r"{"
    ++ choose (.word ",") (word ",")
      (constants ++ repeated (.word ",") (word "," ++ constants))
    ++ ifWord ";" (word ";" ++ repeated (Ahead.word r"}").no member)
    ++ word r"}"

/-- The types that a declaration implements. -/
def implementsList : JavaRule :=
  ifWord "implements" (word "implements" ++ typeList)

/-- What stands before the body of a class. -/
def classHead : JavaRule :=
  word "class" ++ identifier ++ ifWord "<" typeParameters
    ++ ifWord "extends" (word "extends" ++ type) ++ implementsList

/-- The declaration of a type behind its modifiers. -/
def nestedType : JavaRule :=
  firstOf
    [(.word "class", classHead ++ call .classBody),
      (.word "enum", word "enum" ++ identifier ++ implementsList ++ enumBody),
      (.word "interface", word "interface" ++ identifier ++ ifWord "<" typeParameters
        ++ ifWord "extends" (word "extends" ++ typeList)
        ++ word r"{" ++ untilWord r"}" interfaceMember),
      (annotationTypeAhead, words ["@", "interface"] ++ identifier
        ++ word r"{" ++ untilWord r"}" annotationMember)]
    never

/-- The declaration of a type. -/
def typeDeclaration : JavaRule :=
  modifiers ++ call .nestedType

/-! ### Statements -/

/-- What a statement in a block begins with. -/
inductive Opening where
  | type
  | variable
  | statement
  /-- A name, which may begin a variable or a statement. -/
  | open
  deriving DecidableEq, Repr

/-- What follows a bracket that is closed again, `depth` brackets being open. -/
def afterBrackets (depth : Nat) : List Token → List Token
  | [] => []
  | t :: ts =>
    if depth = 0 then t :: ts
    else if t.text = "(" then afterBrackets (depth + 1) ts
    else if t.text = ")" then afterBrackets (depth - 1) ts
    else afterBrackets depth ts

/-- What follows the name of an annotation and its arguments.  Without arguments the token behind
the name is passed over as well. -/
def afterAnnotationMark : List Token → List Token
  | a :: b :: rest =>
    if a.text = "." then afterAnnotationMark rest
    else if a.text = "(" then afterBrackets 1 (b :: rest)
    else b :: rest
  | _ => []

/-- What a statement begins with behind modifiers and annotations; `annotated` says whether there
was an annotation. -/
def opening : (steps : Nat) → (annotated : Bool) → List Token → Opening
  | 0, _, _ => .statement
  | _, _, [] => .statement
  | steps + 1, annotated, t :: ts =>
    if t.kind = .modifier then if t.text = "final" then opening steps annotated ts else .type
    else if annotationAhead (t :: ts) then opening steps true (afterAnnotationMark (ts.drop 1))
    else if typeWordAhead (t :: ts) || t.kind = .at then .type
    else if annotated || t.kind = .basicType then .variable
    else if t.kind = .identifier then .open
    else .statement

/-- Whether a statement in a block begins in a given way. -/
def opensAs (o : Opening) : Ahead :=
  fun ts => opening (ts.length + 1) false ts = o

/-- The declaration of local variables. -/
def localVariables : JavaRule :=
  variableModifiers ++ type ++ separated "," declarator ++ word ";"

/-- A statement in a block; what may be a variable is tried as one first. -/
def blockStatement : JavaRule :=
  firstOf
    [(labelAhead, call .statement),
      (.word "synchronized", call .statement),
      (opensAs .type, typeDeclaration),
      (opensAs .variable, localVariables),
      (opensAs .statement, call .statement)]
    (orElse localVariables (call .statement))

/-- An expression in brackets. -/
def bracketed : JavaRule :=
  word "(" ++ call .expression ++ word ")"

/-- Expressions with commas between them. -/
def expressions : JavaRule :=
  separated "," (call .expression)

/-- The condition and the steps of a loop behind its first semicolon. -/
def loopRest : JavaRule :=
  unlessWord ";" (call .expression) ++ word ";" ++ unlessWord ")" expressions

/-- The head of a loop that declares its variable. -/
def variableLoop : JavaRule :=
  variableModifiers ++ type ++ identifier ++ dimensions
    ++ choose (.word ":") (word ":" ++ call .expression)
      (unlessWord ";"
          (ifWord "=" (word "=" ++ call .initializer)
            ++ repeated (.word ",") (word "," ++ declarator))
        ++ word ";" ++ loopRest)

/-- The head of any loop. -/
def loopHead : JavaRule :=
  orElse variableLoop (unlessWord ";" expressions ++ word ";" ++ loopRest)

/-- The label of a case. -/
def caseLabel : JavaRule :=
  choose (.word "case") (word "case" ++ choose labelAhead identifier (call .expression))
      (word "default")
    ++ word ":"

/-- The cases of a selection, each with its statements. -/
def cases : JavaRule :=
  unlessWord r"}"
    (caseLabel ++ repeated (Ahead.word r"}").no
      (choose (.oneOf ["case", "default"]) caseLabel blockStatement))

/-- A resource of a guarded block. -/
def resource : JavaRule :=
  variableModifiers ++ typePath ++ dimensions ++ identifier ++ dimensions ++ word "="
    ++ call .expression

/-- The resources of a guarded block. -/
def resources : JavaRule :=
  word "(" ++ resource ++ repeated (.word ";") (word ";" ++ unlessWord ")" resource) ++ word ")"

/-- A clause for exceptions. -/
def catchClause : JavaRule :=
  words ["catch", "("] ++ variableModifiers ++ separated "|" qualified ++ identifier ++ word ")"
    ++ call .block

/-- A final block. -/
def finalBlock : JavaRule :=
  word "finally" ++ call .block

/-- A guarded block: with resources, or with a clause for exceptions, or with a final block. -/
def guarded : JavaRule :=
  let clauses := repeated (.word "catch") catchClause
  word "try" ++ choose (.word r"{")
    (call .block
      ++ choose (.word "catch") (clauses ++ ifWord "finally" finalBlock) finalBlock)
    (resources ++ call .block ++ clauses ++ ifWord "finally" finalBlock)

/-- A jump that may name a label. -/
def jump (text : String) : JavaRule :=
  word text ++ ifAhead (.kind .identifier) identifier ++ word ";"

/-- A statement. -/
def statement : JavaRule :=
  firstOf
    [(.word r"{", call .block),
      (.word ";", word ";"),
      (labelAhead, identifier ++ word ":" ++ call .statement),
      (.word "if", word "if" ++ bracketed ++ call .statement
        ++ ifWord "else" (word "else" ++ call .statement)),
      (.word "assert", word "assert" ++ call .expression
        ++ ifWord ":" (word ":" ++ call .expression) ++ word ";"),
      (.word "switch", word "switch" ++ bracketed ++ word r"{" ++ cases ++ word r"}"),
      (.word "while", word "while" ++ bracketed ++ call .statement),
      (.word "do", word "do" ++ call .statement ++ word "while" ++ bracketed ++ word ";"),
      (.word "for", words ["for", "("] ++ loopHead ++ word ")" ++ call .statement),
      (.word "break", jump "break"),
      (.word "continue", jump "continue"),
      (.word "return", word "return" ++ unlessWord ";" (call .expression) ++ word ";"),
      (.word "throw", word "throw" ++ call .expression ++ word ";"),
      (.word "synchronized", word "synchronized" ++ bracketed ++ call .block),
      (.word "try", guarded)]
    (call .expression ++ word ";")

/-- Statements in braces. -/
def block : JavaRule :=
  word r"{" ++ untilWord r"}" blockStatement

/-! ### Expressions -/

/-- The initial values of an array in braces; a comma may stand at the end. -/
def arrayInitializer : JavaRule :=
  let values :=
    call .initializer ++ repeated (Ahead.word r"}").no
      (word "," ++ unlessWord r"}" (call .initializer))
  word r"{" ++ choose (.word ",") (word ",") (unlessWord r"}" values) ++ word r"}"

/-- An initial value. -/
def initializer : JavaRule :=
  choose (.word r"{") arrayInitializer (call .expression)

/-- The arguments of a call. -/
def arguments : JavaRule :=
  word "(" ++ unlessWord ")" expressions ++ word ")"

/-- An expression, or an assignment to it. -/
def expression : JavaRule :=
  call .conditional ++ ifAhead (.oneOf assignmentWords) (any ++ call .expression)

/-- The sign between two operands; several closing brackets are one sign. -/
def infixSign : JavaRule :=
  choose (.word ">") (word ">" ++ ifWord ">" (word ">" ++ ifWord ">" (word ">"))) any

/-- Operands with signs between them. -/
def operands : JavaRule :=
  call .operand ++ repeated (.oneOf infixWords)
    (choose (.word "instanceof") (word "instanceof" ++ type) (infixSign ++ call .operand))

/-- The arrow and the body of a function. -/
def functionBody : JavaRule :=
  word "->" ++ choose (.word r"{") (call .block) (call .expression)

/-- Operands, and a choice, a function body or the name of a method behind them. -/
def conditional : JavaRule :=
  operands ++ firstOf
    [(.word "?", word "?" ++ call .expression ++ word ":" ++ call .conditional),
      (.word "->", functionBody),
      (.word "::", word "::" ++ ifWord "<" plainArguments
        ++ choose (.word "new") (word "new") (call .expression))]
    empty

/-- The parameters of a function without their types; commas may stand behind them. -/
def untypedParameters : JavaRule :=
  word "(" ++ untilWord ")" (identifier ++ ifWord "," (word ","))

/-- A function with its parameters in brackets. -/
def function : JavaRule :=
  choose (.all [.word "(", .kind .identifier, .word ","]) untypedParameters parameters
    ++ functionBody

/-- A cast and its operand. -/
def cast : JavaRule :=
  word "(" ++ type ++ word ")" ++ call .operand

/-- What follows `super`. -/
def superRest : JavaRule :=
  choose (.word ".")
    (word "." ++ ifWord "<" plainArguments ++ identifier ++ ifWord "(" arguments)
    arguments

/-- A call behind its type arguments. -/
def genericCallRest : JavaRule :=
  choose (.word "super") (word "super" ++ superRest) (identifier ++ arguments)

/-- The arguments of a new object and perhaps the body of its class. -/
def objectRest : JavaRule :=
  arguments ++ ifWord r"{" (call .classBody)

/-- The lengths or the values of a new array. -/
def arrayRest : JavaRule :=
  choose (.words ["[", "]"]) (dimensions ++ arrayInitializer)
    (repeated (fun ts => Ahead.word "[" ts && !Ahead.words ["[", "]"] ts)
        (word "[" ++ call .expression ++ word "]")
      ++ dimensions)

/-- The name of the class of a new object. -/
def createdName : JavaRule :=
  separated "." (identifier ++ ifWord "<" (orDiamond typeArguments))

/-- A new object or array behind `new`. -/
def creation : JavaRule :=
  firstOf
    [(.kind .basicType, any ++ arrayRest),
      (.word "<", plainArguments ++ createdName ++ choose (.word "[") never objectRest)]
    (createdName ++ choose (.word "[") arrayRest objectRest)

/-- A new object of a class within that of another object, behind `new`. -/
def innerCreation : JavaRule :=
  ifWord "<" plainArguments ++ identifier ++ ifWord "<" (orDiamond plainArguments) ++ objectRest

/-- What follows a name with points. -/
def nameRest : JavaRule :=
  firstOf
    [(.words ["[", "]"], dimensions ++ words [".", "class"]),
      (.word "(", arguments),
      (.words [".", "class"], words [".", "class"]),
      (.words [".", "this"], words [".", "this"]),
      (.words [".", "<"], word "." ++ plainArguments ++ genericCallRest),
      (.words [".", "new"], words [".", "new"] ++ innerCreation),
      (.words [".", "super", "("], words [".", "super"] ++ arguments)]
    empty

/-- An operand without signs, casts and selections. -/
def primary : JavaRule :=
  firstOf
    [(.kind .literal, any),
      (.word "(", bracketed),
      (.word "this", word "this" ++ ifWord "(" arguments),
      (.words ["super", "::"], word "super"),
      (.word "super", word "super" ++ superRest),
      (.word "new", word "new" ++ creation),
      (.word "<", plainArguments
        ++ choose (.word "this") (word "this" ++ arguments) genericCallRest),
      (.kind .identifier,
        identifier
          ++ repeated (.all [.word ".", .kind .identifier]) (word "." ++ identifier)
          ++ nameRest),
      (.kind .basicType, any ++ dimensions ++ words [".", "class"]),
      (.word "void", words ["void", ".", "class"])]
    never

/-- The selection of an element or a member. -/
def selector : JavaRule :=
  choose (.word "[") (word "[" ++ call .expression ++ word "]")
    (word "." ++ firstOf
      [(.kind .identifier, identifier ++ ifWord "(" arguments),
        (.words ["super", "::"], word "super"),
        (.word "<", plainArguments ++ genericCallRest),
        (.word "this", word "this"),
        (.word "super", word "super" ++ superRest),
        (.word "new", word "new" ++ innerCreation)]
      never)

/-- An operand with its selections and the signs behind it. -/
def selected : JavaRule :=
  primary ++ repeated (.oneOf ["[", "."]) selector ++ repeated (.oneOf ["++", "--"]) any

/-- An operand.  Behind an opening bracket a function is tried first and then a cast. -/
def operand : JavaRule :=
  repeated (.oneOf signWords) any
    ++ choose (.word "(") (orElse function (orElse cast selected)) selected

/-- The rule of every phrase. -/
def rule : Phrase → JavaRule
  | .annotationMark => annotationMark
  | .elementValue => elementValue
  | .nestedType => nestedType
  | .classBody => classBody
  | .parametersRest => parametersRest
  | .block => block
  | .statement => statement
  | .initializer => initializer
  | .expression => expression
  | .conditional => conditional
  | .operand => operand

/-- The step of a phrase; `calls` bounds the phrases within phrases. -/
def follow : (calls : Nat) → Phrase → Step
  | 0 => fun _ c => .error c.back
  | calls + 1 => fun p => (rule p).run (follow calls)

/-- A number of calls that is enough for some tokens: no more than a few phrases begin at one. -/
def phraseCalls (ts : List Token) : Nat :=
  8 * ts.length + 8

/-- How far a rule reads some tokens as an attempt of its own. -/
def course? (r : JavaRule) (ts : List Token) : Option Course :=
  (r.run (follow (phraseCalls ts)) (.start ts)).toOption

/-- What follows a rule that some tokens begin with. -/
def after? (r : JavaRule) (ts : List Token) : Option (List Token) :=
  (course? r ts).map Course.rest

end Grammar
end Java
end BeanBuilder
