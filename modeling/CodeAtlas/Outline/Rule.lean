import CodeAtlas.Language

/-! What is looked for in a source file of each language. -/
namespace CodeAtlas

inductive Kind where
  | paragraph
  | variable
  | fileEntry
  | program
  | businessRule
  | function
  | record
  | includeLine
  | defined
  | method
  | classDef
  | importClause
  | fromClause
  | interfaceDef
  | arrowFunction
  | typeAlias
deriving DecidableEq, Repr

namespace Kind

def label : Kind → Text
  | .paragraph => "paragraph"
  | .variable => "variable"
  | .fileEntry => "file"
  | .program => "program"
  | .businessRule => "business_rule"
  | .function => "function"
  | .record => "struct"
  | .includeLine => "include"
  | .defined => "define"
  | .method => "method"
  | .classDef => "class"
  | .importClause => "import"
  | .fromClause => "from_import"
  | .interfaceDef => "interface"
  | .arrowFunction => "arrow_function"
  | .typeAlias => "type"

def isImport : Kind → Bool
  | .includeLine | .importClause | .fromClause => true
  | _ => false

def isCallable : Kind → Bool
  | .function | .method | .paragraph => true
  | _ => false

end Kind

namespace Outline

open Pattern

/-- Capital letters, digits and hyphens. -/
def cobolPart : CharClass :=
  .either (.range 'A' 'Z') (.either (.range '0' '9') (.char '-'))

def cobolName : Pattern := .run cobolPart 1

def dottedName : Pattern := .one .nameStart ++ .run (.either .namePart (.char '.')) 0

def wordStart : Pattern := .alt .lineStart (.one .blank)

/-- `start`, then everything up to a later occurrence of `stop` with no `avoid` in between. -/
def bracketed (start avoid stop : CodePoint) : Pattern :=
  char start ++ .run (.except (.char avoid)) 0 ++ char stop

def bodyStart : Pattern := char '\x7b'

def plainTypes : List Pattern :=
  [text "int", text "char", text "float", text "double", text "long", text "size_t"]

def typedefName : Pattern := Pattern.word ++ text "_t"

def structName : Pattern := text "struct" ++ gap ++ Pattern.word

def scopedTypes : List Pattern :=
  [text "bool", text "auto", text "std::" ++ Pattern.word]

def scopedName : Pattern := Pattern.word ++ text "::" ++ Pattern.word

def cValueType : Pattern := firstOf (plainTypes ++ [typedefName])

def cReturnType : Pattern := firstOf (text "void" :: plainTypes ++ [structName, typedefName])

def cppValueType : Pattern := firstOf (plainTypes ++ scopedTypes ++ [scopedName, typedefName])

def cppReturnType : Pattern :=
  firstOf (text "void" :: plainTypes ++ scopedTypes ++ [structName, scopedName, typedefName])

def cppMethodType : Pattern :=
  firstOf (text "void" :: plainTypes ++ scopedTypes ++ [scopedName, typedefName])

def parametersAndBody (avoid : CodePoint) (between : Pattern) : Pattern :=
  blanks ++ bracketed '(' avoid ')' ++ blanks ++ between ++ bodyStart

/-- What ends the declared name of a variable: a value, a semicolon or an array size. -/
def variableEnd : Pattern := blanks ++ firstOf [char '=', char ';', char '[']

def includeRule : Rule :=
  ⟨text "#include" ++ blanks ++ .one (.oneOf ['<', '"']), .run (.noneOf ['>', '"']) 1,
    .one (.oneOf ['>', '"'])⟩

def defineRule : Rule := ⟨text "#define" ++ gap, identifier, .empty⟩

def structRule : Rule := ⟨text "struct" ++ gap, identifier, blanks ++ bodyStart⟩

def modifier : Pattern :=
  firstOf [.one .blank, text "public", text "private", text "protected", text "static"]

def visibility : Pattern := anyText ["public", "private", "protected"]

/-- What modifiers and types are made of: words, brackets, commas and blanks. -/
def typePart : CharClass := .either .blank (.either .word (.oneOf ['<', '>', '[', ']', ',']))

/-- What stands before the name of a member: a modifier, and then further modifiers and a type, up
to a blank. -/
def memberLead : Pattern := modifier ++ .run typePart 1 ++ .one .blank

def throwsClause : Pattern :=
  text "throws" ++ gap ++ .run (.either .blank (.either .word (.char ','))) 1

def declarator : Pattern := anyText ["const", "let", "var"] ++ gap

def arrowTail : Pattern :=
  blanks ++ char '=' ++ blanks ++ optional (text "async" ++ blanks) ++ bracketed '(' ')' ')' ++
    blanks ++ text "=>"

def quotedImport : Rule :=
  ⟨text "import" ++ gap ++
      .alt (bracketed '\x7b' '\x7d' '\x7d') (.run (.noneOf ['\x7b', ';']) 0) ++
      gap ++ text "from" ++ gap ++ .one (.oneOf ['\'', '"']),
    .run (.noneOf ['\'', '"']) 1, .one (.oneOf ['\'', '"'])⟩

/-- From the end of a name to the start of its parameters. In between there may be type parameters,
which are read generously: anything up to the first closing angle bracket. -/
def parametersStart : Pattern :=
  .run (.except (.char '>')) 0 ++ .alt (char '>' ++ blanks ++ char '(') (char '(')

def cobolRules : List (Kind × Rule) := [
  (.paragraph, ⟨.lineStart ++ .run (.char ' ') 0,
    .one (.either (.range 'A' 'Z') (.range '0' '9')) ++ .run cobolPart 0, blanks ++ char '.'⟩),
  (.variable, ⟨.lineStart ++ blanks ++ .run .digit 1 ++ gap, cobolName,
    .alt (gap ++ text "PIC") (gap ++ text "PICTURE")⟩),
  (.fileEntry, ⟨text "SELECT" ++ gap, cobolName,
    gap ++ text "ASSIGN" ++ gap ++ text "TO"⟩),
  (.program, ⟨text "PROGRAM-ID" ++ .one .inLine ++ gap, cobolName, .empty⟩),
  (.businessRule, ⟨.lineStart ++ blanks ++ text "IF" ++ gap, .shortRun .inLine 1,
    gap ++ text "THEN"⟩)]

def cRules : List (Kind × Rule) := [
  (.function, ⟨wordStart ++ optional (text "static" ++ gap) ++ cReturnType ++ gap, identifier,
    parametersAndBody ';' .empty⟩),
  (.variable, ⟨wordStart ++ optional (text "static" ++ gap) ++ cValueType ++ gap, identifier,
    variableEnd⟩),
  (.record, structRule),
  (.includeLine, includeRule),
  (.defined, defineRule)]

def cppRules : List (Kind × Rule) := [
  (.function, ⟨wordStart ++ optional (text "static" ++ gap) ++ cppReturnType ++ gap, identifier,
    parametersAndBody ';' (optional (text "const" ++ blanks))⟩),
  (.method, ⟨wordStart ++ optional (text "virtual" ++ gap) ++ cppMethodType ++ gap,
    .one .nameStart ++ .run (.either .namePart (.oneOf ['<', '>'])) 0,
    text "::" ++ blanks ++ identifier ++
      parametersAndBody ';' (optional (text "const" ++ blanks))⟩),
  (.classDef, ⟨text "class" ++ gap, identifier,
    blanks ++ firstOf [char ':', text "final", bodyStart]⟩),
  (.variable, ⟨wordStart ++ optional (text "static" ++ gap) ++ cppValueType ++ gap, identifier,
    variableEnd⟩),
  (.record, structRule),
  (.includeLine, includeRule),
  (.defined, defineRule)]

def pythonRules : List (Kind × Rule) := [
  (.function, ⟨text "def" ++ gap, identifier, blanks ++ char '('⟩),
  (.classDef, ⟨text "class" ++ gap, identifier, blanks ++ .alt (char '(') (char ':')⟩),
  (.method, ⟨text "def" ++ gap, identifier, blanks ++ char '(' ++ blanks ++ text "self"⟩),
  (.variable, ⟨.empty, identifier, blanks ++ char '=' ++ blanks ++
    .unless (.run .inLine 0 ++ text "def" ++ .one .blank)⟩),
  (.importClause, ⟨text "import" ++ gap, dottedName,
    optional (gap ++ text "as" ++ gap ++ identifier) ++ .ending⟩),
  (.fromClause, ⟨text "from" ++ gap, dottedName, gap ++ text "import"⟩)]

def javaRules : List (Kind × Rule) := [
  (.function, ⟨memberLead, identifier,
    blanks ++ bracketed '(' ')' ')' ++ blanks ++ optional throwsClause ++ blanks ++ bodyStart⟩),
  (.classDef, ⟨visibility ++ gap ++ text "class" ++ gap, identifier, .empty⟩),
  (.interfaceDef, ⟨visibility ++ gap ++ text "interface" ++ gap, identifier, .empty⟩),
  (.variable, ⟨memberLead, identifier, blanks ++ .alt (char '=') (char ';')⟩),
  (.importClause, ⟨text "import" ++ gap, dottedName,
    optional (blanks ++ char '*') ++ char ';'⟩)]

def javascriptRules : List (Kind × Rule) := [
  (.function, ⟨text "function" ++ gap, identifier, blanks ++ char '('⟩),
  (.classDef, ⟨text "class" ++ gap, identifier, .empty⟩),
  (.method, ⟨optional (text "async" ++ gap), identifier, parametersAndBody ')' .empty⟩),
  (.arrowFunction, ⟨declarator, identifier, arrowTail⟩),
  (.variable, ⟨declarator, identifier, blanks ++ char '='⟩),
  (.importClause, quotedImport)]

def typescriptRules : List (Kind × Rule) := [
  (.function, ⟨text "function" ++ gap, identifier, parametersStart⟩),
  (.classDef, ⟨text "class" ++ gap, identifier, .empty⟩),
  (.interfaceDef, ⟨text "interface" ++ gap, identifier, .empty⟩),
  (.method, ⟨optional (text "async" ++ gap), identifier,
    parametersStart ++ .run (.except (.char ')')) 0 ++ char ')' ++ blanks ++ bodyStart⟩),
  (.arrowFunction, ⟨declarator, identifier, arrowTail⟩),
  (.variable, ⟨declarator, identifier, blanks ++ optional (char ':')⟩),
  (.typeAlias, ⟨text "type" ++ gap, identifier, blanks ++ char '='⟩),
  (.importClause, quotedImport)]

def generalRules : List (Kind × Rule) := [
  (.function, ⟨text "function" ++ gap, identifier, .empty⟩),
  (.classDef, ⟨text "class" ++ gap, identifier, .empty⟩),
  (.variable, ⟨anyText ["var", "let", "const"] ++ gap, identifier, .empty⟩)]

def rulesFor : Language → List (Kind × Rule)
  | .cobol => cobolRules
  | .c => cRules
  | .cpp => cppRules
  | .python => pythonRules
  | .java => javaRules
  | .javascript => javascriptRules
  | .typescript => typescriptRules
  | _ => generalRules

/-- Cobol is read with regard to case. -/
def modeFor : Language → Mode
  | .cobol => ⟨false, true⟩
  | _ => ⟨true, true⟩

def exactMode : Mode := ⟨false, true⟩

def callOf (name : Text) : Pattern := .wordEdge ++ text name ++ blanks ++ char '('

def mention (name : Text) : Pattern := .wordEdge ++ text name ++ .wordEdge

/-- The body of the function `name`, up to the first closing brace. -/
def bodyOf (name : Text) : Rule :=
  ⟨anyText ["function", "def", "void", "int", "string", "bool"] ++ gap ++ text name ++
      blanks ++ bracketed '(' '\x7b' ')' ++ blanks ++ bodyStart,
    .shortRun .everything 0, char '\x7d'⟩

def parentOf (name : Text) : Language → Option Rule
  | .python => some ⟨text "class" ++ gap ++ text name ++ blanks ++ char '(' ++ blanks, identifier,
      blanks ++ char ')'⟩
  | .java | .javascript | .php =>
    some ⟨text "class" ++ gap ++ text name ++ gap ++ text "extends" ++ gap, identifier, .empty⟩
  | .cpp => some ⟨text "class" ++ gap ++ text name ++ blanks ++ char ':' ++ blanks ++
      anyText ["public", "protected", "private"] ++ gap, identifier, .empty⟩
  | _ => none

end Outline

end CodeAtlas
