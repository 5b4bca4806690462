import CodeAtlas.Pattern

/-! Languages and how a source file is told to be in one of them. -/
namespace CodeAtlas

inductive Language where
  | cobol
  | jcl
  | sas
  | rpg
  | flink
  | fortran
  | pli
  | assembly
  | c
  | cpp
  | python
  | java
  | javascript
  | typescript
  | csharp
  | go
  | ruby
  | php
  | unknown
deriving DecidableEq, Repr, Inhabited

namespace Language

def label : Language → Text
  | .cobol => "cobol"
  | .jcl => "jcl"
  | .sas => "sas"
  | .rpg => "rpg"
  | .flink => "flink"
  | .fortran => "fortran"
  | .pli => "pli"
  | .assembly => "assembly"
  | .c => "c"
  | .cpp => "cpp"
  | .python => "python"
  | .java => "java"
  | .javascript => "javascript"
  | .typescript => "typescript"
  | .csharp => "csharp"
  | .go => "go"
  | .ruby => "ruby"
  | .php => "php"
  | .unknown => "unknown"

/-- The languages that can be told, in the order in which they are considered. -/
def known : List Language :=
  [.cobol, .jcl, .sas, .rpg, .flink, .fortran, .pli, .assembly, .c, .cpp, .python, .java,
    .javascript, .typescript, .csharp, .go, .ruby, .php]

def ofLabel? (label : Text) : Option Language :=
  (known ++ [unknown]).find? fun l => l.label == label

section Signs
open Pattern

def extension (s : Text) : Pattern := text ("." ++ s) ++ .ending

def phrase : List Text → Pattern
  | [] => .empty
  | [w] => text w
  | w :: ws => text w ++ gap ++ phrase ws

def wordThenName (s : Text) : Pattern := text s ++ gap ++ Pattern.word

def wordThenGap (s : Text) : Pattern := text s ++ gap

/-- A named job control statement with the given operation. -/
def jobStatement (operation : Text) : Pattern :=
  text "//" ++ Pattern.word ++ gap ++ text operation

/-- The signs of a language, in names and in contents alike. -/
def signs : Language → List Pattern
  | .cobol => [extension "cob", extension "cbl", extension "cpy",
      phrase ["IDENTIFICATION", "DIVISION"], text "PROGRAM-ID", phrase ["PROCEDURE", "DIVISION"],
      phrase ["DATA", "DIVISION"]]
  | .jcl => [extension "jcl", jobStatement "JOB", jobStatement "EXEC", jobStatement "DD",
      text "//SYSOUT"]
  | .sas => [extension "sas", wordThenName "proc", wordThenName "data", text "run;",
      wordThenGap "libname", text "%macro", text "%mend"]
  | .rpg => [extension "rpg", extension "rpgle", text "dcl-proc", text "dcl-f", text "dcl-ds",
      text "dcl-c", text "ctl-opt"]
  | .flink => [extension "flink", extension "flk", text "StreamExecutionEnvironment",
      text "DataStream", text "createLocalEnvironment"]
  | .fortran => [extension "for", extension "f", extension "f77", extension "f90",
      wordThenName "program", wordThenName "subroutine", wordThenName "function",
      phrase ["end", "program"]]
  | .pli => [extension "pli", extension "pl1", phrase ["PROCEDURE", "OPTIONS"], text "DECLARE",
      text "END;"]
  | .assembly => [extension "asm", extension "s", extension "S", phrase ["section", ".text"],
      phrase ["global", "_start"], text ".data", text ".bss"]
  | .c => [extension "c", extension "h", text "#include" ++ blanks ++ text "<",
      phrase ["int", "main"] ++ blanks ++ text "("]
  | .cpp => [extension "cpp", extension "cc", extension "cxx", extension "hpp",
      text "#include" ++ blanks ++ text "<iostream>", phrase ["using", "namespace"]]
  | .python => [extension "py", wordThenGap "import", wordThenGap "def", wordThenGap "class"]
  | .java => [extension "java", phrase ["public", "class"], phrase ["import", "java."]]
  | .javascript => [extension "js", wordThenGap "const", wordThenGap "let",
      wordThenGap "function", wordThenGap "export"]
  | .typescript => [extension "ts", extension "tsx", wordThenGap "interface", wordThenGap "type",
      wordThenGap "export"]
  | .csharp => [extension "cs", wordThenGap "namespace", phrase ["using", "System"],
      phrase ["public", "class"]]
  | .go => [extension "go", wordThenGap "package", phrase ["import", "("], wordThenGap "func"]
  | .ruby => [extension "rb", wordThenGap "require", wordThenGap "def", wordThenGap "class"]
  | .php => [extension "php", text "<?php", wordThenGap "function", wordThenGap "class"]
  | .unknown => []

end Signs

/-- How signs are looked for in a file name: with one ending, at the end of the name. -/
def pathMode : Mode := ⟨true, false⟩

def contentMode : Mode := ⟨true, true⟩

/-- A sign counts two in the name and one in the content. -/
def signScore (path content : Text) (sign : Pattern) : Nat :=
  (if sign.occursIn pathMode path then 2 else 0) +
    (if sign.occursIn contentMode content then 1 else 0)

def score (path content : Text) (l : Language) : Nat :=
  l.signs.foldr (fun sign total => signScore path content sign + total) 0

/-- The first language with two points. -/
def detect (path content : Text) : Language :=
  (known.find? fun l => 2 ≤ l.score path content).getD .unknown

end Language

end CodeAtlas
