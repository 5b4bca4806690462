import CodeAtlas.Outline
import CodeAtlas.Outline.Rule
import CodeAtlas.Text.Case
import CodeAtlas.Text.Cut

/-! The outline of a source file by rules alone: what the rules of its language find, and which of
the things found call, use or extend one another. -/
namespace CodeAtlas

/-- A source file. Its language is named by a label, which need not be one that has rules. -/
structure Source where
  path : Text
  label : Value
  content : Text

namespace Source

/-- A source file from values: the label may not be a list or a dictionary, and the path and the
content have to be texts. -/
def ofValues (content label path : Value) : Except Fault Source :=
  if label.isHashable then
    match path, content with
    | .str path, .str content => .ok ⟨path, label, content⟩
    | .str _, .list _ => .error (.notText "list")
    | .str _, v => .error (.lacksOperation v.typeName "count")
    | v, _ => .error (.notPath v.typeName)
  else .error (.notHashable label.typeName)

def language (src : Source) : Language :=
  match src.label with
  | .str s => (Language.ofLabel? s).getD .unknown
  | _ => .unknown

def fileName (src : Source) : Text := Path.baseName src.path

/-- The file name without its extension, which tells apart equal names of different files. -/
def stem (src : Source) : Text := Path.withoutExtension src.fileName

def lineCount (src : Source) : Nat := Text.lineBreaks src.content + 1

end Source

structure Finding where
  kind : Kind
  hit : Hit
  /-- The name as it stands in the source. -/
  name : Text := hit.name
deriving Repr

namespace Finding

def line (f : Finding) : Nat := f.hit.start.line

/-- Number of lines from the one that holds the start to the one that holds the end. -/
def lineSpan (f : Finding) : Nat := Text.lineBreaks f.hit.text + 1

/-- A name counts unless it is a single character that is neither letter nor digit. -/
def isNamed (f : Finding) : Bool :=
  match f.name with
  | [] => false
  | [c] => Text.isAlnum c
  | _ => true

/-- The name under which the finding is known outside its file. -/
def uniqueName (src : Source) (f : Finding) : Text :=
  if f.kind.isImport then f.name else f.name ++ "-" ++ src.stem

/-- The source from a hundred characters before to two hundred after, at most five hundred in
all. -/
def sample (f : Finding) : Text :=
  let text := f.hit.start.text
  let first := f.hit.start.offset - 100
  ((text.take (f.hit.stop.offset + 200)).drop first).take 500

def standardModules : List Text :=
  ["os", "sys", "re", "math", "json", "time", "datetime", "random", "collections", "itertools",
    "functools", "threading", "multiprocessing"]

def isStandard (src : Source) (f : Finding) : Bool :=
  match src.language with
  | .c | .cpp =>
    f.hit.text.contains '<' && f.hit.text.contains '>'
  | .python => standardModules.contains ((Text.split '.' f.name).headD "")
  | _ => false

def importEntity (src : Source) (f : Finding) : Entity where
  name := .str f.name
  kind := .str "import"
  path := .str src.path
  description := .str ("Import " ++ f.name ++ " in " ++ src.fileName)
  properties := .dict [
    ("line_number", .int f.line),
    ("include_syntax", .str (Text.trim f.hit.text)),
    ("is_standard_library", .bool (f.isStandard src)),
    ("source_file", .str src.fileName)]

def definitionEntity (src : Source) (f : Finding) : Entity where
  name := .str (f.uniqueName src)
  kind := .str f.kind.label
  path := .str src.path
  description := .str
    (Text.capitalize f.kind.label ++ " '" ++ f.name ++ "' in " ++ src.fileName)
  properties := .dict [
    ("original_name", .str f.name),
    ("line_number", .int f.line),
    ("code_length", .int f.lineSpan),
    ("context_sample", .str f.sample),
    ("source_file", .str src.fileName)]

def entity (src : Source) (f : Finding) : Entity :=
  if f.kind.isImport then f.importEntity src else f.definitionEntity src

/-- How the file itself is related to the finding. -/
def membership (src : Source) (f : Finding) : Relationship where
  source := .str src.fileName
  target := .str (f.uniqueName src)
  kind := .str (if f.kind.isImport then "imports" else "defines")
  context := .str <|
    if f.kind.isImport then src.fileName ++ " imports " ++ f.name
    else "File " ++ src.fileName ++ " defines " ++ f.kind.label ++ " " ++ f.name

end Finding

namespace Source

def findings (src : Source) : List Finding :=
  (Outline.rulesFor src.language).flatMap fun (kind, rule) =>
    ((rule.hits (Outline.modeFor src.language) src.content).map fun hit =>
      { kind, hit : Finding }).filter Finding.isNamed

def fileEntity (src : Source) : Entity where
  name := .str src.fileName
  kind := .str "source_file"
  path := .str src.path
  description := .str ("Source file " ++ src.path)
  properties := .dict [
    ("path", .str src.path),
    ("language", src.label),
    ("line_count", .int src.lineCount)]

def isCalled (src : Source) (f : Finding) : Bool :=
  (Outline.callOf f.name).occursIn Outline.exactMode src.content

/-- Calls by the callable finding `f`, at position `i` among the findings: of every other callable
whose call stands somewhere in the file. -/
def calls (src : Source) (called : List (Finding × Nat)) (f : Finding) (i : Nat) :
    List Relationship :=
  (called.filter fun (_, j) => j != i).map fun (g, _) =>
    { source := .str (f.uniqueName src)
      target := .str (g.uniqueName src)
      kind := .str "calls"
      context := .str ("Function " ++ f.name ++ " calls " ++ g.name ++ " in " ++ src.fileName) }

/-- Uses by the callable finding `f`: of every variable mentioned in its body, if it has one. -/
def uses (src : Source) (vars : List Finding) (f : Finding) : List Relationship :=
  match (Outline.bodyOf f.name).first? Outline.exactMode src.content with
  | none => []
  | some body =>
    (vars.filter fun g => (Outline.mention g.name).occursIn Outline.exactMode body.name).map
      fun g =>
        { source := .str (f.uniqueName src)
          target := .str (g.uniqueName src)
          kind := .str "uses"
          context := .str
            ("Function " ++ f.name ++ " uses variable " ++ g.name ++ " in " ++ src.fileName) }

/-- The class of the same file that the class `f` extends, if it is among the findings. -/
def parents (src : Source) (all : List Finding) (f : Finding) : List Relationship :=
  match Outline.parentOf f.name src.language with
  | none => []
  | some rule =>
    match rule.first? Outline.exactMode src.content with
    | none => []
    | some hit =>
      match all.find? fun g => g.kind == .classDef && g.name == hit.name with
      | none => []
      | some g =>
        [{ source := .str (f.uniqueName src)
           target := .str (g.uniqueName src)
           kind := .str "inherits"
           context := .str
            ("Class " ++ f.name ++ " inherits from " ++ g.name ++ " in " ++ src.fileName) }]

def links (src : Source) (all : List Finding) : List Relationship :=
  let called := all.zipIdx.filter fun (f, _) => f.kind.isCallable && src.isCalled f
  let vars := all.filter fun f => f.kind == .variable
  all.zipIdx.flatMap fun (f, i) =>
    if f.kind.isCallable then src.calls called f i ++ src.uses vars f
    else if f.kind == .classDef then src.parents all f
    else []

/-- The outline by rules: the file, the findings, how the file relates to each, and how they relate
to one another. -/
def scan (src : Source) : Outline :=
  let all := src.findings
  { entities := src.fileEntity :: all.map (Finding.entity src)
    relationships := all.map (Finding.membership src) ++ src.links all }

end Source

end CodeAtlas
