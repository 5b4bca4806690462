import CodeAtlas.Text.Case
import CodeAtlas.Text.Cut

/-! The vocabulary of the graph: types of files, labels of nodes and types of relationships. -/
namespace CodeAtlas.Graph

inductive FileType where
  | sourceFile
  | pythonModule
  | javaScriptModule
  | javaClass
  | cppFile
  | cobolProgram
  | sasProgram
  | jclJob
  | flinkJob
  | rpgProgram
  | pliProgram
  | assemblyFile
  | fortranProgram
  | dataFile
deriving DecidableEq, Repr

namespace FileType

def label : FileType → Text
  | .sourceFile => "SourceFile"
  | .pythonModule => "PythonModule"
  | .javaScriptModule => "JavaScriptModule"
  | .javaClass => "JavaClass"
  | .cppFile => "CppFile"
  | .cobolProgram => "CobolProgram"
  | .sasProgram => "SasProgram"
  | .jclJob => "JclJob"
  | .flinkJob => "FlinkJob"
  | .rpgProgram => "RpgProgram"
  | .pliProgram => "PliProgram"
  | .assemblyFile => "AssemblyFile"
  | .fortranProgram => "FortranProgram"
  | .dataFile => "DataFile"

/-- The types that have extensions of their own. -/
def marked : List FileType :=
  [.pythonModule, .javaScriptModule, .javaClass, .cppFile, .cobolProgram, .sasProgram, .jclJob,
    .flinkJob, .rpgProgram, .pliProgram, .assemblyFile, .fortranProgram, .dataFile]

def extensions : FileType → List Text
  | .sourceFile => []
  | .pythonModule => [".py"]
  | .javaScriptModule => [".js", ".jsx", ".ts", ".tsx"]
  | .javaClass => [".java"]
  | .cppFile => [".c", ".cpp", ".cc", ".cxx"]
  | .cobolProgram => [".cob", ".cbl", ".cpy"]
  | .sasProgram => [".sas"]
  | .jclJob => [".jcl"]
  | .flinkJob => [".flink", ".flk"]
  | .rpgProgram => [".rpg", ".rpgle"]
  | .pliProgram => [".pli", ".pl1"]
  | .assemblyFile => [".asm", ".s"]
  | .fortranProgram => [".for", ".f", ".f77", ".f90"]
  | .dataFile => [".html", ".xml", ".json", ".yaml", ".yml", ".csv", ".dat"]

def ofExtension (ext : Text) : FileType :=
  (marked.find? fun t => t.extensions.contains ext).getD .sourceFile

end FileType

/-- Labels for the kinds of entities that have one of their own. -/
def nodeLabels : List (Text × Text) := [
  ("function", "Function"), ("method", "Function"), ("variable", "Variable"),
  ("struct", "Struct"), ("record", "Record"), ("type", "Type"), ("module", "Module"),
  ("file", "Module"), ("class", "Class"), ("object", "Object"),
  ("database_table", "DatabaseTable"), ("entity", "Entity"),
  ("external_api", "ExternalAPI"), ("service", "Service"),
  ("business_rule", "BusinessRule"), ("requirement", "Requirement"),
  ("loop", "Loop"), ("branch", "Branch"),
  ("input_operation", "InputOperation"), ("output_operation", "OutputOperation"),
  ("user_input", "UserInput"),
  ("job", "Job"), ("script", "Script"), ("program", "Program"),
  ("constant", "Constant"), ("interface", "Interface"), ("import", "Import"),
  ("paragraph", "Paragraph"), ("enum", "Enum"), ("define", "Define")]

def relationTypes : List (Text × Text) := [
  ("calls", "CALLS"), ("returns", "RETURNS"),
  ("defines", "DEFINES"), ("includes", "INCLUDES"), ("imports", "IMPORTS"),
  ("depends_on", "DEPENDS_ON"),
  ("declares", "DECLARES"), ("uses", "USES"), ("assigns", "ASSIGNS"),
  ("reads_from", "READS_FROM"), ("writes_to", "WRITES_TO"),
  ("interacts_with", "INTERACTS_WITH"), ("logs_to", "LOGS_TO"),
  ("composes", "COMPOSES"), ("contains", "CONTAINS"),
  ("extends", "EXTENDS"), ("inherits", "INHERITS_FROM"),
  ("executes", "EXECUTES"), ("calls_with_input_from", "CALLS_WITH_INPUT_FROM"),
  ("satisfies", "SATISFIES"), ("triggered_by", "TRIGGERED_BY"),
  ("controls_flow_to", "CONTROLS_FLOW_TO"),
  ("spawns", "SPAWNS"),
  ("allocates", "ALLOCATES"), ("deallocates", "DEALLOCATES"),
  ("implements", "IMPLEMENTS"), ("overrides", "OVERRIDES")]

def isPlainIdentifier : Text → Bool
  | [] => false
  | c :: cs => c.isLetter && cs.all fun c : CodePoint => c.isLetter || c.isDigit || c == '_'

/-- What may stand in a query text as a label or a key: an identifier, perhaps with a line break
after it. -/
def isIdentifier (s : Text) : Bool :=
  isPlainIdentifier s || (Text.endsWith "\n" s && isPlainIdentifier s.dropLast)

def nodeLabel (kind : Text) : Text :=
  let kind : Text := if kind.isEmpty then "entity" else Text.lower kind
  let label := (nodeLabels.lookup kind).getD (Text.capitalize kind)
  if isIdentifier label then label else "Entity"

/-- The type of the relationships of a kind: capital letters and underscores, possibly none. -/
def relationType (kind : Text) : Text :=
  let kind : Text := if kind.isEmpty then "related_to" else Text.lower kind
  ((relationTypes.lookup kind).getD kind).flatMap Text.upperLettersOf

end CodeAtlas.Graph
