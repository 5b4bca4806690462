import CodeAtlas.Value.Access

/-! What the text model is asked about a source file. -/
namespace CodeAtlas.Outline

def requestStart : Text :=
  "\n            Analyze this "

def requestTasks : List String := [
  " code and extract detailed information in a structured format.",
  "",
  "            ANALYSIS TASKS:",
  "            1. Functions/methods: Identify name, parameters, return types, visibility, complexity, " ++
    "and purpose",
  "            2. Classes/interfaces: Identify name, fields, methods, parent classes/interfaces, and " ++
    "purpose",
  "            3. Variables/constants: Identify name, data type, scope, initialization value, and " ++
    "purpose",
  "            4. Control flow: Identify loops, conditionals, error handling, and their relationships",
  "            5. Dependencies: Identify external imports, includes, or library usage",
  "            6. Architectural patterns: Identify design patterns or architectural styles if present",
  "            7. Relationships: Identify calls, inheritance, usage, containment between components",
  "",
  "            ENTITY TYPES TO IDENTIFY (assign each entity to exactly one of these types):",
  "            * Function: Named procedures or subroutines in code",
  "            * Variable: Local, global, struct/class member variables",
  "            * Struct/Record/Type: User-defined types or records",
  "            * Module/File: Source code files or logical modules",
  "            * Class/Object: Object-oriented components",
  "            * DatabaseTable/Entity: DB tables or files representing structured data",
  "            * ExternalAPI/Service: External endpoints or services the code interacts with",
  "            * BusinessRule/Requirement: Inferred high-level logical conditions",
  "            * Loop/Branch: Control flow structures",
  "            * InputOperation/OutputOperation: File reads/writes, console input, etc.",
  "            * UserInput: Points where user input is captured",
  "            * Job/Script/Program: Main unit of execution",
  "",
  "            RELATIONSHIP TYPES TO IDENTIFY:",
  "            * calls: Function → Function — A calls B",
  "            * defines: Module → Function/Variable/Type — Defined in",
  "            * declares: Function → Variable — Declares var",
  "            * uses: Function → Variable — Uses in logic",
  "            * assigns: Function → Variable — Assigns value",
  "            * depends_on: Module/Function → Module/Function — Imports/calls",
  "            * reads_from: Function → Input Source/Table — File/db read",
  "            * writes_to: Function → Output Target/Table — File/db write",
  "            * interacts_with: Function → API/Service — HTTP call, socket, etc.",
  "            * returns: Function → Type/Value — Return type/value",
  "            * composes: Type → Variable — Type composition",
  "            * contains: Type → Field/StructMember — Has-a relationship",
  "            * executes: Job/Script → Module/Function — Entry point",
  "            * calls_with_input_from: Function → User Input — Traced input",
  "            * satisfies: Function/Module → Requirement — Implements business rule",
  "            * triggered_by: Function → Event/Input — Reactive code",
  "            * controls_flow_to: Loop/Branch → Function/Block — Conditional logic",
  "            * spawns: Function → Thread/Process — Concurrency",
  "            * includes: File/Module → File/Module — Header or INCLUDE",
  "            * imports: Module → Module/Package — Import or dependency",
  "            * extends/inherits: Class → Class — Inheritance (OOP)",
  "            * logs_to: Function → Logging Mechanism — Output for monitoring",
  "            * allocates: Function → Memory — Memory allocation operations",
  "            * deallocates: Function → Memory — Memory deallocation operations",
  "",
  "            CODE TO ANALYZE:",
  "            ```",
  "            "]

def requestForm : List String := [
  "",
  "            ```",
  "",
  "            REQUIRED OUTPUT FORMAT:",
  "            Return a properly formatted JSON object with these exact keys:",
  "            \x7b",
  "                \"entities\": [",
  "                    \x7b",
  "                        \"name\": \"entity_name\", ",
  "                        \"entity_type\": \"function|variable|struct|module|class|...\", ",
  "                        \"description\": \"Detailed purpose of this component\",",
  "                        \"properties\": \x7b",
  "                            \"params\": [\"param1:type1\", \"param2:type2\"],  // For functions/methods",
  "                            \"return_type\": \"return_type\",                // For functions/methods",
  "                            \"visibility\": \"public|private|protected\",    // For functions/classes/fields",
  "                            \"data_type\": \"type\",                        // For variables/constants",
  "                            \"parent_class\": \"name\",                     // For classes (inheritance)",
  "                            \"interfaces\": [\"name1\", \"name2\"],           // For classes (implementation)",
  "                            \"fields\": [\"field1:type1\", \"field2:type2\"], // For classes/structs",
  "                            \"initializer\": \"value\",                     // For variables/constants",
  "                            \"complexity\": \"low|medium|high\",            // For functions (optional)",
  "                            \"line_number\": 42,                          // Starting line if identifiable",
  "                            \"code_length\": 10                           // Length in lines if identifiable",
  "                        \x7d",
  "                    \x7d",
  "                ],",
  "                \"relationships\": [",
  "                    \x7b",
  "                        \"source\": \"source_entity_name\", ",
  "                        \"target\": \"target_entity_name\", ",
  "                        \"relationship_type\": \"calls|defines|declares|uses|assigns|...\", ",
  "                        \"context\": \"Detailed description of this relationship\"",
  "                    \x7d",
  "                ]",
  "            \x7d",
  "            ",
  "            Be precise and thorough. Include all significant code elements. Ensure JSON is " ++
    "correctly formatted.",
  "            IMPORTANT: Every entity must have a name, entity_type, and description field. The " ++
    "properties field should contain additional details specific to the entity type.",
  "            "]

/-- The request for a file in the given language, with at most the first 8000 characters of its
content. -/
def request (language content : Value) : Except Fault Text := do
  let code ← content.firstPart 8000
  return requestStart ++ language.display ++ written requestTasks ++ code.display ++
    written requestForm
where
  written (lines : List String) : Text := Text.intercalate "\n" (lines.map Text.ofString)

end CodeAtlas.Outline
