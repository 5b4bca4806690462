import CodeAtlas.Number.Binary64
import CodeAtlas.Text.Case
import CodeAtlas.Value.Access

/-! The prompt with which a question is put to the text model. -/
namespace CodeAtlas.Chat

/-- How freely the model words its answer: three tenths. -/
def temperature : Binary64 := .ofDecimal false 3 (-1)

def lastFive : Value → Except Fault (List Value)
  | .list items => .ok (items.drop (items.length - 5))
  | .str s => .ok ((s.drop (s.length - 5)).map fun c => .str [c])
  | v => .error (.notSliceable v.typeName)

def messageText (message : Value) : Except Fault Text := do
  let fields ← message.asFields
  let role ← (fields.getD "role" (.str "unknown")).asText "capitalize"
  return Text.capitalize role ++ ": " ++ (fields.getD "content" (.str "")).display ++ "\n"

def historyText (history : Value) : Except Fault Text := do
  if !history.isPresent then return ""
  let messages ← (← lastFive history).mapM messageText
  return "Previous conversation:\n" ++ Text.join messages

def promptLines (history : Text) (question : Value) (context : Text) : List Text := [
  "",
  "You are a codebase expert assistant. Provide detailed technical explanations using ONLY the " ++
    "context below.",
  "Response guidelines:",
  "- Keep responses concise and under 200 words total",
  "- Be direct and focused on answering exactly what was asked",
  "- Focus on code functionality, relationships, and structure",
  "- Include only the most important implementation details",
  "- Never add disclaimers or conversational fluff",
  "- ALWAYS start your response with the relevant code snippet in a code block",
  "- Format explanations as:",
  "  ```language",
  "  // The actual code snippet being discussed",
  "  ```",
  "  [File] → [Entity]: (IMPORTANT: Use only the base filename without any path, e.g. " ++
    "\"main.py → function_name\" not \"cloned_repos/xyz/main.py → function_name\")",
  "  - Purpose: [Concise purpose]",
  "  - Implementation: [Key technical details]",
  "  - Relationships: [Connections to other entities]",
  "",
  history,
  "",
  "User Question: " ++ question.display,
  "",
  "Context from Knowledge Graph:",
  "---",
  context,
  "---",
  ""]

/-- The lines of the prompt, each but the first after a margin of eight spaces. -/
def prompt (history : Text) (question : Value) (context : Text) : Text :=
  Text.intercalate "\n        " (promptLines history question context)

end CodeAtlas.Chat
