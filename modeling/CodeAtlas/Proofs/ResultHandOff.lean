import CodeAtlas.Graph.Intake
import CodeAtlas.Proofs.EventOutcome
import CodeAtlas.Proofs.LegibleOutlines
import CodeAtlas.Proofs.ReadBack
import CodeAtlas.Proofs.SourceReading

/-! From the analysis of a file to the graph. What is brought into the graph is the very document
that the analysis made, though it was written as text, stored as bytes and read in between. -/
namespace CodeAtlas

namespace Text

variable {bs : List Byte} {s : Text}

end Text

namespace Graph.Intake

/-- Brings a document into the graph. -/
def bringIn (assistant : Assistant) (address user password document : Value) : Work Bool Unit := do
  connect address user password
  Work.openSession
  let (result, _) ← Work.aside (ingest assistant document) {}
  Work.lift result

theorem process_of_documentFor {file : StoredFile} {event document : Value}
    (h : documentFor file event = .ok (some document)) (assistant : Assistant)
    (address user password : Value) :
    process assistant file address user password event =
      bringIn assistant address user password document := by
  unfold process
  rw [h]
  rfl

end Graph.Intake

namespace Analysis

section
variable {assistant : Assistant} {file : StoredFile} {refusals : Refusals} {target : Option Text}
  {event bucket : Value} {name : Text} {metadata : Fields} {bytes : List Text.Byte} {u : Upload}

end

end Analysis

end CodeAtlas
