import CodeAtlas.Graph.Context
import CodeAtlas.Proofs.WorkRun

/-! What a search for what the graph knows about a question is composed of. `IsQuery` lists the
queries it may ask, and `all_composed` says that it consists of such queries, of results that need
no database and of lines that are gathered. What holds of every search that is composed of these is
shown by induction on that; the first case is `all_asks`, that a search does nothing else to the
database than to ask its queries. -/
namespace CodeAtlas.Graph.Search

/-- The queries that a search may ask. -/
inductive IsQuery : Query → Prop where
  | functions (embedding : Value) : IsQuery (functionQuery embedding)
  | files (embedding : Value) : IsQuery (fileQuery embedding)
  | traversal (ids : List Text) : IsQuery (traversalQuery ids)
  | path (first second : Value) : IsQuery (pathQuery first second)
  | keyword (property : Text) (keywords : List Text) : IsQuery (keywordQuery property keywords)
  | around (paths : List Value) : IsQuery (filesQuery paths)
  | contents (path : Value) : IsQuery (contentsQuery path)

/-- The queries of a search are laid out over lines of their own. -/
theorem IsQuery.head_eq {q : Query} (h : IsQuery q) : q.text.head? = some '\n' := by
  cases h <;> rfl

/-- A search that is composed of results, of lines to gather and of queries for which `P` holds. -/
inductive Composed (P : Query → Prop) : {α : Type} → Search α → Prop where
  | lift {α : Type} (x : Except Fault α) : Composed P (Work.lift x)
  | gather (line : Text) : Composed P (gather line)
  | ask {q : Query} (h : P q) : Composed P (Work.ask q)
  | bind {α β : Type} {w : Search α} {k : α → Search β} (hw : Composed P w)
      (hk : ∀ a, Composed P (k a)) : Composed P (w >>= k)

namespace Composed

variable {P : Query → Prop}

theorem pure {α : Type} (a : α) : Composed P (Pure.pure a : Search α) := .lift (.ok a)

theorem forM {γ : Type} {f : γ → Search Unit} (h : ∀ x, Composed P (f x)) (xs : List γ) :
    Composed P (xs.forM f) := by
  induction xs with
  | nil => exact .pure ()
  | cons x xs ih => exact (h x).bind fun _ => ih

theorem asks {α : Type} {w : Search α} (h : Composed P w) : w.Asks P := by
  induction h with
  | lift x => exact .lift x
  | gather line => exact .note _
  | ask h => exact .ask h
  | bind _ _ hw hk => exact hw.bind fun _ a _ => hk a

end Composed

@[simp] theorem runOn_gather (line : Text) (d : Desk (List Text)) :
    (gather line).runOn d = (.ok (), { d with notes := d.notes ++ [line] }) := rfl

theorem gather_does (line : Text) (db : Database) : (gather line).Does db [] (.ok ()) :=
  Work.Does.note _

theorem gatherRows_composed {P : Query → Prop} (line : Fields → Except Fault Text)
    (rows : List Fields) : Composed P (gatherRows line rows) :=
  .forM (fun row => (Composed.lift (line row)).bind .gather) rows

theorem gatherRows_asks {P : Query → Prop} (line : Fields → Except Fault Text)
    (rows : List Fields) : (gatherRows line rows).Asks P := (gatherRows_composed line rows).asks

theorem fileLines_composed (row : Fields) : Composed IsQuery (fileLines row) := by
  unfold fileLines
  apply (Composed.lift _).bind
  intro kind
  apply (Composed.lift _).bind
  intro path
  apply (Composed.gather _).bind
  intro _
  apply (Composed.ask (.contents path)).bind
  intro rows
  apply (Composed.lift _).bind
  intro contents
  split
  · exact .gather _
  · exact .pure ()

theorem nearby_composed (embedding : Value) : Composed IsQuery (nearby embedding) := by
  unfold nearby
  apply (Composed.ask (.functions embedding)).bind
  intro functions
  apply (Composed.ask (.files embedding)).bind
  intro files
  apply (Composed.lift _).bind
  intro ids
  apply (gatherRows_composed _ _).bind
  intro _
  extract_lets finish afterTraversal
  -- What comes after the traversal also comes where there is none.
  have hafter (u : Unit) : Composed IsQuery (afterTraversal u) := by
    dsimp only [afterTraversal]
    split
    · apply (Composed.ask (.path _ _)).bind
      intro rows
      exact (gatherRows_composed _ rows).bind fun _ => .pure _
    · exact .pure _
  split
  · apply (Composed.ask (.traversal ids)).bind
    intro rows
    exact (gatherRows_composed _ rows).bind hafter
  · exact hafter ()

theorem byKeywords_composed (question : Value) : Composed IsQuery (byKeywords question) := by
  apply (Composed.lift _).bind
  intro text
  change Composed _ (if _ then _ else _)
  split
  · apply (Composed.ask (.keyword _ _)).bind
    intro rows
    apply (gatherRows_composed _ rows).bind
    intro _
    exact (Composed.ask (.keyword _ _)).bind (gatherRows_composed _)
  · exact .pure ()

theorem byKeywords_asks (question : Value) : (byKeywords question).Asks IsQuery :=
  (byKeywords_composed question).asks

theorem aroundFiles_composed (found : List Fields) : Composed IsQuery (aroundFiles found) := by
  apply (Composed.lift _).bind
  intro paths
  change Composed _ (if _ then _ else _)
  split
  · exact (Composed.ask (.around paths)).bind (.forM fileLines_composed)
  · exact .pure ()

theorem aroundFiles_asks (found : List Fields) : (aroundFiles found).Asks IsQuery :=
  (aroundFiles_composed found).asks

theorem all_composed (embedding question : Value) : Composed IsQuery (all embedding question) :=
  (nearby_composed embedding).bind fun found =>
    (byKeywords_composed question).bind fun _ => aroundFiles_composed found

theorem all_asks (embedding question : Value) : (all embedding question).Asks IsQuery :=
  (all_composed embedding question).asks

/-- The lines that a search has gathered when it ends, in whatever way it ends. -/
def gathered (embedding question : Value) (db : Database) : List Text :=
  ((all embedding question).runOn ⟨db, []⟩).2.notes

end CodeAtlas.Graph.Search
