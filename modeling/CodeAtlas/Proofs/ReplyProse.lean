import CodeAtlas.Outline.Reply

/-! The part of a reply that is read as a document. It reaches from the first opening to the last
closing brace, so text around the reply does not matter as long as it opens nothing before and closes
nothing after. -/
namespace CodeAtlas.Outline

variable {c : CodePoint} {before reply after part : Text}

/-- The part stands in the reply from the first opening to the last closing brace. -/
def IsDocumentPart (part reply : Text) : Prop :=
  ∃ before inner after : Text,
    part = CodePoint.ofChar '\x7b' :: inner ++ [CodePoint.ofChar '\x7d'] ∧
    reply = before ++ part ++ after ∧ CodePoint.ofChar '\x7b' ∉ before ∧
    CodePoint.ofChar '\x7d' ∉ after

theorem dropWhile_ne_append (h : c ∉ before) (s : Text) :
    (before ++ s).dropWhile (· != c) = s.dropWhile (· != c) := by
  apply List.dropWhile_append_of_pos
  intro x hx
  have hne : x ≠ c := fun heq => h (heq ▸ hx)
  simpa using hne

theorem dropWhile_ne_eq_nil (h : c ∉ before) : before.dropWhile (· != c) = [] := by
  have hnil := dropWhile_ne_append h []
  rwa [List.append_nil] at hnil

/-- A text that has the code point is cut right before the first one. -/
theorem exists_of_dropWhile_ne (h : reply.dropWhile (· != c) ≠ []) :
    ∃ before rest : Text, reply.dropWhile (· != c) = c :: rest ∧ reply = before ++ c :: rest ∧
      c ∉ before := by
  cases hrest : reply.dropWhile (· != c) with
  | nil => exact absurd hrest h
  | cons x rest =>
    have hx : x = c := by
      have hhead := List.head?_dropWhile_not (· != c) reply
      simpa [hrest] using hhead
    subst hx
    refine ⟨reply.takeWhile (· != x), rest, rfl, ?_, fun hmem => ?_⟩
    · rw [← hrest, List.takeWhile_append_dropWhile]
    · have hne := List.all_eq_true.mp List.all_takeWhile x hmem
      simp at hne

/-- From the back it is cut right after the last one. -/
theorem exists_of_reverse_dropWhile_ne (h : reply.reverse.dropWhile (· != c) ≠ []) :
    ∃ inner after : Text, (reply.reverse.dropWhile (· != c)).reverse = inner ++ [c] ∧
      reply = inner ++ c :: after ∧ c ∉ after := by
  obtain ⟨after, inner, hrest, hreverse, hafter⟩ := exists_of_dropWhile_ne h
  refine ⟨inner.reverse, after.reverse, ?_, ?_, ?_⟩
  · rw [hrest, List.reverse_cons]
  · rw [← List.reverse_reverse reply, hreverse]
    simp
  · simpa using hafter

theorem documentPart?_append (hbefore : CodePoint.ofChar '\x7b' ∉ before)
    (hafter : CodePoint.ofChar '\x7d' ∉ after) :
    documentPart? (before ++ reply ++ after) = documentPart? reply := by
  unfold documentPart?
  dsimp only
  rw [List.append_assoc, dropWhile_ne_append hbefore, List.dropWhile_append]
  split
  next hnone =>
    -- without an opening brace in the reply, what comes after may open but does not close
    have hopen : CodePoint.ofChar '\x7d' ∉
        (after.dropWhile (· != CodePoint.ofChar '\x7b')).reverse := by
      intro hmem
      exact hafter (List.dropWhile_subset _ (List.mem_reverse.mp hmem))
    rw [List.isEmpty_iff.mp hnone, dropWhile_ne_eq_nil hopen]
    rfl
  next =>
    have hreverse : CodePoint.ofChar '\x7d' ∉ after.reverse := by simpa using hafter
    rw [List.reverse_append, dropWhile_ne_append hreverse]

theorem isDocumentPart_of_documentPart? (h : documentPart? reply = some part) :
    IsDocumentPart part reply := by
  unfold documentPart? at h
  dsimp only at h
  split at h
  next => cases h
  next hsome =>
    cases h
    have hclosed : (reply.dropWhile (· != CodePoint.ofChar '\x7b')).reverse.dropWhile
        (· != CodePoint.ofChar '\x7d') ≠ [] := by simpa using hsome
    have hopened : reply.dropWhile (· != CodePoint.ofChar '\x7b') ≠ [] := by
      intro hnil
      simp [hnil] at hclosed
    obtain ⟨before, rest, hrest, hreply, hbefore⟩ := exists_of_dropWhile_ne hopened
    obtain ⟨inner, after, hpart, hsplit, hafter⟩ := exists_of_reverse_dropWhile_ne hclosed
    rw [hrest] at hsplit
    rw [hpart]
    -- the part ends in a closing brace, so the opening brace is another one
    cases inner with
    | nil =>
      have hbrace := (List.cons.inj hsplit).1
      exact absurd hbrace (by decide)
    | cons x inner =>
      obtain ⟨rfl, rfl⟩ := List.cons.inj hsplit
      exact ⟨before, inner, after, rfl, by simp [hreply], hbefore, hafter⟩

theorem documentPart?_eq_some_iff : documentPart? reply = some part ↔ IsDocumentPart part reply := by
  constructor
  · exact isDocumentPart_of_documentPart?
  · rintro ⟨before, inner, after, rfl, rfl, hbefore, hafter⟩
    rw [documentPart?_append hbefore hafter]
    simp [documentPart?]

theorem ofReply_of_part (path content : Value) (h : documentPart? reply = some part) :
    ofReply path content (.str reply) = Json.read part >>= ofDocument path content := by
  unfold ofReply
  dsimp only [Value.asText, bind, Except.bind]
  rw [h]

theorem ofReply_of_no_part (path content : Value) (h : documentPart? reply = none) :
    ofReply path content (.str reply) = .ok empty := by
  unfold ofReply
  dsimp only [Value.asText, bind, Except.bind]
  rw [h]
  rfl

/-- Text around a reply does not change what is made of it, if there is no opening brace in the text
before and no closing brace in the text after. Of all of it only the part of the reply from its first
opening to its last closing brace is read, and without such a part the outline is empty. -/
theorem prose_around_reply_is_ignored (before reply after : Text)
    (hbefore : CodePoint.ofChar '\x7b' ∉ before) (hafter : CodePoint.ofChar '\x7d' ∉ after)
    (embeddings : Except Fault (List Value)) (path language content : Value) :
    consult ⟨.ok (.str (before ++ reply ++ after)), embeddings⟩ path language content =
      consult ⟨.ok (.str reply), embeddings⟩ path language content ∧
    (∀ part, IsDocumentPart part reply → ofReply path content (.str (before ++ reply ++ after)) =
      Json.read part >>= ofDocument path content) ∧
    ((∀ part, ¬ IsDocumentPart part reply) →
      ofReply path content (.str (before ++ reply ++ after)) = .ok empty) := by
  have hpart : documentPart? (before ++ reply ++ after) = documentPart? reply :=
    documentPart?_append hbefore hafter
  refine ⟨?_, fun part h => ?_, fun hnone => ?_⟩
  · have hreply : ofReply path content (.str (before ++ reply ++ after)) =
        ofReply path content (.str reply) := by
      cases h : documentPart? reply with
      | none => rw [ofReply_of_no_part _ _ h, ofReply_of_no_part _ _ (hpart.trans h)]
      | some part => rw [ofReply_of_part _ _ h, ofReply_of_part _ _ (hpart.trans h)]
    unfold consult
    dsimp only [Except.bind]
    rw [hreply]
  · exact ofReply_of_part _ _ (hpart.trans (documentPart?_eq_some_iff.mpr h))
  · apply ofReply_of_no_part
    rw [hpart, Option.eq_none_iff_forall_ne_some]
    intro part h
    exact hnone part (documentPart?_eq_some_iff.mp h)

/-- A document without entities, with a closing brace before it and an opening one after it. -/
theorem prose_around_reply_is_ignored_sample :
    CodePoint.ofChar '\x7b' ∉ ("Sure \x7d: " : Text) ∧ CodePoint.ofChar '\x7d' ∉ (" \x7b" : Text) ∧
    consult ⟨.ok (.str ("Sure \x7d: " ++ "\x7b\"entities\": []\x7d" ++ " \x7b")), .ok []⟩
      (.str "a.py") (.str "python") (.str "") =
    consult ⟨.ok (.str "\x7b\"entities\": []\x7d"), .ok []⟩ (.str "a.py") (.str "python") (.str "") ∧
    ofReply (.str "a.py") (.str "")
      (.str ("Sure \x7d: " ++ "\x7b\"entities\": []\x7d" ++ " \x7b")) =
    Json.read "\x7b\"entities\": []\x7d" >>= ofDocument (.str "a.py") (.str "") := by
  have hbefore : CodePoint.ofChar '\x7b' ∉ ("Sure \x7d: " : Text) := by decide
  have hafter : CodePoint.ofChar '\x7d' ∉ (" \x7b" : Text) := by decide
  have hpart : IsDocumentPart "\x7b\"entities\": []\x7d" "\x7b\"entities\": []\x7d" :=
    ⟨[], "\"entities\": []", [], by decide, by decide, by decide, by decide⟩
  obtain ⟨hconsult, hread, -⟩ := prose_around_reply_is_ignored "Sure \x7d: "
    "\x7b\"entities\": []\x7d" " \x7b" hbefore hafter (.ok []) (.str "a.py") (.str "python") (.str "")
  exact ⟨hbefore, hafter, hconsult, hread _ hpart⟩

end CodeAtlas.Outline
