import CodeAtlas.Proofs.ReplyParts

/-! A reply of the text model is taken whole or not at all. `Describes` says what the description of
an entity makes of it, without the steps that do so. A reply of which every part describes something
becomes the outline of these things, in their order; any other reply becomes the empty outline. -/
namespace CodeAtlas.Outline

/-- The items of an array of a document; an empty text and an empty dictionary count as empty. -/
def items? : Value → Option (List Value)
  | .list items => some items
  | .str [] => some []
  | .dict [] => some []
  | _ => none

/-- The sample of the code of an entity: none where its line is not positive, and else the lines
from two before its line to three after the end of its code, as far as the file goes. -/
inductive Sampled (content : Text) (line length : Value) : Option Text → Prop where
  | nowhere {n : Number} (isLine : line.number? = some n) (isNot : n.isPositive = false) :
      Sampled content line length none
  | around {n m start stop : Number} {first last : Int}
      (isLine : line.number? = some n) (isPositive : n.isPositive = true)
      (isLength : length.number? = some m)
      (isStart : n.add? (.int (-3)) = some start)
      (isStop : (n.add? m).bind (·.add? (.int 3)) = some stop)
      (isFirst : if start.isPositive then start = .int first else first = 0)
      (isLast : if stop.isBelow (Text.lines content).length then stop = .int last
        else last = (Text.lines content).length) :
      Sampled content line length
        (some (Text.intercalate "\n" (Text.slice (Text.lines content) first.toNat last)))

/-- The description of an entity and the entity. Its properties are a dictionary with what the
description gives for each key, and with the sample of the code if there is one. -/
inductive Describes (path content : Text) : Value → Entity → Prop where
  | intro {data own properties : Fields} {sample? : Option Text}
      (isOwn : data.getD "properties" (.dict []) = .dict own)
      (isSample : Sampled content ((merged? data own "line_number").getD (.int 0))
        ((merged? data own "code_length").getD (.int 20)) sample?)
      (isDistinct : properties.IsDistinct)
      (isMerged : ∀ key, properties.get? key =
        (if key = "context_sample" then sample?.map Value.str else none).or
          (merged? data own key)) :
      Describes path content (.dict data) {
        name := data.getD "name" .null
        kind := data.getD "entity_type" .null
        path := .str path
        description := data.getD "description" (.str "")
        properties := .dict properties }

/-- The description of a relationship and the relationship. -/
inductive DescribesLink : Value → Relationship → Prop where
  | intro (data : Fields) : DescribesLink (.dict data) {
      source := data.getD "source" .null
      target := data.getD "target" .null
      kind := data.getD "relationship_type" .null
      context := data.getD "context" (.str "") }

/-- The outline has what the document describes, one by one and in the same order. -/
def IsOutlineOf (path content : Text) (answer : Fields) (outline : Outline) : Prop :=
  ∃ entities relationships,
    items? (answer.getD "entities" (.list [])) = some entities ∧
    items? (answer.getD "relationships" (.list [])) = some relationships ∧
    List.Forall₂ (Describes path content) entities outline.entities ∧
    List.Forall₂ DescribesLink relationships outline.relationships

/-- An item of an array of the answer. -/
def IsItem (answer : Fields) (key : Text) (data : Value) : Prop :=
  ∃ items, items? (answer.getD key (.list [])) = some items ∧ data ∈ items

section
variable {path content : Text}

/-- A bound is a whole number inside the file, or the edge of the file. -/
theorem clipped_eq_int {isInside : Bool} {n : Number} {edge bound : Int} :
    (if isInside then n else .int edge) = .int bound ↔
      if isInside then n = .int bound else bound = edge := by
  cases isInside with
  | true => rfl
  | false =>
    simp only [Bool.false_eq_true, if_false, Number.int.injEq]
    exact eq_comm

theorem window_eq_ok {count : Nat} {line length : Number} {first : Nat} {last : Int} :
    window count line length = .ok (first, last) ↔ ∃ (start stop : Number) (bound : Int),
      line.add? (.int (-3)) = some start ∧
      (line.add? length).bind (·.add? (.int 3)) = some stop ∧
      (if start.isPositive then start = .int bound else bound = 0) ∧
      (if stop.isBelow count then stop = .int last else last = count) ∧ bound.toNat = first := by
  unfold window
  cases line.add? (.int (-3)) with
  | none => simp
  | some start =>
    cases (line.add? length).bind (·.add? (.int 3)) with
    | none => simp
    | some stop =>
      constructor
      · intro h
        dsimp only at h
        split at h
        next bound _ hstart hstop =>
          cases h
          exact ⟨start, stop, bound, rfl, rfl, clipped_eq_int.mp hstart, clipped_eq_int.mp hstop,
            rfl⟩
        · cases h
      · rintro ⟨_, _, bound, hstart, hstop, hfirst, hlast, rfl⟩
        cases hstart
        cases hstop
        simp only [clipped_eq_int.mpr hfirst, clipped_eq_int.mpr hlast]

/-- Properties with the sample of the code, if there is one. -/
def withSample (properties : Fields) : Option Text → Fields
  | none => properties
  | some sample => properties.set "context_sample" (.str sample)

theorem get?_withSample (properties : Fields) (sample? : Option Text) (key : Text) :
    (withSample properties sample?).get? key =
      (if key = "context_sample" then sample?.map Value.str else none).or
        (properties.get? key) := by
  cases sample? with
  | none => simp [withSample]
  | some sample =>
    rw [withSample, Fields.get?_set]
    split
    · rfl
    · rfl

theorem isDistinct_withSample {properties : Fields} (h : properties.IsDistinct)
    (sample? : Option Text) : (withSample properties sample?).IsDistinct := by
  cases sample? with
  | none => exact h
  | some sample => exact h.set

theorem addSample_dict_eq_ok {fields : Fields} {v : Value} :
    addSample (.str content) (.dict fields) = .ok v ↔ ∃ sample?,
      Sampled content (fields.getD "line_number" (.int 0)) (fields.getD "code_length" (.int 20))
        sample? ∧ v = .dict (withSample fields sample?) := by
  unfold addSample
  constructor
  · intro h
    obtain ⟨_, hfields, h⟩ := Except.bind_eq_ok.mp h
    cases hfields
    dsimp only at h
    split at h
    · cases h
    next line length? hline =>
      split at h
      next hpositive =>
        cases h
        exact ⟨none, .nowhere hline (by simpa using hpositive), rfl⟩
      next hpositive =>
        obtain ⟨_, htext, h⟩ := Except.bind_eq_ok.mp h
        cases htext
        split at h
        next length hlength =>
          obtain ⟨⟨first, last⟩, hwindow, h⟩ := Except.bind_eq_ok.mp h
          cases h
          obtain ⟨start, stop, bound, hstart, hstop, hfirst, hlast, rfl⟩ := window_eq_ok.mp hwindow
          exact ⟨_, .around hline (by simpa using hpositive) hlength hstart hstop hfirst hlast, rfl⟩
        · cases h
  · rintro ⟨sample?, hsample, rfl⟩
    cases hsample with
    | nowhere hline hnot =>
      simp [Value.asFields, hline, hnot, bind, Except.bind, pure, Except.pure, withSample]
    | around hline hpositive hlength hstart hstop hfirst hlast =>
      have hwindow := window_eq_ok.mpr ⟨_, _, _, hstart, hstop, hfirst, hlast, rfl⟩
      simp [Value.asFields, Value.asText, hline, hpositive, hlength, hwindow, bind, Except.bind,
        pure, Except.pure, withSample]

/-- An entity is made of the description that gives its own properties and the place of its code. -/
theorem entityOf_dict_eq_ok {data : Fields} {e : Entity} :
    entityOf (.str path) (.str content) (.dict data) = .ok e ↔
    ∃ (own : Fields) (sample? : Option Text),
      data.getD "properties" (.dict []) = .dict own ∧
      Sampled content ((own.setAll (movedFields data)).getD "line_number" (.int 0))
        ((own.setAll (movedFields data)).getD "code_length" (.int 20)) sample? ∧
      e = {
        name := data.getD "name" .null
        kind := data.getD "entity_type" .null
        path := .str path
        description := data.getD "description" (.str "")
        properties := .dict (withSample (own.setAll (movedFields data)) sample?) } := by
  unfold entityOf
  constructor
  · intro h
    obtain ⟨_, hdata, h⟩ := Except.bind_eq_ok.mp h
    cases hdata
    obtain ⟨gathered, hgathered, h⟩ := Except.bind_eq_ok.mp h
    obtain ⟨properties, hproperties, h⟩ := Except.bind_eq_ok.mp h
    cases h
    obtain ⟨fields, rfl, -⟩ := addSample_eq_ok hproperties
    obtain ⟨own, hown, rfl⟩ := gatherProperties_dict hgathered
    obtain ⟨sample?, hsample, rfl⟩ := addSample_dict_eq_ok.mp hproperties
    exact ⟨own, sample?, hown, hsample, rfl⟩
  · rintro ⟨own, sample?, hown, hsample, rfl⟩
    have hgathered : gatherProperties data = .ok (.dict (own.setAll (movedFields data))) := by
      rw [← foldlM_setField, ← hown]
      rfl
    have hproperties := addSample_dict_eq_ok.mpr ⟨sample?, hsample, rfl⟩
    exact Except.bind_eq_ok.mpr ⟨data, rfl, Except.bind_eq_ok.mpr ⟨_, hgathered,
      Except.bind_eq_ok.mpr ⟨_, hproperties, rfl⟩⟩⟩

theorem getD_gathered {data : Fields} (h : data.IsDistinct) (own : Fields) (key : Text)
    (default : Value) : (own.setAll (movedFields data)).getD key default =
      (merged? data own key).getD default := by
  rw [Fields.getD_eq, get?_gathered h]

/-- What is made of a description is what it describes. -/
theorem describes_of_entityOf {data : Value} {e : Entity} (hdata : data.IsDistinct)
    (h : entityOf (.str path) (.str content) data = .ok e) : Describes path content data e := by
  obtain ⟨fields, _, _, rfl, -⟩ := entityOf_eq_ok h
  obtain ⟨own, sample?, hown, hsample, rfl⟩ := entityOf_dict_eq_ok.mp h
  have hown' := own_isDistinct hdata hown
  cases hdata with
  | dict hkeys hvalues =>
    -- with distinct keys it does not matter in which order the fields were moved
    rw [getD_gathered hkeys, getD_gathered hkeys] at hsample
    apply Describes.intro hown hsample
    · exact isDistinct_withSample (hown'.setAll _) sample?
    · intro key
      rw [get?_withSample, get?_gathered hkeys]

/-- A description of something is accepted. -/
theorem exists_entityOf {data : Value} {e : Entity} (hdata : data.IsDistinct)
    (h : Describes path content data e) :
    ∃ made, entityOf (.str path) (.str content) data = .ok made := by
  obtain @⟨data, own, properties, sample?, hown, hsample, -, -⟩ := h
  cases hdata with
  | dict hkeys hvalues =>
    rw [← getD_gathered hkeys, ← getD_gathered hkeys] at hsample
    exact ⟨_, entityOf_dict_eq_ok.mpr ⟨own, sample?, hown, hsample, rfl⟩⟩

theorem relationshipOf_eq_ok {data : Value} {r : Relationship} :
    relationshipOf data = .ok r ↔ DescribesLink data r := by
  unfold relationshipOf
  constructor
  · intro h
    obtain ⟨fields, hfields, h⟩ := Except.bind_eq_ok.mp h
    obtain rfl := Value.asFields_eq_ok.mp hfields
    cases h
    exact .intro fields
  · rintro ⟨fields⟩
    rfl

theorem members_of_items? {v : Value} {items : List Value} (h : items? v = some items) :
    v.members = .ok items := by
  unfold items? at h
  split at h
  · cases h
    rfl
  · cases h
    rfl
  · cases h
    rfl
  · cases h

/-- Where no text is accepted, the members that are accepted are those of a list, or there are
none. -/
theorem items?_of_mapM {α : Type} {f : Value → Except Fault α} {v : Value} {members : List Value}
    {made : List α} (hf : ∀ s a, f (.str s) ≠ .ok a) (hmembers : v.members = .ok members)
    (h : members.mapM f = .ok made) : items? v = some members := by
  -- the members of a text and of a dictionary are texts, and the first of them is not accepted
  have hnone (s : Text) (rest : List Value) : members ≠ .str s :: rest := by
    rintro rfl
    obtain ⟨a, _, ha, -⟩ := List.forall₂_cons_left_iff.mp (Except.mapM_eq_ok.mp h)
    exact hf s a ha
  cases v with
  | list items =>
    cases hmembers
    rfl
  | str s =>
    cases hmembers
    cases s with
    | nil => rfl
    | cons c rest => exact absurd rfl (hnone _ _)
  | dict fields =>
    cases hmembers
    cases fields with
    | nil => rfl
    | cons field rest => exact absurd rfl (hnone _ _)
  | _ => cases hmembers

theorem exists_of_forall₂ {α β : Type} {R : α → β → Prop} {xs : List α} {ys : List β}
    (h : List.Forall₂ R xs ys) : ∀ x ∈ xs, ∃ y, R x y := by
  have hboth := h.imp (S := fun x y => (∃ y, R x y) ∧ R x y) fun x y hxy => ⟨⟨y, hxy⟩, hxy⟩
  exact ((List.forall₂_and_left _ _).mp hboth).1

/-- A document all of whose parts are accepted is accepted. -/
theorem exists_ofDocument_of_parts {answer : Fields} {members others : List Value}
    (hmembers : items? (answer.getD "entities" (.list [])) = some members)
    (hothers : items? (answer.getD "relationships" (.list [])) = some others)
    (hentities : ∀ data ∈ members, ∃ e, entityOf (.str path) (.str content) data = .ok e)
    (hlinks : ∀ data ∈ others, ∃ r, DescribesLink data r) :
    ∃ made, ofDocument (.str path) (.str content) (.dict answer) = .ok made := by
  obtain ⟨entities, hmade⟩ := Except.exists_mapM hentities
  obtain ⟨relationships, hlinked⟩ := Except.exists_mapM fun data hdata =>
    (hlinks data hdata).imp fun r hr => relationshipOf_eq_ok.mpr hr
  exact ⟨⟨entities, relationships⟩, ofDocument_eq_ok.mpr ⟨answer, members, others, rfl,
    members_of_items? hmembers, hmade, members_of_items? hothers, hlinked⟩⟩

section
variable {text : Text} {answer : Fields} (hanswer : Answers (.str text) answer)

include hanswer

/-- The keys of what an answer lists are distinct, since it was read from a text. -/
theorem Answers.isDistinct_of_mem {key : Text} {members : List Value}
    (hmembers : (answer.getD key (.list [])).members = .ok members) :
    ∀ v ∈ members, v.IsDistinct :=
  fun _ hv => (hanswer.isLegible.of_mem_members hmembers hv).isDistinct

/-- The outline made of an answer has what the answer describes. -/
theorem isOutlineOf_of_ofDocument {outline : Outline}
    (h : ofDocument (.str path) (.str content) (.dict answer) = .ok outline) :
    IsOutlineOf path content answer outline := by
  obtain ⟨_, members, others, hdict, hmembers, hentities, hothers, hrelationships⟩ :=
    ofDocument_eq_ok.mp h
  cases hdict
  have hdistinct := hanswer.isDistinct_of_mem hmembers
  have hdescribed := (List.forall₂_and_left _ _).mpr ⟨hdistinct, Except.mapM_eq_ok.mp hentities⟩
  refine ⟨members, others, ?_, ?_, ?_, ?_⟩
  · exact items?_of_mapM (fun s a => by rintro ⟨⟩) hmembers hentities
  · exact items?_of_mapM (fun s a => by rintro ⟨⟩) hothers hrelationships
  · exact hdescribed.imp fun data e hdata => describes_of_entityOf hdata.1 hdata.2
  · exact (Except.mapM_eq_ok.mp hrelationships).imp fun data r hr => relationshipOf_eq_ok.mp hr

/-- An answer that describes an outline is accepted. -/
theorem exists_ofDocument {outline : Outline} (h : IsOutlineOf path content answer outline) :
    ∃ made, ofDocument (.str path) (.str content) (.dict answer) = .ok made := by
  obtain ⟨members, others, hmembers, hothers, hentities, hrelationships⟩ := h
  have hdistinct := hanswer.isDistinct_of_mem (members_of_items? hmembers)
  apply exists_ofDocument_of_parts hmembers hothers
  · intro data hdata
    obtain ⟨e, he⟩ := exists_of_forall₂ hentities data hdata
    exact exists_entityOf (hdistinct data hdata) he
  · exact exists_of_forall₂ hrelationships

end

section
variable {answer : Fields} {outline : Outline} {data : Value}

theorem IsOutlineOf.describes (h : IsOutlineOf path content answer outline)
    (hitem : IsItem answer "entities" data) : ∃ e, Describes path content data e := by
  obtain ⟨entities, _, hentities, _, hdescribed, _⟩ := h
  obtain ⟨items, hitems, hdata⟩ := hitem
  cases hitems.symm.trans hentities
  exact exists_of_forall₂ hdescribed data hdata

theorem IsOutlineOf.describesLink (h : IsOutlineOf path content answer outline)
    (hitem : IsItem answer "relationships" data) : ∃ r, DescribesLink data r := by
  obtain ⟨_, relationships, _, hrelationships, _, hdescribed⟩ := h
  obtain ⟨items, hitems, hdata⟩ := hitem
  cases hitems.symm.trans hrelationships
  exact exists_of_forall₂ hdescribed data hdata

end

section
variable {path reply : Value} {content : Text} (language : Value)
  (embeddings : Except Fault (List Value))

theorem consult_of_ok {outline : Outline} (h : ofReply path (.str content) reply = .ok outline) :
    (consult ⟨.ok reply, embeddings⟩ path language (.str content)).outline = outline ∧
      (consult ⟨.ok reply, embeddings⟩ path language (.str content)).failure = none := by
  obtain ⟨sent, hsent⟩ : ∃ sent, request language (.str content) = .ok sent := ⟨_, rfl⟩
  simp [consult, hsent, Except.bind, h]

theorem consult_of_error {fault : Fault} (h : ofReply path (.str content) reply = .error fault) :
    (consult ⟨.ok reply, embeddings⟩ path language (.str content)).outline = empty ∧
      (consult ⟨.ok reply, embeddings⟩ path language (.str content)).failure = some fault := by
  obtain ⟨sent, hsent⟩ : ∃ sent, request language (.str content) = .ok sent := ⟨_, rfl⟩
  simp [consult, hsent, Except.bind, h]

end

/-- The outline that a reply comes to: its own, if it is accepted, and else the empty one. -/
theorem consult_outline (path reply language : Value) (content : Text)
    (embeddings : Except Fault (List Value)) :
    (consult ⟨.ok reply, embeddings⟩ path language (.str content)).outline =
      (ofReply path (.str content) reply).toOption.getD empty := by
  cases h : ofReply path (.str content) reply with
  | ok outline => exact (consult_of_ok language embeddings h).1
  | error fault => exact (consult_of_error language embeddings h).1

end

/-- A reply is taken whole or not at all. The outline is empty, or it has what the document in the
reply describes, one by one and in order; it does whenever all of the document describes something,
and one entity or relationship that describes nothing makes it empty. -/
theorem reply_is_taken_whole (path content text : Text) (language : Value)
    (embeddings : Except Fault (List Value)) :
    let outline :=
      (consult ⟨.ok (.str text), embeddings⟩ (.str path) language (.str content)).outline
    (outline = empty ∨
      ∃ answer, Answers (.str text) answer ∧ IsOutlineOf path content answer outline) ∧
    ∀ answer, Answers (.str text) answer →
      ((∃ described, IsOutlineOf path content answer described) →
        IsOutlineOf path content answer outline) ∧
      (∀ data, IsItem answer "entities" data → (¬ ∃ e, Describes path content data e) →
        outline = empty) ∧
      ∀ data, IsItem answer "relationships" data → (¬ ∃ r, DescribesLink data r) →
        outline = empty := by
  dsimp only
  rw [consult_outline]
  cases hreply : ofReply (.str path) (.str content) (.str text) with
  | error fault =>
    constructor
    · exact .inl rfl
    · intro answer hanswer
      refine ⟨?_, fun _ _ _ => rfl, fun _ _ _ => rfl⟩
      rintro ⟨described, hdescribed⟩
      obtain ⟨made, hmade⟩ := exists_ofDocument hanswer hdescribed
      rw [ofReply_of_answers hanswer, hmade] at hreply
      cases hreply
  | ok outline =>
    have houtline {answer : Fields} (hanswer : Answers (.str text) answer) :
        IsOutlineOf path content answer outline := by
      rw [ofReply_of_answers hanswer] at hreply
      exact isOutlineOf_of_ofDocument hanswer hreply
    constructor
    · rcases ofReply_eq_ok hreply with hempty | ⟨answer, _, _, hanswer, -⟩
      · exact .inl hempty
      · exact .inr ⟨answer, hanswer, houtline hanswer⟩
    · intro answer hanswer
      refine ⟨fun _ => houtline hanswer, fun data hdata hnot => ?_, fun data hdata hnot => ?_⟩
      · exact absurd ((houtline hanswer).describes hdata) hnot
      · exact absurd ((houtline hanswer).describesLink hdata) hnot

/-- A reply whose only entity has the given line number. -/
def replyWithLine (line : Text) : Text :=
  "Here: \x7b\"entities\": [\x7b\"name\": \"f\", \"line_number\": " ++ line ++
    "\x7d], \"relationships\": [\x7b\"source\": \"f\"\x7d]\x7d"

example : ((consult ⟨.ok (.str (replyWithLine "2")), .ok []⟩ (.str "a.py") (.str "python")
    (.str "a\nb")).outline.entities.map fun e =>
      (e.properties.asFields.toOption.getD []).map Prod.fst) =
    [(["line_number", "context_sample"] : List Text)] := by decide +kernel

example : (consult ⟨.ok (.str (replyWithLine "\"2\"")), .ok []⟩ (.str "a.py") (.str "python")
    (.str "a\nb")).outline.relationships.length = 0 := by decide +kernel

end CodeAtlas.Outline
