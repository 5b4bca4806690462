import CodeAtlas.Outline.Reply
import CodeAtlas.Proofs.ReadLegible
import CodeAtlas.Proofs.ValueParts

/-! What an accepted reply of the text model is made of: the document inside it, the description of
each entity there, and where the properties of the entity come from. -/
namespace CodeAtlas

/-- The members of what stands under a key are legible. -/
theorem Value.IsLegible.of_mem_members {room : Nat} {fields : Fields} {key : Text}
    {members : List Value} {v : Value} (h : (Value.dict fields).IsLegible (room + 2))
    (hmembers : (fields.getD key (.list [])).members = .ok members) (hv : v ∈ members) :
    v.IsLegible room := by
  have hempty : (Value.list []).IsLegible (room + 1) := .list fun w hw => absurd hw List.not_mem_nil
  have hwhole := IsLegible.getD h.of_dict.2 hempty key
  cases hat : fields.getD key (.list []) with
  | list items =>
    rw [hat] at hwhole hmembers
    cases hmembers
    exact hwhole.of_list v hv
  | str s =>
    rw [hat] at hmembers
    cases hmembers
    obtain ⟨c, _, rfl⟩ := List.mem_map.mp hv
    exact .str _ _
  | dict inner =>
    rw [hat] at hmembers
    cases hmembers
    obtain ⟨field, _, rfl⟩ := List.mem_map.mp hv
    exact .str _ _
  | _ =>
    rw [hat] at hmembers
    cases hmembers

namespace Outline

/-- The members of an entity's description that are moved into its properties. -/
def movedFields (fields : Fields) : Fields :=
  fields.filter fun (key, v) => !entityKeys.contains key && !v.isNull

theorem foldlM_setField (own new : Fields) :
    new.foldlM (fun properties (key, v) => properties.setField key v) (Value.dict own) =
      .ok (.dict (own.setAll new)) := by
  induction new generalizing own with
  | nil => rfl
  | cons field rest ih =>
    rw [List.foldlM_cons]
    exact ih (own.set field.1 field.2)

/-- What a description gives for a property: what stands under the key itself, unless that is null
or the key has a place of its own, and else what its properties have. -/
def merged? (data own : Fields) (key : Text) : Option Value :=
  (if key ∈ entityKeys then none else (data.get? key).filter fun v => !v.isNull).or (own.get? key)

theorem get?_gathered {data : Fields} (h : data.IsDistinct) (own : Fields) (key : Text) :
    (own.setAll (movedFields data)).get? key = merged? data own key := by
  have hmoved : (movedFields data).last? key =
      if key ∈ entityKeys then none else (data.get? key).filter fun v => !v.isNull := by
    rw [movedFields, (h.filter _).last?_eq, h.get?_filter]
    by_cases hkey : key ∈ entityKeys
    · simp [hkey]
    · simp [hkey]
  rw [Fields.get?_setAll, hmoved, merged?]

theorem own_isDistinct {data own : Fields} (h : (Value.dict data).IsDistinct)
    (hown : data.getD "properties" (.dict []) = .dict own) : own.IsDistinct := by
  cases h with
  | dict hkeys hvalues =>
    cases hget : Fields.get? data "properties" with
    | none =>
      rw [Fields.getD_eq, hget] at hown
      cases hown
      exact List.nodup_nil
    | some v =>
      rw [Fields.getD_eq, hget] at hown
      have hv := hvalues _ (hkeys.mem_iff.mpr hget)
      rw [show v = .dict own from hown] at hv
      cases hv with
      | dict hdistinct _ => exact hdistinct

theorem gatherProperties_dict {fields properties : Fields}
    (h : gatherProperties fields = .ok (.dict properties)) :
    ∃ own : Fields, fields.getD "properties" (.dict []) = .dict own ∧
      properties = own.setAll (movedFields fields) := by
  have hfold : (movedFields fields).foldlM (fun properties (key, v) => properties.setField key v)
      (fields.getD "properties" (.dict [])) = .ok (.dict properties) := h
  cases hown : fields.getD "properties" (.dict []) with
  | dict own =>
    rw [hown, foldlM_setField] at hfold
    cases hfold
    exact ⟨own, rfl, rfl⟩
  | _ =>
    rw [hown] at hfold
    cases hmoved : movedFields fields with
    | nil =>
      rw [hmoved] at hfold
      cases hfold
    | cons field rest =>
      rw [hmoved] at hfold
      cases hfold

/-- Only the sample of the code is added to the properties that were gathered. -/
theorem addSample_eq_ok {content properties v : Value} (h : addSample content properties = .ok v) :
    ∃ fields : Fields, properties = .dict fields ∧
      (v = .dict fields ∨ ∃ sample, v = .dict (fields.set "context_sample" (.str sample))) := by
  unfold addSample at h
  obtain ⟨fields, hfields, h⟩ := Except.bind_eq_ok.mp h
  obtain rfl := Value.asFields_eq_ok.mp hfields
  refine ⟨fields, rfl, ?_⟩
  dsimp only at h
  split at h
  · cases h
  · split at h
    · cases h
      exact .inl rfl
    · obtain ⟨lines, _, h⟩ := Except.bind_eq_ok.mp h
      split at h
      · obtain ⟨bounds, _, h⟩ := Except.bind_eq_ok.mp h
        cases h
        exact .inr ⟨_, rfl⟩
      · cases h

/-- An entity of an outline and the description it was made from. -/
theorem entityOf_eq_ok {path content data : Value} {e : Entity}
    (h : entityOf path content data = .ok e) :
    ∃ fields own properties : Fields, data = .dict fields ∧ e.path = path ∧
      fields.getD "properties" (.dict []) = .dict own ∧ e.properties = .dict properties ∧
      (properties = own.setAll (movedFields fields) ∨ ∃ sample,
        properties = (own.setAll (movedFields fields)).set "context_sample" (.str sample)) := by
  unfold entityOf at h
  obtain ⟨fields, hfields, h⟩ := Except.bind_eq_ok.mp h
  obtain ⟨gathered, hgathered, h⟩ := Except.bind_eq_ok.mp h
  obtain ⟨properties, hproperties, h⟩ := Except.bind_eq_ok.mp h
  cases h
  obtain ⟨base, rfl, hbase⟩ := addSample_eq_ok hproperties
  obtain ⟨own, hown, rfl⟩ := gatherProperties_dict hgathered
  have hdata := Value.asFields_eq_ok.mp hfields
  rcases hbase with rfl | ⟨sample, rfl⟩
  · exact ⟨fields, own, _, hdata, rfl, hown, rfl, .inl rfl⟩
  · exact ⟨fields, own, _, hdata, rfl, hown, rfl, .inr ⟨sample, rfl⟩⟩

/-- The dictionary that a reply holds. -/
def Answers (reply : Value) (answer : Fields) : Prop :=
  ∃ s part : Text, reply = .str s ∧ documentPart? s = some part ∧
    Json.read part = .ok (.dict answer)

theorem Answers.isLegible {reply : Value} {answer : Fields} (h : Answers reply answer) :
    (Value.dict answer).IsLegible (Json.depthLimit - 2 + 2) := by
  obtain ⟨_, _, _, _, hread⟩ := h
  exact Json.readWithin_isLegible hread

theorem ofDocument_eq_ok {path content document : Value} {outline : Outline} :
    ofDocument path content document = .ok outline ↔
    ∃ (answer : Fields) (members others : List Value), document = .dict answer ∧
      (answer.getD "entities" (.list [])).members = .ok members ∧
      members.mapM (entityOf path content) = .ok outline.entities ∧
      (answer.getD "relationships" (.list [])).members = .ok others ∧
      others.mapM relationshipOf = .ok outline.relationships := by
  unfold ofDocument
  constructor
  · intro h
    obtain ⟨answer, hanswer, h⟩ := Except.bind_eq_ok.mp h
    obtain ⟨members, hmembers, h⟩ := Except.bind_eq_ok.mp h
    obtain ⟨entities, hentities, h⟩ := Except.bind_eq_ok.mp h
    obtain ⟨others, hothers, h⟩ := Except.bind_eq_ok.mp h
    obtain ⟨relationships, hrelationships, h⟩ := Except.bind_eq_ok.mp h
    cases h
    exact ⟨answer, members, others, Value.asFields_eq_ok.mp hanswer, hmembers, hentities,
      hothers, hrelationships⟩
  · rintro ⟨answer, members, others, rfl, hmembers, hentities, hothers, hrelationships⟩
    simp only [Value.asFields, hmembers, hentities, hothers, hrelationships, bind, Except.bind,
      pure, Except.pure]

theorem ofReply_of_answers {reply : Value} {answer : Fields} (h : Answers reply answer)
    (path content : Value) :
    ofReply path content reply = ofDocument path content (.dict answer) := by
  obtain ⟨s, part, rfl, hpart, hread⟩ := h
  unfold ofReply
  simp only [Value.asText, hpart, hread, bind, Except.bind]

/-- An accepted reply has no document, or its outline comes from the members of the document. -/
theorem ofReply_eq_ok {path content reply : Value} {outline : Outline}
    (h : ofReply path content reply = .ok outline) :
    outline = empty ∨ ∃ (answer : Fields) (members others : List Value),
      Answers reply answer ∧ (answer.getD "entities" (.list [])).members = .ok members ∧
      members.mapM (entityOf path content) = .ok outline.entities ∧
      (answer.getD "relationships" (.list [])).members = .ok others ∧
      others.mapM relationshipOf = .ok outline.relationships := by
  unfold ofReply at h
  obtain ⟨s, hs, h⟩ := Except.bind_eq_ok.mp h
  split at h
  · cases h
    exact .inl rfl
  next part hpart =>
    obtain ⟨document, hread, h⟩ := Except.bind_eq_ok.mp h
    obtain ⟨answer, members, others, rfl, hparts⟩ := ofDocument_eq_ok.mp h
    exact .inr ⟨answer, members, others, ⟨s, part, Value.asText_eq_ok.mp hs, hpart, hread⟩, hparts⟩

/-- Each entity of an accepted reply was described in its document. -/
theorem ofReply_entity {path content reply : Value} {outline : Outline}
    (h : ofReply path content reply = .ok outline) :
    ∀ e ∈ outline.entities, ∃ (answer : Fields) (members : List Value) (data : Value),
      Answers reply answer ∧ (answer.getD "entities" (.list [])).members = .ok members ∧
      data ∈ members ∧
      entityOf path content data = .ok e := by
  intro e he
  rcases ofReply_eq_ok h with rfl | ⟨answer, members, _, hanswer, hmembers, hentities, _⟩
  · cases he
  · obtain ⟨data, hdata, hentity⟩ := Except.mem_of_mapM hentities e he
    exact ⟨answer, members, data, hanswer, hmembers, hdata, hentity⟩

/-- Asking the text model gives the outline of a reply or none. -/
theorem consult_outline_cases (assistant : Assistant) (path language content : Value) :
    (consult assistant path language content).outline = empty ∨
    ∃ reply, ofReply path content reply =
      .ok (consult assistant path language content).outline := by
  unfold consult
  split
  · exact .inl rfl
  · split
    next outline houtline =>
      obtain ⟨reply, -, hreply⟩ := Except.bind_eq_ok.mp houtline
      exact .inr ⟨reply, hreply⟩
    · exact .inl rfl

end Outline

end CodeAtlas
