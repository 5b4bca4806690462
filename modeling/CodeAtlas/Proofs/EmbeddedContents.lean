import CodeAtlas.Proofs.DetectedLanguage
import CodeAtlas.Proofs.PatternEnds

/-! The language of a text that holds another one. A sign that is read off a content is still there
when text is put before it and, on a new line, behind it, so no score falls, and the first language
with two points can only move forward. -/
namespace CodeAtlas

namespace Place

variable {p q : Place} {s : Text}

/-- The same place, once `lead` was put before the text and `rest` behind it. -/
def within (lead rest : Text) (p : Place) : Place := ⟨p.before ++ lead.reverse, p.after ++ rest⟩

theorem text_within (lead rest : Text) (p : Place) :
    (p.within lead rest).text = lead ++ p.text ++ rest := by
  simp [within, text]

theorem Reads.within (lead rest : Text) (h : p.Reads s q) :
    (p.within lead rest).Reads s (q.within lead rest) where
  after := by simp [Place.within, h.after]
  before := by simp [Place.within, h.before]

end Place

namespace Pattern

variable {mode : Mode} {pattern : Pattern} {p q : Place}

/-- Whether the pattern looks at nothing but what it reads and whether a line ends there. -/
def isLocal : Pattern → Bool
  | .empty | .one _ | .run _ _ | .shortRun _ _ | .ending => true
  | .seq a b | .alt a b => a.isLocal && b.isLocal
  | .lineStart | .wordEdge | .unless _ => false

theorem atEnding_within (hmode : mode.byLine = true) {lead rest : Text}
    (hrest : rest.head? = some (.ofChar '\n')) (h : atEnding mode p = true) :
    atEnding mode (p.within lead rest) = true := by
  obtain ⟨before, after⟩ := p
  obtain ⟨rest, rfl⟩ := List.head?_eq_some_iff.mp hrest
  cases after with
  | nil => simp [atEnding, Place.within, hmode]
  | cons c cs =>
    simp only [atEnding, Bool.and_eq_true] at h
    simp [atEnding, Place.within, hmode, h.1]

theorem mem_ends_within (hmode : mode.byLine = true) {lead rest : Text}
    (hrest : rest.head? = some (.ofChar '\n')) (hlocal : pattern.isLocal = true)
    (h : q ∈ pattern.ends mode p) :
    q.within lead rest ∈ pattern.ends mode (p.within lead rest) := by
  induction pattern generalizing p q with
  | empty => rw [mem_ends_empty.mp h, mem_ends_empty]
  | one c =>
    obtain ⟨x, hx, hreads⟩ := mem_ends_one.mp h
    exact mem_ends_one.mpr ⟨x, hx, hreads.within ..⟩
  | seq a b iha ihb =>
    obtain ⟨ha, hb⟩ := Bool.and_eq_true_iff.mp hlocal
    obtain ⟨m, hm, hq⟩ := mem_ends_seq.mp h
    exact mem_ends_seq.mpr ⟨_, iha ha hm, ihb hb hq⟩
  | alt a b iha ihb =>
    obtain ⟨ha, hb⟩ := Bool.and_eq_true_iff.mp hlocal
    rcases mem_ends_alt.mp h with h | h
    · exact mem_ends_alt.mpr (.inl (iha ha h))
    · exact mem_ends_alt.mpr (.inr (ihb hb h))
  | run c least =>
    obtain ⟨s, hs, hleast, hreads⟩ := mem_ends_run.mp h
    exact mem_ends_run.mpr ⟨s, hs, hleast, hreads.within ..⟩
  | shortRun c least =>
    obtain ⟨s, hs, hleast, hreads⟩ := mem_ends_shortRun.mp h
    exact mem_ends_shortRun.mpr ⟨s, hs, hleast, hreads.within ..⟩
  | ending =>
    obtain ⟨hend, rfl⟩ := mem_ends_ending.mp h
    exact mem_ends_ending.mpr ⟨atEnding_within hmode hrest hend, rfl⟩
  | lineStart | wordEdge => cases hlocal
  | «unless» a => cases hlocal

/-- A local pattern that occurs in a text occurs wherever that text does, up to the end of a
line. -/
theorem occursIn_within (hmode : mode.byLine = true) {lead content rest : Text}
    (hrest : rest.head? = some (.ofChar '\n')) (hlocal : pattern.isLocal = true)
    (h : pattern.occursIn mode content = true) :
    pattern.occursIn mode (lead ++ content ++ rest) = true := by
  obtain ⟨p, q, rfl, hq⟩ := occursIn_iff.mp h
  exact occursIn_iff.mpr ⟨_, _, p.text_within .., mem_ends_within hmode hrest hlocal hq⟩

end Pattern

namespace Language

variable {l : Language} {sign : Pattern}

theorem isLocal_of_mem_signs (h : sign ∈ l.signs) : sign.isLocal = true := by
  have hall : l.signs.all Pattern.isLocal = true := by cases l <;> decide
  exact List.all_eq_true.mp hall sign h

theorem contentSigns_le (lead content : Text) {rest : Text}
    (hrest : rest.head? = some (.ofChar '\n')) (l : Language) :
    l.contentSigns content ≤ l.contentSigns (lead ++ content ++ rest) := by
  apply List.countP_mono_left
  intro sign hsign
  exact Pattern.occursIn_within rfl hrest (isLocal_of_mem_signs hsign)

theorem score_le (path lead content : Text) {rest : Text}
    (hrest : rest.head? = some (.ofChar '\n')) (l : Language) :
    l.score path content ≤ l.score path (lead ++ content ++ rest) := by
  have hsigns := contentSigns_le lead content hrest l
  rw [score_eq, score_eq]
  omega

/-- Where a language stands among those considered; `unknown` stands behind all of them. -/
def position (l : Language) : Nat := known.idxOf l

theorem position_lt_iff : l.position < known.length ↔ l ≠ .unknown := by
  cases l <;> decide

theorem position_detect (path content : Text) :
    (detect path content).position = known.findIdx fun l => 2 ≤ l.score path content := by
  rw [detect, List.find?_eq_getElem?_findIdx, position]
  rcases Nat.lt_or_ge (known.findIdx fun l => 2 ≤ l.score path content) known.length with hlt | hge
  · have hnodup : known.Nodup := by decide
    rw [List.getElem?_eq_getElem hlt]
    exact hnodup.idxOf_getElem _ hlt
  · rw [List.getElem?_eq_none hge]
    exact Nat.le_antisymm hge List.findIdx_le_length

/-- Text before a content and text behind it on a new line move the answer forward, if at all. -/
theorem detection_is_monotone (path lead content rest : Text) :
    (detect path (lead ++ content ++ "\n" ++ rest)).position ≤ (detect path content).position ∧
    (detect path content ≠ .unknown →
      detect path (lead ++ content ++ "\n" ++ rest) ≠ .unknown) := by
  have hle : (detect path (lead ++ content ++ "\n" ++ rest)).position ≤
      (detect path content).position := by
    rw [position_detect, position_detect, List.append_assoc (lead ++ content)]
    apply List.findIdx_le_findIdx
    intro l _ hscore
    have hgrows : l.score path content ≤ l.score path (lead ++ content ++ ("\n" ++ rest)) :=
      score_le path lead content rfl l
    simp only [decide_eq_true_eq] at hscore ⊢
    omega
  refine ⟨hle, fun hknown => ?_⟩
  have hlt := position_lt_iff.mpr hknown
  exact position_lt_iff.mp (by omega)

/-- Without the new line the end of a sign can be lost. -/
example : detect "" "import .py" = .python ∧ detect "" ("import .py" ++ "x") = .unknown := by
  decide +kernel

end Language

end CodeAtlas
