import CodeAtlas.Outline.Scan
import CodeAtlas.Proofs.PatternEnds

/-! Where the rules find things. Every finding is a match of a rule that starts at a place of the
source itself, so that its lines are lines of the source. -/
namespace CodeAtlas

namespace Rule

variable {mode : Mode} {rule : Rule} {hit : Hit}

/-- The hit is a match of the rule, part by part. -/
structure Fits (mode : Mode) (rule : Rule) (hit : Hit) : Prop where
  lead : hit.nameStart ∈ rule.lead.ends mode hit.start
  name : hit.nameStop ∈ rule.name.ends mode hit.nameStart
  tail : hit.stop ∈ rule.tail.ends mode hit.nameStop

theorem fits_of_matchAt {p : Place} (h : rule.matchAt mode p = some hit) :
    hit.start = p ∧ rule.Fits mode hit := by
  rw [matchAt, Pattern.matchAt_eq] at h
  obtain ⟨a, ha, h⟩ := List.exists_of_findSome?_eq_some h
  rw [Pattern.matchAt_eq] at h
  obtain ⟨b, hb, h⟩ := List.exists_of_findSome?_eq_some h
  rw [Pattern.matchAt_eq] at h
  obtain ⟨e, he, h⟩ := List.exists_of_findSome?_eq_some h
  obtain rfl := Option.some.inj h
  exact ⟨rfl, ha, hb, he⟩

/-- Every hit is a match at a place that is reached by reading on, past what is to be skipped. -/
theorem exists_matchAt_of_mem_hitsFrom {skip : Nat} {before after : Text}
    (h : hit ∈ rule.hitsFrom mode skip before after) :
    ∃ s p, skip ≤ s.length ∧ Place.Reads ⟨before, after⟩ s p ∧
      rule.matchAt mode p = some hit := by
  induction after generalizing skip before with
  | nil => simp [hitsFrom] at h
  | cons c cs ih =>
    have hnext {rest : Nat} (hskip : skip ≤ rest + 1)
        (h : hit ∈ rule.hitsFrom mode rest (c :: before) cs) :
        ∃ s p, skip ≤ s.length ∧ Place.Reads ⟨before, c :: cs⟩ s p ∧
          rule.matchAt mode p = some hit := by
      obtain ⟨s, p, hlength, hreads, hmatch⟩ := ih h
      refine ⟨c :: s, p, ?_, (Place.Reads.cons ..).trans hreads, hmatch⟩
      rw [List.length_cons]
      omega
    cases skip with
    | succ skip => exact hnext (Nat.le_refl _) h
    | zero =>
      rw [hitsFrom] at h
      split at h
      next found hfound =>
        rcases List.mem_cons.mp h with rfl | h
        · exact ⟨[], _, Nat.zero_le _, .refl _, hfound⟩
        · exact hnext (Nat.zero_le _) h
      · exact hnext (Nat.zero_le _) h

/-- Every hit starts at a place of the text and fits the rule. -/
theorem of_mem_hits {text : Text} (h : hit ∈ rule.hits mode text) :
    hit.start.text = text ∧ rule.Fits mode hit := by
  obtain ⟨s, p, -, hreads, hmatch⟩ := exists_matchAt_of_mem_hitsFrom h
  obtain ⟨rfl, hfits⟩ := fits_of_matchAt hmatch
  exact ⟨hreads.text_eq, hfits⟩

end Rule

namespace Source

variable {src : Source} {f : Finding}

theorem language_of_label {l : Language} (h : src.label = .str l.label) : src.language = l := by
  have hlabel : (Language.ofLabel? l.label).getD .unknown = l := by cases l <;> decide
  rw [language, h]
  exact hlabel

/-- A finding is a hit of one of the rules for its kind. -/
theorem exists_rule_of_mem_findings (h : f ∈ src.findings) :
    ∃ rule, (f.kind, rule) ∈ Outline.rulesFor src.language ∧
      f.hit ∈ rule.hits (Outline.modeFor src.language) src.content ∧ f.name = f.hit.name := by
  obtain ⟨⟨kind, rule⟩, hrule, h⟩ := List.mem_flatMap.mp h
  obtain ⟨hit, hhit, rfl⟩ := List.mem_map.mp (List.mem_filter.mp h).1
  exact ⟨rule, hrule, hhit, rfl⟩

end Source

theorem Place.line_le (p : Place) : p.line ≤ p.text.length + 1 := by
  have hcount : Text.lineBreaks p.before ≤ p.before.length := List.count_le_length
  simp only [line, text, List.length_append, List.length_reverse]
  omega

end CodeAtlas
