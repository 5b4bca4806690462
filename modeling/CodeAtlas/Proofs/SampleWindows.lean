import CodeAtlas.Proofs.LineSpans

/-! The sample of the source that is kept with a definition. It is cut out of the file around the
match, and cut off at five hundred code points; a match of at most four hundred code points is whole
in it. -/
namespace CodeAtlas

namespace Text

variable {part window whole : Text} {i w : Nat}

/-- The part stands in the text, from the given offset on. -/
def StandsAt (part whole : Text) (offset : Nat) : Prop :=
  offset ≤ whole.length ∧ part <+: whole.drop offset

theorem StandsAt.isInfix (h : part.StandsAt whole i) : part <:+: whole :=
  h.2.isInfix.trans (List.drop_suffix i whole).isInfix

theorem StandsAt.le (h : part.StandsAt whole i) : i + part.length ≤ whole.length := by
  have hlength := h.2.length_le
  rw [List.length_drop] at hlength
  have hoffset := h.1
  omega

/-- A part that lies between the ends of a window stands in the window. -/
theorem StandsAt.in_window (hpart : part.StandsAt whole i) (hwindow : window.StandsAt whole w)
    (hstart : w ≤ i) (hstop : i + part.length ≤ w + window.length) :
    part.StandsAt window (i - w) := by
  refine ⟨by omega, ?_⟩
  have hrest : window.drop (i - w) <+: whole.drop i := by
    obtain ⟨rest, hrest⟩ := hwindow.2
    refine ⟨rest, ?_⟩
    rw [← List.drop_append_of_le_length (by omega), hrest, List.drop_drop,
      Nat.add_sub_cancel' hstart]
  apply List.prefix_of_prefix_length_le hpart.2 hrest
  rw [List.length_drop]
  omega

end Text

namespace Place

variable {p q : Place} {s : Text}

theorem Reads.standsAt (h : p.Reads s q) : s.StandsAt p.text p.offset := by
  refine ⟨by simp [text, offset], ?_⟩
  rw [text, offset, ← List.length_reverse, List.drop_left, h.after]
  exact List.prefix_append s q.after

end Place

namespace Rule

variable {mode : Mode} {rule : Rule} {hit : Hit}

theorem Fits.reads_name (h : rule.Fits mode hit) : hit.nameStart.Reads hit.name hit.nameStop := by
  obtain ⟨s, hreads⟩ := Pattern.exists_reads h.name
  rwa [Hit.name, hreads.upTo_eq]

theorem Fits.name_standsAt (h : rule.Fits mode hit) :
    hit.name.StandsAt hit.start.text hit.nameStart.offset := by
  obtain ⟨lead, hlead⟩ := Pattern.exists_reads h.lead
  rw [← hlead.text_eq]
  exact h.reads_name.standsAt

/-- The name lies between the ends of the match. -/
theorem Fits.name_bounds (h : rule.Fits mode hit) :
    hit.start.offset ≤ hit.nameStart.offset ∧
      hit.nameStart.offset + hit.name.length ≤ hit.stop.offset := by
  obtain ⟨lead, hlead⟩ := Pattern.exists_reads h.lead
  obtain ⟨tail, htail⟩ := Pattern.exists_reads h.tail
  rw [htail.offset_eq, h.reads_name.offset_eq, hlead.offset_eq]
  omega

end Rule

namespace Finding

theorem sample_eq (f : Finding) : f.sample =
    (f.hit.start.text.drop (f.hit.start.offset - 100)).take
      (min 500 (f.hit.stop.offset + 200 - (f.hit.start.offset - 100))) := by
  rw [sample, List.drop_take, List.take_take]

theorem sample_standsAt (f : Finding) :
    f.sample.StandsAt f.hit.start.text (f.hit.start.offset - 100) := by
  rw [sample_eq]
  refine ⟨?_, List.take_prefix _ _⟩
  have hlength : f.hit.start.offset ≤ f.hit.start.text.length := by simp [Place.text, Place.offset]
  omega

theorem length_sample (f : Finding) :
    f.sample.length =
      min 500 (min f.hit.start.text.length (f.hit.stop.offset + 200) -
        (f.hit.start.offset - 100)) := by
  rw [sample_eq, List.length_take, List.length_drop]
  omega

end Finding

namespace Source

variable {src : Source} {f : Finding}

theorem fields_of_not_import (h : f.kind.isImport = false) :
    (f.entity src).properties.field "context_sample" = .ok (.str f.sample) ∧
      (f.entity src).properties.field "original_name" = .ok (.str f.name) := by
  rw [Finding.entity, h]
  exact ⟨rfl, rfl⟩

/-- What is said to be a definition was found as one. -/
theorem exists_finding_of_mem_scan {e : Entity} (he : e ∈ src.scan.entities)
    (hfile : e.kind ≠ .str "source_file") (hno : e.kind ≠ .str "import") :
    ∃ f ∈ src.findings, f.kind.isImport = false ∧ e = f.entity src := by
  rcases List.mem_cons.mp he with rfl | he
  · exact absurd rfl hfile
  · obtain ⟨f, hf, rfl⟩ := List.mem_map.mp he
    exact ⟨f, hf, by simpa [entity_kind_eq_import] using hno, rfl⟩

/-- The sample of a definition is the part of the file that begins a hundred code points before the
match, or with the file, and ends two hundred after it, or with the file, but never has more than
five hundred code points. A match of at most four hundred code points is whole in it, and so is the
name. -/
theorem sample_surrounds_match (src : Source) :
    (∀ e ∈ src.scan.entities, e.kind ≠ .str "source_file" → e.kind ≠ .str "import" →
      ∃ f ∈ src.findings, f.kind.isImport = false ∧ e = f.entity src) ∧
    ∀ f ∈ src.findings, f.kind.isImport = false → ∃ sample name : Text,
      let a := f.hit.start.offset
      let b := f.hit.stop.offset
      (f.entity src).properties.field "context_sample" = .ok (.str sample) ∧
      (f.entity src).properties.field "original_name" = .ok (.str name) ∧
      f.hit.text.StandsAt src.content a ∧ b = a + f.hit.text.length ∧ name <:+: f.hit.text ∧
      sample.StandsAt src.content (a - 100) ∧
      sample.length = min 500 (min src.content.length (b + 200) - (a - 100)) ∧
      sample.length ≤ 500 ∧
      (b - a ≤ 400 → f.hit.text.StandsAt sample (min a 100) ∧ name <:+: sample) := by
  refine ⟨fun e => exists_finding_of_mem_scan, fun f hf hdefinition => ?_⟩
  obtain ⟨rule, -, hhit, hname⟩ := exists_rule_of_mem_findings hf
  obtain ⟨htext, hfits⟩ := Rule.of_mem_hits hhit
  obtain ⟨hsample, horiginal⟩ := fields_of_not_import hdefinition
  obtain ⟨hstart, hend⟩ := hfits.name_bounds
  have hnamed := hfits.name_standsAt
  have hmatch := hfits.reads.standsAt
  have hstop := hfits.reads.offset_eq
  have hwindow := f.sample_standsAt
  have hlength := f.length_sample
  rw [htext] at hnamed hmatch hwindow hlength
  have hinside := hmatch.le
  -- only the cut at five hundred can come before the end of the match
  have hwhole (hshort : f.hit.stop.offset - f.hit.start.offset ≤ 400) :
      f.hit.stop.offset ≤ f.hit.start.offset - 100 + f.sample.length := by omega
  refine ⟨f.sample, f.hit.name, hsample, hname ▸ horiginal, hmatch, hstop, ?_, hwindow, hlength,
    by omega, fun hshort => ⟨?_, ?_⟩⟩
  · exact (hnamed.in_window hmatch hstart (by omega)).isInfix
  · have hfound := hmatch.in_window hwindow (by omega) (hstop ▸ hwhole hshort)
    rwa [show f.hit.start.offset - (f.hit.start.offset - 100) = min f.hit.start.offset 100 by omega]
      at hfound
  · exact (hnamed.in_window hwindow (by omega) (Nat.le_trans hend (hwhole hshort))).isInfix

theorem sample_surrounds_match_secondLine :
    ∃ f ∈ secondLine.findings, f.kind.isImport = false ∧ f.name = "f" ∧
      f.hit.stop.offset - f.hit.start.offset ≤ 400 ∧ ∃ sample name : Text,
        (f.entity secondLine).properties.field "context_sample" = .ok (.str sample) ∧
        (f.entity secondLine).properties.field "original_name" = .ok (.str name) ∧
        f.hit.text.StandsAt sample (min f.hit.start.offset 100) ∧ name <:+: sample := by
  have hfound : ∃ f ∈ secondLine.findings, f.kind.isImport = false ∧ f.name = "f" ∧
      f.hit.stop.offset - f.hit.start.offset ≤ 400 := by
    decide +kernel
  obtain ⟨f, hf, hdefinition, hname, hshort⟩ := hfound
  obtain ⟨sample, name, hsample, horiginal, -, -, -, -, -, -, hwhole⟩ :=
    (sample_surrounds_match secondLine).2 f hf hdefinition
  exact ⟨f, hf, hdefinition, hname, hshort, sample, name, hsample, horiginal, hwhole hshort⟩

end Source

end CodeAtlas
