import CodeAtlas.Proofs.CharLaws
import CodeAtlas.Proofs.Utf8Laws
import CodeAtlas.Text.Codec

/-! How a source file is read. A reading stops at the first codec that accepts the bytes. Latin-1
accepts all bytes, so whatever stands behind it is never tried, and both it and strict UTF-8 can be
undone. -/
namespace CodeAtlas.Text

variable {bs : List Byte} {s : Text}

/-- A reading ends with the first codec that accepts, whatever comes after it. -/
theorem readBy_eq (before : List Codec) (codec : Codec) (after : List Codec)
    (hbefore : ∀ k ∈ before, k.decode? bs = none) (h : codec.decode? bs = some s) :
    readBy bs (before ++ codec :: after) = ⟨before ++ [codec], some codec, s⟩ := by
  induction before with
  | nil =>
    rw [List.nil_append, readBy, h]
    rfl
  | cons first before ih =>
    obtain ⟨hfirst, hbefore⟩ := List.forall_mem_cons.mp hbefore
    rw [List.cons_append, readBy, hfirst, ih hbefore]
    rfl

theorem readSource_of_utf8 (h : decodeUtf8? bs = some s) :
    readSource bs = ⟨[.utf8], some .utf8, s⟩ :=
  readBy_eq [] .utf8 _ (List.forall_mem_nil _) h

theorem readSource_of_not_utf8 (h : decodeUtf8? bs = none) :
    readSource bs = ⟨[.utf8, .latin1], some .latin1, decodeLatin1 bs⟩ :=
  readBy_eq [.utf8] .latin1 _ (List.forall_mem_singleton.mpr h) rfl

/-- The bytes of a text whose code points all fit into one byte each. -/
def latin1Bytes? (s : Text) : Option (List Byte) :=
  s.mapM fun c => if c.val < 0x100 then some c.val.toUInt8 else none

theorem latin1Bytes?_decodeLatin1 (bs : List Byte) :
    latin1Bytes? (decodeLatin1 bs) = some bs := by
  induction bs with
  | nil => rfl
  | cons b bs ih =>
    have hlt : b.toNat < 0x100 := b.toNat_lt
    have hval : (CodePoint.ofNat b.toNat).val = b.toNat := CodePoint.val_ofNat (by omega)
    have hcons : decodeLatin1 (b :: bs) = .ofNat b.toNat :: decodeLatin1 bs := rfl
    rw [latin1Bytes?] at ih
    rw [hcons, latin1Bytes?, List.mapM_cons, ih, hval, if_pos hlt]
    simp

/-- Every source file is read, strictly as UTF-8 if its bytes are those of some string and else byte
by byte; in both cases the text can be written back to the same bytes. No third codec is tried, and
nothing is replaced. -/
theorem source_reading_is_lossless (bs : List Byte) :
    (∀ t, String.fromUTF8? bs.toByteArray = some t →
      readSource bs = ⟨[.utf8], some .utf8, ofString t⟩ ∧ utf8Bytes (ofString t) = .ok bs) ∧
    (String.fromUTF8? bs.toByteArray = none →
      readSource bs = ⟨[.utf8, .latin1], some .latin1, decodeLatin1 bs⟩ ∧
        latin1Bytes? (decodeLatin1 bs) = some bs) ∧
    .windows1252 ∉ (readSource bs).tried ∧ (readSource bs).codec ≠ none := by
  have hstrict := decodeUtf8?_eq_fromUTF8? bs
  cases hstring : String.fromUTF8? bs.toByteArray with
  | some t =>
    rw [hstring, Option.map_some] at hstrict
    have hread := readSource_of_utf8 hstrict
    refine ⟨?_, fun h => (Option.some_ne_none t h).elim, by simp [hread], by simp [hread]⟩
    rintro _ ⟨rfl⟩
    exact ⟨hread, decodeUtf8?_eq_some_iff_utf8Bytes.mp hstrict⟩
  | none =>
    rw [hstring, Option.map_none] at hstrict
    have hread := readSource_of_not_utf8 hstrict
    refine ⟨?_, fun _ => ⟨hread, latin1Bytes?_decodeLatin1 bs⟩, by simp [hread], by simp [hread]⟩
    rintro _ ⟨⟩

/-- The euro sign, and the null character in two bytes where one would do. -/
theorem source_reading_is_lossless_samples :
    (String.fromUTF8? ([0xE2, 0x82, 0xAC] : List Byte).toByteArray = some "\u20AC" ∧
      readSource [0xE2, 0x82, 0xAC] = ⟨[.utf8], some .utf8, ofString "\u20AC"⟩ ∧
      utf8Bytes (ofString "\u20AC") = .ok [0xE2, 0x82, 0xAC]) ∧
    String.fromUTF8? ([0xC0, 0x80] : List Byte).toByteArray = none ∧
      readSource [0xC0, 0x80] = ⟨[.utf8, .latin1], some .latin1, decodeLatin1 [0xC0, 0x80]⟩ ∧
      latin1Bytes? (decodeLatin1 [0xC0, 0x80]) = some [0xC0, 0x80] := by
  have heuro : String.fromUTF8? ([0xE2, 0x82, 0xAC] : List Byte).toByteArray = some "\u20AC" := by
    decide +kernel
  have hnull : String.fromUTF8? ([0xC0, 0x80] : List Byte).toByteArray = none := by decide +kernel
  exact ⟨⟨heuro, (source_reading_is_lossless _).1 _ heuro⟩, hnull,
    (source_reading_is_lossless _).2.1 hnull⟩

end CodeAtlas.Text
