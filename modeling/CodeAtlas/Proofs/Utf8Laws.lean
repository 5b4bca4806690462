import CodeAtlas.Text.Codec

/-! Laws of UTF-8. A character has one written form, of one to four bytes, and strict reading takes
exactly these forms apart; so it accepts the written forms of texts without halves and no others. -/
namespace CodeAtlas

namespace CodePoint

variable {n : Nat} {c : CodePoint}

theorem ofNat?_eq_some : ofNat? n = some c ↔ c.val = n := by
  obtain ⟨val, isLt⟩ := c
  rw [ofNat?, Option.dite_none_right_eq_some]
  constructor
  · rintro ⟨_, h⟩
    cases h
    rfl
  · rintro rfl
    exact ⟨isLt, rfl⟩

theorem isHalf_eq_false : c.isHalf = false ↔ c.val.isValidChar := by
  have hlt := c.isLt
  simp only [isHalf, Bool.and_eq_false_iff, decide_eq_false_iff_not, Nat.isValidChar]
  omega

end CodePoint

namespace Text

variable {b b₀ b₁ b₂ b₃ : Byte} {c : CodePoint} {n least limit code : Nat}

theorem continuation?_eq_some : continuation? b = some n ↔ b.toNat = 0x80 + n ∧ n < 0x40 := by
  simp only [continuation?, Option.ite_none_right_eq_some, Option.some.injEq, Bool.and_eq_true,
    decide_eq_true_eq]
  omega

theorem lead?_eq_some :
    lead? least limit b = some n ↔ b.toNat = least + n ∧ least + n < limit := by
  simp only [lead?, Option.ite_none_right_eq_some, Option.some.injEq, Bool.and_eq_true,
    decide_eq_true_eq]
  omega

theorem charFrom?_eq_some :
    charFrom? least code = some c ↔ c.isHalf = false ∧ c.val = code ∧ least ≤ code := by
  rw [charFrom?, Option.ite_none_right_eq_some, CodePoint.ofNat?_eq_some]
  constructor
  · rintro ⟨h, rfl⟩
    rw [Bool.and_eq_true, decide_eq_true_eq, Bool.not_eq_true'] at h
    exact ⟨h.2, rfl, h.1⟩
  · rintro ⟨hhalf, rfl, hleast⟩
    rw [Bool.and_eq_true, decide_eq_true_eq, Bool.not_eq_true']
    exact ⟨⟨hleast, hhalf⟩, rfl⟩

theorem toUInt8_eq_iff (h : n < 0x100) : n.toUInt8 = b ↔ b.toNat = n := by
  rw [← UInt8.toNat_inj, Nat.toUInt8, UInt8.toNat_ofNat', Nat.mod_eq_of_lt h]
  exact eq_comm

/-- The bytes are the written form of the character numbered `n`. -/
def IsForm (n : Nat) : List Byte → Prop
  | [b₀] => n < 0x80 ∧ b₀.toNat = n
  | [b₀, b₁] => 0x80 ≤ n ∧ n < 0x800 ∧ b₀.toNat = 0xC0 + n / 0x40 ∧ b₁.toNat = 0x80 + n % 0x40
  | [b₀, b₁, b₂] => 0x800 ≤ n ∧ n < 0x10000 ∧ b₀.toNat = 0xE0 + n / 0x1000 ∧
      b₁.toNat = 0x80 + n / 0x40 % 0x40 ∧ b₂.toNat = 0x80 + n % 0x40
  | [b₀, b₁, b₂, b₃] => 0x10000 ≤ n ∧ b₀.toNat = 0xF0 + n / 0x40000 ∧
      b₁.toNat = 0x80 + n / 0x1000 % 0x40 ∧ b₂.toNat = 0x80 + n / 0x40 % 0x40 ∧
      b₃.toNat = 0x80 + n % 0x40
  | _ => False

theorem isForm_encodePoint (c : CodePoint) : IsForm c.val (encodePoint c) := by
  have hlt := c.isLt
  unfold encodePoint
  dsimp only
  split
  · exact ⟨‹_›, (toUInt8_eq_iff (by omega)).mp rfl⟩
  split
  · exact ⟨by omega, ‹_›, (toUInt8_eq_iff (by omega)).mp rfl, (toUInt8_eq_iff (by omega)).mp rfl⟩
  split
  · exact ⟨by omega, ‹_›, (toUInt8_eq_iff (by omega)).mp rfl, (toUInt8_eq_iff (by omega)).mp rfl,
      (toUInt8_eq_iff (by omega)).mp rfl⟩
  · exact ⟨by omega, (toUInt8_eq_iff (by omega)).mp rfl, (toUInt8_eq_iff (by omega)).mp rfl,
      (toUInt8_eq_iff (by omega)).mp rfl, (toUInt8_eq_iff (by omega)).mp rfl⟩

theorem IsForm.encodePoint_eq {bs : List Byte} (h : IsForm c.val bs) : encodePoint c = bs := by
  have hlt := c.isLt
  unfold encodePoint
  unfold IsForm at h
  dsimp only
  split at h
  · obtain ⟨hmost, h₀⟩ := h
    rw [if_pos hmost, (toUInt8_eq_iff (by omega)).mpr h₀]
  · obtain ⟨hleast, hmost, h₀, h₁⟩ := h
    rw [if_neg (by omega), if_pos hmost, (toUInt8_eq_iff (by omega)).mpr h₀,
      (toUInt8_eq_iff (by omega)).mpr h₁]
  · obtain ⟨hleast, hmost, h₀, h₁, h₂⟩ := h
    rw [if_neg (by omega), if_neg (by omega), if_pos hmost, (toUInt8_eq_iff (by omega)).mpr h₀,
      (toUInt8_eq_iff (by omega)).mpr h₁, (toUInt8_eq_iff (by omega)).mpr h₂]
  · obtain ⟨hleast, h₀, h₁, h₂, h₃⟩ := h
    rw [if_neg (by omega), if_neg (by omega), if_neg (by omega),
      (toUInt8_eq_iff (by omega)).mpr h₀, (toUInt8_eq_iff (by omega)).mpr h₁,
      (toUInt8_eq_iff (by omega)).mpr h₂, (toUInt8_eq_iff (by omega)).mpr h₃]
  · exact h.elim

theorem oneByte?_eq_some : oneByte? b₀ = some c ↔ c.isHalf = false ∧ IsForm c.val [b₀] := by
  simp only [oneByte?, Option.bind_eq_some_iff, lead?_eq_some, charFrom?_eq_some, IsForm]
  constructor
  · rintro ⟨n, ⟨h₀, hmost⟩, hhalf, hval, -⟩
    exact ⟨hhalf, by omega⟩
  · rintro ⟨hhalf, hmost, h₀⟩
    exact ⟨c.val, by omega, hhalf, rfl, Nat.zero_le _⟩

theorem twoBytes?_eq_some :
    twoBytes? b₀ b₁ = some c ↔ c.isHalf = false ∧ IsForm c.val [b₀, b₁] := by
  simp only [twoBytes?, bind, Option.bind_eq_some_iff, lead?_eq_some, continuation?_eq_some,
    charFrom?_eq_some, IsForm]
  constructor
  · rintro ⟨m, ⟨h₀, hmost⟩, n, ⟨h₁, hn⟩, hhalf, hval, hleast⟩
    exact ⟨hhalf, by omega⟩
  · rintro ⟨hhalf, hleast, hmost, h₀, h₁⟩
    exact ⟨c.val / 0x40, by omega, c.val % 0x40, by omega, hhalf, by omega⟩

theorem threeBytes?_eq_some :
    threeBytes? b₀ b₁ b₂ = some c ↔ c.isHalf = false ∧ IsForm c.val [b₀, b₁, b₂] := by
  simp only [threeBytes?, bind, Option.bind_eq_some_iff, lead?_eq_some, continuation?_eq_some,
    charFrom?_eq_some, IsForm]
  constructor
  · rintro ⟨l, ⟨h₀, hmost⟩, m, ⟨h₁, hm⟩, n, ⟨h₂, hn⟩, hhalf, hval, hleast⟩
    exact ⟨hhalf, by omega⟩
  · rintro ⟨hhalf, hleast, hmost, h₀, h₁, h₂⟩
    exact ⟨c.val / 0x1000, by omega, c.val / 0x40 % 0x40, by omega, c.val % 0x40, by omega, hhalf,
      by omega⟩

theorem fourBytes?_eq_some :
    fourBytes? b₀ b₁ b₂ b₃ = some c ↔ c.isHalf = false ∧ IsForm c.val [b₀, b₁, b₂, b₃] := by
  have hlt := c.isLt
  simp only [fourBytes?, bind, Option.bind_eq_some_iff, lead?_eq_some, continuation?_eq_some,
    charFrom?_eq_some, IsForm]
  constructor
  · rintro ⟨k, ⟨h₀, hmost⟩, l, ⟨h₁, hl⟩, m, ⟨h₂, hm⟩, n, ⟨h₃, hn⟩, hhalf, hval, hleast⟩
    exact ⟨hhalf, by omega⟩
  · rintro ⟨hhalf, hleast, h₀, h₁, h₂, h₃⟩
    exact ⟨c.val / 0x40000, by omega, c.val / 0x1000 % 0x40, by omega, c.val / 0x40 % 0x40,
      by omega, c.val % 0x40, by omega, hhalf, by omega⟩

/-- The number of bytes after the first byte of a form. -/
def lengthAfter (b : Byte) : Nat :=
  if b.toNat < 0x80 then 0 else if b.toNat < 0xE0 then 1 else if b.toNat < 0xF0 then 2 else 3

/-- The first byte of a form tells how long it is. -/
theorem IsForm.length_eq {tail : List Byte} (h : IsForm n (b :: tail)) :
    tail.length = lengthAfter b := by
  unfold lengthAfter
  unfold IsForm at h
  split at h
  next heq =>
    obtain ⟨rfl, rfl⟩ := List.cons.inj heq
    rw [if_pos (by omega)]
    rfl
  next heq =>
    obtain ⟨rfl, rfl⟩ := List.cons.inj heq
    rw [if_neg (by omega), if_pos (by omega)]
    rfl
  next heq =>
    obtain ⟨rfl, rfl⟩ := List.cons.inj heq
    rw [if_neg (by omega), if_neg (by omega), if_pos (by omega)]
    rfl
  next heq =>
    obtain ⟨rfl, rfl⟩ := List.cons.inj heq
    rw [if_neg (by omega), if_neg (by omega), if_neg (by omega)]
    rfl
  · exact h.elim

theorem isForm_of_charAt? {bs : List Byte} {more : Nat} (h : charAt? b bs = some (c, more)) :
    c.isHalf = false ∧ more ≤ bs.length ∧ IsForm c.val (b :: bs.take more) := by
  unfold charAt? at h
  split at h
  next hone =>
    cases h
    obtain ⟨hhalf, hform⟩ := oneByte?_eq_some.mp hone
    exact ⟨hhalf, Nat.zero_le _, hform⟩
  · cases h
  next b₁ bs _ =>
    split at h
    next htwo =>
      cases h
      obtain ⟨hhalf, hform⟩ := twoBytes?_eq_some.mp htwo
      exact ⟨hhalf, by simp, hform⟩
    · cases h
    next b₂ bs _ =>
      split at h
      next hthree =>
        cases h
        obtain ⟨hhalf, hform⟩ := threeBytes?_eq_some.mp hthree
        exact ⟨hhalf, by simp, hform⟩
      · cases h
      next b₃ bs _ =>
        obtain ⟨_, hfour, heq⟩ := Option.map_eq_some_iff.mp h
        cases heq
        obtain ⟨hhalf, hform⟩ := fourBytes?_eq_some.mp hfour
        exact ⟨hhalf, by simp, hform⟩

theorem charAt?_of_isForm {tail : List Byte} (hhalf : c.isHalf = false)
    (h : IsForm c.val (b :: tail)) (rest : List Byte) :
    charAt? b (tail ++ rest) = some (c, tail.length) := by
  have hlength := h.length_eq
  -- a shorter form with the same first byte would be as long
  have hnone {read : Option CodePoint} {short : List Byte}
      (hread : ∀ d, read = some d → d.isHalf = false ∧ IsForm d.val (b :: short))
      (hne : short.length ≠ tail.length) : read = none := by
    rw [Option.eq_none_iff_forall_ne_some]
    intro d hd
    exact hne ((hread d hd).2.length_eq.trans hlength.symm)
  have hone : 0 ≠ tail.length → oneByte? b = none := hnone fun d => oneByte?_eq_some.mp
  have htwo (b₁ : Byte) : 1 ≠ tail.length → twoBytes? b b₁ = none :=
    hnone fun d => twoBytes?_eq_some.mp
  have hthree (b₁ b₂ : Byte) : 2 ≠ tail.length → threeBytes? b b₁ b₂ = none :=
    hnone fun d => threeBytes?_eq_some.mp
  match tail, h with
  | [], h =>
    have hread := oneByte?_eq_some.mpr ⟨hhalf, h⟩
    simp [charAt?, hread]
  | [b₁], h =>
    have hread := twoBytes?_eq_some.mpr ⟨hhalf, h⟩
    simp [charAt?, hone, hread]
  | [b₁, b₂], h =>
    have hread := threeBytes?_eq_some.mpr ⟨hhalf, h⟩
    simp [charAt?, hone, htwo, hread]
  | [b₁, b₂, b₃], h =>
    have hread := fourBytes?_eq_some.mpr ⟨hhalf, h⟩
    simp [charAt?, hone, htwo, hthree, hread]

variable {bs : List Byte} {s : Text}

theorem decodeUtf8From?_eq (skip : Nat) (bs : List Byte) :
    decodeUtf8From? skip bs = decodeUtf8? (bs.drop skip) := by
  induction bs generalizing skip with
  | nil => cases skip <;> rfl
  | cons b bs ih =>
    cases skip with
    | zero => rfl
    | succ skip => exact ih skip

theorem decodeUtf8?_cons_eq_some : decodeUtf8? (b :: bs) = some (c :: s) ↔
    ∃ more, charAt? b bs = some (c, more) ∧ decodeUtf8? (bs.drop more) = some s := by
  rw [decodeUtf8?, decodeUtf8From?]
  cases charAt? b bs with
  | none => simp
  | some found =>
    obtain ⟨d, more⟩ := found
    simp only [decodeUtf8From?_eq, Option.map_eq_some_iff, List.cons.injEq, Option.some.injEq,
      Prod.mk.injEq]
    constructor
    · rintro ⟨rest, hrest, rfl, rfl⟩
      exact ⟨more, ⟨rfl, rfl⟩, hrest⟩
    · rintro ⟨_, ⟨rfl, rfl⟩, hrest⟩
      exact ⟨s, hrest, rfl, rfl⟩

/-- No code point of the text is a half that stands alone. -/
def IsWhole (s : Text) : Prop := ∀ c ∈ s, c.isHalf = false

/-- Strict reading accepts the written forms of whole texts and nothing else. -/
theorem decodeUtf8?_eq_some : decodeUtf8? bs = some s ↔ IsWhole s ∧ encodeUtf8 s = bs := by
  induction s generalizing bs with
  | nil =>
    cases bs with
    | nil => simp [decodeUtf8?, decodeUtf8From?, IsWhole, encodeUtf8]
    | cons b bs =>
      rw [decodeUtf8?, decodeUtf8From?]
      cases charAt? b bs <;> simp [encodeUtf8]
  | cons c s ih =>
    have hcons : encodeUtf8 (c :: s) = encodePoint c ++ encodeUtf8 s := rfl
    rw [IsWhole, List.forall_mem_cons, hcons]
    constructor
    · intro h
      cases bs with
      | nil => simp [decodeUtf8?, decodeUtf8From?] at h
      | cons b bs =>
        obtain ⟨more, hat, hrest⟩ := decodeUtf8?_cons_eq_some.mp h
        obtain ⟨hhalf, -, hform⟩ := isForm_of_charAt? hat
        obtain ⟨hs, hencode⟩ := ih.mp hrest
        refine ⟨⟨hhalf, hs⟩, ?_⟩
        rw [hform.encodePoint_eq, hencode, List.cons_append, List.take_append_drop]
    · rintro ⟨⟨hhalf, hs⟩, rfl⟩
      have hform := isForm_encodePoint c
      cases hpoint : encodePoint c with
      | nil =>
        rw [hpoint] at hform
        exact hform.elim
      | cons b tail =>
        rw [hpoint] at hform
        rw [List.cons_append]
        apply decodeUtf8?_cons_eq_some.mpr
        refine ⟨_, charAt?_of_isForm hhalf hform _, ?_⟩
        rw [List.drop_left]
        exact ih.mpr ⟨hs, rfl⟩

theorem firstHalves_eq_nil : (firstHalves s).2 = [] ↔ IsWhole s := by
  induction s with
  | nil => simp [firstHalves, IsWhole]
  | cons c s ih =>
    rw [IsWhole, List.forall_mem_cons]
    cases hc : c.isHalf with
    | true => simp [firstHalves, hc]
    | false =>
      rw [IsWhole] at ih
      simpa [firstHalves, hc] using ih

theorem utf8Bytes_eq_ok : utf8Bytes s = .ok bs ↔ IsWhole s ∧ encodeUtf8 s = bs := by
  rw [← firstHalves_eq_nil, utf8Bytes]
  split
  next h => simp [h]
  next hsome h => simpa [h] using fun hnil => (hsome hnil).elim

/-- Strict reading and strict writing undo one another. -/
theorem decodeUtf8?_eq_some_iff_utf8Bytes : decodeUtf8? bs = some s ↔ utf8Bytes s = .ok bs := by
  rw [decodeUtf8?_eq_some, utf8Bytes_eq_ok]

section Strings

theorem isWhole_ofChars (xs : List Char) : IsWhole (ofChars xs) := by
  intro c hc
  obtain ⟨x, -, rfl⟩ := List.mem_map.mp hc
  exact CodePoint.isHalf_eq_false.mpr x.valid

theorem exists_ofChar (h : c.isHalf = false) : ∃ x, CodePoint.ofChar x = c :=
  ⟨Char.ofNatAux c.val (CodePoint.isHalf_eq_false.mp h), rfl⟩

theorem exists_ofChars (h : IsWhole s) : ∃ xs, ofChars xs = s := by
  induction s with
  | nil => exact ⟨[], rfl⟩
  | cons c s ih =>
    obtain ⟨hc, hs⟩ := List.forall_mem_cons.mp h
    obtain ⟨x, rfl⟩ := exists_ofChar hc
    obtain ⟨xs, rfl⟩ := ih hs
    exact ⟨x :: xs, rfl⟩

theorem encodePoint_ofChar (x : Char) : encodePoint (.ofChar x) = String.utf8EncodeChar x := by
  apply IsForm.encodePoint_eq
  have hlt := CodePoint.toNat_lt x
  simp only [CodePoint.ofChar, String.utf8EncodeChar, Char.toNat] at hlt ⊢
  repeat' split
  all_goals
    simp only [IsForm, UInt8.toNat_ofNat']
    omega

theorem toByteArray_encodeUtf8 (xs : List Char) :
    (encodeUtf8 (ofChars xs)).toByteArray = xs.utf8Encode := by
  have hflat : encodeUtf8 (ofChars xs) = xs.flatMap String.utf8EncodeChar := by
    rw [encodeUtf8, ofChars, List.flatMap_map]
    congr 1
    funext x
    exact encodePoint_ofChar x
  rw [hflat]
  rfl

/-- Strict reading gives the string that has the bytes, if there is one. -/
theorem decodeUtf8?_eq_fromUTF8? (bs : List Byte) :
    decodeUtf8? bs = (String.fromUTF8? bs.toByteArray).map ofString := by
  unfold String.fromUTF8?
  split
  next hvalid =>
    obtain ⟨xs, hxs⟩ := id hvalid
    have hbytes : encodeUtf8 (ofChars xs) = bs :=
      List.toByteArray_inj.mp ((toByteArray_encodeUtf8 xs).trans hxs.symm)
    have hstring : String.fromUTF8 bs.toByteArray hvalid = String.ofList xs := by
      rw [← String.toByteArray_inj, String.toByteArray_ofList]
      exact hxs
    have htext : ofString (String.ofList xs) = ofChars xs := by
      rw [ofString, String.toList_ofList]
    rw [hstring, Option.map_some, htext]
    exact decodeUtf8?_eq_some.mpr ⟨isWhole_ofChars xs, hbytes⟩
  next hinvalid =>
    rw [Option.map_none, Option.eq_none_iff_forall_ne_some]
    intro s hs
    obtain ⟨hwhole, rfl⟩ := decodeUtf8?_eq_some.mp hs
    obtain ⟨xs, rfl⟩ := exists_ofChars hwhole
    exact hinvalid ⟨xs, toByteArray_encodeUtf8 xs⟩

end Strings

end Text

end CodeAtlas
