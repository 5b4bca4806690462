import CodeAtlas.Json.Token
import Mathlib.Algebra.Group.Nat.Defs

/-! Laws of the digits of whole numbers: they read back, and there are no more of them than the size
of the number calls for. -/
namespace CodeAtlas.Text

theorem isDigit_ofChar (c : Char) : (CodePoint.ofChar c).isDigit = c.isDigit := by
  rw [Bool.eq_iff_iff, Char.isDigit_iff_toNat, CodePoint.isDigit, Bool.and_eq_true]
  exact and_congr decide_eq_true_iff decide_eq_true_iff

theorem natText_ne_nil (n : Nat) : natText n ≠ [] := by
  simp [natText, ofChars]

theorem isDigit_of_mem_natText {n : Nat} {c : CodePoint} (h : c ∈ natText n) :
    c.isDigit = true := by
  obtain ⟨d, hd, rfl⟩ := List.mem_map.mp h
  rw [isDigit_ofChar]
  exact Nat.isDigit_of_mem_toDigits (by decide) (by decide) hd

theorem length_natText_le_iff {n k : Nat} (hk : 0 < k) :
    (natText n).length ≤ k ↔ n < 10 ^ k := by
  rw [natText, ofChars, List.length_map]
  exact Nat.length_toDigits_le_iff (by decide) hk

theorem digitsValue_ofChars (cs : List Char) :
    Json.digitsValue (ofChars cs) = Nat.ofDigitChars 10 cs 0 := by
  simp [Json.digitsValue, ofChars, Nat.ofDigitChars_eq_foldl, List.foldl_map, CodePoint.ofChar]

@[simp] theorem digitsValue_natText (n : Nat) : Json.digitsValue (natText n) = n := by
  rw [natText, digitsValue_ofChars, Nat.ofDigitChars_ten_toDigits]

theorem natText_injective : Function.Injective natText := by
  intro m n h
  rw [← digitsValue_natText m, h, digitsValue_natText]

theorem ofChar_injective : Function.Injective CodePoint.ofChar := by
  intro c d h
  exact Char.toNat_inj.mp (congrArg CodePoint.val h)

/-- Only the number zero is written with a zero in front. -/
theorem head?_natText {n : Nat} (hn : 0 < n) : (natText n).head? ≠ some (CodePoint.ofChar '0') := by
  have hchars : ∀ n, 0 < n → (Nat.toDigits 10 n).head? ≠ some '0' := by
    intro n
    induction n using Nat.strongRecOn with
    | ind n ih =>
      intro hn
      rw [Nat.toDigits_eq_if (by decide)]
      split
      · have hne : n.digitChar ≠ '0' := fun h => by simp at h; omega
        simpa using hne
      · have h := ih (n / 10) (by omega) (by omega)
        rwa [List.head?_append, Option.or_of_isSome (by simp)]
  rw [natText, ofChars, List.head?_map]
  intro h
  obtain ⟨d, hd, hzero⟩ := Option.map_eq_some_iff.mp h
  rw [ofChar_injective hzero] at hd
  exact hchars n hn hd

section
variable {width n : Nat}

/-- The hexadecimal digit of a number below sixteen. -/
def hexDigit (n : Nat) : CodePoint := CodePoint.ofChar n.digitChar

theorem hexValue?_hexDigit (h : n < 16) : hexValue? (hexDigit n) = some n := by
  have hall : ∀ k < 16, hexValue? (hexDigit k) = some k := by decide
  exact hall n h

theorem hexText_one (h : n < 16) : hexText 1 n = [hexDigit n] := by
  simp [hexText, Nat.toDigits_of_lt_base h, ofChars, hexDigit]

theorem hexText_succ (hwidth : 0 < width) :
    hexText (width + 1) n = hexText width (n / 16) ++ [hexDigit (n % 16)] := by
  unfold hexText
  dsimp only
  by_cases hn : n < 16
  · have hzeros : List.replicate width '0' = List.replicate (width - 1) '0' ++ ['0'] := by
      rw [← List.replicate_succ', Nat.sub_add_cancel hwidth]
    rw [Nat.toDigits_of_lt_base hn, Nat.div_eq_of_lt hn, Nat.mod_eq_of_lt hn]
    simp [ofChars, hexDigit, hzeros]
  · rw [Nat.toDigits_of_base_le (by decide) (Nat.le_of_not_lt hn)]
    simp [ofChars, hexDigit]

theorem hexText_four (h : n < 0x10000) : hexText 4 n =
    [hexDigit (n / 16 / 16 / 16), hexDigit (n / 16 / 16 % 16), hexDigit (n / 16 % 16),
      hexDigit (n % 16)] := by
  rw [hexText_succ (by decide), hexText_succ (by decide), hexText_succ (by decide),
    hexText_one (by omega)]
  rfl

/-- Four hexadecimal digits stand for the number they were made from. -/
theorem hexCode?_hexText (h : n < 0x10000) : ∃ a b c d,
    hexText 4 n = [a, b, c, d] ∧ Json.hexCode? a b c d = CodePoint.ofNat? n := by
  refine ⟨_, _, _, _, hexText_four h, ?_⟩
  have hvalue : (n / 16 / 16 / 16 * 16 + n / 16 / 16 % 16) * 0x100 +
      (n / 16 % 16 * 16 + n % 16) = n := by omega
  rw [Json.hexCode?, hexValue?_hexDigit (by omega), hexValue?_hexDigit (by omega),
    hexValue?_hexDigit (by omega), hexValue?_hexDigit (by omega)]
  exact congrArg CodePoint.ofNat? hvalue

end

end CodeAtlas.Text
