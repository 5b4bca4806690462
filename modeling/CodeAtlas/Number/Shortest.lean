import CodeAtlas.Number.Binary64
import CodeAtlas.Text.Numeral

/-! The decimal text of a floating point number: the fewest digits that read back as the same
number, and of those the nearest. -/
namespace CodeAtlas.Binary64

structure Decimal where
  digits : Nat
  power : Int
deriving DecidableEq, Repr

/-- Number of digits before the decimal point of `num / den`; zero or negative below one. -/
def pointOf (num den : Nat) : Int :=
  if den ≤ num then (Nat.toDigits 10 (num / den)).length
  else 1 - (Nat.toDigits 10 ((den - 1) / num)).length

/-- The decimal with `count` digits just below `num / den`, and the one just above it unless the
first is exact; the nearer one comes first. -/
def neighbours (num den : Nat) (count : Nat) : List Decimal :=
  let power := pointOf num den - count
  let (n, d) :=
    if power < 0 then (num * Nat.pow 10 power.natAbs, den)
    else (num, den * Nat.pow 10 power.natAbs)
  let below : Decimal := ⟨n / d, power⟩
  let above : Decimal := ⟨n / d + 1, power⟩
  let twice := 2 * (n % d)
  if twice = 0 then [below]
  else if twice < d || (twice = d && n / d % 2 = 0) then [below, above]
  else [above, below]

def exactDecimal (num den : Nat) : Decimal := ⟨num * Nat.pow 5 den.log2, -(den.log2 : Int)⟩

/-- The shortest decimal that reads back as the positive number `num / den`, where `den` is a
power of two. -/
def shortest (num den : Nat) : Decimal :=
  let target := ofRatio false num den
  let readsBack (x : Decimal) : Bool := ofDecimal false x.digits x.power = target
  let candidates := (List.range 17).flatMap fun i => neighbours num den (i + 1)
  (candidates.find? readsBack).getD (exactDecimal num den)

/-- The digits without trailing zeros, and the place of the decimal point counted from the first
digit. -/
def Decimal.layout (x : Decimal) : Text × Int :=
  let all := Text.natText x.digits
  let kept := (all.reverse.dropWhile fun c : CodePoint => c == '0').reverse
  (kept, x.power + all.length)

def exponentText (e : Int) : Text :=
  let size := Text.natText e.natAbs
  (if e < 0 then "e-" else "e+") ++ (if size.length < 2 then "0" ++ size else size)

def mantissaText : Text → Text
  | [] => []
  | [d] => [d]
  | d :: ds => d :: "." ++ ds

/-- Positional from `0.0001` to below `10 ^ 16`, with an exponent of at least two digits elsewhere.
A positional text always has a digit after the point. -/
def layoutText (digits : Text) (point : Int) : Text :=
  let zeros (n : Nat) : Text := List.replicate n '0'
  if point ≤ -4 || 16 < point then mantissaText digits ++ exponentText (point - 1)
  else if point ≤ 0 then "0." ++ zeros point.natAbs ++ digits
  else
    let whole := digits.take point.natAbs
    let rest : Text := if digits.length ≤ point.natAbs then "0" else digits.drop point.natAbs
    whole ++ zeros (point.natAbs - digits.length) ++ "." ++ rest

def text : Binary64 → Text
  | .nan => "nan"
  | .infinite negative => if negative then "-inf" else "inf"
  | .finite negative m e =>
    let size : Text :=
      if m = 0 then "0.0"
      else
        let (n, d) := scaled m 1 (-e)
        let (digits, point) := (shortest n d).layout
        layoutText digits point
    if negative then "-" ++ size else size

end CodeAtlas.Binary64
