/-! Binary floating point numbers of 64 bits as plain data. Every operation is computed exactly on
whole numbers and rounded once, to the nearest number and on a tie to the even significand. -/
namespace CodeAtlas

/-- A finite number is `significand * 2 ^ exponent`, with the sign apart so that zero has two.
Numbers built by rounding have a significand below `2 ^ 53` and the least exponent from `-1074`
on that allows it. -/
inductive Binary64 where
  | nan
  | infinite (negative : Bool)
  | finite (negative : Bool) (significand : Nat) (exponent : Int)
deriving DecidableEq, Repr, Inhabited

namespace Binary64

def zero (negative : Bool) : Binary64 := .finite negative 0 (-1074)

def leastNormal : Nat := Nat.pow 2 52

/-- The fraction `num / den * 2 ^ (-e)` as a numerator and a denominator. -/
def scaled (num den : Nat) (e : Int) : Nat × Nat :=
  if e < 0 then (num * Nat.pow 2 e.natAbs, den) else (num, den * Nat.pow 2 e.natAbs)

/-- The whole number nearest to `num / den`; a half goes to the even neighbour. -/
def roundHalfEven (num den : Nat) : Nat :=
  let q := num / den
  let twice := 2 * (num % den)
  if twice < den then q else if den < twice then q + 1 else q + q % 2

/-- The exponent at which the integer part of `num / den` has 53 binary digits, or `-1074` for
numbers that small. -/
def exponentOf (num den : Nat) : Int :=
  let e : Int := (num.log2 : Int) - den.log2 - 52
  let (n, d) := scaled num den e
  max (if n / d < leastNormal then e - 1 else e) (-1074)

/-- The number nearest to `num / den`. -/
def ofRatio (negative : Bool) (num den : Nat) : Binary64 :=
  if num = 0 then zero negative
  else
    let e := exponentOf num den
    let (n, d) := scaled num den e
    let m := roundHalfEven n d
    let (m, e) := if m = 2 * leastNormal then (leastNormal, e + 1) else (m, e)
    if 971 < e then .infinite negative else .finite negative m e

/-- The number nearest to `digits * 10 ^ power`. Powers far out of range are settled by the number
of digits. -/
def ofDecimal (negative : Bool) (digits : Nat) (power : Int) : Binary64 :=
  if digits = 0 then zero negative
  else
    let top := power + (Nat.toDigits 10 digits).length
    if 310 < top then .infinite negative
    else if top < -330 then zero negative
    else if power < 0 then ofRatio negative digits (Nat.pow 10 power.natAbs)
    else ofRatio negative (digits * Nat.pow 10 power.natAbs) 1

def ofInt? (n : Int) : Option Binary64 :=
  match ofRatio (n < 0) n.natAbs 1 with
  | .infinite _ => none
  | x => some x

/-- A finite number as a signed numerator over a power of two. -/
def fraction? : Binary64 → Option (Int × Nat)
  | .finite negative m e =>
    let (n, d) := scaled m 1 (-e)
    some (if negative then -(n : Int) else n, d)
  | _ => none

def isZero : Binary64 → Bool
  | .finite _ m _ => m == 0
  | _ => false

def isNegative : Binary64 → Bool
  | .nan => false
  | .infinite negative => negative
  | .finite negative _ _ => negative

def add (x y : Binary64) : Binary64 :=
  match x, y with
  | .nan, _ | _, .nan => .nan
  | .infinite s, .infinite t => if s == t then .infinite s else .nan
  | .infinite s, _ | _, .infinite s => .infinite s
  | x, y =>
    match x.fraction?, y.fraction? with
    | some (m, d), some (n, e) =>
      let sum := m * e + n * d
      if sum = 0 then zero (x.isNegative && y.isNegative)
      else ofRatio (sum < 0) sum.natAbs (d * e)
    | _, _ => .nan

/-- Whether `x` is below the fraction `n / d`; not a number is below nothing. -/
def below (x : Binary64) (n : Int) (d : Nat) : Bool :=
  match x with
  | .nan => false
  | .infinite negative => negative
  | x => match x.fraction? with
    | some (m, e) => m * d < n * e
    | none => false

def above (x : Binary64) (n : Int) (d : Nat) : Bool :=
  match x with
  | .nan => false
  | .infinite negative => !negative
  | x => match x.fraction? with
    | some (m, e) => n * e < m * d
    | none => false

/-- Equality of value: the two zeros are equal and not a number differs from itself. -/
def sameValue (x y : Binary64) : Bool :=
  match x, y with
  | .nan, _ | _, .nan => false
  | .infinite s, .infinite t => s == t
  | .infinite _, _ | _, .infinite _ => false
  | x, y =>
    match x.fraction?, y.fraction? with
    | some (m, d), some (n, e) => m * e == n * d
    | _, _ => false

end Binary64

end CodeAtlas
