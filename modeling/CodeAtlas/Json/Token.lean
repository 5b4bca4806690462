import CodeAtlas.Text.Cut
import CodeAtlas.Value

/-! The tokens of a JSON text. Reading them never fails: what is no token becomes `junk`, which no
document contains. -/
namespace CodeAtlas.Json

inductive Token where
  | openList
  | closeList
  | openDict
  | closeDict
  | comma
  | colon
  | text (s : Text)
  /-- A number, a truth value or null. -/
  | scalar (v : Value)
  /-- A whole number with more digits than are read. -/
  | longNumber (digits : Nat)
  | junk
deriving Inhabited

def isSpace (c : CodePoint) : Bool := c == ' ' || c == '\t' || c == '\n' || c == '\r'

def hexCode? (a b c d : CodePoint) : Option CodePoint := do
  let high := (← Text.hexValue? a) * 16 + (← Text.hexValue? b)
  let low := (← Text.hexValue? c) * 16 + (← Text.hexValue? d)
  CodePoint.ofNat? (high * 0x100 + low)

def escapes : List (CodePoint × CodePoint) := [
  ('"', '"'), ('\\', '\\'), ('/', '/'), ('b', '\x08'), ('f', '\x0c'), ('n', '\n'), ('r', '\r'),
  ('t', '\t')]

/-- A code point of a text in the way it is written: as it is, or by number. -/
inductive Glyph where
  | plain (c : CodePoint)
  | numbered (c : CodePoint)

/-- The text that is written. Two halves written by number side by side make one character; any
other half stands alone. -/
def spelled : List Glyph → Text
  | [] => []
  | .plain c :: rest => c :: spelled rest
  | [.numbered c] => [c]
  | .numbered c :: .numbered d :: rest =>
    if c.isHighHalf && d.isLowHalf then .ofHalves c d :: spelled rest
    else c :: spelled (.numbered d :: rest)
  | .numbered c :: rest => c :: spelled rest

/-- What is written up to the closing quote, and what follows it. Control characters have to be
escaped. -/
def scanText : Text → Option (List Glyph × Text)
  | [] => none
  | c :: cs =>
    if c == '"' then some ([], cs)
    else if c == '\\' then
      match cs with
      | [] => none
      | letter :: cs =>
        if letter == 'u' then
          match cs with
          | h₃ :: h₂ :: h₁ :: h₀ :: cs => do
            let code ← hexCode? h₃ h₂ h₁ h₀
            let (glyphs, rest) ← scanText cs
            return (.numbered code :: glyphs, rest)
          | _ => none
        else do
          let meant ← escapes.lookup letter
          let (glyphs, rest) ← scanText cs
          return (.plain meant :: glyphs, rest)
    else if c.val < 0x20 then none
    else do
      let (glyphs, rest) ← scanText cs
      return (.plain c :: glyphs, rest)

def digitSpan (s : Text) : Text × Text :=
  (s.takeWhile CodePoint.isDigit, s.dropWhile CodePoint.isDigit)

/-- Digits without a superfluous leading zero. -/
def wholePart : Text → Text × Text
  | [] => ([], [])
  | c :: cs => if c == '0' then ([c], cs) else digitSpan (c :: cs)

def fractionPart : Text → Text × Text
  | [] => ([], [])
  | c :: cs =>
    let (digits, rest) := digitSpan cs
    if c == '.' && !digits.isEmpty then (digits, rest) else ([], c :: cs)

def digitsValue (ds : Text) : Nat := ds.foldl (fun n d => 10 * n + (d.val - 0x30)) 0

/-- A power of ten, with its sign if it has one. -/
def signedExponent (s : Text) : Option (Int × Text) :=
  let isSigned := s.head?.any fun c : CodePoint => c == '-' || c == '+'
  let (digits, rest) := digitSpan (if isSigned then s.drop 1 else s)
  let size : Int := digitsValue digits
  if digits.isEmpty then none
  else some (if Text.startsWith "-" s then -size else size, rest)

def exponentPart : Text → Option Int × Text
  | [] => (none, [])
  | e :: cs =>
    match if e == 'e' || e == 'E' then signedExponent cs else none with
    | some (power, rest) => (some power, rest)
    | none => (none, e :: cs)

def scanNumber (negative : Bool) (s : Text) : Option (Token × Text) :=
  let (whole, s) := wholePart s
  if whole.isEmpty then none
  else
    let (fraction, s) := fractionPart s
    let (power, s) := exponentPart s
    if fraction.isEmpty && power.isNone then
      let n : Int := digitsValue whole
      if Text.digitLimit < whole.length then some (.longNumber whole.length, s)
      else some (.scalar (.int (if negative then -n else n)), s)
    else
      let power := power.getD 0 - fraction.length
      some (.scalar (.float (.ofDecimal negative (digitsValue (whole ++ fraction)) power)), s)

def fixedTokens : List (Text × Token) := [
  ("[", .openList), ("]", .closeList), ("\x7b", .openDict), ("\x7d", .closeDict), (",", .comma),
  (":", .colon), ("null", .scalar .null), ("true", .scalar (.bool true)),
  ("false", .scalar (.bool false)), ("NaN", .scalar (.float .nan)),
  ("Infinity", .scalar (.float (.infinite false))),
  ("-Infinity", .scalar (.float (.infinite true)))]

def scanToken (s : Text) : Option (Token × Text) :=
  match fixedTokens.find? fun (written, _) => Text.startsWith written s with
  | some (written, token) => some (token, s.drop written.length)
  | none =>
    if Text.startsWith "\"" s then
      (scanText (s.drop 1)).map fun (glyphs, rest) => (.text (spelled glyphs), rest)
    else if Text.startsWith "-" s then scanNumber true (s.drop 1)
    else scanNumber false s

/-- All tokens of a text, up to and including the first piece of junk. Each step takes at least one
code point, so `fuel` is enough when it is their number. -/
def tokensWithin : Nat → Text → List Token
  | _, [] => []
  | 0, _ => [.junk]
  | fuel + 1, c :: cs =>
    if isSpace c then tokensWithin fuel cs
    else match scanToken (c :: cs) with
      | some (token, rest) => token :: tokensWithin fuel rest
      | none => [.junk]

def tokens (s : Text) : List Token := tokensWithin s.length s

end CodeAtlas.Json
