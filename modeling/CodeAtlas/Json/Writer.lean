import CodeAtlas.Text.Cut
import CodeAtlas.Value.Display

/-! Writing JSON in ASCII, on one line or with every item on a line of its own. -/
namespace CodeAtlas.Json

def unitEscape (code : Nat) : Text := "\\u" ++ Text.hexText 4 code

/-- Code points beyond ASCII are written by number, and those beyond the first plane as a pair. -/
def escapePoint (c : CodePoint) : Text :=
  if c == '"' then "\\\""
  else if c == '\\' then "\\\\"
  else if c == '\n' then "\\n"
  else if c == '\r' then "\\r"
  else if c == '\t' then "\\t"
  else if c == '\x08' then "\\b"
  else if c == '\x0c' then "\\f"
  else if 0x20 ≤ c.val && c.val < 0x7F then [c]
  else if c.val < 0x10000 then unitEscape c.val
  else
    let n := c.val - 0x10000
    unitEscape (0xD800 + n / 0x400) ++ unitEscape (0xDC00 + n % 0x400)

def writeText (s : Text) : Text := "\"" ++ s.flatMap escapePoint ++ "\""

def writeFloat : Binary64 → Text
  | .nan => "NaN"
  | .infinite negative => if negative then "-Infinity" else "Infinity"
  | x => x.text

/-- Where the items of a container stand: side by side, or each on a line that starts with the
given number of spaces. -/
inductive Layout where
  | line
  | indented (depth : Nat)

namespace Layout

def inner : Layout → Layout
  | .line => .line
  | .indented depth => .indented (depth + 2)

def lineBreak (depth : Nat) : Text := "\n" ++ List.replicate depth (CodePoint.ofChar ' ')

def wrap (layout : Layout) (start stop : Text) (items : List Text) : Text :=
  if items.isEmpty then start ++ stop
  else match layout with
    | .line => start ++ Text.intercalate ", " items ++ stop
    | .indented depth =>
      start ++ lineBreak (depth + 2) ++
        Text.intercalate ("," ++ lineBreak (depth + 2)) items ++ lineBreak depth ++ stop

end Layout

mutual
def writeWith (layout : Layout) : Value → Text
  | .null => "null"
  | .bool b => if b then "true" else "false"
  | .int n => Text.intText n
  | .float x => writeFloat x
  | .str s => writeText s
  | .list items => layout.wrap "[" "]" (writeItems layout.inner items)
  | .dict fields => layout.wrap "\x7b" "\x7d" (writeFields layout.inner fields)

def writeItems (layout : Layout) : List Value → List Text
  | [] => []
  | v :: vs => writeWith layout v :: writeItems layout vs

def writeFields (layout : Layout) : List (Text × Value) → List Text
  | [] => []
  | (key, v) :: rest => (writeText key ++ ": " ++ writeWith layout v) :: writeFields layout rest
end

def write (v : Value) : Text := writeWith .line v

def writeIndented (v : Value) : Text := writeWith (.indented 0) v

end CodeAtlas.Json
