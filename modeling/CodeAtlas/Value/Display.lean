import CodeAtlas.Text.Cut
import CodeAtlas.Text.Printable
import CodeAtlas.Value

/-! The text that shows a value inside a sentence. A text alone is shown as it is; inside a list or
a dictionary it is quoted. -/
namespace CodeAtlas.Value

/-- Code points that cannot be shown are written by number, with two, four or eight hexadecimal
digits. -/
def shownPoint (quote c : CodePoint) : Text :=
  if c == quote || c == '\\' then ['\\', c]
  else if c == '\n' then "\\n"
  else if c == '\r' then "\\r"
  else if c == '\t' then "\\t"
  else if Text.isPrintable c then [c]
  else if c.val < 0x100 then "\\x" ++ Text.hexText 2 c.val
  else if c.val < 0x10000 then "\\u" ++ Text.hexText 4 c.val
  else "\\U" ++ Text.hexText 8 c.val

/-- Single quotes, or double quotes around a text that holds single quotes only. -/
def quoted (s : Text) : Text :=
  let quote : CodePoint := if s.contains '\'' && !s.contains '"' then '"' else '\''
  quote :: s.flatMap (shownPoint quote) ++ [quote]

mutual
def repr : Value → Text
  | .null => "None"
  | .bool b => if b then "True" else "False"
  | .int n => Text.intText n
  | .float x => x.text
  | .str s => quoted s
  | .list items => "[" ++ Text.intercalate ", " (reprItems items) ++ "]"
  | .dict fields => "\x7b" ++ Text.intercalate ", " (reprFields fields) ++ "\x7d"

def reprItems : List Value → List Text
  | [] => []
  | v :: vs => v.repr :: reprItems vs

def reprFields : List (Text × Value) → List Text
  | [] => []
  | (key, v) :: rest => (quoted key ++ ": " ++ v.repr) :: reprFields rest
end

def display : Value → Text
  | .str s => s
  | v => v.repr

end CodeAtlas.Value
