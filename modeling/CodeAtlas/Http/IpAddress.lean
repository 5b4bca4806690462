import CodeAtlas.Text.Cut
import CodeAtlas.Text.Numeral

/-! Numeric addresses of machines, as texts: four decimal numbers, or eight groups of hexadecimal
digits. -/
namespace CodeAtlas.Http.IpAddress

def isOctet (s : Text) : Bool :=
  !s.isEmpty && s.length ≤ 3 && s.all CodePoint.isDigit && (s == "0" || !Text.startsWith "0" s) &&
    s.foldl (fun n c => n * 10 + (c.val - 0x30)) 0 ≤ 255

def isFour (s : Text) : Bool :=
  let parts := Text.split '.' s
  parts.length == 4 && parts.all isOctet

def isGroup (s : Text) : Bool := !s.isEmpty && s.length ≤ 4 && s.all fun c => (Text.hexValue? c).isSome

def isSide (groups : List Text) : Bool := groups == [[]] || groups.all isGroup

def sideLength (groups : List Text) : Nat := if groups == [[]] then 0 else groups.length

/-- Whether the parts between colons are eight groups, or fewer with two colons in one place for the
rest. -/
def areGroups : List Text → Bool
  | [] => false
  | first :: rest =>
    let left := first :: rest.takeWhile (!·.isEmpty)
    match rest.dropWhile (!·.isEmpty) with
    | _ :: low :: lows =>
      let right := low :: lows
      isSide left && isSide right && sideLength left + sideLength right < 8
    | _ => (first :: rest).length == 8 && (first :: rest).all isGroup

/-- Groups with colons between them, of which the last two may be written as four numbers. A percent
sign may come before the name of a zone. -/
def isSix (s : Text) : Bool :=
  let (groups, zone) := Text.splitFirst '%' s
  let parts := Text.split ':' groups
  let zeros : List Text := ["0", "0"]
  let whole := if parts.getLast?.any isFour then parts.dropLast ++ zeros else parts
  let hasZone := s.contains '%'
  (!hasZone || (!zone.isEmpty && !zone.contains '%')) && 3 ≤ parts.length && areGroups whole

/-- The form kept for addresses to come: `v`, hexadecimal digits, a dot and something else. -/
def isFuture (s : Text) : Bool :=
  let (digits, rest) := Text.splitFirst '.' (s.drop 1)
  Text.startsWith "v" s && !digits.isEmpty && digits.all (fun c => (Text.hexValue? c).isSome) &&
    !rest.isEmpty

end CodeAtlas.Http.IpAddress
