import CodeAtlas.Fault
import CodeAtlas.Http.IpAddress
import CodeAtlas.Text.Case
import CodeAtlas.Text.Cut
import CodeAtlas.Text.Numeral

/-! Addresses, taken apart. The sender takes an address as it is typed; everyone after that reads it
strictly. -/
namespace CodeAtlas.Http

structure Host where
  user : Text
  password : Text
  name : Text
  port : Text

namespace Host

def ofText (s : Text) : Host :=
  let place := (s.reverse.takeWhile fun c : CodePoint => c != '@').reverse
  let (user, password) := Text.splitFirst ':' (s.take (s.length - place.length - 1))
  if place.contains '[' then
    let (name, behind) := Text.splitFirst ']' (Text.splitFirst '[' place).2
    { user, password, name, port := (Text.splitFirst ':' behind).2 }
  else
    let (name, port) := Text.splitFirst ':' place
    { user, password, name, port }

/-- What stands in brackets has to be a numeric address of the kind with groups. -/
def checkBrackets (s : Text) : Except Fault Unit :=
  let inner := (Text.splitFirst ']' (Text.splitFirst '[' s).2).1
  if s.contains '[' != s.contains ']' then .error .unmatchedBracket
  else if !s.contains '[' || IpAddress.isSix inner || IpAddress.isFuture inner then .ok ()
  else if Text.startsWith "v" inner then .error .badFutureAddress
  else if IpAddress.isFour inner then .error .bracketedNumbers
  else .error (.notAnIpAddress inner)

/-- Whether each label has at most 63 characters and only the last one is empty, if any. Halves that
stand alone fit nowhere. -/
def hasFittingLabels (name : Text) : Bool :=
  let labels := Text.split '.' name
  labels.all (·.length < 64) && labels.dropLast.all (!·.isEmpty) && !name.any CodePoint.isHalf

/-- The name in lower case, up to a zone behind a percent sign. -/
def lowerName (name : Text) : Text :=
  let isZoneMark (c : CodePoint) : Bool := c == '%'
  Text.lower (name.takeWhile (!isZoneMark ·)) ++ name.dropWhile (!isZoneMark ·)

/-- The number of the port; none is zero. -/
def portNumber (port : Text) : Except Fault Nat :=
  if port.isEmpty then .ok 0
  else if port.all CodePoint.isDigit then
    match Text.readInt port with
    | .int n => if n ≤ 65535 then .ok n.toNat else .error .portOutOfRange
    | .tooLong digits => .error (.tooManyDigits digits)
    | .malformed => .error (.notAPort port)
  else .error (.notAPort port)

/-- The host in its usual spelling: no empty user, no port zero, brackets only around colons. -/
def spelled (h : Host) : Except Fault Text := do
  if !hasFittingLabels h.name then throw .badHostName
  let name := lowerName h.name
  let name : Text := if name.contains ':' then "[" ++ name ++ "]" else name
  let port ← portNumber h.port
  let place : Text := if port == 0 then name else name ++ ":" ++ Text.natText port
  let user : Text := if h.password.isEmpty then h.user else h.user ++ ":" ++ h.password
  return if h.user.isEmpty then place else user ++ "@" ++ place

end Host

structure Address where
  scheme : Text
  host : Text
  path : Text
  query : Text

namespace Address

def isPadding (c : CodePoint) : Bool := c.val ≤ 0x20

def isBreak (c : CodePoint) : Bool := c == '\t' || c == '\n' || c == '\r'

def isSchemePart (c : CodePoint) : Bool :=
  c.isLetter || c.isDigit || c == '+' || c == '-' || c == '.'

/-- The scheme before the first colon, if there is one, and the rest. -/
def splitScheme (s : Text) : Text × Text :=
  let (scheme, rest) := Text.splitFirst ':' s
  if s.contains ':' && scheme.head?.any CodePoint.isLetter && scheme.all isSchemePart then
    (Text.lower scheme, rest)
  else ([], s)

/-- The scheme of an address as it is typed. It need not start with a letter, may hold commas and may
end in a line break. Digits alone behind the colon are a port, and before a port stands no scheme. -/
def splitTypedScheme (s : Text) : Text × Text :=
  let (scheme, rest) := Text.splitFirst ':' s
  let name := if Text.endsWith "\n" scheme then scheme.dropLast else scheme
  let isScheme := !name.isEmpty && name.all fun c : CodePoint => isSchemePart c || c == ','
  let isPort := !rest.isEmpty && rest.all CodePoint.isDigit
  if s.contains ':' && isScheme && !isPort then (Text.lower scheme, rest) else ([], s)

/-- The host after two slashes, if they are there, and the rest. -/
def splitHost (s : Text) : Text × Text :=
  let isHostPart (c : CodePoint) : Bool := c != '/' && c != '?' && c != '#'
  if Text.startsWith "//" s then
    ((s.drop 2).takeWhile isHostPart, (s.drop 2).dropWhile isHostPart)
  else ([], s)

def ofRest (scheme rest : Text) : Address :=
  let (host, rest) := splitHost rest
  let (path, query) := Text.splitFirst '?' (Text.splitFirst '#' rest).1
  { scheme, host, path, query }

def ofTyped (s : Text) : Except Fault Address :=
  let (scheme, rest) := splitTypedScheme s
  let a := ofRest scheme rest
  if a.host.contains '[' == a.host.contains ']' then .ok a else .error .unmatchedBracket

def ofText (s : Text) : Except Fault Address := do
  let (scheme, rest) := splitScheme ((s.dropWhile isPadding).filter (!isBreak ·))
  let a := ofRest scheme rest
  Host.checkBrackets a.host
  return a

def withoutHost (a : Address) : Text := if a.query.isEmpty then a.path else a.path ++ "?" ++ a.query

def whole (a : Address) : Except Fault Text := do
  let host ← (Host.ofText a.host).spelled
  let slash : Text := if a.path.isEmpty || Text.startsWith "/" a.path then "" else "/"
  let place := if host.isEmpty then a.path else "//" ++ host ++ slash ++ a.path
  return if a.scheme.isEmpty then place else a.scheme ++ ":" ++ place

/-- The address of the service itself: the scheme and the host of `a`, or the usual ones. -/
def base (a : Address) : Except Fault Text := do
  let scheme : Text := if a.scheme.isEmpty then "http" else a.scheme
  let host : Text := if a.host.isEmpty then "localhost" else a.host
  (← ofText (scheme ++ "://" ++ host ++ "/")).whole

end Address

end CodeAtlas.Http
