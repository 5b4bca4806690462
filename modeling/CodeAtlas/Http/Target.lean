import CodeAtlas.Http.Address
import CodeAtlas.Text.Codec

/-! The target of a request: the path it asks for and the parameters behind the path. -/
namespace CodeAtlas.Http

def hexByte? : Text → Option Text.Byte
  | a :: b :: _ => do return ((← Text.hexValue? a) * 16 + (← Text.hexValue? b)).toUInt8
  | _ => none

/-- The bytes that a text with percent signs stands for; `skip` code points still belong to the sign
met last. A percent sign without two digits stands for itself. -/
def percentBytes : Nat → Text → List Text.Byte
  | _, [] => []
  | skip + 1, _ :: cs => percentBytes skip cs
  | 0, c :: cs =>
    match if c == '%' then hexByte? cs else none with
    | some b => b :: percentBytes 2 cs
    | none => Text.encodePoint c ++ percentBytes 0 cs

def decodePath (s : Text) : Text := Text.decodeUtf8Replacing (percentBytes 0 s)

/-- The name or the value of a parameter: a plus stands for a space, and bytes that belong to no
character stay behind percent signs. -/
def decodeParameter (s : Text) : Text :=
  let spaced : Text := s.map fun c : CodePoint => if c == '+' then ' ' else c
  let behindSign (b : Text.Byte) : Text := "%" ++ (Text.hexText 2 b.toNat).map CodePoint.toUpper
  Text.decodeUtf8With (fun b _ => (behindSign b, 0)) 0 (percentBytes 0 spaced)

/-- The parameters of a query, in order. One without a value has an empty value. -/
def parametersOf (query : Text) : List (Text × Text) :=
  ((Text.split '&' query).filter fun piece => !piece.isEmpty).map fun piece =>
    let (name, value) := Text.splitFirst '=' piece
    (decodeParameter name, decodeParameter value)

structure Target where
  path : Text
  parameters : List (Text × Text)

/-- The target that an address names. It is taken apart once by the sender, once more by the carrier
and then by the receiver, so a path that looks like an address loses its start each time. Parameters
that are given apart must be the only ones. -/
def Target.ofText (s : Text) (given : Option (List (Text × Text))) : Except Fault Target := do
  let typed ← Address.ofTyped s
  if given.isSome && !typed.query.isEmpty then throw .queryTwice
  let carried ← Address.ofText typed.withoutHost
  let received ← Address.ofText carried.path
  let path ← received.whole
  let _ ← utf8Bytes path
  let _ ← utf8Bytes (← typed.base)
  let _ ← utf8Bytes typed.withoutHost
  return { path := decodePath path, parameters := given.getD (parametersOf carried.query) }

end CodeAtlas.Http
