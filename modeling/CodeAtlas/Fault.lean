import CodeAtlas.Value.Display

/-! What can go wrong, by cause, with the message of each cause. -/
namespace CodeAtlas

inductive ServiceFailure where
  | databaseUnavailable
  | databaseError
  | cloudError
  | cloudCallError (reason code : Value)
  | connection
  | connectionRefused
  | runtime
  | invalidValue
  | timeout
  | system
  | git

namespace ServiceFailure

def isConnection : ServiceFailure → Bool
  | .connection | .connectionRefused => true
  | _ => false

/-- The text under which a failure with the message `text` is reported. -/
def report (failure : ServiceFailure) (text : Text) : Text :=
  match failure with
  | .databaseError => "\x7bcode: None\x7d \x7bmessage: " ++ text ++ "\x7d"
  | .cloudCallError _ code => code.display ++ " " ++ text
  | _ => text

end ServiceFailure

inductive Fault where
  /-- A service failed. -/
  | service (failure : ServiceFailure) (text : Text)
  /-- The graph database cannot be reached; the text says at which point. -/
  | noConnection (text : Text)
  | malformedJson
  /-- Lists and dictionaries within one another beyond what can be read. -/
  | tooDeep
  | tooManyDigits (count : Nat)
  | notUtf8
  /-- A text holds halves of pairs that stand alone and therefore has no UTF-8 form. -/
  | loneHalves (start : Nat) (halves : Text)
  /-- The host of an address opens a bracket and does not close it, or the other way round. -/
  | unmatchedBracket
  /-- What stands in brackets is no numeric address. -/
  | notAnIpAddress (text : Text)
  | badFutureAddress
  /-- A numeric address of four numbers stands in brackets. -/
  | bracketedNumbers
  /-- A label of a host name is empty or too long. -/
  | badHostName
  | notAPort (text : Text)
  | portOutOfRange
  /-- Parameters are in an address and beside it. -/
  | queryTwice
  | missingKey (key : Value)
  /-- An operation of another kind of value was asked for. -/
  | lacksOperation (typeName operation : Text)
  | notSubscriptable (typeName : Text)
  | notSliceable (typeName : Text)
  | notAssignable (typeName : Text)
  | notIterable (typeName : Text)
  | noLength (typeName : Text)
  | notHashable (typeName : Text)
  | notOrdered (typeName : Text)
  | notAddable (left right : Text)
  | notText (typeName : Text)
  | notPath (typeName : Text)
  | notAnIndex
  | badArguments
  | numberTooLarge
  | indexOutOfRange
  | settingUnset (text : Text)
  | notAnInteger (text : Text)
  | noSuchFile
  | isDirectory
  | notDirectory
  | notEmpty
  | notPermitted

namespace Fault

def isConnection : Fault → Bool
  | .service failure _ => failure.isConnection
  | .noConnection _ => true
  | _ => false

def message : Fault → Text
  | .service failure text => failure.report text
  | .noConnection text => text
  | .malformedJson => "malformed JSON"
  | .tooDeep => "nested too deeply"
  | .tooManyDigits count =>
    "Exceeds the limit (4300 digits) for integer string conversion: value has " ++
      Text.natText count ++ " digits; use sys.set_int_max_str_digits() to increase the limit"
  | .notUtf8 => "invalid UTF-8"
  | .loneHalves start halves =>
    let subject : Text :=
      if halves.length < 2 then
        "character " ++ (Value.str halves).repr ++ " in position " ++ Text.natText start
      else
        "characters in position " ++ Text.natText start ++ "-" ++
          Text.natText (start + halves.length - 1)
    "'utf-8' codec can't encode " ++ subject ++ ": surrogates not allowed"
  | .unmatchedBracket => "Invalid IPv6 URL"
  | .notAnIpAddress text => (Value.str text).repr ++ " does not appear to be an IPv4 or IPv6 address"
  | .badFutureAddress => "IPvFuture address is invalid"
  | .bracketedNumbers => "An IPv4 address cannot be in brackets"
  | .badHostName => "label empty or too long"
  | .notAPort text => "Port could not be cast to integer value as " ++ (Value.str text).repr
  | .portOutOfRange => "Port out of range 0-65535"
  | .queryTwice => "Query string is defined in the path and as an argument"
  | .missingKey key => key.repr
  | .lacksOperation typeName operation =>
    "'" ++ typeName ++ "' object has no attribute '" ++ operation ++ "'"
  | .notSubscriptable typeName => "'" ++ typeName ++ "' object is not subscriptable"
  | .notSliceable typeName =>
    if typeName == "dict" then "unhashable type: 'slice'"
    else "'" ++ typeName ++ "' object is not subscriptable"
  | .notAssignable typeName => "'" ++ typeName ++ "' object does not support item assignment"
  | .notIterable typeName => "'" ++ typeName ++ "' object is not iterable"
  | .noLength typeName => "object of type '" ++ typeName ++ "' has no len()"
  | .notHashable typeName => "unhashable type: '" ++ typeName ++ "'"
  | .notOrdered typeName =>
    "'>' not supported between instances of '" ++ typeName ++ "' and 'int'"
  | .notAddable left right =>
    "unsupported operand type(s) for +: '" ++ left ++ "' and '" ++ right ++ "'"
  | .notText _ => "expected string or bytes-like object"
  | .notPath typeName => "expected str, bytes or os.PathLike object, not " ++ typeName
  | .notAnIndex => "slice indices must be integers or None or have an __index__ method"
  | .badArguments => "bad arguments"
  | .numberTooLarge => "int too large to convert to float"
  | .indexOutOfRange => "list index out of range"
  | .settingUnset text => text
  | .notAnInteger text =>
    "invalid literal for int() with base 10: " ++ (Value.str text).repr.take 200
  | .noSuchFile => "No such file or directory"
  | .isDirectory => "Is a directory"
  | .notDirectory => "Not a directory"
  | .notEmpty => "Directory not empty"
  | .notPermitted => "Permission denied"

end Fault

end CodeAtlas
