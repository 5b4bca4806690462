import CodeAtlas.Http.Target
import CodeAtlas.Json.Reader
import CodeAtlas.Text.Cut
import CodeAtlas.Text.Encoding

/-! Requests to a service and the answers to them. -/
namespace CodeAtlas.Http

structure Body where
  contentType : Text
  bytes : List Text.Byte

structure Request where
  method : Text
  target : Target
  body : Option Body := none

structure Response where
  status : Nat
  document : Option Value
deriving Inhabited

structure Route where
  path : Text
  method : Text

namespace Route

/-- Every path also tells its methods, and `HEAD` goes where `GET` does. -/
def allows (route : Route) (method : Text) : Bool :=
  method == route.method || (route.method == "GET" && method == "HEAD") || method == "OPTIONS"

/-- The route of a file that comes with a service: a name, perhaps with folders, on one line. -/
def asset? (path : Text) : Option Route :=
  if Text.startsWith "/static/" path then
    match path.drop 8 with
    | [] => none
    | c :: cs => if c == '/' || cs.contains '\n' then none else some ⟨path, "GET"⟩
  else none

end Route

inductive Dispatch where
  | notFound
  | wrongMethod
  /-- The path is served under another spelling. -/
  | moved
  /-- The methods of a path are asked for, and the path itself does nothing. -/
  | methods
  | run (path : Text)

/-- The path from its last leading slash on; an empty path stays empty. -/
def rooted (path : Text) : Text :=
  if path.isEmpty then [] else "/" ++ path.dropWhile fun c : CodePoint => c == '/'

/-- Each two slashes side by side become one, from left to right. -/
def mergeSlashes : Text → Text
  | [] => []
  | [c] => [c]
  | c :: d :: rest =>
    if c == '/' && d == '/' then c :: mergeSlashes rest else c :: mergeSlashes (d :: rest)

def findRoute? (routes : List Route) (path : Text) : Option Route :=
  (routes.find? fun route => route.path == path).orElse fun _ => Route.asset? path

namespace Request

def asked (r : Request) : Text := r.method.map .toUpper

/-- A path is served as it is asked for; where only its spelling with merged slashes is served, the
request is sent on to that. No file comes with a service. -/
def dispatch (routes : List Route) (r : Request) : Dispatch :=
  let path := rooted r.target.path
  let exact := findRoute? routes path
  let merged := findRoute? routes (mergeSlashes path)
  if exact.any (·.allows r.asked) then
    if r.asked == "OPTIONS" then .methods
    else if routes.any (·.path == path) then .run path
    else .notFound
  else if merged.any (·.allows r.asked) then .moved
  else if exact.isSome || merged.isSome then .wrongMethod
  else .notFound

end Request

namespace Body

/-- The content type without its parameters, in lower case. -/
def mediaType (b : Body) : Text := Text.lower (Text.trim (Text.splitFirst ';' b.contentType).1)

def isJson (b : Body) : Bool :=
  b.mediaType == "application/json" ||
    (Text.startsWith "application/" b.mediaType && Text.endsWith "+json" b.mediaType)

def document (b : Body) : Except Fault Value :=
  match Text.decodeDocument? b.bytes with
  | some text => Json.read text
  | none => .error .malformedJson

end Body

inductive Payload where
  | document (v : Value)
  | malformed
  | notJson
  /-- Reading the document went wrong for another reason than its form. -/
  | failed (fault : Fault)

def Request.payload (r : Request) : Payload :=
  match r.body with
  | none => .notJson
  | some b =>
    if b.isJson then
      match b.document with
      | .ok v => .document v
      | .error .tooDeep => .failed .tooDeep
      | .error _ => .malformed
    else .notJson

/-- The answer as it is sent: an answer to `HEAD` has no document. -/
def Response.sentTo (response : Response) (r : Request) : Response :=
  if r.method == "HEAD" then { response with document := none } else response

end CodeAtlas.Http
