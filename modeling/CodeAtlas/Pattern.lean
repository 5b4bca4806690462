import CodeAtlas.Pattern.CharClass

/-! Search patterns. A pattern is tried at a place with a continuation that says what the rest of
the search makes of the place where the pattern ends; alternatives are tried in order of
preference, and the first that the continuation accepts wins. -/
namespace CodeAtlas

/-- A place in a text: what stands before it, nearest first, and what stands after it. -/
structure Place where
  before : Text
  after : Text
deriving DecidableEq, Repr, Inhabited

namespace Place

def start (text : Text) : Place := ⟨[], text⟩

def text (p : Place) : Text := p.before.reverse ++ p.after

def offset (p : Place) : Nat := p.before.length

def line (p : Place) : Nat := Text.lineBreaks p.before + 1

def upTo (p q : Place) : Text := p.after.take (q.offset - p.offset)

end Place

inductive Pattern where
  | empty
  | one (k : CharClass)
  | seq (p q : Pattern)
  /-- `p`, or else `q`. -/
  | alt (p q : Pattern)
  /-- At least `least` code points, as many as possible. -/
  | run (k : CharClass) (least : Nat)
  /-- At least `least` code points, as few as possible. -/
  | shortRun (k : CharClass) (least : Nat)
  | lineStart
  /-- The end of the text or of a line, as the search mode says. -/
  | ending
  | wordEdge
  /-- Matches the empty text where `p` does not match. -/
  | unless (p : Pattern)
deriving DecidableEq, Repr

/-- How a pattern is read: with or without regard to case, and with endings at every line or only
at the end of the text, before or after one final line break. -/
structure Mode where
  foldCase : Bool
  byLine : Bool
deriving DecidableEq, Repr

namespace Pattern

variable {α : Type}

def atLineStart (p : Place) : Bool := p.before.head?.all fun c : CodePoint => c == '\n'

def atEnding (mode : Mode) (p : Place) : Bool :=
  match p.after with
  | [] => true
  | c :: cs => c == '\n' && (mode.byLine || cs.isEmpty)

def atWordEdge (p : Place) : Bool :=
  p.before.head?.any Text.isWordChar != p.after.head?.any Text.isWordChar

/-- A longest run first, then ever shorter ones down to `least` code points. -/
def matchRun (ok : CodePoint → Bool) (k : Place → Option α) :
    Nat → Text → Text → Option α
  | least, before, [] => if least = 0 then k ⟨before, []⟩ else none
  | least, before, c :: cs =>
    match if ok c then matchRun ok k (least - 1) (c :: before) cs else none with
    | some found => some found
    | none => if least = 0 then k ⟨before, c :: cs⟩ else none

def matchShortRun (ok : CodePoint → Bool) (k : Place → Option α) :
    Nat → Text → Text → Option α
  | least, before, [] => if least = 0 then k ⟨before, []⟩ else none
  | least, before, c :: cs =>
    match if least = 0 then k ⟨before, c :: cs⟩ else none with
    | some found => some found
    | none => if ok c then matchShortRun ok k (least - 1) (c :: before) cs else none

def matchAt (mode : Mode) : Pattern → {α : Type} → Place → (Place → Option α) → Option α
  | .empty, _, p, k => k p
  | .one c, _, p, k =>
    match p.after with
    | [] => none
    | x :: rest => if c.holds mode.foldCase x then k ⟨x :: p.before, rest⟩ else none
  | .seq a b, _, p, k => a.matchAt mode p fun q => b.matchAt mode q k
  | .alt a b, _, p, k =>
    match a.matchAt mode p k with
    | some found => some found
    | none => b.matchAt mode p k
  | .run c least, _, p, k => matchRun (c.holds mode.foldCase) k least p.before p.after
  | .shortRun c least, _, p, k => matchShortRun (c.holds mode.foldCase) k least p.before p.after
  | .lineStart, _, p, k => if atLineStart p then k p else none
  | .ending, _, p, k => if atEnding mode p then k p else none
  | .wordEdge, _, p, k => if atWordEdge p then k p else none
  | .unless a, _, p, k =>
    match a.matchAt mode p fun _ => some () with
    | some _ => none
    | none => k p

/-- Whether the pattern matches somewhere from the given place on. -/
def occursFrom (mode : Mode) (pattern : Pattern) : Text → Text → Bool
  | before, [] => (pattern.matchAt mode ⟨before, []⟩ some).isSome
  | before, c :: cs =>
    (pattern.matchAt mode ⟨before, c :: cs⟩ some).isSome ||
      pattern.occursFrom mode (c :: before) cs

def occursIn (mode : Mode) (pattern : Pattern) (text : Text) : Bool :=
  pattern.occursFrom mode [] text

instance : Append Pattern := ⟨.seq⟩

def text (s : Text) : Pattern := s.foldr (fun c p => .seq (.one (.char c)) p) .empty

def char (c : CodePoint) : Pattern := .one (.char c)

def optional (p : Pattern) : Pattern := .alt p .empty

def firstOf : List Pattern → Pattern
  | [] => .unless .empty
  | [p] => p
  | p :: ps => .alt p (firstOf ps)

def anyText (texts : List Text) : Pattern := firstOf (texts.map text)

def blanks : Pattern := .run .blank 0

def gap : Pattern := .run .blank 1

def word : Pattern := .run .word 1

def identifier : Pattern := .one .nameStart ++ .run .namePart 0

end Pattern

/-- A pattern with a part that names what was found. -/
structure Rule where
  lead : Pattern
  name : Pattern
  tail : Pattern
deriving DecidableEq, Repr

/-- Where a rule matched: its whole extent and the extent of the name. -/
structure Hit where
  start : Place
  nameStart : Place
  nameStop : Place
  stop : Place
deriving DecidableEq, Repr

namespace Hit

def name (h : Hit) : Text := h.nameStart.upTo h.nameStop

def text (h : Hit) : Text := h.start.upTo h.stop

end Hit

namespace Rule

def matchAt (mode : Mode) (rule : Rule) (p : Place) : Option Hit :=
  rule.lead.matchAt mode p fun a =>
    rule.name.matchAt mode a fun b =>
      rule.tail.matchAt mode b fun e => some ⟨p, a, b, e⟩

/-- Hits from left to right that do not overlap; `skip` code points still belong to the hit found
last. Rules match at least one code point, so none matches at the very end. -/
def hitsFrom (mode : Mode) (rule : Rule) : Nat → Text → Text → List Hit
  | _, _, [] => []
  | skip + 1, before, c :: cs => rule.hitsFrom mode skip (c :: before) cs
  | 0, before, c :: cs =>
    match rule.matchAt mode ⟨before, c :: cs⟩ with
    | some hit => hit :: rule.hitsFrom mode (hit.stop.offset - before.length - 1) (c :: before) cs
    | none => rule.hitsFrom mode 0 (c :: before) cs

def hits (mode : Mode) (rule : Rule) (text : Text) : List Hit :=
  rule.hitsFrom mode 0 [] text

def firstFrom (mode : Mode) (rule : Rule) : Text → Text → Option Hit
  | before, [] => rule.matchAt mode ⟨before, []⟩
  | before, c :: cs =>
    match rule.matchAt mode ⟨before, c :: cs⟩ with
    | some hit => some hit
    | none => rule.firstFrom mode (c :: before) cs

def first? (mode : Mode) (rule : Rule) (text : Text) : Option Hit :=
  rule.firstFrom mode [] text

end Rule

end CodeAtlas
