import FlowGate.Text.Basic

/-!
# Path patterns

A pattern says which paths a route takes. It is written like a path; `{name}` at the end of a
segment is a parameter, and a brace written twice stands for itself. The name of a parameter may
begin with a slash, which then does not end the segment. `Pattern.parse?` reads a pattern and
`Pattern.match?` compares it with the segments of a path as it was sent.
-/

namespace FlowGate.Http

/-- One segment of a pattern. -/
inductive Segment where
  /-- The segment is exactly this text. -/
  | literal (text : String)
  /-- The segment begins with a text, and what follows is the value of a parameter. -/
  | parameter (before name : String)
  deriving DecidableEq

/-- The segments of a route. -/
abbrev Pattern := List Segment

/-- Parameters with their values. -/
abbrev Parameters := List (String × String)

/-- A part of a written pattern. -/
inductive Mark where
  /-- A character that stands for itself. -/
  | char (c : Char)
  /-- The brace in front of the name of a parameter. -/
  | opening
  /-- The brace behind the name of a parameter. -/
  | closing
  deriving DecidableEq

/-- The character that a mark is written as. -/
def Mark.character : Mark → Char
  | .char c => c
  | .opening => '\x7b'
  | .closing => '\x7d'

/-- The marks of a written pattern; of two equal braces only one is left, and it is a character. -/
def marks : List Char → List Mark
  | '\x7b' :: '\x7b' :: rest => .char '\x7b' :: marks rest
  | '\x7d' :: '\x7d' :: rest => .char '\x7d' :: marks rest
  | '\x7b' :: rest => .opening :: marks rest
  | '\x7d' :: rest => .closing :: marks rest
  | c :: rest => .char c :: marks rest
  | [] => []

/-- How much of a segment has been read; the last character read is the first of a list. -/
inductive Progress where
  /-- Some of its literal text. -/
  | text (before : List Char)
  /-- Its literal text and some of the name of its parameter. -/
  | name (before name : List Char)
  /-- All of it, up to the closing brace. -/
  | closed (segment : Segment)

/-- A text from its characters, the last one first. -/
def ofReversed (characters : List Char) : String := String.ofList characters.reverse

/-- Whether a character may follow the characters that have been read of a name: no asterisk, no
closing brace at the beginning, and a slash only there. -/
def continuesName (name : List Char) (c : Char) : Bool :=
  c ≠ '*' && if name.isEmpty then c ≠ '\x7d' else c ≠ '/'

namespace Segment

/-- The encoded parameter of a segment of a path, if the segment fits. -/
def match? : Segment → String → Option Parameters
  | .literal text, segment => if text = segment then some [] else none
  | .parameter before name, segment =>
      (Text.dropPrefix? before segment).map fun value ↦ [(name, value)]

end Segment

namespace Pattern

/-- Reads the marks of a pattern from within a segment. -/
def ofMarks? : Progress → List Mark → Option Pattern
  | .text before, [] => some [.literal (ofReversed before)]
  | .text before, .char c :: rest =>
      if c = '/' then (ofMarks? (.text []) rest).map (.literal (ofReversed before) :: ·)
      else ofMarks? (.text (c :: before)) rest
  | .text before, .opening :: rest => ofMarks? (.name before []) rest
  | .text _, .closing :: _ => none
  | .name _ _, [] => none
  | .name before name, mark :: rest =>
      if mark = .closing then
        if name.isEmpty then none
        else ofMarks? (.closed (.parameter (ofReversed before) (ofReversed name))) rest
      else if continuesName name mark.character then
        ofMarks? (.name before (mark.character :: name)) rest
      else none
  | .closed segment, [] => some [segment]
  | .closed segment, mark :: rest =>
      if mark = .char '/' then (ofMarks? (.text []) rest).map (segment :: ·) else none

/-- Reads a pattern, written without the slash in front. -/
def parse? (text : String) : Option Pattern := ofMarks? (.text []) (marks text.toList)

/-- The encoded values of the parameters if a pattern fits the segments of a path. A parameter in
the last segment must not be empty. -/
def match? : Pattern → List String → Option Parameters
  | [], [] => some []
  | [segment], [text] => (segment.match? text).filter fun parameters ↦ parameters.all (·.2 ≠ "")
  | segment :: pattern, text :: rest => do return (← segment.match? text) ++ (← match? pattern rest)
  | _, _ => none

/-- Whether a pattern comes before another one that fits the same path: where they first differ, it
has the longer literal text. -/
def precedes : Pattern → Pattern → Bool
  | .literal _ :: _, .parameter .. :: _ => true
  | .parameter .. :: _, .literal _ :: _ => false
  | .parameter before _ :: pattern, .parameter other _ :: others =>
      if before = other then precedes pattern others else other.length < before.length
  | .literal _ :: pattern, .literal _ :: others => precedes pattern others
  | _, _ => false

end Pattern

end FlowGate.Http
