/-!
Text without control characters and control sequences, as it is written where no terminal would
obey them. A sequence starts with the escape character and hides everything up to its end; another
escape character starts the next one. Blanks that move to another line or column are kept, also
inside a sequence that takes parameters, and what follows them there is text again.
-/
namespace ContentionCharts.Text

/-- How far a sequence has come. A hidden string follows a header of its own, well formed or not, or
starts at once. -/
inductive ControlSequence where
  | none
  | escape
  | intermediate
  | parameters
  | title
  | deviceHeader
  | deviceParameters
  | deviceIntermediate
  | hidden
  deriving DecidableEq, Repr

def isLayout (c : Char) : Bool :=
  c == '\t' || c == '\n' || c == '\x0c' || c == '\r'

def isShown (c : Char) : Bool :=
  (' ' ≤ c && c != '\x7f') || isLayout c

/-- The byte 0x9C ends a hidden string even in the middle of a longer character. -/
def endsHidden (c : Char) : Bool :=
  (String.utf8EncodeChar c).contains 0x9C

def isBetween (low high c : Char) : Bool :=
  low ≤ c && c ≤ high

namespace ControlSequence

def admitsLayout : ControlSequence → Bool
  | escape | intermediate | parameters => true
  | none | title | deviceHeader | deviceParameters | deviceIntermediate | hidden => false

def afterEscape (c : Char) : ControlSequence :=
  if isBetween ' ' '/' c then intermediate
  else if c = '[' then parameters
  else if c = ']' then title
  else if c = 'P' then deviceHeader
  else if c = 'X' ∨ c = '^' ∨ c = '_' then hidden
  else if isBetween '0' '~' c then none
  else escape

def next (sequence : ControlSequence) (c : Char) : ControlSequence :=
  if c = '\x1b' then escape
  else if c = '\x18' ∨ c = '\x1a' then none
  else
    match sequence with
    | none => none
    | escape => afterEscape c
    | intermediate => if isBetween '0' '~' c then none else intermediate
    | parameters => if isBetween '@' '~' c then none else parameters
    | title => if c = '\x07' then none else title
    | deviceHeader =>
      if isBetween ' ' '/' c then deviceIntermediate
      else if isBetween '0' '?' c then deviceParameters
      else if isBetween '@' '~' c then hidden
      else deviceHeader
    | deviceParameters =>
      if isBetween ' ' '/' c then deviceIntermediate
      else if isBetween '<' '~' c then hidden
      else deviceParameters
    | deviceIntermediate => if isBetween '0' '~' c then hidden else deviceIntermediate
    | hidden => if endsHidden c then none else hidden

end ControlSequence

/-- While text is shown, a sequence that a blank has interrupted waits: the next control character
takes it up again, unless a character beyond ASCII came in between. -/
def shownFrom (showing : Bool) (sequence : ControlSequence) : List Char → List Char
  | [] => []
  | c :: rest =>
    if (showing || sequence = .none) && isShown c then
      c :: shownFrom true (if c ≤ '\x7f' then sequence else .none) rest
    else if sequence.admitsLayout && isLayout c then c :: shownFrom true sequence rest
    else shownFrom false (sequence.next c) rest

def withoutControls (text : String) : String :=
  String.ofList (shownFrom true .none text.toList)

end ContentionCharts.Text
