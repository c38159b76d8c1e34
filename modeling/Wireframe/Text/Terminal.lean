/-!
Text without the sequences that steer a terminal. A sequence begins at an escape character
and goes on for as long as its kind says; it may be left open at the end. Control
characters go as well, all but the blank ones.
-/

namespace Wireframe.Text

/-- What a terminal is in the middle of. -/
inductive TerminalState where
  /-- Nothing: characters are shown. -/
  | ground
  /-- An escape character has been read. -/
  | escape
  /-- An escape sequence of several characters. -/
  | escapeRest
  /-- A sequence with parameters, up to a letter or a mark. -/
  | control
  /-- A command for the system, up to a bell. -/
  | command
  /-- The parameters of a string for the device. -/
  | device
  | deviceParameter
  | deviceRest
  /-- A string that is not shown. -/
  | string
  deriving DecidableEq

namespace TerminalState

def isBetween (first last c : Char) : Bool :=
  first ≤ c && c ≤ last

def isBlankControl (c : Char) : Bool :=
  c = '\t' || c = '\n' || c = '\x0c' || c = '\r'

/-- A string ends at a character with this byte in it. -/
def endsString (c : Char) : Bool :=
  (String.utf8EncodeChar c).contains 0x9C

/-- The state after a character that is neither a control character
nor outside of ASCII. -/
def onPrintable (c : Char) : TerminalState → TerminalState
  | ground => ground
  | escape =>
      if isBetween ' ' '/' c then escapeRest
      else if c = '[' then control
      else if c = ']' then command
      else if c = 'P' then device
      else if c = 'X' || c = '^' || c = '_' then string
      else ground
  | escapeRest => if isBetween ' ' '/' c then escapeRest else ground
  | control => if isBetween '@' '~' c then ground else control
  | command => command
  | device =>
      if isBetween '@' '~' c then string
      else if isBetween ' ' '/' c then deviceRest
      else deviceParameter
  | deviceParameter =>
      if isBetween '@' '~' c || isBetween '<' '?' c then string
      else if isBetween ' ' '/' c then deviceRest
      else deviceParameter
  | deviceRest => if isBetween ' ' '/' c then deviceRest else string
  | string => string

/-- The sequences inside of which blank control characters are shown; such
a character ends them. -/
def showsBlanks : TerminalState → Bool
  | ground | escape | escapeRest | control => true
  | command | device | deviceParameter | deviceRest | string => false

def next (state : TerminalState) (c : Char) : TerminalState × Bool :=
  if c = '\x1b' then (escape, false)
  else if c = '\x18' || c = '\x1a' then (ground, false)
  else if c.toNat < 0x20 then
    if isBlankControl c && state.showsBlanks then (ground, true)
    else if state = command && c = '\x07' then (ground, false)
    else (state, false)
  else if c = '\x7f' then (state, false)
  else if c.toNat < 0x7f then (state.onPrintable c, state = ground)
  else if state = string && endsString c then (ground, false)
  else (state, state = ground)

def shown : TerminalState → List Char → List Char
  | _, [] => []
  | state, c :: text =>
      if (state.next c).2 then c :: shown (state.next c).1 text
      else shown (state.next c).1 text

end TerminalState

def withoutControls (text : List Char) : List Char :=
  TerminalState.ground.shown text

end Wireframe.Text
