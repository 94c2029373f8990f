/-!
# Text for a place that is no terminal

A terminal does not show control characters and control sequences, it obeys them. `shown` is what is
left of a text when both are taken out of it. Tabs, line ends and form feeds are text, also where
they interrupt a sequence.
-/

namespace Sierra.Text

set_option autoImplicit false

/-- Where in a control sequence a character stands. -/
inductive Mode where
  | plain
  | escape
  | intermediate
  | control
  | command
  | string
  deriving DecidableEq, Repr

def isBetween (low high : Nat) (c : Char) : Bool :=
  low ≤ c.toNat && c.toNat ≤ high

def isAscii (c : Char) : Bool :=
  c.toNat < 0x80

/-- The blanks that are text in every sequence that does not swallow them. -/
def isPlainBlank (c : Char) : Bool :=
  c = '\t' || c = '\n' || c = '\x0c' || c = '\r'

/-- Whether one of the bytes of the character is the one that ends a string. -/
def hasTerminator (c : Char) : Bool :=
  (String.utf8EncodeChar c).contains 0x9c

namespace Mode

/-- The sequence that an escape character begins, by the character behind it. -/
def ofIntroducer (c : Char) : Mode :=
  if c = '[' then
    control
  else if c = ']' then
    command
  else if c = 'P' || c = 'X' || c = '^' || c = '_' then
    string
  else if isBetween 0x20 0x2f c then
    intermediate
  else if isBetween 0x30 0x7e c then
    plain
  else
    escape

/-- The mode behind a character. An escape begins a sequence anywhere, and cancel and substitute end
every sequence. -/
def next (mode : Mode) (c : Char) : Mode :=
  if c = '\x1b' then
    escape
  else if c = '\x18' || c = '\x1a' then
    plain
  else
    match mode with
    | plain => plain
    | escape => ofIntroducer c
    | intermediate => if isBetween 0x30 0x7e c then plain else intermediate
    | control => if isBetween 0x40 0x7e c then plain else control
    | command => if c = '\x07' then plain else command
    | string => if hasTerminator c then plain else string

def shows (mode : Mode) (c : Char) : Bool :=
  match mode with
  | plain => !isAscii c || isBetween 0x20 0x7e c || isPlainBlank c
  | escape | intermediate | control => isPlainBlank c
  | command | string => false

end Mode

/-- The characters that are shown from a mode on. A run of text, once begun, goes on as far as
characters can be shown at all. The mode in front of the run is kept for what follows it, unless a
character outside of ASCII closed it. -/
def shownFrom (mode : Mode) (running : Bool) : List Char → List Char
  | [] => []
  | c :: rest =>
    if (if running then Mode.plain else mode).shows c then
      c :: shownFrom (if isAscii c then mode else .plain) true rest
    else
      shownFrom (mode.next c) false rest

def shown (text : String) : String :=
  String.ofList (shownFrom .plain false text.toList)

end Sierra.Text
