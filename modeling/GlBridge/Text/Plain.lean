import GlBridge.Text.Bytes

/-!
# Plain text

A text meant for a terminal may hold escape sequences, which change colours or move the
cursor, and other control characters. `plain` is what is left of a text where there is
no terminal: the printable characters and the white space.

A `Sequence` is what a terminal would be in the middle of. Its kinds differ in where they end and
in what they let through. Between the escape character and the end of a control
sequence white space is still carried out, so it is kept, and the text behind it is kept
as well until the next control character, with which the sequence goes on
(`Progress.interrupted`). A string of data swallows everything up to its end, and if it
has none, up to the end of the text.
-/

namespace GlBridge.Text

/-- The kinds of escape sequences, by how far one has been read. -/
inductive Sequence where
  /-- outside of any sequence -/
  | outside
  /-- behind the escape character -/
  | escape
  /-- behind the escape character and some marks -/
  | marked
  /-- in a control sequence, which ends with a letter -/
  | control
  /-- at the start of a device control string -/
  | device
  /-- in the numbers of a device control string -/
  | deviceNumbers
  /-- in the marks of a device control string -/
  | deviceMarks
  /-- in the data of a string, which ends with a string terminator -/
  | data
  /-- in a command to the operating system, which a bell ends too -/
  | command
  deriving DecidableEq, Repr

namespace Sequence

/-- White space is carried out and not taken for a part of the sequence. -/
def passesSpace : Sequence → Bool
  | .outside | .escape | .marked | .control => true
  | _ => false

/-- What the terminal is in the middle of after another character. The byte `0x9c` is the
string terminator, also where it is a part of a character's encoding. -/
def next (s : Sequence) (c : Char) : Sequence :=
  match s with
  | .outside => .outside
  | .escape =>
    if ' ' ≤ c ∧ c ≤ '/' then .marked
    else if c = '[' then .control
    else if c = ']' then .command
    else if c = 'P' then .device
    else if c = 'X' ∨ c = '^' ∨ c = '_' then .data
    else if '0' ≤ c ∧ c ≤ '~' then .outside
    else .escape
  | .marked => if '0' ≤ c ∧ c ≤ '~' then .outside else .marked
  | .control => if '@' ≤ c ∧ c ≤ '~' then .outside else .control
  | .device =>
    if ' ' ≤ c ∧ c ≤ '/' then .deviceMarks
    else if '0' ≤ c ∧ c ≤ '?' then .deviceNumbers
    else if '@' ≤ c ∧ c ≤ '~' then .data
    else .device
  | .deviceNumbers =>
    if ' ' ≤ c ∧ c ≤ '/' then .deviceMarks
    else if '<' ≤ c ∧ c ≤ '~' then .data
    else .deviceNumbers
  | .deviceMarks => if '0' ≤ c ∧ c ≤ '~' then .data else .deviceMarks
  | .data => if 0x9c ∈ String.utf8EncodeChar c then .outside else .data
  | .command => if c = '\x07' then .outside else .command

end Sequence

/-- The white space among the control characters that a terminal acts on. -/
def isLayout (c : Char) : Bool := c == '\t' || c == '\n' || c == '\x0c' || c == '\r'

/-- The character is printed: it is neither a control character nor the deletion mark. -/
def isPrinted (c : Char) : Bool := ' ' ≤ c && c != '\x7f'

/-- How far a text has been read. -/
structure Progress where
  within : Sequence := .outside
  /-- text was found inside the sequence, and it is still going on -/
  interrupted : Bool := false
  deriving DecidableEq, Repr

namespace Progress

/-- Takes one character and says whether it is kept. -/
def step (p : Progress) (c : Char) : Progress × Bool :=
  if c = '\x1b' then (⟨.escape, false⟩, false)
  else if c = '\x18' ∨ c = '\x1a' then (⟨.outside, false⟩, false)
  else if p.within = .outside ∨ p.interrupted then
    if !(isPrinted c || isLayout c) then (⟨p.within, false⟩, false)
    -- a character beyond ASCII makes the terminal forget the sequence
    else if '\x7f' < c then ({}, true)
    else (p, true)
  else if p.within.passesSpace && isLayout c then (⟨p.within, true⟩, true)
  else (⟨p.within.next c, false⟩, false)

end Progress

/-- The characters that are kept of those that follow. -/
def plainFrom (p : Progress) : List Char → List Char
  | [] => []
  | c :: cs =>
    let (p, kept) := p.step c
    if kept then c :: plainFrom p cs else plainFrom p cs

/-- A text without its escape sequences and control characters. -/
def plain (cs : List Char) : List Char := plainFrom {} cs

end GlBridge.Text
