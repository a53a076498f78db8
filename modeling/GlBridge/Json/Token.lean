import GlBridge.Json.Number

/-!
# JSON tokens

A JSON text is first cut into tokens. `Token.spell` gives the text of a token and
`Token.scan` the tokens of a text. The scanner goes over the characters once, its
state (`Scanner`) being what it is in the middle of.

A string or a number may follow the grammar and still have no value: a string with
an escape for half a surrogate pair, a number beyond the largest float. Such tokens
are kept with `none` in place of the value, because a reader that ignores a part of
the text does not care.
-/

namespace GlBridge

/-- A token of a JSON text. -/
inductive Token where
  | openArray
  | closeArray
  | openObject
  | closeObject
  | comma
  | colon
  | null
  | bool (b : Bool)
  | number (n : Option Number)
  | string (s : Option String)
  deriving DecidableEq

namespace Token

/-- The two last digits of an escape for a control character. -/
def hexPair (n : Nat) : List Char := [Nat.digitChar (n / 16), Nat.digitChar (n % 16)]

/-- How a character is spelled inside a string. Besides the quote and the backslash only
the controls below the space are escaped, five of them by a letter. -/
def spellChar (c : Char) : List Char :=
  match c with
  | '"' => ['\\', '"']
  | '\\' => ['\\', '\\']
  | '\x08' => ['\\', 'b']
  | '\x0c' => ['\\', 'f']
  | '\n' => ['\\', 'n']
  | '\r' => ['\\', 'r']
  | '\t' => ['\\', 't']
  | _ => if c.toNat < 0x20 then '\\' :: 'u' :: '0' :: '0' :: hexPair c.toNat else [c]

/-- The text of a token. A string or number without a value is spelled by one that has
none: half a surrogate pair, a number far too large. -/
def spell : Token → List Char
  | .openArray => ['[']
  | .closeArray => [']']
  | .openObject => ['\x7b']
  | .closeObject => ['\x7d']
  | .comma => [',']
  | .colon => [':']
  | .null => "null".toList
  | .bool true => "true".toList
  | .bool false => "false".toList
  | .number (some n) => n.write
  | .number none => "1e999".toList
  | .string (some s) => '"' :: (s.toList.flatMap spellChar ++ ['"'])
  | .string none => "\"\\ud800\"".toList

end Token

/-- A piece of a string: a character that stands for itself or was escaped by a
letter, or the sixteen-bit unit of a numeric escape. -/
inductive Piece where
  | char (c : Char)
  | unit (n : Nat)

namespace Piece

/-- The unit is the first half of a surrogate pair. -/
def isHigh (n : Nat) : Bool := 0xd800 ≤ n && n < 0xdc00

/-- The unit is the second half of a surrogate pair. -/
def isLow (n : Nat) : Bool := 0xdc00 ≤ n && n < 0xe000

/-- The characters of a string. The halves of a surrogate pair must follow each other as
numeric escapes; a half that stands alone has no value. -/
def text? : List Piece → Option (List Char)
  | [] => some []
  | .char c :: rest => (text? rest).map (c :: ·)
  | .unit h :: .unit l :: rest =>
    if isHigh h && isLow l then
      (text? rest).map (Char.ofNat (0x10000 + (h - 0xd800) * 0x400 + (l - 0xdc00)) :: ·)
    else if isHigh h || isLow h then none
    -- the second unit may itself begin a pair
    else (text? (.unit l :: rest)).map (Char.ofNat h :: ·)
  | .unit u :: rest =>
    if isHigh u || isLow u then none else (text? rest).map (Char.ofNat u :: ·)

/-- The character that a letter escapes. -/
def escaped? : Char → Option Char
  | '"' => some '"'
  | '\\' => some '\\'
  | '/' => some '/'
  | 'b' => some '\x08'
  | 'f' => some '\x0c'
  | 'n' => some '\n'
  | 'r' => some '\r'
  | 't' => some '\t'
  | _ => none

/-- The value of a hexadecimal digit of either case. -/
def hexDigit? (c : Char) : Option Nat :=
  if '0' ≤ c ∧ c ≤ '9' then some (c.toNat - '0'.toNat)
  else if 'a' ≤ c ∧ c ≤ 'f' then some (c.toNat - 'a'.toNat + 10)
  else if 'A' ≤ c ∧ c ≤ 'F' then some (c.toNat - 'A'.toNat + 10)
  else none

end Piece

/-- What the scanner is in the middle of. What has been read of a token so far is kept
last character first. -/
inductive Scanner where
  /-- between two tokens -/
  | between
  /-- in a word of letters -/
  | word (read : List Char)
  /-- in a number -/
  | number (read : List Char)
  /-- in a string -/
  | string (read : List Piece)
  /-- in a string, behind a backslash -/
  | escape (read : List Piece)
  /-- in a string, in a numeric escape that still lacks `missing + 1` digits -/
  | unit (read : List Piece) (missing : Nat) (value : Nat)

namespace Scanner

/-- White space between tokens. -/
def isSpace (c : Char) : Bool := c == ' ' || c == '\t' || c == '\n' || c == '\r'

/-- The characters of which words are made. -/
def isWordChar (c : Char) : Bool := 'a' ≤ c && c ≤ 'z'

/-- The characters of which numbers are made. -/
def isNumberChar (c : Char) : Bool :=
  c.isDigit || c == '-' || c == '+' || c == '.' || c == 'e' || c == 'E'

/-- The token that a word spells. -/
def word? (cs : List Char) : Option Token :=
  if cs = "null".toList then some .null
  else if cs = "true".toList then some (.bool true)
  else if cs = "false".toList then some (.bool false)
  else none

/-- The token that a single character spells. -/
def mark? : Char → Option Token
  | '[' => some .openArray
  | ']' => some .closeArray
  | '\x7b' => some .openObject
  | '\x7d' => some .closeObject
  | ',' => some .comma
  | ':' => some .colon
  | _ => none

/-- Starts a token, or skips white space. -/
def start (tokens : List Token) (c : Char) : Option (Scanner × List Token) :=
  if isSpace c then some (.between, tokens)
  else if c == '"' then some (.string [], tokens)
  else if isWordChar c then some (.word [c], tokens)
  else if c.isDigit || c == '-' then some (.number [c], tokens)
  else (mark? c).map fun t => (.between, t :: tokens)

/-- Takes one character. `tokens` are those completed, the last one first. -/
def step : Scanner × List Token → Char → Option (Scanner × List Token)
  | (.between, tokens), c => start tokens c
  | (.word read, tokens), c =>
    if isWordChar c then some (.word (c :: read), tokens)
    -- the character behind a word or a number already belongs to what follows
    else (word? read.reverse).bind fun t => start (t :: tokens) c
  | (.number read, tokens), c =>
    if isNumberChar c then some (.number (c :: read), tokens)
    else (Number.read? read.reverse).bind fun n => start (.number n :: tokens) c
  | (.string read, tokens), c =>
    if c == '"' then
      some (.between, .string ((Piece.text? read.reverse).map String.ofList) :: tokens)
    else if c == '\\' then some (.escape read, tokens)
    else if c.toNat < 0x20 then none
    else some (.string (.char c :: read), tokens)
  | (.escape read, tokens), c =>
    if c == 'u' then some (.unit read 3 0, tokens)
    else (Piece.escaped? c).map fun e => (.string (.char e :: read), tokens)
  | (.unit read missing value, tokens), c =>
    (Piece.hexDigit? c).map fun d =>
      match missing with
      | 0 => (.string (.unit (16 * value + d) :: read), tokens)
      | missing + 1 => (.unit read missing (16 * value + d), tokens)

/-- Completes the last token at the end of the text. -/
def finish : Scanner × List Token → Option (List Token)
  | (.between, tokens) => some tokens.reverse
  | (.word read, tokens) => (word? read.reverse).map fun t => (t :: tokens).reverse
  | (.number read, tokens) =>
    (Number.read? read.reverse).map fun n => (.number n :: tokens).reverse
  | _ => none

/-- Takes the characters one after the other. -/
def run : Scanner × List Token → List Char → Option (Scanner × List Token)
  | state, [] => some state
  | state, c :: cs =>
    match step state c with
    | some next => run next cs
    | none => none

end Scanner

/-- The tokens of a text, if it is made of tokens. -/
def Token.scan (cs : List Char) : Option (List Token) :=
  (Scanner.run (.between, []) cs).bind Scanner.finish

end GlBridge
