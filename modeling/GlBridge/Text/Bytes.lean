/-!
# Text as bytes

Bytes are kept as lists. `encode` and `decode?` pass between a text and its UTF-8
bytes; a byte list that is not well-formed UTF-8 decodes to nothing. Two readings
of texts that the wire format needs stand beside them: `startsWith`, the test by
which an executor recognises its references, and `trimEnd`, which drops white space
from the end of a received line.
-/

namespace GlBridge

/-- A sequence of bytes. -/
abbrev Bytes := List UInt8

namespace Text

/-- The UTF-8 bytes of a text. -/
def encode (s : String) : Bytes := s.toList.flatMap String.utf8EncodeChar

/-- The text with the given UTF-8 bytes, if they are well formed. -/
def decode? (bytes : Bytes) : Option String := String.fromUTF8? bytes.toByteArray

/-- The characters of `lead` are the first ones of `s`. -/
def startsWith (lead s : String) : Bool := lead.toList.isPrefixOf s.toList

/-- `part` stands somewhere in a list of characters, one character after the other. -/
def occurs (part : List Char) : List Char → Bool
  | [] => part.isEmpty
  | c :: cs => part.isPrefixOf (c :: cs) || occurs part cs

/-- The characters of `part` stand somewhere in `s`, one after the other. -/
def contains (part s : String) : Bool := occurs part.toList s.toList

/-- The characters that count as white space at the end of a line: the Unicode property
`White_Space`. -/
def isBlank (c : Char) : Bool :=
  let n := c.toNat
  (0x09 ≤ n && n ≤ 0x0d) || n == 0x20 || n == 0x85 || n == 0xa0 || n == 0x1680 ||
    (0x2000 ≤ n && n ≤ 0x200a) || n == 0x2028 || n == 0x2029 || n == 0x202f || n == 0x205f ||
    n == 0x3000

/-- Drops the white space at the end of a text. -/
def trimEnd (cs : List Char) : List Char := (cs.reverse.dropWhile isBlank).reverse

/-- Drops the white space at both ends of a text. -/
def trim (cs : List Char) : List Char := trimEnd (cs.dropWhile isBlank)

end Text

end GlBridge
