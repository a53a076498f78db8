import GlBridge.Text.Concealed

/-!
# Quoted text

`quoted` shows a text between double quotes, such that every character can be told
apart: quotes and backslashes are escaped, the usual controls have their short
escapes, and any other character without an appearance of its own is written as
its code point in braces.
-/

namespace GlBridge.Text

/-- How a character is shown between double quotes. -/
def quotedChar (c : Char) : List Char :=
  match c with
  | '"' => ['\\', '"']
  | '\\' => ['\\', '\\']
  | '\n' => ['\\', 'n']
  | '\r' => ['\\', 'r']
  | '\t' => ['\\', 't']
  | '\x00' => ['\\', '0']
  | _ =>
    if isConcealed c then
      '\\' :: 'u' :: '\x7b' :: (Nat.toDigits 16 c.toNat ++ ['\x7d'])
    else [c]

/-- A text between double quotes. -/
def quoted (s : String) : String :=
  String.ofList ('"' :: (s.toList.flatMap quotedChar ++ ['"']))

end GlBridge.Text
