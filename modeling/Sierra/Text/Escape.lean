import Sierra.Text.GraphemeExtend
import Sierra.Text.Unprintable

/-!
# Quoting one character in a message

A character that would show as itself is written as itself. The common controls, the backslash and
both quotes take a backslash and a letter of their own; what would not show, or would attach to the
quote in front of it, is written by its code point.
-/

namespace Sierra.Text

set_option autoImplicit false

/-- The code point in lower case hexadecimal, without leading zeros, in braces after a `\u`. -/
def escapeCodePoint (c : Char) : String :=
  "\\u\x7b" ++ String.ofList (Nat.toDigits 16 c.toNat) ++ "\x7d"

def escape (c : Char) : String :=
  match c with
  | '\x00' => "\\0"
  | '\t' => "\\t"
  | '\r' => "\\r"
  | '\n' => "\\n"
  | '\x5c' => "\\\\"
  | '\x27' => "\\'"
  | '\x22' => "\\\""
  | c => if isGraphemeExtend c || isUnprintable c then escapeCodePoint c else String.singleton c

end Sierra.Text
