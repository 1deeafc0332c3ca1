import SchemaSieve.Text.Hex
import SchemaSieve.Unicode.Query

/-!
# Quoted texts

Texts between quotes, with escapes for what would not show.
-/

namespace SchemaSieve.Text

/-- How a character is written between quotes. One that does not show, or that would join the one
before it, is written by its code point. -/
def quoteChar (c : Char) : String :=
  match c with
  | '\x00' => "\\0"
  | '\t' => "\\t"
  | '\r' => "\\r"
  | '\n' => "\\n"
  | '"' => "\\\""
  | '\\' => "\\\\"
  | _ =>
    if Unicode.isPrintable c && !Unicode.isGraphemeExtend c then String.singleton c
    else "\\u\x7b" ++ hexText c.toNat ++ "\x7d"

def quoted (s : String) : String := "\"" ++ String.join (s.toList.map quoteChar) ++ "\""

end SchemaSieve.Text
