import SchemaSieve.Text.Hex

/-!
# Texts on a terminal

Control characters written out, so that a text cannot steer the terminal it is shown on.
-/

namespace SchemaSieve.Text

/-- How a character is shown on a terminal: one that would steer the terminal is written by its
code. -/
def visibleChar (c : Char) : String :=
  match c with
  | '\x07' => "\\x07"
  | '\x08' => "\\x08"
  | '\x0c' => "\\x0c"
  | '\x1b' => "\\x1b"
  | '\x7f' => "\\x7f"
  | _ =>
    if 0x80 ≤ c.toNat ∧ c.toNat ≤ 0x9F then "\\u\x7b" ++ hexText c.toNat ++ "\x7d"
    else String.singleton c

def visible (s : String) : String := String.join (s.toList.map visibleChar)

end SchemaSieve.Text
