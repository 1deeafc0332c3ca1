import SchemaSieve.Text.Blank
import SchemaSieve.Text.Word

/-!
# Empty inputs

An `input` without fields is not allowed in a schema, so the first one is cut out of a text.
`EmptyInput.Free` says that there is none, and then nothing is cut.
-/

namespace SchemaSieve.EmptyInput

open Text

/-- Drops leading characters of a class, at least one. -/
def dropSome (p : Char → Bool) : List Char → Option (List Char)
  | c :: cs => if p c then some (cs.dropWhile p) else none
  | [] => none

def dropChar (c : Char) : List Char → Option (List Char)
  | d :: cs => if d = c then some cs else none
  | [] => none

/-- What follows `input Name { }` at the beginning of a text, and the line break behind it. -/
def block? : List Char → Option (List Char)
  | 'i' :: 'n' :: 'p' :: 'u' :: 't' :: cs => do
    let afterBlanks ← dropSome isBlank cs
    let afterName ← dropSome isWord afterBlanks
    let afterBrace ← dropChar '\x7b' (afterName.dropWhile isBlank)
    let rest ← dropChar '\x7d' (afterBrace.dropWhile isBlank)
    return (match rest with
      | '\n' :: rest => rest
      | _ => rest)
  | _ => none

/-- Cuts out the first `input Name { }` that no word character precedes, with one line break on
either side. The flag tells whether a word character stands before the text. -/
def cut? : Bool → List Char → Option (List Char)
  | _, [] => none
  | afterWord, c :: cs =>
    match if c = '\n' then block? cs else if afterWord then none else block? (c :: cs) with
    | some rest => some rest
    | none => (cut? (isWord c) cs).map (c :: ·)

/-- The text without the first `input` declaration that has nothing in its body. -/
def remove (text : String) : String :=
  match cut? false text.toList with
  | some cs => String.ofList cs
  | none => text

/-- Whether a text holds no `input Name { }`. -/
def Free (text : String) : Prop := cut? false text.toList = none

instance (text : String) : Decidable (Free text) := inferInstanceAs (Decidable (_ = _))

theorem remove_of_free {text : String} (h : Free text) : remove text = text := by
  simp [remove, show cut? false text.toList = none from h]

end SchemaSieve.EmptyInput
