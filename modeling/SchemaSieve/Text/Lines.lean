/-!
# Lines

Cutting a text into lines, and joining lines to a text.
-/

namespace SchemaSieve.Text

/-- Ends a line at `\n`, which is not part of it, and drops one `\r` in front of that `\n`. A last
line without `\n` is kept as it is, and there is none after a final `\n`. The first argument holds
the characters of the current line in reverse. -/
def splitLines : List Char → List Char → List (List Char)
  | [], [] => []
  | cur, [] => [cur.reverse]
  | cur, c :: cs =>
    if c = '\n' then
      (match cur with
        | '\r' :: rest => rest.reverse
        | _ => cur.reverse) :: splitLines [] cs
    else splitLines (c :: cur) cs

def lines (s : String) : List String := (splitLines [] s.toList).map String.ofList

/-- Writes each line with a `\n` after it. -/
def unlines (ls : List String) : String := ls.foldr (fun l rest => l ++ "\n" ++ rest) ""

@[simp] theorem unlines_nil : unlines [] = "" := rfl

@[simp] theorem unlines_cons (l : String) (ls : List String) :
    unlines (l :: ls) = l ++ "\n" ++ unlines ls := rfl

theorem unlines_append (a b : List String) : unlines (a ++ b) = unlines a ++ unlines b := by
  induction a with
  | nil => simp
  | cons l a ih => simp [ih, String.append_assoc]

end SchemaSieve.Text
