import SchemaSieve.Pattern.Escape

/-!
# Repetitions

Reading how often something is repeated. Whether as many or as few as possible are taken makes no
difference to whether there is a match, so that is not kept.
-/

namespace SchemaSieve.Pattern

open Text

/-- Passes over blanks, in verbose patterns over comments as well. -/
def passBlankChars : Nat → Cursor → Cursor
  | 0, c => c
  | n + 1, c =>
    match c.char? with
    | some x => if isBlank x then passBlankChars n c.nextSkip else c
    | none => c

def maxCount : Nat := 0xFFFFFFFF

def readCount (c : Cursor) : Except Fault Nat × Cursor :=
  let blanks := c.rest.takeWhile isBlank
  let c := c.advance blanks.length
  let (ds, stop) := gather (!·.isDigit) c
  let after := passBlankChars stop.rest.length stop
  let span := stop.since c.pos
  let n := numeral 10 ds
  (if ds.isEmpty then refuse .repetitionCountEmpty span
    else if n ≤ maxCount then .ok n
    else refuse .decimalInvalid span, after)

structure Counts where
  min : Nat
  max : Option Nat
  deriving DecidableEq, Repr

def Counts.isValid (r : Counts) : Bool := r.max.all (r.min ≤ ·)

/-- Reads `{2}`, `{2,}` or `{2,5}` from the brace on, with the question mark behind it. -/
def readCounts (c : Cursor) : Except Fault (Counts × Cursor) := do
  let start := c.pos
  let unclosed (c : Cursor) : Except Fault (Counts × Cursor) :=
    refuse .repetitionCountUnclosed (c.since start)
  let c := c.nextSkip
  if c.isEnd then unclosed c
  else
    let (min, c) := readCount c
    if c.isEnd then unclosed c
    else if c.sees ',' then
      let c := c.nextSkip
      if c.isEnd then unclosed c
      else if c.sees '\x7d' then close start ⟨← min, none⟩ c
      else
        let min ← min
        let (max, c) := readCount c
        close start ⟨min, some (← max)⟩ c
    else
      let n ← min
      close start ⟨n, some n⟩ c
where
  close (start : Position) (r : Counts) (c : Cursor) : Except Fault (Counts × Cursor) :=
    if !c.sees '\x7d' then refuse .repetitionCountUnclosed (c.since start)
    else
      let c := c.nextSkip
      let c := if c.sees '?' then c.next else c
      if r.isValid then .ok (r, c) else refuse .repetitionCountInvalid (c.since start)

/-- Reads `?`, `*` or `+`, with the question mark behind it. -/
def readMark (c : Cursor) : Cursor :=
  let c := c.next
  if c.sees '?' then c.next else c

/-- What stands before a repetition, if it can be repeated. -/
def repeatable? : List Expr → Option (Expr × List Expr)
  | .empty _ :: _ => none
  | .flags .. :: _ => none
  | e :: es => some (e, es)
  | [] => none

end SchemaSieve.Pattern
