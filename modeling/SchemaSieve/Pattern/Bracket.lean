import SchemaSieve.Pattern.Escape

/-!
# Bracketed classes

Reading classes such as `[a-z&&[^b]]`. What stands around the innermost bracket waits in a list of
frames.
-/

namespace SchemaSieve.Pattern

/-- The parts of a class that stand side by side, the last one first. -/
structure ClassItems where
  span : Span
  items : List ClassSet := []

namespace ClassItems

def push (u : ClassItems) (s : ClassSet) : ClassItems :=
  ⟨⟨if u.items.isEmpty then s.span.start else u.span.start, s.span.stop⟩, s :: u.items⟩

def toSet (u : ClassItems) : ClassSet :=
  match u.items with
  | [] => .empty u.span
  | [s] => s
  | _ => .union u.span u.items.reverse

end ClassItems

/-- What waits for the inner part of a class to end. -/
inductive ClassFrame where
  /-- A bracket, with what stood before it. The span covers its beginning. -/
  | bracket (before : ClassItems) (span : Span) (negated : Bool)
  /-- A set operator with its left side. -/
  | operator (op : SetOp) (lhs : ClassSet)

def unclosed (start : Span) : List ClassFrame → Fault
  | [] => ⟨.classUnclosed, start, none⟩
  | .bracket _ span _ :: _ => ⟨.classUnclosed, span, none⟩
  | .operator .. :: frames => unclosed start frames

/-- Takes dashes right behind the opening bracket for themselves. -/
def leadingDashes (start : Position) : Nat → Cursor → ClassItems →
    Except Fault (ClassItems × Cursor)
  | 0, c, u => .ok (u, c)
  | n + 1, c, u =>
    if c.sees '-' then
      let u' := u.push (.literal ⟨c.charSpan, '-', false⟩)
      let c' := c.nextSkip
      if c'.isEnd then refuse .classUnclosed (Span.point start) else leadingDashes start n c' u'
    else .ok (u, c)

/-- The beginning of a class. A closing bracket right behind it stands for itself. -/
def openBracket (before : ClassItems) (c : Cursor) :
    Except Fault (ClassFrame × ClassItems × Cursor) := do
  let start := c.pos
  let c := c.nextSkip
  if c.isEnd then refuse .classUnclosed (c.since start)
  else
    let negated := c.sees '^'
    let c := if negated then c.nextSkip else c
    if c.isEnd then refuse .classUnclosed (c.since start)
    else
      let (u, c) ← leadingDashes start c.rest.length c { span := c.here }
      if u.items.isEmpty && c.sees ']' then
        let u := u.push (.literal ⟨c.charSpan, ']', false⟩)
        let c := c.nextSkip
        if c.isEnd then refuse .classUnclosed (c.since start)
        else .ok (.bracket before (c.since start) negated, u, c)
      else .ok (.bracket before (c.since start) negated, u, c)

/-- A named class such as `[:alpha:]`, if one begins here. -/
def asciiClass? (c : Cursor) : Option (ClassSet × Cursor) := do
  let inner ← c.pass? "[:"
  let negated := inner.sees '^'
  let inner := if negated then inner.next else inner
  let name := inner.rest.takeWhile (· != ':')
  let stop ← (inner.advance name.length).pass? ":]"
  let kind ← AsciiClass.ofName? (String.ofList name)
  return (.ascii (stop.since c.pos) kind negated, stop)

def readClassAtom (c : Cursor) : Except Fault (Expr × Cursor) :=
  match c.char? with
  | some '\\' => readEscape c
  | some x => .ok (.literal ⟨c.charSpan, x, false⟩, c.next)
  | none => refuse .classUnclosed c.here

def Expr.toClassSet : Expr → Except Fault ClassSet
  | .literal l => .ok (.literal l)
  | .shorthand span name negated => .ok (.shorthand span name negated)
  | .property span query negated => .ok (.property span query negated)
  | e => refuse .classEscapeInvalid e.span

def Expr.toBound : Expr → Except Fault Literal
  | .literal l => .ok l
  | e => refuse .classRangeLiteral e.span

/-- One member of a class, or a range of them. -/
def readClassRange (frames : List ClassFrame) (c : Cursor) : Except Fault (ClassSet × Cursor) := do
  let (first, c) ← readClassAtom c
  let c := c.skip
  if c.isEnd then .error (unclosed c.here frames)
  else if !c.sees '-' || c.peekSkip? == some ']' || c.peekSkip? == some '-' then
    return (← first.toClassSet, c)
  else
    let c := c.nextSkip
    if c.isEnd then .error (unclosed c.here frames)
    else
      let (last, c) ← readClassAtom c
      let span : Span := ⟨first.span.start, last.span.stop⟩
      let lo ← first.toBound
      let hi ← last.toBound
      if lo.char ≤ hi.char then .ok (.range span lo hi, c) else refuse .classRangeInvalid span

def closeOperator (rhs : ClassSet) : List ClassFrame → ClassSet × List ClassFrame
  | .operator op lhs :: frames => (.binary ⟨lhs.span.start, rhs.span.stop⟩ op lhs rhs, frames)
  | frames => (rhs, frames)

def setOperator? (c : Cursor) : Option (SetOp × Cursor) :=
  match c.pass? "&&", c.pass? "--", c.pass? "~~" with
  | some c', _, _ => some (.inter, c')
  | _, some c', _ => some (.diff, c')
  | _, _, some c' => some (.symmDiff, c')
  | _, _, _ => none

/-- Reads on in a class. Every turn takes at least one character. -/
def readClassAux : Nat → List ClassFrame → ClassItems → Cursor → Except Fault (Expr × Cursor)
  | 0, frames, _, c => .error (unclosed c.here frames)
  | n + 1, frames, u, c => do
    let c := c.skip
    match c.char? with
    | none => .error (unclosed c.here frames)
    | some '[' =>
      match asciiClass? c with
      | some (s, c') => readClassAux n frames (u.push s) c'
      | none =>
        let (frame, u', c') ← openBracket u c
        readClassAux n (frame :: frames) u' c'
    | some ']' =>
      match closeOperator u.toSet frames with
      | (set, .bracket before span negated :: frames') =>
        let c' := c.next
        let span : Span := ⟨span.start, c'.pos⟩
        if frames'.isEmpty then .ok (.bracketed span negated set, c')
        else readClassAux n frames' (before.push (.bracketed span negated set)) c'
      | _ => .error (unclosed c.here frames)
    | some _ =>
      match setOperator? c with
      | some (op, c') =>
        let (lhs, frames') := closeOperator u.toSet frames
        readClassAux n (.operator op lhs :: frames') { span := c'.here } c'
      | none =>
        let (s, c') ← readClassRange frames c
        readClassAux n frames (u.push s) c'

def readClass (c : Cursor) : Except Fault (Expr × Cursor) := do
  let (frame, u, c') ← openBracket { span := c.here } c
  readClassAux (c'.rest.length + 1) [frame] u c'

end SchemaSieve.Pattern
