import SchemaSieve.Pattern.Bracket
import SchemaSieve.Pattern.Group
import SchemaSieve.Pattern.Repetition

/-!
# Reading patterns

From the text of a pattern to its parts. Groups that have begun wait in a list, so the reader
walks through the text once.
-/

namespace SchemaSieve.Pattern

/-- What has been read of a group: the current sequence, its last part first, and the alternatives
before it, the last one first. -/
structure Branch where
  start : Position
  items : List Expr := []
  earlier : List Expr := []
  /-- Where the first alternative begins. -/
  origin : Position

namespace Branch

def begin (p : Position) : Branch := { start := p, origin := p }

def push (b : Branch) (e : Expr) : Branch := { b with items := e :: b.items }

def sequence (b : Branch) (stop : Position) : Expr :=
  match b.items with
  | [] => .empty ⟨b.start, stop⟩
  | [e] => e
  | es => .concat ⟨b.start, stop⟩ es.reverse

/-- Ends an alternative and begins the next one. -/
def split (b : Branch) (stop next : Position) : Branch :=
  { start := next, earlier := b.sequence stop :: b.earlier, origin := b.origin }

def finish (b : Branch) (stop : Position) : Expr :=
  match b.earlier with
  | [] => b.sequence stop
  | es => .alternation ⟨b.origin, stop⟩ (b.sequence stop :: es).reverse

end Branch

/-- A group that has begun, with what stood before it. -/
structure OpenGroup where
  before : Branch
  span : Span
  captures : Bool
  change : FlagChange
  /-- Whether the pattern around the group is verbose. -/
  verbose : Bool

structure ReadState where
  groups : List OpenGroup := []
  branch : Branch
  names : GroupNames := []
  cursor : Cursor

namespace ReadState

def push (s : ReadState) (e : Expr) (c : Cursor) : ReadState :=
  { s with branch := s.branch.push e, cursor := c }

def repeatLast (s : ReadState) (r : Counts) (c : Cursor) : Except Fault ReadState :=
  match repeatable? s.branch.items with
  | none => refuse .repetitionMissing s.cursor.here
  | some (e, es) =>
    let e' : Expr := .repetition ⟨e.span.start, c.pos⟩ r.min r.max e
    .ok { s with branch := { s.branch with items := e' :: es }, cursor := c }

def openGroup (s : ReadState) : Except Fault ReadState := do
  let (start, names, c) ← readGroupStart s.names s.cursor
  match start with
  | .flags span change =>
    let c := { c with verbose := change.verbose?.getD c.verbose }
    return { s with branch := s.branch.push (.flags span change), names, cursor := c }
  | .group span captures change =>
    let group : OpenGroup := { before := s.branch, span, captures, change, verbose := c.verbose }
    let c := { c with verbose := change.verbose?.getD c.verbose }
    return { groups := group :: s.groups, branch := .begin c.pos, names, cursor := c }

def closeGroup (s : ReadState) : Except Fault ReadState :=
  match s.groups with
  | [] => refuse .groupUnopened s.cursor.charSpan
  | g :: gs =>
    let c := { s.cursor.next with verbose := g.verbose }
    let e : Expr := .group ⟨g.span.start, c.pos⟩ g.captures g.change
      (s.branch.finish s.cursor.pos)
    .ok { s with groups := gs, branch := g.before.push e, cursor := c }

/-- Reads the part of the pattern that begins with `x`. -/
def step (s : ReadState) (x : Char) : Except Fault ReadState := do
  let c := s.cursor
  match x with
  | '(' => s.openGroup
  | ')' => s.closeGroup
  | '|' =>
    let c' := c.next
    return { s with branch := s.branch.split c.pos c'.pos, cursor := c' }
  | '[' =>
    let (e, c') ← readClass c
    return s.push e c'
  | '?' => s.repeatLast ⟨0, some 1⟩ (readMark c)
  | '*' => s.repeatLast ⟨0, none⟩ (readMark c)
  | '+' => s.repeatLast ⟨1, none⟩ (readMark c)
  | '\x7b' =>
    if (repeatable? s.branch.items).isNone then refuse .repetitionMissing c.here
    else
      let (r, c') ← readCounts c
      s.repeatLast r c'
  | '\\' =>
    let (e, c') ← readEscape c
    return s.push e c'
  | '.' => return s.push (.dot c.charSpan) c.next
  | '^' => return s.push (.assertion c.charSpan .startLine) c.next
  | '$' => return s.push (.assertion c.charSpan .endLine) c.next
  | _ => return s.push (.literal ⟨c.charSpan, x, false⟩) c.next

/-- Reads on to the end of the pattern. Every turn takes at least one character. -/
def run : Nat → ReadState → Except Fault ReadState
  | 0, s => .ok s
  | n + 1, s => do
    let s := { s with cursor := s.cursor.skip }
    match s.cursor.char? with
    | none => return s
    | some x => run n (← s.step x)

def finish (s : ReadState) : Except Fault Expr :=
  match s.groups with
  | [] => .ok (s.branch.finish s.cursor.pos)
  | g :: _ => refuse .groupUnclosed g.span

end ReadState

/-- How deep parts of a pattern may be nested. -/
def nestLimit : Nat := 250

def enter (depth : Nat) (span : Span) : Except Fault Nat :=
  if depth < nestLimit then .ok (depth + 1) else refuse (.nestLimitExceeded nestLimit) span

mutual

def ClassSet.checkDepth (depth : Nat) : ClassSet → Except Fault Unit
  | .bracketed span _ s => do s.checkDepth (← enter depth span)
  | .union span ss => do ClassSet.checkDepths (← enter depth span) ss
  | .binary span _ l r => do
    let depth ← enter depth span
    l.checkDepth depth
    r.checkDepth depth
  | _ => .ok ()

def ClassSet.checkDepths (depth : Nat) : List ClassSet → Except Fault Unit
  | [] => .ok ()
  | s :: ss => do
    s.checkDepth depth
    ClassSet.checkDepths depth ss

end

mutual

def Expr.checkDepth (depth : Nat) : Expr → Except Fault Unit
  | .bracketed span _ s => do s.checkDepth (← enter depth span)
  | .repetition span _ _ e => do e.checkDepth (← enter depth span)
  | .group span _ _ e => do e.checkDepth (← enter depth span)
  | .alternation span es => do Expr.checkDepths (← enter depth span) es
  | .concat span es => do Expr.checkDepths (← enter depth span) es
  | _ => .ok ()

def Expr.checkDepths (depth : Nat) : List Expr → Except Fault Unit
  | [] => .ok ()
  | e :: es => do
    e.checkDepth depth
    Expr.checkDepths depth es

end

def Expr.ofText (pattern : String) : Except Fault Expr := do
  let start : ReadState := { branch := .begin {}, cursor := { rest := pattern.toList } }
  let s ← start.run (pattern.length + 1)
  let e ← s.finish
  e.checkDepth 0
  return e

end SchemaSieve.Pattern
