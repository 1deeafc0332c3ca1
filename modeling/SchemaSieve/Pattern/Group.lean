import SchemaSieve.Pattern.Escape
import SchemaSieve.Unicode.Query

/-!
# Groups

The beginning of a group: its name, or the flags that it sets.
-/

namespace SchemaSieve.Pattern

/-- A flag, or the dash that turns off the flags behind it. -/
inductive FlagMark where
  | negation
  | ignoreCase
  | multiLine
  | dotAll
  | swapGreed
  | unicode
  | crlf
  | verbose
  deriving DecidableEq, Repr

def FlagMark.ofChar? : Char → Option FlagMark
  | '-' => some negation
  | 'i' => some ignoreCase
  | 'm' => some multiLine
  | 's' => some dotAll
  | 'U' => some swapGreed
  | 'u' => some unicode
  | 'R' => some crlf
  | 'x' => some verbose
  | _ => none

/-- What the marks before and after the dash turn on and off. -/
def FlagChange.ofMarks (marks : List FlagMark) : FlagChange :=
  let on := marks.takeWhile (· != .negation)
  let find (m : FlagMark) : Option Bool :=
    if marks.contains m then some (on.contains m) else none
  { ignoreCase? := find .ignoreCase, multiLine? := find .multiLine, dotAll? := find .dotAll,
    swapGreed? := find .swapGreed, unicode? := find .unicode, crlf? := find .crlf,
    verbose? := find .verbose }

/-- Reads the flags up to a colon or a closing parenthesis. The marks come with their spans, the
last one first. -/
def readFlagMarks : Nat → List (FlagMark × Span) → Cursor →
    Except Fault (List (FlagMark × Span) × Cursor)
  | 0, _, c => refuse .flagUnexpectedEnd c.here
  | n + 1, marks, c =>
    match c.char? with
    | none => refuse .flagUnexpectedEnd c.here
    | some x =>
      if x = ':' ∨ x = ')' then
        match marks with
        | (.negation, span) :: _ => refuse .flagDanglingNegation span
        | _ => .ok (marks, c)
      else
        match FlagMark.ofChar? x with
        | none => refuse .flagUnrecognized c.charSpan
        | some m =>
          match marks.reverse.find? (·.1 == m) with
          | some earlier =>
            let cause := if m = .negation then .flagRepeatedNegation else .flagDuplicate
            .error ⟨cause, c.charSpan, some earlier.2⟩
          | none => readFlagMarks n ((m, c.charSpan) :: marks) c.next

def isNameChar (isFirst : Bool) (c : Char) : Bool :=
  c = '_' || Unicode.isAlphabetic c
    || !isFirst && (c = '.' || c = '[' || c = ']' || Unicode.isNumeric c)

def readNameChars : Bool → Nat → List Char → Cursor → Except Fault (List Char × Cursor)
  | _, 0, _, c => refuse .groupNameUnexpectedEnd c.here
  | isFirst, n + 1, acc, c =>
    match c.char? with
    | none => refuse .groupNameUnexpectedEnd c.here
    | some '>' => .ok (acc.reverse, c)
    | some x =>
      if isNameChar isFirst x then readNameChars false n (x :: acc) c.next
      else refuse .groupNameInvalid c.charSpan

/-- The names of the groups so far, with the places where they stand. -/
abbrev GroupNames := List (String × Span)

/-- Reads a name up to the closing angle bracket. No two groups bear the same name. -/
def readName (names : GroupNames) (c : Cursor) : Except Fault (GroupNames × Cursor) := do
  let (name, stop) ← readNameChars true (c.rest.length + 1) [] c
  let span := stop.since c.pos
  let name := String.ofList name
  if name.isEmpty then refuse .groupNameEmpty (Span.point c.pos)
  else
    match names.find? (·.1 == name) with
    | some earlier => .error ⟨.groupNameDuplicate, span, some earlier.2⟩
    | none => .ok ((name, span) :: names, stop.next)

/-- What an opening parenthesis begins: a group, or flags for the rest of the group around it. -/
inductive GroupStart where
  | flags (span : Span) (change : FlagChange)
  | group (span : Span) (captures : Bool) (change : FlagChange)
  deriving Repr

def passLookAround? (c : Cursor) : Option Cursor :=
  (((c.pass? "?=").or (c.pass? "?!")).or (c.pass? "?<=")).or (c.pass? "?<!")

/-- Reads from an opening parenthesis on to where the group begins. -/
def readGroupStart (names : GroupNames) (c : Cursor) :
    Except Fault (GroupStart × GroupNames × Cursor) := do
  let opening := c.charSpan
  let inner := c.nextSkip
  match passLookAround? inner with
  | some c' => refuse .lookAroundUnsupported ⟨opening.start, c'.pos⟩
  | none =>
    match (inner.pass? "?P<").or (inner.pass? "?<") with
    | some c' =>
      let (names', c'') ← readName names c'
      .ok (.group opening true {}, names', c'')
    | none =>
      match inner.pass? "?" with
      | none => .ok (.group opening true {}, names, inner)
      | some c' =>
        if c'.isEnd then refuse .groupUnclosed opening
        else
          let (marks, c'') ← readFlagMarks (c'.rest.length + 1) [] c'
          let change := FlagChange.ofMarks (marks.reverse.map Prod.fst)
          let stop := c''.next
          if c''.sees ')' then
            if marks.isEmpty then refuse .repetitionMissing inner.here
            else .ok (.flags ⟨opening.start, stop.pos⟩ change, names, stop)
          else .ok (.group opening false change, names, stop)

end SchemaSieve.Pattern
