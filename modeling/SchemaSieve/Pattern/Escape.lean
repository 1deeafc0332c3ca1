import SchemaSieve.Pattern.Cursor
import SchemaSieve.Pattern.Expr
import SchemaSieve.Text.Hex

/-!
# Escapes

What a backslash and the characters behind it stand for.
-/

namespace SchemaSieve.Pattern

open Text

/-- Collects characters up to the first one in `stop`, blanks of a verbose pattern aside. -/
def gatherAux (stop : Char → Bool) : Nat → Cursor → List Char → List Char × Cursor
  | 0, c, acc => (acc.reverse, c)
  | n + 1, c, acc =>
    match c.char? with
    | none => (acc.reverse, c)
    | some x => if stop x then (acc.reverse, c) else gatherAux stop n c.nextSkip (x :: acc)

def gather (stop : Char → Bool) (c : Cursor) : List Char × Cursor :=
  gatherAux stop c.rest.length c []

def scalar? (n : Nat) : Option Char := if n.isValidChar then some (Char.ofNat n) else none

def readHexDigits : Nat → Cursor → List Char → Except Fault (List Char × Cursor)
  | 0, c, acc => .ok (acc.reverse, c)
  | n + 1, c, acc =>
    match c.char? with
    | none => refuse .escapeUnexpectedEnd c.here
    | some x =>
      if isHexDigit x then readHexDigits n c.nextSkip (x :: acc)
      else refuse .escapeHexInvalidDigit c.charSpan

/-- The digits of `\x7F`, as many as the letter asks for. -/
def readHexFixed (start : Position) (digits : Nat) (c : Cursor) : Except Fault (Expr × Cursor) := do
  let (ds, c') ← readHexDigits digits c []
  match scalar? (numeral 16 ds) with
  | some x => .ok (.literal ⟨⟨start, c'.pos⟩, x, digits == 2⟩, c')
  | none => refuse .escapeHexInvalid (c'.since c.pos)

/-- The digits of `\x{10FFFF}`, from the opening brace on. -/
def readHexBraced (start : Position) (c : Cursor) : Except Fault (Expr × Cursor) := do
  let inner := c.nextSkip
  let (ds, c') := gather (!isHexDigit ·) inner
  if c'.isEnd then refuse .escapeUnexpectedEnd (c'.since c.pos)
  else if !c'.sees '\x7d' then refuse .escapeHexInvalidDigit c'.charSpan
  else
    let c'' := c'.nextSkip
    if ds.isEmpty then refuse .escapeHexEmpty (c''.since c.pos)
    else
      match scalar? (numeral 16 ds) with
      | some x => .ok (.literal ⟨⟨start, c''.pos⟩, x, false⟩, c'')
      | none => refuse .escapeHexInvalid ⟨c.next.pos, c'.pos⟩

def readHex (start : Position) (digits : Nat) (c : Cursor) : Except Fault (Expr × Cursor) :=
  let c' := c.nextSkip
  if c'.isEnd then refuse .escapeUnexpectedEnd c'.here
  else if c'.sees '\x7b' then readHexBraced start c'
  else readHexFixed start digits c'

/-- The text before and after the first place where `mark` stands. -/
def cutAt? (mark : List Char) : List Char → Option (List Char × List Char)
  | [] => none
  | x :: xs =>
    if mark.isPrefixOf (x :: xs) then some ([], (x :: xs).drop mark.length)
    else (cutAt? mark xs).map fun r => (x :: r.1, r.2)

/-- `name!=value`, `name:value`, `name=value` or a single name. The first of these marks counts. -/
def PropertyQuery.ofText (name : List Char) : PropertyQuery :=
  let valued (r : List Char × List Char) :=
    PropertyQuery.valued (String.ofList r.1) (String.ofList r.2)
  match cutAt? ['!', '='] name with
  | some r => valued r
  | none =>
    match cutAt? [':'] name with
    | some r => valued r
    | none =>
      match cutAt? ['='] name with
      | some r => valued r
      | none => .named (String.ofList name)

def readProperty (start : Position) (negated : Bool) (c : Cursor) : Except Fault (Expr × Cursor) :=
  let c' := c.nextSkip
  match c'.char? with
  | none => refuse .escapeUnexpectedEnd c'.here
  | some '\x7b' =>
    let (name, c'') := gather (· == '\x7d') c'.nextSkip
    if c''.isEnd then refuse .escapeUnexpectedEnd c''.here
    else
      let c''' := c''.next
      .ok (.property ⟨start, c'''.pos⟩ (PropertyQuery.ofText name) negated, c''')
  | some x =>
    if x = '\\' then refuse .unicodeClassInvalid c'.charSpan
    else
      let c'' := c'.nextSkip
      .ok (.property ⟨start, c''.pos⟩ (.named (String.ofList [x])) negated, c'')

def isBoundaryNameChar (c : Char) : Bool := c.isAlpha || c = '-'

/-- The name of a boundary after `\b`. Where the brace holds something else, it is left to be read
as a repetition. -/
def readBoundaryName (start : Position) (c : Cursor) : Except Fault (Option Assertion × Cursor) :=
  let inner := c.nextSkip
  match inner.char? with
  | none => refuse .wordBoundaryUnexpectedEnd (inner.since start)
  | some x =>
    if !isBoundaryNameChar x then .ok (none, c)
    else
      let (name, c') := gather (!isBoundaryNameChar ·) inner
      if !c'.sees '\x7d' then refuse .wordBoundaryUnclosed (c'.since c.pos)
      else
        match String.ofList name with
        | "start" => .ok (some .wordStart, c'.next)
        | "end" => .ok (some .wordEnd, c'.next)
        | "start-half" => .ok (some .wordStartHalf, c'.next)
        | "end-half" => .ok (some .wordEndHalf, c'.next)
        | _ => refuse .wordBoundaryUnrecognized ⟨inner.pos, c'.pos⟩

def isMeta (c : Char) : Bool := "\\.+*?()|[]\x7b\x7d^$#&-~".toList.contains c

/-- Whether a backslash may stand before a character without changing it. -/
def isEscapable (c : Char) : Bool :=
  isMeta c || (c.toNat < 0x80 && !c.isAlphanum && c != '<' && c != '>')

def readBoundary (start : Position) (c : Cursor) : Except Fault (Expr × Cursor) := do
  if c.sees '\x7b' then
    let (kind?, c') ← readBoundaryName start c
    .ok (.assertion ⟨start, c'.pos⟩ (kind?.getD .wordBoundary), c')
  else .ok (.assertion ⟨start, c.pos⟩ .wordBoundary, c)

def readLetterEscape (start : Position) (x : Char) (c : Cursor) : Except Fault (Expr × Cursor) :=
  let span := c.since start
  let literal (y : Char) : Except Fault (Expr × Cursor) := .ok (.literal ⟨span, y, false⟩, c)
  let assertion (a : Assertion) : Except Fault (Expr × Cursor) := .ok (.assertion span a, c)
  match x with
  | 'a' => literal '\x07'
  | 'f' => literal '\x0c'
  | 't' => literal '\t'
  | 'n' => literal '\n'
  | 'r' => literal '\r'
  | 'v' => literal '\x0b'
  | 'A' => assertion .startText
  | 'z' => assertion .endText
  | 'b' => readBoundary start c
  | 'B' => assertion .notWordBoundary
  | '<' => assertion .wordStart
  | '>' => assertion .wordEnd
  | _ => refuse .escapeUnrecognized span

def shorthand? : Char → Option (Shorthand × Bool)
  | 'd' => some (.digit, false)
  | 's' => some (.space, false)
  | 'w' => some (.word, false)
  | 'D' => some (.digit, true)
  | 'S' => some (.space, true)
  | 'W' => some (.word, true)
  | _ => none

def readEscape (c : Cursor) : Except Fault (Expr × Cursor) :=
  let start := c.pos
  let c' := c.next
  match c'.char? with
  | none => refuse .escapeUnexpectedEnd (c'.since start)
  | some x =>
    if x.isDigit then refuse .backreferenceUnsupported ⟨start, c'.next.pos⟩
    else if x = 'x' then readHex start 2 c'
    else if x = 'u' then readHex start 4 c'
    else if x = 'U' then readHex start 8 c'
    else if x = 'p' ∨ x = 'P' then readProperty start (x == 'P') c'
    else
      let c'' := c'.next
      match shorthand? x with
      | some (name, negated) => .ok (.shorthand (c''.since start) name negated, c'')
      | none =>
        if isEscapable x then .ok (.literal ⟨c''.since start, x, false⟩, c'')
        else readLetterEscape start x c''

end SchemaSieve.Pattern
