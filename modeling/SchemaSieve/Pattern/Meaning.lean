import SchemaSieve.Pattern.Expr
import SchemaSieve.Pattern.Error
import SchemaSieve.Pattern.Node
import SchemaSieve.Unicode.Folding
import SchemaSieve.Unicode.Query

/-!
# From writing to meaning

The meaning of each part of a pattern under the flags in force. Without Unicode a class may hold
ASCII characters only.
-/

namespace SchemaSieve.Pattern

open Text

structure Flags where
  ignoreCase : Bool := false
  multiLine : Bool := false
  dotAll : Bool := false
  unicode : Bool := true
  crlf : Bool := false
  deriving DecidableEq, Repr

def Flags.apply (f : Flags) (c : FlagChange) : Flags where
  ignoreCase := c.ignoreCase?.getD f.ignoreCase
  multiLine := c.multiLine?.getD f.multiLine
  dotAll := c.dotAll?.getD f.dotAll
  unicode := c.unicode?.getD f.unicode
  crlf := c.crlf?.getD f.crlf

def asciiRanges : List (Char × Char) → CharSet := fun rs =>
  CharSet.ofRanges (rs.map fun r => (r.1.toNat, r.2.toNat))

def AsciiClass.toSet : AsciiClass → CharSet
  | alnum => asciiRanges [('0', '9'), ('A', 'Z'), ('a', 'z')]
  | alpha => asciiRanges [('A', 'Z'), ('a', 'z')]
  | ascii => asciiRanges [('\x00', '\x7f')]
  | blank => asciiRanges [('\t', '\t'), (' ', ' ')]
  | cntrl => asciiRanges [('\x00', '\x1f'), ('\x7f', '\x7f')]
  | digit => asciiRanges [('0', '9')]
  | graph => asciiRanges [('!', '~')]
  | lower => asciiRanges [('a', 'z')]
  | print => asciiRanges [(' ', '~')]
  | punct => asciiRanges [('!', '/'), (':', '@'), ('[', '\x60'), ('\x7b', '~')]
  | space => asciiRanges [('\t', '\r'), (' ', ' ')]
  | upper => asciiRanges [('A', 'Z')]
  | word => asciiRanges [('0', '9'), ('A', 'Z'), ('_', '_'), ('a', 'z')]
  | xdigit => asciiRanges [('0', '9'), ('A', 'F'), ('a', 'f')]

def Shorthand.toSet (unicode : Bool) : Shorthand → CharSet
  | digit => if unicode then ⟨digitRanges⟩ else AsciiClass.digit.toSet
  | space =>
    if unicode then CharSet.ofRanges ([(9, 13), (32, 32)] ++ blankRanges)
    else AsciiClass.space.toSet
  | word => if unicode then ⟨wordRanges⟩ else AsciiClass.word.toSet

namespace Flags

/-- Adds the other case of the members, if case is ignored. -/
def fold (f : Flags) (s : CharSet) : CharSet :=
  if f.ignoreCase then if f.unicode then Unicode.foldCase s else Unicode.foldAsciiCase s else s

/-- Without Unicode a class may hold ASCII characters only, since other bytes are no text. -/
def bytesChecked (f : Flags) (span : Span) (s : CharSet) : Except Fault CharSet :=
  if f.unicode || s.isAscii then .ok s else refuse .invalidUtf8 span

def foldNegate (f : Flags) (span : Span) (negated : Bool) (s : CharSet) : Except Fault CharSet :=
  let s := f.fold s
  f.bytesChecked span (if negated then s.compl else s)

def scalar (f : Flags) (l : Literal) : Except Fault Char :=
  if !f.unicode && l.isByte && 0x80 ≤ l.char.toNat then refuse .invalidUtf8 l.span else .ok l.char

def member (f : Flags) (l : Literal) : Except Fault Char := do
  let c ← f.scalar l
  if !f.unicode && 0x80 ≤ c.toNat then refuse .unicodeNotAllowed l.span else .ok c

def shorthand (f : Flags) (span : Span) (name : Shorthand) (negated : Bool) :
    Except Fault CharSet :=
  let s := name.toSet f.unicode
  f.bytesChecked span (if negated then s.compl else s)

def property (f : Flags) (span : Span) (query : PropertyQuery) (negated : Bool) :
    Except Fault CharSet :=
  if !f.unicode then refuse .unicodeNotAllowed span
  else
    let found := match query with
      | .named name => Unicode.named name
      | .valued name value => Unicode.valued name value
    match found with
    | .ok s => f.foldNegate span negated s
    | .error .noProperty => refuse .propertyNotFound span
    | .error .noValue => refuse .propertyValueNotFound span

def combine (f : Flags) (op : SetOp) (lhs rhs : CharSet) : CharSet :=
  match op with
  | .inter => (f.fold lhs).inter (f.fold rhs)
  | .diff => (f.fold lhs).diff (f.fold rhs)
  | .symmDiff => (f.fold lhs).symmDiff (f.fold rhs)

mutual

/-- The characters of a class as far as it is written out: case and negation of the brackets around
it are still to come. -/
def classSet (f : Flags) : ClassSet → Except Fault CharSet
  | .empty _ => .ok CharSet.empty
  | .literal l => do return CharSet.singleton (← f.member l)
  | .range _ first last => do return CharSet.range (← f.member first) (← f.member last)
  | .ascii span name negated => f.foldNegate span negated name.toSet
  | .property span query negated => f.property span query negated
  | .shorthand span name negated => f.shorthand span name negated
  | .bracketed span negated s => do f.foldNegate span negated (← f.classSet s)
  | .union _ ss => f.classUnion ss
  | .binary _ op l r => do return f.combine op (← f.classSet l) (← f.classSet r)

def classUnion (f : Flags) : List ClassSet → Except Fault CharSet
  | [] => .ok CharSet.empty
  | s :: ss => do return (← f.classSet s).union (← f.classUnion ss)

end

def dot (f : Flags) (span : Span) : Except Fault CharSet :=
  if !f.unicode then refuse .invalidUtf8 span
  else if f.dotAll then .ok CharSet.all
  else if f.crlf then .ok (asciiRanges [('\n', '\n'), ('\r', '\r')]).compl
  else .ok (CharSet.singleton '\n').compl

def look (f : Flags) : Assertion → Look
  | .startLine => if f.multiLine then .lineStart f.crlf else .textStart
  | .endLine => if f.multiLine then .lineEnd f.crlf else .textEnd
  | .startText => .textStart
  | .endText => .textEnd
  | .wordBoundary => .boundary .edge f.unicode
  | .notWordBoundary => .boundary .noEdge f.unicode
  | .wordStart => .boundary .start f.unicode
  | .wordEnd => .boundary .stop f.unicode
  | .wordStartHalf => .boundary .startHalf f.unicode
  | .wordEndHalf => .boundary .stopHalf f.unicode

end Flags

mutual

/-- The meaning of an expression, and the flags in force behind it. -/
def Node.ofExpr (f : Flags) : Expr → Except Fault (Node × Flags)
  | .empty _ => .ok (.empty, f)
  | .flags _ change => .ok (.empty, f.apply change)
  | .literal l => do return (.set (f.fold (CharSet.singleton (← f.scalar l))), f)
  | .dot span => do return (.set (← f.dot span), f)
  | .assertion _ a => .ok (.look (f.look a), f)
  | .property span query negated => do return (.set (← f.property span query negated), f)
  | .shorthand span name negated => do return (.set (← f.shorthand span name negated), f)
  | .bracketed span negated s => do
    return (.set (← f.foldNegate span negated (← f.classSet s)), f)
  | .repetition _ min max e => do
    let (n, f') ← Node.ofExpr f e
    return (.repetition min max n, f')
  | .group _ captures change e => do
    let (n, _) ← Node.ofExpr (f.apply change) e
    return (if captures then .capture n else n, f)
  | .alternation _ es => do
    let (ns, f') ← Node.ofExprs f es
    return (.alternation ns, f')
  | .concat _ es => do
    let (ns, f') ← Node.ofExprs f es
    return (.concat ns, f')

def Node.ofExprs (f : Flags) : List Expr → Except Fault (List Node × Flags)
  | [] => .ok ([], f)
  | e :: es => do
    let (n, f') ← Node.ofExpr f e
    let (ns, f'') ← Node.ofExprs f' es
    return (n :: ns, f'')

end

end SchemaSieve.Pattern
