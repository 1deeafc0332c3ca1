import SchemaSieve.Text.CharSet
import SchemaSieve.Text.Word

/-!
# Nodes and places

What a pattern means, apart from how it is written, and the places of a text at which a match can
begin or end.
-/

namespace SchemaSieve.Pattern

open Text

inductive Boundary where
  | edge
  | noEdge
  | start
  | stop
  | startHalf
  | stopHalf
  deriving DecidableEq, Repr

/-- Conditions on a place. Lines end at `\n`, with `crlf` at `\r` as well, but not between `\r` and
`\n`. -/
inductive Look where
  | textStart
  | textEnd
  | lineStart (crlf : Bool)
  | lineEnd (crlf : Bool)
  | boundary (b : Boundary) (unicode : Bool)
  deriving DecidableEq, Repr

inductive Node where
  | empty
  | set (s : CharSet)
  | look (l : Look)
  | repetition (min : Nat) (max : Option Nat) (n : Node)
  | capture (n : Node)
  | concat (ns : List Node)
  | alternation (ns : List Node)
  deriving Repr

/-- A place in a text: how many characters precede it, the last of them, and those that follow. -/
structure Spot where
  index : Nat
  before? : Option Char
  after : List Char
  deriving DecidableEq, Repr

namespace Spot

def along (index : Nat) (before? : Option Char) : List Char → List Spot
  | [] => [⟨index, before?, []⟩]
  | c :: cs => ⟨index, before?, c :: cs⟩ :: along (index + 1) (some c) cs

def take? (s : CharSet) (p : Spot) : Option Spot :=
  match p.after with
  | [] => none
  | c :: cs => if s.contains c then some ⟨p.index + 1, some c, cs⟩ else none

end Spot

def spots (text : List Char) : List Spot := Spot.along 0 none text

def Boundary.holds (isWordChar : Char → Bool) (p : Spot) (b : Boundary) : Bool :=
  let left := p.before?.any isWordChar
  let right := p.after.head?.any isWordChar
  match b with
  | edge => left != right
  | noEdge => left == right
  | start => !left && right
  | stop => left && !right
  | startHalf => !left
  | stopHalf => !right

def Look.holds (p : Spot) : Look → Bool
  | textStart => p.before?.isNone
  | textEnd => p.after.isEmpty
  | lineStart crlf =>
    match p.before? with
    | none => true
    | some c => c == '\n' || crlf && c == '\r' && p.after.head? != some '\n'
  | lineEnd crlf =>
    match p.after with
    | [] => true
    | c :: _ =>
      if crlf then c == '\r' || c == '\n' && p.before? != some '\r' else c == '\n'
  | boundary b unicode => b.holds (if unicode then isWord else isAsciiWord) p

end SchemaSieve.Pattern
