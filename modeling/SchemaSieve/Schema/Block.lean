import SchemaSieve.ArgumentList
import SchemaSieve.Declaration
import SchemaSieve.Schema.Line

/-!
# Blocks

What each line of a document does to the block that is open. The reader hands on items, among them
remarks for the log.
-/

namespace SchemaSieve

open Text

/-- What an opening line says of its block. A block of no kind is read over. -/
structure Opening where
  kind? : Option Kind
  name : String
  clause : List String
  deriving DecidableEq, Repr

def Opening.ofLine (line : String) : Opening :=
  match words line with
  | w :: name :: clause => ⟨Kind.ofKeyword? w, name, clause⟩
  | _ => ⟨none, "", []⟩

/-- A block whose closing line has not come yet. -/
structure OpenBlock where
  opening : Opening
  description : List String := []
  fields : List String := []
  /-- Whether the last field line left an argument list open. -/
  inArguments : Bool := false
  deriving DecidableEq, Repr

def OpenBlock.declaration (b : OpenBlock) (kind : Kind) : Declaration :=
  { kind, name := b.opening.name, description := b.description, clause := b.opening.clause,
    fields := b.fields }

/-- Where the reader stands: between blocks, with the lines that will describe the next one, or in
a block. -/
inductive Place where
  | outside (pending : List String)
  | inside (block : OpenBlock)
  deriving DecidableEq, Repr

inductive Remark where
  | discarded (kind : Kind) (name : String) (line : Nat)
  | unrecognized (line : Nat) (text : String)
  | closedInArguments (name : String) (line : Nat)
  | dropped (line : Nat)
  | indexed (kind : Kind) (name : String)
  | leftOpen (name : String)
  deriving DecidableEq, Repr

inductive Item where
  | header (line : String)
  | scalar (line : String)
  | declaration (d : Declaration)
  | trailing (line : String)
  | remark (r : Remark)
  deriving DecidableEq, Repr

namespace Place

/-- Keeps a comment for the open block, or for the next one. -/
def describe (line : String) : Place → Place
  | outside pending => outside (pending ++ [line])
  | inside b => inside { b with description := b.description ++ [line] }

/-- A plain line is a field of the open block, or describes the next one. -/
def addPlain (line : String) : Place → Place
  | outside pending => outside (pending ++ [line])
  | inside b => inside { b with
      fields := b.fields ++ [line]
      inArguments := ArgumentList.next b.inArguments line }

/-- What describes a block that opens here, and what is lost by its opening. A block without a kind
passes its description on. -/
def handOver (n : Nat) : Place → List String × List Item
  | outside pending => (pending, [])
  | inside b =>
    match b.opening.kind? with
    | some kind => ([], [.remark (.discarded kind b.opening.name n)])
    | none => (b.description, [])

def openBlock (n : Nat) (line : String) (p : Place) : Place × List Item :=
  let opening := Opening.ofLine line
  let remarks := if opening.kind?.isNone then [.remark (.unrecognized n (trim line))] else []
  (inside { opening, description := (p.handOver n).1 }, (p.handOver n).2 ++ remarks)

/-- A closing line between blocks changes nothing. -/
def closeBlock (n : Nat) : Place → Place × List Item
  | outside pending => (outside pending, [])
  | inside b =>
    let remarks := if b.inArguments then [.remark (.closedInArguments b.opening.name n)] else []
    match b.opening.kind? with
    | some kind =>
      (outside [], remarks ++ [.remark (.indexed kind b.opening.name),
        .declaration (b.declaration kind)])
    | none => (outside [], remarks ++ [.remark (.dropped n)])

def finish : Place → List Item
  | outside pending => pending.map .trailing
  | inside b => [.remark (.leftOpen b.opening.name)]

end Place

end SchemaSieve
