/-!
# Kinds of declarations

The four kinds and the words that stand for them; `Kind.ofKeyword?_eq_some_iff` says that each
word stands for one kind.
-/

namespace SchemaSieve

/-- The kinds of declaration that have a body in braces. -/
inductive Kind where
  | enum
  | input
  | interface
  | type
  deriving DecidableEq, Repr

namespace Kind

def keyword : Kind → String
  | enum => "enum"
  | input => "input"
  | interface => "interface"
  | type => "type"

def ofKeyword? : String → Option Kind
  | "enum" => some enum
  | "input" => some input
  | "interface" => some interface
  | "type" => some type
  | _ => none

theorem ofKeyword?_keyword (k : Kind) : ofKeyword? k.keyword = some k := by
  cases k <;> rfl

theorem ofKeyword?_eq_some_iff {s : String} {k : Kind} : ofKeyword? s = some k ↔ s = k.keyword := by
  constructor
  · intro h
    unfold ofKeyword? at h
    split at h <;> simp_all <;> subst h <;> rfl
  · rintro rfl
    exact ofKeyword?_keyword k

theorem keyword_injective {a b : Kind} (h : a.keyword = b.keyword) : a = b := by
  have := ofKeyword?_keyword a
  rw [h, ofKeyword?_keyword] at this
  exact (Option.some.inj this).symm

end Kind

end SchemaSieve
