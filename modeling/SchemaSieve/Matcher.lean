import SchemaSieve.Pattern

/-!
# Matchers

Tests of names and lines. A matcher that is missing accepts nothing, and an exception outweighs a
matcher.
-/

namespace SchemaSieve

/-- A test of a text: it is one of some texts, or a pattern matches somewhere in it. -/
inductive Matcher where
  | exact (values : List String)
  | pattern (p : Pattern)

namespace Matcher

/-- Accepts the given texts. A repeated one counts once. -/
def ofTexts (values : List String) : Matcher := exact values.eraseDups

def ofPattern (source : String) : Except Pattern.CompileError Matcher :=
  (Pattern.compile source).map pattern

def ofSubstring (needle : String) : Except Pattern.CompileError Matcher :=
  ofPattern (Pattern.escape needle)

def isMatch (m : Matcher) (candidate : String) : Bool :=
  match m with
  | exact values => values.contains candidate
  | pattern p => p.isMatch candidate

theorem isMatch_ofTexts {values : List String} {candidate : String} :
    (ofTexts values).isMatch candidate = true ↔ candidate ∈ values := by
  simp [ofTexts, isMatch]

/-- Sets are compared as sets and patterns by what is written. -/
protected def beq (a b : Matcher) : Bool :=
  match a, b with
  | exact vs, exact ws => vs.length == ws.length && vs.all ws.contains
  | pattern p, pattern q => p.source == q.source
  | _, _ => false

instance : BEq Matcher := ⟨Matcher.beq⟩

end Matcher

/-- Whether a matcher is there and accepts a text that the exception does not accept. -/
def accepts (matcher? : Option Matcher) (candidate : String) (exception? : Option Matcher) : Bool :=
  matcher?.any (·.isMatch candidate) && !exception?.any (·.isMatch candidate)

end SchemaSieve
