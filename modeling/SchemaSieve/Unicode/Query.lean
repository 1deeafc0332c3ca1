import SchemaSieve.Text.Blank
import SchemaSieve.Text.Digit
import SchemaSieve.Text.Word
import SchemaSieve.Unicode.Binary
import SchemaSieve.Unicode.Category
import SchemaSieve.Unicode.Script
import SchemaSieve.Unicode.ScriptExtension

/-!
# Queries

The sets that names of Unicode properties and of their values stand for.
-/

namespace SchemaSieve.Unicode

open Text

/-- Why no set of characters answers to a name. -/
inductive QueryError where
  | noProperty
  | noValue
  deriving DecidableEq, Repr

def unionOf (ps : List Property) : CharSet :=
  CharSet.ofRanges (ps.flatMap fun p => p.toSet.ranges)

def unassigned : CharSet := (unionOf categories).compl

/-- The categories that stand for several, by the first letters of their parts. -/
def categoryGroups : List (List String × List String) :=
  [(["LC", "Cased_Letter"], ["Lu", "Ll", "Lt"]),
    (["L", "Letter"], ["Lu", "Ll", "Lt", "Lm", "Lo"]),
    (["M", "Mark", "Combining_Mark"], ["Mc", "Me", "Mn"]),
    (["N", "Number"], ["Nd", "Nl", "No"]),
    (["P", "Punctuation", "punct"], ["Pc", "Pd", "Pe", "Pf", "Pi", "Po", "Ps"]),
    (["S", "Symbol"], ["Sc", "Sk", "Sm", "So"]),
    (["Z", "Separator"], ["Zl", "Zp", "Zs"])]

def ofCategories (names : List String) : CharSet :=
  unionOf (categories.filter fun p => p.names.head?.any names.contains)

/-- What a name says as a general category: the set may be missing, as that of the surrogates. -/
def category? (loose : String) : Option (Except QueryError CharSet) :=
  if loose = "any" then some (.ok CharSet.all)
  else if loose = "ascii" then some (.ok ⟨[(0, 0x7F)]⟩)
  else if loose = "assigned" then some (.ok (unionOf categories))
  else if isNamed loose ["Cn", "Unassigned"] then some (.ok unassigned)
  else if isNamed loose ["Cs", "Surrogate"] then some (.error .noValue)
  else if isNamed loose ["C", "Other"] then
    some (.ok ((ofCategories ["Cc", "Cf", "Co"]).union unassigned))
  else
    match categoryGroups.find? fun g => isNamed loose g.1 with
    | some g => some (.ok (ofCategories g.2))
    | none => (find? loose categories).map fun p => .ok p.toSet

def script? (table : List Property) (loose : String) : Option (Except QueryError CharSet) :=
  if isNamed loose ["Hrkt", "Katakana_Or_Hiragana"] ∨ isNamed loose ["Zzzz", "Unknown"] then
    some (.error .noValue)
  else (find? loose table).map fun p => .ok p.toSet

/-- Properties that are known by name and have no set of their own. -/
def otherProperties : List String :=
  ["Age", "bc", "Bidi_Class", "bmg", "Bidi_Mirroring_Glyph", "bpb", "Bidi_Paired_Bracket", "bpt",
    "Bidi_Paired_Bracket_Type", "blk", "Block", "ccc", "Canonical_Combining_Class", "cf",
    "Case_Folding", "CE", "Composition_Exclusion", "Comp_Ex", "Full_Composition_Exclusion", "dm",
    "Decomposition_Mapping", "dt", "Decomposition_Type", "ea", "East_Asian_Width", "EqUIdeo",
    "Equivalent_Unified_Ideograph", "FC_NFKC", "FC_NFKC_Closure", "gc", "General_Category", "GCB",
    "Grapheme_Cluster_Break", "Gr_Link", "Grapheme_Link", "hst", "Hangul_Syllable_Type", "Hyphen",
    "InCB", "Indic_Conjunct_Break", "InPC", "Indic_Positional_Category", "InSC",
    "Indic_Syllabic_Category", "isc", "ISO_Comment", "JSN", "Jamo_Short_Name", "jg",
    "Joining_Group", "jt", "Joining_Type", "lb", "Line_Break", "lc", "Lowercase_Mapping", "na",
    "Name", "na1", "Unicode_1_Name", "Name_Alias", "NFC_QC", "NFC_Quick_Check", "NFD_QC",
    "NFD_Quick_Check", "NFKC_CF", "NFKC_Casefold", "NFKC_SCF", "NFKC_Simple_Casefold", "NFKC_QC",
    "NFKC_Quick_Check", "NFKD_QC", "NFKD_Quick_Check", "nt", "Numeric_Type", "nv",
    "Numeric_Value", "OAlpha", "Other_Alphabetic", "ODI", "Other_Default_Ignorable_Code_Point",
    "OGr_Ext", "Other_Grapheme_Extend", "OIDC", "Other_ID_Continue", "OIDS", "Other_ID_Start",
    "OLower", "Other_Lowercase", "OMath", "Other_Math", "OUpper", "Other_Uppercase", "PCM",
    "Prepended_Concatenation_Mark", "SB", "Sentence_Break", "sc", "Script", "scf",
    "Simple_Case_Folding", "scx", "Script_Extensions", "sfc", "slc", "Simple_Lowercase_Mapping",
    "stc", "Simple_Titlecase_Mapping", "suc", "Simple_Uppercase_Mapping", "tc",
    "Titlecase_Mapping", "uc", "Uppercase_Mapping", "URS", "Unicode_Radical_Stroke", "vo",
    "Vertical_Orientation", "WB", "Word_Break", "XO_NFC", "Expands_On_NFC", "XO_NFD",
    "Expands_On_NFD", "XO_NFKC", "Expands_On_NFKC", "XO_NFKD", "Expands_On_NFKD"]

/-- What a name says as a property. The names `cf`, `sc` and `lc` are left to the categories. -/
def binary? (loose : String) : Option (Except QueryError CharSet) :=
  if ["cf", "sc", "lc"].contains loose then none
  else
    match find? loose binaryProperties with
    | some p => some (.ok p.toSet)
    | none => if isNamed loose otherProperties then some (.error .noProperty) else none

def named (name : String) : Except QueryError CharSet :=
  let loose := looseName name
  match binary? loose, category? loose, script? scripts loose with
  | some r, _, _ => r
  | _, some r, _ => r
  | _, _, some r => r
  | _, _, _ => .error .noProperty

def valued (name value : String) : Except QueryError CharSet :=
  let loose := looseName name
  let r? :=
    if isNamed loose ["gc", "General_Category"] then category? (looseName value)
    else if isNamed loose ["sc", "Script"] then script? scripts (looseName value)
    else if isNamed loose ["scx", "Script_Extensions"] then
      script? scriptExtensions (looseName value)
    else if isNamed loose otherProperties || (find? loose binaryProperties).isSome then none
    else some (.error .noProperty)
  r?.getD (.error .noValue)

def withProperty (loose : String) : CharSet :=
  ((find? loose binaryProperties).map Property.toSet).getD CharSet.empty

def alphabetic : CharSet := withProperty "alphabetic"

def numeric : CharSet := ofCategories ["Nd", "Nl", "No"]

/-- The characters that extend the one before them. -/
def graphemeExtenders : CharSet := withProperty "graphemeextend"

/-- The characters beyond ASCII that show when they are written. -/
def printable : CharSet :=
  unionOf (categories.filter fun p =>
    !p.names.head?.any ["Cc", "Cf", "Co", "Zl", "Zp", "Zs"].contains)

def isAlphabetic (c : Char) : Bool :=
  if c.toNat < 0x80 then c.isAlpha else alphabetic.contains c

def isNumeric (c : Char) : Bool :=
  if c.toNat < 0x80 then c.isDigit else numeric.contains c

def isGraphemeExtend (c : Char) : Bool := 0x80 ≤ c.toNat && graphemeExtenders.contains c

/-- Whether a character shows when it is written. Of the blanks only the ordinary one counts. -/
def isPrintable (c : Char) : Bool :=
  if c.toNat < 0x80 then 0x20 ≤ c.toNat && c.toNat < 0x7F
  else printable.contains c

end SchemaSieve.Unicode
