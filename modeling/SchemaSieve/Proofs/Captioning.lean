import Mathlib.Data.List.ReduceOption
import SchemaSieve.Proofs.CleanUp
import SchemaSieve.Proofs.Placement

/-!
# Descriptions show in the text

What is cut out of a text holds no quotation mark, so the text of a schema has as many of them as
its lines. Each description that is written above a field brings some along: `render_eq_iff` says
that descriptions make no difference to the text of a schema just when none is written.
-/

namespace SchemaSieve

open Text EmptyInput

/-- The quotation marks in some lines. -/
def quotesIn (ls : List String) : Nat := (ls.flatMap String.toList).count '"'

section Quotes

variable {ls ms : List String} {l : String}

theorem quotesIn_cons : quotesIn (l :: ls) = l.toList.count '"' + quotesIn ls := by
  rw [quotesIn, List.flatMap_cons, List.count_append, quotesIn]

theorem quotesIn_append : quotesIn (ls ++ ms) = quotesIn ls + quotesIn ms := by
  rw [quotesIn, List.flatMap_append, List.count_append, quotesIn, quotesIn]

theorem quotesIn_flatMap {α : Type} {f g h : α → List String} {as : List α}
    (hadd : ∀ a ∈ as, quotesIn (f a) = quotesIn (g a) + quotesIn (h a)) :
    quotesIn (as.flatMap f) = quotesIn (as.flatMap g) + quotesIn (as.flatMap h) := by
  induction as with
  | nil => rfl
  | cons a as ih =>
      obtain ⟨ha, has⟩ := List.forall_mem_cons.1 hadd
      simp only [List.flatMap_cons, quotesIn_append, ha, ih has]
      omega

theorem count_unlines (ls : List String) : (unlines ls).toList.count '"' = quotesIn ls := by
  induction ls with
  | nil => rfl
  | cons l ls ih => simp [quotesIn_cons, List.count_append, ih]

theorem count_bodyLine_pos (c : Captions) (text : String) :
    0 < (c.bodyLine text).toList.count '"' := by
  rw [List.count_pos_iff, c.toList_bodyLine]
  simp

end Quotes

namespace EmptyInput

theorem quote_not_mem_chars (b : EmptyBlock) : '"' ∉ b.chars := by
  intro hmem
  rcases List.mem_append.1 hmem with hmem | hmem
  · rcases EmptyBlock.of_mem_opened hmem with h | h | h
    · exact absurd h (by decide)
    · exact absurd h (by decide)
    · exact absurd h (by decide)
  · exact absurd (List.mem_singleton.1 hmem) (by decide)

theorem count_dropBreak (cs : List Char) : (dropBreak cs).count '"' = cs.count '"' := by
  unfold dropBreak
  split <;> simp

theorem count_remove (text : String) : (remove text).toList.count '"' = text.toList.count '"' := by
  rw [Schema.toList_remove]
  cases hcut : cut? false text.toList with
  | none => rfl
  | some rest =>
      obtain ⟨before, lead, b, after, hsplit, hlead, rfl, -⟩ := exists_of_cut? hcut
      have hblock : b.chars.count '"' = 0 := List.count_eq_zero.2 (quote_not_mem_chars b)
      have hbreak : lead.count '"' = 0 := by rcases hlead with rfl | rfl <;> rfl
      rw [hsplit, Option.getD_some]
      simp only [List.count_append, count_dropBreak, hblock, hbreak, Nat.zero_add]

end EmptyInput

theorem count_dropLineBreaks (text : String) :
    (Schema.dropLineBreaks text).toList.count '"' = text.toList.count '"' := by
  rw [Schema.toList_dropLineBreaks]
  induction text.toList with
  | nil => rfl
  | cons c cs ih =>
      rw [List.dropWhile_cons]
      split
      · rename_i hc
        rw [ih, beq_iff_eq.1 hc]
        simp
      · rfl

/-- The text of a schema holds the quotation marks of all its lines. -/
theorem Schema.count_render (s : Schema) (layout : Layout) :
    (s.render layout).toList.count '"' = quotesIn (s.documentLines layout) := by
  rw [render, count_dropLineBreaks, count_remove, assemble, count_unlines]

namespace Captions

variable {c : Captions} {d : Declaration} {texts : OrderedMap String String} {isOpen : Bool}
  {ls : List String} {text : String}

/-- The texts that are written above the fields of a declaration. -/
def textsOf (c : Captions) (d : Declaration) : List String :=
  (textsAbove ((c.descriptions.fieldsOf? d.kind d.name).getD ∅) false d.bodyLines).reduceOption

theorem quotesIn_captionedLines (isOpen : Bool) (ls : List String) :
    quotesIn (c.captionedLines texts isOpen ls) = quotesIn (ls.map c.promote)
      + quotesIn ((textsAbove texts isOpen ls).reduceOption.map c.bodyLine) := by
  induction ls generalizing isOpen with
  | nil => rfl
  | cons l ls ih =>
      rw [captionedLines, captionedLine_eq, quotesIn_append, ih, textsAbove, List.map_cons,
        quotesIn_cons, below, quotesIn_append, quotesIn_cons]
      cases textAbove? texts isOpen l with
      | none =>
          rw [List.reduceOption_cons_of_none]
          simp only [quotesIn, Option.map_none, Option.toList_none, List.flatMap_nil,
            List.count_nil]
          omega
      | some text =>
          rw [List.reduceOption_cons_of_some, List.map_cons, quotesIn_cons]
          simp only [quotesIn, Option.map_some, Option.toList_some, List.flatMap_cons,
            List.flatMap_nil, List.count_append, List.count_nil]
          omega

/-- Where no text belongs above any line, the lines are written alone. -/
theorem captionedLines_of_no_texts (h : (textsAbove texts isOpen ls).reduceOption = []) :
    c.captionedLines texts isOpen ls = ls.map c.promote := by
  induction ls generalizing isOpen with
  | nil => rfl
  | cons l ls ih =>
      rw [textsAbove] at h
      cases habove : textAbove? texts isOpen l with
      | some text =>
          rw [habove, List.reduceOption_cons_of_some] at h
          cases h
      | none =>
          rw [habove, List.reduceOption_cons_of_none] at h
          rw [captionedLines, captionedLine_eq, habove, ih h]
          rfl

theorem quotesIn_eq_zero_iff {texts : List String} :
    quotesIn (texts.map c.bodyLine) = 0 ↔ texts = [] := by
  cases texts with
  | nil => simp [quotesIn]
  | cons text texts =>
      have hpos := count_bodyLine_pos c text
      rw [List.map_cons, quotesIn_cons]
      simp only [reduceCtorEq, iff_false]
      omega

theorem some_mem_textsAbove_iff :
    some text ∈ textsAbove texts isOpen ls ↔ ∃ before line after, ls = before ++ line :: after ∧
      textAbove? texts (before.foldl track isOpen) line = some text := by
  induction ls generalizing isOpen with
  | nil => simp [textsAbove]
  | cons l ls ih =>
      rw [textsAbove, List.mem_cons, ih]
      constructor
      · rintro (habove | ⟨before, line, after, rfl, habove⟩)
        · exact ⟨[], l, ls, rfl, habove.symm⟩
        · exact ⟨l :: before, line, after, rfl, by rw [List.foldl_cons, habove]⟩
      · rintro ⟨before, line, after, hls, habove⟩
        cases before with
        | nil =>
            obtain ⟨rfl, rfl⟩ := List.cons.inj hls
            exact Or.inl habove.symm
        | cons b before =>
            obtain ⟨rfl, rfl⟩ := List.cons.inj hls
            rw [List.foldl_cons] at habove
            exact Or.inr ⟨before, line, after, rfl, habove⟩

/-- A text is written above a line that is described and stands in no argument list. -/
theorem mem_textsOf_iff :
    text ∈ c.textsOf d ↔ ∃ before line after, d.bodyLines = before ++ line :: after ∧
      comment? line = none ∧ ¬ListOpenBehind before ∧ c.Describes d line text := by
  rw [textsOf, List.reduceOption_mem_iff, some_mem_textsAbove_iff]
  refine exists_congr fun before => exists_congr fun line => exists_congr fun after =>
    and_congr_right fun _ => ?_
  rw [textAbove?, ← foldl_track_iff, ← textFor?_eq_some_iff]
  cases comment? line with
  | some text => simp
  | none => cases before.foldl track false <;> simp

end Captions

/-- The layout without any descriptions. -/
def Layout.undescribed (layout : Layout) : Layout := { layout with descriptions := {} }

namespace Schema

variable {s : Schema} {layout : Layout} {d : Declaration}

theorem fieldLines_undescribed (layout : Layout) (d : Declaration) :
    layout.undescribed.fieldLines d = d.bodyLines.map layout.promote :=
  Captions.captionedLines_empty false d.bodyLines

theorem descriptionLines_undescribed (hnode : layout.descriptions.node? d.kind d.name = none) :
    layout.descriptionLines d = layout.undescribed.descriptionLines d := by
  rw [Captions.descriptionLines, Captions.descriptionLines, hnode]
  rfl

theorem declarationLines_of_no_texts (hnode : layout.descriptions.node? d.kind d.name = none)
    (h : layout.textsOf d = []) :
    s.declarationLines layout d = s.declarationLines layout.undescribed d := by
  have hfields : layout.fieldLines d = layout.undescribed.fieldLines d := by
    rw [fieldLines_undescribed]
    exact Captions.captionedLines_of_no_texts h
  rw [declarationLines, declarationLines, descriptionLines_undescribed hnode, hfields]
  rfl

theorem quotesIn_declarationLines (hnode : layout.descriptions.node? d.kind d.name = none) :
    quotesIn (s.declarationLines layout d) = quotesIn (s.declarationLines layout.undescribed d)
      + quotesIn ((layout.textsOf d).map layout.bodyLine) := by
  have hfields : quotesIn (layout.fieldLines d)
      = quotesIn (layout.undescribed.fieldLines d)
        + quotesIn ((layout.textsOf d).map layout.bodyLine) := by
    rw [fieldLines_undescribed]
    exact Captions.quotesIn_captionedLines false d.bodyLines
  have hhoisted : s.isHoisted layout.undescribed = s.isHoisted layout := rfl
  rw [declarationLines, declarationLines, descriptionLines_undescribed hnode, hhoisted]
  simp only [quotesIn_append, quotesIn_cons, hfields]
  omega

/-- Descriptions of fields make no difference to the text of a schema just when none of them is
written. -/
theorem render_eq_iff
    (hnode : ∀ d ∈ s.declarations, layout.descriptions.node? d.kind d.name = none) :
    s.render layout = s.render layout.undescribed ↔
      ∀ d ∈ s.declarations, layout.textsOf d = [] := by
  have hleading : s.leadingLines layout = s.leadingLines layout.undescribed := rfl
  have htrailing : s.trailingLines layout = s.trailingLines layout.undescribed := rfl
  constructor
  · intro h
    have hcount := congrArg (fun text : String => text.toList.count '"') h
    have hsum : quotesIn (s.declarations.flatMap (s.declarationLines layout))
        = quotesIn (s.declarations.flatMap (s.declarationLines layout.undescribed))
          + quotesIn (s.declarations.flatMap fun d => (layout.textsOf d).map layout.bodyLine) :=
      quotesIn_flatMap fun d hd => quotesIn_declarationLines (hnode d hd)
    simp only [count_render, documentLines, quotesIn_append, hleading, htrailing, hsum] at hcount
    have hzero : quotesIn (s.declarations.flatMap fun d =>
        (layout.textsOf d).map layout.bodyLine) = 0 := by omega
    rw [← List.map_flatMap] at hzero
    exact List.flatMap_eq_nil_iff.1 (Captions.quotesIn_eq_zero_iff.1 hzero)
  · intro h
    have hlines : s.declarations.flatMap (s.declarationLines layout)
        = s.declarations.flatMap (s.declarationLines layout.undescribed) :=
      List.flatMap_congr fun d hd => declarationLines_of_no_texts (hnode d hd) (h d hd)
    rw [render, render, assemble, assemble, documentLines, documentLines, hlines]
    rfl

end Schema

end SchemaSieve
