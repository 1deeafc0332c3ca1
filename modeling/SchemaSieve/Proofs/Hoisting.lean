import SchemaSieve.Proofs.Attaching
import SchemaSieve.Proofs.Passing
import SchemaSieve.Proofs.WholeLines

/-!
# Scalars in blocks

A scalar is recorded wherever it stands, so one that stands in a block is a field and a scalar at
once. Removing the field leaves the scalar, and the layout that keeps all lines writes it ahead of
the declarations. Lines that begin otherwise do not come back in this way:
`not_mem_gathered_run` follows from line to line that a line that stands only among fields never
comes to describe a declaration, and `recorded_and_written` says what else may write it.
-/

namespace SchemaSieve

open Text

/-- The line begins with the word `scalar` and a blank. -/
def LineClass.DeclaresScalar (line : String) : Prop :=
  ∃ blank rest, line.toList = "scalar".toList ++ blank :: rest ∧ isBlank blank = true

theorem LineClass.DeclaresScalar.isScalar {line : String} (h : LineClass.DeclaresScalar line) :
    LineClass.isScalar line = true := by
  obtain ⟨blank, rest, hline, -⟩ := h
  rw [LineClass.isScalar, hline, List.isPrefixOf_iff_prefix]
  exact List.prefix_append _ _

/-- Lines are recorded as scalars between blocks only. -/
def RecordsOutside (ls : List String) : Prop :=
  ∀ before line after, ls = before ++ line :: after →
    Item.scalar line ∈ ((Reader.run {} before).1.step line).2 →
    (Reader.run {} before).1.place.openBlock? = none

/-- The line stands where a block is open. -/
def StandsInBlock (ls : List String) (line : String) : Prop :=
  ∃ i j opener, OpenAhead ls i j opener ∧ ls[j]? = some line

/-- The line stands in the text, and only as a plain line in a block that is open. -/
structure OnlyInBlocks (ls : List String) (l : String) : Prop where
  mem : l ∈ ls
  plain : LineClass.ofLine l = .plain
  inside : ∀ j, ls[j]? = some l → ∃ i opener, OpenAhead ls i j opener

theorem OnlyInBlocks.of_opener {opener l : String} {after : List String}
    (hopener : LineClass.ofLine opener = .opener) (hl : LineClass.ofLine l = .plain)
    (hafter : l ∉ after) : OnlyInBlocks (opener :: l :: after) l where
  mem := by simp
  plain := hl
  inside
    | 0, h => by
        obtain rfl : opener = l := by simpa using h
        rw [hl] at hopener
        cases hopener
    | 1, _ => ⟨0, opener, by decide, rfl, hopener, fun n m _ _ => by omega⟩
    | j + 2, h => by
        have hmem : after[j]? = some l := h
        exact absurd (List.mem_of_getElem? hmem) hafter

namespace Reader

variable {r : Reader} {ls : List String} {l line : String}

theorem openBlock?_run_eq_none_iff (ls : List String) :
    (Reader.run {} ls).1.place.openBlock? = none ↔
      ∀ i opener, ¬OpenAhead ls i ls.length opener := by
  have hstands := (Reader.run_blocks ls).1
  rw [Stands] at hstands
  cases hopen : (Reader.run {} ls).1.place.openBlock? with
  | none =>
      rw [hopen] at hstands
      simpa using hstands
  | some o =>
      rw [hopen] at hstands
      obtain ⟨i, opener, hahead, -⟩ := hstands
      simpa using ⟨i, opener, hahead⟩

theorem scalar_mem_step_iff :
    Item.scalar l ∈ (r.step line).2 ↔ l = line ∧ LineClass.isScalar line = true := by
  have hitems := filterMap_scalar?_step r line
  have hmem : Item.scalar l ∈ (r.step line).2 ↔ l ∈ (r.step line).2.filterMap Item.scalar? := by
    rw [List.mem_filterMap]
    constructor
    · exact fun h => ⟨_, h, rfl⟩
    · rintro ⟨item, hitem, hl⟩
      cases item <;> cases hl
      exact hitem
  rw [hmem, hitems, List.mem_filter, List.mem_singleton]
  exact and_congr_right fun h => by rw [h]

/-- A line that only stands among fields is not gathered. -/
theorem not_mem_gathered_step (hr : l ∉ r.place.gathered)
    (hl : line = l → LineClass.ofLine l = .plain ∧ r.place.openBlock? ≠ none) :
    l ∉ (r.step line).1.place.gathered ∧
      ∀ d ∈ (r.step line).2.filterMap Item.declaration?, l ∉ d.description := by
  cases hclass : LineClass.ofLine line with
  | blank =>
      rw [step_blank hclass]
      exact ⟨hr, by simp⟩
  | comment =>
      cases hbody : r.inBody with
      | false =>
          rw [step_header hclass hbody]
          exact ⟨hr, by simp [Item.declaration?, List.filterMap_cons]⟩
      | true =>
          rw [step_comment hclass hbody]
          have hne : l ≠ line := by
            rintro rfl
            rw [(hl rfl).1] at hclass
            cases hclass
          refine ⟨?_, by simp⟩
          cases hp : r.place <;> rw [hp] at hr <;>
            simpa [Place.describe, Place.gathered, hne] using hr
  | opener =>
      obtain ⟨hafter, hitems⟩ := step_opener (r := r) hclass
      rw [hafter, hitems]
      refine ⟨fun hmem => hr ?_, by simp⟩
      cases hp : r.place with
      | outside pending =>
          rw [hp] at hmem
          exact hmem
      | inside b =>
          rw [hp] at hmem
          cases hkind : b.opening.kind? with
          | some kind => simp [Place.openBlock, Place.handOver, Place.gathered, hkind] at hmem
          | none => simpa [Place.openBlock, Place.handOver, Place.gathered, hkind] using hmem
  | closer =>
      obtain ⟨hafter, hitems⟩ := step_closer (r := r) hclass
      rw [hafter, hitems]
      cases hp : r.place with
      | outside pending =>
          rw [hp] at hr
          exact ⟨hr, by simp [Place.closeBlock_outside]⟩
      | inside b =>
          rw [hp] at hr
          obtain ⟨hclosed, hdeclared⟩ := Place.closeBlock_inside b (r.lineCount + 1)
          rw [hclosed, hdeclared]
          refine ⟨by simp [Place.gathered], fun d hd => ?_⟩
          obtain ⟨kind, -, rfl⟩ := Option.map_eq_some_iff.1 (Option.mem_toList.1 hd)
          exact hr
  | plain =>
      obtain ⟨hafter, hitems⟩ := step_plain (r := r) hclass
      rw [hafter, hitems]
      refine ⟨?_, by simp⟩
      cases hp : r.place with
      | inside b =>
          rw [hp] at hr
          exact hr
      | outside pending =>
          rw [hp] at hr
          have hne : l ≠ line := by
            rintro rfl
            exact (hl rfl).2 (by rw [hp]; rfl)
          simpa [Place.addPlain, Place.gathered, hne] using hr

theorem not_mem_gathered_run (hplain : LineClass.ofLine l = .plain)
    (h : ∀ before after, ls = before ++ l :: after →
      (Reader.run {} before).1.place.openBlock? ≠ none) :
    l ∉ (Reader.run {} ls).1.place.gathered ∧
      ∀ d ∈ (Reader.run {} ls).2.filterMap Item.declaration?, l ∉ d.description := by
  -- At the end of the lines, where the reader still knows which block is open.
  induction ls using List.reverseRecOn with
  | nil => exact ⟨by simp [Place.gathered], by simp⟩
  | append_singleton ls line ih =>
      obtain ⟨hgathered, hdeclared⟩ := ih fun before after hls =>
        h before (after ++ [line]) (by rw [hls, List.append_assoc, List.cons_append])
      obtain ⟨hgathered', hdeclared'⟩ := not_mem_gathered_step hgathered
        fun hline : line = l => ⟨hplain, h ls [] (by rw [hline])⟩
      rw [run_concat, List.filterMap_append]
      exact ⟨hgathered', List.forall_mem_append.2 ⟨hdeclared, hdeclared'⟩⟩

end Reader

section Captions

variable {c : Captions} {d : Declaration} {m : String}

/-- The line is written for its text: above the opening line of the declaration, or among the lines
of its fields. -/
def Captions.IsCaption (c : Captions) (d : Declaration) (m : String) : Prop :=
  (∃ text, (c.descriptions.node? d.kind d.name).filter (· != "") = some text ∧
      m = Captions.quote c.stripCommas text) ∨
    ∃ text, m = c.bodyLine text ∧ m ∈ c.fieldLines d

theorem Captions.isCaption_or_mem_description (hm : m ∈ c.descriptionLines d) :
    c.IsCaption d m ∨ m ∈ d.description := by
  unfold Captions.descriptionLines at hm
  split at hm
  · rename_i text htext
    exact Or.inl (Or.inl ⟨text, htext, List.mem_singleton.1 hm⟩)
  · exact Or.inr (List.mem_filter.1 hm).1

theorem Captions.isCaption_or_mem_fields {content : String} (hd : d.IsRead (· ∈ lines content))
    (hm : m ∈ c.fieldLines d) : c.IsCaption d m ∨ m ∈ d.fields := by
  have hlines := hm
  rw [Captions.fieldLines, hd.flatMap_lines_fields] at hlines
  rcases Captions.mem_captionedLines hlines with hfield | ⟨text, rfl, -⟩
  · exact Or.inr hfield
  · exact Or.inl (Or.inr ⟨text, rfl, hm⟩)

end Captions

namespace Schema

variable {content l m : String} {t : Schema} {d : Declaration} {layout : Layout}

theorem mem_gathered_of_mem_trailing (hm : m ∈ (ofText content).trailing) :
    m ∈ (Reader.run {} (lines content)).1.place.gathered := by
  cases hp : (Reader.run {} (lines content)).1.place with
  | outside pending =>
      rw [trailing_ofText hp] at hm
      exact hm
  | inside b =>
      rw [trailing_ofText_of_inside hp] at hm
      cases hm

theorem not_mem_remarks (h : OnlyInBlocks (lines content) l) :
    l ∉ (ofText content).trailing ∧ ∀ d ∈ (ofText content).declarations, l ∉ d.description := by
  obtain ⟨hgathered, hdeclared⟩ := Reader.not_mem_gathered_run h.plain
    fun before after (hls : lines content = before ++ l :: after) hnone => by
      obtain ⟨i, opener, hahead⟩ := h.inside before.length (by rw [hls]; simp)
      rw [hls] at hahead
      exact (Reader.openBlock?_run_eq_none_iff before).1 hnone i opener
        ((OpenAhead.append_iff (Nat.le_refl _)).1 hahead)
  exact ⟨fun hmem => hgathered (mem_gathered_of_mem_trailing hmem),
    fun d hd => hdeclared d (mem_items_of_mem_declarations hd)⟩

theorem not_hasLine_of_mem_lines (hm : m ∈ lines content) (hne : l ≠ m) : ¬HasLine m l := by
  have hbreak : '\n' ∉ m.toList := fun h => (mem_of_mem_lines hm h).1 rfl
  rwa [hasLine_iff_eq hbreak]

/-- Of the lines of a declaration that lacks a plain line, only captions bring it back. -/
theorem isCaption_of_hasLine (hread : d.IsRead (· ∈ lines content))
    (hplain : LineClass.ofLine l = .plain) (hdescription : l ∉ d.description)
    (hfields : l ∉ d.fields) (hm : m ∈ t.declarationLines layout d) (hl : HasLine m l) :
    layout.IsCaption d m := by
  have hclass : ∀ {m}, '\n' ∉ m.toList → LineClass.ofLine m ≠ .plain → ¬HasLine m l := by
    intro m hbreak hm
    rw [hasLine_iff_eq hbreak]
    rintro rfl
    exact hm hplain
  simp only [declarationLines, hread.additions, List.mem_append, List.mem_cons, List.mem_filter,
    List.not_mem_nil, or_false] at hm
  rcases hm with (((rfl | ⟨hm, -⟩) | rfl) | hm) | rfl
  · exact absurd hl (hclass (by simp) (by decide))
  · refine (Captions.isCaption_or_mem_description hm).resolve_right fun hm => ?_
    have hne : m ≠ l := ne_of_mem_of_not_mem hm hdescription
    exact not_hasLine_of_mem_lines (hread.description m hm).1 hne.symm hl
  · exact absurd hl (hclass (Declaration.isLine_header hread.words).1 (by simp [d.ofLine_header]))
  · refine (Captions.isCaption_or_mem_fields hread hm).resolve_right fun hm => ?_
    have hne : m ≠ l := ne_of_mem_of_not_mem hm hfields
    exact not_hasLine_of_mem_lines (hread.fields m hm).1 hne.symm hl
  · exact absurd hl (hclass (by decide) (by decide))

/-- Among the first lines a plain line is a scalar. -/
theorem isScalar_of_hasLine_leadingLines (hframe : (ofText content).SameFrame t)
    (hplain : LineClass.ofLine l = .plain) (hm : m ∈ t.leadingLines layout) (hl : HasLine m l) :
    LineClass.isScalar l = true := by
  have hmem : m ∈ t.header ++ t.scalars := by
    rw [leadingLines] at hm
    split at hm
    · exact hm
    · cases hm
  rw [hframe.header, hframe.scalars, scalars_ofText] at hmem
  by_contra hnot
  rcases List.mem_append.1 hmem with hmem | hmem
  · obtain ⟨hline, hcomment⟩ := mem_header_ofText hmem
    refine not_hasLine_of_mem_lines hline ?_ hl
    rintro rfl
    rw [hplain] at hcomment
    cases hcomment
  · obtain ⟨hline, hscalar⟩ := List.mem_filter.1 hmem
    refine not_hasLine_of_mem_lines hline ?_ hl
    rintro rfl
    exact hnot hscalar

theorem not_hasLine_of_mem_trailingLines (hframe : (ofText content).SameFrame t)
    (honly : OnlyInBlocks (lines content) l) (hm : m ∈ t.trailingLines layout) : ¬HasLine m l := by
  have hmem : m ∈ spaced (t.trailing.filter (!t.isHoisted layout ·)) := by
    rw [trailingLines] at hm
    split at hm
    · exact hm
    · cases hm
  rcases mem_spaced hmem with rfl | hmem
  · rw [hasLine_iff_eq (by simp)]
    exact LineClass.ne_empty_of_ofLine honly.plain (by simp)
  · have htrailing := (List.mem_filter.1 hmem).1
    rw [hframe.trailing] at htrailing
    have hne : m ≠ l := ne_of_mem_of_not_mem htrailing (not_mem_remarks honly).1
    exact not_hasLine_of_mem_lines (describingLine_of_mem_trailing htrailing).1 hne.symm

/-- The captions of a declaration are written as they are. -/
theorem mem_declarationLines_of_isCaption (hframe : (ofText content).SameFrame t)
    (h : layout.IsCaption d m) : m ∈ t.declarationLines layout d := by
  rw [declarationLines]
  rcases h with ⟨text, htext, rfl⟩ | ⟨text, -, hm⟩
  · have hlines : layout.descriptionLines d = [Captions.quote layout.stripCommas text] := by
      rw [Captions.descriptionLines, htext]
    have hscalar : LineClass.isScalar (Captions.quote layout.stripCommas text) = false :=
      LineClass.isScalar_eq_false_of_head? (c := '"') (by rw [Captions.toList_quote]; rfl)
        (by decide)
    have hhoisted : Captions.quote layout.stripCommas text ∉ t.scalars := by
      rw [hframe.scalars, scalars_ofText]
      simp [hscalar]
    simp [hlines, isHoisted, hhoisted]
  · simp [hm]

end Schema

namespace Pipeline

variable {content l : String} {fs : List Filter} {t : Schema} {layout : Layout}

/-- A line that stood only among fields, and is no field any more, is written just when it was
recorded as a scalar or a caption holds it. -/
theorem hasLine_assemble_iff (hremove : ∀ f ∈ fs, ∃ invert test, f.action = .remove invert test)
    (h : apply fs (Schema.ofText content) = .ok t) (hlayout : layout.preserving = true)
    (hl : OnlyInBlocks (lines content) l) (hgone : ∀ d ∈ t.declarations, l ∉ d.fields) :
    HasLine (t.assemble layout) l ↔ LineClass.isScalar l = true ∨
      ∃ d ∈ t.declarations, ∃ m, layout.IsCaption d m ∧ HasLine m l := by
  obtain ⟨hframe, -⟩ := apply_eq_ok_iff_forall₂.1 h
  rw [Schema.assemble, hasLine_unlines (LineClass.ne_empty_of_ofLine hl.plain (by simp)),
    Schema.documentLines]
  constructor
  · rintro ⟨m, hm, hline⟩
    rw [List.mem_append, List.mem_append] at hm
    rcases hm with (hm | hm) | hm
    · exact Or.inl (Schema.isScalar_of_hasLine_leadingLines hframe hl.plain hm hline)
    · obtain ⟨e, he, hm⟩ := List.mem_flatMap.1 hm
      obtain ⟨d, hd, hlost⟩ := exists_of_mem_forall₂ (losesFields_apply hremove h) he
      have hdescription : l ∉ e.description := by
        rw [hlost.1]
        exact (Schema.not_mem_remarks hl).2 d hd
      exact Or.inr ⟨e, he, m, Schema.isCaption_of_hasLine (isRead_of_removals hremove h he)
        hl.plain hdescription (hgone e he) hm hline, hline⟩
    · exact absurd hline (Schema.not_hasLine_of_mem_trailingLines hframe hl hm)
  · rintro (hscalar | ⟨d, hd, m, hcaption, hline⟩)
    · have hmem : l ∈ t.scalars := by
        rw [hframe.scalars, scalars_ofText]
        exact List.mem_filter.2 ⟨hl.mem, hscalar⟩
      have hself : HasLine l l :=
        (hasLine_iff_eq fun hbreak => (mem_of_mem_lines hl.mem hbreak).1 rfl).2 rfl
      exact ⟨l, by simp [Schema.leadingLines, hlayout, hmem], hself⟩
    · have hmem := List.mem_flatMap.2
        ⟨d, hd, Schema.mem_declarationLines_of_isCaption hframe hcaption⟩
      exact ⟨m, List.mem_append_left _ (List.mem_append_right _ hmem), hline⟩

/-- The text that is written has no other lines than the document, but for one that is put together
where an empty input is cut out. -/
theorem hasLine_assemble_or_joins (hne : l ≠ "") (hl : HasLine (t.render layout) l) :
    HasLine (t.assemble layout) l ∨ EmptyInput.Joins (t.assemble layout) l := by
  rw [Schema.render, Schema.hasLine_dropLineBreaks hne] at hl
  exact EmptyInput.hasLine_or_joins hl

theorem hasLine_render_of_free (hne : l ≠ "") (hfree : EmptyInput.Free (t.assemble layout))
    (hl : HasLine (t.assemble layout) l) : HasLine (t.render layout) l := by
  rwa [Schema.render, EmptyInput.remove_of_free hfree, Schema.hasLine_dropLineBreaks hne]

/-- A line is recorded by its beginning alone, wherever it stands. -/
theorem recordsOutside_iff (ls : List String) :
    RecordsOutside ls ↔ ∀ line, StandsInBlock ls line → LineClass.isScalar line = false := by
  constructor
  · rintro h line ⟨i, j, opener, hopen, hline⟩
    have hlength := length_take_of_getElem? hline
    obtain ⟨hj, rfl⟩ := List.getElem?_eq_some_iff.1 hline
    have hls : ls = ls.take j ++ ls[j] :: ls.drop (j + 1) := by
      rw [← List.drop_eq_getElem_cons hj, List.take_append_drop]
    rw [Bool.eq_false_iff]
    intro hscalar
    have hnone := h _ _ _ hls (Reader.scalar_mem_step_iff.2 ⟨rfl, hscalar⟩)
    refine (Reader.openBlock?_run_eq_none_iff (ls.take j)).1 hnone i opener ?_
    rw [hls] at hopen
    rw [hlength]
    exact (OpenAhead.append_iff (by omega)).1 hopen
  · rintro h before line after rfl hitem
    rw [Reader.openBlock?_run_eq_none_iff]
    intro i opener hopen
    have hscalar := h line ⟨i, before.length, opener,
      (OpenAhead.append_iff (Nat.le_refl _)).2 hopen, by simp⟩
    rw [(Reader.scalar_mem_step_iff.1 hitem).2] at hscalar
    cases hscalar

/-- **Scalars are recorded wherever they stand.** All of them stand between blocks if no line in a
block begins with `scalar`, and only if none there is a line `scalar ...`. So where a line stood
only among fields and is no field of any declaration any more, the layout that keeps all lines
writes it only if it begins with `scalar`, a caption holds it or it is put together where an empty
input is cut out. A line `scalar ...` it does write. -/
theorem recorded_and_written (content : String) :
    ((∀ line, StandsInBlock (lines content) line → LineClass.isScalar line = false) →
      RecordsOutside (lines content)) ∧
    (RecordsOutside (lines content) →
      ∀ line, StandsInBlock (lines content) line → ¬LineClass.DeclaresScalar line) ∧
    ∀ (fs : List Filter) (t : Schema) (layout : Layout) (l : String),
      (∀ f ∈ fs, ∃ invert test, f.action = .remove invert test) →
      apply fs (Schema.ofText content) = .ok t → layout.preserving = true →
      OnlyInBlocks (lines content) l → (∀ d ∈ t.declarations, l ∉ d.fields) →
      (HasLine (t.render layout) l → LineClass.isScalar l = true ∨
        (∃ d ∈ t.declarations, ∃ m, layout.IsCaption d m ∧ HasLine m l) ∨
        EmptyInput.Joins (t.assemble layout) l) ∧
      (LineClass.DeclaresScalar l → EmptyInput.Free (t.assemble layout) →
        HasLine (t.render layout) l) := by
  refine ⟨(recordsOutside_iff (lines content)).2, fun h line hline hscalar => ?_,
    fun fs t layout l hremove h hlayout hl hgone => ?_⟩
  · have hnot := (recordsOutside_iff (lines content)).1 h line hline
    rw [hscalar.isScalar] at hnot
    cases hnot
  · have hne : l ≠ "" := LineClass.ne_empty_of_ofLine hl.plain (by simp)
    have hwritten := hasLine_assemble_iff hremove h hlayout hl hgone
    refine ⟨fun hline => ?_, fun hscalar hfree => ?_⟩
    · rcases hasLine_assemble_or_joins hne hline with hline | hjoins
      · exact (hwritten.1 hline).imp_right Or.inl
      · exact Or.inr (Or.inr hjoins)
    · exact hasLine_render_of_free hne hfree (hwritten.2 (Or.inl hscalar.isScalar))

/-- The filter that removes a line. -/
def lineRemoval (l : String) : Filter :=
  { action := .remove false (.selector { line := some (.exact [l]) }) }

/-- A line that stands only among fields is written though it is removed from all of them. -/
def Outlives (content l : String) : Prop :=
  OnlyInBlocks (lines content) l ∧ ∃ t, apply [lineRemoval l] (Schema.ofText content) = .ok t ∧
    (∀ d ∈ t.declarations, l ∉ d.fields) ∧ HasLine (t.render (.preserved false)) l

theorem onlyInBlocks_scalar :
    OnlyInBlocks (lines "type A \x7b\nscalar Foo\nb: Int\n\x7d\n") "scalar Foo" := by
  have hlines : lines "type A \x7b\nscalar Foo\nb: Int\n\x7d\n"
      = ["type A \x7b", "scalar Foo", "b: Int", "\x7d"] := by decide +kernel
  rw [hlines]
  exact OnlyInBlocks.of_opener (by decide +kernel) (by decide +kernel) (by decide)

/-- A scalar among fields, removed as a field and written all the same. -/
theorem outlives_scalar : Outlives "type A \x7b\nscalar Foo\nb: Int\n\x7d\n" "scalar Foo" := by
  let t := (run [lineRemoval "scalar Foo"]
    (Schema.ofText "type A \x7b\nscalar Foo\nb: Int\n\x7d\n")).1
  have happly : apply [lineRemoval "scalar Foo"]
      (Schema.ofText "type A \x7b\nscalar Foo\nb: Int\n\x7d\n") = .ok t :=
    apply_eq_ok_iff.2 ⟨by decide +kernel, rfl⟩
  have hgone : ∀ d ∈ t.declarations, "scalar Foo" ∉ d.fields := by decide +kernel
  obtain ⟨-, -, hwritten⟩ := recorded_and_written "type A \x7b\nscalar Foo\nb: Int\n\x7d\n"
  obtain ⟨-, hrender⟩ := hwritten [lineRemoval "scalar Foo"] t (.preserved false) "scalar Foo"
    (List.forall_mem_singleton.2 ⟨_, _, rfl⟩) happly rfl onlyInBlocks_scalar hgone
  exact ⟨onlyInBlocks_scalar, t, happly, hgone,
    hrender ⟨' ', "Foo".toList, by decide, by decide⟩ (by decide +kernel)⟩

theorem outlives_of_opener {content l : String} (opener : String) (after : List String)
    (hlines : lines content = opener :: l :: after) (hopener : LineClass.ofLine opener = .opener)
    (hl : LineClass.ofLine l = .plain) (hafter : l ∉ after)
    (hrun : let r := run [lineRemoval l] (Schema.ofText content)
      r.2.failure? = none ∧ (∀ d ∈ r.1.declarations, l ∉ d.fields) ∧
        HasLine (r.1.render (.preserved false)) l) : Outlives content l := by
  refine ⟨?_, _, apply_eq_ok_iff.2 ⟨hrun.1, rfl⟩, hrun.2⟩
  rw [hlines]
  exact OnlyInBlocks.of_opener hopener hl hafter

/-- A scalar among fields is recorded while their block is open, and outlives its removal. So does a
line that is also written for a comment, and one that comes back at the cut. -/
theorem outlives_in_three_ways :
    (Schema.ofText "type A \x7b\nscalar Foo\nb: Int\n\x7d\n").scalars = ["scalar Foo"] ∧
      ¬RecordsOutside (lines "type A \x7b\nscalar Foo\nb: Int\n\x7d\n") ∧
      Outlives "type A \x7b\nscalar Foo\nb: Int\n\x7d\n" "scalar Foo" ∧
      Outlives "type A \x7b\n  \"\"\" foo\"\"\"\n  #foo\n  b: Int\n\x7d\n" "  \"\"\" foo\"\"\"" ∧
      Outlives "type A \x7b\n  b: Int # \x7d\n  b: Int # input X \x7b\x7d\n\x7d\n"
        "  b: Int # \x7d" := by
  refine ⟨by decide +kernel, fun houtside => ?_, ?_, ?_, ?_⟩
  · have hnone := houtside ["type A \x7b"] "scalar Foo" ["b: Int", "\x7d"] (by decide +kernel)
      (by decide +kernel)
    exact absurd hnone (by decide +kernel)
  · exact outlives_of_opener "type A \x7b" ["b: Int", "\x7d"] (by decide +kernel)
      (by decide +kernel) (by decide +kernel) (by decide) (by decide +kernel)
  · exact outlives_of_opener "type A \x7b" ["  #foo", "  b: Int", "\x7d"] (by decide +kernel)
      (by decide +kernel) (by decide +kernel) (by decide) (by decide +kernel)
  · exact outlives_of_opener "type A \x7b" ["  b: Int # input X \x7b\x7d", "\x7d"]
      (by decide +kernel) (by decide +kernel) (by decide +kernel) (by decide) (by decide +kernel)

end Pipeline

end SchemaSieve
