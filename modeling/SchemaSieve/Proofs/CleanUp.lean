import SchemaSieve.Proofs.Cutting
import SchemaSieve.Proofs.DescriptionText

/-!
# Taking out empty inputs

The first empty input of a document is taken out of its text, not out of its declarations. This is
the same just when the text of that input is all that is found: it has neither a description nor
words after its name, and nothing ahead of it reads like it.
-/

namespace SchemaSieve

open Text EmptyInput

namespace Schema

/-- An `input` that is written with nothing in its body. -/
def isEmptyInput (layout : Layout) (d : Declaration) : Bool :=
  d.kind = .input && d.additions.isEmpty && (layout.fieldLines d).isEmpty

/-- The text of the declarations without the first empty input, and without leading line breaks. -/
def renderWithoutEmptyInput (s : Schema) (layout : Layout) : String :=
  dropLineBreaks (unlines
    ((s.declarations.eraseP (isEmptyInput layout)).flatMap (s.declarationLines layout)))

def textOf (s : Schema) (layout : Layout) (ds : List Declaration) : List Char :=
  (unlines (ds.flatMap (s.declarationLines layout))).toList

variable {s : Schema} {layout : Layout} {d : Declaration} {ds es : List Declaration}

@[simp] theorem textOf_nil : s.textOf layout [] = [] := rfl

theorem textOf_append : s.textOf layout (ds ++ es) = s.textOf layout ds ++ s.textOf layout es := by
  simp [textOf, unlines_append]

theorem textOf_cons :
    s.textOf layout (d :: ds) = s.textOf layout [d] ++ s.textOf layout ds :=
  @textOf_append s layout [d] ds

theorem toList_dropLineBreaks (text : String) :
    (dropLineBreaks text).toList = text.toList.dropWhile (· == '\n') := by
  simp [dropLineBreaks]

theorem toList_assemble (hmode : layout.preserving = false) :
    (s.assemble layout).toList = s.textOf layout s.declarations := by
  simp [assemble, documentLines, leadingLines, trailingLines, hmode, textOf]

theorem declarationLines_eq (hmode : layout.preserving = false) :
    s.declarationLines layout d = "" :: layout.descriptionLines d
      ++ d.header :: d.additions ++ layout.fieldLines d ++ ["\x7d"] := by
  have hhoisted : (layout.descriptionLines d).filter (!s.isHoisted layout ·)
      = layout.descriptionLines d := by
    simp [isHoisted, hmode]
  rw [declarationLines, hhoisted]

end Schema

theorem Text.splitWords_unlines_append (ls : List String) (cs : List Char) :
    splitWords [] ((unlines ls).toList ++ cs)
      = ls.flatMap (fun l => splitWords [] l.toList) ++ splitWords [] cs := by
  induction ls with
  | nil => rfl
  | cons l ls ih =>
      have hsplit : (unlines (l :: ls)).toList ++ cs
          = l.toList ++ '\n' :: ((unlines ls).toList ++ cs) := by
        simp
      rw [hsplit, splitWords_append_cons (by decide), ih, List.flatMap_cons, List.append_assoc]

/-- A line that holds something, from its beginning on. -/
def FilledLine (l : String) : Prop := isBlankText l = false ∧ l.toList.head? ≠ some '\n'

theorem Declaration.filledLine_header (d : Declaration) : FilledLine d.header := by
  refine ⟨isBlankText_eq_false_of_mem (c := '\x7b') ?_ (by decide), ?_⟩
  · rw [toList_header]
    simp
  · rw [toList_header, String.intercalate_cons_cons]
    cases d.kind <;> simp [Kind.keyword]

theorem FilledLine.exists_cons {l : String} (h : FilledLine l) :
    ∃ c cs, l.toList = c :: cs ∧ c ≠ '\n' := by
  cases hl : l.toList with
  | nil =>
      have hblank := h.1
      rw [isBlankText, hl] at hblank
      cases hblank
  | cons c cs =>
      refine ⟨c, cs, rfl, ?_⟩
      rintro rfl
      exact h.2 (by rw [hl]; rfl)

theorem DescribingLine.filledLine {content l : String} (h : DescribingLine (· ∈ lines content) l) :
    FilledLine l := by
  refine ⟨?_, fun hhead => (mem_of_mem_lines h.1 (List.mem_of_mem_head? hhead)).1 rfl⟩
  have hblank : LineClass.ofLine l ≠ .blank := h.pendingLine.1
  rwa [Ne, LineClass.ofLine_eq_blank_iff, Bool.not_eq_true] at hblank

theorem Captions.filledLine_quote (stripCommas : Bool) (text : String) :
    FilledLine (quote stripCommas text) := by
  refine ⟨isBlankText_eq_false_of_mem (c := '"') ?_ (by decide), ?_⟩
  · rw [toList_quote]
    simp
  · rw [toList_quote]
    simp

/-- The declaration is described by lines that hold something, and its opening line is made of
words. -/
structure Declaration.IsFilled (d : Declaration) : Prop where
  words : d.HasWords
  description : ∀ l ∈ d.description, FilledLine l

theorem Declaration.IsFilled.descriptionLines {d : Declaration} (h : d.IsFilled) {c : Captions}
    {l : String} (hl : l ∈ c.descriptionLines d) : FilledLine l := by
  unfold Captions.descriptionLines at hl
  split at hl
  · rw [List.mem_singleton.1 hl]
    exact Captions.filledLine_quote _ _
  · exact h.description l (List.mem_filter.1 hl).1

theorem Pipeline.isFilled_apply {content : String} {fs : List Filter} {s : Schema}
    (h : apply fs (Schema.ofText content) = .ok s) {e : Declaration} (he : e ∈ s.declarations) :
    e.IsFilled := by
  obtain ⟨d, hd, hopening⟩ := exists_of_mem_forall₂ (sameOpening_apply h) he
  have hread := isRead_of_mem_declarations hd
  rw [hopening]
  exact ⟨⟨hread.words.name, hread.words.clause⟩, fun l hl => (hread.description l hl).filledLine⟩

namespace Schema

variable {s : Schema} {layout : Layout} {d : Declaration} {ds : List Declaration}

theorem textOf_singleton (hmode : layout.preserving = false) :
    s.textOf layout [d] = '\n' :: ((unlines (layout.descriptionLines d)).toList
      ++ (d.header.toList ++ '\n' :: (unlines (d.additions ++ layout.fieldLines d)).toList))
        ++ ['\x7d', '\n'] := by
  simp [textOf, declarationLines_eq hmode, unlines_append]

theorem isPart_textOf (hmode : layout.preserving = false) (hd : d.IsFilled) :
    IsPart (s.textOf layout [d]) := by
  rw [textOf_singleton hmode]
  cases hdescription : layout.descriptionLines d with
  | nil =>
      obtain ⟨c, cs, hcs, hc⟩ := d.filledLine_header.exists_cons
      refine ⟨c, cs ++ '\n' :: (unlines (d.additions ++ layout.fieldLines d)).toList, ?_, hc⟩
      simp [hcs]
  | cons l ls =>
      have hmem : l ∈ layout.descriptionLines d := by simp [hdescription]
      have hl : FilledLine l := hd.descriptionLines hmem
      obtain ⟨c, cs, hcs, hc⟩ := hl.exists_cons
      refine ⟨c, cs ++ '\n' :: (unlines ls).toList ++ (d.header.toList
        ++ '\n' :: (unlines (d.additions ++ layout.fieldLines d)).toList), ?_, hc⟩
      simp [hcs]

theorem startsFresh_textOf (hmode : layout.preserving = false) (hds : ∀ d ∈ ds, d.IsFilled) :
    StartsFresh (s.textOf layout ds) := by
  induction ds with
  | nil => exact Or.inl rfl
  | cons d ds ih =>
      rw [textOf_cons]
      exact (isPart_textOf hmode (hds d (by simp))).startsFresh.append
        (ih fun e he => hds e (by simp [he]))

/-- Lines that hold something have a word among them, or a brace that is not the one of the opening
line. -/
theorem eq_nil_of_opened (hd : d.HasWords) {ls : List String} (hls : ∀ l ∈ ls, FilledLine l)
    {b : EmptyBlock} (h : b.opened = (unlines ls).toList ++ (d.header.toList ++ ['\n'])) :
    d.clause = [] ∧ ls = [] := by
  have hwords := congrArg (splitWords []) h
  rw [EmptyBlock.splitWords_opened, splitWords_unlines_append, splitWords_append_cons (by decide),
    Declaration.splitWords_header hd] at hwords
  have hlength := congrArg List.length hwords
  simp only [List.length_append, List.length_map, List.length_cons, List.length_nil,
    splitWords] at hlength
  have hnone : ls.flatMap (fun l => splitWords [] l.toList) = [] :=
    List.length_eq_zero_iff.1 (by omega)
  refine ⟨List.length_eq_zero_iff.1 (by omega), ?_⟩
  rw [List.eq_nil_iff_forall_not_mem]
  intro l hl
  obtain ⟨c, hc, hblank⟩ := List.all_eq_false.1 (hls l hl).1
  rw [Bool.not_eq_true] at hblank
  have hword : isWord c = false :=
    isWord_eq_false_of_splitWords (List.flatMap_eq_nil_iff.1 hnone l hl) c hc
  have hmem : c ∈ (unlines ls).toList := by
    obtain ⟨before, after, rfl⟩ := List.append_of_mem hl
    rw [unlines_append, unlines_cons]
    simp [hc]
  have hbrace : c = '\x7b' := by
    rcases EmptyBlock.of_mem_opened (h ▸ List.mem_append_left _ hmem) with hc | hc | hc
    · rw [hword] at hc
      cases hc
    · rw [hblank] at hc
      cases hc
    · exact hc
  -- The block has one opening brace, and it is that of the opening line.
  have hcount := congrArg (List.count '\x7b') h
  have hpos : 0 < (unlines ls).toList.count '\x7b' := List.count_pos_iff.2 (hbrace ▸ hmem)
  have hposHeader : 0 < d.header.toList.count '\x7b' := by
    rw [List.count_pos_iff, Declaration.toList_header]
    simp
  rw [b.count_opened, List.count_append, List.count_append] at hcount
  omega

/-- The opening line of an input without words after its name begins a block. -/
theorem exists_chars_eq_header (hd : d.HasWords) (hkind : d.kind = .input)
    (hclause : d.clause = []) :
    ∃ b : EmptyBlock, b.chars = d.header.toList ++ ['\n', '\x7d'] := by
  have hname := hd.name
  have hspace : ∀ c ∈ [' '], isBlank c = true := List.all_eq_true.1 (by decide)
  have hbreak : ∀ c ∈ ['\n'], isBlank c = true := List.all_eq_true.1 (by decide)
  refine ⟨⟨[' '], d.name.toList, [' '], ['\n'], by simp, by simpa using hname.1, hspace, hname.2,
    hspace, hbreak⟩, ?_⟩
  rw [Declaration.toList_header, hclause, hkind]
  simp [EmptyBlock.chars, EmptyBlock.opened, Declaration.clauseParts, Kind.keyword]

/-- An empty input is written as a block just when it has neither a description nor words after its
name. -/
theorem exists_block_iff (hmode : layout.preserving = false) (hd : d.IsFilled)
    (hempty : isEmptyInput layout d = true) :
    (∃ b : EmptyBlock, s.textOf layout [d] = '\n' :: (b.chars ++ ['\n'])) ↔
      d.clause = [] ∧ layout.descriptionLines d = [] := by
  obtain ⟨⟨hkind, hadditions⟩, hfields⟩ :
      (d.kind = .input ∧ d.additions = []) ∧ layout.fieldLines d = [] := by
    simpa [isEmptyInput] using hempty
  rw [textOf_singleton hmode, hadditions, hfields]
  constructor
  · rintro ⟨b, hb⟩
    have hsplit : ((unlines (layout.descriptionLines d)).toList ++ (d.header.toList ++ ['\n']))
        ++ ['\x7d', '\n'] = b.opened ++ ['\x7d', '\n'] := by
      simpa [EmptyBlock.chars] using (List.cons.inj hb).2
    exact eq_nil_of_opened hd.words (fun l hl => hd.descriptionLines hl)
      (List.append_cancel_right hsplit).symm
  · rintro ⟨hclause, hdescription⟩
    obtain ⟨b, hb⟩ := exists_chars_eq_header hd.words hkind hclause
    refine ⟨b, ?_⟩
    rw [hdescription, hb]
    simp

theorem toList_remove (text : String) :
    (remove text).toList = (cut? false text.toList).getD text.toList := by
  rw [remove]
  cases cut? false text.toList <;> simp

theorem toList_render (hmode : layout.preserving = false) :
    (s.render layout).toList
      = ((cut? false (s.textOf layout s.declarations)).getD
          (s.textOf layout s.declarations)).dropWhile (· == '\n') := by
  rw [render, toList_dropLineBreaks, toList_remove, toList_assemble hmode]

theorem toList_renderWithoutEmptyInput :
    (s.renderWithoutEmptyInput layout).toList
      = (s.textOf layout (s.declarations.eraseP (isEmptyInput layout))).dropWhile (· == '\n') :=
  toList_dropLineBreaks _

theorem toList_unlines_copies (k : Nat) (ls : List String) :
    (unlines (List.replicate k ls).flatten).toList
      = (List.replicate k (unlines ls).toList).flatten := by
  induction k with
  | zero => rfl
  | succ k ih =>
      rw [List.replicate_succ, List.flatten_cons, unlines_append, String.toList_append, ih,
        List.replicate_succ, List.flatten_cons]

theorem cut?_eq_none_of_render_eq (hmode : layout.preserving = false)
    (hfilled : ∀ d ∈ s.declarations, d.IsFilled)
    (hnone : ∀ d ∈ s.declarations, ¬isEmptyInput layout d = true)
    (h : s.render layout = s.renderWithoutEmptyInput layout) :
    cut? false (s.textOf layout s.declarations) = none := by
  have hlist := congrArg String.toList h
  rw [toList_render hmode, toList_renderWithoutEmptyInput, List.eraseP_of_forall_not hnone] at hlist
  cases hcut : cut? false (s.textOf layout s.declarations) with
  | none => rfl
  | some rest =>
      rw [hcut, Option.getD_some] at hlist
      exact absurd hlist (dropWhile_ne_of_cut? (startsFresh_textOf hmode hfilled) hcut)

/-- Where there is an empty input, it is a block, and what is ahead of it holds no other block but
copies of it. -/
theorem copies_of_render_eq (hmode : layout.preserving = false)
    (hfilled : ∀ d ∈ s.declarations, d.IsFilled) {before after : List Declaration}
    (hsplit : s.declarations = before ++ d :: after)
    (herase : s.declarations.eraseP (isEmptyInput layout) = before ++ after)
    (h : s.render layout = s.renderWithoutEmptyInput layout) :
    ∃ b : EmptyBlock, s.textOf layout [d] = '\n' :: (b.chars ++ ['\n']) ∧
      ∃ head k, s.textOf layout before
        = head ++ (List.replicate k (s.textOf layout [d])).flatten ∧ cut? false head = none := by
  have hlist := congrArg String.toList h
  have hbefore : StartsFresh (s.textOf layout before) :=
    startsFresh_textOf hmode fun e he => hfilled e (by simp [hsplit, he])
  have hafter : StartsFresh (s.textOf layout after) :=
    startsFresh_textOf hmode fun e he => hfilled e (by simp [hsplit, he])
  have hd : IsPart (s.textOf layout [d]) := isPart_textOf hmode (hfilled d (by simp [hsplit]))
  rw [toList_render hmode, toList_renderWithoutEmptyInput, herase, hsplit, textOf_append,
    textOf_append, textOf_cons] at hlist
  cases hcut : cut? false
      (s.textOf layout before ++ (s.textOf layout [d] ++ s.textOf layout after)) with
  | none =>
      rw [hcut, Option.getD_none] at hlist
      exact absurd hlist (dropWhile_ne_of_isPart hbefore hafter hd)
  | some rest =>
      rw [hcut, Option.getD_some] at hlist
      exact copies_of_dropWhile_eq hbefore hafter hd hcut hlist

theorem render_eq_of_copies (hmode : layout.preserving = false) {before after : List Declaration}
    (hsplit : s.declarations = before ++ d :: after)
    (herase : s.declarations.eraseP (isEmptyInput layout) = before ++ after) {b : EmptyBlock}
    (hd : s.textOf layout [d] = '\n' :: (b.chars ++ ['\n'])) {head : List Char} {k : Nat}
    (hcopies : s.textOf layout before = head ++ (List.replicate k (s.textOf layout [d])).flatten)
    (hfree : cut? false head = none) : s.render layout = s.renderWithoutEmptyInput layout := by
  rw [← String.toList_inj, toList_render hmode, toList_renderWithoutEmptyInput, herase, hsplit,
    textOf_append, textOf_append, textOf_cons, hcopies,
    cut?_copies hfree b hd k (s.textOf layout after), Option.getD_some]

end Schema

/-- The text of a document that was read and filtered is the one without its first empty input just
when there is none and none is found, or when the first one has neither a description nor words
after its name, and none is found ahead of it, copies of it at the end apart. -/
theorem render_eq_renderWithoutEmptyInput_iff {content : String} {fs : List Filter} {s : Schema}
    (happly : Pipeline.apply fs (Schema.ofText content) = .ok s) {layout : Layout}
    (hmode : layout.preserving = false) :
    s.render layout = s.renderWithoutEmptyInput layout ↔
      ((∀ d ∈ s.declarations, ¬Schema.isEmptyInput layout d = true) ∧ Free (s.assemble layout)) ∨
        ∃ before d after, s.declarations = before ++ d :: after ∧
          (∀ e ∈ before, ¬Schema.isEmptyInput layout e = true) ∧
          Schema.isEmptyInput layout d = true ∧
          d.clause = [] ∧ layout.descriptionLines d = [] ∧
          ∃ head k, unlines (before.flatMap (s.declarationLines layout))
              = head ++ unlines (List.replicate k (s.declarationLines layout d)).flatten ∧
            Free head := by
  have hfilled : ∀ d ∈ s.declarations, d.IsFilled := fun d hd => Pipeline.isFilled_apply happly hd
  constructor
  · intro h
    by_cases hnone : ∀ d ∈ s.declarations, ¬Schema.isEmptyInput layout d = true
    · refine Or.inl ⟨hnone, ?_⟩
      rw [Free, Schema.toList_assemble hmode]
      exact Schema.cut?_eq_none_of_render_eq hmode hfilled hnone h
    · simp only [not_forall, not_not] at hnone
      obtain ⟨a, ha, hempty⟩ := hnone
      obtain ⟨d, before, after, hbefore, hd, hsplit, herase⟩ := List.exists_of_eraseP ha hempty
      obtain ⟨b, hblock, head, k, hcopies, hfree⟩ :=
        Schema.copies_of_render_eq hmode hfilled hsplit herase h
      obtain ⟨hclause, hdescription⟩ :=
        (Schema.exists_block_iff hmode (hfilled d (by simp [hsplit])) hd).1 ⟨b, hblock⟩
      refine Or.inr ⟨before, d, after, hsplit, hbefore, hd, hclause, hdescription,
        String.ofList head, k, ?_, by simpa [Free] using hfree⟩
      rw [← String.toList_inj, String.toList_append, Schema.toList_unlines_copies,
        String.toList_ofList]
      simpa [Schema.textOf] using hcopies
  · rintro (⟨hnone, hfree⟩ | ⟨before, d, after, hsplit, hbefore, hd, hclause, hdescription, head, k,
      hcopies, hfree⟩)
    · rw [Schema.render, remove_of_free hfree, Schema.renderWithoutEmptyInput,
        List.eraseP_of_forall_not hnone, ← String.toList_inj, Schema.toList_dropLineBreaks,
        Schema.toList_dropLineBreaks, Schema.toList_assemble hmode]
      rfl
    · have herase : s.declarations.eraseP (Schema.isEmptyInput layout) = before ++ after := by
        rw [hsplit, List.eraseP_append_right _ hbefore, List.eraseP_cons_of_pos hd]
      obtain ⟨b, hblock⟩ := (Schema.exists_block_iff (s := s) hmode
        (hfilled d (by simp [hsplit])) hd).2 ⟨hclause, hdescription⟩
      have hlist : s.textOf layout before
          = head.toList ++ (List.replicate k (s.textOf layout [d])).flatten := by
        have htext := congrArg String.toList hcopies
        rw [String.toList_append, Schema.toList_unlines_copies] at htext
        simpa [Schema.textOf] using htext
      exact Schema.render_eq_of_copies hmode hsplit herase hblock hlist hfree

/-- The first of two empty inputs is taken out. -/
theorem render_of_two_empty_inputs :
    let content := "type A \x7b\n  a: Int\n\x7d\ninput I \x7b\n\x7d\ninput J \x7b\n\x7d\n"
    let s := (Pipeline.run [] (Schema.ofText content)).1
    s.render {} = s.renderWithoutEmptyInput {} ∧
      s.render {} = "type A \x7b\n  a: Int\n\x7d\n\ninput J \x7b\n\x7d\n" := by
  intro content s
  have happly : Pipeline.apply [] (Schema.ofText content) = .ok s :=
    Pipeline.apply_eq_ok_iff.2 ⟨by decide +kernel, rfl⟩
  have hsplit : s.declarations
      = [{ kind := .type, name := "A", fields := ["  a: Int"] }]
        ++ { kind := .input, name := "I" } :: [{ kind := .input, name := "J" }] := by
    decide +kernel
  have hcopies : unlines ([({ kind := .type, name := "A", fields := ["  a: Int"] } :
      Declaration)].flatMap (s.declarationLines {}))
      = "\ntype A \x7b\n  a: Int\n\x7d\n" ++ unlines (List.replicate 0
          (s.declarationLines {} { kind := .input, name := "I" })).flatten := by
    decide +kernel
  have hrender : s.render {} = s.renderWithoutEmptyInput {} :=
    (render_eq_renderWithoutEmptyInput_iff happly rfl).2 (Or.inr
      ⟨_, _, _, hsplit, by decide +kernel, by decide, rfl, rfl, _, 0, hcopies, by decide⟩)
  exact ⟨hrender, hrender.trans (by decide +kernel)⟩

/-- A comment behind a field reads like an empty input: it is cut off, and the next field is joined
to what is left, though there is no `input` at all. -/
theorem render_of_input_in_comment :
    let content := "type A \x7b\n  a: Int # input X \x7b\x7d\n  b: Int\n\x7d\n"
    let s := Schema.ofText content
    Pipeline.apply [] s = .ok s ∧
      (∀ d ∈ s.declarations, Schema.isEmptyInput {} d = false) ∧
      s.renderWithoutEmptyInput {} = content ∧
      s.render {} = "type A \x7b\n  a: Int #   b: Int\n\x7d\n" ∧
      s.render {} ≠ s.renderWithoutEmptyInput {} := by
  intro content s
  refine ⟨Pipeline.apply_eq_ok_iff.2 ⟨by decide +kernel, by decide +kernel⟩, ?_⟩
  decide +kernel

end SchemaSieve
