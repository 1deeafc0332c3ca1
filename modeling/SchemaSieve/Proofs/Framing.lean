import SchemaSieve.Proofs.CleanUp
import SchemaSieve.Proofs.Passing

/-!
# Where the written text begins and ends

Every line of a document is ended by a line break, but the cut of an empty input may take one on
either side. So a text never begins with a line break, and it ends with one unless the empty input
that is cut out stands at the end: then the line ahead of it is left without its line break.
-/

namespace SchemaSieve

open Text EmptyInput

/-- A text that is empty, or begins with something other than a line break and ends with one. -/
def Text.IsFramed (text : String) : Prop :=
  text = "" ∨ text.toList.head? ≠ some '\n' ∧ text.toList.getLast? = some '\n'

instance (text : String) : Decidable (IsFramed text) := inferInstanceAs (Decidable (_ ∨ _))

theorem Text.getLast?_unlines {ls : List String} {c : Char}
    (hc : c ∈ (unlines ls).toList.getLast?) : c = '\n' := by
  rcases List.eq_nil_or_concat ls with rfl | ⟨ls, l, rfl⟩
  · simp at hc
  · have htext : (unlines (ls ++ [l])).toList = (unlines ls ++ l).toList ++ ['\n'] := by
      simp [unlines_append]
    rw [List.concat_eq_append, htext, List.getLast?_concat] at hc
    exact (Option.some.inj hc).symm

namespace EmptyInput

variable {text : String} {cs rest : List Char}

/-- The first empty input of a text is its end, and it is cut out with the line break behind what
stands ahead of it, or from the line that this stands in. -/
def TakesLastBreak (text : String) : Prop :=
  ∃ (ahead gap : List Char) (c : Char) (b : EmptyBlock),
    text.toList = ahead ++ c :: (gap ++ (b.chars ++ ['\n'])) ∧ c ≠ '\n' ∧
      (gap = [] ∧ isWord c = false ∨ gap = ['\n']) ∧ cut? false (ahead ++ [c]) = none

theorem cut?_of_takesLastBreak (h : TakesLastBreak text) :
    ∃ ahead c, cut? false text.toList = some (ahead ++ [c]) ∧ c ≠ '\n' := by
  obtain ⟨ahead, gap, c, b, htext, hbreak, hgap, hfree⟩ := h
  refine ⟨ahead, c, ?_, hbreak⟩
  rw [htext]
  rcases hgap with ⟨rfl, hc⟩ | rfl
  · exact cut?_append_cons_chars hbreak hc hfree b ['\n']
  · have hcut := cut?_append_chars hfree b ['\n']
    simpa [dropBreak] using hcut

/-- The cut leaves a line without its line break only where it takes the end of the text. -/
theorem takesLastBreak_of_cut? (hcs : text.toList.getLast? = some '\n')
    (hcut : cut? false text.toList = some rest) {c : Char} (hc : c ∈ rest.getLast?)
    (hbreak : c ≠ '\n') : TakesLastBreak text := by
  obtain ⟨before, lead, b, after, htext, hlead, rfl, hbefore⟩ := exists_block_of_cut? hcut
  have hafter : after.getLast? = some '\n' := by
    cases hcases : after.getLast? with
    | none =>
        rw [List.getLast?_eq_none_iff] at hcases
        rw [htext, hcases, EmptyBlock.chars] at hcs
        simp at hcs
    | some d =>
        rw [htext, ← List.append_assoc, ← List.append_assoc, List.getLast?_append, hcases] at hcs
        exact hcs
  obtain ⟨trail, htrail, hsplit⟩ := exists_dropBreak after
  have hnone : dropBreak after = [] := by
    cases hleft : (dropBreak after).getLast? with
    | none => exact List.getLast?_eq_none_iff.1 hleft
    | some d =>
        have hlast : d = '\n' := by
          rw [hsplit, List.getLast?_append, hleft] at hafter
          exact Option.some.inj hafter
        rw [List.getLast?_append, hleft] at hc
        exact absurd ((Option.some.inj hc).symm.trans hlast) hbreak
  rw [hnone, List.append_nil] at hc hsplit
  have htrail' : trail = ['\n'] := by
    rcases htrail with rfl | rfl
    · rw [hsplit] at hafter
      cases hafter
    · rfl
  obtain ⟨ahead, rfl⟩ := List.getLast?_eq_some_iff.1 hc
  refine ⟨ahead, lead, c, b, ?_, hbreak, ?_, hbefore⟩
  · rw [htext, hsplit, htrail']
    simp
  · exact hlead.imp_left fun h => ⟨h.1, by simpa using h.2⟩

/-- What is left of a text that ends its last line has its line break, unless the cut takes it. -/
theorem takesLastBreak_iff (h : ∀ c ∈ text.toList.getLast?, c = '\n') :
    TakesLastBreak text ↔ ∃ c ∈ (remove text).toList.getLast?, c ≠ '\n' := by
  rw [Schema.toList_remove]
  constructor
  · intro htakes
    obtain ⟨ahead, c, hcut, hbreak⟩ := cut?_of_takesLastBreak htakes
    refine ⟨c, ?_, hbreak⟩
    rw [hcut, Option.getD_some, List.getLast?_concat]
    rfl
  · rintro ⟨c, hc, hbreak⟩
    cases hcut : cut? false text.toList with
    | none =>
        rw [hcut, Option.getD_none] at hc
        exact absurd (h c hc) hbreak
    | some rest =>
        rw [hcut, Option.getD_some] at hc
        cases hlast : text.toList.getLast? with
        | none =>
            rw [List.getLast?_eq_none_iff.1 hlast] at hcut
            cases hcut
        | some d =>
            obtain rfl := h d hlast
            exact takesLastBreak_of_cut? hlast hcut hc hbreak

end EmptyInput

namespace Schema

variable {s : Schema} {layout : Layout}

theorem head?_dropLineBreaks (text : String) :
    (dropLineBreaks text).toList.head? ≠ some '\n' := by
  rw [toList_dropLineBreaks]
  intro hhead
  have hnot := List.head?_dropWhile_not (· == '\n') text.toList
  rw [hhead] at hnot
  cases hnot

/-- Dropping the line breaks at the beginning of a text leaves a framed one, unless the text ends in
something else than a line break. -/
theorem isFramed_dropLineBreaks_iff (text : String) :
    IsFramed (dropLineBreaks text) ↔ ∀ c ∈ text.toList.getLast?, c = '\n' := by
  have hsplit := List.takeWhile_append_dropWhile (p := (· == '\n')) (l := text.toList)
  rw [← toList_dropLineBreaks] at hsplit
  have hbreaks : ∀ c ∈ text.toList.takeWhile (· == '\n'), c = '\n' := fun c hc => by
    simpa using List.mem_takeWhile_imp hc
  cases hlast : (dropLineBreaks text).toList.getLast? with
  | none =>
      rw [List.getLast?_eq_none_iff] at hlast
      rw [hlast, List.append_nil] at hsplit
      rw [hsplit] at hbreaks
      refine iff_of_true (Or.inl (String.toList_eq_nil_iff.1 hlast)) fun c hc => ?_
      exact hbreaks c (List.mem_of_getLast? hc)
  | some d =>
      have hne : dropLineBreaks text ≠ "" := by
        intro hempty
        simp [hempty] at hlast
      rw [← hsplit, List.getLast?_append, hlast, IsFramed, or_iff_right hne, hlast,
        and_iff_right (head?_dropLineBreaks text)]
      simp

theorem isFramed_render_iff_remove :
    IsFramed (s.render layout) ↔ ∀ c ∈ (remove (s.assemble layout)).toList.getLast?, c = '\n' :=
  isFramed_dropLineBreaks_iff _

/-- A line above a declaration ends in something other than a line break. -/
theorem exists_getLast?_descriptionLines {content : String} {fs : List Filter}
    (happly : Pipeline.apply fs (ofText content) = .ok s) {d : Declaration}
    (hd : d ∈ s.declarations) {l : String} (hl : l ∈ layout.descriptionLines d) :
    ∃ c ∈ l.toList.getLast?, c ≠ '\n' := by
  unfold Captions.descriptionLines at hl
  split at hl
  · refine ⟨'"', ?_, by decide⟩
    rw [List.mem_singleton.1 hl, Captions.toList_quote, List.getLast?_append, List.getLast?_append]
    rfl
  · obtain ⟨e, he, hopening⟩ := exists_of_mem_forall₂ (Pipeline.sameOpening_apply happly) hd
    obtain ⟨hmem, hne⟩ := List.mem_filter.1 hl
    rw [hopening] at hmem
    obtain ⟨cs, c, hcs⟩ := (List.eq_nil_or_concat' l.toList).resolve_left (by simpa using hne)
    refine ⟨c, by simp [hcs], ?_⟩
    have hline := ((isRead_of_mem_declarations he).description l hmem).1
    exact (mem_of_mem_lines hline (by simp [hcs])).1

/-- Behind all other declarations an empty input is cut out with the line break ahead of it, and
this is the end of its description if it has one. -/
theorem isFramed_render_of_emptyInput {content : String} {fs : List Filter}
    (happly : Pipeline.apply fs (ofText content) = .ok s) (hmode : layout.preserving = false)
    {ds : List Declaration} {d : Declaration} (hsplit : s.declarations = ds ++ [d])
    (hempty : isEmptyInput layout d = true) (hclause : d.clause = [])
    (hfree : Free (unlines
      (ds.flatMap (s.declarationLines layout) ++ "" :: layout.descriptionLines d))) :
    IsFramed (s.render layout) ↔ layout.descriptionLines d = [] := by
  have hd : d ∈ s.declarations := by simp [hsplit]
  obtain ⟨ls, l, hls⟩ := (List.eq_nil_or_concat' ("" :: layout.descriptionLines d)).resolve_left
    (List.cons_ne_nil _ _)
  obtain ⟨⟨hkind, hadditions⟩, hfields⟩ :
      (d.kind = .input ∧ d.additions = []) ∧ layout.fieldLines d = [] := by
    simpa [isEmptyInput] using hempty
  obtain ⟨b, hb⟩ :=
    exists_chars_eq_header (Pipeline.isFilled_apply happly hd).words hkind hclause
  have hahead : (unlines (ds.flatMap (s.declarationLines layout)
      ++ "" :: layout.descriptionLines d)).toList
        = (unlines (ds.flatMap (s.declarationLines layout) ++ ls) ++ l).toList ++ ['\n'] := by
    rw [hls, ← List.append_assoc]
    simp [unlines_append]
  have htext : (s.assemble layout).toList
      = (unlines (ds.flatMap (s.declarationLines layout)
          ++ "" :: layout.descriptionLines d)).toList ++ (b.chars ++ ['\n']) := by
    rw [toList_assemble hmode, hsplit, textOf_append, textOf_singleton hmode, hadditions, hfields,
      hb]
    simp [textOf, unlines_append]
  rw [Free, hahead] at hfree
  rw [hahead, List.append_assoc, List.singleton_append] at htext
  have hremove : (remove (s.assemble layout)).toList
      = (unlines (ds.flatMap (s.declarationLines layout) ++ ls) ++ l).toList := by
    rw [toList_remove, htext, cut?_append_chars (cut?_of_append hfree)]
    simp [dropBreak]
  rw [isFramed_render_iff_remove, hremove]
  cases ls with
  | nil =>
      obtain ⟨rfl, hdescription⟩ := List.cons.inj hls
      refine iff_of_true (fun c hc => ?_) hdescription
      rw [String.append_empty] at hc
      exact getLast?_unlines hc
  | cons l' ls =>
      have hdescription : layout.descriptionLines d = ls ++ [l] := (List.cons.inj hls).2
      have hl : l ∈ layout.descriptionLines d := by simp [hdescription]
      obtain ⟨c, hc, hbreak⟩ := exists_getLast?_descriptionLines happly hd hl
      refine iff_of_false (fun hall => hbreak (hall c ?_)) (by simp [hdescription])
      rw [String.toList_append, List.getLast?_append, Option.mem_def.1 hc]
      rfl

/-- **A written text is framed unless the cut takes its last line break.** It never begins with a
line break. Where the last declaration is an empty input and the first to be found, its description
is what decides. -/
theorem isFramed_render_iff (s : Schema) (layout : Layout) :
    (s.render layout).toList.head? ≠ some '\n' ∧
      (IsFramed (s.render layout) ↔ ¬TakesLastBreak (s.assemble layout)) ∧
      ∀ content fs, Pipeline.apply fs (ofText content) = .ok s → layout.preserving = false →
        ∀ ds d, s.declarations = ds ++ [d] → isEmptyInput layout d = true → d.clause = [] →
          Free (unlines
            (ds.flatMap (s.declarationLines layout) ++ "" :: layout.descriptionLines d)) →
          (IsFramed (s.render layout) ↔ layout.descriptionLines d = []) := by
  refine ⟨head?_dropLineBreaks _, ?_, ?_⟩
  · rw [isFramed_render_iff_remove, assemble, takesLastBreak_iff fun c hc => getLast?_unlines hc]
    simp only [not_exists, not_and, not_not]
  · intro content fs happly hmode ds d hsplit hempty hclause hfree
    exact isFramed_render_of_emptyInput happly hmode hsplit hempty hclause hfree

/-- An empty input without a description leaves the line break of the line ahead of it. -/
theorem isFramed_render_of_undescribed_empty_input :
    let content := "type A \x7b\n  a: Int\n\x7d\ninput I \x7b\n\x7d\n"
    let s := ofText content
    Pipeline.apply [] s = .ok s ∧ s.render {} = "type A \x7b\n  a: Int\n\x7d\n" ∧
      IsFramed (s.render {}) := by
  intro content s
  have hdeclarations : s.declarations
      = [{ kind := .type, name := "A", fields := ["  a: Int"] }]
        ++ [{ kind := .input, name := "I" }] := by
    decide +kernel
  have hfree : Free (unlines (["", "type A \x7b", "  a: Int", "\x7d"] ++ [""])) := by
    decide +kernel
  obtain ⟨-, -, hlast⟩ := isFramed_render_iff s {}
  refine ⟨Pipeline.apply_nil s, by decide +kernel, ?_⟩
  exact (hlast content [] (Pipeline.apply_nil s) rfl _ _ hdeclarations (by decide) rfl hfree).2 rfl

/-- The description of an empty input stays behind, and the line break at its end does not. -/
theorem render_of_described_empty_input :
    let content := "type A \x7b\n  a: Int\n\x7d\n# about I\ninput I \x7b\n\x7d\n"
    let s := ofText content
    Pipeline.apply [] s = .ok s ∧
      s.render {} = "type A \x7b\n  a: Int\n\x7d\n\n# about I" ∧ ¬IsFramed (s.render {}) := by
  intro content s
  have hrender : s.render {} = "type A \x7b\n  a: Int\n\x7d\n\n# about I" := by decide +kernel
  refine ⟨Pipeline.apply_nil s, hrender, ?_⟩
  rw [hrender]
  decide

end Schema

end SchemaSieve
