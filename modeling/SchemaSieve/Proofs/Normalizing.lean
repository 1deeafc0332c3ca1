import SchemaSieve.Proofs.Passing
import SchemaSieve.Proofs.PreservedText

/-!
# Writing a written text again

A text in the layout that keeps all lines is the same when it is read and written again. The
scalars come back as lines that describe the first declaration, or as lines that are left over
where there is none, and are taken out of there once more; all other lines are read as what they
were written as.
-/

namespace SchemaSieve

open Text

namespace Reader

/-- Behind the header a text is read as if its body had begun before. -/
theorem run_start {r : Reader} {ls : List String}
    (h : ∀ l, (filledLines ls).head? = some l → LineClass.isComment l = false) :
    (r.run ls).1.place = ({ r with inBody := true }.run ls).1.place ∧
      (r.run ls).2 = ({ r with inBody := true }.run ls).2 := by
  induction ls generalizing r with
  | nil => exact ⟨rfl, rfl⟩
  | cons line ls ih =>
      cases hblank : isBlankText line with
      | true =>
          have hclass := LineClass.ofLine_eq_blank_iff.2 hblank
          rw [filledLines_cons_of_blank hblank] at h
          rw [run_cons, run_cons, step_blank hclass, step_blank hclass]
          exact ih (r := { r with lineCount := r.lineCount + 1 }) h
      | false =>
          have hcomment : LineClass.isComment line = false :=
            h line (by rw [filledLines_cons_of_filled hblank, List.head?_cons])
          rw [run_cons, run_cons, step_start (by simp [LineClass.ofLine_eq_blank_iff, hblank])
            (by simp [LineClass.ofLine_eq_comment_iff, hcomment])]
          exact ⟨rfl, rfl⟩

end Reader

namespace Schema

variable {content : String} {stripCommas : Bool}

theorem reads_spaced {ls : List String} (h : ∀ l ∈ ls, DescribingLine (· ∈ lines content) l)
    (before : List String) :
    Reads (.outside before) (spaced ls) (.outside (before ++ ls)) [] := by
  have hkept : keptLines ls = ls := by
    refine keptLines_eq_self fun l hl => ?_
    rcases (h l hl).2 with hl | hl <;> simp [hl]
  have hpending := Reads.pending (fun l hl => (h l hl).pendingLine) before
  rw [hkept] at hpending
  cases ls with
  | nil => exact hpending
  | cons l ls => exact (Reads.blank rfl (.outside before)).cons hpending

/-- Plain lines at the beginning describe the first declaration. -/
theorem reads_parts (hreturn : '\r' ∉ content.toList) {before after : List String}
    {ds : List Declaration} (hbefore : ∀ l ∈ before, LineClass.ofLine l = .plain)
    (hds : ∀ d ∈ ds, d.IsRead (· ∈ lines content))
    (hafter : ∀ l ∈ after, DescribingLine (· ∈ lines content) l) :
    Reads (.outside [])
      (before ++ (ds.map Written.verbatim).flatMap (fun w => "" :: w.lines) ++ spaced after)
      (.outside ((if ds.isEmpty then before else []) ++ after))
      (ds.modifyHead (·.describedAfter before)) := by
  have hfirst := Reads.pending (fun l hl => BodyLine.pendingLine (Or.inl (hbefore l hl))) []
  rw [keptLines_eq_self fun l hl => by simp [hbefore l hl], List.nil_append] at hfirst
  have hsound : ∀ w ∈ ds.map Written.verbatim, w.IsSound := by
    intro w hw
    obtain ⟨d, hd, rfl⟩ := List.mem_map.1 hw
    exact (hds d hd).isSound_verbatim hreturn
  have hblocks := Written.reads_all hsound before
  rw [Written.readAll_verbatim_after hds] at hblocks
  simpa using (hfirst.append hblocks).append (reads_spaced hafter _)

theorem reads_preservedBody (hreturn : '\r' ∉ content.toList)
    (hfields : ∀ d ∈ (ofText content).declarations, ∀ l ∈ d.fields,
      (trim l).toList.head? ≠ some '#')
    (hscalars : ScalarsApart (lines content)) :
    Reads (.outside []) ((ofText content).preservedBody stripCommas)
      (.outside ((if (ofText content).declarations.isEmpty then (ofText content).scalars else [])
        ++ dropScalars (ofText content).trailing))
      (((ofText content).declarations.map Declaration.hoisted).modifyHead
        (·.describedAfter (ofText content).scalars)) := by
  have hplain : ∀ l ∈ (ofText content).scalars, LineClass.ofLine l = .plain := by
    intro l hl
    rw [scalars_ofText] at hl
    obtain ⟨hmem, hscalar⟩ := List.mem_filter.1 hl
    exact hscalars.ofLine_eq_plain hmem hscalar
  have hread : ∀ d ∈ (ofText content).declarations.map Declaration.hoisted,
      d.IsRead (· ∈ lines content) := by
    intro e he
    obtain ⟨d, hd, rfl⟩ := List.mem_map.1 he
    exact (isRead_of_mem_declarations hd).hoisted
  have hlines : ((ofText content).declarations.flatMap fun d =>
      "" :: (written (.preserved stripCommas) d.hoisted).lines)
      = (((ofText content).declarations.map Declaration.hoisted).map Written.verbatim).flatMap
          fun w => "" :: w.lines := by
    rw [List.flatMap_map, List.flatMap_map]
    refine List.flatMap_congr fun d hd => ?_
    rw [(isRead_of_mem_declarations hd).hoisted.written_eq rfl (hfields d hd)]
  have hafter : ∀ l ∈ dropScalars (ofText content).trailing,
      DescribingLine (· ∈ lines content) l := fun l hl =>
    describingLine_of_mem_trailing (List.mem_filter.1 hl).1
  have hparts := reads_parts hreturn hplain hread hafter
  rw [List.isEmpty_map] at hparts
  rw [preservedBody, hlines]
  exact hparts

/-- A text is a header, and behind it what leads to some declarations and leaves some lines over. -/
theorem ofText_of_reads {header body pending : List String} {ds : List Declaration}
    (hlines : lines content = header ++ body)
    (hheader : ∀ l ∈ header, LineClass.ofLine l = .comment)
    (hfirst : ∀ l, (filledLines body).head? = some l → LineClass.isComment l = false)
    (hreads : Reads (.outside []) body (.outside pending) ds) :
    (ofText content).header = header ∧
      (ofText content).declarations = (ds.foldl insert {}).declarations ∧
      (ofText content).trailing = pending := by
  obtain ⟨hplace, hitems⟩ := Reader.run_start (r := { lineCount := header.length }) hfirst
  obtain ⟨hafter, hdeclared⟩ := hreads { lineCount := header.length, inBody := true } rfl rfl
  have hnone := (Reader.run_inBody (r := { lineCount := header.length, inBody := true }) rfl
    body).2
  have hrun : Reader.run {} (lines content)
      = ((Reader.run { lineCount := header.length } body).1,
          header.map .header ++ (Reader.run { lineCount := header.length } body).2) := by
    rw [hlines, Reader.run_append, Reader.run_header rfl hheader, Nat.zero_add]
  refine ⟨?_, ?_, ?_⟩
  · rw [header_ofText, hrun, hitems, List.filterMap_append, hnone]
    simp [Item.header?, List.filterMap_map, Function.comp_def]
  · rw [declarations_ofText, hrun, hitems, List.filterMap_append, hdeclared]
    simp [Item.declaration?, List.filterMap_map, Function.comp_def]
  · exact trailing_ofText (by rw [hrun, hplace, hafter])

/-- The line breaks that are dropped at the beginning of a text stand behind no header. -/
theorem filledLines_drop_header (hreturn : '\r' ∉ content.toList)
    (hfree : EmptyInput.Free ((ofText content).assemble (.preserved stripCommas))) :
    filledLines ((lines ((ofText content).render (.preserved stripCommas))).drop
        (ofText content).header.length)
      = filledLines ((ofText content).preservedBody stripCommas) := by
  rw [lines_render_preserved hreturn hfree, documentLines_ofText]
  cases hheader : (ofText content).header with
  | nil => exact filledLines_dropWhile _
  | cons l ls =>
      have hl : LineClass.ofLine l = .comment :=
        (mem_header_ofText (by rw [hheader]; exact List.mem_cons_self)).2
      have hne : l ≠ "" := LineClass.ne_empty_of_ofLine hl (by simp)
      rw [List.cons_append, List.dropWhile_cons_of_neg (by simpa using hne), ← List.cons_append,
        List.drop_left]

theorem ofText_render_preserved (hreturn : '\r' ∉ content.toList)
    (hfree : EmptyInput.Free ((ofText content).assemble (.preserved stripCommas))) :
    ofText ((ofText content).render (.preserved stripCommas))
      = ofText ((ofText content).assemble (.preserved stripCommas)) := by
  apply ofText_eq_of_filledLines
  rw [lines_render_preserved hreturn hfree, filledLines_dropWhile,
    lines_assemble stripCommas hreturn]

section Reread

variable (hreturn : '\r' ∉ content.toList)
  (hfields : ∀ d ∈ (ofText content).declarations, ∀ l ∈ d.fields,
    (trim l).toList.head? ≠ some '#')
  (hscalars : ScalarsApart (lines content))
  (hfirst : ∀ l, (filledLines ((ofText content).preservedBody stripCommas)).head? = some l →
    LineClass.isComment l = false)

include hreturn hfields hscalars hfirst

/-- What is read of a text that was written from what was read. -/
theorem ofText_assemble :
    (ofText ((ofText content).assemble (.preserved stripCommas))).header
        = (ofText content).header ∧
      (ofText ((ofText content).assemble (.preserved stripCommas))).declarations
        = ((ofText content).declarations.map Declaration.hoisted).modifyHead
            (·.describedAfter (ofText content).scalars) ∧
      (ofText ((ofText content).assemble (.preserved stripCommas))).trailing
        = (if (ofText content).declarations.isEmpty then (ofText content).scalars else [])
          ++ dropScalars (ofText content).trailing := by
  have hlines := lines_assemble stripCommas hreturn
  rw [documentLines_ofText] at hlines
  obtain ⟨hheader, hdeclarations, htrailing⟩ := ofText_of_reads hlines
    (fun l hl => (mem_header_ofText hl).2) hfirst
    (reads_preservedBody hreturn hfields hscalars)
  -- The declarations come in the order of their keys already, so storing them keeps it.
  obtain ⟨ks, hkeys⟩ := exists_keyOrder_ofText content
  have hkeys' : (((ofText content).declarations.map Declaration.hoisted).modifyHead
      (·.describedAfter (ofText content).scalars)).map Declaration.key = keyOrder ks := by
    rw [← hkeys]
    cases (ofText content).declarations <;>
      simp [Declaration.hoisted, Declaration.describedAfter, Declaration.key]
  rw [declarations_foldl_insert_of_keyOrder hkeys'] at hdeclarations
  exact ⟨hheader, hdeclarations, htrailing⟩

theorem documentLines_reread :
    (ofText ((ofText content).assemble (.preserved stripCommas))).documentLines
        (.preserved stripCommas)
      = (ofText content).documentLines (.preserved stripCommas) := by
  obtain ⟨hheader, hdeclarations, htrailing⟩ := ofText_assemble hreturn hfields hscalars hfirst
  have hsame : (ofText ((ofText content).assemble (.preserved stripCommas))).scalars
      = (ofText content).scalars := by
    rw [scalars_ofText, lines_assemble stripCommas hreturn,
      filter_isScalar_documentLines hscalars]
  have hscalar : ∀ l ∈ (ofText content).scalars, LineClass.isScalar l = true := by
    intro l hl
    rw [scalars_ofText] at hl
    exact (List.mem_filter.1 hl).2
  have hhoisted : (ofText ((ofText content).assemble (.preserved stripCommas))).declarations.map
      Declaration.hoisted = (ofText content).declarations.map Declaration.hoisted := by
    rw [hdeclarations]
    cases (ofText content).declarations with
    | nil => rfl
    | cons d ds =>
        have hd := Declaration.hoisted_describedAfter hscalar d
        rw [List.map_cons, List.modifyHead_cons, List.map_cons, hd, List.map_map]
        refine congrArg _ (List.map_congr_left fun e _ => ?_)
        simp [Declaration.hoisted]
  have hleft : dropScalars (if (ofText content).declarations.isEmpty then (ofText content).scalars
      else []) = [] := by
    split
    · exact dropScalars_eq_nil hscalar
    · rfl
  have hblocks : ∀ s : Schema, (s.declarations.flatMap fun d =>
      "" :: (written (.preserved stripCommas) d.hoisted).lines)
      = (s.declarations.map Declaration.hoisted).flatMap fun d =>
          "" :: (written (.preserved stripCommas) d).lines := fun s => by rw [List.flatMap_map]
  rw [documentLines_ofText, documentLines_ofText, preservedBody, preservedBody, hheader,
    hsame, hblocks, hblocks, hhoisted, htrailing, dropScalars_append, hleft,
    dropScalars_dropScalars, List.nil_append]

end Reread

end Schema

/-- Without filters a text is read and written. -/
theorem Job.result_sift {job : Job} (h : job.filters = []) (content : String) :
    (job.sift content).result = .ok ((Schema.ofText content).render job.layout) := by
  have happly : Pipeline.apply job.filters (Schema.ofText content)
      = .ok (Schema.ofText content) := by
    rw [h, Pipeline.apply_nil]
  rw [sift_of_apply job happly]

/-- **Sifting a sifted text changes nothing**, where nothing is filtered and all lines are kept. -/
theorem Job.sift_sift {content : String} (stripCommas logRemovals : Bool)
    (hreturn : '\r' ∉ content.toList)
    (hfields : ∀ d ∈ (Schema.ofText content).declarations, ∀ l ∈ d.fields,
      (trim l).toList.head? ≠ some '#')
    (hscalars : ScalarsApart (lines content))
    (hfirst : ∀ l,
      (filledLines ((lines ((Schema.ofText content).render (.preserved stripCommas))).drop
        (Schema.ofText content).header.length)).head? = some l → LineClass.isComment l = false)
    (hfree : EmptyInput.Free ((Schema.ofText content).assemble (.preserved stripCommas))) :
    let job : Job := { layout := .preserved stripCommas, logRemovals }
    ∃ text, (job.sift content).result = .ok text ∧ (job.sift text).result = .ok text := by
  intro job
  rw [Schema.filledLines_drop_header hreturn hfree] at hfirst
  have hsame : (Schema.ofText ((Schema.ofText content).render (.preserved stripCommas))).render
      (.preserved stripCommas) = (Schema.ofText content).render (.preserved stripCommas) := by
    rw [Schema.ofText_render_preserved hreturn hfree, Schema.render, Schema.assemble,
      Schema.documentLines_reread hreturn hfields hscalars hfirst, ← Schema.assemble,
      ← Schema.render]
  refine ⟨_, result_sift rfl content, ?_⟩
  rw [result_sift rfl]
  exact congrArg Except.ok hsame

/-- A header, a scalar that is kept among the lines that describe `A` too, and a line that is left
over. -/
theorem Job.sift_sift_of_scalars :
    let content := "# head\nscalar Date\n# about A\ntype A \x7b\n  id: ID\n\x7d\nextend B\n"
    let job : Job := { layout := .preserved true }
    (job.sift content).result
        = .ok "# head\nscalar Date\n\n# about A\ntype A \x7b\n  id: ID\n\x7d\n\nextend B\n" ∧
      ∃ text, (job.sift content).result = .ok text ∧ (job.sift text).result = .ok text := by
  intro content job
  have hlines : lines content = ["# head", "scalar Date", "# about A"] ++ ["type A \x7b",
      "  id: ID", "\x7d", "extend B"] := by
    decide +kernel
  have hdeclarations : (Schema.ofText content).declarations
      = [{ kind := .type, name := "A", description := ["scalar Date", "# about A"],
           fields := ["  id: ID"] }] := by
    decide +kernel
  have htext : (Schema.ofText content).render (.preserved true)
      = "# head\nscalar Date\n\n# about A\ntype A \x7b\n  id: ID\n\x7d\n\nextend B\n" := by
    decide +kernel
  have hfields : ∀ d ∈ (Schema.ofText content).declarations, ∀ l ∈ d.fields,
      (trim l).toList.head? ≠ some '#' := by
    rw [hdeclarations]
    decide +kernel
  have hscalars : ScalarsApart (lines content) := by
    rw [hlines]
    exact ScalarsApart.of_append (by decide +kernel) (by decide +kernel)
  have hfirst : (filledLines ((lines ((Schema.ofText content).render (.preserved true))).drop
      (Schema.ofText content).header.length)).head? = some "scalar Date" := by
    decide +kernel
  have hstart : ∀ l, (filledLines ((lines ((Schema.ofText content).render (.preserved true))).drop
      (Schema.ofText content).header.length)).head? = some l → LineClass.isComment l = false := by
    intro l hl
    obtain rfl := Option.some.inj (hfirst.symm.trans hl)
    decide
  refine ⟨?_, sift_sift true false (by decide) hfields hscalars hstart (by decide +kernel)⟩
  rw [result_sift rfl]
  exact congrArg Except.ok htext

end SchemaSieve
