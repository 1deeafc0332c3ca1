import SchemaSieve.Proofs.DescriptionText
import SchemaSieve.Proofs.RoundTrip
import SchemaSieve.Proofs.Sections

/-!
# Preserving texts

In the layout that keeps all lines the scalars are written once, behind the header, and are left out
of the lines that describe a declaration and of those at the end. `documentLines_ofText` says which
lines are written for a text that was read.
-/

namespace SchemaSieve

open Text

/-- The layout that keeps all lines and describes nothing. -/
def Layout.preserved (stripCommas : Bool) : Layout := { stripCommas, preserving := true }

/-- Lines with an empty one ahead of them, if there are any. -/
def spaced : List String → List String
  | [] => []
  | ls => "" :: ls

theorem mem_spaced {ls : List String} {l : String} (h : l ∈ spaced ls) : l = "" ∨ l ∈ ls := by
  cases ls with
  | nil => cases h
  | cons m ls => exact List.mem_cons.1 h

theorem filledLines_spaced (ls : List String) : filledLines (spaced ls) = filledLines ls := by
  cases ls <;> rfl

theorem filter_spaced {p : String → Bool} (hp : p "" = false) (ls : List String) :
    (spaced ls).filter p = ls.filter p := by
  cases ls with
  | nil => rfl
  | cons l ls => exact List.filter_cons_of_neg (by simp [hp])

/-- The lines that declare no scalar. -/
def dropScalars (ls : List String) : List String := ls.filter (!LineClass.isScalar ·)

theorem dropScalars_append (a b : List String) :
    dropScalars (a ++ b) = dropScalars a ++ dropScalars b :=
  List.filter_append a b

@[simp] theorem dropScalars_dropScalars (ls : List String) :
    dropScalars (dropScalars ls) = dropScalars ls := by
  simp [dropScalars]

theorem dropScalars_eq_nil {ls : List String} (h : ∀ l ∈ ls, LineClass.isScalar l = true) :
    dropScalars ls = [] := by
  rw [dropScalars, List.filter_eq_nil_iff]
  exact fun l hl => by simp [h l hl]

theorem dropScalars_flatMap {α : Type} (f : α → List String) (as : List α) :
    dropScalars (as.flatMap f) = as.flatMap fun a => dropScalars (f a) :=
  List.filter_flatMap

theorem dropScalars_header (content : String) :
    dropScalars (Schema.ofText content).header = (Schema.ofText content).header := by
  rw [dropScalars, List.filter_eq_self]
  intro l hl
  rw [Bool.not_eq_true', Bool.eq_false_iff]
  exact fun h => (LineClass.ofLine_of_isScalar h).2 (mem_header_ofText hl).2

@[simp] theorem filter_dropScalars (ls : List String) :
    (dropScalars ls).filter LineClass.isScalar = [] := by
  simp [dropScalars]

namespace Captions

variable {l text : String}

theorem isScalar_eq_false_of_comment? (h : comment? l = some text) :
    LineClass.isScalar l = false := by
  rw [Bool.eq_false_iff]
  intro hscalar
  obtain ⟨cs, hcs⟩ := List.head?_eq_some_iff.1 (LineClass.head?_of_isScalar hscalar)
  have hnone : comment? l = none := by
    rw [comment?_eq_none_iff, toList_trim, dropTrailing_eq_rdropWhile, hcs,
      List.dropWhile_cons_of_neg (by decide)]
    intro hhead
    obtain ⟨ds, hds⟩ := List.head?_eq_some_iff.1 hhead
    have hprefix := List.rdropWhile_prefix isBlank ('s' :: cs)
    rw [hds] at hprefix
    exact absurd (List.cons_prefix_cons.1 hprefix).1 (by decide)
  rw [hnone] at h
  cases h

theorem isScalar_promote (c : Captions) (l : String) :
    LineClass.isScalar (c.promote l) = LineClass.isScalar l := by
  rw [promote]
  cases hcomment : comment? l with
  | none => rfl
  | some text =>
      rw [isScalar_eq_false_of_comment? hcomment]
      exact LineClass.isScalar_eq_false_of_head? (c := ' ')
        (by rw [Option.map_some, Option.getD_some, toList_bodyLine]; rfl) (by decide)

end Captions

namespace Declaration

variable {d : Declaration}

/-- The declaration without the scalars among the lines that describe it. -/
def hoisted (d : Declaration) : Declaration :=
  { d with description := dropScalars d.description }

/-- The declaration with more lines that describe it, ahead of its own. -/
def describedAfter (before : List String) (d : Declaration) : Declaration :=
  { d with description := before ++ d.description }

theorem IsRead.hoisted {P : String → Prop} (h : d.IsRead P) : d.hoisted.IsRead P :=
  ⟨⟨h.words.name, h.words.clause⟩, fun l hl => h.description l (List.mem_filter.1 hl).1, h.fields,
    h.additions⟩

theorem hoisted_describedAfter {before : List String}
    (h : ∀ l ∈ before, LineClass.isScalar l = true) (d : Declaration) :
    (d.hoisted.describedAfter before).hoisted = d.hoisted := by
  simp [Declaration.hoisted, describedAfter, dropScalars_append, dropScalars_eq_nil h]

theorem isScalar_header (d : Declaration) : LineClass.isScalar d.header = false := by
  obtain ⟨c, hc, hne⟩ : ∃ c, d.header.toList.head? = some c ∧ c ≠ 's' := by
    rw [toList_header, String.intercalate_cons_cons]
    cases d.kind <;> simp [Kind.keyword]
  exact LineClass.isScalar_eq_false_of_head? hc hne

end Declaration

/-- The declarations that are read where some lines wait for the first of them, and what waits
behind them. -/
theorem Written.readAll_verbatim_after {P : String → Prop} {ds : List Declaration}
    (h : ∀ d ∈ ds, d.IsRead P) (before : List String) :
    readAll before (ds.map verbatim)
      = (ds.modifyHead (·.describedAfter before), if ds.isEmpty then before else []) := by
  cases ds with
  | nil => rfl
  | cons d ds =>
      obtain ⟨hfirst, hrest⟩ := Prod.mk.inj (readAll_verbatim h)
      obtain ⟨hd, hds⟩ := List.cons.inj hfirst
      have hwaiting : (readAll (leftOver (verbatim d).body) (ds.map verbatim)).2 = [] := hrest
      rw [List.map_cons, readAll, hds, hwaiting]
      have hafter : (verbatim d).readAfter before
          = ((verbatim d).readAfter []).describedAfter before := rfl
      rw [hafter, hd]
      rfl

namespace Schema

variable {content : String} {stripCommas : Bool} {d : Declaration} {l : String}

/-- The document behind the header, in the layout that keeps all lines. -/
def preservedBody (s : Schema) (stripCommas : Bool) : List String :=
  s.scalars
    ++ (s.declarations.flatMap fun d => "" :: (written (.preserved stripCommas) d.hoisted).lines)
    ++ spaced (dropScalars s.trailing)

/-- What is written for a declaration that was read. -/
theorem lines_written_hoisted (hd : d ∈ (ofText content).declarations) :
    (written (.preserved stripCommas) d.hoisted).lines
      = dropScalars d.description
        ++ d.header :: (d.fields.map (Layout.preserved stripCommas).promote ++ ["\x7d"]) := by
  have hread := (isRead_of_mem_declarations hd).hoisted
  rw [written, Written.lines,
    hread.descriptionLines_eq (c := (Layout.preserved stripCommas).toCaptions) rfl,
    hread.fieldLines_eq_map (c := (Layout.preserved stripCommas).toCaptions) rfl]
  rfl

theorem isHoisted_ofText (hl : l ∈ lines content) :
    (ofText content).isHoisted (.preserved stripCommas) l = LineClass.isScalar l := by
  rw [isHoisted, scalars_ofText, Bool.eq_iff_iff]
  simp [Layout.preserved, hl]

theorem filter_isHoisted {ls : List String} (h : ∀ l ∈ ls, l ∈ lines content) :
    ls.filter (!(ofText content).isHoisted (.preserved stripCommas) ·) = dropScalars ls :=
  List.filter_congr fun l hl => by rw [isHoisted_ofText (h l hl)]

theorem documentLines_ofText (content : String) (stripCommas : Bool) :
    (ofText content).documentLines (.preserved stripCommas)
      = (ofText content).header ++ (ofText content).preservedBody stripCommas := by
  have hdeclaration : ∀ d ∈ (ofText content).declarations,
      (ofText content).declarationLines (.preserved stripCommas) d
        = "" :: (written (.preserved stripCommas) d.hoisted).lines := by
    intro d hd
    have hread := isRead_of_mem_declarations hd
    rw [declarationLines, lines_written_hoisted hd,
      hread.descriptionLines_eq (c := (Layout.preserved stripCommas).toCaptions) rfl,
      hread.fieldLines_eq_map (c := (Layout.preserved stripCommas).toCaptions) rfl,
      filter_isHoisted fun l hl => (hread.description l hl).1, hread.additions]
    simp
  have htrailing : (ofText content).trailingLines (.preserved stripCommas)
      = spaced (dropScalars (ofText content).trailing) := by
    rw [trailingLines, filter_isHoisted fun l hl => (describingLine_of_mem_trailing hl).1]
    rfl
  have hleading : (ofText content).leadingLines (.preserved stripCommas)
      = (ofText content).header ++ (ofText content).scalars := rfl
  rw [documentLines, hleading, htrailing, List.flatMap_congr hdeclaration, preservedBody]
  simp only [List.append_assoc]

theorem isSound_hoisted (stripCommas : Bool) (hreturn : '\r' ∉ content.toList)
    (hd : d ∈ (ofText content).declarations) :
    (written (.preserved stripCommas) d.hoisted).IsSound :=
  (isRead_of_mem_declarations hd).hoisted.isSound_written hreturn (by nofun)

theorem isLine_of_mem_documentLines (hreturn : '\r' ∉ content.toList)
    (hl : l ∈ (ofText content).documentLines (.preserved stripCommas)) : IsLine l := by
  have hread : ∀ {l}, l ∈ lines content → IsLine l := isLine_of_mem_lines hreturn
  have hempty : IsLine "" := ⟨by decide, by decide⟩
  rw [documentLines_ofText, preservedBody] at hl
  rcases List.mem_append.1 hl with hl | hl
  · exact hread (mem_header_ofText hl).1
  rcases List.mem_append.1 hl with hl | hl
  · rcases List.mem_append.1 hl with hl | hl
    · rw [scalars_ofText] at hl
      exact hread (List.mem_filter.1 hl).1
    · obtain ⟨d, hd, hl⟩ := List.mem_flatMap.1 hl
      rcases List.mem_cons.1 hl with rfl | hl
      · exact hempty
      · exact (isSound_hoisted stripCommas hreturn hd).isLine l hl
  · rcases mem_spaced hl with rfl | hl
    · exact hempty
    · exact hread (describingLine_of_mem_trailing (List.mem_filter.1 hl).1).1

theorem lines_assemble (stripCommas : Bool) (hreturn : '\r' ∉ content.toList) :
    lines ((ofText content).assemble (.preserved stripCommas))
      = (ofText content).documentLines (.preserved stripCommas) :=
  lines_unlines fun _ hl => isLine_of_mem_documentLines hreturn hl

theorem lines_render_preserved (hreturn : '\r' ∉ content.toList)
    (hfree : EmptyInput.Free ((ofText content).assemble (.preserved stripCommas))) :
    lines ((ofText content).render (.preserved stripCommas))
      = ((ofText content).documentLines (.preserved stripCommas)).dropWhile (· == "") := by
  rw [render, EmptyInput.remove_of_free hfree, assemble]
  exact lines_dropLineBreaks_unlines fun _ hl => isLine_of_mem_documentLines hreturn hl

/-- What is written for a declaration holds no scalar: those among the lines that describe it are
left out, and there are none in its body. -/
theorem isScalar_eq_false_of_mem_written (hscalars : ScalarsApart (lines content))
    (hd : d ∈ (ofText content).declarations)
    (hl : l ∈ (written (.preserved stripCommas) d.hoisted).lines) :
    LineClass.isScalar l = false := by
  rw [lines_written_hoisted hd] at hl
  rcases List.mem_append.1 hl with hl | hl
  · simpa using (List.mem_filter.1 hl).2
  rcases List.mem_cons.1 hl with rfl | hl
  · exact d.isScalar_header
  rcases List.mem_append.1 hl with hl | hl
  · obtain ⟨m, hm, rfl⟩ := List.mem_map.1 hl
    rw [Captions.isScalar_promote]
    exact isScalar_eq_false_of_mem_fields hscalars hd hm
  · rw [List.mem_singleton.1 hl]
    decide

/-- The scalars of a text are written once. -/
theorem filter_isScalar_documentLines (hscalars : ScalarsApart (lines content)) :
    ((ofText content).documentLines (.preserved stripCommas)).filter LineClass.isScalar
      = (ofText content).scalars := by
  have hheader : (ofText content).header.filter LineClass.isScalar = [] := by
    rw [← dropScalars_header, filter_dropScalars]
  have hself : (ofText content).scalars.filter LineClass.isScalar = (ofText content).scalars := by
    rw [scalars_ofText, List.filter_filter]
    simp
  have hblocks : ((ofText content).declarations.flatMap fun d =>
      "" :: (written (.preserved stripCommas) d.hoisted).lines).filter LineClass.isScalar = [] := by
    rw [List.filter_eq_nil_iff]
    intro l hl
    obtain ⟨d, hd, hl⟩ := List.mem_flatMap.1 hl
    rcases List.mem_cons.1 hl with rfl | hl
    · decide
    · simp [isScalar_eq_false_of_mem_written hscalars hd hl]
  rw [documentLines_ofText, preservedBody, List.filter_append, List.filter_append,
    List.filter_append, hheader, hself, hblocks, filter_spaced (by decide), filter_dropScalars,
    List.nil_append, List.append_nil, List.append_nil]

end Schema

end SchemaSieve
