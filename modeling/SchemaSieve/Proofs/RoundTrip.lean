import SchemaSieve.Proofs.Filtering
import SchemaSieve.Proofs.WrittenText

/-!
# Round trips

A document that was read, and of which filters have removed some fields, is written as the lines it
was read from. Each of these lines plays the same part when the text is read again, but for the
comments at its beginning, which are the header now.
-/

namespace SchemaSieve

open Text

namespace Captions

variable {c : Captions}

theorem comment?_eq_none_iff {line : String} :
    comment? line = none ↔ (trim line).toList.head? ≠ some '#' := by
  unfold comment?
  split
  · rename_i cs hline
    simp [hline]
  · rename_i hline
    refine ⟨fun _ hhead => ?_, fun _ => rfl⟩
    obtain ⟨cs, hcs⟩ := List.head?_eq_some_iff.1 hhead
    exact hline cs hcs

/-- What a line of a body is written as where nothing is described: a comment becomes a
description. -/
def promote (c : Captions) (line : String) : String := ((comment? line).map c.bodyLine).getD line

theorem promote_of_head? {line : String} (h : (trim line).toList.head? ≠ some '#') :
    c.promote line = line := by
  rw [promote, comment?_eq_none_iff.2 h]
  rfl

theorem captionedLines_empty (isOpen : Bool) (ls : List String) :
    c.captionedLines ∅ isOpen ls = ls.map c.promote := by
  induction ls generalizing isOpen with
  | nil => rfl
  | cons l ls ih =>
      have htext : (if isOpen then none else textFor? ∅ l) = none := by
        split
        · rfl
        · unfold textFor?
          split
          · split <;> rfl
          · rfl
      have hline : c.captionedLine ∅ isOpen l = [c.promote l] := by
        rw [captionedLine, promote]
        cases comment? l <;> simp only [htext] <;> rfl
      rw [captionedLines, hline, ih, List.map_cons, List.singleton_append]

end Captions

def Declaration.dropComments (d : Declaration) : Declaration :=
  { d with description := d.description.dropWhile LineClass.isComment }

def Written.verbatim (d : Declaration) : Written := ⟨d, d.description, d.fields⟩

namespace Declaration

variable {content : String} {d : Declaration}

theorem IsRead.dropComments {P : String → Prop} (h : d.IsRead P) : d.dropComments.IsRead P :=
  ⟨⟨h.words.name, h.words.clause⟩,
    fun l hl => h.description l ((List.dropWhile_sublist _).mem hl), h.fields, h.additions⟩

theorem IsRead.descriptionLines_eq {P : String → Prop} (h : d.IsRead P) {c : Captions}
    (hc : c.descriptions = {}) : c.descriptionLines d = d.description := by
  have hfilter : d.description.filter (· != "") = d.description := by
    rw [List.filter_eq_self]
    exact fun l hl => bne_iff_ne.2 (h.description l hl).ne_empty
  rw [Captions.descriptionLines, hc]
  exact hfilter

theorem IsRead.fieldLines_eq_map (h : d.IsRead (· ∈ lines content)) {c : Captions}
    (hc : c.descriptions = {}) : c.fieldLines d = d.fields.map c.promote := by
  rw [Captions.fieldLines, hc, h.flatMap_lines_fields]
  exact Captions.captionedLines_empty false d.fields

theorem IsRead.fieldLines_eq (h : d.IsRead (· ∈ lines content)) {c : Captions}
    (hc : c.descriptions = {}) (hcomment : ∀ l ∈ d.fields, (trim l).toList.head? ≠ some '#') :
    c.fieldLines d = d.fields := by
  have hsame : d.fields.map c.promote = d.fields.map id :=
    List.map_congr_left fun l hl => Captions.promote_of_head? (hcomment l hl)
  rw [h.fieldLines_eq_map hc, hsame, List.map_id]

/-- A declaration that was read is written as the lines it was read from. -/
theorem IsRead.written_eq (h : d.IsRead (· ∈ lines content)) {layout : Layout}
    (hlayout : layout.descriptions = {})
    (hcomment : ∀ l ∈ d.fields, (trim l).toList.head? ≠ some '#') :
    Schema.written layout d = Written.verbatim d := by
  rw [Schema.written, h.descriptionLines_eq hlayout, h.fieldLines_eq hlayout hcomment,
    Written.verbatim]

theorem IsRead.isSound_verbatim (h : d.IsRead (· ∈ lines content))
    (hreturn : '\r' ∉ content.toList) : (Written.verbatim d).IsSound := by
  refine ⟨h.words, fun l hl => ?_, fun l hl => ?_⟩
  · have hdescribing := h.description l hl
    exact ⟨hdescribing.pendingLine, isLine_of_mem_lines hreturn hdescribing.1⟩
  · obtain ⟨hmem, hclass⟩ := h.fields l hl
    exact ⟨Or.inl hclass, isLine_of_mem_lines hreturn hmem⟩

theorem IsRead.readAfter_verbatim {P : String → Prop} (h : d.IsRead P) :
    (Written.verbatim d).readAfter [] = d := by
  have hdescription : keptLines d.description = d.description := by
    refine keptLines_eq_self fun l hl => ?_
    rcases (h.description l hl).2 with hl | hl <;> simp [hl]
  have hfields : openPart d.fields = d.fields :=
    openPart_eq_self_iff.2 fun l hl => by simp [(h.fields l hl).2]
  have hadditions := h.additions
  cases d
  simp_all [Written.readAfter, Written.verbatim]

end Declaration

/-- Declarations that are written as they were read are read again, each for itself: no body leaves
a line over for the next one. -/
theorem Written.readAll_verbatim {P : String → Prop} {ds : List Declaration}
    (h : ∀ d ∈ ds, d.IsRead P) : readAll [] (ds.map verbatim) = (ds, []) := by
  induction ds with
  | nil => rfl
  | cons d ds ih =>
      have hd : d.IsRead P := h d List.mem_cons_self
      have hleft : leftOver (verbatim d).body = [] :=
        leftOver_eq_nil fun l hl => by simp [(hd.fields l hl).2]
      rw [List.map_cons, readAll, hleft, ih fun e he => h e (List.mem_cons_of_mem d he),
        hd.readAfter_verbatim]

/-- Round trip: a document that was read, and of which filters have removed some fields, is the same
when it is written and read again. Only the comments that describe its first declaration are the
header then, and nothing is left over. -/
theorem ofText_render_of_removals {content : String} (hreturn : '\r' ∉ content.toList)
    {fs : List Filter} (hremove : ∀ f ∈ fs, ∃ invert test, f.action = .remove invert test)
    {s : Schema} (happly : Pipeline.apply fs (Schema.ofText content) = .ok s)
    (hcomment : ∀ d ∈ s.declarations, ∀ l ∈ d.fields, (trim l).toList.head? ≠ some '#')
    (hfree : EmptyInput.Free (s.assemble {})) :
    (Schema.ofText (s.render {})).declarations
        = s.declarations.modifyHead Declaration.dropComments ∧
      (Schema.ofText (s.render {})).header
        = ((s.declarations.map Declaration.description).headD []).takeWhile LineClass.isComment ∧
      (Schema.ofText (s.render {})).trailing = [] := by
  have hread : ∀ d ∈ s.declarations, d.IsRead (· ∈ lines content) := fun d hd =>
    Pipeline.isRead_of_removals hremove happly hd
  have hwritten : s.declarations.map (Schema.written {}) = s.declarations.map Written.verbatim :=
    List.map_congr_left fun d hd => (hread d hd).written_eq rfl (hcomment d hd)
  have hsound : ∀ d ∈ s.declarations, (Schema.written {} d).IsSound := by
    intro d hd
    rw [(hread d hd).written_eq rfl (hcomment d hd)]
    exact (hread d hd).isSound_verbatim hreturn
  obtain ⟨ks, hkeys⟩ := Pipeline.exists_keyOrder_apply happly
  obtain ⟨hdeclarations, hheader, htrailing⟩ :=
    Schema.ofText_render rfl (fun d hd => (hread d hd).additions) hsound hfree hkeys
  rw [hwritten] at hdeclarations hheader htrailing
  have hdrop : (Written.readAll [] ((s.declarations.map Written.verbatim).modifyHead
      Written.dropComments)).1
      = (Written.readAll [] ((s.declarations.modifyHead Declaration.dropComments).map
          Written.verbatim)).1 := by
    cases s.declarations <;> rfl
  have hread' : ∀ d ∈ s.declarations.modifyHead Declaration.dropComments,
      d.IsRead (· ∈ lines content) := by
    cases hds : s.declarations with
    | nil => simp
    | cons d ds =>
        rw [hds] at hread
        intro e he
        rcases List.mem_cons.1 he with rfl | he
        · exact (hread d List.mem_cons_self).dropComments
        · exact hread e (List.mem_cons_of_mem d he)
  refine ⟨?_, ?_, ?_⟩
  · rw [hdeclarations, hdrop, Written.readAll_verbatim hread']
  · rw [hheader, List.map_map]
    rfl
  · rw [htrailing, Written.readAll_verbatim hread]

/-- A field is removed, and the comment that a block without a kind was to be described by becomes
the header. -/
theorem ofText_render_without_id :
    let content := "skipped \x7b\n\x7d\n# about A\ntype A implements B C \x7b\n  id: ID\n  b: Int\n\x7d\n"
    let filter : Filter :=
      { action := .remove false (.selector { fieldName := some (.exact ["id"]) }) }
    let s := (Pipeline.run [filter] (Schema.ofText content)).1
    let t := Schema.ofText (s.render {})
    t.declarations
        = [{ kind := .type, name := "A", clause := ["implements", "B", "C"],
             fields := ["  b: Int"] }] ∧
      t.header = ["# about A"] ∧ t.trailing = [] := by
  intro content filter s t
  have hs : s.declarations
      = [{ kind := .type, name := "A", description := ["# about A"],
           clause := ["implements", "B", "C"], fields := ["  b: Int"] }] := by
    decide +kernel
  have hremove : ∀ f ∈ [filter], ∃ invert test, f.action = .remove invert test := by
    intro f hf
    rw [List.mem_singleton.1 hf]
    exact ⟨_, _, rfl⟩
  have happly : Pipeline.apply [filter] (Schema.ofText content) = .ok s :=
    Pipeline.apply_eq_ok_iff.2 ⟨by decide +kernel, rfl⟩
  have hcomment : ∀ d ∈ s.declarations, ∀ l ∈ d.fields, (trim l).toList.head? ≠ some '#' := by
    rw [hs]
    decide +kernel
  have htrip := ofText_render_of_removals (by decide) hremove happly hcomment (by decide +kernel)
  rw [hs] at htrip
  exact htrip

end SchemaSieve
