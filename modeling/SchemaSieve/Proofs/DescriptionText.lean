import SchemaSieve.Proofs.DescriptionOrder
import SchemaSieve.Proofs.Filtering
import SchemaSieve.Proofs.WrittenText

/-!
# Description texts in documents

A text that is written between triple quotes is one line, which neither opens a block nor is a
comment. But its `#` no longer stands ahead of what it had turned into a comment: a closing brace in
the text ends the block in whose body the text is written, unless a `#` stands before it.
-/

namespace SchemaSieve

open Text

namespace LineClass

/-- What stands around a text does not count, if there is neither a `#` nor a closing brace in
it. -/
theorem isCloser_of_append {line : String} {before cs after : List Char}
    (hline : line.toList = before ++ (cs ++ after))
    (hhash : '#' ∉ before) (hbrace : '\x7d' ∉ before) (hafter : '\x7d' ∉ after) :
    isCloser line = (cs.takeWhile (· != '#')).contains '\x7d' := by
  have hbefore : ∀ c ∈ before, (c != '#') = true := by
    intro c hc
    rw [bne_iff_ne]
    rintro rfl
    exact hhash hc
  have hnotAfter : '\x7d' ∉ after.takeWhile (· != '#') := fun hc =>
    hafter ((List.takeWhile_sublist _).mem hc)
  rw [isCloser, hline, List.takeWhile_append_of_pos hbefore, List.takeWhile_append]
  split
  · rename_i hall
    have hself : cs.takeWhile (· != '#') = cs := (List.takeWhile_sublist _).eq_of_length hall
    rw [hself]
    simp [hbrace, hnotAfter]
  · simp [hbrace]

end LineClass

namespace Captions

variable {c : Captions} {texts : OrderedMap String String} {text l m : String}

def writtenText (stripCommas : Bool) (text : String) : List Char :=
  if stripCommas then text.toList.filter (· != ',') else text.toList

theorem toList_quote (stripCommas : Bool) (text : String) :
    (quote stripCommas text).toList
      = ['"', '"', '"', ' '] ++ (writtenText stripCommas text ++ ['"', '"', '"']) := by
  cases stripCommas <;> simp [quote, tripleQuote, writtenText]

theorem toList_bodyLine (c : Captions) (text : String) :
    (c.bodyLine text).toList
      = [' ', ' ', '"', '"', '"', ' ']
        ++ (writtenText c.stripCommas text ++ ['"', '"', '"']) := by
  rw [bodyLine, String.toList_append, toList_quote]
  rfl

theorem mem_of_mem_writtenText {stripCommas : Bool} {ch : Char}
    (h : ch ∈ writtenText stripCommas text) : ch ∈ text.toList := by
  cases stripCommas with
  | false => exact h
  | true => exact (List.mem_filter.1 h).1

theorem contains_takeWhile_writtenText (stripCommas : Bool) (text : String) :
    ((writtenText stripCommas text).takeWhile (· != '#')).contains '\x7d'
      = LineClass.isCloser text := by
  cases stripCommas with
  | false => rfl
  | true =>
      rw [LineClass.isCloser, writtenText, if_pos rfl]
      induction text.toList with
      | nil => rfl
      | cons ch cs ih =>
          by_cases hcomma : ch = ','
          · simp_all
          · by_cases hhash : ch = '#'
            · simp [hhash]
            · simp_all

/-- A text ends a block in its body just when it would as a line of its own. -/
theorem isCloser_bodyLine (c : Captions) (text : String) :
    LineClass.isCloser (c.bodyLine text) = LineClass.isCloser text := by
  rw [LineClass.isCloser_of_append (c.toList_bodyLine text) (by decide) (by decide)
    (by decide), contains_takeWhile_writtenText]

/-- A line that ends in quotes and does not begin with `#` is a line of its block, or ends it. -/
theorem ofLine_of_quoted {before cs : List Char}
    (hline : l.toList = before ++ (cs ++ ['"', '"', '"'])) {ch : Char}
    (hhead : before.head? = some ch) (hhash : ch ≠ '#') :
    LineClass.ofLine l = if LineClass.isCloser l then .closer else .plain := by
  have hblank : isBlankText l = false := by
    refine isBlankText_eq_false_of_mem (c := '"') ?_ (by decide)
    simp [hline]
  have hcomment : LineClass.isComment l = false := by
    rw [LineClass.isComment, hline, List.head?_append, hhead]
    simpa using hhash
  have hlast : l.toList.getLast? = some '"' := by
    have hsplit : l.toList = (before ++ (cs ++ ['"', '"'])) ++ ['"'] := by simp [hline]
    rw [hsplit, List.getLast?_concat]
  have hopener : LineClass.isOpener l = false :=
    LineClass.isOpener_eq_false_of_getLast? hlast (by decide) (by decide)
  exact LineClass.ofLine_of_not_opener hblank hcomment hopener

theorem bodyLine_isBodyLine (c : Captions) (text : String) : BodyLine (c.bodyLine text) := by
  rw [BodyLine, ofLine_of_quoted (c.toList_bodyLine text) rfl (by decide)]
  split <;> simp

theorem quote_pendingLine (stripCommas : Bool) (text : String) :
    PendingLine (quote stripCommas text) := by
  rw [PendingLine, ofLine_of_quoted (toList_quote stripCommas text) rfl (by decide)]
  split <;> simp

theorem isLine_of_quoted {before : List Char} {stripCommas : Bool}
    (hline : l.toList = before ++ (writtenText stripCommas text ++ ['"', '"', '"']))
    (hbefore : '\n' ∉ before) (htext : '\n' ∉ text.toList) : IsLine l := by
  have hwritten : '\n' ∉ writtenText stripCommas text := fun h => htext (mem_of_mem_writtenText h)
  refine ⟨by simp [hline, hbefore, hwritten], ?_⟩
  have hsplit : l.toList = (before ++ (writtenText stripCommas text ++ ['"', '"'])) ++ ['"'] := by
    simp [hline]
  rw [hsplit, List.getLast?_concat]
  simp

theorem mem_of_comment? (h : comment? l = some text) {ch : Char} (hch : ch ∈ text.toList) :
    ch ∈ l.toList := by
  have htrim : ch ∈ (trim l).toList := by
    unfold comment? at h
    split at h
    · rename_i cs hcs
      obtain rfl := Option.some.inj h
      rw [hcs]
      exact List.mem_cons_of_mem _ (by simpa using hch)
    · cases h
  rw [toList_trim, dropTrailing_eq_rdropWhile] at htrim
  exact (List.dropWhile_sublist _).mem ((List.rdropWhile_prefix _ _).mem htrim)

theorem find?_of_textFor? (h : textFor? texts l = some text) :
    ∃ name, texts.find? name = some text := by
  unfold textFor? at h
  split at h
  · rename_i name _ _
    split at h
    · cases h
    · exact ⟨name, (Option.filter_eq_some_iff.1 h).1⟩
  · cases h

theorem mem_captionedLine {isOpen : Bool} (hm : m ∈ c.captionedLine texts isOpen l) :
    m = l ∨ ∃ text, m = c.bodyLine text ∧
      (comment? l = some text ∨ ∃ name, texts.find? name = some text) := by
  unfold captionedLine at hm
  split at hm
  · rename_i text hcomment
    exact Or.inr ⟨text, List.mem_singleton.1 hm, Or.inl hcomment⟩
  · split at hm
    · rename_i text htext
      rcases List.mem_cons.1 hm with rfl | hm
      · refine Or.inr ⟨text, rfl, Or.inr ?_⟩
        split at htext
        · cases htext
        · exact find?_of_textFor? htext
      · exact Or.inl (List.mem_singleton.1 hm)
    · exact Or.inl (List.mem_singleton.1 hm)

/-- The lines of a body are those that were there, and texts of comments or texts given for
fields. -/
theorem mem_captionedLines {isOpen : Bool} {ls : List String}
    (hm : m ∈ c.captionedLines texts isOpen ls) :
    m ∈ ls ∨ ∃ text, m = c.bodyLine text ∧
      ((∃ l ∈ ls, comment? l = some text) ∨ ∃ name, texts.find? name = some text) := by
  induction ls generalizing isOpen with
  | nil => simp [captionedLines] at hm
  | cons l ls ih =>
      rw [captionedLines] at hm
      rcases List.mem_append.1 hm with hm | hm
      · rcases mem_captionedLine hm with rfl | ⟨text, rfl, hcomment | hname⟩
        · exact Or.inl List.mem_cons_self
        · exact Or.inr ⟨text, rfl, Or.inl ⟨l, List.mem_cons_self, hcomment⟩⟩
        · exact Or.inr ⟨text, rfl, Or.inr hname⟩
      · rcases ih hm with hm | ⟨text, rfl, hcomment | hname⟩
        · exact Or.inl (List.mem_cons_of_mem l hm)
        · obtain ⟨l', hl', hcomment⟩ := hcomment
          exact Or.inr ⟨text, rfl, Or.inl ⟨l', List.mem_cons_of_mem l hl', hcomment⟩⟩
        · exact Or.inr ⟨text, rfl, Or.inr hname⟩

end Captions

section

variable {content : String} {layout : Layout} {d : Declaration}

theorem mem_fieldLines (hd : d.IsRead (· ∈ lines content))
    (htexts : ∀ e ∈ layout.descriptions.toList, '\n' ∉ e.text.toList) {m : String}
    (hm : m ∈ layout.fieldLines d) :
    m ∈ d.fields ∨ ∃ text, m = layout.bodyLine text ∧ '\n' ∉ text.toList := by
  rw [Captions.fieldLines, hd.flatMap_lines_fields] at hm
  rcases Captions.mem_captionedLines hm with hm | ⟨text, rfl, ⟨l, hl, hcomment⟩ | ⟨name, hname⟩⟩
  · exact Or.inl hm
  · refine Or.inr ⟨text, rfl, fun hbreak => ?_⟩
    exact (mem_of_mem_lines (hd.fields l hl).1 (Captions.mem_of_comment? hcomment hbreak)).1 rfl
  · refine Or.inr ⟨text, rfl, ?_⟩
    cases hfields : layout.descriptions.fieldsOf? d.kind d.name with
    | none =>
        rw [hfields, Option.getD_none, OrderedMap.find?_empty] at hname
        cases hname
    | some fs =>
        rw [hfields] at hname
        have hfield : layout.descriptions.field? d.kind d.name name = some text := by
          rw [Descriptions.field?, hfields]
          exact hname
        exact htexts ⟨_, _, _, _⟩ (Descriptions.mem_toList_iff.2 hfield)

theorem Declaration.IsRead.isSound_written (hd : d.IsRead (· ∈ lines content))
    (hreturn : '\r' ∉ content.toList)
    (htexts : ∀ e ∈ layout.descriptions.toList, '\n' ∉ e.text.toList) :
    (Schema.written layout d).IsSound := by
  refine ⟨hd.words, fun l hl => ?_, fun l hl => ?_⟩
  · change l ∈ layout.descriptionLines d at hl
    unfold Captions.descriptionLines at hl
    split at hl
    · rename_i text htext
      rw [List.mem_singleton.1 hl]
      have hbreak : '\n' ∉ text.toList :=
        htexts ⟨_, _, _, _⟩ (Descriptions.mem_toList_iff.2 (Option.filter_eq_some_iff.1 htext).1)
      exact ⟨Captions.quote_pendingLine _ text,
        Captions.isLine_of_quoted (Captions.toList_quote _ text) (by decide) hbreak⟩
    · have hdescribing := hd.description l (List.mem_filter.1 hl).1
      exact ⟨hdescribing.pendingLine, isLine_of_mem_lines hreturn hdescribing.1⟩
  · rcases mem_fieldLines hd htexts hl with hl | ⟨text, rfl, hbreak⟩
    · obtain ⟨hmem, hclass⟩ := hd.fields l hl
      exact ⟨Or.inl hclass, isLine_of_mem_lines hreturn hmem⟩
    · exact ⟨Captions.bodyLine_isBodyLine _ text,
        Captions.isLine_of_quoted (Captions.toList_bodyLine _ text) (by decide) hbreak⟩

/-- The body of a declaration is read up to its end just when none of the texts in it ends the
block. -/
theorem openPart_fieldLines_iff (hd : d.IsRead (· ∈ lines content))
    (htexts : ∀ e ∈ layout.descriptions.toList, '\n' ∉ e.text.toList) :
    openPart (layout.fieldLines d) = layout.fieldLines d ↔
      ∀ text, layout.bodyLine text ∈ layout.fieldLines d → LineClass.isCloser text = false := by
  rw [openPart_eq_self_iff]
  constructor
  · intro hopen text htext
    have hne := hopen _ htext
    rw [Captions.ofLine_of_quoted (layout.toList_bodyLine text) rfl (by decide),
      Captions.isCloser_bodyLine] at hne
    simpa using hne
  · intro htext l hl
    rcases mem_fieldLines hd htexts hl with hmem | ⟨text, rfl, -⟩
    · simp [(hd.fields l hmem).2]
    · rw [Captions.ofLine_of_quoted (layout.toList_bodyLine text) rfl (by decide),
        Captions.isCloser_bodyLine, htext text hl]
      simp

/-- A text that was read and written with descriptions is read as the same kinds and names in the
same order. Its fields are the lines that were written just when no text that is written into a
body holds a closing brace ahead of any `#`. -/
theorem fields_ofText_render_iff (hreturn : '\r' ∉ content.toList)
    (hmode : layout.preserving = false)
    (htexts : ∀ e ∈ layout.descriptions.toList, '\n' ∉ e.text.toList)
    (hfree : EmptyInput.Free ((Schema.ofText content).assemble layout)) :
    let s := Schema.ofText content
    let t := Schema.ofText (s.render layout)
    t.declarations.map Declaration.key = s.declarations.map Declaration.key ∧
      (t.declarations.map Declaration.fields = s.declarations.map layout.fieldLines ↔
        ∀ d ∈ s.declarations, ∀ text, layout.bodyLine text ∈ layout.fieldLines d →
          LineClass.isCloser text = false) := by
  intro s t
  have hread : ∀ d ∈ s.declarations, d.IsRead (· ∈ lines content) := fun d hd =>
    isRead_of_mem_declarations hd
  obtain ⟨ks, hkeys⟩ := exists_keyOrder_ofText content
  have hdeclarations := (Schema.ofText_render hmode (fun d hd => (hread d hd).additions)
    (fun d hd => (hread d hd).isSound_written hreturn htexts) hfree hkeys).1
  have hfields : t.declarations.map Declaration.fields
      = s.declarations.map fun d => openPart (layout.fieldLines d) := by
    rw [hdeclarations, Written.map_fields_readAll]
    cases s.declarations <;> simp [Written.dropComments, Schema.written]
  refine ⟨?_, ?_⟩
  · rw [hdeclarations, Written.map_key_readAll]
    cases s.declarations <;> simp [Written.dropComments, Schema.written]
  · rw [hfields, List.map_inj_left]
    exact forall₂_congr fun d hd => openPart_fieldLines_iff (hread d hd) htexts

/-- A comment and a text for a field, none of which ends the block. -/
theorem fields_ofText_render_of_plain_texts :
    let content := "type A \x7b\n  # about, as # and \x7d\n  a: Int\n\x7d\n"
    let layout : Layout := { descriptions := ({} : Descriptions).insert .type "A" "a" "the first" }
    (Schema.ofText ((Schema.ofText content).render layout)).declarations.map Declaration.fields
      = [["  \"\"\"  about as # and \x7d\"\"\"", "  \"\"\" the first\"\"\"", "  a: Int"]] := by
  intro content layout
  have hfields : (Schema.ofText content).declarations.map layout.fieldLines
      = [["  \"\"\"  about as # and \x7d\"\"\"", "  \"\"\" the first\"\"\"", "  a: Int"]] := by
    decide +kernel
  have htexts : ∀ d ∈ (Schema.ofText content).declarations, ∀ text,
      layout.bodyLine text ∈ layout.fieldLines d → LineClass.isCloser text = false := by
    intro d hd text htext
    have hlines : layout.fieldLines d
        ∈ (Schema.ofText content).declarations.map layout.fieldLines := List.mem_map_of_mem hd
    rw [hfields, List.mem_singleton] at hlines
    rw [hlines] at htext
    have hopen : ∀ l ∈ ["  \"\"\"  about as # and \x7d\"\"\"", "  \"\"\" the first\"\"\"",
        "  a: Int"], LineClass.isCloser l = false := by
      decide +kernel
    rw [← Captions.isCloser_bodyLine layout.toCaptions text]
    exact hopen _ htext
  have hreturn : '\r' ∉ content.toList := by decide
  have hfree : EmptyInput.Free ((Schema.ofText content).assemble layout) := by decide +kernel
  rw [← hfields]
  exact (fields_ofText_render_iff hreturn rfl (by decide) hfree).2.2 htexts

/-- A comment whose closing brace ends the block when it is written as a text: all fields are
lost. -/
theorem fields_ofText_render_of_brace_in_comment :
    let content := "type A \x7b\n  # uses \x7d\n  a: Int\n\x7d\n"
    let s := Schema.ofText content
    let t := Schema.ofText (s.render {})
    '\r' ∉ content.toList ∧ EmptyInput.Free (s.assemble {}) ∧
      s.declarations.map (Captions.fieldLines {})
        = [["  \"\"\"  uses \x7d\"\"\"", "  a: Int"]] ∧
      t.declarations.map Declaration.fields = [[]] ∧
      t.declarations.map Declaration.fields ≠ s.declarations.map (Captions.fieldLines {}) := by
  decide +kernel

end

end SchemaSieve
