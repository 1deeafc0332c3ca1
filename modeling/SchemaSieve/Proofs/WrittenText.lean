import SchemaSieve.Proofs.Rereading

/-!
# Reading written documents

What a reader makes of the text of a schema: one declaration for each that was written, and the
comments that describe the first one as the header. An empty line ahead of a declaration changes
nothing, and the lines that its body leaves over describe the next one.
-/

namespace SchemaSieve

open Text

/-- A declaration as it is written: the lines that describe it, its opening line and its body. -/
structure Written where
  declaration : Declaration
  description : List String
  body : List String

namespace Written

def lines (w : Written) : List String :=
  w.description ++ w.declaration.header :: (w.body ++ ["\x7d"])

/-- Every line comes back as a line of its own, and none but the opening line opens a block. -/
structure IsSound (w : Written) : Prop where
  words : w.declaration.HasWords
  description : ∀ l ∈ w.description, PendingLine l ∧ IsLine l
  body : ∀ l ∈ w.body, BodyLine l ∧ IsLine l

/-- The declaration that is read where some lines wait for the next block. -/
def readAfter (before : List String) (w : Written) : Declaration where
  kind := w.declaration.kind
  name := w.declaration.name
  description := before ++ keptLines w.description
  clause := w.declaration.clause
  fields := openPart w.body

def dropComments (w : Written) : Written :=
  { w with description := w.description.dropWhile LineClass.isComment }

/-- The declarations that are read, and the lines that wait behind them. -/
def readAll : List String → List Written → List Declaration × List String
  | before, [] => ([], before)
  | before, w :: ws =>
    let later := readAll (leftOver w.body) ws
    (w.readAfter before :: later.1, later.2)

variable {w : Written}

theorem IsSound.isLine (h : w.IsSound) : ∀ l ∈ w.lines, IsLine l := by
  intro l hl
  rcases List.mem_append.1 hl with hl | hl
  · exact (h.description l hl).2
  · rcases List.mem_cons.1 hl with rfl | hl
    · exact w.declaration.isLine_header h.words
    · rcases List.mem_append.1 hl with hl | hl
      · exact (h.body l hl).2
      · rw [List.mem_singleton.1 hl]
        exact ⟨by decide, by decide⟩

theorem IsSound.dropComments (h : w.IsSound) : w.dropComments.IsSound :=
  ⟨h.words, fun l hl => h.description l ((List.dropWhile_sublist _).mem hl), h.body⟩

theorem map_key_readAll (before : List String) (ws : List Written) :
    (readAll before ws).1.map Declaration.key = ws.map (·.declaration.key) := by
  induction ws generalizing before with
  | nil => rfl
  | cons w ws ih => simp [readAll, ih, readAfter, Declaration.key]

theorem map_fields_readAll (before : List String) (ws : List Written) :
    (readAll before ws).1.map Declaration.fields = ws.map fun w => openPart w.body := by
  induction ws generalizing before with
  | nil => rfl
  | cons w ws ih => simp [readAll, ih, readAfter]

theorem reads (h : w.IsSound) (before : List String) :
    Reads (.outside before) w.lines (.outside (leftOver w.body)) [w.readAfter before] :=
  Reads.block h.words (fun l hl => (h.description l hl).1) (fun l hl => (h.body l hl).1) before

theorem reads_all {ws : List Written} (h : ∀ w ∈ ws, w.IsSound) (before : List String) :
    Reads (.outside before) (ws.flatMap fun w => "" :: w.lines) (.outside (readAll before ws).2)
      (readAll before ws).1 := by
  induction ws generalizing before with
  | nil => exact Reads.nil _
  | cons w ws ih =>
      have hblank : Reads (.outside before) [""] (.outside before) [] := Reads.blank rfl _
      have hw := hblank.cons (reads (h w (by simp)) before)
      exact hw.append (ih (fun v hv => h v (by simp [hv])) _)

/-- The first line is the opening line, if no line describes the declaration. -/
theorem exists_lines (w : Written) :
    ∃ l ls, w.lines = l :: ls ∧ (l = w.declaration.header ∨ w.description.head? = some l) := by
  cases hdescription : w.description with
  | nil =>
      refine ⟨w.declaration.header, w.body ++ ["\x7d"], ?_, Or.inl rfl⟩
      rw [lines, hdescription, List.nil_append]
  | cons l ls =>
      refine ⟨l, ls ++ w.declaration.header :: (w.body ++ ["\x7d"]), ?_, Or.inr rfl⟩
      rw [lines, hdescription, List.cons_append]

theorem IsSound.exists_lines (h : w.IsSound) :
    ∃ l ls, w.lines = l :: ls ∧ LineClass.ofLine l ≠ .blank := by
  obtain ⟨l, ls, hlines, hfirst⟩ := w.exists_lines
  refine ⟨l, ls, hlines, ?_⟩
  rcases hfirst with rfl | hfirst
  · simp [w.declaration.ofLine_header]
  · exact (h.description l (List.mem_of_head? hfirst)).1.1

theorem IsSound.exists_lines_dropComments (h : w.IsSound) :
    ∃ l ls, w.dropComments.lines = l :: ls ∧ LineClass.ofLine l ≠ .blank ∧
      LineClass.ofLine l ≠ .comment := by
  obtain ⟨l, ls, hlines, hfirst⟩ := w.dropComments.exists_lines
  refine ⟨l, ls, hlines, ?_⟩
  rcases hfirst with rfl | hfirst
  · simp [w.dropComments.declaration.ofLine_header]
  · have hcomment : ¬LineClass.isComment l = true := by
      have hhead := List.head?_dropWhile_not LineClass.isComment w.description
      change (w.description.dropWhile LineClass.isComment).head? = some l at hfirst
      rw [hfirst] at hhead
      simpa using hhead
    refine ⟨(h.dropComments.description l (List.mem_of_head? hfirst)).1.1, ?_⟩
    exact fun hl => hcomment (LineClass.ofLine_eq_comment_iff.1 hl).2

end Written

namespace Reader

theorem run_header {r : Reader} (hbody : r.inBody = false) {ls : List String}
    (h : ∀ l ∈ ls, LineClass.ofLine l = .comment) :
    r.run ls = ({ r with lineCount := r.lineCount + ls.length }, ls.map .header) := by
  induction ls generalizing r with
  | nil => rfl
  | cons l ls ih =>
      have hrest := ih (r := { r with lineCount := r.lineCount + 1 }) hbody
        fun m hm => h m (by simp [hm])
      rw [run_cons, step_header (h l (by simp)) hbody, hrest]
      simp [Nat.add_assoc, Nat.add_comm 1]

/-- A text that begins with a declaration is read like a part of a longer text, the comments at its
beginning apart. -/
theorem run_written {w : Written} {ws : List Written} (h : ∀ v ∈ w :: ws, v.IsSound) :
    let r := run {} (w.lines ++ ws.flatMap fun v => "" :: v.lines)
    r.1.place = .outside (Written.readAll [] (w :: ws)).2 ∧
      r.2.filterMap Item.declaration? = (Written.readAll [] (w.dropComments :: ws)).1 ∧
      r.2.filterMap Item.header? = w.description.takeWhile LineClass.isComment := by
  have hw : w.IsSound := h w List.mem_cons_self
  have hws : ∀ v ∈ ws, v.IsSound := fun v hv => h v (List.mem_cons_of_mem w hv)
  have hcomments : ∀ l ∈ w.description.takeWhile LineClass.isComment,
      LineClass.ofLine l = .comment := by
    intro l hl
    rw [LineClass.ofLine_eq_comment_iff]
    have hpending := (hw.description l ((List.takeWhile_sublist _).mem hl)).1
    rw [PendingLine, Ne, LineClass.ofLine_eq_blank_iff, Bool.not_eq_true] at hpending
    exact ⟨hpending.1, List.mem_takeWhile_imp hl⟩
  have hsplit : w.lines ++ (ws.flatMap fun v => "" :: v.lines)
      = w.description.takeWhile LineClass.isComment
        ++ (w.dropComments.lines ++ ws.flatMap fun v => "" :: v.lines) := by
    have htake := List.takeWhile_append_dropWhile (p := LineClass.isComment) (l := w.description)
    rw [← List.append_assoc]
    congr 1
    rw [Written.lines, Written.lines, Written.dropComments, ← List.append_assoc, htake]
  obtain ⟨l, ls, hls, hblank, hcomment⟩ := hw.exists_lines_dropComments
  have hreads := (Written.reads hw.dropComments []).append
    (Written.reads_all hws (leftOver w.body))
  intro r
  have hr : r = run {} (w.lines ++ ws.flatMap fun v => "" :: v.lines) := rfl
  rw [hsplit, run_append, run_header rfl hcomments] at hr
  generalize hn : ({} : Reader).lineCount + _ = n at hr
  -- The first line after the comments is read as if the body had begun before it.
  have hstart : run { lineCount := n } (w.dropComments.lines ++ ws.flatMap fun v => "" :: v.lines)
      = run { lineCount := n, inBody := true }
          (w.dropComments.lines ++ ws.flatMap fun v => "" :: v.lines) := by
    rw [hls, List.cons_append, run_cons, step_start hblank hcomment, run_cons]
  obtain ⟨hplace, hdeclared⟩ := hreads { lineCount := n, inBody := true } rfl rfl
  have hheader := (run_inBody (r := { lineCount := n, inBody := true }) rfl
    (w.dropComments.lines ++ ws.flatMap fun v => "" :: v.lines)).2
  rw [hr, hstart]
  refine ⟨hplace, ?_, ?_⟩
  · rw [List.filterMap_append, hdeclared]
    simp [Item.declaration?, List.filterMap_map, Function.comp_def, Written.readAll,
      Written.dropComments]
  · rw [List.filterMap_append, hheader]
    simp [Item.header?, List.filterMap_map, Function.comp_def]

end Reader

namespace Schema

variable {s : Schema} {layout : Layout}

def written (layout : Layout) (d : Declaration) : Written :=
  ⟨d, layout.descriptionLines d, layout.fieldLines d⟩

theorem documentLines_eq (hmode : layout.preserving = false)
    (hadd : ∀ d ∈ s.declarations, d.additions = []) :
    s.documentLines layout
      = (s.declarations.map (written layout)).flatMap fun w => "" :: w.lines := by
  have hleading : s.leadingLines layout = [] := by simp [leadingLines, hmode]
  have htrailing : s.trailingLines layout = [] := by simp [trailingLines, hmode]
  rw [documentLines, hleading, htrailing, List.nil_append, List.append_nil, List.flatMap_map]
  refine List.flatMap_congr fun d hd => ?_
  simp [declarationLines, isHoisted, hmode, hadd d hd, Written.lines, written]

/-- The lines of a written text are those of its declarations, without the empty one at the
beginning. -/
theorem lines_render (hmode : layout.preserving = false)
    (hadd : ∀ d ∈ s.declarations, d.additions = [])
    (hsound : ∀ d ∈ s.declarations, (written layout d).IsSound)
    (hfree : EmptyInput.Free (s.assemble layout)) :
    lines (s.render layout)
      = ((s.declarations.map (written layout)).flatMap fun w => "" :: w.lines).tail := by
  have hline : ∀ l ∈ s.documentLines layout, IsLine l := by
    rw [documentLines_eq hmode hadd]
    intro l hl
    obtain ⟨w, hw, hl⟩ := List.mem_flatMap.1 hl
    obtain ⟨d, hd, rfl⟩ := List.mem_map.1 hw
    rcases List.mem_cons.1 hl with rfl | hl
    · exact ⟨by decide, by decide⟩
    · exact (hsound d hd).isLine l hl
  rw [render, EmptyInput.remove_of_free hfree, assemble, lines_dropLineBreaks_unlines hline,
    documentLines_eq hmode hadd]
  cases hds : s.declarations with
  | nil => rfl
  | cons d ds =>
      -- The first line behind the empty one holds something.
      obtain ⟨l, ls, hls, hblank⟩ := (hsound d (by simp [hds])).exists_lines
      have hne : l ≠ "" := by
        rintro rfl
        exact hblank rfl
      rw [List.map_cons, List.flatMap_cons, List.cons_append,
        List.dropWhile_cons_of_pos (by simp), List.tail_cons, hls, List.cons_append,
        List.dropWhile_cons_of_neg (by simpa using hne)]

/-- Reading what was written. The comments that describe the first declaration become the header. -/
theorem ofText_render (hmode : layout.preserving = false)
    (hadd : ∀ d ∈ s.declarations, d.additions = [])
    (hsound : ∀ d ∈ s.declarations, (written layout d).IsSound)
    (hfree : EmptyInput.Free (s.assemble layout)) {ks : List (Kind × String)}
    (hkeys : s.declarations.map Declaration.key = keyOrder ks) :
    let ws := s.declarations.map (written layout)
    let t := ofText (s.render layout)
    t.declarations = (Written.readAll [] (ws.modifyHead Written.dropComments)).1 ∧
      t.header = ((ws.map Written.description).headD []).takeWhile LineClass.isComment ∧
      t.trailing = (Written.readAll [] ws).2 := by
  intro ws t
  have hlines := lines_render hmode hadd hsound hfree
  have hws : ∀ w ∈ ws, w.IsSound := by
    intro w hw
    obtain ⟨d, hd, rfl⟩ := List.mem_map.1 hw
    exact hsound d hd
  have hkeys' : ws.map (·.declaration.key) = keyOrder ks := by
    rw [← hkeys, List.map_map]
    rfl
  change lines (s.render layout) = (ws.flatMap fun w => "" :: w.lines).tail at hlines
  cases hcons : ws with
  | nil =>
      rw [hcons] at hlines
      have hrun : Reader.run {} (lines (s.render layout)) = ({}, []) := by rw [hlines]; rfl
      refine ⟨?_, ?_, ?_⟩
      · rw [declarations_ofText, hrun]
        rfl
      · rw [header_ofText, hrun]
        rfl
      · exact trailing_ofText (by rw [hrun]; rfl)
  | cons w ws' =>
      rw [hcons] at hws hlines hkeys'
      obtain ⟨hplace, hdeclared, hheader⟩ := Reader.run_written hws
      change lines (s.render layout) = w.lines ++ ws'.flatMap fun v => "" :: v.lines at hlines
      rw [← hlines] at hplace hdeclared hheader
      refine ⟨?_, ?_, ?_⟩
      · rw [declarations_ofText, hdeclared]
        have hkeysRead : (Written.readAll [] (w.dropComments :: ws')).1.map Declaration.key
            = keyOrder ks := by
          rw [Written.map_key_readAll, ← hkeys']
          rfl
        exact declarations_foldl_insert_of_keyOrder hkeysRead
      · rw [header_ofText, hheader]
        rfl
      · exact trailing_ofText hplace

end Schema

end SchemaSieve
