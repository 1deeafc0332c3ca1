import SchemaSieve.Proofs.BlockReading
import SchemaSieve.Proofs.FieldNames

/-!
# Where argument lists are open

Reader and writer take the same steps from field to field, but the writer turns indented comments
into descriptions first, and to the reader they are lines like any other. No comment begins a list,
but one may end it. `openAfter_iff` says what this makes of the two flags: where a list is open for
the reader it is open for the writer as well, and not the other way if a comment has ended it. So
`inArguments_iff` can tell for every text where the reader finds a list open in a block, and of
which blocks it remarks that they were closed in one.
-/

namespace SchemaSieve

open Text

namespace Captions

variable {ls ms fields : List String} {l : String}

/-- A comment ends a list, and no line behind it begins one. -/
def CommentEndsList (ls : List String) : Prop :=
  ∃ before line after, ls = before ++ line :: after ∧ (comment? line).isSome ∧
    EndsList line.toList ∧ ∀ l ∈ after, ArgumentList.opensAt l = false

theorem opensAt_eq_false_of_comment (h : (comment? l).isSome) : ArgumentList.opensAt l = false := by
  rw [← Bool.not_eq_true, opensAt_iff]
  rintro ⟨name, htoken⟩
  obtain ⟨rest, hbegins⟩ := exists_beginsWith htoken
  rw [hbegins.comment?_eq_none] at h
  cases h

theorem commentEndsList_concat :
    CommentEndsList (ls ++ [l]) ↔
      ((comment? l).isSome ∧ EndsList l.toList) ∨
        CommentEndsList ls ∧ ArgumentList.opensAt l = false := by
  constructor
  · rintro ⟨before, line, after, hls, hcomment, hends, hafter⟩
    rcases List.eq_nil_or_concat' after with rfl | ⟨after, last, rfl⟩
    · obtain ⟨rfl, rfl⟩ := List.append_singleton_inj.1 hls
      exact Or.inl ⟨hcomment, hends⟩
    · rw [← List.cons_append, ← List.append_assoc] at hls
      obtain ⟨rfl, rfl⟩ := List.append_singleton_inj.1 hls
      exact Or.inr ⟨⟨before, line, after, rfl, hcomment, hends,
        fun m hm => hafter m (List.mem_append_left _ hm)⟩, hafter l (by simp)⟩
  · rintro (⟨hcomment, hends⟩ | ⟨⟨before, line, after, rfl, hcomment, hends, hafter⟩, hopens⟩)
    · exact ⟨ls, l, [], rfl, hcomment, hends, by simp⟩
    · refine ⟨before, line, after ++ [l], by simp, hcomment, hends, ?_⟩
      exact List.forall_mem_append.2 ⟨hafter, List.forall_mem_singleton.2 hopens⟩

/-- To the reader a list is open if it is to the writer and no comment has ended it. -/
theorem openAfter_iff (ls : List String) :
    ArgumentList.openAfter false ls = true ↔
      ls.foldl track false = true ∧ ¬CommentEndsList ls := by
  -- At the end of the lines, where both take their next step.
  induction ls using List.reverseRecOn with
  | nil => simp [ArgumentList.openAfter]
  | append_singleton ls l ih =>
      rw [ArgumentList.openAfter] at ih ⊢
      rw [List.foldl_concat, List.foldl_concat, commentEndsList_concat, ← hasListEnd_iff,
        ← ArgumentList.closesAt, track, ArgumentList.next, Bool.and_eq_true, Bool.or_eq_true, ih]
      -- A comment opens nothing, and only the reader looks at what it ends.
      cases hcomment : comment? l with
      | some text =>
          have hopens := opensAt_eq_false_of_comment (l := l) (by simp [hcomment])
          cases hcloses : ArgumentList.closesAt l <;> simp [hopens]
      | none =>
          cases hopens : ArgumentList.opensAt l <;> cases hcloses : ArgumentList.closesAt l <;>
            simp [ArgumentList.next, hopens, hcloses]

theorem captionedLines_append (c : Captions) (texts : OrderedMap String String) (isOpen : Bool)
    (ls ms : List String) :
    c.captionedLines texts isOpen (ls ++ ms)
      = c.captionedLines texts isOpen ls ++ c.captionedLines texts (ls.foldl track isOpen) ms := by
  induction ls generalizing isOpen with
  | nil => rfl
  | cons l ls ih =>
      rw [List.cons_append, captionedLines, ih, captionedLines, List.foldl_cons, List.append_assoc]

/-- Behind these fields a line is taken for one of an argument list: whatever is described, nothing
is written above it. -/
def Continues (fields : List String) : Prop :=
  ∀ (c : Captions) (d : Declaration) (line : String), lines line = [line] →
    comment? line = none →
    c.fieldLines { d with fields := fields ++ [line] }
      = c.fieldLines { d with fields := fields } ++ [line]

theorem fieldLines_concat (c : Captions) (d : Declaration) (hl : lines l = [l]) :
    c.fieldLines { d with fields := fields ++ [l] }
      = c.fieldLines { d with fields := fields }
        ++ c.captionedLine ((c.descriptions.fieldsOf? d.kind d.name).getD ∅)
          ((fields.flatMap lines).foldl track false) l := by
  simp only [fieldLines, List.flatMap_append, List.flatMap_singleton, hl, captionedLines_append]
  rw [captionedLines, captionedLines, List.append_nil]

/-- The flag of the writer is what shows in the text. -/
theorem continues_iff :
    Continues fields ↔ (fields.flatMap lines).foldl track false = true := by
  constructor
  · intro h
    by_contra hopen
    rw [Bool.not_eq_true] at hopen
    -- A described field would be described here.
    have hline : lines "a: Int" = ["a: Int"] := by decide
    have hsame := h { descriptions := ({} : Descriptions).insert .type "A" "a" "b" }
      { kind := .type, name := "A" } "a: Int" hline (by decide)
    rw [fieldLines_concat _ _ hline, hopen, List.append_cancel_left_eq] at hsame
    exact absurd (congrArg List.length hsame) (by decide)
  · intro hopen c d line hline hcomment
    rw [fieldLines_concat c d hline, hopen, captionedLine, hcomment]
    rfl

end Captions

/-- The plain lines behind one line and ahead of another. -/
def plainLines (ls : List String) (i j : Nat) : List String :=
  ((ls.take j).drop (i + 1)).filter fun line => LineClass.ofLine line = .plain

/-- The flag of an open block goes with its fields. -/
def Place.FollowsLists (p : Place) : Prop :=
  ∀ b, p = .inside b → b.inArguments = ArgumentList.openAfter false b.fields

namespace Place

variable {p : Place}

theorem followsLists_outside (pending : List String) : (outside pending).FollowsLists :=
  fun _ h => by cases h

theorem FollowsLists.describe (h : p.FollowsLists) (line : String) :
    (p.describe line).FollowsLists := by
  cases p with
  | outside pending => exact followsLists_outside _
  | inside b =>
      rintro _ ⟨⟩
      exact h b rfl

theorem FollowsLists.addPlain (h : p.FollowsLists) (line : String) :
    (p.addPlain line).FollowsLists := by
  cases p with
  | outside pending => exact followsLists_outside _
  | inside b =>
      rintro _ ⟨⟩
      rw [ArgumentList.openAfter, List.foldl_concat, ← ArgumentList.openAfter, ← h b rfl]

theorem followsLists_openBlock (p : Place) (n : Nat) (line : String) :
    (p.openBlock n line).1.FollowsLists := by
  rintro _ ⟨⟩
  rfl

theorem followsLists_closeBlock (p : Place) (n : Nat) : (p.closeBlock n).1.FollowsLists := by
  cases p with
  | outside pending => exact followsLists_outside _
  | inside b =>
      rw [(closeBlock_inside b n).1]
      exact followsLists_outside _

theorem closedInArguments_not_mem_finish {name : String} {n : Nat} (p : Place) :
    Item.remark (.closedInArguments name n) ∉ p.finish := by
  cases p <;> simp [finish]

theorem closedInArguments_not_mem_openBlock {name : String} {n k : Nat} {line : String}
    (p : Place) :
    Item.remark (.closedInArguments name n) ∉ (p.openBlock k line).2 := by
  rcases p with pending | ⟨⟨_ | kind, name, clause⟩, description, fields, inArguments⟩ <;>
    simp [openBlock, handOver]

theorem closedInArguments_mem_closeBlock_iff {name : String} {n k : Nat} :
    Item.remark (.closedInArguments name n) ∈ (p.closeBlock k).2 ↔
      n = k ∧ ∃ b, p = .inside b ∧ name = b.opening.name ∧ b.inArguments = true := by
  cases p with
  | outside pending => simp [closeBlock]
  | inside b =>
      have hremarks : Item.remark (.closedInArguments name n) ∈ ((inside b).closeBlock k).2 ↔
          Item.remark (.closedInArguments name n) ∈
            if b.inArguments then [Item.remark (.closedInArguments b.opening.name k)] else [] := by
        cases hkind : b.opening.kind? <;> simp [closeBlock, hkind]
      rw [hremarks]
      cases hopen : b.inArguments <;> simp [hopen, and_comm]

end Place

namespace Reader

variable {ls : List String} {r : Reader} {b : OpenBlock} {i j n : Nat} {l opener name : String}

theorem step_followsLists (h : r.place.FollowsLists) (l : String) :
    (r.step l).1.place.FollowsLists := by
  cases hclass : LineClass.ofLine l with
  | blank => rwa [step_blank hclass]
  | comment =>
      cases hbody : r.inBody with
      | true =>
          rw [step_comment hclass hbody]
          exact h.describe l
      | false => rwa [step_header hclass hbody]
  | opener =>
      rw [(step_opener hclass).1]
      exact r.place.followsLists_openBlock _ l
  | closer =>
      rw [(step_closer hclass).1]
      exact r.place.followsLists_closeBlock _
  | plain =>
      rw [(step_plain hclass).1]
      exact h.addPlain l

theorem run_followsLists (ls : List String) : (run {} ls).1.place.FollowsLists := by
  induction ls using List.reverseRecOn with
  | nil => exact Place.followsLists_outside []
  | append_singleton ls l ih =>
      rw [run_concat]
      exact step_followsLists ih l

theorem closedInArguments_mem_step_iff :
    Item.remark (.closedInArguments name n) ∈ (r.step l).2 ↔
      LineClass.ofLine l = .closer ∧ n = r.lineCount + 1 ∧
        ∃ b, r.place = .inside b ∧ name = b.opening.name ∧ b.inArguments = true := by
  have hscalar : Item.remark (.closedInArguments name n)
      ∉ if LineClass.isScalar l then [Item.scalar l] else [] := by
    split <;> simp
  cases hclass : LineClass.ofLine l with
  | blank => simp [step_blank hclass]
  | comment =>
      cases hbody : r.inBody with
      | true => simp [step_comment hclass hbody]
      | false => simp [step_header hclass hbody]
  | opener =>
      rw [step_body (by simp [hclass]) (by simp [hclass]), List.mem_append, visitBody, hclass]
      simp [hscalar, Place.closedInArguments_not_mem_openBlock]
  | closer =>
      rw [step_body (by simp [hclass]) (by simp [hclass]), List.mem_append, visitBody, hclass,
        or_iff_right hscalar, Place.closedInArguments_mem_closeBlock_iff]
      simp
  | plain =>
      rw [step_body (by simp [hclass]) (by simp [hclass]), List.mem_append, visitBody, hclass]
      simp [hscalar]

/-- A block that is open ahead of a line is the one the reader is in there. -/
theorem exists_inside (hj : j ≤ ls.length) (h : OpenAhead ls i j opener) :
    ∃ b, (run {} (ls.take j)).1.place = .inside b ∧ b.opening = Opening.ofLine opener ∧
      b.fields = plainLines ls i j := by
  have hahead := (OpenAhead.take_iff hj).2 h
  have hstands := (run_blocks (ls.take j)).1
  cases hplace : (run {} (ls.take j)).1.place with
  | outside pending =>
      rw [hplace] at hstands
      exact absurd hahead (hstands i opener)
  | inside b =>
      rw [hplace] at hstands
      obtain ⟨i', opener', hahead', hopening, hfields⟩ := hstands
      obtain rfl := hahead.start_eq hahead'
      obtain rfl : opener = opener' :=
        Option.some.inj (hahead.at_start.symm.trans hahead'.at_start)
      exact ⟨b, rfl, hopening, hfields⟩

/-- A block the reader is in is one that is open there. -/
theorem exists_openAhead (hj : j ≤ ls.length) (h : (run {} (ls.take j)).1.place = .inside b) :
    ∃ i opener, OpenAhead ls i j opener ∧ b.opening = Opening.ofLine opener ∧
      b.fields = plainLines ls i j := by
  have hstands := (run_blocks (ls.take j)).1
  rw [h] at hstands
  obtain ⟨i, opener, hahead, hopening, hfields⟩ := hstands
  exact ⟨i, opener, (OpenAhead.take_iff hj).1 hahead, hopening, hfields⟩

end Reader

/-- The remark is made at the closing lines that find a list open. -/
theorem closedInArguments_mem_ofText_iff {content name : String} {n : Nat} :
    .remark (.closedInArguments name n) ∈ Item.ofText content ↔
      ∃ j closer b, (lines content)[j]? = some closer ∧ LineClass.ofLine closer = .closer ∧
        n = j + 1 ∧ (Reader.run {} ((lines content).take j)).1.place = .inside b ∧
        name = b.opening.name ∧ b.inArguments = true := by
  have hitems : .remark (.closedInArguments name n) ∈ Item.ofText content ↔
      .remark (.closedInArguments name n) ∈ (Reader.run {} (lines content)).2 := by
    simp [Item.ofText, Place.closedInArguments_not_mem_finish]
  have hcount : ∀ j closer, (lines content)[j]? = some closer →
      (Reader.run {} ((lines content).take j)).1.lineCount = j := by
    intro j closer hcloser
    rw [Reader.lineCount_run, Nat.zero_add]
    exact List.length_take_of_le (List.getElem?_eq_some_iff.1 hcloser).1.le
  rw [hitems, Reader.mem_run_iff]
  simp only [Reader.closedInArguments_mem_step_iff]
  constructor
  · rintro ⟨j, closer, hcloser, hclass, hn, b, hplace, hname, hopen⟩
    exact ⟨j, closer, b, hcloser, hclass, hcount j closer hcloser ▸ hn, hplace, hname, hopen⟩
  · rintro ⟨j, closer, b, hcloser, hclass, hn, hplace, hname, hopen⟩
    refine ⟨j, closer, hcloser, hclass, ?_, b, hplace, hname, hopen⟩
    rw [hcount j closer hcloser, hn]

/-- The flag of a block is that of the writer behind its fields, unless a comment ends a list. -/
theorem inArguments_iff_of_inside {content : String} {i j : Nat} {b : OpenBlock}
    (hplace : (Reader.run {} ((lines content).take j)).1.place = .inside b)
    (hfields : b.fields = plainLines (lines content) i j) :
    b.inArguments = true ↔
      (b.fields.flatMap lines).foldl Captions.track false = true ∧
        ¬Captions.CommentEndsList b.fields := by
  have hplain : ∀ l ∈ b.fields, FieldLine (· ∈ lines content) l := by
    intro l hl
    rw [hfields, plainLines, List.mem_filter] at hl
    exact ⟨List.mem_of_mem_take (List.mem_of_mem_drop hl.1), of_decide_eq_true hl.2⟩
  rw [flatMap_lines_of_fieldLine hplain, Reader.run_followsLists _ b hplace, Captions.openAfter_iff]

/-- **Reader and writer see the same argument lists, but for those that a comment ends.** In an open
block the reader keeps just the plain lines so far, and finds a list open behind them if the writer
does and no comment has ended it. It remarks on the closing lines ahead of which this is so. -/
theorem inArguments_iff (content : String) :
    (∀ i j opener, j ≤ (lines content).length → OpenAhead (lines content) i j opener →
      ∃ b, (Reader.run {} ((lines content).take j)).1.place = .inside b ∧
        b.opening = Opening.ofLine opener ∧ b.fields = plainLines (lines content) i j ∧
        (b.inArguments = true ↔
          (b.fields.flatMap lines).foldl Captions.track false = true ∧
            ¬Captions.CommentEndsList b.fields)) ∧
      ∀ name n, .remark (.closedInArguments name n) ∈ Item.ofText content ↔
        ∃ i j opener closer, OpenAhead (lines content) i j opener ∧
          (lines content)[j]? = some closer ∧ LineClass.ofLine closer = .closer ∧
          n = j + 1 ∧ name = (Opening.ofLine opener).name ∧
          Captions.Continues (plainLines (lines content) i j) ∧
            ¬Captions.CommentEndsList (plainLines (lines content) i j) := by
  refine ⟨fun i j opener hj hahead => ?_, fun name n => ?_⟩
  · obtain ⟨b, hplace, hopening, hfields⟩ := Reader.exists_inside hj hahead
    exact ⟨b, hplace, hopening, hfields, inArguments_iff_of_inside hplace hfields⟩
  · rw [closedInArguments_mem_ofText_iff]
    simp only [Captions.continues_iff]
    constructor
    · rintro ⟨j, closer, b, hcloser, hclass, hn, hplace, hname, hopen⟩
      have hj : j ≤ (lines content).length := (List.getElem?_eq_some_iff.1 hcloser).1.le
      obtain ⟨i, opener, hahead, hopening, hfields⟩ := Reader.exists_openAhead hj hplace
      exact ⟨i, j, opener, closer, hahead, hcloser, hclass, hn, hopening ▸ hname,
        hfields ▸ (inArguments_iff_of_inside hplace hfields).1 hopen⟩
    · rintro ⟨i, j, opener, closer, hahead, hcloser, hclass, hn, hname, hopen⟩
      have hj : j ≤ (lines content).length := (List.getElem?_eq_some_iff.1 hcloser).1.le
      obtain ⟨b, hplace, hopening, hfields⟩ := Reader.exists_inside hj hahead
      exact ⟨j, closer, b, hcloser, hclass, hn, hplace, hopening ▸ hname,
        (inArguments_iff_of_inside hplace hfields).2 (hfields ▸ hopen)⟩

/-- A comment ends the list for the reader, and the writer goes on with it. -/
theorem not_inArguments_of_comment :
    let content := "type A \x7b\n  author(\n    # old): Int\n\x7d\n"
    (∃ b, (Reader.run {} ((lines content).take 3)).1.place = .inside b ∧
      b.fields = plainLines (lines content) 0 3 ∧ b.inArguments = false ∧
      (b.fields.flatMap lines).foldl Captions.track false = true) ∧
    Captions.Continues (plainLines (lines content) 0 3) ∧
      .remark (.closedInArguments "A" 4) ∉ Item.ofText content := by
  refine ⟨⟨⟨⟨some .type, "A", []⟩, [], ["  author(", "    # old): Int"], false⟩, ?_⟩, ?_, ?_⟩
  · decide +kernel
  · rw [Captions.continues_iff]
    decide +kernel
  · decide +kernel

end SchemaSieve
