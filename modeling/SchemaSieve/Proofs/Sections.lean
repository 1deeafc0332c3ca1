import SchemaSieve.Proofs.BlankLines
import SchemaSieve.Proofs.BlockReading
import SchemaSieve.Proofs.ParsedLines

/-!
# The lines beside the declarations

The header of a text is made of the comments at its beginning, the scalars are all the lines that
begin as such, and what is left over describes nothing. A line that declares a scalar is also read
as any other line, so it is kept a second time. `ScalarsApart` says where it is not: then no field
is such a line.
-/

namespace SchemaSieve

open Text

namespace LineClass

variable {line : String}

theorem isScalar_eq_false_of_head? {c : Char} (h : line.toList.head? = some c) (hc : c ≠ 's') :
    isScalar line = false := by
  obtain ⟨cs, hcs⟩ := List.head?_eq_some_iff.1 h
  rw [isScalar, hcs, Bool.eq_false_iff]
  intro hprefix
  exact hc (List.cons_prefix_cons.1 (List.isPrefixOf_iff_prefix.1 hprefix)).1.symm

theorem head?_of_isScalar (h : isScalar line = true) : line.toList.head? = some 's' := by
  obtain ⟨cs, hcs⟩ := List.isPrefixOf_iff_prefix.1 h
  rw [← hcs]
  rfl

theorem ofLine_of_isScalar (h : isScalar line = true) :
    ofLine line ≠ .blank ∧ ofLine line ≠ .comment := by
  have hhead := head?_of_isScalar h
  have hblank : isBlankText line = false :=
    isBlankText_eq_false_of_mem (List.mem_of_mem_head? hhead) (by decide)
  constructor
  · rw [Ne, ofLine_eq_blank_iff, hblank]
    simp
  · rw [Ne, ofLine_eq_comment_iff, isComment, hhead]
    simp

/-- Without braces such a line is neither the beginning nor the end of a block. -/
theorem ofLine_eq_plain_of_isScalar (h : isScalar line = true)
    (hbraces : '\x7b' ∉ line.toList ∧ '\x7d' ∉ line.toList) : ofLine line = .plain := by
  obtain ⟨hblank, hcomment⟩ := ofLine_of_isScalar h
  have hopener : isOpener line = false := by
    rw [Bool.eq_false_iff]
    intro hopener
    obtain ⟨u, v, huv, -⟩ := isOpener_iff.1 hopener
    exact hbraces.1 (by simp [huv])
  have hcloser : isCloser line = false := by
    rw [Bool.eq_false_iff]
    intro hcloser
    obtain ⟨u, v, huv, -⟩ := isCloser_iff.1 hcloser
    exact hbraces.2 (by simp [huv])
  rw [Ne, ofLine_eq_blank_iff, Bool.not_eq_true] at hblank
  rw [Ne, ofLine_eq_comment_iff, not_and, Bool.not_eq_true] at hcomment
  rw [ofLine_of_not_opener hblank (hcomment hblank) hopener, hcloser]
  rfl

end LineClass

/-- The lines that declare scalars stand between the blocks, and hold no brace. -/
structure ScalarsApart (ls : List String) : Prop where
  outside : ∀ b : Block, b.IsIn ls → ∀ (i : Nat) (l : String), ls[i]? = some l →
    LineClass.isScalar l = true → ¬(b.start < i ∧ i < b.stop)
  braces : ∀ l ∈ ls, LineClass.isScalar l = true → '\x7b' ∉ l.toList ∧ '\x7d' ∉ l.toList

namespace ScalarsApart

variable {ls : List String}

theorem ofLine_eq_plain (h : ScalarsApart ls) {l : String} (hl : l ∈ ls)
    (hscalar : LineClass.isScalar l = true) : LineClass.ofLine l = .plain :=
  LineClass.ofLine_eq_plain_of_isScalar hscalar (h.braces l hl hscalar)

theorem isScalar_eq_false (h : ScalarsApart ls) {b : Block} (hb : b.IsIn ls) {l : String}
    (hl : l ∈ b.fields) : LineClass.isScalar l = false := by
  rw [Bool.eq_false_iff]
  intro hscalar
  rw [hb.fields_eq] at hl
  obtain ⟨k, hk⟩ := List.mem_iff_getElem?.1 (List.mem_filter.1 hl).1
  rw [List.getElem?_drop, List.getElem?_take] at hk
  split at hk
  · rename_i hlt
    exact h.outside b hb _ l hk hscalar ⟨by omega, hlt⟩
  · cases hk

/-- Scalars that come ahead of all blocks are apart from them. -/
theorem of_append {before after : List String}
    (hbefore : ∀ l ∈ before, LineClass.ofLine l ≠ .opener ∧ '\x7b' ∉ l.toList ∧ '\x7d' ∉ l.toList)
    (hafter : ∀ l ∈ after, LineClass.isScalar l = false) : ScalarsApart (before ++ after) := by
  constructor
  · rintro b hb i l hl hscalar ⟨hstart, -⟩
    obtain ⟨line, hopen, -⟩ := hb.opens
    have hi : i < before.length := by
      by_contra hle
      rw [List.getElem?_append_right (by omega)] at hl
      rw [hafter l (List.mem_of_getElem? hl)] at hscalar
      cases hscalar
    have hline := hopen.at_start
    rw [List.getElem?_append_left (by omega)] at hline
    exact (hbefore line (List.mem_of_getElem? hline)).1 hopen.opener
  · intro l hl hscalar
    rcases List.mem_append.1 hl with hl | hl
    · exact (hbefore l hl).2
    · rw [hafter l hl] at hscalar
      cases hscalar

end ScalarsApart

def Item.scalar? : Item → Option String
  | scalar line => some line
  | _ => none

theorem Schema.scalars_foldl_add (items : List Item) (s : Schema) :
    (items.foldl add s).scalars = s.scalars ++ items.filterMap Item.scalar? := by
  refine foldl_add_of_add (f := scalars) ?_ items s
  intro s item
  cases item <;> simp [add, insert, put, Item.scalar?]

theorem Schema.scalars_ofItems (items : List Item) :
    (ofItems items).scalars = items.filterMap Item.scalar? :=
  scalars_foldl_add items {}

theorem Place.filterMap_scalar?_finish (p : Place) : p.finish.filterMap Item.scalar? = [] := by
  rw [List.filterMap_eq_nil_iff]
  intro item hitem
  rcases mem_finish hitem with ⟨line, rfl⟩ | ⟨remark, rfl⟩ <;> rfl

namespace Reader

variable {r : Reader}

theorem filterMap_scalar?_step (r : Reader) (line : String) :
    (r.step line).2.filterMap Item.scalar? = [line].filter LineClass.isScalar := by
  have hnone : ∀ {items : List Item}, (∀ item ∈ items, Item.scalar? item = none) →
      items.filterMap Item.scalar? = [] := List.filterMap_eq_nil_iff.2
  have hnot : LineClass.ofLine line = .blank ∨ LineClass.ofLine line = .comment →
      [line].filter LineClass.isScalar = [] := by
    intro hclass
    cases hscalar : LineClass.isScalar line with
    | false => simp [hscalar]
    | true =>
        obtain ⟨hblank, hcomment⟩ := LineClass.ofLine_of_isScalar hscalar
        exact absurd hclass (not_or.2 ⟨hblank, hcomment⟩)
  cases hclass : LineClass.ofLine line with
  | blank =>
      rw [step_blank hclass, hnot (Or.inl hclass)]
      rfl
  | comment =>
      rw [hnot (Or.inr hclass)]
      cases hbody : r.inBody with
      | true =>
          rw [step_comment hclass hbody]
          rfl
      | false =>
          rw [step_header hclass hbody]
          rfl
  | opener | closer | plain =>
      rw [step_body (by simp [hclass]) (by simp [hclass]), List.filterMap_append]
      have hvisited : (visitBody (r.lineCount + 1) line r.place).2.filterMap Item.scalar? = [] := by
        refine hnone fun item hitem => ?_
        rcases mem_visitBody hitem with ⟨remark, rfl⟩ | ⟨d, rfl⟩ <;> rfl
      rw [hvisited, List.append_nil]
      cases hscalar : LineClass.isScalar line <;> simp [hscalar, Item.scalar?]

theorem filterMap_scalar?_run (r : Reader) (ls : List String) :
    (r.run ls).2.filterMap Item.scalar? = ls.filter LineClass.isScalar := by
  induction ls generalizing r with
  | nil => rfl
  | cons line ls ih =>
      rw [run_cons, List.filterMap_append, filterMap_scalar?_step, ih, ← List.filter_append,
        List.singleton_append]

/-- The header goes up to the first line that is neither blank nor a comment. -/
theorem filterMap_header?_run (hbody : r.inBody = false) (ls : List String) :
    (r.run ls).2.filterMap Item.header? = (filledLines ls).takeWhile LineClass.isComment := by
  induction ls generalizing r with
  | nil => rfl
  | cons line ls ih =>
      cases hblank : isBlankText line with
      | true =>
          rw [run_cons, step_blank (LineClass.ofLine_eq_blank_iff.2 hblank),
            filledLines_cons_of_blank hblank]
          exact ih hbody
      | false =>
          rw [run_cons, List.filterMap_append, filledLines_cons_of_filled hblank]
          cases hcomment : LineClass.isComment line with
          | true =>
              rw [step_header (LineClass.ofLine_eq_comment_iff.2 ⟨hblank, hcomment⟩) hbody,
                ih (by exact hbody), List.takeWhile_cons_of_pos hcomment]
              rfl
          | false =>
              have hblank' : LineClass.ofLine line ≠ .blank := by
                simp [LineClass.ofLine_eq_blank_iff, hblank]
              have hcomment' : LineClass.ofLine line ≠ .comment := by
                simp [LineClass.ofLine_eq_comment_iff, hcomment]
              obtain ⟨hinBody, hitems⟩ := @step_inBody { r with inBody := true } line rfl
              rw [step_start hblank' hcomment', hitems, (run_inBody hinBody ls).2,
                List.takeWhile_cons_of_neg (by simp [hcomment])]
              rfl

end Reader

variable {content l : String}

theorem scalars_ofText (content : String) :
    (Schema.ofText content).scalars = (lines content).filter LineClass.isScalar := by
  rw [Schema.ofText, Schema.scalars_ofItems, Item.ofText, List.filterMap_append,
    Place.filterMap_scalar?_finish, List.append_nil, Reader.filterMap_scalar?_run]

theorem header_ofText_eq (content : String) :
    (Schema.ofText content).header
      = (filledLines (lines content)).takeWhile LineClass.isComment := by
  rw [header_ofText, Reader.filterMap_header?_run rfl]

theorem mem_header_ofText (hl : l ∈ (Schema.ofText content).header) :
    l ∈ lines content ∧ LineClass.ofLine l = .comment := by
  rw [header_ofText_eq] at hl
  obtain ⟨hmem, hfilled⟩ := List.mem_filter.1 ((List.takeWhile_sublist _).mem hl)
  refine ⟨hmem, LineClass.ofLine_eq_comment_iff.2 ⟨by simpa using hfilled, ?_⟩⟩
  exact List.mem_takeWhile_imp hl

/-- What is left over at the end of a text could describe one more declaration. -/
theorem describingLine_of_mem_trailing (hl : l ∈ (Schema.ofText content).trailing) :
    DescribingLine (· ∈ lines content) l := by
  have hplace := (Reader.run_isRead (P := (· ∈ lines content)) (r := {}) (by simp [Place.IsRead])
    fun l hl => hl).1
  cases hp : (Reader.run {} (lines content)).1.place with
  | outside pending =>
      rw [hp] at hplace
      rw [trailing_ofText hp] at hl
      exact hplace l hl
  | inside b =>
      rw [trailing_ofText_of_inside hp] at hl
      cases hl

theorem isScalar_eq_false_of_mem_fields (h : ScalarsApart (lines content)) {d : Declaration}
    (hd : d ∈ (Schema.ofText content).declarations) (hl : l ∈ d.fields) :
    LineClass.isScalar l = false := by
  rw [declarations_ofText, Schema.declarations_foldl_insert] at hd
  obtain ⟨k, -, hk⟩ := List.mem_filterMap.1 hd
  obtain ⟨b, hb, hdescribes, -⟩ := (Reader.run_blocks (lines content)).2.exists_last hk
  rw [hdescribes.fields_eq] at hl
  exact h.isScalar_eq_false hb hl

end SchemaSieve
