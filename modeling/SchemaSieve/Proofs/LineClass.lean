import SchemaSieve.Schema.Line
import Mathlib.Data.List.DropRight
import Mathlib.Data.List.TakeWhile

/-!
# Classes of lines

What the tests of a line say of its characters, and how the class of a line follows from them.
-/

namespace SchemaSieve

open Text

namespace Text

theorem dropTrailing_eq_rdropWhile (p : Char → Bool) (cs : List Char) :
    dropTrailing p cs = cs.rdropWhile p := rfl

theorem rdropWhile_append_of_pos {p : Char → Bool} {bs : List Char} (h : ∀ c ∈ bs, p c = true)
    (cs : List Char) : (cs ++ bs).rdropWhile p = cs.rdropWhile p := by
  have hreverse : ∀ c ∈ bs.reverse, p c = true := fun c hc => h c (List.mem_reverse.1 hc)
  rw [List.rdropWhile, List.reverse_append, List.dropWhile_append_of_pos hreverse, List.rdropWhile]

theorem rdropWhile_append_cons_of_neg {p : Char → Bool} {c : Char} (h : ¬p c = true)
    (cs ds : List Char) : (cs ++ c :: ds).rdropWhile p = cs ++ c :: ds.rdropWhile p := by
  induction ds using List.reverseRecOn with
  | nil => exact List.rdropWhile_concat_neg p cs c h
  | append_singleton ds d ih =>
      rw [← List.cons_append, ← List.append_assoc, List.rdropWhile_concat, List.rdropWhile_concat,
        ih]
      split
      · rfl
      · rw [List.append_assoc, List.cons_append]

theorem isBlankText_eq_false_of_mem {s : String} {c : Char} (hc : c ∈ s.toList)
    (h : isBlank c = false) : isBlankText s = false := by
  rw [isBlankText, List.all_eq_false]
  exact ⟨c, hc, by simp [h]⟩

end Text

namespace LineClass

variable {line : String}

/-- A line is an opener when nothing but blanks follows its last opening brace. -/
theorem isOpener_iff :
    isOpener line = true ↔ ∃ u v, line.toList = u ++ '\x7b' :: v ∧ ∀ c ∈ v, isBlank c = true := by
  rw [isOpener, beq_iff_eq, dropTrailing_eq_rdropWhile]
  constructor
  · intro h
    obtain ⟨u, hu⟩ := List.getLast?_eq_some_iff.1 h
    refine ⟨u, line.toList.rtakeWhile isBlank, ?_, fun c => List.mem_rtakeWhile_imp⟩
    calc line.toList
        = line.toList.rdropWhile isBlank ++ line.toList.rtakeWhile isBlank :=
          List.rdropWhile_append_rtakeWhile.symm
      _ = (u ++ ['\x7b']) ++ line.toList.rtakeWhile isBlank := by rw [hu]
      _ = u ++ '\x7b' :: line.toList.rtakeWhile isBlank := by simp
  · rintro ⟨u, v, hline, hv⟩
    have hsplit : line.toList = (u ++ ['\x7b']) ++ v := by simp [hline]
    rw [hsplit, rdropWhile_append_of_pos hv, List.rdropWhile_concat_neg _ _ _ (by decide)]
    simp

theorem isOpener_eq_false_of_getLast? {c : Char} (hlast : line.toList.getLast? = some c)
    (hblank : isBlank c = false) (hbrace : c ≠ '\x7b') : isOpener line = false := by
  obtain ⟨cs, hcs⟩ := List.getLast?_eq_some_iff.1 hlast
  rw [isOpener, dropTrailing_eq_rdropWhile, hcs,
    List.rdropWhile_concat_neg _ _ _ (by simp [hblank])]
  simpa using hbrace

/-- A line is a closer when a closing brace stands in it with no `#` ahead. -/
theorem isCloser_iff :
    isCloser line = true ↔ ∃ u v, line.toList = u ++ '\x7d' :: v ∧ '#' ∉ u := by
  rw [isCloser, List.contains_iff_mem]
  constructor
  · intro h
    obtain ⟨u, w, huw⟩ := List.append_of_mem h
    refine ⟨u, w ++ line.toList.dropWhile (· != '#'), ?_, ?_⟩
    · calc line.toList
          = line.toList.takeWhile (· != '#') ++ line.toList.dropWhile (· != '#') :=
            List.takeWhile_append_dropWhile.symm
        _ = u ++ '\x7d' :: (w ++ line.toList.dropWhile (· != '#')) := by
            rw [huw]
            simp
    · intro hmem
      have hmem' : '#' ∈ line.toList.takeWhile (· != '#') := by
        rw [huw]
        exact List.mem_append_left _ hmem
      simpa using List.mem_takeWhile_imp hmem'
  · rintro ⟨u, v, hline, hu⟩
    have hpos : ∀ c ∈ u, (c != '#') = true := by
      intro c hc
      rw [bne_iff_ne]
      rintro rfl
      exact hu hc
    rw [hline, List.takeWhile_append_of_pos hpos, List.takeWhile_cons_of_pos (by decide)]
    simp

theorem ofLine_eq_blank_iff : ofLine line = .blank ↔ isBlankText line = true := by
  unfold ofLine
  split_ifs <;> simp [*]

theorem ofLine_eq_comment_iff :
    ofLine line = .comment ↔ isBlankText line = false ∧ isComment line = true := by
  unfold ofLine
  split_ifs <;> simp_all

theorem ofLine_eq_opener (hblank : isBlankText line = false) (hcomment : isComment line = false)
    (hopener : isOpener line = true) : ofLine line = .opener := by
  simp [ofLine, hblank, hcomment, hopener]

theorem ofLine_of_not_opener (hblank : isBlankText line = false)
    (hcomment : isComment line = false) (hopener : isOpener line = false) :
    ofLine line = if isCloser line then .closer else .plain := by
  simp [ofLine, hblank, hcomment, hopener]

theorem ne_empty_of_ofLine {c : LineClass} (h : ofLine line = c) (hc : c ≠ .blank) :
    line ≠ "" := by
  rintro rfl
  exact hc (h.symm.trans rfl)

end LineClass

end SchemaSieve
