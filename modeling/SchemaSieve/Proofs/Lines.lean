import SchemaSieve.Text.Lines
import SchemaSieve.Schema.Rendering
import Mathlib.Data.List.Basic

/-!
# Lines and texts

A text that is written line by line is read back as these lines, as long as none of them holds a
line break or ends in a carriage return. No line of a text holds a line break.
-/

namespace SchemaSieve.Text

theorem splitLines_cons_of_ne {c : Char} (h : c ≠ '\n') (cur cs : List Char) :
    splitLines cur (c :: cs) = splitLines (c :: cur) cs := by
  rw [splitLines.eq_def]
  simp [h]

/-- The line that ends at a line break, of which `cur` holds the characters in reverse. -/
theorem splitLines_newline {cur : List Char} (h : cur.head? ≠ some '\r') (cs : List Char) :
    splitLines cur ('\n' :: cs) = cur.reverse :: splitLines [] cs := by
  rw [splitLines.eq_def]
  simp only [if_true]
  split
  · exact absurd rfl h
  · rfl

theorem splitLines_append {l : List Char} (hbreak : '\n' ∉ l) (cur cs : List Char) :
    splitLines cur (l ++ cs) = splitLines (l.reverse ++ cur) cs := by
  induction l generalizing cur with
  | nil => rfl
  | cons c l ih =>
      rw [List.mem_cons, not_or] at hbreak
      rw [List.cons_append, splitLines_cons_of_ne (Ne.symm hbreak.1), ih hbreak.2]
      simp

/-- Whether a line comes back as it is when it is written into a text. -/
def IsLine (l : String) : Prop := '\n' ∉ l.toList ∧ l.toList.getLast? ≠ some '\r'

theorem IsLine.of_not_mem {l : String} (hbreak : '\n' ∉ l.toList) (hreturn : '\r' ∉ l.toList) :
    IsLine l :=
  ⟨hbreak, fun h => hreturn (List.mem_of_getLast? h)⟩

theorem lines_cons {l : String} (h : IsLine l) (text : String) :
    lines (l ++ "\n" ++ text) = l :: lines text := by
  have hlast : (l.toList.reverse ++ []).head? ≠ some '\r' := by
    simpa [List.head?_reverse] using h.2
  have htoList : (l ++ "\n" ++ text).toList = l.toList ++ '\n' :: text.toList := by simp
  rw [lines, htoList, splitLines_append h.1, splitLines_newline hlast]
  simp [lines]

/-- What is written line by line is read back as the same lines. -/
theorem lines_unlines {ls : List String} (h : ∀ l ∈ ls, IsLine l) : lines (unlines ls) = ls := by
  induction ls with
  | nil => rfl
  | cons l ls ih =>
      rw [unlines_cons, lines_cons (h l (by simp)), ih fun l' hl' => h l' (by simp [hl'])]

theorem mem_of_mem_splitLines {cur cs l : List Char} {c : Char} (hcur : '\n' ∉ cur)
    (hl : l ∈ splitLines cur cs) (hc : c ∈ l) : c ≠ '\n' ∧ (c ∈ cur ∨ c ∈ cs) := by
  have hline : ∀ {cur : List Char}, '\n' ∉ cur → c ∈ cur → c ≠ '\n' :=
    fun h hmem heq => h (heq ▸ hmem)
  induction cs generalizing cur with
  | nil =>
      cases cur with
      | nil => simp [splitLines] at hl
      | cons d cur =>
          rw [splitLines, List.mem_singleton] at hl
          · rw [hl, List.mem_reverse] at hc
            exact ⟨hline hcur hc, Or.inl hc⟩
          · simp
  | cons d cs ih =>
      by_cases hd : d = '\n'
      · subst hd
        rw [splitLines.eq_def] at hl
        simp only [if_true, List.mem_cons] at hl
        rcases hl with hl | hl
        · have hmem : c ∈ cur := by
            split at hl <;> simp_all
          exact ⟨hline hcur hmem, Or.inl hmem⟩
        · obtain ⟨hne, hmem⟩ := ih (by simp) hl
          exact ⟨hne, Or.inr (by simpa using Or.inr hmem)⟩
      · rw [splitLines_cons_of_ne hd] at hl
        have hcur' : '\n' ∉ d :: cur := by
          rw [List.mem_cons, not_or]
          exact ⟨Ne.symm hd, hcur⟩
        obtain ⟨hne, hmem⟩ := ih hcur' hl
        refine ⟨hne, ?_⟩
        rcases hmem with hmem | hmem
        · rcases List.mem_cons.1 hmem with rfl | hmem
          · exact Or.inr List.mem_cons_self
          · exact Or.inl hmem
        · exact Or.inr (List.mem_cons_of_mem d hmem)

/-- A line of a text holds no line break, and no character that is not in the text. -/
theorem mem_of_mem_lines {s l : String} {c : Char} (hl : l ∈ lines s) (hc : c ∈ l.toList) :
    c ≠ '\n' ∧ c ∈ s.toList := by
  obtain ⟨cs, hcs, rfl⟩ := List.mem_map.1 hl
  rw [String.toList_ofList] at hc
  simpa using mem_of_mem_splitLines (by simp) hcs hc

theorem isLine_of_mem_lines {s l : String} (hreturn : '\r' ∉ s.toList) (hl : l ∈ lines s) :
    IsLine l :=
  IsLine.of_not_mem (fun h => (mem_of_mem_lines hl h).1 rfl)
    fun h => hreturn (mem_of_mem_lines hl h).2

theorem lines_of_isLine {l : String} (h : '\n' ∉ l.toList) (hne : l ≠ "") : lines l = [l] := by
  have hsplit := splitLines_append h [] []
  rw [List.append_nil, List.append_nil] at hsplit
  have hreverse : l.toList.reverse ≠ [] := by simpa using hne
  obtain ⟨c, cs, hcs⟩ := List.exists_cons_of_ne_nil hreverse
  rw [lines, hsplit, hcs, splitLines, ← hcs]
  · simp
  · simp

theorem flatMap_lines {ls : List String} (h : ∀ l ∈ ls, '\n' ∉ l.toList ∧ l ≠ "") :
    ls.flatMap lines = ls := by
  induction ls with
  | nil => rfl
  | cons l ls ih =>
      obtain ⟨hbreak, hne⟩ := h l (by simp)
      rw [List.flatMap_cons, lines_of_isLine hbreak hne, ih fun m hm => h m (by simp [hm])]
      rfl

theorem splitLines_append_newline (cur cs ds : List Char) :
    splitLines cur (cs ++ '\n' :: ds) = splitLines cur (cs ++ ['\n']) ++ splitLines [] ds := by
  induction cs generalizing cur with
  | nil =>
      rw [List.nil_append, List.nil_append, splitLines.eq_def, splitLines.eq_def cur ['\n']]
      simp [splitLines]
  | cons c cs ih =>
      by_cases hc : c = '\n'
      · rw [List.cons_append, List.cons_append, splitLines.eq_def,
          splitLines.eq_def cur (c :: (cs ++ ['\n']))]
        simp [hc, ih]
      · rw [List.cons_append, List.cons_append, splitLines_cons_of_ne hc, splitLines_cons_of_ne hc,
          ih]

/-- Behind a text that ends its last line another one begins a line. -/
theorem lines_append {a b : String} (h : a = "" ∨ a.toList.getLast? = some '\n') :
    lines (a ++ b) = lines a ++ lines b := by
  rcases h with rfl | h
  · simp [lines, splitLines]
  · obtain ⟨cs, hcs⟩ := List.getLast?_eq_some_iff.1 h
    rw [lines, lines, lines, String.toList_append, hcs, List.append_assoc, List.singleton_append,
      splitLines_append_newline, List.map_append]

end SchemaSieve.Text

namespace SchemaSieve.Schema

open Text

theorem dropLineBreaks_newline (text : String) :
    dropLineBreaks ("\n" ++ text) = dropLineBreaks text := by
  simp [dropLineBreaks]

theorem dropLineBreaks_of_head? {text : String} (h : text.toList.head? ≠ some '\n') :
    dropLineBreaks text = text := by
  rw [dropLineBreaks]
  cases htext : text.toList with
  | nil => exact (String.toList_eq_nil_iff.1 htext).symm ▸ rfl
  | cons c cs =>
      have hc : c ≠ '\n' := by
        rintro rfl
        simp [htext] at h
      rw [List.dropWhile_cons_of_neg (by simpa using hc), ← htext, String.ofList_toList]

/-- Dropping the line breaks at the beginning of a written text drops its first empty lines. -/
theorem dropLineBreaks_unlines {ls : List String} (h : ∀ l ∈ ls, IsLine l) :
    dropLineBreaks (unlines ls) = unlines (ls.dropWhile (· == "")) := by
  induction ls with
  | nil => rfl
  | cons l ls ih =>
      by_cases hl : l = ""
      · have hempty : unlines (l :: ls) = "\n" ++ unlines ls := by rw [unlines_cons, hl]; simp
        rw [hempty, dropLineBreaks_newline, ih fun m hm => h m (List.mem_cons_of_mem l hm),
          List.dropWhile_cons_of_pos (by simp [hl])]
      · rw [List.dropWhile_cons_of_neg (by simpa using hl)]
        refine dropLineBreaks_of_head? ?_
        have hne : l.toList ≠ [] := by simpa using hl
        rw [unlines_cons, String.append_assoc, String.toList_append,
          List.head?_append_of_ne_nil _ hne]
        exact fun hhead => (h l List.mem_cons_self).1 (List.mem_of_head? hhead)

theorem lines_dropLineBreaks_unlines {ls : List String} (h : ∀ l ∈ ls, IsLine l) :
    lines (dropLineBreaks (unlines ls)) = ls.dropWhile (· == "") := by
  rw [dropLineBreaks_unlines h]
  exact lines_unlines fun l hl => h l ((List.dropWhile_sublist _).mem hl)

end SchemaSieve.Schema
