import SchemaSieve.Signature
import SchemaSieve.Proofs.Words

/-!
# Signatures in longer texts

A field has a signature if a colon stands in it that a blank follows. A text that is put above a
field takes over if it has a signature of its own, and is read over if it has none.
-/

namespace SchemaSieve.Signature

open Text

/-- A colon stands in the text that a blank follows. -/
def IsIn (text : List Char) : Prop :=
  ∃ before c after, text = before ++ ':' :: c :: after ∧ isBlank c = true

variable {run cs ds : List Char} {c : Char}

theorem IsIn.cons (h : IsIn cs) (c : Char) : IsIn (c :: cs) := by
  obtain ⟨before, d, after, rfl, hd⟩ := h
  exact ⟨c :: before, d, after, rfl, hd⟩

theorem isIn_cons : IsIn (c :: cs) ↔ (c = ':' ∧ ∃ d after, cs = d :: after ∧ isBlank d = true) ∨
    IsIn cs := by
  constructor
  · rintro ⟨before, d, after, hsplit, hd⟩
    cases before with
    | nil =>
        obtain ⟨rfl, rfl⟩ := List.cons.inj hsplit
        exact Or.inl ⟨rfl, d, after, rfl, hd⟩
    | cons b before =>
        obtain ⟨rfl, rfl⟩ := List.cons.inj hsplit
        exact Or.inr ⟨before, d, after, rfl, hd⟩
  · rintro (⟨rfl, d, after, rfl, hd⟩ | h)
    · exact ⟨[], d, after, rfl, hd⟩
    · exact h.cons c

theorem scan_colon (h : isBlank c = true) (run cs : List Char) :
    scan run (':' :: c :: cs) = some (run.reverse, cs.takeWhile isWord) := by
  rw [scan, if_pos h]

theorem scan_colon_of_not_blank (h : isBlank c = false) (run cs : List Char) :
    scan run (':' :: c :: cs) = scan [] (c :: cs) := by
  rw [scan, if_neg (by simp [h])]

theorem scan_cons (h : c ≠ ':') (run cs : List Char) :
    scan run (c :: cs) = scan (if isWord c then c :: run else []) cs := by
  rw [scan]
  rintro d ds rfl
  exact absurd rfl h

theorem scan_eq_none_iff : scan run cs = none ↔ ¬IsIn cs := by
  induction run, cs using scan.induct with
  | case1 run => simp [scan, IsIn]
  | case2 run c cs h =>
      rw [scan_colon h]
      simpa using isIn_cons.2 (Or.inl ⟨rfl, c, cs, rfl, h⟩)
  | case3 run c cs h ih =>
      have h' : isBlank c = false := by simpa using h
      rw [scan_colon_of_not_blank h', ih, isIn_cons (c := ':')]
      simp [h']
  | case4 run c cs hcolon ih =>
      have hnot : ¬(c = ':' ∧ ∃ d after, cs = d :: after ∧ isBlank d = true) := by
        rintro ⟨hc, d, after, hcs, -⟩
        exact hcolon d after hc hcs
      rw [scan, ih, isIn_cons (c := c), or_iff_right hnot]
      exact hcolon

theorem takeWhile_append_cons_of_neg {α : Type} {p : α → Bool} {a : α} (h : p a = false)
    (as bs : List α) : (as ++ a :: bs).takeWhile p = as.takeWhile p := by
  induction as with
  | nil => exact List.takeWhile_cons_of_neg (by simp [h])
  | cons b as ih => rw [List.cons_append, List.takeWhile_cons, List.takeWhile_cons, ih]

/-- A signature in a text is that of every longer text, if what follows belongs to no word. -/
theorem scan_append_of_some {words : List Char × List Char} (hword : isWord c = false)
    (h : scan run cs = some words) (ds : List Char) : scan run (cs ++ c :: ds) = some words := by
  induction run, cs using scan.induct with
  | case1 run => cases h
  | case2 run d cs hd =>
      rw [scan_colon hd] at h
      rw [List.cons_append, List.cons_append, scan_colon hd, takeWhile_append_cons_of_neg hword, h]
  | case3 run d cs hd ih =>
      have hd' : isBlank d = false := by simpa using hd
      rw [scan_colon_of_not_blank hd'] at h
      rw [List.cons_append, List.cons_append, scan_colon_of_not_blank hd', ← List.cons_append]
      exact ih h
  | case4 run d cs hcolon ih =>
      by_cases hd : d = ':'
      · -- A colon at the end is no signature.
        cases cs with
        | nil =>
            rw [hd] at h
            simp [scan] at h
        | cons e cs => exact absurd rfl (hcolon e cs hd)
      · rw [scan_cons hd] at h
        rw [List.cons_append, scan_cons hd]
        exact ih h

/-- A text without a signature is read over, if what follows ends a colon and a word. -/
theorem scan_append_of_none (hcolon : c ≠ ':') (hblank : isBlank c = false)
    (hword : isWord c = false) (h : scan run cs = none) (ds : List Char) :
    scan run (cs ++ c :: ds) = scan [] ds := by
  induction run, cs using scan.induct with
  | case1 run =>
      rw [List.nil_append, scan_cons hcolon, hword]
      rfl
  | case2 run d cs hd =>
      rw [scan_colon hd] at h
      cases h
  | case3 run d cs hd ih =>
      have hd' : isBlank d = false := by simpa using hd
      rw [scan_colon_of_not_blank hd'] at h
      rw [List.cons_append, List.cons_append, scan_colon_of_not_blank hd', ← List.cons_append]
      exact ih h
  | case4 run d cs hlast ih =>
      by_cases hd : d = ':'
      · cases cs with
        | nil =>
            rw [hd, List.cons_append, List.nil_append, scan_colon_of_not_blank hblank,
              scan_cons hcolon, hword]
            rfl
        | cons e cs => exact absurd rfl (hlast e cs hd)
      · rw [scan_cons hd] at h
        rw [List.cons_append, scan_cons hd]
        exact ih h

end SchemaSieve.Signature
