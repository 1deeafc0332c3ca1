import SchemaSieve.Proofs.LineClass
import SchemaSieve.Proofs.Lines
import SchemaSieve.Proofs.Reading

/-!
# Blank lines

A reader passes over blank lines. What it makes of a text depends on the other lines alone, so the
line breaks that are dropped at the beginning of a written text do not matter.
-/

namespace SchemaSieve

open Text

/-- The lines that hold something. -/
def filledLines (ls : List String) : List String := ls.filter (!isBlankText ·)

theorem filledLines_cons_of_blank {l : String} (h : isBlankText l = true) (ls : List String) :
    filledLines (l :: ls) = filledLines ls :=
  List.filter_cons_of_neg (by simp [h])

theorem filledLines_cons_of_filled {l : String} (h : isBlankText l = false) (ls : List String) :
    filledLines (l :: ls) = l :: filledLines ls :=
  List.filter_cons_of_pos (by simp [h])

theorem filledLines_append (a b : List String) :
    filledLines (a ++ b) = filledLines a ++ filledLines b :=
  List.filter_append a b

theorem filledLines_eq_self {ls : List String} (h : ∀ l ∈ ls, LineClass.ofLine l ≠ .blank) :
    filledLines ls = ls := by
  rw [filledLines, List.filter_eq_self]
  intro l hl
  have hfilled := h l hl
  rw [Ne, LineClass.ofLine_eq_blank_iff] at hfilled
  simpa using hfilled

namespace Schema

theorem filledLines_dropWhile (ls : List String) :
    filledLines (ls.dropWhile (· == "")) = filledLines ls := by
  induction ls with
  | nil => rfl
  | cons l ls ih =>
      by_cases hl : l = ""
      · have hblank : isBlankText l = true := by rw [hl]; rfl
        rw [List.dropWhile_cons_of_pos (by simp [hl]), ih, filledLines_cons_of_blank hblank]
      · rw [List.dropWhile_cons_of_neg (by simpa using hl)]

end Schema

def Item.isRemark : Item → Bool
  | .remark _ => true
  | _ => false

namespace Place

theorem fst_openBlock (p : Place) (n m : Nat) (line : String) :
    (p.openBlock n line).1 = (p.openBlock m line).1 := by
  rcases p with pending | ⟨⟨_ | kind, name, clause⟩, description, fields, inArguments⟩ <;> rfl

theorem filter_openBlock (p : Place) (n : Nat) (line : String) :
    (p.openBlock n line).2.filter (!Item.isRemark ·) = [] := by
  rw [List.filter_eq_nil_iff]
  intro item hitem
  obtain ⟨remark, rfl⟩ := mem_openBlock hitem
  simp [Item.isRemark]

theorem closeBlock_congr (p : Place) (n m : Nat) :
    (p.closeBlock n).1 = (p.closeBlock m).1 ∧
      (p.closeBlock n).2.filter (!Item.isRemark ·)
        = (p.closeBlock m).2.filter (!Item.isRemark ·) := by
  rcases p with pending | ⟨⟨_ | kind, name, clause⟩, description, fields, _ | _⟩ <;>
    exact ⟨rfl, rfl⟩

end Place

namespace Reader

variable {r r' : Reader}

/-- Two readers that have read the same, though not in as many lines. -/
structure Agree (r r' : Reader) : Prop where
  inBody : r.inBody = r'.inBody
  place : r.place = r'.place

theorem step_agree (h : r.Agree r') (line : String) :
    (r.step line).1.Agree (r'.step line).1 ∧
      (r.step line).2.filter (!Item.isRemark ·) = (r'.step line).2.filter (!Item.isRemark ·) := by
  obtain ⟨n, inBody, place⟩ := r
  obtain ⟨n', inBody', place'⟩ := r'
  obtain ⟨rfl, rfl⟩ : inBody = inBody' ∧ place = place' := ⟨h.inBody, h.place⟩
  cases hclass : LineClass.ofLine line with
  | blank =>
      rw [step_blank hclass, step_blank hclass]
      exact ⟨⟨rfl, rfl⟩, rfl⟩
  | comment =>
      cases inBody with
      | true =>
          rw [step_comment hclass rfl, step_comment hclass rfl]
          exact ⟨⟨rfl, rfl⟩, rfl⟩
      | false =>
          rw [step_header hclass rfl, step_header hclass rfl]
          exact ⟨⟨rfl, rfl⟩, rfl⟩
  | opener =>
      rw [step_body (by simp [hclass]) (by simp [hclass]),
        step_body (by simp [hclass]) (by simp [hclass])]
      simp only [visitBody, hclass, List.filter_append, Place.filter_openBlock]
      exact ⟨⟨rfl, Place.fst_openBlock _ _ _ _⟩, trivial⟩
  | closer =>
      rw [step_body (by simp [hclass]) (by simp [hclass]),
        step_body (by simp [hclass]) (by simp [hclass])]
      simp only [visitBody, hclass, List.filter_append]
      obtain ⟨hplace, hitems⟩ := Place.closeBlock_congr place (n + 1) (n' + 1)
      exact ⟨⟨rfl, hplace⟩, by rw [hitems]⟩
  | plain =>
      rw [step_body (by simp [hclass]) (by simp [hclass]),
        step_body (by simp [hclass]) (by simp [hclass])]
      simp only [visitBody, hclass]
      exact ⟨⟨rfl, rfl⟩, trivial⟩

/-- Reading only the lines that hold something is reading all of them, remarks apart. -/
theorem run_filledLines (h : r.Agree r') (ls : List String) :
    (r.run ls).1.Agree (r'.run (filledLines ls)).1 ∧
      (r.run ls).2.filter (!Item.isRemark ·)
        = (r'.run (filledLines ls)).2.filter (!Item.isRemark ·) := by
  induction ls generalizing r r' with
  | nil => exact ⟨h, rfl⟩
  | cons line ls ih =>
      cases hblank : isBlankText line with
      | true =>
          rw [filledLines_cons_of_blank hblank, run_cons,
            step_blank (LineClass.ofLine_eq_blank_iff.2 hblank)]
          exact ih ⟨h.inBody, h.place⟩
      | false =>
          obtain ⟨hstep, hitems⟩ := step_agree h line
          obtain ⟨hrun, hrest⟩ := ih hstep
          rw [filledLines_cons_of_filled hblank, run_cons, run_cons, List.filter_append,
            List.filter_append, hitems, hrest]
          exact ⟨hrun, rfl⟩

end Reader

namespace Schema

theorem foldl_add_filter (items : List Item) (s : Schema) :
    (items.filter (!Item.isRemark ·)).foldl add s = items.foldl add s := by
  induction items generalizing s with
  | nil => rfl
  | cons item items ih => cases item <;> exact ih _

theorem ofText_eq_foldl (content : String) :
    ofText content = (((Reader.run {} (filledLines (lines content))).2
      ++ (Reader.run {} (filledLines (lines content))).1.place.finish).filter
        (!Item.isRemark ·)).foldl add {} := by
  have hstart : Reader.Agree {} {} := ⟨rfl, rfl⟩
  obtain ⟨hrun, hitems⟩ := Reader.run_filledLines hstart (lines content)
  rw [List.filter_append, ← hitems, ← hrun.place, ← List.filter_append, foldl_add_filter]
  rfl

/-- Texts that differ in blank lines only are the same schema. -/
theorem ofText_eq_of_filledLines {a b : String}
    (h : filledLines (lines a) = filledLines (lines b)) : ofText a = ofText b := by
  rw [ofText_eq_foldl, ofText_eq_foldl, h]

end Schema

end SchemaSieve
