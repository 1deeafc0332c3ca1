import SchemaSieve.Text.Blank
import SchemaSieve.Text.Word

/-!
# Words of a text

Words that stand between other characters are read back one by one. No blank is a word character.
-/

namespace SchemaSieve.Text

theorem isWord_eq_false_of_isBlank {c : Char} (h : isBlank c = true) : isWord c = false := by
  by_cases hascii : c.toNat < 0x80
  · have hvalue : c.toNat = 9 ∨ c.toNat = 10 ∨ c.toNat = 11 ∨ c.toNat = 12 ∨ c.toNat = 13 ∨
        c.toNat = 32 := by
      simp only [isBlank, hascii, if_true, Bool.or_eq_true, Bool.and_eq_true,
        decide_eq_true_eq] at h
      omega
    have hword : ∀ n ∈ [9, 10, 11, 12, 13, 32], isWord (Char.ofNat n) = false := by decide
    rw [← Char.ofNat_toNat c]
    exact hword c.toNat (by simpa using hvalue)
  · simp only [isBlank, hascii, if_false, blankRanges, List.any_cons, List.any_nil, Bool.or_false,
      Bool.or_eq_true, Bool.and_eq_true, decide_eq_true_eq] at h
    have hvalue : c.toNat ∈ [0x85, 0xA0, 0x1680, 0x2000, 0x2001, 0x2002, 0x2003, 0x2004, 0x2005,
        0x2006, 0x2007, 0x2008, 0x2009, 0x200A, 0x2028, 0x2029, 0x202F, 0x205F, 0x3000] := by
      simp only [List.mem_cons, List.not_mem_nil, or_false]
      omega
    have hword : ∀ n ∈ [0x85, 0xA0, 0x1680, 0x2000, 0x2001, 0x2002, 0x2003, 0x2004, 0x2005,
        0x2006, 0x2007, 0x2008, 0x2009, 0x200A, 0x2028, 0x2029, 0x202F, 0x205F, 0x3000],
        CharSet.inRanges n wordRanges = false := by decide +kernel
    rw [isWord, if_neg hascii]
    exact hword c.toNat hvalue

theorem isBlank_eq_false_of_isWord {c : Char} (h : isWord c = true) : isBlank c = false := by
  cases hblank : isBlank c with
  | false => rfl
  | true =>
      rw [isWord_eq_false_of_isBlank hblank] at h
      cases h

theorem isWord_eq_false_of_any {cs : List Char} (h : cs.any isWord = false) :
    ∀ c ∈ cs, isWord c = false := by
  intro c hc
  have hc' := List.any_eq_false.1 h c hc
  rwa [Bool.not_eq_true] at hc'

/-- Word characters only, and at least one. -/
def IsWord (w : String) : Prop := w ≠ "" ∧ ∀ c ∈ w.toList, isWord c = true

instance (w : String) : Decidable (IsWord w) :=
  decidable_of_iff (w ≠ "" ∧ w.toList.all isWord = true) (by rw [IsWord, List.all_eq_true])

theorem splitWords_append {w : List Char} (h : ∀ c ∈ w, isWord c = true) (run cs : List Char) :
    splitWords run (w ++ cs) = splitWords (w.reverse ++ run) cs := by
  induction w generalizing run with
  | nil => rfl
  | cons c w ih =>
      rw [List.cons_append, splitWords.eq_def]
      simp [h c (by simp), ih fun d hd => h d (by simp [hd])]

theorem splitWords_nonword {sep : List Char} (h : ∀ c ∈ sep, isWord c = false) (cs : List Char) :
    splitWords [] (sep ++ cs) = splitWords [] cs := by
  induction sep with
  | nil => rfl
  | cons c sep ih =>
      rw [List.cons_append, splitWords.eq_def]
      simp [h c (by simp), ih fun d hd => h d (by simp [hd])]

/-- A word ends where a character follows that is no word character. -/
theorem splitWords_word {w sep : List Char} (hne : w ≠ []) (hword : ∀ c ∈ w, isWord c = true)
    (hsepNe : sep ≠ []) (hsep : ∀ c ∈ sep, isWord c = false) (cs : List Char) :
    splitWords [] (w ++ (sep ++ cs)) = w :: splitWords [] cs := by
  obtain ⟨c, sep, rfl⟩ := List.exists_cons_of_ne_nil hsepNe
  have hreverse : w.reverse ≠ [] := by simpa using hne
  obtain ⟨d, run, hrun⟩ := List.exists_cons_of_ne_nil hreverse
  rw [splitWords_append hword, List.append_nil, List.cons_append, hrun, splitWords.eq_def]
  simp only [hsep c (by simp), Bool.false_eq_true, if_false]
  rw [← hrun, List.reverse_reverse, splitWords_nonword fun d hd => hsep d (by simp [hd])]

/-- What stands on either side of a character that is no word character is split for itself. -/
theorem splitWords_append_cons {c : Char} (hc : isWord c = false) (run cs ds : List Char) :
    splitWords run (cs ++ c :: ds) = splitWords run cs ++ splitWords [] ds := by
  induction cs generalizing run with
  | nil =>
      cases run with
      | nil =>
          rw [List.nil_append, splitWords.eq_def]
          simp [hc, splitWords]
      | cons d run =>
          rw [List.nil_append, splitWords.eq_def]
          simp [hc, splitWords]
  | cons d cs ih =>
      rw [List.cons_append, splitWords.eq_def, splitWords.eq_def run (d :: cs)]
      cases hd : isWord d with
      | true => simpa [hd] using ih (d :: run)
      | false =>
          cases run with
          | nil => simpa [hd] using ih []
          | cons e run => simpa [hd] using ih []

theorem splitWords_ne_nil {run : List Char} (h : run ≠ []) (cs : List Char) :
    splitWords run cs ≠ [] := by
  induction cs generalizing run with
  | nil =>
      obtain ⟨d, run, rfl⟩ := List.exists_cons_of_ne_nil h
      simp [splitWords]
  | cons c cs ih =>
      obtain ⟨d, run, rfl⟩ := List.exists_cons_of_ne_nil h
      rw [splitWords.eq_def]
      cases hc : isWord c with
      | true => simpa [hc] using ih (List.cons_ne_nil c (d :: run))
      | false => simp [hc]

theorem isWord_eq_false_of_splitWords {cs : List Char} (h : splitWords [] cs = []) :
    ∀ c ∈ cs, isWord c = false := by
  induction cs with
  | nil => simp
  | cons c cs ih =>
      rw [splitWords.eq_def] at h
      cases hc : isWord c with
      | true => exact absurd (by simpa [hc] using h) (splitWords_ne_nil (List.cons_ne_nil c []) cs)
      | false =>
          intro d hd
          rcases List.mem_cons.1 hd with rfl | hd
          · exact hc
          · exact ih (by simpa [hc] using h) d hd

theorem isWord_of_mem_splitWords {run cs w : List Char} (hrun : ∀ c ∈ run, isWord c = true)
    (hw : w ∈ splitWords run cs) : w ≠ [] ∧ ∀ c ∈ w, isWord c = true := by
  have hreverse : ∀ {c : Char} {run : List Char}, (∀ d ∈ c :: run, isWord d = true) →
      (c :: run).reverse ≠ [] ∧ ∀ d ∈ (c :: run).reverse, isWord d = true :=
    fun h => ⟨by simp, fun d hd => h d (List.mem_reverse.1 hd)⟩
  induction cs generalizing run with
  | nil =>
      cases run with
      | nil => simp [splitWords] at hw
      | cons c run =>
          rw [splitWords.eq_def] at hw
          simp only [List.mem_singleton] at hw
          exact hw ▸ hreverse hrun
  | cons c cs ih =>
      rw [splitWords.eq_def] at hw
      by_cases hc : isWord c = true
      · simp only [hc, if_true] at hw
        refine ih ?_ hw
        intro d hd
        rcases List.mem_cons.1 hd with rfl | hd
        · exact hc
        · exact hrun d hd
      · simp only [hc] at hw
        cases run with
        | nil => exact ih (by simp) hw
        | cons d run =>
            rcases List.mem_cons.1 hw with rfl | hw
            · exact hreverse hrun
            · exact ih (by simp) hw

theorem isWord_of_mem_words {s w : String} (h : w ∈ words s) : IsWord w := by
  obtain ⟨cs, hcs, rfl⟩ := List.mem_map.1 h
  obtain ⟨hne, hword⟩ := isWord_of_mem_splitWords (by simp) hcs
  refine ⟨?_, by simpa using hword⟩
  rw [Ne, String.ofList_eq_empty_iff]
  exact hne

end SchemaSieve.Text
