import SchemaSieve.Proofs.LineClass
import SchemaSieve.Proofs.Lines
import SchemaSieve.Proofs.Reading
import SchemaSieve.Proofs.Words

/-!
# Opening lines

The opening line of a declaration is one line, it opens a block, and its words are the kind, the
name and the clause: what joins the words is read over.
-/

namespace SchemaSieve

open Text

namespace Text

/-- Words that are joined by other characters are read back one by one. -/
theorem splitWords_intercalate {sep : String} {after : List Char} (hsepNe : sep ≠ "")
    (hsep : ∀ c ∈ sep.toList, isWord c = false) (hafterNe : after ≠ [])
    (hafter : ∀ c ∈ after, isWord c = false) {ws : List String} (hne : ws ≠ [])
    (hws : ∀ w ∈ ws, IsWord w) (cs : List Char) :
    splitWords [] ((sep.intercalate ws).toList ++ (after ++ cs))
      = ws.map String.toList ++ splitWords [] cs := by
  induction ws with
  | nil => exact absurd rfl hne
  | cons w ws ih =>
      obtain ⟨hw, hword⟩ := hws w (by simp)
      have hw' : w.toList ≠ [] := by simpa using hw
      have hsepNe' : sep.toList ≠ [] := by simpa using hsepNe
      cases ws with
      | nil =>
          rw [String.intercalate_singleton, splitWords_word hw' hword hafterNe hafter]
          rfl
      | cons w' ws =>
          rw [String.intercalate_cons_cons, String.toList_append, String.toList_append,
            List.append_assoc, List.append_assoc, splitWords_word hw' hword hsepNe' hsep,
            ih (by simp) fun v hv => hws v (by simp [hv])]
          rfl

theorem splitWords_intercalate_end {sep : String} {after : List Char} (hsepNe : sep ≠ "")
    (hsep : ∀ c ∈ sep.toList, isWord c = false) (hafterNe : after ≠ [])
    (hafter : ∀ c ∈ after, isWord c = false) {ws : List String} (hne : ws ≠ [])
    (hws : ∀ w ∈ ws, IsWord w) :
    splitWords [] ((sep.intercalate ws).toList ++ after) = ws.map String.toList := by
  have h := splitWords_intercalate hsepNe hsep hafterNe hafter hne hws []
  rwa [List.append_nil, splitWords, List.append_nil] at h

theorem not_mem_intercalate {c : Char} {sep : String} (hsep : c ∉ sep.toList) {ws : List String}
    (hws : ∀ w ∈ ws, c ∉ w.toList) : c ∉ (sep.intercalate ws).toList := by
  induction ws with
  | nil => simp
  | cons w ws ih =>
      have hw := hws w (by simp)
      have hrest := ih fun v hv => hws v (by simp [hv])
      cases ws with
      | nil => simpa using hw
      | cons w' ws =>
          rw [String.intercalate_cons_cons, String.toList_append, String.toList_append,
            List.mem_append, List.mem_append, not_or, not_or]
          exact ⟨⟨hw, hsep⟩, hrest⟩

end Text

theorem Kind.isWord_keyword (k : Kind) : IsWord k.keyword := by
  cases k <;> exact ⟨by decide, List.all_eq_true.1 (by decide)⟩

namespace Declaration

/-- The name and the words of the clause are words, as in a declaration that was read. -/
structure HasWords (d : Declaration) : Prop where
  name : IsWord d.name
  clause : ∀ w ∈ d.clause, IsWord w

variable {d : Declaration}

theorem toList_header (d : Declaration) :
    d.header.toList = (" ".intercalate (d.kind.keyword :: d.name :: clauseParts d.clause)).toList
      ++ [' ', '\x7b'] := by
  have hsplit : d.kind.keyword :: d.name :: (clauseParts d.clause ++ ["\x7b"])
      = (d.kind.keyword :: d.name :: clauseParts d.clause) ++ ["\x7b"] := rfl
  rw [header, hsplit, String.intercalate_append_of_ne_nil (by simp) (by simp)]
  simp

theorem splitWords_header (h : d.HasWords) :
    splitWords [] d.header.toList = (d.kind.keyword :: d.name :: d.clause).map String.toList := by
  have hspace : ∀ c ∈ " ".toList, isWord c = false := isWord_eq_false_of_any (by decide)
  have hamp : ∀ c ∈ " & ".toList, isWord c = false := isWord_eq_false_of_any (by decide)
  have hbrace : ∀ c ∈ [' ', '\x7b'], isWord c = false := isWord_eq_false_of_any (by decide)
  have hall : ∀ w ∈ d.kind.keyword :: d.name :: d.clause, IsWord w := by
    intro w hw
    rcases List.mem_cons.1 hw with rfl | hw
    · exact d.kind.isWord_keyword
    · rcases List.mem_cons.1 hw with rfl | hw
      · exact h.name
      · exact h.clause w hw
  rw [toList_header, clauseParts.eq_def]
  split
  · rename_i i is hclause
    rw [hclause] at hall ⊢
    have hsplit : d.kind.keyword :: d.name :: ["implements", " & ".intercalate (i :: is)]
        = [d.kind.keyword, d.name, "implements"] ++ [" & ".intercalate (i :: is)] := rfl
    have hfirst : ∀ w ∈ [d.kind.keyword, d.name, "implements"], IsWord w := fun w hw =>
      hall w (List.mem_append_left (i :: is) hw)
    have hsecond : ∀ w ∈ i :: is, IsWord w := fun w hw =>
      hall w (List.mem_append_right [d.kind.keyword, d.name, "implements"] hw)
    rw [hsplit, String.intercalate_append_of_ne_nil (by simp) (by simp), String.toList_append,
      String.toList_append, String.intercalate_singleton, List.append_assoc, List.append_assoc,
      splitWords_intercalate (by decide) hspace (by decide) hspace (by simp) hfirst,
      splitWords_intercalate_end (by decide) hamp (by simp) hbrace (by simp) hsecond]
    rfl
  · exact splitWords_intercalate_end (by decide) hspace (by simp) hbrace (by simp) hall

theorem words_header (h : d.HasWords) :
    words d.header = d.kind.keyword :: d.name :: d.clause := by
  rw [words, splitWords_header h, List.map_map]
  have hid : String.ofList ∘ String.toList = id := funext fun s => String.ofList_toList
  rw [hid, List.map_id]

theorem ofLine_header (d : Declaration) : LineClass.ofLine d.header = .opener := by
  refine LineClass.ofLine_eq_opener ?_ ?_ ?_
  · refine isBlankText_eq_false_of_mem (c := '\x7b') ?_ (by decide)
    rw [toList_header]
    simp
  · have hhead : d.header.toList.head? ≠ some '#' := by
      rw [toList_header, String.intercalate_cons_cons]
      cases d.kind <;> simp [Kind.keyword]
    simpa [LineClass.isComment] using hhead
  · rw [LineClass.isOpener_iff, toList_header]
    exact ⟨_ ++ [' '], [], (List.append_assoc _ [' '] ['\x7b']).symm, by simp⟩

theorem opening_header (h : d.HasWords) :
    Opening.ofLine d.header = ⟨some d.kind, d.name, d.clause⟩ :=
  Opening.ofLine_eq_iff.2 (words_header h)

theorem isLine_header (h : d.HasWords) : IsLine d.header := by
  have hword : ∀ {c : Char}, isWord c = false → ∀ {w : String}, IsWord w → c ∉ w.toList := by
    intro c hc w hw hmem
    rw [hw.2 c hmem] at hc
    exact absurd hc (by simp)
  have hnot : ∀ c : Char, isWord c = false → c ∉ " ".toList → c ∉ " & ".toList →
      c ≠ '\x7b' → c ∉ d.header.toList := by
    intro c hc hspace hamp hbrace
    have hparts : ∀ w ∈ clauseParts d.clause, c ∉ w.toList := by
      rw [clauseParts.eq_def]
      split
      · rename_i i is hclause
        intro w hw
        rcases List.mem_cons.1 hw with rfl | hw
        · exact hword hc (h.clause _ (by simp [hclause]))
        · rw [List.mem_singleton.1 hw]
          exact not_mem_intercalate hamp fun v hv =>
            hword hc (h.clause v (by simp [hclause, List.mem_cons.1 hv]))
      · exact fun w hw => hword hc (h.clause w hw)
    rw [header]
    refine not_mem_intercalate hspace ?_
    intro w hw
    rcases List.mem_cons.1 hw with rfl | hw
    · exact hword hc d.kind.isWord_keyword
    · rcases List.mem_cons.1 hw with rfl | hw
      · exact hword hc h.name
      · rcases List.mem_append.1 hw with hw | hw
        · exact hparts w hw
        · rw [List.mem_singleton.1 hw]
          simpa using hbrace
  exact IsLine.of_not_mem (hnot '\n' (by decide) (by decide) (by decide) (by decide))
    (hnot '\r' (by decide) (by decide) (by decide) (by decide))

end Declaration

end SchemaSieve
