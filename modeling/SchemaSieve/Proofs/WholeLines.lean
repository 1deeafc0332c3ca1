import SchemaSieve.Proofs.Cutting
import SchemaSieve.Proofs.Lines

/-!
# Whole lines of a text

What stands between two line breaks of a text, carriage returns or not. A line break more at the
beginning changes nothing of that, and where an empty input is cut out, no line can be new but the
one that is put together at the cut.
-/

namespace SchemaSieve

namespace Text

/-- The line stands in the text, between line breaks or the ends of the text. -/
def HasLine (text l : String) : Prop := l.toList ∈ text.toList.splitOn '\n'

instance (text l : String) : Decidable (HasLine text l) := inferInstanceAs (Decidable (_ ∈ _))

/-- A line begins behind some characters. -/
def BeginsBehind (cs : List Char) : Prop := cs = [] ∨ ∃ before, cs = before ++ ['\n']

/-- A line ends ahead of some characters. -/
def EndsAhead (cs : List Char) : Prop := cs = [] ∨ ∃ after, cs = '\n' :: after

variable {text l m : String} {ls : List String} {cs line before after : List Char}

theorem hasLine_iff_eq (hm : '\n' ∉ m.toList) : HasLine m l ↔ l = m := by
  rw [HasLine, List.splitOn_eq_singleton hm, List.mem_singleton, String.toList_inj]

/-- The lines of a text that is written line by line are those of what is written. -/
theorem hasLine_unlines (hne : l ≠ "") :
    HasLine (unlines ls) l ↔ ∃ m ∈ ls, HasLine m l := by
  induction ls with
  | nil =>
      rw [hasLine_iff_eq (by simp)]
      simpa using hne
  | cons m ls ih =>
      have htoList : (unlines (m :: ls)).toList = m.toList ++ '\n' :: (unlines ls).toList := by
        simp
      rw [HasLine, htoList, List.splitOn_append_cons_self, List.mem_append, List.exists_mem_cons_iff]
      exact or_congr_right ih

theorem exists_of_mem_splitOn (h : line ∈ cs.splitOn '\n') :
    '\n' ∉ line ∧ ∃ before after, cs = before ++ (line ++ after) ∧ BeginsBehind before ∧
      EndsAhead after := by
  induction hn : cs.length using Nat.strong_induction_on generalizing cs with
  | _ n ih =>
      subst hn
      by_cases hbreak : '\n' ∈ cs
      · obtain ⟨first, rest, rfl, hfirst⟩ := List.eq_append_cons_of_mem hbreak
        rw [List.splitOn_append_cons_self, List.splitOn_eq_singleton hfirst, List.singleton_append] at h
        rcases List.mem_cons.1 h with rfl | h
        · exact ⟨hfirst, [], '\n' :: rest, rfl, Or.inl rfl, Or.inr ⟨rest, rfl⟩⟩
        · have hshorter : rest.length < (first ++ '\n' :: rest).length := by
            rw [List.length_append, List.length_cons]
            omega
          obtain ⟨hline, before, after, rfl, hbefore, hafter⟩ := ih rest.length hshorter h rfl
          refine ⟨hline, first ++ '\n' :: before, after, by simp, ?_, hafter⟩
          rcases hbefore with rfl | ⟨before, rfl⟩
          · exact Or.inr ⟨first, rfl⟩
          · exact Or.inr ⟨first ++ '\n' :: before, by simp⟩
      · rw [List.splitOn_eq_singleton hbreak, List.mem_singleton] at h
        subst h
        exact ⟨hbreak, [], [], by simp, Or.inl rfl, Or.inl rfl⟩

theorem mem_splitOn (hline : '\n' ∉ line) (hbefore : BeginsBehind before)
    (hafter : EndsAhead after) : line ∈ (before ++ (line ++ after)).splitOn '\n' := by
  have hself := List.splitOn_eq_singleton hline
  have hfirst : line ∈ (line ++ after).splitOn '\n' := by
    rcases hafter with rfl | ⟨after, rfl⟩
    · rw [List.append_nil, hself]
      exact List.mem_singleton_self line
    · rw [List.splitOn_append_cons_self, hself]
      exact List.mem_cons_self
  rcases hbefore with rfl | ⟨before, rfl⟩
  · exact hfirst
  · rw [List.append_assoc, List.singleton_append, List.splitOn_append_cons_self]
    exact List.mem_append_right _ hfirst

theorem BeginsBehind.of_append {a b : List Char} (h : BeginsBehind (a ++ b)) (hb : b ≠ [])
    (cut : List Char) : BeginsBehind (a ++ (cut ++ b)) := by
  obtain ⟨b, c, rfl⟩ := (List.eq_nil_or_concat' b).resolve_left hb
  rcases h with h | ⟨before, h⟩
  · simp at h
  · rw [← List.append_assoc] at h
    obtain ⟨-, rfl⟩ := List.append_singleton_inj.1 h
    exact Or.inr ⟨a ++ (cut ++ b), by simp⟩

theorem EndsAhead.of_append {a b : List Char} (h : EndsAhead (a ++ b)) (ha : a ≠ [])
    (cut : List Char) : EndsAhead (a ++ (cut ++ b)) := by
  obtain ⟨c, a, rfl⟩ := List.exists_cons_of_ne_nil ha
  rcases h with h | ⟨after, h⟩
  · simp at h
  · obtain ⟨rfl, -⟩ := List.cons.inj h
    exact Or.inr ⟨a ++ (cut ++ b), rfl⟩

/-- Without a part of a text, only the line across the gap is new. -/
theorem mem_splitOn_or_join {a b : List Char} (h : line ∈ (a ++ b).splitOn '\n')
    (cut : List Char) :
    line ∈ (a ++ (cut ++ b)).splitOn '\n' ∨ ∃ before x y after, a = before ++ x ∧
      b = y ++ after ∧ line = x ++ y ∧ BeginsBehind before ∧ EndsAhead after := by
  obtain ⟨hline, before, after, hsplit, hbefore, hafter⟩ := exists_of_mem_splitOn h
  -- The gap is ahead of the line, behind it, or in it or at one of its ends.
  rcases List.append_eq_append_iff.1 hsplit with ⟨x, rfl, hrest⟩ | ⟨x, rfl, hrest⟩
  · by_cases hx : x = []
    · subst hx
      rw [List.append_nil] at hbefore
      exact Or.inr ⟨a, [], line, after, by simp, hrest, rfl, hbefore, hafter⟩
    · left
      have hin := mem_splitOn hline (hbefore.of_append hx cut) hafter
      rw [hrest]
      simpa using hin
  · rcases List.append_eq_append_iff.1 hrest with ⟨y, rfl, hy⟩ | ⟨y, rfl, rfl⟩
    · by_cases hne : y = []
      · subst hne
        rw [hy, List.nil_append] at hafter
        exact Or.inr ⟨before, line, [], b, by simp, rfl, by simp, hbefore, hafter⟩
      · left
        rw [hy] at hafter
        have hin := mem_splitOn hline hbefore (hafter.of_append hne cut)
        simpa using hin
    · exact Or.inr ⟨before, x, y, after, rfl, rfl, rfl, hbefore, hafter⟩

end Text

open Text

theorem Schema.hasLine_dropLineBreaks {l : String} (hne : l ≠ "") (text : String) :
    HasLine (dropLineBreaks text) l ↔ HasLine text l := by
  have hchars : ∀ cs : List Char, l.toList ∈ (cs.dropWhile (· == '\n')).splitOn '\n' ↔
      l.toList ∈ cs.splitOn '\n' := by
    intro cs
    induction cs with
    | nil => rfl
    | cons c cs ih =>
        by_cases hc : c = '\n'
        · have hsplit : ('\n' :: cs).splitOn '\n' = [] :: cs.splitOn '\n' :=
            List.splitOn_append_cons_self [] cs
          rw [hc, List.dropWhile_cons_of_pos (by decide), ih, hsplit, List.mem_cons]
          simp [hne]
        · rw [List.dropWhile_cons_of_neg (by simpa using hc)]
  rw [HasLine, dropLineBreaks, String.toList_ofList, hchars, HasLine]

namespace EmptyInput

/-- The line is put together where an empty input is cut out of the text: from what ends ahead of
the cut and what begins behind it. -/
def Joins (text l : String) : Prop :=
  ∃ before x cut y after, cut ≠ [] ∧ text.toList = before ++ x ++ (cut ++ (y ++ after)) ∧
    (remove text).toList = before ++ x ++ (y ++ after) ∧ l.toList = x ++ y ∧
    BeginsBehind before ∧ EndsAhead after

/-- Cutting out an empty input makes no new line but at the cut. -/
theorem hasLine_or_joins {text l : String} (h : HasLine (remove text) l) :
    HasLine text l ∨ Joins text l := by
  cases hcut : cut? false text.toList with
  | none =>
      rw [remove_of_free hcut] at h
      exact Or.inl h
  | some rest =>
      have hremove : (remove text).toList = rest := by simp [remove, hcut]
      obtain ⟨a, lead, b, after, htext, -, rfl, -⟩ := exists_of_cut? hcut
      obtain ⟨trail, -, hafter⟩ := exists_dropBreak after
      have hparts : text.toList = a ++ (lead ++ (b.chars ++ trail) ++ dropBreak after) := by
        rw [htext]
        simpa using hafter
      rw [HasLine, hremove] at h
      rcases mem_splitOn_or_join h (lead ++ (b.chars ++ trail)) with hold | hnew
      · left
        rwa [HasLine, hparts]
      · right
        obtain ⟨before, x, y, rest, rfl, hrest, hl, hbefore, hend⟩ := hnew
        rw [hrest] at hparts hremove
        exact ⟨before, x, lead ++ (b.chars ++ trail), y, rest, chars_ne_nil lead trail b, hparts,
          hremove, hl, hbefore, hend⟩

end EmptyInput

end SchemaSieve
