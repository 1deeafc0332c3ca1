import SchemaSieve.Proofs.RoundTrip

/-!
# Where descriptions stand

The writer goes through the lines of a declaration with one flag that says whether an argument list
is open. `foldl_track_iff` says what the flag stands for: some line has opened a list, and no line
since has closed it, comments aside. So the place of each description is told by the lines alone:
`fieldLines_eq_flatten` gives the lines that are written as those that are written where nothing is
described, with at most one description above each of them.
-/

namespace SchemaSieve

open Text

/-- A closing parenthesis, a colon and a blank stand together somewhere in the characters. -/
def EndsList (cs : List Char) : Prop :=
  ∃ before blank after, cs = before ++ ')' :: ':' :: blank :: after ∧ isBlank blank = true

theorem endsList_cons {c : Char} {cs : List Char} :
    EndsList (c :: cs) ↔
      (∃ blank after, c :: cs = ')' :: ':' :: blank :: after ∧ isBlank blank = true)
        ∨ EndsList cs := by
  constructor
  · rintro ⟨_ | ⟨d, before⟩, blank, after, hcs, hblank⟩
    · exact Or.inl ⟨blank, after, hcs, hblank⟩
    · exact Or.inr ⟨before, blank, after, (List.cons.inj hcs).2, hblank⟩
  · rintro (⟨blank, after, hcs, hblank⟩ | ⟨before, blank, after, rfl, hblank⟩)
    · exact ⟨[], blank, after, hcs, hblank⟩
    · exact ⟨c :: before, blank, after, rfl, hblank⟩

theorem hasListEnd_iff {cs : List Char} : hasListEnd cs = true ↔ EndsList cs := by
  induction cs using hasListEnd.induct with
  | case1 c cs ih =>
      rw [hasListEnd, Bool.or_eq_true, ih, endsList_cons (c := ')')]
      simp
  | case2 c cs hno ih =>
      rw [hasListEnd.eq_2 _ _ hno, ih, endsList_cons]
      refine ⟨Or.inr, fun h => h.resolve_left ?_⟩
      rintro ⟨blank, after, hcs, -⟩
      obtain ⟨rfl, rfl⟩ := List.cons.inj hcs
      exact hno blank after rfl rfl
  | case3 => simp [hasListEnd, EndsList]

/-- The lines of the fields. An entry that was edited may hold several. -/
def Declaration.bodyLines (d : Declaration) : List String := d.fields.flatMap lines

namespace Captions

variable {c : Captions} {d : Declaration} {texts : OrderedMap String String} {ls : List String}
  {l text : String}

/-- An argument list is open behind some lines: one of them begins with a word and an opening
parenthesis, and neither that line nor one behind it ends a list. Comments do not count. -/
def ListOpenBehind (ls : List String) : Prop :=
  ∃ before line after, ls = before ++ line :: after ∧ comment? line = none ∧
    (∃ name, leadingToken line = some (name, '(')) ∧
    ∀ l ∈ line :: after, comment? l = none → ¬EndsList l.toList

/-- A text is given for the field of a declaration that a line begins. -/
def Describes (c : Captions) (d : Declaration) (line text : String) : Prop :=
  ∃ name mark, leadingToken line = some (name, mark) ∧ name ≠ Descriptions.nodeKey ∧
    c.descriptions.field? d.kind d.name name = some text ∧ text ≠ ""

theorem opensAt_iff :
    ArgumentList.opensAt l = true ↔ ∃ name, leadingToken l = some (name, '(') := by
  unfold ArgumentList.opensAt
  split
  · rename_i name mark htoken
    simp [htoken]
  · rename_i htoken
    simp [htoken]

/-- A line more opens a list, or leaves the one open that was, as long as it ends none. -/
theorem listOpenBehind_concat :
    ListOpenBehind (ls ++ [l]) ↔
      (ListOpenBehind ls ∨ comment? l = none ∧ ∃ name, leadingToken l = some (name, '(')) ∧
        (comment? l = none → ¬EndsList l.toList) := by
  constructor
  · rintro ⟨before, line, after, hls, hline, hopens, hends⟩
    rcases List.eq_nil_or_concat' after with rfl | ⟨after, last, rfl⟩
    · obtain ⟨rfl, rfl⟩ := List.append_singleton_inj.1 hls
      exact ⟨Or.inr ⟨hline, hopens⟩, hends l List.mem_cons_self⟩
    · rw [← List.cons_append, ← List.append_assoc] at hls
      obtain ⟨rfl, rfl⟩ := List.append_singleton_inj.1 hls
      rw [← List.cons_append] at hends
      refine ⟨Or.inl ⟨before, line, after, rfl, hline, hopens, ?_⟩, hends l (by simp)⟩
      exact fun m hm => hends m (List.mem_append_left [l] hm)
  · rintro ⟨⟨before, line, after, rfl, hline, hopens, hends⟩ | ⟨hline, hopens⟩, hlast⟩
    · refine ⟨before, line, after ++ [l], by simp, hline, hopens, ?_⟩
      rw [← List.cons_append, List.forall_mem_append]
      exact ⟨hends, List.forall_mem_singleton.2 hlast⟩
    · exact ⟨ls, l, [], rfl, hline, hopens, List.forall_mem_singleton.2 hlast⟩

/-- The writer knows behind which lines a list is open. -/
theorem foldl_track_iff (ls : List String) :
    ls.foldl track false = true ↔ ListOpenBehind ls := by
  -- At the end of the lines, where the flag takes its next step.
  induction ls using List.reverseRecOn with
  | nil => simp [ListOpenBehind]
  | append_singleton ls l ih =>
      rw [List.foldl_concat, listOpenBehind_concat, ← ih, track]
      cases hcomment : comment? l with
      | some text => simp
      | none =>
          rw [← opensAt_iff, ← hasListEnd_iff, ← ArgumentList.closesAt]
          simp [ArgumentList.next]

/-- The text that belongs above a line. -/
def textAbove? (texts : OrderedMap String String) (isOpen : Bool) (line : String) :
    Option String :=
  if (comment? line).isSome || isOpen then none else textFor? texts line

/-- The texts that belong above each of some lines. -/
def textsAbove (texts : OrderedMap String String) : Bool → List String → List (Option String)
  | _, [] => []
  | isOpen, line :: ls =>
    textAbove? texts isOpen line :: textsAbove texts (track isOpen line) ls

/-- A line with the text above it, if there is one. -/
def below (c : Captions) (text? : Option String) (line : String) : List String :=
  (text?.map c.bodyLine).toList ++ [line]

theorem captionedLine_eq (isOpen : Bool) (l : String) :
    c.captionedLine texts isOpen l = c.below (textAbove? texts isOpen l) (c.promote l) := by
  rw [captionedLine, textAbove?, promote]
  cases comment? l with
  | some text => rfl
  | none =>
      cases isOpen with
      | true => rfl
      | false => cases textFor? texts l <;> rfl

theorem captionedLines_eq (isOpen : Bool) (ls : List String) :
    c.captionedLines texts isOpen ls
      = (List.zipWith c.below (textsAbove texts isOpen ls) (ls.map c.promote)).flatten := by
  induction ls generalizing isOpen with
  | nil => rfl
  | cons l ls ih =>
      rw [captionedLines, captionedLine_eq, ih, textsAbove, List.map_cons, List.zipWith_cons_cons,
        List.flatten_cons]

theorem getElem?_textsAbove (isOpen : Bool) (ls : List String) (i : Nat) :
    (textsAbove texts isOpen ls)[i]?
      = ls[i]?.map (textAbove? texts ((ls.take i).foldl track isOpen)) := by
  induction ls generalizing isOpen i with
  | nil => rfl
  | cons l ls ih =>
      cases i with
      | zero => rfl
      | succ i => simpa [textsAbove] using ih (track isOpen l) i

theorem length_textsAbove (isOpen : Bool) (ls : List String) :
    (textsAbove texts isOpen ls).length = ls.length := by
  induction ls generalizing isOpen with
  | nil => rfl
  | cons l ls ih => rw [textsAbove, List.length_cons, ih, List.length_cons]

theorem textFor?_eq_some_iff :
    textFor? ((c.descriptions.fieldsOf? d.kind d.name).getD ∅) l = some text ↔
      c.Describes d l text := by
  have hfind : ∀ name, ((c.descriptions.fieldsOf? d.kind d.name).getD ∅).find? name
      = c.descriptions.field? d.kind d.name name := by
    intro name
    rw [Descriptions.field?]
    cases c.descriptions.fieldsOf? d.kind d.name <;> rfl
  unfold textFor? Describes
  cases htoken : leadingToken l with
  | none => simp
  | some token =>
      obtain ⟨name, mark⟩ := token
      by_cases hnode : name = Descriptions.nodeKey
      · simp [hnode]
      · simp [hnode, hfind, Option.filter_eq_some_iff]

/-- **Each line is written, with at most one description above it**: the text for the field that the
line begins, if it is no comment and stands in no argument list that an earlier line has opened.
Without these descriptions the lines are those that are written where nothing is described. -/
theorem fieldLines_eq_flatten (c : Captions) (d : Declaration) :
    ({ c with descriptions := {} } : Captions).fieldLines d = d.bodyLines.map c.promote ∧
      ∃ above : List (Option String), above.length = d.bodyLines.length ∧
        c.fieldLines d
          = (List.zipWith c.below above (d.bodyLines.map c.promote)).flatten ∧
        ∀ (i : Nat) (line text : String), d.bodyLines[i]? = some line →
          (above[i]? = some (some text) ↔
            comment? line = none ∧ ¬ListOpenBehind (d.bodyLines.take i) ∧
              c.Describes d line text) := by
  refine ⟨captionedLines_empty false d.bodyLines, ?_⟩
  set texts := (c.descriptions.fieldsOf? d.kind d.name).getD ∅ with htexts
  refine ⟨textsAbove texts false d.bodyLines, length_textsAbove false d.bodyLines,
    captionedLines_eq false d.bodyLines, ?_⟩
  intro i line text hline
  rw [getElem?_textsAbove, hline, Option.map_some, Option.some.injEq, textAbove?,
    ← foldl_track_iff, ← textFor?_eq_some_iff, ← htexts]
  cases comment? line with
  | some text => simp
  | none => cases (d.bodyLines.take i).foldl track false <;> simp

end Captions

end SchemaSieve
