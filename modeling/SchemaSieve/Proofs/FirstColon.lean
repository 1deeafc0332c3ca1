import SchemaSieve.Proofs.Groups
import SchemaSieve.Proofs.Literals
import SchemaSieve.Proofs.Signatures
import Mathlib.Data.List.DropRight

/-!
# Words around the first colon

A signature consists of the words on either side of the first colon that a blank follows, each as
long as can be. They are also the groups of the first match of `(\w*):\s(\w*)`: no match begins in
front of the word at that colon, and the one that begins there takes the whole word, as what follows
a shorter one is no colon.
-/

namespace SchemaSieve.Signature

open Text Pattern

/-- The first colon of a text that a blank follows, with what stands before and behind the two. -/
structure IsFirst (text before : List Char) (blank : Char) (behind : List Char) : Prop where
  eq_append : text = before ++ ':' :: blank :: behind
  isBlank_blank : isBlank blank = true
  length_le : ∀ before' blank' behind', text = before' ++ ':' :: blank' :: behind' →
    isBlank blank' = true → before.length ≤ before'.length

/-- The longest of the runs of word characters that stand in some place. -/
structure IsLongestRun (IsThere : List Char → Prop) (run : List Char) : Prop where
  isThere : IsThere run
  isWord_of_mem : ∀ c ∈ run, isWord c = true
  length_le : ∀ run', IsThere run' → (∀ c ∈ run', isWord c = true) → run'.length ≤ run.length

section Scan

variable {text before behind run read cs : List Char} {c : Char}

theorem isLongestRun_takeWhile (cs : List Char) :
    IsLongestRun (· <+: cs) (cs.takeWhile isWord) where
  isThere := List.takeWhile_prefix _
  isWord_of_mem := fun _ => List.mem_takeWhile_imp
  length_le := by
    rintro run ⟨rest, rfl⟩ hrun
    rw [List.takeWhile_append_of_pos hrun, List.length_append]
    exact Nat.le_add_right _ _

theorem isLongestRun_rtakeWhile (cs : List Char) :
    IsLongestRun (· <:+ cs) (cs.rtakeWhile isWord) where
  isThere := List.rtakeWhile_suffix _ _
  isWord_of_mem := fun _ => List.mem_rtakeWhile_imp
  length_le := by
    intro run hsuffix hrun
    have hlength := (isLongestRun_takeWhile cs.reverse).length_le run.reverse
      (List.reverse_prefix.2 hsuffix) (by simpa using hrun)
    simpa [List.rtakeWhile] using hlength

theorem isFirst_nil (hc : isBlank c = true) (cs : List Char) :
    IsFirst (':' :: c :: cs) [] c cs :=
  ⟨rfl, hc, fun _ _ _ _ _ => Nat.zero_le _⟩

theorem IsFirst.cons (h : IsFirst text before c behind) {d : Char}
    (hd : ∀ e es, d = ':' → text = e :: es → isBlank e = false) :
    IsFirst (d :: text) (d :: before) c behind where
  eq_append := by rw [h.eq_append, List.cons_append]
  isBlank_blank := h.isBlank_blank
  length_le := by
    intro before' blank' behind' hsplit hblank
    cases before' with
    | nil =>
        obtain ⟨hcolon, htext⟩ := List.cons.inj hsplit
        rw [hd blank' behind' hcolon htext] at hblank
        cases hblank
    | cons e before' =>
        exact Nat.succ_le_succ (h.length_le before' blank' behind' (List.cons.inj hsplit).2 hblank)

/-- What is found are the words around the first colon with a blank behind it. The word ahead of the
colon may have begun in what was read before. -/
theorem exists_isFirst_of_scan {words : List Char × List Char}
    (hrun : run.reverse = read.rtakeWhile isWord) (h : scan run cs = some words) :
    ∃ before c behind, IsFirst cs before c behind ∧
      words = ((read ++ before).rtakeWhile isWord, behind.takeWhile isWord) := by
  induction run, cs using scan.induct generalizing read with
  | case1 run => cases h
  | case2 run c cs hc =>
      rw [scan_colon hc, hrun] at h
      refine ⟨[], c, cs, isFirst_nil hc cs, ?_⟩
      rw [List.append_nil]
      exact (Option.some.inj h).symm
  | case3 run c cs hc ih =>
      have hc' : isBlank c = false := by simpa using hc
      rw [scan_colon_of_not_blank hc'] at h
      have hread : [].reverse = (read ++ [':']).rtakeWhile isWord :=
        (List.rtakeWhile_concat_neg _ _ _ (by decide)).symm
      obtain ⟨before, d, behind, hfirst, hwords⟩ := ih hread h
      refine ⟨':' :: before, d, behind, hfirst.cons ?_, by simpa using hwords⟩
      intro e es _ htext
      rwa [← (List.cons.inj htext).1]
  | case4 run c cs hcolon ih =>
      rw [scan] at h
      · have hread : (if isWord c then c :: run else []).reverse
            = (read ++ [c]).rtakeWhile isWord := by
          cases hc : isWord c with
          | true => rw [List.rtakeWhile_concat_pos _ _ _ hc, ← hrun, if_pos rfl, List.reverse_cons]
          | false =>
              rw [List.rtakeWhile_concat_neg _ _ _ (by simp [hc])]
              rfl
        obtain ⟨before, d, behind, hfirst, hwords⟩ := ih hread h
        refine ⟨c :: before, d, behind, hfirst.cons ?_, by simpa using hwords⟩
        intro e es hc htext
        exact (hcolon e es hc htext).elim
      · exact hcolon

end Scan

section Groups

variable {run cs : List Char} {c : Char}

/-- The pattern of two words, which may be empty, with a colon and a blank between them. -/
def pairSource : String := "(\\w*):\\s(\\w*)"

/-- What the pattern means, part by part. -/
def pairParts : List Node :=
  [.capture (.run (Shorthand.word.toSet true)), .set (.singleton ':'),
    .set (Shorthand.space.toSet true), .capture (.run (Shorthand.word.toSet true))]

theorem compile_pairSource :
    Pattern.compile pairSource = .ok ⟨pairSource, .concat pairParts⟩ := by
  have hnode : compileNode pairSource = .ok (.concat pairParts) := rfl
  have hweight : (Node.concat pairParts).totalWeight ≤ weightLimit := by
    rw [pairParts, toSet_space]
    decide +kernel
  rw [Pattern.compile, hnode]
  exact if_neg (Nat.not_lt.2 hweight)

/-- The word behind a colon and a blank that a text begins with. -/
def wordBehind? : List Char → Option (List (List Char))
  | ':' :: c :: cs => if isBlank c then some [cs.takeWhile isWord] else none
  | _ => none

/-- The words of a match that begins where a text begins. -/
def pairAt? (cs : List Char) : Option (List (List Char)) :=
  (wordBehind? (cs.dropWhile isWord)).map (cs.takeWhile isWord :: ·)

theorem wordBehind?_of_ne (h : c ≠ ':') (cs : List Char) : wordBehind? (c :: cs) = none := by
  rw [wordBehind?]
  intro d ds hsplit
  exact h (List.cons.inj hsplit).1

theorem groupsFrom?_tail (p : Spot) :
    Node.groupsFrom? pairParts.tail p = wordBehind? p.after := by
  obtain ⟨i, before?, after⟩ := p
  rw [pairParts, List.tail_cons]
  match after with
  | [] =>
      rw [groupsFrom?_set_nil]
      rfl
  | c :: cs =>
      rw [groupsFrom?_set_cons, CharSet.contains_singleton]
      by_cases hc : c = ':'
      · rw [decide_eq_true hc, if_pos rfl, hc]
        match cs with
        | [] =>
            rw [groupsFrom?_set_nil]
            rfl
        | d :: ds =>
            rw [groupsFrom?_set_cons, contains_space, groupsFrom?_run_last, contains_word,
              wordBehind?]
      · rw [decide_eq_false hc, if_neg Bool.false_ne_true, wordBehind?_of_ne hc]

theorem groupsFrom?_pairParts (p : Spot) :
    Node.groupsFrom? pairParts p = pairAt? p.after := by
  have hword : ∀ c cs, (Shorthand.word.toSet true).contains c = true →
      wordBehind? (c :: cs) = none := by
    intro c cs hc
    rw [contains_word] at hc
    refine wordBehind?_of_ne ?_ cs
    rintro rfl
    exact absurd hc (by decide)
  have hgroups := groupsFrom?_run_of_sees groupsFrom?_tail hword p
  rwa [contains_word] at hgroups

theorem groups?_pairParts (text : List Char) :
    Node.groups? pairParts text = text.tails.findSome? pairAt? := by
  rw [← map_after_along 0 none, List.findSome?_map]
  exact congrArg (List.findSome? · _) (funext groupsFrom?_pairParts)

theorem pairAt?_colon (hrun : ∀ c ∈ run, isWord c = true) (hc : isBlank c = true)
    (cs : List Char) : pairAt? (run ++ ':' :: c :: cs) = some [run, cs.takeWhile isWord] := by
  have hcolon : ¬isWord ':' = true := by decide
  rw [pairAt?, List.dropWhile_append_of_pos hrun, List.takeWhile_append_of_pos hrun,
    List.dropWhile_cons_of_neg hcolon, List.takeWhile_cons_of_neg hcolon, List.append_nil,
    wordBehind?, if_pos hc]
  rfl

theorem pairAt?_eq_none (hc : isWord c = false)
    (h : ∀ d ds, c = ':' → cs = d :: ds → isBlank d = false) : pairAt? (c :: cs) = none := by
  rw [pairAt?, List.dropWhile_cons_of_neg (by simp [hc])]
  by_cases hcolon : c = ':'
  · cases cs with
    | nil =>
        rw [hcolon]
        rfl
    | cons d ds =>
        rw [hcolon, wordBehind?, h d ds hcolon rfl]
        rfl
  · rw [wordBehind?_of_ne hcolon]
    rfl

theorem findSome?_tails_cons (h : pairAt? (c :: cs) = none) :
    (c :: cs).tails.findSome? pairAt? = cs.tails.findSome? pairAt? := by
  rw [List.tails_cons, List.findSome?_cons_of_isNone (by simp [h])]

/-- No match begins in a word that is followed by none. -/
theorem findSome?_tails_append (hrun : ∀ c ∈ run, isWord c = true) (hcs : pairAt? cs = none) :
    (run ++ cs).tails.findSome? pairAt? = cs.tails.findSome? pairAt? := by
  induction run with
  | nil => rfl
  | cons c run ih =>
      have hnone : pairAt? (c :: run ++ cs) = none := by
        rw [pairAt?, Option.map_eq_none_iff] at hcs ⊢
        rw [List.dropWhile_append_of_pos hrun, hcs]
      exact (findSome?_tails_cons hnone).trans (ih (List.forall_mem_cons.1 hrun).2)

/-- The groups of the first match are the words that are found in one pass. -/
theorem findSome?_tails_eq_scan (hrun : ∀ c ∈ run, isWord c = true) :
    (run.reverse ++ cs).tails.findSome? pairAt? = (scan run cs).map fun w => [w.1, w.2] := by
  have hreverse : ∀ {run : List Char}, (∀ c ∈ run, isWord c = true) →
      ∀ c ∈ run.reverse, isWord c = true := fun h c hc => h c (List.mem_reverse.1 hc)
  induction run, cs using scan.induct with
  | case1 run =>
      rw [findSome?_tails_append (hreverse hrun) rfl]
      rfl
  | case2 run c cs hc =>
      have hpair := pairAt?_colon (hreverse hrun) hc cs
      rw [scan_colon hc]
      cases hsplit : run.reverse ++ ':' :: c :: cs with
      | nil => simp at hsplit
      | cons d ds =>
          rw [hsplit] at hpair
          rw [List.tails_cons, List.findSome?_cons, hpair]
          rfl
  | case3 run c cs hc ih =>
      have hc' : isBlank c = false := by simpa using hc
      have hpair : pairAt? (':' :: c :: cs) = none := by
        refine pairAt?_eq_none (by decide) fun d ds _ htext => ?_
        rwa [← (List.cons.inj htext).1]
      rw [scan_colon_of_not_blank hc']
      calc (run.reverse ++ ':' :: c :: cs).tails.findSome? pairAt?
          = (':' :: c :: cs).tails.findSome? pairAt? :=
            findSome?_tails_append (hreverse hrun) hpair
        _ = (c :: cs).tails.findSome? pairAt? := findSome?_tails_cons hpair
        _ = (scan [] (c :: cs)).map fun w => [w.1, w.2] := ih (by simp)
  | case4 run c cs hcolon ih =>
      rw [scan]
      · cases hc : isWord c with
        | true =>
            -- The word goes on, and what has been read of it is no end yet.
            have hnext : ∀ d ∈ c :: run, isWord d = true := List.forall_mem_cons.2 ⟨hc, hrun⟩
            simpa [hc] using ih (by simpa [hc] using hnext)
        | false =>
            have hpair : pairAt? (c :: cs) = none :=
              pairAt?_eq_none hc fun d ds hd htext => (hcolon d ds hd htext).elim
            calc (run.reverse ++ c :: cs).tails.findSome? pairAt?
                = (c :: cs).tails.findSome? pairAt? :=
                  findSome?_tails_append (hreverse hrun) hpair
              _ = cs.tails.findSome? pairAt? := findSome?_tails_cons hpair
              _ = (scan [] cs).map fun w => [w.1, w.2] := by simpa [hc] using ih (by simp [hc])
      · exact hcolon

theorem groups?_eq_scan (text : List Char) :
    Node.groups? pairParts text = (scan [] text).map fun w => [w.1, w.2] := by
  have hrun : ∀ c ∈ ([] : List Char), isWord c = true := by simp
  rw [groups?_pairParts]
  exact findSome?_tails_eq_scan hrun

end Groups

/-- **A signature is the words around the first colon that a blank follows.** Both words are empty
if there is no such colon. Otherwise the name is the longest run of word characters that ends right
before the first one, and the definition the longest run that begins right behind the blank. The
words are the groups of a pattern, whose first match begins with the name. -/
theorem ofField_around_first_colon (field : String) :
    Pattern.compile pairSource = .ok ⟨pairSource, .concat pairParts⟩ ∧
      ((¬IsIn field.toList ∧ Node.groups? pairParts field.toList = none ∧ ofField field = {}) ∨
        ∃ before blank behind name definition, IsFirst field.toList before blank behind ∧
          IsLongestRun (· <:+ before) name ∧ IsLongestRun (· <+: behind) definition ∧
          Node.groups? pairParts field.toList = some [name, definition] ∧
          ofField field = ⟨String.ofList name, String.ofList definition⟩) := by
  refine ⟨compile_pairSource, ?_⟩
  have hgroups := groups?_eq_scan field.toList
  cases hscan : scan [] field.toList with
  | none =>
      rw [hscan] at hgroups
      refine Or.inl ⟨scan_eq_none_iff.1 hscan, hgroups, ?_⟩
      rw [ofField, hscan]
  | some words =>
      have hrun : [].reverse = ([] : List Char).rtakeWhile isWord := rfl
      obtain ⟨before, blank, behind, hfirst, hwords⟩ := exists_isFirst_of_scan hrun hscan
      rw [List.nil_append] at hwords
      rw [hscan, hwords] at hgroups
      refine Or.inr ⟨before, blank, behind, _, _, hfirst, isLongestRun_rtakeWhile before,
        isLongestRun_takeWhile behind, hgroups, ?_⟩
      rw [ofField, hscan, hwords]

/-- A line break is a blank, and a colon is read over if none follows. -/
example : ofField "album(a:b, id:\nID!)" = ⟨"id", "ID"⟩ := by decide

end SchemaSieve.Signature
