import SchemaSieve.Pattern
import SchemaSieve.Text.Blank

/-!
# Groups of a match

`Node.groups?` tells what the groups of a sequence of parts hold: the match begins at the first place
that allows one, and each part in turn ends as far on as the parts behind it allow. A run of
characters of a set is taken whole, unless the parts behind it match only if it ends sooner:
`groupsFrom?_run_of_sees` says that this does not happen if they cannot begin with such a character.
-/

namespace SchemaSieve.Pattern

open Text

/-- The characters between two places. -/
def Spot.upTo (p q : Spot) : List Char := p.after.take (q.index - p.index)

/-- A character of the set stands behind the place. -/
def Spot.Sees (s : CharSet) (p : Spot) : Prop :=
  ∃ c cs, p.after = c :: cs ∧ s.contains c = true

/-- As many characters of a set as there are. -/
def Node.run (s : CharSet) : Node := .repetition 0 none (.set s)

/-- What a part puts down of the characters between two places. -/
def Node.noted (p q : Spot) : Node → List (List Char)
  | .capture _ => [p.upTo q]
  | _ => []

/-- The groups of the match of some parts that begins at a place. Of the ends of a part the farthest
one is tried first, as in a match that is preferred if each part is one character or takes as many
as it can. -/
def Node.groupsFrom? : List Node → Spot → Option (List (List Char))
  | [], _ => some []
  | n :: ns, p =>
    (n.advance [p]).reverse.findSome? fun q => (Node.groupsFrom? ns q).map (n.noted p q ++ ·)

/-- The groups of the first match of some parts in a text. -/
def Node.groups? (ns : List Node) (text : List Char) : Option (List (List Char)) :=
  (spots text).findSome? (Node.groupsFrom? ns)

section Steps

variable {s : CharSet} {p q : Spot} {ps : List Spot}

/-- The places stand in the order of the text, each of them once. -/
def Ascends (ps : List Spot) : Prop := ps.Pairwise fun p q => p.index < q.index

theorem Ascends.concat (h : Ascends (ps ++ [p])) (hq : q.index = p.index + 1) :
    Ascends (ps ++ [p] ++ [q]) := by
  refine List.pairwise_append.2 ⟨h, List.pairwise_singleton _ _, fun a ha b hb => ?_⟩
  obtain rfl := List.mem_singleton.1 hb
  rcases List.mem_append.1 ha with ha | ha
  · have hlt := (List.pairwise_append.1 h).2.2 a ha p List.mem_cons_self
    omega
  · obtain rfl := List.mem_singleton.1 ha
    omega

theorem dropRepeated_of_ascends (h : Ascends ps) : dropRepeated ps = ps := by
  induction ps using dropRepeated.induct with
  | case1 p q ps hpq ih =>
      have hlt : p.index < q.index := List.rel_of_pairwise_cons h List.mem_cons_self
      omega
  | case2 p q ps hpq ih => rw [dropRepeated, if_neg hpq, ih h.of_cons]
  | case3 ps hps =>
      rw [dropRepeated]
      exact hps

theorem merge_singleton (h : Ascends (ps ++ [q])) : merge ps [q] = ps ++ [q] := by
  have hlt := (List.pairwise_append.1 h).2.2
  have hle : ∀ a b, a ∈ ps → b ∈ [q] → decide (a.index ≤ b.index) = true :=
    fun a b ha hb => decide_eq_true (Nat.le_of_lt (hlt a ha b hb))
  rw [merge, List.merge_of_le hle, dropRepeated_of_ascends h]

theorem without_singleton (h : Ascends (ps ++ [q])) : without [q] ps = [q] := by
  have hlt := (List.pairwise_append.1 h).2.2
  have hnew : ∀ a ∈ ps, a.index ≠ q.index :=
    fun a ha => Nat.ne_of_lt (hlt a ha q List.mem_cons_self)
  simpa [without] using hnew

theorem index_of_take? (h : p.take? s = some q) : q.index = p.index + 1 := by
  rw [Spot.take?] at h
  split at h
  · cases h
  · split at h
    · obtain rfl := Option.some.inj h
      rfl
    · cases h

/-- The steps are over where no character of the set follows. -/
theorem growSteps_of_none (h : p.take? s = none) (n : Nat) :
    growSteps (fun qs => (Node.set s).advance qs) n (ps ++ [p]) [p] = ps ++ [p] := by
  cases n with
  | zero => rfl
  | succ n =>
      have hstep : (Node.set s).advance [p] = [] := by
        rw [Node.advance, List.filterMap_cons_none h, List.filterMap_nil]
      simp [growSteps, hstep, without]

/-- A step leads behind the next character, which is a new place. -/
theorem growSteps_of_some (h : p.take? s = some q) (hps : Ascends (ps ++ [p])) (n : Nat) :
    growSteps (fun qs => (Node.set s).advance qs) (n + 1) (ps ++ [p]) [p]
      = growSteps (fun qs => (Node.set s).advance qs) n (ps ++ [p] ++ [q]) [q] := by
  have hstep : (Node.set s).advance [p] = [q] := by
    rw [Node.advance, List.filterMap_cons_some h, List.filterMap_nil]
  have hnext := hps.concat (index_of_take? h)
  simp only [growSteps, hstep, without_singleton hnext, merge_singleton hnext]

/-- The steps lead to every place in a run of characters, and last of all behind the run. -/
theorem exists_growSteps (hps : Ascends (ps ++ [p])) {n : Nat} (hn : p.after.length ≤ n) :
    ∃ inside stop, growSteps (fun qs => (Node.set s).advance qs) n (ps ++ [p]) [p]
        = ps ++ (inside ++ [stop]) ∧
      stop.index = p.index + (p.after.takeWhile s.contains).length ∧
      stop.after = p.after.dropWhile s.contains ∧ ∀ q ∈ inside, q.Sees s := by
  obtain ⟨i, before?, after⟩ := p
  induction after generalizing i before? ps n with
  | nil => exact ⟨[], ⟨i, before?, []⟩, growSteps_of_none rfl n, rfl, rfl, by simp⟩
  | cons c cs ih =>
      cases hc : s.contains c with
      | false =>
          have htake : Spot.take? s ⟨i, before?, c :: cs⟩ = none := by simp [Spot.take?, hc]
          exact ⟨[], ⟨i, before?, c :: cs⟩, growSteps_of_none htake n, by simp [hc],
            by simp [hc], by simp⟩
      | true =>
          have htake : Spot.take? s ⟨i, before?, c :: cs⟩ = some ⟨i + 1, some c, cs⟩ := by
            simp [Spot.take?, hc]
          obtain ⟨m, rfl⟩ := Nat.exists_eq_add_of_le' hn
          obtain ⟨inside, stop, hgrow, hindex, hafter, hinside⟩ :=
            ih (i + 1) (some c) (hps.concat rfl) (Nat.le_add_left cs.length m)
          refine ⟨⟨i, before?, c :: cs⟩ :: inside, stop, ?_, ?_, ?_, ?_⟩
          · refine (growSteps_of_some htake hps (m + cs.length)).trans (hgrow.trans ?_)
            simp
          · rw [hindex, List.takeWhile_cons_of_pos hc, List.length_cons]
            exact Nat.add_right_comm i 1 _
          · rw [hafter, List.dropWhile_cons_of_pos hc]
          · intro q hq
            rcases List.mem_cons.1 hq with rfl | hq
            · exact ⟨c, cs, rfl, hc⟩
            · exact hinside q hq

/-- A run ends inside the characters of the set or, farthest on, behind them. -/
theorem exists_advance_run (s : CharSet) (p : Spot) :
    ∃ inside stop, (Node.run s).advance [p] = inside ++ [stop] ∧
      p.upTo stop = p.after.takeWhile s.contains ∧
      stop.after = p.after.dropWhile s.contains ∧ ∀ q ∈ inside, q.Sees s := by
  have hp : Ascends ([] ++ [p]) := List.pairwise_singleton _ _
  obtain ⟨inside, stop, hgrow, hindex, hstop⟩ :=
    exists_growSteps (s := s) hp (Nat.le_succ p.after.length)
  have hadvance : (Node.run s).advance [p] = inside ++ [stop] := by
    simpa [Node.run, Node.advance, repeatStep, stepBound] using hgrow
  have htake : p.upTo stop = p.after.takeWhile s.contains := by
    rw [Spot.upTo, hindex, Nat.add_sub_cancel_left]
    exact (List.prefix_iff_eq_take.1 (List.takeWhile_prefix _)).symm
  exact ⟨inside, stop, hadvance, htake, hstop⟩

end Steps

section Groups

variable {s : CharSet} {ns : List Node} {f : List Char → Option (List (List Char))}

theorem groupsFrom?_set_nil (s : CharSet) (ns : List Node) (i : Nat) (before? : Option Char) :
    Node.groupsFrom? (.set s :: ns) ⟨i, before?, []⟩ = none := by
  have htake : Spot.take? s ⟨i, before?, []⟩ = none := rfl
  rw [Node.groupsFrom?, Node.advance, List.filterMap_cons_none htake]
  rfl

theorem groupsFrom?_set_cons (s : CharSet) (ns : List Node) (i : Nat) (before? : Option Char)
    (c : Char) (cs : List Char) :
    Node.groupsFrom? (.set s :: ns) ⟨i, before?, c :: cs⟩
      = if s.contains c then Node.groupsFrom? ns ⟨i + 1, some c, cs⟩ else none := by
  rw [Node.groupsFrom?, Node.advance]
  cases hc : s.contains c with
  | true => simp [Spot.take?, hc, Node.noted]
  | false => simp [Spot.take?, hc]

/-- A group at the end of the parts takes its run whole. -/
theorem groupsFrom?_run_last (s : CharSet) (p : Spot) :
    Node.groupsFrom? [.capture (.run s)] p = some [p.after.takeWhile s.contains] := by
  obtain ⟨inside, stop, hadvance, htake, -, -⟩ := exists_advance_run s p
  simp [Node.groupsFrom?, Node.advance, hadvance, Node.noted, htake]

/-- A group takes its run whole, if the parts behind it cannot begin with a character of the run. -/
theorem groupsFrom?_run_of_sees (hf : ∀ q : Spot, Node.groupsFrom? ns q = f q.after)
    (hs : ∀ c cs, s.contains c = true → f (c :: cs) = none) (p : Spot) :
    Node.groupsFrom? (.capture (.run s) :: ns) p
      = (f (p.after.dropWhile s.contains)).map (p.after.takeWhile s.contains :: ·) := by
  obtain ⟨inside, stop, hadvance, htake, hafter, hinside⟩ := exists_advance_run s p
  have hreverse : (inside ++ [stop]).reverse = stop :: inside.reverse := by simp
  rw [Node.groupsFrom?, Node.advance, hadvance, hreverse, List.findSome?_cons, hf, hafter]
  simp only [Node.noted, htake, List.singleton_append]
  cases f (p.after.dropWhile s.contains) with
  | some groups => rfl
  | none =>
      -- All other ends have a character of the run behind them.
      refine List.findSome?_eq_none_iff.2 fun q hq => ?_
      obtain ⟨c, cs, hq, hc⟩ := hinside q (List.mem_reverse.1 hq)
      rw [hf, hq, hs c cs hc]
      rfl

end Groups

section Classes

/-- In ranges that stand in order a code point is found by looking at each of them. -/
theorem inRanges_eq_any {rs : List (Nat × Nat)} (hle : ∀ r ∈ rs, r.1 ≤ r.2)
    (hrs : rs.Pairwise fun r r' => r.2 < r'.1) (n : Nat) :
    CharSet.inRanges n rs = rs.any fun r => r.1 ≤ n && n ≤ r.2 := by
  induction rs with
  | nil => rfl
  | cons r rs ih =>
      have hr := hle r List.mem_cons_self
      have hrest : n ≤ r.2 → (rs.any fun r => r.1 ≤ n && n ≤ r.2) = false := by
        intro hn
        refine List.any_eq_false.2 fun r' hr' => ?_
        have hlt := List.rel_of_pairwise_cons hrs hr'
        simp only [Bool.and_eq_true, decide_eq_true_eq]
        omega
      rw [CharSet.inRanges, ih (fun r' hr' => hle r' (List.mem_cons_of_mem r hr')) hrs.of_cons,
        List.any_cons]
      rcases Nat.lt_or_ge n r.1 with hbelow | hfirst
      · rw [if_pos hbelow, hrest (by omega), decide_eq_false (Nat.not_le.2 hbelow)]
        rfl
      · rw [if_neg (Nat.not_lt.2 hfirst)]
        by_cases hlast : n ≤ r.2 <;> simp [hfirst, hlast]

theorem contains_word : (Shorthand.word.toSet true).contains = isWord := by
  funext c
  change CharSet.inRanges c.toNat wordRanges = isWord c
  by_cases hascii : c.toNat < 0x80
  · have hall : ∀ n < 0x80, CharSet.inRanges n wordRanges = isAsciiWord (Char.ofNat n) := by
      decide +kernel
    rw [hall c.toNat hascii, isWord, if_pos hascii, Char.ofNat_toNat]
  · rw [isWord, if_neg hascii]

theorem toSet_space : Shorthand.space.toSet true = ⟨[(9, 13), (32, 32)] ++ blankRanges⟩ := by
  change CharSet.ofRanges ([(9, 13), (32, 32)] ++ blankRanges) = _
  rw [CharSet.ofRanges, List.mergeSort_of_pairwise (by decide)]
  rfl

theorem contains_space : (Shorthand.space.toSet true).contains = isBlank := by
  funext c
  rw [toSet_space, CharSet.contains, inRanges_eq_any (by decide) (by decide), List.any_append,
    isBlank, Bool.eq_iff_iff]
  by_cases hascii : c.toNat < 0x80
  · have hnone : (blankRanges.any fun r => r.1 ≤ c.toNat && c.toNat ≤ r.2) = false := by
      refine List.any_eq_false.2 fun r hr => ?_
      have hmin : ∀ r ∈ blankRanges, 0x80 ≤ r.1 := by decide
      have hfirst := hmin r hr
      simp only [Bool.and_eq_true, decide_eq_true_eq]
      omega
    rw [hnone, if_pos hascii]
    simp only [List.any_cons, List.any_nil, Bool.or_false, Bool.or_eq_true, Bool.and_eq_true,
      decide_eq_true_eq]
    omega
  · rw [if_neg hascii, Bool.or_eq_true]
    refine or_iff_right ?_
    simp only [List.any_cons, List.any_nil, Bool.or_false, Bool.or_eq_true, Bool.and_eq_true,
      decide_eq_true_eq]
    omega

end Classes

end SchemaSieve.Pattern
