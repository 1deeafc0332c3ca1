import Mathlib.Data.List.Infix
import SchemaSieve.Matcher

/-!
# Literal patterns

A text is escaped to look for it as it is. `compileNode_escape` reads the escaped text: its node
takes just the characters of the text, one after the other. `occursIn_ofChars_iff` looks for them:
they are found where they stand together, wherever that is. So a matcher made of a part of a text
accepts the texts with that part, if it is no longer than a pattern may be: `accepts_ofSubstring`.
-/

namespace SchemaSieve

open Text

namespace Pattern

variable {c x : Char} {cs rest : List Char} {s : ReadState}

section Reading

/-- What stands for a character in an escaped text. -/
def escapeChar (c : Char) : List Char := if isMeta c then ['\\', c] else [c]

/-- A character that is escaped is no letter and no digit, so it begins no longer escape. -/
theorem isAlphanum_eq_false_of_isMeta (h : isMeta x = true) : x.isAlphanum = false := by
  have hall : ("\\.+*?()|[]\x7b\x7d^$#&-~".toList.all fun y => !y.isAlphanum) = true := by
    decide +kernel
  rw [isMeta, List.contains_iff_mem] at h
  simpa using List.all_eq_true.1 hall x h

theorem shorthand?_eq_none (h : x.isAlphanum = false) : shorthand? x = none := by
  unfold shorthand?
  split <;> first | exact absurd h (by decide) | rfl

theorem readEscape_of_isMeta (h : isMeta x = true) (pos : Position) :
    readEscape { rest := '\\' :: x :: rest, pos }
      = .ok (.literal { span := ⟨pos, (pos.after '\\').after x⟩, char := x },
          { rest, pos := (pos.after '\\').after x }) := by
  have halphanum := isAlphanum_eq_false_of_isMeta h
  have hdigit : x.isDigit = false := by
    rw [Char.isAlphanum, Bool.or_eq_false_iff] at halphanum
    exact halphanum.2
  have hne : ∀ y : Char, y.isAlphanum = true → x ≠ y := by
    rintro y hy rfl
    rw [halphanum] at hy
    cases hy
  have hescapable : isEscapable x = true := by simp [isEscapable, h]
  simp only [readEscape, Cursor.next, Cursor.char?, Cursor.since, List.head?_cons, hdigit,
    Bool.false_eq_true, if_false, hne 'x' rfl, hne 'u' rfl, hne 'U' rfl, hne 'p' rfl, hne 'P' rfl,
    or_self, shorthand?_eq_none halphanum, hescapable, if_true]

theorem step_of_not_isMeta (h : isMeta x = false) (s : ReadState) :
    s.step x = .ok (s.push (.literal ⟨s.cursor.charSpan, x, false⟩) s.cursor.next) := by
  unfold ReadState.step
  split <;> first | exact absurd h (by decide) | rfl

/-- One turn reads what stands for a character, and adds the character to the sequence. -/
theorem exists_run_succ (hrest : s.cursor.rest = escapeChar c ++ rest)
    (hverbose : s.cursor.verbose = false) (n : Nat) :
    ∃ span pos, s.run (n + 1) = (s.push (.literal { span, char := c }) { rest, pos }).run n := by
  obtain ⟨groups, branch, names, ⟨chars, pos, verbose⟩⟩ := s
  obtain rfl : verbose = false := hverbose
  obtain rfl : chars = escapeChar c ++ rest := hrest
  cases h : isMeta c with
  | true =>
      have hchars : escapeChar c ++ rest = '\\' :: c :: rest := by simp [escapeChar, h]
      refine ⟨⟨pos, (pos.after '\\').after c⟩, (pos.after '\\').after c, ?_⟩
      simp only [hchars, ReadState.run, Cursor.skip, Cursor.char?, List.head?_cons,
        Bool.false_eq_true, if_false, ReadState.step, readEscape_of_isMeta h]
      rfl
  | false =>
      have hchars : escapeChar c ++ rest = c :: rest := by simp [escapeChar, h]
      refine ⟨⟨pos, pos.after c⟩, pos.after c, ?_⟩
      simp only [hchars, ReadState.run, Cursor.skip, Cursor.char?, List.head?_cons,
        Bool.false_eq_true, if_false, step_of_not_isMeta h]
      rfl

/-- The reader goes through what stands for some characters, and adds just these. -/
theorem exists_run (hrest : s.cursor.rest = cs.flatMap escapeChar)
    (hverbose : s.cursor.verbose = false) {n : Nat} (hn : cs.length ≤ n) :
    ∃ ls : List Literal, ls.map Literal.char = cs ∧
      ∃ cursor, s.run n = .ok { s with
        branch := { s.branch with items := (ls.map Expr.literal).reverse ++ s.branch.items }
        cursor } := by
  induction cs generalizing s n with
  | nil =>
      refine ⟨[], rfl, s.cursor, ?_⟩
      have hchar : s.cursor.char? = none := by simp [Cursor.char?, hrest]
      have hskip : s.cursor.skip = s.cursor := by simp [Cursor.skip, hverbose]
      cases n with
      | zero => rfl
      | succ n =>
          simp only [ReadState.run, hskip, hchar]
          rfl
  | cons c cs ih =>
      cases n with
      | zero => simp at hn
      | succ n =>
          rw [List.flatMap_cons] at hrest
          obtain ⟨span, pos, hturn⟩ := exists_run_succ hrest hverbose n
          obtain ⟨ls, hls, cursor, hrun⟩ := ih (s := s.push (.literal { span, char := c })
            { rest := cs.flatMap escapeChar, pos }) rfl rfl (Nat.le_of_succ_le_succ hn)
          refine ⟨{ span, char := c } :: ls, by rw [List.map_cons, hls], cursor, ?_⟩
          rw [hturn, hrun]
          simp [ReadState.push, Branch.push]

theorem checkDepths_literals (depth : Nat) (ls : List Literal) :
    Expr.checkDepths depth (ls.map .literal) = .ok () := by
  induction ls with
  | nil => rfl
  | cons l ls ih =>
      rw [List.map_cons, Expr.checkDepths, ih]
      rfl

theorem length_le_length_flatMap_escapeChar (cs : List Char) :
    cs.length ≤ (cs.flatMap escapeChar).length := by
  induction cs with
  | nil => exact Nat.le_refl 0
  | cons c cs ih =>
      have hchar : 1 ≤ (escapeChar c).length := by
        unfold escapeChar
        split <;> simp
      rw [List.flatMap_cons, List.length_append, List.length_cons]
      omega

/-- The sequence of some literals, from the beginning of a pattern to where it stops. -/
def sequenceOf (ls : List Literal) (stop : Position) : Expr :=
  Branch.sequence { Branch.begin {} with items := (ls.map Expr.literal).reverse } stop

theorem sequenceOf_cons_cons (l m : Literal) (ls : List Literal) (stop : Position) :
    sequenceOf (l :: m :: ls) stop = .concat ⟨{}, stop⟩ ((l :: m :: ls).map .literal) := by
  unfold sequenceOf Branch.sequence
  split
  · rename_i hnil
    simp at hnil
  · rename_i e hone
    exact absurd (congrArg List.length hone) (by simp)
  · simp [Branch.begin]

theorem checkDepth_sequenceOf (ls : List Literal) (stop : Position) :
    (sequenceOf ls stop).checkDepth 0 = .ok () := by
  match ls with
  | [] => rfl
  | [l] => rfl
  | l :: m :: ls =>
      rw [sequenceOf_cons_cons, Expr.checkDepth]
      exact checkDepths_literals 1 _

/-- An escaped text is read as its characters. -/
theorem exists_ofText_escape (text : String) :
    ∃ (ls : List Literal) (stop : Position), ls.map Literal.char = text.toList ∧
      Expr.ofText (escape text) = .ok (sequenceOf ls stop) := by
  have hescape : (escape text).toList = text.toList.flatMap escapeChar := by
    rw [escape, String.toList_ofList]
    rfl
  have hfuel : text.toList.length ≤ (escape text).length + 1 := by
    rw [← String.length_toList, hescape]
    exact (length_le_length_flatMap_escapeChar _).trans (Nat.le_succ _)
  obtain ⟨ls, hls, cursor, hrun⟩ := exists_run
    (s := { branch := .begin {}, cursor := { rest := (escape text).toList } }) hescape rfl hfuel
  refine ⟨ls, cursor.pos, hls, ?_⟩
  have hfinish : (Branch.finish { Branch.begin {} with
      items := (ls.map Expr.literal).reverse ++ (Branch.begin {}).items } cursor.pos)
        = sequenceOf ls cursor.pos := by
    simp [Branch.finish, sequenceOf, Branch.begin]
  simp only [Expr.ofText, hrun, ReadState.finish, bind, Except.bind, hfinish, checkDepth_sequenceOf]
  rfl

end Reading

section Meaning

/-- The node that takes just the given characters, one after the other. -/
def Node.ofChars : List Char → Node
  | [] => .empty
  | [c] => .set (.singleton c)
  | cs => .concat (cs.map fun c => .set (.singleton c))

theorem ofExpr_literal (l : Literal) :
    Node.ofExpr {} (.literal l) = .ok (.set (.singleton l.char), {}) := by
  simp [Node.ofExpr, Flags.scalar, Flags.fold]

theorem ofExprs_literals (ls : List Literal) :
    Node.ofExprs {} (ls.map .literal)
      = .ok ((ls.map Literal.char).map fun c => .set (.singleton c), {}) := by
  induction ls with
  | nil => rfl
  | cons l ls ih =>
      simp only [List.map_cons, Node.ofExprs, ofExpr_literal, bind, Except.bind, ih]
      rfl

theorem ofExpr_sequenceOf (ls : List Literal) (stop : Position) :
    Node.ofExpr {} (sequenceOf ls stop) = .ok (Node.ofChars (ls.map Literal.char), {}) := by
  match ls with
  | [] => rfl
  | [l] => exact ofExpr_literal l
  | l :: m :: ls =>
      rw [sequenceOf_cons_cons, Node.ofExpr, ofExprs_literals]
      rfl

/-- An escaped text means its characters. -/
theorem compileNode_escape (text : String) :
    compileNode (escape text) = .ok (Node.ofChars text.toList) := by
  obtain ⟨ls, stop, hls, htext⟩ := exists_ofText_escape text
  simp only [compileNode, htext, bind, Except.bind, ofExpr_sequenceOf, hls]
  rfl

end Meaning

section Search

variable {ps : List Spot} {text : List Char}

theorem exists_take?_iff {p : Spot} :
    (∃ q, Spot.take? (.singleton c) p = some q ∧ cs <+: q.after) ↔ c :: cs <+: p.after := by
  cases hafter : p.after with
  | nil => simp [Spot.take?, hafter]
  | cons d ds =>
      simp only [Spot.take?, hafter, CharSet.contains_singleton, List.cons_prefix_cons]
      by_cases h : d = c
      · simp [h]
      · simp [h, Ne.symm h]

theorem advance_ofChars (ps : List Spot) (cs : List Char) :
    (Node.ofChars cs).advance ps = Node.advanceAll ps (cs.map fun c => .set (.singleton c)) := by
  match cs with
  | [] => simp [Node.ofChars, Node.advance, Node.advanceAll]
  | [c] => simp [Node.ofChars, Node.advance, Node.advanceAll]
  | c :: d :: cs => simp [Node.ofChars, Node.advance]

/-- A match ends somewhere just when the characters stand behind one of the places. -/
theorem advanceAll_ne_nil_iff :
    Node.advanceAll ps (cs.map fun c => .set (.singleton c)) ≠ [] ↔
      ∃ p ∈ ps, cs <+: p.after := by
  induction cs generalizing ps with
  | nil => simp [Node.advanceAll, List.eq_nil_iff_forall_not_mem]
  | cons c cs ih =>
      rw [List.map_cons, Node.advanceAll, ih, Node.advance]
      simp only [← exists_take?_iff, List.mem_filterMap]
      constructor
      · rintro ⟨q, ⟨p, hp, hq⟩, hcs⟩
        exact ⟨p, hp, q, hq, hcs⟩
      · rintro ⟨p, hp, q, hq, hcs⟩
        exact ⟨q, ⟨p, hp, hq⟩, hcs⟩

theorem map_after_along (i : Nat) (before? : Option Char) (text : List Char) :
    (Spot.along i before? text).map Spot.after = text.tails := by
  induction text generalizing i before? with
  | nil => rfl
  | cons c cs ih => simp [Spot.along, ih]

theorem occursIn_ofChars_iff : (Node.ofChars cs).occursIn text = true ↔ cs <:+: text := by
  rw [Node.occursIn, advance_ofChars, Bool.not_eq_true', List.isEmpty_eq_false_iff,
    advanceAll_ne_nil_iff, List.infix_iff_prefix_suffix]
  simp only [← List.mem_tails, ← map_after_along 0 none, List.mem_map, spots]
  constructor
  · rintro ⟨p, hp, hcs⟩
    exact ⟨p.after, hcs, p, hp, rfl⟩
  · rintro ⟨_, hcs, p, hp, rfl⟩
    exact ⟨p, hp, hcs⟩

end Search

section Weight

theorem byteSequences_self (lead k n : Nat) :
    ∃ bs, byteSequences lead k n n = [bs] ∧ bs.length = k + 1 := by
  induction k generalizing lead n with
  | zero => exact ⟨_, rfl, rfl⟩
  | succ k ih =>
      obtain ⟨bs, hbs, hlength⟩ := ih 0x80 (n % 64 ^ (k + 1))
      refine ⟨_, (if_pos rfl).trans (congrArg _ hbs), ?_⟩
      rw [List.length_cons, hlength]

theorem rangeSequences_self (n : Nat) :
    rangeSequences (n, n) = encodingClasses.flatMap fun (first, last, lead, k) =>
      if first ≤ n ∧ n ≤ last then byteSequences lead k n n else [] := by
  rw [rangeSequences]
  refine List.flatMap_congr fun e _ => ?_
  obtain ⟨first, last, lead, k⟩ := e
  change (if max first n ≤ min last n then byteSequences lead k (max first n) (min last n)
    else []) = if first ≤ n ∧ n ≤ last then byteSequences lead k n n else []
  by_cases h : first ≤ n ∧ n ≤ last
  · rw [if_pos h, max_eq_right h.1, min_eq_right h.2, if_pos (Nat.le_refl n)]
  · have hout : ¬max first n ≤ min last n := by omega
    rw [if_neg h, if_neg hout]

theorem utf8Size_eq (c : Char) : c.utf8Size
    = if c.toNat ≤ 0x7F then 1 else if c.toNat ≤ 0x7FF then 2 else if c.toNat ≤ 0xFFFF then 3
      else 4 := rfl

/-- A character belongs to one class of encodings. -/
theorem exists_rangeSequences_eq_byteSequences (c : Char) :
    ∃ lead k, rangeSequences (c.toNat, c.toNat) = byteSequences lead k c.toNat c.toNat ∧
      k + 1 = c.utf8Size := by
  have hvalid : c.toNat < 0xD800 ∨ 0xDFFF < c.toNat ∧ c.toNat < 0x110000 := c.valid
  rw [rangeSequences_self, utf8Size_eq]
  generalize c.toNat = n at hvalid
  simp only [encodingClasses, List.flatMap_cons, List.flatMap_nil, List.append_nil]
  rcases Nat.lt_or_ge 0x7F n with h1 | h1
  · rcases Nat.lt_or_ge 0x7FF n with h2 | h2
    · rcases Nat.lt_or_ge 0xFFFF n with h3 | h3
      · refine ⟨0xF0, 3, ?_, ?_⟩ <;> simp (disch := omega) only [if_pos, if_neg, List.nil_append]
      · refine ⟨0xE0, 2, ?_, ?_⟩
        -- The surrogates part the characters of three bytes in two.
        · rcases hvalid with h4 | h4 <;>
            simp (disch := omega) only [if_pos, if_neg, List.nil_append, List.append_nil]
        · simp (disch := omega) only [if_pos, if_neg]
    · refine ⟨0xC0, 1, ?_, ?_⟩ <;>
        simp (disch := omega) only [if_pos, if_neg, List.nil_append, List.append_nil]
  · refine ⟨0, 0, ?_, ?_⟩ <;> simp (disch := omega) only [if_pos, if_neg, List.append_nil]

/-- A character is one sequence of bytes. -/
theorem exists_rangeSequences_eq (c : Char) :
    ∃ bs, rangeSequences (c.toNat, c.toNat) = [bs] ∧ bs.length = c.utf8Size := by
  obtain ⟨lead, k, hseq, hk⟩ := exists_rangeSequences_eq_byteSequences c
  obtain ⟨bs, hbs, hlength⟩ := byteSequences_self lead k c.toNat
  exact ⟨bs, hseq.trans hbs, hlength.trans hk⟩

theorem setWeight_singleton (c : Char) :
    setWeight (.singleton c) = stateWeight * c.utf8Size := by
  obtain ⟨bs, hbs, hlength⟩ := exists_rangeSequences_eq c
  simp [setWeight, CharSet.singleton, hbs, hlength, Nat.mul_comm]

theorem sumWeights_sets (cs : List Char) :
    Node.sumWeights (cs.map fun c => .set (.singleton c))
      = stateWeight * (String.ofList cs).utf8ByteSize := by
  induction cs with
  | nil => rfl
  | cons c cs ih =>
      rw [List.map_cons, Node.sumWeights, ih, Node.weight, setWeight_singleton, String.ofList_cons,
        String.utf8ByteSize_append, String.utf8ByteSize_singleton, Nat.mul_add]

/-- Each byte of the characters takes a state. -/
theorem weight_ofChars (cs : List Char) :
    (Node.ofChars cs).weight = stateWeight * max 1 (String.ofList cs).utf8ByteSize := by
  match cs with
  | [] => rfl
  | c :: cs =>
      have hbytes : 1 ≤ (String.ofList (c :: cs)).utf8ByteSize := by
        rw [String.ofList_cons, String.utf8ByteSize_append, String.utf8ByteSize_singleton]
        exact Nat.le_add_right_of_le c.utf8Size_pos
      rw [Nat.max_eq_right hbytes, ← sumWeights_sets]
      cases cs <;> simp [Node.ofChars, Node.weight, Node.sumWeights]

theorem compile_escape (text : String) :
    compile (escape text)
      = if weightLimit < stateWeight * max 1 text.utf8ByteSize + 6 * stateWeight + 16 then
          .error .tooLarge
        else .ok ⟨escape text, Node.ofChars text.toList⟩ := by
  have hweight := weight_ofChars text.toList
  rw [String.ofList_toList] at hweight
  rw [compile, compileNode_escape, ← hweight, ← Node.totalWeight]

end Weight

end Pattern

/-- **A matcher for a part of a text takes the part as it is.** There is none for a part that is too
long, as a pattern grows with the bytes of the part. Any other accepts just the texts in which the
characters of the part stand together and which the exception does not accept. -/
theorem Matcher.accepts_ofSubstring (needle : String) :
    let weight := Pattern.stateWeight * max 1 needle.utf8ByteSize + 6 * Pattern.stateWeight + 16
    (Pattern.weightLimit < weight ∧ ofSubstring needle = .error .tooLarge) ∨
      (weight ≤ Pattern.weightLimit ∧ ∃ m, ofSubstring needle = .ok m ∧
        ∀ candidate exception?, accepts (some m) candidate exception? = true ↔
          needle.toList <:+: candidate.toList ∧
            ∀ e ∈ exception?, e.isMatch candidate = false) := by
  intro weight
  have hcompile := Pattern.compile_escape needle
  rcases Nat.lt_or_ge Pattern.weightLimit weight with hlimit | hlimit
  · refine Or.inl ⟨hlimit, ?_⟩
    rw [ofSubstring, ofPattern, hcompile, if_pos hlimit]
    rfl
  · refine Or.inr ⟨hlimit, .pattern ⟨Pattern.escape needle, .ofChars needle.toList⟩, ?_, ?_⟩
    · rw [ofSubstring, ofPattern, hcompile, if_neg (Nat.not_lt.2 hlimit)]
      rfl
    · intro candidate exception?
      rw [accepts, Bool.and_eq_true, Option.any_some, isMatch, Pattern.isMatch,
        Pattern.occursIn_ofChars_iff]
      cases exception? <;> simp

end SchemaSieve
