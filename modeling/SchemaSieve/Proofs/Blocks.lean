import SchemaSieve.Proofs.Reading

/-!
# The blocks of a text

A block goes from an opening line to the next line that opens or closes one, if that one closes. The
declarations of a text are its blocks of a kind and a name: `declarations_eq_blocks` says which
block each of them is, and in which order they come. The proof carries `Stands` from line to line:
where the reader stands tells which opening line is still without its closing line.
-/

namespace SchemaSieve

open Text

/-- The line at `i` opens a block, and no line after it and ahead of `j` opens or closes one. -/
structure OpenAhead (ls : List String) (i j : Nat) (line : String) : Prop where
  lt : i < j
  at_start : ls[i]? = some line
  opener : LineClass.ofLine line = .opener
  between : ∀ n l, i < n → n < j → ls[n]? = some l →
    LineClass.ofLine l ≠ .opener ∧ LineClass.ofLine l ≠ .closer

/-- A block of a kind with the positions of its opening and its closing line. -/
structure Block where
  start : Nat
  stop : Nat
  kind : Kind
  name : String
  /-- The words after the name in the opening line. -/
  clause : List String
  fields : List String

namespace Block

def key (b : Block) : Kind × String := (b.kind, b.name)

/-- The lines hold the block: its opening line names the kind, no other line opens or closes a block
up to its closing line, and the fields are the plain lines between the two. -/
structure IsIn (ls : List String) (b : Block) : Prop where
  opens : ∃ line, OpenAhead ls b.start b.stop line ∧
    words line = b.kind.keyword :: b.name :: b.clause
  closes : ∃ line, ls[b.stop]? = some line ∧ LineClass.ofLine line = .closer
  fields_eq : b.fields
    = ((ls.take b.stop).drop (b.start + 1)).filter fun line => LineClass.ofLine line = .plain

/-- Every block of the second sort has one of the first sort ahead of it. -/
def Precede (ls : List String) (first second : Block → Prop) : Prop :=
  ∀ b : Block, b.IsIn ls → second b → ∃ a : Block, a.IsIn ls ∧ first a ∧ a.start < b.start

/-- The declaration is that of the block, whatever describes it. -/
structure Describes (b : Block) (d : Declaration) : Prop where
  key_eq : d.key = b.key
  clause_eq : d.clause = b.clause
  fields_eq : d.fields = b.fields
  additions_eq : d.additions = []

end Block

namespace OpenAhead

variable {ls ms : List String} {i i' j : Nat} {line line' l : String}

theorem start_eq (h : OpenAhead ls i j line) (h' : OpenAhead ls i' j line') : i = i' := by
  rcases Nat.lt_trichotomy i i' with hlt | heq | hlt
  · exact absurd h'.opener (h.between i' line' hlt h'.lt h'.at_start).1
  · exact heq
  · exact absurd h.opener (h'.between i line hlt h.lt h.at_start).1

/-- The lines to come do not matter to an opening line with no other one behind it yet. -/
theorem append_iff (hj : j ≤ ls.length) :
    OpenAhead (ls ++ ms) i j line ↔ OpenAhead ls i j line := by
  have hget : ∀ n, n < j → (ls ++ ms)[n]? = ls[n]? := fun n hn =>
    List.getElem?_append_left (by omega)
  constructor
  · rintro ⟨hlt, hstart, hopener, hbetween⟩
    exact ⟨hlt, hget i hlt ▸ hstart, hopener, fun n m hin hnj hn =>
      hbetween n m hin hnj (hget n hnj ▸ hn)⟩
  · rintro ⟨hlt, hstart, hopener, hbetween⟩
    exact ⟨hlt, (hget i hlt).symm ▸ hstart, hopener, fun n m hin hnj hn =>
      hbetween n m hin hnj (hget n hnj ▸ hn)⟩

theorem take_iff (hj : j ≤ ls.length) :
    OpenAhead (ls.take j) i (ls.take j).length line ↔ OpenAhead ls i j line := by
  have happend := @append_iff (ls.take j) (ls.drop j) i _ line (Nat.le_refl _)
  rw [← happend, List.take_append_drop, List.length_take_of_le hj]

theorem succ (h : OpenAhead ls i j line) (hl : ls[j]? = some l)
    (hopener : LineClass.ofLine l ≠ .opener) (hcloser : LineClass.ofLine l ≠ .closer) :
    OpenAhead ls i (j + 1) line := by
  refine ⟨Nat.lt_succ_of_lt h.lt, h.at_start, h.opener, ?_⟩
  intro n m hin hn hm
  rcases Nat.lt_succ_iff_lt_or_eq.1 hn with hn | rfl
  · exact h.between n m hin hn hm
  · obtain rfl : l = m := Option.some.inj (hl.symm.trans hm)
    exact ⟨hopener, hcloser⟩

theorem concat (h : OpenAhead ls i ls.length line) (hopener : LineClass.ofLine l ≠ .opener)
    (hcloser : LineClass.ofLine l ≠ .closer) :
    OpenAhead (ls ++ [l]) i (ls ++ [l]).length line := by
  have h' : OpenAhead (ls ++ [l]) i ls.length line := (append_iff (Nat.le_refl _)).2 h
  rw [List.length_append, List.length_singleton]
  exact h'.succ (by simp) hopener hcloser

theorem of_concat (h : OpenAhead (ls ++ [l]) i (ls ++ [l]).length line)
    (hopener : LineClass.ofLine l ≠ .opener) :
    OpenAhead ls i ls.length line ∧ LineClass.ofLine l ≠ .closer := by
  have hlt := h.lt
  rw [List.length_append, List.length_singleton] at hlt
  rcases Nat.lt_succ_iff_lt_or_eq.1 hlt with hlt | rfl
  · have hlast : (ls ++ [l])[ls.length]? = some l := by simp
    refine ⟨(append_iff (Nat.le_refl _)).1 ⟨hlt, h.at_start, h.opener, ?_⟩,
      (h.between ls.length l hlt (by simp) hlast).2⟩
    exact fun n m hin hn hm => h.between n m hin (by simpa using Nat.lt_succ_of_lt hn) hm
  · obtain rfl : l = line := by simpa using h.at_start
    exact absurd h.opener hopener

theorem of_opener (h : LineClass.ofLine l = .opener) :
    OpenAhead (ls ++ [l]) ls.length (ls ++ [l]).length l := by
  refine ⟨by simp, by simp, h, ?_⟩
  intro n m hin hn
  rw [List.length_append, List.length_singleton] at hn
  omega

end OpenAhead

namespace Block

variable {ls ms : List String} {a b : Block} {l : String}

theorem IsIn.start_lt_stop (h : b.IsIn ls) : b.start < b.stop := by
  obtain ⟨line, hline, -⟩ := h.opens
  exact hline.lt

theorem IsIn.stop_lt_length (h : b.IsIn ls) : b.stop < ls.length := by
  obtain ⟨line, hline, -⟩ := h.closes
  exact (List.getElem?_eq_some_iff.1 hline).1

/-- Blocks do not overlap, so they open in the order in which they close. -/
theorem IsIn.start_lt_of_stop_lt (ha : a.IsIn ls) (hb : b.IsIn ls) (h : a.stop < b.stop) :
    a.start < b.start := by
  obtain ⟨line, hline, hclass⟩ := ha.closes
  obtain ⟨opening, hopening, -⟩ := hb.opens
  by_contra hle
  have hlt : b.start < a.stop := by
    have := ha.start_lt_stop
    omega
  exact (hopening.between a.stop line hlt h hline).2 hclass

/-- A block is known by its closing line. -/
theorem IsIn.eq_of_stop_eq (ha : a.IsIn ls) (hb : b.IsIn ls) (h : a.stop = b.stop) : a = b := by
  obtain ⟨⟨line, hline, hwords⟩, -, hfields⟩ := ha
  obtain ⟨⟨line', hline', hwords'⟩, -, hfields'⟩ := hb
  rw [h] at hline hfields
  have hstart := hline.start_eq hline'
  rw [hstart] at hline hfields
  obtain rfl : line = line' := Option.some.inj (hline.at_start.symm.trans hline'.at_start)
  rw [hwords, List.cons.injEq, List.cons.injEq] at hwords'
  obtain ⟨hkeyword, hname, hclause⟩ := hwords'
  have hkind := Kind.keyword_injective hkeyword
  cases a
  cases b
  simp_all

theorem IsIn.stop_eq_of_start_eq (ha : a.IsIn ls) (hb : b.IsIn ls) (h : a.start = b.start) :
    a.stop = b.stop := by
  rcases Nat.lt_trichotomy a.stop b.stop with hlt | heq | hlt
  · have := ha.start_lt_of_stop_lt hb hlt
    omega
  · exact heq
  · have := hb.start_lt_of_stop_lt ha hlt
    omega

theorem isIn_append_of_stop_lt (h : b.stop < ls.length) : b.IsIn (ls ++ ms) ↔ b.IsIn ls := by
  have hget : (ls ++ ms)[b.stop]? = ls[b.stop]? := List.getElem?_append_left h
  have htake : (ls ++ ms).take b.stop = ls.take b.stop :=
    List.take_append_of_le_length (Nat.le_of_lt h)
  constructor
  · rintro ⟨⟨line, hline, hwords⟩, hcloses, hfields⟩
    exact ⟨⟨line, (OpenAhead.append_iff (Nat.le_of_lt h)).1 hline, hwords⟩, hget ▸ hcloses,
      htake ▸ hfields⟩
  · rintro ⟨⟨line, hline, hwords⟩, hcloses, hfields⟩
    exact ⟨⟨line, (OpenAhead.append_iff (Nat.le_of_lt h)).2 hline, hwords⟩, hget.symm ▸ hcloses,
      htake.symm ▸ hfields⟩

/-- A new line adds a block only if it closes the one that is open. -/
theorem isIn_concat :
    b.IsIn (ls ++ [l]) ↔ b.IsIn ls ∨
      LineClass.ofLine l = .closer ∧ b.stop = ls.length ∧
        (∃ line, OpenAhead ls b.start ls.length line ∧
          words line = b.kind.keyword :: b.name :: b.clause) ∧
        b.fields = (ls.drop (b.start + 1)).filter fun line => LineClass.ofLine line = .plain := by
  constructor
  · intro h
    have hstop := h.stop_lt_length
    rw [List.length_append, List.length_singleton] at hstop
    rcases Nat.lt_succ_iff_lt_or_eq.1 hstop with hlt | heq
    · exact Or.inl ((isIn_append_of_stop_lt hlt).1 h)
    · obtain ⟨⟨line, hline, hwords⟩, ⟨closing, hclosing, hclass⟩, hfields⟩ := h
      rw [heq] at hline hclosing hfields
      obtain rfl : l = closing := by simpa using hclosing
      have hline' := (OpenAhead.append_iff (Nat.le_refl _)).1 hline
      exact Or.inr ⟨hclass, heq, ⟨line, hline', hwords⟩, by simpa using hfields⟩
  · rintro (h | ⟨hclass, hstop, ⟨line, hline, hwords⟩, hfields⟩)
    · exact (isIn_append_of_stop_lt h.stop_lt_length).2 h
    · refine ⟨⟨line, ?_, hwords⟩, ⟨l, by simp [hstop], hclass⟩, ?_⟩
      · rw [hstop]
        exact (OpenAhead.append_iff (Nat.le_refl _)).2 hline
      · simpa [hstop] using hfields

end Block

def Place.openBlock? : Place → Option (Opening × List String)
  | .outside _ => none
  | .inside b => some (b.opening, b.fields)

/-- Where the reader stands after some lines: in the block that is open, with the plain lines after
its opening line, or between blocks when none is open. -/
def Stands (ls : List String) (p : Place) : Prop :=
  match p.openBlock? with
  | none => ∀ i line, ¬ OpenAhead ls i ls.length line
  | some (opening, fields) => ∃ i line, OpenAhead ls i ls.length line ∧
      opening = Opening.ofLine line ∧
      fields = (ls.drop (i + 1)).filter fun line => LineClass.ofLine line = .plain

namespace Stands

variable {ls : List String} {p q : Place} {l : String}

/-- A line that neither opens nor closes a block is at most one more field. -/
theorem concat (h : Stands ls p) (hopener : LineClass.ofLine l ≠ .opener)
    (hcloser : LineClass.ofLine l ≠ .closer)
    (hq : q.openBlock? = p.openBlock?.map fun b =>
      (b.1, b.2 ++ [l].filter fun line => LineClass.ofLine line = .plain)) :
    Stands (ls ++ [l]) q := by
  unfold Stands at h ⊢
  rw [hq]
  cases hp : p.openBlock? with
  | none =>
      rw [hp] at h
      exact fun i line hline => h i line (hline.of_concat hopener).1
  | some b =>
      rw [hp] at h
      obtain ⟨i, line, hline, hopening, hfields⟩ := h
      refine ⟨i, line, hline.concat hopener hcloser, hopening, ?_⟩
      have hdrop : (ls ++ [l]).drop (i + 1) = ls.drop (i + 1) ++ [l] :=
        List.drop_append_of_le_length hline.lt
      rw [hfields, hdrop, List.filter_append]

theorem of_closer (hl : LineClass.ofLine l = .closer) (hp : p.openBlock? = none) :
    Stands (ls ++ [l]) p := by
  rw [Stands, hp]
  intro i line hline
  exact (hline.of_concat (by simp [hl])).2 hl

theorem of_opener (hl : LineClass.ofLine l = .opener)
    (hp : p.openBlock? = some (Opening.ofLine l, [])) : Stands (ls ++ [l]) p := by
  rw [Stands, hp]
  refine ⟨ls.length, l, OpenAhead.of_opener hl, rfl, ?_⟩
  rw [List.drop_of_length_le (by simp)]
  rfl

/-- A closing line makes a block of the one that is open, if it is of a kind. -/
theorem exists_block_of_closer {o : OpenBlock} (h : Stands ls (.inside o))
    (hl : LineClass.ofLine l = .closer) {kind : Kind} (hkind : o.opening.kind? = some kind) :
    ∃ b : Block, b.IsIn (ls ++ [l]) ∧ b.stop = ls.length ∧ b.Describes (o.declaration kind) := by
  obtain ⟨i, line, hline, hopening, hfields⟩ := h
  have hwords : words line = kind.keyword :: o.opening.name :: o.opening.clause := by
    rw [← Opening.ofLine_eq_iff, ← hopening, ← hkind]
  let b : Block := ⟨i, ls.length, kind, o.opening.name, o.opening.clause, o.fields⟩
  have hb : b.IsIn (ls ++ [l]) :=
    Block.isIn_concat.2 (Or.inr ⟨hl, rfl, ⟨line, hline, hwords⟩, hfields⟩)
  exact ⟨b, hb, rfl, rfl, rfl, rfl, rfl⟩

end Stands

/-- Some declarations are those of the blocks of some lines, in their order. -/
def AreBlocksOf (ls : List String) (ds : List Declaration) : Prop :=
  ∃ ps : List (Block × Declaration), ps.map Prod.snd = ds ∧
    (∀ p ∈ ps, p.1.Describes p.2) ∧ (∀ b : Block, b ∈ ps.map Prod.fst ↔ b.IsIn ls) ∧
    ps.Pairwise fun p q => p.1.stop < q.1.stop

namespace AreBlocksOf

variable {ls : List String} {ds : List Declaration} {l : String}

theorem nil : AreBlocksOf [] [] := by
  refine ⟨[], rfl, by simp, ?_, List.Pairwise.nil⟩
  intro b
  refine ⟨fun h => absurd h (by simp), fun h => absurd h.stop_lt_length (by simp)⟩

theorem concat_of_forall (h : AreBlocksOf ls ds)
    (hl : ∀ b : Block, b.IsIn (ls ++ [l]) → b.IsIn ls) : AreBlocksOf (ls ++ [l]) ds := by
  obtain ⟨ps, hsnd, hdescribes, hfst, hsorted⟩ := h
  refine ⟨ps, hsnd, hdescribes, fun b => (hfst b).trans ⟨?_, hl b⟩, hsorted⟩
  exact fun hb => Block.isIn_concat.2 (Or.inl hb)

theorem concat_of_not_closer (h : AreBlocksOf ls ds) (hl : LineClass.ofLine l ≠ .closer) :
    AreBlocksOf (ls ++ [l]) ds := by
  refine h.concat_of_forall fun b hb => ?_
  rcases Block.isIn_concat.1 hb with hb | ⟨hclass, -⟩
  · exact hb
  · exact absurd hclass hl

/-- A closing line between blocks, or one that closes a block of no kind, is the end of no block. -/
theorem concat_of_no_kind (h : AreBlocksOf ls ds) {p : Place} (hp : Stands ls p)
    (hkind : ∀ b ∈ p.openBlock?, b.1.kind? = none) : AreBlocksOf (ls ++ [l]) ds := by
  refine h.concat_of_forall fun b hb => ?_
  rcases Block.isIn_concat.1 hb with hb | ⟨-, -, ⟨line, hline, hwords⟩, -⟩
  · exact hb
  · rw [Stands] at hp
    cases hopen : p.openBlock? with
    | none =>
        rw [hopen] at hp
        exact absurd hline (hp b.start line)
    | some o =>
        rw [hopen] at hp
        obtain ⟨i, line', hline', hopening, -⟩ := hp
        obtain rfl := hline.start_eq hline'
        obtain rfl : line = line' := by
          simpa using hline.at_start.symm.trans hline'.at_start
        have hnone := hkind o hopen
        rw [hopening, Opening.ofLine_eq_iff.2 hwords] at hnone
        exact absurd hnone (by simp)

theorem concat_closer (h : AreBlocksOf ls ds) (hl : LineClass.ofLine l = .closer) {o : OpenBlock}
    (ho : Stands ls (.inside o)) {kind : Kind} (hkind : o.opening.kind? = some kind) :
    AreBlocksOf (ls ++ [l]) (ds ++ [o.declaration kind]) := by
  obtain ⟨ps, hsnd, hdescribes, hfst, hsorted⟩ := h
  obtain ⟨b, hb, hstop, hbd⟩ := ho.exists_block_of_closer hl hkind
  refine ⟨ps ++ [(b, o.declaration kind)], by simp [hsnd], ?_, ?_, ?_⟩
  · intro p hp
    rcases List.mem_append.1 hp with hp | hp
    · exact hdescribes p hp
    · rw [List.mem_singleton.1 hp]
      exact hbd
  · intro b'
    rw [List.map_append, List.mem_append, hfst, List.map_singleton, List.mem_singleton]
    constructor
    · rintro (hb' | rfl)
      · exact Block.isIn_concat.2 (Or.inl hb')
      · exact hb
    · intro hb'
      rcases Block.isIn_concat.1 hb' with hold | ⟨-, hstop', -⟩
      · exact Or.inl hold
      · exact Or.inr (hb'.eq_of_stop_eq hb (hstop'.trans hstop.symm))
  · rw [List.pairwise_append]
    refine ⟨hsorted, by simp, ?_⟩
    intro p hp q hq
    rw [List.mem_singleton.1 hq, hstop]
    exact ((hfst p.1).1 (List.mem_map_of_mem hp)).stop_lt_length

end AreBlocksOf

end SchemaSieve
