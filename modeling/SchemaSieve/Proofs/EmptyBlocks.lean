import SchemaSieve.Proofs.Words
import SchemaSieve.Schema.EmptyInput
import Mathlib.Data.List.TakeWhile

/-!
# Blocks that are cut out

What is cut out of a text is `input Name { }`, with blanks between the parts, and a line break on
either side. It holds two words, whatever stands around it, and one brace of each sort: this tells
apart the places at which it may begin.
-/

namespace SchemaSieve.EmptyInput

open Text

/-- A character that comes first at one place only tells where a list is to be split. -/
theorem eq_of_append_cons {α : Type} {c : α} {u v s t : List α} (hu : c ∉ u) (hv : c ∉ v)
    (h : u ++ c :: s = v ++ c :: t) : u = v ∧ s = t := by
  induction u generalizing v with
  | nil =>
      cases v with
      | nil => exact ⟨rfl, (List.cons.inj h).2⟩
      | cons d v => exact absurd (List.cons.inj h).1 fun heq => hv (heq ▸ List.mem_cons_self)
  | cons d u ih =>
      cases v with
      | nil => exact absurd (List.cons.inj h).1 fun heq => hu (heq ▸ List.mem_cons_self)
      | cons e v =>
          obtain ⟨rfl, hrest⟩ := List.cons.inj h
          obtain ⟨rfl, rfl⟩ := ih (fun hc => hu (List.mem_cons_of_mem d hc))
            (fun hc => hv (List.mem_cons_of_mem d hc)) hrest
          exact ⟨rfl, rfl⟩

theorem dropSome_append {p : Char → Bool} {run : List Char} (hne : run ≠ [])
    (hrun : ∀ c ∈ run, p c = true) {rest : List Char} (hrest : ∀ c ∈ rest.head?, p c = false) :
    dropSome p (run ++ rest) = some rest := by
  obtain ⟨c, run, rfl⟩ := List.exists_cons_of_ne_nil hne
  rw [List.cons_append, dropSome, if_pos (hrun c (by simp)),
    List.dropWhile_append_of_pos fun d hd => hrun d (by simp [hd])]
  cases rest with
  | nil => rfl
  | cons d rest => rw [List.dropWhile_cons_of_neg (by simp [hrest d rfl])]

theorem exists_of_dropSome {p : Char → Bool} {cs rest : List Char}
    (h : dropSome p cs = some rest) :
    ∃ run, cs = run ++ rest ∧ run ≠ [] ∧ ∀ c ∈ run, p c = true := by
  cases cs with
  | nil => cases h
  | cons c cs =>
      rw [dropSome] at h
      split at h
      · rename_i hc
        obtain rfl := Option.some.inj h
        refine ⟨c :: cs.takeWhile p, ?_, by simp, ?_⟩
        · rw [List.cons_append, List.takeWhile_append_dropWhile]
        · intro d hd
          rcases List.mem_cons.1 hd with rfl | hd
          · exact hc
          · exact List.mem_takeWhile_imp hd
      · cases h

theorem dropChar_eq_some_iff {c : Char} {cs rest : List Char} :
    dropChar c cs = some rest ↔ cs = c :: rest := by
  cases cs with
  | nil => simp [dropChar]
  | cons d cs =>
      rw [dropChar]
      split
      · rename_i hd
        simp [hd]
      · rename_i hd
        simp [hd]

/-- The parts of `input Name { }` that are not fixed: the name, and the blanks ahead of it, ahead
of the opening brace and ahead of the closing brace. -/
structure EmptyBlock where
  gap : List Char
  name : List Char
  lead : List Char
  inner : List Char
  gap_ne_nil : gap ≠ []
  name_ne_nil : name ≠ []
  isBlank_gap : ∀ c ∈ gap, isBlank c = true
  isWord_name : ∀ c ∈ name, isWord c = true
  isBlank_lead : ∀ c ∈ lead, isBlank c = true
  isBlank_inner : ∀ c ∈ inner, isBlank c = true

namespace EmptyBlock

/-- All but the closing brace. -/
def opened (b : EmptyBlock) : List Char :=
  'i' :: 'n' :: 'p' :: 'u' :: 't' :: (b.gap ++ (b.name ++ (b.lead ++ '\x7b' :: b.inner)))

def chars (b : EmptyBlock) : List Char := b.opened ++ ['\x7d']

end EmptyBlock

def dropBreak (cs : List Char) : List Char :=
  match cs with
  | '\n' :: rest => rest
  | _ => cs

theorem head?_append_of_all {p q : Char → Bool} {run rest : List Char} (hne : run ≠ [])
    (hrun : ∀ c ∈ run, p c = true) (hpq : ∀ c, p c = true → q c = false) :
    ∀ c ∈ (run ++ rest).head?, q c = false := by
  obtain ⟨d, run, rfl⟩ := List.exists_cons_of_ne_nil hne
  intro c hc
  obtain rfl : d = c := by simpa using hc
  exact hpq d (hrun d (by simp))

theorem block?_eq_some_iff {cs rest : List Char} :
    block? cs = some rest ↔
      ∃ (b : EmptyBlock) (after : List Char), cs = b.chars ++ after ∧ rest = dropBreak after := by
  constructor
  · intro h
    unfold block? at h
    split at h
    · rename_i cs
      obtain ⟨afterBlanks, hblanks, hword⟩ := Option.bind_eq_some_iff.1 h
      obtain ⟨afterName, hname, hopen⟩ := Option.bind_eq_some_iff.1 hword
      obtain ⟨afterBrace, hbrace, hinner⟩ := Option.bind_eq_some_iff.1 hopen
      obtain ⟨after, hclose, hrest⟩ := Option.bind_eq_some_iff.1 hinner
      obtain ⟨gap, rfl, hgapNe, hgap⟩ := exists_of_dropSome hblanks
      obtain ⟨name, rfl, hnameNe, hname⟩ := exists_of_dropSome hname
      rw [dropChar_eq_some_iff] at hbrace hclose
      refine ⟨⟨gap, name, afterName.takeWhile isBlank, afterBrace.takeWhile isBlank, hgapNe, hnameNe,
        hgap, hname, fun c hc => List.mem_takeWhile_imp hc, fun c hc => List.mem_takeWhile_imp hc⟩,
        after, ?_, ?_⟩
      · have hafterName := List.takeWhile_append_dropWhile (p := isBlank) (l := afterName)
        have hafterBrace := List.takeWhile_append_dropWhile (p := isBlank) (l := afterBrace)
        rw [hbrace] at hafterName
        rw [hclose] at hafterBrace
        have hsplit : afterName = afterName.takeWhile isBlank
            ++ '\x7b' :: (afterBrace.takeWhile isBlank ++ '\x7d' :: after) := by
          rw [hafterBrace, hafterName]
        simp [EmptyBlock.chars, EmptyBlock.opened, ← hsplit]
      · exact (Option.some.inj hrest).symm
    · cases h
  · rintro ⟨b, after, rfl, rfl⟩
    have hname : ∀ rest, ∀ c ∈ (b.name ++ rest).head?, isBlank c = false := fun rest =>
      head?_append_of_all b.name_ne_nil b.isWord_name fun c hc => isBlank_eq_false_of_isWord hc
    have hlead : ∀ rest, ∀ c ∈ (b.lead ++ '\x7b' :: rest).head?, isWord c = false := by
      intro rest
      cases hcases : b.lead with
      | nil => simp; decide
      | cons d ds =>
          rw [← hcases]
          refine head?_append_of_all (by simp [hcases]) b.isBlank_lead fun c hc => ?_
          exact isWord_eq_false_of_isBlank hc
    have hsplit : b.chars ++ after = 'i' :: 'n' :: 'p' :: 'u' :: 't' ::
        (b.gap ++ (b.name ++ (b.lead ++ '\x7b' :: (b.inner ++ '\x7d' :: after)))) := by
      simp [EmptyBlock.chars, EmptyBlock.opened]
    rw [hsplit, block?]
    simp only [Option.bind_eq_bind]
    rw [dropSome_append b.gap_ne_nil b.isBlank_gap (hname _), Option.bind_some,
      dropSome_append b.name_ne_nil b.isWord_name (hlead _), Option.bind_some,
      List.dropWhile_append_of_pos b.isBlank_lead, List.dropWhile_cons_of_neg (by decide),
      dropChar, if_pos rfl, Option.bind_some,
      List.dropWhile_append_of_pos b.isBlank_inner, List.dropWhile_cons_of_neg (by decide),
      dropChar, if_pos rfl, Option.bind_some]
    rfl

namespace EmptyBlock

variable {b b' : EmptyBlock}

theorem splitWords_opened (b : EmptyBlock) :
    splitWords [] b.opened = ["input".toList, b.name] := by
  have hinput : ∀ c ∈ "input".toList, isWord c = true := List.all_eq_true.1 (by decide)
  have hgap : ∀ c ∈ b.gap, isWord c = false := fun c hc =>
    isWord_eq_false_of_isBlank (b.isBlank_gap c hc)
  have hend : ∀ c ∈ b.lead ++ '\x7b' :: b.inner, isWord c = false := by
    intro c hc
    rcases List.mem_append.1 hc with hc | hc
    · exact isWord_eq_false_of_isBlank (b.isBlank_lead c hc)
    · rcases List.mem_cons.1 hc with rfl | hc
      · decide
      · exact isWord_eq_false_of_isBlank (b.isBlank_inner c hc)
  have hsplit : b.opened = "input".toList ++ (b.gap ++ (b.name
      ++ ((b.lead ++ '\x7b' :: b.inner) ++ []))) := by
    simp [opened]
  rw [hsplit, splitWords_word (by decide) hinput b.gap_ne_nil hgap,
    splitWords_word b.name_ne_nil b.isWord_name (by simp) hend]
  rfl

theorem of_mem_opened {c : Char} (hc : c ∈ b.opened) :
    isWord c = true ∨ isBlank c = true ∨ c = '\x7b' := by
  have hsplit : b.opened
      = "input".toList ++ (b.gap ++ (b.name ++ (b.lead ++ '\x7b' :: b.inner))) := rfl
  simp only [hsplit, List.mem_append, List.mem_cons] at hc
  rcases hc with hc | hc | hc | hc | hc | hc
  · exact Or.inl (List.all_eq_true.1 (by decide) c hc)
  · exact Or.inr (Or.inl (b.isBlank_gap c hc))
  · exact Or.inl (b.isWord_name c hc)
  · exact Or.inr (Or.inl (b.isBlank_lead c hc))
  · exact Or.inr (Or.inr hc)
  · exact Or.inr (Or.inl (b.isBlank_inner c hc))

theorem not_mem_opened (b : EmptyBlock) : '\x7d' ∉ b.opened := by
  intro hmem
  rcases of_mem_opened hmem with h | h | h
  · exact absurd h (by decide)
  · exact absurd h (by decide)
  · exact absurd h (by decide)

theorem count_opened (b : EmptyBlock) : b.opened.count '\x7b' = 1 := by
  have hnot : ∀ {cs : List Char}, (∀ c ∈ cs, isBlank c = true) → cs.count '\x7b' = 0 :=
    fun h => List.count_eq_zero.2 fun hmem => absurd (h _ hmem) (by decide)
  have hname : b.name.count '\x7b' = 0 :=
    List.count_eq_zero.2 fun hmem => absurd (b.isWord_name _ hmem) (by decide)
  have hsplit : b.opened
      = "input".toList ++ (b.gap ++ (b.name ++ (b.lead ++ '\x7b' :: b.inner))) := rfl
  rw [hsplit]
  simp [List.count_append, hnot b.isBlank_gap, hname, hnot b.isBlank_lead, hnot b.isBlank_inner]

theorem block?_chars (b : EmptyBlock) (after : List Char) :
    block? (b.chars ++ after) = some (dropBreak after) :=
  block?_eq_some_iff.2 ⟨b, after, rfl, rfl⟩

/-- A block does not begin before a character that is no word character and behind which a block
stands, and end behind that block. -/
theorem opened_ne_append {c : Char} (hc : isWord c = false) (b b' : EmptyBlock) (cs : List Char) :
    b'.opened ≠ cs ++ c :: b.opened := by
  intro heq
  have hwords := congrArg (splitWords []) heq
  rw [splitWords_append_cons hc, splitWords_opened, splitWords_opened] at hwords
  have hnone : splitWords [] cs = [] := by
    have hlength := congrArg List.length hwords
    simp only [List.length_append, List.length_cons, List.length_nil] at hlength
    exact List.length_eq_zero_iff.1 (by omega)
  have hfirst : ∀ d ∈ (cs ++ c :: b.opened).head?, isWord d = false := by
    intro d hd
    cases cs with
    | nil =>
        obtain rfl : c = d := by simpa using hd
        exact hc
    | cons e cs =>
        obtain rfl : e = d := by simpa using hd
        exact isWord_eq_false_of_splitWords hnone e List.mem_cons_self
  rw [← heq] at hfirst
  exact absurd (hfirst 'i' rfl) (by decide)

end EmptyBlock

theorem block?_of_append {cs ds : List Char} (h : block? (cs ++ ds) = none) : block? cs = none := by
  cases hcs : block? cs with
  | none => rfl
  | some rest =>
      obtain ⟨b, after, rfl, -⟩ := block?_eq_some_iff.1 hcs
      rw [List.append_assoc, b.block?_chars] at h
      cases h

/-- Where no block begins, none does when one follows behind a character that is no word
character. -/
theorem block?_append_cons_chars {c : Char} (hc : isWord c = false) {cs : List Char}
    (h : block? (cs ++ [c]) = none) (b : EmptyBlock) (after : List Char) :
    block? (cs ++ c :: (b.chars ++ after)) = none := by
  cases hfound : block? (cs ++ c :: (b.chars ++ after)) with
  | none => rfl
  | some rest =>
      obtain ⟨b', after', heq, -⟩ := block?_eq_some_iff.1 hfound
      have hcs : ∀ z, cs ++ [c] ≠ b'.chars ++ z := by
        intro z hz
        rw [hz, b'.block?_chars] at h
        cases h
      have hsplit : (cs ++ [c]) ++ (b.chars ++ after) = b'.chars ++ after' := by simpa using heq
      rcases List.append_eq_append_iff.1 hsplit with ⟨z, hz, hafter⟩ | ⟨z, hz, -⟩
      · rcases List.eq_nil_or_concat z with rfl | ⟨z, d, rfl⟩
        · exact absurd (hz.trans (List.append_nil _)).symm (by simpa using hcs [])
        · rw [List.concat_eq_append] at hz hafter
          rw [EmptyBlock.chars, ← List.append_assoc] at hz
          obtain ⟨hopened, hd⟩ := List.append_inj' hz rfl
          obtain rfl : '\x7d' = d := by simpa using hd
          have hz' : '\x7d' ∉ z := fun hmem => b'.not_mem_opened (by simp [hopened, hmem])
          have hsame : b.opened ++ '\x7d' :: after = z ++ '\x7d' :: after' := by
            simpa [EmptyBlock.chars] using hafter
          obtain ⟨rfl, -⟩ := eq_of_append_cons b.not_mem_opened hz' hsame
          exact absurd (hopened.trans (by simp)) (EmptyBlock.opened_ne_append hc b b' cs)
      · exact absurd hz (hcs z)

theorem block?_concat_newline {cs : List Char} (h : block? cs = none) :
    block? (cs ++ ['\n']) = none := by
  cases hfound : block? (cs ++ ['\n']) with
  | none => rfl
  | some rest =>
      obtain ⟨b, after, heq, -⟩ := block?_eq_some_iff.1 hfound
      rcases List.eq_nil_or_concat after with rfl | ⟨after, d, rfl⟩
      · rw [List.append_nil, EmptyBlock.chars] at heq
        exact absurd (List.append_inj' heq rfl).2 (by decide)
      · rw [List.concat_eq_append, ← List.append_assoc] at heq
        rw [(List.append_inj' heq rfl).1, b.block?_chars] at h
        cases h

theorem block?_append_chars {cs : List Char} (h : block? cs = none) (b : EmptyBlock)
    (after : List Char) : block? (cs ++ '\n' :: (b.chars ++ after)) = none :=
  block?_append_cons_chars (by decide) (block?_concat_newline h) b after

/-- Whether a text ends in a word character, given whether one stands ahead of it. -/
def endsInWord (afterWord : Bool) (cs : List Char) : Bool :=
  cs.foldl (fun _ c => isWord c) afterWord

@[simp] theorem endsInWord_concat (afterWord : Bool) (cs : List Char) (c : Char) :
    endsInWord afterWord (cs ++ [c]) = isWord c := by
  simp [endsInWord]

/-- The text holds a match: a block, of which a line break in front is cut out with it, and which
else has no word character in front. What is left of the text ahead of it holds none. -/
theorem exists_block_of_cut? {afterWord : Bool} {cs rest : List Char}
    (h : cut? afterWord cs = some rest) :
    ∃ (before lead : List Char) (b : EmptyBlock) (after : List Char),
      cs = before ++ (lead ++ (b.chars ++ after)) ∧
        (lead = [] ∧ endsInWord afterWord before = false ∨ lead = ['\n']) ∧
        rest = before ++ dropBreak after ∧ cut? afterWord before = none := by
  induction cs generalizing afterWord rest with
  | nil => cases h
  | cons c cs ih =>
      rw [cut?] at h
      split at h
      · rename_i found hfound
        obtain rfl := Option.some.inj h
        split at hfound
        · rename_i hc
          obtain ⟨b, after, rfl, rfl⟩ := block?_eq_some_iff.1 hfound
          exact ⟨[], ['\n'], b, after, by simp [hc], Or.inr rfl, rfl, rfl⟩
        · split at hfound
          · cases hfound
          · rename_i hword
            obtain ⟨b, after, hcs, rfl⟩ := block?_eq_some_iff.1 hfound
            exact ⟨[], [], b, after, hcs, Or.inl ⟨rfl, by simpa [endsInWord] using hword⟩, rfl, rfl⟩
      · rename_i hnone
        obtain ⟨found, hfound, rfl⟩ := Option.map_eq_some_iff.1 h
        obtain ⟨before, lead, b, after, rfl, hlead, rfl, hbefore⟩ := ih hfound
        refine ⟨c :: before, lead, b, after, rfl, hlead, rfl, ?_⟩
        have hnone' : (if c = '\n' then block? before
            else if afterWord then none else block? (c :: before)) = none := by
          split_ifs at hnone ⊢
          · exact block?_of_append hnone
          · rfl
          · exact block?_of_append hnone
        rw [cut?, hnone']
        simp [hbefore]

theorem exists_of_cut? {afterWord : Bool} {cs rest : List Char}
    (h : cut? afterWord cs = some rest) :
    ∃ (before lead : List Char) (b : EmptyBlock) (after : List Char),
      cs = before ++ (lead ++ (b.chars ++ after)) ∧ (lead = [] ∨ lead = ['\n']) ∧
        rest = before ++ dropBreak after ∧ cut? afterWord before = none := by
  obtain ⟨before, lead, b, after, hcs, hlead, hrest, hbefore⟩ := exists_block_of_cut? h
  exact ⟨before, lead, b, after, hcs, hlead.imp_left And.left, hrest, hbefore⟩

/-- Where no block is found, none is found behind which more of the text stands, if that does not
complete one. -/
theorem cut?_append {afterWord : Bool} {cs head tail : List Char}
    (h : cut? afterWord (cs ++ head) = none)
    (htail : ∀ ds, block? (ds ++ head) = none → block? (ds ++ (head ++ tail)) = none) :
    cut? afterWord (cs ++ (head ++ tail))
      = (cut? (endsInWord afterWord cs) (head ++ tail)).map (cs ++ ·) := by
  induction cs generalizing afterWord with
  | nil => simp [endsInWord]
  | cons c cs ih =>
      rw [List.cons_append, cut?] at h
      split at h
      · cases h
      · rename_i hnone
        have hcut : cut? (isWord c) (cs ++ head) = none := by simpa using h
        have hnone' : (if c = '\n' then block? (cs ++ (head ++ tail))
            else if afterWord then none else block? (c :: (cs ++ (head ++ tail)))) = none := by
          split_ifs at hnone ⊢
          · exact htail cs hnone
          · rfl
          · exact htail (c :: cs) hnone
        rw [List.cons_append, cut?, hnone']
        simp [ih hcut, endsInWord, Function.comp_def]

/-- A block behind a line break is found, unless one begins ahead of it. -/
theorem cut?_append_chars {afterWord : Bool} {cs : List Char} (h : cut? afterWord cs = none)
    (b : EmptyBlock) (after : List Char) :
    cut? afterWord (cs ++ '\n' :: (b.chars ++ after)) = some (cs ++ dropBreak after) := by
  have htail : ∀ ds, block? (ds ++ []) = none →
      block? (ds ++ ([] ++ '\n' :: (b.chars ++ after))) = none := by
    intro ds hds
    rw [List.append_nil] at hds
    exact block?_append_chars hds b after
  have hcut := cut?_append (by rwa [List.append_nil]) htail
  rw [List.nil_append] at hcut
  rw [hcut]
  simp [cut?, b.block?_chars]

/-- The same behind another character that is no word character. -/
theorem cut?_append_cons_chars {afterWord : Bool} {cs : List Char} {c : Char}
    (hbreak : c ≠ '\n') (hc : isWord c = false) (h : cut? afterWord (cs ++ [c]) = none)
    (b : EmptyBlock) (after : List Char) :
    cut? afterWord (cs ++ c :: (b.chars ++ after)) = some (cs ++ c :: dropBreak after) := by
  have hcut : cut? afterWord (cs ++ c :: (b.chars ++ after))
      = (cut? (endsInWord afterWord cs) (c :: (b.chars ++ after))).map (cs ++ ·) :=
    cut?_append h fun ds hds => block?_append_cons_chars hc hds b after
  have hsingle : block? ([] ++ [c]) = none := by simp [block?]
  have hnone : block? (c :: (b.chars ++ after)) = none :=
    block?_append_cons_chars hc hsingle b after
  have hfound : cut? false (b.chars ++ after) = some (dropBreak after) := by
    have hblock := b.block?_chars after
    obtain ⟨ds, hds⟩ : ∃ ds, b.chars ++ after = 'i' :: ds := ⟨_, rfl⟩
    rw [hds] at hblock ⊢
    simp [cut?, hblock]
  rw [hcut, cut?]
  simp [hbreak, hnone, hc, hfound]

theorem cut?_of_append {afterWord : Bool} {cs ds : List Char}
    (h : cut? afterWord (cs ++ ds) = none) : cut? afterWord cs = none := by
  induction cs generalizing afterWord with
  | nil => rfl
  | cons c cs ih =>
      rw [List.cons_append, cut?] at h
      split at h
      · cases h
      · rename_i hnone
        have hnone' : (if c = '\n' then block? cs
            else if afterWord then none else block? (c :: cs)) = none := by
          split_ifs at hnone ⊢
          · exact block?_of_append hnone
          · rfl
          · exact block?_of_append hnone
        rw [cut?, hnone', ih (by simpa using h)]
        rfl

theorem cut?_ne_none {afterWord : Bool} (cs : List Char) (b : EmptyBlock) (after : List Char) :
    cut? afterWord (cs ++ '\n' :: (b.chars ++ after)) ≠ none := by
  induction cs generalizing afterWord with
  | nil => simp [cut?, b.block?_chars]
  | cons c cs ih =>
      rw [List.cons_append, cut?]
      split
      · simp
      · simpa using ih

end SchemaSieve.EmptyInput
