import SchemaSieve.Proofs.EmptyBlocks
import Mathlib.Data.List.Basic

/-!
# What is left after the cut

A text is written part by part, and a block is cut out of it. If what is left is the text without
one of its parts, then that part is the block with the line breaks around it, or what stands around
it is made of copies of it. The first closing brace behind the cut decides: a block has one at its
end, and the rotation that brings one part in the place of the other must keep it there.
-/

namespace SchemaSieve.EmptyInput

open Text

section

variable {α : Type}

/-- If a list ends in `d` where it begins with `m`, what is left being the same, then `d` is a
rotation of `m`, and what is left is made of copies of `m`. -/
theorem exists_rotation {m d w : List α} (hm : m ≠ []) (h : m ++ w = w ++ d) :
    ∃ u v k, m = u ++ v ∧ d = v ++ u ∧ w = (List.replicate k m).flatten ++ u := by
  induction hlength : w.length using Nat.strong_induction_on generalizing w with
  | _ n ih =>
      rcases List.append_eq_append_iff.1 h with ⟨z, hw, hw'⟩ | ⟨z, rfl, rfl⟩
      · have hshort : z.length < n := by
          have hpos : 0 < m.length := List.length_pos_iff.2 hm
          rw [← hlength, hw, List.length_append]
          omega
        obtain ⟨u, v, k, hm', hd, hz⟩ := ih z.length hshort (hw.symm.trans hw') rfl
        refine ⟨u, v, k + 1, hm', hd, ?_⟩
        rw [hw, hz, List.replicate_succ, List.flatten_cons, List.append_assoc]
      · exact ⟨w, z, 0, rfl, rfl, rfl⟩

/-- If the rotation moves nothing, then `d` is `m`, and what is left is made of copies of it. -/
theorem eq_of_rotation {m d w : List α} (hm : m ≠ []) (h : m ++ w = w ++ d)
    (htrivial : ∀ u v, m = u ++ v → d = v ++ u → u = [] ∨ v = []) :
    d = m ∧ ∃ k, w = (List.replicate k d).flatten := by
  obtain ⟨u, v, k, rfl, rfl, rfl⟩ := exists_rotation hm h
  rcases htrivial u v rfl rfl with rfl | rfl
  · rw [List.append_nil, List.append_nil]
    exact ⟨rfl, k, rfl⟩
  · rw [List.append_nil, List.nil_append]
    refine ⟨rfl, k + 1, ?_⟩
    rw [List.replicate_succ', List.flatten_append, List.flatten_singleton]

theorem flatten_replicate_append_comm (k : Nat) (u v : List α) :
    v ++ ((List.replicate k (u ++ v)).flatten ++ u)
      = (List.replicate (k + 1) (v ++ u)).flatten := by
  induction k with
  | zero => simp
  | succ k ih =>
      rw [List.replicate_succ, List.flatten_cons, List.replicate_succ, List.flatten_cons, ← ih]
      simp

/-- Two rotations of each other with one `c` each, behind which there is a single `e` in one of
them. -/
theorem rotation_cases [DecidableEq α] {c e : α} {u v x y r : List α} (hx : c ∉ x)
    (hr : c ∉ r) (h : u ++ v = x ++ c :: r) (h' : v ++ u = y ++ [c, e]) :
    u = [] ∨ (u = [e] ∧ v = y ++ [c]) ∨ (u = x ++ [c, e] ∧ r = e :: v ∧ y = v ++ x) := by
  have hy : c ∉ y := by
    have hcount := congrArg (List.count c) h
    have hcount' := congrArg (List.count c) h'
    simp only [List.count_append, List.count_cons_self, List.count_eq_zero.2 hx,
      List.count_eq_zero.2 hr] at hcount
    simp only [List.count_append, List.count_cons_self] at hcount'
    exact List.count_eq_zero.1 (by omega)
  have hright : ∀ z, x = u ++ z → v = z ++ c :: r → u = [] ∨ (u = [e] ∧ v = y ++ [c]) := by
    rintro z rfl rfl
    have hz : c ∉ z := fun hmem => hx (List.mem_append_right u hmem)
    rw [List.append_assoc, List.cons_append] at h'
    obtain ⟨rfl, hend⟩ := eq_of_append_cons hz hy h'
    cases r with
    | nil => exact Or.inr ⟨hend, rfl⟩
    | cons d r => exact Or.inl (List.append_eq_nil_iff.1 (List.cons.inj hend).2).2
  rcases List.append_eq_append_iff.1 h with ⟨z, hz, hv⟩ | ⟨z, hz, hv⟩
  · rcases hright z hz hv with hu | hu
    · exact Or.inl hu
    · exact Or.inr (Or.inl hu)
  · cases z with
    | nil =>
        rcases hright [] (by simpa using hz.symm) hv.symm with hu | hu
        · exact Or.inl hu
        · exact Or.inr (Or.inl hu)
    | cons d z =>
        obtain ⟨rfl, rfl⟩ := List.cons.inj hv
        have hvx : c ∉ v ++ x := by
          rw [List.mem_append, not_or]
          exact ⟨fun hmem => hr (List.mem_append_right z hmem), hx⟩
        rw [hz, ← List.append_assoc] at h'
        obtain ⟨rfl, rfl⟩ := eq_of_append_cons hvx hy h'
        exact Or.inr (Or.inr ⟨hz, rfl, rfl⟩)

end

def IsBreak (cs : List Char) : Prop := cs = [] ∨ cs = ['\n']

theorem IsBreak.not_mem {cs : List Char} (h : IsBreak cs) : '\x7d' ∉ cs := by
  rcases h with rfl | rfl <;> decide

theorem exists_dropBreak (cs : List Char) :
    ∃ trail, IsBreak trail ∧ cs = trail ++ dropBreak cs := by
  unfold dropBreak
  split
  · exact ⟨['\n'], Or.inr rfl, rfl⟩
  · exact ⟨[], Or.inl rfl, rfl⟩

/-- A part of a text: an empty line, and lines that begin otherwise and end in a closing brace. -/
def IsPart (d : List Char) : Prop :=
  ∃ c cs, d = '\n' :: c :: cs ++ ['\x7d', '\n'] ∧ c ≠ '\n'

theorem IsPart.ne_nil {d : List Char} (h : IsPart d) : d ≠ [] := by
  obtain ⟨c, cs, rfl, -⟩ := h
  simp

section

variable {lead trail d w : List Char} {b : EmptyBlock}

/-- A part and a block with line breaks around it are not proper rotations of each other. -/
theorem eq_nil_of_rotation {u v : List Char} (hlead : IsBreak lead) (htrail : IsBreak trail)
    (hd : IsPart d) (hm : lead ++ (b.chars ++ trail) = u ++ v) (hd' : d = v ++ u) :
    u = [] ∨ v = [] := by
  obtain ⟨c, cs, hpart, hc⟩ := hd
  have hx : '\x7d' ∉ lead ++ b.opened := by
    rw [List.mem_append, not_or]
    exact ⟨hlead.not_mem, b.not_mem_opened⟩
  have hsplit : u ++ v = (lead ++ b.opened) ++ '\x7d' :: trail := by
    rw [← hm, EmptyBlock.chars]
    simp
  rcases rotation_cases hx htrail.not_mem hsplit (hd'.symm.trans hpart) with
    hu | ⟨hu, hv⟩ | ⟨-, hr, -⟩
  · exact Or.inl hu
  · rw [hu, hv] at hm
    rcases hlead with rfl | rfl
    · exact absurd (List.cons.inj hm).1 (by decide)
    · exact absurd (List.cons.inj (List.cons.inj hm).2).1 (by decide)
  · rcases htrail with rfl | rfl
    · cases hr
    · exact Or.inr (List.cons.inj hr).2.symm

theorem chars_ne_nil (lead trail : List Char) (b : EmptyBlock) :
    lead ++ (b.chars ++ trail) ≠ [] := by
  simp [EmptyBlock.chars, EmptyBlock.opened]

/-- A part that is a rotation of a block with line breaks around it is this block. -/
theorem eq_of_append_eq (hlead : IsBreak lead) (htrail : IsBreak trail) (hd : IsPart d)
    (h : lead ++ (b.chars ++ trail) ++ w = w ++ d) :
    d = lead ++ (b.chars ++ trail) ∧ ∃ k, w = (List.replicate k d).flatten :=
  eq_of_rotation (chars_ne_nil lead trail b) h fun _ _ hm hd' =>
    eq_nil_of_rotation hlead htrail hd hm hd'

theorem eq_of_append_eq' (hlead : IsBreak lead) (htrail : IsBreak trail) (hd : IsPart d)
    (h : d ++ w = w ++ (lead ++ (b.chars ++ trail))) :
    d = lead ++ (b.chars ++ trail) ∧ ∃ k, w = (List.replicate k d).flatten := by
  obtain ⟨hblock, k, hw⟩ := eq_of_rotation hd.ne_nil h fun _ _ hd' hm =>
    (eq_nil_of_rotation hlead htrail hd hm hd').symm
  exact ⟨hblock.symm, k, hblock ▸ hw⟩

theorem eq_of_isPart (hlead : IsBreak lead) (htrail : IsBreak trail) (hd : IsPart d)
    (h : d = lead ++ (b.chars ++ trail)) : d = '\n' :: (b.chars ++ ['\n']) := by
  obtain ⟨c, cs, hpart, -⟩ := hd
  rcases hlead with rfl | rfl
  · rw [hpart] at h
    exact absurd (List.cons.inj h).1 (by decide)
  · rcases htrail with rfl | rfl
    · have hend : ('\n' :: c :: cs ++ ['\x7d']) ++ ['\n'] = ('\n' :: b.opened) ++ ['\x7d'] := by
        rw [hpart] at h
        simpa [EmptyBlock.chars] using h
      exact absurd (List.append_inj' hend rfl).2 (by decide)
    · exact h

end

/-- A text of parts: it is empty, or begins with one empty line. -/
def StartsFresh (cs : List Char) : Prop := cs = [] ∨ ∃ c ds, cs = '\n' :: c :: ds ∧ c ≠ '\n'

theorem StartsFresh.dropWhile {cs : List Char} (h : StartsFresh cs) :
    cs.dropWhile (· == '\n') = cs.tail := by
  rcases h with rfl | ⟨c, ds, rfl, hc⟩
  · rfl
  · rw [List.dropWhile_cons_of_pos rfl, List.dropWhile_cons_of_neg (by simpa using hc)]
    rfl

theorem StartsFresh.append {cs ds : List Char} (h : StartsFresh cs) (h' : StartsFresh ds) :
    StartsFresh (cs ++ ds) := by
  rcases h with rfl | ⟨c, cs, rfl, hc⟩
  · exact h'
  · exact Or.inr ⟨c, cs ++ ds, rfl, hc⟩

theorem IsPart.startsFresh {d : List Char} (h : IsPart d) : StartsFresh d := by
  obtain ⟨c, cs, rfl, hc⟩ := h
  exact Or.inr ⟨c, cs ++ ['\x7d', '\n'], rfl, hc⟩

section

variable {p d q rest : List Char}

/-- The cut at a place other than the beginning of the text leaves what is left without the part
`d`: then `d` is a block, and so is what is between the cut and `d`, again and again. -/
theorem copies_of_cut {before lead trail after : List Char} {b : EmptyBlock} (hd : IsPart d)
    (hlead : IsBreak lead) (htrail : IsBreak trail)
    (htext : p ++ (d ++ q) = before ++ (lead ++ (b.chars ++ trail) ++ after))
    (hbefore : cut? false before = none) (hleft : before ++ after = p ++ q) :
    d = '\n' :: (b.chars ++ ['\n']) ∧ ∃ k, p = before ++ (List.replicate k d).flatten := by
  rcases List.append_eq_append_iff.1 hleft with ⟨w, rfl, rfl⟩ | ⟨w, rfl, rfl⟩
  · have hrotate : lead ++ (b.chars ++ trail) ++ w = w ++ d := by
      rw [List.append_assoc, List.append_cancel_left_eq, ← List.append_assoc,
        ← List.append_assoc _ w q, List.append_cancel_right_eq] at htext
      exact htext.symm
    obtain ⟨hblock, k, hw⟩ := eq_of_append_eq hlead htrail hd hrotate
    exact ⟨eq_of_isPart hlead htrail hd hblock, k, by rw [hw]⟩
  · have hrotate : d ++ w = w ++ (lead ++ (b.chars ++ trail)) := by
      rw [List.append_assoc p w, List.append_cancel_left_eq, ← List.append_assoc,
        ← List.append_assoc w, List.append_cancel_right_eq] at htext
      exact htext
    obtain ⟨hblock, k, hw⟩ := eq_of_append_eq' hlead htrail hd hrotate
    have hblock' := eq_of_isPart hlead htrail hd hblock
    cases k with
    | zero =>
        rw [List.replicate_zero, List.flatten_nil] at hw
        exact ⟨hblock', 0, by simp [hw]⟩
    | succ k =>
        rw [hw, hblock', List.replicate_succ, List.flatten_cons] at hbefore
        refine absurd hbefore ?_
        simpa using cut?_ne_none p b _

/-- The same for the cut at the beginning of the text, behind which any number of line breaks may
stand. -/
theorem copies_of_cut_start {breaks : List Char} {b : EmptyBlock} (hp : StartsFresh p)
    (hq : StartsFresh q) (hd : IsPart d) (hbreaks : ∀ c ∈ breaks, c = '\n')
    (htext : p ++ (d ++ q) = '\n' :: (b.chars ++ (breaks ++ (p ++ q).tail))) :
    d = '\n' :: (b.chars ++ ['\n']) ∧ ∃ k, p = (List.replicate k d).flatten := by
  have hbrace : '\x7d' ∉ breaks := fun hmem => absurd (hbreaks _ hmem) (by decide)
  have ⟨c, cs, hpart, hc⟩ := hd
  rcases hp with rfl | ⟨e, p, rfl, -⟩
  · have hone : ∃ more, (c :: cs) ++ '\x7d' :: ('\n' :: more) = b.opened ++ '\x7d' :: breaks := by
      rcases hq with rfl | ⟨e, q, rfl, -⟩
      · refine ⟨[], ?_⟩
        rw [hpart] at htext
        simpa [EmptyBlock.chars] using htext
      · refine ⟨['\n'], ?_⟩
        rw [hpart] at htext
        have hsplit : (c :: cs ++ '\x7d' :: '\n' :: ['\n']) ++ e :: q
            = (b.opened ++ '\x7d' :: breaks) ++ e :: q := by
          simpa [EmptyBlock.chars] using htext
        exact List.append_cancel_right hsplit
    obtain ⟨more, hmore⟩ := hone
    obtain ⟨hopened, -⟩ :=
      (List.append_cons_inj_of_notMem b.not_mem_opened hbrace).1 hmore.symm
    refine ⟨?_, 0, rfl⟩
    rw [hpart, List.cons_append, ← hopened, EmptyBlock.chars]
    simp
  · have hrotate : (b.chars ++ breaks) ++ (e :: p) = (e :: p) ++ d := by
      have hsplit : ((e :: p) ++ d) ++ q = ((b.chars ++ breaks) ++ (e :: p)) ++ q := by
        simpa using htext
      exact (List.append_cancel_right hsplit).symm
    have hne : b.chars ++ breaks ≠ [] := chars_ne_nil [] breaks b
    obtain ⟨u, v, k, hm, hd', hw⟩ := exists_rotation hne hrotate
    have hsplit : u ++ v = b.opened ++ '\x7d' :: breaks := by
      rw [← hm, EmptyBlock.chars]
      simp
    rcases rotation_cases b.not_mem_opened hbrace hsplit (hd'.symm.trans hpart) with
      rfl | ⟨rfl, -⟩ | ⟨hu, rfl, hy⟩
    · rw [List.append_nil] at hd'
      rw [List.nil_append] at hm
      rw [hpart, ← hm] at hd'
      exact absurd (List.cons.inj hd').1 (by decide)
    · exact absurd (List.cons.inj hm).1 (by decide)
    · have hv : v = ['\n'] := by
        cases v with
        | nil => exact absurd (List.cons.inj hy).1 (by decide)
        | cons f v =>
            obtain ⟨rfl, hy'⟩ := List.cons.inj hy
            cases v with
            | nil => rfl
            | cons g v =>
                obtain ⟨rfl, -⟩ := List.cons.inj hy'
                exact absurd (hbreaks c (by simp)) hc
      subst hv
      refine ⟨?_, k + 1, ?_⟩
      · rw [hd', hu, EmptyBlock.chars]
        simp
      · rw [hd', ← flatten_replicate_append_comm, ← hm, ← hw]
        rfl

theorem copies_of_dropBreak {after : List Char} {b : EmptyBlock} (hp : StartsFresh p)
    (hq : StartsFresh q) (hd : IsPart d) (htext : p ++ (d ++ q) = '\n' :: (b.chars ++ after))
    (hleft : (dropBreak after).dropWhile (· == '\n') = (p ++ q).dropWhile (· == '\n')) :
    d = '\n' :: (b.chars ++ ['\n']) ∧ ∃ k, p = (List.replicate k d).flatten := by
  obtain ⟨trail, htrail, hafter⟩ := exists_dropBreak after
  have hbreaks : ∀ c ∈ trail ++ (dropBreak after).takeWhile (· == '\n'), c = '\n' := by
    intro c hc
    rcases List.mem_append.1 hc with hc | hc
    · rcases htrail with rfl | rfl
      · cases hc
      · exact List.mem_singleton.1 hc
    · simpa using List.mem_takeWhile_imp hc
  have hsplit := List.takeWhile_append_dropWhile (p := (· == '\n')) (l := dropBreak after)
  rw [hleft, (hp.append hq).dropWhile] at hsplit
  rw [hafter, ← hsplit, ← List.append_assoc trail] at htext
  exact copies_of_cut_start hp hq hd hbreaks htext

/-- If the cut leaves what is left without the part `d`, then `d` is a block, and what is before it
holds no block but copies of `d` at its end. -/
theorem copies_of_dropWhile_eq (hp : StartsFresh p) (hq : StartsFresh q) (hd : IsPart d)
    (hcut : cut? false (p ++ (d ++ q)) = some rest)
    (hleft : rest.dropWhile (· == '\n') = (p ++ q).dropWhile (· == '\n')) :
    ∃ b : EmptyBlock, d = '\n' :: (b.chars ++ ['\n']) ∧
      ∃ before k, p = before ++ (List.replicate k d).flatten ∧ cut? false before = none := by
  obtain ⟨before, lead, b, after, htext, hlead, rfl, hbefore⟩ := exists_of_cut? hcut
  refine ⟨b, ?_⟩
  have hstart : p ++ (d ++ q) = '\n' :: (b.chars ++ after) → before.dropWhile (· == '\n') = [] →
      d = '\n' :: (b.chars ++ ['\n']) ∧
        ∃ before k, p = before ++ (List.replicate k d).flatten ∧ cut? false before = none := by
    intro htext hnone
    rw [List.dropWhile_append, hnone] at hleft
    obtain ⟨hblock, k, hcopies⟩ := copies_of_dropBreak hp hq hd htext hleft
    exact ⟨hblock, [], k, hcopies, rfl⟩
  -- The text begins with one line break: the cut is there, behind it, or further on.
  have hfresh := hp.append (hd.startsFresh.append hq)
  rw [htext] at hfresh
  have hne : before ++ (lead ++ (b.chars ++ after)) ≠ [] := by
    simp [EmptyBlock.chars, EmptyBlock.opened]
  obtain ⟨e, text, hfirst, he⟩ := hfresh.resolve_left hne
  rcases before with _ | ⟨c, _ | ⟨c', before⟩⟩
  · rcases hlead with rfl | rfl
    · exact absurd (List.cons.inj hfirst).1 (by decide)
    · exact hstart htext rfl
  · obtain ⟨rfl, hsecond⟩ := List.cons.inj hfirst
    rcases hlead with rfl | rfl
    · exact hstart htext rfl
    · exact absurd (List.cons.inj hsecond).1.symm he
  · obtain ⟨rfl, hsecond⟩ := List.cons.inj hfirst
    obtain ⟨rfl, -⟩ := List.cons.inj hsecond
    have hrest : StartsFresh ('\n' :: c' :: before ++ dropBreak after) :=
      Or.inr ⟨c', before ++ dropBreak after, rfl, he⟩
    rw [hrest.dropWhile, (hp.append hq).dropWhile] at hleft
    have hsame : '\n' :: c' :: before ++ dropBreak after = p ++ q := by
      rcases hp.append hq with hnil | ⟨f, fs, hfs, -⟩
      · rw [hnil] at hleft
        cases hleft
      · rw [hfs] at hleft ⊢
        exact congrArg ('\n' :: ·) hleft
    obtain ⟨trail, htrail, hafter⟩ := exists_dropBreak after
    rw [hafter, ← List.append_assoc b.chars, ← List.append_assoc lead] at htext
    obtain ⟨hblock, k, hcopies⟩ := copies_of_cut hd hlead htrail htext hbefore hsame
    exact ⟨hblock, _, k, hcopies, hbefore⟩

/-- A block is cut out wherever it stands among copies of itself. -/
theorem cut?_copies {before : List Char} (hbefore : cut? false before = none) (b : EmptyBlock)
    (hd : d = '\n' :: (b.chars ++ ['\n'])) (k : Nat) (q : List Char) :
    cut? false (before ++ (List.replicate k d).flatten ++ (d ++ q))
      = some (before ++ (List.replicate k d).flatten ++ q) := by
  have hfirst : ∀ more, cut? false (before ++ (d ++ more)) = some (before ++ more) := by
    intro more
    have hsplit : d ++ more = '\n' :: (b.chars ++ '\n' :: more) := by simp [hd]
    rw [hsplit, cut?_append_chars hbefore]
    rfl
  cases k with
  | zero => simpa using hfirst q
  | succ k =>
      have htext : before ++ (List.replicate (k + 1) d).flatten ++ (d ++ q)
          = before ++ (d ++ ((List.replicate k d).flatten ++ (d ++ q))) := by
        rw [List.replicate_succ, List.flatten_cons]
        simp
      have hleft : before ++ (List.replicate (k + 1) d).flatten ++ q
          = before ++ ((List.replicate k d).flatten ++ (d ++ q)) := by
        rw [List.replicate_succ', List.flatten_append, List.flatten_singleton]
        simp
      rw [htext, hleft, hfirst]

/-- A cut is more than the line breaks at the beginning of a text. -/
theorem dropWhile_ne_of_cut? {cs : List Char} (hfresh : StartsFresh cs)
    (hcut : cut? false cs = some rest) :
    rest.dropWhile (· == '\n') ≠ cs.dropWhile (· == '\n') := by
  obtain ⟨before, lead, b, after, rfl, -, rfl, -⟩ := exists_of_cut? hcut
  obtain ⟨trail, -, hafter⟩ := exists_dropBreak after
  intro heq
  have hlength := congrArg List.length heq
  have hshort : ((before ++ dropBreak after).dropWhile (· == '\n')).length
      ≤ (before ++ dropBreak after).length := (List.dropWhile_sublist _).length_le
  have hafterLength := congrArg List.length hafter
  rw [hfresh.dropWhile, List.length_tail] at hlength
  simp only [List.length_append, EmptyBlock.chars, EmptyBlock.opened, List.length_cons,
    List.length_nil] at hlength hshort hafterLength
  omega

theorem dropWhile_ne_of_isPart (hp : StartsFresh p) (hq : StartsFresh q) (hd : IsPart d) :
    (p ++ (d ++ q)).dropWhile (· == '\n') ≠ (p ++ q).dropWhile (· == '\n') := by
  intro heq
  rw [(hp.append (hd.startsFresh.append hq)).dropWhile, (hp.append hq).dropWhile] at heq
  have hlength := congrArg List.length heq
  obtain ⟨c, cs, rfl, -⟩ := hd
  simp only [List.length_tail, List.length_append, List.length_cons, List.length_nil] at hlength
  omega

end

end SchemaSieve.EmptyInput
