import SchemaSieve.Proofs.Accounting

/-!
# Where comments and stray lines go

A comment or a plain line between two blocks describes the block to come, and a comment in a block
describes that block. The comments at the beginning of a text are its header, and what stands behind
the last block is left over. The proof carries `Gathers` from line to line: what the reader has
gathered are the lines behind the block that was closed last.
-/

namespace SchemaSieve

open Text

def commentsOf (ls : List String) : List String :=
  ls.filter fun line => LineClass.ofLine line = .comment

/-- The comments and the plain lines. -/
def remarksOf (ls : List String) : List String :=
  ls.filter fun line => LineClass.ofLine line = .comment ∨ LineClass.ofLine line = .plain

/-- Whether a line can stand ahead of the body of a text. -/
def LineClass.isPreamble (line : String) : Bool := ofLine line = .blank ∨ ofLine line = .comment

/-- The number of lines ahead of the first one that is neither blank nor a comment. -/
def headerEnd (ls : List String) : Nat := (ls.takeWhile LineClass.isPreamble).length

/-- The lines that describe what stands at `i` begin at a place: behind the last block that is
closed ahead of `i`, or behind the header if there is none. -/
inductive GathersFrom (ls : List String) (i : Nat) : Nat → Prop
  | header (h : ∀ a : Block, a.IsIn ls → i ≤ a.stop) : GathersFrom ls i (headerEnd ls)
  | block (a : Block) (ha : a.IsIn ls) (hstop : a.stop < i)
      (hlast : ∀ b : Block, b.IsIn ls → b.stop < i → b.stop ≤ a.stop) :
      GathersFrom ls i (a.stop + 1)

/-- The block is described by the remarks ahead of its opening line and the comments behind it. -/
def Block.DescribedBy (ls : List String) (b : Block) (description : List String) : Prop :=
  ∃ first, GathersFrom ls b.start first ∧
    description = remarksOf ((ls.take b.start).drop first)
      ++ commentsOf ((ls.take b.stop).drop (b.start + 1))

/-- What has been gathered behind `n` lines of a text. -/
def Gathers (ls : List String) (n : Nat) : Place → Prop
  | .outside pending => ∃ first, GathersFrom ls n first ∧
      pending = remarksOf ((ls.take n).drop first)
  | .inside o => ∃ i line first, OpenAhead ls i n line ∧ GathersFrom ls i first ∧
      o.description = remarksOf ((ls.take i).drop first)
        ++ commentsOf ((ls.take n).drop (i + 1))

/-- What a line adds to the remarks of a text, given whether a block is open ahead of it. -/
def remarkLine (isOpen : Bool) (line : String) : List String :=
  match LineClass.ofLine line with
  | .comment => [line]
  | .plain => if isOpen then [] else [line]
  | _ => []

/-- The comments of a text and its plain lines between blocks, in their order. -/
def remarks : Bool → List String → List String
  | _, [] => []
  | isOpen, line :: ls => remarkLine isOpen line ++ remarks (openAfter isOpen line) ls

/-- The comments and stray lines of a text are attached to the parts of a schema: to the header, to
the declaration of the block that they describe, or to what is left over behind the last block. In
this order they are all comments and stray lines of the text. -/
structure IsAttached (ls : List String) (s : Schema) : Prop where
  header : s.header = commentsOf (ls.take (headerEnd ls))
  description : ∀ b : Block, b.IsIn ls → ∃ d ∈ s.declarations, d.key = b.key ∧
    b.DescribedBy ls d.description
  trailing : ∃ first, GathersFrom ls ls.length first ∧ s.trailing = remarksOf (ls.drop first)
  inOrder : ∃ ps : List (Block × Declaration), (∀ b : Block, b ∈ ps.map Prod.fst ↔ b.IsIn ls) ∧
    ps.Pairwise (fun p q => p.1.stop < q.1.stop) ∧
    (∀ p ∈ ps, p.2 ∈ s.declarations ∧ p.2.key = p.1.key) ∧
    s.header ++ ps.flatMap (·.2.description) ++ s.trailing = remarks false ls

variable {ls pre post : List String} {l line : String} {i n first : Nat} {p : Place}

section Lines

theorem take_succ_of_getElem? (hl : ls[n]? = some l) : ls.take (n + 1) = ls.take n ++ [l] := by
  rw [List.take_add_one, hl]
  rfl

theorem length_take_of_getElem? (hl : ls[n]? = some l) : (ls.take n).length = n := by
  have := (List.getElem?_eq_some_iff.1 hl).1
  rw [List.length_take]
  omega

variable {q : String → Bool}

theorem filter_drop_take_succ_of_le (hl : ls[n]? = some l) (h : first ≤ n) :
    ((ls.take (n + 1)).drop first).filter q
      = ((ls.take n).drop first).filter q ++ [l].filter q := by
  rw [take_succ_of_getElem? hl,
    List.drop_append_of_le_length (by rw [length_take_of_getElem? hl]; exact h), List.filter_append]

theorem filter_drop_take_succ_of_neg (hl : ls[n]? = some l) (h : q l = false) (first : Nat) :
    ((ls.take (n + 1)).drop first).filter q = ((ls.take n).drop first).filter q := by
  have hnone : (([l].drop (first - (ls.take n).length)).filter q) = [] := by
    rw [List.filter_eq_nil_iff]
    intro m hm
    rw [List.mem_singleton.1 (List.mem_of_mem_drop hm), h]
    simp
  rw [take_succ_of_getElem? hl, List.drop_append, List.filter_append, hnone, List.append_nil]

end Lines

section HeaderEnd

theorem headerEnd_append_lt_iff :
    headerEnd (pre ++ post) < pre.length ↔ pre.any (!LineClass.isPreamble ·) = true := by
  induction pre with
  | nil => simp
  | cons m pre ih =>
      rw [List.cons_append, headerEnd, List.any_cons]
      cases hm : LineClass.isPreamble m with
      | true =>
          rw [List.takeWhile_cons_of_pos hm, List.length_cons, List.length_cons,
            Nat.add_lt_add_iff_right]
          simpa [headerEnd] using ih
      | false =>
          rw [List.takeWhile_cons_of_neg (by simp [hm])]
          simp

theorem headerEnd_le (hl : ls[n]? = some l) (h : LineClass.isPreamble l = false) :
    headerEnd ls ≤ n := by
  have hlast : (ls.take (n + 1)).any (!LineClass.isPreamble ·) = true := by
    rw [take_succ_of_getElem? hl]
    simp [h]
  have hlt : headerEnd (ls.take (n + 1) ++ ls.drop (n + 1)) < (ls.take (n + 1)).length :=
    headerEnd_append_lt_iff.2 hlast
  rw [List.take_append_drop, List.length_take] at hlt
  omega

/-- The header of a text are the comments ahead of its body. -/
theorem takeWhile_isComment_filledLines (ls : List String) :
    (filledLines ls).takeWhile LineClass.isComment = commentsOf (ls.take (headerEnd ls)) := by
  induction ls with
  | nil => rfl
  | cons l ls ih =>
      have hlater : LineClass.isPreamble l = true →
          (l :: ls).take (headerEnd (l :: ls)) = l :: ls.take (headerEnd ls) := by
        intro hpreamble
        rw [headerEnd, List.takeWhile_cons_of_pos hpreamble]
        rfl
      cases hblank : isBlankText l with
      | true =>
          have hclass := LineClass.ofLine_eq_blank_iff.2 hblank
          rw [filledLines_cons_of_blank hblank, ih, hlater (by simp [LineClass.isPreamble, hclass])]
          simp [commentsOf, hclass]
      | false =>
          rw [filledLines_cons_of_filled hblank]
          cases hcomment : LineClass.isComment l with
          | true =>
              have hclass := LineClass.ofLine_eq_comment_iff.2 ⟨hblank, hcomment⟩
              rw [List.takeWhile_cons_of_pos hcomment, ih,
                hlater (by simp [LineClass.isPreamble, hclass])]
              simp [commentsOf, hclass]
          | false =>
              have hbody : LineClass.isPreamble l = false := by
                simp [LineClass.isPreamble, LineClass.ofLine_eq_blank_iff,
                  LineClass.ofLine_eq_comment_iff, hblank, hcomment]
              rw [List.takeWhile_cons_of_neg (by simp [hcomment]), headerEnd,
                List.takeWhile_cons_of_neg (by simp [hbody])]
              rfl

end HeaderEnd

theorem remarks_concat (isOpen : Bool) (ls : List String) (l : String) :
    remarks isOpen (ls ++ [l])
      = remarks isOpen ls ++ remarkLine (ls.foldl openAfter isOpen) l := by
  induction ls generalizing isOpen with
  | nil => simp [remarks]
  | cons m ls ih => rw [List.cons_append, remarks, ih, remarks, List.foldl_cons, List.append_assoc]

namespace GathersFrom

theorem succ (h : GathersFrom ls n first) (hno : ∀ b : Block, b.IsIn ls → b.stop ≠ n) :
    GathersFrom ls (n + 1) first := by
  cases h with
  | header h =>
      refine header fun a ha => ?_
      have hle := h a ha
      have hne := hno a ha
      omega
  | block a ha hstop hlast =>
      refine block a ha (by omega) fun b hb hlt => hlast b hb ?_
      have hne := hno b hb
      omega

theorem le (h : GathersFrom ls n first) (hn : headerEnd ls ≤ n) : first ≤ n := by
  cases h with
  | header h => exact hn
  | block a ha hstop hlast => exact hstop

theorem eq_headerEnd (h : GathersFrom ls n first) (hn : n ≤ headerEnd ls) :
    first = headerEnd ls := by
  cases h with
  | header h => rfl
  | block a ha hstop hlast =>
      obtain ⟨line, hline, hclass⟩ := ha.closes
      have hle := headerEnd_le hline (by simp [LineClass.isPreamble, hclass])
      omega

theorem of_closed {b : Block} (hb : b.IsIn ls) : GathersFrom ls (b.stop + 1) (b.stop + 1) :=
  block b hb (Nat.lt_succ_self _) fun _ _ hlt => Nat.lt_succ_iff.1 hlt

end GathersFrom

namespace Gathers

variable {pending : List String} {o : OpenBlock}

theorem stop_ne (hl : ls[n]? = some l) (h : LineClass.ofLine l ≠ .closer) {b : Block}
    (hb : b.IsIn ls) : b.stop ≠ n := by
  rintro rfl
  obtain ⟨closing, hclosing, hclass⟩ := hb.closes
  obtain rfl := Option.some.inj (hl.symm.trans hclosing)
  exact h hclass

/-- A blank line is gathered nowhere. -/
theorem blank (h : Gathers ls n p) (hl : ls[n]? = some l) (hblank : LineClass.ofLine l = .blank) :
    Gathers ls (n + 1) p := by
  cases p with
  | outside pending =>
      obtain ⟨first, hfirst, hpending⟩ := h
      refine ⟨first, hfirst.succ fun b => stop_ne hl (by simp [hblank]), ?_⟩
      rw [hpending, remarksOf, remarksOf, filter_drop_take_succ_of_neg hl (by simp [hblank])]
  | inside o =>
      obtain ⟨i, line, first, hopen, hfirst, hdescription⟩ := h
      refine ⟨i, line, first, hopen.succ hl (by simp [hblank]) (by simp [hblank]), hfirst, ?_⟩
      rw [hdescription, commentsOf, commentsOf, filter_drop_take_succ_of_neg hl (by simp [hblank])]

/-- A closing line that closes nothing is gathered nowhere. -/
theorem stray (h : Gathers ls n (.outside pending)) (hl : ls[n]? = some l)
    (hcloser : LineClass.ofLine l = .closer) (hno : ∀ b : Block, b.IsIn ls → b.stop ≠ n) :
    Gathers ls (n + 1) (.outside pending) := by
  obtain ⟨first, hfirst, hpending⟩ := h
  refine ⟨first, hfirst.succ hno, ?_⟩
  rw [hpending, remarksOf, remarksOf, filter_drop_take_succ_of_neg hl (by simp [hcloser])]

/-- A comment of the header is not gathered. -/
theorem ahead (h : Gathers ls n p) (hl : ls[n]? = some l)
    (hcomment : LineClass.ofLine l = .comment) (hn : n < headerEnd ls) :
    Gathers ls (n + 1) p := by
  cases p with
  | outside pending =>
      obtain ⟨first, hfirst, hpending⟩ := h
      have hlast : first = headerEnd ls := hfirst.eq_headerEnd (Nat.le_of_lt hn)
      refine ⟨first, hfirst.succ fun b => stop_ne hl (by simp [hcomment]), ?_⟩
      rw [hpending, List.drop_of_length_le, List.drop_of_length_le]
      · rw [List.length_take]
        omega
      · rw [List.length_take]
        omega
  | inside o =>
      obtain ⟨i, line, first, hopen, -⟩ := h
      have hle := headerEnd_le hopen.at_start (by simp [LineClass.isPreamble, hopen.opener])
      have hlt := hopen.lt
      omega

theorem describe (h : Gathers ls n p) (hl : ls[n]? = some l)
    (hcomment : LineClass.ofLine l = .comment) (hn : headerEnd ls ≤ n) :
    Gathers ls (n + 1) (p.describe l) := by
  cases p with
  | outside pending =>
      obtain ⟨first, hfirst, hpending⟩ := h
      refine ⟨first, hfirst.succ fun b => stop_ne hl (by simp [hcomment]), ?_⟩
      rw [hpending, remarksOf, remarksOf, filter_drop_take_succ_of_le hl (hfirst.le hn)]
      simp [hcomment]
  | inside o =>
      obtain ⟨i, line, first, hopen, hfirst, hdescription⟩ := h
      refine ⟨i, line, first, hopen.succ hl (by simp [hcomment]) (by simp [hcomment]), hfirst, ?_⟩
      rw [commentsOf, filter_drop_take_succ_of_le hl hopen.lt, ← commentsOf, ← List.append_assoc,
        ← hdescription]
      simp [hcomment]

/-- A plain line between blocks describes the next one, and in a block it is a field. -/
theorem addPlain (h : Gathers ls n p) (hl : ls[n]? = some l)
    (hplain : LineClass.ofLine l = .plain) : Gathers ls (n + 1) (p.addPlain l) := by
  have hn : headerEnd ls ≤ n := headerEnd_le hl (by simp [LineClass.isPreamble, hplain])
  cases p with
  | outside pending =>
      obtain ⟨first, hfirst, hpending⟩ := h
      refine ⟨first, hfirst.succ fun b => stop_ne hl (by simp [hplain]), ?_⟩
      rw [hpending, remarksOf, remarksOf, filter_drop_take_succ_of_le hl (hfirst.le hn)]
      simp [hplain]
  | inside o =>
      obtain ⟨i, line, first, hopen, hfirst, hdescription⟩ := h
      refine ⟨i, line, first, hopen.succ hl (by simp [hplain]) (by simp [hplain]), hfirst, ?_⟩
      rw [hdescription, commentsOf, commentsOf, filter_drop_take_succ_of_neg hl (by simp [hplain])]

/-- A block takes over what has been gathered ahead of it. -/
theorem openBlock (h : Gathers ls n (.outside pending)) (hl : ls[n]? = some l)
    (hopener : LineClass.ofLine l = .opener) (k : Nat) :
    Gathers ls (n + 1) ((Place.outside pending).openBlock k l).1 := by
  obtain ⟨first, hfirst, hpending⟩ := h
  have hopen : OpenAhead ls n (n + 1) l := by
    refine ⟨Nat.lt_succ_self n, hl, hopener, fun m _ hnm hm => ?_⟩
    omega
  refine ⟨n, l, first, hopen, hfirst, ?_⟩
  have hnone : commentsOf ((ls.take (n + 1)).drop (n + 1)) = [] := by
    rw [List.drop_of_length_le (by rw [List.length_take]; omega)]
    rfl
  rw [hnone, List.append_nil]
  exact hpending

/-- Behind a block the gathering starts anew. -/
theorem closed {b : Block} (hb : b.IsIn ls) : Gathers ls (b.stop + 1) (.outside []) := by
  refine ⟨b.stop + 1, GathersFrom.of_closed hb, ?_⟩
  rw [List.drop_of_length_le (by rw [List.length_take]; omega)]
  rfl

/-- What has been gathered in a block describes it. -/
theorem describedBy {b : Block} (h : Gathers ls b.stop (.inside o)) (hb : b.IsIn ls) :
    b.DescribedBy ls o.description := by
  obtain ⟨i, line, first, hopen, hfirst, hdescription⟩ := h
  obtain ⟨line', hopen', -⟩ := hb.opens
  obtain rfl := hopen.start_eq hopen'
  exact ⟨first, hfirst, hdescription⟩

end Gathers

/-- The lines that wait to describe a block. -/
def Place.gathered : Place → List String
  | outside pending => pending
  | inside o => o.description

namespace Reader

theorem inBody_step (r : Reader) (l : String) :
    (r.step l).1.inBody = (r.inBody || !LineClass.isPreamble l) := by
  cases hclass : LineClass.ofLine l with
  | blank => simp [step_blank hclass, LineClass.isPreamble, hclass]
  | comment =>
      cases hbody : r.inBody with
      | true => simp [step_comment hclass hbody, hbody]
      | false => simp [step_header hclass hbody, hbody, LineClass.isPreamble, hclass]
  | opener | closer | plain =>
      rw [step_body (by simp [hclass]) (by simp [hclass])]
      simp [LineClass.isPreamble, hclass]

/-- The body of a text begins with the first line that cannot stand ahead of it. -/
theorem inBody_run (r : Reader) (ls : List String) :
    (r.run ls).1.inBody = (r.inBody || ls.any (!LineClass.isPreamble ·)) := by
  induction ls generalizing r with
  | nil => simp
  | cons l ls ih => rw [run_cons, ih, inBody_step, List.any_cons, Bool.or_assoc]

/-- Ahead of the body nothing is gathered and nothing is declared. -/
theorem run_of_not_inBody {r : Reader} (h : (r.run ls).1.inBody = false) :
    (r.run ls).1.place = r.place ∧ (r.run ls).2.filterMap Item.declaration? = [] := by
  induction ls generalizing r with
  | nil => exact ⟨rfl, rfl⟩
  | cons l ls ih =>
      have hbody := h
      rw [inBody_run, Bool.or_eq_false_iff, List.any_cons, Bool.or_eq_false_iff] at hbody
      obtain ⟨hinBody, hpreamble, -⟩ := hbody
      rw [run_cons] at h ⊢
      obtain ⟨hplace, hitems⟩ := ih h
      rw [List.filterMap_append, hplace, hitems, List.append_nil]
      cases hclass : LineClass.ofLine l with
      | blank =>
          rw [step_blank hclass]
          exact ⟨rfl, rfl⟩
      | comment =>
          rw [step_header hclass hinBody]
          exact ⟨rfl, rfl⟩
      | opener | closer | plain => simp [LineClass.isPreamble, hclass] at hpreamble

theorem filterMap_header?_step {r : Reader}
    (hbody : r.inBody = true ∨ LineClass.ofLine l ≠ .comment) :
    (r.step l).2.filterMap Item.header? = [] := by
  rcases hbody with hbody | hcomment
  · exact (step_inBody hbody).2
  · cases hclass : LineClass.ofLine l with
    | blank => rw [step_blank hclass]; rfl
    | comment => exact absurd hclass hcomment
    | opener | closer | plain =>
        rw [step_start (by simp [hclass]) hcomment]
        exact (step_inBody rfl).2

/-- A line in the body goes on to describe a block, or waits behind those that waited before. -/
theorem step_remarks {r : Reader} (hbody : r.inBody = true ∨ LineClass.ofLine l ≠ .comment)
    (hopener : LineClass.ofLine l = .opener → r.place.openBlock? = none)
    (hkind : ∀ b, r.place = .inside b → b.opening.kind? ≠ none) :
    ((r.step l).2.filterMap Item.declaration?).flatMap (·.description)
        ++ (r.step l).1.place.gathered
      = r.place.gathered ++ remarkLine r.place.openBlock?.isSome l := by
  cases hclass : LineClass.ofLine l with
  | blank => simp [step_blank hclass, remarkLine, hclass]
  | comment =>
      have hinBody : r.inBody = true := hbody.resolve_right (by simp [hclass])
      rw [step_comment hclass hinBody, remarkLine, hclass]
      cases r.place <;> rfl
  | opener =>
      obtain ⟨hafter, hitems⟩ := step_opener (r := r) hclass
      have hplace := hopener hclass
      rw [hafter, hitems, remarkLine, hclass]
      cases hp : r.place with
      | inside b => simp [hp] at hplace
      | outside pending => simp [Place.openBlock, Place.handOver, Place.gathered]
  | closer =>
      obtain ⟨hafter, hitems⟩ := step_closer (r := r) hclass
      rw [hafter, hitems, remarkLine, hclass]
      cases hp : r.place with
      | outside pending => simp [Place.closeBlock_outside]
      | inside b =>
          obtain ⟨kind, hsome⟩ := Option.ne_none_iff_exists'.1 (hkind b hp)
          obtain ⟨hclosed, hdeclared⟩ := Place.closeBlock_inside b (r.lineCount + 1)
          rw [hclosed, hdeclared, hsome]
          simp [Place.gathered, OpenBlock.declaration]
  | plain =>
      obtain ⟨hafter, hitems⟩ := step_plain (r := r) hclass
      rw [hafter, hitems, remarkLine, hclass]
      cases r.place <;> simp [Place.addPlain, Place.gathered]

end Reader

namespace IsTidy

variable {l : String}

theorem eq_of_key_eq (h : IsTidy ls) {a b : Block} (ha : a.IsIn ls) (hb : b.IsIn ls)
    (hkey : a.key = b.key) : a = b :=
  ha.eq_of_stop_eq hb (ha.stop_eq_of_start_eq hb (h.distinct a b ha hb hkey))

/-- One line keeps what has been gathered, and a block that it closes is described by that. -/
theorem step_gathers (h : IsTidy (pre ++ l :: post))
    (hgathers : Gathers (pre ++ l :: post) pre.length (Reader.run {} pre).1.place) :
    Gathers (pre ++ l :: post) (pre.length + 1) ((Reader.run {} pre).1.step l).1.place ∧
      ∀ d ∈ ((Reader.run {} pre).1.step l).2.filterMap Item.declaration?,
        ∀ b : Block, b.IsIn (pre ++ l :: post) → b.key = d.key →
          b.DescribedBy (pre ++ l :: post) d.description := by
  have hl : (pre ++ l :: post)[pre.length]? = some l := by simp
  have hstands := (Reader.run_blocks pre).1
  have hbody := Reader.inBody_run {} pre
  cases hclass : LineClass.ofLine l with
  | blank =>
      rw [Reader.step_blank hclass]
      exact ⟨hgathers.blank hl hclass, by simp⟩
  | comment =>
      cases hinBody : (Reader.run {} pre).1.inBody with
      | true =>
          rw [Reader.step_comment hclass hinBody]
          refine ⟨hgathers.describe hl hclass (Nat.le_of_lt ?_), by simp⟩
          rw [headerEnd_append_lt_iff, ← hinBody, hbody]
          rfl
      | false =>
          rw [Reader.step_header hclass hinBody]
          refine ⟨hgathers.ahead hl hclass ?_, by simp [Item.declaration?]⟩
          have hahead : ¬headerEnd (pre ++ [l] ++ post) < (pre ++ [l]).length := by
            rw [headerEnd_append_lt_iff, List.any_append, Bool.not_eq_true, Bool.or_eq_false_iff]
            exact ⟨hbody.symm.trans hinBody, by simp [LineClass.isPreamble, hclass]⟩
          rwa [← List.append_cons, List.length_append, List.length_singleton, Nat.not_lt] at hahead
  | opener =>
      obtain ⟨hafter, hitems⟩ := Reader.step_opener (r := (Reader.run {} pre).1) hclass
      have hopen := h.openBlock?_of_opener hclass
      rw [hafter, hitems]
      cases hplace : (Reader.run {} pre).1.place with
      | inside o => simp [hplace] at hopen
      | outside pending =>
          rw [hplace] at hgathers
          exact ⟨hgathers.openBlock hl hclass _, by simp⟩
  | closer =>
      obtain ⟨hafter, hitems⟩ := Reader.step_closer (r := (Reader.run {} pre).1) hclass
      rw [hafter, hitems]
      cases hplace : (Reader.run {} pre).1.place with
      | outside pending =>
          rw [hplace] at hgathers hstands
          rw [Place.closeBlock_outside]
          refine ⟨hgathers.stray hl hclass ?_, by simp⟩
          intro b hb hstop
          obtain ⟨line, hline, -⟩ := hb.opens
          rw [hstop] at hline
          exact hstands _ _ ((OpenAhead.append_iff (Nat.le_refl _)).1 hline)
      | inside o =>
          obtain ⟨kind, hkind⟩ := Option.ne_none_iff_exists'.1 (h.kind_of_inside hplace)
          rw [hplace] at hgathers hstands
          obtain ⟨b, hb, hstop, hdescribes⟩ := hstands.exists_block_of_closer hclass hkind
          obtain ⟨hclosed, hdeclared⟩ :=
            Place.closeBlock_inside o ((Reader.run {} pre).1.lineCount + 1)
          have hb' : b.IsIn (pre ++ l :: post) := by
            rw [List.append_cons]
            exact (Block.isIn_append_of_stop_lt hb.stop_lt_length).2 hb
          rw [hclosed, hdeclared, hkind, ← hstop]
          refine ⟨Gathers.closed hb', fun d hd a ha hkey => ?_⟩
          obtain rfl : d = o.declaration kind := by simpa using hd
          obtain rfl := h.eq_of_key_eq ha hb' (hkey.trans hdescribes.key_eq)
          rw [← hstop] at hgathers
          exact hgathers.describedBy ha
  | plain =>
      obtain ⟨hafter, hitems⟩ := Reader.step_plain (r := (Reader.run {} pre).1) hclass
      rw [hafter, hitems]
      exact ⟨hgathers.addPlain hl hclass, by simp⟩

/-- What has been gathered ahead of the lines to come, and the blocks described by now. -/
theorem run_gathers (h : IsTidy (pre ++ post)) :
    Gathers (pre ++ post) pre.length (Reader.run {} pre).1.place ∧
      ∀ d ∈ (Reader.run {} pre).2.filterMap Item.declaration?,
        ∀ b : Block, b.IsIn (pre ++ post) → b.key = d.key →
          b.DescribedBy (pre ++ post) d.description := by
  induction pre using List.reverseRecOn generalizing post with
  | nil => exact ⟨⟨headerEnd _, GathersFrom.header fun a _ => Nat.zero_le _, by simp [remarksOf]⟩,
      by simp⟩
  | append_singleton pre l ih =>
      rw [List.append_assoc, List.singleton_append] at h ⊢
      obtain ⟨hgathers, hdescribed⟩ := ih h
      obtain ⟨hgathers', hdescribed'⟩ := h.step_gathers hgathers
      rw [Reader.run_concat, List.filterMap_append, List.length_append, List.length_singleton]
      exact ⟨hgathers', List.forall_mem_append.2 ⟨hdescribed, hdescribed'⟩⟩

/-- The header, the descriptions of the blocks that are closed, and what waits are the remarks of
the lines read so far. -/
theorem run_remarks (h : IsTidy (pre ++ post)) :
    (Reader.run {} pre).2.filterMap Item.header?
        ++ ((Reader.run {} pre).2.filterMap Item.declaration?).flatMap (·.description)
        ++ (Reader.run {} pre).1.place.gathered
      = remarks false pre := by
  induction pre using List.reverseRecOn generalizing post with
  | nil => rfl
  | append_singleton pre l ih =>
      rw [List.append_assoc, List.singleton_append] at h
      have hopen := Reader.isSome_openBlock?_run {} pre
      change _ = pre.foldl openAfter false at hopen
      rw [Reader.run_concat, List.filterMap_append, List.filterMap_append, List.flatMap_append,
        remarks_concat, ← ih h]
      by_cases hbody : (Reader.run {} pre).1.inBody = true ∨ LineClass.ofLine l ≠ .comment
      · have hstep := Reader.step_remarks hbody h.openBlock?_of_opener fun b hb =>
          h.kind_of_inside hb
        rw [hopen] at hstep
        rw [Reader.filterMap_header?_step hbody, List.append_nil]
        simp only [List.append_assoc]
        rw [hstep]
      · rw [not_or, Bool.not_eq_true, not_not] at hbody
        obtain ⟨hplace, hitems⟩ := Reader.run_of_not_inBody hbody.1
        rw [Reader.step_header hbody.2 hbody.1, hplace, hitems, remarkLine, hbody.2]
        simp [Place.gathered, Item.header?, Item.declaration?]

end IsTidy

namespace Schema

variable {content : String}

/-- **Every comment and stray line of a tidy text is attached once**, and to the right place. -/
theorem isAttached_ofText (h : IsTidy (lines content)) :
    IsAttached (lines content) (ofText content) := by
  have hdeclarations := perm_declarations h
  have hend := h.openBlock?_run
  obtain ⟨ps, hsnd, hdescribes, hfst, hsorted⟩ := (Reader.run_blocks (lines content)).2
  have hwhole := h
  rw [← List.append_nil (lines content)] at hwhole
  have hremarks := hwhole.run_remarks
  obtain ⟨hgathers, hdescribed⟩ := hwhole.run_gathers
  rw [List.append_nil] at hgathers hdescribed
  cases hplace : (Reader.run {} (lines content)).1.place with
  | inside o => simp [hplace] at hend
  | outside pending =>
      have htrailing := trailing_ofText hplace
      rw [hplace] at hgathers hremarks
      have hmem : ∀ q ∈ ps, q.2 ∈ (ofText content).declarations ∧ q.2.key = q.1.key := by
        intro q hq
        refine ⟨hdeclarations.mem_iff.2 ?_, (hdescribes q hq).key_eq⟩
        rw [← hsnd]
        exact List.mem_map_of_mem hq
      refine ⟨?_, ?_, ?_, ps, hfst, hsorted, hmem, ?_⟩
      · rw [header_ofText_eq, takeWhile_isComment_filledLines]
      · intro b hb
        obtain ⟨q, hq, rfl⟩ := List.mem_map.1 ((hfst b).2 hb)
        obtain ⟨hd, hkey⟩ := hmem q hq
        exact ⟨q.2, hd, hkey, hdescribed q.2 (hdeclarations.mem_iff.1 hd) q.1 hb hkey.symm⟩
      · obtain ⟨first, hfirst, hpending⟩ := hgathers
        rw [List.take_length] at hpending
        exact ⟨first, hfirst, htrailing.trans hpending⟩
      · rw [← hsnd, List.flatMap_map] at hremarks
        rw [header_ofText, htrailing]
        exact hremarks

/-- Comments ahead of, in and behind two blocks, and lines that belong to none. -/
theorem isAttached_of_two_blocks :
    let content := "# head\n\nscalar Date\n# about A\ntype A \x7b\n# on a\n  # all\n  a: Int\n"
      ++ "\x7d\nstray\n\x7d\n# about E\nenum E \x7b\n  X\n\x7d\n# left\nextend B\n"
    IsAttached (lines content) (ofText content) ∧
      (ofText content).header = ["# head"] ∧
      (ofText content).declarations.map Declaration.description
        = [["scalar Date", "# about A", "# on a"], ["stray", "# about E"]] ∧
      (ofText content).trailing = ["# left", "extend B"] := by
  intro content
  have htidy : IsTidy (lines content) :=
    IsTidy.of_fin (by decide +kernel) (by decide +kernel) (by decide +kernel)
  exact ⟨isAttached_ofText htidy, by decide +kernel⟩

end Schema

end SchemaSieve
