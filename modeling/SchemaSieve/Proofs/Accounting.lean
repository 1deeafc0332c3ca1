import SchemaSieve.Proofs.PreservedText
import Mathlib.Data.List.Perm.Basic

/-!
# No line is lost

Between an opening and a closing line each line of a text is handed on as part of one item, or is
kept by the reader for an item to come: `step_accounts` says so of one line, and
`perm_flatMap_kept` of a text all of whose blocks are closed. Where the keys of the blocks are
distinct, each declaration that is read is also written, and `perm_filledLines_render` compares the
lines of a text with those that are written.
-/

namespace SchemaSieve

open Text

/-- Every opening line is that of a declaration, and its block is closed before another one opens.
No two blocks have the same kind and name. -/
structure IsTidy (ls : List String) : Prop where
  named : ∀ l ∈ ls, LineClass.ofLine l = .opener →
    ∃ (kind : Kind) (name : String) (clause : List String),
      words l = kind.keyword :: name :: clause
  closed : ∀ (i : Nat) (l : String), ls[i]? = some l → LineClass.ofLine l = .opener →
    ∃ j closing, OpenAhead ls i j l ∧ ls[j]? = some closing ∧ LineClass.ofLine closing = .closer
  distinct : ∀ a b : Block, a.IsIn ls → b.IsIn ls → a.key = b.key → a.start = b.start

/-- Whether a block is open behind a line, given whether one is open ahead of it. -/
def openAfter (isOpen : Bool) (line : String) : Bool :=
  match LineClass.ofLine line with
  | .opener => true
  | .closer => false
  | _ => isOpen

/-- What becomes of a line that neither opens nor closes a block. Comments in the body of a block
become descriptions. -/
def carriedLine (c : Captions) (isOpen : Bool) (line : String) : List String :=
  match LineClass.ofLine line with
  | .comment => [line]
  | .plain => [if isOpen then c.promote line else line]
  | _ => []

def carried (c : Captions) : Bool → List String → List String
  | _, [] => []
  | isOpen, line :: ls => carriedLine c isOpen line ++ carried c (openAfter isOpen line) ls

variable {c : Captions} {ls pre post : List String} {l : String}

theorem carried_concat (isOpen : Bool) (ls : List String) (l : String) :
    carried c isOpen (ls ++ [l])
      = carried c isOpen ls ++ carriedLine c (ls.foldl openAfter isOpen) l := by
  induction ls generalizing isOpen with
  | nil => simp [carried]
  | cons m ls ih =>
      rw [List.cons_append, carried, ih, carried, List.foldl_cons, List.append_assoc]

theorem filter_isScalar_carriedLine (isOpen : Bool)
    (h : LineClass.isScalar l = true → LineClass.ofLine l = .plain) :
    (carriedLine c isOpen l).filter LineClass.isScalar = [l].filter LineClass.isScalar := by
  cases hscalar : LineClass.isScalar l with
  | true =>
      have hpromote : c.promote l = l := by
        rw [Captions.promote]
        cases hcomment : Captions.comment? l with
        | none => rfl
        | some text =>
            rw [Captions.isScalar_eq_false_of_comment? hcomment] at hscalar
            cases hscalar
      rw [carriedLine, h hscalar]
      cases isOpen <;> simp [hpromote]
  | false =>
      have hnone : ∀ m ∈ carriedLine c isOpen l, LineClass.isScalar m = false := by
        intro m hm
        unfold carriedLine at hm
        split at hm
        · rw [List.mem_singleton.1 hm, hscalar]
        · rw [List.mem_singleton.1 hm]
          split
          · rw [Captions.isScalar_promote, hscalar]
          · exact hscalar
        · cases hm
      rw [List.filter_eq_nil_iff.2 fun m hm => by simp [hnone m hm]]
      simp [hscalar]

theorem filter_isScalar_carried (isOpen : Bool)
    (h : ∀ l ∈ ls, LineClass.isScalar l = true → LineClass.ofLine l = .plain) :
    (carried c isOpen ls).filter LineClass.isScalar = ls.filter LineClass.isScalar := by
  induction ls generalizing isOpen with
  | nil => rfl
  | cons l ls ih =>
      rw [carried, List.filter_append, filter_isScalar_carriedLine isOpen (h l List.mem_cons_self),
        ih _ fun m hm => h m (List.mem_cons_of_mem l hm), ← List.filter_append,
        List.singleton_append]

/-- The lines of a declaration between which its opening line is written. -/
def Declaration.kept (c : Captions) (d : Declaration) : List String :=
  d.description ++ d.fields.map c.promote

/-- The lines of a text that an item hands on. Scalars are handed on another time. -/
def Item.kept (c : Captions) : Item → List String
  | header line => [line]
  | declaration d => d.kept c
  | trailing line => [line]
  | scalar _ => []
  | remark _ => []

namespace Place

/-- The lines that wait for an item to come. -/
def held (c : Captions) : Place → List String
  | outside pending => pending
  | inside b => b.description ++ b.fields.map c.promote

theorem flatMap_kept_openBlock (p : Place) (n : Nat) (line : String) :
    (p.openBlock n line).2.flatMap (Item.kept c) = [] := by
  rw [List.flatMap_eq_nil_iff]
  intro item hitem
  obtain ⟨remark, rfl⟩ := mem_openBlock hitem
  rfl

theorem flatMap_kept_closeBlock {b : OpenBlock} (h : b.opening.kind? ≠ none) (n : Nat) :
    ((inside b).closeBlock n).2.flatMap (Item.kept c) = (inside b).held c := by
  rcases b with ⟨⟨_ | kind, name, clause⟩, description, fields, _ | _⟩
  · exact absurd rfl h
  · exact absurd rfl h
  · simp [closeBlock, Item.kept, Declaration.kept, held, OpenBlock.declaration]
  · simp [closeBlock, Item.kept, Declaration.kept, held, OpenBlock.declaration]

theorem held_describe (p : Place) (line : String) :
    ((p.describe line).held c).Perm (p.held c ++ [line]) := by
  cases p with
  | outside pending => exact List.Perm.refl _
  | inside b =>
      simp only [describe, held, List.append_assoc]
      exact List.Perm.append_left b.description List.perm_append_comm

theorem held_addPlain (p : Place) (line : String) :
    (p.addPlain line).held c
      = p.held c ++ [if p.openBlock?.isSome then c.promote line else line] := by
  cases p <;> simp [addPlain, held]

end Place

namespace Reader

variable {r : Reader}

theorem isSome_openBlock?_step (r : Reader) (line : String) :
    (r.step line).1.place.openBlock?.isSome = openAfter r.place.openBlock?.isSome line := by
  cases hclass : LineClass.ofLine line with
  | blank => rw [step_blank hclass, openAfter, hclass]
  | comment =>
      rw [openAfter, hclass]
      cases hbody : r.inBody with
      | true => rw [step_comment hclass hbody, Place.openBlock?_describe]
      | false => rw [step_header hclass hbody]
  | opener =>
      rw [(step_opener hclass).1, openAfter, hclass]
      rfl
  | closer =>
      rw [(step_closer hclass).1, openAfter, hclass]
      cases r.place with
      | outside pending => rfl
      | inside b => rw [(Place.closeBlock_inside b _).1]; rfl
  | plain => rw [(step_plain hclass).1, openAfter, hclass]; simp

theorem isSome_openBlock?_run (r : Reader) (ls : List String) :
    (r.run ls).1.place.openBlock?.isSome = ls.foldl openAfter r.place.openBlock?.isSome := by
  induction ls generalizing r with
  | nil => rfl
  | cons line ls ih => rw [run_cons, ih, isSome_openBlock?_step, List.foldl_cons]

/-- One line is handed on, or waits with those that waited before. -/
theorem step_accounts (hopener : LineClass.ofLine l = .opener → r.place.openBlock? = none)
    (hkind : ∀ b, r.place = .inside b → b.opening.kind? ≠ none) :
    ((r.step l).2.flatMap (Item.kept c) ++ (r.step l).1.place.held c).Perm
      (r.place.held c ++ carriedLine c r.place.openBlock?.isSome l) := by
  -- As a scalar a line is handed on another time, which does not count.
  have hscalar : (if LineClass.isScalar l then [Item.scalar l] else []).flatMap (Item.kept c)
      = [] := by
    split <;> rfl
  cases hclass : LineClass.ofLine l with
  | blank => simp [step_blank hclass, carriedLine, hclass]
  | comment =>
      rw [carriedLine, hclass]
      cases hbody : r.inBody with
      | true =>
          rw [step_comment hclass hbody]
          exact r.place.held_describe l
      | false =>
          rw [step_header hclass hbody]
          exact List.perm_append_comm
  | opener =>
      have hplace := hopener hclass
      rw [step_body (by simp [hclass]) (by simp [hclass]), List.flatMap_append, hscalar, visitBody,
        hclass, carriedLine, hclass]
      cases hp : r.place with
      | inside b => simp [hp] at hplace
      | outside pending =>
          simp only [Place.flatMap_kept_openBlock]
          simp [Place.openBlock, Place.handOver, Place.held]
  | closer =>
      rw [step_body (by simp [hclass]) (by simp [hclass]), List.flatMap_append, hscalar, visitBody,
        hclass, carriedLine, hclass]
      cases hp : r.place with
      | outside pending => simp [Place.closeBlock_outside]
      | inside b =>
          simp [Place.flatMap_kept_closeBlock (hkind b hp), (Place.closeBlock_inside b _).1,
            Place.held]
  | plain =>
      rw [step_body (by simp [hclass]) (by simp [hclass]), List.flatMap_append, hscalar, visitBody,
        hclass, carriedLine, hclass]
      simp [Place.held_addPlain]

end Reader

/-- A block is open behind some lines just when one of them opens it, and none after that opens or
closes one. -/
theorem foldl_openAfter_iff (ls : List String) :
    ls.foldl openAfter false = true ↔ ∃ i line, OpenAhead ls i ls.length line := by
  have hstands := (Reader.run_blocks ls).1
  have hopen := Reader.isSome_openBlock?_run {} ls
  change (Reader.run {} ls).1.place.openBlock?.isSome = ls.foldl openAfter false at hopen
  rw [← hopen]
  cases hplace : (Reader.run {} ls).1.place.openBlock? with
  | none =>
      rw [Stands, hplace] at hstands
      simpa using hstands
  | some o =>
      rw [Stands, hplace] at hstands
      obtain ⟨i, line, hline, -⟩ := hstands
      exact ⟨fun _ => ⟨i, line, hline⟩, fun _ => rfl⟩

namespace IsTidy

/-- Where lines that are tidy go on, the block that is open is closed before another one opens. -/
theorem exists_closer (h : IsTidy (pre ++ post)) {i : Nat} {line : String}
    (hopen : OpenAhead pre i pre.length line) :
    ∃ j closing, pre.length ≤ j ∧ OpenAhead (pre ++ post) i j line ∧
      (pre ++ post)[j]? = some closing ∧ LineClass.ofLine closing = .closer := by
  have hstart : (pre ++ post)[i]? = some line := by
    rw [List.getElem?_append_left hopen.lt, hopen.at_start]
  obtain ⟨j, closing, hahead, hclosing, hclass⟩ := h.closed i line hstart hopen.opener
  refine ⟨j, closing, ?_, hahead, hclosing, hclass⟩
  by_contra hlt
  rw [List.getElem?_append_left (by omega)] at hclosing
  exact (hopen.between j closing hahead.lt (by omega) hclosing).2 hclass

theorem openBlock?_of_opener (h : IsTidy (pre ++ l :: post)) (hl : LineClass.ofLine l = .opener) :
    (Reader.run {} pre).1.place.openBlock? = none := by
  have hstands := (Reader.run_blocks pre).1
  cases hopen : (Reader.run {} pre).1.place.openBlock? with
  | none => rfl
  | some o =>
      rw [Stands, hopen] at hstands
      obtain ⟨i, line, hline, -⟩ := hstands
      obtain ⟨j, closing, hle, hahead, hclosing, hclass⟩ := h.exists_closer hline
      have hmiddle : (pre ++ l :: post)[pre.length]? = some l := by simp
      rcases Nat.lt_or_eq_of_le hle with hlt | rfl
      · exact absurd hl (hahead.between pre.length l hline.lt hlt hmiddle).1
      · obtain rfl := Option.some.inj (hmiddle.symm.trans hclosing)
        rw [hl] at hclass
        cases hclass

theorem openBlock?_run (h : IsTidy ls) : (Reader.run {} ls).1.place.openBlock? = none := by
  have hstands := (Reader.run_blocks ls).1
  cases hopen : (Reader.run {} ls).1.place.openBlock? with
  | none => rfl
  | some o =>
      rw [Stands, hopen] at hstands
      obtain ⟨i, line, hline, -⟩ := hstands
      rw [← List.append_nil ls] at h
      obtain ⟨j, closing, hle, -, hclosing, -⟩ := h.exists_closer hline
      rw [List.append_nil] at hclosing
      have hlt := (List.getElem?_eq_some_iff.1 hclosing).1
      omega

theorem kind_of_inside (h : IsTidy (pre ++ post)) {b : OpenBlock}
    (hb : (Reader.run {} pre).1.place = .inside b) : b.opening.kind? ≠ none := by
  have hstands := (Reader.run_blocks pre).1
  rw [hb] at hstands
  obtain ⟨i, line, hline, hopening, -⟩ := hstands
  have hmem : line ∈ pre ++ post := List.mem_append_left post (List.mem_of_getElem? hline.at_start)
  obtain ⟨kind, name, clause, hwords⟩ := h.named line hmem hline.opener
  rw [hopening, Opening.ofLine_eq_iff.2 hwords]
  simp

/-- What makes some lines tidy, told by their places. -/
theorem of_fin (hnamed : ∀ l ∈ ls, LineClass.ofLine l = .opener → (Opening.ofLine l).kind? ≠ none)
    (hclosed : ∀ i : Fin ls.length, LineClass.ofLine (ls.get i) = .opener →
      ∃ j : Fin ls.length, i < j ∧ LineClass.ofLine (ls.get j) = .closer ∧
        ∀ k : Fin ls.length, i < k → k < j →
          LineClass.ofLine (ls.get k) ≠ .opener ∧ LineClass.ofLine (ls.get k) ≠ .closer)
    (hdistinct : ∀ i j : Fin ls.length,
      LineClass.ofLine (ls.get i) = .opener → LineClass.ofLine (ls.get j) = .opener →
      (Opening.ofLine (ls.get i)).kind? = (Opening.ofLine (ls.get j)).kind? →
      (Opening.ofLine (ls.get i)).name = (Opening.ofLine (ls.get j)).name → i = j) :
    IsTidy ls where
  named l hl hopener := by
    obtain ⟨kind, hkind⟩ := Option.ne_none_iff_exists'.1 (hnamed l hl hopener)
    exact ⟨kind, _, _, Opening.ofLine_eq_iff.1 (by rw [← hkind])⟩
  closed i l hl hopener := by
    obtain ⟨hi, rfl⟩ := List.getElem?_eq_some_iff.1 hl
    obtain ⟨j, hij, hcloser, hbetween⟩ := hclosed ⟨i, hi⟩ hopener
    refine ⟨j, ls.get j, ⟨hij, hl, hopener, fun n m hin hnj hm => ?_⟩, by simp, hcloser⟩
    obtain ⟨hn, rfl⟩ := List.getElem?_eq_some_iff.1 hm
    exact hbetween ⟨n, hn⟩ hin hnj
  distinct a b ha hb hkey := by
    obtain ⟨line, hline, hwords⟩ := ha.opens
    obtain ⟨line', hline', hwords'⟩ := hb.opens
    obtain ⟨hstart, rfl⟩ := List.getElem?_eq_some_iff.1 hline.at_start
    obtain ⟨hstart', rfl⟩ := List.getElem?_eq_some_iff.1 hline'.at_start
    obtain ⟨hkind, hname⟩ := Prod.mk.inj hkey
    have hopening := Opening.ofLine_eq_iff.2 hwords
    have hopening' := Opening.ofLine_eq_iff.2 hwords'
    refine congrArg Fin.val (hdistinct ⟨_, hstart⟩ ⟨_, hstart'⟩ hline.opener hline'.opener ?_ ?_)
    · rw [List.get_eq_getElem, List.get_eq_getElem, hopening, hopening', hkind]
    · rw [List.get_eq_getElem, List.get_eq_getElem, hopening, hopening', hname]

/-- The lines read so far are handed on, or wait for an item to come. -/
theorem run_accounts (h : IsTidy (pre ++ post)) :
    ((Reader.run {} pre).2.flatMap (Item.kept c) ++ (Reader.run {} pre).1.place.held c).Perm
      (carried c false pre) := by
  -- At the end of what was read, since the lines to come close the block that is open there.
  induction pre using List.reverseRecOn generalizing post with
  | nil => exact List.Perm.refl _
  | append_singleton pre l ih =>
      rw [List.append_assoc, List.singleton_append] at h
      have hopen := Reader.isSome_openBlock?_run {} pre
      have hstep := Reader.step_accounts (c := c) (r := (Reader.run {} pre).1) (l := l)
        h.openBlock?_of_opener fun b hb => h.kind_of_inside hb
      rw [hopen] at hstep
      rw [Reader.run_concat, List.flatMap_append, carried_concat, List.append_assoc]
      refine (List.Perm.append_left _ hstep).trans ?_
      rw [← List.append_assoc]
      exact (ih h).append_right _

end IsTidy

theorem Place.flatMap_kept_finish {p : Place} (h : p.openBlock? = none) :
    p.finish.flatMap (Item.kept c) = p.held c := by
  cases p with
  | outside pending => simp [finish, held, List.flatMap_map, Item.kept]
  | inside b => cases h

/-- Each line of a tidy text is handed on. -/
theorem perm_flatMap_kept {content : String} (h : IsTidy (lines content)) :
    ((Item.ofText content).flatMap (Item.kept c)).Perm (carried c false (lines content)) := by
  have hend := h.openBlock?_run
  rw [← List.append_nil (lines content)] at h
  rw [Item.ofText, List.flatMap_append, Place.flatMap_kept_finish hend]
  exact h.run_accounts

theorem Item.perm_flatMap_kept (items : List Item) :
    (items.flatMap (kept c)).Perm (items.filterMap header?
      ++ (items.filterMap declaration?).flatMap (Declaration.kept c)
      ++ items.filterMap trailing?) := by
  induction items with
  | nil => exact List.Perm.refl _
  | cons item items ih =>
      rw [List.flatMap_cons]
      have hitem := ih.append_left (item.kept c)
      cases item with
      | header line => exact hitem
      | scalar line => exact hitem
      | remark r => exact hitem
      | declaration d =>
          refine hitem.trans ?_
          simp only [List.filterMap_cons, header?, declaration?, trailing?, List.flatMap_cons, kept,
            ← List.append_assoc]
          exact (List.perm_append_comm.append_right _).append_right _
      | trailing line =>
          refine hitem.trans ?_
          simp only [List.filterMap_cons, header?, declaration?, trailing?, kept,
            List.singleton_append]
          exact List.perm_middle.symm

/-- Blocks with distinct keys are read as declarations with distinct keys. -/
theorem AreBlocksOf.nodup_keys {ds : List Declaration} (h : AreBlocksOf ls ds)
    (hdistinct : ∀ a b : Block, a.IsIn ls → b.IsIn ls → a.key = b.key → a.start = b.start) :
    (ds.map Declaration.key).Nodup := by
  obtain ⟨ps, rfl, hdescribes, hfst, hsorted⟩ := h
  rw [List.map_map, List.Nodup, List.pairwise_map]
  refine hsorted.imp_of_mem ?_
  intro p q hp hq hstop hkey
  have hp' : p.1.IsIn ls := (hfst p.1).1 (List.mem_map_of_mem hp)
  have hq' : q.1.IsIn ls := (hfst q.1).1 (List.mem_map_of_mem hq)
  have hlt := hp'.start_lt_of_stop_lt hq' hstop
  have hsame : p.1.key = q.1.key := by
    rw [← (hdescribes p hp).key_eq, ← (hdescribes q hq).key_eq]
    exact hkey
  have := hdistinct p.1 q.1 hp' hq' hsame
  omega

namespace Schema

variable {content : String} {stripCommas : Bool}

theorem perm_declarations_foldl_insert {ds : List Declaration}
    (h : (ds.map Declaration.key).Nodup) : (ds.foldl insert {}).declarations.Perm ds := by
  have hkeys : (keyOrder (ds.map Declaration.key)).Perm (ds.map Declaration.key) :=
    (List.perm_ext_iff_of_nodup (nodup_keyOrder _) h).2 fun _ => mem_keyOrder
  have hperm := hkeys.filterMap (lastWithKey ds)
  rwa [filterMap_lastWithKey h, ← declarations_foldl_insert] at hperm

/-- No declaration of a tidy text gives way to another one. -/
theorem perm_declarations (h : IsTidy (lines content)) : (ofText content).declarations.Perm
    ((Reader.run {} (lines content)).2.filterMap Item.declaration?) := by
  rw [declarations_ofText]
  exact perm_declarations_foldl_insert
    ((Reader.run_blocks (lines content)).2.nodup_keys h.distinct)

/-- What is kept of a tidy text are its lines. -/
theorem perm_carried (h : IsTidy (lines content)) :
    ((ofText content).header ++ (ofText content).declarations.flatMap (Declaration.kept c)
      ++ (ofText content).trailing).Perm (carried c false (lines content)) := by
  have hdeclarations : (ofText content).declarations.Perm
      ((Item.ofText content).filterMap Item.declaration?) := by
    rw [Item.ofText, List.filterMap_append, Place.filterMap_declaration?_finish, List.append_nil]
    exact perm_declarations h
  refine List.Perm.trans ?_ (perm_flatMap_kept h)
  refine List.Perm.trans ?_ (Item.perm_flatMap_kept (Item.ofText content)).symm
  rw [ofText, header_ofItems, trailing_ofItems, ← ofText]
  exact ((hdeclarations.flatMap_right _).append_left _).append_right _

theorem filledLines_written {d : Declaration} (hreturn : '\r' ∉ content.toList)
    (hd : d ∈ (ofText content).declarations) :
    filledLines ("" :: (written (.preserved stripCommas) d.hoisted).lines)
      = (written (.preserved stripCommas) d.hoisted).lines := by
  have hsound := isSound_hoisted stripCommas hreturn hd
  rw [filledLines_cons_of_blank rfl]
  refine filledLines_eq_self fun l hl => ?_
  rcases List.mem_append.1 hl with hl | hl
  · exact (hsound.description l hl).1.1
  rcases List.mem_cons.1 hl with rfl | hl
  · simp [Declaration.ofLine_header]
  rcases List.mem_append.1 hl with hl | hl
  · exact (hsound.body l hl).1.pendingLine.1
  · rw [List.mem_singleton.1 hl]
    decide

theorem filledLines_documentLines (hreturn : '\r' ∉ content.toList) :
    filledLines ((ofText content).documentLines (.preserved stripCommas))
      = (ofText content).header ++ ((ofText content).scalars
        ++ (ofText content).declarations.flatMap
          (fun d => (written (.preserved stripCommas) d.hoisted).lines)
        ++ dropScalars (ofText content).trailing) := by
  have hheader : filledLines (ofText content).header = (ofText content).header :=
    filledLines_eq_self fun l hl => by simp [(mem_header_ofText hl).2]
  have hkept : filledLines (ofText content).scalars = (ofText content).scalars := by
    refine filledLines_eq_self fun l hl => ?_
    rw [scalars_ofText] at hl
    exact (LineClass.ofLine_of_isScalar (List.mem_filter.1 hl).2).1
  have hblocks : filledLines ((ofText content).declarations.flatMap fun d =>
      "" :: (written (.preserved stripCommas) d.hoisted).lines)
      = (ofText content).declarations.flatMap
          fun d => (written (.preserved stripCommas) d.hoisted).lines := by
    rw [filledLines, List.filter_flatMap]
    exact List.flatMap_congr fun d hd => filledLines_written hreturn hd
  have htrailing : filledLines (dropScalars (ofText content).trailing)
      = dropScalars (ofText content).trailing := by
    refine filledLines_eq_self fun l hl => ?_
    exact (describingLine_of_mem_trailing (List.mem_filter.1 hl).1).pendingLine.1
  rw [documentLines_ofText, preservedBody, filledLines_append, filledLines_append,
    filledLines_append, filledLines_spaced, hheader, hkept, hblocks, htrailing]

/-- A declaration is written as its own lines but for scalars, its opening line and a brace. -/
theorem perm_written (stripCommas : Bool) {d : Declaration}
    (hscalars : ScalarsApart (lines content)) (hd : d ∈ (ofText content).declarations) :
    (written (.preserved stripCommas) d.hoisted).lines.Perm
      (dropScalars (d.kept (Layout.preserved stripCommas).toCaptions) ++ [d.header, "\x7d"]) := by
  have hfields : dropScalars (d.fields.map (Layout.preserved stripCommas).promote)
      = d.fields.map (Layout.preserved stripCommas).promote := by
    rw [dropScalars, List.filter_eq_self]
    intro l hl
    obtain ⟨m, hm, rfl⟩ := List.mem_map.1 hl
    rw [Captions.isScalar_promote, isScalar_eq_false_of_mem_fields hscalars hd hm]
    rfl
  rw [lines_written_hoisted hd, Declaration.kept, dropScalars_append, hfields, List.append_assoc]
  refine List.Perm.append_left _ ?_
  exact List.perm_middle.symm

/-- The scalars, and what else is kept of a tidy text, are its lines. -/
theorem perm_scalars_carried (htidy : IsTidy (lines content))
    (hscalars : ScalarsApart (lines content)) :
    ((ofText content).scalars ++ ((ofText content).header
      ++ ((ofText content).declarations.flatMap fun d => dropScalars (d.kept c))
      ++ dropScalars (ofText content).trailing)).Perm (carried c false (lines content)) := by
  have hkept := perm_carried (c := c) htidy
  have hscalar := hkept.filter LineClass.isScalar
  rw [filter_isScalar_carried false fun l hl h => hscalars.ofLine_eq_plain hl h,
    ← scalars_ofText] at hscalar
  have hrest : dropScalars ((ofText content).header
      ++ (ofText content).declarations.flatMap (Declaration.kept c) ++ (ofText content).trailing)
      = (ofText content).header
        ++ ((ofText content).declarations.flatMap fun d => dropScalars (d.kept c))
        ++ dropScalars (ofText content).trailing := by
    rw [dropScalars_append, dropScalars_append, dropScalars_header, dropScalars_flatMap]
  rw [← hrest]
  refine (hscalar.symm.append_right _).trans ?_
  exact (List.filter_append_perm LineClass.isScalar _).trans hkept

/-- The lines in the order in which they are written, and in that in which they are counted. -/
theorem perm_sections (header scalars blocks frames trailing : List String) :
    (header ++ (scalars ++ (blocks ++ frames) ++ trailing)).Perm
      (scalars ++ (header ++ blocks ++ trailing) ++ frames) := by
  rw [List.perm_iff_count]
  intro l
  simp only [List.count_append]
  omega

/-- **No line of a tidy text is lost or written twice** in the layout that keeps all lines. Besides
them a text has an opening line and a closing brace for each declaration. -/
theorem perm_filledLines_render (stripCommas : Bool) (hreturn : '\r' ∉ content.toList)
    (htidy : IsTidy (lines content)) (hscalars : ScalarsApart (lines content))
    (hfree : EmptyInput.Free ((ofText content).assemble (.preserved stripCommas))) :
    (filledLines (lines ((ofText content).render (.preserved stripCommas)))).Perm
      (carried (Layout.preserved stripCommas).toCaptions false (lines content)
        ++ (ofText content).declarations.flatMap fun d => [d.header, "\x7d"]) := by
  have hblocks := (List.Perm.flatMap_left (ofText content).declarations fun d hd =>
    perm_written stripCommas hscalars hd).trans
      (List.flatMap_append_perm _ _ _).symm
  rw [lines_render_preserved hreturn hfree, filledLines_dropWhile,
    filledLines_documentLines hreturn]
  refine (((hblocks.append_left _).append_right _).append_left _).trans ?_
  refine (perm_sections _ _ _ _ _).trans (List.Perm.append_right _ ?_)
  exact perm_scalars_carried htidy hscalars

/-- A header, a scalar, a declaration with comments of both sorts in its body, and a line that is
left over. -/
theorem perm_filledLines_render_of_comments :
    let content := "# head\nscalar Date\n# about A\n"
      ++ "type A \x7b\n# on a\n  # all\n  a: Int\n\x7d\nextend B\n"
    (filledLines (lines ((ofText content).render (.preserved true)))).Perm
      (["# head", "scalar Date", "# about A", "# on a", "  \"\"\"  all\"\"\"", "  a: Int",
        "extend B"] ++ ["type A \x7b", "\x7d"]) := by
  intro content
  let ls := ["# head", "scalar Date", "# about A", "type A \x7b", "# on a", "  # all", "  a: Int",
    "\x7d", "extend B"]
  have hlines : lines content = ls := by decide +kernel
  have htidy : IsTidy ls :=
    IsTidy.of_fin (by decide +kernel) (by decide +kernel) (by decide +kernel)
  have hscalars : ScalarsApart ls := by
    change ScalarsApart (["# head", "scalar Date", "# about A"] ++ ["type A \x7b", "# on a",
      "  # all", "  a: Int", "\x7d", "extend B"])
    exact ScalarsApart.of_append (by decide +kernel) (by decide +kernel)
  have hcarried : carried (Layout.preserved true).toCaptions false ls = ["# head", "scalar Date",
      "# about A", "# on a", "  \"\"\"  all\"\"\"", "  a: Int", "extend B"] := by
    decide +kernel
  have hframes : ((ofText content).declarations.flatMap fun d => [d.header, "\x7d"])
      = ["type A \x7b", "\x7d"] := by
    decide +kernel
  rw [← hlines] at htidy hscalars hcarried
  rw [← hcarried, ← hframes]
  exact perm_filledLines_render true (by decide) htidy hscalars (by decide +kernel)

end Schema

end SchemaSieve
