import SchemaSieve.Proofs.Blocks

/-!
# Reading blocks

The reader keeps the invariant of `Blocks` on every line, so the declarations of a text are the
blocks of its lines.
-/

namespace SchemaSieve

open Text

namespace Place

@[simp] theorem openBlock?_outside (pending : List String) :
    (outside pending).openBlock? = none := rfl

@[simp] theorem openBlock?_inside (b : OpenBlock) :
    (inside b).openBlock? = some (b.opening, b.fields) := rfl

@[simp] theorem openBlock?_describe (p : Place) (line : String) :
    (p.describe line).openBlock? = p.openBlock? := by
  cases p <;> rfl

@[simp] theorem openBlock?_addPlain (p : Place) (line : String) :
    (p.addPlain line).openBlock? = p.openBlock?.map fun b => (b.1, b.2 ++ [line]) := by
  cases p <;> rfl

end Place

namespace Reader

/-- One line keeps what the reader knows of the blocks. -/
theorem step_blocks {ls : List String} {r : Reader} {ds : List Declaration} (l : String)
    (hstands : Stands ls r.place) (hblocks : AreBlocksOf ls ds) :
    Stands (ls ++ [l]) (r.step l).1.place ∧
      AreBlocksOf (ls ++ [l]) (ds ++ (r.step l).2.filterMap Item.declaration?) := by
  cases h : LineClass.ofLine l with
  | blank =>
      rw [step_blank h]
      refine ⟨hstands.concat (by simp [h]) (by simp [h]) (by simp [h]), ?_⟩
      simpa using hblocks.concat_of_not_closer (by simp [h])
  | comment =>
      have hblocks' := hblocks.concat_of_not_closer (l := l) (by simp [h])
      cases hbody : r.inBody with
      | true =>
          rw [step_comment h hbody]
          exact ⟨hstands.concat (by simp [h]) (by simp [h]) (by simp [h]), by simpa using hblocks'⟩
      | false =>
          rw [step_header h hbody]
          exact ⟨hstands.concat (by simp [h]) (by simp [h]) (by simp [h]),
            by simpa [Item.declaration?, List.filterMap_cons] using hblocks'⟩
  | opener =>
      obtain ⟨hafter, hitems⟩ := step_opener (r := r) h
      rw [hafter, hitems, List.append_nil]
      exact ⟨Stands.of_opener h rfl, hblocks.concat_of_not_closer (by simp [h])⟩
  | closer =>
      obtain ⟨hafter, hitems⟩ := step_closer (r := r) h
      rw [hafter, hitems]
      cases hplace : r.place with
      | outside pending =>
          rw [Place.closeBlock_outside]
          refine ⟨Stands.of_closer h rfl, ?_⟩
          simpa using hblocks.concat_of_no_kind hstands (by simp [hplace])
      | inside b =>
          rw [hplace] at hstands
          obtain ⟨hclosed, hdeclared⟩ := Place.closeBlock_inside b (r.lineCount + 1)
          rw [hclosed, hdeclared]
          refine ⟨Stands.of_closer h rfl, ?_⟩
          cases hkind : b.opening.kind? with
          | none => simpa using hblocks.concat_of_no_kind hstands (by simp [hkind])
          | some kind => simpa using hblocks.concat_closer h hstands hkind
  | plain =>
      obtain ⟨hafter, hitems⟩ := step_plain (r := r) h
      rw [hafter, hitems, List.append_nil]
      refine ⟨hstands.concat (by simp [h]) (by simp [h]) (by simp [h]), ?_⟩
      exact hblocks.concat_of_not_closer (by simp [h])

/-- The declarations that a reader hands on are the blocks of the lines it has read. -/
theorem run_blocks (ls : List String) :
    Stands ls (run {} ls).1.place ∧
      AreBlocksOf ls ((run {} ls).2.filterMap Item.declaration?) := by
  induction ls using List.reverseRecOn with
  | nil => exact ⟨fun i line h => absurd h.lt (by simp), AreBlocksOf.nil⟩
  | append_singleton ls l ih =>
      rw [run_concat, List.filterMap_append]
      exact step_blocks l ih.1 ih.2

end Reader

namespace AreBlocksOf

variable {ls : List String} {ds : List Declaration}

theorem precede {ps : List (Block × Declaration)}
    (hfst : ∀ b : Block, b ∈ ps.map Prod.fst ↔ b.IsIn ls)
    (hsorted : ps.Pairwise fun p q => p.1.stop < q.1.stop) {first second : Block → Prop}
    (h : ∀ u v b, ps.map Prod.fst = u ++ b :: v → second b → ∃ a ∈ u, first a) :
    Block.Precede ls first second := by
  intro b hb hsecond
  obtain ⟨u, v, huv⟩ := List.append_of_mem ((hfst b).2 hb)
  obtain ⟨a, ha, hfirst⟩ := h u v b huv hsecond
  have ha' : a.IsIn ls := (hfst a).1 (by simp [huv, ha])
  refine ⟨a, ha', hfirst, ha'.start_lt_of_stop_lt hb ?_⟩
  have hsorted' : (ps.map Prod.fst).Pairwise fun p q => p.stop < q.stop :=
    List.pairwise_map.2 hsorted
  rw [huv, List.pairwise_append] at hsorted'
  exact hsorted'.2.2 a ha b (by simp)

/-- The declaration that is kept of those with one key is that of the last block with the key. -/
theorem exists_last (h : AreBlocksOf ls ds) {k : Kind × String} {d : Declaration}
    (hd : lastWithKey ds k = some d) :
    ∃ b : Block, b.IsIn ls ∧ b.Describes d ∧
      ∀ b' : Block, b'.IsIn ls → b'.key = b.key → b'.start ≤ b.start := by
  obtain ⟨ps, rfl, hdescribes, hfst, hsorted⟩ := h
  obtain ⟨hkey, u, v, huv, hv⟩ := lastWithKey_eq_some_iff.1 hd
  obtain ⟨pu, pv', rfl, rfl, hpv'⟩ := List.map_eq_append_iff.1 huv
  obtain ⟨⟨b, d'⟩, pv, rfl, rfl, rfl⟩ := List.map_eq_cons_iff.1 hpv'
  have hmem : ∀ p ∈ pu ++ (b, d') :: pv, p.1.IsIn ls := fun p hp =>
    (hfst p.1).1 (List.mem_map_of_mem hp)
  have hb : b.IsIn ls := hmem (b, d') (by simp)
  have hdescribes' : b.Describes d' := hdescribes (b, d') (by simp)
  refine ⟨b, hb, hdescribes', ?_⟩
  intro b' hb' hkey'
  obtain ⟨⟨c, e⟩, hc, rfl⟩ := List.mem_map.1 ((hfst b').2 hb')
  rw [List.pairwise_append, List.pairwise_cons] at hsorted
  rcases List.mem_append.1 hc with hc | hc
  · have hstop := hsorted.2.2 (c, e) hc (b, d') (by simp)
    exact Nat.le_of_lt (hb'.start_lt_of_stop_lt hb hstop)
  · rcases List.mem_cons.1 hc with heq | hc
    · obtain ⟨rfl, rfl⟩ := Prod.mk.inj heq
      exact Nat.le_refl _
    · refine absurd ?_ (hv e (List.mem_map_of_mem hc))
      have hce : c.Describes e := hdescribes (c, e) (by simp [hc])
      rw [hce.key_eq, hkey', ← hdescribes'.key_eq, hkey]

end AreBlocksOf

/-- **The declarations of a text are its blocks.** Each kind and name comes once. The declaration
stored under them is that of the last block with them, whose words and plain lines it keeps as they
are. Kinds come in the order of their first blocks, and so do the names of a kind. -/
theorem declarations_eq_blocks (content : String) :
    ((Schema.ofText content).declarations.map Declaration.key).Nodup ∧
      (∀ d ∈ (Schema.ofText content).declarations,
        ∃ b : Block, b.IsIn (lines content) ∧ b.Describes d ∧
          ∀ b' : Block, b'.IsIn (lines content) → b'.key = b.key → b'.start ≤ b.start) ∧
      (∀ b : Block, b.IsIn (lines content) →
        ∃ d ∈ (Schema.ofText content).declarations, d.key = b.key) ∧
      (Schema.ofText content).declarations.Pairwise fun d e =>
        if d.kind = e.kind then
          Block.Precede (lines content) (fun b => b.key = d.key) (fun b => b.key = e.key)
        else Block.Precede (lines content) (fun b => b.kind = d.kind) (fun b => b.kind = e.kind) := by
  have hblocks := (Reader.run_blocks (lines content)).2
  rw [declarations_ofText]
  set ds := (Reader.run {} (lines content)).2.filterMap Item.declaration? with hds
  have hkeys := Schema.map_key_declarations_foldl_insert ds
  refine ⟨hkeys ▸ nodup_keyOrder _, ?_, ?_, ?_⟩
  · intro d hd
    rw [Schema.declarations_foldl_insert] at hd
    obtain ⟨k, -, hk⟩ := List.mem_filterMap.1 hd
    exact hblocks.exists_last hk
  · intro b hb
    obtain ⟨ps, hsnd, hdescribes, hfst, -⟩ := hblocks
    obtain ⟨⟨b', d⟩, hmem, rfl⟩ := List.mem_map.1 ((hfst b).2 hb)
    have hkey : b'.key ∈ (ds.foldl Schema.insert {}).declarations.map Declaration.key := by
      rw [hkeys, mem_keyOrder, ← (hdescribes _ hmem).key_eq]
      exact List.mem_map_of_mem (hsnd ▸ List.mem_map_of_mem hmem)
    obtain ⟨e, he, hekey⟩ := List.mem_map.1 hkey
    exact ⟨e, he, hekey⟩
  · obtain ⟨ps, hsnd, hdescribes, hfst, hsorted⟩ := hblocks
    have hbkeys : ds.map Declaration.key = (ps.map Prod.fst).map Block.key := by
      rw [← hsnd, List.map_map, List.map_map]
      exact List.map_congr_left fun p hp => (hdescribes p hp).key_eq
    have horder := pairwise_keyOrder (ds.map Declaration.key)
    rw [← hkeys, List.pairwise_map, hbkeys] at horder
    refine horder.imp ?_
    intro d e hde
    by_cases hkind : d.kind = e.kind
    · rw [if_pos hkind]
      rw [if_pos (show d.key.1 = e.key.1 from hkind)] at hde
      refine AreBlocksOf.precede hfst hsorted ?_
      intro u v b huv hb
      have hmem := hde.2 (u.map Block.key) (v.map Block.key) (by simp [huv, hb])
      exact List.mem_map.1 hmem
    · rw [if_neg hkind]
      rw [if_neg (show d.key.1 ≠ e.key.1 from hkind)] at hde
      refine AreBlocksOf.precede hfst hsorted ?_
      intro u v b huv hb
      have hmem := hde (u.map Block.kind) (v.map Block.kind)
        (by simp [huv, ← hb, Block.key, Declaration.key, Function.comp_def])
      exact List.mem_map.1 hmem

end SchemaSieve
