import SchemaSieve.Proofs.Deciding
import SchemaSieve.Proofs.Describing

/-!
# Removals in any order

A removal by a selector decides on a field by the field and its declaration alone, and leaves it as
it is or not at all. So what removals leave are the fields that none of them takes away, and their
order does not matter; nor does it matter where among them lines are added, which no removal looks
at. `apply_of_perm` says so, and that removing once more changes nothing.
-/

namespace SchemaSieve

namespace Filter

variable {f : Filter}

/-- Whether the filter adds a line. -/
def adds (f : Filter) : Bool :=
  match f.action with
  | .add _ => true
  | _ => false

/-- The filter removes the fields that a selector selects, or all others. -/
def RemovesSelected (f : Filter) : Prop :=
  ∃ invert selector, f.action = .remove invert (.selector selector)

theorem addedLine?_of_not_adds (h : f.adds = false) (kind : Kind) (name : String) :
    f.addedLine? kind name = none := by
  unfold addedLine?
  split
  · rename_i line haction
    rw [adds, haction] at h
    cases h
  · rfl

theorem onEntry_of_adds_or (h : f.adds = true ∨ f.RemovesSelected) (field : Field) :
    f.onEntry field = .ok (if f.takesAway field then none else some field.line) := by
  rcases h with hadds | ⟨invert, selector, haction⟩
  · rw [adds] at hadds
    split at hadds
    · rename_i line haction
      rw [onEntry, takesAway, haction]
      split <;> rfl
    · cases hadds
  · exact onEntry_of_selector haction field

end Filter

namespace Pipeline

variable {fs gs : List Filter} {s t : Schema} {d e : Declaration}

/-- What is left by removals: the fields that none of them takes away. -/
def LeavesUntaken (fs : List Filter) (d e : Declaration) : Prop :=
  e.fields = d.fields.filter fun l => !fs.any (·.takesAway (d.field l))

theorem onEntry_of_adds_or (hfs : ∀ f ∈ fs, f.adds = true ∨ f.RemovesSelected) (field : Field) :
    onEntry fs field = .ok (if fs.any (·.takesAway field) then none else some field.line) :=
  onEntry_of_forall fun f hf => Filter.onEntry_of_adds_or (hfs f hf) field

theorem leavesUntaken (hfs : ∀ f ∈ fs, f.adds = true ∨ f.RemovesSelected)
    (h : leaves? fs d = some e) : LeavesUntaken fs d e :=
  fields_eq_filter (fun l => onEntry_of_adds_or hfs (d.field l)) h

theorem filterMap_addedLine?_filter (fs : List Filter) (kind : Kind) (name : String) :
    (fs.filter (·.adds)).filterMap (·.addedLine? kind name)
      = fs.filterMap (·.addedLine? kind name) := by
  rw [List.filterMap_filter]
  refine List.filterMap_congr fun f _ => ?_
  cases hadds : f.adds with
  | true => rfl
  | false => exact (Filter.addedLine?_of_not_adds hadds kind name).symm

/-- Filters in another order leave the same, if they add the same lines in the same order. -/
theorem leaves?_of_perm (hfs : ∀ f ∈ fs, f.adds = true ∨ f.RemovesSelected) (hperm : gs.Perm fs)
    (hadds : gs.filter (·.adds) = fs.filter (·.adds)) (h : leaves? fs d = some e) :
    leaves? gs d = some e := by
  refine leaves?_congr (fun l _ => ?_) ?_ h
  · have hgs : ∀ f ∈ gs, f.adds = true ∨ f.RemovesSelected := fun f hf =>
      hfs f (hperm.mem_iff.1 hf)
    rw [onEntry_of_adds_or hfs, onEntry_of_adds_or hgs, hperm.any_eq]
  · rw [← filterMap_addedLine?_filter fs, ← filterMap_addedLine?_filter gs, hadds]

/-- What filters have left is not changed by their removals. -/
theorem leaves?_removals (hfs : ∀ f ∈ fs, f.adds = true ∨ f.RemovesSelected)
    (h : leaves? fs d = some e) : leaves? (fs.filter (!·.adds)) e = some e := by
  refine leaves?_congr (fun l hl => ?_) ?_ (leaves?_nil e)
  · have hsame : e.field l = d.field l := by
      rw [sameOpening_of_leaves? h]
      rfl
    rw [leavesUntaken hfs h, List.mem_filter, Bool.not_eq_true', List.any_eq_false] at hl
    have huntaken : (fs.filter (!·.adds)).any (·.takesAway (e.field l)) = false := by
      rw [hsame, List.any_eq_false]
      exact fun f hf => hl.2 f (List.mem_of_mem_filter hf)
    rw [onEntry_of_adds_or (fun f hf => hfs f (List.mem_of_mem_filter hf)), huntaken]
    rfl
  · refine (List.filterMap_eq_nil_iff.2 fun f hf => ?_).symm
    have hadds := List.of_mem_filter hf
    exact Filter.addedLine?_of_not_adds (by simpa using hadds) e.kind e.name

/-- **Removals may come in any order.** A list of filters that add lines and remove fields by
selectors does the same in every order that keeps the order of the lines added. It leaves the fields
that none of its removals takes away, and these take nothing away a second time. -/
theorem apply_of_perm (hfs : ∀ f ∈ fs, f.adds = true ∨ f.RemovesSelected) (s : Schema) :
    ∃ t, apply fs s = .ok t ∧
      (∀ gs : List Filter, gs.Perm fs → gs.filter (·.adds) = fs.filter (·.adds) →
        apply gs s = .ok t) ∧
      List.Forall₂ (fun d e => LeavesUntaken fs d e ∧ e.fields.Sublist d.fields) s.declarations
        t.declarations ∧
      apply (fs.filter (!·.adds)) t = .ok t := by
  have hleaves : ∀ d ∈ s.declarations, ∃ e, leaves? fs d = some e :=
    fun d _ => exists_leaves?_iff.2 fun l _ => ⟨_, onEntry_of_adds_or hfs (d.field l)⟩
  obtain ⟨t, ht⟩ := exists_apply_iff.2 hleaves
  obtain ⟨hframe, hleft⟩ := apply_eq_ok_iff_forall₂.1 ht
  refine ⟨t, ht, fun gs hperm hadds => ?_, hleft.imp fun d e he => ?_, ?_⟩
  · exact apply_eq_ok_iff_forall₂.2 ⟨hframe, hleft.imp fun d e => leaves?_of_perm hfs hperm hadds⟩
  · have huntaken := leavesUntaken hfs he
    refine ⟨huntaken, ?_⟩
    rw [huntaken]
    exact List.filter_sublist
  · refine apply_eq_ok_iff_forall₂.2 ⟨⟨rfl, rfl, rfl, rfl⟩, List.forall₂_same.2 fun e he => ?_⟩
    obtain ⟨d, -, hd⟩ := exists_of_mem_forall₂ hleft he
    exact leaves?_removals hfs hd

/-- Two removals, one of them of all but the fields selected, trade places around an added line. -/
theorem apply_of_swapped_removals :
    let s := Schema.ofText
      "type A \x7b\n  a: Int\n  b: Int\n  c: Int\n\x7d\ninput B \x7b\n  b: Int\n\x7d\n"
    let byName : Selector := { fieldName := some (.exact ["b"]) }
    let byLine : Selector := { line := some (.exact ["  a: Int"]) }
    let removal : Filter :=
      { action := .remove false (.selector byName), nameException := some (.exact ["B"]) }
    let keeping : Filter := { action := .remove true (.selector byLine), kind := some .type }
    let first : Filter := { action := .add "  x: Int" }
    let second : Filter := { action := .add "  y: Int", kind := some .type }
    let fs := [removal, first, keeping, second]
    let t := (run fs s).1
    apply fs s = .ok t ∧ apply [keeping, first, removal, second] s = .ok t ∧
      apply [removal, keeping] t = .ok t ∧
      t.declarations.map (fun d => (d.additions, d.fields))
        = [(["  x: Int", "  y: Int"], ["  a: Int"]), (["  x: Int"], ["  b: Int"])] := by
  intro s byName byLine removal keeping first second fs t
  have hfs : ∀ f ∈ fs, f.adds = true ∨ f.RemovesSelected := by
    simp only [fs, List.forall_mem_cons]
    exact ⟨Or.inr ⟨_, _, rfl⟩, Or.inl rfl, Or.inr ⟨_, _, rfl⟩, Or.inl rfl, by simp⟩
  have hperm : [keeping, first, removal, second].Perm fs :=
    (List.reverse_perm [removal, first, keeping]).append_right [second]
  obtain ⟨t', ht, hreordered, -, hagain⟩ := apply_of_perm hfs s
  obtain rfl : t' = t := (apply_eq_ok_iff.1 ht).2
  exact ⟨ht, hreordered _ hperm rfl, hagain, by decide +kernel⟩

end Pipeline

end SchemaSieve
