import SchemaSieve.Proofs.Header

/-!
# The lines of declarations that were read

The form of a declaration that was read from a text: its name and clause are words, its description
is made of comments and plain lines, its fields are plain lines, and nothing was added. The reader
keeps the same of the block that it is in.
-/

namespace SchemaSieve

open Text

/-- A line that may describe a declaration. -/
def DescribingLine (P : String → Prop) (l : String) : Prop :=
  P l ∧ (LineClass.ofLine l = .comment ∨ LineClass.ofLine l = .plain)

def FieldLine (P : String → Prop) (l : String) : Prop := P l ∧ LineClass.ofLine l = .plain

/-- The declaration has the form of one that was read, from lines of a sort. -/
structure Declaration.IsRead (P : String → Prop) (d : Declaration) : Prop where
  words : d.HasWords
  description : ∀ l ∈ d.description, DescribingLine P l
  fields : ∀ l ∈ d.fields, FieldLine P l
  additions : d.additions = []

def Opening.HasWords (o : Opening) : Prop :=
  o.kind? ≠ none → IsWord o.name ∧ ∀ w ∈ o.clause, IsWord w

/-- What the reader keeps has the form of lines that were read. -/
def Place.IsRead (P : String → Prop) : Place → Prop
  | .outside pending => ∀ l ∈ pending, DescribingLine P l
  | .inside b => (∀ l ∈ b.description, DescribingLine P l) ∧ (∀ l ∈ b.fields, FieldLine P l) ∧
      b.opening.HasWords

variable {P : String → Prop} {l : String}

theorem DescribingLine.ne_empty (h : DescribingLine P l) : l ≠ "" := by
  rcases h.2 with h | h <;> exact LineClass.ne_empty_of_ofLine h (by simp)

theorem Opening.hasWords_ofLine (line : String) : (ofLine line).HasWords := by
  intro hkind
  obtain ⟨kind, hkind⟩ := Option.ne_none_iff_exists'.1 hkind
  have hwords : words line = kind.keyword :: (ofLine line).name :: (ofLine line).clause := by
    rw [← Opening.ofLine_eq_iff, ← hkind]
  refine ⟨isWord_of_mem_words (s := line) (by simp [hwords]), ?_⟩
  intro w hw
  exact isWord_of_mem_words (s := line) (by simp [hwords, hw])

namespace Place

variable {p : Place}

theorem IsRead.describe (h : p.IsRead P) (hl : DescribingLine P l) : (p.describe l).IsRead P := by
  have hlast : ∀ m ∈ [l], DescribingLine P m := List.forall_mem_singleton.2 hl
  cases p with
  | outside pending => exact List.forall_mem_append.2 ⟨h, hlast⟩
  | inside b => exact ⟨List.forall_mem_append.2 ⟨h.1, hlast⟩, h.2⟩

theorem IsRead.addPlain (h : p.IsRead P) (hl : FieldLine P l) : (p.addPlain l).IsRead P := by
  cases p with
  | outside pending => exact IsRead.describe (p := .outside pending) h ⟨hl.1, Or.inr hl.2⟩
  | inside b =>
      have hlast : ∀ m ∈ [l], FieldLine P m := List.forall_mem_singleton.2 hl
      exact ⟨h.1, List.forall_mem_append.2 ⟨h.2.1, hlast⟩, h.2.2⟩

theorem IsRead.handOver (h : p.IsRead P) (n : Nat) :
    ∀ m ∈ (p.handOver n).1, DescribingLine P m := by
  cases p with
  | outside pending => exact h
  | inside b =>
      cases hkind : b.opening.kind? with
      | none => simpa [Place.handOver, hkind] using h.1
      | some kind => simp [Place.handOver, hkind]

theorem IsRead.openBlock (h : p.IsRead P) (n : Nat) (line : String) :
    (p.openBlock n line).1.IsRead P := by
  exact ⟨h.handOver n, by simp, Opening.hasWords_ofLine line⟩

theorem IsRead.closeBlock (h : p.IsRead P) (n : Nat) :
    (p.closeBlock n).1.IsRead P ∧
      ∀ d ∈ (p.closeBlock n).2.filterMap Item.declaration?, d.IsRead P := by
  cases p with
  | outside pending => exact ⟨h, by simp [closeBlock_outside]⟩
  | inside b =>
      obtain ⟨hclosed, hdeclared⟩ := closeBlock_inside b n
      rw [hclosed, hdeclared]
      refine ⟨by simp [IsRead], ?_⟩
      intro d hd
      cases hkind : b.opening.kind? with
      | none => simp [hkind] at hd
      | some kind =>
          obtain rfl : d = b.declaration kind := by simpa [hkind] using hd
          obtain ⟨hname, hclause⟩ := h.2.2 (by simp [hkind])
          exact ⟨⟨hname, hclause⟩, h.1, h.2.1, rfl⟩

end Place

namespace Reader

theorem step_isRead {r : Reader} (hplace : r.place.IsRead P) (hl : P l) :
    (r.step l).1.place.IsRead P ∧
      ∀ d ∈ (r.step l).2.filterMap Item.declaration?, d.IsRead P := by
  cases h : LineClass.ofLine l with
  | blank =>
      rw [step_blank h]
      exact ⟨hplace, by simp⟩
  | comment =>
      cases hbody : r.inBody with
      | true =>
          rw [step_comment h hbody]
          exact ⟨hplace.describe ⟨hl, Or.inl h⟩, by simp⟩
      | false =>
          rw [step_header h hbody]
          exact ⟨hplace, by simp [Item.declaration?, List.filterMap_cons]⟩
  | opener =>
      obtain ⟨hafter, hitems⟩ := step_opener (r := r) h
      rw [hafter, hitems]
      exact ⟨hplace.openBlock _ l, by simp⟩
  | closer =>
      obtain ⟨hafter, hitems⟩ := step_closer (r := r) h
      rw [hafter, hitems]
      exact hplace.closeBlock _
  | plain =>
      obtain ⟨hafter, hitems⟩ := step_plain (r := r) h
      rw [hafter, hitems]
      exact ⟨hplace.addPlain ⟨hl, h⟩, by simp⟩

theorem run_isRead {r : Reader} {ls : List String} (hplace : r.place.IsRead P)
    (hls : ∀ l ∈ ls, P l) :
    (r.run ls).1.place.IsRead P ∧
      ∀ d ∈ (r.run ls).2.filterMap Item.declaration?, d.IsRead P := by
  induction ls generalizing r with
  | nil => exact ⟨hplace, by simp⟩
  | cons l ls ih =>
      obtain ⟨hplace', hitems⟩ := step_isRead hplace (hls l (by simp))
      obtain ⟨hlast, hrest⟩ := ih hplace' fun m hm => hls m (by simp [hm])
      rw [run_cons, List.filterMap_append]
      exact ⟨hlast, List.forall_mem_append.2 ⟨hitems, hrest⟩⟩

end Reader

/-- Every declaration of a text is handed on as an item. -/
theorem mem_items_of_mem_declarations {content : String} {d : Declaration}
    (hd : d ∈ (Schema.ofText content).declarations) :
    d ∈ (Reader.run {} (lines content)).2.filterMap Item.declaration? := by
  rw [declarations_ofText, Schema.declarations_foldl_insert] at hd
  obtain ⟨k, -, hk⟩ := List.mem_filterMap.1 hd
  obtain ⟨-, u, v, huv, -⟩ := lastWithKey_eq_some_iff.1 hk
  rw [huv]
  simp

/-- Every declaration of a text has the form of one that was read from its lines. -/
theorem isRead_of_mem_declarations {content : String} {d : Declaration}
    (hd : d ∈ (Schema.ofText content).declarations) : d.IsRead (· ∈ lines content) :=
  (Reader.run_isRead (r := {}) (by simp [Place.IsRead]) fun l hl => hl).2 d
    (mem_items_of_mem_declarations hd)

/-- A plain line of a text is one line when it is split again. -/
theorem flatMap_lines_of_fieldLine {content : String} {fields : List String}
    (h : ∀ l ∈ fields, FieldLine (· ∈ lines content) l) : fields.flatMap lines = fields := by
  refine flatMap_lines fun l hl => ?_
  obtain ⟨hmem, hplain⟩ := h l hl
  exact ⟨fun hbreak => (mem_of_mem_lines hmem hbreak).1 rfl,
    LineClass.ne_empty_of_ofLine hplain (by simp)⟩

theorem Declaration.IsRead.flatMap_lines_fields {content : String} {d : Declaration}
    (h : d.IsRead (· ∈ lines content)) : d.fields.flatMap lines = d.fields :=
  flatMap_lines_of_fieldLine h.fields

end SchemaSieve
