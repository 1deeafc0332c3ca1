import SchemaSieve.Schema.Reading
import SchemaSieve.Proofs.Storing

/-!
# What a reader hands on

A schema keeps the header, the scalars, the trailing lines and the declarations among the items of a
text, each in their order. What a line does depends on its class, and reading one part of a text
after another is reading the whole.
-/

namespace SchemaSieve

namespace Item

def header? : Item → Option String
  | header line => some line
  | _ => none

def declaration? : Item → Option Declaration
  | declaration d => some d
  | _ => none

def trailing? : Item → Option String
  | trailing line => some line
  | _ => none

end Item

namespace Schema

/-- A part to which every item adds what it hands on there gathers this in the order of the
items. -/
theorem foldl_add_of_add {f : Schema → List String} {g : Item → Option String}
    (h : ∀ s item, f (add s item) = f s ++ (g item).toList) (items : List Item) (s : Schema) :
    f (items.foldl add s) = f s ++ items.filterMap g := by
  induction items generalizing s with
  | nil => simp
  | cons item items ih =>
      rw [List.foldl_cons, ih, h, List.append_assoc]
      cases hitem : g item <;> simp [hitem]

theorem groups_foldl_add (items : List Item) (s : Schema) :
    (items.foldl add s).groups = ((items.filterMap Item.declaration?).foldl insert s).groups := by
  induction items generalizing s with
  | nil => rfl
  | cons item items ih =>
      rw [List.foldl_cons, ih]
      cases item <;> simp [add, groups_foldl_insert, Item.declaration?, List.filterMap_cons]

theorem header_foldl_add (items : List Item) (s : Schema) :
    (items.foldl add s).header = s.header ++ items.filterMap Item.header? := by
  refine foldl_add_of_add (f := header) ?_ items s
  intro s item
  cases item <;> simp [add, insert, put, Item.header?]

theorem header_ofItems (items : List Item) :
    (ofItems items).header = items.filterMap Item.header? :=
  header_foldl_add items {}

theorem trailing_foldl_add (items : List Item) (s : Schema) :
    (items.foldl add s).trailing = s.trailing ++ items.filterMap Item.trailing? := by
  refine foldl_add_of_add (f := trailing) ?_ items s
  intro s item
  cases item <;> simp [add, insert, put, Item.trailing?]

theorem trailing_ofItems (items : List Item) :
    (ofItems items).trailing = items.filterMap Item.trailing? :=
  trailing_foldl_add items {}

theorem declarations_ofItems (items : List Item) :
    (ofItems items).declarations
      = ((items.filterMap Item.declaration?).foldl insert {}).declarations := by
  rw [ofItems, declarations, groups_foldl_add, ← declarations]

end Schema

/-- An opening line is of one of the kinds when its first word stands for it and it has a second
word. -/
theorem Opening.ofLine_eq_iff {line : String} {kind : Kind} {name : String}
    {clause : List String} :
    ofLine line = ⟨some kind, name, clause⟩ ↔ Text.words line = kind.keyword :: name :: clause := by
  rw [ofLine]
  split
  · rename_i w name' clause' hwords
    simp [hwords, Kind.ofKeyword?_eq_some_iff]
  · rename_i hwords
    refine ⟨fun h => by simp at h, fun h => absurd h ?_⟩
    exact hwords _ _ _

namespace Place

theorem mem_finish {p : Place} {item : Item} (h : item ∈ p.finish) :
    (∃ line, item = .trailing line) ∨ ∃ remark, item = .remark remark := by
  cases p with
  | outside pending =>
      obtain ⟨line, -, rfl⟩ := List.mem_map.1 h
      exact Or.inl ⟨line, rfl⟩
  | inside b => exact Or.inr ⟨_, List.mem_singleton.1 h⟩

theorem filterMap_declaration?_finish (p : Place) : p.finish.filterMap Item.declaration? = [] := by
  rw [List.filterMap_eq_nil_iff]
  intro item hitem
  rcases mem_finish hitem with ⟨line, rfl⟩ | ⟨remark, rfl⟩ <;> rfl

theorem filterMap_header?_finish (p : Place) : p.finish.filterMap Item.header? = [] := by
  rw [List.filterMap_eq_nil_iff]
  intro item hitem
  rcases mem_finish hitem with ⟨line, rfl⟩ | ⟨remark, rfl⟩ <;> rfl

theorem mem_openBlock {p : Place} {n : Nat} {line : String} {item : Item}
    (h : item ∈ (p.openBlock n line).2) : ∃ remark, item = .remark remark := by
  rcases List.mem_append.1 h with h | h
  · rcases p with pending | ⟨⟨_ | kind, name, clause⟩, description, fields, inArguments⟩
    · simp [handOver] at h
    · simp [handOver] at h
    · exact ⟨_, List.mem_singleton.1 h⟩
  · split at h
    · exact ⟨_, List.mem_singleton.1 h⟩
    · simp at h

theorem mem_closeBlock {p : Place} {n : Nat} {item : Item} (h : item ∈ (p.closeBlock n).2) :
    (∃ remark, item = .remark remark) ∨ ∃ d, item = .declaration d := by
  have hremarks : ∀ {b : Bool} {remark : Remark},
      item ∈ (if b then [Item.remark remark] else []) → ∃ remark, item = .remark remark := by
    intro b remark h
    split at h
    · exact ⟨_, List.mem_singleton.1 h⟩
    · simp at h
  rcases p with pending | ⟨⟨_ | kind, name, clause⟩, description, fields, inArguments⟩
  · simp [closeBlock] at h
  · rcases List.mem_append.1 h with h | h
    · exact Or.inl (hremarks h)
    · exact Or.inl ⟨_, List.mem_singleton.1 h⟩
  · rcases List.mem_append.1 h with h | h
    · exact Or.inl (hremarks h)
    · rcases List.mem_cons.1 h with h | h
      · exact Or.inl ⟨_, h⟩
      · exact Or.inr ⟨_, List.mem_singleton.1 h⟩

theorem filterMap_declaration?_openBlock (p : Place) (n : Nat) (line : String) :
    (p.openBlock n line).2.filterMap Item.declaration? = [] := by
  rw [List.filterMap_eq_nil_iff]
  intro item hitem
  obtain ⟨remark, rfl⟩ := mem_openBlock hitem
  rfl

theorem closeBlock_outside (pending : List String) (n : Nat) :
    (outside pending).closeBlock n = (outside pending, []) := rfl

theorem closeBlock_inside (b : OpenBlock) (n : Nat) :
    ((inside b).closeBlock n).1 = outside [] ∧
      ((inside b).closeBlock n).2.filterMap Item.declaration?
        = (b.opening.kind?.map b.declaration).toList := by
  rcases b with ⟨⟨_ | kind, name, clause⟩, description, fields, _ | _⟩ <;> exact ⟨rfl, rfl⟩

end Place

theorem declarations_ofText (content : String) :
    (Schema.ofText content).declarations
      = (((Reader.run {} (Text.lines content)).2.filterMap Item.declaration?).foldl
          Schema.insert {}).declarations := by
  rw [Schema.ofText, Schema.declarations_ofItems, Item.ofText, List.filterMap_append,
    Place.filterMap_declaration?_finish, List.append_nil]

theorem exists_keyOrder_ofText (content : String) :
    ∃ ks, (Schema.ofText content).declarations.map Declaration.key = keyOrder ks := by
  rw [declarations_ofText, Schema.map_key_declarations_foldl_insert]
  exact ⟨_, rfl⟩

namespace Reader

variable {r : Reader} {line : String}

theorem step_blank (h : LineClass.ofLine line = .blank) :
    r.step line = ({ r with lineCount := r.lineCount + 1 }, []) := by
  simp [step, h]

theorem step_comment (h : LineClass.ofLine line = .comment) (hbody : r.inBody = true) :
    r.step line
      = ({ r with lineCount := r.lineCount + 1, place := r.place.describe line }, []) := by
  simp [step, h, hbody]

theorem step_header (h : LineClass.ofLine line = .comment) (hbody : r.inBody = false) :
    r.step line = ({ r with lineCount := r.lineCount + 1 }, [.header line]) := by
  simp [step, h, hbody]

theorem step_plain (h : LineClass.ofLine line = .plain) :
    (r.step line).1 = ⟨r.lineCount + 1, true, r.place.addPlain line⟩ ∧
      (r.step line).2.filterMap Item.declaration? = [] := by
  rw [step, h]
  refine ⟨by simp [visitBody, h], ?_⟩
  simp only [visitBody, h, List.append_nil]
  split <;> rfl

theorem step_opener (h : LineClass.ofLine line = .opener) :
    (r.step line).1
        = ⟨r.lineCount + 1, true, (r.place.openBlock (r.lineCount + 1) line).1⟩ ∧
      (r.step line).2.filterMap Item.declaration? = [] := by
  rw [step, h]
  refine ⟨by simp [visitBody, h], ?_⟩
  simp only [visitBody, h, List.filterMap_append, Place.filterMap_declaration?_openBlock,
    List.append_nil]
  split <;> rfl

theorem step_closer (h : LineClass.ofLine line = .closer) :
    (r.step line).1 = ⟨r.lineCount + 1, true, (r.place.closeBlock (r.lineCount + 1)).1⟩ ∧
      (r.step line).2.filterMap Item.declaration?
        = (r.place.closeBlock (r.lineCount + 1)).2.filterMap Item.declaration? := by
  rw [step, h]
  refine ⟨by simp [visitBody, h], ?_⟩
  simp only [visitBody, h, List.filterMap_append]
  split <;> rfl

theorem mem_visitBody {n : Nat} {p : Place} {item : Item} (h : item ∈ (visitBody n line p).2) :
    (∃ remark, item = .remark remark) ∨ ∃ d, item = .declaration d := by
  unfold visitBody at h
  split at h
  · exact Or.inl (Place.mem_openBlock h)
  · exact Place.mem_closeBlock h
  · simp at h

theorem step_body (hblank : LineClass.ofLine line ≠ .blank)
    (hcomment : LineClass.ofLine line ≠ .comment) :
    r.step line
      = (⟨r.lineCount + 1, true, (visitBody (r.lineCount + 1) line r.place).1⟩,
          (if LineClass.isScalar line then [.scalar line] else [])
            ++ (visitBody (r.lineCount + 1) line r.place).2) := by
  rw [step]
  split
  · contradiction
  · contradiction
  · rfl

/-- A line that is neither blank nor a comment is read in the same way ahead of the body. -/
theorem step_start (hblank : LineClass.ofLine line ≠ .blank)
    (hcomment : LineClass.ofLine line ≠ .comment) :
    r.step line = { r with inBody := true }.step line := by
  rw [step_body hblank hcomment, step_body hblank hcomment]

/-- A line is handed on as part of the header, as a scalar, in remarks or as the end of a
declaration. -/
theorem mem_step {item : Item} (h : item ∈ (r.step line).2) :
    (r.inBody = false ∧ item = .header line) ∨ item = .scalar line ∨
      (∃ remark, item = .remark remark) ∨ ∃ d, item = .declaration d := by
  cases hclass : LineClass.ofLine line with
  | blank => simp [step_blank hclass] at h
  | comment =>
      cases hbody : r.inBody with
      | true => simp [step_comment hclass hbody] at h
      | false =>
          rw [step_header hclass hbody] at h
          exact Or.inl ⟨rfl, List.mem_singleton.1 h⟩
  | opener | closer | plain =>
      rw [step_body (by simp [hclass]) (by simp [hclass])] at h
      rcases List.mem_append.1 h with h | h
      · split at h
        · exact Or.inr (Or.inl (List.mem_singleton.1 h))
        · simp at h
      · exact Or.inr (Or.inr (mem_visitBody h))

theorem step_inBody (h : r.inBody = true) :
    (r.step line).1.inBody = true ∧ (r.step line).2.filterMap Item.header? = [] := by
  constructor
  · cases hclass : LineClass.ofLine line with
    | blank => simp [step_blank hclass, h]
    | comment => simp [step_comment hclass h, h]
    | opener | closer | plain => rw [step_body (by simp [hclass]) (by simp [hclass])]
  · rw [List.filterMap_eq_nil_iff]
    intro item hitem
    rcases mem_step hitem with ⟨hbody, -⟩ | rfl | ⟨remark, rfl⟩ | ⟨d, rfl⟩
    · rw [h] at hbody
      cases hbody
    · rfl
    · rfl
    · rfl

theorem filterMap_trailing?_step (r : Reader) (line : String) :
    (r.step line).2.filterMap Item.trailing? = [] := by
  rw [List.filterMap_eq_nil_iff]
  intro item hitem
  rcases mem_step hitem with ⟨-, rfl⟩ | rfl | ⟨remark, rfl⟩ | ⟨d, rfl⟩ <;> rfl

@[simp] theorem run_nil (r : Reader) : r.run [] = (r, []) := rfl

theorem run_cons (r : Reader) (line : String) (ls : List String) :
    r.run (line :: ls)
      = (((r.step line).1.run ls).1, (r.step line).2 ++ ((r.step line).1.run ls).2) := rfl

theorem run_append (r : Reader) (a b : List String) :
    r.run (a ++ b)
      = (((r.run a).1.run b).1, (r.run a).2 ++ ((r.run a).1.run b).2) := by
  induction a generalizing r with
  | nil => rfl
  | cons line a ih => rw [List.cons_append, run_cons, ih, run_cons, List.append_assoc]

theorem run_concat (r : Reader) (ls : List String) (line : String) :
    r.run (ls ++ [line])
      = (((r.run ls).1.step line).1, (r.run ls).2 ++ ((r.run ls).1.step line).2) := by
  rw [run_append, run_cons, run_nil, List.append_nil]

theorem run_inBody (h : r.inBody = true) (ls : List String) :
    (r.run ls).1.inBody = true ∧ (r.run ls).2.filterMap Item.header? = [] := by
  induction ls generalizing r with
  | nil => exact ⟨h, rfl⟩
  | cons line ls ih =>
      obtain ⟨hinBody, hheader⟩ := @step_inBody r line h
      obtain ⟨hinBody', hheader'⟩ := ih hinBody
      rw [run_cons, List.filterMap_append, hheader, hheader']
      exact ⟨hinBody', rfl⟩

theorem lineCount_step (r : Reader) (l : String) : (r.step l).1.lineCount = r.lineCount + 1 := by
  cases hclass : LineClass.ofLine l with
  | blank => rw [step_blank hclass]
  | comment =>
      cases hbody : r.inBody with
      | true => rw [step_comment hclass hbody]
      | false => rw [step_header hclass hbody]
  | opener | closer | plain => rw [step_body (by simp [hclass]) (by simp [hclass])]

theorem lineCount_run (r : Reader) (ls : List String) :
    (r.run ls).1.lineCount = r.lineCount + ls.length := by
  induction ls generalizing r with
  | nil => rfl
  | cons l ls ih =>
      rw [run_cons, ih, lineCount_step, List.length_cons, Nat.add_assoc, Nat.add_comm 1]

/-- Whatever is handed on is handed on at some line, by the reader of the lines ahead of it. -/
theorem mem_run_iff {item : Item} (r : Reader) (ls : List String) :
    item ∈ (r.run ls).2 ↔
      ∃ j l, ls[j]? = some l ∧ item ∈ ((r.run (ls.take j)).1.step l).2 := by
  induction ls generalizing r with
  | nil => simp
  | cons m ls ih =>
      rw [run_cons, List.mem_append, ih]
      constructor
      · rintro (h | ⟨j, l, hl, h⟩)
        · exact ⟨0, m, rfl, h⟩
        · exact ⟨j + 1, l, hl, h⟩
      · rintro ⟨_ | j, l, hl, h⟩
        · obtain rfl : m = l := Option.some.inj hl
          exact Or.inl h
        · exact Or.inr ⟨j, l, hl, h⟩

theorem filterMap_trailing?_run (r : Reader) (ls : List String) :
    (r.run ls).2.filterMap Item.trailing? = [] := by
  induction ls generalizing r with
  | nil => rfl
  | cons line ls ih =>
      rw [run_cons, List.filterMap_append, filterMap_trailing?_step, ih, List.append_nil]

end Reader

theorem header_ofText (content : String) :
    (Schema.ofText content).header
      = (Reader.run {} (Text.lines content)).2.filterMap Item.header? := by
  rw [Schema.ofText, Schema.header_ofItems, Item.ofText, List.filterMap_append,
    Place.filterMap_header?_finish, List.append_nil]

theorem trailing_ofText {content : String} {pending : List String}
    (h : (Reader.run {} (Text.lines content)).1.place = .outside pending) :
    (Schema.ofText content).trailing = pending := by
  rw [Schema.ofText, Schema.trailing_ofItems, Item.ofText, List.filterMap_append,
    Reader.filterMap_trailing?_run, List.nil_append, h]
  simp [Place.finish, Item.trailing?, List.filterMap_map, Function.comp_def]

/-- A block that is left open leaves nothing over. -/
theorem trailing_ofText_of_inside {content : String} {b : OpenBlock}
    (h : (Reader.run {} (Text.lines content)).1.place = .inside b) :
    (Schema.ofText content).trailing = [] := by
  rw [Schema.ofText, Schema.trailing_ofItems, Item.ofText, List.filterMap_append,
    Reader.filterMap_trailing?_run, h]
  rfl

end SchemaSieve
