import SchemaSieve.Proofs.Passing

/-!
# Filters entry by entry

A filter looks at one entry of a declaration at a time, and leaves an entry or none of it. So what
filters leave of the fields is what they leave of each entry alone, one after the other; the lines
that they add depend on the kind and the name of the declaration only.
-/

namespace SchemaSieve

/-- An entry of a declaration, as filters see it. -/
def Declaration.field (d : Declaration) (line : String) : Field := ⟨d.kind, d.name, line⟩

/-- The new line of an entry, if the selector selects it. -/
def Selector.newLine? (s : Selector) (edit : Edit) (field : Field) :
    Except String (Option String) :=
  if s.selects field then (edit.run field).map some else .ok none

/-- What an action makes of an entry: an entry, or none. -/
def Action.onEntry (field : Field) : Action → Except String (Option String)
  | add _ => .ok (some field.line)
  | describe s text =>
    (s.newLine? (.wrap (some (descriptionLine text)) none) field).map fun new? =>
      some (new?.getD field.line)
  | remove invert test =>
    (test.run field).map fun b => if b == !invert then none else some field.line
  | edit s e => (s.newLine? e field).map fun new? => some (new?.getD field.line)

theorem Except.exists_of_map_eq_ok {α β ε : Type} {g : α → β} {x : Except ε α} {b : β}
    (h : x.map g = .ok b) : ∃ a, x = .ok a ∧ g a = b := by
  cases x with
  | error e => cases h
  | ok a => exact ⟨a, rfl, Except.ok.inj h⟩

theorem Except.eq_error_of_map_eq_error {α β ε : Type} {g : α → β} {x : Except ε α} {e : ε}
    (h : x.map g = .error e) : x = .error e := by
  cases x with
  | error e' => exact congrArg Except.error (Except.error.inj h)
  | ok a => cases h

/-- A function has a value at every member of a list, or fails at a first one. -/
theorem forall_ok_or_exists_error {α β ε : Type} (g : α → Except ε β) (as : List α) :
    (∀ a ∈ as, ∃ b, g a = .ok b) ∨
      ∃ done a rest e, as = done ++ a :: rest ∧ (∀ m ∈ done, ∃ b, g m = .ok b) ∧
        g a = .error e := by
  induction as with
  | nil => exact Or.inl (by simp)
  | cons a as ih =>
      cases ha : g a with
      | error e => exact Or.inr ⟨[], a, as, e, rfl, by simp, ha⟩
      | ok b =>
          rcases ih with hall | ⟨done, a', rest, e, rfl, hdone, ha'⟩
          · exact Or.inl (List.forall_mem_cons.2 ⟨⟨b, ha⟩, hall⟩)
          · exact Or.inr ⟨a :: done, a', rest, e, rfl, List.forall_mem_cons.2 ⟨⟨b, ha⟩, hdone⟩,
              ha'⟩

namespace Filter

variable {f : Filter} {d : Declaration} {done rest : List String} {l reason : String}

/-- What a filter makes of an entry, whose declaration it may be for or not. -/
def onEntry (f : Filter) (field : Field) : Except String (Option String) :=
  if f.appliesTo field.kind field.declaration then f.action.onEntry field
  else .ok (some field.line)

theorem onEntry_of_appliesTo (h : f.appliesTo d.kind d.name = true) (l : String) :
    f.onEntry (d.field l) = f.action.onEntry (d.field l) := if_pos h

theorem onEntry_of_not_appliesTo (h : ¬f.appliesTo d.kind d.name = true) (l : String) :
    f.onEntry (d.field l) = .ok (some l) := if_neg h

/-- The line that a filter adds to a declaration of a kind and a name. -/
def addedLine? (f : Filter) (kind : Kind) (name : String) : Option String :=
  match f.action with
  | .add line => if f.appliesTo kind name then some line else none
  | _ => none

theorem additions_effect (f : Filter) (d : Declaration) :
    (f.effect d).declaration.additions = d.additions ++ (f.addedLine? d.kind d.name).toList := by
  rw [effect, addedLine?]
  split <;> cases f.action <;> simp [act, editFields, removeFields]

theorem field_effect (f : Filter) (d : Declaration) (l : String) :
    (f.effect d).declaration.field l = d.field l := by
  rw [Declaration.field, kind_effect, name_effect]
  rfl

theorem editLines_append {edit : String → Except String (Option String)}
    {left : String → Option String}
    (h : ∀ l ∈ done, (edit l).map (fun new? => some (new?.getD l)) = .ok (left l))
    (rest : List String) :
    editLines edit (done ++ rest)
      = (done.filterMap left ++ (editLines edit rest).1, (editLines edit rest).2) := by
  induction done with
  | nil => rfl
  | cons l done ih =>
      obtain ⟨new?, hedit, hleft⟩ := Except.exists_of_map_eq_ok (h l List.mem_cons_self)
      have hrest := ih fun m hm => h m (List.mem_cons_of_mem l hm)
      rw [List.cons_append, editLines, hedit, List.filterMap_cons, ← hleft]
      simp only [hrest, List.cons_append]

theorem sortLines_append {removes : String → Except String Bool} {gone : String → Bool}
    (h : ∀ l ∈ done, removes l = .ok (gone l)) (rest : List String) :
    sortLines removes (done ++ rest)
      = { kept := done.filter (!gone ·) ++ (sortLines removes rest).kept
          removed := done.filter gone ++ (sortLines removes rest).removed
          failure? := (sortLines removes rest).failure? } := by
  induction done with
  | nil => rfl
  | cons l done ih =>
      have hrest := ih fun m hm => h m (List.mem_cons_of_mem l hm)
      rw [List.cons_append, sortLines, h l List.mem_cons_self]
      cases hgone : gone l <;> simp [hgone, hrest]

theorem editFields_eq (s : Selector) (edit : Edit) (d : Declaration) :
    editFields s edit d
      = { declaration :=
            { d with fields := (editLines (fun l => s.newLine? edit (d.field l)) d.fields).1 }
          failure? := (editLines (fun l => s.newLine? edit (d.field l)) d.fields).2 } := rfl

theorem removeFields_eq (invert : Bool) (test : FieldTest) (d : Declaration) :
    let r := sortLines (fun l => (test.run (d.field l)).map (· == !invert)) d.fields
    removeFields invert test d
      = { declaration := { d with fields := if r.failure?.isSome then [] else r.kept }
          removed := r.removed
          failure? := r.failure? } := rfl

theorem editFields_of_ok {s : Selector} {edit : Edit} {left : String → Option String}
    (h : ∀ l ∈ d.fields, (s.newLine? edit (d.field l)).map (fun new? => some (new?.getD l))
      = .ok (left l)) :
    (editFields s edit d).failure? = none ∧
      (editFields s edit d).declaration.fields = d.fields.filterMap left := by
  have happend := editLines_append h []
  rw [List.append_nil] at happend
  rw [editFields_eq, happend]
  exact ⟨rfl, List.append_nil _⟩

theorem editFields_of_error {s : Selector} {edit : Edit} {left : String → Option String}
    (hfields : d.fields = done ++ l :: rest)
    (hdone : ∀ m ∈ done, (s.newLine? edit (d.field m)).map (fun new? => some (new?.getD m))
      = .ok (left m))
    (hl : s.newLine? edit (d.field l) = .error reason) :
    (editFields s edit d).failure? = some reason ∧
      (editFields s edit d).declaration.fields = done.filterMap left ++ l :: rest := by
  rw [editFields_eq, hfields, editLines_append hdone (l :: rest), editLines, hl]
  exact ⟨rfl, rfl⟩

/-- A decision to remove an entry, read off what is left of it. -/
theorem run_of_left {invert : Bool} {test : FieldTest} {field : Field} {left? : Option String}
    (h : (test.run field).map (fun b => if b == !invert then none else some l) = .ok left?) :
    (test.run field).map (· == !invert) = .ok left?.isNone ∧
      (if !left?.isNone then some l else none) = left? := by
  obtain ⟨b, hrun, rfl⟩ := Except.exists_of_map_eq_ok h
  rw [hrun]
  cases hb : b == !invert <;> simp [Except.map, hb]

theorem removeFields_of_ok {invert : Bool} {test : FieldTest} {left : String → Option String}
    (h : ∀ l ∈ d.fields, (test.run (d.field l)).map (fun b =>
      if b == !invert then none else some l) = .ok (left l)) :
    (removeFields invert test d).failure? = none ∧
      (removeFields invert test d).declaration.fields = d.fields.filterMap left := by
  have happend := sortLines_append (fun l hl => (run_of_left (h l hl)).1) []
  rw [List.append_nil] at happend
  rw [removeFields_eq, happend]
  refine ⟨rfl, ?_⟩
  simp only [sortLines, Option.isSome_none, Bool.false_eq_true, if_false, List.append_nil]
  rw [← List.filterMap_eq_filter]
  exact List.filterMap_congr fun l hl => by simpa [Option.guard] using (run_of_left (h l hl)).2

theorem removeFields_of_error {invert : Bool} {test : FieldTest} {left : String → Option String}
    (hfields : d.fields = done ++ l :: rest)
    (hdone : ∀ m ∈ done, (test.run (d.field m)).map (fun b =>
      if b == !invert then none else some m) = .ok (left m))
    (hl : test.run (d.field l) = .error reason) :
    (removeFields invert test d).failure? = some reason := by
  rw [removeFields_eq, hfields,
    sortLines_append (fun m hm => (run_of_left (hdone m hm)).1) (l :: rest), sortLines, hl]
  rfl

/-- A filter that has something to leave of every entry leaves this of the fields. -/
theorem effect_of_ok {left : String → Option String}
    (h : ∀ l ∈ d.fields, f.onEntry (d.field l) = .ok (left l)) :
    (f.effect d).failure? = none ∧
      (f.effect d).declaration.fields = d.fields.filterMap left := by
  have hkept : (∀ l ∈ d.fields, left l = some l) → d.fields = d.fields.filterMap left := by
    intro hleft
    rw [List.filterMap_congr hleft, List.filterMap_some]
  by_cases happlies : f.appliesTo d.kind d.name = true
  · have hentry : ∀ l ∈ d.fields, f.action.onEntry (d.field l) = .ok (left l) := fun l hl =>
      (onEntry_of_appliesTo happlies l).symm.trans (h l hl)
    rw [effect, if_pos happlies]
    cases haction : f.action with
    | add line =>
        rw [haction] at hentry
        exact ⟨rfl, hkept fun l hl => (Except.ok.inj (hentry l hl)).symm⟩
    | describe s text =>
        rw [haction] at hentry
        exact editFields_of_ok hentry
    | remove invert test =>
        rw [haction] at hentry
        exact removeFields_of_ok hentry
    | edit s edit =>
        rw [haction] at hentry
        exact editFields_of_ok hentry
  · rw [effect, if_neg happlies]
    refine ⟨rfl, hkept fun l hl => ?_⟩
    have hentry := h l hl
    rw [onEntry_of_not_appliesTo happlies] at hentry
    exact (Except.ok.inj hentry).symm

/-- A filter that fails at an entry fails for the reason that it has there. -/
theorem effect_of_error {left : String → Option String} (hfields : d.fields = done ++ l :: rest)
    (hdone : ∀ m ∈ done, f.onEntry (d.field m) = .ok (left m))
    (hl : f.onEntry (d.field l) = .error reason) :
    (f.effect d).failure? = some reason := by
  by_cases happlies : f.appliesTo d.kind d.name = true
  · simp only [onEntry_of_appliesTo happlies] at hdone hl
    rw [effect, if_pos happlies]
    cases haction : f.action with
    | add line =>
        rw [haction] at hl
        cases hl
    | describe s text =>
        rw [haction] at hdone hl
        exact (editFields_of_error hfields hdone (Except.eq_error_of_map_eq_error hl)).1
    | remove invert test =>
        rw [haction] at hdone hl
        exact removeFields_of_error hfields hdone (Except.eq_error_of_map_eq_error hl)
    | edit s edit =>
        rw [haction] at hdone hl
        exact (editFields_of_error hfields hdone (Except.eq_error_of_map_eq_error hl)).1
  · rw [onEntry_of_not_appliesTo happlies] at hl
    cases hl

/-- What is left of an entry, if there is something to leave. -/
def entryLeft (f : Filter) (field : Field) : Option String := (f.onEntry field).toOption.join

theorem onEntry_eq_ok_iff {field : Field} :
    f.onEntry field = .ok (f.entryLeft field) ↔ ∃ left?, f.onEntry field = .ok left? := by
  refine ⟨fun h => ⟨_, h⟩, ?_⟩
  rintro ⟨left?, h⟩
  rw [entryLeft, h]
  cases left? <;> rfl

/-- A filter does not fail just when it has something to leave of every entry. -/
theorem failure?_effect_eq_none_iff :
    (f.effect d).failure? = none ↔ ∀ l ∈ d.fields, ∃ left?, f.onEntry (d.field l) = .ok left? := by
  constructor
  · intro h
    rcases forall_ok_or_exists_error (fun l => f.onEntry (d.field l)) d.fields with
      hall | ⟨done, l, rest, reason, hfields, hdone, hl⟩
    · exact hall
    · have herror := effect_of_error hfields (fun m hm => onEntry_eq_ok_iff.2 (hdone m hm)) hl
      rw [h] at herror
      cases herror
  · exact fun h => (effect_of_ok fun l hl => onEntry_eq_ok_iff.2 (h l hl)).1

end Filter

namespace Pipeline

variable {fs gs : List Filter} {f : Filter} {d e : Declaration}

/-- What filters make of an entry one after another. -/
def onEntry : List Filter → Field → Except String (Option String)
  | [], field => .ok (some field.line)
  | f :: fs, field =>
    match f.onEntry field with
    | .ok (some line) => onEntry fs { field with line }
    | r => r

def entryLeft (fs : List Filter) (field : Field) : Option String :=
  (onEntry fs field).toOption.join

theorem leaves?_cons_eq_some_iff :
    leaves? (f :: fs) d = some e ↔
      (f.effect d).failure? = none ∧ leaves? fs (f.effect d).declaration = some e := by
  rw [leaves?_cons]
  cases (f.effect d).failure? <;> simp

theorem additions_of_leaves? (h : leaves? fs d = some e) :
    e.additions = d.additions ++ fs.filterMap (·.addedLine? d.kind d.name) := by
  induction fs generalizing d with
  | nil =>
      rw [leaves?_nil] at h
      obtain rfl := Option.some.inj h
      simp
  | cons f fs ih =>
      obtain ⟨-, hrest⟩ := leaves?_cons_eq_some_iff.1 h
      rw [ih hrest, f.additions_effect, f.kind_effect, f.name_effect, List.append_assoc]
      cases hadded : f.addedLine? d.kind d.name <;> simp [hadded]

theorem sameOpening_of_leaves? (h : leaves? fs d = some e) : d.SameOpening e := by
  obtain ⟨-, rfl⟩ := (leaves?_eq_some_iff (p := {}) rfl 0).1 h
  exact runOn_of_effect Declaration.SameOpening.refl Declaration.SameOpening.trans
    (fun f _ d => f.sameOpening_effect d) 0 {} d

theorem onEntry_eq_ok_iff {field : Field} :
    onEntry fs field = .ok (entryLeft fs field) ↔ ∃ left?, onEntry fs field = .ok left? := by
  refine ⟨fun h => ⟨_, h⟩, ?_⟩
  rintro ⟨left?, h⟩
  rw [entryLeft, h]
  cases left? <;> rfl

theorem onEntry_cons_of_some {field : Field} {line : String}
    (h : f.onEntry field = .ok (some line)) :
    onEntry (f :: fs) field = onEntry fs { field with line } := by
  rw [onEntry, h]

theorem onEntry_cons_of_none {field : Field} (h : f.onEntry field = .ok none) :
    onEntry (f :: fs) field = .ok none := by
  rw [onEntry, h]

/-- Where each filter keeps an entry as it is or leaves nothing of it, the entry stays if all of them
keep it. -/
theorem onEntry_of_forall {field : Field} {goes : Filter → Bool}
    (h : ∀ f ∈ fs, f.onEntry field = .ok (if goes f then none else some field.line)) :
    onEntry fs field = .ok (if fs.any goes then none else some field.line) := by
  induction fs with
  | nil => rfl
  | cons f fs ih =>
      obtain ⟨hf, hfs⟩ := List.forall_mem_cons.1 h
      rw [List.any_cons]
      cases hgoes : goes f with
      | true =>
          rw [hgoes] at hf
          exact onEntry_cons_of_none hf
      | false =>
          rw [hgoes] at hf
          rw [onEntry_cons_of_some hf, Bool.false_or]
          exact ih hfs

/-- Filters that have something to leave of an entry do so one by one. -/
theorem exists_onEntry_of_cons {field : Field} (h : ∃ left?, onEntry (f :: fs) field = .ok left?) :
    ∃ left?, f.onEntry field = .ok left? := by
  obtain ⟨left?, h⟩ := h
  cases hf : f.onEntry field with
  | error reason =>
      rw [onEntry, hf] at h
      cases h
  | ok new? => exact ⟨new?, rfl⟩

theorem entryLeft_cons {field : Field} :
    entryLeft (f :: fs) field
      = (f.entryLeft field).bind fun line => entryLeft fs { field with line } := by
  rw [entryLeft, Filter.entryLeft]
  cases hf : f.onEntry field with
  | error reason => rw [onEntry, hf]; rfl
  | ok new? =>
      cases new? with
      | none => rw [onEntry_cons_of_none hf]; rfl
      | some line => rw [onEntry_cons_of_some hf]; rfl

/-- Filters do not fail at a declaration just when they have something to leave of each of its
entries alone. -/
theorem exists_leaves?_iff :
    (∃ e, leaves? fs d = some e) ↔ ∀ l ∈ d.fields, ∃ left?, onEntry fs (d.field l) = .ok left? := by
  induction fs generalizing d with
  | nil => simp [onEntry]
  | cons f fs ih =>
      simp only [leaves?_cons_eq_some_iff, exists_and_left, ih, f.field_effect,
        Filter.failure?_effect_eq_none_iff]
      constructor
      · rintro ⟨hfirst, hrest⟩ l hl
        have hfields := (Filter.effect_of_ok fun l hl =>
          Filter.onEntry_eq_ok_iff.2 (hfirst l hl)).2
        obtain ⟨new?, hnew⟩ := hfirst l hl
        cases new? with
        | none => exact ⟨none, onEntry_cons_of_none hnew⟩
        | some line =>
            rw [onEntry_cons_of_some hnew]
            refine hrest line ?_
            rw [hfields, List.mem_filterMap]
            refine ⟨l, hl, ?_⟩
            rw [Filter.entryLeft, hnew]
            rfl
      · intro h
        have hfirst := fun l hl => exists_onEntry_of_cons (h l hl)
        have hfields := (Filter.effect_of_ok fun l hl =>
          Filter.onEntry_eq_ok_iff.2 (hfirst l hl)).2
        refine ⟨hfirst, fun line hline => ?_⟩
        rw [hfields, List.mem_filterMap] at hline
        obtain ⟨l, hl, hline⟩ := hline
        have hnew := Filter.onEntry_eq_ok_iff.2 (hfirst l hl)
        rw [hline] at hnew
        have hall := h l hl
        rw [onEntry_cons_of_some hnew] at hall
        exact hall

/-- What filters leave of the fields is what they leave of each entry alone. -/
theorem fields_of_leaves? (h : leaves? fs d = some e) :
    e.fields = d.fields.filterMap fun l => entryLeft fs (d.field l) := by
  induction fs generalizing d with
  | nil =>
      rw [leaves?_nil] at h
      obtain rfl := Option.some.inj h
      exact List.filterMap_some.symm
  | cons f fs ih =>
      obtain ⟨hfirst, hrest⟩ := leaves?_cons_eq_some_iff.1 h
      have hfields := (Filter.effect_of_ok fun l hl =>
        Filter.onEntry_eq_ok_iff.2 (Filter.failure?_effect_eq_none_iff.1 hfirst l hl)).2
      simp only [ih hrest, f.field_effect, hfields, List.filterMap_filterMap, entryLeft_cons]
      rfl

/-- Filters that leave each entry as it is or take it away leave some of the fields. -/
theorem fields_eq_filter {goes : String → Bool}
    (hentry : ∀ l, onEntry fs (d.field l) = .ok (if goes l then none else some l))
    (h : leaves? fs d = some e) : e.fields = d.fields.filter (!goes ·) := by
  rw [fields_of_leaves? h, ← List.filterMap_eq_filter]
  refine List.filterMap_congr fun l _ => ?_
  rw [entryLeft, hentry, Option.guard_apply]
  change (if goes l then none else some l) = _
  cases goes l <;> rfl

end Pipeline

/-- A schema that holds one entry alone, in a declaration of its kind and name. -/
def Schema.ofField (field : Field) : Schema :=
  ({} : Schema).insert { kind := field.kind, name := field.declaration, fields := [field.line] }

namespace Pipeline

variable {fs gs : List Filter} {d e : Declaration}

/-- The body of a declaration after some filters: the lines that they add, and what they leave of
each entry alone. -/
structure LeavesByEntry (fs : List Filter) (d e : Declaration) : Prop where
  opening : d.SameOpening e
  additions : e.additions = d.additions ++ fs.filterMap (·.addedLine? d.kind d.name)
  fields : ∃ alone : String → Schema,
    (∀ l ∈ d.fields, apply fs (Schema.ofField (d.field l)) = .ok (alone l)) ∧
      e.fields = d.fields.flatMap fun l => (alone l).declarations.flatMap Declaration.fields

theorem exists_apply_ofField {field : Field} (h : ∃ left?, onEntry fs field = .ok left?) :
    ∃ t, apply fs (Schema.ofField field) = .ok t ∧
      t.declarations.flatMap Declaration.fields = (entryLeft fs field).toList := by
  have hleaves : ∃ e, leaves? fs ⟨field.kind, field.declaration, [], [], [], [field.line]⟩
      = some e := exists_leaves?_iff.2 (List.forall_mem_singleton.2 h)
  obtain ⟨e, he⟩ := hleaves
  obtain ⟨t, ht, hdeclarations⟩ := exists_apply_eq_ok (s := Schema.ofField field)
    (List.Forall₂.cons he List.Forall₂.nil)
  refine ⟨t, ht, ?_⟩
  rw [hdeclarations, List.flatMap_singleton, fields_of_leaves? he]
  change List.filterMap (fun l => entryLeft fs ⟨field.kind, field.declaration, l⟩) [field.line] = _
  cases hleft : entryLeft fs field <;> simp [hleft]

theorem leavesByEntry (h : leaves? fs d = some e) : LeavesByEntry fs d e := by
  refine ⟨sameOpening_of_leaves? h, additions_of_leaves? h, ?_⟩
  have halone := exists_leaves?_iff.1 ⟨e, h⟩
  have hschema : ∀ l, ∃ t, l ∈ d.fields → apply fs (Schema.ofField (d.field l)) = .ok t ∧
      t.declarations.flatMap Declaration.fields = (entryLeft fs (d.field l)).toList := by
    intro l
    by_cases hl : l ∈ d.fields
    · obtain ⟨t, ht⟩ := exists_apply_ofField (halone l hl)
      exact ⟨t, fun _ => ht⟩
    · exact ⟨{}, fun h => absurd h hl⟩
  choose alone halone using hschema
  refine ⟨alone, fun l hl => (halone l hl).1, ?_⟩
  rw [fields_of_leaves? h, List.filterMap_eq_flatMap_toList]
  exact List.flatMap_congr fun l hl => (halone l hl).2.symm

/-- Filters run in two parts as they do at once, and entry by entry: what they leave of the fields
of a declaration is what they leave of each entry alone, in the order of the entries. -/
theorem apply_append_and_leavesByEntry (fs gs : List Filter) (s : Schema) :
    (∀ u, apply (fs ++ gs) s = .ok u ↔ ∃ t, apply fs s = .ok t ∧ apply gs t = .ok u) ∧
      ∀ t, apply fs s = .ok t →
        s.SameFrame t ∧ List.Forall₂ (LeavesByEntry fs) s.declarations t.declarations := by
  refine ⟨fun u => apply_append_eq_ok_iff, fun t ht => ?_⟩
  obtain ⟨hframe, hleaves⟩ := apply_eq_ok_iff_forall₂.1 ht
  exact ⟨hframe, hleaves.imp fun d e he => leavesByEntry he⟩

/-- A line is added, a field is described and made longer, and one is removed, in two parts. -/
theorem leavesByEntry_of_described_field :
    let s := Schema.ofText "type A \x7b\n  id: ID\n  name: String\n\x7d\n"
    let name : Selector := { fieldName := some (.exact ["name"]) }
    let fs : List Filter := [{ action := .add "  first: Int", kind := some .type },
      { action := .describe name "the name" }]
    let longer : Edit := .custom fun field => .ok (field.line ++ "!")
    let gs : List Filter := [{ action := .edit name longer },
      { action := .remove true (.selector name) }]
    let t := (run (fs ++ gs) s).1
    (∃ u, apply fs s = .ok u ∧ apply gs u = .ok t) ∧
      List.Forall₂ (LeavesByEntry (fs ++ gs)) s.declarations t.declarations ∧
      t.declarations = [{ kind := .type, name := "A", additions := ["  first: Int"],
                          fields := ["  \"\"\"the name\"\"\"\n  name: String!"] }] := by
  intro s name fs longer gs t
  have happly : apply (fs ++ gs) s = .ok t := apply_eq_ok_iff.2 ⟨by decide +kernel, rfl⟩
  exact ⟨((apply_append_and_leavesByEntry fs gs s).1 t).1 happly,
    ((apply_append_and_leavesByEntry (fs ++ gs) [] s).2 t happly).2, by decide +kernel⟩

end Pipeline

end SchemaSieve
