import SchemaSieve.Proofs.Failing

/-!
# What filters tell and what they do

`Filter.matchesField` tells of a field whether a filter is about it, and `Filter.effect` goes
through the fields on its own account. `actsAsTold_and_narrows` says that the two agree: what
becomes of a field is told by the action and by `matchesField`. For a field whose declaration the
filter is not for, `matchesField` tells `false`; a removal that takes away what it tells `false` of
must ask for the declaration too.
-/

namespace SchemaSieve

namespace Filter

variable {f : Filter} {d e : Declaration} {field : Field}

/-- Whether the filter takes a field away: it removes fields, it is for the declaration, and what it
tells of the field is not `invert`. -/
def takesAway (f : Filter) (field : Field) : Bool :=
  match f.action with
  | .remove invert _ =>
    f.appliesTo field.kind field.declaration && (f.matchesField field).toOption == some !invert
  | _ => false

theorem matchesField_of_appliesTo (h : f.appliesTo field.kind field.declaration = true) :
    f.matchesField field = f.action.selects field := if_pos h

theorem matchesField_of_not_appliesTo (h : ¬f.appliesTo field.kind field.declaration = true) :
    f.matchesField field = .ok false := if_neg h

theorem toOption_eq_some_iff {α ε : Type} {x : Except ε α} {a : α} :
    x.toOption = some a ↔ x = .ok a := by
  cases x <;> simp [Except.toOption]

theorem takesAway_iff_of_remove {invert : Bool} {test : FieldTest}
    (haction : f.action = .remove invert test) :
    f.takesAway field = true ↔
      f.appliesTo field.kind field.declaration = true ∧ f.matchesField field = .ok !invert := by
  rw [takesAway, haction, Bool.and_eq_true, beq_iff_eq, toOption_eq_some_iff]

/-- A filter leaves nothing of just those fields that it takes away. -/
theorem onEntry_eq_none_iff : f.onEntry field = .ok none ↔ f.takesAway field = true := by
  rw [onEntry]
  by_cases happlies : f.appliesTo field.kind field.declaration = true
  · rw [if_pos happlies]
    cases haction : f.action with
    | add line => simp [Action.onEntry, takesAway, haction]
    | describe s text =>
        rw [Action.onEntry, takesAway, haction]
        cases s.newLine? (.wrap (some (Action.descriptionLine text)) none) field <;>
          simp [Except.map]
    | remove invert test =>
        rw [takesAway_iff_of_remove haction, matchesField_of_appliesTo happlies, haction,
          Action.onEntry, Action.selects]
        rcases test.run field with reason | b
        · simp [Except.map]
        · cases b <;> cases invert <;> simp [Except.map, happlies]
    | edit s edit =>
        rw [Action.onEntry, takesAway, haction]
        cases s.newLine? edit field <;> simp [Except.map]
  · rw [if_neg happlies, takesAway]
    split <;> simp [happlies]

/-- A removal leaves the other fields as they are. -/
theorem left_of_remove {invert : Bool} {test : FieldTest} (haction : f.action = .remove invert test)
    {left? : Option String} (h : f.onEntry field = .ok left?) :
    left? = if f.takesAway field then none else some field.line := by
  split
  · rename_i hgone
    exact Except.ok.inj (h.symm.trans (onEntry_eq_none_iff.2 hgone))
  · rename_i hstays
    rw [onEntry] at h
    split at h
    · rw [haction, Action.onEntry] at h
      obtain ⟨b, hrun, hleft⟩ := Except.exists_of_map_eq_ok h
      split at hleft
      · rename_i happlies hb
        refine absurd ((takesAway_iff_of_remove haction).2 ⟨happlies, ?_⟩) hstays
        rw [matchesField_of_appliesTo happlies, haction, Action.selects, hrun, beq_iff_eq.1 hb]
      · exact hleft.symm
    · exact (Except.ok.inj h).symm

/-- A filter that has something to leave of a field can tell of it whether it is about it. -/
theorem exists_matchesField (h : ∃ left?, f.onEntry field = .ok left?) :
    ∃ b, f.matchesField field = .ok b := by
  by_cases happlies : f.appliesTo field.kind field.declaration = true
  · rw [matchesField_of_appliesTo happlies]
    cases haction : f.action with
    | add line => exact ⟨false, rfl⟩
    | describe s text => exact ⟨s.selects field, rfl⟩
    | remove invert test =>
        obtain ⟨left?, h⟩ := h
        rw [onEntry, if_pos happlies, haction] at h
        obtain ⟨b, hrun, -⟩ := Except.exists_of_map_eq_ok h
        exact ⟨b, hrun⟩
    | edit s edit => exact ⟨s.selects field, rfl⟩
  · exact ⟨false, matchesField_of_not_appliesTo happlies⟩

/-- The fields of which the filter tells that it is about them are edited, and the others stay as
they are. -/
def EditsAsTold (f : Filter) (edit : Edit) (d e : Declaration) : Prop :=
  ∃ new : String → String, e.fields = d.fields.map new ∧ ∀ l ∈ d.fields,
    f.matchesField (d.field l) = .ok true ∧ edit.run (d.field l) = .ok (new l) ∨
      f.matchesField (d.field l) = .ok false ∧ new l = l

/-- The fields of which the filter tells that it is about them are taken away, or with `invert` all
others, if the filter is for the declaration. -/
def RemovesAsTold (f : Filter) (invert : Bool) (d e : Declaration) : Prop :=
  ∃ gone : String → Bool, e.fields = d.fields.filter (!gone ·) ∧ ∀ l ∈ d.fields,
    (∃ b, f.matchesField (d.field l) = .ok b) ∧
      (gone l = true ↔
        f.appliesTo d.kind d.name = true ∧ f.matchesField (d.field l) = .ok !invert)

/-- A declaration becomes another one as its action and `matchesField` tell. -/
def ActsAsTold (f : Filter) (d e : Declaration) : Prop :=
  match f.action with
  | .add _ => e.fields = d.fields
  | .describe _ text => f.EditsAsTold (.wrap (some (Action.descriptionLine text)) none) d e
  | .remove invert _ => f.RemovesAsTold invert d e
  | .edit _ edit => f.EditsAsTold edit d e

theorem editsAsTold {s : Selector} {edit : Edit}
    (hselects : ∀ field, f.action.selects field = .ok (s.selects field))
    (honEntry : ∀ field, f.action.onEntry field
      = (s.newLine? edit field).map fun new? => some (new?.getD field.line))
    (hfields : e.fields = d.fields.filterMap fun l => f.entryLeft (d.field l))
    (h : ∀ l ∈ d.fields, f.onEntry (d.field l) = .ok (f.entryLeft (d.field l))) :
    f.EditsAsTold edit d e := by
  have htold : ∀ l ∈ d.fields, f.entryLeft (d.field l) = some ((f.entryLeft (d.field l)).getD l) ∧
      (f.matchesField (d.field l) = .ok true ∧
          edit.run (d.field l) = .ok ((f.entryLeft (d.field l)).getD l) ∨
        f.matchesField (d.field l) = .ok false ∧ (f.entryLeft (d.field l)).getD l = l) := by
    intro l hl
    have hleft := h l hl
    by_cases happlies : f.appliesTo d.kind d.name = true
    · rw [onEntry_of_appliesTo happlies, honEntry] at hleft
      obtain ⟨hsome, hline⟩ := Selector.left_of_newLine? hleft
      refine ⟨hsome, ?_⟩
      rw [matchesField_of_appliesTo happlies, hselects]
      split at hline
      · rename_i hs
        exact Or.inl ⟨congrArg Except.ok hs, hline⟩
      · rename_i hs
        exact Or.inr ⟨congrArg Except.ok (Bool.eq_false_iff.2 hs), hline⟩
    · rw [onEntry_of_not_appliesTo happlies] at hleft
      rw [← Except.ok.inj hleft]
      exact ⟨rfl, Or.inr ⟨matchesField_of_not_appliesTo happlies, rfl⟩⟩
  refine ⟨fun l => (f.entryLeft (d.field l)).getD l, ?_, fun l hl => (htold l hl).2⟩
  rw [hfields]
  exact List.filterMap_eq_map_iff_forall_eq_some.2 fun l hl => (htold l hl).1

theorem isNone_entryLeft (h : f.onEntry field = .ok (f.entryLeft field)) :
    (f.entryLeft field).isNone = f.takesAway field := by
  rw [Bool.eq_iff_iff, ← onEntry_eq_none_iff, h, Option.isNone_iff_eq_none, Except.ok.injEq]

/-- What a filter leaves of the fields of a declaration: those that it does not take away, edited or
not. -/
theorem filterMap_entryLeft
    (h : ∀ l ∈ d.fields, f.onEntry (d.field l) = .ok (f.entryLeft (d.field l))) :
    d.fields.filterMap (fun l => f.entryLeft (d.field l))
      = (d.fields.filter fun l => !f.takesAway (d.field l)).map fun l =>
        (f.entryLeft (d.field l)).getD l := by
  rw [← List.filterMap_eq_map, List.filterMap_filter]
  refine List.filterMap_congr fun l hl => ?_
  rw [← isNone_entryLeft (h l hl), Function.comp_apply]
  cases f.entryLeft (d.field l) <;> rfl

/-- A removal leaves the fields that it does not take away as they are. -/
theorem filterMap_entryLeft_of_remove {invert : Bool} {test : FieldTest}
    (haction : f.action = .remove invert test)
    (h : ∀ l ∈ d.fields, f.onEntry (d.field l) = .ok (f.entryLeft (d.field l))) :
    d.fields.filterMap (fun l => f.entryLeft (d.field l))
      = d.fields.filter fun l => !f.takesAway (d.field l) := by
  have hsame : ∀ l ∈ d.fields.filter fun l => !f.takesAway (d.field l),
      (f.entryLeft (d.field l)).getD l = l := by
    intro l hl
    rw [left_of_remove haction (h l (List.mem_of_mem_filter hl))]
    split <;> rfl
  rw [filterMap_entryLeft h, List.map_congr_left hsame, List.map_id']

theorem actsAsTold_effect (h : (f.effect d).failure? = none) :
    f.ActsAsTold d (f.effect d).declaration := by
  have hentry : ∀ l ∈ d.fields, f.onEntry (d.field l) = .ok (f.entryLeft (d.field l)) :=
    fun l hl => onEntry_eq_ok_iff.2 (failure?_effect_eq_none_iff.1 h l hl)
  have hfields := (effect_of_ok hentry).2
  unfold ActsAsTold
  split
  · rename_i line haction
    rw [effect, haction]
    split <;> rfl
  · rename_i s text haction
    exact editsAsTold (s := s) (fun _ => by rw [haction]; rfl) (fun _ => by rw [haction]; rfl)
      hfields hentry
  · rename_i invert test haction
    refine ⟨fun l => f.takesAway (d.field l), ?_, fun l hl => ?_⟩
    · rw [hfields, filterMap_entryLeft_of_remove haction hentry]
    · exact ⟨exists_matchesField ⟨_, hentry l hl⟩, takesAway_iff_of_remove haction⟩
  · rename_i s edit haction
    exact editsAsTold (s := s) (fun _ => by rw [haction]; rfl) (fun _ => by rw [haction]; rfl)
      hfields hentry

/-- A declaration that keeps only those of its fields for which a condition holds, if the filter is
for it. -/
def narrow (f : Filter) (keeps : Field → Bool) (d : Declaration) : Declaration :=
  if f.appliesTo d.kind d.name then { d with fields := d.fields.filter fun l => keeps (d.field l) }
  else d

/-- A removal by a selector always knows what to leave of a field. -/
theorem onEntry_of_selector {invert : Bool} {s : Selector}
    (haction : f.action = .remove invert (.selector s)) (field : Field) :
    f.onEntry field = .ok (if f.takesAway field then none else some field.line) := by
  have hsome : ∃ left?, f.onEntry field = .ok left? := by
    rw [onEntry, haction]
    split
    · exact ⟨_, rfl⟩
    · exact ⟨_, rfl⟩
  obtain ⟨left?, h⟩ := hsome
  rw [h, left_of_remove haction h]

theorem takesAway_of_selector {invert : Bool} {s : Selector}
    (haction : f.action = .remove invert (.selector s)) (field : Field) :
    f.takesAway field
      = (f.appliesTo field.kind field.declaration && (s.selects field == !invert)) := by
  rw [Bool.eq_iff_iff, takesAway_iff_of_remove haction, Bool.and_eq_true, beq_iff_eq]
  refine and_congr_right fun happlies => ?_
  rw [matchesField_of_appliesTo happlies, haction, Action.selects, FieldTest.run,
    Except.ok.injEq]

end Filter

namespace Pipeline

variable {f : Filter} {s t : Schema} {d e : Declaration}

theorem leaves?_singleton_eq_some_iff :
    leaves? [f] d = some e ↔ (f.effect d).failure? = none ∧ (f.effect d).declaration = e := by
  rw [leaves?_cons_eq_some_iff, leaves?_nil, Option.some.injEq]

theorem leaves?_of_selector {invert : Bool} {selector : Selector}
    (haction : f.action = .remove invert (.selector selector)) (d : Declaration) :
    leaves? [f] d = some (f.narrow (fun field => selector.selects field == invert) d) := by
  have hentry := fun l (_ : l ∈ d.fields) =>
    Filter.onEntry_eq_ok_iff.2 ⟨_, Filter.onEntry_of_selector haction (d.field l)⟩
  obtain ⟨hpasses, hfields⟩ := Filter.effect_of_ok hentry
  rw [Filter.filterMap_entryLeft_of_remove haction hentry] at hfields
  refine leaves?_singleton_eq_some_iff.2 ⟨hpasses, ?_⟩
  rw [(Filter.losesFields_effect haction d).1, hfields, Filter.narrow]
  simp only [Filter.takesAway_of_selector haction]
  by_cases happlies : f.appliesTo d.kind d.name = true
  · have hstays : ∀ b : Bool, (!(b == !invert)) = (b == invert) := by cases invert <;> decide
    simp [Declaration.field, happlies, hstays]
  · simp [Declaration.field, happlies]

theorem exists_apply_of_selector {invert : Bool} {selector : Selector}
    (haction : f.action = .remove invert (.selector selector)) (s : Schema) :
    ∃ t, apply [f] s = .ok t ∧ s.SameFrame t ∧
      t.declarations
        = s.declarations.map (f.narrow fun field => selector.selects field == invert) :=
  exists_apply_of_leaves fun d _ => leaves?_of_selector haction d

/-- **What a filter tells is what it does.** So removing the fields that a selector selects and
keeping only these share out the fields of each declaration that the filter is for, and leave all
other declarations as they are. -/
theorem actsAsTold_and_narrows (f : Filter) :
    (∀ s t, apply [f] s = .ok t →
        s.SameFrame t ∧ List.Forall₂ f.ActsAsTold s.declarations t.declarations) ∧
      ∀ selector s, ∃ t u,
        apply [{ f with action := .remove false (.selector selector) }] s = .ok t ∧
        apply [{ f with action := .remove true (.selector selector) }] s = .ok u ∧
        s.SameFrame t ∧ s.SameFrame u ∧
        t.declarations = s.declarations.map (f.narrow (!selector.selects ·)) ∧
        u.declarations = s.declarations.map (f.narrow selector.selects) := by
  refine ⟨fun s t h => ?_, fun selector s => ?_⟩
  · obtain ⟨hframe, hleaves⟩ := apply_eq_ok_iff_forall₂.1 h
    refine ⟨hframe, hleaves.imp fun d e hleft => ?_⟩
    obtain ⟨hpasses, rfl⟩ := leaves?_singleton_eq_some_iff.1 hleft
    exact Filter.actsAsTold_effect hpasses
  · obtain ⟨t, ht, hframe, hremoved⟩ := exists_apply_of_selector
      (f := { f with action := .remove false (.selector selector) }) rfl s
    obtain ⟨u, hu, hframe', hkept⟩ := exists_apply_of_selector
      (f := { f with action := .remove true (.selector selector) }) rfl s
    simp only [beq_false] at hremoved
    simp only [beq_true] at hkept
    exact ⟨t, u, ht, hu, hframe, hframe', hremoved, hkept⟩

/-- A filter keeps the fields `a` of types only. It tells `false` of a field of an input as of the
other field of the type, and leaves the input alone. -/
theorem actsAsTold_of_input :
    let s := Schema.ofText
      "type A \x7b\n  a: Int\n  b: Int\n\x7d\ninput B \x7b\n  b: Int\n\x7d\n"
    let byName : Selector := { fieldName := some (.exact ["a"]) }
    let f : Filter := { action := .remove true (.selector byName), kind := some .type }
    let t := (run [f] s).1
    apply [f] s = .ok t ∧
      f.matchesField ⟨.type, "A", "  b: Int"⟩ = .ok false ∧
      f.matchesField ⟨.input, "B", "  b: Int"⟩ = .ok false ∧
      t.declarations.map Declaration.fields = [["  a: Int"], ["  b: Int"]] ∧
      List.Forall₂ f.ActsAsTold s.declarations t.declarations := by
  intro s byName f t
  have happly : apply [f] s = .ok t := apply_eq_ok_iff.2 ⟨by decide +kernel, rfl⟩
  exact ⟨happly, rfl, rfl, by decide +kernel, ((actsAsTold_and_narrows f).1 s t happly).2⟩

end Pipeline

end SchemaSieve
