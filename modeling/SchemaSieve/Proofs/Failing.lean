import SchemaSieve.Proofs.Entries

/-!
# Runs that fail

A run that fails stops at one declaration. Those ahead of it are done, those behind it are as they
were, and it is itself what the filters ahead of the failing one left, with the work that the
failing one had done: an edit has changed the entries ahead of the one that it failed at.
-/

namespace SchemaSieve

/-- One declaration is another one whose entries are edited up to the first that the edit fails
at. -/
def Selector.EditsUpTo (s : Selector) (edit : Edit) (reason : String) (d e : Declaration) : Prop :=
  ∃ done l rest, ∃ new : String → String,
    d.fields = done ++ l :: rest ∧ e.fields = done.map new ++ l :: rest ∧
      (∀ m ∈ done, if s.selects (d.field m) then edit.run (d.field m) = .ok (new m)
        else new m = m) ∧
      s.selects (d.field l) = true ∧ edit.run (d.field l) = .error reason

theorem Selector.left_of_newLine? {s : Selector} {edit : Edit} {field : Field}
    {left? : Option String}
    (h : (s.newLine? edit field).map (fun new? => some (new?.getD field.line)) = .ok left?) :
    left? = some (left?.getD field.line) ∧
      if s.selects field then edit.run field = .ok (left?.getD field.line)
      else left?.getD field.line = field.line := by
  obtain ⟨new?, hnew, rfl⟩ := Except.exists_of_map_eq_ok h
  refine ⟨rfl, ?_⟩
  rw [newLine?] at hnew
  split
  · rename_i hselects
    rw [if_pos hselects] at hnew
    obtain ⟨line, hrun, rfl⟩ := Except.exists_of_map_eq_ok hnew
    exact hrun
  · rename_i hselects
    rw [if_neg hselects] at hnew
    obtain rfl := Except.ok.inj hnew
    rfl

theorem Selector.run_of_newLine? {s : Selector} {edit : Edit} {field : Field} {reason : String}
    (h : s.newLine? edit field = .error reason) :
    s.selects field = true ∧ edit.run field = .error reason := by
  rw [newLine?] at h
  split at h
  · rename_i hselects
    exact ⟨hselects, Except.eq_error_of_map_eq_error h⟩
  · cases h

namespace Filter

variable {f : Filter} {d : Declaration} {reason : String}

/-- A filter that fails fails at a first entry. -/
theorem exists_of_failure (h : (f.effect d).failure? = some reason) :
    ∃ done l rest, d.fields = done ++ l :: rest ∧
      (∀ m ∈ done, f.onEntry (d.field m) = .ok (f.entryLeft (d.field m))) ∧
      f.onEntry (d.field l) = .error reason := by
  rcases forall_ok_or_exists_error (fun l => f.onEntry (d.field l)) d.fields with
    hall | ⟨done, l, rest, reason', hfields, hdone, hl⟩
  · rw [failure?_effect_eq_none_iff.2 hall] at h
    cases h
  · have hdone' := fun m hm => onEntry_eq_ok_iff.2 (hdone m hm)
    rw [effect_of_error hfields hdone' hl] at h
    obtain rfl := Option.some.inj h
    exact ⟨done, l, rest, hfields, hdone', hl⟩

theorem appliesTo_of_failure (h : (f.effect d).failure? = some reason) :
    f.appliesTo d.kind d.name = true := by
  by_contra happlies
  rw [effect, if_neg happlies] at h
  cases h

theorem addedLine?_of_failure (h : (f.effect d).failure? = some reason) :
    f.addedLine? d.kind d.name = none := by
  have happlies := appliesTo_of_failure h
  rw [addedLine?]
  split
  · rename_i line haction
    rw [effect, haction, if_pos happlies] at h
    cases h
  · rfl

theorem editsUpTo_of_failure {s : Selector} {edit : Edit} (haction : f.action = .edit s edit)
    (h : (f.effect d).failure? = some reason) :
    s.EditsUpTo edit reason d (f.effect d).declaration := by
  obtain ⟨done, l, rest, hfields, hdone, hl⟩ := exists_of_failure h
  have happlies := appliesTo_of_failure h
  simp only [onEntry_of_appliesTo happlies, haction] at hdone hl
  have hnew := fun m hm => Selector.left_of_newLine? (hdone m hm)
  have hreason := Except.eq_error_of_map_eq_error hl
  refine ⟨done, l, rest, fun m => (f.entryLeft (d.field m)).getD m, hfields, ?_,
    fun m hm => (hnew m hm).2, Selector.run_of_newLine? hreason⟩
  have hleft : done.filterMap (fun m => f.entryLeft (d.field m))
      = done.map fun m => (f.entryLeft (d.field m)).getD m :=
    List.filterMap_eq_map_iff_forall_eq_some.2 fun m hm => (hnew m hm).1
  rw [effect, if_pos happlies, haction, ← hleft]
  exact (editFields_of_error hfields hdone hreason).2

end Filter

namespace Pipeline

variable {fs : List Filter} {s : Schema} {d : Declaration} {failure : Failure}

theorem apply_eq_error_iff :
    apply fs s = .error failure ↔ (run fs s).2.failure? = some failure := by
  rw [apply]
  split
  · rename_i hrun
    simp [hrun]
  · rename_i hrun
    simp [hrun]

/-- What a run over a declaration leaves that a filter stops: what the filters ahead of that one
have left, with the lines that they add, and an edit broken off where it failed. -/
structure BreaksOff (fs : List Filter) (d : Declaration) (failure : Failure) (e : Declaration) :
    Prop where
  stops : ∃ f mid, StopsAt fs d failure f mid ∧ e = (f.effect mid).declaration ∧
    ∀ s edit, f.action = .edit s edit → s.EditsUpTo edit failure.reason mid e
  additions : e.additions
    = d.additions ++ (fs.take failure.filterIndex).filterMap (·.addedLine? d.kind d.name)

theorem StopsAt.breaksOff {f : Filter} {mid : Declaration} (h : StopsAt fs d failure f mid) :
    BreaksOff fs d failure (f.effect mid).declaration := by
  refine ⟨⟨f, mid, h, rfl, fun s edit haction => Filter.editsUpTo_of_failure haction h.fails⟩, ?_⟩
  rw [f.additions_effect, Filter.addedLine?_of_failure h.fails, additions_of_leaves? h.leaves]
  exact List.append_nil _

/-- One schema is what a failing run leaves of another one: it has done all its work on the
declarations ahead of the one that the failure names, none on those behind it, and nothing outside
the bodies of declarations. -/
structure HalfDone (fs : List Filter) (failure : Failure) (s t : Schema) : Prop where
  frame : s.SameFrame t
  openings : List.Forall₂ Declaration.SameOpening s.declarations t.declarations
  declarations : ∃ before d after before' d', s.declarations = before ++ d :: after ∧
    t.declarations = before' ++ d' :: after ∧
    List.Forall₂ (fun e e' => leaves? fs e = some e') before before' ∧ BreaksOff fs d failure d'

/-- **A failure is confined to one declaration.** It is the first one at which a filter fails, and
the failure names it and the first filter that does. -/
theorem halfDone_of_apply_eq_error (h : apply fs s = .error failure) :
    HalfDone fs failure s (run fs s).1 := by
  obtain ⟨hwalk, hprogress⟩ := s.declarations_mapAccum (visit fs) {}
  have hfailure := apply_eq_error_iff.1 h
  rw [run, hprogress] at hfailure
  obtain ⟨before, d, after, before', f, mid, hds, hbefore, hstops, hafter⟩ :=
    exists_of_walk_failure rfl hfailure
  refine ⟨s.sameFrame_mapAccum (visit fs) {}, sameOpening_run, ?_⟩
  exact ⟨before, d, after, before', _, hds, hwalk.trans hafter, hbefore, hstops.breaksOff⟩

/-- An edit fails at the second entry of the second declaration, which has got its line and a longer
first entry by then. -/
theorem halfDone_of_failing_edit :
    let s := Schema.ofText ("type A \x7b\n  a: Int\n\x7d\n"
      ++ "type B \x7b\n  b: Int\n  bad: Int\n  c: Int\n\x7d\ninput C \x7b\n  c: Int\n\x7d\n")
    let longer : Edit := .custom fun field =>
      if field.signature.name = "bad" then .error "boom" else .ok (field.line ++ "!")
    let fs : List Filter := [{ action := .add "  first: Int" },
      { action := .edit { fieldName := some (.exact ["a", "b", "bad", "c"]) } longer,
        label := some "longer" }]
    let t := (run fs s).1
    apply fs s = .error ⟨1, some "longer", .type, "B", "boom"⟩ ∧
      HalfDone fs ⟨1, some "longer", .type, "B", "boom"⟩ s t ∧
      t.declarations.map (fun d => (d.name, d.additions, d.fields))
        = [("A", ["  first: Int"], ["  a: Int!"]),
            ("B", ["  first: Int"], ["  b: Int!", "  bad: Int", "  c: Int"]),
            ("C", [], ["  c: Int"])] := by
  intro s longer fs t
  have happly : apply fs s = .error ⟨1, some "longer", .type, "B", "boom"⟩ :=
    apply_eq_error_iff.2 (by decide +kernel)
  exact ⟨happly, halfDone_of_apply_eq_error happly, by decide +kernel⟩

end Pipeline

end SchemaSieve
