import SchemaSieve.Proofs.Failing

/-!
# Removals that fail

A removal takes all fields out of a declaration, and gives back those that it keeps when it has
decided on the last one. If its test fails before, nothing is given back:
`declaration_effect_of_failure`. So a removal that fails loses the fields that it decided to keep,
the one that it failed at and all behind it, and `keepsUndecided_iff` says that fields are safe just
when no removal fails.
-/

namespace SchemaSieve

namespace Filter

variable {f : Filter} {d : Declaration} {reason : String}

/-- The filter removes fields, in whatever way it tells them. -/
def Removes (f : Filter) : Prop := ∃ invert test, f.action = .remove invert test

/-- A removal that fails leaves no field. -/
theorem declaration_effect_of_failure (hf : f.Removes) (h : (f.effect d).failure? = some reason) :
    (f.effect d).declaration = { d with fields := [] } := by
  obtain ⟨invert, test, haction⟩ := hf
  have happlies := appliesTo_of_failure h
  rw [effect, if_pos happlies, haction, act, removeFields_eq] at h ⊢
  exact congrArg (fun fields => { d with fields }) (if_pos (Option.isSome_of_eq_some h))

/-- A removal that fails does so at a first field, and has decided on those ahead of it. -/
theorem exists_undecided_of_failure {invert : Bool} {test : FieldTest}
    (haction : f.action = .remove invert test) (h : (f.effect d).failure? = some reason) :
    ∃ done l rest, ∃ matched : String → Bool, d.fields = done ++ l :: rest ∧
      (∀ m ∈ done, test.run (d.field m) = .ok (matched m)) ∧
      test.run (d.field l) = .error reason := by
  obtain ⟨done, l, rest, hfields, hdone, hl⟩ := exists_of_failure h
  have happlies := appliesTo_of_failure h
  simp only [onEntry_of_appliesTo happlies, haction] at hdone hl
  refine ⟨done, l, rest, fun m => (test.run (d.field m)).toOption.getD false, hfields, ?_,
    Except.eq_error_of_map_eq_error hl⟩
  intro m hm
  obtain ⟨b, hb, -⟩ := Except.exists_of_map_eq_ok (hdone m hm)
  simp only [hb]
  rfl

end Filter

namespace Pipeline

variable {fs : List Filter} {s : Schema} {f : Filter} {failure : Failure}

/-- A run that fails does so at one declaration of a schema: the filters ahead of the one that fails
there have left `mid` of it, and `e` stands in its place in the end. The declarations ahead of it
have passed all filters, and those behind it are as they were. -/
def StopsIn (fs : List Filter) (s t : Schema) (failure : Failure) (f : Filter)
    (mid e : Declaration) : Prop :=
  ∃ before d after before', s.declarations = before ++ d :: after ∧
    t.declarations = before' ++ e :: after ∧
    List.Forall₂ (fun d e => leaves? fs d = some e) before before' ∧ StopsAt fs d failure f mid

/-- Where a removal fails, its declaration still has, in their order, the fields that it had decided
to keep, the one that it failed at, and all behind that one. -/
def KeepsUndecided (fs : List Filter) (s : Schema) : Prop :=
  ∀ failure f invert test mid e, apply fs s = .error failure →
    f.action = .remove invert test → StopsIn fs s (run fs s).1 failure f mid e →
    ∀ done l rest, ∀ matched : String → Bool, mid.fields = done ++ l :: rest →
      (∀ m ∈ done, test.run (mid.field m) = .ok (matched m)) →
      test.run (mid.field l) = .error failure.reason →
      (done.filter (matched · == invert) ++ l :: rest).Sublist e.fields

theorem exists_stopsIn (h : apply fs s = .error failure) :
    ∃ f mid, StopsIn fs s (run fs s).1 failure f mid (f.effect mid).declaration := by
  obtain ⟨hwalk, hprogress⟩ := s.declarations_mapAccum (visit fs) {}
  have hfailure := apply_eq_error_iff.1 h
  rw [run, hprogress] at hfailure
  obtain ⟨before, d, after, before', f, mid, hds, hbefore, hstops, hafter⟩ :=
    exists_of_walk_failure rfl hfailure
  exact ⟨f, mid, before, d, after, before', hds, hwalk.trans hafter, hbefore, hstops⟩

/-- Where a removal fails, its declaration is left without fields. -/
theorem exists_stopsIn_of_removal (h : apply fs s = .error failure)
    (hf : fs[failure.filterIndex]? = some f) (hremoves : f.Removes) :
    ∃ mid, StopsIn fs s (run fs s).1 failure f mid { mid with fields := [] } ∧
      (f.effect mid).failure? = some failure.reason := by
  obtain ⟨f', mid, before, d, after, before', hs, ht, hbefore, hstops⟩ := exists_stopsIn h
  obtain rfl : f = f' := Option.some.inj (hf.symm.trans hstops.filter)
  rw [Filter.declaration_effect_of_failure hremoves hstops.fails] at ht
  exact ⟨mid, ⟨before, d, after, before', hs, ht, hbefore, hstops⟩, hstops.fails⟩

theorem not_keepsUndecided (h : apply fs s = .error failure)
    (hf : fs[failure.filterIndex]? = some f) (hremoves : f.Removes) : ¬KeepsUndecided fs s := by
  intro hkeeps
  obtain ⟨mid, hstops, hfails⟩ := exists_stopsIn_of_removal h hf hremoves
  obtain ⟨invert, test, haction⟩ := hremoves
  obtain ⟨done, l, rest, matched, hfields, hdone, hl⟩ :=
    Filter.exists_undecided_of_failure haction hfails
  have hsublist := hkeeps failure f invert test mid _ h haction hstops done l rest matched hfields
    hdone hl
  have hempty : done.filter (matched · == invert) ++ l :: rest = [] :=
    List.sublist_nil.1 hsublist
  simp at hempty

/-- **A removal that fails loses all fields of its declaration.** So undecided fields are kept just
when it is never a removal that fails. -/
theorem keepsUndecided_iff (fs : List Filter) (s : Schema) :
    (KeepsUndecided fs s ↔ ∀ failure f, apply fs s = .error failure →
        fs[failure.filterIndex]? = some f → ¬f.Removes) ∧
      ∀ failure f, apply fs s = .error failure → fs[failure.filterIndex]? = some f →
        f.Removes → ∃ mid, StopsIn fs s (run fs s).1 failure f mid { mid with fields := [] } := by
  refine ⟨⟨fun hkeeps failure f h hf hremoves => ?_, fun hnever => ?_⟩, ?_⟩
  · exact not_keepsUndecided h hf hremoves hkeeps
  · intro failure f invert test mid e h haction hstops
    obtain ⟨_, _, _, _, _, _, _, hstops⟩ := hstops
    exact absurd ⟨invert, test, haction⟩ (hnever failure f h hstops.filter)
  · intro failure f h hf hremoves
    obtain ⟨mid, hstops, -⟩ := exists_stopsIn_of_removal h hf hremoves
    exact ⟨mid, hstops⟩

/-- A test that fails at the second of three fields, none of which it would have removed. -/
theorem run_of_failing_test :
    let s := Schema.ofText "type A \x7b\n  a: Int\n  b: Int\n  c: Int\n\x7d\n"
    let test : FieldTest := .custom fun field =>
      if field.signature.name = "b" then .error "boom" else .ok false
    let fs : List Filter := [{ action := .remove false test }]
    s.declarations.map Declaration.fields = [["  a: Int", "  b: Int", "  c: Int"]] ∧
      apply fs s = .error ⟨0, none, .type, "A", "boom"⟩ ∧
      (run fs s).1.declarations.map Declaration.fields = [[]] ∧ ¬KeepsUndecided fs s := by
  intro s test fs
  have happly : apply fs s = .error ⟨0, none, .type, "A", "boom"⟩ :=
    apply_eq_error_iff.2 (by decide +kernel)
  exact ⟨by decide +kernel, happly, by decide +kernel, not_keepsUndecided happly rfl ⟨_, _, rfl⟩⟩

end Pipeline

end SchemaSieve
