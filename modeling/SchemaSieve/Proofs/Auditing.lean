import SchemaSieve.Proofs.Deciding

/-!
# What is told of removals

A run notes a removal for every field that a filter takes away, in the state in which the filter
found it. `removalsFrom` lists them without running over the declarations: the fields that are taken
away by each filter from what those ahead of it leave. `removals_of_apply_eq_ok` says that a run
notes these, in this order, that they account for all fields that are gone, and that asking for them
in the log changes nothing but the level at which they are told.
-/

namespace SchemaSieve

open Text

theorem Removal.message_eq (r : Removal) :
    r.message = "Filter #" ++ toString r.filterIndex ++ labelSuffix r.label ++ " removed `"
      ++ trim r.line ++ "` from `" ++ r.kind.keyword ++ " " ++ r.declaration ++ "`." := by
  simp only [message, String.append_assoc]
  rfl

namespace Filter

variable {f : Filter} {d e : Declaration}

/-- The fields that the filter does not take away are left in their order, and just as they were if
it is a removal. -/
def LeavesRest (f : Filter) (d e : Declaration) : Prop :=
  ∃ new : String → String, e.fields = (d.fields.filter fun l => !f.takesAway (d.field l)).map new ∧
    ∀ invert test, f.action = .remove invert test → ∀ l ∈ d.fields, new l = l

theorem onEntry_of_passes (h : (f.effect d).failure? = none) :
    ∀ l ∈ d.fields, f.onEntry (d.field l) = .ok (f.entryLeft (d.field l)) :=
  fun l hl => onEntry_eq_ok_iff.2 (failure?_effect_eq_none_iff.1 h l hl)

theorem leavesRest_effect (h : (f.effect d).failure? = none) :
    f.LeavesRest d (f.effect d).declaration := by
  have hentry := onEntry_of_passes h
  refine ⟨fun l => (f.entryLeft (d.field l)).getD l, ?_, fun invert test haction l hl => ?_⟩
  · rw [(effect_of_ok hentry).2, filterMap_entryLeft hentry]
  · simp only [left_of_remove haction (hentry l hl)]
    split <;> rfl

/-- What a filter notes as removed are the fields that it takes away. -/
theorem removed_effect (h : (f.effect d).failure? = none) :
    (f.effect d).removed = d.fields.filter fun l => f.takesAway (d.field l) := by
  have hnone : (∀ l, f.takesAway (d.field l) = false) →
      [] = d.fields.filter fun l => f.takesAway (d.field l) := by
    intro hstays
    exact (List.filter_eq_nil_iff.2 fun l _ => by simp [hstays l]).symm
  by_cases happlies : f.appliesTo d.kind d.name = true
  · have hentry := onEntry_of_passes h
    rw [effect, if_pos happlies]
    cases haction : f.action with
    | add line => exact hnone fun l => by simp [takesAway, haction]
    | describe s text => exact hnone fun l => by simp [takesAway, haction]
    | remove invert test =>
        have htest : ∀ l ∈ d.fields, (test.run (d.field l)).map (· == !invert)
            = .ok (f.takesAway (d.field l)) := by
          intro l hl
          have hleft := hentry l hl
          rw [onEntry_of_appliesTo happlies, haction] at hleft
          rw [← isNone_entryLeft (hentry l hl)]
          exact (run_of_left hleft).1
        have happend := sortLines_append htest []
        rw [List.append_nil] at happend
        rw [act, removeFields_eq, happend]
        exact List.append_nil _
    | edit s edit => exact hnone fun l => by simp [takesAway, haction]
  · rw [effect, if_neg happlies]
    refine hnone fun l => ?_
    rw [takesAway]
    split
    · simp [Declaration.field, happlies]
    · rfl

theorem length_fields_effect (h : (f.effect d).failure? = none) :
    d.fields.length = (f.effect d).declaration.fields.length + (f.effect d).removed.length := by
  obtain ⟨new, hfields, -⟩ := leavesRest_effect h
  rw [removed_effect h, hfields, List.length_map, Nat.add_comm]
  exact List.length_eq_length_filter_add _

end Filter

namespace Pipeline

variable {fs gs : List Filter} {f : Filter} {s t : Schema} {d e mid : Declaration} {p : Progress}
  {i : Nat}

/-- The removals of a filter from a declaration as it comes to the filter. -/
def removalsAt (i : Nat) (f : Filter) (d : Declaration) : List Removal :=
  (d.fields.filter fun l => f.takesAway (d.field l)).map fun line =>
    ⟨i, f.label, d.kind, d.name, line⟩

/-- The removals from a declaration: those of one filter after another, each from what the filters
ahead of it leave. -/
def removalsFrom (fs : List Filter) (d : Declaration) : List Removal :=
  fs.zipIdx.flatMap fun fi => (leaves? (fs.take fi.2) d).toList.flatMap (removalsAt fi.2 fi.1)

theorem removalsFrom_concat (h : leaves? fs d = some mid) (f : Filter) :
    removalsFrom (fs ++ [f]) d = removalsFrom fs d ++ removalsAt fs.length f mid := by
  have hahead : ∀ fi ∈ fs.zipIdx, (fs ++ [f]).take fi.2 = fs.take fi.2 := by
    intro fi hfi
    have hlt := List.snd_lt_of_mem_zipIdx hfi
    exact List.take_append_of_le_length (by omega)
  have hlast : (fs ++ [f]).take fs.length = fs := List.take_left
  rw [removalsFrom, removalsFrom, List.zipIdx_append, List.flatMap_append]
  congr 1
  · exact List.flatMap_congr fun fi hfi => by rw [hahead fi hfi]
  · simp [hlast, h]

theorem runOn_append (h : (runOn i fs p d).2.failure? = none) (gs : List Filter) :
    runOn i (fs ++ gs) p d
      = runOn (i + fs.length) gs (runOn i fs p d).2 (runOn i fs p d).1 := by
  induction fs generalizing i p d with
  | nil => rfl
  | cons f fs ih =>
      rw [runOn_cons] at h
      rw [List.cons_append, runOn_cons, runOn_cons]
      split at h
      · rename_i hfails
        rw [failure?_note] at h
        rw [Option.map_eq_none_iff.1 h] at hfails
        cases hfails
      · rename_i hpasses
        rw [if_neg hpasses, if_neg hpasses, ih h, List.length_cons, Nat.add_assoc, Nat.add_comm 1]

/-- A run over a declaration notes the removals from it behind those that were noted before. -/
theorem removals_runOn (hp : p.failure? = none) (h : leaves? fs d = some e) :
    (runOn 0 fs p d).2.removals = p.removals ++ removalsFrom fs d ∧
      d.fields.length = e.fields.length + (removalsFrom fs d).length := by
  -- At the end of the filters, where one more finds what the others have left.
  induction fs using List.reverseRecOn generalizing e with
  | nil =>
      obtain rfl := Option.some.inj (h.symm.trans (leaves?_nil d))
      simp [runOn, removalsFrom]
  | append_singleton fs f ih =>
      rw [leaves?_append, Option.bind_eq_some_iff] at h
      obtain ⟨mid, hmid, hlast⟩ := h
      obtain ⟨hpasses, rfl⟩ := leaves?_singleton_eq_some_iff.1 hlast
      obtain ⟨hremovals, hlength⟩ := ih hmid
      obtain ⟨hnone, hrun⟩ := (leaves?_eq_some_iff hp 0).1 hmid
      have hnoted : (runOn 0 (fs ++ [f]) p d).2.removals
          = (runOn 0 fs p d).2.removals ++ removalsAt fs.length f mid := by
        rw [runOn_append hnone, runOn_cons, hrun, if_neg (by simp [hpasses]), runOn, note,
          Filter.removed_effect hpasses, Nat.zero_add, removalsAt]
      rw [removalsFrom_concat hmid, hnoted, hremovals, List.append_assoc]
      refine ⟨rfl, ?_⟩
      rw [hlength, Filter.length_fields_effect hpasses, Filter.removed_effect hpasses,
        List.length_append, removalsAt, List.length_map]
      omega

theorem declaration_of_mem_removalsFrom {r : Removal} (hr : r ∈ removalsFrom fs d) :
    r.kind = d.kind ∧ r.declaration = d.name := by
  obtain ⟨fi, -, hr⟩ := List.mem_flatMap.1 hr
  obtain ⟨mid, hmid, hr⟩ := List.mem_flatMap.1 hr
  obtain ⟨line, -, rfl⟩ := List.mem_map.1 hr
  rw [sameOpening_of_leaves? (Option.mem_toList.1 hmid)]
  exact ⟨rfl, rfl⟩

/-- The removals from a declaration account for what becomes of its fields. -/
structure AccountsFor (fs : List Filter) (d e : Declaration) : Prop where
  leaves : leaves? fs d = some e
  /-- Each filter takes away the fields for which a removal is listed, and no others. -/
  rest : ∀ i f, fs[i]? = some f → ∃ mid mid', leaves? (fs.take i) d = some mid ∧
    leaves? (fs.take (i + 1)) d = some mid' ∧ f.LeavesRest mid mid'
  /-- The removals name the declaration. -/
  declaration : ∀ r ∈ removalsFrom fs d, r.kind = d.kind ∧ r.declaration = d.name
  length : d.fields.length = e.fields.length + (removalsFrom fs d).length

theorem accountsFor (h : leaves? fs d = some e) : AccountsFor fs d e := by
  refine ⟨h, fun i f hf => ?_, fun r => declaration_of_mem_removalsFrom,
    (removals_runOn (p := {}) rfl h).2⟩
  have htake : fs.take (i + 1) = fs.take i ++ [f] := by rw [List.take_add_one, hf]; rfl
  rw [← List.take_append_drop (i + 1) fs, leaves?_append, Option.bind_eq_some_iff] at h
  obtain ⟨mid', hmid', -⟩ := h
  have hboth := hmid'
  rw [htake, leaves?_append, Option.bind_eq_some_iff] at hboth
  obtain ⟨mid, hmid, hlast⟩ := hboth
  obtain ⟨hpasses, rfl⟩ := leaves?_singleton_eq_some_iff.1 hlast
  exact ⟨mid, _, hmid, hmid', Filter.leavesRest_effect hpasses⟩

theorem removals_walk (hp : p.failure? = none) {ds es : List Declaration}
    (h : List.Forall₂ (fun d e => leaves? fs d = some e) ds es) :
    (walk (visit fs) p ds).2.removals = p.removals ++ ds.flatMap (removalsFrom fs) := by
  induction h generalizing p with
  | nil => exact (List.append_nil _).symm
  | @cons d e ds es hd _ ih =>
      rw [walk_cons, visit_of_none hp, List.flatMap_cons, ← List.append_assoc,
        ← (removals_runOn hp hd).1]
      exact ih ((leaves?_eq_some_iff hp 0).1 hd).1

/-- **The log of removals is complete.** A run that succeeds notes the removals of each declaration
in turn, and these account for all its fields that are gone. In the log each shows the field as it
was then; whether removals are asked for decides on the level at which they are told, and on nothing
else. -/
theorem removals_of_apply_eq_ok (h : apply fs s = .ok t) :
    (run fs s).2.removals = s.declarations.flatMap (removalsFrom fs) ∧
      List.Forall₂ (AccountsFor fs) s.declarations t.declarations ∧
      (∀ job : Job, job.removalLog (run fs s).2
        = (s.declarations.flatMap (removalsFrom fs)).map fun r =>
          ⟨if job.logRemovals then .info else .trace,
            "Filter #" ++ toString r.filterIndex ++ labelSuffix r.label ++ " removed `"
              ++ trim r.line ++ "` from `" ++ r.kind.keyword ++ " " ++ r.declaration ++ "`."⟩) ∧
      ∀ content, s = Schema.ofText content → ∀ layout logRemovals,
        Job.sift { filters := fs, layout, logRemovals } content
          = { result := .ok (t.render layout)
              log := Schema.readingLog content ++ parsedRecord s ::
                Job.removalLog { logRemovals } (run fs s).2 } := by
  obtain ⟨-, hleaves⟩ := apply_eq_ok_iff_forall₂.1 h
  obtain ⟨-, hprogress⟩ := s.declarations_mapAccum (visit fs) {}
  have hremovals : (run fs s).2.removals = s.declarations.flatMap (removalsFrom fs) := by
    rw [run, hprogress, removals_walk rfl hleaves]
    rfl
  refine ⟨hremovals, hleaves.imp fun d e => accountsFor, fun job => ?_, ?_⟩
  · rw [Job.removalLog, hremovals]
    exact List.map_congr_left fun r _ => by rw [Removal.record, Removal.message_eq]
  · rintro content rfl layout logRemovals
    let job : Job := { filters := fs, layout, logRemovals }
    have happly : apply job.filters (Schema.ofText content) = .ok t := h
    exact job.sift_of_apply happly

/-- A field is described and then removed, from one declaration after another. The records show it
with its description. -/
theorem removals_of_described_field :
    let content := "type A \x7b\n  a: Int\n  b: Int\n\x7d\ntype B \x7b\n  b: Int\n\x7d\n"
    let s := Schema.ofText content
    let b : Selector := { fieldName := some (.exact ["b"]) }
    let fs : List Filter := [{ action := .describe b "the b" },
      { action := .remove false (.selector b), label := some "no b" }]
    let t := (run fs s).1
    let line := "  \"\"\"the b\"\"\"\n  b: Int"
    apply fs s = .ok t ∧ List.Forall₂ (AccountsFor fs) s.declarations t.declarations ∧
      t.declarations.map Declaration.fields = [["  a: Int"], []] ∧
      (run fs s).2.removals = s.declarations.flatMap (removalsFrom fs) ∧
      (run fs s).2.removals
        = [⟨1, some "no b", .type, "A", line⟩, ⟨1, some "no b", .type, "B", line⟩] ∧
      (Job.sift { filters := fs, logRemovals := true } content).result = .ok (t.render {}) ∧
      Job.removalLog { logRemovals := true } (run fs s).2
        = [⟨.info, "Filter #1 (no b) removed `\"\"\"the b\"\"\"\n  b: Int` from `type A`."⟩,
            ⟨.info, "Filter #1 (no b) removed `\"\"\"the b\"\"\"\n  b: Int` from `type B`."⟩] := by
  intro content s b fs t line
  have happly : apply fs s = .ok t := apply_eq_ok_iff.2 ⟨by decide +kernel, rfl⟩
  obtain ⟨hremovals, haccounts, -, hsift⟩ := removals_of_apply_eq_ok happly
  refine ⟨happly, haccounts, by decide +kernel, hremovals, by decide +kernel, ?_,
    by decide +kernel⟩
  rw [hsift content rfl {} true]

end Pipeline

end SchemaSieve
