import SchemaSieve.Proofs.Filtering
import SchemaSieve.Proofs.Visiting
import SchemaSieve.Sifting

/-!
# Runs of filters

What a run of filters leaves of one declaration does not depend on the declarations before it.
`apply_eq_ok_iff_forall₂` says that a run over a schema is a run over each of its declarations, and
`exists_of_walk_failure` where a run that fails stops: `StopsAt` names the filter, and what the
filters ahead of it have left.
-/

namespace SchemaSieve

theorem forall₂_comp_iff {α β γ : Type} {R : α → β → Prop} {S : β → γ → Prop} {as : List α}
    {cs : List γ} :
    List.Forall₂ (fun a c => ∃ b, R a b ∧ S b c) as cs ↔
      ∃ bs, List.Forall₂ R as bs ∧ List.Forall₂ S bs cs := by
  constructor
  · intro h
    induction h with
    | nil => exact ⟨[], List.Forall₂.nil, List.Forall₂.nil⟩
    | cons hac _ ih =>
        obtain ⟨b, hab, hbc⟩ := hac
        obtain ⟨bs, has, hcs⟩ := ih
        exact ⟨b :: bs, List.Forall₂.cons hab has, List.Forall₂.cons hbc hcs⟩
  · rintro ⟨bs, has, hcs⟩
    induction has generalizing cs with
    | nil =>
        cases hcs
        exact List.Forall₂.nil
    | cons hab _ ih =>
        cases hcs with
        | cons hbc hcs => exact List.Forall₂.cons ⟨_, hab, hbc⟩ (ih hcs)

namespace Filter

theorem kind_effect (f : Filter) (d : Declaration) : (f.effect d).declaration.kind = d.kind := by
  rw [f.sameOpening_effect d]

theorem name_effect (f : Filter) (d : Declaration) : (f.effect d).declaration.name = d.name := by
  rw [f.sameOpening_effect d]

/-- What an action makes of a declaration, if it does not fail. -/
def acted? (d : Declaration) (a : Action) : Option Declaration :=
  if (act d a).failure?.isSome then none else some (act d a).declaration

end Filter

namespace Pipeline

variable {fs gs : List Filter} {f : Filter} {s t : Schema} {d e : Declaration} {failure : Failure}

/-- What filters leave of a declaration, if none of them fails. -/
def leaves? (fs : List Filter) (d : Declaration) : Option Declaration :=
  if (runOn 0 fs {} d).2.failure?.isSome then none else some (runOn 0 fs {} d).1

/-- The filter that stops a run over a declaration, and what those ahead of it have left. -/
structure StopsAt (fs : List Filter) (d : Declaration) (failure : Failure) (f : Filter)
    (mid : Declaration) : Prop where
  filter : fs[failure.filterIndex]? = some f
  leaves : leaves? (fs.take failure.filterIndex) d = some mid
  fails : (f.effect mid).failure? = some failure.reason
  kind : failure.kind = d.kind
  declaration : failure.declaration = d.name
  label : failure.label = f.label

theorem failure?_note {p : Progress} {i : Nat} {r : Filter.Effect} :
    (note p i f d r).failure?
      = r.failure?.map fun reason => ⟨i, f.label, d.kind, d.name, reason⟩ := rfl

theorem runOn_cons (i : Nat) (f : Filter) (fs : List Filter) (p : Progress) (d : Declaration) :
    runOn i (f :: fs) p d
      = if (f.effect d).failure?.isSome then
          ((f.effect d).declaration, note p i f d (f.effect d))
        else runOn (i + 1) fs (note p i f d (f.effect d)) (f.effect d).declaration := by
  rw [runOn, failure?_note, Option.isSome_map]

/-- A run over a declaration does the same to it whatever came before, failures apart. -/
theorem runOn_congr {i j : Nat} {p q : Progress} (hp : p.failure? = none) (hq : q.failure? = none)
    (d : Declaration) :
    (runOn i fs p d).1 = (runOn j fs q d).1 ∧
      (runOn i fs p d).2.failure?.isSome = (runOn j fs q d).2.failure?.isSome := by
  induction fs generalizing i j p q d with
  | nil => exact ⟨rfl, by rw [runOn, runOn, hp, hq]⟩
  | cons f fs ih =>
      rw [runOn_cons, runOn_cons]
      split
      · rename_i hfails
        refine ⟨rfl, ?_⟩
        simp only [failure?_note, Option.isSome_map, hfails]
      · rename_i hfails
        rw [Option.not_isSome_iff_eq_none] at hfails
        exact ih (by rw [failure?_note, hfails]; rfl) (by rw [failure?_note, hfails]; rfl) _

theorem leaves?_eq_some_iff {p : Progress} (hp : p.failure? = none) (i : Nat) :
    leaves? fs d = some e ↔
      (runOn i fs p d).2.failure? = none ∧ (runOn i fs p d).1 = e := by
  have hstart : ({} : Progress).failure? = none := rfl
  obtain ⟨hdeclaration, hfailure⟩ := @runOn_congr fs i 0 p {} hp hstart d
  rw [leaves?, ← hdeclaration, ← hfailure]
  cases (runOn i fs p d).2.failure? <;> simp

@[simp] theorem leaves?_nil (d : Declaration) : leaves? [] d = some d := rfl

theorem leaves?_cons (f : Filter) (fs : List Filter) (d : Declaration) :
    leaves? (f :: fs) d
      = if (f.effect d).failure?.isSome then none else leaves? fs (f.effect d).declaration := by
  refine Option.ext fun e => ?_
  rw [leaves?_eq_some_iff (p := {}) rfl 0, runOn_cons]
  split
  · rename_i hfails
    obtain ⟨reason, hreason⟩ := Option.isSome_iff_exists.1 hfails
    simp [failure?_note, hreason]
  · rename_i hfails
    rw [Option.not_isSome_iff_eq_none] at hfails
    rw [leaves?_eq_some_iff (p := note {} 0 f d (f.effect d)) (by rw [failure?_note, hfails]; rfl)]

theorem leaves?_append (fs gs : List Filter) (d : Declaration) :
    leaves? (fs ++ gs) d = (leaves? fs d).bind (leaves? gs) := by
  induction fs generalizing d with
  | nil => rfl
  | cons f fs ih =>
      rw [List.cons_append, leaves?_cons, leaves?_cons]
      split
      · rfl
      · exact ih _

/-- What filters leave of a declaration is what the actions of those that are for it make of it. -/
theorem leaves?_eq_foldlM (fs : List Filter) (d : Declaration) :
    leaves? fs d
      = ((fs.filter (·.appliesTo d.kind d.name)).map (·.action)).foldlM Filter.acted? d := by
  induction fs generalizing d with
  | nil => rfl
  | cons f fs ih =>
      rw [leaves?_cons, ih, f.kind_effect, f.name_effect]
      by_cases happlies : f.appliesTo d.kind d.name = true
      · rw [List.filter_cons, if_pos happlies, List.map_cons, List.foldlM_cons, Filter.effect,
          if_pos happlies, Filter.acted?]
        split <;> rfl
      · rw [List.filter_cons, if_neg happlies, Filter.effect, if_neg happlies]
        rfl

/-- A run that fails is stopped by one of the filters, which those ahead of it let it come to. -/
theorem exists_of_runOn_failure {i : Nat} {p : Progress} (hp : p.failure? = none)
    (h : (runOn i fs p d).2.failure? = some failure) :
    ∃ before f after mid, fs = before ++ f :: after ∧ leaves? before d = some mid ∧
      (runOn i fs p d).1 = (f.effect mid).declaration ∧
      (f.effect mid).failure? = some failure.reason ∧
      failure = ⟨i + before.length, f.label, d.kind, d.name, failure.reason⟩ := by
  induction fs generalizing i p d with
  | nil =>
      rw [runOn, hp] at h
      cases h
  | cons f fs ih =>
      rw [runOn_cons] at h ⊢
      split at h
      · rename_i hfails
        rw [if_pos hfails]
        rw [failure?_note] at h
        obtain ⟨reason, hreason, rfl⟩ := Option.map_eq_some_iff.1 h
        exact ⟨[], f, fs, d, rfl, rfl, rfl, hreason, rfl⟩
      · rename_i hpasses
        rw [if_neg hpasses]
        have hpassed := hpasses
        rw [Option.not_isSome_iff_eq_none] at hpassed
        have hp' : (note p i f d (f.effect d)).failure? = none := by
          rw [failure?_note, hpassed]
          rfl
        obtain ⟨before, g, after, mid, rfl, hleaves, hdeclaration, hfails, hfailure⟩ := ih hp' h
        refine ⟨f :: before, g, after, mid, rfl, ?_, hdeclaration, hfails, ?_⟩
        · rw [leaves?_cons, if_neg hpasses, hleaves]
        · rw [hfailure, f.kind_effect, f.name_effect, List.length_cons, Nat.add_assoc,
            Nat.add_comm 1]

theorem exists_stopsAt {p : Progress} (hp : p.failure? = none)
    (h : (runOn 0 fs p d).2.failure? = some failure) :
    ∃ f mid, StopsAt fs d failure f mid ∧ (runOn 0 fs p d).1 = (f.effect mid).declaration := by
  obtain ⟨before, f, after, mid, rfl, hleaves, hdeclaration, hfails, hfailure⟩ :=
    exists_of_runOn_failure hp h
  have hindex : failure.filterIndex = before.length := by rw [hfailure, Nat.zero_add]
  refine ⟨f, mid, ⟨?_, ?_, hfails, ?_, ?_, ?_⟩, hdeclaration⟩
  · rw [hindex, List.getElem?_append_right (Nat.le_refl _), Nat.sub_self, List.getElem?_cons_zero]
  · rw [hindex, List.take_left, hleaves]
  · rw [hfailure]
  · rw [hfailure]
  · rw [hfailure]

section Walk

variable {p : Progress} {ds : List Declaration}

theorem visit_of_failure (h : p.failure?.isSome) (d : Declaration) : visit fs p d = (d, p) :=
  if_pos h

theorem visit_of_none (h : p.failure? = none) (d : Declaration) :
    visit fs p d = runOn 0 fs p d := by
  rw [visit, h]
  rfl

/-- A walk that does not fail leaves of each declaration what a run over it leaves. -/
theorem forall₂_walk (hp : p.failure? = none) (h : (walk (visit fs) p ds).2.failure? = none) :
    List.Forall₂ (fun d e => leaves? fs d = some e) ds (walk (visit fs) p ds).1 := by
  induction ds generalizing p with
  | nil => exact List.Forall₂.nil
  | cons d ds ih =>
      rw [walk_cons, visit_of_none hp] at h ⊢
      cases hfailure : (runOn 0 fs p d).2.failure? with
      | none =>
          refine List.Forall₂.cons ?_ (ih hfailure h)
          rw [leaves?_eq_some_iff hp 0]
          exact ⟨hfailure, rfl⟩
      | some failure =>
          rw [walk_of_fixed (visit_of_failure (by rw [hfailure]; rfl)), hfailure] at h
          cases h

theorem walk_of_forall₂ (hp : p.failure? = none) {es : List Declaration}
    (h : List.Forall₂ (fun d e => leaves? fs d = some e) ds es) :
    (walk (visit fs) p ds).2.failure? = none ∧ (walk (visit fs) p ds).1 = es := by
  induction h generalizing p with
  | nil => exact ⟨hp, rfl⟩
  | @cons d e ds es hd _ ih =>
      obtain ⟨hfailure, rfl⟩ := (leaves?_eq_some_iff hp 0).1 hd
      obtain ⟨hfailure', rfl⟩ := ih hfailure
      rw [walk_cons, visit_of_none hp]
      exact ⟨hfailure', rfl⟩

/-- A walk that fails does so at one declaration: those before it have passed all filters, and those
after it are as they were. -/
theorem exists_of_walk_failure (hp : p.failure? = none)
    (h : (walk (visit fs) p ds).2.failure? = some failure) :
    ∃ before d after before' f mid, ds = before ++ d :: after ∧
      List.Forall₂ (fun e e' => leaves? fs e = some e') before before' ∧
      StopsAt fs d failure f mid ∧
      (walk (visit fs) p ds).1 = before' ++ (f.effect mid).declaration :: after := by
  induction ds generalizing p with
  | nil =>
      rw [walk_nil, hp] at h
      cases h
  | cons d ds ih =>
      rw [walk_cons, visit_of_none hp] at h ⊢
      cases hfailure : (runOn 0 fs p d).2.failure? with
      | none =>
          obtain ⟨before, e, after, before', f, mid, rfl, hbefore, hstops, hwalk⟩ := ih hfailure h
          refine ⟨d :: before, e, after, (runOn 0 fs p d).1 :: before', f, mid, rfl,
            List.Forall₂.cons ?_ hbefore, hstops, ?_⟩
          · rw [leaves?_eq_some_iff hp 0]
            exact ⟨hfailure, rfl⟩
          · rw [hwalk]
            rfl
      | some failure' =>
          have hfixed : walk (visit fs) (runOn 0 fs p d).2 ds = (ds, (runOn 0 fs p d).2) :=
            walk_of_fixed (visit_of_failure (by rw [hfailure]; rfl)) ds
          rw [hfixed, hfailure] at h
          obtain rfl := Option.some.inj h
          obtain ⟨f, mid, hstops, hdeclaration⟩ := exists_stopsAt hp hfailure
          refine ⟨[], d, ds, [], f, mid, rfl, List.Forall₂.nil, hstops, ?_⟩
          rw [hfixed, hdeclaration]
          rfl

end Walk

/-- A run over a schema succeeds when it does over each declaration, and leaves what is left of
them. -/
theorem apply_eq_ok_iff_forall₂ :
    apply fs s = .ok t ↔ s.SameFrame t ∧
      List.Forall₂ (fun d e => leaves? fs d = some e) s.declarations t.declarations := by
  obtain ⟨hwalk, hprogress⟩ := s.declarations_mapAccum (visit fs) {}
  have hframe : s.SameFrame (run fs s).1 := s.sameFrame_mapAccum (visit fs) {}
  rw [apply_eq_ok_iff, run, hprogress]
  constructor
  · rintro ⟨hnone, rfl⟩
    refine ⟨hframe, ?_⟩
    rw [hwalk]
    exact forall₂_walk rfl hnone
  · rintro ⟨hframe', hleaves⟩
    obtain ⟨hnone, hdeclarations⟩ := walk_of_forall₂ (p := {}) rfl hleaves
    refine ⟨hnone, (hframe'.symm.trans hframe).eq_of_declarations ?_⟩
    rw [run, hwalk, hdeclarations]

theorem apply_nil (s : Schema) : apply [] s = .ok s :=
  apply_eq_ok_iff_forall₂.2
    ⟨⟨rfl, rfl, rfl, rfl⟩, List.forall₂_same.2 fun d _ => leaves?_nil d⟩

theorem exists_apply_eq_ok {es : List Declaration}
    (h : List.Forall₂ (fun d e => leaves? fs d = some e) s.declarations es) :
    ∃ t, apply fs s = .ok t ∧ t.declarations = es := by
  obtain ⟨hwalk, hprogress⟩ := s.declarations_mapAccum (visit fs) {}
  obtain ⟨hnone, hdeclarations⟩ := walk_of_forall₂ (p := {}) rfl h
  refine ⟨(run fs s).1, apply_eq_ok_iff.2 ⟨?_, rfl⟩, ?_⟩
  · rw [run, hprogress, hnone]
  · rw [run, hwalk, hdeclarations]

/-- Filters of which it is known what they leave of each declaration make it of the schema. -/
theorem exists_apply_of_leaves {left : Declaration → Declaration}
    (h : ∀ d ∈ s.declarations, leaves? fs d = some (left d)) :
    ∃ t, apply fs s = .ok t ∧ s.SameFrame t ∧ t.declarations = s.declarations.map left := by
  obtain ⟨t, ht, hdeclarations⟩ := exists_apply_eq_ok (s := s)
    (List.forall₂_map_right_iff.2 (List.forall₂_same.2 h))
  exact ⟨t, ht, (apply_eq_ok_iff_forall₂.1 ht).1, hdeclarations⟩

/-- A run over a schema succeeds just when it does over each declaration. -/
theorem exists_apply_iff :
    (∃ t, apply fs s = .ok t) ↔ ∀ d ∈ s.declarations, ∃ e, leaves? fs d = some e := by
  constructor
  · rintro ⟨t, ht⟩ d hd
    obtain ⟨-, hall⟩ := apply_eq_ok_iff_forall₂.1 ht
    obtain ⟨e, -, he⟩ := exists_of_mem_forall₂ hall.flip hd
    exact ⟨e, he⟩
  · intro h
    have hleft : ∀ d ∈ s.declarations, leaves? fs d = some ((leaves? fs d).getD d) := by
      intro d hd
      obtain ⟨e, he⟩ := h d hd
      rw [he, Option.getD_some]
    obtain ⟨t, ht, -⟩ := exists_apply_of_leaves hleft
    exact ⟨t, ht⟩

/-- Running filters in two parts is running them at once. -/
theorem apply_append_eq_ok_iff {u : Schema} :
    apply (fs ++ gs) s = .ok u ↔ ∃ t, apply fs s = .ok t ∧ apply gs t = .ok u := by
  have hleaves : ∀ d e, leaves? (fs ++ gs) d = some e ↔
      ∃ m, leaves? fs d = some m ∧ leaves? gs m = some e := by
    intro d e
    rw [leaves?_append, Option.bind_eq_some_iff]
  simp only [apply_eq_ok_iff_forall₂, hleaves]
  constructor
  · rintro ⟨hframe, hall⟩
    obtain ⟨ms, hfirst, hsecond⟩ := forall₂_comp_iff.1 hall
    obtain ⟨t, ht, rfl⟩ := exists_apply_eq_ok hfirst
    obtain ⟨hframe', -⟩ := apply_eq_ok_iff_forall₂.1 ht
    exact ⟨t, ⟨hframe', hfirst⟩, hframe'.symm.trans hframe, hsecond⟩
  · rintro ⟨t, ⟨hframe, hfirst⟩, hframe', hsecond⟩
    exact ⟨hframe.trans hframe', forall₂_comp_iff.2 ⟨_, hfirst, hsecond⟩⟩

end Pipeline

/-- Sifting a text is reading it, filtering what was read and writing what is left. -/
theorem Job.sift_of_apply (job : Job) {content : String} {t : Schema}
    (h : Pipeline.apply job.filters (Schema.ofText content) = .ok t) :
    job.sift content = {
      result := .ok (t.render job.layout)
      log := Schema.readingLog content ++ parsedRecord (Schema.ofText content) ::
        job.removalLog (Pipeline.run job.filters (Schema.ofText content)).2 } := by
  obtain ⟨hnone, rfl⟩ := Pipeline.apply_eq_ok_iff.1 h
  simp only [sift, hnone]

end SchemaSieve
