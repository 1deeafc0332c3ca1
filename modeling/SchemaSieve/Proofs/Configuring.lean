import SchemaSieve.Proofs.BrokenRemovals
import SchemaSieve.Proofs.Deciding

/-!
# What the rules of a configuration do

A rule becomes a filter that adds a line, one for the fields, both or none. `Rule.outcome` tells
what the rule makes of a declaration without asking which: a rule that only adds a line selects no
field, so the removal that it does without would keep them all. Rules never fail, and a
configuration runs them one after another.
-/

namespace SchemaSieve

open Pipeline

/-- A line between the lines to put above and below it. Empty ones are left out. -/
def Surround.around (s : Surround) (line : String) : String :=
  "\n".intercalate ([s.prepend.getD "", line, s.append.getD ""].filter (· ≠ ""))

theorem Surround.wrapped_eq_around (s : Surround) (line : String) :
    Edit.wrapped s.prepend s.append line = s.around line := by
  rw [Edit.wrapped, around]
  congr 1
  cases s.prepend <;> cases s.append <;> simp [List.filter_cons]

namespace Filter

variable {d : Declaration}

theorem foldlM_acted?_singleton (a : Action) (d : Declaration) :
    [a].foldlM acted? d = acted? d a := by
  rw [List.foldlM_cons]
  cases acted? d a <;> rfl

theorem acted?_selector (invert : Bool) (s : Selector) (d : Declaration) :
    acted? d (.remove invert (.selector s))
      = some { d with fields := d.fields.filter fun l => s.selects (d.field l) == invert } := by
  have hleaves := leaves?_of_selector (f := { action := .remove invert (.selector s) }) rfl d
  have happlies : appliesTo { action := .remove invert (.selector s) } d.kind d.name = true := rfl
  rw [leaves?_eq_foldlM, narrow, if_pos happlies] at hleaves
  rw [← hleaves, List.filter_cons, if_pos happlies, List.filter_nil, List.map_singleton,
    foldlM_acted?_singleton]

theorem acted?_wrap (s : Selector) (above below : Option String) (d : Declaration) :
    acted? d (.edit s (.wrap above below))
      = some { d with fields := d.fields.map fun l =>
          if s.selects (d.field l) then Edit.wrapped above below l else l } := by
  have hentry : ∀ l ∈ d.fields,
      (s.newLine? (.wrap above below) (d.field l)).map (fun new? => some (new?.getD l))
        = .ok (some (if s.selects (d.field l) then Edit.wrapped above below l else l)) := by
    intro l _
    rw [Selector.newLine?]
    split <;> rfl
  obtain ⟨hpasses, hfields⟩ := editFields_of_ok hentry
  rw [List.filterMap_eq_map'] at hfields
  rw [acted?, act, hpasses, ← hfields]
  rfl

end Filter

namespace Rule

variable {r : Rule} {d : Declaration}

/-- Whether a rule is for a declaration. -/
def isFor (r : Rule) (d : Declaration) : Bool :=
  r.kind.all (· = d.kind) && r.name.all (·.isMatch d.name) && !r.exceptName.any (·.isMatch d.name)

/-- Whether a rule selects a field, by the name in its signature or by the whole line. A name or a
line that the rule excepts does not count. -/
def picks (r : Rule) (d : Declaration) (l : String) : Bool :=
  accepts r.fieldName (d.field l).signature.name r.except || accepts r.line l r.except

/-- What a rule leaves of the fields: all of them, with lines around those that it selects, or only
those that it selects, or only the others. -/
def leftFields (r : Rule) (d : Declaration) : List String :=
  match r.surround with
  | some s => d.fields.map fun l => if r.picks d l then s.around l else l
  | none => d.fields.filter fun l => r.picks d l == r.invert

/-- What a rule makes of a declaration. -/
def outcome (r : Rule) (d : Declaration) : Declaration :=
  if r.isFor d then
    { d with additions := d.additions ++ r.add.toList, fields := r.leftFields d }
  else d

theorem selects_selector (r : Rule) (d : Declaration) (l : String) :
    r.selector.selects (d.field l) = r.picks d l := rfl

theorem appliesTo_filter (r : Rule) (a : Action) (d : Declaration) :
    (r.filter a).appliesTo d.kind d.name = r.isFor d := by
  rw [Filter.appliesTo, filter, isFor, Bool.and_assoc]
  cases r.name with
  | none => simp
  | some m => simp [accepts]

theorem map_action_filters (r : Rule) :
    r.filters.map (·.action) = (r.add.map Action.add).toList ++ r.fieldAction?.toList := by
  rw [filters, List.map_map]
  exact List.map_id _

theorem foldlM_add (r : Rule) (d : Declaration) :
    (r.add.map Action.add).toList.foldlM Filter.acted? d
      = some { d with additions := d.additions ++ r.add.toList } := by
  cases r.add with
  | none => simp
  | some line => rfl

/-- A rule that does nothing to the fields selects none of them, and would keep the others. -/
theorem leftFields_of_no_action (h : r.fieldAction? = none) (d : Declaration) :
    r.leftFields d = d.fields := by
  rw [fieldAction?] at h
  split at h
  · cases h
  · rename_i hsurround
    split at h
    · cases h
    · rename_i hnothing
      obtain ⟨⟨⟨-, hname⟩, hline⟩, hinvert⟩ :
          ((¬r.add = none ∧ r.fieldName = none) ∧ r.line = none) ∧ r.invert = false := by
        simpa using hnothing
      have hpicks : ∀ l, r.picks d l = false := by
        intro l
        simp [picks, hname, hline, accepts]
      simp [leftFields, hsurround, hpicks, hinvert]

theorem foldlM_fieldAction? (r : Rule) (d : Declaration) :
    r.fieldAction?.toList.foldlM Filter.acted? d = some { d with fields := r.leftFields d } := by
  cases haction : r.fieldAction? with
  | none =>
      rw [leftFields_of_no_action haction]
      rfl
  | some a =>
      rw [Option.toList_some, Filter.foldlM_acted?_singleton]
      rw [fieldAction?] at haction
      split at haction
      · rename_i s hsurround
        obtain rfl := Option.some.inj haction
        rw [Filter.acted?_wrap, leftFields, hsurround]
        simp only [selects_selector, s.wrapped_eq_around]
      · rename_i hsurround
        split at haction
        · obtain rfl := Option.some.inj haction
          rw [Filter.acted?_selector, leftFields, hsurround]
          simp only [selects_selector]
        · cases haction

theorem leaves?_filters (r : Rule) (d : Declaration) :
    leaves? r.filters d = some (r.outcome d) := by
  have hgate : ∀ f ∈ r.filters, f.appliesTo d.kind d.name = r.isFor d := by
    intro f hf
    obtain ⟨a, -, rfl⟩ := List.mem_map.1 hf
    exact r.appliesTo_filter a d
  rw [leaves?_eq_foldlM, outcome]
  by_cases hfor : r.isFor d = true
  · have hall : r.filters.filter (·.appliesTo d.kind d.name) = r.filters :=
      List.filter_eq_self.2 fun f hf => (hgate f hf).trans hfor
    rw [hall, map_action_filters, List.foldlM_append, foldlM_add, if_pos hfor]
    exact foldlM_fieldAction? r _
  · have hnone : r.filters.filter (·.appliesTo d.kind d.name) = [] :=
      List.filter_eq_nil_iff.2 fun f hf => (hgate f hf) ▸ hfor
    rw [hnone, if_neg hfor]
    rfl

/-- Running a rule never fails. -/
theorem exists_apply_filters (r : Rule) (s : Schema) :
    ∃ t, apply r.filters s = .ok t ∧ s.SameFrame t ∧
      t.declarations = s.declarations.map r.outcome :=
  exists_apply_of_leaves fun d _ => r.leaves?_filters d

theorem exists_removes_iff (r : Rule) :
    (∃ f ∈ r.filters, f.Removes) ↔ r.surround = none ∧
      (r.add = none ∨ r.fieldName ≠ none ∨ r.line ≠ none ∨ r.invert = true) := by
  have hfield : (∃ f ∈ r.filters, f.Removes) ↔
      ∃ a, r.fieldAction? = some a ∧ ∃ invert test, a = .remove invert test := by
    constructor
    · rintro ⟨f, hf, invert, test, haction⟩
      have hmem : f.action ∈ r.filters.map (·.action) := List.mem_map_of_mem hf
      rw [map_action_filters, List.mem_append, Option.mem_toList, Option.mem_toList] at hmem
      obtain hadd | hmem := hmem
      · obtain ⟨line, -, hline⟩ := Option.map_eq_some_iff.1 hadd
        cases hline.trans haction
      · exact ⟨f.action, hmem, invert, test, haction⟩
    · rintro ⟨a, ha, invert, test, haction⟩
      have hmem : r.filter a ∈ r.filters :=
        List.mem_map_of_mem (List.mem_append_right _ (Option.mem_toList.2 ha))
      exact ⟨r.filter a, hmem, invert, test, haction⟩
  have hcondition : (r.add.isNone || r.fieldName.isSome || r.line.isSome || r.invert) = true ↔
      r.add = none ∨ r.fieldName ≠ none ∨ r.line ≠ none ∨ r.invert = true := by
    simp [Option.isSome_iff_ne_none, or_assoc]
  rw [hfield, fieldAction?, ← hcondition]
  split
  · rename_i s hsurround
    simp [hsurround]
  · rename_i hsurround
    split
    · rename_i hremoves
      exact iff_of_true ⟨_, rfl, _, _, rfl⟩ ⟨hsurround, hremoves⟩
    · rename_i hkeeps
      refine iff_of_false ?_ fun h => hkeeps h.2
      rintro ⟨a, ha, -⟩
      cases ha

end Rule

namespace Config

/-- What the rules of a configuration make of a declaration, one after another. -/
def outcome (c : Config) (d : Declaration) : Declaration :=
  c.rules.foldl (fun d r => r.outcome d) d

theorem exists_apply_rules (rs : List Rule) (s : Schema) :
    ∃ t, apply (rs.flatMap Rule.filters) s = .ok t ∧
      rs.foldlM (fun u r => apply r.filters u) s = .ok t ∧ s.SameFrame t ∧
      t.declarations = s.declarations.map fun d => rs.foldl (fun d r => r.outcome d) d := by
  induction rs generalizing s with
  | nil =>
      exact ⟨s, apply_nil s, rfl, ⟨rfl, rfl, rfl, rfl⟩, (List.map_id _).symm⟩
  | cons r rs ih =>
      obtain ⟨u, hu, hframe, hdeclarations⟩ := r.exists_apply_filters s
      obtain ⟨t, ht, hsteps, hframe', hdeclarations'⟩ := ih u
      refine ⟨t, ?_, ?_, hframe.trans hframe', ?_⟩
      · rw [List.flatMap_cons, apply_append_eq_ok_iff]
        exact ⟨u, hu, ht⟩
      · rw [List.foldlM_cons, hu]
        exact hsteps
      · rw [hdeclarations', hdeclarations, List.map_map]
        rfl

/-- **The rules of a configuration do what they say.** Running a rule never fails. It leaves alone
the declarations that it is not for; the others gain the line that it adds, and of their fields are
left those that `Rule.leftFields` tells, also if the rule does without a removal. A configuration
runs its rules one after another, and sifting with it always gives a text. -/
theorem apply_filters_and_sift (r : Rule) (c : Config) :
    (∀ s : Schema, ∃ t, apply r.filters s = .ok t ∧ s.SameFrame t ∧
      t.declarations = s.declarations.map r.outcome) ∧
    ((∃ f ∈ r.filters, f.Removes) ↔ r.surround = none ∧
      (r.add = none ∨ r.fieldName ≠ none ∨ r.line ≠ none ∨ r.invert = true)) ∧
    (∀ s : Schema, ∃ t, apply c.filters s = .ok t ∧
      c.rules.foldlM (fun u r => apply r.filters u) s = .ok t ∧ s.SameFrame t ∧
      t.declarations = s.declarations.map c.outcome) ∧
    ∀ content preserving logRemovals, ∃ t, apply c.filters (Schema.ofText content) = .ok t ∧
      ((c.job preserving logRemovals).sift content).result
        = .ok (t.render (c.layout preserving)) := by
  refine ⟨r.exists_apply_filters, r.exists_removes_iff, exists_apply_rules c.rules, ?_⟩
  intro content preserving logRemovals
  obtain ⟨t, ht, -⟩ := exists_apply_rules c.rules (Schema.ofText content)
  have happly : apply (c.job preserving logRemovals).filters (Schema.ofText content) = .ok t := ht
  refine ⟨t, ht, ?_⟩
  rw [Job.sift_of_apply _ happly]
  rfl

end Config

end SchemaSieve
