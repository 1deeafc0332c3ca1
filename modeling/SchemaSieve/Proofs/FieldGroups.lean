import Mathlib.Data.List.Flatten
import SchemaSieve.Proofs.Describing

/-!
# Fields over several lines

A field whose arguments stand on lines of their own takes one entry per line, and a filter sees one
entry at a time. What removals by name make of an entry is told by the name in its own signature:
`onEntry_of_byName`. The lines of such a field need not agree in that name, so one of its arguments
can go and leave the rest of the field behind. `losesWholeFields_iff` says that fields are removed
as a whole just when the lines of each of them share one name.
-/

namespace SchemaSieve

section Lists

variable {α : Type} {p : α → Bool} {gs : List (List α)} {g : List α}

theorem filter_eq_nil_of_not_all (h : ∀ x ∈ g, ∀ y ∈ g, p x = p y) (hall : ¬g.all p = true) :
    g.filter p = [] := by
  rw [List.all_eq_true] at hall
  push Not at hall
  obtain ⟨y, hy, hpy⟩ := hall
  rw [List.filter_eq_nil_iff]
  intro x hx
  rwa [h x hx y hy]

/-- The groups that a filter keeps as a whole. -/
def wholeGroups (p : α → Bool) (gs : List (List α)) : List (List α) := gs.filter fun g => g.all p

theorem wholeGroups_cons_of_all (hall : g.all p = true) :
    wholeGroups p (g :: gs) = g.filter p :: wholeGroups p gs := by
  have hself : g.filter p = g := List.filter_eq_self.2 (List.all_eq_true.1 hall)
  rw [hself]
  exact List.filter_cons_of_pos hall

theorem wholeGroups_cons_of_not_all (hall : ¬g.all p = true) :
    wholeGroups p (g :: gs) = wholeGroups p gs :=
  List.filter_cons_of_neg hall

theorem flatten_wholeGroups_sublist (p : α → Bool) (gs : List (List α)) :
    (wholeGroups p gs).flatten.Sublist (gs.flatten.filter p) := by
  induction gs with
  | nil => exact List.Sublist.slnil
  | cons g gs ih =>
      rw [List.flatten_cons, List.filter_append]
      by_cases hall : g.all p = true
      · rw [wholeGroups_cons_of_all hall, List.flatten_cons]
        exact List.Sublist.append_left ih _
      · rw [wholeGroups_cons_of_not_all hall]
        exact ih.trans (List.sublist_append_right _ _)

/-- A filter keeps no more than whole groups just when it tears none. -/
theorem flatten_wholeGroups_eq_iff :
    (wholeGroups p gs).flatten = gs.flatten.filter p ↔ ∀ g ∈ gs, ∀ x ∈ g, ∀ y ∈ g, p x = p y := by
  induction gs with
  | nil => simp [wholeGroups]
  | cons g gs ih =>
      rw [List.flatten_cons, List.filter_append, List.forall_mem_cons, ← ih]
      by_cases hall : g.all p = true
      · rw [wholeGroups_cons_of_all hall, List.flatten_cons, List.append_cancel_left_eq]
        refine ⟨fun h => ⟨fun x hx y hy => ?_, h⟩, And.right⟩
        rw [List.all_eq_true.1 hall x hx, List.all_eq_true.1 hall y hy]
      · rw [wholeGroups_cons_of_not_all hall]
        constructor
        · intro h
          -- The groups behind this one leave no room for anything of it.
          have hlength := (flatten_wholeGroups_sublist p gs).length_le
          rw [h, List.length_append] at hlength
          have hnil : g.filter p = [] := List.length_eq_zero_iff.1 (by omega)
          have hnone := List.filter_eq_nil_iff.1 hnil
          rw [hnil, List.nil_append] at h
          refine ⟨fun x hx y hy => ?_, h⟩
          rw [Bool.eq_false_iff.2 (hnone x hx), Bool.eq_false_iff.2 (hnone y hy)]
        · rintro ⟨hsame, h⟩
          rw [filter_eq_nil_of_not_all hsame hall, h, List.nil_append]

/-- What a filter keeps of a list of groups is put together from some of them just when it tears
none. -/
theorem exists_sublist_flatten_iff :
    (∃ kept : List (List α), kept.Sublist gs ∧ gs.flatten.filter p = kept.flatten) ↔
      ∀ g ∈ gs, ∀ x ∈ g, ∀ y ∈ g, p x = p y := by
  rw [← flatten_wholeGroups_eq_iff]
  refine ⟨?_, fun h => ⟨wholeGroups p gs, List.filter_sublist, h.symm⟩⟩
  rintro ⟨kept, hsublist, hkept⟩
  refine (flatten_wholeGroups_sublist p gs).antisymm ?_
  have hwhole : wholeGroups p kept = kept := by
    refine List.filter_eq_self.2 fun g hg => List.all_eq_true.2 fun x hx => ?_
    have hmem : x ∈ gs.flatten.filter p := hkept ▸ List.mem_flatten_of_mem hg hx
    exact (List.mem_filter.1 hmem).2
  rw [hkept, ← hwhole]
  exact (hsublist.filter _).flatten

end Lists

namespace ArgumentList

/-- The lines of a body put together into fields, given the lines of the field that has begun. A
field ends where no argument list is open. -/
def groupFrom : List String → List String → List (List String)
  | [], [] => []
  | group, [] => [group]
  | group, l :: ls =>
    if next (!group.isEmpty) l then groupFrom (group ++ [l]) ls
    else (group ++ [l]) :: groupFrom [] ls

theorem flatten_groupFrom (group ls : List String) :
    (groupFrom group ls).flatten = group ++ ls := by
  induction ls generalizing group with
  | nil => cases group <;> simp [groupFrom]
  | cons l ls ih =>
      rw [groupFrom]
      split
      · rw [ih, List.append_assoc, List.singleton_append]
      · rw [List.flatten_cons, ih, List.nil_append, List.append_assoc, List.singleton_append]

end ArgumentList

namespace Declaration

variable {d e : Declaration} {p : String → Bool}

/-- The fields of a declaration, each with all its lines. -/
def fieldGroups (d : Declaration) : List (List String) := ArgumentList.groupFrom [] d.fields

theorem flatten_fieldGroups (d : Declaration) : d.fieldGroups.flatten = d.fields :=
  ArgumentList.flatten_groupFrom [] d.fields

example : ({ kind := .type, name := "A", fields :=
      ["  id: ID", "  all(", "    max: Int", "  ): Int", "  one(id: ID): Int"] } :
        Declaration).fieldGroups
    = [["  id: ID"], ["  all(", "    max: Int", "  ): Int"], ["  one(id: ID): Int"]] := by
  decide +kernel

/-- What is left of the fields are some of them, each with all its lines. -/
def LosesWholeFields (d e : Declaration) : Prop :=
  ∃ kept : List (List String), kept.Sublist d.fieldGroups ∧ e.fields = kept.flatten

theorem losesWholeFields_of_filter (h : e.fields = d.fields.filter p) :
    d.LosesWholeFields e ↔ ∀ g ∈ d.fieldGroups, ∀ l ∈ g, ∀ l' ∈ g, p l = p l' := by
  rw [← exists_sublist_flatten_iff, d.flatten_fieldGroups, ← h]
  rfl

end Declaration

namespace Pipeline

variable {fs : List Filter} {s t : Schema} {d e : Declaration}

/-- Removals by name look at nothing of an entry but the name in its signature. -/
theorem onEntry_of_byName (hfs : ∀ f ∈ fs, f.RemovesByName) (field : Field) :
    onEntry fs field
      = .ok (if fs.any (·.removesName field.kind field.declaration field.signature.name) then none
          else some field.line) :=
  onEntry_of_forall fun f hf => (hfs f hf).onEntry field

/-- What is left by removals by name: the lines whose names none of them removes. -/
def LeavesOtherNames (fs : List Filter) (d e : Declaration) : Prop :=
  e.fields = d.fields.filter fun l =>
    !fs.any (·.removesName d.kind d.name (Signature.ofField l).name)

theorem exists_leavesOtherNames (hfs : ∀ f ∈ fs, f.RemovesByName) (s : Schema) :
    ∃ t, apply fs s = .ok t ∧
      List.Forall₂ (LeavesOtherNames fs) s.declarations t.declarations := by
  have hleaves : ∀ d ∈ s.declarations, ∃ e, leaves? fs d = some e :=
    fun d _ => exists_leaves?_iff.2 fun l _ => ⟨_, onEntry_of_byName hfs (d.field l)⟩
  obtain ⟨t, ht⟩ := exists_apply_iff.2 hleaves
  refine ⟨t, ht, (apply_eq_ok_iff_forall₂.1 ht).2.imp fun d e he => ?_⟩
  exact fields_eq_filter (fun l => onEntry_of_byName hfs (d.field l)) he

theorem LeavesOtherNames.losesWholeFields_iff_forall_mem (h : LeavesOtherNames fs d e) :
    d.LosesWholeFields e ↔ ∀ g ∈ d.fieldGroups, ∀ l ∈ g, ∀ l' ∈ g,
      (l ∈ e.fields ↔ l' ∈ e.fields) := by
  rw [Declaration.losesWholeFields_of_filter h]
  refine forall₂_congr fun g hg => forall₂_congr fun l hl => forall₂_congr fun l' hl' => ?_
  have hmem : ∀ m ∈ g, m ∈ d.fields := by
    intro m hm
    rw [← d.flatten_fieldGroups]
    exact List.mem_flatten_of_mem hg hm
  rw [h, List.mem_filter, List.mem_filter, Bool.eq_iff_iff]
  simp [hmem l hl, hmem l' hl']

/-- The filter that removes the fields of a name. -/
def removalOf (name : String) : Filter :=
  { action := .remove false (.selector { fieldName := some (.exact [name]) }) }

theorem removesByName_removalOf (name : String) : (removalOf name).RemovesByName :=
  ⟨false, some (.exact [name]), none, rfl⟩

theorem removesName_removalOf (kind : Kind) (declaration name name' : String) :
    (removalOf name).removesName kind declaration name' = decide (name' = name) := by
  simp [removalOf, Filter.removesName, Filter.appliesTo, accepts, Matcher.isMatch]

/-- Where the lines of a field differ in their names, removing one of the names tears the field. -/
theorem name_eq_of_losesWholeFields {g : List String} {l l' : String}
    (h : LeavesOtherNames [removalOf (Signature.ofField l).name] d e)
    (hwhole : d.LosesWholeFields e)
    (hg : g ∈ d.fieldGroups) (hl : l ∈ g) (hl' : l' ∈ g) :
    (Signature.ofField l).name = (Signature.ofField l').name := by
  have hsame := (Declaration.losesWholeFields_of_filter h).1 hwhole g hg l' hl' l hl
  simp only [List.any_cons, List.any_nil, removesName_removalOf] at hsame
  by_contra hne
  simp [Ne.symm hne] at hsame

/-- **Removals by name decide line by line**, on the name in the signature of each line. So they
leave whole fields just where they keep all lines of a field or none, and all of them do so for a
text just when the lines of each of its fields share one name. -/
theorem losesWholeFields_iff (content : String) :
    (∀ fs : List Filter, (∀ f ∈ fs, f.RemovesByName) →
        ∃ t, apply fs (Schema.ofText content) = .ok t ∧
          List.Forall₂ (fun d e => LeavesOtherNames fs d e ∧
            (d.LosesWholeFields e ↔ ∀ g ∈ d.fieldGroups, ∀ l ∈ g, ∀ l' ∈ g,
              (l ∈ e.fields ↔ l' ∈ e.fields)))
            (Schema.ofText content).declarations t.declarations) ∧
      ((∀ fs : List Filter, (∀ f ∈ fs, f.RemovesByName) →
          ∀ t, apply fs (Schema.ofText content) = .ok t →
            List.Forall₂ Declaration.LosesWholeFields (Schema.ofText content).declarations
              t.declarations) ↔
        ∀ d ∈ (Schema.ofText content).declarations, ∀ g ∈ d.fieldGroups, ∀ l ∈ g, ∀ l' ∈ g,
          (Signature.ofField l).name = (Signature.ofField l').name) := by
  set s := Schema.ofText content
  refine ⟨fun fs hfs => ?_, fun hwhole d hd g hg l hl l' hl' => ?_, fun hnames fs hfs t ht => ?_⟩
  · obtain ⟨t, ht, hleaves⟩ := exists_leavesOtherNames hfs s
    exact ⟨t, ht, hleaves.imp fun d e h => ⟨h, h.losesWholeFields_iff_forall_mem⟩⟩
  · have hbyName : ∀ f ∈ [removalOf (Signature.ofField l).name], f.RemovesByName :=
      List.forall_mem_singleton.2 (removesByName_removalOf _)
    obtain ⟨t, ht, hleaves⟩ := exists_leavesOtherNames hbyName s
    have hboth := hleaves.mp (fun d e => And.intro) (hwhole _ hbyName t ht)
    obtain ⟨e, -, hleft, hlost⟩ := exists_of_mem_forall₂ hboth.flip hd
    exact name_eq_of_losesWholeFields hleft hlost hg hl hl'
  · obtain ⟨t', ht', hleaves⟩ := exists_leavesOtherNames hfs s
    obtain rfl := Except.ok.inj (ht.symm.trans ht')
    refine ((List.forall₂_and_left _ _).2 ⟨hnames, hleaves⟩).imp fun d e ⟨hnames, hleft⟩ => ?_
    refine (Declaration.losesWholeFields_of_filter hleft).2 fun g hg l hl l' hl' => ?_
    rw [hnames g hg l hl l' hl']

/-- A field without arguments of its own lines keeps all its lines or loses them all. -/
theorem losesWholeFields_of_empty_list :
    let s := Schema.ofText "type A \x7b\n  all(\n  ): Int\n  id: ID\n\x7d\n"
    s.declarations.map Declaration.fieldGroups = [[["  all(", "  ): Int"], ["  id: ID"]]] ∧
      (∃ t, apply [removalOf "id"] s = .ok t ∧
        List.Forall₂ (LeavesOtherNames [removalOf "id"]) s.declarations t.declarations) ∧
      ∀ t, apply [removalOf "id"] s = .ok t →
        List.Forall₂ Declaration.LosesWholeFields s.declarations t.declarations := by
  intro s
  have hbyName : ∀ f ∈ [removalOf "id"], f.RemovesByName :=
    List.forall_mem_singleton.2 (removesByName_removalOf "id")
  obtain ⟨hlines, hwhole⟩ :=
    losesWholeFields_iff "type A \x7b\n  all(\n  ): Int\n  id: ID\n\x7d\n"
  obtain ⟨t, ht, hleaves⟩ := hlines _ hbyName
  refine ⟨by decide +kernel, ⟨t, ht, hleaves.imp fun d e h => h.1⟩, ?_⟩
  exact hwhole.2 (by decide +kernel) _ hbyName

/-- An argument that goes by its name leaves the lines around it behind. -/
theorem not_losesWholeFields_of_argument :
    let s := Schema.ofText "type A \x7b\n  author(\n    id: ID\n  ): Person\n\x7d\n"
    let t := (run [removalOf "id"] s).1
    (removalOf "id").RemovesByName ∧ apply [removalOf "id"] s = .ok t ∧
      s.declarations.map Declaration.fieldGroups
        = [[["  author(", "    id: ID", "  ): Person"]]] ∧
      t.declarations.map Declaration.fields = [["  author(", "  ): Person"]] ∧
      ¬List.Forall₂ Declaration.LosesWholeFields s.declarations t.declarations := by
  intro s t
  have happly : apply [removalOf "id"] s = .ok t := apply_eq_ok_iff.2 ⟨by decide +kernel, rfl⟩
  refine ⟨removesByName_removalOf "id", happly, by decide +kernel, by decide +kernel, ?_⟩
  intro hwhole
  have hs : s.declarations = [{ kind := .type, name := "A", fields :=
      ["  author(", "    id: ID", "  ): Person"] }] := by decide +kernel
  have ht : t.declarations = [{ kind := .type, name := "A", fields :=
      ["  author(", "  ): Person"] }] := by decide +kernel
  rw [hs, ht, List.forall₂_cons] at hwhole
  obtain ⟨⟨kept, hsublist, hkept⟩, -⟩ := hwhole
  have hgroups : kept.Sublist [["  author(", "    id: ID", "  ): Person"]] := hsublist
  rcases List.sublist_singleton.1 hgroups with rfl | rfl <;> simp at hkept

end Pipeline

end SchemaSieve
