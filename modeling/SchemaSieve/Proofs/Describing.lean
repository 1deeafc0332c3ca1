import SchemaSieve.Proofs.Entries
import SchemaSieve.Proofs.Signatures

/-!
# Fields with a description above them

Filters read the signature of a field anew from the whole entry, its description included. A
description without a signature of its own is read over, and then describing fields and removing
fields by their names do not get in each other's way. A description with a signature stands in for
the field below it.
-/

namespace SchemaSieve

open Text

namespace Signature

variable {t : String}

theorem scan_of_not_isWord {c : Char} (hcolon : c ≠ ':') (hword : isWord c = false)
    (run cs : List Char) : scan run (c :: cs) = scan [] cs := by
  rw [scan_cons hcolon, hword]
  rfl

/-- A line below a description. -/
def below (t l : String) : String := "\n".intercalate [Action.descriptionLine t, l]

theorem toList_below (t l : String) : (below t l).toList
    = ' ' :: ' ' :: '"' :: '"' :: '"' :: (t.toList ++ '"' :: '"' :: '"' :: '\n' :: l.toList) := by
  simp [below, Action.descriptionLine, String.intercalate_cons_cons]

theorem scan_below (t l : String) : scan [] (below t l).toList
    = scan [] (t.toList ++ '"' :: '"' :: '"' :: '\n' :: l.toList) := by
  have hspace := scan_of_not_isWord (c := ' ') (by decide) (by decide)
  have hquote := scan_of_not_isWord (c := '"') (by decide) (by decide)
  rw [toList_below, hspace, hspace, hquote, hquote, hquote]

/-- A description without a signature is read over. -/
theorem ofField_below_of_not_isIn (h : ¬IsIn t.toList) (l : String) :
    ofField (below t l) = ofField l := by
  have hquote := scan_of_not_isWord (c := '"') (by decide) (by decide)
  have hbreak := scan_of_not_isWord (c := '\n') (by decide) (by decide)
  have hscan : scan [] (below t l).toList = scan [] l.toList := by
    rw [scan_below, scan_append_of_none (by decide) (by decide) (by decide) (scan_eq_none_iff.2 h),
      hquote, hquote, hbreak]
  rw [ofField, ofField, hscan]

/-- A description with a signature stands in for the field below it. -/
theorem ofField_below_of_isIn (h : IsIn t.toList) (l : String) :
    ofField (below t l) = ofField t := by
  have hsome : ∃ words, scan [] t.toList = some words :=
    Option.ne_none_iff_exists'.1 fun hnone => scan_eq_none_iff.1 hnone h
  obtain ⟨words, hwords⟩ := hsome
  have hscan : scan [] (below t l).toList = scan [] t.toList := by
    rw [scan_below, scan_append_of_some (by decide) hwords, hwords]
  rw [ofField, ofField, hscan]

end Signature

namespace Filter

variable {f : Filter} {t : String} {field : Field}

/-- The filter puts a text above some fields. -/
def Describes (f : Filter) (t : String) : Prop := ∃ selector, f.action = .describe selector t

/-- The filter removes some fields, or all others, and knows them by the names in their
signatures. -/
def RemovesByName (f : Filter) : Prop :=
  ∃ invert fieldName exception, f.action = .remove invert (.selector { fieldName, exception })

theorem wrapped_descriptionLine {l : String} (h : l ≠ "") (t : String) :
    Edit.wrapped (some (Action.descriptionLine t)) none l = Signature.below t l := by
  have hdescription : Action.descriptionLine t ≠ "" := by
    intro hempty
    simpa [Action.descriptionLine] using congrArg String.toList hempty
  simp [Edit.wrapped, Signature.below, h, hdescription]

theorem Describes.onEntry (hf : f.Describes t) (hne : field.line ≠ "") :
    f.onEntry field = .ok (some field.line) ∨
      f.onEntry field = .ok (some (Signature.below t field.line)) := by
  obtain ⟨selector, haction⟩ := hf
  rw [Filter.onEntry, haction]
  split
  · rw [Action.onEntry, Selector.newLine?]
    split
    · exact Or.inr (by rw [← wrapped_descriptionLine hne]; rfl)
    · exact Or.inl rfl
  · exact Or.inl rfl

theorem Describes.exists_onEntry (ht : ¬Signature.IsIn t.toList) (hf : f.Describes t)
    (hne : field.line ≠ "") :
    ∃ line, f.onEntry field = .ok (some line) ∧ Signature.ofField line = field.signature := by
  rcases hf.onEntry hne with h | h
  · exact ⟨field.line, h, rfl⟩
  · exact ⟨_, h, Signature.ofField_below_of_not_isIn ht field.line⟩

/-- Whether the filter, as one that removes fields by name, removes those of a name from a
declaration. -/
def removesName (f : Filter) (kind : Kind) (declaration name : String) : Bool :=
  match f.action with
  | .remove invert (.selector s) =>
    f.appliesTo kind declaration && (accepts s.fieldName name s.exception == !invert)
  | _ => false

/-- Whether an entry goes depends on the declaration that it is in, and on the name in its
signature. -/
theorem RemovesByName.onEntry (hf : f.RemovesByName) (field : Field) :
    f.onEntry field
      = .ok (if f.removesName field.kind field.declaration field.signature.name then none
          else some field.line) := by
  obtain ⟨invert, fieldName, exception, haction⟩ := hf
  have hselects : (Selector.mk fieldName none exception).selects field
      = accepts fieldName field.signature.name exception := Bool.or_false _
  rw [Filter.onEntry, removesName, haction, Action.onEntry, FieldTest.run, hselects]
  by_cases happlies : f.appliesTo field.kind field.declaration = true
  · simp [happlies, Except.map]
  · simp [happlies]

end Filter

namespace Pipeline

variable {fs gs : List Filter} {f g : Filter} {t : String} {d e : Declaration} {field : Field}

/-- Nothing is left of an entry that is given to some filters alone. -/
def TakesAway (fs : List Filter) (field : Field) : Prop :=
  ∃ s, apply fs (Schema.ofField field) = .ok s ∧ s.declarations.flatMap Declaration.fields = []

theorem fields_apply_ofField {left? : Option String} (h : onEntry fs field = .ok left?) :
    ∃ s, apply fs (Schema.ofField field) = .ok s ∧
      s.declarations.flatMap Declaration.fields = left?.toList := by
  obtain ⟨s, hs, hfields⟩ := exists_apply_ofField ⟨left?, h⟩
  refine ⟨s, hs, ?_⟩
  have hleft := onEntry_eq_ok_iff.2 ⟨left?, h⟩
  rw [hfields, ← Except.ok.inj (h.symm.trans hleft)]

theorem takesAway_iff {left? : Option String} (h : onEntry fs field = .ok left?) :
    TakesAway fs field ↔ left? = none := by
  obtain ⟨s, hs, hfields⟩ := fields_apply_ofField h
  constructor
  · rintro ⟨s', hs', hnone⟩
    obtain rfl := Except.ok.inj (hs.symm.trans hs')
    rw [hfields] at hnone
    simpa using hnone
  · rintro rfl
    exact ⟨s, hs, hfields⟩

theorem onEntry_singleton (f : Filter) (field : Field) : onEntry [f] field = f.onEntry field := by
  rw [onEntry]
  rcases f.onEntry field with reason | (_ | line) <;> rfl

/-- A removal by name does the same before and after a description that has no signature. -/
theorem exists_onEntry_describe_remove (ht : ¬Signature.IsIn t.toList) (hf : f.Describes t)
    (hg : g.RemovesByName) (hne : field.line ≠ "") :
    ∃ (goes : Bool) (line : String),
      onEntry [g] field = .ok (if goes then none else some field.line) ∧
      onEntry [f, g] field = .ok (if goes then none else some line) ∧
      onEntry [g, f] field = .ok (if goes then none else some line) := by
  obtain ⟨line, hline, hsignature⟩ := hf.exists_onEntry ht hne
  refine ⟨g.removesName field.kind field.declaration field.signature.name, line, ?_, ?_, ?_⟩
  · rw [onEntry_singleton, hg.onEntry]
  · have hsame : Field.signature { field with line } = field.signature := hsignature
    rw [onEntry_cons_of_some hline, onEntry_singleton, hg.onEntry, hsame]
  · cases hgoes : g.removesName field.kind field.declaration field.signature.name with
    | true => exact onEntry_cons_of_none (by rw [hg.onEntry, hgoes]; rfl)
    | false =>
        have hstays : g.onEntry field = .ok (some field.line) := by rw [hg.onEntry, hgoes]; rfl
        rw [onEntry_cons_of_some hstays, onEntry_singleton]
        exact hline

/-- A description with a signature of another name hides the field below it. -/
theorem not_takesAway_of_isIn (ht : Signature.IsIn t.toList) (hne : field.line ≠ "")
    (hname : (Signature.ofField t).name ≠ field.signature.name) :
    let byName : Selector := { fieldName := some (.exact [field.signature.name]) }
    let f : Filter := { action := .describe byName t }
    let g : Filter := { action := .remove false (.selector byName) }
    TakesAway [g] field ∧ ¬TakesAway [f, g] field := by
  intro byName f g
  have hremove : ∀ line, g.onEntry { field with line }
      = .ok (if (Signature.ofField line).name = field.signature.name then none else some line) := by
    intro line
    simp [g, byName, Filter.onEntry, Filter.appliesTo, Action.onEntry, FieldTest.run,
      Selector.selects, accepts, Matcher.isMatch, Except.map, Field.signature]
    rfl
  have hdescribe : f.onEntry field = .ok (some (Signature.below t field.line)) := by
    rw [← Filter.wrapped_descriptionLine hne]
    simp [f, byName, Filter.onEntry, Filter.appliesTo, Action.onEntry, Selector.newLine?,
      Selector.selects, accepts, Matcher.isMatch, Edit.run, Except.map]
  constructor
  · refine (takesAway_iff ?_).2 rfl
    rw [onEntry_singleton, hremove field.line]
    exact congrArg Except.ok (if_pos rfl)
  · have hleft : onEntry [f, g] field = .ok (some (Signature.below t field.line)) := by
      rw [onEntry_cons_of_some hdescribe, onEntry_singleton, hremove,
        Signature.ofField_below_of_isIn ht, if_neg hname]
    rw [takesAway_iff hleft]
    simp

/-- Filters that make the same of each entry, and add the same lines, leave the same. -/
theorem leaves?_congr (hentry : ∀ l ∈ d.fields, onEntry fs (d.field l) = onEntry gs (d.field l))
    (hadded : fs.filterMap (·.addedLine? d.kind d.name)
      = gs.filterMap (·.addedLine? d.kind d.name))
    (h : leaves? fs d = some e) : leaves? gs d = some e := by
  have hall := exists_leaves?_iff.1 ⟨e, h⟩
  obtain ⟨e', he'⟩ : ∃ e', leaves? gs d = some e' :=
    exists_leaves?_iff.2 fun l hl => by rw [← hentry l hl]; exact hall l hl
  have hfields : e'.fields = e.fields := by
    rw [fields_of_leaves? he', fields_of_leaves? h]
    exact List.filterMap_congr fun l hl => by rw [entryLeft, entryLeft, hentry l hl]
  have hadditions : e'.additions = e.additions := by
    rw [additions_of_leaves? he', additions_of_leaves? h, hadded]
  have hopening : e' = e := by
    rw [sameOpening_of_leaves? he', sameOpening_of_leaves? h, hfields, hadditions]
  rw [he', hopening]

/-- Filters that leave the same of each declaration make the same schema. -/
theorem exists_apply_eq_ok_both {s : Schema}
    (h : ∀ d ∈ s.declarations, ∃ e, leaves? fs d = some e ∧ leaves? gs d = some e) :
    ∃ t, apply fs s = .ok t ∧ apply gs s = .ok t := by
  have hleft : ∀ d ∈ s.declarations, leaves? fs d = some ((leaves? fs d).getD d) ∧
      leaves? gs d = some ((leaves? fs d).getD d) := by
    intro d hd
    obtain ⟨e, hfs, hgs⟩ := h d hd
    rw [hfs]
    exact ⟨rfl, hgs⟩
  obtain ⟨t, ht, hframe, hdeclarations⟩ := exists_apply_of_leaves fun d hd => (hleft d hd).1
  refine ⟨t, ht, apply_eq_ok_iff_forall₂.2 ⟨hframe, ?_⟩⟩
  rw [hdeclarations]
  exact List.forall₂_map_right_iff.2 (List.forall₂_same.2 fun d hd => (hleft d hd).2)

theorem addedLine?_describe_remove (hf : f.Describes t) (hg : g.RemovesByName) (kind : Kind)
    (name : String) :
    [f, g].filterMap (·.addedLine? kind name) = [] ∧
      [g, f].filterMap (·.addedLine? kind name) = [] := by
  obtain ⟨selector, hf⟩ := hf
  obtain ⟨invert, fieldName, exception, hg⟩ := hg
  simp [Filter.addedLine?, hf, hg]

theorem ne_empty_of_mem_fields {content l : String}
    (hd : d ∈ (Schema.ofText content).declarations) (hl : l ∈ d.fields) : l ≠ "" :=
  LineClass.ne_empty_of_ofLine ((isRead_of_mem_declarations hd).fields l hl).2 (by simp)

/-- Above no field of a text does the description change what later removals by name do. -/
structure HidesNoField (t : String) : Prop where
  /-- Described or not, the same entries are taken away. -/
  takesAway_iff : ∀ (content : String) (f g : Filter), f.Describes t → g.RemovesByName →
    ∀ d ∈ (Schema.ofText content).declarations, ∀ l ∈ d.fields,
      (TakesAway [f, g] (d.field l) ↔ TakesAway [g] (d.field l))
  /-- Fields may as well be described after the removal. -/
  apply_comm : ∀ (content : String) (f g : Filter), f.Describes t → g.RemovesByName →
    ∃ s, apply [f, g] (Schema.ofText content) = .ok s ∧
      apply [g, f] (Schema.ofText content) = .ok s
  /-- Each entry keeps its signature. -/
  signature_eq : ∀ (content : String) (f : Filter), f.Describes t →
    ∀ d ∈ (Schema.ofText content).declarations, ∀ l ∈ d.fields,
      ∃ s l', apply [f] (Schema.ofField (d.field l)) = .ok s ∧
        s.declarations.flatMap Declaration.fields = [l'] ∧
        Signature.ofField l' = Signature.ofField l

theorem hidesNoField_of_not_isIn (ht : ¬Signature.IsIn t.toList) : HidesNoField t where
  takesAway_iff content f g hf hg d hd l hl := by
    have hne : (d.field l).line ≠ "" := ne_empty_of_mem_fields hd hl
    obtain ⟨goes, line, hremove, hboth, -⟩ := exists_onEntry_describe_remove ht hf hg hne
    rw [takesAway_iff hboth, takesAway_iff hremove]
    cases goes <;> simp
  apply_comm content f g hf hg := by
    refine exists_apply_eq_ok_both fun d hd => ?_
    have hentry : ∀ l ∈ d.fields, ∃ left?, onEntry [f, g] (d.field l) = .ok left? ∧
        onEntry [g, f] (d.field l) = .ok left? := by
      intro l hl
      have hne : (d.field l).line ≠ "" := ne_empty_of_mem_fields hd hl
      obtain ⟨goes, line, -, hboth, hswapped⟩ := exists_onEntry_describe_remove ht hf hg hne
      exact ⟨_, hboth, hswapped⟩
    obtain ⟨hadded, hadded'⟩ := addedLine?_describe_remove hf hg d.kind d.name
    obtain ⟨e, he⟩ : ∃ e, leaves? [f, g] d = some e := exists_leaves?_iff.2 fun l hl =>
      (hentry l hl).imp fun _ h => h.1
    refine ⟨e, he, leaves?_congr (fun l hl => ?_) (hadded.trans hadded'.symm) he⟩
    obtain ⟨left?, hboth, hswapped⟩ := hentry l hl
    rw [hboth, hswapped]
  signature_eq content f hf d hd l hl := by
    have hne : (d.field l).line ≠ "" := ne_empty_of_mem_fields hd hl
    obtain ⟨line, hline, hsignature⟩ := hf.exists_onEntry ht hne
    rw [← onEntry_singleton] at hline
    obtain ⟨s, hs, hfields⟩ := fields_apply_ofField hline
    exact ⟨s, line, hs, hfields, hsignature⟩

theorem not_hidesNoField_of_isIn (ht : Signature.IsIn t.toList) : ¬HidesNoField t := by
  intro h
  have hdeclarations : (Schema.ofText "type A \x7b\n  a: Int\n  b: Int\n\x7d\n").declarations
      = [{ kind := .type, name := "A", fields := ["  a: Int", "  b: Int"] }] := by decide +kernel
  have hmem := List.mem_singleton_self
    ({ kind := .type, name := "A", fields := ["  a: Int", "  b: Int"] } : Declaration)
  rw [← hdeclarations] at hmem
  -- One of the two fields has another name than the description.
  have hfield : ∃ l ∈ ["  a: Int", "  b: Int"],
      (Signature.ofField t).name ≠ (Signature.ofField l).name := by
    by_cases hname : (Signature.ofField t).name = "a"
    · exact ⟨"  b: Int", by simp, by rw [hname]; decide⟩
    · exact ⟨"  a: Int", by simp, hname⟩
  obtain ⟨l, hl, hname⟩ := hfield
  have hne : (Field.mk .type "A" l).line ≠ "" := ne_empty_of_mem_fields hmem hl
  obtain ⟨hremoved, hkept⟩ := not_takesAway_of_isIn ht hne hname
  exact hkept ((h.takesAway_iff _ _ _ ⟨_, rfl⟩ ⟨_, _, _, rfl⟩ _ hmem l hl).2 hremoved)

/-- A description leaves removals by name as they are just when it has no signature of its own. -/
theorem hidesNoField_iff (t : String) : HidesNoField t ↔ ¬Signature.IsIn t.toList :=
  ⟨fun h ht => not_hidesNoField_of_isIn ht h, hidesNoField_of_not_isIn⟩

/-- A note with a colon in it keeps the field below it from being removed. -/
theorem apply_of_described_id :
    let s := Schema.ofText "type Album \x7b\n  id: ID\n  name: String\n\x7d\n"
    let id : Selector := { fieldName := some (.exact ["id"]) }
    let describe : Filter := { action := .describe id "Note: the id" }
    let remove : Filter := { action := .remove false (.selector id) }
    let left := fun fs => (run fs s).1.declarations.flatMap Declaration.fields
    left [remove] = ["  name: String"] ∧
      left [describe, remove] = ["  \"\"\"Note: the id\"\"\"\n  id: ID", "  name: String"] ∧
      ¬HidesNoField "Note: the id" := by
  intro s id describe remove left
  have hnote : Signature.IsIn "Note: the id".toList :=
    ⟨"Note".toList, ' ', "the id".toList, rfl, rfl⟩
  exact ⟨by decide +kernel, by decide +kernel, not_hidesNoField_of_isIn hnote⟩

end Pipeline

end SchemaSieve
