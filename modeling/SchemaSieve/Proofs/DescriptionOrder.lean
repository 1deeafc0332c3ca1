import SchemaSieve.Filter.PerDeclaration
import SchemaSieve.Proofs.Storing
import Mathlib.Data.List.Forall2

/-!
# The order of descriptions

Texts that are stored one after the other come back under their keys, the last of those that are
stored under one key. `storedKeys` lists the keys: kinds, declarations of a kind and fields of a
declaration as they first came, those under which the text of a declaration itself is stored
included. So a key that is stored again keeps its place.
-/

namespace SchemaSieve

open OrderedMap

namespace DescriptionEntry

def key (e : DescriptionEntry) : Kind × String × String := (e.kind, e.declaration, e.field)

/-- The last of some entries with a key. -/
def lastWithKey? (es : List DescriptionEntry) (k : Kind × String × String) :
    Option DescriptionEntry :=
  (es.filter (·.key = k)).getLast?

/-- The kind of the first key came first, or they are of one kind and the declaration of the first
came first, or they are of one declaration and the first came first. -/
def ComesBefore (es : List DescriptionEntry) (x y : Kind × String × String) : Prop :=
  es.findIdx (·.kind = x.1) < es.findIdx (·.kind = y.1) ∨ x.1 = y.1 ∧
    (es.findIdx (fun e => e.kind = x.1 && e.declaration = x.2.1)
        < es.findIdx (fun e => e.kind = y.1 && e.declaration = y.2.1) ∨ x.2.1 = y.2.1 ∧
      es.findIdx (·.key = x) < es.findIdx (·.key = y))

/-- A filter writes the text of an entry above the fields with its name, in its declaration. -/
structure WrittenBy (e : DescriptionEntry) (f : Filter) : Prop where
  action : ∃ s, f.action = .describe s e.text ∧
    ∀ field : Field, s.selects field = true ↔ field.signature.name = e.field
  appliesTo : ∀ kind name, f.appliesTo kind name = true ↔ kind = e.kind ∧ name = e.declaration

theorem writtenBy_toFilter (e : DescriptionEntry) : e.WrittenBy e.toFilter where
  action := by
    refine ⟨_, rfl, fun field => ?_⟩
    simp [Selector.selects, accepts, Matcher.isMatch_ofTexts]
  appliesTo := by
    intro kind name
    simp [Filter.appliesTo, toFilter, accepts, Matcher.isMatch_ofTexts, @eq_comm _ e.kind]

theorem ComesBefore.irrefl {es : List DescriptionEntry} {k : Kind × String × String} :
    ¬ComesBefore es k k := by
  simp [ComesBefore]

end DescriptionEntry

/-- One call that stores a text, for a field or for a declaration itself. -/
inductive Descriptions.Call where
  | field (kind : Kind) (declaration field text : String)
  | node (kind : Kind) (declaration text : String)

namespace Descriptions.Call

def run (m : Descriptions) : Call → Descriptions
  | field kind declaration name text => m.insert kind declaration name text
  | node kind declaration text => m.insertNode kind declaration text

def entry : Call → DescriptionEntry
  | field kind declaration name text => ⟨kind, declaration, name, text⟩
  | node kind declaration text => ⟨kind, declaration, nodeKey, text⟩

theorem run_eq_insert (c : Call) (m : Descriptions) :
    c.run m = m.insert c.entry.kind c.entry.declaration c.entry.field c.entry.text := by
  cases c <;> rfl

end Descriptions.Call

namespace Descriptions

open DescriptionEntry

variable {m : Descriptions} {e : DescriptionEntry} {es : List DescriptionEntry}

theorem mem_toList_iff :
    e ∈ m.toList ↔ m.field? e.kind e.declaration e.field = some e.text := by
  simp only [toList, field?, fieldsOf?, List.mem_flatMap, List.mem_map, Option.bind_eq_some_iff,
    find?_eq_some_iff]
  constructor
  · rintro ⟨g, hg, fs, hfs, t, ht, rfl⟩
    exact ⟨fs.2, ⟨g.2, hg, hfs⟩, ht⟩
  · rintro ⟨fs, ⟨g, hg, hfs⟩, ht⟩
    exact ⟨_, hg, _, hfs, _, ht, rfl⟩

theorem ofList_concat (es : List DescriptionEntry) (e : DescriptionEntry) :
    ofList (es ++ [e]) = (ofList es).insert e.kind e.declaration e.field e.text := by
  rw [ofList, List.foldl_append]
  rfl

theorem foldl_run (calls : List Call) :
    calls.foldl Call.run {} = ofList (calls.map Call.entry) := by
  induction calls using List.reverseRecOn with
  | nil => rfl
  | append_singleton calls c ih =>
      rw [List.map_append, List.map_singleton, ofList_concat, List.foldl_append, ih]
      exact c.run_eq_insert _

/-- Under a key stands the text that was stored last. -/
theorem field?_ofList (es : List DescriptionEntry) (kind : Kind) (declaration field : String) :
    (ofList es).field? kind declaration field
      = (lastWithKey? es (kind, declaration, field)).map (·.text) := by
  induction es using List.reverseRecOn with
  | nil => rfl
  | append_singleton es e ih =>
      have hkey : e.key = (kind, declaration, field) ↔
          e.kind = kind ∧ e.declaration = declaration ∧ e.field = field := by
        simp [key]
      simp only [ofList_concat, field?_insert, ih, ← hkey]
      by_cases h : e.key = (kind, declaration, field) <;> simp [lastWithKey?, h]

section Order

def textsOf (es : List DescriptionEntry) : OrderedMap String String :=
  es.foldl (fun fs e => fs.alter e.field fun _ => e.text) ∅

def groupOf (es : List DescriptionEntry) : OrderedMap String (OrderedMap String String) :=
  es.foldl (fun g e => g.alter e.declaration fun fs => (fs.getD ∅).insert e.field e.text) ∅

theorem entries_ofList (es : List DescriptionEntry) :
    (ofList es).entries = es.foldl (fun m e => m.alter e.kind fun g =>
      (g.getD ∅).alter e.declaration fun fs => (fs.getD ∅).insert e.field e.text) ∅ := by
  induction es using List.reverseRecOn with
  | nil => rfl
  | append_singleton es e ih =>
      rw [ofList_concat, List.foldl_append, ← ih]
      rfl

theorem find?_entries_ofList (es : List DescriptionEntry) (kind : Kind) :
    ((ofList es).entries.find? kind).getD ∅ = groupOf (es.filter (·.kind = kind)) := by
  rw [entries_ofList, find?_foldl_alter]
  exact getD_foldl_some
    (fun (g : OrderedMap String (OrderedMap String String)) (e : DescriptionEntry) =>
      g.alter e.declaration fun fs => (fs.getD ∅).insert e.field e.text) _ ∅ none

theorem find?_groupOf (es : List DescriptionEntry) (declaration : String) :
    ((groupOf es).find? declaration).getD ∅
      = textsOf (es.filter (·.declaration = declaration)) := by
  rw [groupOf, find?_foldl_alter]
  exact getD_foldl_some
    (fun (fs : OrderedMap String String) (e : DescriptionEntry) => fs.insert e.field e.text) _ ∅
    none

/-- The keys of entries: kinds, declarations of a kind and fields of a declaration, all as they
first come. -/
def storedKeys (es : List DescriptionEntry) : List (Kind × String × String) :=
  (es.map (·.kind)).eraseDups.flatMap fun kind =>
    ((es.filter (·.kind = kind)).map (·.declaration)).eraseDups.flatMap fun declaration =>
      ((es.filter fun e => e.kind = kind && e.declaration = declaration).map
        (·.field)).eraseDups.map (kind, declaration, ·)

theorem map_key_toList (m : Descriptions) :
    m.toList.map key = m.entries.keys.flatMap fun kind =>
      ((m.entries.find? kind).getD ∅).keys.flatMap fun declaration =>
        ((((m.entries.find? kind).getD ∅).find? declaration).getD ∅).keys.map
          (kind, declaration, ·) := by
  have hfields : ∀ kind declaration (fs : OrderedMap String String),
      (fs.entries.map fun e => (⟨kind, declaration, e.1, e.2⟩ : DescriptionEntry)).map key
        = fs.keys.map (kind, declaration, ·) := by
    intro kind declaration fs
    rw [keys, List.map_map, List.map_map]
    rfl
  rw [toList, List.map_flatMap]
  simp only [List.map_flatMap, hfields]
  rw [m.entries.flatMap_entries ∅ fun kind g => g.entries.flatMap fun fs =>
    fs.2.keys.map (kind, fs.1, ·)]
  refine List.flatMap_congr fun kind _ => ?_
  exact ((m.entries.find? kind).getD ∅).flatMap_entries ∅ fun declaration fs =>
    fs.keys.map (kind, declaration, ·)

theorem map_key_toList_ofList (es : List DescriptionEntry) :
    (ofList es).toList.map key = storedKeys es := by
  have hkinds : (ofList es).entries.keys = (es.map (·.kind)).eraseDups := by
    rw [entries_ofList, keys_foldl_alter, keys_empty, List.nil_append]
  have hdeclarations : ∀ fs, (groupOf fs).keys = (fs.map (·.declaration)).eraseDups := by
    intro fs
    rw [groupOf, keys_foldl_alter, keys_empty, List.nil_append]
  have hfields : ∀ fs, (textsOf fs).keys = (fs.map (·.field)).eraseDups := by
    intro fs
    rw [textsOf, keys_foldl_alter, keys_empty, List.nil_append]
  rw [map_key_toList, hkinds, storedKeys]
  simp only [find?_entries_ofList, find?_groupOf, hdeclarations, hfields, List.filter_filter,
    Bool.and_comm]

theorem pairwise_storedKeys (es : List DescriptionEntry) :
    (storedKeys es).Pairwise (ComesBefore es) := by
  have hkinds := pairwise_findIdx es (fun _ => true) (·.kind)
  rw [List.filter_true] at hkinds
  rw [storedKeys, List.pairwise_flatMap]
  constructor
  · intro kind _
    have hdeclarations := pairwise_findIdx es (·.kind = kind) (·.declaration)
    rw [List.pairwise_flatMap]
    constructor
    · intro declaration _
      have hfields := pairwise_findIdx es
        (fun e => e.kind = kind && e.declaration = declaration) (·.field)
      have hkey : ∀ field, (fun e : DescriptionEntry =>
          decide (e.key = (kind, declaration, field)))
            = fun e => (e.kind = kind && e.declaration = declaration) && e.field = field := by
        intro field
        funext e
        simp [key, Bool.and_assoc]
      rw [List.pairwise_map]
      refine hfields.imp fun {a b} hab => Or.inr ⟨rfl, Or.inr ⟨rfl, ?_⟩⟩
      rw [hkey, hkey]
      exact hab
    · refine hdeclarations.imp fun {a b} hab => ?_
      intro x hx y hy
      obtain ⟨x, -, rfl⟩ := List.mem_map.1 hx
      obtain ⟨y, -, rfl⟩ := List.mem_map.1 hy
      exact Or.inr ⟨rfl, Or.inl hab⟩
  · refine hkinds.imp fun {a b} hab => ?_
    intro x hx y hy
    obtain ⟨_, -, hx⟩ := List.mem_flatMap.1 hx
    obtain ⟨_, -, hy⟩ := List.mem_flatMap.1 hy
    obtain ⟨x, -, rfl⟩ := List.mem_map.1 hx
    obtain ⟨y, -, rfl⟩ := List.mem_map.1 hy
    exact Or.inl (by simpa using hab)

/-- A key that was stored before keeps its place when it is stored again. -/
theorem storedKeys_concat (h : e.key ∈ es.map key) : storedKeys (es ++ [e]) = storedKeys es := by
  obtain ⟨x, hx, hxe⟩ := List.mem_map.1 h
  obtain ⟨hkind, hdeclaration, hfield⟩ :
      x.kind = e.kind ∧ x.declaration = e.declaration ∧ x.field = e.field := by
    simpa [key] using hxe
  have hkinds : ((es ++ [e]).map (·.kind)).eraseDups = (es.map (·.kind)).eraseDups := by
    rw [List.map_append, List.map_singleton, eraseDups_concat,
      if_pos (List.mem_map.2 ⟨x, hx, hkind⟩)]
  rw [storedKeys, storedKeys, hkinds]
  refine List.flatMap_congr fun kind _ => ?_
  rw [eraseDups_map_filter_concat (·.kind = kind) (·.declaration) hx (by rw [hkind]) hdeclaration]
  refine List.flatMap_congr fun declaration _ => ?_
  rw [eraseDups_map_filter_concat _ (·.field) hx (by rw [hkind, hdeclaration]) hfield]

end Order

theorem toList_eq_nil_iff : m.toList = [] ↔ m.isEmpty = true := by
  simp [toList, isEmpty, values, OrderedMap.isEmpty]

theorem isEmpty_foldl_iff (calls : List Call) :
    (calls.foldl Call.run {}).isEmpty = true ↔ calls = [] := by
  rw [← toList_eq_nil_iff]
  constructor
  · intro hnil
    rcases List.eq_nil_or_concat calls with rfl | ⟨calls, c, rfl⟩
    · rfl
    · rw [foldl_run] at hnil
      have hmem : c.entry ∈ (ofList ((calls ++ [c]).map Call.entry)).toList := by
        rw [mem_toList_iff, List.map_append, List.map_singleton, ofList_concat, field?_insert,
          if_pos ⟨rfl, rfl, rfl⟩]
      rw [List.concat_eq_append] at hnil
      rw [hnil] at hmem
      cases hmem
  · rintro rfl
    rfl

theorem mem_fieldEntries_ofList :
    e ∈ (ofList es).fieldEntries ↔ e.field ≠ nodeKey ∧ lastWithKey? es e.key = some e := by
  have hlast : (lastWithKey? es e.key).map (·.text) = some e.text ↔
      lastWithKey? es e.key = some e := by
    constructor
    · intro htext
      obtain ⟨x, hx, htext⟩ := Option.map_eq_some_iff.1 htext
      have hkey : x.key = e.key := by
        simpa using List.of_mem_filter (List.mem_of_getLast? hx)
      obtain ⟨hkind, hdeclaration, hfield⟩ :
          x.kind = e.kind ∧ x.declaration = e.declaration ∧ x.field = e.field := by
        simpa [key] using hkey
      have heq : x = e := by
        cases x
        cases e
        simp_all
      rw [hx, heq]
    · intro he
      rw [he]
      rfl
  rw [fieldEntries, List.mem_filter, mem_toList_iff, field?_ofList, bne_iff_ne, and_comm, ← hlast]
  rfl

theorem map_key_fieldEntries (m : Descriptions) :
    m.fieldEntries.map key = (m.toList.map key).filter (·.2.2 != nodeKey) := by
  rw [fieldEntries, List.filter_map]
  rfl

/-- **Descriptions keep their order and their last texts.** After any calls that store texts, the
text of the last call with a key stands under it. The entries of fields are those of the keys that
are not for a declaration itself, each one once, in the order in which kinds, declarations of a kind
and fields of a declaration first came; a call with a key that is there changes none of that. There
is one filter for each entry, in the same order. -/
theorem order_and_texts_after_calls (calls : List Call) :
    let m : Descriptions := calls.foldl Call.run {}
    let es := calls.map Call.entry
    (∀ kind declaration field, m.field? kind declaration field
      = (lastWithKey? es (kind, declaration, field)).map (·.text)) ∧
    (∀ kind declaration, m.node? kind declaration
      = (lastWithKey? es (kind, declaration, nodeKey)).map (·.text)) ∧
    (∀ e, e ∈ m.fieldEntries ↔ e.field ≠ nodeKey ∧ lastWithKey? es e.key = some e) ∧
    (m.fieldEntries.map key).Nodup ∧ (m.fieldEntries.map key).Pairwise (ComesBefore es) ∧
    (∀ c : Call, c.entry.key ∈ es.map key →
      (c.run m).fieldEntries.map key = m.fieldEntries.map key) ∧
    (m.isEmpty = true ↔ calls = []) ∧
    List.Forall₂ WrittenBy m.fieldEntries m.toFilters := by
  intro m es
  have hm : m = ofList es := foldl_run calls
  have horder : (m.fieldEntries.map key).Pairwise (ComesBefore es) := by
    rw [hm, map_key_fieldEntries, map_key_toList_ofList]
    exact (pairwise_storedKeys es).filter _
  refine ⟨?_, ?_, ?_, ?_, horder, ?_, isEmpty_foldl_iff calls, ?_⟩
  · rw [hm]
    exact field?_ofList es
  · rw [hm]
    exact fun kind declaration => field?_ofList es kind declaration nodeKey
  · rw [hm]
    exact fun e => mem_fieldEntries_ofList
  · refine horder.imp ?_
    rintro x y hxy rfl
    exact ComesBefore.irrefl hxy
  · intro c hc
    rw [c.run_eq_insert, hm, ← ofList_concat, map_key_fieldEntries, map_key_fieldEntries,
      map_key_toList_ofList, map_key_toList_ofList, storedKeys_concat hc]
  · rw [toFilters, List.forall₂_map_right_iff, List.forall₂_same]
    exact fun e _ => e.writtenBy_toFilter

/-- The text of the type `B` itself comes first, and keeps the place of `B` ahead of `A`. A text
that is stored again under the name of a field keeps the place of the field. -/
theorem order_of_reinserted_texts :
    let calls : List Call := [.field .input "C" "c" "one", .node .type "B" "two",
      .field .type "A" "x" "three", .field .type "B" "b" "four", .field .type "B" "a" "five"]
    let m : Descriptions := calls.foldl Call.run {}
    let c : Call := .field .type "B" "b" "six"
    c.entry.key ∈ (calls.map Call.entry).map key ∧
      m.fieldEntries.map key
        = [(.input, "C", "c"), (.type, "B", "b"), (.type, "B", "a"), (.type, "A", "x")] ∧
      (c.run m).fieldEntries.map key = m.fieldEntries.map key ∧
      (c.run m).field? .type "B" "b" = some "six" ∧ m.node? .type "B" = some "two" := by
  intro calls m c
  have hc : c.entry.key ∈ (calls.map Call.entry).map key := by decide
  obtain ⟨-, hnode, -, -, -, hagain, -⟩ := order_and_texts_after_calls calls
  refine ⟨hc, by decide +kernel, hagain c hc, ?_, ?_⟩
  · rw [c.run_eq_insert, field?_insert]
    rfl
  · rw [hnode]
    decide +kernel

end Descriptions

end SchemaSieve
