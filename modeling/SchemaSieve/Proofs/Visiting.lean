import SchemaSieve.Schema
import Mathlib.Data.List.Forall2

/-!
# Visiting declarations

A visit of a schema goes through the kinds, and within a kind through the names. It is one walk
through the list of declarations, and it leaves all else as it was. `SameFrame` is that all else: a
schema is known by its frame and its declarations.
-/

namespace SchemaSieve

/-- Visits the members of a list in order, carrying a state along, and replaces each by what `f`
returns. -/
def walk {σ β : Type} (f : σ → β → β × σ) : σ → List β → List β × σ
  | st, [] => ([], st)
  | st, v :: vs =>
    let here := f st v
    let later := walk f here.2 vs
    (here.1 :: later.1, later.2)

section Walk

variable {σ β : Type} {f : σ → β → β × σ}

@[simp] theorem walk_nil (st : σ) : walk f st [] = ([], st) := rfl

theorem walk_cons (st : σ) (v : β) (vs : List β) :
    walk f st (v :: vs)
      = ((f st v).1 :: (walk f (f st v).2 vs).1, (walk f (f st v).2 vs).2) := rfl

theorem walk_append (st : σ) (us vs : List β) :
    walk f st (us ++ vs)
      = ((walk f st us).1 ++ (walk f (walk f st us).2 vs).1,
          (walk f (walk f st us).2 vs).2) := by
  induction us generalizing st with
  | nil => rfl
  | cons u us ih => rw [List.cons_append, walk_cons, ih, walk_cons, List.cons_append]

/-- In a state in which every visit leaves all as it is, nothing changes. -/
theorem walk_of_fixed {st : σ} (h : ∀ v, f st v = (v, st)) (vs : List β) :
    walk f st vs = (vs, st) := by
  induction vs with
  | nil => rfl
  | cons v vs ih => rw [walk_cons, h v, ih]

end Walk

namespace OrderedMap

variable {α β σ : Type}

theorem visit_eq_walk (f : σ → β → β × σ) (st : σ) (es : List (α × β)) :
    (visit f st es).1.map Prod.snd = (walk f st (es.map Prod.snd)).1 ∧
      (visit f st es).2 = (walk f st (es.map Prod.snd)).2 := by
  induction es generalizing st with
  | nil => exact ⟨rfl, rfl⟩
  | cons e es ih =>
      obtain ⟨hvalues, hstate⟩ := ih (f st e.2).2
      rw [List.map_cons, walk_cons, ← hvalues, ← hstate]
      exact ⟨rfl, rfl⟩

theorem values_mapAccum (m : OrderedMap α β) (f : σ → β → β × σ) (st : σ) :
    (m.mapAccum f st).1.values = (walk f st m.values).1 ∧
      (m.mapAccum f st).2 = (walk f st m.values).2 :=
  visit_eq_walk f st m.entries

theorem length_values (m : OrderedMap α β) : m.values.length = m.keys.length := by
  rw [values, keys, List.length_map, List.length_map]

theorem eq_of_keys_of_values {m m' : OrderedMap α β} (hkeys : m.keys = m'.keys)
    (hvalues : m.values = m'.values) : m = m' := by
  have hentries : ∀ m : OrderedMap α β, m.entries = m.keys.zip m.values := fun m =>
    List.zip_of_prod rfl rfl
  refine ext ?_
  rw [hentries m, hentries m', hkeys, hvalues]

end OrderedMap

namespace Schema

variable {s t u : Schema}

/-- The keys under which declarations are stored, in order. -/
def keys (s : Schema) : List (Kind × List String) :=
  s.groups.entries.map fun g => (g.1, g.2.keys)

/-- The same but for what is stored under the keys. -/
structure SameFrame (s t : Schema) : Prop where
  keys : t.keys = s.keys
  header : t.header = s.header
  scalars : t.scalars = s.scalars
  trailing : t.trailing = s.trailing

theorem SameFrame.symm (h : s.SameFrame t) : t.SameFrame s :=
  ⟨h.keys.symm, h.header.symm, h.scalars.symm, h.trailing.symm⟩

theorem SameFrame.trans (h : s.SameFrame t) (h' : t.SameFrame u) : s.SameFrame u :=
  ⟨h'.keys.trans h.keys, h'.header.trans h.header, h'.scalars.trans h.scalars,
    h'.trailing.trans h.trailing⟩

theorem eq_of_flatMap_values {gs hs : List (Kind × OrderedMap String Declaration)}
    (hkeys : gs.map (fun g => (g.1, g.2.keys)) = hs.map fun g => (g.1, g.2.keys))
    (hvalues : gs.flatMap (·.2.values) = hs.flatMap (·.2.values)) : gs = hs := by
  induction gs generalizing hs with
  | nil =>
      rw [List.map_nil, eq_comm, List.map_eq_nil_iff] at hkeys
      rw [hkeys]
  | cons g gs ih =>
      obtain ⟨h, hs, rfl, hhead, htail⟩ := List.map_eq_cons_iff.1 hkeys.symm
      obtain ⟨hkind, hnames⟩ := Prod.mk.inj hhead
      have hlength : g.2.values.length = h.2.values.length := by
        rw [OrderedMap.length_values, OrderedMap.length_values, hnames]
      rw [List.flatMap_cons, List.flatMap_cons] at hvalues
      obtain ⟨hfirst, hrest⟩ := List.append_inj hvalues hlength
      have hgroup : g = h :=
        Prod.ext hkind.symm (OrderedMap.eq_of_keys_of_values hnames.symm hfirst)
      rw [hgroup, ih htail.symm hrest]

theorem declarations_eq_flatMap (s : Schema) :
    s.declarations = s.groups.entries.flatMap (·.2.values) := by
  rw [declarations, OrderedMap.values, List.flatMap_map]

/-- A schema is known by its frame and its declarations. -/
theorem SameFrame.eq_of_declarations (h : s.SameFrame t) (hds : s.declarations = t.declarations) :
    s = t := by
  rw [declarations_eq_flatMap, declarations_eq_flatMap] at hds
  have hgroups : s.groups = t.groups :=
    OrderedMap.ext (eq_of_flatMap_values h.keys.symm hds)
  obtain ⟨-, hheader, hscalars, htrailing⟩ := h
  cases s
  cases t
  simp_all

variable {σ : Type} (f : σ → Declaration → Declaration × σ)

theorem flatMap_values_visit (st : σ) (gs : List (Kind × OrderedMap String Declaration)) :
    let r := OrderedMap.visit (fun (st : σ) (g : OrderedMap String Declaration) =>
      g.mapAccum f st) st gs
    r.1.flatMap (·.2.values) = (walk f st (gs.flatMap (·.2.values))).1 ∧
      r.2 = (walk f st (gs.flatMap (·.2.values))).2 := by
  induction gs generalizing st with
  | nil => exact ⟨rfl, rfl⟩
  | cons g gs ih =>
      obtain ⟨hvalues, hstate⟩ := g.2.values_mapAccum f st
      obtain ⟨hrest, hrestState⟩ := ih (walk f st g.2.values).2
      rw [List.flatMap_cons, walk_append, ← hrest, ← hrestState, ← hvalues, ← hstate]
      exact ⟨rfl, rfl⟩

/-- A visit of the declarations is a walk through their list. -/
theorem declarations_mapAccum (s : Schema) (st : σ) :
    (s.mapAccum f st).1.declarations = (walk f st s.declarations).1 ∧
      (s.mapAccum f st).2 = (walk f st s.declarations).2 := by
  rw [declarations_eq_flatMap s, declarations_eq_flatMap]
  exact flatMap_values_visit f st s.groups.entries

theorem keys_visit (st : σ) (gs : List (Kind × OrderedMap String Declaration)) :
    (OrderedMap.visit (fun (st : σ) (g : OrderedMap String Declaration) => g.mapAccum f st) st
      gs).1.map (fun g => (g.1, g.2.keys)) = gs.map fun g => (g.1, g.2.keys) := by
  induction gs generalizing st with
  | nil => rfl
  | cons g gs ih =>
      rw [OrderedMap.visit, List.map_cons, ih, List.map_cons, OrderedMap.keys_mapAccum]

theorem sameFrame_mapAccum (s : Schema) (st : σ) : s.SameFrame (s.mapAccum f st).1 :=
  ⟨keys_visit f st s.groups.entries, rfl, rfl, rfl⟩

end Schema

end SchemaSieve
