/-!
# Maps that keep the order of their keys

A key keeps the place at which it first came, whatever is stored under it later. The view of a map
is its list of entries: `find?_insert` and `keys_insert` say what storing does to it.
-/

namespace SchemaSieve

/-- A finite map that lists its keys in the order in which they first came. -/
structure OrderedMap (α : Type) (β : Type) where
  entries : List (α × β)
  nodup_keys : (entries.map Prod.fst).Nodup

namespace OrderedMap

variable {α β : Type}

/-- Replaces the value of `k` where it stands, or puts `k` at the end. -/
def upsert [DecidableEq α] (k : α) (v : β) : List (α × β) → List (α × β)
  | [] => [(k, v)]
  | e :: es => if e.1 = k then (k, v) :: es else e :: upsert k v es

theorem keys_upsert_of_mem [DecidableEq α] {k : α} {v : β} {es : List (α × β)}
    (h : k ∈ es.map Prod.fst) : (upsert k v es).map Prod.fst = es.map Prod.fst := by
  induction es with
  | nil => simp at h
  | cons e es ih =>
    by_cases he : e.1 = k
    · simp [upsert, he]
    · have h' : k ∈ es.map Prod.fst := by
        rcases List.mem_cons.1 h with h | h
        · exact absurd h.symm he
        · exact h
      simp [upsert, he, ih h']

theorem upsert_of_not_mem [DecidableEq α] {k : α} {v : β} {es : List (α × β)}
    (h : k ∉ es.map Prod.fst) : upsert k v es = es ++ [(k, v)] := by
  induction es with
  | nil => rfl
  | cons e es ih =>
    have he : e.1 ≠ k := fun e' => h (by simp [e'])
    have h' : k ∉ es.map Prod.fst := fun m => h (List.mem_cons_of_mem _ m)
    simp [upsert, he, ih h']

theorem nodup_keys_upsert [DecidableEq α] {k : α} {v : β} {es : List (α × β)}
    (h : (es.map Prod.fst).Nodup) : ((upsert k v es).map Prod.fst).Nodup := by
  by_cases hk : k ∈ es.map Prod.fst
  · rwa [keys_upsert_of_mem hk]
  · rw [upsert_of_not_mem hk, List.map_append, List.nodup_append]
    refine ⟨h, by simp, ?_⟩
    intro a ha b hb
    simp only [List.map_cons, List.map_nil, List.mem_singleton] at hb
    exact fun e => hk (hb ▸ e ▸ ha)

def empty : OrderedMap α β := ⟨[], List.nodup_nil⟩

instance : Inhabited (OrderedMap α β) := ⟨empty⟩

instance : EmptyCollection (OrderedMap α β) := ⟨empty⟩

@[ext] theorem ext {a b : OrderedMap α β} (h : a.entries = b.entries) : a = b := by
  cases a
  cases b
  congr

instance [DecidableEq α] [DecidableEq β] : DecidableEq (OrderedMap α β) := fun a b =>
  decidable_of_iff (a.entries = b.entries) ⟨ext, fun h => h ▸ rfl⟩

def keys (m : OrderedMap α β) : List α := m.entries.map Prod.fst

def values (m : OrderedMap α β) : List β := m.entries.map Prod.snd

def size (m : OrderedMap α β) : Nat := m.entries.length

def isEmpty (m : OrderedMap α β) : Bool := m.entries.isEmpty

/-- The value stored first under `k` in a list of pairs. -/
def lookup [DecidableEq α] (k : α) : List (α × β) → Option β
  | [] => none
  | e :: es => if e.1 = k then some e.2 else lookup k es

def find? [DecidableEq α] (m : OrderedMap α β) (k : α) : Option β := lookup k m.entries

def insert [DecidableEq α] (m : OrderedMap α β) (k : α) (v : β) : OrderedMap α β :=
  ⟨upsert k v m.entries, nodup_keys_upsert m.nodup_keys⟩

def alter [DecidableEq α] (m : OrderedMap α β) (k : α) (f : Option β → β) : OrderedMap α β :=
  m.insert k (f (m.find? k))

def ofList [DecidableEq α] (es : List (α × β)) : OrderedMap α β :=
  es.foldl (fun m e => m.insert e.1 e.2) empty

/-- Visits the values in order, carrying a state along, and replaces each by what `f` returns. -/
def visit {σ : Type} (f : σ → β → β × σ) : σ → List (α × β) → List (α × β) × σ
  | s, [] => ([], s)
  | s, e :: es =>
    let here := f s e.2
    let later := visit f here.2 es
    ((e.1, here.1) :: later.1, later.2)

theorem keys_visit {σ : Type} (f : σ → β → β × σ) (s : σ) (es : List (α × β)) :
    (visit f s es).1.map Prod.fst = es.map Prod.fst := by
  induction es generalizing s with
  | nil => rfl
  | cons e es ih => simp [visit, ih]

def mapAccum {σ : Type} (m : OrderedMap α β) (f : σ → β → β × σ) (s : σ) : OrderedMap α β × σ :=
  (⟨(visit f s m.entries).1, by rw [keys_visit]; exact m.nodup_keys⟩, (visit f s m.entries).2)

/-- The two maps hold equal values under the same keys, in whatever order. -/
def sameEntries [DecidableEq α] (eq : β → β → Bool) (a b : OrderedMap α β) : Bool :=
  a.size == b.size && a.entries.all fun e =>
    match b.find? e.1 with
    | some v => eq e.2 v
    | none => false

@[simp] theorem keys_empty : (∅ : OrderedMap α β).keys = [] := rfl

@[simp] theorem values_empty : (∅ : OrderedMap α β).values = [] := rfl

@[simp] theorem find?_empty [DecidableEq α] (k : α) : (∅ : OrderedMap α β).find? k = none := rfl

theorem lookup_upsert [DecidableEq α] (k k' : α) (v : β) (es : List (α × β)) :
    lookup k' (upsert k v es) = if k = k' then some v else lookup k' es := by
  induction es with
  | nil => simp [upsert, lookup]
  | cons e es ih =>
    by_cases he : e.1 = k
    · by_cases hk : k = k'
      · simp [upsert, lookup, he, hk]
      · simp [upsert, lookup, he, hk]
    · by_cases hk : e.1 = k'
      · have : k ≠ k' := fun h => he (hk.trans h.symm)
        simp [upsert, lookup, hk, this, this.symm]
      · simp [upsert, lookup, he, hk, ih]

@[simp] theorem find?_insert [DecidableEq α] (m : OrderedMap α β) (k k' : α) (v : β) :
    (m.insert k v).find? k' = if k = k' then some v else m.find? k' :=
  lookup_upsert k k' v m.entries

theorem keys_insert [DecidableEq α] (m : OrderedMap α β) (k : α) (v : β) :
    (m.insert k v).keys = if k ∈ m.keys then m.keys else m.keys ++ [k] := by
  by_cases h : k ∈ m.entries.map Prod.fst
  · simp only [keys, insert, keys_upsert_of_mem h, h, if_true]
  · simp only [keys, insert, upsert_of_not_mem h, h, if_false, List.map_append, List.map_cons,
      List.map_nil]

@[simp] theorem keys_mapAccum {σ : Type} (m : OrderedMap α β) (f : σ → β → β × σ) (s : σ) :
    (m.mapAccum f s).1.keys = m.keys :=
  keys_visit f s m.entries

end OrderedMap

end SchemaSieve
