import SchemaSieve.Schema
import SchemaSieve.Proofs.KeyOrder

/-!
# Storing declarations one after the other

The schema that a list of declarations leaves behind: `keyOrder` says in which order it lists their
kinds and names, and of those with the same kind and name the last one stays.
-/

namespace SchemaSieve

def Declaration.key (d : Declaration) : Kind × String := (d.kind, d.name)

/-- The last of some declarations with a kind and a name. -/
def lastWithKey (ds : List Declaration) (k : Kind × String) : Option Declaration :=
  (ds.filter (·.key = k)).getLast?

theorem lastWithKey_eq_some_iff {ds : List Declaration} {k : Kind × String} {d : Declaration} :
    lastWithKey ds k = some d
      ↔ d.key = k ∧ ∃ u v, ds = u ++ d :: v ∧ ∀ e ∈ v, e.key ≠ k := by
  induction ds using List.reverseRecOn with
  | nil => simp [lastWithKey]
  | append_singleton ds e ih =>
      by_cases he : e.key = k
      · have hlast : lastWithKey (ds ++ [e]) k = some e := by simp [lastWithKey, he]
        rw [hlast, Option.some.injEq]
        constructor
        · rintro rfl
          exact ⟨he, ds, [], rfl, by simp⟩
        · rintro ⟨-, u, v, huv, hv⟩
          rcases concat_eq_append_cons huv with ⟨-, -, hed⟩ | ⟨w, rfl, -⟩
          · exact hed
          · exact absurd he (hv e (by simp))
      · have hlast : lastWithKey (ds ++ [e]) k = lastWithKey ds k := by simp [lastWithKey, he]
        rw [hlast, ih]
        refine and_congr_right fun hd => ?_
        constructor
        · rintro ⟨u, v, rfl, hv⟩
          refine ⟨u, v ++ [e], by simp, ?_⟩
          intro x hx
          rcases List.mem_append.1 hx with hx | hx
          · exact hv x hx
          · rw [List.mem_singleton.1 hx]
            exact he
        · rintro ⟨u, v, huv, hv⟩
          rcases concat_eq_append_cons huv with ⟨-, -, rfl⟩ | ⟨w, rfl, hds⟩
          · exact absurd hd he
          · exact ⟨u, w, hds, fun y hy => hv y (by simp [hy])⟩

theorem lastWithKey_of_mem {ds : List Declaration} {d : Declaration}
    (h : (ds.map Declaration.key).Nodup) (hd : d ∈ ds) : lastWithKey ds d.key = some d := by
  obtain ⟨u, v, rfl⟩ := List.append_of_mem hd
  refine lastWithKey_eq_some_iff.2 ⟨rfl, u, v, rfl, ?_⟩
  intro e he heq
  rw [List.map_append, List.map_cons, List.nodup_append, List.nodup_cons] at h
  exact h.2.1.1 (heq ▸ List.mem_map_of_mem he)

theorem filterMap_lastWithKey {ds : List Declaration} (h : (ds.map Declaration.key).Nodup) :
    (ds.map Declaration.key).filterMap (lastWithKey ds) = ds := by
  rw [List.filterMap_map]
  have hsome : ds.filterMap (lastWithKey ds ∘ Declaration.key) = ds.filterMap some :=
    List.filterMap_congr fun d hd => lastWithKey_of_mem h hd
  rw [hsome, List.filterMap_some]

namespace OrderedMap

variable {α β γ : Type}

theorem flatMap_entries [DecidableEq α] (m : OrderedMap α β) (v : β) (f : α → β → List γ) :
    m.entries.flatMap (fun e => f e.1 e.2) = m.keys.flatMap fun k => f k ((m.find? k).getD v) := by
  rw [keys, List.flatMap_map]
  refine List.flatMap_congr fun e he => ?_
  rw [find?_eq_some_iff.2 he, Option.getD_some]

theorem flatMap_values [DecidableEq α] (m : OrderedMap α (OrderedMap γ β)) :
    m.values.flatMap values = m.keys.flatMap fun k => ((m.find? k).getD ∅).values := by
  rw [values, List.flatMap_map]
  exact m.flatMap_entries ∅ fun _ g => g.values

/-- Values that are stored where there may be none yet. -/
theorem getD_foldl_some {ε : Type} (f : β → ε → β) (es : List ε) (v : β) (v? : Option β) :
    (es.foldl (fun v? e => some (f (v?.getD v) e)) v?).getD v = es.foldl f (v?.getD v) := by
  induction es generalizing v? with
  | nil => rfl
  | cons e es ih => exact ih _

end OrderedMap

namespace Schema

def groupOf (ds : List Declaration) (kind : Kind) : OrderedMap String Declaration :=
  (ds.filter (·.kind = kind)).foldl (fun g d => g.alter d.name fun _ => d) ∅

theorem groups_foldl_insert (ds : List Declaration) (s : Schema) :
    (ds.foldl insert s).groups
      = ds.foldl (fun m d => m.alter d.kind fun g => (g.getD ∅).insert d.name d) s.groups := by
  induction ds generalizing s with
  | nil => rfl
  | cons d ds ih => exact ih (s.insert d)

theorem values_groupOf (ds : List Declaration) (kind : Kind) :
    (groupOf ds kind).values
      = ((ds.filter (·.kind = kind)).map Declaration.name).eraseDups.filterMap fun name =>
          lastWithKey ds (kind, name) := by
  have hlast : ∀ l : List Declaration,
      l.foldl (fun _ d => some d) none = l.getLast? := by
    intro l
    induction l using List.reverseRecOn with
    | nil => rfl
    | append_singleton l d _ => simp
  rw [OrderedMap.values_eq_filterMap_find?, groupOf, OrderedMap.keys_foldl_alter,
    OrderedMap.keys_empty, List.nil_append]
  refine List.filterMap_congr fun name _ => ?_
  rw [OrderedMap.find?_foldl_alter, OrderedMap.find?_empty, hlast, List.filter_filter, lastWithKey]
  congr 2
  funext d
  simp [Declaration.key, and_comm]

/-- What a list of declarations leaves behind, stored one after the other. -/
theorem declarations_foldl_insert (ds : List Declaration) :
    (ds.foldl insert {}).declarations
      = (keyOrder (ds.map Declaration.key)).filterMap (lastWithKey ds) := by
  have hgroup : ∀ kind, ((ds.foldl insert {}).groups.find? kind).getD ∅ = groupOf ds kind := by
    intro kind
    rw [groups_foldl_insert, OrderedMap.find?_foldl_alter]
    exact OrderedMap.getD_foldl_some
      (fun (g : OrderedMap String Declaration) d => g.insert d.name d) _ ∅ none
  have hkeys : (ds.foldl insert {}).groups.keys = (ds.map Declaration.kind).eraseDups := by
    rw [groups_foldl_insert]
    exact OrderedMap.keys_foldl_alter _ _ ds ∅
  have hkinds : (ds.map Declaration.key).map Prod.fst = ds.map Declaration.kind := by
    rw [List.map_map]
    rfl
  have hnames : ∀ kind, ((ds.map Declaration.key).filter (·.1 = kind)).map Prod.snd
      = (ds.filter (·.kind = kind)).map Declaration.name := by
    intro kind
    rw [List.filter_map, List.map_map]
    rfl
  rw [declarations, OrderedMap.flatMap_values, hkeys, keyOrder, hkinds, List.filterMap_flatMap]
  simp only [hgroup, hnames, values_groupOf, List.filterMap_map]
  rfl

/-- Declarations that are listed in the order of their keys, each of which comes once, are listed
so by the schema that they leave behind. -/
theorem declarations_foldl_insert_of_keyOrder {ds : List Declaration} {ks : List (Kind × String)}
    (h : ds.map Declaration.key = keyOrder ks) : (ds.foldl insert {}).declarations = ds := by
  rw [declarations_foldl_insert, h, keyOrder_keyOrder, ← h]
  exact filterMap_lastWithKey (h ▸ nodup_keyOrder ks)

theorem map_key_declarations_foldl_insert (ds : List Declaration) :
    (ds.foldl insert {}).declarations.map Declaration.key
      = keyOrder (ds.map Declaration.key) := by
  have hkey : ∀ k ∈ keyOrder (ds.map Declaration.key),
      (lastWithKey ds k).map Declaration.key = some k := by
    intro k hk
    obtain ⟨d, hd, rfl⟩ := List.mem_map.1 (mem_keyOrder.1 hk)
    have hne : ds.filter (·.key = d.key) ≠ [] :=
      List.ne_nil_of_mem (List.mem_filter.2 ⟨hd, by simp⟩)
    have hlast : lastWithKey ds d.key = some ((ds.filter (·.key = d.key)).getLast hne) :=
      List.getLast?_eq_some_getLast hne
    rw [hlast, Option.map_some, (lastWithKey_eq_some_iff.1 hlast).1]
  rw [declarations_foldl_insert, List.map_filterMap]
  have hsome : (keyOrder (ds.map Declaration.key)).filterMap
      (fun k => (lastWithKey ds k).map Declaration.key)
        = (keyOrder (ds.map Declaration.key)).filterMap some := List.filterMap_congr hkey
  rw [hsome, List.filterMap_some]

end Schema

end SchemaSieve
