import SchemaSieve.Proofs.Normalizing
import SchemaSieve.Proofs.Visiting

/-!
# Reading one text behind another

A text that is left between blocks, with nothing that waits for the next block, can be read on with
another text: `ofText_append` says that this stores the declarations of the other text one after the
other. They may be stored in the order in which their schema lists them, although their blocks come
in another order, since a map of maps shows of the steps that filled it only the order of the keys
and the last step at each key (`foldl_insert_congr`).
-/

namespace SchemaSieve

open Text

section FirstOccurrences

variable {α β : Type} [DecidableEq α] [DecidableEq β]

theorem eraseDups_append_congr {l a b : List α} (h : a.eraseDups = b.eraseDups) :
    (l ++ a).eraseDups = (l ++ b).eraseDups := by
  rw [← eraseDups_append_eraseDups l a, h, eraseDups_append_eraseDups]

theorem isEmpty_congr_of_eraseDups {a b : List α} (h : a.eraseDups = b.eraseDups) :
    a.isEmpty = b.isEmpty := by
  have hmem : ∀ x, x ∈ a ↔ x ∈ b := fun x => by
    rw [← List.mem_eraseDups, h, List.mem_eraseDups]
  rw [Bool.eq_iff_iff, List.isEmpty_iff, List.isEmpty_iff, List.eq_nil_iff_forall_not_mem,
    List.eq_nil_iff_forall_not_mem]
  simp only [hmem]

/-- The kinds, and the names of a kind, come in the same order in two lists of pairs that fill a map
of maps in the same order. -/
theorem eraseDups_of_keyOrder {ks ks' : List (α × β)} (h : keyOrder ks = keyOrder ks') :
    (ks.map Prod.fst).eraseDups = (ks'.map Prod.fst).eraseDups ∧
      ∀ a, ((ks.filter (·.1 = a)).map Prod.snd).eraseDups
        = ((ks'.filter (·.1 = a)).map Prod.snd).eraseDups := by
  constructor
  · rw [← eraseDups_map_fst_keyOrder, h, eraseDups_map_fst_keyOrder]
  · intro a
    have hgroup := filter_keyOrder ks a
    rw [h, filter_keyOrder] at hgroup
    exact List.map_injective_iff.2 (fun _ _ hpair => (Prod.mk.inj hpair).2) hgroup.symm

end FirstOccurrences

theorem foldl_some_eq_or {α : Type} (l : List α) (v : Option α) :
    l.foldl (fun _ a => some a) v = l.getLast?.or v := by
  induction l using List.reverseRecOn with
  | nil => rfl
  | append_singleton l a _ => simp

namespace OrderedMap

variable {α β ε : Type} [DecidableEq α]

theorem eq_of_find? {m m' : OrderedMap α β} (hkeys : m.keys = m'.keys)
    (hfind : ∀ k, m.find? k = m'.find? k) : m = m' := by
  refine eq_of_keys_of_values hkeys ?_
  rw [values_eq_filterMap_find?, values_eq_filterMap_find?, hkeys]
  exact List.filterMap_congr fun k _ => hfind k

/-- Two lists of steps fill a map in the same way if they come to new keys in the same order and do
the same at each key. -/
theorem foldl_alter_congr {key : ε → α} {f : ε → Option β → β} {es es' : List ε}
    (hkeys : (es.map key).eraseDups = (es'.map key).eraseDups)
    (hsteps : ∀ k v, (es.filter (key · = k)).foldl (fun v e => some (f e v)) v
      = (es'.filter (key · = k)).foldl (fun v e => some (f e v)) v) (m : OrderedMap α β) :
    es.foldl (fun m e => m.alter (key e) (f e)) m
      = es'.foldl (fun m e => m.alter (key e) (f e)) m := by
  apply eq_of_find?
  · rw [keys_foldl_alter, keys_foldl_alter, eraseDups_append_congr hkeys]
  · intro k
    rw [find?_foldl_alter, find?_foldl_alter, hsteps]

end OrderedMap

namespace Schema

variable {ds ds' : List Declaration}

theorem foldl_insert_eq (ds : List Declaration) (s : Schema) :
    ds.foldl insert s = { s with
      groups := ds.foldl (fun m d => m.alter d.kind fun g => (g.getD ∅).insert d.name d)
        s.groups } := by
  induction ds generalizing s with
  | nil => rfl
  | cons d ds ih => exact ih (s.insert d)

/-- A group is there once a declaration of its kind has been stored. -/
theorem foldl_insert_group (ds : List Declaration) (g : Option (OrderedMap String Declaration)) :
    ds.foldl (fun v d => some ((v.getD ∅).insert d.name d)) g
      = if ds.isEmpty then g
        else some (ds.foldl (fun g d => g.alter d.name fun _ => d) (g.getD ∅)) := by
  have hsome : ∀ (es : List Declaration) (g : OrderedMap String Declaration),
      es.foldl (fun v d => some ((v.getD ∅).insert d.name d)) (some g)
        = some (es.foldl (fun g d => g.alter d.name fun _ => d) g) := by
    intro es
    induction es with
    | nil => exact fun g => rfl
    | cons e es ih => exact fun g => ih _
  cases ds with
  | nil => rfl
  | cons d ds => exact hsome ds _

theorem filter_key (ds : List Declaration) (kind : Kind) (name : String) :
    (ds.filter (·.kind = kind)).filter (·.name = name) = ds.filter (·.key = (kind, name)) := by
  rw [List.filter_filter]
  congr 1
  funext d
  simp [Declaration.key, and_comm]

theorem map_snd_filter_key (ds : List Declaration) (kind : Kind) :
    ((ds.map Declaration.key).filter (·.1 = kind)).map Prod.snd
      = (ds.filter (·.kind = kind)).map Declaration.name := by
  rw [List.filter_map, List.map_map]
  rfl

/-- What a schema becomes by storing some declarations hangs on the order of their keys, and on the
last of them with each key. -/
theorem foldl_insert_congr
    (hkeys : keyOrder (ds.map Declaration.key) = keyOrder (ds'.map Declaration.key))
    (hlast : ∀ k, lastWithKey ds k = lastWithKey ds' k) (s : Schema) :
    ds.foldl insert s = ds'.foldl insert s := by
  obtain ⟨hkinds, hnames⟩ := eraseDups_of_keyOrder hkeys
  simp only [map_snd_filter_key] at hnames
  have hgroup : ∀ kind (g : OrderedMap String Declaration),
      (ds.filter (·.kind = kind)).foldl (fun g d => g.alter d.name fun _ => d) g
        = (ds'.filter (·.kind = kind)).foldl (fun g d => g.alter d.name fun _ => d) g := by
    intro kind g
    refine OrderedMap.foldl_alter_congr (hnames kind) ?_ g
    intro name v
    rw [filter_key, filter_key, foldl_some_eq_or, foldl_some_eq_or]
    exact congrArg (Option.or · v) (hlast (kind, name))
  rw [foldl_insert_eq, foldl_insert_eq]
  congr 1
  refine OrderedMap.foldl_alter_congr ?_ ?_ s.groups
  · rwa [List.map_map, List.map_map] at hkinds
  · intro kind g
    have hempty := isEmpty_congr_of_eraseDups (hnames kind)
    rw [List.isEmpty_map, List.isEmpty_map] at hempty
    rw [foldl_insert_group, foldl_insert_group, hempty, hgroup]

theorem lastWithKey_declarations_foldl_insert (ds : List Declaration) (k : Kind × String) :
    lastWithKey (ds.foldl insert {}).declarations k = lastWithKey ds k := by
  have hnodup : ((ds.foldl insert {}).declarations.map Declaration.key).Nodup := by
    rw [map_key_declarations_foldl_insert]
    exact nodup_keyOrder _
  have hmem : ∀ d, d ∈ (ds.foldl insert {}).declarations ↔ lastWithKey ds d.key = some d := by
    intro d
    rw [declarations_foldl_insert, List.mem_filterMap]
    constructor
    · rintro ⟨k, -, hk⟩
      rwa [(lastWithKey_eq_some_iff.1 hk).1]
    · intro hd
      obtain ⟨-, u, v, rfl, -⟩ := lastWithKey_eq_some_iff.1 hd
      exact ⟨d.key, mem_keyOrder.2 (List.mem_map_of_mem (by simp)), hd⟩
  refine Option.ext fun d => ?_
  constructor
  · intro hd
    obtain ⟨rfl, u, v, hsplit, -⟩ := lastWithKey_eq_some_iff.1 hd
    exact (hmem d).1 (by rw [hsplit]; simp)
  · intro hd
    obtain ⟨rfl, -⟩ := lastWithKey_eq_some_iff.1 hd
    exact lastWithKey_of_mem hnodup ((hmem d).2 hd)

/-- Declarations can be stored in the order in which a schema lists them. -/
theorem foldl_insert_declarations (ds : List Declaration) (s : Schema) :
    (ds.foldl insert {}).declarations.foldl insert s = ds.foldl insert s := by
  refine foldl_insert_congr ?_ (lastWithKey_declarations_foldl_insert ds) s
  rw [map_key_declarations_foldl_insert, keyOrder_keyOrder]

/-- What a schema becomes by some items, told by the schema that they make for themselves. -/
theorem foldl_add_eq (items : List Item) (s : Schema) :
    items.foldl add s = { (ofItems items).declarations.foldl insert s with
      header := s.header ++ (ofItems items).header
      scalars := s.scalars ++ (ofItems items).scalars
      trailing := s.trailing ++ (ofItems items).trailing } := by
  have hgroups := groups_foldl_add items s
  have hheader := header_foldl_add items s
  have hscalars := scalars_foldl_add items s
  have htrailing := trailing_foldl_add items s
  rw [← foldl_insert_declarations, ← declarations_ofItems] at hgroups
  rw [← header_ofItems] at hheader
  rw [← scalars_ofItems] at hscalars
  rw [← trailing_ofItems] at htrailing
  cases hs : items.foldl add s
  simp_all

end Schema

namespace Reader

/-- Readers that have read the same go on to read the same, remarks apart. -/
theorem run_agree {r r' : Reader} (h : r.Agree r') (ls : List String) :
    (r.run ls).1.Agree (r'.run ls).1 ∧
      (r.run ls).2.filter (!Item.isRemark ·) = (r'.run ls).2.filter (!Item.isRemark ·) := by
  obtain ⟨hplace, hitems⟩ := run_filledLines h ls
  obtain ⟨hplace', hitems'⟩ := run_filledLines (r := r') ⟨rfl, rfl⟩ ls
  exact ⟨⟨hplace.inBody.trans hplace'.inBody.symm, hplace.place.trans hplace'.place.symm⟩,
    hitems.trans hitems'.symm⟩

end Reader

namespace Schema

variable {a b : String}

theorem ofText_eq_of_place (h : (Reader.run {} (lines a)).1.place = .outside []) :
    ofText a = ofItems (Reader.run {} (lines a)).2 := by
  rw [ofText, Item.ofText, h]
  simp [Place.finish]

/-- Behind a text that leaves the reader between blocks, a text without a header is read as it is
for itself. -/
theorem foldl_add_run {r : Reader} (hplace : r.place = .outside [])
    (hheader : (ofText b).header = []) (s : Schema) :
    ((r.run (lines b)).2 ++ (r.run (lines b)).1.place.finish).foldl add s
      = (Item.ofText b).foldl add s := by
  have hfirst : ∀ l, (filledLines (lines b)).head? = some l → LineClass.isComment l = false := by
    rw [header_ofText_eq] at hheader
    intro l hl
    by_contra hcomment
    obtain ⟨ls, hls⟩ := List.head?_eq_some_iff.1 hl
    rw [hls, List.takeWhile_cons_of_pos (by simpa using hcomment)] at hheader
    cases hheader
  have hagree : r.Agree { inBody := r.inBody } := ⟨rfl, hplace⟩
  obtain ⟨hafter, hitems⟩ := Reader.run_agree hagree (lines b)
  have hstart : (Reader.run {} (lines b)).1.place
        = (Reader.run { inBody := r.inBody } (lines b)).1.place ∧
      (Reader.run {} (lines b)).2 = (Reader.run { inBody := r.inBody } (lines b)).2 := by
    cases r.inBody with
    | false => exact ⟨rfl, rfl⟩
    | true => exact Reader.run_start hfirst
  rw [Item.ofText, hstart.1, hstart.2, ← hafter.place, List.foldl_append, List.foldl_append,
    ← foldl_add_filter (r.run (lines b)).2, hitems, foldl_add_filter]

/-- **Reading is compositional.** Behind a text that ends its last line and leaves nothing open, a
text without a header adds its declarations, stored in the order in which its schema lists them, its
scalars, and the lines that are left over at its end. -/
theorem ofText_append (hend : a = "" ∨ a.toList.getLast? = some '\n')
    (hplace : (Reader.run {} (lines a)).1.place = .outside [])
    (hheader : (ofText b).header = []) :
    ofText (a ++ b) = { (ofText b).declarations.foldl insert (ofText a) with
      header := (ofText a).header
      scalars := (ofText a).scalars ++ (ofText b).scalars
      trailing := (ofText b).trailing } := by
  have hread : ofText (a ++ b) = (Item.ofText b).foldl add (ofText a) := by
    rw [ofText_eq_of_place hplace, ofItems, ← foldl_add_run hplace hheader, ← List.foldl_append,
      ofText, Item.ofText, lines_append hend, Reader.run_append, List.append_assoc]
    rfl
  rw [hread, foldl_add_eq, ← ofText, hheader, trailing_ofText hplace, List.append_nil,
    List.nil_append]

/-- A type that is there already, kinds in another order, and a scalar. -/
theorem ofText_append_of_overlap :
    let a := "# head\nscalar Date\ntype A \x7b\n  a: Int\n\x7d\ninput I \x7b\n  i: Int\n\x7d\n"
    let b := "enum E \x7b\n  X\n\x7d\ninput J \x7b\n  j: Int\n\x7d\ntype A \x7b\n  b: Int\n\x7d\n"
      ++ "input I \x7b\n\x7d\nscalar Time\n"
    a.toList.getLast? = some '\n' ∧ (Reader.run {} (lines a)).1.place = .outside [] ∧
      (ofText b).header = [] ∧
      (ofText (a ++ b)).declarations.map Declaration.key
        = [(.type, "A"), (.input, "I"), (.input, "J"), (.enum, "E")] ∧
      (ofText (a ++ b)).scalars = ["scalar Date", "scalar Time"] ∧
      (ofText (a ++ b)).trailing = ["scalar Time"] := by
  intro a b
  have hend : a.toList.getLast? = some '\n' := by decide
  have hplace : (Reader.run {} (lines a)).1.place = .outside [] := by decide +kernel
  have hheader : (ofText b).header = [] := by decide +kernel
  refine ⟨hend, hplace, hheader, ?_⟩
  rw [ofText_append (Or.inr hend) hplace hheader]
  decide +kernel

end Schema

end SchemaSieve
