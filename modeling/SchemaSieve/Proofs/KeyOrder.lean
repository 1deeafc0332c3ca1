import SchemaSieve.OrderedMap
import Mathlib.Data.List.Basic
import Mathlib.Data.List.Induction

/-!
# The order of keys

A map that is filled step by step lists each key where it first came. Its values follow from the
steps at that key alone. `keyOrder` is the order in which a map of maps lists its pairs of keys:
groups by their first member, members within a group by their first occurrence.
-/

namespace SchemaSieve

section FirstOccurrences

variable {α : Type} [DecidableEq α]

theorem eraseDups_concat (l : List α) (a : α) :
    (l ++ [a]).eraseDups = if a ∈ l then l.eraseDups else l.eraseDups ++ [a] := by
  rw [List.eraseDups_append]
  by_cases h : a ∈ l
  · simp [List.removeAll, h]
  · simp [List.removeAll, h, List.eraseDups_cons]

/-- What is taken from a member was listed before, if it was taken from an earlier one. -/
theorem eraseDups_map_filter_concat {ε : Type} {es : List ε} {e x : ε} (p : ε → Bool) (g : ε → α)
    (hx : x ∈ es) (hp : p x = p e) (hg : g x = g e) :
    (((es ++ [e]).filter p).map g).eraseDups = ((es.filter p).map g).eraseDups := by
  cases hpe : p e with
  | false => simp [hpe]
  | true =>
      have hmem : g e ∈ (es.filter p).map g :=
        List.mem_map.2 ⟨x, List.mem_filter.2 ⟨hx, hp.trans hpe⟩, hg⟩
      rw [List.filter_append, List.filter_cons_of_pos hpe, List.filter_nil, List.map_append,
        List.map_singleton, eraseDups_concat, if_pos hmem]

omit [DecidableEq α] in
/-- A member of a list is its last member, or stands ahead of it. -/
theorem concat_eq_append_cons {l u v : List α} {a b : α} (h : l ++ [a] = u ++ b :: v) :
    (v = [] ∧ l = u ∧ a = b) ∨ ∃ w, v = w ++ [a] ∧ l = u ++ b :: w := by
  rcases List.eq_nil_or_concat v with rfl | ⟨w, c, rfl⟩
  · obtain ⟨rfl, hlast⟩ := List.append_inj' h rfl
    exact Or.inl ⟨rfl, rfl, List.singleton_inj.1 hlast⟩
  · have hsplit : l ++ [a] = (u ++ b :: w) ++ [c] := by simpa using h
    obtain ⟨rfl, hlast⟩ := List.append_inj' hsplit rfl
    obtain rfl := List.singleton_inj.1 hlast
    exact Or.inr ⟨w, List.concat_eq_append, rfl⟩

theorem nodup_eraseDups (l : List α) : l.eraseDups.Nodup := by
  induction l using List.reverseRecOn with
  | nil => simp
  | append_singleton l a ih =>
      rw [eraseDups_concat]
      split
      · exact ih
      · rename_i h
        rw [List.nodup_append]
        refine ⟨ih, by simp, ?_⟩
        intro x hx y hy
        rw [List.mem_singleton] at hy
        subst hy
        rintro rfl
        exact h (List.mem_eraseDups.1 hx)

theorem eraseDups_eq_self {l : List α} (h : l.Nodup) : l.eraseDups = l := by
  induction l using List.reverseRecOn with
  | nil => simp
  | append_singleton l a ih =>
      rw [List.nodup_append] at h
      have hnotMem : a ∉ l := fun ha => h.2.2 a ha a (by simp) rfl
      rw [eraseDups_concat, if_neg hnotMem, ih h.1]

theorem eraseDups_append_eraseDups (l l' : List α) :
    (l ++ l'.eraseDups).eraseDups = (l ++ l').eraseDups := by
  induction l' using List.reverseRecOn with
  | nil => simp
  | append_singleton l' a ih =>
      rw [← List.append_assoc, eraseDups_concat, eraseDups_concat (l ++ l')]
      by_cases h : a ∈ l'
      · rw [if_pos h, if_pos (List.mem_append_right l h), ih]
      · rw [if_neg h, ← List.append_assoc, eraseDups_concat, ih]
        simp only [List.mem_append, List.mem_eraseDups]

theorem eraseDups_replicate {n : Nat} (h : n ≠ 0) (a : α) :
    (List.replicate n a).eraseDups = [a] := by
  obtain ⟨n, rfl⟩ := Nat.exists_eq_succ_of_ne_zero h
  rw [List.replicate_succ, List.eraseDups_cons, List.filter_eq_nil_iff.2]
  · rfl
  · intro b hb
    simp [List.eq_of_mem_replicate hb]

/-- Repeating the members of a list where they stand does not change which are listed. -/
theorem eraseDups_flatMap_replicate {as : List α} (h : as.Nodup) {n : α → Nat}
    (hn : ∀ a ∈ as, n a ≠ 0) : (as.flatMap fun a => List.replicate (n a) a).eraseDups = as := by
  induction as using List.reverseRecOn with
  | nil => rfl
  | append_singleton as a ih =>
      rw [List.nodup_append] at h
      have hfresh : ∀ b ∈ List.replicate (n a) a,
          b ∉ as.flatMap fun a => List.replicate (n a) a := by
        intro b hb hmem
        obtain ⟨c, hc, hbc⟩ := List.mem_flatMap.1 hmem
        exact h.2.2 c hc a (by simp)
          ((List.eq_of_mem_replicate hbc).symm.trans (List.eq_of_mem_replicate hb))
      have hremove : (List.replicate (n a) a).removeAll
          (as.flatMap fun a => List.replicate (n a) a) = List.replicate (n a) a := by
        rw [List.removeAll, List.filter_eq_self]
        intro b hb
        rw [Bool.not_eq_true', ← Bool.not_eq_true, List.elem_iff]
        exact hfresh b hb
      rw [List.flatMap_append, List.flatMap_singleton, List.eraseDups_append, hremove,
        eraseDups_replicate (hn a (by simp)), ih h.1 fun b hb => hn b (by simp [hb])]

/-- Of two keys that are listed one after the other, the first comes before every occurrence of the
second. -/
theorem pairwise_eraseDups (l : List α) :
    l.eraseDups.Pairwise fun a b => ∀ u v, l = u ++ b :: v → a ∈ u := by
  induction l using List.reverseRecOn with
  | nil => simp
  | append_singleton l c ih =>
      have hmono : l.eraseDups.Pairwise fun a b => ∀ u v, l ++ [c] = u ++ b :: v → a ∈ u := by
        refine ih.imp_of_mem ?_
        intro a b ha hb hab u v huv
        rcases concat_eq_append_cons huv with ⟨-, rfl, -⟩ | ⟨w, -, hl⟩
        · exact List.mem_eraseDups.1 ha
        · exact hab u w hl
      rw [eraseDups_concat]
      split
      · exact hmono
      · rename_i hc
        rw [List.pairwise_append]
        refine ⟨hmono, by simp, ?_⟩
        intro a ha b hb u v huv
        rw [List.mem_singleton] at hb
        subst hb
        rcases concat_eq_append_cons huv with ⟨-, rfl, -⟩ | ⟨w, -, rfl⟩
        · exact List.mem_eraseDups.1 ha
        · exact absurd (by simp) hc

/-- The same, for what is taken from some members of a list: of two values that are listed one after
the other, the first one is taken from an earlier member. -/
theorem pairwise_findIdx {ε : Type} (es : List ε) (p : ε → Bool) (g : ε → α) :
    ((es.filter p).map g).eraseDups.Pairwise fun a b =>
      es.findIdx (fun e => p e && g e = a) < es.findIdx (fun e => p e && g e = b) := by
  refine (pairwise_eraseDups _).imp_of_mem fun {a b} _ hb hab => ?_
  obtain ⟨x, hx, hxb⟩ := List.mem_map.1 (List.mem_eraseDups.1 hb)
  have hex : (es.find? fun e => p e && g e = b).isSome = true := by
    rw [List.find?_isSome]
    exact ⟨x, List.mem_of_mem_filter hx, by simp [List.of_mem_filter hx, hxb]⟩
  obtain ⟨e, he⟩ := Option.isSome_iff_exists.1 hex
  obtain ⟨hfirst, u, v, rfl, hu⟩ := List.find?_eq_some_iff_append.1 he
  simp only [Bool.and_eq_true, decide_eq_true_iff] at hfirst
  obtain ⟨hp, rfl⟩ := hfirst
  have hahead : ∃ y ∈ u, (p y && g y = a) = true := by
    have hmem := hab ((u.filter p).map g) ((v.filter p).map g) (by simp [hp])
    obtain ⟨y, hy, hya⟩ := List.mem_map.1 hmem
    exact ⟨y, List.mem_of_mem_filter hy, by simp [List.of_mem_filter hy, hya]⟩
  have hnone : u.findIdx (fun x => p x && g x = g e) = u.length := by
    rw [List.findIdx_eq_length]
    exact fun x hx => Bool.not_eq_eq_eq_not.1 (hu x hx)
  have hlt := List.findIdx_lt_length_of_exists hahead
  rw [List.findIdx_append, if_pos hlt, List.findIdx_append, hnone, if_neg (Nat.lt_irrefl _)]
  exact Nat.lt_add_left _ hlt

end FirstOccurrences

namespace OrderedMap

variable {α β : Type} [DecidableEq α]

theorem lookup_of_mem_of_nodup {es : List (α × β)} {e : α × β} (h : (es.map Prod.fst).Nodup)
    (he : e ∈ es) : lookup e.1 es = some e.2 := by
  induction es with
  | nil => simp at he
  | cons x es ih =>
      rw [List.map_cons, List.nodup_cons] at h
      rcases List.mem_cons.1 he with rfl | he
      · simp [lookup]
      · have hne : x.1 ≠ e.1 := fun heq => h.1 (heq ▸ List.mem_map_of_mem he)
        simp [lookup, hne, ih h.2 he]

theorem mem_of_lookup {es : List (α × β)} {k : α} {v : β} (h : lookup k es = some v) :
    (k, v) ∈ es := by
  induction es with
  | nil => cases h
  | cons e es ih =>
      rw [lookup] at h
      split at h
      · rename_i hkey
        obtain rfl := Option.some.inj h
        exact hkey ▸ List.mem_cons_self
      · exact List.mem_cons_of_mem e (ih h)

theorem find?_eq_some_iff {m : OrderedMap α β} {k : α} {v : β} :
    m.find? k = some v ↔ (k, v) ∈ m.entries :=
  ⟨mem_of_lookup, lookup_of_mem_of_nodup m.nodup_keys⟩

theorem values_eq_filterMap_find? (m : OrderedMap α β) : m.values = m.keys.filterMap m.find? := by
  have hfind : ∀ e ∈ m.entries, m.find? e.1 = some e.2 := fun _ => find?_eq_some_iff.2
  rw [keys, List.filterMap_map, values]
  exact (List.filterMap_eq_map_iff_forall_eq_some.2 hfind).symm

variable {ε : Type} (key : ε → α) (f : ε → Option β → β)

theorem keys_foldl_alter (es : List ε) (m : OrderedMap α β) :
    (es.foldl (fun m e => m.alter (key e) (f e)) m).keys
      = (m.keys ++ es.map key).eraseDups := by
  induction es using List.reverseRecOn with
  | nil =>
      have hkeys : m.keys.Nodup := m.nodup_keys
      rw [List.foldl_nil, List.map_nil, List.append_nil, eraseDups_eq_self hkeys]
  | append_singleton es e ih =>
      rw [List.foldl_append, List.foldl_cons, List.foldl_nil, alter, keys_insert, ih,
        List.map_append, List.map_singleton, ← List.append_assoc, eraseDups_concat]
      simp only [List.mem_eraseDups]

/-- The value at a key comes from the steps at that key alone. -/
theorem find?_foldl_alter (es : List ε) (m : OrderedMap α β) (k : α) :
    (es.foldl (fun m e => m.alter (key e) (f e)) m).find? k
      = (es.filter (key · = k)).foldl (fun v e => some (f e v)) (m.find? k) := by
  induction es generalizing m with
  | nil => rfl
  | cons e es ih =>
      rw [List.foldl_cons, ih, alter, find?_insert]
      by_cases h : key e = k
      · simp [h]
      · simp [h]

end OrderedMap

section KeyOrder

variable {α β : Type} [DecidableEq α] [DecidableEq β]

/-- Pairs of keys in the order of a map of maps that is filled with them one after the other. -/
def keyOrder (ks : List (α × β)) : List (α × β) :=
  (ks.map Prod.fst).eraseDups.flatMap fun a =>
    ((ks.filter (·.1 = a)).map Prod.snd).eraseDups.map (a, ·)

theorem mem_keyOrder {ks : List (α × β)} {k : α × β} : k ∈ keyOrder ks ↔ k ∈ ks := by
  obtain ⟨a, b⟩ := k
  simp only [keyOrder, List.mem_flatMap, List.mem_eraseDups, List.mem_map, List.mem_filter,
    decide_eq_true_eq]
  constructor
  · rintro ⟨a', -, b', ⟨⟨c, d⟩, ⟨hmem, hc⟩, hd⟩, heq⟩
    obtain ⟨rfl, rfl⟩ := Prod.mk.inj heq
    exact hc ▸ hd ▸ hmem
  · exact fun h => ⟨a, ⟨(a, b), h, rfl⟩, b, ⟨(a, b), ⟨h, rfl⟩, rfl⟩, rfl⟩

/-- Of two pairs that are listed one after the other, the first has the group that came first, or
they are of one group and the first came first. -/
theorem pairwise_keyOrder (ks : List (α × β)) :
    (keyOrder ks).Pairwise fun x y =>
      if x.1 = y.1 then x.2 ≠ y.2 ∧ ∀ u v, ks = u ++ y :: v → x ∈ u
      else ∀ u v, ks.map Prod.fst = u ++ y.1 :: v → x.1 ∈ u := by
  rw [keyOrder, List.pairwise_flatMap]
  constructor
  · intro a _
    rw [List.pairwise_map]
    have horder := pairwise_eraseDups ((ks.filter (·.1 = a)).map Prod.snd)
    refine (horder.and (nodup_eraseDups _)).imp ?_
    intro b c hbc
    rw [if_pos rfl]
    refine ⟨hbc.2, ?_⟩
    rintro u v rfl
    have hmem := hbc.1 ((u.filter (·.1 = a)).map Prod.snd) ((v.filter (·.1 = a)).map Prod.snd)
      (by simp [List.filter_append])
    obtain ⟨⟨a', b'⟩, hx, rfl⟩ := List.mem_map.1 hmem
    rw [List.mem_filter, decide_eq_true_eq] at hx
    obtain ⟨hx, rfl⟩ := hx
    exact hx
  · refine ((pairwise_eraseDups (ks.map Prod.fst)).and (nodup_eraseDups _)).imp ?_
    intro a b hab x hx y hy
    obtain ⟨x', -, rfl⟩ := List.mem_map.1 hx
    obtain ⟨y', -, rfl⟩ := List.mem_map.1 hy
    rw [if_neg hab.2]
    exact hab.1

theorem nodup_keyOrder (ks : List (α × β)) : (keyOrder ks).Nodup := by
  refine (pairwise_keyOrder ks).imp_of_mem ?_
  rintro x y - hy h rfl
  rw [if_pos rfl] at h
  exact h.1 rfl

theorem filter_keyOrder (ks : List (α × β)) (a : α) :
    (keyOrder ks).filter (·.1 = a)
      = ((ks.filter (·.1 = a)).map Prod.snd).eraseDups.map (a, ·) := by
  have hgroup : ∀ c (l : List β), (l.map (c, ·)).filter (fun x : α × β => decide (x.1 = a))
      = if c = a then l.map (c, ·) else [] := by
    intro c l
    by_cases h : c = a <;> simp [h, List.filter_map, Function.comp_def]
  rw [keyOrder, List.filter_flatMap]
  simp only [hgroup]
  by_cases h : a ∈ ks.map Prod.fst
  · obtain ⟨u, v, huv⟩ := List.append_of_mem (List.mem_eraseDups.2 h)
    have hnodup := nodup_eraseDups (ks.map Prod.fst)
    rw [huv] at hnodup ⊢
    have hu : ∀ c ∈ u, c ≠ a := by
      rintro c hc rfl
      exact (List.nodup_append.1 hnodup).2.2 c hc c (by simp) rfl
    have hv : ∀ c ∈ v, c ≠ a := by
      rintro c hc rfl
      exact (List.nodup_cons.1 (List.nodup_append.1 hnodup).2.1).1 hc
    rw [List.flatMap_append, List.flatMap_cons, if_pos rfl]
    rw [List.flatMap_eq_nil_iff.2 fun c hc => if_neg (hu c hc),
      List.flatMap_eq_nil_iff.2 fun c hc => if_neg (hv c hc)]
    simp
  · have hnil : ks.filter (·.1 = a) = [] := by
      rw [List.filter_eq_nil_iff]
      intro x hx heq
      exact h (List.mem_map.2 ⟨x, hx, by simpa using heq⟩)
    rw [hnil, List.flatMap_eq_nil_iff.2]
    · rfl
    · rintro c hc
      refine if_neg ?_
      rintro rfl
      exact h (List.mem_eraseDups.1 hc)

theorem eraseDups_map_fst_keyOrder (ks : List (α × β)) :
    ((keyOrder ks).map Prod.fst).eraseDups = (ks.map Prod.fst).eraseDups := by
  have hmap : (keyOrder ks).map Prod.fst = (ks.map Prod.fst).eraseDups.flatMap fun a =>
      List.replicate ((ks.filter (·.1 = a)).map Prod.snd).eraseDups.length a := by
    simp [keyOrder, List.map_flatMap, Function.comp_def, List.map_const']
  rw [hmap]
  refine eraseDups_flatMap_replicate (nodup_eraseDups _) ?_
  intro a ha hlength
  obtain ⟨x, hx, rfl⟩ := List.mem_map.1 (List.mem_eraseDups.1 ha)
  have hmem : x.2 ∈ ((ks.filter (·.1 = x.1)).map Prod.snd).eraseDups :=
    List.mem_eraseDups.2 (List.mem_map_of_mem (List.mem_filter.2 ⟨hx, by simp⟩))
  rw [List.length_eq_zero_iff.1 hlength] at hmem
  simp at hmem

@[simp] theorem keyOrder_keyOrder (ks : List (α × β)) : keyOrder (keyOrder ks) = keyOrder ks := by
  rw [keyOrder, eraseDups_map_fst_keyOrder]
  simp only [filter_keyOrder, List.map_map, Function.comp_def, List.map_id',
    eraseDups_eq_self (nodup_eraseDups _)]
  rfl

end KeyOrder

end SchemaSieve
