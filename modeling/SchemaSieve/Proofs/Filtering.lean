import SchemaSieve.Pipeline
import SchemaSieve.Proofs.ParsedLines
import Mathlib.Data.List.Forall2

/-!
# What filters leave

What every filter leaves of every declaration holds of all filters together: filters work on one
declaration after another, and change neither the order of the declarations nor their opening lines.
Filters that remove fields change nothing but the fields, of which a part is left in its order.
-/

namespace SchemaSieve

theorem exists_of_mem_forall₂ {α β : Type} {R : α → β → Prop} {as : List α} {bs : List β}
    (h : List.Forall₂ R as bs) {b : β} (hb : b ∈ bs) : ∃ a ∈ as, R a b := by
  induction h with
  | nil => simp at hb
  | @cons a b' as bs hR _ ih =>
      rcases List.mem_cons.1 hb with rfl | hb
      · exact ⟨a, List.mem_cons_self, hR⟩
      · obtain ⟨a', ha', hR'⟩ := ih hb
        exact ⟨a', List.mem_cons_of_mem a ha', hR'⟩

namespace OrderedMap

variable {α β σ : Type} {R : β → β → Prop}

theorem forall₂_visit {f : σ → β → β × σ} (h : ∀ st v, R v (f st v).1) (st : σ)
    (es : List (α × β)) :
    List.Forall₂ R (es.map Prod.snd) ((visit f st es).1.map Prod.snd) := by
  induction es generalizing st with
  | nil => exact List.Forall₂.nil
  | cons e es ih => exact List.Forall₂.cons (h st e.2) (ih _)

theorem forall₂_mapAccum {f : σ → β → β × σ} (h : ∀ st v, R v (f st v).1) (st : σ)
    (m : OrderedMap α β) : List.Forall₂ R m.values (m.mapAccum f st).1.values :=
  forall₂_visit h st m.entries

end OrderedMap

/-- A visit that relates every declaration to what becomes of it relates all of them, in order. -/
theorem Schema.forall₂_mapAccum {σ : Type} {R : Declaration → Declaration → Prop}
    {f : σ → Declaration → Declaration × σ} (h : ∀ st d, R d (f st d).1) (s : Schema) (st : σ) :
    List.Forall₂ R s.declarations (s.mapAccum f st).1.declarations := by
  have hgroups := OrderedMap.forall₂_mapAccum
    (R := fun g g' => List.Forall₂ R g.values g'.values)
    (f := fun (st : σ) (g : OrderedMap String Declaration) => g.mapAccum f st)
    (fun st g => OrderedMap.forall₂_mapAccum h st g) st s.groups
  exact List.rel_flatMap hgroups fun _ _ hg => hg

/-- The same but for what is in the body. -/
def Declaration.SameOpening (d e : Declaration) : Prop :=
  e = { d with additions := e.additions, fields := e.fields }

/-- The same but for some fields that are gone. -/
def Declaration.LosesFields (d e : Declaration) : Prop :=
  e = { d with fields := e.fields } ∧ e.fields.Sublist d.fields

namespace Declaration

variable {d e e' : Declaration}

theorem SameOpening.refl (d : Declaration) : d.SameOpening d := rfl

theorem SameOpening.trans (h : d.SameOpening e) (h' : e.SameOpening e') : d.SameOpening e' := by
  rw [SameOpening] at *
  rw [h', h]

theorem LosesFields.refl (d : Declaration) : d.LosesFields d :=
  ⟨rfl, List.Sublist.refl d.fields⟩

theorem LosesFields.trans (h : d.LosesFields e) (h' : e.LosesFields e') : d.LosesFields e' := by
  refine ⟨?_, h'.2.trans h.2⟩
  rw [h'.1, h.1]

theorem SameOpening.key_eq (h : d.SameOpening e) : e.key = d.key := by
  rw [h]
  rfl

theorem LosesFields.isRead {P : String → Prop} (h : d.LosesFields e) (hd : d.IsRead P) :
    e.IsRead P := by
  rw [h.1]
  exact ⟨⟨hd.words.name, hd.words.clause⟩, hd.description,
    fun l hl => hd.fields l (h.2.mem hl), hd.additions⟩

theorem map_key_eq {ds es : List Declaration} (h : List.Forall₂ SameOpening ds es) :
    es.map key = ds.map key := by
  induction h with
  | nil => rfl
  | cons hd _ ih => rw [List.map_cons, List.map_cons, hd.key_eq, ih]

end Declaration

namespace Filter

theorem sameOpening_effect (f : Filter) (d : Declaration) :
    d.SameOpening (f.effect d).declaration := by
  rw [effect]
  split
  · cases f.action <;> rfl
  · rfl

theorem sublist_sortLines (removes : String → Except String Bool) (ls : List String) :
    (sortLines removes ls).kept.Sublist ls := by
  induction ls with
  | nil => exact List.Sublist.refl []
  | cons l ls ih =>
      rw [sortLines]
      split
      · exact List.nil_sublist _
      · rename_i b _
        cases b with
        | true => exact ih.cons l
        | false => exact ih.cons_cons l

theorem losesFields_effect {f : Filter} {invert : Bool} {test : FieldTest}
    (h : f.action = .remove invert test) (d : Declaration) :
    d.LosesFields (f.effect d).declaration := by
  rw [effect]
  split
  · rw [h, act, removeFields]
    refine ⟨rfl, ?_⟩
    split
    · exact List.nil_sublist _
    · exact sublist_sortLines _ _
  · exact Declaration.LosesFields.refl d

end Filter

namespace Pipeline

variable {R : Declaration → Declaration → Prop} {fs : List Filter} {s t : Schema}

theorem runOn_of_effect (hrefl : ∀ d, R d d) (htrans : ∀ {d e e'}, R d e → R e e' → R d e')
    (h : ∀ f ∈ fs, ∀ d, R d (f.effect d).declaration) (i : Nat) (p : Progress) (d : Declaration) :
    R d (runOn i fs p d).1 := by
  induction fs generalizing i p d with
  | nil => exact hrefl d
  | cons f fs ih =>
      have hf := h f (by simp) d
      rw [runOn]
      split
      · exact hf
      · exact htrans hf (ih (fun g hg => h g (by simp [hg])) _ _ _)

theorem apply_eq_ok_iff : apply fs s = .ok t ↔ (run fs s).2.failure? = none ∧ t = (run fs s).1 := by
  rw [apply]
  split
  · rename_i hrun
    simp [hrun, eq_comm]
  · rename_i hrun
    simp [hrun]

/-- A relation that chains holds between the declarations before and after filters have run, if it
holds for each filter. A run that fails keeps it too. -/
theorem forall₂_run (hrefl : ∀ d, R d d) (htrans : ∀ {d e e'}, R d e → R e e' → R d e')
    (h : ∀ f ∈ fs, ∀ d, R d (f.effect d).declaration) :
    List.Forall₂ R s.declarations (run fs s).1.declarations := by
  refine Schema.forall₂_mapAccum ?_ s ({} : Progress)
  intro p d
  rw [visit]
  split
  · exact hrefl d
  · exact runOn_of_effect hrefl htrans h 0 p d

theorem forall₂_apply (hrefl : ∀ d, R d d) (htrans : ∀ {d e e'}, R d e → R e e' → R d e')
    (h : ∀ f ∈ fs, ∀ d, R d (f.effect d).declaration) (happly : apply fs s = .ok t) :
    List.Forall₂ R s.declarations t.declarations := by
  rw [(apply_eq_ok_iff.1 happly).2]
  exact forall₂_run hrefl htrans h

theorem sameOpening_run : List.Forall₂ Declaration.SameOpening s.declarations
    (run fs s).1.declarations :=
  forall₂_run Declaration.SameOpening.refl Declaration.SameOpening.trans
    fun f _ d => f.sameOpening_effect d

theorem sameOpening_apply (h : apply fs s = .ok t) :
    List.Forall₂ Declaration.SameOpening s.declarations t.declarations := by
  rw [(apply_eq_ok_iff.1 h).2]
  exact sameOpening_run

theorem exists_keyOrder_apply {content : String} (h : apply fs (Schema.ofText content) = .ok t) :
    ∃ ks, t.declarations.map Declaration.key = keyOrder ks := by
  rw [Declaration.map_key_eq (sameOpening_apply h)]
  exact exists_keyOrder_ofText content

theorem losesFields_apply (hremove : ∀ f ∈ fs, ∃ invert test, f.action = .remove invert test)
    (h : apply fs s = .ok t) :
    List.Forall₂ Declaration.LosesFields s.declarations t.declarations := by
  refine forall₂_apply Declaration.LosesFields.refl Declaration.LosesFields.trans ?_ h
  intro f hf d
  obtain ⟨invert, test, haction⟩ := hremove f hf
  exact Filter.losesFields_effect haction d

/-- Where filters have only removed fields, the declarations of a text still have the form of
declarations that were read. -/
theorem isRead_of_removals {content : String}
    (hremove : ∀ f ∈ fs, ∃ invert test, f.action = .remove invert test)
    (h : apply fs (Schema.ofText content) = .ok t) {e : Declaration} (he : e ∈ t.declarations) :
    e.IsRead (· ∈ Text.lines content) := by
  obtain ⟨d, hd, hlost⟩ := exists_of_mem_forall₂ (losesFields_apply hremove h) he
  exact hlost.isRead (isRead_of_mem_declarations hd)

end Pipeline

end SchemaSieve
