import SchemaSieve.Filter.PerDeclaration
import SchemaSieve.Proofs.Entries

/-!
# What filters made from a template do

A template becomes one filter for each pair of a name and a matcher. The names, and the kind and the
excepted names of the template, decide which declarations are touched; which of the filters act on
one of these depends on its name alone. So what happens to a declaration is told by the pairs that
have its name, in their order, and the order of pairs with different names is not seen.
-/

namespace SchemaSieve

open Pipeline

/-- The actions that select fields, without their selectors. -/
inductive SelectingAction where
  | describe (text : String)
  | remove (invert : Bool)
  | edit (e : Edit)

namespace SelectingAction

def withSelector (s : Selector) : SelectingAction → Action
  | describe text => .describe s text
  | remove invert => .remove invert (.selector s)
  | edit e => .edit s e

/-- What is given from outside never fails. -/
def Total (a : SelectingAction) : Prop :=
  ∀ e, a = edit e → ∀ field, ∃ line, e.run field = .ok line

end SelectingAction

/-- A selector with a matcher in one of its slots. The other slots are as they were. -/
def Selector.filled (m : Matcher) (s : Selector) : SelectorSlot → Selector
  | .fieldName => { fieldName := some m, line := s.line, exception := s.exception }
  | .line => { fieldName := s.fieldName, line := some m, exception := s.exception }

namespace Filter

variable {template : Filter} {a : SelectingAction} {s : Selector} {slot : SelectorSlot}
  {pairs pairs' : List (String × Matcher)} {d e : Declaration}

/-- Whether filters made from a template are for a declaration. -/
def Reaches (template : Filter) (pairs : List (String × Matcher)) (d : Declaration) : Prop :=
  d.kind = template.kind.getD .input ∧ d.name ∈ pairs.map Prod.fst ∧
    template.nameException.any (·.isMatch d.name) = false

/-- What the actions for the name of a declaration make of it one after another, if none fails. -/
def actedFor? (a : SelectingAction) (s : Selector) (slot : SelectorSlot)
    (pairs : List (String × Matcher)) (d : Declaration) : Option Declaration :=
  ((pairs.filter (·.1 = d.name)).map fun p => a.withSelector (s.filled p.2 slot)).foldlM acted? d

/-- What is left of a declaration, if nothing fails: the actions for its name have made it of the
declaration, or it is as it was. -/
structure LeavesOf (template : Filter) (a : SelectingAction) (s : Selector) (slot : SelectorSlot)
    (pairs : List (String × Matcher)) (d e : Declaration) : Prop where
  acted : template.Reaches pairs d → actedFor? a s slot pairs d = some e
  untouched : ¬template.Reaches pairs d → e = d

theorem action_forDeclaration (h : template.action = a.withSelector s) (n : String) (m : Matcher) :
    (template.forDeclaration slot n m).action = a.withSelector (s.filled m slot) := by
  rw [forDeclaration, h]
  cases a <;> cases slot <;> rfl

theorem appliesTo_forDeclaration (n : String) (m : Matcher) :
    (template.forDeclaration slot n m).appliesTo d.kind d.name = true ↔
      d.kind = template.kind.getD .input ∧ n = d.name ∧
        template.nameException.any (·.isMatch d.name) = false := by
  have hname : (Matcher.ofTexts [n]).isMatch d.name = true ↔ n = d.name := by
    rw [Matcher.isMatch_ofTexts, List.mem_singleton, eq_comm]
  have hkind : (template.kind.or (some .input)).all (· = d.kind) = true ↔
      d.kind = template.kind.getD .input := by
    cases template.kind <;> simp [eq_comm]
  rw [appliesTo, Bool.and_eq_true]
  refine and_congr hkind ?_
  simp only [forDeclaration, accepts, Option.any_some, Bool.and_eq_true, hname,
    Bool.not_eq_true']

theorem filter_perDeclaration (hkind : d.kind = template.kind.getD .input)
    (hexception : template.nameException.any (·.isMatch d.name) = false) :
    (template.perDeclaration slot pairs).filter (·.appliesTo d.kind d.name)
      = template.perDeclaration slot (pairs.filter (·.1 = d.name)) := by
  rw [perDeclaration, List.filter_map, perDeclaration]
  refine congrArg _ (List.filter_congr fun p _ => ?_)
  rw [Bool.eq_iff_iff, decide_eq_true_iff, Function.comp_apply, appliesTo_forDeclaration]
  exact ⟨fun happlies => happlies.2.1, fun hname => ⟨hkind, hname, hexception⟩⟩

theorem leavesOf_iff (h : template.action = a.withSelector s) :
    leaves? (template.perDeclaration slot pairs) d = some e ↔
      template.LeavesOf a s slot pairs d e := by
  rw [leaves?_eq_foldlM]
  by_cases hreaches : template.Reaches pairs d
  · have hactions : (template.perDeclaration slot (pairs.filter (·.1 = d.name))).map (·.action)
        = (pairs.filter (·.1 = d.name)).map fun p => a.withSelector (s.filled p.2 slot) := by
      rw [perDeclaration, List.map_map]
      exact List.map_congr_left fun p _ => action_forDeclaration h p.1 p.2
    rw [filter_perDeclaration hreaches.1 hreaches.2.2, hactions]
    exact ⟨fun hacted => ⟨fun _ => hacted, fun hnot => absurd hreaches hnot⟩,
      fun hleft => hleft.acted hreaches⟩
  · have hnone : (template.perDeclaration slot pairs).filter (·.appliesTo d.kind d.name) = [] := by
      refine List.filter_eq_nil_iff.2 fun f hf happlies => hreaches ?_
      obtain ⟨p, hp, rfl⟩ := List.mem_map.1 hf
      obtain ⟨hkind, hname, hexception⟩ := (appliesTo_forDeclaration p.1 p.2).1 happlies
      exact ⟨hkind, List.mem_map.2 ⟨p, hp, hname⟩, hexception⟩
    rw [hnone]
    exact ⟨fun heq => ⟨fun hyes => absurd hyes hreaches, fun _ => (Option.some.inj heq).symm⟩,
      fun hleft => congrArg some (hleft.untouched hreaches).symm⟩

/-- What is left of a declaration is told by the pairs that have its name. -/
theorem LeavesOf.congr (hsame : pairs.filter (·.1 = d.name) = pairs'.filter (·.1 = d.name))
    (hleft : template.LeavesOf a s slot pairs d e) : template.LeavesOf a s slot pairs' d e := by
  have hreaches : template.Reaches pairs' d ↔ template.Reaches pairs d := by
    have hmem : ∀ ps : List (String × Matcher),
        d.name ∈ ps.map Prod.fst ↔ ps.filter (·.1 = d.name) ≠ [] := by
      intro ps
      simp [List.filter_eq_nil_iff]
    rw [Reaches, Reaches, hmem, hmem, hsame]
  constructor
  · rw [hreaches, actedFor?, ← hsame]
    exact hleft.acted
  · rw [hreaches]
    exact hleft.untouched

theorem exists_leavesOf_iff :
    (∃ e, template.LeavesOf a s slot pairs d e) ↔
      (template.Reaches pairs d → ∃ e, actedFor? a s slot pairs d = some e) := by
  by_cases hreaches : template.Reaches pairs d
  · constructor
    · rintro ⟨e, hleft⟩ -
      exact ⟨e, hleft.acted hreaches⟩
    · intro h
      obtain ⟨e, he⟩ := h hreaches
      exact ⟨e, fun _ => he, fun hnot => absurd hreaches hnot⟩
  · exact iff_of_true ⟨d, fun hyes => absurd hyes hreaches, fun _ => rfl⟩
      fun hyes => absurd hyes hreaches

theorem exists_onEntry_withSelector (htotal : a.Total) (s : Selector) (field : Field) :
    ∃ left?, (a.withSelector s).onEntry field = .ok left? := by
  have hedit : ∀ edit : Edit, (∃ line, edit.run field = .ok line) →
      ∃ left?, (s.newLine? edit field).map (fun new? => some (new?.getD field.line))
        = .ok left? := by
    rintro edit ⟨line, hrun⟩
    rw [Selector.newLine?, hrun]
    split <;> exact ⟨_, rfl⟩
  cases a with
  | describe text => exact hedit _ ⟨_, rfl⟩
  | remove invert => exact ⟨_, rfl⟩
  | edit e => exact hedit e (htotal e rfl field)

theorem failure?_effect_forDeclaration (h : template.action = a.withSelector s) (htotal : a.Total)
    (n : String) (m : Matcher) (d : Declaration) :
    ((template.forDeclaration slot n m).effect d).failure? = none := by
  refine failure?_effect_eq_none_iff.2 fun l _ => ?_
  rw [onEntry, action_forDeclaration h]
  split
  · exact exists_onEntry_withSelector htotal _ _
  · exact ⟨_, rfl⟩

theorem exists_leaves?_perDeclaration (h : template.action = a.withSelector s) (htotal : a.Total)
    (slot : SelectorSlot) (pairs : List (String × Matcher)) (d : Declaration) :
    ∃ e, leaves? (template.perDeclaration slot pairs) d = some e := by
  induction pairs generalizing d with
  | nil => exact ⟨d, leaves?_nil d⟩
  | cons p pairs ih =>
      obtain ⟨e, he⟩ := ih ((template.forDeclaration slot p.1 p.2).effect d).declaration
      exact ⟨e, leaves?_cons_eq_some_iff.2
        ⟨failure?_effect_forDeclaration h htotal p.1 p.2 d, he⟩⟩

theorem apply_perDeclaration_eq_ok_iff {schema t : Schema}
    (h : template.action = a.withSelector s) :
    apply (template.perDeclaration slot pairs) schema = .ok t ↔ schema.SameFrame t ∧
      List.Forall₂ (template.LeavesOf a s slot pairs) schema.declarations t.declarations := by
  simp only [apply_eq_ok_iff_forall₂, leavesOf_iff h]

/-- Pairs in another order do the same, if those with one name come in the same order. -/
theorem apply_perDeclaration_congr {schema t : Schema} (h : template.action = a.withSelector s)
    (hsame : ∀ n, pairs.filter (·.1 = n) = pairs'.filter (·.1 = n)) :
    apply (template.perDeclaration slot pairs) schema = .ok t ↔
      apply (template.perDeclaration slot pairs') schema = .ok t := by
  rw [apply_perDeclaration_eq_ok_iff h, apply_perDeclaration_eq_ok_iff h]
  refine and_congr_right fun _ => ⟨fun hleft => ?_, fun hleft => ?_⟩
  · exact hleft.imp fun d e => LeavesOf.congr (hsame d.name)
  · exact hleft.imp fun d e => LeavesOf.congr (hsame d.name).symm

theorem filter_swap {p q : String × Matcher} (hne : p.1 ≠ q.1)
    (before after : List (String × Matcher)) (n : String) :
    (before ++ p :: q :: after).filter (·.1 = n)
      = (before ++ q :: p :: after).filter (·.1 = n) := by
  rw [List.filter_append, List.filter_append]
  congr 1
  by_cases hp : p.1 = n
  · have hq : q.1 ≠ n := fun hq => hne (hp.trans hq.symm)
    simp [hp, hq]
  · simp [List.filter_cons, hp]

/-- **Filters made from a template touch only the declarations that they are for**: those of the
kind of the template, an input if it has none, that have one of the names and are not excepted. Each
of them becomes what the action of the template makes of it with the matchers for its name, one
after another. A run leaves just that, unless one of these actions fails, which takes an edit that
fails; and the order of pairs with different names does not matter. -/
theorem apply_perDeclaration (h : template.action = a.withSelector s) (slot : SelectorSlot)
    (pairs : List (String × Matcher)) (schema : Schema) :
    (∀ t, apply (template.perDeclaration slot pairs) schema = .ok t ↔ schema.SameFrame t ∧
      List.Forall₂ (template.LeavesOf a s slot pairs) schema.declarations t.declarations) ∧
    ((∃ t, apply (template.perDeclaration slot pairs) schema = .ok t) ↔
      ∀ d ∈ schema.declarations, template.Reaches pairs d →
        ∃ e, actedFor? a s slot pairs d = some e) ∧
    (a.Total → ∃ t, apply (template.perDeclaration slot pairs) schema = .ok t) ∧
    (∀ pairs' : List (String × Matcher),
      (∀ n, pairs.filter (·.1 = n) = pairs'.filter (·.1 = n)) → ∀ t,
        apply (template.perDeclaration slot pairs) schema = .ok t ↔
          apply (template.perDeclaration slot pairs') schema = .ok t) ∧
    ∀ before p q after, pairs = before ++ p :: q :: after → p.1 ≠ q.1 → ∀ t,
      apply (template.perDeclaration slot pairs) schema = .ok t ↔
        apply (template.perDeclaration slot (before ++ q :: p :: after)) schema = .ok t := by
  refine ⟨fun t => apply_perDeclaration_eq_ok_iff h, ?_, ?_, ?_, ?_⟩
  · simp only [exists_apply_iff, leavesOf_iff h, exists_leavesOf_iff]
  · intro htotal
    exact exists_apply_iff.2 fun d _ => exists_leaves?_perDeclaration h htotal slot pairs d
  · intro pairs' hsame t
    exact apply_perDeclaration_congr h hsame
  · rintro before p q after rfl hne t
    exact apply_perDeclaration_congr h (filter_swap hne before after)

/-- The type `A` is not an input, and `C` is excepted. A field of the input `A` goes for its line,
which the template has a matcher for. -/
theorem apply_perDeclaration_of_homonyms :
    let schema := Schema.ofText (
      "type A \x7b\n  a: Int\n\x7d\ninput A \x7b\n  a: Int\n  b: Int\n  c: Int\n  d: Int\n\x7d\n"
        ++ "input B \x7b\n  a: Int\n  b: Int\n\x7d\ninput C \x7b\n  a: Int\n\x7d\n")
    let action : SelectingAction := .remove false
    let selector : Selector := { line := some (.exact ["  c: Int"]) }
    let template : Filter :=
      { action := action.withSelector selector, nameException := some (.exact ["C"]) }
    let a := ("A", Matcher.exact ["a"])
    let a' := ("A", Matcher.exact ["b"])
    let b := ("B", Matcher.exact ["b"])
    let c := ("C", Matcher.exact ["a"])
    let made := template.perDeclaration .fieldName
    let t := (run (made [a, b, a', c]) schema).1
    action.Total ∧ apply (made [a, b, a', c]) schema = .ok t ∧
      apply (made [b, a, a', c]) schema = .ok t ∧ apply (made [a, a', c, b]) schema = .ok t ∧
      schema.SameFrame t ∧
      t.declarations.map (·.fields)
        = [["  a: Int"], ["  d: Int"], ["  a: Int"], ["  a: Int"]] := by
  intro schema action selector template a a' b c made t
  have htotal : action.Total := fun e he => absurd he (by simp [action])
  have haction : template.action = action.withSelector selector := rfl
  obtain ⟨hiff, -, hrun, hsame, hswap⟩ :=
    apply_perDeclaration haction .fieldName [a, b, a', c] schema
  have ht : apply (made [a, b, a', c]) schema = .ok t := by
    obtain ⟨t', ht'⟩ := hrun htotal
    obtain rfl : t' = t := (apply_eq_ok_iff.1 ht').2
    exact ht'
  have hnames : ∀ n, [a, b, a', c].filter (·.1 = n) = [a, a', c, b].filter (·.1 = n) := by
    intro n
    by_cases hb : b.1 = n
    · subst hb
      rfl
    · simp [List.filter_cons, hb]
  refine ⟨htotal, ht, ?_, (hsame _ hnames t).1 ht, ((hiff t).1 ht).1, by decide +kernel⟩
  exact (hswap [] a b [a', c] rfl (by decide) t).1 ht

end Filter

end SchemaSieve
