import SchemaSieve.Proofs.Captioning
import SchemaSieve.Proofs.Deciding
import SchemaSieve.Proofs.FieldGroups

/-!
# Two names of a field

A description is looked up under the word that a line begins with, if a colon or an opening
parenthesis stands right behind it. A filter takes the name from the signature, that is from the
first colon with a blank behind it. `name_ofField_iff` says when the two names agree. So fields
that are removed by a name may leave lines behind that are described under the same name:
`render_removalOf_eq_iff` says that only these show in the text.
-/

namespace SchemaSieve

open Text

/-- A line begins, blanks aside, with a name, a mark right behind it and then the rest. -/
def BeginsWith (line name : String) (mark : Char) (rest : String) : Prop :=
  ∃ indent : List Char, line.toList = indent ++ (name.toList ++ mark :: rest.toList) ∧
    (∀ c ∈ indent, isBlank c = true) ∧ (∀ c ∈ name.toList, isWord c = true) ∧
    (mark = ':' ∨ mark = '(')

/-- The first character of a text is a blank. -/
def StartsBlank (text : String) : Prop := ∃ c cs, text.toList = c :: cs ∧ isBlank c = true

section LeadingToken

variable {line name rest : String} {mark : Char}

theorem isBlank_mark (h : mark = ':' ∨ mark = '(') : isBlank mark = false := by
  rcases h with rfl | rfl <;> decide

theorem isWord_mark (h : mark = ':' ∨ mark = '(') : isWord mark = false := by
  rcases h with rfl | rfl <;> decide

theorem BeginsWith.toList_trim (h : BeginsWith line name mark rest) :
    (trim line).toList = name.toList ++ mark :: rest.toList.rdropWhile isBlank := by
  obtain ⟨indent, hline, hindent, hname, hmark⟩ := h
  have hstop : (name.toList ++ mark :: rest.toList).dropWhile isBlank
      = name.toList ++ mark :: rest.toList := by
    cases hcs : name.toList with
    | nil => exact List.dropWhile_cons_of_neg (by simp [isBlank_mark hmark])
    | cons c cs =>
        rw [hcs] at hname
        exact List.dropWhile_cons_of_neg
          (by simp [isBlank_eq_false_of_isWord (hname c List.mem_cons_self)])
  rw [Text.toList_trim, dropTrailing_eq_rdropWhile, hline, List.dropWhile_append_of_pos hindent,
    hstop, rdropWhile_append_cons_of_neg (by simp [isBlank_mark hmark])]

theorem BeginsWith.leadingToken (h : BeginsWith line name mark rest) :
    leadingToken line = some (name, mark) := by
  obtain ⟨-, -, -, hname, hmark⟩ := id h
  have hword : ¬isWord mark = true := by simp [isWord_mark hmark]
  have hdrop : (trim line).toList.dropWhile isWord = mark :: rest.toList.rdropWhile isBlank := by
    rw [h.toList_trim, List.dropWhile_append_of_pos hname, List.dropWhile_cons_of_neg hword]
  have htake : (trim line).toList.takeWhile isWord = name.toList := by
    rw [h.toList_trim, List.takeWhile_append_of_pos hname, List.takeWhile_cons_of_neg hword,
      List.append_nil]
  rw [SchemaSieve.leadingToken]
  simp only [hdrop, htake, hmark, if_true, String.ofList_toList]

theorem exists_beginsWith (h : leadingToken line = some (name, mark)) :
    ∃ rest, BeginsWith line name mark rest := by
  rw [leadingToken] at h
  split at h
  · rename_i c tail hdrop
    split at h
    · rename_i hmark
      obtain ⟨rfl, rfl⟩ := Prod.mk.inj (Option.some.inj h)
      set blanks := (line.toList.dropWhile isBlank).rtakeWhile isBlank
      refine ⟨String.ofList (tail ++ blanks), line.toList.takeWhile isBlank, ?_, ?_, ?_, hmark⟩
      · rw [String.toList_ofList, String.toList_ofList]
        calc line.toList
            = line.toList.takeWhile isBlank ++ line.toList.dropWhile isBlank :=
              List.takeWhile_append_dropWhile.symm
          _ = line.toList.takeWhile isBlank ++ ((trim line).toList ++ blanks) := by
              rw [Text.toList_trim, dropTrailing_eq_rdropWhile, List.rdropWhile_append_rtakeWhile]
          _ = line.toList.takeWhile isBlank
                ++ ((trim line).toList.takeWhile isWord ++ c :: (tail ++ blanks)) := by
              rw [← List.cons_append, ← hdrop, ← List.append_assoc (List.takeWhile isWord _),
                List.takeWhile_append_dropWhile]
      · exact fun d => List.mem_takeWhile_imp
      · rw [String.toList_ofList]
        exact fun d => List.mem_takeWhile_imp
    · cases h
  · cases h

theorem leadingToken_eq_some_iff :
    leadingToken line = some (name, mark) ↔ ∃ rest, BeginsWith line name mark rest :=
  ⟨exists_beginsWith, fun ⟨_, h⟩ => h.leadingToken⟩

/-- A comment does not begin with a word. -/
theorem BeginsWith.comment?_eq_none (h : BeginsWith line name mark rest) :
    Captions.comment? line = none := by
  obtain ⟨-, -, -, hname, hmark⟩ := id h
  rw [Captions.comment?, h.toList_trim]
  split
  · rename_i cs hcs
    cases hchars : name.toList with
    | nil =>
        rw [hchars] at hcs
        obtain ⟨rfl, -⟩ := List.cons.inj hcs
        simp at hmark
    | cons c word =>
        rw [hchars] at hcs hname
        obtain ⟨rfl, -⟩ := List.cons.inj hcs
        exact absurd (hname '#' List.mem_cons_self) (by decide)
  · rfl

end LeadingToken

namespace Signature

variable {line name rest : String} {mark : Char} {cs : List Char}

theorem scan_append_of_isWord (h : ∀ c ∈ cs, isWord c = true) (run ds : List Char) :
    scan run (cs ++ ds) = scan (cs.reverse ++ run) ds := by
  induction cs generalizing run with
  | nil => rfl
  | cons c cs ih =>
      have hc := h c List.mem_cons_self
      have hcolon : c ≠ ':' := ne_of_apply_ne isWord (by rw [hc]; decide)
      rw [List.cons_append, scan_cons hcolon, if_pos hc, ih fun d hd => h d (by simp [hd])]
      simp

theorem scan_append_of_isBlank (h : ∀ c ∈ cs, isBlank c = true) (ds : List Char) :
    scan [] (cs ++ ds) = scan [] ds := by
  induction cs with
  | nil => rfl
  | cons c cs ih =>
      have hc := h c List.mem_cons_self
      have hcolon : c ≠ ':' := ne_of_apply_ne isBlank (by rw [hc]; decide)
      rw [List.cons_append, scan_of_not_isWord hcolon (isWord_eq_false_of_isBlank hc),
        ih fun d hd => h d (by simp [hd])]

theorem scan_of_beginsWith (h : BeginsWith line name mark rest) :
    scan [] line.toList = scan name.toList.reverse (mark :: rest.toList) := by
  obtain ⟨indent, hline, hindent, hname, -⟩ := h
  rw [hline, scan_append_of_isBlank hindent, scan_append_of_isWord hname, List.append_nil]

/-- A word with a colon and a blank behind it names the field. -/
theorem name_of_startsBlank (h : BeginsWith line name ':' rest) (hrest : StartsBlank rest) :
    (ofField line).name = name := by
  obtain ⟨c, cs, hrest, hc⟩ := hrest
  rw [ofField, scan_of_beginsWith h, hrest, scan_colon hc, List.reverse_reverse]
  exact String.ofList_toList

/-- Any other word is read over, and the rest names the field. -/
theorem ofField_of_beginsWith (h : BeginsWith line name mark rest)
    (hrest : ¬(mark = ':' ∧ StartsBlank rest)) : ofField line = ofField rest := by
  have hscan : scan [] line.toList = scan [] rest.toList := by
    rw [scan_of_beginsWith h]
    obtain ⟨-, -, -, -, rfl | rfl⟩ := h
    · cases hcs : rest.toList with
      | nil => rfl
      | cons c cs =>
          cases hc : isBlank c with
          | true => exact absurd ⟨rfl, c, cs, hcs, hc⟩ hrest
          | false => rw [scan_colon_of_not_blank hc]
    · exact scan_of_not_isWord (by decide) (by decide) _ _
  rw [ofField, ofField, hscan]

/-- The name in the signature is the word that the line begins with, if a colon and a blank follow,
or else if the rest has it for a name once more. -/
theorem name_ofField_iff (h : BeginsWith line name mark rest) :
    (ofField line).name = name ↔ mark = ':' ∧ StartsBlank rest ∨ (ofField rest).name = name := by
  by_cases hrest : mark = ':' ∧ StartsBlank rest
  · obtain ⟨rfl, hblank⟩ := hrest
    exact iff_of_true (name_of_startsBlank h hblank) (Or.inl ⟨rfl, hblank⟩)
  · rw [ofField_of_beginsWith h hrest, or_iff_right hrest]

end Signature

namespace Descriptions

variable {m : Descriptions} {n : String}

/-- All texts are for fields of one name, and none is for a declaration. -/
def HoldsOnly (m : Descriptions) (n : String) : Prop :=
  ∀ kind declaration, m.node? kind declaration = none ∧
    ∀ field text, m.field? kind declaration field = some text → field = n

theorem holdsOnly_empty (n : String) : HoldsOnly {} n :=
  fun _ _ => ⟨rfl, fun _ _ h => by cases h⟩

theorem HoldsOnly.insert (h : m.HoldsOnly n) (hn : n ≠ nodeKey) (kind : Kind)
    (declaration text : String) : (m.insert kind declaration n text).HoldsOnly n := by
  intro kind' declaration'
  obtain ⟨hnode, hfield⟩ := h kind' declaration'
  refine ⟨?_, fun field text' htext => ?_⟩
  · rw [node?, field?_insert, if_neg fun hkey => hn hkey.2.2]
    exact hnode
  · rw [field?_insert] at htext
    split at htext
    · rename_i hkey
      exact hkey.2.2.symm
    · exact hfield field text' htext

end Descriptions

namespace Declaration

variable {d : Declaration} {n : String}

/-- A declaration without the fields whose signatures have a name. -/
def without (d : Declaration) (n : String) : Declaration :=
  { d with fields := d.fields.filter fun l => (Signature.ofField l).name ≠ n }

/-- A field outside the argument lists begins with a name. -/
def BeginsField (d : Declaration) (n : String) : Prop :=
  ∃ before line after mark rest, d.fields = before ++ line :: after ∧
    ¬Captions.ListOpenBehind before ∧ BeginsWith line n mark rest

/-- A text for fields of one name is written if one of these fields begins. -/
theorem mem_textsOf_iff_beginsField {c : Captions} {text : String} (hd : d.bodyLines = d.fields)
    (hc : c.descriptions.HoldsOnly n) :
    text ∈ c.textsOf d ↔
      c.descriptions.field? d.kind d.name n = some text ∧ text ≠ "" ∧ d.BeginsField n := by
  obtain ⟨hnode, hfield⟩ := hc d.kind d.name
  rw [Captions.mem_textsOf_iff, hd]
  constructor
  · rintro ⟨before, line, after, hsplit, -, hopen, name, mark, htoken, -, htext, hne⟩
    obtain rfl := hfield name text htext
    obtain ⟨rest, hbegins⟩ := leadingToken_eq_some_iff.1 htoken
    exact ⟨htext, hne, before, line, after, mark, rest, hsplit, hopen, hbegins⟩
  · rintro ⟨htext, hne, before, line, after, mark, rest, hsplit, hopen, hbegins⟩
    refine ⟨before, line, after, hsplit, hbegins.comment?_eq_none, hopen, n, mark,
      hbegins.leadingToken, ?_, htext, hne⟩
    rintro rfl
    exact absurd (hnode.symm.trans htext) (by simp)

theorem not_beginsField_without
    (h : ∀ line ∈ d.fields, ∀ mark rest, BeginsWith line n mark rest →
      (Signature.ofField line).name = n) : ¬(d.without n).BeginsField n := by
  rintro ⟨before, line, after, mark, rest, hsplit, -, hbegins⟩
  have hmem : line ∈ (d.without n).fields := by simp [hsplit]
  obtain ⟨hline, hname⟩ := List.mem_filter.1 hmem
  exact of_decide_eq_true hname (h line hline mark rest hbegins)

end Declaration

namespace Pipeline

theorem exists_apply_removalOf (n : String) (s : Schema) :
    ∃ t, apply [removalOf n] s = .ok t ∧ s.SameFrame t ∧
      t.declarations = s.declarations.map (·.without n) := by
  obtain ⟨t, ht, hframe, hdeclarations⟩ := exists_apply_of_selector (f := removalOf n) rfl s
  refine ⟨t, ht, hframe, hdeclarations.trans (List.map_congr_left fun d _ => ?_)⟩
  simp [Filter.narrow, removalOf, Filter.appliesTo, Selector.selects, accepts, Matcher.isMatch,
    Declaration.without, Declaration.field, Field.signature]

/-- **A field that is removed by its name can still be described** where the line that it begins
with has another name in its signature. Such lines are all that descriptions of the name show at. -/
theorem render_removalOf_eq_iff (content n : String) :
    ∃ t, apply [removalOf n] (Schema.ofText content) = .ok t ∧
      (Schema.ofText content).SameFrame t ∧
      t.declarations = (Schema.ofText content).declarations.map (·.without n) ∧
      (∀ layout : Layout, layout.descriptions.HoldsOnly n →
        (t.render layout = t.render layout.undescribed ↔
          ∀ e ∈ t.declarations, ∀ text, layout.descriptions.field? e.kind e.name n = some text →
            text ≠ "" → ¬e.BeginsField n)) ∧
      (∀ line mark rest, BeginsWith line n mark rest →
        ((Signature.ofField line).name = n ↔
          mark = ':' ∧ StartsBlank rest ∨ (Signature.ofField rest).name = n)) ∧
      ((∀ d ∈ (Schema.ofText content).declarations, ∀ line ∈ d.fields, ∀ mark rest,
          BeginsWith line n mark rest → (Signature.ofField line).name = n) →
        ∀ layout : Layout, layout.descriptions.HoldsOnly n →
          t.render layout = t.render layout.undescribed) := by
  obtain ⟨t, ht, hframe, hdeclarations⟩ := exists_apply_removalOf n (Schema.ofText content)
  have hremove : ∀ f ∈ [removalOf n], ∃ invert test, f.action = .remove invert test :=
    List.forall_mem_singleton.2 ⟨_, _, rfl⟩
  have hlines : ∀ e ∈ t.declarations, e.bodyLines = e.fields :=
    fun e he => (isRead_of_removals hremove ht he).flatMap_lines_fields
  have hrender : ∀ layout : Layout, layout.descriptions.HoldsOnly n →
      (t.render layout = t.render layout.undescribed ↔
        ∀ e ∈ t.declarations, ∀ text, layout.descriptions.field? e.kind e.name n = some text →
          text ≠ "" → ¬e.BeginsField n) := by
    intro layout hlayout
    rw [Schema.render_eq_iff fun e _ => (hlayout e.kind e.name).1]
    refine forall₂_congr fun e he => ?_
    simp only [List.eq_nil_iff_forall_not_mem, not_and,
      Declaration.mem_textsOf_iff_beginsField (hlines e he) hlayout]
  refine ⟨t, ht, hframe, hdeclarations, hrender, fun _ _ _ => Signature.name_ofField_iff, ?_⟩
  intro hnamed layout hlayout
  refine (hrender layout hlayout).2 fun e he text _ _ => ?_
  rw [hdeclarations] at he
  obtain ⟨d, hd, rfl⟩ := List.mem_map.1 he
  exact Declaration.not_beginsField_without (hnamed d hd)

/-- A plain field is gone with its description. -/
theorem render_of_removed_id :
    let s := Schema.ofText "type A \x7b\n  id: ID\n  sid: Int\n\x7d\n"
    let t := (run [removalOf "id"] s).1
    let layout : Layout := { descriptions := Descriptions.insert {} .type "A" "id" "The id" }
    IsWord "id" ∧ apply [removalOf "id"] s = .ok t ∧ layout.descriptions.HoldsOnly "id" ∧
      t.render layout = t.render layout.undescribed := by
  intro s t layout
  have happly : apply [removalOf "id"] s = .ok t := apply_eq_ok_iff.2 ⟨by decide +kernel, rfl⟩
  have hlayout : layout.descriptions.HoldsOnly "id" :=
    (Descriptions.holdsOnly_empty "id").insert (by decide) .type "A" "The id"
  obtain ⟨t', ht', -, -, -, -, hrender⟩ :=
    render_removalOf_eq_iff "type A \x7b\n  id: ID\n  sid: Int\n\x7d\n" "id"
  obtain rfl := Except.ok.inj (happly.symm.trans ht')
  refine ⟨by decide +kernel, happly, hlayout, hrender (fun d hd => ?_) layout hlayout⟩
  have hnames : ∀ d ∈ s.declarations, ∀ line ∈ d.fields,
      (leadingToken line).map Prod.fst = some "id" → (Signature.ofField line).name = "id" := by
    decide +kernel
  intro line hline mark rest hbegins
  exact hnames d hd line hline (by rw [hbegins.leadingToken]; rfl)

/-- A field with arguments has the name of the first one for the filter, and its own for the
descriptions. -/
theorem render_of_described_argument :
    let s := Schema.ofText "type A \x7b\n  author(id: ID): Person\n\x7d\n"
    let t := (run [removalOf "author"] s).1
    let layout : Layout := { descriptions := Descriptions.insert {} .type "A" "author" "By whom" }
    IsWord "author" ∧ apply [removalOf "author"] s = .ok t ∧
      layout.descriptions.HoldsOnly "author" ∧
      t.render layout = "type A \x7b\n  \"\"\" By whom\"\"\"\n  author(id: ID): Person\n\x7d\n" ∧
      t.render layout.undescribed = "type A \x7b\n  author(id: ID): Person\n\x7d\n" ∧
      t.render layout ≠ t.render layout.undescribed := by
  intro s t layout
  have hdescribed : t.render layout
      = "type A \x7b\n  \"\"\" By whom\"\"\"\n  author(id: ID): Person\n\x7d\n" := by decide +kernel
  have hplain : t.render layout.undescribed
      = "type A \x7b\n  author(id: ID): Person\n\x7d\n" := by decide +kernel
  refine ⟨by decide +kernel, apply_eq_ok_iff.2 ⟨by decide +kernel, rfl⟩,
    (Descriptions.holdsOnly_empty "author").insert (by decide) .type "A" "By whom",
    hdescribed, hplain, ?_⟩
  rw [hdescribed, hplain]
  decide

end Pipeline

end SchemaSieve
