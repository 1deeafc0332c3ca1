import Mathlib.Data.List.Basic
import SchemaSieve.Files.Path

/-!
# Paths and their backups

The text of a path is its pieces with slashes between them, and its components are those of the
pieces that mean something. A path has a name where the last of these pieces is one:
`fileName?_eq_some_iff`. Its backup puts another name in that place and leaves the components ahead
of it as they are, so by `components_of_backups` no two files share a backup, and none is its own.
-/

namespace SchemaSieve

namespace Path

variable {p b : Path} {cur cs ds : List Char} {c : Char} {piece name : String}
  {ps above idle : List String}

theorem splitSlashes_ne_nil (cur cs : List Char) : splitSlashes cur cs ≠ [] := by
  induction cs generalizing cur with
  | nil => simp [splitSlashes]
  | cons c cs ih =>
      rw [splitSlashes]
      split
      · simp
      · exact ih _

theorem exists_getLast?_splitSlashes (cur cs : List Char) :
    ∃ last, (splitSlashes cur cs).getLast? = some last :=
  ⟨_, List.getLast?_eq_some_getLast (splitSlashes_ne_nil cur cs)⟩

theorem splitSlashes_of_not_mem (h : '/' ∉ ds) (cur : List Char) :
    splitSlashes cur ds = [cur.reverse ++ ds] := by
  induction ds generalizing cur with
  | nil => simp [splitSlashes]
  | cons d ds ih =>
      rw [List.mem_cons, not_or] at h
      rw [splitSlashes, if_neg (Ne.symm h.1), ih h.2]
      simp

/-- What follows the last slash is the last piece. -/
theorem getLast?_splitSlashes_append (h : '/' ∉ ds) (cur cs : List Char) :
    (splitSlashes cur (cs ++ '/' :: ds)).getLast? = some ds := by
  induction cs generalizing cur with
  | nil => simp [splitSlashes, splitSlashes_of_not_mem h]
  | cons c cs ih =>
      rw [List.cons_append, splitSlashes]
      split
      · rw [List.getLast?_cons, ih]
        rfl
      · exact ih _

/-- The last piece is empty only behind a slash. -/
theorem getLast?_of_splitSlashes (h : (splitSlashes cur cs).getLast? = some []) :
    (cur = [] ∧ cs = []) ∨ cs.getLast? = some '/' := by
  induction cs generalizing cur with
  | nil => simpa [splitSlashes] using h
  | cons c cs ih =>
      rw [splitSlashes] at h
      split at h
      · rename_i hc
        obtain ⟨last, hlast⟩ := exists_getLast?_splitSlashes [] cs
        rw [List.getLast?_cons, hlast] at h
        obtain rfl : last = [] := by simpa using h
        rcases ih hlast with ⟨-, rfl⟩ | hslash
        · exact Or.inr (by simp [hc])
        · exact Or.inr (by simp [List.getLast?_cons, hslash])
      · rcases ih h with ⟨hcur, -⟩ | hslash
        · cases hcur
        · exact Or.inr (by simp [List.getLast?_cons, hslash])

theorem not_mem_of_mem_splitSlashes (hcur : '/' ∉ cur) (hd : ds ∈ splitSlashes cur cs) :
    '/' ∉ ds := by
  induction cs generalizing cur with
  | nil =>
      obtain rfl : ds = cur.reverse := by simpa [splitSlashes] using hd
      simpa using hcur
  | cons c cs ih =>
      rw [splitSlashes] at hd
      split at hd
      · rcases List.mem_cons.1 hd with rfl | hd
        · simpa using hcur
        · exact ih (by simp) hd
      · rename_i hc
        exact ih (by simp [hcur, Ne.symm hc]) hd

theorem getLast?_pieces :
    p.pieces.getLast? = (splitSlashes [] p.text.toList).getLast?.map String.ofList := by
  rw [pieces, List.getLast?_map]

/-- A path that does not end in a slash has a last piece. -/
theorem exists_pieces_eq (hne : p.text ≠ "") (hslash : p.text.toList.getLast? ≠ some '/') :
    ∃ above last, p.pieces = above ++ [last] ∧ last ≠ "" := by
  obtain ⟨last, hlast⟩ := exists_getLast?_splitSlashes [] p.text.toList
  obtain ⟨above, habove⟩ := List.getLast?_eq_some_iff.1 hlast
  refine ⟨above.map String.ofList, String.ofList last, by simp [pieces, habove], ?_⟩
  rw [Ne, String.ofList_eq_empty_iff]
  rintro rfl
  rcases getLast?_of_splitSlashes hlast with ⟨-, hnil⟩ | hend
  · exact hne (String.toList_eq_nil_iff.1 hnil)
  · exact hslash hend

theorem not_mem_of_mem_pieces (h : name ∈ p.pieces) : '/' ∉ name.toList := by
  obtain ⟨cs, hcs, rfl⟩ := List.mem_map.1 h
  simpa using not_mem_of_mem_splitSlashes (by simp) hcs

theorem splitSlashes_append_slash (h : '/' ∉ ds) (cur cs : List Char) :
    splitSlashes cur (ds ++ '/' :: cs) = (cur.reverse ++ ds) :: splitSlashes [] cs := by
  induction ds generalizing cur with
  | nil => simp [splitSlashes]
  | cons d ds ih =>
      rw [List.mem_cons, not_or] at h
      rw [List.cons_append, splitSlashes, if_neg (Ne.symm h.1), ih h.2]
      simp

/-- Pieces that are joined by slashes are the pieces of what they are joined to. -/
theorem pieces_intercalate (h : ∀ piece ∈ ps, '/' ∉ piece.toList) (hne : ps ≠ []) :
    (Path.mk ("/".intercalate ps)).pieces = ps := by
  induction ps with
  | nil => exact absurd rfl hne
  | cons piece ps ih =>
      obtain ⟨hpiece, hps⟩ := List.forall_mem_cons.1 h
      cases ps with
      | nil => simp [pieces, splitSlashes_of_not_mem hpiece]
      | cons next ps =>
          have hrest := ih hps (by simp)
          rw [pieces] at hrest ⊢
          have htext : ("/".intercalate (piece :: next :: ps)).toList
              = piece.toList ++ '/' :: ("/".intercalate (next :: ps)).toList := by
            rw [String.intercalate_cons_cons, String.toList_append, String.toList_append,
              List.append_assoc]
            rfl
          dsimp only at hrest ⊢
          rw [htext, splitSlashes_append_slash hpiece, List.map_cons, hrest]
          simp

theorem mem_splitSlashes_iff (hc : c ≠ '/') :
    (∃ ds ∈ splitSlashes cur cs, c ∈ ds) ↔ c ∈ cur ∨ c ∈ cs := by
  induction cs generalizing cur with
  | nil => simp [splitSlashes]
  | cons d cs ih =>
      rw [splitSlashes]
      split
      · rename_i hd
        simp [ih, hd, hc]
      · rw [ih]
        simp [or_assoc, or_left_comm]

/-- The characters of a path other than slashes are those of its pieces. -/
theorem mem_text_iff (hc : c ≠ '/') :
    c ∈ p.text.toList ↔ ∃ piece ∈ p.pieces, c ∈ piece.toList := by
  have hsplit : (∃ ds ∈ splitSlashes [] p.text.toList, c ∈ ds) ↔ c ∈ p.text.toList := by
    rw [mem_splitSlashes_iff hc, List.mem_nil_iff, false_or]
  rw [← hsplit, pieces]
  simp

theorem splitSlashes_eq_cons (cur cs : List Char) :
    ∃ ds rest, splitSlashes cur cs = (cur.reverse ++ ds) :: rest := by
  induction cs generalizing cur with
  | nil => exact ⟨[], [], by simp [splitSlashes]⟩
  | cons c cs ih =>
      rw [splitSlashes]
      split
      · exact ⟨[], _, by simp; rfl⟩
      · obtain ⟨ds, rest, h⟩ := ih (c :: cur)
        exact ⟨c :: ds, rest, by rw [h]; simp⟩

/-- A path begins with a slash where its first piece is empty and not the only one. -/
theorem head?_text_iff : p.text.toList.head? = some '/' ↔
    ∃ next more, p.pieces = "" :: next :: more := by
  rw [pieces]
  cases p.text.toList with
  | nil => simp [splitSlashes]
  | cons c cs =>
      rw [List.head?_cons, Option.some.injEq, splitSlashes]
      split
      · rename_i hc
        obtain ⟨ds, rest, h⟩ := splitSlashes_eq_cons [] cs
        simp [hc, h]
      · rename_i hc
        obtain ⟨ds, rest, h⟩ := splitSlashes_eq_cons [c] cs
        simp [hc, h]

theorem pieces_ne_nil (p : Path) : p.pieces ≠ [] := by
  rw [pieces, Ne, List.map_eq_nil_iff]
  exact splitSlashes_ne_nil _ _

theorem dropIdle_cons {last : String} (hne : last ≠ "") (hdot : last ≠ ".") (ps : List String) :
    dropIdle (last :: ps) = last :: ps := by
  cases ps with
  | nil => rfl
  | cons q ps => rw [dropIdle, if_neg (not_or.2 ⟨hne, hdot⟩)]

/-- The name of a file is the last piece of its path, if that means something. -/
theorem eq_of_fileName? {last : String} (hpieces : p.pieces = above ++ [last])
    (hne : last ≠ "") (hdot : last ≠ ".") (hname : p.fileName? = some name) :
    last = name ∧ isNormal name = true := by
  rw [fileName?, hpieces, List.reverse_append, List.reverse_singleton, List.singleton_append,
    dropIdle_cons hne hdot] at hname
  dsimp only at hname
  split at hname
  · rename_i hnormal
    obtain rfl := Option.some.inj hname
    exact ⟨rfl, hnormal⟩
  · cases hname

/-- The piece means nothing behind the first one. -/
abbrev IsIdle (piece : String) : Prop := piece = "" ∨ piece = "."

theorem componentOf?_eq_none_iff : componentOf? piece = none ↔ IsIdle piece := by
  rw [componentOf?]
  split
  · simpa
  · rename_i hidle
    split <;> simpa using hidle

theorem isNormal_iff : isNormal piece = true ↔ piece ≠ "" ∧ piece ≠ "." ∧ piece ≠ ".." := by
  simp [isNormal, and_assoc]

theorem componentOf?_of_isNormal (h : isNormal piece = true) :
    componentOf? piece = some (.normal piece) := by
  obtain ⟨hne, hdot, hdots⟩ := isNormal_iff.1 h
  rw [componentOf?, if_neg (not_or.2 ⟨hne, hdot⟩), if_neg hdots]

theorem filterMap_componentOf?_of_isIdle (h : ∀ piece ∈ idle, IsIdle piece) :
    idle.filterMap componentOf? = [] :=
  List.filterMap_eq_nil_iff.2 fun piece hpiece => componentOf?_eq_none_iff.2 (h piece hpiece)

theorem dropIdle_append (h : ∀ piece ∈ idle, IsIdle piece) (hne : ps ≠ []) :
    dropIdle (idle ++ ps) = dropIdle ps := by
  induction idle with
  | nil => rfl
  | cons piece idle ih =>
      obtain ⟨hpiece, hidle⟩ := List.forall_mem_cons.1 h
      obtain ⟨next, rest, hrest⟩ := List.exists_cons_of_ne_nil
        (List.append_ne_nil_of_right_ne_nil idle hne)
      rw [List.cons_append, hrest, dropIdle, if_pos hpiece, ← hrest, ih hidle]

/-- What is dropped means nothing, and what is left ends in a piece that does, or is the first. -/
theorem exists_append_dropIdle (ps : List String) (hne : ps ≠ []) :
    ∃ idle piece rest, ps = idle ++ piece :: rest ∧ dropIdle ps = piece :: rest ∧
      (∀ piece ∈ idle, IsIdle piece) ∧ (rest = [] ∨ ¬IsIdle piece) := by
  induction ps using dropIdle.induct with
  | case1 piece more ps hidle ih =>
      obtain ⟨idle, last, rest, hps, hdrop, hidle', hlast⟩ := ih (by simp)
      refine ⟨piece :: idle, last, rest, by rw [hps, List.cons_append], ?_,
        List.forall_mem_cons.2 ⟨hidle, hidle'⟩, hlast⟩
      rw [dropIdle, if_pos hidle, hdrop]
  | case2 piece more ps hidle =>
      exact ⟨[], piece, more :: ps, rfl, by rw [dropIdle, if_neg hidle], by simp, Or.inr hidle⟩
  | case3 ps hshort =>
      obtain ⟨piece, rest, rfl⟩ := List.exists_cons_of_ne_nil hne
      cases rest with
      | nil => exact ⟨[], piece, [], rfl, rfl, by simp, Or.inl rfl⟩
      | cons next rest => exact absurd rfl (hshort piece next rest)

/-- The components of the pieces ahead of the last one that means something. -/
def componentsAbove : List String → List Component
  | [] => []
  | first :: more =>
    (if first = "" then [.root] else if first = "." then [.current]
      else (componentOf? first).toList) ++ more.filterMap componentOf?

theorem components_of_pieces {c : Component} (hp : p.pieces = above ++ piece :: idle)
    (hpiece : componentOf? piece = some c) (hidle : ∀ piece ∈ idle, IsIdle piece) :
    p.components = componentsAbove above ++ [c] := by
  have hmeans : ¬IsIdle piece := by
    rw [← componentOf?_eq_none_iff, hpiece]
    simp
  obtain ⟨hne, hdot⟩ := not_or.1 hmeans
  have hbehind := filterMap_componentOf?_of_isIdle hidle
  cases above with
  | nil =>
      cases idle with
      | nil => simp [components, hp, componentsAbove, hdot, hpiece]
      | cons i idle => simp [components, hp, componentsAbove, hne, hdot, hpiece, hbehind]
  | cons first above =>
      obtain ⟨next, more, hmore⟩ := List.exists_cons_of_ne_nil
        (List.append_ne_nil_of_right_ne_nil above (List.cons_ne_nil piece idle))
      have hrest : (next :: more).filterMap componentOf? = above.filterMap componentOf? ++ [c] := by
        rw [← hmore, List.filterMap_append, List.filterMap_cons_some hpiece, hbehind]
      rw [components, hp, List.cons_append, hmore]
      simp only [componentsAbove, hrest, List.append_assoc]

theorem componentsAbove_append (hne : ps ≠ []) (hidle : ∀ piece ∈ idle, IsIdle piece) :
    componentsAbove (ps ++ idle) = componentsAbove ps := by
  obtain ⟨first, more, rfl⟩ := List.exists_cons_of_ne_nil hne
  rw [List.cons_append, componentsAbove, componentsAbove, List.filterMap_append,
    filterMap_componentOf?_of_isIdle hidle, List.append_nil]

/-- A path has a name where its last piece that means something is one. -/
theorem fileName?_eq_some_iff : p.fileName? = some name ↔ ∃ above idle,
    p.pieces = above ++ name :: idle ∧ isNormal name = true ∧ ∀ piece ∈ idle, IsIdle piece := by
  constructor
  · intro h
    obtain ⟨idle, piece, rest, hpieces, hdrop, hidle, -⟩ :=
      exists_append_dropIdle p.pieces.reverse (by simpa using p.pieces_ne_nil)
    rw [fileName?, hdrop] at h
    dsimp only at h
    split at h
    · rename_i hnormal
      obtain rfl := Option.some.inj h
      refine ⟨rest.reverse, idle.reverse, ?_, hnormal, by simpa using hidle⟩
      rw [← List.reverse_reverse p.pieces, hpieces]
      simp
    · cases h
  · rintro ⟨above, idle, hpieces, hnormal, hidle⟩
    obtain ⟨hne, hdot, -⟩ := isNormal_iff.1 hnormal
    have hreverse : p.pieces.reverse = idle.reverse ++ name :: above.reverse := by simp [hpieces]
    rw [fileName?, hreverse, dropIdle_append (by simpa using hidle) (by simp),
      dropIdle_cons hne hdot]
    simp [hnormal]

/-- The last component is a name just where the path has that name. -/
theorem getLast?_components_eq_some_iff :
    p.components.getLast? = some (.normal name) ↔ p.fileName? = some name := by
  constructor
  · intro h
    obtain ⟨idle, piece, rest, hpieces, -, hidle, hpiece⟩ :=
      exists_append_dropIdle p.pieces.reverse (by simpa using p.pieces_ne_nil)
    have hidle' : ∀ piece ∈ idle.reverse, IsIdle piece := by simpa using hidle
    replace hpieces : p.pieces = rest.reverse ++ piece :: idle.reverse := by
      rw [← List.reverse_reverse p.pieces, hpieces]
      simp
    cases hc : componentOf? piece with
    | some c =>
        rw [components_of_pieces hpieces hc hidle', List.getLast?_concat] at h
        obtain rfl := Option.some.inj h
        rw [componentOf?] at hc
        split at hc
        · cases hc
        rename_i hmeans
        split at hc
        · cases hc
        rename_i hdots
        obtain rfl := Component.normal.inj (Option.some.inj hc)
        obtain ⟨hne, hdot⟩ := not_or.1 hmeans
        exact fileName?_eq_some_iff.2 ⟨_, _, hpieces, isNormal_iff.2 ⟨hne, hdot, hdots⟩, hidle'⟩
    | none =>
        -- Nothing but the first piece is left, and that is none that ends in a name.
        obtain rfl := hpiece.resolve_right (not_not.2 (componentOf?_eq_none_iff.1 hc))
        have hbehind := filterMap_componentOf?_of_isIdle hidle'
        rw [List.reverse_nil, List.nil_append] at hpieces
        rw [components, hpieces] at h
        obtain rfl | rfl := componentOf?_eq_none_iff.1 hc <;> cases hi : idle.reverse <;>
          simp_all
  · intro h
    obtain ⟨above, idle, hpieces, hnormal, hidle⟩ := fileName?_eq_some_iff.1 h
    rw [components_of_pieces hpieces (componentOf?_of_isNormal hnormal) hidle,
      List.getLast?_concat]

/-- The parent of a path is what stands ahead of its name, up to pieces that mean nothing. -/
theorem exists_eq_parentPieces_append (hp : p.pieces = above ++ name :: idle)
    (hnormal : isNormal name = true) (hidle : ∀ piece ∈ idle, IsIdle piece) :
    ∃ between, above = p.parentPieces ++ between ∧ (∀ piece ∈ between, IsIdle piece) ∧
      (p.parentPieces = [] → between = []) := by
  obtain ⟨hne, hdot, -⟩ := isNormal_iff.1 hnormal
  have hreverse : p.pieces.reverse = idle.reverse ++ name :: above.reverse := by simp [hp]
  have hparent : p.parentPieces = (dropIdle above.reverse).reverse := by
    rw [parentPieces, hreverse, dropIdle_append (by simpa using hidle) (by simp),
      dropIdle_cons hne hdot, List.drop_one, List.tail_cons]
  by_cases habove : above = []
  · exact ⟨[], by simp [hparent, habove, dropIdle], by simp, fun _ => rfl⟩
  · obtain ⟨between, piece, rest, hsplit, hdrop, hbetween, -⟩ :=
      exists_append_dropIdle above.reverse (by simpa using habove)
    rw [hdrop] at hparent
    refine ⟨between.reverse, ?_, by simpa using hbetween, by simp [hparent]⟩
    rw [hparent, ← List.reverse_reverse above, hsplit, List.reverse_append]

theorem dropIdle_suffix (ps : List String) : dropIdle ps <:+ ps := by
  induction ps using dropIdle.induct with
  | case1 piece more ps hidle ih =>
      rw [dropIdle, if_pos hidle]
      exact ih.trans (List.suffix_cons piece _)
  | case2 piece more ps hidle => exact ⟨[], by rw [List.nil_append, dropIdle, if_neg hidle]⟩
  | case3 ps hshort => exact ⟨[], by rw [List.nil_append, dropIdle.eq_2 ps hshort]⟩

theorem mem_pieces_of_mem_parentPieces (h : piece ∈ p.parentPieces) : piece ∈ p.pieces := by
  have hdropped := (dropIdle_suffix _).subset (List.mem_reverse.1 h)
  exact List.mem_reverse.1 ((dropIdle_suffix _).subset (List.drop_subset 1 _ hdropped))

/-- A name that is put in place of that of a path stands behind the pieces of its parent. -/
theorem pieces_withFileName (h : '/' ∉ name.toList) (p : Path) :
    (p.withFileName name).pieces = p.parentPieces ++ [name] := by
  have hparent : ∀ piece ∈ p.parentPieces, '/' ∉ piece.toList := fun piece hpiece =>
    not_mem_of_mem_pieces (mem_pieces_of_mem_parentPieces hpiece)
  have hpieces : ∀ piece ∈ p.parentPieces ++ [name], '/' ∉ piece.toList :=
    List.forall_mem_append.2 ⟨hparent, List.forall_mem_singleton.2 h⟩
  rw [withFileName]
  split
  · rename_i hnil
    rw [pieces, splitSlashes_of_not_mem h]
    simp [hnil]
  · exact pieces_intercalate hpieces (by simp)

theorem not_mem_backupName (h : p.fileName? = some name) : '/' ∉ (backupMark ++ name).toList := by
  obtain ⟨above, idle, hpieces, -⟩ := fileName?_eq_some_iff.1 h
  have hname : '/' ∉ name.toList := not_mem_of_mem_pieces (p := p) (by simp [hpieces])
  have hmark : '/' ∉ backupMark.toList := by decide
  rw [String.toList_append, List.mem_append, not_or]
  exact ⟨hmark, hname⟩

theorem isNormal_backupMark_append (name : String) : isNormal (backupMark ++ name) = true := by
  have hlength : (backupMark ++ name).length = name.length + 4 := by
    rw [String.length_append, Nat.add_comm]
    rfl
  refine isNormal_iff.2 ⟨?_, ?_, ?_⟩
  all_goals
    intro h
    rw [h] at hlength
    have hshort : name.length + 4 ≤ 2 := hlength ▸ by decide
    omega

theorem backup?_eq_some_iff : p.backup? = some b ↔
    ∃ name, p.fileName? = some name ∧ b = p.withFileName (backupMark ++ name) := by
  simp only [backup?, Option.map_eq_some_iff, eq_comm (a := b)]

theorem pieces_of_backup? (hname : p.fileName? = some name) (hb : p.backup? = some b) :
    b.pieces = p.parentPieces ++ [backupMark ++ name] := by
  obtain ⟨name', hname', rfl⟩ := backup?_eq_some_iff.1 hb
  obtain rfl := Option.some.inj (hname.symm.trans hname')
  exact pieces_withFileName (not_mem_backupName hname) p

theorem fileName?_of_backup? (hname : p.fileName? = some name)
    (hb : p.backup? = some b) : b.fileName? = some (backupMark ++ name) :=
  fileName?_eq_some_iff.2 ⟨p.parentPieces, [], pieces_of_backup? hname hb,
    isNormal_backupMark_append name, by simp⟩

/-- The components of a backup are those of its file but for the name. -/
theorem exists_components_of_backup? (hname : p.fileName? = some name)
    (hb : p.backup? = some b) : ∃ parent, p.components = parent ++ [.normal name] ∧
      b.components = parent ++ [.normal (backupMark ++ name)] := by
  obtain ⟨above, idle, hpieces, hnormal, hidle⟩ := fileName?_eq_some_iff.1 hname
  obtain ⟨between, habove, hbetween, hnil⟩ := exists_eq_parentPieces_append hpieces hnormal hidle
  have hmark := componentOf?_of_isNormal (isNormal_backupMark_append name)
  refine ⟨componentsAbove p.parentPieces, ?_,
    components_of_pieces (pieces_of_backup? hname hb) hmark (by simp)⟩
  rw [components_of_pieces hpieces (componentOf?_of_isNormal hnormal) hidle, habove]
  by_cases hparent : p.parentPieces = []
  · rw [hnil hparent, List.append_nil]
  · rw [componentsAbove_append hparent hbetween]

/-- **Backups stand beside their files, no two at one place.** -/
theorem components_of_backups (p : Path) :
    (p.backup? = none ↔ ∀ name, p.components.getLast? ≠ some (.normal name)) ∧
      (∀ b, p.backup? = some b → ∃ parent name, p.fileName? = some name ∧
        p.components = parent ++ [.normal name] ∧ b.fileName? = some (backupMark ++ name) ∧
        b.components = parent ++ [.normal (backupMark ++ name)] ∧
        b.components ≠ p.components) ∧
      ∀ q b c : Path, p.backup? = some b → q.backup? = some c → p.components ≠ q.components →
        b.components ≠ c.components := by
  refine ⟨?_, ?_, ?_⟩
  · simp only [Ne, getLast?_components_eq_some_iff]
    rw [backup?, Option.map_eq_none_iff, Option.eq_none_iff_forall_ne_some]
  · intro b hb
    obtain ⟨name, hname, -⟩ := backup?_eq_some_iff.1 hb
    obtain ⟨parent, hp, hcomponents⟩ := exists_components_of_backup? hname hb
    refine ⟨parent, name, hname, hp, fileName?_of_backup? hname hb, hcomponents, ?_⟩
    rw [hp, hcomponents]
    intro hsame
    obtain ⟨-, hlast⟩ := List.append_inj' hsame rfl
    have hlength := congrArg String.length (Component.normal.inj (List.cons.inj hlast).1)
    rw [String.length_append] at hlength
    have hmark : backupMark.length = 4 := rfl
    omega
  · intro q b c hb hc hne hsame
    obtain ⟨name, hname, -⟩ := backup?_eq_some_iff.1 hb
    obtain ⟨name', hname', -⟩ := backup?_eq_some_iff.1 hc
    obtain ⟨parent, hp, hbp⟩ := exists_components_of_backup? hname hb
    obtain ⟨parent', hq, hcq⟩ := exists_components_of_backup? hname' hc
    rw [hbp, hcq] at hsame
    obtain ⟨rfl, hlast⟩ := List.append_inj' hsame rfl
    have hnames := (String.append_right_inj backupMark).1
      (Component.normal.inj (List.cons.inj hlast).1)
    exact hne (by rw [hp, hq, hnames])

end Path

end SchemaSieve
