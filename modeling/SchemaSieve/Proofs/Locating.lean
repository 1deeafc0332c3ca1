import SchemaSieve.Files.Store
import SchemaSieve.Proofs.Paths

/-!
# Where paths lead

What a path leads to stays the same as long as directories stay what they are and nothing goes away:
`Keeps` says so of two stores. A path that leads to a file, or to a place where one can be written,
does so by way of a directory and a name in it, which is `LeadsTo`.
-/

namespace SchemaSieve

theorem Except.bind_eq_ok_iff {α β ε : Type} {x : Except ε α} {f : α → Except ε β} {b : β} :
    x >>= f = .ok b ↔ ∃ a, x = .ok a ∧ f a = .ok b := by
  cases x <;> simp [bind, Except.bind]

namespace Store

variable {s s' s'' : Store} {l m parent : Location} {e : Entry} {p : Path} {piece name : String}
  {ps qs : List String}

theorem find?_put (hl : l ≠ []) (s : Store) (e : Entry) (m : Location) :
    (s.put l e).find? m = if l = m then some e else s.find? m := by
  by_cases hm : m = []
  · have hne : l ≠ m := fun h => hl (h.trans hm)
    rw [if_neg hne, find?, find?, if_pos hm, if_pos hm]
  · rw [find?, find?, if_neg hm, if_neg hm]
    exact OrderedMap.find?_insert s.entries l m e

/-- Directories stay directories, and nothing goes away. -/
structure Keeps (s s' : Store) : Prop where
  workingDirectory : s'.workingDirectory = s.workingDirectory
  directory : ∀ l, s.find? l = some .directory → s'.find? l = some .directory
  present : ∀ l, (s.find? l).isSome → (s'.find? l).isSome

theorem Keeps.trans (h : s.Keeps s') (h' : s'.Keeps s'') : s.Keeps s'' :=
  ⟨h'.workingDirectory.trans h.workingDirectory, fun l hl => h'.directory l (h.directory l hl),
    fun l hl => h'.present l (h.present l hl)⟩

theorem keeps_put (hl : l ≠ []) (hd : s.find? l ≠ some .directory) (e : Entry) :
    s.Keeps (s.put l e) := by
  refine ⟨rfl, fun m hm => ?_, fun m hm => ?_⟩
  · have hne : l ≠ m := by
      rintro rfl
      exact hd hm
    rw [find?_put hl, if_neg hne, hm]
  · rw [find?_put hl]
    split
    · rfl
    · exact hm

theorem walkPiece_of_directory (hl : s.find? l = some .directory) (hne : piece ≠ "")
    (hdot : piece ≠ ".") (hdots : piece ≠ "..") :
    s.walkPiece l piece
      = if maxName < piece.utf8ByteSize then .error .nameTooLong
        else if (s.find? (l ++ [piece])).isSome then .ok (l ++ [piece])
        else .error .notFound := by
  rw [walkPiece, if_neg hne, hl]
  simp only [if_neg hdot, if_neg hdots]

theorem Keeps.walkPiece (h : s.Keeps s') (hm : s.walkPiece l piece = .ok m) :
    s'.walkPiece l piece = .ok m := by
  by_cases hne : piece = ""
  · rw [Store.walkPiece, if_pos hne] at hm ⊢
    exact hm
  cases hl : s.find? l with
  | none =>
      rw [Store.walkPiece, if_neg hne, hl] at hm
      cases hm
  | some e =>
      cases e with
      | file bytes =>
          rw [Store.walkPiece, if_neg hne, hl] at hm
          cases hm
      | directory =>
          by_cases hdot : piece = "."
          · rw [Store.walkPiece, if_neg hne, hl] at hm
            rw [Store.walkPiece, if_neg hne, h.directory l hl]
            simpa only [if_pos hdot] using hm
          by_cases hdots : piece = ".."
          · rw [Store.walkPiece, if_neg hne, hl] at hm
            rw [Store.walkPiece, if_neg hne, h.directory l hl]
            simpa only [if_neg hdot, if_pos hdots] using hm
          rw [walkPiece_of_directory hl hne hdot hdots] at hm
          rw [walkPiece_of_directory (h.directory l hl) hne hdot hdots]
          split at hm
          · cases hm
          · rename_i hsize
            split at hm
            · rename_i hsome
              rw [if_neg hsize, if_pos (h.present _ hsome), hm]
            · cases hm

theorem walk_cons (s : Store) (l : Location) (piece : String) (ps : List String) :
    s.walk l (piece :: ps) = s.walkPiece l piece >>= fun m => s.walk m ps := rfl

theorem walk_singleton (s : Store) (l : Location) (piece : String) :
    s.walk l [piece] = s.walkPiece l piece := by
  rw [walk_cons]
  cases s.walkPiece l piece <;> rfl

theorem walk_append (s : Store) (l : Location) (ps qs : List String) :
    s.walk l (ps ++ qs) = s.walk l ps >>= fun m => s.walk m qs := by
  induction ps generalizing l with
  | nil => rfl
  | cons p ps ih =>
      rw [List.cons_append, walk_cons, walk_cons, bind_assoc]
      exact bind_congr fun m => ih m

/-- Doubled slashes do not matter. -/
theorem walk_filter (s : Store) (l : Location) (ps : List String) :
    s.walk l (ps.filter (· != "")) = s.walk l ps := by
  induction ps generalizing l with
  | nil => rfl
  | cons p ps ih =>
      by_cases hp : p = ""
      · have hstay : s.walkPiece l p = .ok l := by rw [walkPiece, if_pos hp]
        rw [List.filter_cons_of_neg (by simp [hp]), ih, walk_cons, hstay]
        rfl
      · rw [List.filter_cons_of_pos (by simp [hp]), walk_cons, walk_cons]
        exact bind_congr fun m => ih m

theorem Keeps.walk (h : s.Keeps s') (hm : s.walk l ps = .ok m) : s'.walk l ps = .ok m := by
  induction ps generalizing l with
  | nil => exact hm
  | cons p ps ih =>
      rw [walk_cons, Except.bind_eq_ok_iff] at hm ⊢
      obtain ⟨l', hp, hrest⟩ := hm
      exact ⟨l', h.walkPiece hp, ih hrest⟩

theorem walk_of_isIdle (h : ∀ piece ∈ ps, Path.IsIdle piece) (hm : s.walk l ps = .ok m) :
    m = l := by
  induction ps generalizing l with
  | nil => exact (Except.ok.inj hm).symm
  | cons piece ps ih =>
      obtain ⟨hpiece, hps⟩ := List.forall_mem_cons.1 h
      rw [walk_cons, Except.bind_eq_ok_iff] at hm
      obtain ⟨l', hl', hm⟩ := hm
      obtain rfl := ih hps hm
      rw [walkPiece] at hl'
      split at hl'
      · exact (Except.ok.inj hl').symm
      · rename_i hne
        obtain rfl := hpiece.resolve_left hne
        split at hl'
        · exact (Except.ok.inj hl').symm
        · cases hl'
        · cases hl'

theorem checkPath_eq_ok_iff : checkPath p = .ok () ↔
    '\x00' ∉ p.text.toList ∧ p.text ≠ "" ∧ ¬maxPath < p.text.utf8ByteSize := by
  rw [checkPath]
  simp only [List.contains_iff_mem]
  split
  · simp_all
  · split
    · simp_all
    · split <;> simp_all

theorem text_ne_empty (h : checkPath p = .ok ()) : p.text ≠ "" := (checkPath_eq_ok_iff.1 h).2.1

/-- A path that asks for a directory leads to no file. -/
theorem locate_eq_ok_iff : s.locate p = .ok l ↔ checkPath p = .ok () ∧
    s.walk (s.start p) p.pieces = .ok l ∧
      ∀ bytes, s.find? l = some (.file bytes) → p.text.toList.getLast? ≠ some '/' := by
  constructor
  · intro h
    obtain ⟨u, hvalid, h⟩ := Except.bind_eq_ok_iff.1 h
    obtain ⟨m, hwalk, h⟩ := Except.bind_eq_ok_iff.1 h
    split at h
    · split at h
      · cases h
      · rename_i hslash
        obtain rfl := Except.ok.inj h
        exact ⟨hvalid, hwalk, fun _ _ => hslash⟩
    · rename_i hnofile
      obtain rfl := Except.ok.inj h
      exact ⟨hvalid, hwalk, fun bytes hbytes => absurd hbytes (hnofile bytes)⟩
  · rintro ⟨hvalid, hwalk, hslash⟩
    refine Except.bind_eq_ok_iff.2 ⟨(), hvalid, Except.bind_eq_ok_iff.2 ⟨l, hwalk, ?_⟩⟩
    split
    · rename_i bytes hbytes
      rw [if_neg (hslash bytes hbytes)]
      rfl
    · rfl

/-- A path leads by way of a directory to a name in it, where a file may be. -/
structure LeadsTo (s : Store) (p : Path) (parent : Location) (name : String) : Prop where
  valid : checkPath p = .ok ()
  noSlash : p.text.toList.getLast? ≠ some '/'
  walked : ∃ above, p.pieces.filter (· != "") = above ++ [name] ∧
    s.walk (s.start p) above = .ok parent
  directory : s.find? parent = some .directory
  normal : name ≠ "." ∧ name ≠ ".."
  short : ¬maxName < name.utf8ByteSize

namespace LeadsTo

theorem keeps (h : s.LeadsTo p parent name) (hs : s.Keeps s') : s'.LeadsTo p parent name := by
  obtain ⟨above, hparts, hwalk⟩ := h.walked
  refine ⟨h.valid, h.noSlash, ⟨above, hparts, ?_⟩, hs.directory _ h.directory, h.normal, h.short⟩
  rw [start, hs.workingDirectory]
  exact hs.walk hwalk

theorem name_ne_empty (h : s.LeadsTo p parent name) : name ≠ "" := by
  obtain ⟨above, hparts, -⟩ := h.walked
  have hmem : name ∈ p.pieces.filter (· != "") := by simp [hparts]
  simpa using (List.mem_filter.1 hmem).2

/-- The name is the last piece of the path. -/
theorem exists_pieces_eq (h : s.LeadsTo p parent name) : ∃ above,
    p.pieces = above ++ [name] ∧ s.walk (s.start p) above = .ok parent := by
  obtain ⟨above, hparts, hwalk⟩ := h.walked
  obtain ⟨before, last, hpieces, hlast⟩ := Path.exists_pieces_eq (text_ne_empty h.valid) h.noSlash
  rw [hpieces, List.filter_append, List.filter_cons_of_pos (by simp [hlast]),
    List.filter_nil] at hparts
  obtain ⟨rfl, hname⟩ := List.append_inj' hparts rfl
  obtain rfl := (List.cons.inj hname).1
  exact ⟨before, hpieces, (walk_filter s _ before).symm.trans hwalk⟩

theorem isNormal (h : s.LeadsTo p parent name) : Path.isNormal name = true :=
  Path.isNormal_iff.2 ⟨h.name_ne_empty, h.normal⟩

theorem fileName? (h : s.LeadsTo p parent name) : p.fileName? = some name := by
  obtain ⟨above, hpieces, -⟩ := h.exists_pieces_eq
  exact Path.fileName?_eq_some_iff.2 ⟨above, [], hpieces, h.isNormal, by simp⟩

theorem getLast?_pieces (h : s.LeadsTo p parent name) : p.pieces.getLast? = some name := by
  obtain ⟨above, hpieces, -⟩ := h.exists_pieces_eq
  rw [hpieces, List.getLast?_concat]

theorem walk_pieces (h : s.LeadsTo p parent name) :
    s.walk (s.start p) p.pieces = s.walkPiece parent name := by
  obtain ⟨above, hpieces, hwalk⟩ := h.exists_pieces_eq
  rw [hpieces, walk_append, hwalk]
  exact walk_singleton s parent name

theorem walkPiece_eq (h : s.LeadsTo p parent name) :
    s.walkPiece parent name
      = if (s.find? (parent ++ [name])).isSome then .ok (parent ++ [name])
        else .error .notFound := by
  rw [walkPiece_of_directory h.directory h.name_ne_empty h.normal.1 h.normal.2, if_neg h.short]

theorem locate (h : s.LeadsTo p parent name) (hthere : (s.find? (parent ++ [name])).isSome) :
    s.locate p = .ok (parent ++ [name]) := by
  have hwalk : s.walk (s.start p) p.pieces = .ok (parent ++ [name]) := by
    rw [h.walk_pieces, h.walkPiece_eq, if_pos hthere]
  exact locate_eq_ok_iff.2 ⟨h.valid, hwalk, fun _ _ => h.noSlash⟩

end LeadsTo

theorem directory_of_walkPiece (h : s.walkPiece parent piece = .ok l) (hne : piece ≠ "") :
    s.find? parent = some .directory := by
  rw [walkPiece, if_neg hne] at h
  split at h
  · assumption
  · cases h
  · cases h

/-- The last piece of a path to a file is a name, or two dots. -/
theorem exists_pieces_of_locate {bytes : ByteArray} (hlocate : s.locate p = .ok l)
    (hfile : s.find? l = some (.file bytes)) :
    ∃ above last parent, p.pieces = above ++ [last] ∧ ¬Path.IsIdle last ∧
      s.walk (s.start p) above = .ok parent ∧ s.find? parent = some .directory ∧
      s.walkPiece parent last = .ok l := by
  obtain ⟨hvalid, hwalk, hslash⟩ := locate_eq_ok_iff.1 hlocate
  obtain ⟨above, last, hpieces, hlast⟩ :=
    Path.exists_pieces_eq (text_ne_empty hvalid) (hslash bytes hfile)
  rw [hpieces, walk_append, Except.bind_eq_ok_iff] at hwalk
  obtain ⟨parent, hparent, hwalk⟩ := hwalk
  rw [walk_singleton] at hwalk
  have hdirectory := directory_of_walkPiece hwalk hlast
  refine ⟨above, last, parent, hpieces, not_or.2 ⟨hlast, ?_⟩, hparent, hdirectory, hwalk⟩
  -- A single dot would lead to the directory itself.
  rintro rfl
  rw [walkPiece, if_neg hlast, hdirectory] at hwalk
  obtain rfl := Except.ok.inj hwalk
  rw [hdirectory] at hfile
  cases hfile

/-- A path to a file that has a name leads there by way of the directory of the file. -/
theorem leadsTo_of_locate {bytes : ByteArray} (hlocate : s.locate p = .ok l)
    (hfile : s.find? l = some (.file bytes)) (hname : p.fileName? = some name) :
    ∃ parent, l = parent ++ [name] ∧ s.LeadsTo p parent name := by
  obtain ⟨hvalid, -, hslash⟩ := locate_eq_ok_iff.1 hlocate
  obtain ⟨above, last, parent, hpieces, hmeans, hparent, hdirectory, hwalk⟩ :=
    exists_pieces_of_locate hlocate hfile
  obtain ⟨hlast, hdot⟩ := not_or.1 hmeans
  obtain ⟨rfl, hnormal⟩ := Path.eq_of_fileName? hpieces hlast hdot hname
  obtain ⟨-, -, hdots⟩ := Path.isNormal_iff.1 hnormal
  have hparts : p.pieces.filter (· != "") = above.filter (· != "") ++ [last] := by
    rw [hpieces, List.filter_append, List.filter_cons_of_pos (by simp [hlast]), List.filter_nil]
  rw [walkPiece_of_directory hdirectory hlast hdot hdots] at hwalk
  split at hwalk
  · cases hwalk
  · rename_i hshort
    split at hwalk
    · exact ⟨parent, (Except.ok.inj hwalk).symm, hvalid, hslash bytes hfile,
        ⟨_, hparts, (walk_filter s _ above).trans hparent⟩, hdirectory, ⟨hdot, hdots⟩, hshort⟩
    · cases hwalk

/-- A file is written only by way of a directory and a name in it. -/
theorem leadsTo_of_locateNew (h : s.locateNew p = .ok l) :
    ∃ parent name, s.LeadsTo p parent name ∧ l = parent ++ [name] ∧
      s.find? l ≠ some .directory := by
  obtain ⟨u, hvalid, h⟩ := Except.bind_eq_ok_iff.1 h
  obtain ⟨parent, hwalk, h⟩ := Except.bind_eq_ok_iff.1 h
  split at h
  · cases h
  rename_i name hname
  split at h
  · obtain ⟨m, -, h⟩ := Except.bind_eq_ok_iff.1 h
    cases h
  rename_i hnormal
  have hdirectory : s.find? parent = some .directory := by
    split at h
    · assumption
    · cases h
    · cases h
  rw [hdirectory] at h
  dsimp only at h
  split at h
  · cases h
  rename_i hslash
  split at h
  · cases h
  rename_i hshort
  split at h
  · cases h
  rename_i hnot
  obtain rfl := Except.ok.inj h
  obtain ⟨above, hparts⟩ := List.getLast?_eq_some_iff.1 hname
  rw [hparts, List.dropLast_concat] at hwalk
  exact ⟨parent, name, ⟨hvalid, hslash, ⟨above, hparts, hwalk⟩, hdirectory, not_or.1 hnormal,
    hshort⟩, rfl, hnot⟩

theorem LeadsTo.locateNew (h : s.LeadsTo p parent name)
    (hnot : s.find? (parent ++ [name]) ≠ some .directory) :
    s.locateNew p = .ok (parent ++ [name]) := by
  obtain ⟨above, hparts, hwalk⟩ := h.walked
  refine Except.bind_eq_ok_iff.2 ⟨(), h.valid, Except.bind_eq_ok_iff.2 ⟨parent, ?_, ?_⟩⟩
  · rw [hparts, List.dropLast_concat, hwalk]
  · rw [hparts, List.getLast?_concat]
    simp only [h.normal, or_self, if_false, h.directory, if_neg h.noSlash, if_neg h.short,
      if_neg hnot]
    rfl

end Store

end SchemaSieve
