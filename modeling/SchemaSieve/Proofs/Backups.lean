import Mathlib.Data.List.Induction
import SchemaSieve.Proofs.KeyOrder
import SchemaSieve.Proofs.Replacing

/-!
# Files that are written again and again

A file and its backup lie in one directory, and of all places only theirs change when texts are
written to the file one after the other. Each write leaves in the backup what the write before it
left in the file, so after any number of them the two hold the last text and the one before it:
`writtenInTurn_writeAll`. The name of the backup is the longer one, and there must be room for it.
-/

namespace SchemaSieve

namespace Store

variable {s t : Store} {p b : Path} {parent : Location} {name : String} {bytes : ByteArray}

/-- Neither a path nor the name at its end is too long for a file. -/
def Fits (p : Path) : Prop :=
  ¬maxPath < p.text.utf8ByteSize ∧ ∀ name, p.fileName? = some name → ¬maxName < name.utf8ByteSize

/-- Everything lies in a directory, and the working directory is one. -/
structure IsTree (s : Store) : Prop where
  workingDirectory : s.find? s.workingDirectory = some .directory
  above : ∀ l name, (s.find? (l ++ [name])).isSome → s.find? l = some .directory

theorem isTree_of_forall (hs : s.find? s.workingDirectory = some .directory)
    (h : ∀ e ∈ s.entries.entries, s.find? e.1.dropLast = some .directory) : s.IsTree := by
  refine ⟨hs, fun l name hthere => ?_⟩
  rw [find?, if_neg (by simp)] at hthere
  obtain ⟨e, he⟩ := Option.isSome_iff_exists.1 hthere
  have habove := h _ (OrderedMap.find?_eq_some_iff.1 he)
  rwa [List.dropLast_concat] at habove

/-- Nothing is at the path, but the directory is there in which a file would be made. -/
def IsFree (s : Store) (p : Path) : Prop :=
  ∃ parent name, s.LeadsTo p parent name ∧ s.find? (parent ++ [name]) = none

/-- A name alone leads to a place in the working directory. -/
theorem leadsTo_of_name (hs : s.find? s.workingDirectory = some .directory)
    (hslash : '/' ∉ name.toList) (hzero : '\x00' ∉ name.toList)
    (hnormal : Path.isNormal name = true) (hsize : ¬maxName < name.utf8ByteSize) :
    s.LeadsTo ⟨name⟩ s.workingDirectory name := by
  obtain ⟨hne, hdot, hdots⟩ := Path.isNormal_iff.1 hnormal
  have hpieces : (Path.mk name).pieces = [name] := by
    simp [Path.pieces, Path.splitSlashes_of_not_mem hslash]
  have hstart : s.start ⟨name⟩ = s.workingDirectory :=
    if_neg fun h => hslash (List.mem_of_head? h)
  have hvalid : checkPath ⟨name⟩ = .ok () := by
    refine checkPath_eq_ok_iff.2 ⟨hzero, hne, fun hlong => hsize ?_⟩
    exact Nat.lt_trans (by decide) hlong
  exact ⟨hvalid, fun h => hslash (List.mem_of_getLast? h),
    ⟨[], by simp [hpieces, hne], by rw [hstart]; rfl⟩, hs, ⟨hdot, hdots⟩, hsize⟩

namespace LeadsTo

theorem entryAt? (h : s.LeadsTo p parent name) :
    s.entryAt? p = s.find? (parent ++ [name]) := by
  cases hfind : s.find? (parent ++ [name]) with
  | some e => exact entryAt?_eq_some_iff.2 ⟨_, h.locate (by rw [hfind]; rfl), hfind⟩
  | none =>
      have hwalk : s.walk (s.start p) p.pieces = .error .notFound := by
        rw [h.walk_pieces, h.walkPiece_eq, hfind]
        rfl
      rw [Store.entryAt?, Store.locate, h.valid, hwalk]
      rfl

/-- Walking to the directory of a file leads to that of its backup. -/
theorem walk_parentPieces (h : s.LeadsTo p parent name) (hb : p.backup? = some b) :
    s.walk (s.start b) p.parentPieces = .ok parent := by
  obtain ⟨above, hpieces, hwalk⟩ := h.exists_pieces_eq
  obtain ⟨between, habove, hbetween, hnil⟩ :=
    Path.exists_eq_parentPieces_append hpieces h.isNormal (by simp)
  have hbackup := Path.pieces_of_backup? h.fileName? hb
  have hstart : s.start b = s.start p := by
    have hhead : b.text.toList.head? = some '/' ↔ p.text.toList.head? = some '/' := by
      rw [Path.head?_text_iff, Path.head?_text_iff, hbackup, hpieces, habove]
      cases hparent : p.parentPieces with
      | nil => simp [hnil hparent]
      | cons first more => cases more <;> cases between <;> simp
    rw [start, start]
    exact if_congr hhead rfl rfl
  rw [hstart]
  rw [habove, walk_append, Except.bind_eq_ok_iff] at hwalk
  obtain ⟨m, hm, hrest⟩ := hwalk
  rw [hm, walk_of_isIdle hbetween hrest]

theorem walk_backup (h : s.LeadsTo p parent name) (hb : p.backup? = some b) :
    s.walk (s.start b) b.pieces = s.walkPiece parent (Path.backupMark ++ name) := by
  rw [Path.pieces_of_backup? h.fileName? hb, walk_append, h.walk_parentPieces hb]
  exact walk_singleton s parent _

/-- The backup of a file is made in the same directory, if there is room for its name. -/
theorem backup (h : s.LeadsTo p parent name) (hb : p.backup? = some b) (hfits : Fits b) :
    s.LeadsTo b parent (Path.backupMark ++ name) := by
  have hpieces := Path.pieces_of_backup? h.fileName? hb
  have hnormal := Path.isNormal_backupMark_append name
  obtain ⟨hne, hdot, hdots⟩ := Path.isNormal_iff.1 hnormal
  have hslash : b.text.toList.getLast? ≠ some '/' := by
    intro hslash
    obtain ⟨cs, hcs⟩ := List.getLast?_eq_some_iff.1 hslash
    have hlast := Path.getLast?_pieces (p := b)
    rw [hcs, Path.getLast?_splitSlashes_append (by simp), hpieces, List.getLast?_concat] at hlast
    exact hne (Option.some.inj hlast)
  have hzero : '\x00' ∉ b.text.toList := by
    rw [Path.mem_text_iff (by decide), hpieces]
    have hp := (checkPath_eq_ok_iff.1 h.valid).1
    rw [Path.mem_text_iff (by decide)] at hp
    rintro ⟨piece, hpiece, hmem⟩
    rcases List.mem_append.1 hpiece with hpiece | hpiece
    · exact hp ⟨piece, Path.mem_pieces_of_mem_parentPieces hpiece, hmem⟩
    · rw [List.mem_singleton.1 hpiece, String.toList_append, List.mem_append] at hmem
      rcases hmem with hmem | hmem
      · exact absurd hmem (by decide)
      · exact hp ⟨name, List.mem_of_getLast? h.getLast?_pieces, hmem⟩
  refine ⟨checkPath_eq_ok_iff.2 ⟨hzero, ?_, hfits.1⟩, hslash,
    ⟨p.parentPieces.filter (· != ""), ?_, ?_⟩, h.directory, ⟨hdot, hdots⟩,
    hfits.2 _ (Path.fileName?_of_backup? h.fileName? hb)⟩
  · rintro hempty
    have hlast : b.pieces.getLast? = some "" := by
      simp [Path.pieces, hempty, Path.splitSlashes]
    rw [hpieces, List.getLast?_concat] at hlast
    exact hne (Option.some.inj hlast)
  · rw [hpieces, List.filter_append, List.filter_cons_of_pos (by simp [hne]), List.filter_nil]
  · rw [walk_filter, h.walk_parentPieces hb]

theorem writeFile (h : s.LeadsTo p parent name)
    (hnot : s.find? (parent ++ [name]) ≠ some .directory) (bytes : ByteArray) :
    s.writeFile p bytes = .ok (s.put (parent ++ [name]) (.file bytes)) :=
  writeFile_eq_ok_iff.2 ⟨_, h.locateNew hnot, rfl⟩

theorem fits (h : s.LeadsTo p parent name) : Fits p := by
  refine ⟨(checkPath_eq_ok_iff.1 h.valid).2.2, fun name' hname => ?_⟩
  obtain rfl := Option.some.inj (h.fileName?.symm.trans hname)
  exact h.short

theorem entryAt?_backup (h : s.LeadsTo p parent name) (hb : p.backup? = some b) (hfits : ¬Fits b) :
    s.entryAt? b = none := by
  rw [Option.eq_none_iff_forall_ne_some]
  intro e he
  obtain ⟨l, hlocate, -⟩ := entryAt?_eq_some_iff.1 he
  obtain ⟨hvalid, hwalk, -⟩ := locate_eq_ok_iff.1 hlocate
  obtain ⟨hne, hdot, hdots⟩ := Path.isNormal_iff.1 (Path.isNormal_backupMark_append name)
  rw [h.walk_backup hb, walkPiece_of_directory h.directory hne hdot hdots] at hwalk
  refine hfits ⟨(checkPath_eq_ok_iff.1 hvalid).2.2, fun name' hname => ?_⟩
  obtain rfl := Option.some.inj ((Path.fileName?_of_backup? h.fileName? hb).symm.trans hname)
  intro hlong
  rw [if_pos hlong] at hwalk
  cases hwalk

end LeadsTo

/-- A path leads to a file by way of a directory and a name. -/
theorem exists_leadsTo (hs : s.IsTree) (h : s.entryAt? p = some (.file bytes)) :
    ∃ parent name, s.LeadsTo p parent name ∧ s.find? (parent ++ [name]) = some (.file bytes) := by
  obtain ⟨l, hlocate, hfile⟩ := entryAt?_eq_some_iff.1 h
  obtain ⟨above, last, parent, hpieces, hmeans, -, hdirectory, hwalk⟩ :=
    exists_pieces_of_locate hlocate hfile
  have hdots : last ≠ ".." := by
    rintro rfl
    obtain rfl : parent.dropLast = l := by
      rw [walkPiece, if_neg (by decide), hdirectory] at hwalk
      exact Except.ok.inj hwalk
    -- What lies above a directory is none but a directory.
    rcases List.eq_nil_or_concat' parent with rfl | ⟨above, name, rfl⟩
    · simp [find?] at hfile
    · rw [List.dropLast_concat, hs.above above name (by simp [hdirectory])] at hfile
      cases hfile
  obtain ⟨hne, hdot⟩ := not_or.1 hmeans
  have hname : p.fileName? = some last := Path.fileName?_eq_some_iff.2
    ⟨above, [], hpieces, Path.isNormal_iff.2 ⟨hne, hdot, hdots⟩, by simp⟩
  obtain ⟨parent, rfl, hleads⟩ := leadsTo_of_locate hlocate hfile hname
  exact ⟨parent, last, hleads, hfile⟩

end Store

namespace Files

variable {m : Type → Type} [Monad m] [Files m]

/-- Writes texts to a path, one after the other. -/
def writeAll (target : Path) (texts : List String) : m (List (Except OutputError (Option Path))) :=
  texts.mapM fun text => Logged.result <$> writeWithBackup target text

def fileOf (text : String) : Entry := .file text.toUTF8

variable {s s' t : Store} {p b : Path} {parent : Location} {name text : String}
  {texts : List String} {old : ByteArray} {now? now?' before? before?' : Option Entry}

theorem run_writeAll_cons (p : Path) (text : String) (texts : List String) (s : Store) :
    (writeAll p (text :: texts) : StateM Store _).run s
      = let r := (writeWithBackup p text : StateM Store _).run s
        let r' := (writeAll p texts : StateM Store _).run r.2
        (r.1.result :: r'.1, r'.2) := by
  rw [writeAll, List.mapM_cons]
  rfl

theorem run_writeAll_concat (p : Path) (texts : List String) (text : String) (s : Store) :
    (writeAll p (texts ++ [text]) : StateM Store _).run s
      = let r := (writeAll p texts : StateM Store _).run s
        let r' := (writeWithBackup p text : StateM Store _).run r.2
        (r.1 ++ [r'.1.result], r'.2) := by
  rw [writeAll, List.mapM_append, List.mapM_cons]
  rfl

/-- Of all places only those of a file and of its backup may have changed. -/
structure Rewritten (s t : Store) (parent : Location) (name : String)
    (now? before? : Option Entry) : Prop where
  keeps : s.Keeps t
  target : t.find? (parent ++ [name]) = now?
  backup : t.find? (parent ++ [Path.backupMark ++ name]) = before?
  others : ∀ l, l ≠ parent ++ [name] → l ≠ parent ++ [Path.backupMark ++ name] →
    t.find? l = s.find? l

theorem Rewritten.trans (h : Rewritten s s' parent name now? before?)
    (h' : Rewritten s' t parent name now?' before?') :
    Rewritten s t parent name now?' before?' where
  keeps := h.keeps.trans h'.keeps
  target := h'.target
  backup := h'.backup
  others l hl hl' := (h'.others l hl hl').trans (h.others l hl hl')

theorem backupPlace_ne (parent : Location) (name : String) :
    parent ++ [Path.backupMark ++ name] ≠ parent ++ [name] := by
  intro h
  obtain ⟨-, hsame⟩ := List.append_inj' h rfl
  exact Store.backupMark_append_ne name (List.cons.inj hsame).1

theorem exists_run_of_none (hleads : s.LeadsTo p parent name)
    (hnone : s.find? (parent ++ [name]) = none) (text : String) :
    ∃ log t, (writeWithBackup p text : StateM Store _).run s = (⟨.ok none, log⟩, t) ∧
      Rewritten s t parent name (some (fileOf text))
        (s.find? (parent ++ [Path.backupMark ++ name])) := by
  have hnot : s.find? (parent ++ [name]) ≠ some .directory := by simp [hnone]
  have hwritten := hleads.writtenAt hnot text.toUTF8
  refine ⟨[], _, ?_, hwritten.keeps, hwritten.here,
    hwritten.elsewhere _ (backupPlace_ne parent name), fun l hl _ => hwritten.elsewhere l hl⟩
  rw [run_writeWithBackup, run_backUp, hleads.entryAt?, hnone]
  simp only [Option.isSome_none, Bool.false_eq_true, if_false, hleads.writeFile hnot]
  rfl

theorem exists_run_of_file (hleads : s.LeadsTo p parent name)
    (hold : s.find? (parent ++ [name]) = some (.file old)) (hb : p.backup? = some b)
    (hfits : Store.Fits b)
    (hdir : s.find? (parent ++ [Path.backupMark ++ name]) ≠ some .directory) (text : String) :
    ∃ log t, (writeWithBackup p text : StateM Store _).run s = (⟨.ok (some b), log⟩, t) ∧
      Rewritten s t parent name (some (fileOf text)) (some (.file old)) := by
  have hbackup := hleads.backup hb hfits
  have hentry : s.entryAt? p = some (.file old) := hleads.entryAt?.trans hold
  have hsaved := hbackup.writtenAt hdir old
  have hcopy := Store.copyFile_eq_ok_iff.2 ⟨old, hentry, hbackup.writeFile hdir old⟩
  have hapart := backupPlace_ne parent name
  have hleads' := hleads.keeps hsaved.keeps
  have hnot : (s.put (parent ++ [Path.backupMark ++ name]) (.file old)).find? (parent ++ [name])
      ≠ some .directory := by
    rw [hsaved.elsewhere _ hapart.symm, hold]
    simp
  have hwritten := hleads'.writtenAt hnot text.toUTF8
  refine ⟨[backupRecord p b], _, ?_, hsaved.keeps.trans hwritten.keeps, hwritten.here,
    (hwritten.elsewhere _ hapart).trans hsaved.here,
    fun l hl hl' => (hwritten.elsewhere l hl).trans (hsaved.elsewhere l hl')⟩
  rw [run_writeWithBackup, run_backUp, hentry, hb]
  simp only [Option.isSome_some, if_true, hcopy, hleads'.writeFile hnot]
  rfl

/-- A file that is there is replaced only if its backup fits. -/
theorem fits_of_isOk (hentry : s.entryAt? p = some (.file old)) (hb : p.backup? = some b)
    (h : ((writeWithBackup p text : StateM Store _).run s).1.result.isOk = true) :
    Store.Fits b := by
  rw [run_writeWithBackup, run_backUp, hentry, hb] at h
  simp only [Option.isSome_some, if_true] at h
  cases hcopy : s.copyFile p b with
  | error e =>
      rw [hcopy] at h
      cases h
  | ok t =>
      obtain ⟨bytes, -, hwrite⟩ := Store.copyFile_eq_ok_iff.1 hcopy
      obtain ⟨parent, name, hleads, -⟩ := Store.exists_writtenAt hwrite
      exact hleads.fits

/-- One write: the file holds the text, and its backup what the file held before, if it was there. -/
theorem exists_run (hleads : s.LeadsTo p parent name)
    (hnot : s.find? (parent ++ [name]) ≠ some .directory) (hb : p.backup? = some b)
    (hdir : Store.Fits b → s.find? (parent ++ [Path.backupMark ++ name]) ≠ some .directory)
    (hfits : (s.find? (parent ++ [name])).isSome → Store.Fits b) (text : String) :
    ∃ log t, (writeWithBackup p text : StateM Store _).run s
        = (⟨.ok ((s.find? (parent ++ [name])).map fun _ => b), log⟩, t) ∧
      Rewritten s t parent name (some (fileOf text))
        ((s.find? (parent ++ [name])).or (s.find? (parent ++ [Path.backupMark ++ name]))) := by
  cases hfind : s.find? (parent ++ [name]) with
  | none => exact exists_run_of_none hleads hfind text
  | some e =>
      have hfits' := hfits (by simp [hfind])
      cases e with
      | directory => exact absurd hfind hnot
      | file old => exact exists_run_of_file hleads hfind hb hfits' (hdir hfits') text

/-- After each write the file holds the text written last, and its backup what it held before. -/
theorem exists_runAll (hleads : s.LeadsTo p parent name)
    (hnot : s.find? (parent ++ [name]) ≠ some .directory) (hb : p.backup? = some b)
    (hdir : Store.Fits b → s.find? (parent ++ [Path.backupMark ++ name]) ≠ some .directory)
    (text : String) (texts : List String)
    (hfits : (s.find? (parent ++ [name])).isSome ∨ texts ≠ [] → Store.Fits b) :
    ∃ t, (writeAll p (text :: texts) : StateM Store _).run s
        = (.ok ((s.find? (parent ++ [name])).map fun _ => b)
            :: List.replicate texts.length (.ok (some b)), t) ∧
      Rewritten s t parent name ((text :: texts).getLast?.map fileOf)
        (((text :: texts).dropLast.getLast?.map fileOf).or ((s.find? (parent ++ [name])).or
          (s.find? (parent ++ [Path.backupMark ++ name])))) := by
  induction texts using List.reverseRecOn with
  | nil =>
      obtain ⟨log, t, hrun, ht⟩ := exists_run hleads hnot hb hdir (fun h => hfits (Or.inl h)) text
      refine ⟨t, ?_, ht⟩
      rw [run_writeAll_cons, hrun]
      rfl
  | append_singleton texts last ih =>
      have hfits' := hfits (by simp)
      obtain ⟨t, hrun, ht⟩ := ih fun _ => hfits'
      -- From the second write on a file is there, the one that the write before has left.
      obtain ⟨now, hnow⟩ : ∃ now, (text :: texts).getLast? = some now :=
        ⟨_, List.getLast?_eq_some_getLast (by simp)⟩
      have hfile := ht.target
      rw [hnow, Option.map_some] at hfile
      have hdir' : t.find? (parent ++ [Path.backupMark ++ name]) ≠ some .directory := by
        rw [ht.backup]
        have hbefore := hdir hfits'
        cases (text :: texts).dropLast.getLast? <;> cases hfind : s.find? (parent ++ [name]) <;>
          simp_all [fileOf]
      obtain ⟨log, t', hrun', ht'⟩ :=
        exists_run_of_file (hleads.keeps ht.keeps) hfile hb hfits' hdir' last
      refine ⟨t', ?_, ?_⟩
      · rw [← List.cons_append, run_writeAll_concat, hrun]
        simp only [hrun', List.length_append, List.length_singleton, List.replicate_succ',
          List.cons_append]
      · rw [← List.cons_append, List.dropLast_concat, List.getLast?_concat, hnow]
        exact ht.trans ht'

/-- Texts have been written to a path one after the other, each with a backup of what the path held
before it. -/
structure WrittenInTurn (s t : Store) (p b : Path) (texts : List String)
    (results : List (Except OutputError (Option Path))) : Prop where
  reported : results = .ok ((s.entryAt? p).map fun _ => b)
    :: List.replicate (texts.length - 1) (.ok (some b))
  target : t.entryAt? p = texts.getLast?.map fileOf
  saved : t.entryAt? b
    = (texts.dropLast.getLast?.map fileOf).or ((s.entryAt? p).or (s.entryAt? b))
  others : ∀ l, t.find? l ≠ s.find? l → t.locate p = .ok l ∨ t.locate b = .ok l
  workingDirectory : t.workingDirectory = s.workingDirectory

/-- If all writes succeed, there is room for the backup that one of them makes. -/
theorem fits_of_forall_isOk (hleads : s.LeadsTo p parent name)
    (hnot : s.find? (parent ++ [name]) ≠ some .directory) (hb : p.backup? = some b)
    (h : ∀ x ∈ ((writeAll p (text :: texts) : StateM Store _).run s).1, x.isOk = true)
    (hmade : (s.find? (parent ++ [name])).isSome ∨ texts ≠ []) : Store.Fits b := by
  rw [run_writeAll_cons] at h
  obtain ⟨hfirst, hrest⟩ := List.forall_mem_cons.1 h
  cases hfind : s.find? (parent ++ [name]) with
  | some e =>
      cases e with
      | directory => exact absurd hfind hnot
      | file old => exact fits_of_isOk (hleads.entryAt?.trans hfind) hb hfirst
  | none =>
      obtain ⟨second, more, rfl⟩ := List.exists_cons_of_ne_nil
        (hmade.resolve_left (by simp [hfind]))
      obtain ⟨log, t, hrun, ht⟩ := exists_run_of_none hleads hfind text
      rw [hrun, run_writeAll_cons] at hrest
      exact fits_of_isOk ((hleads.keeps ht.keeps).entryAt?.trans ht.target) hb
        (List.forall_mem_cons.1 hrest).1

theorem Rewritten.writtenInTurn {results : List (Except OutputError (Option Path))}
    (hleads : s.LeadsTo p parent name) (hb : p.backup? = some b)
    (hfits : (s.find? (parent ++ [name])).isSome ∨ texts ≠ [] → Store.Fits b)
    (h : Rewritten s t parent name ((text :: texts).getLast?.map fileOf)
      (((text :: texts).dropLast.getLast?.map fileOf).or ((s.find? (parent ++ [name])).or
        (s.find? (parent ++ [Path.backupMark ++ name])))))
    (hresults : results = .ok ((s.find? (parent ++ [name])).map fun _ => b)
      :: List.replicate texts.length (.ok (some b))) :
    WrittenInTurn s t p b (text :: texts) results := by
  have hleads' := hleads.keeps h.keeps
  refine ⟨by rw [hleads.entryAt?]; exact hresults, hleads'.entryAt?.trans h.target, ?_, ?_,
    h.keeps.workingDirectory⟩
  · rw [hleads.entryAt?]
    by_cases hb' : Store.Fits b
    · rw [(hleads.backup hb hb').entryAt?, (hleads'.backup hb hb').entryAt?, h.backup]
    · obtain ⟨hnone, hnil⟩ := not_or.1 (mt hfits hb')
      rw [hleads.entryAt?_backup hb hb', hleads'.entryAt?_backup hb hb', not_not.1 hnil]
      simp [Option.not_isSome_iff_eq_none.1 hnone]
  · intro l hl
    by_cases htarget : l = parent ++ [name]
    · have hthere : (t.find? (parent ++ [name])).isSome := by
        rw [h.target, List.getLast?_eq_some_getLast (by simp)]
        rfl
      exact Or.inl (htarget ▸ hleads'.locate hthere)
    by_cases hbackup : l = parent ++ [Path.backupMark ++ name]
    · rw [hbackup, h.backup] at hl
      by_cases hb' : Store.Fits b
      · refine Or.inr (hbackup ▸ (hleads'.backup hb hb').locate ?_)
        rw [h.backup]
        by_contra hgone
        simp_all
      · obtain ⟨hnone, hnil⟩ := not_or.1 (mt hfits hb')
        rw [not_not.1 hnil] at hl
        simp_all
    · exact absurd (h.others l htarget hbackup) hl

/-- **Each write backs up the one before it.** -/
theorem writtenInTurn_writeAll (hs : s.IsTree)
    (hp : (∃ bytes, s.entryAt? p = some (.file bytes)) ∨ s.IsFree p)
    (hdir : ∀ b, p.backup? = some b → s.entryAt? b ≠ some .directory) (hne : texts ≠ []) :
    let r := (writeAll p texts : StateM Store _).run s
    ∃ b, p.backup? = some b ∧
      ((∀ x ∈ r.1, x.isOk = true) ↔
        ((s.entryAt? p).isSome ∨ 1 < texts.length → Store.Fits b)) ∧
      ((∀ x ∈ r.1, x.isOk = true) → WrittenInTurn s r.2 p b texts r.1) := by
  intro r
  obtain ⟨parent, name, hleads, hnot⟩ : ∃ parent name, s.LeadsTo p parent name ∧
      s.find? (parent ++ [name]) ≠ some .directory := by
    rcases hp with ⟨bytes, hfile⟩ | ⟨parent, name, hleads, hnone⟩
    · obtain ⟨parent, name, hleads, hfind⟩ := Store.exists_leadsTo hs hfile
      exact ⟨parent, name, hleads, by simp [hfind]⟩
    · exact ⟨parent, name, hleads, by simp [hnone]⟩
  obtain ⟨b, hb⟩ : ∃ b, p.backup? = some b :=
    ⟨_, Path.backup?_eq_some_iff.2 ⟨name, hleads.fileName?, rfl⟩⟩
  obtain ⟨text, texts, rfl⟩ := List.exists_cons_of_ne_nil hne
  have hmade : (s.entryAt? p).isSome ∨ 1 < (text :: texts).length ↔
      (s.find? (parent ++ [name])).isSome ∨ texts ≠ [] := by
    rw [hleads.entryAt?, List.length_cons, Nat.lt_add_left_iff_pos, List.length_pos_iff]
  have hdir' : Store.Fits b →
      s.find? (parent ++ [Path.backupMark ++ name]) ≠ some .directory := by
    intro hfits
    rw [← (hleads.backup hb hfits).entryAt?]
    exact hdir b hb
  rw [hmade]
  have hfits : (∀ x ∈ r.1, x.isOk = true) →
      (s.find? (parent ++ [name])).isSome ∨ texts ≠ [] → Store.Fits b :=
    fits_of_forall_isOk hleads hnot hb
  refine ⟨b, hb, ⟨hfits, fun hroom => ?_⟩, fun hok => ?_⟩
  · obtain ⟨t, hrun, -⟩ := exists_runAll hleads hnot hb hdir' text texts hroom
    have hresults : r.1 = _ := congrArg Prod.fst hrun
    rw [hresults]
    exact List.forall_mem_cons.2 ⟨rfl, fun x hx => by rw [List.eq_of_mem_replicate hx]; rfl⟩
  · obtain ⟨t, hrun, ht⟩ := exists_runAll hleads hnot hb hdir' text texts (hfits hok)
    have hr : r = _ := hrun
    rw [hr]
    exact ht.writtenInTurn hleads hb (hfits hok) rfl

/-- A file of an earlier run is there, and so is its backup. -/
theorem writtenInTurn_of_two_texts :
    let s : Store := (({ workingDirectory := ["work"] } : Store).addFile ["work", "api"]
      "old".toUTF8).addFile ["work", ".bk.api"] "older".toUTF8
    let r := (writeAll ⟨"api"⟩ ["one", "two"] : StateM Store _).run s
    s.IsTree ∧ s.entryAt? ⟨"api"⟩ = some (fileOf "old") ∧
      s.entryAt? ⟨".bk.api"⟩ = some (fileOf "older") ∧
      WrittenInTurn s r.2 ⟨"api"⟩ ⟨".bk.api"⟩ ["one", "two"] r.1 ∧
      r.2.entryAt? ⟨".bk.api"⟩ = some (fileOf "one") := by
  intro s r
  have hs : s.IsTree := Store.isTree_of_forall (by decide +kernel) (by decide +kernel)
  have hfile : s.entryAt? ⟨"api"⟩ = some (fileOf "old") := by decide +kernel
  have hold : s.entryAt? ⟨".bk.api"⟩ = some (fileOf "older") := by decide +kernel
  have hdir : ∀ b, (⟨"api"⟩ : Path).backup? = some b → s.entryAt? b ≠ some .directory := by
    intro b hb
    obtain rfl : ⟨".bk.api"⟩ = b := Option.some.inj hb
    rw [hold]
    simp [fileOf]
  obtain ⟨b, hb, hok, hwritten⟩ :=
    writtenInTurn_writeAll hs (Or.inl ⟨_, hfile⟩) hdir (List.cons_ne_nil "one" ["two"])
  obtain rfl : ⟨".bk.api"⟩ = b := Option.some.inj hb
  have hfits : Store.Fits ⟨".bk.api"⟩ := by
    refine ⟨by decide, fun name hname => ?_⟩
    obtain rfl : ".bk.api" = name := Option.some.inj hname
    decide
  have hturn := hwritten (hok.2 fun _ => hfits)
  exact ⟨hs, hfile, hold, hturn, hturn.saved⟩

/-- There is no room for the name of the backup, so the second write fails. -/
theorem exists_failed_of_long_name :
    let name := String.ofList (List.replicate 255 'x')
    let s : Store := {}
    s.IsTree ∧ s.IsFree ⟨name⟩ ∧
      (∀ b, (⟨name⟩ : Path).backup? = some b → s.entryAt? b ≠ some .directory) ∧
      ∃ x ∈ ((writeAll ⟨name⟩ ["one", "two"] : StateM Store _).run s).1, x.isOk = false := by
  intro name s
  have hsize : name.utf8ByteSize = 255 := by decide +kernel
  have hchars : ∀ c ∈ name.toList, c = 'x' := by
    rw [String.toList_ofList]
    exact fun c => List.eq_of_mem_replicate
  have hnormal : Path.isNormal name = true := by
    refine Path.isNormal_iff.2 ⟨?_, ?_, ?_⟩
    all_goals
      intro h
      rw [h] at hsize
      exact absurd hsize (by decide)
  have hleads : s.LeadsTo ⟨name⟩ [] name :=
    Store.leadsTo_of_name rfl (fun h => absurd (hchars _ h) (by decide))
      (fun h => absurd (hchars _ h) (by decide)) hnormal (by rw [hsize]; decide)
  have hlong : ∀ b, (⟨name⟩ : Path).backup? = some b → ¬Store.Fits b := by
    intro b hb hfits
    refine hfits.2 _ (Path.fileName?_of_backup? hleads.fileName? hb) ?_
    rw [String.utf8ByteSize_append, hsize]
    decide
  have hfree : s.find? ([] ++ [name]) = none := rfl
  refine ⟨Store.isTree_of_forall rfl fun e he => absurd he List.not_mem_nil,
    ⟨[], name, hleads, hfree⟩, fun b hb => ?_, ?_⟩
  · rw [hleads.entryAt?_backup hb (hlong b hb)]
    simp
  · obtain ⟨b, hb⟩ : ∃ b, (⟨name⟩ : Path).backup? = some b :=
      ⟨_, Path.backup?_eq_some_iff.2 ⟨name, hleads.fileName?, rfl⟩⟩
    by_contra hall
    push Not at hall
    have hok : ∀ x ∈ ((writeAll ⟨name⟩ ["one", "two"] : StateM Store _).run s).1,
        x.isOk = true := by
      simpa using hall
    exact hlong b hb (fits_of_forall_isOk hleads (by rw [hfree]; simp) hb hok
      (Or.inr (by simp)))

end Files

end SchemaSieve
