import SchemaSieve.Files.Output
import SchemaSieve.Proofs.Locating

/-!
# Files that are replaced

What a file held is copied beside it before another text is written to it. The name of the backup is
longer than that of the file, so the two are not at one place, and once the copy is made the writing
does not fail: either all is as it was, or the file and its backup have changed and nothing else,
which is `Replaced`.
-/

namespace SchemaSieve

namespace Store

variable {s s' t : Store} {l : Location} {e : Entry} {p target backup : Path}
  {bytes : ByteArray}

/-- A file has been written to a place that a path leads to, and nothing else has changed. -/
structure WrittenAt (s s' : Store) (p : Path) (l : Location) (bytes : ByteArray) : Prop where
  keeps : s.Keeps s'
  locate : s'.locate p = .ok l
  here : s'.find? l = some (.file bytes)
  elsewhere : ∀ m, m ≠ l → s'.find? m = s.find? m

/-- Of all entries only that of a path has changed, which now holds some bytes, and, if there was
one before, that of its backup, which holds what was there. -/
structure Replaced (s s' : Store) (p : Path) (bytes : ByteArray) : Prop where
  written : s'.entryAt? p = some (.file bytes)
  saved : ∀ e, s.entryAt? p = some e →
    ∃ backup, p.backup? = some backup ∧ s'.entryAt? backup = some e
  others : ∀ l, s'.find? l ≠ s.find? l → s'.locate p = .ok l ∨
    s.entryAt? p ≠ none ∧ ∃ backup, p.backup? = some backup ∧ s'.locate backup = .ok l
  workingDirectory : s'.workingDirectory = s.workingDirectory

theorem entryAt?_eq_some_iff : s.entryAt? p = some e ↔ ∃ l, s.locate p = .ok l ∧
    s.find? l = some e := by
  rw [entryAt?]
  cases s.locate p <;> simp

theorem WrittenAt.entryAt? (h : s.WrittenAt s' p l bytes) :
    s'.entryAt? p = some (.file bytes) :=
  entryAt?_eq_some_iff.2 ⟨l, h.locate, h.here⟩

theorem writeFile_eq_ok_iff :
    s.writeFile p bytes = .ok s' ↔ ∃ l, s.locateNew p = .ok l ∧ s' = s.put l (.file bytes) := by
  rw [writeFile, Except.bind_eq_ok_iff]
  simp [pure, Except.pure, eq_comm]

theorem LeadsTo.writtenAt {parent : Location} {name : String} (h : s.LeadsTo p parent name)
    (hnot : s.find? (parent ++ [name]) ≠ some .directory) (bytes : ByteArray) :
    s.WrittenAt (s.put (parent ++ [name]) (.file bytes)) p (parent ++ [name]) bytes := by
  have hne : parent ++ [name] ≠ [] := by simp
  have hkeeps := keeps_put hne hnot (.file bytes)
  have hhere : (s.put (parent ++ [name]) (.file bytes)).find? (parent ++ [name])
      = some (.file bytes) := by rw [find?_put hne, if_pos rfl]
  refine ⟨hkeeps, (h.keeps hkeeps).locate (by rw [hhere]; rfl), hhere, fun m hm => ?_⟩
  rw [find?_put hne, if_neg (Ne.symm hm)]

theorem exists_writtenAt (h : s.writeFile p bytes = .ok s') :
    ∃ parent name, s.LeadsTo p parent name ∧ s.WrittenAt s' p (parent ++ [name]) bytes := by
  obtain ⟨l, hl, rfl⟩ := writeFile_eq_ok_iff.1 h
  obtain ⟨parent, name, hleads, rfl, hnot⟩ := leadsTo_of_locateNew hl
  exact ⟨parent, name, hleads, hleads.writtenAt hnot bytes⟩

theorem copyFile_eq_ok_iff : s.copyFile p target = .ok s' ↔
    ∃ bytes, s.entryAt? p = some (.file bytes) ∧ s.writeFile target bytes = .ok s' := by
  rw [copyFile, entryAt?]
  cases s.locate p with
  | error e => simp [bind, Except.bind]
  | ok l =>
      simp only [bind, Except.bind]
      split <;> simp_all

/-- A file that is written where there was none. -/
theorem replaced_of_writeFile (hnone : s.entryAt? target = none)
    (h : s.writeFile target bytes = .ok s') : s.Replaced s' target bytes := by
  obtain ⟨parent, name, -, hwritten⟩ := exists_writtenAt h
  refine ⟨hwritten.entryAt?, by simp [hnone], fun l hl => Or.inl ?_,
    hwritten.keeps.workingDirectory⟩
  by_contra hlocate
  refine hl (hwritten.elsewhere l ?_)
  rintro rfl
  exact hlocate hwritten.locate

theorem backupMark_append_ne (name : String) : Path.backupMark ++ name ≠ name := by
  intro h
  have hlength := congrArg String.length h
  rw [String.length_append] at hlength
  have hmark : Path.backupMark.length = 4 := rfl
  omega

/-- Behind a copy of the file beside it the writing does not fail. -/
theorem exists_replaced_of_copyFile (hbackup : target.backup? = some backup)
    (hcopy : s.copyFile target backup = .ok t) (bytes : ByteArray) :
    ∃ s', t.writeFile target bytes = .ok s' ∧ s.Replaced s' target bytes := by
  obtain ⟨name, hname, rfl⟩ := Option.map_eq_some_iff.1 hbackup
  obtain ⟨old, hold, hwrite⟩ := copyFile_eq_ok_iff.1 hcopy
  obtain ⟨l, hlocate, hfile⟩ := entryAt?_eq_some_iff.1 hold
  obtain ⟨parent, rfl, htarget⟩ := leadsTo_of_locate hlocate hfile hname
  obtain ⟨beside, backupName, hleads, hcopied⟩ := exists_writtenAt hwrite
  obtain rfl : backupName = Path.backupMark ++ name := by
    have hlast := hleads.getLast?_pieces
    rw [Path.pieces_of_backup? hname hbackup, List.getLast?_concat] at hlast
    exact (Option.some.inj hlast).symm
  have hapart : parent ++ [name] ≠ beside ++ [Path.backupMark ++ name] := by
    intro h
    obtain ⟨-, hsame⟩ := List.append_inj' h rfl
    exact backupMark_append_ne name (List.cons.inj hsame).1.symm
  have hthere : t.find? (parent ++ [name]) = some (.file old) := by
    rw [hcopied.elsewhere _ hapart, hfile]
  have hnot : t.find? (parent ++ [name]) ≠ some .directory := by simp [hthere]
  have hleads' := htarget.keeps hcopied.keeps
  have hwritten := hleads'.writtenAt hnot bytes
  have hsaved := (hwritten.elsewhere _ hapart.symm).trans hcopied.here
  have hlocated := (hleads.keeps (hcopied.keeps.trans hwritten.keeps)).locate (by rw [hsaved]; rfl)
  refine ⟨_, writeFile_eq_ok_iff.2 ⟨_, hleads'.locateNew hnot, rfl⟩, hwritten.entryAt?, ?_, ?_, ?_⟩
  · intro e he
    obtain rfl := Option.some.inj (hold.symm.trans he)
    exact ⟨_, hbackup, entryAt?_eq_some_iff.2 ⟨_, hlocated, hsaved⟩⟩
  · intro l hl
    by_cases hl' : l = parent ++ [name]
    · exact Or.inl (hl' ▸ hwritten.locate)
    · refine Or.inr ⟨by simp [hold], _, hbackup, ?_⟩
      by_contra hother
      refine hl ((hwritten.elsewhere l hl').trans (hcopied.elsewhere l ?_))
      rintro rfl
      exact hother hlocated
  · exact hwritten.keeps.workingDirectory.trans hcopied.keeps.workingDirectory

end Store

namespace Files

variable {s t : Store} {p target backup : Path}

theorem run_pathExists (p : Path) (s : Store) :
    (pathExists p : StateM Store Bool).run s = ((s.entryAt? p).isSome, s) := rfl

theorem run_copy (source target : Path) (s : Store) :
    (copy source target : StateM Store _).run s
      = match s.copyFile source target with
        | .ok t => (.ok (), t)
        | .error e => (.error e, s) := by
  change (Store.commit (s.copyFile source target)).run s = _
  cases s.copyFile source target <;> rfl

theorem run_write (p : Path) (bytes : ByteArray) (s : Store) :
    (write p bytes : StateM Store _).run s
      = match s.writeFile p bytes with
        | .ok t => (.ok (), t)
        | .error e => (.error e, s) := by
  change (Store.commit (s.writeFile p bytes)).run s = _
  cases s.writeFile p bytes <;> rfl

theorem run_backUp (target : Path) (s : Store) :
    (backUp target : StateM Store _).run s
      = if (s.entryAt? target).isSome then
          match target.backup? with
          | none => (.error (.noFileName target), s)
          | some backup =>
            match s.copyFile target backup with
            | .ok t => (.ok (some backup), t)
            | .error e => (.error (.backupFailed target backup e), s)
        else (.ok none, s) := by
  rw [backUp, StateT.run_bind, run_pathExists]
  change (if (s.entryAt? target).isSome then _ else _ : StateM Store _).run s = _
  split
  · cases target.backup? with
    | none => rfl
    | some backup =>
        dsimp only
        rw [StateT.run_bind, run_copy]
        cases s.copyFile target backup <;> rfl
  · rfl

theorem run_writeWithBackup (target : Path) (text : String) (s : Store) :
    (writeWithBackup target text : StateM Store _).run s
      = match (backUp target : StateM Store _).run s with
        | (.error e, t) => ({ result := .error e }, t)
        | (.ok backup?, t) =>
          let log := backup?.toList.map (backupRecord target)
          match t.writeFile target text.toUTF8 with
          | .ok u => ({ result := .ok backup?, log }, u)
          | .error e => ({ result := .error (.writeFailed target e), log }, t) := by
  rw [writeWithBackup, StateT.run_bind]
  obtain ⟨result, t⟩ := (backUp target : StateM Store _).run s
  cases result with
  | error e => rfl
  | ok backup? =>
      change ((write target text.toUTF8 >>= _ : StateM Store _)).run t = _
      rw [StateT.run_bind, run_write]
      dsimp only
      cases t.writeFile target text.toUTF8 <;> rfl

/-- Writing with a backup fails and leaves all as it was, or replaces the file. -/
theorem replaced_or_error (target : Path) (text : String) (s : Store) :
    let r := (writeWithBackup target text : StateM Store _).run s
    (∃ e, r.1.result = .error e ∧ r.2 = s) ∨
      ∃ backup?, r.1.result = .ok backup? ∧ s.Replaced r.2 target text.toUTF8 := by
  intro r
  have hr : r = _ := run_writeWithBackup target text s
  rw [run_backUp] at hr
  clear_value r
  generalize text.toUTF8 = bytes at hr ⊢
  cases hentry : s.entryAt? target with
  | none =>
      rw [hentry] at hr
      cases hwrite : s.writeFile target bytes with
      | error e => exact Or.inl ⟨.writeFailed target e, by simp [hr, hwrite]⟩
      | ok t =>
          refine Or.inr ⟨none, by simp [hr, hwrite], ?_⟩
          have hreplaced := Store.replaced_of_writeFile hentry hwrite
          simpa [hr, hwrite] using hreplaced
  | some e =>
      rw [hentry] at hr
      cases hbackup : target.backup? with
      | none => exact Or.inl ⟨.noFileName target, by simp [hr, hbackup]⟩
      | some backup =>
          cases hcopy : s.copyFile target backup with
          | error e => exact Or.inl ⟨.backupFailed target backup e, by simp [hr, hbackup, hcopy]⟩
          | ok t =>
              obtain ⟨u, hwrite, hreplaced⟩ :=
                Store.exists_replaced_of_copyFile hbackup hcopy bytes
              refine Or.inr ⟨some backup, by simp [hr, hbackup, hcopy, hwrite], ?_⟩
              simpa [hr, hbackup, hcopy, hwrite] using hreplaced

end Files

end SchemaSieve
