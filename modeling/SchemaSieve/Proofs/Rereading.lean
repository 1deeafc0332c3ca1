import SchemaSieve.Proofs.ParsedLines
import SchemaSieve.Schema.Rendering

/-!
# Reading written declarations

What a reader makes of the lines of a declaration as they are written: lines that describe it, its
opening line, its body and a closing brace. A line of the body that closes a block cuts the fields
off there, and the lines after it describe the declaration that comes next.
-/

namespace SchemaSieve

open Text

/-- Within the body of a text, some lines lead from one place to another and hand on some
declarations. -/
def Reads (p : Place) (ls : List String) (q : Place) (ds : List Declaration) : Prop :=
  ∀ r : Reader, r.inBody = true → r.place = p →
    (r.run ls).1.place = q ∧ (r.run ls).2.filterMap Item.declaration? = ds

namespace Reads

variable {p q : Place} {l : String}

theorem nil (p : Place) : Reads p [] p [] := fun _ _ hplace => ⟨hplace, rfl⟩

theorem append {a b : List String} {m : Place} {ds es : List Declaration} (h : Reads p a m ds)
    (h' : Reads m b q es) : Reads p (a ++ b) q (ds ++ es) := by
  intro r hbody hplace
  obtain ⟨hplace', hdeclared⟩ := h r hbody hplace
  obtain ⟨hplace'', hdeclared'⟩ := h' (r.run a).1 (Reader.run_inBody hbody a).1 hplace'
  rw [Reader.run_append, List.filterMap_append, hdeclared, hdeclared']
  exact ⟨hplace'', rfl⟩

theorem cons {ls : List String} {m : Place} {ds es : List Declaration} (h : Reads p [l] m ds)
    (h' : Reads m ls q es) : Reads p (l :: ls) q (ds ++ es) :=
  h.append h'

theorem blank (h : LineClass.ofLine l = .blank) (p : Place) : Reads p [l] p [] := by
  intro r _ hplace
  rw [Reader.run_cons, Reader.step_blank h]
  exact ⟨hplace, rfl⟩

theorem comment (h : LineClass.ofLine l = .comment) (p : Place) :
    Reads p [l] (p.describe l) [] := by
  rintro r hbody rfl
  rw [Reader.run_cons, Reader.step_comment h hbody]
  exact ⟨rfl, rfl⟩

theorem plain (h : LineClass.ofLine l = .plain) (p : Place) : Reads p [l] (p.addPlain l) [] := by
  rintro r - rfl
  obtain ⟨hafter, hitems⟩ := Reader.step_plain (r := r) h
  rw [Reader.run_cons, List.filterMap_append, hafter, hitems]
  exact ⟨rfl, rfl⟩

theorem opener (h : LineClass.ofLine l = .opener) (pending : List String) :
    Reads (.outside pending) [l]
      (.inside { opening := Opening.ofLine l, description := pending }) [] := by
  intro r _ hplace
  obtain ⟨hafter, hitems⟩ := Reader.step_opener (r := r) h
  rw [Reader.run_cons, List.filterMap_append, hafter, hitems, hplace]
  exact ⟨rfl, rfl⟩

theorem closer_outside (h : LineClass.ofLine l = .closer) (pending : List String) :
    Reads (.outside pending) [l] (.outside pending) [] := by
  intro r _ hplace
  obtain ⟨hafter, hitems⟩ := Reader.step_closer (r := r) h
  rw [Reader.run_cons, List.filterMap_append, hafter, hitems, hplace]
  exact ⟨rfl, rfl⟩

theorem closer_inside (h : LineClass.ofLine l = .closer) {b : OpenBlock} {kind : Kind}
    (hkind : b.opening.kind? = some kind) :
    Reads (.inside b) [l] (.outside []) [b.declaration kind] := by
  intro r _ hplace
  obtain ⟨hafter, hitems⟩ := Reader.step_closer (r := r) h
  obtain ⟨hclosed, hdeclared⟩ := Place.closeBlock_inside b (r.lineCount + 1)
  rw [Reader.run_cons, List.filterMap_append, hafter, hitems, hplace, hclosed, hdeclared, hkind]
  exact ⟨rfl, rfl⟩

end Reads

/-- The lines that stay between blocks, where a closing line changes nothing. -/
def keptLines (ls : List String) : List String :=
  ls.filter fun l => LineClass.ofLine l ≠ .closer

/-- The lines of a body up to the first that closes the block. -/
def openPart (body : List String) : List String :=
  body.takeWhile fun l => LineClass.ofLine l ≠ .closer

/-- The lines of a body that are left when its block is closed. -/
def leftOver (body : List String) : List String :=
  keptLines (body.dropWhile fun l => LineClass.ofLine l ≠ .closer)

theorem keptLines_eq_self {ls : List String} (h : ∀ l ∈ ls, LineClass.ofLine l ≠ .closer) :
    keptLines ls = ls := by
  rw [keptLines, List.filter_eq_self]
  exact fun l hl => by simpa using h l hl

theorem openPart_eq_self_iff {body : List String} :
    openPart body = body ↔ ∀ l ∈ body, LineClass.ofLine l ≠ .closer := by
  rw [openPart, List.takeWhile_eq_self_iff]
  simp

theorem leftOver_eq_nil {body : List String} (h : ∀ l ∈ body, LineClass.ofLine l ≠ .closer) :
    leftOver body = [] := by
  have hdrop : body.dropWhile (fun l => LineClass.ofLine l ≠ .closer) = [] :=
    List.dropWhile_eq_nil_iff.2 fun l hl => by simpa using h l hl
  rw [leftOver, hdrop]
  rfl

/-- A line that may stand between blocks without opening one. -/
def PendingLine (l : String) : Prop :=
  LineClass.ofLine l ≠ .blank ∧ LineClass.ofLine l ≠ .opener

/-- A line that may stand in a body. -/
def BodyLine (l : String) : Prop := LineClass.ofLine l = .plain ∨ LineClass.ofLine l = .closer

theorem DescribingLine.pendingLine {P : String → Prop} {l : String} (h : DescribingLine P l) :
    PendingLine l := by
  rcases h.2 with h | h <;> exact ⟨by simp [h], by simp [h]⟩

theorem BodyLine.pendingLine {l : String} (h : BodyLine l) : PendingLine l := by
  rcases h with h | h <;> exact ⟨by simp [h], by simp [h]⟩

namespace Reads

theorem pending {ls : List String} (h : ∀ l ∈ ls, PendingLine l) (before : List String) :
    Reads (.outside before) ls (.outside (before ++ keptLines ls)) [] := by
  induction ls generalizing before with
  | nil => simpa [keptLines] using Reads.nil (.outside before)
  | cons l ls ih =>
      have hrest := fun before => ih (fun m hm => h m (by simp [hm])) before
      obtain ⟨hblank, hopener⟩ := h l (by simp)
      cases hl : LineClass.ofLine l with
      | blank => exact absurd hl hblank
      | opener => exact absurd hl hopener
      | comment =>
          simpa [keptLines, hl] using (Reads.comment hl (.outside before)).cons (hrest _)
      | closer => simpa [keptLines, hl] using (Reads.closer_outside hl before).cons (hrest _)
      | plain => simpa [keptLines, hl] using (Reads.plain hl (.outside before)).cons (hrest _)

/-- The first closing line of a body, or the closing brace behind it, ends the block. What comes
after that waits for the next block. -/
theorem body {b : OpenBlock} {kind : Kind} (hkind : b.opening.kind? = some kind)
    {ls : List String} (h : ∀ l ∈ ls, BodyLine l) :
    Reads (.inside b) (ls ++ ["\x7d"]) (.outside (leftOver ls))
      [{ b with fields := b.fields ++ openPart ls }.declaration kind] := by
  have hbrace : LineClass.ofLine "\x7d" = .closer := by decide
  induction ls generalizing b with
  | nil => simpa [openPart, leftOver, keptLines] using Reads.closer_inside hbrace hkind
  | cons l ls ih =>
      have hls : ∀ m ∈ ls, BodyLine m := fun m hm => h m (by simp [hm])
      rcases h l (by simp) with hl | hl
      · have hrest := (Reads.plain hl (.inside b)).cons (ih (by exact hkind) hls)
        simpa [openPart, leftOver, hl, OpenBlock.declaration] using hrest
      · have hafter : ∀ m ∈ ls ++ ["\x7d"], PendingLine m := by
          intro m hm
          rcases List.mem_append.1 hm with hm | hm
          · exact (hls m hm).pendingLine
          · rw [List.mem_singleton.1 hm]
            exact BodyLine.pendingLine (Or.inr hbrace)
        have hrest := (Reads.closer_inside hl hkind).cons (Reads.pending hafter [])
        simpa [openPart, leftOver, keptLines, hl, hbrace] using hrest

/-- The lines of a declaration as they are written are read as a declaration with the same opening
line, and with the body up to its first closing line as fields. -/
theorem block {d : Declaration} (hd : d.HasWords) {description body : List String}
    (hdescription : ∀ l ∈ description, PendingLine l) (hbody : ∀ l ∈ body, BodyLine l)
    (before : List String) :
    Reads (.outside before) (description ++ d.header :: (body ++ ["\x7d"]))
      (.outside (leftOver body))
      [{ kind := d.kind, name := d.name, clause := d.clause, fields := openPart body,
         description := before ++ keptLines description }] := by
  have hheader := Reads.opener d.ofLine_header (before ++ keptLines description)
  rw [d.opening_header hd] at hheader
  exact (Reads.pending hdescription before).append (hheader.cons (Reads.body rfl hbody))

end Reads

end SchemaSieve
