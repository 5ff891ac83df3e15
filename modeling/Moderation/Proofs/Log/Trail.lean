import Moderation.Proofs.Engine.Server
import Moderation.Proofs.Log.Files

/-!
The audit trail in files and in memory. Each entry is added to the file for its kind and to no other,
so that the files hold what a list of the entries says, file by file.
-/
namespace Moderation

/-- An audit entry and the time at which it is put on record. -/
abbrev Recorded := String × AuditEntry

namespace WriterSettings
variable (w : WriterSettings)

/-- The text of an entry as a log file holds it. -/
def block (r : Recorded) : String := w.entryText r.1 r.2.actor r.2.message

/-- Where the target of an entry leads from a working folder. -/
def placeOf (here : List String) (r : Recorded) : List String :=
  Disk.namesOf here (w.resolve r.2.kind.target)

/-- The texts of the entries whose target leads to a path. -/
def blocksAt (here path : List String) (rs : List Recorded) : List String :=
  (rs.filter fun r => w.placeOf here r == path).map w.block

/-- The text of the file at a path if there are just these entries; without an entry for it there is
no file. -/
def contents? (here path : List String) (rs : List Recorded) : Option String :=
  match w.blocksAt here path rs with
  | [] => none
  | blocks => some (String.join blocks)

/-- A disk after entries were written one after the other. -/
def recordAll (d : Disk) (rs : List Recorded) : Disk := rs.foldl (fun d r => (w.record r.1 r.2 d).1) d

/-- Whether every entry can be written when its turn comes. -/
def writesAll (d : Disk) : List Recorded → Bool
  | [] => true
  | r :: rs =>
    (w.write r.1 r.2.kind.target r.2.actor r.2.message d).2.isSome &&
      writesAll (w.record r.1 r.2 d).1 rs

end WriterSettings

/-- A server that puts entries on record one after the other. -/
def Engine.Server.recordAll (s : Engine.Server) (rs : List Recorded) : Engine.Server :=
  rs.foldl (fun s r => { s with time := r.1 }.absorb (.audit r.2)) s

lemma Engine.Server.recordAll_cons (s : Engine.Server) (r : Recorded) (rs : List Recorded) :
    s.recordAll (r :: rs) = ({ s with time := r.1 }.absorb (.audit r.2)).recordAll rs := by
  simp only [recordAll, List.foldl_cons]

/-- The text of a file after blocks were added to it. -/
def grown (before : Option String) : List String → Option String
  | [] => before
  | blocks => some (before.getD "" ++ String.join blocks)

lemma grown_append (before : Option String) (bs cs : List String) :
    grown before (bs ++ cs) = grown (grown before bs) cs := by
  cases bs with
  | nil => rfl
  | cons b bs =>
    cases cs with
    | nil => simp [grown]
    | cons c cs => simp [grown, String.append_assoc]

namespace WriterSettings
variable {w : WriterSettings} {d : Disk} {path : List String} {rs : List Recorded}

lemma contents?_eq_grown (w : WriterSettings) (here path : List String) (rs : List Recorded) :
    w.contents? here path rs = grown none (w.blocksAt here path rs) := by
  rw [contents?]
  split
  · rename_i h
    rw [h]
    rfl
  · rename_i h
    cases hb : w.blocksAt here path rs with
    | nil => exact absurd hb h
    | cons b bs => simp [grown]

lemma recordAll_cons (w : WriterSettings) (d : Disk) (r : Recorded) (rs : List Recorded) :
    w.recordAll d (r :: rs) = w.recordAll (w.record r.1 r.2 d).1 rs := by
  simp only [recordAll, List.foldl_cons]

lemma recordAll_append (w : WriterSettings) (d : Disk) (rs later : List Recorded) :
    w.recordAll d (rs ++ later) = w.recordAll (w.recordAll d rs) later := List.foldl_append

lemma record_eq_append (w : WriterSettings) (r : Recorded) (d : Disk) :
    (w.record r.1 r.2 d).1 = (d.append (w.resolve r.2.kind.target) (w.block r)).1 := by
  simp only [record, write, block]

lemma here_record (w : WriterSettings) (r : Recorded) (d : Disk) :
    (w.record r.1 r.2 d).1.here = d.here := by
  rw [record_eq_append, Disk.here_append]

/-- Whether or not an entry can be written, what was in a file stays at its beginning. -/
theorem exists_textAt?_recordAll {text : String} (h : d.textAt? path = some text)
    (rs : List Recorded) : ∃ more, (w.recordAll d rs).textAt? path = some (text ++ more) := by
  induction rs generalizing d text with
  | nil => exact ⟨"", by simpa [recordAll] using h⟩
  | cons r rs ih =>
    have hone : ∃ more, (w.record r.1 r.2 d).1.textAt? path = some (text ++ more) := by
      rw [record_eq_append, Disk.textAt?_append, h]
      split
      · exact ⟨_, rfl⟩
      · exact ⟨"", by simp⟩
    obtain ⟨first, hfirst⟩ := hone
    obtain ⟨rest, hrest⟩ := ih hfirst
    exact ⟨first ++ rest, by rw [recordAll_cons, hrest, String.append_assoc]⟩

lemma blocksAt_cons (w : WriterSettings) (here path : List String) (r : Recorded)
    (rs : List Recorded) :
    w.blocksAt here path (r :: rs) = w.blocksAt here path [r] ++ w.blocksAt here path rs := by
  simp only [blocksAt, ← List.map_append, ← List.filter_append, List.singleton_append]

/-- An entry that can be written comes to the end of the file for its kind and changes no other
file. -/
theorem textAt?_record {r : Recorded}
    (h : (w.write r.1 r.2.kind.target r.2.actor r.2.message d).2.isSome = true)
    (path : List String) :
    (w.record r.1 r.2 d).1.textAt? path = grown (d.textAt? path) (w.blocksAt d.here path [r]) := by
  have hdone : (d.append (w.resolve r.2.kind.target) (w.block r)).2 = true := by
    simpa [write, block, apply_ite Option.isSome] using h
  rw [record_eq_append, Disk.textAt?_append]
  by_cases hp : w.placeOf d.here r = path
  · simp [hdone, hp, blocksAt, grown, placeOf.eq_1 w d.here r ▸ hp]
  · simp [hp, blocksAt, grown, placeOf.eq_1 w d.here r ▸ hp]

/-- After entries were written, a file holds what it held before and then the blocks that are for
it. -/
theorem textAt?_recordAll (h : w.writesAll d rs = true) (path : List String) :
    (w.recordAll d rs).textAt? path = grown (d.textAt? path) (w.blocksAt d.here path rs) := by
  induction rs generalizing d with
  | nil => rfl
  | cons r rs ih =>
    obtain ⟨hr, hrs⟩ := Bool.and_eq_true_iff.1 h
    have hrest := ih hrs
    rw [here_record] at hrest
    rw [recordAll_cons, blocksAt_cons, grown_append, ← textAt?_record hr, hrest]

end WriterSettings

namespace Engine.Server
variable {s : Server} {entries : List AuditEntry} {d : Disk}

lemma audit_recordAll_of_memory (h : s.audit = .memory entries) (rs : List Recorded) :
    (s.recordAll rs).audit = .memory (entries ++ rs.map Prod.snd) := by
  induction rs generalizing s entries with
  | nil => simpa [recordAll] using h
  | cons r rs ih =>
    have hone : ({ s with time := r.1 }.absorb (.audit r.2)).audit = .memory (entries ++ [r.2]) := by
      simp [absorb, h]
    rw [recordAll_cons, ih hone, List.append_assoc, List.map_cons, List.singleton_append]

lemma audit_recordAll_of_files (h : s.audit = .files d) (rs : List Recorded) :
    (s.recordAll rs).audit = .files (s.settings.writer.recordAll d rs) := by
  induction rs generalizing s d with
  | nil => exact h
  | cons r rs ih =>
    have hone : ({ s with time := r.1 }.absorb (.audit r.2)).audit =
        .files (s.settings.writer.record r.1 r.2 d).1 := by
      simp [absorb, h]
    have hground := sameGround_absorb { s with time := r.1 } (.audit r.2)
    rw [recordAll_cons, ih hone, hground.settings, WriterSettings.recordAll_cons]

/-- The same entries put on record in memory and in files. The files are those to which the targets of
the entries in memory lead, from the base of the log files and the working folder; each holds the
blocks of its own entries in their order and nothing else, and what was in a file at any point stays
at its beginning. -/
theorem trails_agree {memory files : Server} {here : List String} (hm : memory.audit = .memory [])
    (hf : files.audit = .files { here }) {rs : List Recorded}
    (hw : files.settings.writer.writesAll { here } rs = true) :
    ∃ entries disk,
      (memory.recordAll rs).audit = .memory entries ∧
      (files.recordAll rs).audit = .files disk ∧
      entries = rs.map Prod.snd ∧
      (∀ path, disk.textAt? path =
        files.settings.writer.contents? here path ((rs.map Prod.fst).zip entries)) ∧
      ∀ earlier later, rs = earlier ++ later →
        ∃ before, (files.recordAll earlier).audit = .files before ∧
          ∀ path text, before.textAt? path = some text →
            ∃ more, disk.textAt? path = some (text ++ more) := by
  have hzip : (rs.map Prod.fst).zip (rs.map Prod.snd) = rs := by
    rw [List.zip_map', List.map_id']
  refine ⟨_, _, audit_recordAll_of_memory hm rs, audit_recordAll_of_files hf rs, by simp,
    fun path => ?_, ?_⟩
  · rw [List.nil_append, hzip, WriterSettings.textAt?_recordAll hw, Disk.textAt?_empty,
      WriterSettings.contents?_eq_grown]
  · rintro earlier later rfl
    refine ⟨_, audit_recordAll_of_files hf earlier, fun path text htext => ?_⟩
    rw [WriterSettings.recordAll_append]
    exact WriterSettings.exists_textAt?_recordAll htext later

/-- Two kinds of faults share a file, and handlers write by other ways to the file for violations: one
by a path from the root, and one that leaves the base and comes back to it. -/
theorem trails_agree_on_shared_files :
    let memory : Server := { settings := {}, rules := {}, audit := .memory [], time := "" }
    let files : Server := {
      settings := { writer := { base := "srv" } }
      rules := {}
      audit := .files { here := ["/", "opt"] }
      time := "" }
    let rs : List Recorded := [
      ("1", ⟨.regexTimeout, none, "slow"⟩),
      ("2", ⟨.ruleViolation, some "steve", "first"⟩),
      ("3", ⟨.handlerFile "/opt/srv/logs//./rules.txt", some "alex", "second"⟩),
      ("4", ⟨.malformedRegex, none, "bad\npattern"⟩),
      ("5", ⟨.handlerFile "../srv/logs/rules.txt", none, "third"⟩)]
    memory.audit = .memory [] ∧ files.audit = .files { here := ["/", "opt"] } ∧
    files.settings.writer.writesAll { here := ["/", "opt"] } rs = true ∧
    ∃ disk, (files.recordAll rs).audit = .files disk ∧
      disk.textAt? ["/", "opt", "srv", "logs", "rules.txt"] =
        some "[2] steve: first\n[3] alex: second\n[5] third\n" ∧
      disk.textAt? ["/", "opt", "srv", "errors", "errors.txt"] =
        some "[1] slow\n[4] bad\n[4] pattern\n" ∧
      disk.textAt? ["/", "opt", "logs", "rules.txt"] = none := by
  intro memory files rs
  have hw : files.settings.writer.writesAll { here := ["/", "opt"] } rs = true := by
    dsimp only [files, rs]
    decide +kernel
  have hm : memory.audit = .memory [] := rfl
  obtain ⟨entries, disk, -, hdisk, rfl, htext, -⟩ := trails_agree hm rfl hw
  refine ⟨hm, rfl, hw, disk, hdisk, ?_, ?_, ?_⟩ <;> rw [htext] <;> decide +kernel

end Engine.Server

end Moderation
