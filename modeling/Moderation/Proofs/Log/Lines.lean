import Moderation.LogFile
import Moderation.Proofs.Log.Files
import Moderation.Proofs.Text.Split

/-!
The lines of a log file. Each line of a message is written with a heading, and neither has a line feed of its own, so
that a message cannot begin a line without a heading: the file, cut at its line feeds, has the lines of the messages
in their order, each one after its heading.
-/
namespace Moderation
open Text

/-- A message for a log file, with the time and the name of the player, if there is one, that stand before each of
its lines. These have no line feed. -/
structure LogMessage where
  time : String
  player : Option String
  message : String
  newline_not_mem_time : '\n' ∉ time.toList
  newline_not_mem_player : ∀ name ∈ player, '\n' ∉ name.toList

namespace LogMessage

/-- What is said of the player at the start of a line. -/
def speaker : Option String → List Char
  | some name => name.toList ++ [':', ' ']
  | none => []

/-- What stands before each line of the message. -/
def heading (m : LogMessage) : List Char := '[' :: m.time.toList ++ [']', ' '] ++ speaker m.player

/-- A line without its time, which ends at the first bracket, and without its player. -/
def spoken (player : Option String) (line : List Char) : List Char :=
  ((line.dropWhile (· != ']')).drop 2).drop (speaker player).length

end LogMessage

namespace WriterSettings

/-- What the log file with a given path holds; nothing if there is no such file. -/
def held (w : WriterSettings) (d : Disk) (path : String) : List Char :=
  ((d.textAt? (Disk.namesOf d.here (w.resolve path))).getD "").toList

/-- The lines of a message as they are written: without the blanks around the message, and without formatting codes
if the settings say so. -/
def linesOf (w : WriterSettings) (m : LogMessage) : List (List Char) :=
  splitOn '\n' (trim (if w.stripColors then Color.strip m.message.toList else m.message.toList))

/-- The lines of messages, each with the message that it is a line of. -/
def allLines (w : WriterSettings) (ms : List LogMessage) : List (LogMessage × List Char) :=
  ms.flatMap fun m => (w.linesOf m).map fun line => (m, line)

/-- A line of a message as it stands in the file. -/
def headed (l : LogMessage × List Char) : List Char := l.1.heading ++ l.2

/-- The disk after messages were written to one file one after the other, if each could be written. -/
def writeAll (w : WriterSettings) (path : String) (d : Disk) : List LogMessage → Option Disk
  | [] => some d
  | m :: ms =>
    let (d', entry) := w.write m.time path m.player m.message d
    if entry.isSome then w.writeAll path d' ms else none

variable {w : WriterSettings} {path : String} {d d' : Disk} {m : LogMessage} {ms : List LogMessage}

/-! ### One message -/

/-- What is added for a message: its lines, each with the heading before it and a line feed after it. -/
lemma toList_entryText (w : WriterSettings) (m : LogMessage) :
    (w.entryText m.time m.player m.message).toList =
      (w.linesOf m).flatMap fun line => m.heading ++ line ++ ['\n'] := by
  have hline (line : String) : (stampedLine m.time m.player line).toList =
      m.heading ++ line.toList ++ ['\n'] := by
    cases hplayer : m.player with
    | none => simp [stampedLine, LogMessage.heading, LogMessage.speaker, hplayer]
    | some name => simp [stampedLine, LogMessage.heading, LogMessage.speaker, hplayer]
  have hmessage : (if w.stripColors then Text.stripColors m.message else m.message).toList =
      if w.stripColors then Color.strip m.message.toList else m.message.toList := by
    split
    · exact toList_stripColors m.message
    · rfl
  rw [entryText, String.toList_join, List.flatMap_map, messageLines, parts, toList_trimmed, hmessage, linesOf]
  simp only [List.flatMap_map, hline, String.toList_ofList]

lemma held_append {text : String} (h : (d.append (w.resolve path) text).2 = true) :
    w.held (d.append (w.resolve path) text).1 path = w.held d path ++ text.toList := by
  rw [held, Disk.here_append, Disk.textAt?_append, if_pos ⟨h, rfl⟩, Option.getD_some,
    String.toList_append, held]

lemma writeAll_cons (w : WriterSettings) (path : String) (d : Disk) (m : LogMessage) (ms : List LogMessage) :
    w.writeAll path d (m :: ms) =
      if (d.append (w.resolve path) (w.entryText m.time m.player m.message)).2 = true then
        w.writeAll path (d.append (w.resolve path) (w.entryText m.time m.player m.message)).1 ms
      else none := by
  rw [writeAll, write]
  generalize d.append (w.resolve path) (w.entryText m.time m.player m.message) = made
  obtain ⟨e, done⟩ := made
  cases done <;> rfl

lemma held_of_writeAll_singleton (h : w.writeAll path d [m] = some d') :
    w.held d' path = w.held d path ++ (w.linesOf m).flatMap fun line => m.heading ++ line ++ ['\n'] := by
  rw [writeAll_cons] at h
  split at h
  · rename_i hdone
    obtain rfl := Option.some.inj h
    rw [held_append hdone, toList_entryText]
  · cases h

/-! ### Messages one after the other -/

lemma writeAll_append (w : WriterSettings) (path : String) (d : Disk) (ms ns : List LogMessage) :
    w.writeAll path d (ms ++ ns) = (w.writeAll path d ms).bind fun e => w.writeAll path e ns := by
  induction ms generalizing d with
  | nil => rfl
  | cons m ms ih =>
    rw [List.cons_append, writeAll_cons, writeAll_cons]
    split
    · exact ih _
    · rfl

lemma held_of_writeAll (h : w.writeAll path d ms = some d') :
    w.held d' path = w.held d path ++ ((w.allLines ms).map headed).flatMap (· ++ ['\n']) := by
  induction ms generalizing d with
  | nil =>
    obtain rfl := Option.some.inj h
    simp [allLines]
  | cons m ms ih =>
    obtain ⟨e, he, hrest⟩ : ∃ e, w.writeAll path d [m] = some e ∧ w.writeAll path e ms = some d' := by
      rw [← List.singleton_append, writeAll_append] at h
      exact Option.bind_eq_some_iff.1 h
    rw [ih hrest, held_of_writeAll_singleton he]
    simp [allLines, headed, List.flatMap_map, Function.comp_def]

/-! ### Reading the file -/

lemma mem_allLines {l : LogMessage × List Char} : l ∈ w.allLines ms ↔ l.1 ∈ ms ∧ l.2 ∈ w.linesOf l.1 := by
  obtain ⟨m, line⟩ := l
  simp [allLines]

lemma newline_not_mem_headed {l : LogMessage × List Char} (h : l ∈ w.allLines ms) : '\n' ∉ headed l := by
  obtain ⟨m, line⟩ := l
  have hline : '\n' ∉ line := not_mem_of_mem_splitOn (mem_allLines.1 h).2
  have hspeaker : '\n' ∉ LogMessage.speaker m.player := by
    cases hplayer : m.player with
    | none => simp [LogMessage.speaker]
    | some name => simpa [LogMessage.speaker] using m.newline_not_mem_player name hplayer
  simp [headed, LogMessage.heading, m.newline_not_mem_time, hspeaker, hline]

lemma splitOn_allLines (w : WriterSettings) (ms : List LogMessage) :
    splitOn '\n' (((w.allLines ms).map headed).flatMap (· ++ ['\n'])) = (w.allLines ms).map headed ++ [[]] := by
  apply splitOn_flatMap_concat
  intro line hline
  obtain ⟨l, hl, rfl⟩ := List.mem_map.1 hline
  exact newline_not_mem_headed hl

lemma spoken_headed {l : LogMessage × List Char} (h : ']' ∉ l.1.time.toList) :
    LogMessage.spoken l.1.player (headed l) = l.2 := by
  have htime : ∀ c ∈ '[' :: l.1.time.toList, (c != ']') = true := by
    intro c hc
    obtain rfl | hc := List.mem_cons.1 hc
    · decide
    · rw [bne_iff_ne]
      rintro rfl
      exact h hc
  rw [LogMessage.spoken, headed, LogMessage.heading, List.append_assoc, List.append_assoc,
    List.dropWhile_append_of_pos htime]
  simp

lemma zipWith_map_append {α β γ δ : Type} {f : β → γ → δ} {a : α → β} {b : α → γ} {c : α → δ} {l : List α}
    (h : ∀ x ∈ l, f (a x) (b x) = c x) (rest : List γ) :
    List.zipWith f (l.map a) (l.map b ++ rest) = l.map c := by
  induction l with
  | nil => simp
  | cons x l ih =>
    obtain ⟨hx, hl⟩ := List.forall_mem_cons.1 h
    simp [hx, ih hl]

lemma map_snd_allLines (w : WriterSettings) (ms : List LogMessage) :
    (w.allLines ms).map (·.2) = ms.flatMap w.linesOf := by
  simp [allLines, List.map_flatMap, Function.comp_def]

/-- Messages that are written to a log file one after the other. Each one leaves what the file held and adds its lines,
each with its heading, so that cutting what was added at the line feeds gives just these. The lines of the messages
are read back from there by taking the headings away. If no time has a bracket in it, it is enough to know whose line
each one is; this much has to be known, since a line of no player may look like one of a player. -/
theorem lines_read_back (h : w.writeAll path d ms = some d') :
    (∀ earlier m later, ms = earlier ++ m :: later → ∃ before after,
      w.writeAll path d earlier = some before ∧ w.writeAll path before [m] = some after ∧
      w.writeAll path after later = some d' ∧
      w.held after path = w.held before path ++ (w.linesOf m).flatMap fun line => m.heading ++ line ++ ['\n']) ∧
    ∃ added, w.held d' path = w.held d path ++ added ∧
      splitOn '\n' added = (w.allLines ms).map headed ++ [[]] ∧
      List.zipWith (fun heading line => line.drop heading.length) ((w.allLines ms).map (·.1.heading))
        (splitOn '\n' added) = ms.flatMap w.linesOf ∧
      ((∀ m ∈ ms, ']' ∉ m.time.toList) →
        List.zipWith LogMessage.spoken ((w.allLines ms).map (·.1.player)) (splitOn '\n' added) =
          ms.flatMap w.linesOf) := by
  refine ⟨?_, _, held_of_writeAll h, splitOn_allLines w ms, ?_, fun htime => ?_⟩
  · rintro earlier m later rfl
    rw [writeAll_append] at h
    obtain ⟨before, hbefore, hrest⟩ := Option.bind_eq_some_iff.1 h
    rw [← List.singleton_append, writeAll_append] at hrest
    obtain ⟨after, hafter, hlater⟩ := Option.bind_eq_some_iff.1 hrest
    exact ⟨before, after, hbefore, hafter, hlater, held_of_writeAll_singleton hafter⟩
  · rw [splitOn_allLines, ← map_snd_allLines]
    apply zipWith_map_append
    intro l _
    exact List.drop_left
  · rw [splitOn_allLines, ← map_snd_allLines]
    apply zipWith_map_append
    intro l hl
    exact spoken_headed (htime l.1 (mem_allLines.1 hl).1)

/-- A line of a message that looks like one of another player has the heading of its own message before it. -/
theorem lines_read_back_of_forged_line :
    let w : WriterSettings := {}
    let ms : List LogMessage := [
      ⟨"1", some "steve", " §cfirst\n\n[2] alex: second\n", by decide, by decide⟩,
      ⟨"3", none, "third", by decide, by decide⟩]
    ∃ d', w.writeAll "logs/rules.txt" {} ms = some d' ∧
      splitOn '\n' (w.held d' "logs/rules.txt") = ["[1] steve: first", "[1] steve: ",
        "[1] steve: [2] alex: second", "[3] third", ""].map String.toList ∧
      List.zipWith LogMessage.spoken [some "steve", some "steve", some "steve", none]
        (splitOn '\n' (w.held d' "logs/rules.txt")) = ["first", "", "[2] alex: second", "third"].map String.toList := by
  intro w ms
  have hdone : (w.writeAll "logs/rules.txt" {} ms).isSome = true := by decide +kernel
  obtain ⟨d', hd'⟩ := Option.isSome_iff_exists.1 hdone
  obtain ⟨-, added, hheld, hcut, -, hspoken⟩ := lines_read_back hd'
  have hempty : w.held {} "logs/rules.txt" = [] := by simp [held]
  rw [hempty, List.nil_append] at hheld
  subst hheld
  refine ⟨d', hd', ?_, ?_⟩
  · exact hcut.trans (by decide +kernel)
  · exact (hspoken (by decide +kernel)).trans (by decide +kernel)

end WriterSettings

end Moderation
