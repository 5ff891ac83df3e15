import Moderation.Category
import Moderation.Error
import Moderation.LogFile
import Moderation.Yaml.Record

/-!
Settings of the rule engine and how they are read from a document. What is not given has a default.
-/
namespace Moderation.Engine
open Moderation.Yaml

structure Toggles where
  chat : Bool := true
  commands : Bool := true
  signs : Bool := true
  packets : Bool := true
deriving DecidableEq, Repr

def Toggles.checks (t : Toggles) : EventKind → Bool
  | .chat => t.chat
  | .command => t.commands
  | .sign => t.signs

structure Settings where
  timeout : Nat := 100
  backtrackLimit : Nat := 1000000
  verbose : Bool := true
  debug : Bool := false
  silentStartup : Bool := true
  blockSigns : Bool := true
  toggles : Toggles := {}
  writer : WriterSettings := {}
deriving DecidableEq, Repr

def Toggles.ofNode? (n : Node) : Option Toggles := do
  let r ← n.record? ["check_chat", "check_commands", "check_signs", "check_packets"]
  return {
    chat := ← Node.field? r "check_chat" Node.boolean? true
    commands := ← Node.field? r "check_commands" Node.boolean? true
    signs := ← Node.field? r "check_signs" Node.boolean? true
    packets := ← Node.field? r "check_packets" Node.boolean? true }

def writerOfNode? (n : Node) : Option WriterSettings := do
  let r ← n.record? ["base_dir", "strip_colors"]
  let d : WriterSettings := {}
  return {
    base := ← Node.field? r "base_dir" Node.text? d.base
    stripColors := ← Node.field? r "strip_colors" Node.boolean? d.stripColors }

def Settings.ofNode? (n : Node) : Option Settings := do
  let r ← n.record? ["regex_timeout_ms", "regex_backtrack_limit", "verbose_rules", "debug",
    "silent_startup", "block_signs_on_violation", "rules", "writer"]
  let d : Settings := {}
  return {
    timeout := ← Node.field? r "regex_timeout_ms" Node.wide? d.timeout
    backtrackLimit := ← Node.field? r "regex_backtrack_limit" Node.wide? d.backtrackLimit
    verbose := ← Node.field? r "verbose_rules" Node.boolean? d.verbose
    debug := ← Node.field? r "debug" Node.boolean? d.debug
    silentStartup := ← Node.field? r "silent_startup" Node.boolean? d.silentStartup
    blockSigns := ← Node.field? r "block_signs_on_violation" Node.boolean? d.blockSigns
    toggles := ← Node.field? r "rules" Toggles.ofNode? {}
    writer := ← Node.field? r "writer" writerOfNode? {} }

/-- The settings that a document gives. The backtrack limit may not be zero. -/
def Settings.ofText (text : String) : Except Error Settings :=
  match (Node.ofText? text.toList).bind ofNode? with
  | none => .error .yaml
  | some s =>
    if s.backtrackLimit = 0 then
      .error (.config "regex_backtrack_limit must be greater than zero")
    else .ok s

theorem Settings.ofNode?_empty : ofNode? .empty = some {} := by
  simp [ofNode?]

/-- Settings that are read allow going back at least once. -/
theorem Settings.backtrackLimit_pos {text : String} {s : Settings} (h : ofText text = .ok s) :
    0 < s.backtrackLimit := by
  simp only [ofText] at h
  split at h
  · simp at h
  · split at h
    · simp at h
    · simp only [Except.ok.injEq] at h
      subst h
      omega

end Moderation.Engine
