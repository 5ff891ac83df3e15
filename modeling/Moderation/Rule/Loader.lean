import Moderation.Engine.Settings
import Moderation.Rule.Defaults
import Moderation.Rule.Reader
import Moderation.Rule.Set

/-!
The folder of rules: handlers are loaded from it first and then the rules of each category. A file that
is missing is written with the defaults, or else counts as empty.
-/
namespace Moderation

/-- What has a name in a folder: a text, a file that is no text, or a folder. -/
inductive FolderEntry
  | text (text : String)
  | binary (size : Nat)
  | folder
deriving DecidableEq, Repr

/-- A folder by the names in it. -/
structure Folder where
  entries : List (String × FolderEntry) := []
deriving DecidableEq, Repr

namespace Folder

def find? (f : Folder) (name : String) : Option FolderEntry := f.entries.lookup name

def remove (f : Folder) (name : String) : Folder := ⟨f.entries.filter (·.1 != name)⟩

def put (f : Folder) (name : String) (e : FolderEntry) : Folder :=
  ⟨(name, e) :: (f.remove name).entries⟩

/-- The sizes of the files in bytes. -/
def sizes (f : Folder) : List (String × Nat) :=
  f.entries.filterMap fun (name, e) =>
    match e with
    | .text text => some (name, text.utf8ByteSize)
    | .binary size => some (name, size)
    | .folder => none

@[simp] theorem find?_put (f : Folder) (name : String) (e : FolderEntry) :
    (f.put name e).find? name = some e := by
  simp [find?, put]

theorem find?_put_of_ne {f : Folder} {name other : String} (h : other ≠ name) (e : FolderEntry) :
    (f.put name e).find? other = f.find? other := by
  have hb : (other == name) = false := beq_false_of_ne h
  simp only [find?, put, remove, List.lookup_cons, hb, lookup_filter_of_ne h]

end Folder

/-- How a folder is loaded: where it is, whether missing files are written, and what is logged. -/
structure Loader where
  path : String
  writeDefaults : Bool := true
  debug : Bool := false
  silentStartup : Bool := true
deriving DecidableEq, Repr

/-- The folder while it is loaded, and what was logged. -/
structure Shelf where
  folder : Folder
  log : List LogEntry := []
deriving DecidableEq, Repr

/-- A step of loading. What it did to the folder stays even if it fails. -/
abbrev Load := ExceptT LoadError (StateM Shelf)

namespace Loader

def handlersFile : String := "handlers.yml"

def say (entries : List LogEntry) : Load Unit :=
  modify fun s => { s with log := s.log ++ entries }

/-- A loader with the switches of the settings. -/
def ofSettings (path : String) (s : Engine.Settings) : Loader :=
  { path, debug := s.debug, silentStartup := s.silentStartup }

def refuse {α : Type} (e : LoadError) : Load α := throw e

/-- The text of a file, or none if it is missing and is not to be written. -/
def read (l : Loader) (name default : String) : Load (Option String) := do
  let file := ("file", l.path ++ "/" ++ name)
  match (← get).folder.find? name with
  | some (.text text) => return some text
  | some _ => refuse (.io name)
  | none =>
    if l.writeDefaults then
      modify fun s => { s with folder := s.folder.put name (.text default) }
      say [⟨.info, "Created default rule file", [file]⟩]
      return some default
    else
      say [⟨.debug, "Rule file missing, treating as empty", [file]⟩]
      return none

def loadHandlers (l : Loader) : Load Registry := do
  match ← l.read handlersFile Defaults.handlers with
  | some text => liftExcept (Registry.ofText handlersFile text)
  | none => return {}
where
  /-- A result as a step. -/
  liftExcept {α : Type} : Except LoadError α → Load α
    | .ok a => return a
    | .error e => refuse e

def loadCategory (l : Loader) (handlers : Registry) (c : Category) : Load (List Rule) := do
  match ← l.read c.fileName (Defaults.rules c) with
  | some text =>
    say (readNotices c handlers text)
    match readRules c handlers text with
    | .ok rules => return rules
    | .error e => refuse e
  | none => return []

def loadCategories (l : Loader) (handlers : Registry) : List Category → RuleSet → Load RuleSet
  | [], set => return set
  | c :: cs, set => do
    let rules ← l.loadCategory handlers c
    match set.insert c rules with
    | .ok set => l.loadCategories handlers cs set
    | .error e => refuse e

/-- What is logged about rules that were loaded. -/
def report (l : Loader) (set : RuleSet) : List LogEntry :=
  (if l.debug then
    Category.all.flatMap fun c =>
      ⟨.info, "Displaying rules from: " ++ c.fileName, []⟩ ::
        (set.get c).map fun r => ⟨.info, "Loaded rule:\n" ++ r.describe, []⟩
  else []) ++
  if l.silentStartup then []
  else set.counts.map fun (c, n) =>
    ⟨.info, "Loaded " ++ toString n ++ " rules in " ++ c.fileName, []⟩

def load (l : Loader) : Load RuleSet := do
  let handlers ← l.loadHandlers
  let set ← l.loadCategories handlers Category.all {}
  say (l.report set)
  return set

end Loader

end Moderation
