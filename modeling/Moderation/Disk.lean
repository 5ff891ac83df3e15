import Moderation.Text.Basic

/-!
Files and folders, by the names on the way to them.
-/
namespace Moderation
open Moderation.Text

theorem lookup_filter_of_ne {α β : Type} [BEq α] [LawfulBEq α] {key other : α} (h : other ≠ key)
    (l : List (α × β)) : (l.filter (·.1 != key)).lookup other = l.lookup other := by
  induction l with
  | nil => rfl
  | cons e l ih =>
    by_cases he : e.1 = key
    · have hb : (other == e.1) = false := beq_false_of_ne (he ▸ h)
      rw [List.filter_cons_of_neg (by simp [he]), ih, List.lookup_cons, hb]
    · rw [List.filter_cons_of_pos (by simp [he]), List.lookup_cons, List.lookup_cons, ih]

/-- What stands at a path. -/
inductive DiskEntry
  | folder
  | file (text : String)
deriving DecidableEq, Repr

/-- Files and folders. `here` are the names on the way to the working folder, as far as it is known;
the folders on this way are always there. -/
structure Disk where
  entries : List (List String × DiskEntry) := []
  here : List String := []
deriving DecidableEq, Repr

namespace Disk

def find? (d : Disk) (path : List String) : Option DiskEntry :=
  if path.isPrefixOf d.here then some .folder else d.entries.lookup path

def put (d : Disk) (path : List String) (e : DiskEntry) : Disk :=
  { d with entries := (path, e) :: d.entries.filter (·.1 != path) }

/-- Where one more name leads: `/` back to the root, above which there is nothing, and `..` takes the
name before it back. -/
def goTo (names : List String) (name : String) : List String :=
  if name = "/" then ["/"]
  else if name = ".." ∧ names.getLast? = some "/" then names
  else if name = ".." ∧ names ≠ [] ∧ names.getLast? ≠ some ".." then names.dropLast
  else names ++ [name]

/-- The names in a path, without those that stay where they are. The name `/` stands for the root of
all files. -/
def writtenNames (path : String) : List String :=
  (if beginsWith "/" path then ["/"] else []) ++
    (parts '/' path).filter fun name => name != "" && name != "."

/-- The names on the way to where a path leads from a folder. -/
def namesOf (here : List String) (path : String) : List String := (writtenNames path).foldl goTo here

/-- Whether a path can only be that of a folder, by the way in which it ends. -/
def endsAsFolder (path : String) : Bool :=
  let last := (parts '/' path).getLastD ""
  last == "" || last == "." || last == ".."

/-- Whether a name has the character that no name has. -/
def isUnspeakable (name : String) : Bool := name.toList.contains '\x00'

def isTooLong (name : String) : Bool := 255 < name.utf8ByteSize

/-- Make the folders on a way, from the outermost one on, as far as no file stands there and the names
are short enough. A folder that the way leaves again is made as well. -/
def makeFolders (d : Disk) : (around names : List String) → Disk × Bool
  | _, [] => (d, true)
  | around, name :: names =>
    let path := goTo around name
    if isTooLong name then (d, false)
    else match d.find? path with
      | some .folder => d.makeFolders path names
      | some (.file _) => (d, false)
      | none => (d.put path .folder).makeFolders path names

/-- Make the folders with given names one within the other; `false` if that is not possible. -/
def makeWay (d : Disk) (names : List String) : Disk × Bool :=
  if names.any isUnspeakable then (d, false) else d.makeFolders d.here names

def makeFolder (d : Disk) (path : String) : Disk × Bool := d.makeWay (writtenNames path)

/-- Add text to the end of a file. The file and the folders around it are made if they are not there;
`false` if that is not possible. -/
def append (d : Disk) (path text : String) : Disk × Bool :=
  let (e, made) := d.makeWay (writtenNames path).dropLast
  let names := namesOf d.here path
  if !made || endsAsFolder path || isUnspeakable path || names.any isTooLong then (e, false)
  else match e.find? names with
    | some .folder => (e, false)
    | some (.file before) => (e.put names (.file (before ++ text)), true)
    | none => (e.put names (.file text), true)

/-- The files under a base folder, with their paths from there. -/
def files (d : Disk) (base : String) : List (String × String) :=
  let around := namesOf d.here base
  d.entries.filterMap fun (path, e) =>
    let names := path.drop around.length
    match e with
    | .file text =>
      if around.isPrefixOf path && !(["..", "/"].any (names.head? == some ·)) then
        some ("/".intercalate names, text)
      else none
    | .folder => none

@[simp] theorem here_put (d : Disk) (path : List String) (e : DiskEntry) :
    (d.put path e).here = d.here := rfl

@[simp] theorem find?_put {d : Disk} {path : List String} (h : ¬ path <+: d.here) (e : DiskEntry) :
    (d.put path e).find? path = some e := by
  simp [find?, put, h]

theorem find?_put_of_ne {d : Disk} {path other : List String} (h : other ≠ path) (e : DiskEntry) :
    (d.put path e).find? other = d.find? other := by
  have hb : (other == path) = false := beq_false_of_ne h
  simp only [find?, put, List.lookup_cons, hb, lookup_filter_of_ne h]

end Disk

end Moderation
