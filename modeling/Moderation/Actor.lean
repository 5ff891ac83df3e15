import Moderation.Text.Basic

/-!
The players whose texts are checked, and what rules may ask about them.
-/
namespace Moderation

inductive GameMode
  | survival
  | creative
  | adventure
  | spectator
deriving DecidableEq, Repr

namespace GameMode

/-- The modes in the order of their numbers. -/
def all : List GameMode := [.survival, .creative, .adventure, .spectator]

def ofNumber? (n : Nat) : Option GameMode := all[n]?

def title : GameMode → String
  | .survival => "Survival"
  | .creative => "Creative"
  | .adventure => "Adventure"
  | .spectator => "Spectator"

def label : GameMode → String
  | .survival => "survival"
  | .creative => "creative"
  | .adventure => "adventure"
  | .spectator => "spectator"

/-- Decimal digits, after a plus sign if wanted, as a number that fits in eight bits. -/
def byte? (cs : List Char) : Option Nat :=
  let ds := match cs with
    | '+' :: r => r
    | r => r
  if ds.isEmpty || !ds.all Unicode.isAsciiDigit then none
  else
    let n := ds.foldl (fun n c => 10 * n + (c.toNat - '0'.toNat)) 0
    if n < 256 then some n else none

/-- The mode that a text means by number or by name. What is said about any other text comes as an
error. -/
def ofText (text : String) : Except String GameMode :=
  let text := Text.trimmed text
  match byte? text.toList with
  | some n =>
    match ofNumber? n with
    | some mode => .ok mode
    | none => .error ("unknown gamemode id " ++ toString n)
  | none =>
    let name := Text.upperCase text
    if name = "SURVIVAL" then .ok .survival
    else if name = "CREATIVE" then .ok .creative
    else if name = "ADVENTURE" then .ok .adventure
    else if name = "SPECTATOR" then .ok .spectator
    else .error ("unknown gamemode '" ++ text ++ "'")

end GameMode

structure Location where
  world : String
  x : Int
  y : Int
  z : Int
deriving DecidableEq, Repr

def Location.title (l : Location) : String :=
  l.world ++ " x:" ++ toString l.x ++ " y:" ++ toString l.y ++ " z:" ++ toString l.z

/-- A player. Permissions form a set. -/
structure Actor where
  name : String
  world : String
  mode : GameMode
  permissions : List String
  location : Option Location
deriving DecidableEq, Repr

namespace Actor

def holds (a : Actor) (permission : String) : Bool := a.permissions.contains permission

def grant (a : Actor) (permission : String) : Actor :=
  if a.holds permission then a else { a with permissions := permission :: a.permissions }

/-- The permissions of a player in the order of their characters, each once. -/
def sortedPermissions (a : Actor) : List String :=
  a.permissions.eraseDups.mergeSort fun p q => decide (p ≤ q)

@[simp] theorem holds_grant (a : Actor) (p q : String) :
    (a.grant p).holds q = (q == p || a.holds q) := by
  by_cases h : a.holds p
  · by_cases hq : q = p <;> simp_all [grant]
  · rw [grant, if_neg h]
    simp only [holds, List.contains_cons]

end Actor

end Moderation
