import Moderation.Filter.Caps
import Moderation.Filter.Grammar
import Moderation.Filter.Spam

/-!
The filters together: a message that passed the rules has its capitals lowered and its grammar
corrected.
-/
namespace Moderation.Filter

structure Filters where
  spam : SpamFilter
  caps : CapsSettings
  grammar : GrammarSettings
deriving DecidableEq, Repr

/-- A message after the filters, and whether the player is told that capitals were lowered. -/
structure Polished where
  text : String
  warnCaps : Bool
deriving DecidableEq, Repr

namespace Filters

def ofSettings (library : Regex.Library) (s : FilterSettings) : Except Error Filters := do
  return ⟨← SpamFilter.ofSettings library s.spam, s.caps, s.grammar⟩

/-- A message with its capitals lowered, if that is asked for and changes it. -/
def lowered? (f : Filters) (message : String) (usernames : List String) (skipCaps : Bool) :
    Option String :=
  if skipCaps then none else f.caps.lowered? usernames message

def polish (f : Filters) (message : String) (usernames : List String) (skipCaps : Bool) :
    Polished :=
  let low := f.lowered? message usernames skipCaps
  ⟨.ofList (f.grammar.correct (low.getD message).toList), low.isSome && f.caps.warnPlayer⟩

def entries (f : Filters) (message : String) (usernames : List String) (skipCaps : Bool) :
    List LogEntry :=
  (f.lowered? message usernames skipCaps).toList.map (CapsSettings.entry message)

/-- A player who may write in capitals is not warned. -/
@[simp] theorem warnCaps_polish_skip (f : Filters) (message : String) (usernames : List String) :
    (f.polish message usernames true).warnCaps = false := rfl

end Filters

end Moderation.Filter
