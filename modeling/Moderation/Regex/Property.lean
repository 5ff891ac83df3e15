import Moderation.Regex.CharSet
import Moderation.Unicode.Script

/-!
Named properties in patterns: general categories, scripts and a few binary properties. Names are
compared without case, blanks, hyphens and underscores, and without a leading `is`.
-/
namespace Moderation.Regex
open Moderation.Unicode

/-- A name without what does not count in it. -/
def normalName (cs : List Char) : String :=
  let dropIs := match cs with
    | i :: s :: r => if i.toLower = 'i' ∧ s.toLower = 's' then r else cs
    | _ => cs
  .ofList ((dropIs.filter fun c => c.toNat < 128 && !" _-".toList.contains c).map Char.toLower)

def categoryTables : List (List String × List Span) :=
  [(["lu", "uppercaseletter"], General.uppercaseLetter),
   (["ll", "lowercaseletter"], General.lowercaseLetter),
   (["lt", "titlecaseletter"], General.titlecaseLetter),
   (["lm", "modifierletter"], General.modifierLetter),
   (["lo", "otherletter"], General.otherLetter),
   (["mn", "nonspacingmark"], General.nonspacingMark),
   (["mc", "spacingmark"], General.spacingMark),
   (["me", "enclosingmark"], General.enclosingMark),
   (["nd", "decimalnumber", "digit"], General.decimalNumber),
   (["nl", "letternumber"], General.letterNumber),
   (["no", "othernumber"], General.otherNumber),
   (["pc", "connectorpunctuation"], General.connectorPunctuation),
   (["pd", "dashpunctuation"], General.dashPunctuation),
   (["ps", "openpunctuation"], General.openPunctuation),
   (["pe", "closepunctuation"], General.closePunctuation),
   (["pi", "initialpunctuation"], General.initialPunctuation),
   (["pf", "finalpunctuation"], General.finalPunctuation),
   (["po", "otherpunctuation"], General.otherPunctuation),
   (["sm", "mathsymbol"], General.mathSymbol),
   (["sc", "currencysymbol"], General.currencySymbol),
   (["sk", "modifiersymbol"], General.modifierSymbol),
   (["so", "othersymbol"], General.otherSymbol),
   (["zs", "spaceseparator"], General.spaceSeparator),
   (["zl", "lineseparator"], General.lineSeparator),
   (["zp", "paragraphseparator"], General.paragraphSeparator),
   (["cc", "control", "cntrl"], General.control),
   (["cf", "format"], General.format),
   (["co", "privateuse"], General.privateUse),
   (["cn", "unassigned"], General.unassigned)]

def categoryGroups : List (List String × List String) :=
  [(["l", "letter"], ["lu", "ll", "lt", "lm", "lo"]),
   (["lc", "casedletter"], ["lu", "ll", "lt"]),
   (["m", "mark", "combiningmark"], ["mn", "mc", "me"]),
   (["n", "number"], ["nd", "nl", "no"]),
   (["p", "punctuation", "punct"], ["pc", "pd", "ps", "pe", "pi", "pf", "po"]),
   (["s", "symbol"], ["sm", "sc", "sk", "so"]),
   (["z", "separator"], ["zs", "zl", "zp"]),
   (["c", "other"], ["cc", "cf", "co", "cn"])]

def namedEntry {α : Type} (table : List (List String × α)) (name : String) : Option α :=
  (table.find? fun e => e.1.contains name).map (·.2)

def category? (name : String) : Option CharSet :=
  if name = "any" then some .all
  else if name = "ascii" then some (.range 0 127)
  else if name = "assigned" then some (.complement (.spans General.unassigned))
  else match namedEntry categoryTables name with
    | some t => some (.spans t)
    | none =>
      (namedEntry categoryGroups name).map fun parts =>
        CharSet.unionAll (parts.filterMap fun p => (namedEntry categoryTables p).map .spans)

def script? (name : String) : Option CharSet :=
  (scripts.find? fun s => s.names.contains name).map fun s => .spans (Span.readAll s.spans)

def binary? (name : String) : Option CharSet :=
  namedEntry
    [(["alphabetic", "alpha"], .spans Property.alphabetic),
     (["uppercase", "upper"], .spans Property.uppercase),
     (["lowercase", "lower"], .spans Property.lowercase),
     (["whitespace", "wspace", "space"], .blank),
     (["cased"], .spans Property.cased),
     (["caseignorable", "ci"], .spans Property.caseIgnorable),
     (["emoji"], .spans Property.emoji)] name

def property? (cs : List Char) : Option CharSet :=
  let name := normalName cs
  binary? name <|> category? name <|> script? name

def propertyValue? (kind value : List Char) : Option CharSet :=
  let kind := normalName kind
  let value := normalName value
  if kind = "generalcategory" ∨ kind = "gc" then category? value
  else if kind = "script" ∨ kind = "sc" then script? value
  else none

end Moderation.Regex
