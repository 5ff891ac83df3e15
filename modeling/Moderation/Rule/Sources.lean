import Moderation.Rule.Reader
import Moderation.Rule.Set

/-!
The rules of several categories, read from the texts of their files.
-/
namespace Moderation.RuleSet

/-- A set with the rules of the categories that have a text, read one after the other, and what is
logged about them. The first category that cannot be read ends the reading. -/
def readInto (handlers : Registry) (source : Category → Option String) :
    RuleSet → List Category → List LogEntry × Except LoadError RuleSet
  | set, [] => ([], .ok set)
  | set, c :: cs =>
    match source c with
    | none => set.readInto handlers source cs
    | some text =>
      let notices := readNotices c handlers text
      match (readRules c handlers text).bind (set.insert c) with
      | .error e => (notices, .error e)
      | .ok set =>
        let (more, result) := set.readInto handlers source cs
        (notices ++ more, result)

/-- The rules of the categories that have a text, in the order of loading. -/
def ofSources (handlers : Registry) (source : Category → Option String) :
    List LogEntry × Except LoadError RuleSet :=
  readInto handlers source {} Category.all

@[simp] theorem ofSources_none (handlers : Registry) :
    ofSources handlers (fun _ => none) = ([], .ok {}) := rfl

end Moderation.RuleSet
