import Moderation.LoadError
import Moderation.Rule.Basic

/-!
The rules of all categories. A category is put in at most once, and one that is not there has no
rules.
-/
namespace Moderation

structure RuleSet where
  entries : List (Category × List Rule) := []
deriving DecidableEq, Repr

namespace RuleSet

def contains (s : RuleSet) (c : Category) : Bool := (s.entries.lookup c).isSome

/-- The rules of a category in the order of its file. -/
def get (s : RuleSet) (c : Category) : List Rule := (s.entries.lookup c).getD []

def insert (s : RuleSet) (c : Category) (rules : List Rule) : Except LoadError RuleSet :=
  if s.contains c then .error (.duplicateCategory c.fileName)
  else .ok ⟨(c, rules) :: s.entries⟩

/-- The numbers of rules of the categories that are there, in the order of loading. -/
def counts (s : RuleSet) : List (Category × Nat) :=
  Category.all.filterMap fun c => (s.entries.lookup c).map fun rules => (c, rules.length)

def size (s : RuleSet) : Nat := s.counts.foldl (fun n c => n + c.2) 0

def isEmpty (s : RuleSet) : Bool := s.size == 0

@[simp] theorem get_empty (c : Category) : ({} : RuleSet).get c = [] := rfl
@[simp] theorem contains_empty (c : Category) : ({} : RuleSet).contains c = false := rfl

theorem get_insert {s t : RuleSet} {c : Category} {rules : List Rule}
    (h : s.insert c rules = .ok t) (d : Category) :
    t.get d = if d = c then rules else s.get d := by
  simp only [insert] at h
  split at h
  · simp at h
  · simp only [Except.ok.injEq] at h
    subst h
    by_cases hd : d = c
    · simp [get, hd]
    · have : (d == c) = false := by simpa using hd
      simp [get, List.lookup_cons, hd, this]

/-- Putting in a category makes that one present and no other. -/
theorem contains_insert {s t : RuleSet} {c : Category} {rules : List Rule}
    (h : s.insert c rules = .ok t) (d : Category) :
    t.contains d = (d == c || s.contains d) := by
  simp only [insert] at h
  split at h
  · simp at h
  · simp only [Except.ok.injEq] at h
    subst h
    cases hd : d == c <;> simp [contains, List.lookup_cons, hd]

end RuleSet

end Moderation
