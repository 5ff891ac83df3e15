import Mathlib.Data.List.Forall2
import Mathlib.Tactic.Lemma
import Moderation.Rule.Written

/-!
The forms of directives, one by one, and the ways in which a line has none of them. A line is read
as the directive whose form it has, in whatever order the forms are tried: the words of no form are
the beginning of those of another.
-/
namespace Moderation.Directive
open Moderation.Text

/-! ### Tables of forms -/

/-- None of the words of a list are the beginning of others. -/
def Apart (words : List String) : Prop :=
  words.Pairwise fun a b => ¬a.toList <+: b.toList ∧ ¬b.toList <+: a.toList

instance : DecidablePred Apart := fun _ => inferInstanceAs (Decidable (List.Pairwise _ _))

section Table

variable {readers : List (String × (String → Except Refusal Directive))}
  {bare : List (String × Directive)} {text : String} {d : Directive} {e : Refusal}

lemma readAfter_cons (words : String) (read : String → Except Refusal Directive) (text : String) :
    readAfter ((words, read) :: readers) text =
      match after words text with
      | some arg => read arg
      | none => readAfter readers text := by
  simp only [readAfter, List.findSome?_cons]
  cases after words text <;> rfl

/-- Words that are apart from those of a text do not begin the text. -/
lemma after_append_of_apart {a b : String} (h : ¬a.toList <+: b.toList ∧ ¬b.toList <+: a.toList)
    (arg : String) : after a (b ++ arg) = none := by
  rw [after_eq_none_iff]
  intro rest hr
  have hl : b.toList ++ arg.toList = a.toList ++ rest.toList := by
    simpa using congrArg String.toList hr
  rcases List.append_eq_append_iff.1 hl with ⟨c, hc, -⟩ | ⟨c, hc, -⟩
  · exact h.2 ⟨c, hc.symm⟩
  · exact h.1 ⟨c, hc.symm⟩

lemma readAfter_append (h : Apart (readers.map (·.1))) {words : String}
    {read : String → Except Refusal Directive} (hm : (words, read) ∈ readers) (arg : String) :
    readAfter readers (words ++ arg) = read arg := by
  induction readers with
  | nil => simp at hm
  | cons q qs ih =>
    obtain ⟨hq, hqs⟩ := List.pairwise_cons.1 h
    rw [readAfter_cons]
    rcases List.mem_cons.1 hm with rfl | hm
    · rw [after_eq_some_iff.2 rfl]
    · rw [after_append_of_apart (hq words (List.mem_map_of_mem (f := (·.1)) hm))]
      exact ih hqs hm

lemma readAfter_of_no_words (h : ∀ w ∈ readers.map (·.1), ∀ arg, text ≠ w ++ arg) :
    readAfter readers text = .error .unknown := by
  induction readers with
  | nil => rfl
  | cons q qs ih =>
    rw [readAfter_cons, after_eq_none_iff.2 (h q.1 List.mem_cons_self)]
    exact ih fun w hw => h w (List.mem_cons_of_mem q.1 hw)

/-- A text begins with words of a table and is read by what stands beside them, or it is unknown. -/
lemma readAfter_cases (h : Apart (readers.map (·.1))) (text : String) :
    (∃ words read arg, (words, read) ∈ readers ∧ text = words ++ arg ∧
      readAfter readers text = read arg) ∨
    ((∀ w ∈ readers.map (·.1), ∀ arg, text ≠ w ++ arg) ∧
      readAfter readers text = .error .unknown) := by
  by_cases hw : ∃ w ∈ readers.map (·.1), ∃ arg, text = w ++ arg
  · obtain ⟨w, hw, arg, rfl⟩ := hw
    obtain ⟨⟨words, read⟩, hm, rfl⟩ := List.mem_map.1 hw
    exact Or.inl ⟨words, read, arg, hm, rfl, readAfter_append h hm arg⟩
  · have hn : ∀ w ∈ readers.map (·.1), ∀ arg, text ≠ w ++ arg :=
      fun w hm arg ht => hw ⟨w, hm, arg, ht⟩
    exact Or.inr ⟨hn, readAfter_of_no_words hn⟩

lemma readAfter_eq_ok_iff (h : Apart (readers.map (·.1))) :
    readAfter readers text = .ok d ↔
      ∃ words read arg, (words, read) ∈ readers ∧ text = words ++ arg ∧ read arg = .ok d := by
  constructor
  · intro hd
    rcases readAfter_cases h text with ⟨words, read, arg, hm, ht, hr⟩ | ⟨-, hr⟩
    · exact ⟨words, read, arg, hm, ht, hr.symm.trans hd⟩
    · simp [hr] at hd
  · rintro ⟨words, read, arg, hm, rfl, hr⟩
    rw [readAfter_append h hm, hr]

lemma readAfter_eq_error_iff (h : Apart (readers.map (·.1))) :
    readAfter readers text = .error e ↔
      (∃ words read arg, (words, read) ∈ readers ∧ text = words ++ arg ∧ read arg = .error e) ∨
        e = .unknown ∧ ∀ w ∈ readers.map (·.1), ∀ arg, text ≠ w ++ arg := by
  constructor
  · intro he
    rcases readAfter_cases h text with ⟨words, read, arg, hm, ht, hr⟩ | ⟨hn, hr⟩
    · exact Or.inl ⟨words, read, arg, hm, ht, hr.symm.trans he⟩
    · exact Or.inr ⟨Except.error.inj (he.symm.trans hr), hn⟩
  · rintro (⟨words, read, arg, hm, rfl, hr⟩ | ⟨rfl, hn⟩)
    · rw [readAfter_append h hm, hr]
    · exact readAfter_of_no_words hn

/-- A text read by forms without and with an argument. -/
def readTable (bare : List (String × Directive))
    (readers : List (String × (String → Except Refusal Directive))) (text : String) :
    Except Refusal Directive :=
  match bare.lookup text with
  | some d => .ok d
  | none => readAfter readers text

/-- The words of a table mean one thing each. -/
structure Unambiguous (bare : List (String × Directive))
    (readers : List (String × (String → Except Refusal Directive))) : Prop where
  apart : Apart (readers.map (·.1))
  nodup : (bare.map (·.1)).Nodup
  bare_apart : ∀ w ∈ bare.map (·.1), ∀ v ∈ readers.map (·.1), after v w = none

lemma lookup_eq_some_iff_mem (h : (bare.map (·.1)).Nodup) :
    bare.lookup text = some d ↔ (text, d) ∈ bare := by
  induction bare with
  | nil => simp
  | cons p ps ih =>
    obtain ⟨hp, hps⟩ := List.nodup_cons.1 h
    rw [List.lookup_cons]
    by_cases ht : text = p.1
    · subst ht
      have hn : ∀ x, (p.1, x) ∉ ps := fun x hx => hp (List.mem_map.2 ⟨_, hx, rfl⟩)
      simp [hn, Prod.ext_iff, eq_comm]
    · have hb : (text == p.1) = false := by simpa using ht
      simp [hb, ih hps, Prod.ext_iff, ht]

lemma readTable_eq_ok_iff (h : Unambiguous bare readers) :
    readTable bare readers text = .ok d ↔
      (text, d) ∈ bare ∨
        ∃ words read arg, (words, read) ∈ readers ∧ text = words ++ arg ∧ read arg = .ok d := by
  rw [readTable, ← lookup_eq_some_iff_mem h.nodup, ← readAfter_eq_ok_iff h.apart]
  cases hl : bare.lookup text with
  | none => simp
  | some x =>
    have hm := List.mem_map_of_mem (f := (·.1)) ((lookup_eq_some_iff_mem h.nodup).1 hl)
    have hr : readAfter readers text = .error .unknown :=
      readAfter_of_no_words fun w hw => after_eq_none_iff.1 (h.bare_apart _ hm w hw)
    simp [hr]

lemma readTable_eq_error_iff (h : Unambiguous bare readers) :
    readTable bare readers text = .error e ↔
      (∃ words read arg, (words, read) ∈ readers ∧ text = words ++ arg ∧ read arg = .error e) ∨
        e = .unknown ∧ text ∉ bare.map (·.1) ∧ ∀ w ∈ readers.map (·.1), ∀ arg, text ≠ w ++ arg := by
  rw [readTable]
  cases hl : bare.lookup text with
  | none =>
    have hn : text ∉ bare.map (·.1) := by
      intro hm
      obtain ⟨⟨w, x⟩, hx, rfl⟩ := List.mem_map.1 hm
      simp [(lookup_eq_some_iff_mem h.nodup).2 hx] at hl
    simp only [readAfter_eq_error_iff h.apart, hn, not_false_eq_true, true_and]
  | some x =>
    have hm := List.mem_map_of_mem (f := (·.1)) ((lookup_eq_some_iff_mem h.nodup).1 hl)
    have ha : ∀ w ∈ readers.map (·.1), ∀ arg, text ≠ w ++ arg :=
      fun w hw => after_eq_none_iff.1 (h.bare_apart _ hm w hw)
    simp only [reduceCtorEq, false_iff, not_or, not_and]
    refine ⟨?_, fun _ hb => absurd hm hb⟩
    rintro ⟨words, read, arg, hw, ht, -⟩
    exact ha words (List.mem_map_of_mem (f := (·.1)) hw) arg ht

end Table

/-! ### Arguments -/

section Arguments

variable {c : Category} {handlers : Registry} {s text : String} {d : Directive} {e : Refusal}

lemma mapM_eq_ok_iff {α β ε : Type} {f : α → Except ε β} {l : List α} {r : List β} :
    l.mapM f = .ok r ↔ List.Forall₂ (fun a b => f a = .ok b) l r := by
  induction l generalizing r with
  | nil => cases r <;> simp [pure, Except.pure]
  | cons a l ih =>
    rw [List.mapM_cons, List.forall₂_cons_left_iff]
    cases ha : f a with
    | error e => simp [bind, Except.bind]
    | ok b =>
      cases hl : l.mapM f with
      | error e =>
        have hn : ∀ r, ¬List.Forall₂ (fun a b => f a = .ok b) l r := fun r hr => by
          simp [ih.2 hr] at hl
        simp [bind, Except.bind, hn]
      | ok bs =>
        have hb : ∀ r, List.Forall₂ (fun a b => f a = .ok b) l r ↔ r = bs := fun r => by
          rw [← ih, hl, Except.ok.injEq, eq_comm]
        simp [bind, Except.bind, pure, Except.pure, hb, eq_comm]

lemma mapM_eq_error_iff {α β ε : Type} {f : α → Except ε β} {l : List α} {e : ε} :
    l.mapM f = .error e ↔ ∃ before a after, l = before ++ a :: after ∧
      (∀ x ∈ before, ∃ b, f x = .ok b) ∧ f a = .error e := by
  induction l with
  | nil => simp [pure, Except.pure]
  | cons y l ih =>
    rw [List.mapM_cons]
    simp only [List.cons_eq_append_iff]
    cases hy : f y with
    | error e' =>
      simp only [bind, Except.bind, Except.error.injEq]
      constructor
      · rintro rfl
        exact ⟨[], y, l, Or.inl ⟨rfl, rfl⟩, by simp, hy⟩
      · rintro ⟨before, a, after, ⟨rfl, h⟩ | ⟨tail, rfl, -⟩, hb, ha⟩
        · obtain ⟨rfl, -⟩ := List.cons.inj h
          exact Except.error.inj (hy.symm.trans ha)
        · obtain ⟨b, hb⟩ := hb y List.mem_cons_self
          simp [hy] at hb
    | ok b =>
      have hl : (do let bs ← l.mapM f; return b :: bs : Except ε (List β)) = .error e ↔
          l.mapM f = .error e := by
        cases l.mapM f <;> simp [bind, Except.bind, pure, Except.pure]
      refine hl.trans (ih.trans ?_)
      constructor
      · rintro ⟨before, a, after, rfl, hb, ha⟩
        refine ⟨y :: before, a, after, Or.inr ⟨before, rfl, rfl⟩, ?_, ha⟩
        rintro x (_ | ⟨_, hx⟩)
        · exact ⟨b, hy⟩
        · exact hb x hx
      · rintro ⟨before, a, after, ⟨rfl, h⟩ | ⟨tail, rfl, h⟩, hb, ha⟩
        · obtain ⟨rfl, -⟩ := List.cons.inj h
          simp [hy] at ha
        · exact ⟨tail, a, after, h, fun x hx => hb x (List.mem_cons_of_mem y hx), ha⟩

lemma twoWords?_eq_some_iff {a b : String} :
    twoWords? s = some (a, b) ↔ s = a ++ " " ++ b ∧ ' ' ∉ a.toList ∧ a ≠ "" ∧ b ≠ "" := by
  simp only [twoWords?, Option.filter_eq_some_iff, cutAtSpace_eq_some_iff, Bool.and_eq_true,
    bne_iff_ne, and_assoc]

lemma twoWords?_eq_none_iff :
    twoWords? s = none ↔ ∀ a b, ' ' ∉ a.toList → a ≠ "" → b ≠ "" → s ≠ a ++ " " ++ b := by
  rw [Option.eq_none_iff_forall_ne_some]
  simp only [ne_eq, Prod.forall, twoWords?_eq_some_iff]
  grind

lemma amount?_eq_some_iff {x : Binary64} :
    amount? s = some x ↔ Binary64.ofText? (trim s.toList) = some x ∧ x.isFiniteNonNegative = true := by
  simp only [amount?, Option.filter_eq_some_iff]

lemma amount?_eq_none_iff :
    amount? s = none ↔ ∀ x, Binary64.ofText? (trim s.toList) = some x →
      x.isFiniteNonNegative = false := by
  simp only [amount?, Option.filter_eq_none_iff, Bool.not_eq_true]

lemma readReplaceBefore_eq_ok_iff : readReplaceBefore s = .ok d ↔
    ∃ p r, dropEmptyEnd (partsAround " with " s) = [p, r] ∧ d = .replaceBefore p r := by
  simp only [readReplaceBefore]
  split
  · rename_i p r h
    simp [h, eq_comm]
  · rename_i h
    simp only [reduceCtorEq, false_iff]
    rintro ⟨p, r, hp, -⟩
    exact h p r hp

lemma readReplaceBefore_eq_error_iff : readReplaceBefore s = .error e ↔
    (∀ p r, dropEmptyEnd (partsAround " with " s) ≠ [p, r]) ∧
      e = .malformed "expected 'before replace <regex> with <replacement>'" := by
  simp only [readReplaceBefore]
  split
  · rename_i p r h
    simp [h]
  · rename_i h
    exact ⟨fun he => ⟨h, (Except.error.inj he).symm⟩, fun he => by rw [he.2]⟩

lemma readIgnoreEvent_eq_ok_iff : readIgnoreEvent c s = .ok d ↔
    ∃ kind, EventKind.ofText? s = some kind ∧ c.eventKind? ≠ some kind ∧ d = .ignoreEvent kind := by
  simp only [readIgnoreEvent]
  cases EventKind.ofText? s with
  | none => simp
  | some kind => by_cases hk : c.eventKind? = some kind <;> simp [hk, eq_comm (a := d)]

lemma readIgnoreEvent_eq_error_iff : readIgnoreEvent c s = .error e ↔
    (EventKind.ofText? s = none ∧ e = .malformed (EventKind.unknownMessage s)) ∨
      ∃ kind, EventKind.ofText? s = some kind ∧ c.eventKind? = some kind ∧ e = .malformed
        ("rules in " ++ c.fileName ++ " always apply to " ++ kind.title ++ " events") := by
  simp only [readIgnoreEvent]
  cases EventKind.ofText? s with
  | none => simp [eq_comm]
  | some kind => by_cases hk : c.eventKind? = some kind <;> simp [hk, eq_comm (a := e)]

lemma readIgnoreModes_eq_ok_iff : readIgnoreModes s = .ok d ↔
    ∃ modes, List.Forall₂ (fun part mode => GameMode.ofText part = .ok mode) (alternatives s) modes ∧
      d = .ignoreModes modes := by
  simp only [readIgnoreModes, ← mapM_eq_ok_iff]
  cases (alternatives s).mapM GameMode.ofText <;> simp [eq_comm]

lemma readIgnoreModes_eq_error_iff : readIgnoreModes s = .error e ↔
    ∃ before part after reason, alternatives s = before ++ part :: after ∧
      (∀ x ∈ before, ∃ mode, GameMode.ofText x = .ok mode) ∧ GameMode.ofText part = .error reason ∧
      e = .malformed reason := by
  have h : readIgnoreModes s = .error e ↔
      ∃ reason, (alternatives s).mapM GameMode.ofText = .error reason ∧ e = .malformed reason := by
    simp only [readIgnoreModes]
    cases (alternatives s).mapM GameMode.ofText <;> simp [eq_comm]
  rw [h]
  constructor
  · rintro ⟨reason, hr, he⟩
    obtain ⟨before, part, after, hs, hb, hp⟩ := mapM_eq_error_iff.1 hr
    exact ⟨before, part, after, reason, hs, hb, hp, he⟩
  · rintro ⟨before, part, after, reason, hs, hb, hp, he⟩
    exact ⟨reason, mapM_eq_error_iff.2 ⟨before, part, after, hs, hb, hp⟩, he⟩

lemma readNotify_eq_ok_iff : readNotify s = .ok d ↔
    ∃ p m, twoWords? s = some (p, m) ∧ d = .notify p m := by
  simp only [readNotify]
  cases twoWords? s <;> simp [Prod.ext_iff, eq_comm]

lemma readNotify_eq_error_iff : readNotify s = .error e ↔
    twoWords? s = none ∧ e = .malformed "expected 'then notify <permission> <message>'" := by
  simp only [readNotify]
  cases twoWords? s <;> simp [eq_comm]

lemma readRewriteIn_eq_ok_iff : readRewriteIn s = .ok d ↔
    ∃ w m, twoWords? s = some (w, m) ∧ d = .packet (.rewriteIn w m) := by
  simp only [readRewriteIn]
  cases twoWords? s <;> simp [Prod.ext_iff, eq_comm]

lemma readRewriteIn_eq_error_iff : readRewriteIn s = .error e ↔
    twoWords? s = none ∧ e = .malformed
      "expected 'then rewritein <world> <message>', use 'none' as the message to hide it" := by
  simp only [readRewriteIn]
  cases twoWords? s <;> simp [eq_comm]

lemma readFine_eq_ok_iff : readFine s = .ok d ↔ ∃ x, amount? s = some x ∧ d = .fine x := by
  simp only [readFine]
  cases amount? s <;> simp [eq_comm]

lemma readFine_eq_error_iff : readFine s = .error e ↔
    amount? s = none ∧ e = .malformed "fine must be a non-negative number" := by
  simp only [readFine]
  cases amount? s <;> simp [eq_comm]

lemma readHandle_eq_ok_iff :
    readHandle handlers s = .ok d ↔ ∃ h, handlers.find? s = some h ∧ d = .handle h := by
  simp only [readHandle]
  cases handlers.find? s <;> simp [eq_comm]

lemma readHandle_eq_error_iff : readHandle handlers s = .error e ↔
    handlers.find? s = none ∧ e = .unknownHandler s := by
  simp only [readHandle]
  cases handlers.find? s <;> simp [eq_comm]

end Arguments

/-! ### Forms -/

/-- The words before the arguments of directives for the texts of players. -/
def argumentWords : List String :=
  ["strip ", "before strip ", "before replace ", "id ", "ignore string ", "ignore event ",
   "ignore perm ", "then rewrite ", "ignore gamemode ", "then replace ", "then console ",
   "then warn ", "then notify ", "then fine ", "then kick ", "handle as "]

/-- The words before the arguments of directives for outgoing texts. -/
def packetWords : List String := ["then replace ", "then rewrite ", "then rewritein "]

/-- A directive for the texts of players as it is written in the rules of a category. -/
inductive StandardForm (c : Category) (handlers : Registry) : String → Directive → Prop
  | deny : StandardForm c handlers "then deny" .deny
  | log : StandardForm c handlers "then log" .log
  | formerStrip (pattern : String) :
    StandardForm c handlers ("strip " ++ pattern) (.stripBefore pattern)
  | strip (pattern : String) :
    StandardForm c handlers ("before strip " ++ pattern) (.stripBefore pattern)
  | replaceBefore {s pattern replacement : String}
    (parts : dropEmptyEnd (partsAround " with " s) = [pattern, replacement]) :
    StandardForm c handlers ("before replace " ++ s) (.replaceBefore pattern replacement)
  | id (id : String) : StandardForm c handlers ("id " ++ id) (.id id)
  | ignoreString (pattern : String) :
    StandardForm c handlers ("ignore string " ++ pattern) (.ignoreMessage pattern)
  | ignoreEvent {s : String} {kind : EventKind} (known : EventKind.ofText? s = some kind)
    (other : c.eventKind? ≠ some kind) :
    StandardForm c handlers ("ignore event " ++ s) (.ignoreEvent kind)
  | ignorePerm (permission : String) :
    StandardForm c handlers ("ignore perm " ++ permission) (.bypass permission)
  | ignoreModes {s : String} {modes : List GameMode}
    (known : List.Forall₂ (fun part mode => GameMode.ofText part = .ok mode) (alternatives s) modes) :
    StandardForm c handlers ("ignore gamemode " ++ s) (.ignoreModes modes)
  | rewrite (s : String) :
    StandardForm c handlers ("then rewrite " ++ s) (.rewrite (alternatives s))
  | replace (s : String) :
    StandardForm c handlers ("then replace " ++ s) (.replace (alternatives s))
  | erase : StandardForm c handlers "then replace" (.replace [""])
  | console (s : String) :
    StandardForm c handlers ("then console " ++ s) (.run (alternatives s))
  | warn (message : String) :
    StandardForm c handlers ("then warn " ++ message) (.warn message)
  | notify {permission message : String} (oneWord : ' ' ∉ permission.toList)
    (givenPermission : permission ≠ "") (givenMessage : message ≠ "") :
    StandardForm c handlers ("then notify " ++ (permission ++ " " ++ message))
      (.notify permission message)
  | fine {s : String} {amount : Binary64} (number : Binary64.ofText? (trim s.toList) = some amount)
    (nonNegative : amount.isFiniteNonNegative = true) :
    StandardForm c handlers ("then fine " ++ s) (.fine amount)
  | kick (message : String) : StandardForm c handlers ("then kick " ++ message) (.kick message)
  | kickSilently : StandardForm c handlers "then kick" (.kick "")
  | handle {name : String} {h : Handler} (known : handlers.find? name = some h) :
    StandardForm c handlers ("handle as " ++ name) (.handle h)

/-- A directive for outgoing texts as it is written. -/
inductive PacketForm : String → Directive → Prop
  | deny : PacketForm "then deny" (.packet .deny)
  | quiet : PacketForm "dont verbose" (.packet .quiet)
  | replace (s : String) : PacketForm ("then replace " ++ s) (.packet (.replace s))
  | rewrite (s : String) : PacketForm ("then rewrite " ++ s) (.packet (.rewrite s))
  | rewriteIn {world message : String} (oneWord : ' ' ∉ world.toList) (givenWorld : world ≠ "")
    (givenMessage : message ≠ "") :
    PacketForm ("then rewritein " ++ (world ++ " " ++ message)) (.packet (.rewriteIn world message))

/-- Why a line is no directive for the texts of players. -/
inductive StandardRefusal (c : Category) (handlers : Registry) : String → Refusal → Prop
  | replaceBefore {s : String}
    (parts : ∀ pattern replacement, dropEmptyEnd (partsAround " with " s) ≠ [pattern, replacement]) :
    StandardRefusal c handlers ("before replace " ++ s)
      (.malformed "expected 'before replace <regex> with <replacement>'")
  | unknownEvent {s : String} (unknown : EventKind.ofText? s = none) :
    StandardRefusal c handlers ("ignore event " ++ s) (.malformed (EventKind.unknownMessage s))
  | ownEvent {s : String} {kind : EventKind} (known : EventKind.ofText? s = some kind)
    (own : c.eventKind? = some kind) :
    StandardRefusal c handlers ("ignore event " ++ s)
      (.malformed ("rules in " ++ c.fileName ++ " always apply to " ++ kind.title ++ " events"))
  | unknownMode {s part reason : String} {before after : List String}
    (parts : alternatives s = before ++ part :: after)
    (known : ∀ x ∈ before, ∃ mode, GameMode.ofText x = .ok mode)
    (unknown : GameMode.ofText part = .error reason) :
    StandardRefusal c handlers ("ignore gamemode " ++ s) (.malformed reason)
  | notify {s : String} (missing : ∀ permission message, ' ' ∉ permission.toList →
      permission ≠ "" → message ≠ "" → s ≠ permission ++ " " ++ message) :
    StandardRefusal c handlers ("then notify " ++ s)
      (.malformed "expected 'then notify <permission> <message>'")
  | fine {s : String} (noAmount : ∀ amount, Binary64.ofText? (trim s.toList) = some amount →
      amount.isFiniteNonNegative = false) :
    StandardRefusal c handlers ("then fine " ++ s) (.malformed "fine must be a non-negative number")
  | handle {name : String} (unknown : handlers.find? name = none) :
    StandardRefusal c handlers ("handle as " ++ name) (.unknownHandler name)
  | unknown {text : String} (bare : text ∉ ["then deny", "then log", "then replace", "then kick"])
    (words : ∀ w ∈ argumentWords, ∀ s, text ≠ w ++ s) : StandardRefusal c handlers text .unknown

/-- Why a line is no directive for outgoing texts. -/
inductive PacketRefusal : String → Refusal → Prop
  | rewriteIn {s : String} (missing : ∀ world message, ' ' ∉ world.toList →
      world ≠ "" → message ≠ "" → s ≠ world ++ " " ++ message) :
    PacketRefusal ("then rewritein " ++ s) (.malformed
      "expected 'then rewritein <world> <message>', use 'none' as the message to hide it")
  | unknown {text : String} (bare : text ∉ ["then deny", "dont verbose"])
    (words : ∀ w ∈ packetWords, ∀ s, text ≠ w ++ s) : PacketRefusal text .unknown

/-! ### Reading finds the form -/

section Reading

variable {c : Category} {handlers : Registry} {text : String} {d : Directive} {e : Refusal}

lemma map_fst_withArgument (c : Category) (handlers : Registry) :
    (withArgument c handlers).map (·.1) = argumentWords := rfl

lemma unambiguous_withArgument (c : Category) (handlers : Registry) :
    Unambiguous bare (withArgument c handlers) where
  apart := by rw [map_fst_withArgument]; decide
  nodup := by decide
  bare_apart := by rw [map_fst_withArgument]; decide

/-- A line is read as a directive exactly if it has the form of one. -/
theorem ofText_eq_ok_iff : ofText c handlers text = .ok d ↔ StandardForm c handlers text d := by
  rw [show ofText c handlers text = readTable bare (withArgument c handlers) text from rfl,
    readTable_eq_ok_iff (unambiguous_withArgument c handlers)]
  constructor
  · rintro (hb | ⟨words, read, arg, hm, rfl, hr⟩)
    · simp only [bare, List.mem_cons, Prod.mk.injEq, List.not_mem_nil, or_false] at hb
      rcases hb with ⟨rfl, rfl⟩ | ⟨rfl, rfl⟩ | ⟨rfl, rfl⟩ | ⟨rfl, rfl⟩
      · exact .deny
      · exact .log
      · exact .erase
      · exact .kickSilently
    · simp only [withArgument, List.mem_cons, Prod.mk.injEq, List.not_mem_nil, or_false] at hm
      rcases hm with ⟨rfl, rfl⟩ | ⟨rfl, rfl⟩ | ⟨rfl, rfl⟩ | ⟨rfl, rfl⟩ | ⟨rfl, rfl⟩ | ⟨rfl, rfl⟩ |
        ⟨rfl, rfl⟩ | ⟨rfl, rfl⟩ | ⟨rfl, rfl⟩ | ⟨rfl, rfl⟩ | ⟨rfl, rfl⟩ | ⟨rfl, rfl⟩ | ⟨rfl, rfl⟩ |
        ⟨rfl, rfl⟩ | ⟨rfl, rfl⟩ | ⟨rfl, rfl⟩
      · cases hr; exact .formerStrip arg
      · cases hr; exact .strip arg
      · obtain ⟨p, r, hs, rfl⟩ := readReplaceBefore_eq_ok_iff.1 hr
        exact .replaceBefore hs
      · cases hr; exact .id arg
      · cases hr; exact .ignoreString arg
      · obtain ⟨kind, hs, hk, rfl⟩ := readIgnoreEvent_eq_ok_iff.1 hr
        exact .ignoreEvent hs hk
      · cases hr; exact .ignorePerm arg
      · cases hr; exact .rewrite arg
      · obtain ⟨modes, hs, rfl⟩ := readIgnoreModes_eq_ok_iff.1 hr
        exact .ignoreModes hs
      · cases hr; exact .replace arg
      · cases hr; exact .console arg
      · cases hr; exact .warn arg
      · obtain ⟨p, m, hs, rfl⟩ := readNotify_eq_ok_iff.1 hr
        obtain ⟨rfl, hw, hp, hm⟩ := twoWords?_eq_some_iff.1 hs
        exact .notify hw hp hm
      · obtain ⟨x, hs, rfl⟩ := readFine_eq_ok_iff.1 hr
        obtain ⟨hx, hn⟩ := amount?_eq_some_iff.1 hs
        exact .fine hx hn
      · cases hr; exact .kick arg
      · obtain ⟨h, hs, rfl⟩ := readHandle_eq_ok_iff.1 hr
        exact .handle hs
  · -- the words of the form name its entry in the table
    have entry (i : Nat) {w arg : String} {read : String → Except Refusal Directive}
        (hm : (withArgument c handlers)[i]? = some (w, read)) (h : read arg = .ok d) :
        ∃ words read x, (words, read) ∈ withArgument c handlers ∧ w ++ arg = words ++ x ∧
          read x = .ok d :=
      ⟨w, read, arg, List.mem_of_getElem? hm, rfl, h⟩
    intro h
    cases h with
    | deny => exact Or.inl (by decide)
    | log => exact Or.inl (by decide)
    | erase => exact Or.inl (by decide)
    | kickSilently => exact Or.inl (by decide)
    | formerStrip arg => exact Or.inr (entry 0 rfl rfl)
    | strip arg => exact Or.inr (entry 1 rfl rfl)
    | replaceBefore hs =>
      exact Or.inr (entry 2 rfl (readReplaceBefore_eq_ok_iff.2 ⟨_, _, hs, rfl⟩))
    | id arg => exact Or.inr (entry 3 rfl rfl)
    | ignoreString arg => exact Or.inr (entry 4 rfl rfl)
    | ignoreEvent hs hk =>
      exact Or.inr (entry 5 rfl (readIgnoreEvent_eq_ok_iff.2 ⟨_, hs, hk, rfl⟩))
    | ignorePerm arg => exact Or.inr (entry 6 rfl rfl)
    | rewrite arg => exact Or.inr (entry 7 rfl rfl)
    | ignoreModes hs =>
      exact Or.inr (entry 8 rfl (readIgnoreModes_eq_ok_iff.2 ⟨_, hs, rfl⟩))
    | replace arg => exact Or.inr (entry 9 rfl rfl)
    | console arg => exact Or.inr (entry 10 rfl rfl)
    | warn arg => exact Or.inr (entry 11 rfl rfl)
    | notify hw hp hm =>
      have hs := twoWords?_eq_some_iff.2 ⟨rfl, hw, hp, hm⟩
      exact Or.inr (entry 12 rfl (readNotify_eq_ok_iff.2 ⟨_, _, hs, rfl⟩))
    | fine hx hn =>
      have hs := amount?_eq_some_iff.2 ⟨hx, hn⟩
      exact Or.inr (entry 13 rfl (readFine_eq_ok_iff.2 ⟨_, hs, rfl⟩))
    | kick arg => exact Or.inr (entry 14 rfl rfl)
    | handle hs => exact Or.inr (entry 15 rfl (readHandle_eq_ok_iff.2 ⟨_, hs, rfl⟩))

/-- A line is refused for a reason exactly if the reason holds of it. -/
theorem ofText_eq_error_iff :
    ofText c handlers text = .error e ↔ StandardRefusal c handlers text e := by
  rw [show ofText c handlers text = readTable bare (withArgument c handlers) text from rfl,
    readTable_eq_error_iff (unambiguous_withArgument c handlers)]
  constructor
  · rintro (⟨words, read, arg, hm, rfl, hr⟩ | ⟨rfl, hb, hn⟩)
    · simp only [withArgument, List.mem_cons, Prod.mk.injEq, List.not_mem_nil, or_false] at hm
      rcases hm with ⟨rfl, rfl⟩ | ⟨rfl, rfl⟩ | ⟨rfl, rfl⟩ | ⟨rfl, rfl⟩ | ⟨rfl, rfl⟩ | ⟨rfl, rfl⟩ |
        ⟨rfl, rfl⟩ | ⟨rfl, rfl⟩ | ⟨rfl, rfl⟩ | ⟨rfl, rfl⟩ | ⟨rfl, rfl⟩ | ⟨rfl, rfl⟩ | ⟨rfl, rfl⟩ |
        ⟨rfl, rfl⟩ | ⟨rfl, rfl⟩ | ⟨rfl, rfl⟩ <;> try exact absurd hr (by simp)
      · obtain ⟨hs, rfl⟩ := readReplaceBefore_eq_error_iff.1 hr
        exact .replaceBefore hs
      · rcases readIgnoreEvent_eq_error_iff.1 hr with ⟨hs, rfl⟩ | ⟨kind, hs, hk, rfl⟩
        · exact .unknownEvent hs
        · exact .ownEvent hs hk
      · obtain ⟨before, part, after, reason, hs, hb, hp, rfl⟩ := readIgnoreModes_eq_error_iff.1 hr
        exact .unknownMode hs hb hp
      · obtain ⟨hs, rfl⟩ := readNotify_eq_error_iff.1 hr
        exact .notify (twoWords?_eq_none_iff.1 hs)
      · obtain ⟨hs, rfl⟩ := readFine_eq_error_iff.1 hr
        exact .fine (amount?_eq_none_iff.1 hs)
      · obtain ⟨hs, rfl⟩ := readHandle_eq_error_iff.1 hr
        exact .handle hs
    · exact .unknown hb hn
  · have entry (i : Nat) {w arg : String} {read : String → Except Refusal Directive}
        (hm : (withArgument c handlers)[i]? = some (w, read)) (h : read arg = .error e) :
        ∃ words read x, (words, read) ∈ withArgument c handlers ∧ w ++ arg = words ++ x ∧
          read x = .error e :=
      ⟨w, read, arg, List.mem_of_getElem? hm, rfl, h⟩
    intro h
    cases h with
    | replaceBefore hs =>
      exact Or.inl (entry 2 rfl (readReplaceBefore_eq_error_iff.2 ⟨hs, rfl⟩))
    | unknownEvent hs =>
      exact Or.inl (entry 5 rfl (readIgnoreEvent_eq_error_iff.2 (Or.inl ⟨hs, rfl⟩)))
    | ownEvent hs hk =>
      exact Or.inl (entry 5 rfl (readIgnoreEvent_eq_error_iff.2 (Or.inr ⟨_, hs, hk, rfl⟩)))
    | unknownMode hs hb hp =>
      exact Or.inl (entry 8 rfl (readIgnoreModes_eq_error_iff.2 ⟨_, _, _, _, hs, hb, hp, rfl⟩))
    | notify hs =>
      exact Or.inl (entry 12 rfl (readNotify_eq_error_iff.2 ⟨twoWords?_eq_none_iff.2 hs, rfl⟩))
    | fine hs =>
      exact Or.inl (entry 13 rfl (readFine_eq_error_iff.2 ⟨amount?_eq_none_iff.2 hs, rfl⟩))
    | handle hs => exact Or.inl (entry 15 rfl (readHandle_eq_error_iff.2 ⟨hs, rfl⟩))
    | unknown hb hn => exact Or.inr ⟨rfl, hb, hn⟩

/-- The table of directives for outgoing texts that have an argument. -/
def packetReaders : List (String × (String → Except Refusal Directive)) :=
  [("then replace ", fun s => .ok (.packet (.replace s))),
   ("then rewrite ", fun s => .ok (.packet (.rewrite s))),
   ("then rewritein ", readRewriteIn)]

lemma ofPacketText_eq_readTable (text : String) : ofPacketText text =
    readTable [("then deny", .packet .deny), ("dont verbose", .packet .quiet)] packetReaders text := by
  simp only [ofPacketText, readTable, barePacket, List.lookup_cons, List.lookup_nil]
  cases text == "then deny" <;> cases text == "dont verbose" <;> rfl

lemma unambiguous_packetReaders :
    Unambiguous [("then deny", .packet .deny), ("dont verbose", .packet .quiet)] packetReaders where
  apart := by decide
  nodup := by decide
  bare_apart := by decide

/-- A line of a packet rule is read as a directive exactly if it has the form of one. -/
theorem ofPacketText_eq_ok_iff : ofPacketText text = .ok d ↔ PacketForm text d := by
  rw [ofPacketText_eq_readTable, readTable_eq_ok_iff unambiguous_packetReaders]
  constructor
  · rintro (hb | ⟨words, read, arg, hm, rfl, hr⟩)
    · simp only [List.mem_cons, Prod.mk.injEq, List.not_mem_nil, or_false] at hb
      rcases hb with ⟨rfl, rfl⟩ | ⟨rfl, rfl⟩
      · exact .deny
      · exact .quiet
    · simp only [packetReaders, List.mem_cons, Prod.mk.injEq, List.not_mem_nil, or_false] at hm
      rcases hm with ⟨rfl, rfl⟩ | ⟨rfl, rfl⟩ | ⟨rfl, rfl⟩
      · cases hr; exact .replace arg
      · cases hr; exact .rewrite arg
      · obtain ⟨w, m, hs, rfl⟩ := readRewriteIn_eq_ok_iff.1 hr
        obtain ⟨rfl, hw, hg, hm⟩ := twoWords?_eq_some_iff.1 hs
        exact .rewriteIn hw hg hm
  · intro h
    cases h with
    | deny => exact Or.inl (by decide)
    | quiet => exact Or.inl (by decide)
    | replace arg => exact Or.inr ⟨_, _, arg, List.mem_of_getElem? (i := 0) rfl, rfl, rfl⟩
    | rewrite arg => exact Or.inr ⟨_, _, arg, List.mem_of_getElem? (i := 1) rfl, rfl, rfl⟩
    | rewriteIn hw hg hm =>
      have hs := twoWords?_eq_some_iff.2 ⟨rfl, hw, hg, hm⟩
      exact Or.inr ⟨_, _, _, List.mem_of_getElem? (i := 2) rfl, rfl,
        readRewriteIn_eq_ok_iff.2 ⟨_, _, hs, rfl⟩⟩

/-- A line of a packet rule is refused for a reason exactly if the reason holds of it. -/
theorem ofPacketText_eq_error_iff : ofPacketText text = .error e ↔ PacketRefusal text e := by
  rw [ofPacketText_eq_readTable, readTable_eq_error_iff unambiguous_packetReaders]
  constructor
  · rintro (⟨words, read, arg, hm, rfl, hr⟩ | ⟨rfl, hb, hn⟩)
    · simp only [packetReaders, List.mem_cons, Prod.mk.injEq, List.not_mem_nil, or_false] at hm
      rcases hm with ⟨rfl, rfl⟩ | ⟨rfl, rfl⟩ | ⟨rfl, rfl⟩
      · cases hr
      · cases hr
      · obtain ⟨hs, rfl⟩ := readRewriteIn_eq_error_iff.1 hr
        exact .rewriteIn (twoWords?_eq_none_iff.1 hs)
    · exact .unknown hb hn
  · intro h
    cases h with
    | rewriteIn hs =>
      exact Or.inl ⟨_, _, _, List.mem_of_getElem? (i := 2) rfl, rfl,
        readRewriteIn_eq_error_iff.2 ⟨twoWords?_eq_none_iff.2 hs, rfl⟩⟩
    | unknown hb hn => exact Or.inr ⟨rfl, hb, hn⟩

end Reading

end Moderation.Directive
