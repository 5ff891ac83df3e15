import Mathlib.Tactic.Lemma
import Moderation.Regex.Backtrack

/-!
Where a match attempt leads. It moves forward in the text, and the match it finds starts on the way,
unless a look-around moves the start of the match to a place outside of it.
-/
namespace Moderation.Regex

namespace Cursor
variable {c d e : Cursor} {keep : Bool} {text : List Char}

/-- Whether a cursor is at a place of a text. -/
structure Placed (text : List Char) (c : Cursor) : Prop where
  around : c.before.reverse ++ c.rest = text
  index : c.index = c.before.length

/-- Whether a pattern can lead from one cursor to another: forward in the same text, with a start of
the match on the way, and with the same start if the pattern keeps it. -/
structure Leads (keep : Bool) (c d : Cursor) : Prop where
  placed : ∀ {text}, c.Placed text → d.Placed text
  le : c.index ≤ d.index
  first : c.first ≤ c.index → c.first ≤ d.first ∧ d.first ≤ d.index
  kept : keep = true → d.first = c.first

namespace Leads

@[simp] theorem refl (keep : Bool) (c : Cursor) : Leads keep c c where
  placed h := h
  le := Nat.le_refl _
  first h := ⟨Nat.le_refl _, h⟩
  kept _ := rfl

theorem trans (h : Leads keep c d) (h' : Leads keep d e) : Leads keep c e where
  placed hc := h'.placed (h.placed hc)
  le := Nat.le_trans h.le h'.le
  first hc := by
    obtain ⟨hle, hd⟩ := h.first hc
    obtain ⟨hle', he⟩ := h'.first hd
    exact ⟨Nat.le_trans hle hle', he⟩
  kept hk := (h'.kept hk).trans (h.kept hk)

theorem mono {keep' : Bool} (hk : keep' = true → keep = true) (h : Leads keep c d) :
    Leads keep' c d where
  placed := h.placed
  le := h.le
  first := h.first
  kept hk' := h.kept (hk hk')

theorem and_left (keep' : Bool) (h : Leads keep c d) : Leads (keep && keep') c d :=
  h.mono fun hk => (Bool.and_eq_true_iff.1 hk).1

theorem and_right (keep' : Bool) (h : Leads keep c d) : Leads (keep' && keep) c d :=
  h.mono fun hk => (Bool.and_eq_true_iff.1 hk).2

/-- Groups say nothing about the place. -/
theorem slots (keep : Bool) (c : Cursor) (slots : List (Nat × Nat)) :
    Leads keep c { c with slots } where
  placed h := ⟨h.around, h.index⟩
  le := Nat.le_refl _
  first h := ⟨Nat.le_refl _, h⟩
  kept _ := rfl

theorem mark (keep : Bool) (c : Cursor) (slot : Nat) : Leads keep c (c.mark slot) :=
  .slots keep c _

/-- The start of the match is moved to where the cursor is. -/
theorem keepOut (c : Cursor) : Leads false c { c with first := c.index } where
  placed h := ⟨h.around, h.index⟩
  le := Nat.le_refl _
  first h := ⟨h, Nat.le_refl _⟩
  kept h := by contradiction

theorem next {x : Char} (h : c.next? = some (x, d)) : Leads keep c d := by
  obtain ⟨before, rest, index, slots, first, origin⟩ := c
  cases rest with
  | nil => simp [next?] at h
  | cons y r =>
    obtain ⟨rfl, rfl⟩ : y = x ∧ _ = d := by simpa [next?] using h
    refine ⟨fun hc => ⟨by simpa using hc.around, by simpa using hc.index⟩, ?_, fun hc => ?_,
      fun _ => rfl⟩
    · exact Nat.le_succ _
    · exact ⟨Nat.le_refl _, Nat.le_succ_of_le hc⟩

theorem skip {cs : List Char} (h : c.skip? cs = some d) : Leads keep c d := by
  induction cs generalizing c with
  | nil =>
    obtain rfl : c = d := by simpa [skip?] using h
    exact .refl _ _
  | cons x xs ih =>
    rw [skip?] at h
    cases hn : c.next? with
    | none => simp [hn] at h
    | some next =>
      obtain ⟨y, e⟩ := next
      simp only [hn] at h
      split at h
      · exact (Leads.next hn).trans (ih h)
      · contradiction

theorem forward (keep : Bool) (c : Cursor) : Leads keep c c.forward := by
  cases hn : c.next? with
  | none => simp [Cursor.forward, hn]
  | some next =>
    obtain ⟨x, d⟩ := next
    simp only [Cursor.forward, hn]
    exact .next hn

end Leads

lemma first_of_retreat {n : Nat} (h : c.retreat? n = some d) : d.first = c.first := by
  induction n generalizing c with
  | zero =>
    obtain rfl : c = d := by simpa [retreat?] using h
    rfl
  | succ n ih =>
    rw [retreat?] at h
    cases hb : c.before with
    | nil => simp [hb] at h
    | cons x b =>
      simp only [hb] at h
      exact (ih h).trans rfl

end Cursor

/-! ### Listed ends -/

section Ends
variable {R : Cursor → Cursor → Prop} {step : Cursor → List Cursor}

lemma eq_of_mem_ite {p : Prop} [Decidable p] {c d : Cursor} (h : d ∈ if p then [c] else []) :
    d = c := by
  split at h
  · exact List.mem_singleton.1 h
  · contradiction

lemma mem_of_mem_distinct {seen : List Nat} {cs : List Cursor} {d : Cursor}
    (h : d ∈ distinct seen cs) : d ∈ cs := by
  induction cs generalizing seen with
  | nil => exact h
  | cons c r ih =>
    rw [distinct] at h
    split at h
    · exact List.mem_cons_of_mem c (ih h)
    · obtain rfl | h := List.mem_cons.1 h
      · exact List.mem_cons_self
      · exact List.mem_cons_of_mem c (ih h)

section From
variable (hstep : ∀ c, ∀ d ∈ step c, R c d)
include hstep

lemma of_mem_endsFromAll {cs : List Cursor} {d : Cursor} (h : d ∈ endsFromAll step cs) :
    ∃ c ∈ cs, R c d := by
  obtain ⟨c, hc, hd⟩ := List.mem_flatMap.1 (mem_of_mem_distinct h)
  exact ⟨c, hc, hstep c d hd⟩

variable (htrans : ∀ {c d e}, R c d → R d e → R c e)
include htrans

lemma of_mem_endsOfTimes {c : Cursor} {n : Nat} {cs : List Cursor} (hcs : ∀ d ∈ cs, R c d) :
    ∀ d ∈ endsOfTimes step n cs, R c d := by
  induction n generalizing cs with
  | zero => exact hcs
  | succ n ih =>
    rw [endsOfTimes]
    split
    · simp
    · refine ih fun d hd => ?_
      obtain ⟨e, he, hed⟩ := of_mem_endsFromAll hstep hd
      exact htrans (hcs e he) hed

/-- The ends that the runs from each of several ends add are reached from where these are. -/
lemma of_mem_endsOfMore {greedy : Bool} {entry fuel : Nat} {seen : List Nat} {c : Cursor} :
    ∀ d ∈ (endsOfMore step greedy entry fuel seen c).1, R c d := by
  induction fuel generalizing seen c with
  | zero => simp [endsOfMore]
  | succ fuel ih =>
    rw [endsOfMore]
    refine List.foldlRecOn (motive := fun p : List Cursor × List Nat => ∀ d ∈ p.1, R c d) _ _
      (by simp) ?_
    rintro ⟨ends, seen⟩ hends e he
    have hce : R c e := hstep c e he
    have hmore (greedy' : Bool) : ∀ d ∈ ends ++ (if greedy' = true
        then (endsOfMore step greedy entry fuel (e.index :: seen) e).1 ++ [e]
        else e :: (endsOfMore step greedy entry fuel (e.index :: seen) e).1), R c d := by
      intro d hd
      obtain hd | hd := List.mem_append.1 hd
      · exact hends d hd
      · have hd : d = e ∨ d ∈ (endsOfMore step greedy entry fuel (e.index :: seen) e).1 := by
          split at hd
          · simpa [or_comm] using hd
          · simpa using hd
        obtain rfl | hd := hd
        · exact hce
        · exact htrans hce (ih d hd)
    dsimp only
    split
    · exact hends
    · split
      · exact List.forall_mem_append.2 ⟨hends, by simpa using hce⟩
      · exact hmore greedy

lemma of_mem_endsOfPlus {greedy : Bool} {c : Cursor} : ∀ d ∈ endsOfPlus step greedy c, R c d :=
  fun d hd => of_mem_endsOfMore hstep htrans d (mem_of_mem_distinct hd)

variable (hrefl : ∀ c, R c c)
include hrefl

lemma of_mem_endsOfUpTo {greedy : Bool} {left : Nat} {seen : List (Nat × Nat)} {c : Cursor} :
    ∀ d ∈ (endsOfUpTo step greedy left seen c).1, R c d := by
  induction left generalizing seen c with
  | zero => simpa [endsOfUpTo] using hrefl c
  | succ n ih =>
    rw [endsOfUpTo]
    split
    · simp
    · have hmore := List.foldlRecOn
        (motive := fun p : List Cursor × List (Nat × Nat) => ∀ d ∈ p.1, R c d) (step c)
        (fun p d => (p.1 ++ (endsOfUpTo step greedy n p.2 d).1, (endsOfUpTo step greedy n p.2 d).2))
        (b := ([], (n, c.index) :: seen)) (by simp)
        (fun p hp e he => List.forall_mem_append.2
          ⟨hp, fun d hd => htrans (hstep c e he) (ih d hd)⟩)
      dsimp only
      split
      · exact List.forall_mem_append.2 ⟨hmore, by simpa using hrefl c⟩
      · exact List.forall_mem_cons.2 ⟨hrefl c, hmore⟩

end From

end Ends

/-! ### Patterns and the start of a match -/

namespace Node

/-- Whether nothing in a pattern moves the start of the match. -/
def keepsStart : Node → Bool
  | capture _ body => body.keepsStart
  | concat a b => a.keepsStart && b.keepsStart
  | alt a b => a.keepsStart && b.keepsStart
  | repeated body _ _ _ => body.keepsStart
  | look _ _ body => body.keepsStart
  | atomic body => body.keepsStart
  | once body => body.keepsStart
  | ifThen condition yes no => condition.keepsStart && yes.keepsStart && no.keepsStart
  | keepOut => false
  | _ => true

/-- Whether nothing in a look-around moves the start of the match, at least where the pattern is
matched by going back: a plain pattern forgets what a look-around did to it. -/
def keepsOrder : Node → Bool
  | capture _ body => body.keepsOrder
  | concat a b => a.keepsOrder && b.keepsOrder
  | alt a b => a.keepsOrder && b.keepsOrder
  | repeated body _ _ _ => body.keepsOrder
  | look _ negative body => negative || (body.keepsStart && body.keepsOrder)
  | atomic body => body.keepsOrder
  | ifThen condition yes no => condition.keepsOrder && yes.keepsOrder && no.keepsOrder
  | _ => true

/-- All ends of a pattern lie ahead. -/
theorem leads_of_mem_ends (n : Node) : ∀ c, ∀ d ∈ n.ends c, Cursor.Leads n.keepsStart c d := by
  induction n with
  | empty => simp [ends]
  | set s =>
    intro c d hd
    rw [ends] at hd
    split at hd
    · rename_i x e hn
      rw [eq_of_mem_ite hd]
      exact .next hn
    · contradiction
  | capture i body ih =>
    intro c d hd
    obtain ⟨e, he, rfl⟩ := List.mem_map.1 hd
    exact ((Cursor.Leads.mark _ c _).trans (ih _ e he)).trans (.mark _ e _)
  | concat a b iha ihb =>
    intro c d hd
    obtain ⟨e, he, hed⟩ := of_mem_endsFromAll ihb hd
    exact ((iha c e he).and_left _).trans (hed.and_right _)
  | alt a b iha ihb =>
    intro c d hd
    obtain hd | hd := List.mem_append.1 (mem_of_mem_distinct hd)
    · exact (iha c d hd).and_left _
    · exact (ihb c d hd).and_right _
  | repeated body min max greedy ih =>
    intro c d hd
    have htrans {c d e : Cursor} (h : Cursor.Leads body.keepsStart c d)
        (h' : Cursor.Leads body.keepsStart d e) : Cursor.Leads body.keepsStart c e := h.trans h'
    have htimes (n : Nat) : ∀ e ∈ endsOfTimes body.ends n [c], Cursor.Leads body.keepsStart c e :=
      of_mem_endsOfTimes ih htrans (by simp)
    cases max with
    | some top =>
      obtain ⟨e, he, hed⟩ := of_mem_endsFromAll
        (fun c => of_mem_endsOfUpTo ih htrans (Cursor.Leads.refl _)) hd
      exact (htimes _ e he).trans hed
    | none =>
      simp only [ends] at hd
      split at hd
      · have hd : d = c ∨ d ∈ endsOfPlus body.ends greedy c := by
          have hd := mem_of_mem_distinct hd
          split at hd
          · simpa [or_comm] using hd
          · simpa using hd
        obtain rfl | hd := hd
        · exact .refl _ d
        · exact of_mem_endsOfPlus ih htrans d hd
      · obtain ⟨e, he, hed⟩ := of_mem_endsFromAll (fun c => of_mem_endsOfPlus ih htrans) hd
        exact (htimes _ e he).trans hed
  | backref i =>
    intro c d hd
    rw [ends] at hd
    split at hd
    · exact .skip (Option.mem_toList.1 hd)
    · contradiction
  | look back negative body ih =>
    -- only the groups of what was found are taken over
    intro c d hd
    simp only [ends] at hd
    split at hd
    · rw [eq_of_mem_ite hd]
      exact .refl _ c
    · split at hd
      · contradiction
      · rw [List.mem_singleton.1 hd]
        exact .slots _ c _
  | atomic body ih => exact fun c d hd => ih c d (List.mem_of_mem_take hd)
  | once body ih => exact fun c d hd => ih c d (List.mem_of_mem_take hd)
  | keepOut =>
    intro c d hd
    rw [List.mem_singleton.1 hd]
    exact .keepOut c
  | assertion | searchStart | captured =>
    intro c d hd
    rw [eq_of_mem_ite hd]
    exact .refl _ c
  | ifThen condition yes no ihc ihy ihn =>
    intro c d hd
    rw [ends] at hd
    split at hd
    · rename_i e es hc
      have he : e ∈ condition.ends c := by simp [hc]
      exact (((ihc c e he).and_left _).and_left _).trans (((ihy e d hd).and_right _).and_left _)
    · exact (ihn c d hd).and_right _

end Node

/-! ### Ends that are tried one after the other -/

/-- What a step passes on to what comes after it: a match is found from a cursor to which the step
leads. -/
def Sound (keep : Bool) (step : Cursor → Continuation → Nat → Outcome) : Prop :=
  ∀ {c k b d m}, step c k b = .found d m → ∃ e b', Cursor.Leads keep c e ∧ k e b' = .found d m

section Sound
variable {keep : Bool} {step : Cursor → Continuation → Nat → Outcome} {c d : Cursor} {b m : Nat}

lemma of_orElse {first second : Nat → Outcome} (h : orElse first second b = .found d m) :
    first b = .found d m ∨ ∃ b', second b' = .found d m := by
  rw [orElse] at h
  split at h
  · contradiction
  · exact .inr ⟨_, h⟩
  · exact .inl h

lemma of_prefer {more : Bool} {first second : Nat → Outcome}
    (h : prefer more first second b = .found d m) :
    (∃ b', first b' = .found d m) ∨ ∃ b', second b' = .found d m := by
  rw [prefer] at h
  split at h
  · exact (of_orElse h).imp_left fun h => ⟨b, h⟩
  · exact (of_orElse h).symm.imp_right fun h => ⟨b, h⟩

lemma sound_guard (keep : Bool) (p : Cursor → Prop) [DecidablePred p] :
    Sound keep fun c k b => if p c then k c b else .failed b := by
  intro c k b d m h
  dsimp only at h
  split at h
  · exact ⟨c, b, .refl _ c, h⟩
  · contradiction

variable (hstep : Sound keep step)
include hstep

lemma sound_runTimes (n : Nat) : Sound keep (runTimes step n) := by
  induction n with
  | zero => exact fun {c k b d m} h => ⟨c, b, .refl _ c, h⟩
  | succ n ih =>
    intro c k b d m h
    obtain ⟨e, b', hce, he⟩ := hstep h
    obtain ⟨f, b'', hef, hf⟩ := ih he
    exact ⟨f, b'', hce.trans hef, hf⟩

lemma sound_runUpTo (greedy : Bool) (n : Nat) : Sound keep (runUpTo step greedy n) := by
  induction n with
  | zero => exact fun {c k b d m} h => ⟨c, b, .refl _ c, h⟩
  | succ n ih =>
    intro c k b d m h
    obtain ⟨b', h⟩ | ⟨b', h⟩ := of_prefer h
    · obtain ⟨e, b'', hce, he⟩ := hstep h
      obtain ⟨f, b₃, hef, hf⟩ := ih he
      exact ⟨f, b₃, hce.trans hef, hf⟩
    · exact ⟨c, b', .refl _ c, h⟩

lemma sound_runMany (greedy : Bool) (fuel : Nat) : Sound keep (runMany step greedy fuel) := by
  induction fuel with
  | zero => exact fun {c k b d m} h => ⟨c, b, .refl _ c, h⟩
  | succ fuel ih =>
    intro c k b d m h
    obtain ⟨b', h⟩ | ⟨b', h⟩ := of_prefer h
    · obtain ⟨e, b'', hce, he⟩ := hstep h
      split at he
      · contradiction
      · obtain ⟨f, b₃, hef, hf⟩ := ih he
        exact ⟨f, b₃, hce.trans hef, hf⟩
    · exact ⟨c, b', .refl _ c, h⟩

end Sound

namespace Node

/-- A match is found from an end of the pattern that lies ahead, unless a look-around moves its
start. -/
theorem sound_run (n : Node) (h : n.keepsOrder = true) : Sound n.keepsStart n.run := by
  induction n with
  | empty => exact fun {c k b d m} h => ⟨c, b, .refl _ c, h⟩
  | set s =>
    intro c k b d m hr
    simp only [run] at hr
    split at hr
    · rename_i x e hn
      split at hr
      · exact ⟨e, b, .next hn, hr⟩
      · contradiction
    · contradiction
  | assertion a => exact sound_guard _ fun c => a.holds c = true
  | searchStart => exact sound_guard _ fun c => c.index = c.origin
  | captured i => exact sound_guard _ fun c => (c.group? i).isSome = true
  | capture i body ih =>
    intro c k b d m hr
    obtain ⟨e, b', hce, he⟩ := ih h hr
    exact ⟨e.mark (2 * i + 1), b', ((Cursor.Leads.mark _ c _).trans hce).trans (.mark _ e _), he⟩
  | concat a b' iha ihb =>
    intro c k b d m hr
    obtain ⟨ha, hb⟩ := Bool.and_eq_true_iff.1 h
    obtain ⟨e, n₁, hce, he⟩ := iha ha hr
    obtain ⟨f, n₂, hef, hf⟩ := ihb hb he
    exact ⟨f, n₂, (hce.and_left _).trans (hef.and_right _), hf⟩
  | alt a b' iha ihb =>
    intro c k b d m hr
    obtain ⟨ha, hb⟩ := Bool.and_eq_true_iff.1 h
    obtain hr | ⟨n, hr⟩ := of_orElse hr
    · obtain ⟨e, n₁, hce, he⟩ := iha ha hr
      exact ⟨e, n₁, hce.and_left _, he⟩
    · obtain ⟨e, n₁, hce, he⟩ := ihb hb hr
      exact ⟨e, n₁, hce.and_right _, he⟩
  | repeated body min max greedy ih =>
    intro c k b d m hr
    obtain ⟨e, n₁, hce, he⟩ := sound_runTimes (ih h) min hr
    cases max with
    | some top =>
      obtain ⟨f, n₂, hef, hf⟩ := sound_runUpTo (ih h) greedy _ he
      exact ⟨f, n₂, hce.trans hef, hf⟩
    | none =>
      obtain ⟨f, n₂, hef, hf⟩ := sound_runMany (ih h) greedy _ he
      exact ⟨f, n₂, hce.trans hef, hf⟩
  | backref i =>
    intro c k b d m hr
    simp only [run] at hr
    split at hr
    · rename_i e he
      obtain ⟨g, -, hskip⟩ := Option.bind_eq_some_iff.1 he
      exact ⟨e, b, .skip hskip, hr⟩
    · contradiction
  | look back negative body ih =>
    intro c k b d m hr
    simp only [run] at hr
    split at hr
    · split at hr
      · exact ⟨c, b, .refl _ c, hr⟩
      · contradiction
    · rename_i c' hback
      split at hr
      · split at hr
        · contradiction
        · contradiction
        · exact ⟨c, _, .refl _ c, hr⟩
        · contradiction
      · -- what is found behind leaves the start of the match where it was
        rename_i hneg
        have hbody : body.keepsStart = true ∧ body.keepsOrder = true := by
          simpa [keepsOrder, hneg] using h
        obtain ⟨e, n₁, hce, he⟩ := ih hbody.2 hr
        have hfirst : e.first = c.first :=
          (hce.kept hbody.1).trans (Cursor.first_of_retreat hback)
        rw [hfirst] at he
        exact ⟨_, n₁, .slots _ c e.slots, he⟩
  | atomic body ih =>
    intro c k b d m hr
    simp only [run] at hr
    split at hr
    · rename_i e n₁ hbody
      obtain ⟨f, n₂, hcf, hf⟩ := ih h hbody
      obtain ⟨rfl, rfl⟩ : f = e ∧ n₂ = n₁ := by simpa [accept] using hf
      exact ⟨f, n₂, hcf, hr⟩
    · rename_i o hne
      exact absurd hr (hne d m)
  | once body ih =>
    intro c k b d m hr
    simp only [run] at hr
    split at hr
    · rename_i e es hbody
      have he : e ∈ body.ends c := by simp [hbody]
      exact ⟨e, b, leads_of_mem_ends body c e he, hr⟩
    · contradiction
  | keepOut => exact fun {c k b d m} hr => ⟨_, b, .keepOut c, hr⟩
  | ifThen condition yes no ihc ihy ihn =>
    intro c k b d m hr
    obtain ⟨hcy, hn⟩ := Bool.and_eq_true_iff.1 h
    obtain ⟨hc, hy⟩ := Bool.and_eq_true_iff.1 hcy
    simp only [run] at hr
    split at hr
    · rename_i e n₁ hcond
      obtain ⟨f, n₂, hcf, hf⟩ := ihc hc hcond
      obtain ⟨rfl, rfl⟩ : f = e ∧ n₂ = n₁ := by simpa [accept] using hf
      obtain ⟨g, n₃, hfg, hg⟩ := ihy hy hr
      exact ⟨g, n₃, ((hcf.and_left _).and_left _).trans ((hfg.and_right _).and_left _), hg⟩
    · contradiction
    · obtain ⟨g, n₃, hcg, hg⟩ := ihn hn hr
      exact ⟨g, n₃, hcg.and_right _, hg⟩
    · contradiction

end Node

end Moderation.Regex
