import Mathlib.Tactic.Lemma
import Moderation.Proofs.Unicode.Lower

/-!
Capital forms of characters. Outside ASCII a capital form is a listed sequence of letters or the image of a run
of letters, and the tables leave all these letters as they are. So a capital form begins with a character that
is its own capital form, and it has no blank and no sign of ASCII in it unless it is the character itself.
-/
namespace Moderation.Unicode

variable {c : Char}

/-! ### The tables -/

namespace Shift

/-- The last code point of the image of a run. -/
def imageLast (s : Shift) : Nat := s.image + (s.last - s.first)

/-- Whether no image of a run lies between two code points. -/
def misses (s : Shift) (first last : Nat) : Bool :=
  Nat.blt last s.image || Nat.blt s.imageLast first

/-- Whether a run moves no image of another one because it takes every other code point and these are the ones
between the images. -/
def takesTurns (t s : Shift) : Bool :=
  t.step == 2 && (s.step == 2 || s.first == s.last) && s.image % 2 != t.first % 2

/-- Whether no image of a run is in one of other runs, of which those behind the first one that starts after the
images are not looked at. -/
def avoids (s : Shift) : List Shift → Bool
  | [] => true
  | t :: r => Nat.blt s.imageLast t.first || (Nat.blt t.last s.image || t.takesTurns s) && s.avoids r

/-- Whether the images of a run are no blanks, in ASCII only capital letters, and in no sequence or run. -/
def isSettled (s : Shift) : Bool :=
  (Nat.ble 128 s.image || Nat.ble 'A'.toNat s.image && Nat.ble s.imageLast 'Z'.toNat) &&
    blanks.all (fun b => s.misses b.first b.last) &&
    upperSequences.all (fun e => s.misses e.1 e.1) && s.avoids toUpper

end Shift

/-- Whether a sequence begins with a letter that is its own capital form and has only letters in it. -/
def isSettledSequence (ns : List Nat) : Bool :=
  ns.head?.any (fun n => upper (Char.ofNat n) == [Char.ofNat n]) &&
    ns.all fun n => !isBlank (Char.ofNat n) && Nat.ble 'A'.toNat (Char.ofNat n).toNat

/-- Whether the blanks of a span are their own capital forms. -/
def isSettledSpan (b : Span) : Bool :=
  (List.range (b.last - b.first + 1)).all fun i =>
    upper (Char.ofNat (b.first + i)) == [Char.ofNat (b.first + i)]

lemma tables_settled : (Shift.toUpper.all Shift.isSettled &&
    upperSequences.all (fun e => isSettledSequence e.2) && blanks.all isSettledSpan) = true := by
  decide +kernel

lemma ascii_settled (hc : c.toNat < 128) : upper c.toUpper = [c.toUpper] ∧
    (c.toUpper = c ∨ 'a'.toNat ≤ c.toNat ∧ isBlank c.toUpper = false ∧
      'A'.toNat ≤ c.toUpper.toNat) :=
  forall_ascii (P := fun c => upper c.toUpper = [c.toUpper] ∧
    (c.toUpper = c ∨ 'a'.toNat ≤ c.toNat ∧ isBlank c.toUpper = false ∧
      'A'.toNat ≤ c.toUpper.toNat)) (by decide +kernel) hc

/-- A run is settled if its images keep apart from all that has another capital form. -/
structure Shift.Settled (s : Shift) : Prop where
  ascii : 128 ≤ s.image ∨ 'A'.toNat ≤ s.image ∧ s.imageLast ≤ 'Z'.toNat
  blank : ∀ b ∈ blanks, b.last < s.image ∨ s.imageLast < b.first
  sequence : ∀ e ∈ upperSequences, e.1 < s.image ∨ s.imageLast < e.1
  run : s.avoids toUpper = true

lemma Shift.settled_of_mem {s : Shift} (hs : s ∈ toUpper) : s.Settled := by
  have h := tables_settled
  simp only [Bool.and_eq_true, List.all_eq_true] at h
  have h := h.1.1 s hs
  simp only [isSettled, misses, Bool.and_eq_true, Bool.or_eq_true, List.all_eq_true,
    Nat.ble_eq, Nat.blt_eq] at h
  obtain ⟨⟨⟨ascii, blank⟩, sequence⟩, run⟩ := h
  exact ⟨ascii, blank, sequence, run⟩

/-! ### Capital forms -/

lemma exists_of_inSpans {spans : List Span} {n : Nat} (h : inSpans spans n = true) :
    ∃ s ∈ spans, s.first ≤ n ∧ n ≤ s.last := by
  fun_induction inSpans spans n with
  | case1 => contradiction
  | case2 => contradiction
  | case3 s r n hfirst hlast => exact ⟨s, List.mem_cons_self, Nat.le_of_not_lt hfirst, hlast⟩
  | case4 s r n hfirst hlast ih =>
    obtain ⟨t, ht, hn⟩ := ih h
    exact ⟨t, List.mem_cons_of_mem s ht, hn⟩

lemma mem_of_lookup {n : Nat} {ns : List Nat} (h : upperSequences.lookup n = some ns) :
    (n, ns) ∈ upperSequences := by
  obtain ⟨before, after, hl, -⟩ := List.lookup_eq_some_iff.1 h
  rw [hl]
  exact List.mem_append_right before List.mem_cons_self

lemma upper_cases (c : Char) :
    c.toNat < 128 ∧ upper c = [c.toUpper] ∨
      (∃ e ∈ upperSequences, upper c = e.2.map Char.ofNat) ∨
      (∃ s ∈ Shift.toUpper, ∃ i ≤ s.last - s.first, i % s.step = 0 ∧
        upper c = [Char.ofNat (s.image + i)]) ∨
      upper c = [c] := by
  by_cases hascii : c.toNat < 128
  · exact .inl ⟨hascii, by rw [upper, if_pos hascii]⟩
  refine .inr ?_
  rw [upper, if_neg hascii]
  cases hseq : upperSequences.lookup c.toNat with
  | some ns => exact .inl ⟨(c.toNat, ns), mem_of_lookup hseq, rfl⟩
  | none =>
    refine .inr ?_
    cases hrun : Shift.lookup Shift.toUpper c.toNat with
    | none => exact .inr rfl
    | some n =>
      obtain ⟨s, hs, hfirst, hlast, hstep, rfl⟩ := Shift.exists_of_lookup hrun
      exact .inl ⟨s, hs, c.toNat - s.first, Nat.sub_le_sub_right hlast _, hstep, rfl⟩

/-- The images of a run are not found in the runs that it avoids. -/
lemma Shift.lookup_image {s : Shift} {table : List Shift} (h : s.avoids table = true) {i : Nat}
    (hi : i ≤ s.last - s.first) (hstep : i % s.step = 0) : lookup table (s.image + i) = none := by
  have hlast : s.image + i ≤ s.imageLast := Nat.add_le_add_left hi _
  induction table with
  | nil => rfl
  | cons t r ih =>
    simp only [avoids, takesTurns, Bool.or_eq_true, Bool.and_eq_true, Nat.blt_eq, beq_iff_eq,
      bne_iff_ne] at h
    rw [lookup]
    split
    · rfl
    · rename_i hfirst
      obtain ⟨hout, hr⟩ := h.resolve_left fun h => hfirst (Nat.lt_of_le_of_lt hlast h)
      split
      · rename_i hin
        obtain ⟨⟨htwo, hsteps⟩, hparity⟩ := hout.resolve_left fun h => by omega
        -- a code point in turn with those of the run is not one of them
        have hturn : (s.image + i - t.first) % t.step ≠ 0 := by
          rw [htwo]
          obtain h | h := hsteps
          · rw [h] at hstep
            omega
          · omega
        exact if_neg hturn
      · exact ih hr

lemma upper_image {s : Shift} (hs : s.Settled) {i : Nat} (hi : i ≤ s.last - s.first)
    (hstep : i % s.step = 0) : upper (Char.ofNat (s.image + i)) = [Char.ofNat (s.image + i)] := by
  generalize hd : Char.ofNat (s.image + i) = d
  have hlast : s.image + i ≤ s.imageLast := Nat.add_le_add_left hi _
  have hn := toNat_ofNat (s.image + i)
  rw [hd] at hn
  by_cases hascii : d.toNat < 128
  · have hcapital : d.toNat < 'a'.toNat := by
      have hletter := hs.ascii
      have hZ : 'Z'.toNat < 'a'.toNat := by decide
      omega
    have hkeep : d.toUpper = d :=
      (ascii_settled hascii).2.resolve_right fun h => Nat.not_le_of_lt hcapital h.1
    rw [upper, if_pos hascii, hkeep]
  · have hn : d.toNat = s.image + i := by omega
    have hseq : upperSequences.lookup d.toNat = none := by
      rw [Option.eq_none_iff_forall_ne_some]
      intro ns h
      have hout : d.toNat < s.image ∨ s.imageLast < d.toNat := hs.sequence _ (mem_of_lookup h)
      omega
    have hrun : Shift.lookup Shift.toUpper d.toNat = none := hn ▸ Shift.lookup_image hs.run hi hstep
    simp only [upper, if_neg hascii, hseq, hrun]

lemma settled_sequence {e : Nat × List Nat} (he : e ∈ upperSequences) :
    (∃ n ns, e.2 = n :: ns ∧ upper (Char.ofNat n) = [Char.ofNat n]) ∧
      ∀ n ∈ e.2, isBlank (Char.ofNat n) = false ∧ 'A'.toNat ≤ (Char.ofNat n).toNat := by
  have h := tables_settled
  simp only [Bool.and_eq_true, List.all_eq_true] at h
  have h := h.1.2 e he
  simp only [isSettledSequence, Bool.and_eq_true, List.all_eq_true, Option.any_eq_true, beq_iff_eq,
    Bool.not_eq_true', Nat.ble_eq] at h
  obtain ⟨⟨n, hn, hfix⟩, hletters⟩ := h
  obtain ⟨ns, hns⟩ := List.head?_eq_some_iff.1 hn
  exact ⟨⟨n, ns, hns, hfix⟩, hletters⟩

/-- A capital form begins with a character that is its own capital form. -/
theorem upper_head (c : Char) : ∃ d r, upper c = d :: r ∧ upper d = [d] := by
  obtain ⟨hascii, hc⟩ | ⟨e, he, hc⟩ | ⟨s, hs, i, hi, hstep, hc⟩ | hc := upper_cases c
  · exact ⟨_, _, hc, (ascii_settled hascii).1⟩
  · obtain ⟨⟨n, ns, hn, hfix⟩, -⟩ := settled_sequence he
    exact ⟨Char.ofNat n, ns.map Char.ofNat, by rw [hc, hn, List.map_cons], hfix⟩
  · exact ⟨_, _, hc, upper_image (Shift.settled_of_mem hs) hi hstep⟩
  · exact ⟨c, [], hc, hc⟩

/-- A capital form other than the character itself has no blank in it and no sign of ASCII before the letters. -/
theorem upper_eq_self_or (c : Char) :
    upper c = [c] ∨ ∀ d ∈ upper c, isBlank d = false ∧ (d.toNat = 0 ∨ 'A'.toNat ≤ d.toNat) := by
  obtain ⟨hascii, hc⟩ | ⟨e, he, hc⟩ | ⟨s, hs, i, hi, hstep, hc⟩ | hc := upper_cases c
  · rw [hc]
    obtain h | ⟨-, hblank, hletter⟩ := (ascii_settled hascii).2
    · exact .inl (by rw [h])
    · exact .inr (by simpa using ⟨hblank, .inr hletter⟩)
  · obtain ⟨-, hletters⟩ := settled_sequence he
    refine .inr fun d hd => ?_
    rw [hc] at hd
    obtain ⟨n, hn, rfl⟩ := List.mem_map.1 hd
    exact ⟨(hletters n hn).1, .inr (hletters n hn).2⟩
  · refine .inr ?_
    have hsettled := Shift.settled_of_mem hs
    have hlast : s.image + i ≤ s.imageLast := Nat.add_le_add_left hi _
    have hn := toNat_ofNat (s.image + i)
    rw [hc, List.forall_mem_singleton]
    refine ⟨?_, ?_⟩
    · rw [Bool.eq_false_iff]
      intro hblank
      obtain ⟨b, hb, hfirst, hend⟩ := exists_of_inSpans hblank
      have hout := hsettled.blank b hb
      have hpos : ∀ b ∈ blanks, 0 < b.first := by decide
      have hb := hpos b hb
      omega
    · have hletter := hsettled.ascii
      have hA : 'A'.toNat ≤ 128 := by decide
      omega
  · exact .inl hc

lemma upper_of_isBlank (h : isBlank c = true) : upper c = [c] := by
  obtain ⟨b, hb, hfirst, hlast⟩ := exists_of_inSpans h
  have hall := tables_settled
  simp only [Bool.and_eq_true, List.all_eq_true] at hall
  have hspan := hall.2 b hb
  simp only [isSettledSpan, List.all_eq_true, List.mem_range, beq_iff_eq] at hspan
  have hc := hspan (c.toNat - b.first) (by omega)
  rwa [Nat.add_sub_cancel' hfirst, Char.ofNat_toNat] at hc

end Moderation.Unicode
