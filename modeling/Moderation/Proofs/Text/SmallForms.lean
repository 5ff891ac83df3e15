import Moderation.Proofs.Text.Codes
import Moderation.Proofs.Unicode.Lower

/-!
Small forms of texts with formatting codes. A small form neither makes a sign nor a code character of
another one, so that codes can be stripped before or after a text is made small. Only a capital sigma
sees the codes around it.
-/
namespace Moderation.Text.Color
open Unicode

/-- Whether every section sign of a text stands directly before a code character. -/
def Coded (cs : List Char) : Prop :=
  ∀ t ∈ cs.tails, t.head? = some '§' → t[1]?.any isStrippedCode = true
deriving Decidable

variable {c : Char} {cs : List Char} {final : Bool}

/-! ### Small forms of signs and code characters -/

lemma isStrippedCode_eq_false (hc : 128 ≤ c.toNat ∨ c.toNat = 0) (hkelvin : c ≠ '\u212A') :
    isStrippedCode c = false := by
  have hcode : isColorCode c = false := by
    by_contra h
    obtain ⟨hlo, hhi⟩ := toNat_of_isColorCode (by simpa using h)
    omega
  simp [isStrippedCode, hcode, hkelvin]

lemma head_lower (c : Char) : (lower c).head?.any isStrippedCode = isStrippedCode c := by
  obtain ⟨hc, h⟩ | ⟨rfl, h⟩ | ⟨rfl, h⟩ | ⟨hc, hkelvin, d, h, hd⟩ := lower_cases c
  · rw [h]
    exact forall_ascii (P := fun c => [c.toLower].head?.any isStrippedCode = isStrippedCode c)
      (by decide) hc
  · rw [h]; decide
  · rw [h]; decide
  · have hd : isStrippedCode d = false := by
      obtain rfl | hd | ⟨hd, hkelvin⟩ := hd
      · exact isStrippedCode_eq_false (.inl hc) hkelvin
      · exact isStrippedCode_eq_false (.inr hd) (by rintro rfl; contradiction)
      · exact isStrippedCode_eq_false (.inl (by omega)) hkelvin
    rw [h, isStrippedCode_eq_false (.inl hc) hkelvin, List.head?_cons, Option.any_some, hd]

lemma sign_not_mem_lower (hc : c ≠ '§') : '§' ∉ lower c := fun h =>
  hc (eq_of_mem_lower (by decide) h).symm

lemma lower_sign : lower '§' = ['§'] := lower_of_isFixed (by decide)

lemma exists_lower_of_isStrippedCode (h : isStrippedCode c = true) :
    ∃ d, lower c = [d] ∧ isStrippedCode d = true := by
  have hdot : c ≠ 'İ' := by
    rintro rfl
    exact absurd h (by decide)
  obtain ⟨d, hd⟩ := List.length_eq_one_iff.1 (length_lower hdot)
  refine ⟨d, hd, ?_⟩
  simpa [hd, h] using head_lower c

lemma sign_not_mem_lowerIn (hc : c ≠ '§') : '§' ∉ lowerIn final c := by
  rw [mem_lowerIn_iff (by decide)]
  exact Ne.symm hc

lemma sign_not_mem_lowerText (h : '§' ∉ cs) : '§' ∉ lowerText cs := by
  rwa [mem_lowerText_iff (by decide)]

lemma head_flatMap_lower (cs : List Char) :
    (cs.flatMap lower).head?.any isStrippedCode = cs.head?.any isStrippedCode := by
  cases cs with
  | nil => rfl
  | cons c r =>
    rw [List.flatMap_cons, List.head?_append_of_ne_nil _ (lower_ne_nil c), head_lower,
      List.head?_cons, Option.any_some]

lemma strip_sign_of_no_code (h : cs.head?.any isStrippedCode = false) :
    strip ('§' :: cs) = '§' :: strip cs := by
  cases cs with
  | nil => simp
  | cons c r => rw [strip_sign_cons, if_neg (by simpa using h)]

/-- Without capital sigmas it makes no difference whether codes are stripped before a text is made small or
after it. -/
lemma strip_lowerText (h : 'Σ' ∉ cs) : strip (lowerText cs) = lowerText (strip cs) := by
  rw [lowerText_eq_flatMap h, lowerText_eq_flatMap fun hs => h (mem_of_mem_strip hs)]
  clear h
  fun_induction strip cs with
  | case1 c r hc ih =>
    obtain ⟨d, hd, hcode⟩ := exists_lower_of_isStrippedCode hc
    rw [List.flatMap_cons, List.flatMap_cons, lower_sign, hd, List.singleton_append,
      List.singleton_append, strip_sign_cons, if_pos hcode, ih]
  | case2 c r hc ih =>
    have hcode : ((c :: r).flatMap lower).head?.any isStrippedCode = false := by
      rw [head_flatMap_lower, List.head?_cons, Option.any_some, Bool.eq_false_iff]
      exact hc
    rw [List.flatMap_cons, lower_sign, List.singleton_append, strip_sign_of_no_code hcode, ih,
      List.flatMap_cons, lower_sign, List.singleton_append]
  | case3 c r hc ih =>
    by_cases hsign : c = '§'
    · -- the sign is the last character
      subst hsign
      cases r with
      | nil => simp [lower_sign]
      | cons d r => exact (hc d r rfl rfl).elim
    · rw [List.flatMap_cons, strip_append_of_no_sign (sign_not_mem_lower hsign), ih,
        List.flatMap_cons]
  | case4 => rfl

/-! ### Texts whose signs all begin codes -/

lemma coded_cons_iff :
    Coded (c :: cs) ↔ (c = '§' → cs.head?.any isStrippedCode = true) ∧ Coded cs := by
  simp [Coded, List.head?_eq_getElem?]

lemma coded_code {r : List Char} (hc : isStrippedCode c = true) (hr : Coded r) :
    Coded ('§' :: c :: r) := by
  have hsign : c ≠ '§' := by
    rintro rfl
    exact absurd hc (by decide)
  exact coded_cons_iff.2 ⟨fun _ => hc, coded_cons_iff.2 ⟨fun h => absurd h hsign, hr⟩⟩

lemma coded_plain {r : List Char} (hc : c ≠ '§') (hr : Coded r) : Coded (c :: r) :=
  coded_cons_iff.2 ⟨fun h => absurd h hc, hr⟩

/-- A text whose signs all begin codes is made of codes and of characters that are no signs. -/
lemma coded_induction {motive : (cs : List Char) → Coded cs → Prop} (nil : motive [] (by decide))
    (code : ∀ c r (hc : isStrippedCode c = true) (hr : Coded r), motive r hr →
      motive ('§' :: c :: r) (coded_code hc hr))
    (plain : ∀ c r (hc : c ≠ '§') (hr : Coded r), motive r hr → motive (c :: r) (coded_plain hc hr))
    (cs : List Char) (h : Coded cs) : motive cs h := by
  fun_induction strip cs with
  | case1 c r hc ih =>
    have hr := (coded_cons_iff.1 (coded_cons_iff.1 h).2).2
    exact code c r hc hr (ih hr)
  | case2 c r hc ih => exact absurd ((coded_cons_iff.1 h).1 rfl) (by simpa using hc)
  | case3 c r hc ih =>
    obtain ⟨hcode, hr⟩ := coded_cons_iff.1 h
    refine plain c r (fun hsign => ?_) hr (ih hr)
    cases r with
    | nil => simpa using hcode hsign
    | cons d r => exact hc d r hsign rfl
  | case4 => exact nil

lemma sign_not_mem_strip (h : Coded cs) : '§' ∉ strip cs := by
  induction cs, h using coded_induction with
  | nil => simp
  | code c r hc hr ih => rwa [strip_sign_cons, if_pos hc]
  | plain c r hc hr ih =>
    rw [strip_cons_of_ne hc, List.mem_cons, not_or]
    exact ⟨Ne.symm hc, ih⟩

lemma forall_eq_append_cons_iff {x : Char} {r : List Char} {P : List Char → List Char → Prop} :
    (∀ u v, c :: r = u ++ x :: v → P u v) ↔
      (c = x → P [] r) ∧ ∀ u v, r = u ++ x :: v → P (c :: u) v := by
  constructor
  · intro h
    exact ⟨fun hc => h [] r (by rw [hc, List.nil_append]),
      fun u v hr => h (c :: u) v (by rw [hr, List.cons_append])⟩
  · rintro ⟨hfirst, hlater⟩ u v he
    cases u with
    | nil =>
      obtain ⟨hc, rfl⟩ := List.cons.inj he
      exact hfirst hc
    | cons d u =>
      obtain ⟨rfl, hr⟩ := List.cons.inj he
      exact hlater u v hr

/-- A text whose signs all begin codes is stripped of the same ones before and after it is made small, and
what is left is the same exactly if its capital sigmas have the same small form with the codes around them
and without. -/
lemma strip_lowerAfter_iff (h : Coded cs) (before before' : List Char) :
    strip (lowerAfter before cs) = lowerAfter before' (strip cs) ↔
      ∀ u v, cs = u ++ 'Σ' :: v →
        (meetsCased (u.reverse ++ before) && !meetsCased v) =
          (meetsCased ((strip u).reverse ++ before') && !meetsCased (strip v)) := by
  induction cs, h using coded_induction generalizing before before' with
  | nil => simp
  | code c r hc hr ih =>
    have hsigma : c ≠ 'Σ' := by
      rintro rfl
      exact absurd hc (by decide)
    obtain ⟨d, hd, hcode⟩ := exists_lower_of_isStrippedCode hc
    rw [lowerAfter_cons, lowerAfter_cons, lowerIn_of_ne (by decide), lowerIn_of_ne hsigma, lower_sign,
      hd, List.singleton_append, List.singleton_append, strip_sign_cons, if_pos hcode,
      strip_sign_cons, if_pos hc, ih, forall_eq_append_cons_iff, forall_eq_append_cons_iff]
    simp [hsigma, strip_sign_cons, hc]
  | plain c r hc hr ih =>
    rw [lowerAfter_cons, strip_append_of_no_sign (sign_not_mem_lowerIn hc), strip_cons_of_ne hc,
      lowerAfter_cons, lowerIn_append_inj, ih, forall_eq_append_cons_iff]
    simp [strip_cons_of_ne hc]

end Moderation.Text.Color
