import Mathlib.Tactic.Ring
import Reshape.Decimal.Text
import Reshape.Json.Number
import Reshape.Proofs.Number.Digits

/-!
# Reading decimals

Digits are appended to the mantissa as long as it stays below the bound, so a short number is read
exactly (`readPlain_point`, `readScientific_exponent`). Hence the layout of the shortest digits is
read as the number that they write (`readAs_layout`).
-/

namespace Reshape.Decimal

variable {cs front whole places exponent : List Char}

namespace Reading

/-- `reading.after cs` is what has been read when the digits `cs` follow. -/
def after (reading : Reading) (cs : List Char) : Reading :=
  { reading with
    mantissa := reading.mantissa * 10 ^ cs.length + digitsValue cs
    scale := if reading.point then reading.scale + cs.length else reading.scale
    started := reading.started || !cs.isEmpty }

@[simp] theorem after_nil (reading : Reading) : reading.after [] = reading := by
  obtain ⟨mantissa, scale, started, point, full⟩ := reading
  cases point <;> simp [after, digitsValue]

theorem after_cons (reading : Reading) (c : Char) (cs : List Char) :
    (reading.after [c]).after cs = reading.after (c :: cs) := by
  obtain ⟨mantissa, scale, started, point, full⟩ := reading
  have hmantissa : (mantissa * 10 ^ [c].length + digitsValue [c]) * 10 ^ cs.length +
      digitsValue cs = mantissa * 10 ^ (c :: cs).length + digitsValue (c :: cs) := by
    rw [show c :: cs = [c] ++ cs from rfl, digitsValue_append, List.length_append, Nat.pow_add]
    ring
  simp only [after, hmantissa]
  cases point <;> simp [Nat.add_comm, Nat.add_left_comm]

/-- A digit is appended if there is room. -/
theorem step_digit {reading : Reading} {c : Char} (hc : c.isDigit) (hfull : reading.full = false)
    (hfits : (reading.after [c]).mantissa < mantissaBound) (hscale : reading.scale < 28) :
    reading.step? c = some (reading.after [c]) := by
  obtain ⟨mantissa, scale, started, point, full⟩ := reading
  have hvalue : digitsValue [c] = c.toNat - 48 := Nat.zero_add _
  simp only [after, hvalue, List.length_singleton, Nat.pow_one] at hfits hscale
  have hlast : scale ≠ 28 := Nat.ne_of_lt hscale
  cases point <;>
    simp_all [step?, digit?, after]

/-- Digits are appended if there is room for them. -/
theorem foldlM_digits {reading : Reading} (hfull : reading.full = false)
    (hdigits : ∀ c ∈ cs, c.isDigit) (hfits : (reading.after cs).mantissa < mantissaBound)
    (hscale : reading.scale + cs.length ≤ 28) :
    cs.foldlM step? reading = some (reading.after cs) := by
  induction cs generalizing reading with
  | nil => simp
  | cons c cs ih =>
      rw [← after_cons] at hfits ⊢
      rw [List.length_cons] at hscale
      have hroom : (reading.after [c]).mantissa < mantissaBound :=
        lt_of_le_of_lt (Nat.le_add_right_of_le
          (Nat.le_mul_of_pos_right _ (Nat.pow_pos (by decide)))) hfits
      rw [List.foldlM_cons, step_digit (hdigits c List.mem_cons_self) hfull hroom (by omega),
        Option.bind_eq_bind, Option.bind_some]
      refine ih hfull (fun d hd => hdigits d (List.mem_cons_of_mem c hd)) hfits ?_
      simp only [after, List.length_singleton]
      split <;> omega

/-- Digits at the start are read as an integer. -/
theorem foldlM_whole (hdigits : ∀ c ∈ whole, c.isDigit) (hne : whole ≠ [])
    (hfits : digitsValue whole < mantissaBound) (hlength : whole.length ≤ 28) :
    whole.foldlM step? empty = some ⟨digitsValue whole, 0, true, false, false⟩ := by
  rw [foldlM_digits rfl hdigits (by simpa [after, empty] using hfits)
    (by simpa [empty] using hlength)]
  simp [after, empty, hne]

/-- Digits after the point are read as places. -/
theorem foldlM_places {mantissa : Nat} (hdigits : ∀ c ∈ places, c.isDigit)
    (hfits : mantissa * 10 ^ places.length + digitsValue places < mantissaBound)
    (hlength : places.length ≤ 28) :
    ('.' :: places).foldlM step? ⟨mantissa, 0, true, false, false⟩ =
      some ⟨mantissa * 10 ^ places.length + digitsValue places, places.length, true, true,
        false⟩ := by
  have hpoint : step? ⟨mantissa, 0, true, false, false⟩ '.' =
      some ⟨mantissa, 0, true, true, false⟩ := rfl
  have hread : places.foldlM step? ⟨mantissa, 0, true, true, false⟩ =
      some (after ⟨mantissa, 0, true, true, false⟩ places) :=
    foldlM_digits rfl hdigits hfits (by simpa using hlength)
  rw [List.foldlM_cons, hpoint, Option.bind_eq_bind, Option.bind_some, hread]
  simp [after]

end Reading

/-! ## Numbers without exponent -/

variable (negative : Bool)

/-- The sign before a digit is taken. -/
theorem takeSign_digit (hdigits : ∀ c ∈ whole, c.isDigit) (hne : whole ≠ []) (rest : List Char) :
    takeSign ((if negative then ['-'] else []) ++ (whole ++ rest)) = (negative, whole ++ rest) := by
  cases whole with
  | nil => exact absurd rfl hne
  | cons c whole =>
      have hc : c.isDigit := hdigits c List.mem_cons_self
      cases negative with
      | true => rfl
      | false =>
          rw [if_neg Bool.false_ne_true, List.nil_append, List.cons_append, takeSign]
          · intro _ heq
            rw [(List.cons.inj heq).1] at hc
            exact absurd hc (by decide)
          · intro _ heq
            rw [(List.cons.inj heq).1] at hc
            exact absurd hc (by decide)

/-- Digits are read as an integer. -/
theorem readPlain_digits (hdigits : ∀ c ∈ whole, c.isDigit) (hne : whole ≠ [])
    (hfits : digitsValue whole < mantissaBound) (hlength : whole.length ≤ 28) :
    readPlain? ((if negative then ['-'] else []) ++ whole) =
      make? (negative && digitsValue whole != 0) (digitsValue whole) 0 := by
  have hsign := takeSign_digit negative hdigits hne []
  rw [List.append_nil] at hsign
  rw [readPlain?, hsign]
  dsimp only
  rw [Reading.foldlM_whole hdigits hne hfits hlength]
  rfl

/-- Digits with a point between are read with the places after it. -/
theorem readPlain_point (hwhole : ∀ c ∈ whole, c.isDigit) (hne : whole ≠ [])
    (hplaces : ∀ c ∈ places, c.isDigit) (hfits : digitsValue (whole ++ places) < mantissaBound)
    (hlength : whole.length ≤ 28) (hscale : places.length ≤ 28) :
    readPlain? ((if negative then ['-'] else []) ++ (whole ++ '.' :: places)) =
      make? (negative && digitsValue (whole ++ places) != 0) (digitsValue (whole ++ places))
        places.length := by
  have hwholeFits := lt_of_le_of_lt (digitsValue_append_le whole places) hfits
  rw [digitsValue_append] at hfits ⊢
  rw [readPlain?, takeSign_digit negative hwhole hne]
  dsimp only
  rw [List.foldlM_append, Reading.foldlM_whole hwhole hne hwholeFits hlength, Option.bind_eq_bind,
    Option.bind_eq_bind, Option.bind_some, Reading.foldlM_places hplaces hfits hscale]
  rfl

/-! ## Numbers with an exponent -/

/-- A number without exponent has no mark. -/
theorem readPlain_mark (hdigits : ∀ c ∈ whole, c.isDigit) (hne : whole ≠ [])
    (front rest : List Char) :
    readPlain? ((if negative then ['-'] else []) ++ (whole ++ (front ++ 'e' :: rest))) = none := by
  have hmark : ∀ reading : Reading, reading.step? 'e' = none := by
    intro reading
    simp [Reading.step?]
  simp [readPlain?, takeSign_digit negative hdigits hne, List.foldlM_append, hmark]

/-- A short exponent is read as a word. -/
theorem readWord_digits (hdigits : ∀ c ∈ exponent, c.isDigit) (hne : exponent ≠ [])
    (hfits : digitsValue exponent < twoTo 32) :
    readWord? exponent = some (digitsValue exponent) := by
  cases exponent with
  | nil => exact absurd rfl hne
  | cons c exponent =>
      have hc : c.isDigit := hdigits c List.mem_cons_self
      have hplus : c ≠ '+' := by
        rintro rfl
        exact absurd hc (by decide)
      have hall : (c :: exponent).all Char.isDigit := List.all_eq_true.2 hdigits
      rw [readWord?]
      · simp [hall, hfits]
      · intro _ heq
        exact hplus (List.cons.inj heq).1

/-- Places are added as long as there are any. -/
theorem scaledDown_eq {d : Decimal} {n : Nat} (h : d.scale + n ≤ 28) :
    d.scaledDown? n = some ⟨d.negative, d.mantissa, d.scale + n, d.mantissa_lt, h⟩ := by
  rw [scaledDown?, if_neg (by omega), if_neg (by omega), make?, dif_pos ⟨d.mantissa_lt, h⟩]

/-- A negative exponent shifts the number before it. -/
theorem readScientific_exponent (hfront : ∀ c ∈ front, c ≠ 'e' ∧ c ≠ 'E')
    (hdigits : ∀ c ∈ exponent, c.isDigit) (hne : exponent ≠ [])
    (hfits : digitsValue exponent < twoTo 32) :
    readScientific? (front ++ 'e' :: '-' :: exponent) =
      (readPlain? front).bind fun base => base.scaledDown? (digitsValue exponent) := by
  have hno : ∀ c ∈ front, (!(c = 'e' || c = 'E' : Bool)) = true := by
    intro c hc
    simpa using hfront c hc
  rw [readScientific?]
  dsimp only
  rw [List.takeWhile_append_of_pos hno, List.dropWhile_append_of_pos hno]
  simp [readWord_digits hdigits hne hfits]

/-! ## Layouts of digits -/

/-- `ReadAs cs negative m s` says that `cs` is read as `m / 10 ^ s`, negated if `negative` is set.
-/
def ReadAs (cs : List Char) (negative : Bool) (m s : Nat) : Prop :=
  ∃ d, read? (String.ofList cs) = some d ∧ d.negative = negative ∧
    d.mantissa * 10 ^ s = m * 10 ^ d.scale

section

variable {m s k : Nat} {digits : Digits}

/-- What reading without exponent finds is read. -/
theorem readAs_of_plain {n scale : Nat}
    (h : readPlain? cs = make? (negative && n != 0) n scale) (hn : 0 < n)
    (hfits : n < mantissaBound) (hscale : scale ≤ 28) (hvalue : n * 10 ^ s = m * 10 ^ scale) :
    ReadAs cs negative m s := by
  refine ⟨⟨negative, n, scale, hfits, hscale⟩, ?_, rfl, hvalue⟩
  rw [read?, String.toList_ofList, h, make?, dif_pos ⟨hfits, hscale⟩]
  simp [Nat.ne_of_gt hn]

/-- Digits around a point are read. -/
theorem readAs_point (hm : 0 < m) (hwhole : ∀ c ∈ whole, c.isDigit) (hne : whole ≠ [])
    (hplaces : ∀ c ∈ places, c.isDigit) (hfits : digitsValue (whole ++ places) < mantissaBound)
    (hlength : whole.length ≤ 28) (hscale : places.length ≤ 28)
    (hvalue : digitsValue (whole ++ places) * 10 ^ s = m * 10 ^ places.length) :
    ReadAs ((if negative then ['-'] else []) ++ (whole ++ '.' :: places)) negative m s := by
  refine readAs_of_plain negative
    (readPlain_point negative hwhole hne hplaces hfits hlength hscale) ?_ hfits hscale hvalue
  refine Nat.pos_of_ne_zero fun hzero => ?_
  rw [hzero, Nat.zero_mul] at hvalue
  exact absurd hvalue (Nat.ne_of_lt (Nat.mul_pos hm (Nat.pow_pos (by decide))))

open Json.Number (zeros)

theorem isDigit_take (h : ∀ c ∈ cs, c.isDigit) (n : Nat) : ∀ c ∈ cs.take n, c.isDigit :=
  fun c hc => h c (List.mem_of_mem_take hc)

theorem isDigit_drop (h : ∀ c ∈ cs, c.isDigit) (n : Nat) : ∀ c ∈ cs.drop n, c.isDigit :=
  fun c hc => h c (List.mem_of_mem_drop hc)

theorem isDigit_zeros (n : Nat) : ∀ c ∈ zeros n, c.isDigit := by
  intro c hc
  rw [List.eq_of_mem_replicate hc]
  rfl

theorem isDigit_append (hwhole : ∀ c ∈ whole, c.isDigit) (hplaces : ∀ c ∈ places, c.isDigit) :
    ∀ c ∈ whole ++ places, c.isDigit :=
  fun c hc => (List.mem_append.1 hc).elim (hwhole c) (hplaces c)

/-- Zeros that are added keep the value. -/
theorem value_places (hvalue : digitsValue cs * 10 ^ k = m) {places : Nat} (h : places + k = s) :
    digitsValue cs * 10 ^ s = m * 10 ^ places := by
  rw [← hvalue, ← h, Nat.pow_add]
  ring

/-- The digits of a short number without the zeros at its end fit. -/
theorem value_fits (hshort : m < 10 ^ 16) (hvalue : digitsValue cs * 10 ^ k = m) :
    digitsValue cs < mantissaBound := by
  have hless : digitsValue cs ≤ m := by
    rw [← hvalue]
    exact Nat.le_mul_of_pos_right _ (Nat.pow_pos (by decide))
  exact lt_of_le_of_lt hless (lt_trans hshort (by decide))

variable (hdigits : ∀ c ∈ cs, c.isDigit) (hm : 0 < m) (hshort : m < 10 ^ 16)
  (hvalue : digitsValue cs * 10 ^ k = m)

include hdigits hm hshort hvalue

/-- Whole digits before zeros are read. -/
theorem readAs_padded {n : Nat} (hne : cs ≠ []) (hn : n + s = k) (hlength : cs.length + n ≤ 28) :
    ReadAs ((if negative then ['-'] else []) ++ (cs ++ zeros n ++ ['.', '0'])) negative m s := by
  have hzero : digitsValue ['0'] = 0 := rfl
  have htotal : digitsValue (cs ++ zeros n ++ ['0']) = digitsValue cs * 10 ^ (n + 1) := by
    simp [digitsValue_append, zeros, hzero, Nat.pow_succ]
  have hsame : digitsValue cs * 10 ^ (n + 1) * 10 ^ s = m * 10 ^ 1 := by
    rw [← hvalue, ← hn, Nat.pow_add, Nat.pow_add]
    ring
  have hfits : digitsValue cs * 10 ^ (n + 1) < mantissaBound := by
    have hless : digitsValue cs * 10 ^ (n + 1) ≤ m * 10 ^ 1 := by
      rw [← hsame]
      exact Nat.le_mul_of_pos_right _ (Nat.pow_pos (by decide))
    exact lt_of_le_of_lt hless (lt_trans (Nat.mul_lt_mul_of_pos_right hshort (by decide))
      (by decide))
  rw [← htotal] at hfits hsame
  exact readAs_point negative hm (isDigit_append hdigits (isDigit_zeros n)) (by simp [hne])
    (by simp) hfits (by simpa [zeros] using hlength) (by decide) hsame

/-- Digits on both sides of the point are read. -/
theorem readAs_split {p : Nat} (hne : cs ≠ []) (hp : 0 < p) (hlength : cs.length ≤ 28)
    (hs : cs.length - p + k = s) :
    ReadAs ((if negative then ['-'] else []) ++ (cs.take p ++ '.' :: cs.drop p)) negative m s := by
  refine readAs_point negative hm (isDigit_take hdigits p) ?_ (isDigit_drop hdigits p) ?_ ?_ ?_ ?_
  · cases cs with
    | nil => exact absurd rfl hne
    | cons c cs =>
        obtain ⟨q, rfl⟩ := Nat.exists_eq_succ_of_ne_zero (Nat.ne_of_gt hp)
        simp
  · rw [List.take_append_drop]
    exact value_fits hshort hvalue
  · rw [List.length_take]
    omega
  · rw [List.length_drop]
    omega
  · rw [List.take_append_drop, List.length_drop]
    exact value_places hvalue hs

/-- Digits after zeros are read. -/
theorem readAs_fraction {n : Nat} (hs : n + cs.length + k = s) (hscale : s ≤ 28) :
    ReadAs ((if negative then ['-'] else []) ++ (['0', '.'] ++ zeros n ++ cs)) negative m s := by
  have htotal : digitsValue (['0'] ++ (zeros n ++ cs)) = digitsValue cs := by
    rw [digitsValue_append, digitsValue_append, zeros, digitsValue_zeros]
    simp [digitsValue]
  have hplaces : ∀ c ∈ zeros n ++ cs, c.isDigit := isDigit_append (isDigit_zeros n) hdigits
  have hlength : (zeros n ++ cs).length + k = s := by
    rw [List.length_append, zeros, List.length_replicate]
    exact hs
  have hread : ReadAs ((if negative then ['-'] else []) ++ (['0'] ++ '.' :: (zeros n ++ cs)))
      negative m s := by
    refine readAs_point negative hm (by simp) (by simp) hplaces ?_ (by decide) (by omega) ?_
    · rw [htotal]
      exact value_fits hshort hvalue
    · rw [htotal]
      exact value_places hvalue hlength
  exact hread

omit hm in
/-- A first digit and the digits after it are read as a number below ten. -/
theorem readPlain_first (hne : cs ≠ []) (hlength : cs.length ≤ 28) :
    readPlain? ((if negative then ['-'] else []) ++
      (cs.take 1 ++ (if cs.length = 1 then [] else '.' :: cs.drop 1))) =
        make? (negative && digitsValue cs != 0) (digitsValue cs) (cs.length - 1) := by
  have hfits := value_fits hshort hvalue
  have hpos : 0 < cs.length := List.length_pos_iff.2 hne
  by_cases hone : cs.length = 1
  · rw [if_pos hone, List.append_nil, List.take_of_length_le hone.le, hone]
    exact readPlain_digits negative hdigits hne hfits hlength
  · have hplain := readPlain_point negative (isDigit_take hdigits 1) (by simp [hne])
      (isDigit_drop hdigits 1) (by rwa [List.take_append_drop]) (by rw [List.length_take]; omega)
      (by rw [List.length_drop]; omega)
    rw [if_neg hone]
    rwa [List.take_append_drop, List.length_drop] at hplain

omit hm hshort hvalue in
/-- Neither the sign nor the digits nor the point are marks. -/
theorem not_mark_of_first (c : Char) (hc : c ∈ (if negative then ['-'] else []) ++
    (cs.take 1 ++ (if cs.length = 1 then [] else '.' :: cs.drop 1))) : c ≠ 'e' ∧ c ≠ 'E' := by
  have hnot : c = '-' ∨ c = '.' ∨ c.isDigit := by
    rcases List.mem_append.1 hc with hsign | hc
    · cases negative <;> simp_all
    · rcases List.mem_append.1 hc with hfirst | hrest
      · exact Or.inr (Or.inr (isDigit_take hdigits 1 c hfirst))
      · split at hrest
        · exact absurd hrest List.not_mem_nil
        · rcases List.mem_cons.1 hrest with hpoint | hdrop
          · exact Or.inr (Or.inl hpoint)
          · exact Or.inr (Or.inr (isDigit_drop hdigits 1 c hdrop))
  constructor <;> rintro rfl <;> exact absurd hnot (by decide)

/-- A first digit, the digits after it and a negative exponent are read. -/
theorem readAs_scientific {e : Nat} (hne : cs ≠ []) (hlength : cs.length ≤ 28)
    (hs : e + (cs.length - 1) + k = s) (hscale : s ≤ 28) :
    ReadAs ((if negative then ['-'] else []) ++
      (cs.take 1 ++ (if cs.length = 1 then [] else '.' :: cs.drop 1) ++ ['e', '-'] ++
        Nat.toDigits 10 e)) negative m s := by
  have hfits := value_fits hshort hvalue
  have hpos : 0 < digitsValue cs := by
    refine Nat.pos_of_ne_zero fun hzero => ?_
    rw [hzero, Nat.zero_mul] at hvalue
    omega
  have hplain := readPlain_first negative hdigits hshort hvalue hne hlength
  have hplaces : cs.length - 1 ≤ 28 := by omega
  have hsum : cs.length - 1 + e ≤ 28 := by omega
  have hsign : (negative && digitsValue cs != 0) = negative := by simp [Nat.ne_of_gt hpos]
  rw [hsign, make?, dif_pos ⟨hfits, hplaces⟩] at hplain
  have hnone := readPlain_mark negative (isDigit_take hdigits 1) (by simp [hne])
    (if cs.length = 1 then [] else '.' :: cs.drop 1) ('-' :: Nat.toDigits 10 e)
  have hword : digitsValue (Nat.toDigits 10 e) < twoTo 32 := by
    rw [digitsValue_toDigits]
    exact lt_of_le_of_lt (show e ≤ 28 by omega) (by decide)
  have hread := readScientific_exponent (not_mark_of_first negative hdigits)
    (fun c hc => Nat.isDigit_of_mem_toDigits (by decide) (by decide) hc) Nat.toDigits_ne_nil hword
  rw [digitsValue_toDigits, hplain, Option.bind_some, scaledDown_eq hsum] at hread
  simp only [List.append_assoc, List.cons_append, List.nil_append] at hnone hread ⊢
  refine ⟨⟨negative, digitsValue cs, cs.length - 1 + e, hfits, hsum⟩, ?_, rfl, ?_⟩
  · rw [read?, String.toList_ofList, hnone, hread]
    rfl
  · exact value_places hvalue (by dsimp only; omega)

end

/-- The layout of digits that write a short number is read as that number. -/
theorem readAs_layout {m s : Nat} {digits : Digits} (h : digits.Writes m (-s)) (hm : 0 < m)
    (hshort : m < 10 ^ 16) (hscale : s ≤ 28) :
    ReadAs ((if negative then ['-'] else []) ++
      Json.Number.layout.render digits.digits digits.point) negative m s := by
  obtain ⟨hdigits, hleading, k, hpoint, hvalue⟩ := h
  obtain ⟨cs, point⟩ := digits
  dsimp only at *
  have hne : cs ≠ [] := by
    rintro rfl
    exact absurd hleading (by decide)
  have hlength : 0 < cs.length := List.length_pos_iff.2 hne
  have htotal : cs.length - 1 + k < 16 := by
    refine (Nat.pow_lt_pow_iff_right (a := 10) (by decide)).1 (lt_of_le_of_lt ?_ hshort)
    rw [Nat.pow_add, ← hvalue]
    exact Nat.mul_le_mul_right _ hleading
  have hleast : Json.Number.layout.leastPoint = -5 := rfl
  have hgreatest : Json.Number.layout.greatestPoint = 16 := rfl
  rw [Json.Number.NumberLayout.render, hleast, hgreatest]
  dsimp only
  by_cases hwhole : 0 < point ∧ point ≤ 16
  · rw [if_pos hwhole]
    by_cases hpadded : cs.length ≤ point.toNat
    · rw [if_pos hpadded]
      exact readAs_padded negative hdigits hm hshort hvalue hne (by omega) (by omega)
    · rw [if_neg hpadded]
      exact readAs_split negative hdigits hm hshort hvalue hne (by omega) (by omega) (by omega)
  · rw [if_neg hwhole]
    by_cases hfraction : -5 < point ∧ point ≤ 0
    · rw [if_pos hfraction]
      exact readAs_fraction negative hdigits hm hshort hvalue (by omega) hscale
    · -- a short number has no more than sixteen whole digits
      have hnegative : point - 1 < 0 := by omega
      rw [if_neg hfraction, if_pos hnegative]
      exact readAs_scientific negative hdigits hm hshort hvalue hne (by omega) (by omega) hscale

end Reshape.Decimal
