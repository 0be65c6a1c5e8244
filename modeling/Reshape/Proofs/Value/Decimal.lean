import Reshape.Proofs.Decimal.Binary64
import Reshape.Proofs.Decimal.Text
import Reshape.Proofs.Number.Shortest
import Reshape.Proofs.Value.Json

/-!
# Decimals as JSON

A decimal is written by way of binary64. With up to fifteen digits and up to 22 places it is read
again as the same number (`ofJson_toJson_decimal`): it is converted to the nearest binary64 number,
whose shortest digits are its own, and these are read exactly. One with more digits or places may be
read again as another number, or not at all (`decimal_lost`).
-/

namespace Reshape

open Binary64 (Nearest)

variable {d : Decimal}

namespace Decimal

theorem toBinary64_eq {x : Binary64} (h : d.magnitude64? = some x) :
    d.toBinary64? =
      some { x with negative := d.negative && !(d.scale == 0 && d.mantissa == 0) } := by
  rw [toBinary64?, h]
  rfl

/-- A decimal in other units of the last place. -/
theorem sameNumber_of_eq {d' : Decimal} (hnegative : d'.negative = d.negative)
    (hvalue : d'.mantissa * 10 ^ d.scale = d.mantissa * 10 ^ d'.scale) : d.sameNumber d' := by
  rw [sameNumber, beq_iff_eq, signed, signed, hnegative]
  have hcast : (d'.mantissa : Int) * tenTo d.scale = d.mantissa * tenTo d'.scale := by
    rw [tenTo_eq, tenTo_eq]
    exact_mod_cast hvalue
  split
  · rw [Int.neg_mul, Int.neg_mul, hcast]
  · exact hcast.symm

/-- The text of the number nearest to a short decimal is read as the decimal. -/
theorem readAs_binaryChars {x : Binary64} (hpos : 0 < d.mantissa) (hmantissa : d.mantissa < 10 ^ 15)
    (hscale : d.scale ≤ 22) (h : Nearest (d.mantissa / 10 ^ d.scale) x) :
    ReadAs (Json.Number.binaryChars x) x.negative d.mantissa d.scale := by
  rw [Json.Number.binaryChars, h.isZero_eq_false, if_neg Bool.false_ne_true]
  by_cases htwo : 2 ≤ d.mantissa
  · have hunits : (d.mantissa : ℚ) / 10 ^ d.scale = d.mantissa * 10 ^ (-(d.scale : Int)) := by
      rw [zpow_neg, zpow_natCast, div_eq_mul_inv]
    rw [hunits] at h
    exact readAs_layout x.negative (Binary64.shortest_writes htwo hmantissa h) hpos
      (lt_trans hmantissa (by decide)) (by omega)
  · -- the number nearest to a power of ten may lie below it, and has its digits one place lower
    have hone : d.mantissa = 1 := by omega
    have hunits : (d.mantissa : ℚ) / 10 ^ d.scale =
        (10 : Nat) * 10 ^ (-((d.scale + 1 : Nat) : Int)) := by
      rw [hone, zpow_neg, zpow_natCast, pow_succ]
      field_simp
      norm_num
    rw [hunits] at h
    obtain ⟨d', hread, hnegative, hvalue⟩ := readAs_layout x.negative
      (Binary64.shortest_writes (by decide) (by decide) h) (by decide) (by decide) (by omega)
    refine ⟨d', hread, hnegative, ?_⟩
    rw [hone]
    rw [Nat.pow_succ, Nat.mul_comm _ 10, Nat.mul_left_comm] at hvalue
    rw [Nat.one_mul]
    exact Nat.eq_of_mul_eq_mul_left (by decide) hvalue

/-- The text of zero is read as zero without its sign. -/
theorem read_zero {x : Binary64} (hzero : x.isZero) :
    read? (String.ofList (Json.Number.binaryChars x)) = some zeroTenths := by
  rw [Json.Number.binaryChars, if_pos hzero]
  cases x.negative <;> rfl

end Decimal

namespace Value

/-- What is written of a decimal is read by its text. -/
theorem ofJson_toBinary64 {x : Binary64} (h : d.toBinary64? = some x) :
    ofJson? .decimal (Value.decimal d).toJson =
      orMismatch .decimal (.number (.binary x))
        ((Decimal.read? (String.ofList (Json.Number.binaryChars x))).map .decimal) := by
  rw [toJson, h]
  dsimp only
  rw [ofJson?, if_neg (by simp [Json.isNull])]
  rfl

/-- What is written of a decimal is read if its text is that of a decimal. -/
theorem ofJson_of_read {x : Binary64} {d' : Decimal} (h : d.toBinary64? = some x)
    (hread : Decimal.read? (String.ofList (Json.Number.binaryChars x)) = some d') :
    ofJson? .decimal (Value.decimal d).toJson = .ok (.decimal d') := by
  rw [ofJson_toBinary64 h, hread]
  rfl

/-- A decimal of up to fifteen digits and up to 22 places is read again as the same number. -/
theorem ofJson_toJson_decimal (hmantissa : d.mantissa < 10 ^ 15) (hscale : d.scale ≤ 22) :
    ∃ d', ofJson? .decimal (Value.decimal d).toJson = .ok (.decimal d') ∧ d.sameNumber d' := by
  rcases Nat.eq_zero_or_pos d.mantissa with hzero | hpos
  · obtain ⟨x, hx, hxzero⟩ := d.exists_magnitude64_zero hscale hzero
    have hsame : d.sameNumber Decimal.zeroTenths := by
      simp [Decimal.sameNumber, Decimal.signed, hzero, Decimal.zeroTenths, Decimal.zero]
    refine ⟨Decimal.zeroTenths, ofJson_of_read (d.toBinary64_eq hx) ?_, hsame⟩
    exact Decimal.read_zero hxzero
  · obtain ⟨x, hx, hnearest⟩ := d.exists_magnitude64 hmantissa hscale hpos
    have hnegative : (d.negative && !(d.scale == 0 && d.mantissa == 0)) = d.negative := by
      simp [Nat.ne_of_gt hpos]
    obtain ⟨d', hread, hsign, hvalue⟩ :=
      Decimal.readAs_binaryChars hpos hmantissa hscale (hnearest.withSign d.negative)
    refine ⟨d', ofJson_of_read ?_ hread, Decimal.sameNumber_of_eq hsign hvalue⟩
    rw [d.toBinary64_eq hx, hnegative]

end Value

namespace Sample

/-- A negative number of fifteen digits and 22 places. -/
def correction : Decimal := ⟨true, 123456789012345, 22, by decide, by decide⟩

theorem correction_reread : correction.mantissa < 10 ^ 15 ∧ correction.scale ≤ 22 ∧
    ∃ d', Value.ofJson? .decimal (Value.decimal correction).toJson = .ok (.decimal d') ∧
      correction.sameNumber d' :=
  ⟨by decide, by decide, Value.ofJson_toJson_decimal (by decide) (by decide)⟩

/-- The least positive integer that binary64 does not have. -/
def unevenCount : Decimal :=
  { Decimal.zero with mantissa := 9007199254740993, mantissa_lt := by decide }

/-- A number of few digits whose last place is the 23rd. -/
def manyPlaces : Decimal := ⟨false, 55856283260, 23, by decide, by decide⟩

/-- The greatest decimal. -/
def greatest : Decimal :=
  { Decimal.zero with mantissa := 79228162514264337593543950335, mantissa_lt := by decide }

/-- Sixteen digits or 23 places can be too many: both numbers are read again as a neighbour. The
greatest decimal is written as a number that is too large to be read. -/
theorem decimal_lost :
    (∃ d', Value.ofJson? .decimal (Value.decimal unevenCount).toJson = .ok (.decimal d') ∧
      unevenCount.sameNumber d' = false) ∧
    (∃ d', Value.ofJson? .decimal (Value.decimal manyPlaces).toJson = .ok (.decimal d') ∧
      manyPlaces.sameNumber d' = false) ∧
    Value.ofJson? .decimal (Value.decimal greatest).toJson =
      .error (.typeMismatch "Decimal" "7.922816251426434e+28") := by
  refine ⟨⟨⟨false, 90071992547409920, 1, by decide, by decide⟩, ?_, by decide⟩,
    ⟨⟨false, 5585628326000001, 28, by decide, by decide⟩, ?_, by decide⟩, ?_⟩
  · have hbinary : unevenCount.toBinary64? = some ⟨false, 2 ^ 52, 1⟩ := by decide +kernel
    exact Value.ofJson_of_read hbinary (by decide +kernel)
  · have hbinary : manyPlaces.toBinary64? = some ⟨false, 5531738359457579, -93⟩ := by
      decide +kernel
    exact Value.ofJson_of_read hbinary (by decide +kernel)
  · have hbinary : greatest.toBinary64? = some ⟨false, 2 ^ 52, 44⟩ := by decide +kernel
    have htext : Json.compact (.number (.binary ⟨false, 2 ^ 52, 44⟩)) =
        "7.922816251426434e+28" := by decide +kernel
    have hread : Decimal.read? (String.ofList (Json.Number.binaryChars ⟨false, 2 ^ 52, 44⟩)) =
        none := by decide +kernel
    rw [Value.ofJson_toBinary64 hbinary, hread, ← htext]
    rfl

end Sample

end Reshape
