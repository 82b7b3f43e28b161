import Mathlib.Data.List.Basic
import QueryGateway.Proofs.NumberTexts

/-!
# Printed numbers

The printed form of every number is a numeral of the grammar, after the sign.  The printed form of a whole number
is read as that number.
-/

namespace QueryGateway

namespace Json

/-! ## Digits -/

/-- All characters are decimal digits. -/
def AllDigitChars (cs : List Char) : Prop := ∀ c ∈ cs, c.isDigit = true

theorem encodeChar_of_digit {c : Char} (digit : c.isDigit = true) :
    ∃ b, Utf8.encodeChar c = [b] ∧ isDigitOctet b = true ∧
      digitValue b = c.toNat - '0'.toNat ∧ (b = 0x30 → c = '0') := by
  have range : 0x30 ≤ c.toNat ∧ c.toNat ≤ 0x39 := Char.isDigit_iff_toNat.mp digit
  have octet : (UInt8.ofNat c.toNat).toNat = c.toNat := by
    rw [UInt8.toNat_ofNat', Nat.mod_eq_of_lt (by omega)]
  refine ⟨UInt8.ofNat c.toNat, ?_, ?_, ?_, ?_⟩
  · rw [Utf8.encodeChar_eq_octetsOf, Utf8.octetsOf, if_pos (by omega)]
  · simp [isDigitOctet, octet, range]
  · rw [digitValue, octet]
    rfl
  · intro zero
    have value : c.toNat = '0'.toNat := by
      rw [← octet, zero]
      rfl
    exact Char.toNat_inj.mp value

theorem allDigits_encode {cs : List Char} (digits : AllDigitChars cs) : AllDigits (Utf8.encode cs) := by
  induction cs with
  | nil => exact allDigits_nil
  | cons c cs ih =>
      obtain ⟨digit, others⟩ := List.forall_mem_cons.mp digits
      obtain ⟨b, written, octet, -⟩ := encodeChar_of_digit digit
      rw [Utf8.encode_cons, written]
      exact allDigits_cons.mpr ⟨octet, ih others⟩

theorem someDigits_encode {cs : List Char} (digits : AllDigitChars cs) (nonempty : cs ≠ []) :
    SomeDigits (Utf8.encode cs) := by
  refine ⟨allDigits_encode digits, ?_⟩
  obtain ⟨c, others, rfl⟩ := List.exists_cons_of_ne_nil nonempty
  obtain ⟨b, written, -⟩ := encodeChar_of_digit (digits c List.mem_cons_self)
  rw [Utf8.encode_cons, written]
  exact List.cons_ne_nil _ _

/-- Digits of which the first is not a zero are those of a whole number. -/
theorem wholeDigits_encode_cons {c : Char} {cs : List Char} (digit : c.isDigit = true) (notZero : c ≠ '0')
    (digits : AllDigitChars cs) : WholeDigits (Utf8.encode (c :: cs)) := by
  obtain ⟨b, written, octet, -, zero⟩ := encodeChar_of_digit digit
  rw [Utf8.encode_cons, written]
  exact .other octet (fun same => notZero (zero same)) (allDigits_encode digits)

theorem le_ofDigitChars (cs : List Char) (n : Nat) : n ≤ Nat.ofDigitChars 10 cs n := by
  rw [Nat.ofDigitChars_eq_ofDigitChars_zero]
  exact Nat.le_add_right_of_le (Nat.le_mul_of_pos_left n (Nat.pow_pos (by decide)))

/-- Digits are read as the number that they stand for, if it fits the word. -/
theorem extendSignificand_encode {cs : List Char} (digits : AllDigitChars cs) {significand : Nat}
    (fits : Nat.ofDigitChars 10 cs significand < 18446744073709551616) :
    extendSignificand significand (Utf8.encode cs) =
      (Nat.ofDigitChars 10 cs significand, cs.length, []) := by
  induction cs generalizing significand with
  | nil => rfl
  | cons c cs ih =>
      obtain ⟨digit, others⟩ := List.forall_mem_cons.mp digits
      obtain ⟨b, written, octet, value, -⟩ := encodeChar_of_digit digit
      rw [Nat.ofDigitChars_cons, ← value, Nat.mul_comm] at fits ⊢
      have below := Nat.lt_of_le_of_lt (le_ofDigitChars cs _) fits
      simp [Utf8.encode_cons, written, extendSignificand, octet, below, ih others fits]

end Json

namespace Decimal

theorem allDigitChars_digitChars (n : Nat) : Json.AllDigitChars (digitChars n) :=
  fun _ member => Nat.isDigit_of_mem_toDigits (by decide) (by decide) member

theorem digitChars_ne_nil (n : Nat) : digitChars n ≠ [] := Nat.toDigits_ne_nil

/-- The digits of a positive number do not start with a zero. -/
theorem digitChars_eq_cons {n : Nat} (positive : n ≠ 0) :
    ∃ c cs, digitChars n = c :: cs ∧ c.isDigit = true ∧ c ≠ '0' ∧ Json.AllDigitChars cs := by
  have first : ∃ c cs, digitChars n = c :: cs ∧ c ≠ '0' := by
    induction n using Nat.strongRecOn with
    | ind n ih =>
        unfold digitChars
        by_cases small : n < 10
        · exact ⟨n.digitChar, [], Nat.toDigits_of_lt_base small, fun zero =>
            positive (Nat.digitChar_eq_zero.mp zero)⟩
        · obtain ⟨c, cs, digits, notZero⟩ := ih (n / 10) (by omega) (by omega)
          refine ⟨c, cs ++ [(n % 10).digitChar], ?_, notZero⟩
          rw [Nat.toDigits_of_base_le (by decide) (by omega), ← List.cons_append, ← digits]
          rfl
  obtain ⟨c, cs, digits, notZero⟩ := first
  obtain ⟨digit, others⟩ := List.forall_mem_cons.mp (digits ▸ allDigitChars_digitChars n)
  exact ⟨c, cs, digits, digit, notZero, others⟩

end Decimal

namespace Json

open Decimal

theorem wholeDigits_digitChars (n : Nat) : WholeDigits (Utf8.encode (digitChars n)) := by
  by_cases positive : n ≠ 0
  · obtain ⟨c, cs, digits, digit, notZero, others⟩ := digitChars_eq_cons positive
    rw [digits]
    exact wholeDigits_encode_cons digit notZero others
  · rw [not_not.mp positive]
    exact .zero

theorem WholeDigits.numeral {bs : Bytes} (digits : WholeDigits bs) : Numeral bs := by
  have alone := Numeral.intro digits .absent .absent
  rwa [List.append_nil, List.append_nil] at alone

/-! ## Whole numbers -/

theorem readNumber_digitChars {n : Nat} (fits : n < 18446744073709551616) (negative : Bool) :
    readNumber negative (Utf8.encode (digitChars n)) = wholeNumber negative n [] := by
  by_cases positive : n ≠ 0
  · obtain ⟨c, cs, digits, digit, notZero, others⟩ := digitChars_eq_cons positive
    obtain ⟨b, written, octet, value, zero⟩ := encodeChar_of_digit digit
    have total : Nat.ofDigitChars 10 cs (digitValue b) = n := by
      have all : Nat.ofDigitChars 10 (digitChars n) 0 = n := Nat.ofDigitChars_ten_toDigits
      rwa [digits, Nat.ofDigitChars_cons, Nat.mul_zero, Nat.zero_add, ← value] at all
    have extended := extendSignificand_encode others (total ▸ fits)
    rw [total] at extended
    rw [digits, Utf8.encode_cons, written, List.singleton_append, readNumber,
      if_neg fun same => notZero (zero same), if_pos octet, extended]
    rfl
  · rw [not_not.mp positive]
    rfl

/-- The digits of a whole number that is not negative are read as it. -/
theorem readNumber_of_nonneg {n : WholeNumber} (sign : 0 ≤ n.val) :
    readNumber false (Utf8.encode (digitChars n.val.natAbs)) = .ok (.whole n, []) := by
  have upper := n.upper
  rw [readNumber_digitChars (by omega), wholeNumber, if_neg Bool.false_ne_true,
    dif_pos (show n.val.natAbs < 18446744073709551616 by omega)]
  congr 4
  omega

/-- The digits of a negative number are read as it, after the sign. -/
theorem readNumber_of_neg {n : WholeNumber} (sign : n.val < 0) :
    readNumber true (Utf8.encode (digitChars n.val.natAbs)) = .ok (.whole n, []) := by
  have lower := n.lower
  rw [readNumber_digitChars (by omega), wholeNumber, if_pos rfl,
    dif_pos (show 0 < n.val.natAbs ∧ n.val.natAbs ≤ 9223372036854775808 by omega)]
  congr 4
  omega

/-! ## Doubles -/

end Json

namespace Decimal

theorem readsBack_zero {x : Binary64} (positive : x.mantissa ≠ 0) (k : Int) : readsBack x 0 k = false := by
  have zero : (pointRatio 0 k).1 = 0 ∧ 0 < (pointRatio 0 k).2 := by
    unfold pointRatio
    split
    · exact ⟨Nat.zero_mul _, Nat.one_pos⟩
    · exact ⟨rfl, Nat.pow_pos (by decide)⟩
  have low : 0 < (interval x).1 := by
    unfold interval
    dsimp only
    split <;> omega
  have lowRatio : 0 < (quarterRatio x (interval x).1).1 := by
    unfold quarterRatio Binary64.ratio
    split
    · rw [Nat.shiftLeft_eq]
      exact Nat.mul_pos low (Nat.pow_pos (by decide))
    · exact low
  unfold readsBack
  dsimp only
  split
  · have above : ratioLe (quarterRatio x (interval x).1) (pointRatio 0 k) = false := by
      rw [ratioLe, zero.1, Nat.zero_mul, decide_eq_false_iff_not, Nat.not_le]
      exact Nat.mul_pos lowRatio zero.2
    rw [above, Bool.false_and]
  · have below : ratioLe (pointRatio 0 k) (quarterRatio x (interval x).1) = true := by
      rw [ratioLe, zero.1, Nat.zero_mul, decide_eq_true_iff]
      exact Nat.zero_le _
    rw [below, Bool.not_true, Bool.false_and]

theorem onGrid?_digits_ne_zero {x : Binary64} (positive : x.mantissa ≠ 0) {k : Int} {d : Decimal}
    (found : onGrid? x k = some d) : d.digits ≠ 0 := by
  unfold onGrid? at found
  dsimp only at found
  have nonzero {c : Nat} (reads : readsBack x c k = true) : c ≠ 0 := by
    rintro rfl
    rw [readsBack_zero positive] at reads
    cases reads
  rcases ite_eq_iff.mp found with ⟨reads, same⟩ | ⟨-, found⟩
  · rw [← Option.some.inj same]
    exact nonzero reads
  rcases ite_eq_iff.mp found with ⟨reads, same⟩ | ⟨-, nothing⟩
  · rw [← Option.some.inj same]
    exact nonzero reads
  · cases nothing

theorem search_digits_ne_zero {x : Binary64} (positive : x.mantissa ≠ 0) (leading : Int)
    (tries places : Nat) : (search x leading tries places).digits ≠ 0 := by
  induction tries generalizing places with
  | zero => exact positive
  | succ tries ih =>
      unfold search
      split
      · next found => exact onGrid?_digits_ne_zero positive found
      · exact ih _

theorem stripZeros_digits_ne_zero (fuel : Nat) {d : Decimal} (positive : d.digits ≠ 0) :
    (stripZeros fuel d).digits ≠ 0 := by
  induction fuel generalizing d with
  | zero => exact positive
  | succ fuel ih =>
      unfold stripZeros
      split
      · exact ih (by dsimp only; omega)
      · exact positive

/-- Only zero is written with the digit zero, and then without zeros after it. -/
theorem shortest_exponent_of_zero {x : Binary64} (zero : (shortest x).digits = 0) :
    (shortest x).exponent = 0 := by
  unfold shortest at zero ⊢
  split
  · rfl
  · next positive =>
    rw [if_neg positive] at zero
    exact absurd zero (stripZeros_digits_ne_zero _ (search_digits_ne_zero positive _ _ _))

theorem allDigitChars_replicate (n : Nat) : Json.AllDigitChars (List.replicate n '0') := by
  intro c member
  rw [List.eq_of_mem_replicate member]
  rfl

/-- A point and digits are a fraction. -/
theorem fraction_encode {cs : List Char} (digits : Json.AllDigitChars cs) (nonempty : cs ≠ []) :
    Json.Fraction (Utf8.encode ('.' :: cs)) := .digits (Json.someDigits_encode digits nonempty)

theorem numeral_of_parts {whole fraction : List Char} (digits : Json.WholeDigits (Utf8.encode whole))
    (fractional : Json.Fraction (Utf8.encode fraction)) :
    Json.Numeral (Utf8.encode (whole ++ fraction)) := by
  have numeral := Json.Numeral.intro digits fractional .absent
  rwa [List.append_nil, ← Utf8.encode_append] at numeral

theorem numeral_positionalChars {d : Decimal} (zero : d.digits = 0 → d.exponent = 0) :
    Json.Numeral (Utf8.encode (positionalChars d)) := by
  have all := allDigitChars_digitChars d.digits
  unfold positionalChars
  dsimp only
  split
  · refine numeral_of_parts ?_ (fraction_encode (allDigitChars_replicate 1) nofun)
    by_cases positive : d.digits ≠ 0
    · obtain ⟨c, cs, digits, digit, notZero, others⟩ := digitChars_eq_cons positive
      rw [digits, List.cons_append]
      exact Json.wholeDigits_encode_cons digit notZero
        (List.forall_mem_append.mpr ⟨others, allDigitChars_replicate _⟩)
    · rw [not_not.mp positive, zero (not_not.mp positive)]
      exact .zero
  next below =>
  split
  · next inside =>
    obtain ⟨c, cs, digits, digit, notZero, others⟩ :=
      digitChars_eq_cons fun none => below (Int.le_of_eq (zero none).symm)
    have length := congrArg List.length digits
    rw [digits] at inside ⊢
    obtain ⟨n, split⟩ := Int.eq_succ_of_zero_lt inside
    rw [split]
    refine numeral_of_parts (Json.wholeDigits_encode_cons digit notZero fun b member =>
      others b (List.mem_of_mem_take member)) (fraction_encode (fun b member =>
        (digits ▸ all) b (List.mem_of_mem_drop member)) ?_)
    rw [← List.length_pos_iff, List.length_drop]
    omega
  · have zeroDigits : Json.WholeDigits (Utf8.encode ['0']) := .zero
    show Json.Numeral (Utf8.encode (['0'] ++ '.' :: (List.replicate _ '0' ++ digitChars d.digits)))
    refine numeral_of_parts zeroDigits (fraction_encode
      (List.forall_mem_append.mpr ⟨allDigitChars_replicate _, all⟩) ?_)
    exact List.append_ne_nil_of_right_ne_nil _ (digitChars_ne_nil _)

/-- Either sign may stand before an exponent. -/
theorem sign_encodeChar (p : Prop) [Decidable p] :
    ∃ down, Json.Sign (Utf8.encodeChar (if p then '-' else '+')) down := by
  by_cases minus : p
  · rw [if_pos minus]
    exact ⟨true, .minus⟩
  · rw [if_neg minus]
    exact ⟨false, .plus⟩

theorem numeral_scientificChars {d : Decimal} (positive : d.digits ≠ 0) :
    Json.Numeral (Utf8.encode (scientificChars d)) := by
  obtain ⟨c, cs, digits, digit, notZero, others⟩ := digitChars_eq_cons positive
  have fractional : Json.Fraction
      (Utf8.encode (if (c :: cs).length ≤ 1 then [] else '.' :: (c :: cs).drop 1)) := by
    split
    · exact .absent
    · next long =>
      refine fraction_encode others ?_
      rintro rfl
      exact long (Nat.le_refl 1)
  unfold scientificChars
  dsimp only
  rw [digits]
  generalize ((c :: cs).length : Int) - 1 + d.exponent = leading
  obtain ⟨down, signed⟩ := sign_encodeChar (leading < 0)
  have scaled : Json.Scale (0x65 :: (Utf8.encodeChar _ ++ Utf8.encode (digitChars leading.natAbs))) :=
    .digits (Or.inl rfl) signed
      (Json.someDigits_encode (allDigitChars_digitChars _) (digitChars_ne_nil _))
  rw [List.append_assoc, Utf8.encode_append, Utf8.encode_append]
  exact .intro (Json.wholeDigits_encode_cons digit notZero nofun) fractional scaled

theorem numeral_chars {d : Decimal} (zero : d.digits = 0 → d.exponent = 0) (layout : Layout) :
    Json.Numeral (Utf8.encode (d.chars layout)) := by
  unfold Decimal.chars
  split
  · exact numeral_positionalChars zero
  · dsimp only
    split
    · exact numeral_positionalChars zero
    · next outside => exact numeral_scientificChars fun none => outside (Or.inl none)

end Decimal

end QueryGateway
