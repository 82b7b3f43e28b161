import QueryGateway.Json.Printer
import QueryGateway.Proofs.Utf8

/-!
# Numbers in texts

The grammar of numbers, said without the scanner.  A number of the grammar is read in one way whatever follows
it: its octets alone decide whether it is in range and which number it is, as long as the octets that follow do
not go on with it.  A whole number is read as the number that it was printed from.
-/

namespace QueryGateway.Json

/-! ## Readings that go one way -/

@[simp] theorem toOption_ok {ε α : Type} (a : α) : (.ok a : Except ε α).toOption = some a := rfl

@[simp] theorem toOption_error {ε α : Type} (e : ε) : (.error e : Except ε α).toOption = none := rfl

@[simp] theorem toOption_bind {ε α β : Type} (first : Except ε α) (rest : α → Except ε β) :
    (first >>= rest).toOption = first.toOption.bind fun a => (rest a).toOption := by
  cases first <;> rfl

/-- A text does not go on with a number before it. -/
def EndsNumber (more : Bytes) : Prop :=
  ∀ b ∈ more.head?, isDigitOctet b = false ∧ b ≠ 0x2E ∧ b ≠ 0x65 ∧ b ≠ 0x45

theorem endsNumber_nil : EndsNumber [] := nofun

theorem endsNumber_cons {b : UInt8} {bs : Bytes} :
    EndsNumber (b :: bs) ↔ isDigitOctet b = false ∧ b ≠ 0x2E ∧ b ≠ 0x65 ∧ b ≠ 0x45 := by
  simp [EndsNumber]

/-- A reading goes one way whatever follows: it fails, or it gives a value and leaves what follows. -/
def Steady {α : Type} (read : Bytes → Reading (α × Bytes)) : Prop :=
  ∃ given : Option α, ∀ more, EndsNumber more → (read more).toOption = given.map (·, more)

theorem Steady.map {α β : Type} {read : Bytes → Reading (α × Bytes)} (steady : Steady read) (f : α → β) :
    Steady fun more => (do
      let (a, rest) ← read more
      .ok (f a, rest)) := by
  obtain ⟨given, reads⟩ := steady
  refine ⟨given.map f, fun more ends => ?_⟩
  rw [toOption_bind, reads more ends]
  cases given <;> rfl

theorem Steady.of_eq {α : Type} {read other : Bytes → Reading (α × Bytes)} (steady : Steady other)
    (same : ∀ more, EndsNumber more → read more = other more) : Steady read := by
  obtain ⟨given, reads⟩ := steady
  exact ⟨given, fun more ends => by rw [same more ends, reads more ends]⟩

/-! ## Digits -/

/-- All octets are digits. -/
def AllDigits (bs : Bytes) : Prop := ∀ b ∈ bs, isDigitOctet b = true

theorem allDigits_nil : AllDigits [] := nofun

theorem allDigits_cons {b : UInt8} {bs : Bytes} :
    AllDigits (b :: bs) ↔ isDigitOctet b = true ∧ AllDigits bs := List.forall_mem_cons

theorem EndsNumber.startsWithDigit {more : Bytes} (ends : EndsNumber more) :
    Json.startsWithDigit more = false := by
  cases more with
  | nil => rfl
  | cons b more => exact (endsNumber_cons.mp ends).1

section

variable {digits more : Bytes} (all : AllDigits digits)

include all

theorem AllDigits.takeWhile_append (noDigit : startsWithDigit more = false) :
    (digits ++ more).takeWhile isDigitOctet = digits := by
  rw [List.takeWhile_append_of_pos all]
  cases more with
  | nil => exact List.append_nil _
  | cons b more => rw [List.takeWhile_cons_of_neg (by rw [show isDigitOctet b = false from noDigit]; exact
      Bool.false_ne_true), List.append_nil]

theorem AllDigits.dropWhile_append (noDigit : startsWithDigit more = false) :
    (digits ++ more).dropWhile isDigitOctet = more := by
  rw [List.dropWhile_append_of_pos all]
  cases more with
  | nil => rfl
  | cons b more => exact List.dropWhile_cons_of_neg (by rw [show isDigitOctet b = false from noDigit]; exact
      Bool.false_ne_true)

/-- A significand takes digits up to some place, which does not depend on what follows the digits. -/
theorem AllDigits.extendSignificand (significand : Nat) :
    ∃ total used left, used + left.length = digits.length ∧ AllDigits left ∧
      ∀ more, startsWithDigit more = false →
        Json.extendSignificand significand (digits ++ more) = (total, used, left ++ more) := by
  induction digits generalizing significand with
  | nil =>
      refine ⟨significand, 0, [], rfl, allDigits_nil, fun more noDigit => ?_⟩
      cases more with
      | nil => rfl
      | cons b more =>
          have notDigit : isDigitOctet b = false := noDigit
          simp [Json.extendSignificand, notDigit]
  | cons b digits ih =>
      obtain ⟨digit, others⟩ := allDigits_cons.mp all
      by_cases fits : significand * 10 + digitValue b < 18446744073709551616
      · obtain ⟨total, used, left, length, leftDigits, takes⟩ :=
          ih others (significand * 10 + digitValue b)
        refine ⟨total, used + 1, left, ?_, leftDigits, fun more noDigit => ?_⟩
        · rw [List.length_cons, ← length]
          omega
        · simp [Json.extendSignificand, digit, fits, takes more noDigit]
      · refine ⟨significand, 0, b :: digits, Nat.zero_add _, all, fun more _ => ?_⟩
        simp [Json.extendSignificand, fits]

/-- An exponent takes all digits, or outgrows its word at a place that does not depend on what follows. -/
theorem AllDigits.readExponentDigits (exponent : Nat) :
    (∃ total, ∀ more, startsWithDigit more = false →
        Json.readExponentDigits exponent (digits ++ more) = (some total, more)) ∨
      ∃ left, AllDigits left ∧ ∀ more,
        Json.readExponentDigits exponent (digits ++ more) = (none, left ++ more) := by
  induction digits generalizing exponent with
  | nil =>
      refine Or.inl ⟨exponent, fun more noDigit => ?_⟩
      cases more with
      | nil => rfl
      | cons b more =>
          have notDigit : isDigitOctet b = false := noDigit
          simp [Json.readExponentDigits, notDigit]
  | cons b digits ih =>
      obtain ⟨digit, others⟩ := allDigits_cons.mp all
      by_cases fits : exponent * 10 + digitValue b < 2147483648
      · rcases ih others (exponent * 10 + digitValue b) with ⟨total, takes⟩ | ⟨left, leftDigits, outgrows⟩
        · exact Or.inl ⟨total, fun more noDigit => by
            simp [Json.readExponentDigits, digit, fits, takes more noDigit]⟩
        · exact Or.inr ⟨left, leftDigits, fun more => by
            simp [Json.readExponentDigits, digit, fits, outgrows more]⟩
      · exact Or.inr ⟨digits, others, fun more => by simp [Json.readExponentDigits, digit, fits]⟩

end

/-! ## The grammar -/

/-- Digits, at least one. -/
structure SomeDigits (bs : Bytes) : Prop where
  all : AllDigits bs
  nonempty : bs ≠ []

theorem SomeDigits.eq_cons {bs : Bytes} (digits : SomeDigits bs) :
    ∃ b more, bs = b :: more ∧ isDigitOctet b = true ∧ AllDigits more := by
  obtain ⟨all, nonempty⟩ := digits
  obtain ⟨b, more, rfl⟩ := List.exists_cons_of_ne_nil nonempty
  exact ⟨b, more, rfl, allDigits_cons.mp all⟩

/-- The digits before the point: a zero stands alone. -/
inductive WholeDigits : Bytes → Prop
  | zero : WholeDigits [0x30]
  | other {b : UInt8} {bs : Bytes} (digit : isDigitOctet b = true) (notZero : b ≠ 0x30)
      (digits : AllDigits bs) : WholeDigits (b :: bs)

/-- A point and digits, or nothing. -/
inductive Fraction : Bytes → Prop
  | absent : Fraction []
  | digits {bs : Bytes} (digits : SomeDigits bs) : Fraction (0x2E :: bs)

/-- The sign of an exponent, which may be absent. -/
inductive Sign : Bytes → Bool → Prop
  | absent : Sign [] false
  | plus : Sign [0x2B] false
  | minus : Sign [0x2D] true

/-- An exponent, or nothing. -/
inductive Scale : Bytes → Prop
  | absent : Scale []
  | digits {mark : UInt8} {sign bs : Bytes} {down : Bool} (marked : mark = 0x65 ∨ mark = 0x45)
      (signed : Sign sign down) (digits : SomeDigits bs) : Scale (mark :: (sign ++ bs))

/-- The octets of a number without its sign. -/
inductive Numeral : Bytes → Prop
  | intro {whole fraction scale : Bytes} (digits : WholeDigits whole) (fractional : Fraction fraction)
      (scaled : Scale scale) : Numeral (whole ++ (fraction ++ scale))

/-! ## Readings of numerals -/

theorem steady_finishDouble (negative : Bool) (significand : Nat) (exponent : Int) :
    Steady (finishDouble negative significand exponent) := by
  refine ⟨((Binary64.ofNat? significand).bind fun x => scale? x exponent 4).map (⟨negative, ·⟩),
    fun more _ => ?_⟩
  unfold finishDouble
  split
  · next x scaled => rw [scaled]; rfl
  · next unscaled => rw [unscaled]; rfl

theorem readScale_of_endsNumber {more : Bytes} (ends : EndsNumber more) (negative : Bool)
    (significand : Nat) (exponent : Int) :
    readScale negative significand exponent more = finishDouble negative significand exponent more := by
  unfold readScale
  split
  · exact absurd rfl (endsNumber_cons.mp ends).2.2.1
  · exact absurd rfl (endsNumber_cons.mp ends).2.2.2
  · rfl

/-- What an exponent without a sign is read as. -/
def readUnsigned (negative : Bool) (significand : Nat) (exponent : Int) (down : Bool) :
    Bytes → Reading (Double × Bytes)
  | [] => faultHere .missingValue []
  | b :: rest =>
    if isDigitOctet b then
      match readExponentDigits (digitValue b) rest with
      | (some e, rest) =>
        finishDouble negative significand (if down then exponent - e else exponent + e) rest
      | (none, rest) =>
        if significand ≠ 0 ∧ down = false then faultHere .numberOutOfRange rest
        else .ok (⟨negative, Binary64.zero⟩, rest.dropWhile isDigitOctet)
    else faultHere .invalidNumber rest

theorem readExponent_plain {b : UInt8} (notPlus : b ≠ 0x2B) (notMinus : b ≠ 0x2D) (negative : Bool)
    (significand : Nat) (exponent : Int) (bs : Bytes) :
    readExponent negative significand exponent (b :: bs) =
      readUnsigned negative significand exponent false (b :: bs) := by
  unfold readExponent
  split
  next same =>
  split at same
  · next starts => exact absurd (List.cons.inj starts).1 notPlus
  · next starts => exact absurd (List.cons.inj starts).1 notMinus
  · cases same
    rfl

/-- An exponent is read without its sign. -/
theorem readExponent_cases (negative : Bool) (significand : Nat) (exponent : Int) (bs : Bytes) :
    ∃ sign down digits, Sign sign down ∧ bs = sign ++ digits ∧ readExponent negative significand exponent bs =
      readUnsigned negative significand exponent down digits := by
  cases bs with
  | nil => exact ⟨[], false, [], .absent, rfl, rfl⟩
  | cons b bs =>
      by_cases plus : b = 0x2B
      · subst plus
        exact ⟨_, false, bs, .plus, rfl, rfl⟩
      by_cases minus : b = 0x2D
      · subst minus
        exact ⟨_, true, bs, .minus, rfl, rfl⟩
      exact ⟨[], false, b :: bs, .absent, rfl, readExponent_plain plus minus _ _ _ _⟩

theorem readExponent_eq {sign : Bytes} {down : Bool} (signed : Sign sign down) {b : UInt8}
    (digit : isDigitOctet b = true) (negative : Bool) (significand : Nat) (exponent : Int) (bs : Bytes) :
    readExponent negative significand exponent (sign ++ b :: bs) =
      readUnsigned negative significand exponent down (b :: bs) := by
  cases signed with
  | plus => rfl
  | minus => rfl
  | absent =>
      exact readExponent_plain (by rintro rfl; cases digit) (by rintro rfl; cases digit) _ _ _ _

variable {whole fraction scale : Bytes}

theorem Scale.steady (scaled : Scale scale) (negative : Bool) (significand : Nat) (exponent : Int) :
    Steady fun more => readScale negative significand exponent (scale ++ more) := by
  cases scaled with
  | absent =>
      exact (steady_finishDouble negative significand exponent).of_eq
        fun more ends => readScale_of_endsNumber ends negative significand exponent
  | @digits mark sign bs down marked signed digits =>
      obtain ⟨b, others, rfl, digit, all⟩ := digits.eq_cons
      have unsigned (more : Bytes) :
          readScale negative significand exponent (mark :: (sign ++ b :: others) ++ more) =
            readUnsigned negative significand exponent down (b :: (others ++ more)) := by
        rw [List.cons_append, List.append_assoc, List.cons_append,
          ← readExponent_eq signed digit negative significand exponent]
        rcases marked with rfl | rfl <;> rfl
      simp only [unsigned, readUnsigned, if_pos digit]
      rcases all.readExponentDigits (digitValue b) with ⟨total, takes⟩ | ⟨left, leftDigits, outgrows⟩
      · refine (steady_finishDouble negative significand
          (if down then exponent - total else exponent + total)).of_eq fun more ends => ?_
        rw [takes more ends.startsWithDigit]
      · by_cases nonzero : significand ≠ 0 ∧ down = false
        · refine ⟨none, fun more ends => ?_⟩
          simp only [outgrows, if_pos nonzero]
          rfl
        · refine ⟨some ⟨negative, Binary64.zero⟩, fun more ends => ?_⟩
          simp only [outgrows, if_neg nonzero, leftDigits.dropWhile_append ends.startsWithDigit]
          rfl

/-- No digit starts what may follow the digits of a number. -/
theorem Scale.startsWithDigit_append (scaled : Scale scale) {more : Bytes} (ends : EndsNumber more) :
    startsWithDigit (scale ++ more) = false := by
  cases scaled with
  | absent => exact ends.startsWithDigit
  | digits marked => rcases marked with rfl | rfl <;> rfl

theorem Fraction.startsWithDigit_append (fractional : Fraction fraction) (scaled : Scale scale)
    {more : Bytes} (ends : EndsNumber more) : startsWithDigit (fraction ++ scale ++ more) = false := by
  cases fractional with
  | absent => exact scaled.startsWithDigit_append ends
  | digits => rfl

theorem Scale.readDouble_append (scaled : Scale scale) {more : Bytes} (ends : EndsNumber more)
    (negative : Bool) (significand : Nat) (exponent : Int) :
    readDouble negative significand exponent (scale ++ more) =
      readScale negative significand exponent (scale ++ more) := by
  cases scaled with
  | absent =>
      rw [List.nil_append]
      unfold readDouble
      split
      · exact absurd rfl (endsNumber_cons.mp ends).2.1
      · rfl
  | digits marked => rcases marked with rfl | rfl <;> rfl

theorem Fraction.steady (fractional : Fraction fraction) (scaled : Scale scale) (negative : Bool)
    (significand : Nat) (exponent : Int) :
    Steady fun more => readDouble negative significand exponent (fraction ++ scale ++ more) := by
  cases fractional with
  | absent =>
      exact (scaled.steady negative significand exponent).of_eq
        fun more ends => scaled.readDouble_append ends negative significand exponent
  | @digits bs digits =>
      obtain ⟨total, used, left, length, leftDigits, takes⟩ := digits.all.extendSignificand significand
      refine (scaled.steady negative total (exponent - used)).of_eq fun more ends => ?_
      have noDigit := scaled.startsWithDigit_append ends
      show readFraction negative significand exponent (bs ++ scale ++ more) = _
      rw [List.append_assoc, readFraction, takes _ noDigit]
      cases left with
      | nil =>
          have someUsed : used ≠ 0 := by
            rintro rfl
            exact digits.nonempty (List.length_eq_zero_iff.mp length.symm)
          simp only [List.nil_append, noDigit, Bool.false_eq_true, if_false, if_neg someUsed]
      | cons b left =>
          have digit : startsWithDigit (b :: left ++ (scale ++ more)) = true :=
            (allDigits_cons.mp leftDigits).1
          simp only [if_pos digit, leftDigits.dropWhile_append noDigit]

theorem steady_wholeNumber (negative : Bool) (significand : Nat) :
    Steady (wholeNumber negative significand) := by
  unfold wholeNumber
  cases negative with
  | true =>
      by_cases fits : 0 < significand ∧ significand ≤ 9223372036854775808
      · exact ⟨some (.whole ⟨-significand, by omega, by omega⟩), fun more _ => by simp [fits]⟩
      · simp only [dif_neg fits, if_true]
        exact (steady_finishDouble true significand 0).map Number.double
  | false =>
      by_cases fits : significand < 18446744073709551616
      · exact ⟨some (.whole ⟨significand, by omega, by omega⟩), fun more _ => by simp [fits]⟩
      · exact ⟨none, fun more _ => by simp [fits, faultHere]⟩

theorem finishNumber_of_endsNumber {more : Bytes} (ends : EndsNumber more) (negative : Bool)
    (significand : Nat) :
    finishNumber negative significand more = wholeNumber negative significand more := by
  unfold finishNumber
  split
  · exact absurd rfl (endsNumber_cons.mp ends).2.1
  · exact absurd rfl (endsNumber_cons.mp ends).2.2.1
  · exact absurd rfl (endsNumber_cons.mp ends).2.2.2
  · rfl

theorem Fraction.steady_finishNumber (fractional : Fraction fraction) (scaled : Scale scale)
    (negative : Bool) (significand : Nat) :
    Steady fun more => finishNumber negative significand (fraction ++ scale ++ more) := by
  have double := (fractional.steady scaled negative significand 0).map Number.double
  cases fractional with
  | digits => exact double
  | absent =>
      cases scaled with
      | absent =>
          exact (steady_wholeNumber negative significand).of_eq
            fun more ends => finishNumber_of_endsNumber ends negative significand
      | digits marked => rcases marked with rfl | rfl <;> exact double

/-- A numeral is read in one way, whatever follows it. -/
theorem Numeral.steady {bs : Bytes} (numeral : Numeral bs) (negative : Bool) :
    Steady fun more => readNumber negative (bs ++ more) := by
  obtain @⟨whole, fraction, scale, digits, fractional, scaled⟩ := numeral
  simp only [List.append_assoc]
  cases digits with
  | zero =>
      refine (fractional.steady_finishNumber scaled negative 0).of_eq fun more ends => ?_
      have noDigit := fractional.startsWithDigit_append scaled ends
      rw [List.append_assoc] at noDigit
      simp only [List.singleton_append, readNumber, if_true, noDigit, Bool.false_eq_true, if_false,
        List.append_assoc]
  | @other b bs digit notZero digits =>
      obtain ⟨total, used, left, -, leftDigits, takes⟩ := digits.extendSignificand (digitValue b)
      cases left with
      | nil =>
          refine (fractional.steady_finishNumber scaled negative total).of_eq fun more ends => ?_
          have noDigit := fractional.startsWithDigit_append scaled ends
          rw [List.append_assoc] at noDigit ⊢
          simp only [List.cons_append, readNumber, if_neg notZero, if_pos digit, takes _ noDigit,
            List.nil_append, noDigit, Bool.false_eq_true, if_false]
      | cons c left =>
          refine ((fractional.steady scaled negative total (c :: left).length).map Number.double).of_eq
            fun more ends => ?_
          have noDigit := fractional.startsWithDigit_append scaled ends
          rw [List.append_assoc] at noDigit
          have goesOn : startsWithDigit (c :: left ++ (fraction ++ (scale ++ more))) = true :=
            (allDigits_cons.mp leftDigits).1
          rw [List.cons_append]
          simp only [readNumber, if_neg notZero, if_pos digit, takes _ noDigit, if_pos goesOn,
            leftDigits.takeWhile_append noDigit, leftDigits.dropWhile_append noDigit, List.append_assoc]

/-- What follows a numeral changes neither whether it is read nor as which number. -/
theorem Numeral.toOption_readNumber {bs more : Bytes} (numeral : Numeral bs) (negative : Bool)
    (ends : EndsNumber more) :
    (readNumber negative (bs ++ more)).toOption =
      (readNumber negative bs).toOption.map fun read => (read.1, more) := by
  obtain ⟨given, reads⟩ := numeral.steady negative
  have alone : (readNumber negative (bs ++ [])).toOption = given.map (·, []) := reads [] endsNumber_nil
  have followed : (readNumber negative (bs ++ more)).toOption = given.map (·, more) := reads more ends
  rw [List.append_nil] at alone
  rw [followed, alone, Option.map_map]
  rfl

end QueryGateway.Json
