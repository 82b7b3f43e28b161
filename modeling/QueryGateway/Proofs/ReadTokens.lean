import Mathlib.Data.List.TakeWhile
import QueryGateway.Proofs.NumberTexts
import QueryGateway.Proofs.RecordReading
import QueryGateway.Proofs.StringTexts

/-!
# Tokens that are read

The readers of words, numbers and strings take nothing but what the grammar writes: the octets that they take are the
text of a token, and they leave what follows it.
Main statements: `textThen_of_readNumber` and `textThen_of_readString`.
-/

namespace QueryGateway.Json

open Shape (bind_eq_ok)

/-- Octets are a text of a grammar, and then a rest. -/
def TextThen (Grammar : Bytes → Prop) (bs rest : Bytes) : Prop := ∃ text, Grammar text ∧ bs = text ++ rest

theorem TextThen.length_le {Grammar : Bytes → Prop} {bs rest : Bytes} (split : TextThen Grammar bs rest) :
    rest.length ≤ bs.length := by
  obtain ⟨text, -, rfl⟩ := split
  rw [List.length_append]
  exact Nat.le_add_left _ _

section

variable {bs rest : Bytes}

theorem eq_append_of_readWord {word : Bytes} (done : readWord word bs = .ok rest) : bs = word ++ rest := by
  induction word generalizing bs with
  | nil => exact Except.ok.inj done
  | cons w word ih =>
      cases bs with
      | nil => cases done
      | cons b bs =>
          unfold readWord at done
          split at done
          · next same => rw [same, List.cons_append, ih done]
          · cases done

/-! ## Digits -/

theorem AllDigits.append {digits more : Bytes} (all : AllDigits digits) (others : AllDigits more) :
    AllDigits (digits ++ more) :=
  List.forall_mem_append.mpr ⟨all, others⟩

theorem textThen_dropDigits (bs : Bytes) : TextThen AllDigits bs (bs.dropWhile isDigitOctet) :=
  ⟨_, fun _ => List.mem_takeWhile_imp, List.takeWhile_append_dropWhile.symm⟩

theorem textThen_someDigits (starts : startsWithDigit bs = true) :
    TextThen SomeDigits bs (bs.dropWhile isDigitOctet) := by
  cases bs with
  | nil => cases starts
  | cons b bs =>
      obtain ⟨digits, all, same⟩ := textThen_dropDigits bs
      refine ⟨b :: digits, ⟨allDigits_cons.mpr ⟨starts, all⟩, nofun⟩, ?_⟩
      rw [List.dropWhile_cons_of_pos (show isDigitOctet b = true from starts)]
      exact congrArg (b :: ·) same

/-- The digits that a significand takes. -/
theorem exists_extendSignificand (significand : Nat) (bs : Bytes) :
    ∃ digits, AllDigits digits ∧ digits.length = (extendSignificand significand bs).2.1 ∧
      bs = digits ++ (extendSignificand significand bs).2.2 := by
  induction bs generalizing significand with
  | nil => exact ⟨[], allDigits_nil, rfl, rfl⟩
  | cons b bs ih =>
      unfold extendSignificand
      split
      · next fits =>
        rw [Bool.and_eq_true] at fits
        obtain ⟨digits, all, used, same⟩ := ih (significand * 10 + digitValue b)
        exact ⟨b :: digits, allDigits_cons.mpr ⟨fits.1, all⟩, congrArg (· + 1) used, congrArg (b :: ·) same⟩
      · exact ⟨[], allDigits_nil, rfl, rfl⟩

theorem textThen_readExponentDigits (exponent : Nat) (bs : Bytes) :
    TextThen AllDigits bs (readExponentDigits exponent bs).2 := by
  induction bs generalizing exponent with
  | nil => exact ⟨[], allDigits_nil, rfl⟩
  | cons b bs ih =>
      unfold readExponentDigits
      split
      · next digit =>
        split
        · obtain ⟨digits, all, same⟩ := ih (exponent * 10 + digitValue b)
          exact ⟨b :: digits, allDigits_cons.mpr ⟨digit, all⟩, congrArg (b :: ·) same⟩
        · exact ⟨[b], allDigits_cons.mpr ⟨digit, allDigits_nil⟩, rfl⟩
      · exact ⟨[], allDigits_nil, rfl⟩

/-! ## Numbers -/

/-- What follows the digits before the point: a fraction and an exponent, each of which may be absent. -/
inductive Decimals : Bytes → Prop
  | intro {fraction scale : Bytes} (fractional : Fraction fraction) (scaled : Scale scale) :
      Decimals (fraction ++ scale)

variable {negative : Bool} {significand : Nat} {exponent : Int} {x : Double} {n : Number}

theorem rest_of_finishDouble (done : finishDouble negative significand exponent bs = .ok (x, rest)) :
    rest = bs := by
  unfold finishDouble at done
  split at done
  · cases done
    rfl
  · cases done

theorem textThen_of_readUnsigned {down : Bool}
    (done : readUnsigned negative significand exponent down bs = .ok (x, rest)) : TextThen SomeDigits bs rest := by
  cases bs with
  | nil => cases done
  | cons b bs =>
      obtain ⟨digits, all, same⟩ := textThen_readExponentDigits (digitValue b) bs
      simp only [readUnsigned] at done
      split at done
      · next digit =>
        split at done
        · next e after takes =>
          rw [takes] at same
          rw [rest_of_finishDouble done]
          exact ⟨b :: digits, ⟨allDigits_cons.mpr ⟨digit, all⟩, List.cons_ne_nil _ _⟩, congrArg (b :: ·) same⟩
        · next after takes =>
          rw [takes] at same
          split at done
          · cases done
          · cases done
            obtain ⟨more, others, left⟩ := textThen_dropDigits after
            refine ⟨b :: (digits ++ more), ⟨allDigits_cons.mpr ⟨digit, all.append others⟩, List.cons_ne_nil _ _⟩, ?_⟩
            rw [List.cons_append, List.append_assoc, ← left, same]
      · cases done

theorem textThen_of_readExponent {mark : UInt8} (marked : mark = 0x65 ∨ mark = 0x45)
    (done : readExponent negative significand exponent bs = .ok (x, rest)) : TextThen Scale (mark :: bs) rest := by
  obtain ⟨sign, down, digits, signed, rfl, same⟩ := readExponent_cases negative significand exponent bs
  rw [same] at done
  obtain ⟨text, some, rfl⟩ := textThen_of_readUnsigned done
  exact ⟨mark :: (sign ++ text), .digits marked signed some, by rw [List.cons_append, List.append_assoc]⟩

theorem textThen_of_readScale (done : readScale negative significand exponent bs = .ok (x, rest)) :
    TextThen Scale bs rest := by
  unfold readScale at done
  split at done
  · exact textThen_of_readExponent (Or.inl rfl) done
  · exact textThen_of_readExponent (Or.inr rfl) done
  · exact ⟨[], .absent, (rest_of_finishDouble done).symm⟩

theorem textThen_of_readFraction (done : readFraction negative significand exponent bs = .ok (x, rest)) :
    TextThen Decimals (0x2E :: bs) rest := by
  have decimals {digits after : Bytes} (some : SomeDigits digits) (scaled : TextThen Scale after rest) :
      TextThen Decimals (0x2E :: (digits ++ after)) rest := by
    obtain ⟨scale, scaled, rfl⟩ := scaled
    exact ⟨_, .intro (.digits some) scaled, by rw [List.append_assoc, List.cons_append]⟩
  obtain ⟨digits, all, used, same⟩ := exists_extendSignificand significand bs
  unfold readFraction at done
  dsimp only at done
  generalize extendSignificand significand bs = taken at *
  obtain ⟨total, count, after⟩ := taken
  subst same
  split at done
  · next goesOn =>
    obtain ⟨more, others, left⟩ := textThen_someDigits goesOn
    have whole : SomeDigits (digits ++ more) :=
      ⟨all.append others.all, fun none => others.nonempty (List.append_eq_nil_iff.mp none).2⟩
    have scaled := decimals whole (textThen_of_readScale done)
    rwa [List.append_assoc, ← left] at scaled
  · split at done
    · split at done <;> cases done
    · next someUsed =>
      have someDigits : digits ≠ [] := by
        rintro rfl
        exact someUsed used.symm
      exact decimals ⟨all, someDigits⟩ (textThen_of_readScale done)

theorem textThen_of_readDouble (done : readDouble negative significand exponent bs = .ok (x, rest)) :
    TextThen Decimals bs rest := by
  unfold readDouble at done
  split at done
  · exact textThen_of_readFraction done
  · obtain ⟨scale, scaled, rfl⟩ := textThen_of_readScale done
    exact ⟨_, .intro .absent scaled, rfl⟩

theorem textThen_of_finishNumber (done : finishNumber negative significand bs = .ok (n, rest)) :
    TextThen Decimals bs rest := by
  unfold finishNumber at done
  split at done
  case h_4 =>
    have same : rest = bs := by
      unfold wholeNumber at done
      split at done
      · split at done
        · cases done
          rfl
        · obtain ⟨⟨x, after⟩, read, done⟩ := bind_eq_ok done
          cases done
          exact rest_of_finishDouble read
      · split at done
        · cases done
          rfl
        · cases done
    exact ⟨_, .intro .absent .absent, same.symm⟩
  all_goals
    obtain ⟨⟨x, after⟩, read, done⟩ := bind_eq_ok done
    cases done
    exact textThen_of_readDouble read

/-- What is read as a number is a numeral. -/
theorem textThen_of_readNumber (done : readNumber negative bs = .ok (n, rest)) : TextThen Numeral bs rest := by
  have numeral {whole after : Bytes} (digits : WholeDigits whole) (decimals : TextThen Decimals after rest) :
      TextThen Numeral (whole ++ after) rest := by
    obtain ⟨_, ⟨fractional, scaled⟩, rfl⟩ := decimals
    exact ⟨_, .intro digits fractional scaled, (List.append_assoc _ _ _).symm⟩
  cases bs with
  | nil => cases done
  | cons b bs =>
      obtain ⟨digits, all, -, same⟩ := exists_extendSignificand (digitValue b) bs
      unfold readNumber at done
      dsimp only at done
      split at done
      · next zero =>
        subst zero
        split at done
        · cases done
        · exact numeral .zero (textThen_of_finishNumber done)
      · next notZero =>
        split at done
        · next digit =>
          split at done
          · obtain ⟨⟨x, after⟩, read, done⟩ := bind_eq_ok done
            cases done
            obtain ⟨more, others, left⟩ := textThen_dropDigits (extendSignificand (digitValue b) bs).2.2
            have whole := numeral (.other digit notZero (all.append others)) (textThen_of_readDouble read)
            rwa [List.cons_append, List.append_assoc, ← left, ← same] at whole
          · have whole := numeral (.other digit notZero all) (textThen_of_finishNumber done)
            rwa [List.cons_append, ← same] at whole
        · cases done

/-! ## Strings -/

theorem textThen_of_readHex {unit : Nat} (done : readHex bs = .ok unit) : TextThen (CodeUnit unit) bs (bs.drop 4) := by
  unfold readHex at done
  split at done
  · split at done
    · next first second third fourth =>
      cases done
      exact ⟨_, .intro first second third fourth, rfl⟩
    · cases done
  · cases done

/-- What is read as a hexadecimal escape is one, after its letter. -/
theorem textThen_of_readUnicode {c : Char} {taken : Nat} (done : readUnicode bs = .ok (c, taken)) :
    ∃ text, Escape c (0x75 :: text) ∧ text.length = taken ∧ bs = text ++ bs.drop taken := by
  unfold readUnicode at done
  obtain ⟨unit, unitRead, done⟩ := bind_eq_ok done
  obtain ⟨text, digits, same⟩ := textThen_of_readHex unitRead
  dsimp only at done
  split at done
  · cases done
  next notTrailing =>
  split at done
  · next alone =>
    cases done
    exact ⟨text, .unit digits (by omega), digits.length_eq, same⟩
  next leading =>
  split at done
  · cases done
  next b more after =>
  split at done
  · cases done
  next backslash =>
  split at done
  · cases done
  next u more =>
  split at done
  · cases done
  next letter =>
  obtain ⟨trail, trailRead, done⟩ := bind_eq_ok done
  split at done
  · cases done
  next trailing =>
  obtain ⟨low, lowDigits, lowSame⟩ := textThen_of_readHex trailRead
  rw [ne_eq, Decidable.not_not] at backslash letter
  subst backslash letter
  have pair := Except.ok.inj done
  simp only [Prod.mk.injEq] at pair
  obtain ⟨rfl, rfl⟩ := pair
  rw [after, lowSame] at same
  have length : (text ++ 0x5C :: 0x75 :: low).length = 10 := by
    rw [List.length_append, digits.length_eq, List.length_cons, List.length_cons, lowDigits.length_eq]
  have whole : bs = (text ++ 0x5C :: 0x75 :: low) ++ more.drop 4 := by
    rw [same, List.append_assoc]
    rfl
  refine ⟨_, .pair digits (by omega) lowDigits (by omega), length, ?_⟩
  rw [whole, ← length, List.drop_left]

/-- What is read as an escape is one, after its backslash. -/
theorem textThen_of_readEscape {c : Char} {taken : Nat} (done : readEscape bs = .ok (c, taken)) :
    TextThen (Escape c) bs (bs.drop taken) := by
  unfold readEscape at done
  split at done
  case h_10 more =>
    obtain ⟨⟨read, inner⟩, unicode, done⟩ := bind_eq_ok done
    cases done
    obtain ⟨text, escaped, -, same⟩ := textThen_of_readUnicode unicode
    exact ⟨_, escaped, congrArg (_ :: ·) same⟩
  all_goals
    cases done
  all_goals exact ⟨_, .letter (by decide), rfl⟩

/-- The octets that continue a character stand for themselves. -/
theorem readOctets_of_tail {tail octets : Bytes} (continues : ∀ b ∈ tail, Utf8.isTail b = true)
    (done : readOctets bs = .ok (tail ++ octets, rest)) :
    ∃ after, bs = tail ++ after ∧ readOctets after = .ok (octets, rest) := by
  induction tail generalizing bs with
  | nil => exact ⟨bs, rfl, done⟩
  | cons t tail ih =>
      obtain ⟨isTail, continues⟩ := List.forall_mem_cons.mp continues
      cases bs with
      | nil => 
          rw [readOctets] at done
          cases done
      | cons b bs =>
          rw [readOctets] at done
          split at done
          · cases done
          split at done
          · obtain ⟨⟨c, taken⟩, -, done⟩ := bind_eq_ok done
            obtain ⟨⟨others, after⟩, -, done⟩ := bind_eq_ok done
            obtain ⟨lead, more, written, notTail, -⟩ := Utf8.exists_tail c
            have octets := congrArg Prod.fst (Except.ok.inj done)
            dsimp only at octets
            rw [written] at octets
            rw [← (List.cons.inj octets).1, notTail] at isTail
            cases isTail
          split at done
          · cases done
          · obtain ⟨⟨others, after⟩, read, done⟩ := bind_eq_ok done
            cases done
            obtain ⟨after, rfl, left⟩ := ih continues read
            exact ⟨after, rfl, left⟩

/-- A character may stand for itself unless its first octet is a quote, a backslash or a control. -/
theorem isOrdinary_of_lead {c : Char} {b : UInt8} {tail : Bytes} (written : Utf8.encodeChar c = b :: tail)
    (notQuote : b ≠ 0x22) (notBackslash : b ≠ 0x5C) (printable : ¬b.toNat < 0x20) : IsOrdinary c := by
  refine ⟨?_, ?_, ?_⟩
  · rintro rfl
    exact notQuote (List.cons.inj written).1.symm
  · rintro rfl
    exact notBackslash (List.cons.inj written).1.symm
  · by_contra control
    rw [Utf8.encodeChar_eq_octetsOf, Utf8.octetsOf, if_pos (by omega)] at written
    rw [← (List.cons.inj written).1, UInt8.toNat_ofNat', Nat.mod_eq_of_lt (by omega)] at printable
    omega

/-- What is read as the octets of characters is the text of a string. -/
theorem textThen_of_readOctets {cs : List Char} (done : readOctets bs = .ok (Utf8.encode cs, rest)) :
    TextThen (StringText cs) bs rest := by
  induction length : bs.length using Nat.strongRecOn generalizing bs cs with
  | ind n ih =>
      cases bs with
      | nil =>
          rw [readOctets] at done
          cases done
      | cons b bs =>
          rw [List.length_cons] at length
          rw [readOctets] at done
          split at done
          · next quote =>
            subst quote
            have pair := Except.ok.inj done
            simp only [Prod.mk.injEq] at pair
            obtain rfl : cs = [] := Utf8.encode_injective pair.1.symm
            exact ⟨_, .close, congrArg (_ :: ·) pair.2⟩
          split at done
          · next backslash =>
            subst backslash
            obtain ⟨⟨c, taken⟩, escape, done⟩ := bind_eq_ok done
            obtain ⟨⟨octets, after⟩, read, done⟩ := bind_eq_ok done
            have pair := Except.ok.inj done
            simp only [Prod.mk.injEq] at pair
            obtain ⟨others, rfl, rfl⟩ := Utf8.eq_cons_of_encode pair.1
            obtain ⟨text, escaped, same⟩ := textThen_of_readEscape escape
            obtain ⟨more, written, left⟩ :=
              ih (bs.drop taken).length (by rw [List.length_drop]; omega) (pair.2 ▸ read) rfl
            refine ⟨_, .escape escaped written, ?_⟩
            rw [List.cons_append, List.append_assoc, ← left, ← same]
          split at done
          · cases done
          · next notQuote notBackslash printable =>
            obtain ⟨⟨octets, after⟩, read, done⟩ := bind_eq_ok done
            have pair := Except.ok.inj done
            simp only [Prod.mk.injEq] at pair
            obtain ⟨c, others, tail, rfl, written, continues, rfl⟩ := Utf8.exists_cons_of_encode pair.1
            obtain ⟨after, rfl, left⟩ := readOctets_of_tail continues (pair.2 ▸ read)
            have itself : IsOrdinary c := isOrdinary_of_lead written notQuote notBackslash printable
            obtain ⟨more, others, same⟩ := ih after.length (by rw [List.length_append] at length; omega) left rfl
            refine ⟨_, .ordinary itself others, ?_⟩
            rw [written, List.append_assoc, ← same]
            rfl

/-- What is read as a string is the text of one. -/
theorem textThen_of_readString {s : String} (done : readString bs = .ok (s, rest)) :
    TextThen (StringText s.toList) bs rest := by
  obtain ⟨⟨octets, after⟩, read, done⟩ := bind_eq_ok done
  dsimp only at done
  split at done
  · next cs decoded =>
    cases done
    rw [String.toList_ofList]
    rw [← Utf8.encode_of_decode? decoded] at read
    exact textThen_of_readOctets read
  · cases done

end

end QueryGateway.Json
