import QueryGateway.Json.Printer
import QueryGateway.Proofs.Utf8

/-!
# Strings in texts

The grammar of strings, said without the scanner: a character stands for itself, or is written by an escape of
one letter, of one code unit, or of a surrogate pair.  A string of the grammar is read as its characters, and the
printed form of every string is a string of the grammar.
-/

namespace QueryGateway

namespace Json

/-! ## The grammar -/

/-- Four hexadecimal digits write a code unit. -/
inductive CodeUnit : Nat → Bytes → Prop
  | intro {a b c d : UInt8} {w x y z : Nat} (first : hexValue? a = some w) (second : hexValue? b = some x)
      (third : hexValue? c = some y) (fourth : hexValue? d = some z) :
      CodeUnit (((w * 16 + x) * 16 + y) * 16 + z) [a, b, c, d]

/-- The letters that are escapes, with their characters. -/
def letterEscapes : List (UInt8 × Char) :=
  [(0x22, '"'), (0x5C, '\\'), (0x2F, '/'), (0x62, '\x08'), (0x66, '\x0C'), (0x6E, '\n'), (0x72, '\r'),
    (0x74, '\t')]

/-- An escape, after its backslash, writes a character. -/
inductive Escape : Char → Bytes → Prop
  | letter {letter : UInt8} {c : Char} (listed : (letter, c) ∈ letterEscapes) : Escape c [letter]
  | unit {n : Nat} {bs : Bytes} (digits : CodeUnit n bs) (alone : n < 0xD800 ∨ 0xDFFF < n) :
      Escape (Char.ofNat n) (0x75 :: bs)
  | pair {high low : Nat} {bs more : Bytes} (leading : CodeUnit high bs)
      (highRange : 0xD800 ≤ high ∧ high ≤ 0xDBFF) (trailing : CodeUnit low more)
      (lowRange : 0xDC00 ≤ low ∧ low ≤ 0xDFFF) :
      Escape (Char.ofNat ((high - 0xD800) * 0x400 + (low - 0xDC00) + 0x10000))
        (0x75 :: (bs ++ 0x5C :: 0x75 :: more))

/-- A character may stand for itself. -/
def IsOrdinary (c : Char) : Prop := c ≠ '"' ∧ c ≠ '\\' ∧ 0x20 ≤ c.toNat

/-- The octets of a string after its opening quote, the closing one with them. -/
inductive StringText : List Char → Bytes → Prop
  | close : StringText [] [0x22]
  | ordinary {c : Char} {cs : List Char} {bs : Bytes} (itself : IsOrdinary c) (others : StringText cs bs) :
      StringText (c :: cs) (Utf8.encodeChar c ++ bs)
  | escape {c : Char} {cs : List Char} {octets bs : Bytes} (escaped : Escape c octets)
      (others : StringText cs bs) : StringText (c :: cs) (0x5C :: (octets ++ bs))

/-! ## Reading -/

theorem CodeUnit.readHex_append {n : Nat} {bs : Bytes} (digits : CodeUnit n bs) (more : Bytes) :
    readHex (bs ++ more) = .ok n := by
  obtain ⟨first, second, third, fourth⟩ := digits
  simp only [List.cons_append, readHex, first, second, third, fourth]

theorem CodeUnit.length_eq {n : Nat} {bs : Bytes} (digits : CodeUnit n bs) : bs.length = 4 := by
  cases digits
  rfl

theorem CodeUnit.drop_append {n : Nat} {bs : Bytes} (digits : CodeUnit n bs) (more : Bytes) :
    (bs ++ more).drop 4 = more := by
  rw [← digits.length_eq, List.drop_left]

theorem readEscape_unicode {c : Char} {taken : Nat} {bs : Bytes}
    (read : readUnicode bs = .ok (c, taken)) : readEscape (0x75 :: bs) = .ok (c, taken + 1) := by
  rw [readEscape, read]
  rfl

theorem Escape.readEscape_append {c : Char} {octets : Bytes} (escaped : Escape c octets) (more : Bytes) :
    readEscape (octets ++ more) = .ok (c, octets.length) := by
  cases escaped with
  | letter listed =>
      simp only [letterEscapes, List.mem_cons, Prod.mk.injEq, List.not_mem_nil, or_false] at listed
      rcases listed with ⟨rfl, rfl⟩ | ⟨rfl, rfl⟩ | ⟨rfl, rfl⟩ | ⟨rfl, rfl⟩ | ⟨rfl, rfl⟩ | ⟨rfl, rfl⟩ |
        ⟨rfl, rfl⟩ | ⟨rfl, rfl⟩ <;> rfl
  | @unit n bs digits alone =>
      have notTrailing : ¬(0xDC00 ≤ n ∧ n ≤ 0xDFFF) := by omega
      have notLeading : n < 0xD800 ∨ 0xDBFF < n := by omega
      have read : readUnicode (bs ++ more) = .ok (Char.ofNat n, 4) := by
        rw [readUnicode, digits.readHex_append]
        show (if _ then _ else _) = _
        rw [if_neg notTrailing, if_pos notLeading]
      rw [List.cons_append, readEscape_unicode read, List.length_cons, digits.length_eq]
  | @pair high low bs lowBs leading highRange trailing lowRange =>
      have notTrailing : ¬(0xDC00 ≤ high ∧ high ≤ 0xDFFF) := by omega
      have notAlone : ¬(high < 0xD800 ∨ 0xDBFF < high) := by omega
      have trail : ¬(low < 0xDC00 ∨ 0xDFFF < low) := by omega
      have read : readUnicode (bs ++ 0x5C :: 0x75 :: (lowBs ++ more)) =
          .ok (Char.ofNat ((high - 0xD800) * 0x400 + (low - 0xDC00) + 0x10000), 10) := by
        rw [readUnicode, leading.readHex_append, leading.drop_append]
        show (if _ then _ else _) = _
        rw [if_neg notTrailing, if_neg notAlone]
        simp only [ne_eq, not_true_eq_false, if_false, trailing.readHex_append]
        show (if _ then _ else _) = _
        rw [if_neg trail]
      rw [List.cons_append, List.append_assoc, List.cons_append, List.cons_append, readEscape_unicode read]
      simp only [List.length_cons, List.length_append, leading.length_eq, trailing.length_eq]

/-- The octets of a character that may stand for itself are neither quote nor backslash nor control. -/
theorem IsOrdinary.octets {c : Char} (itself : IsOrdinary c) :
    ∀ b ∈ Utf8.encodeChar c, b ≠ 0x22 ∧ b ≠ 0x5C ∧ ¬b.toNat < 0x20 := by
  obtain ⟨notQuote, notBackslash, printable⟩ := itself
  have notQuote : c.toNat ≠ 0x22 := fun same => notQuote (Char.toNat_inj.mp same)
  have notBackslash : c.toNat ≠ 0x5C := fun same => notBackslash (Char.toNat_inj.mp same)
  have range : c.toNat < 0x110000 := by
    have valid : c.toNat < 0xD800 ∨ 0xDFFF < c.toNat ∧ c.toNat < 0x110000 := c.valid
    omega
  have large {b : UInt8} {n : Nat} (same : b = UInt8.ofNat n) (octet : n < 256)
      (high : n = c.toNat ∨ 0x80 ≤ n) : b ≠ 0x22 ∧ b ≠ 0x5C ∧ ¬b.toNat < 0x20 := by
    have toNat : b.toNat = n := by rw [same, UInt8.toNat_ofNat', Nat.mod_eq_of_lt octet]
    have ne {d : UInt8} (other : d.toNat ≠ n) : b ≠ d := by
      rintro rfl
      exact other toNat
    refine ⟨ne ?_, ne ?_, ?_⟩
    · show 0x22 ≠ n
      omega
    · show 0x5C ≠ n
      omega
    · omega
  intro b member
  rw [Utf8.encodeChar_eq_octetsOf, Utf8.octetsOf] at member
  split at member
  · exact large (List.mem_singleton.mp member) (by omega) (Or.inl rfl)
  split at member
  · simp only [List.mem_cons, List.not_mem_nil, or_false] at member
    rcases member with same | same <;> exact large same (by omega) (Or.inr (by omega))
  split at member
  · simp only [List.mem_cons, List.not_mem_nil, or_false] at member
    rcases member with same | same | same <;> exact large same (by omega) (Or.inr (by omega))
  · simp only [List.mem_cons, List.not_mem_nil, or_false] at member
    rcases member with same | same | same | same <;> exact large same (by omega) (Or.inr (by omega))

theorem readOctets_append {octets : Bytes} (plain : ∀ b ∈ octets, b ≠ 0x22 ∧ b ≠ 0x5C ∧ ¬b.toNat < 0x20)
    {bs read rest : Bytes} (others : readOctets bs = .ok (read, rest)) :
    readOctets (octets ++ bs) = .ok (octets ++ read, rest) := by
  induction octets with
  | nil => exact others
  | cons b octets ih =>
      obtain ⟨⟨notQuote, notBackslash, printable⟩, plain⟩ := List.forall_mem_cons.mp plain
      rw [List.cons_append, readOctets, if_neg notQuote, if_neg notBackslash, if_neg printable, ih plain]
      rfl

namespace StringText

variable {cs : List Char} {bs : Bytes}

theorem readOctets_append (text : StringText cs bs) (more : Bytes) :
    readOctets (bs ++ more) = .ok (Utf8.encode cs, more) := by
  induction text with
  | close =>
      rw [List.singleton_append, readOctets, if_pos rfl]
      rfl
  | ordinary itself _ ih =>
      rw [List.append_assoc]
      exact Json.readOctets_append itself.octets ih
  | @escape c cs octets bs escaped _ ih =>
      rw [List.cons_append, List.append_assoc, readOctets, if_neg (by decide), if_pos rfl,
        escaped.readEscape_append]
      show (readOctets ((octets ++ (bs ++ more)).drop octets.length) >>= _) = _
      rw [List.drop_left, ih]
      rfl

/-- A string of the grammar is read as its characters. -/
theorem readString_append (text : StringText cs bs) (more : Bytes) :
    readString (bs ++ more) = .ok (String.ofList cs, more) := by
  rw [readString, text.readOctets_append]
  dsimp only [bind, Except.bind]
  rw [Utf8.decode?_encode]

/-- A string is not shorter as it is written than its characters are. -/
theorem length_encode_lt (text : StringText cs bs) : (Utf8.encode cs).length < bs.length := by
  induction text with
  | close => exact Nat.zero_lt_one
  | ordinary _ _ ih =>
      rw [Utf8.encode_cons, List.length_append, List.length_append]
      omega
  | @escape c cs octets bs escaped _ ih =>
      have short : (Utf8.encodeChar c).length ≤ octets.length + 1 := by
        have atMostFour := Utf8.length_encodeChar_le c
        cases escaped with
        | letter listed =>
            have ascii : ∀ escape ∈ letterEscapes, (Utf8.encodeChar escape.2).length ≤ 2 := by decide
            exact ascii _ listed
        | unit digits =>
            rw [List.length_cons, digits.length_eq]
            omega
        | pair leading =>
            rw [List.length_cons, List.length_append, leading.length_eq]
            omega
      rw [Utf8.encode_cons, List.length_append, List.length_cons, List.length_append]
      omega

end StringText

/-! ## Printing -/

theorem hexValue?_hexDigit {n : Nat} (digit : n < 16) :
    ∃ b, Utf8.encodeChar (hexDigit n) = [b] ∧ hexValue? b = some n := by
  have all : ∀ n < 16, ∃ b ∈ Utf8.encodeChar (hexDigit n), Utf8.encodeChar (hexDigit n) = [b] ∧
      hexValue? b = some n := by decide
  obtain ⟨b, -, found⟩ := all n digit
  exact ⟨b, found⟩

/-- A character as it is printed stands for itself or is an escape. -/
theorem stringText_escapeChar (c : Char) {cs : List Char} {bs : Bytes} (others : StringText cs bs) :
    StringText (c :: cs) (Utf8.encode (escapeChar c) ++ bs) := by
  have letter {octet : UInt8} (listed : (octet, c) ∈ letterEscapes) :
      StringText (c :: cs) (0x5C :: ([octet] ++ bs)) := .escape (.letter listed) others
  unfold escapeChar
  split
  · next same => subst same; exact letter (by decide)
  next notQuote =>
  split
  · next same => subst same; exact letter (by decide)
  next notBackslash =>
  split
  · next same => subst same; exact letter (by decide)
  split
  · next same => subst same; exact letter (by decide)
  split
  · next same => subst same; exact letter (by decide)
  split
  · next same => subst same; exact letter (by decide)
  split
  · next same => subst same; exact letter (by decide)
  split
  · next control =>
    obtain ⟨high, highWritten, highValue⟩ := @hexValue?_hexDigit (c.toNat / 16) (by omega)
    obtain ⟨low, lowWritten, lowValue⟩ := @hexValue?_hexDigit (c.toNat % 16) (by omega)
    have unit : CodeUnit (((0 * 16 + 0) * 16 + c.toNat / 16) * 16 + c.toNat % 16)
        [0x30, 0x30, high, low] := .intro rfl rfl highValue lowValue
    have value : ((0 * 16 + 0) * 16 + c.toNat / 16) * 16 + c.toNat % 16 = c.toNat := by omega
    rw [value] at unit
    have escaped := Escape.unit unit (Or.inl (by omega))
    rw [Char.ofNat_toNat] at escaped
    have written : Utf8.encode ['\\', 'u', '0', '0', hexDigit (c.toNat / 16), hexDigit (c.toNat % 16)] =
        [0x5C, 0x75, 0x30, 0x30, high, low] := by
      simp only [Utf8.encode_cons, highWritten, lowWritten]
      rfl
    rw [written]
    exact .escape escaped others
  · next printable =>
    have plain := StringText.ordinary ⟨notQuote, notBackslash, by omega⟩ others
    rwa [← List.append_nil (Utf8.encodeChar c)] at plain

/-- The printed form of a string is its grammar's, after the opening quote. -/
theorem stringText_print (cs : List Char) :
    StringText cs (Utf8.encode (cs.flatMap escapeChar ++ ['"'])) := by
  induction cs with
  | nil => exact .close
  | cons c cs ih =>
      rw [List.flatMap_cons, List.append_assoc, Utf8.encode, List.flatMap_append]
      exact stringText_escapeChar c ih

end Json

end QueryGateway
