import QueryGateway.Text.Utf8

/-!
# Reading back what UTF-8 writes

A piece of a reading is a character exactly when its octets are those that the character is written with, so
the reading of written characters gives these characters back, and octets without a fault are the writing of
the characters that are read from them.
-/

namespace QueryGateway.Utf8

/-! ## Octets of code points -/

/-- The octets of the code point `n`. -/
def octetsOf (n : Nat) : Bytes :=
  if n ≤ 0x7F then [UInt8.ofNat n]
  else if n ≤ 0x7FF then
    [UInt8.ofNat (n / 64 % 0x20 + 0xC0), UInt8.ofNat (n % 0x40 + 0x80)]
  else if n ≤ 0xFFFF then
    [UInt8.ofNat (n / 4096 % 0x10 + 0xE0), UInt8.ofNat (n / 64 % 0x40 + 0x80),
      UInt8.ofNat (n % 0x40 + 0x80)]
  else
    [UInt8.ofNat (n / 262144 % 0x08 + 0xF0), UInt8.ofNat (n / 4096 % 0x40 + 0x80),
      UInt8.ofNat (n / 64 % 0x40 + 0x80), UInt8.ofNat (n % 0x40 + 0x80)]

theorem encodeChar_eq_octetsOf (c : Char) : encodeChar c = octetsOf c.toNat := rfl

theorem toNat_ofNat_of_isValidChar {n : Nat} (valid : n.isValidChar) : (Char.ofNat n).toNat = n := by
  unfold Char.ofNat
  rw [dif_pos valid]
  rfl

theorem encodeChar_ofNat {n : Nat} (valid : n.isValidChar) : encodeChar (Char.ofNat n) = octetsOf n := by
  rw [encodeChar_eq_octetsOf, toNat_ofNat_of_isValidChar valid]

theorem ofNat_eq_of_toNat {b : UInt8} {n : Nat} (same : n = b.toNat) : UInt8.ofNat n = b := by
  rw [same, UInt8.ofNat_toNat]

theorem isTail_iff {b : UInt8} : isTail b = true ↔ 0x80 ≤ b.toNat ∧ b.toNat ≤ 0xBF := by
  simp [isTail]

/-- The second octet keeps a code point of three octets above those of two and outside the surrogates. -/
theorem secondFits_three {b c : UInt8} (lead : 0xE0 ≤ b.toNat ∧ b.toNat ≤ 0xEF)
    (second : secondFits b.toNat c = true) :
    0x80 ≤ c.toNat ∧ c.toNat ≤ 0xBF ∧ (b.toNat = 0xE0 → 0xA0 ≤ c.toNat) ∧
      (b.toNat = 0xED → c.toNat ≤ 0x9F) := by
  simp only [secondFits, Bool.and_eq_true, decide_eq_true_eq] at second
  grind

/-- The second octet keeps a code point of four octets above those of three and within Unicode. -/
theorem secondFits_four {b c : UInt8} (lead : 0xF0 ≤ b.toNat ∧ b.toNat ≤ 0xF4)
    (second : secondFits b.toNat c = true) :
    0x80 ≤ c.toNat ∧ c.toNat ≤ 0xBF ∧ (b.toNat = 0xF0 → 0x90 ≤ c.toNat) ∧
      (b.toNat = 0xF4 → c.toNat ≤ 0x8F) := by
  simp only [secondFits, Bool.and_eq_true, decide_eq_true_eq] at second
  grind

theorem encodeChar_one {b : UInt8} (lead : b.toNat < 0x80) : encodeChar (Char.ofNat b.toNat) = [b] := by
  rw [encodeChar_ofNat (by unfold Nat.isValidChar; omega), octetsOf, if_pos (by omega), UInt8.ofNat_toNat]

theorem encodeChar_two {b c : UInt8} (lead : 0xC2 ≤ b.toNat ∧ b.toNat ≤ 0xDF)
    (second : isTail c = true) :
    encodeChar (Char.ofNat ((b.toNat - 0xC0) * 64 + tailBits c)) = [b, c] := by
  have secondRange := isTail_iff.mp second
  rw [encodeChar_ofNat (by unfold Nat.isValidChar tailBits; omega), octetsOf,
    if_neg (by unfold tailBits; omega), if_pos (by unfold tailBits; omega),
    ofNat_eq_of_toNat (b := b) (by unfold tailBits; omega),
    ofNat_eq_of_toNat (b := c) (by unfold tailBits; omega)]

theorem encodeChar_three {b c d : UInt8} (lead : 0xE0 ≤ b.toNat ∧ b.toNat ≤ 0xEF)
    (second : secondFits b.toNat c = true) (third : isTail d = true) :
    encodeChar (Char.ofNat (((b.toNat - 0xE0) * 64 + tailBits c) * 64 + tailBits d)) = [b, c, d] := by
  have secondRange := secondFits_three lead second
  have thirdRange := isTail_iff.mp third
  rw [encodeChar_ofNat (by unfold Nat.isValidChar tailBits; omega), octetsOf,
    if_neg (by unfold tailBits; omega), if_neg (by unfold tailBits; omega),
    if_pos (by unfold tailBits; omega),
    ofNat_eq_of_toNat (b := b) (by unfold tailBits; omega),
    ofNat_eq_of_toNat (b := c) (by unfold tailBits; omega),
    ofNat_eq_of_toNat (b := d) (by unfold tailBits; omega)]

theorem encodeChar_four {b c d e : UInt8} (lead : 0xF0 ≤ b.toNat ∧ b.toNat ≤ 0xF4)
    (second : secondFits b.toNat c = true) (third : isTail d = true) (fourth : isTail e = true) :
    encodeChar (Char.ofNat
      ((((b.toNat - 0xF0) * 64 + tailBits c) * 64 + tailBits d) * 64 + tailBits e)) = [b, c, d, e] := by
  have secondRange := secondFits_four lead second
  have thirdRange := isTail_iff.mp third
  have fourthRange := isTail_iff.mp fourth
  rw [encodeChar_ofNat (by unfold Nat.isValidChar tailBits; omega), octetsOf,
    if_neg (by unfold tailBits; omega), if_neg (by unfold tailBits; omega),
    if_neg (by unfold tailBits; omega),
    ofNat_eq_of_toNat (b := b) (by unfold tailBits; omega),
    ofNat_eq_of_toNat (b := c) (by unfold tailBits; omega),
    ofNat_eq_of_toNat (b := d) (by unfold tailBits; omega),
    ofNat_eq_of_toNat (b := e) (by unfold tailBits; omega)]

/-! ## Pieces that are characters -/

/-- The octets of a piece that is a character are those that the character is written with. -/
theorem octets_of_piece {b : UInt8} {after : Bytes} {c : Char} :
    (piece b after).1 = .char c → b :: after.take (piece b after).2 = encodeChar c := by
  fun_cases piece b after
  case case1 ascii =>
      intro read
      rw [← Piece.char.inj read]
      exact (encodeChar_one ascii).symm
  case case3 lead d more second =>
      intro read
      rw [← Piece.char.inj read]
      exact (encodeChar_two lead second).symm
  case case7 lead d second e more third =>
      intro read
      rw [← Piece.char.inj read]
      exact (encodeChar_three lead second third).symm
  case case13 lead d second e third f more fourth =>
      intro read
      rw [← Piece.char.inj read]
      exact (encodeChar_four lead second third fourth).symm
  all_goals exact fun read => nomatch read

theorem piece_one {b : UInt8} (ascii : b.toNat < 0x80) (rest : Bytes) :
    piece b rest = (.char (Char.ofNat b.toNat), 0) := by
  unfold piece
  rw [if_pos ascii]

theorem piece_two {b c : UInt8} {n : Nat} (range : 0x7F < n ∧ n ≤ 0x7FF)
    (lead : b.toNat = n / 64 + 0xC0) (second : c.toNat = n % 0x40 + 0x80) (rest : Bytes) :
    piece b (c :: rest) = (.char (Char.ofNat n), 1) := by
  have value : (b.toNat - 0xC0) * 64 + tailBits c = n := by
    unfold tailBits
    omega
  unfold piece
  rw [if_neg (by omega), if_pos (by omega)]
  simp only [if_pos (isTail_iff.mpr (show 0x80 ≤ c.toNat ∧ c.toNat ≤ 0xBF by omega)), value]

theorem piece_three {b c d : UInt8} {n : Nat} (range : 0x7FF < n ∧ n ≤ 0xFFFF)
    (valid : n.isValidChar) (lead : b.toNat = n / 4096 + 0xE0)
    (second : c.toNat = n / 64 % 0x40 + 0x80) (third : d.toNat = n % 0x40 + 0x80) (rest : Bytes) :
    piece b (c :: d :: rest) = (.char (Char.ofNat n), 2) := by
  unfold Nat.isValidChar at valid
  have value : ((b.toNat - 0xE0) * 64 + tailBits c) * 64 + tailBits d = n := by
    unfold tailBits
    omega
  have fits : secondFits b.toNat c = true := by
    simp only [secondFits, Bool.and_eq_true, decide_eq_true_eq]
    grind
  unfold piece
  rw [if_neg (by omega), if_neg (by omega), if_pos (by omega)]
  simp only [if_pos fits, if_pos (isTail_iff.mpr (show 0x80 ≤ d.toNat ∧ d.toNat ≤ 0xBF by omega)),
    value]

theorem piece_four {b c d e : UInt8} {n : Nat} (range : 0xFFFF < n ∧ n < 0x110000)
    (lead : b.toNat = n / 262144 + 0xF0) (second : c.toNat = n / 4096 % 0x40 + 0x80)
    (third : d.toNat = n / 64 % 0x40 + 0x80) (fourth : e.toNat = n % 0x40 + 0x80) (rest : Bytes) :
    piece b (c :: d :: e :: rest) = (.char (Char.ofNat n), 3) := by
  have value :
      (((b.toNat - 0xF0) * 64 + tailBits c) * 64 + tailBits d) * 64 + tailBits e = n := by
    unfold tailBits
    omega
  have fits : secondFits b.toNat c = true := by
    simp only [secondFits, Bool.and_eq_true, decide_eq_true_eq]
    grind
  unfold piece
  rw [if_neg (by omega), if_neg (by omega), if_neg (by omega), if_pos (by omega)]
  simp only [if_pos fits, if_pos (isTail_iff.mpr (show 0x80 ≤ d.toNat ∧ d.toNat ≤ 0xBF by omega)),
    if_pos (isTail_iff.mpr (show 0x80 ≤ e.toNat ∧ e.toNat ≤ 0xBF by omega)), value]

/-- What a character is written with is read as one piece, whatever follows. -/
theorem piece_of_encodeChar (c : Char) :
    ∃ lead tail, encodeChar c = lead :: tail ∧
      ∀ rest, piece lead (tail ++ rest) = (.char c, tail.length) := by
  have valid : c.toNat < 0xD800 ∨ 0xDFFF < c.toNat ∧ c.toNat < 0x110000 := c.valid
  have toNat {n : Nat} (octet : n < 256) : (UInt8.ofNat n).toNat = n := by
    rw [UInt8.toNat_ofNat', Nat.mod_eq_of_lt octet]
  rw [encodeChar_eq_octetsOf, octetsOf]
  split
  · refine ⟨_, _, rfl, fun rest => ?_⟩
    have read := piece_one (b := UInt8.ofNat c.toNat) (by rw [toNat (by omega)]; omega) rest
    rw [toNat (by omega), Char.ofNat_toNat] at read
    exact read
  split
  · refine ⟨_, _, rfl, fun rest => ?_⟩
    have read := piece_two (n := c.toNat) (by omega)
      (toNat (n := c.toNat / 64 + 0xC0) (by omega))
      (toNat (n := c.toNat % 0x40 + 0x80) (by omega)) rest
    rw [Char.ofNat_toNat] at read
    rw [Nat.mod_eq_of_lt (by omega)]
    exact read
  split
  · refine ⟨_, _, rfl, fun rest => ?_⟩
    have read := piece_three (n := c.toNat) (by omega) valid
      (toNat (n := c.toNat / 4096 + 0xE0) (by omega))
      (toNat (n := c.toNat / 64 % 0x40 + 0x80) (by omega))
      (toNat (n := c.toNat % 0x40 + 0x80) (by omega)) rest
    rw [Char.ofNat_toNat] at read
    rw [Nat.mod_eq_of_lt (a := c.toNat / 4096) (by omega)]
    exact read
  · refine ⟨_, _, rfl, fun rest => ?_⟩
    have read := piece_four (n := c.toNat) (by omega)
      (toNat (n := c.toNat / 262144 + 0xF0) (by omega))
      (toNat (n := c.toNat / 4096 % 0x40 + 0x80) (by omega))
      (toNat (n := c.toNat / 64 % 0x40 + 0x80) (by omega))
      (toNat (n := c.toNat % 0x40 + 0x80) (by omega)) rest
    rw [Char.ofNat_toNat] at read
    rw [Nat.mod_eq_of_lt (a := c.toNat / 262144) (by omega)]
    exact read

/-! ## Readings -/

theorem encode_append (cs ds : List Char) : encode (cs ++ ds) = encode cs ++ encode ds :=
  List.flatMap_append

theorem encode_cons (c : Char) (cs : List Char) : encode (c :: cs) = encodeChar c ++ encode cs := rfl

/-- Written characters are read as these characters. -/
theorem pieces_encode (cs : List Char) : pieces (encode cs) = cs.map .char := by
  induction cs with
  | nil =>
      show pieces [] = []
      rw [pieces]
  | cons c cs ih =>
      obtain ⟨lead, tail, written, read⟩ := piece_of_encodeChar c
      rw [encode_cons, written, List.cons_append, pieces, read, List.map_cons]
      simp only [List.drop_left, ih]

theorem decodeLossy_encode (cs : List Char) : decodeLossy (encode cs) = cs := by
  rw [decodeLossy, pieces_encode, List.map_map]
  exact List.map_id cs

/-- Octets without a fault are the writing of the characters that are read from them. -/
theorem encode_of_faultOf? {bs : Bytes} {index : Nat} (sound : faultOf? index (pieces bs) = none) :
    encode ((pieces bs).map Piece.repaired) = bs := by
  fun_induction pieces bs generalizing index with
  | case1 => rfl
  | case2 b after ih =>
      cases read : (piece b after).1 with
      | broken octets cut =>
          rw [read] at sound
          cases sound
      | char c =>
          rw [read] at sound
          rw [List.map_cons, Piece.repaired, encode_cons, ih sound, ← octets_of_piece read,
            List.cons_append, List.take_append_drop]

theorem encode_decodeLossy {bs : Bytes} (sound : fault? bs = none) : encode (decodeLossy bs) = bs :=
  encode_of_faultOf? sound

end QueryGateway.Utf8

namespace QueryGateway.Bytes

theorem ofString_ofList (cs : List Char) : ofString (String.ofList cs) = Utf8.encode cs := by
  rw [ofString, String.toList_ofList]

/-- A text is determined by its octets. -/
theorem ofString_injective {s t : String} (same : ofString s = ofString t) : s = t := by
  have characters := congrArg Utf8.decodeLossy same
  simp only [ofString, Utf8.decodeLossy_encode] at characters
  exact String.toList_inj.mp characters

end QueryGateway.Bytes

namespace QueryGateway.Utf8

theorem faultOf?_map_char (index : Nat) (cs : List Char) : faultOf? index (cs.map .char) = none := by
  induction cs generalizing index with
  | nil => rfl
  | cons c cs ih => exact ih _

/-- Octets are without a fault exactly when a text writes them. -/
theorem fault?_eq_none_iff {bs : Bytes} : fault? bs = none ↔ ∃ text, bs = Bytes.ofString text := by
  constructor
  · intro sound
    refine ⟨String.ofList (decodeLossy bs), ?_⟩
    rw [Bytes.ofString_ofList, encode_decodeLossy sound]
  · rintro ⟨text, rfl⟩
    rw [Bytes.ofString, fault?, pieces_encode]
    exact faultOf?_map_char 0 _

theorem decode?_encode (cs : List Char) : decode? (encode cs) = some cs := by
  rw [decode?, pieces_encode]
  induction cs with
  | nil => rfl
  | cons c cs ih =>
      rw [List.map_cons, charsOf?, ih]
      rfl

theorem length_encodeChar_le (c : Char) : (encodeChar c).length ≤ 4 := by
  rw [encodeChar_eq_octetsOf, octetsOf]
  split
  · exact Nat.le_add_left 1 3
  split
  · exact Nat.le_add_left 2 2
  split
  · exact Nat.le_add_left 3 1
  · exact Nat.le_refl 4

theorem charsOf?_eq_some {ps : List Piece} {cs : List Char} (whole : charsOf? ps = some cs) :
    ps = cs.map .char := by
  induction ps generalizing cs with
  | nil =>
      cases whole
      rfl
  | cons p ps ih =>
      cases p with
      | broken octets cut => cases whole
      | char c =>
          obtain ⟨others, read, rfl⟩ := Option.map_eq_some_iff.mp whole
          rw [ih read, List.map_cons]

/-- Octets are the writing of the characters that are read from them. -/
theorem encode_of_decode? {bs : Bytes} {cs : List Char} (whole : decode? bs = some cs) :
    encode cs = bs := by
  have read := charsOf?_eq_some whole
  have sound : fault? bs = none := by
    rw [fault?, read]
    exact faultOf?_map_char 0 cs
  have back := encode_decodeLossy sound
  rwa [decodeLossy, read, List.map_map, show Piece.repaired ∘ Piece.char = id from rfl, List.map_id] at back

theorem encode_injective {cs ds : List Char} (same : encode cs = encode ds) : cs = ds := by
  have characters := congrArg decodeLossy same
  rwa [decodeLossy_encode, decodeLossy_encode] at characters

/-! ## Octets that continue a character -/

/-- Only the first octet of a character is none of those that continue one. -/
theorem exists_tail (c : Char) :
    ∃ lead tail, encodeChar c = lead :: tail ∧ isTail lead = false ∧ ∀ b ∈ tail, isTail b = true := by
  have valid : c.toNat < 0xD800 ∨ 0xDFFF < c.toNat ∧ c.toNat < 0x110000 := c.valid
  have toNat {n : Nat} (octet : n < 256) : (UInt8.ofNat n).toNat = n := by
    rw [UInt8.toNat_ofNat', Nat.mod_eq_of_lt octet]
  have leads {n : Nat} (octet : n < 256) (outside : n < 0x80 ∨ 0xBF < n) : isTail (UInt8.ofNat n) = false := by
    rw [← Bool.not_eq_true, isTail_iff, toNat octet]
    omega
  have continues (n : Nat) : isTail (UInt8.ofNat (n % 0x40 + 0x80)) = true := by
    rw [isTail_iff, toNat (by omega)]
    omega
  rw [encodeChar_eq_octetsOf, octetsOf]
  split
  · exact ⟨_, _, rfl, leads (by omega) (by omega), nofun⟩
  have last (n : Nat) : ∀ b ∈ [UInt8.ofNat (n % 0x40 + 0x80)], isTail b = true :=
    List.forall_mem_singleton.mpr (continues n)
  split
  · exact ⟨_, _, rfl, leads (by omega) (by omega), last _⟩
  split
  · exact ⟨_, _, rfl, leads (by omega) (by omega), List.forall_mem_cons.mpr ⟨continues _, last _⟩⟩
  · exact ⟨_, _, rfl, leads (by omega) (by omega),
      List.forall_mem_cons.mpr ⟨continues _, List.forall_mem_cons.mpr ⟨continues _, last _⟩⟩⟩

/-- What starts with an octet is the writing of a first character and of others. -/
theorem exists_cons_of_encode {b : UInt8} {octets : Bytes} {cs : List Char} (same : b :: octets = encode cs) :
    ∃ c others tail, cs = c :: others ∧ encodeChar c = b :: tail ∧ (∀ t ∈ tail, isTail t = true) ∧
      octets = tail ++ encode others := by
  cases cs with
  | nil => cases same
  | cons c others =>
      obtain ⟨lead, tail, written, -, continues⟩ := exists_tail c
      rw [encode_cons, written] at same
      obtain ⟨rfl, after⟩ := List.cons.inj same
      exact ⟨c, others, tail, rfl, written, continues, after⟩

/-- The octets of a character write this character, whatever follows them. -/
theorem eq_cons_of_encode {c : Char} {octets : Bytes} {cs : List Char} (same : encodeChar c ++ octets = encode cs) :
    ∃ others, cs = c :: others ∧ octets = encode others := by
  obtain ⟨lead, tail, written, read⟩ := piece_of_encodeChar c
  rw [written] at same
  obtain ⟨d, others, otherTail, rfl, otherWritten, -, after⟩ := exists_cons_of_encode same
  obtain ⟨_, _, writtenAgain, otherRead⟩ := piece_of_encodeChar d
  rw [otherWritten] at writtenAgain
  obtain ⟨rfl, rfl⟩ := List.cons.inj writtenAgain
  have pieces := (read octets).symm.trans ((congrArg (piece lead) after).trans (otherRead (encode others)))
  obtain rfl : c = d := Piece.char.inj (congrArg Prod.fst pieces)
  rw [written] at otherWritten
  obtain rfl := (List.cons.inj otherWritten).2
  exact ⟨others, rfl, List.append_cancel_left after⟩

end QueryGateway.Utf8
