import QueryGateway.GraphQL.Handler
import QueryGateway.Proofs.Utf8
import Mathlib.Data.List.TakeWhile
import Mathlib.Tactic.Common

/-!
# Essences of content types

The value of a header field is a run of octets that need not be a text.  Its essence is said without the reader of it:
what stands before the first semicolon, without the blanks around it, in lower case.  What follows the semicolon does
not count, whatever its octets are: no run that is broken before the semicolon swallows it, and none is completed by
it.  The type of a body is the essence of the first content type of its request.
-/

namespace QueryGateway

namespace Utf8

/-! ## ASCII octets after a run -/

section

variable {c : UInt8} (ascii : c.toNat < 0x80)
include ascii

theorem isTail_of_ascii : isTail c = false := by
  simp only [isTail, Bool.and_eq_false_iff, decide_eq_false_iff_not]
  omega

theorem secondFits_of_ascii (lead : Nat) : secondFits lead c = false := by
  have low : 0x80 ≤ if lead = 0xE0 then 0xA0 else if lead = 0xF0 then 0x90 else 0x80 := by
    split
    · decide
    · split <;> decide
  simp only [secondFits, Bool.and_eq_false_iff, decide_eq_false_iff_not]
  omega

/-- An ASCII octet belongs to no piece that starts before it. -/
theorem piece_append_ascii (b : UInt8) (after rest : Bytes) :
    (piece b (after ++ c :: rest)).1.repaired = (piece b after).1.repaired ∧
      (piece b (after ++ c :: rest)).2 = (piece b after).2 ∧ (piece b after).2 ≤ after.length := by
  have notTail := isTail_of_ascii ascii
  have notSecond := secondFits_of_ascii ascii
  unfold piece
  -- By the width that the lead octet announces, and by how much of the sequence is there before the ASCII octet.
  by_cases one : b.toNat < 0x80
  · simp [one]
  by_cases two : 0xC2 ≤ b.toNat ∧ b.toNat ≤ 0xDF
  · cases after with
    | nil => simp [one, two, notTail, Piece.repaired]
    | cons d more => cases second : isTail d <;> simp [one, two, second]
  by_cases three : 0xE0 ≤ b.toNat ∧ b.toNat ≤ 0xEF
  · rcases after with _ | ⟨d, _ | ⟨e, more⟩⟩
    · simp [one, two, three, notSecond, Piece.repaired]
    · cases second : secondFits b.toNat d <;> simp [one, two, three, second, notTail, Piece.repaired]
    · cases second : secondFits b.toNat d <;> cases third : isTail e <;> simp [one, two, three, second, third]
  by_cases four : 0xF0 ≤ b.toNat ∧ b.toNat ≤ 0xF4
  · rcases after with _ | ⟨d, _ | ⟨e, _ | ⟨f, more⟩⟩⟩
    · simp [one, two, three, four, notSecond, Piece.repaired]
    · cases second : secondFits b.toNat d <;> simp [one, two, three, four, second, notTail, Piece.repaired]
    · cases second : secondFits b.toNat d <;> cases third : isTail e <;>
        simp [one, two, three, four, second, third, notTail, Piece.repaired]
    · cases second : secondFits b.toNat d <;> cases third : isTail e <;> cases fourth : isTail f <;>
        simp [one, two, three, four, second, third, fourth]
  · simp [one, two, three, four]

/-- The reading of octets around an ASCII octet is put together from the readings of those before and after it. -/
theorem decodeLossy_append_ascii (bs rest : Bytes) :
    decodeLossy (bs ++ c :: rest) = decodeLossy bs ++ Char.ofNat c.toNat :: decodeLossy rest := by
  unfold decodeLossy
  fun_induction pieces bs with
  | case1 =>
      rw [List.nil_append, pieces, piece_one ascii]
      rfl
  | case2 b after ih =>
      obtain ⟨same, length, within⟩ := piece_append_ascii ascii b after rest
      rw [List.cons_append, pieces, List.map_cons, same, length, List.drop_append_of_le_length within, ih]
      rfl

/-- An ASCII character that is read is written as itself. -/
theorem mem_of_mem_decodeLossy {bs : Bytes} (member : Char.ofNat c.toNat ∈ decodeLossy bs) : c ∈ bs := by
  unfold decodeLossy at member
  fun_induction pieces bs with
  | case1 => cases member
  | case2 lead after ih =>
      rw [List.map_cons] at member
      rcases List.mem_cons.mp member with here | later
      · cases read : (piece lead after).1 with
        | broken octets cut =>
            rw [read] at here
            have number := congrArg Char.toNat here
            rw [toNat_ofNat_of_isValidChar (by unfold Nat.isValidChar; omega)] at number
            have replaced : (Piece.broken octets cut).repaired.toNat = 0xFFFD := rfl
            omega
        | char d =>
            rw [read] at here
            have octets := octets_of_piece read
            rw [show d = Char.ofNat c.toNat from here.symm, encodeChar_one ascii] at octets
            rw [(List.cons.inj octets).1]
            exact List.mem_cons_self
      · exact List.mem_cons_of_mem _ (List.mem_of_mem_drop (ih later))

end

/-! ## Octets that are no text -/

theorem faultOf?_eq_none_of_not_mem {ps : List Piece} (sound : '\uFFFD' ∉ ps.map Piece.repaired) (index : Nat) :
    faultOf? index ps = none := by
  induction ps generalizing index with
  | nil => rfl
  | cons p ps ih =>
      rw [List.map_cons, List.mem_cons, not_or] at sound
      cases p with
      | char c => exact ih sound.2 _
      | broken octets cut => exact absurd rfl sound.1

/-- Octets that no text writes are read with a replacement character. -/
theorem replacement_mem_decodeLossy {bs : Bytes} (broken : ∀ text, bs ≠ Bytes.ofString text) :
    '\uFFFD' ∈ decodeLossy bs := by
  by_contra sound
  obtain ⟨text, written⟩ := fault?_eq_none_iff.mp (faultOf?_eq_none_of_not_mem sound 0)
  exact broken text written

end Utf8

namespace Text

/-! ## Blanks around a text -/

section

variable {left core right : List Char}

theorem trimStart_append (blank : ∀ c ∈ left, isBlank c = true)
    (starts : ∀ c, core.head? = some c → isBlank c = false) : trimStart (left ++ core) = core := by
  rw [trimStart, List.dropWhile_append_of_pos blank]
  cases core with
  | nil => rfl
  | cons c core => rw [List.dropWhile_cons, starts c rfl, if_neg Bool.false_ne_true]

theorem trimEnd_append (blank : ∀ c ∈ right, isBlank c = true)
    (ends : ∀ c, core.getLast? = some c → isBlank c = false) : trimEnd (core ++ right) = core := by
  have backwards : ∀ c ∈ right.reverse, isBlank c = true := fun c member => blank c (List.mem_reverse.mp member)
  have first : ∀ c, core.reverse.head? = some c → isBlank c = false := by
    intro c
    rw [List.head?_reverse]
    exact ends c
  rw [trimEnd, List.reverse_append, trimStart_append backwards first, List.reverse_reverse]

/-- What stands between blanks is left by trimming, if it neither starts nor ends with a blank. -/
theorem trim_append (before : ∀ c ∈ left, isBlank c = true) (after : ∀ c ∈ right, isBlank c = true)
    (starts : ∀ c, core.head? = some c → isBlank c = false)
    (ends : ∀ c, core.getLast? = some c → isBlank c = false) : trim (left ++ (core ++ right)) = core := by
  cases core with
  | nil =>
      have all : ∀ c ∈ left ++ right, isBlank c = true := List.forall_mem_append.mpr ⟨before, after⟩
      rw [List.nil_append, trim, trimStart, List.dropWhile_eq_nil_iff.mpr all]
      rfl
  | cons c core =>
      have headed : ∀ d, (c :: core ++ right).head? = some d → isBlank d = false := starts
      rw [trim, trimStart_append before headed, trimEnd_append after ends]

/-- Blanks are what trimming takes from the end. -/
theorem exists_trimEnd (cs : List Char) : ∃ right, cs = trimEnd cs ++ right ∧ ∀ c ∈ right, isBlank c = true := by
  refine ⟨(cs.reverse.takeWhile isBlank).reverse, ?_, fun c member => ?_⟩
  · have back : cs.reverse.takeWhile isBlank ++ trimStart cs.reverse = cs.reverse := List.takeWhile_append_dropWhile
    rw [trimEnd, ← List.reverse_append, back, List.reverse_reverse]
  · exact List.mem_takeWhile_imp (List.mem_reverse.mp member)

/-- A trimmed text does not start with a blank either. -/
theorem isBlank_head_trim {cs : List Char} {c : Char} (first : (trim cs).head? = some c) : isBlank c = false := by
  obtain ⟨right, whole, -⟩ := exists_trimEnd (trimStart cs)
  refine @isBlank_head_trimStart cs c ?_
  rw [whole, List.head?_append]
  exact congrArg (Option.or · right.head?) first

/-- Every text is what trimming leaves of it, between blanks. -/
theorem exists_trim (cs : List Char) : ∃ left right, cs = left ++ (trim cs ++ right) ∧
    (∀ c ∈ left, isBlank c = true) ∧ ∀ c ∈ right, isBlank c = true := by
  obtain ⟨right, whole, blank⟩ := exists_trimEnd (trimStart cs)
  refine ⟨cs.takeWhile isBlank, right, ?_, fun c member => List.mem_takeWhile_imp member, blank⟩
  rw [trim, ← whole]
  exact List.takeWhile_append_dropWhile.symm

end

end Text

namespace Http.MediaType

/-! ## Essences -/

/-- What may follow an essence: nothing, or a semicolon and whatever octets come after it. -/
def StartsParameters (bs : Bytes) : Prop := bs = [] ∨ ∃ more, bs = 0x3B :: more

/-- The essence of a value: the octets before the first semicolon, read as a text with a replacement for each broken
run, without the blanks around it, with its ASCII letters in lower case. -/
inductive HasEssence (value : Bytes) : String → Prop
  | intro {before after : Bytes} {left core right : List Char} (cut : value = before ++ after)
      (first : 0x3B ∉ before) (parameters : StartsParameters after)
      (text : Utf8.decodeLossy before = left ++ (core ++ right))
      (blankLeft : ∀ c ∈ left, Text.isBlank c = true) (blankRight : ∀ c ∈ right, Text.isBlank c = true)
      (starts : ∀ c, core.head? = some c → Text.isBlank c = false)
      (ends : ∀ c, core.getLast? = some c → Text.isBlank c = false) :
      HasEssence value (String.ofList (core.map Char.toLower))

/-- Every value is cut at its first semicolon. -/
theorem exists_cut (value : Bytes) :
    ∃ before after, value = before ++ after ∧ 0x3B ∉ before ∧ StartsParameters after := by
  refine ⟨value.takeWhile (· ≠ 0x3B), value.dropWhile (· ≠ 0x3B), List.takeWhile_append_dropWhile.symm, ?_, ?_⟩
  · intro member
    have differs := List.mem_takeWhile_imp (p := fun b : UInt8 => decide (b ≠ 0x3B)) member
    cases differs
  · cases rest : value.dropWhile (· ≠ 0x3B) with
    | nil => exact Or.inl rfl
    | cons b more =>
        have stops := List.head?_dropWhile_not (fun b : UInt8 => decide (b ≠ 0x3B)) value
        rw [rest] at stops
        simp only [List.head?_cons, decide_eq_false_iff_not, not_not] at stops
        exact Or.inr ⟨more, by rw [stops]⟩

/-- Of what is read, what stands before the first semicolon is the reading of the octets before it. -/
theorem takeWhile_decodeLossy {before after : Bytes} (first : 0x3B ∉ before) (parameters : StartsParameters after) :
    (Utf8.decodeLossy (before ++ after)).takeWhile (· ≠ ';') = Utf8.decodeLossy before := by
  have semicolon : (0x3B : UInt8).toNat < 0x80 := by decide
  have none : ∀ c ∈ Utf8.decodeLossy before, decide (c ≠ ';') = true := by
    intro c member
    refine decide_eq_true ?_
    rintro rfl
    exact first (Utf8.mem_of_mem_decodeLossy semicolon member)
  rcases parameters with rfl | ⟨more, rfl⟩
  · rw [List.append_nil, List.takeWhile_eq_self_iff.mpr none]
  · rw [Utf8.decodeLossy_append_ascii semicolon, List.takeWhile_append_of_pos none,
      List.takeWhile_cons_of_neg (by decide), List.append_nil]

/-- The essence of a value is what is computed of it. -/
theorem hasEssence_iff {value : Bytes} {text : String} : HasEssence value text ↔ essence value = text := by
  constructor
  · intro has
    cases has with
    | intro cut first parameters text blankLeft blankRight starts ends =>
        rw [essence, cut, takeWhile_decodeLossy first parameters, text,
          Text.trim_append blankLeft blankRight starts ends]
  · rintro rfl
    obtain ⟨before, after, cut, first, parameters⟩ := exists_cut value
    obtain ⟨left, right, whole, blankLeft, blankRight⟩ := Text.exists_trim (Utf8.decodeLossy before)
    rw [essence, cut, takeWhile_decodeLossy first parameters]
    exact .intro rfl first parameters whole blankLeft blankRight (fun _ => Text.isBlank_head_trim)
      (fun _ => Text.isBlank_getLast_trimEnd)

/-- A value that is no text before its first semicolon has an essence with a replacement character. -/
theorem HasEssence.replacement_mem {before after : Bytes} {text : String} (has : HasEssence (before ++ after) text)
    (first : 0x3B ∉ before) (parameters : StartsParameters after)
    (broken : ∀ written, before ≠ Bytes.ofString written) : '\uFFFD' ∈ text.toList := by
  obtain ⟨left, right, whole, blankLeft, blankRight⟩ := Text.exists_trim (Utf8.decodeLossy before)
  have replaced := Utf8.replacement_mem_decodeLossy broken
  have notBlank : Text.isBlank '\uFFFD' ≠ true := by decide
  rw [whole, List.mem_append, List.mem_append] at replaced
  have inside : '\uFFFD' ∈ Text.trim (Utf8.decodeLossy before) := by
    rcases replaced with here | here | here
    · exact absurd (blankLeft _ here) notBlank
    · exact here
    · exact absurd (blankRight _ here) notBlank
  rw [← hasEssence_iff.mp has, essence, takeWhile_decodeLossy first parameters, String.toList_ofList]
  exact List.mem_map.mpr ⟨_, inside, by decide⟩

end Http.MediaType

namespace GraphQL

open Http

/-! ## Types of bodies -/

/-- The type of a body is a text: the essence of the first value of the content type, or that of JSON documents if
there is no value. -/
inductive TypeIs (head : Head) : String → Prop
  | absent (missing : head.headers.first? "content-type" = none) : TypeIs head "application/json"
  | given {value : Bytes} {essence : String} (first : head.headers.first? "content-type" = some value)
      (has : MediaType.HasEssence value essence) : TypeIs head essence

theorem typeIs_iff {head : Head} {essence : String} : TypeIs head essence ↔ Handler.contentType head = essence := by
  unfold Handler.contentType
  constructor
  · intro type
    cases type with
    | absent missing =>
        rw [missing]
        rfl
    | given first has =>
        rw [first]
        exact MediaType.hasEssence_iff.mp has
  · rintro rfl
    cases first : head.headers.first? "content-type" with
    | none => exact .absent first
    | some value => exact .given first (MediaType.hasEssence_iff.mpr rfl)

end GraphQL

end QueryGateway
