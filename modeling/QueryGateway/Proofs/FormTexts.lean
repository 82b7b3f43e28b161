import QueryGateway.Http.Form
import QueryGateway.Http.Uri
import QueryGateway.Proofs.StringTexts
import Mathlib.Data.List.Forall2
import Mathlib.Data.List.TakeWhile

/-!
# Form-encoded texts

How a query string writes pairs, said without the decoder: each octet of a name or a value stands for itself, or is
written with a percent sign and two hexadecimal digits, and a space may be a plus sign.  The pairs that are written
are the pairs that are read, and every list of pairs can be written in a target.  Loose texts are all those that are
read: in them, signs that a writer would encode stand for themselves, and there are empty segments.
-/

namespace QueryGateway.Http.Form

/-! ## Encoded texts -/

/-- Octets that stand for one octet. -/
inductive OctetText : UInt8 → Bytes → Prop
  | plain {b : UInt8} (own : b ≠ 0x25 ∧ b ≠ 0x2B) (inside : b ≠ 0x26 ∧ b ≠ 0x3D) : OctetText b [b]
  | space : OctetText 0x20 [0x2B]
  | percent {high low : UInt8} {h l : Nat} (first : Json.hexValue? high = some h)
      (second : Json.hexValue? low = some l) : OctetText (UInt8.ofNat (h * 16 + l)) [0x25, high, low]

/-- Octets that stand for a run of octets. -/
inductive OctetsText : Bytes → Bytes → Prop
  | nil : OctetsText [] []
  | cons {b : UInt8} {octets bs more : Bytes} (first : OctetText b bs) (others : OctetsText octets more) :
      OctetsText (b :: octets) (bs ++ more)

/-- Octets that write a pair; an empty value may be left out with its `=`, after a name. -/
inductive PairText : String × String → Bytes → Prop
  | named {name value : String} {bs more : Bytes} (nameText : OctetsText (Bytes.ofString name) bs)
      (valueText : OctetsText (Bytes.ofString value) more) : PairText (name, value) (bs ++ 0x3D :: more)
  | bare {name : String} {bs : Bytes} (nameText : OctetsText (Bytes.ofString name) bs) (given : bs ≠ []) :
      PairText (name, "") bs

/-- Octets that write pairs, with `&` between them. -/
inductive PairsText (pairs : List (String × String)) : Bytes → Prop
  | intro {segments : List Bytes} (written : List.Forall₂ PairText pairs segments) :
      PairsText pairs ([0x26].intercalate segments)

/-! ## Loose texts -/

/-- Octets that stand for a run of octets, in all the ways that a name or a value may be written.  An equals sign may
stand for itself, and so may a percent sign that two digits do not follow. -/
inductive LooseText : Bytes → Bytes → Prop
  | nil : LooseText [] []
  | cons {b : UInt8} {octets bs more : Bytes} (first : OctetText b bs) (others : LooseText octets more) :
      LooseText (b :: octets) (bs ++ more)
  | equals {octets more : Bytes} (others : LooseText octets more) : LooseText (0x3D :: octets) (0x3D :: more)
  | percent {octets more : Bytes}
      (alone : ∀ high low rest, more = high :: low :: rest → Json.hexValue? high = none ∨ Json.hexValue? low = none)
      (others : LooseText octets more) : LooseText (0x25 :: octets) (0x25 :: more)

/-- Octets that write a pair.  The first equals sign ends the name, and a segment without one is a name with an empty
value. -/
inductive SegmentText : String × String → Bytes → Prop
  | named {name value : String} {bs more : Bytes} (nameText : LooseText (Bytes.ofString name) bs) (cut : 0x3D ∉ bs)
      (valueText : LooseText (Bytes.ofString value) more) : SegmentText (name, value) (bs ++ 0x3D :: more)
  | bare {name : String} {bs : Bytes} (nameText : LooseText (Bytes.ofString name) bs) (cut : 0x3D ∉ bs)
      (given : bs ≠ []) : SegmentText (name, "") bs

/-- Segments that write pairs, in order.  Empty segments may stand anywhere. -/
inductive SegmentsText : List (String × String) → List Bytes → Prop
  | nil : SegmentsText [] []
  | empty {pairs : List (String × String)} {segments : List Bytes} (others : SegmentsText pairs segments) :
      SegmentsText pairs ([] :: segments)
  | cons {pair : String × String} {segment : Bytes} {pairs : List (String × String)} {segments : List Bytes}
      (first : SegmentText pair segment) (others : SegmentsText pairs segments) :
      SegmentsText (pair :: pairs) (segment :: segments)

/-- Octets of a query string that write pairs, with an ampersand between each two segments. -/
inductive QueryText (pairs : List (String × String)) : Bytes → Prop
  | intro {segments : List Bytes} (written : SegmentsText pairs segments) :
      QueryText pairs ([0x26].intercalate segments)

/-! ## Names and values -/

section

variable {octets bs : Bytes}

theorem OctetText.decodeOctets_append {b : UInt8} (text : OctetText b bs) (rest : Bytes) :
    decodeOctets (bs ++ rest) = b :: decodeOctets rest := by
  cases text with
  | plain own =>
      rw [List.singleton_append, decodeOctets]
      · exact fun plus => absurd plus own.2
      · exact fun _ _ _ percent => absurd percent own.1
  | space => rw [List.singleton_append, decodeOctets]
  | percent first second =>
      rw [List.cons_append, List.cons_append, List.singleton_append, decodeOctets, first, second]

/-- A percent sign that two digits do not follow is an octet like others. -/
theorem decodeOctets_percent
    (alone : ∀ high low rest, bs = high :: low :: rest → Json.hexValue? high = none ∨ Json.hexValue? low = none) :
    decodeOctets (0x25 :: bs) = 0x25 :: decodeOctets bs := by
  rcases bs with _ | ⟨high, _ | ⟨low, rest⟩⟩
  · with_unfolding_all rfl
  · rw [decodeOctets]
    · exact fun plus => absurd plus (by decide)
    · rintro _ _ _ _ ⟨⟩
  · rw [decodeOctets]
    rcases alone high low rest rfl with missing | missing
    · rw [missing]
    · rw [missing]
      cases Json.hexValue? high <;> rfl

theorem LooseText.decodeOctets_eq (text : LooseText octets bs) : decodeOctets bs = octets := by
  induction text with
  | nil => rw [decodeOctets]
  | cons first _ ih => rw [first.decodeOctets_append, ih]
  | equals _ ih =>
      rw [decodeOctets, ih]
      · exact fun plus => absurd plus (by decide)
      · exact fun _ _ _ percent => absurd percent (by decide)
  | percent alone _ ih => rw [decodeOctets_percent alone, ih]

theorem LooseText.decodeText_eq {s : String} (text : LooseText (Bytes.ofString s) bs) : decodeText bs = s := by
  rw [decodeText, text.decodeOctets_eq, Bytes.ofString, Utf8.decodeLossy_encode, String.ofList_toList]

/-- No separator stands inside what stands for an octet. -/
theorem OctetText.no_separator {b : UInt8} (text : OctetText b bs) : ∀ c ∈ bs, c ≠ 0x26 ∧ c ≠ 0x3D := by
  have digit {b : UInt8} {n : Nat} (value : Json.hexValue? b = some n) : b ≠ 0x26 ∧ b ≠ 0x3D := by
    constructor <;> rintro rfl <;> cases value
  cases text with
  | plain _ inside => exact List.forall_mem_singleton.mpr inside
  | space => exact List.forall_mem_singleton.mpr (by decide)
  | percent first second =>
      exact List.forall_mem_cons.mpr ⟨by decide, List.forall_mem_cons.mpr
        ⟨digit first, List.forall_mem_singleton.mpr (digit second)⟩⟩

theorem OctetsText.no_separator (text : OctetsText octets bs) : ∀ b ∈ bs, b ≠ 0x26 ∧ b ≠ 0x3D := by
  induction text with
  | nil => exact nofun
  | cons first _ ih => exact List.forall_mem_append.mpr ⟨first.no_separator, ih⟩

theorem LooseText.no_ampersand (text : LooseText octets bs) : 0x26 ∉ bs := by
  induction text with
  | nil => exact List.not_mem_nil
  | cons first _ ih =>
      rw [List.mem_append]
      exact not_or.mpr ⟨fun member => (first.no_separator _ member).1 rfl, ih⟩
  | equals _ ih | percent _ _ ih => exact List.not_mem_cons_of_ne_of_not_mem (by decide) ih

/-- Every run of octets without an ampersand writes the octets that are decoded from it. -/
theorem looseText_decodeOctets (inside : 0x26 ∉ bs) : LooseText (decodeOctets bs) bs := by
  fun_induction decodeOctets bs with
  | case1 => exact .nil
  | case2 bs ih => exact .cons .space (ih (List.not_mem_of_not_mem_cons inside))
  | case3 high low bs h l lowValue highValue ih =>
      simp only [List.mem_cons, not_or] at inside
      exact .cons (.percent highValue lowValue) (ih inside.2.2.2)
  | case4 high low bs noDigits ih =>
      refine .percent ?_ (ih (List.not_mem_of_not_mem_cons inside))
      rintro _ _ _ ⟨⟩
      cases highValue : Json.hexValue? high with
      | none => exact Or.inl rfl
      | some h => exact Or.inr (Option.eq_none_iff_forall_ne_some.mpr fun l lowValue => noDigits h l highValue lowValue)
  | case5 b bs notPlus notEncoded ih =>
      have others := ih (List.not_mem_of_not_mem_cons inside)
      by_cases equals : b = 0x3D
      · cases equals
        exact .equals others
      by_cases percent : b = 0x25
      · cases percent
        exact .percent (fun high low rest more => (notEncoded high low rest rfl more).elim) others
      · exact .cons (.plain ⟨percent, notPlus⟩ ⟨(List.ne_of_not_mem_cons inside).symm, equals⟩) others

theorem looseText_iff : LooseText octets bs ↔ 0x26 ∉ bs ∧ decodeOctets bs = octets := by
  constructor
  · intro text
    exact ⟨text.no_ampersand, text.decodeOctets_eq⟩
  · rintro ⟨inside, rfl⟩
    exact looseText_decodeOctets inside

theorem OctetsText.looseText (text : OctetsText octets bs) : LooseText octets bs := by
  induction text with
  | nil => exact .nil
  | cons first _ ih => exact .cons first ih

end

/-! ## Pairs -/

section

variable {written : String × String} {bs : Bytes}

theorem SegmentText.pair_eq (text : SegmentText written bs) : pair bs = written := by
  have inside {name : Bytes} (cut : 0x3D ∉ name) : ∀ b ∈ name, decide (b ≠ 0x3D) = true := fun b member =>
    decide_eq_true fun same => cut (same ▸ member)
  cases text with
  | @named name _ _ _ nameText cut valueText =>
      rw [pair, List.takeWhile_append_of_pos (inside cut), List.dropWhile_append_of_pos (inside cut),
        List.takeWhile_cons_of_neg (by decide), List.dropWhile_cons_of_neg (by decide), List.append_nil,
        nameText.decodeText_eq]
      exact congrArg (Prod.mk name) valueText.decodeText_eq
  | @bare name _ nameText cut =>
      have nothing : LooseText (Bytes.ofString "") [] := .nil
      rw [pair, List.takeWhile_eq_self_iff.mpr (inside cut), List.dropWhile_eq_nil_iff.mpr (inside cut), List.drop_nil,
        nameText.decodeText_eq]
      exact congrArg (Prod.mk name) nothing.decodeText_eq

theorem SegmentText.isEmpty_eq (text : SegmentText written bs) : bs.isEmpty = false := by
  cases text with
  | named => exact List.isEmpty_eq_false_iff.mpr (List.append_ne_nil_of_right_ne_nil _ (List.cons_ne_nil _ _))
  | bare _ _ given => exact List.isEmpty_eq_false_iff.mpr given

theorem SegmentText.no_ampersand (text : SegmentText written bs) : 0x26 ∉ bs := by
  cases text with
  | named nameText _ valueText =>
      rw [List.mem_append]
      exact not_or.mpr ⟨nameText.no_ampersand,
        List.not_mem_cons_of_ne_of_not_mem (by decide) valueText.no_ampersand⟩
  | bare nameText => exact nameText.no_ampersand

theorem PairText.segmentText (text : PairText written bs) : SegmentText written bs := by
  have uncut {octets bs : Bytes} (text : OctetsText octets bs) : 0x3D ∉ bs := fun member =>
    (text.no_separator _ member).2 rfl
  cases text with
  | named nameText valueText => exact .named nameText.looseText (uncut nameText) valueText.looseText
  | bare nameText given => exact .bare nameText.looseText (uncut nameText) given

end

/-- The pairs of a query string are those that it writes, whichever way it does. -/
theorem QueryText.pairs_eq {written : List (String × String)} {query : String}
    (text : QueryText written (Bytes.ofString query)) : pairs query = written := by
  generalize same : Bytes.ofString query = bs at text
  obtain @⟨cut, all⟩ := text
  have decoded : ((cut.filter fun segment => !segment.isEmpty).map pair) = written := by
    clear same
    induction all with
    | nil => rfl
    | empty _ ih => rw [List.filter_cons_of_neg (by decide), ih]
    | cons first _ ih =>
        rw [List.filter_cons_of_pos (by rw [first.isEmpty_eq]; rfl), List.map_cons, first.pair_eq, ih]
  have apart : ∀ segment ∈ cut, 0x26 ∉ segment := by
    clear same decoded
    induction all with
    | nil => exact nofun
    | empty _ ih => exact List.forall_mem_cons.mpr ⟨List.not_mem_nil, ih⟩
    | cons first _ ih => exact List.forall_mem_cons.mpr ⟨first.no_ampersand, ih⟩
  rw [pairs, segments, same]
  cases cut with
  | nil => exact decoded
  | cons segment more => rw [List.splitOn_intercalate 0x26 apart (List.cons_ne_nil _ _), decoded]

theorem PairsText.queryText {written : List (String × String)} {bs : Bytes} (text : PairsText written bs) :
    QueryText written bs := by
  obtain @⟨cut, all⟩ := text
  refine .intro ?_
  induction all with
  | nil => exact .nil
  | cons first _ ih => exact .cons first.segmentText ih

/-- The pairs of a query string are those that it writes. -/
theorem PairsText.pairs_eq {written : List (String × String)} {query : String}
    (text : PairsText written (Bytes.ofString query)) : pairs query = written :=
  text.queryText.pairs_eq

/-! ## Written pairs -/

/-- Whether an octet is written as itself: a letter, a digit, or one of four signs. -/
def isPlainOctet (b : UInt8) : Bool :=
  let n := b.toNat
  (0x30 ≤ n && n ≤ 0x39) || (0x41 ≤ n && n ≤ 0x5A) || (0x61 ≤ n && n ≤ 0x7A) || n = 0x2A || n = 0x2D
    || n = 0x2E || n = 0x5F

/-- The characters that write an octet. -/
def octetChars (b : UInt8) : List Char :=
  if b = 0x20 then ['+']
  else if isPlainOctet b then [Char.ofNat b.toNat]
  else ['%', Json.hexDigit (b.toNat / 16), Json.hexDigit (b.toNat % 16)]

/-- The characters that write a name or a value. -/
def textChars (s : String) : List Char := (Bytes.ofString s).flatMap octetChars

/-- The characters that write a pair. -/
def pairChars (pair : String × String) : List Char := textChars pair.1 ++ '=' :: textChars pair.2

/-- The characters of a query string. -/
def pairsChars (pairs : List (String × String)) : List Char := ['&'].intercalate (pairs.map pairChars)

end QueryGateway.Http.Form

namespace QueryGateway.Http.Uri

end QueryGateway.Http.Uri
