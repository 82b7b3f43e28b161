import QueryGateway.Json.Scanner

/-!
# Values in JSON texts

`readValue` reads a value from the start of a text and keeps it; `skipValue` passes over one without keeping
it, with no limit on nesting and no check of what its numbers and strings stand for.  Both recurse on a fuel
that bounds the octets to come, so the fuel of a whole text is its length.

An object whose first member has the name `embeddedName` stands for the document that is written in the
string of that member, unless the value is read only to see which of several kinds it has.
-/

namespace QueryGateway.Json

/-- The member name under which a document stands inside a string. -/
def embeddedName : String := "$serde_json::private::RawValue"

/-- How deep a document may be nested. -/
def depthLimit : Nat := 128

/-! ## Separators -/

/-- The octets of a member's value, after its name. -/
def readColon (bs : Bytes) : Reading Bytes :=
  match skipBlanks bs with
  | 0x3A :: rest => .ok rest
  | [] => faultNext .unclosedObject []
  | rest => faultNext .expectedColon rest

/-- Leaves a list after its last wanted item. -/
def closeList (bs : Bytes) : Reading Bytes :=
  match skipBlanks bs with
  | 0x5D :: rest => .ok rest
  | 0x2C :: rest =>
    match skipBlanks rest with
    | 0x5D :: more => faultNext .trailingComma (0x5D :: more)
    | rest => faultNext .trailingCharacters rest
  | [] => faultNext .unclosedList []
  | rest => faultNext .trailingCharacters rest

/-- Leaves an object after its last wanted member. -/
def closeObject (bs : Bytes) : Reading Bytes :=
  match skipBlanks bs with
  | 0x7D :: rest => .ok rest
  | 0x2C :: rest => faultNext .trailingComma (0x2C :: rest)
  | [] => faultNext .unclosedObject []
  | rest => faultNext .trailingCharacters rest

/-- Checks that only blanks are left. -/
def readEnd (bs : Bytes) : Reading Unit :=
  match skipBlanks bs with
  | [] => .ok ()
  | rest => faultNext .trailingCharacters rest

/-- What follows an item of a list or the opening bracket: the next item, or the octets after the end. -/
inductive Continuation where
  | more (bs : Bytes)
  | done (rest : Bytes)

/-- The first item of a list after its opening bracket. -/
def firstItem (bs : Bytes) : Reading Continuation :=
  match skipBlanks bs with
  | 0x5D :: rest => .ok (.done rest)
  | [] => faultNext .unclosedList []
  | rest => .ok (.more rest)

/-- The next item of a list. -/
def nextItem (bs : Bytes) : Reading Continuation :=
  match skipBlanks bs with
  | 0x5D :: rest => .ok (.done rest)
  | 0x2C :: rest =>
    match skipBlanks rest with
    | 0x5D :: more => faultNext .trailingComma (0x5D :: more)
    | [] => faultNext .missingValue []
    | rest => .ok (.more rest)
  | [] => faultNext .unclosedList []
  | rest => faultNext .expectedListSeparator rest

/-- The first member of an object after its opening brace; its name starts after the quote. -/
def firstMember (bs : Bytes) : Reading Continuation :=
  match skipBlanks bs with
  | 0x7D :: rest => .ok (.done rest)
  | 0x22 :: rest => .ok (.more rest)
  | [] => faultNext .unclosedObject []
  | rest => faultNext .keyNotString rest

/-- The next member of an object; its name starts after the quote. -/
def nextMember (bs : Bytes) : Reading Continuation :=
  match skipBlanks bs with
  | 0x7D :: rest => .ok (.done rest)
  | 0x2C :: rest =>
    match skipBlanks rest with
    | 0x22 :: more => .ok (.more more)
    | 0x7D :: more => faultNext .trailingComma (0x7D :: more)
    | [] => faultNext .missingValue []
    | rest => faultNext .keyNotString rest
  | [] => faultNext .unclosedObject []
  | rest => faultNext .expectedObjectSeparator rest

/-! ## Kinds of values -/

/-- The layout of doubles: positional while the leading digit has an exponent from -5 to 15. -/
def doubleLayout : Decimal.Layout := .scientificOutside (-5) 15

/-- What a mismatch says of a number. -/
def Number.found : Number → Shape.Found
  | .whole n => .whole n.val
  | .double x => .fractional (String.ofList (x.chars doubleLayout))

/-- The failure at a value of a kind that is not expected: a scalar is read first, a list or an object is
not entered. -/
def unexpectedValue {α : Type} (expected : String) (bs : Bytes) : Reading α :=
  match bs with
  | [] => faultNext .missingValue []
  | 0x6E :: rest => do
    let rest ← readWord [0x75, 0x6C, 0x6C] rest
    mismatchHere (.unexpected .null expected) rest
  | 0x74 :: rest => do
    let rest ← readWord [0x72, 0x75, 0x65] rest
    mismatchHere (.unexpected (.flag true) expected) rest
  | 0x66 :: rest => do
    let rest ← readWord [0x61, 0x6C, 0x73, 0x65] rest
    mismatchHere (.unexpected (.flag false) expected) rest
  | 0x2D :: rest => do
    let (n, rest) ← readNumber true rest
    mismatchHere (.unexpected (Number.found n) expected) rest
  | 0x22 :: rest => do
    let (s, rest) ← readString rest
    mismatchHere (.unexpected (.text s) expected) rest
  | 0x5B :: rest => mismatchHere (.unexpected .sequence expected) (0x5B :: rest)
  | 0x7B :: rest => mismatchHere (.unexpected .map expected) (0x7B :: rest)
  | b :: rest =>
    if isDigitOctet b then do
      let (n, rest) ← readNumber false (b :: rest)
      mismatchHere (.unexpected (Number.found n) expected) rest
    else faultNext .expectedValue (b :: rest)

/-- A string where one is expected. -/
def expectString (expected : String) (bs : Bytes) : Reading (String × Bytes) :=
  match skipBlanks bs with
  | 0x22 :: rest => readString rest
  | rest => unexpectedValue expected rest

/-- A name and the octets of its value. -/
def readName (bs : Bytes) : Reading (String × Bytes) := do
  let (name, rest) ← readString bs
  let rest ← readColon rest
  .ok (name, rest)

/-! ## Kept values -/

mutual

/-- A value, nested at most `depth - 1` deep; `embeds` tells whether an object may stand for a document that
is written in a string. -/
def readValue (embeds : Bool) : Nat → Nat → Bytes → Reading (Json × Bytes)
  | 0, _, _ => faultNext .missingValue []
  | fuel + 1, depth, bs =>
    match skipBlanks bs with
    | [] => faultNext .missingValue []
    | 0x6E :: rest => do
      let rest ← readWord [0x75, 0x6C, 0x6C] rest
      .ok (.null, rest)
    | 0x74 :: rest => do
      let rest ← readWord [0x72, 0x75, 0x65] rest
      .ok (.bool true, rest)
    | 0x66 :: rest => do
      let rest ← readWord [0x61, 0x6C, 0x73, 0x65] rest
      .ok (.bool false, rest)
    | 0x2D :: rest => do
      let (n, rest) ← readNumber true rest
      .ok (.number n, rest)
    | 0x22 :: rest => do
      let (s, rest) ← readString rest
      .ok (.string s, rest)
    | 0x5B :: rest =>
      if depth ≤ 1 then faultNext .tooDeep (0x5B :: rest)
      else do
        match ← firstItem rest with
        | .done rest => .ok (.array [], rest)
        | .more rest =>
          let (first, rest) ← readValue embeds fuel (depth - 1) rest
          let (items, rest) ← readItems embeds fuel (depth - 1) rest
          .ok (.array (first :: items), rest)
    | 0x7B :: rest =>
      if depth ≤ 1 then faultNext .tooDeep (0x7B :: rest)
      else do
        match ← firstMember rest with
        | .done rest => .ok (.object [], rest)
        | .more rest =>
          let (name, rest) ← readName rest
          if embeds && name = embeddedName then
            let (written, rest) ← expectString "raw value" rest
            let inner := Bytes.ofString written
            match readWhole fuel inner with
            | .error failure => .error (.settled (failure.error inner))
            | .ok value =>
              let rest ← closeObject rest
              .ok (value, rest)
          else
            let (value, rest) ← readValue embeds fuel (depth - 1) rest
            let (members, rest) ← readMembers embeds fuel (depth - 1) [(name, value)] rest
            .ok (.object members, rest)
    | b :: rest =>
      if isDigitOctet b then do
        let (n, rest) ← readNumber false (b :: rest)
        .ok (.number n, rest)
      else faultNext .expectedValue (b :: rest)

/-- The items of a list after the first. -/
def readItems (embeds : Bool) : Nat → Nat → Bytes → Reading (List Json × Bytes)
  | 0, _, _ => faultNext .missingValue []
  | fuel + 1, depth, bs => do
    match ← nextItem bs with
    | .done rest => .ok ([], rest)
    | .more rest =>
      let (item, rest) ← readValue embeds fuel depth rest
      let (items, rest) ← readItems embeds fuel depth rest
      .ok (item :: items, rest)

/-- The members read so far with those to come. -/
def readMembers (embeds : Bool) : Nat → Nat → Members → Bytes → Reading (Members × Bytes)
  | 0, _, _, _ => faultNext .missingValue []
  | fuel + 1, depth, members, bs => do
    match ← nextMember bs with
    | .done rest => .ok (members, rest)
    | .more rest =>
      let (name, rest) ← readName rest
      let (value, rest) ← readValue embeds fuel depth rest
      readMembers embeds fuel depth (members.insert name value) rest

/-- The value of a whole text. -/
def readWhole : Nat → Bytes → Reading Json
  | 0, _ => faultNext .missingValue []
  | fuel + 1, bs => do
    let (value, rest) ← readValue true fuel depthLimit bs
    let _ ← readEnd rest
    .ok value

end

/-- A fuel that suffices for a text. -/
def fuelFor (bs : Bytes) : Nat := bs.length + 2

/-- The value of a JSON text. -/
def parse (bs : Bytes) : Except Error Json :=
  match readWhole (fuelFor bs) bs with
  | .ok value => .ok value
  | .error failure => .error (failure.error bs)

/-! ## Skipped values -/

/-- The octets after a string of which nothing is kept. -/
def skipString : Bytes → Reading Bytes
  | [] => faultHere .unclosedString []
  | b :: bs =>
    if b = 0x22 then .ok bs
    else if b = 0x5C then
      match bs with
      | [] => faultHere .unclosedString []
      | e :: more =>
        if e = 0x75 then do
          let _ ← readHex more
          skipString (more.drop 4)
        else if e ∈ [0x22, 0x5C, 0x2F, 0x62, 0x66, 0x6E, 0x72, 0x74] then skipString more
        else faultHere .invalidEscape more
    else if b.toNat < 0x20 then faultHere .controlCharacter (b :: bs)
    else skipString bs
  termination_by bs => bs.length
  decreasing_by all_goals simp only [List.length_drop, List.length_cons]; omega

/-- The octets after the digits of an exponent, the sign of which may come first. -/
def skipExponent (bs : Bytes) : Reading Bytes :=
  let digits :=
    match bs with
    | 0x2B :: rest => rest
    | 0x2D :: rest => rest
    | _ => bs
  match digits with
  | [] => faultHere .invalidNumber []
  | b :: rest =>
    if isDigitOctet b then .ok (rest.dropWhile isDigitOctet) else faultHere .invalidNumber rest

/-- The octets after the exponent, if one follows. -/
def skipScale (bs : Bytes) : Reading Bytes :=
  match bs with
  | 0x65 :: rest => skipExponent rest
  | 0x45 :: rest => skipExponent rest
  | _ => .ok bs

/-- The octets after a number without its sign, of which nothing is kept. -/
def skipNumber : Bytes → Reading Bytes
  | [] => faultHere .invalidNumber []
  | b :: bs =>
    if !isDigitOctet b then faultHere .invalidNumber bs
    else if b = 0x30 && startsWithDigit bs then faultNext .invalidNumber bs
    else
      let rest := bs.dropWhile isDigitOctet
      match rest with
      | 0x2E :: more =>
        if startsWithDigit more then skipScale (more.dropWhile isDigitOctet)
        else faultNext .invalidNumber more
      | _ => skipScale rest

/-- A name of which nothing is kept, and the octets of its value. -/
def skipName (bs : Bytes) : Reading Bytes := do
  let rest ← skipString bs
  readColon rest

mutual

/-- The octets after a value of which nothing is kept. -/
def skipValue : Nat → Bytes → Reading Bytes
  | 0, _ => faultNext .missingValue []
  | fuel + 1, bs =>
    match skipBlanks bs with
    | [] => faultNext .missingValue []
    | 0x6E :: rest => readWord [0x75, 0x6C, 0x6C] rest
    | 0x74 :: rest => readWord [0x72, 0x75, 0x65] rest
    | 0x66 :: rest => readWord [0x61, 0x6C, 0x73, 0x65] rest
    | 0x2D :: rest => skipNumber rest
    | 0x22 :: rest => skipString rest
    | 0x5B :: rest =>
      match skipBlanks rest with
      | 0x5D :: rest => .ok rest
      | [] => faultNext .unclosedList []
      | rest => do
        let rest ← skipValue fuel rest
        skipItems fuel rest
    | 0x7B :: rest =>
      match skipBlanks rest with
      | 0x7D :: rest => .ok rest
      | 0x22 :: rest => do
        let rest ← skipName rest
        let rest ← skipValue fuel rest
        skipMembers fuel rest
      | [] => faultNext .unclosedObject []
      | rest => faultNext .keyNotString rest
    | b :: rest =>
      if isDigitOctet b then skipNumber (b :: rest) else faultNext .expectedValue (b :: rest)

/-- The octets after the items of a list that follow the first. -/
def skipItems : Nat → Bytes → Reading Bytes
  | 0, _ => faultNext .missingValue []
  | fuel + 1, bs =>
    match skipBlanks bs with
    | 0x5D :: rest => .ok rest
    | 0x2C :: rest => do
      let rest ← skipValue fuel rest
      skipItems fuel rest
    | [] => faultNext .unclosedList []
    | rest => faultNext .expectedListSeparator rest

/-- The octets after the members of an object that follow the first. -/
def skipMembers : Nat → Bytes → Reading Bytes
  | 0, _ => faultNext .missingValue []
  | fuel + 1, bs =>
    match skipBlanks bs with
    | 0x7D :: rest => .ok rest
    | 0x2C :: rest =>
      match skipBlanks rest with
      | 0x22 :: rest => do
        let rest ← skipName rest
        let rest ← skipValue fuel rest
        skipMembers fuel rest
      | [] => faultNext .unclosedObject []
      | rest => faultNext .keyNotString rest
    | [] => faultNext .unclosedObject []
    | rest => faultNext .expectedObjectSeparator rest

end

/-! ## Blanks before what is passed over -/

section

variable {fuel : Nat} {b : UInt8}

theorem skipValue_of_blank (blank : isBlankOctet b = true) (bs : Bytes) :
    skipValue fuel (b :: bs) = skipValue fuel bs := by
  cases fuel with
  | zero => rfl
  | succ fuel =>
      unfold skipValue
      rw [skipBlanks_of_blank blank]

theorem skipItems_of_blank (blank : isBlankOctet b = true) (bs : Bytes) :
    skipItems fuel (b :: bs) = skipItems fuel bs := by
  cases fuel with
  | zero => rfl
  | succ fuel =>
      unfold skipItems
      rw [skipBlanks_of_blank blank]

theorem skipMembers_of_blank (blank : isBlankOctet b = true) (bs : Bytes) :
    skipMembers fuel (b :: bs) = skipMembers fuel bs := by
  cases fuel with
  | zero => rfl
  | succ fuel =>
      unfold skipMembers
      rw [skipBlanks_of_blank blank]

end

theorem skipValue_skipBlanks (fuel : Nat) (bs : Bytes) : skipValue fuel (skipBlanks bs) = skipValue fuel bs := by
  cases fuel with
  | zero => rfl
  | succ fuel =>
      unfold skipValue
      rw [skipBlanks_skipBlanks]

end QueryGateway.Json
