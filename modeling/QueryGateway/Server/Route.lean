/-!
# Routes

A route is a pattern of paths.  `{name}` stands for the rest of a segment and `{*name}` for the rest of the
path; a brace that is written twice stands for itself.  Where a name stands, something of the path must be
left: the rest of the last segment is never empty, that of another one may be.
Main statements: literal parts match their own text only, and so does a pattern without braces.
-/

namespace QueryGateway.Server

/-- What a route consists of. -/
inductive RoutePart where
  | literal (c : Char)
  | segment
  | rest
  deriving DecidableEq, Repr

/-- A pattern of paths. -/
structure Route where
  parts : List RoutePart
  deriving DecidableEq, Repr

namespace Route

/-- The characters of a pattern; true marks a brace that was written twice. -/
def unescape : List Char → List (Char × Bool)
  | [] => []
  | '{' :: '{' :: cs => ('{', true) :: unescape cs
  | '}' :: '}' :: cs => ('}', true) :: unescape cs
  | c :: cs => (c, false) :: unescape cs

/-- What follows a name of which the first character was read, and whether the name has only that one. -/
def afterName (short : Bool) : List (Char × Bool) → Option (Bool × List (Char × Bool))
  | [] => none
  | (c, escaped) :: cs =>
    if c = '}' && !escaped then some (short, cs)
    else if c = '*' || c = '/' then none
    else afterName false cs

theorem length_of_afterName {short : Bool} {cs rest : List (Char × Bool)} {b : Bool}
    (h : afterName short cs = some (b, rest)) : rest.length < cs.length := by
  induction cs generalizing short with
  | nil => simp [afterName] at h
  | cons c cs ih =>
    obtain ⟨c, escaped⟩ := c
    unfold afterName at h
    split at h
    · cases h
      simp
    · split at h
      · cases h
      · have := ih h
        simp only [List.length_cons]
        omega

/-- The parts of a pattern. -/
def parts? : List (Char × Bool) → Option (List RoutePart)
  | [] => some []
  | (c, escaped) :: cs =>
    if c = '}' && !escaped then none
    else if c = '{' && !escaped then
      match cs with
      | [] => none
      | (first, _) :: more =>
        if first = '}' then none
        else
          match _h : afterName true more with
          | none => none
          | some (short, rest) =>
            if first = '*' then if short || !rest.isEmpty then none else some [.rest]
            else if rest.isEmpty || (rest.head?.map Prod.fst) = some '/' then
              (parts? rest).map (.segment :: ·)
            else none
    else (parts? cs).map (.literal c :: ·)
  termination_by cs => cs.length
  decreasing_by
    · have := length_of_afterName _h
      simp only [List.length_cons]
      omega
    · simp

/-- Whether a segment of a pattern starts with a mark of an obsolete notation. -/
def hasObsoleteMark : List Char → Bool
  | '/' :: ':' :: _ => true
  | '/' :: '*' :: _ => true
  | _ :: cs => hasObsoleteMark cs
  | [] => false

/-- The most `{name}` parts of a route. -/
def segmentLimit : Nat := 25

/-- The route that a pattern writes. -/
def parse? (pattern : String) : Option Route :=
  if pattern.toList.head? = some '/' && !hasObsoleteMark pattern.toList then
    match parts? (unescape pattern.toList) with
    | some parts => if parts.count .segment ≤ segmentLimit then some ⟨parts⟩ else none
    | none => none
  else none

/-- Whether parts match a path. -/
def matchParts : List RoutePart → List Char → Bool
  | [], cs => cs.isEmpty
  | .literal c :: parts, cs =>
    match cs with
    | [] => false
    | d :: cs => c = d && matchParts parts cs
  | .segment :: parts, cs =>
    !cs.isEmpty && matchParts parts (cs.dropWhile (· ≠ '/'))
  | .rest :: _, cs => !cs.isEmpty

/-- Whether a route matches a path. -/
def accepts (route : Route) (path : String) : Bool := matchParts route.parts path.toList

theorem matchParts_literal {cs ds : List Char} :
    matchParts (cs.map .literal) ds = true ↔ cs = ds := by
  induction cs generalizing ds with
  | nil => cases ds <;> simp [matchParts]
  | cons c cs ih => cases ds <;> simp [matchParts, ih]

/-- A pattern without braces: each character stands for itself. -/
def IsLiteral (pattern : String) : Prop := ∀ c ∈ pattern.toList, c ≠ '{' ∧ c ≠ '}'

instance (pattern : String) : Decidable (IsLiteral pattern) :=
  List.decidableBAll (fun c => c ≠ '{' ∧ c ≠ '}') pattern.toList

theorem unescape_of_literal {cs : List Char} (literal : ∀ c ∈ cs, c ≠ '{' ∧ c ≠ '}') :
    unescape cs = cs.map fun c => (c, false) := by
  fun_induction unescape cs with
  | case1 => rfl
  | case2 cs ih => exact absurd rfl (literal '{' List.mem_cons_self).1
  | case3 cs ih => exact absurd rfl (literal '}' List.mem_cons_self).2
  | case4 c cs _ _ ih =>
      rw [List.map_cons, ih fun d member => literal d (List.mem_cons_of_mem c member)]

theorem parts?_of_literal {cs : List Char} (literal : ∀ c ∈ cs, c ≠ '{' ∧ c ≠ '}') :
    parts? (cs.map fun c => (c, false)) = some (cs.map .literal) := by
  induction cs with
  | nil => simp [parts?]
  | cons c cs ih =>
      obtain ⟨notOpen, notClosed⟩ := literal c List.mem_cons_self
      have others := ih fun d member => literal d (List.mem_cons_of_mem c member)
      rw [List.map_cons, parts?.eq_def]
      simp [notOpen, notClosed, others]

/-- A pattern without names matches itself only. -/
theorem accepts_iff_of_literal {pattern : String} (literal : IsLiteral pattern)
    {route : Route} (parsed : parse? pattern = some route) (path : String) :
    route.accepts path = true ↔ path = pattern := by
  have parts : route.parts = pattern.toList.map .literal := by
    unfold parse? at parsed
    rw [unescape_of_literal literal, parts?_of_literal literal] at parsed
    split at parsed
    · dsimp only at parsed
      split at parsed
      · cases parsed
        rfl
      · cases parsed
    · cases parsed
  rw [accepts, parts, matchParts_literal, String.toList_inj]
  exact eq_comm

end Route

end QueryGateway.Server
