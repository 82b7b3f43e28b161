import QueryGateway.Config.Watch
import QueryGateway.Server.Basic

/-!
# Paths that are routes

The path of a configuration is a pattern of paths, and no server can be built whose path is no such pattern.
`Written` is the grammar of patterns, said without the reader of patterns: a character stands for itself unless it
is a brace, a brace is written twice, and a name stands in braces, before a slash or at the end.  The reader accepts
exactly the patterns of the grammar.  A configuration without problems has a path that starts at the root, and this
is all that is known of the path: a server can be built from the configuration exactly if the path is a pattern.
-/

namespace QueryGateway.Server

namespace Route

/-! ## The grammar -/

/-- The characters of a name: neither a star nor a slash, and a closing brace is written twice. -/
inductive NameText : List Char → Prop
  | nil : NameText []
  | brace {cs : List Char} (more : NameText cs) : NameText ('}' :: '}' :: cs)
  | char {c : Char} {cs : List Char} (closing : c ≠ '}') (star : c ≠ '*') (slash : c ≠ '/') (more : NameText cs) :
      NameText (c :: cs)

/-- What may follow the name of a segment: nothing, or a slash. -/
inductive EndsSegment : List Char → Prop
  | nil : EndsSegment []
  | slash (cs : List Char) : EndsSegment ('/' :: cs)

/-- A text is a pattern that consists of some parts. -/
inductive Written : List Char → List RoutePart → Prop
  | nil : Written [] []
  | plain {c : Char} {cs : List Char} {parts : List RoutePart} (opening : c ≠ '{') (closing : c ≠ '}')
      (more : Written cs parts) : Written (c :: cs) (.literal c :: parts)
  | opening {cs : List Char} {parts : List RoutePart} (more : Written cs parts) :
      Written ('{' :: '{' :: cs) (.literal '{' :: parts)
  | closing {cs : List Char} {parts : List RoutePart} (more : Written cs parts) :
      Written ('}' :: '}' :: cs) (.literal '}' :: parts)
  | segment {first : Char} {name cs : List Char} {parts : List RoutePart} (opening : first ≠ '{')
      (closing : first ≠ '}') (star : first ≠ '*') (text : NameText name) (ends : EndsSegment cs)
      (more : Written cs parts) : Written ('{' :: first :: (name ++ '}' :: cs)) (.segment :: parts)
  | rest {name : List Char} (text : NameText name) (named : name ≠ []) :
      Written ('{' :: '*' :: (name ++ ['}'])) [.rest]

/-- A path writes a route: no segment of it starts with a mark of the obsolete notation, and it is a pattern in which
not too many segments have a name. -/
structure WrittenAs (pattern : String) (route : Route) : Prop where
  noColon : ¬['/', ':'] <:+: pattern.toList
  noStar : ¬['/', '*'] <:+: pattern.toList
  written : Written pattern.toList route.parts
  few : route.parts.count .segment ≤ segmentLimit

/-! ## Obsolete marks -/

/-- A pair of characters stands in a text at its start, or later. -/
theorem pair_infix_cons_iff {a b c : Char} {cs : List Char} :
    [a, b] <:+: c :: cs ↔ (c = a ∧ cs.head? = some b) ∨ [a, b] <:+: cs := by
  rw [List.infix_cons_iff, List.cons_prefix_cons]
  refine or_congr_left ⟨?_, ?_⟩
  · rintro ⟨rfl, more, rfl⟩
    exact ⟨rfl, rfl⟩
  · rintro ⟨rfl, next⟩
    obtain ⟨more, rfl⟩ := List.head?_eq_some_iff.mp next
    exact ⟨rfl, more, rfl⟩

theorem hasObsoleteMark_iff {cs : List Char} :
    hasObsoleteMark cs = true ↔ ['/', ':'] <:+: cs ∨ ['/', '*'] <:+: cs := by
  fun_induction hasObsoleteMark cs with
  | case1 cs =>
      have here : ['/', ':'] <:+: '/' :: ':' :: cs := ⟨[], cs, rfl⟩
      exact iff_of_true rfl (Or.inl here)
  | case2 cs =>
      have here : ['/', '*'] <:+: '/' :: '*' :: cs := ⟨[], cs, rfl⟩
      exact iff_of_true rfl (Or.inr here)
  | case3 c cs noColon noStar ih =>
      have notHere (mark : Char) (other : ∀ more, c = '/' → cs = mark :: more → False) :
          ¬(c = '/' ∧ cs.head? = some mark) := by
        rintro ⟨slash, next⟩
        obtain ⟨more, same⟩ := List.head?_eq_some_iff.mp next
        exact other more slash same
      rw [ih, pair_infix_cons_iff, pair_infix_cons_iff, or_iff_right (notHere ':' noColon),
        or_iff_right (notHere '*' noStar)]
  | case4 => exact iff_of_false nofun (by simp)

/-! ## Names -/

/-- A text starts with a name and the brace that closes it, which is not written twice. -/
structure NameThen (cs name more : List Char) : Prop where
  cut : cs = name ++ '}' :: more
  text : NameText name
  ends : more.head? ≠ some '}'

theorem nameThen_closing {cs : List Char} (ends : cs.head? ≠ some '}') {name more : List Char} :
    NameThen ('}' :: cs) name more ↔ name = [] ∧ more = cs := by
  constructor
  · rintro ⟨cut, text, -⟩
    cases text with
    | nil => exact ⟨rfl, (List.cons.inj cut).2.symm⟩
    | brace =>
        obtain ⟨-, rfl⟩ := List.cons.inj cut
        exact absurd rfl ends
    | char closing => exact absurd (List.cons.inj cut).1.symm closing
  · rintro ⟨rfl, rfl⟩
    exact ⟨rfl, .nil, ends⟩

theorem nameThen_brace {cs name more : List Char} :
    NameThen ('}' :: '}' :: cs) name more ↔ ∃ shorter, name = ['}', '}'] ++ shorter ∧ NameThen cs shorter more := by
  constructor
  · rintro ⟨cut, text, ends⟩
    cases text with
    | nil =>
        obtain ⟨-, rfl⟩ := List.cons.inj cut
        exact absurd rfl ends
    | brace text =>
        obtain ⟨-, cut⟩ := List.cons.inj cut
        exact ⟨_, rfl, (List.cons.inj cut).2, text, ends⟩
    | char closing => exact absurd (List.cons.inj cut).1.symm closing
  · rintro ⟨shorter, rfl, rfl, text, ends⟩
    exact ⟨rfl, .brace text, ends⟩

theorem nameThen_char {c : Char} (closing : c ≠ '}') (star : c ≠ '*') (slash : c ≠ '/') {cs name more : List Char} :
    NameThen (c :: cs) name more ↔ ∃ shorter, name = [c] ++ shorter ∧ NameThen cs shorter more := by
  constructor
  · rintro ⟨cut, text, ends⟩
    cases text with
    | nil => exact absurd (List.cons.inj cut).1 closing
    | brace => exact absurd (List.cons.inj cut).1 closing
    | char _ _ _ text =>
        obtain ⟨same, after⟩ := List.cons.inj cut
        subst same
        exact ⟨_, rfl, after, text, ends⟩
  · rintro ⟨shorter, rfl, rfl, text, ends⟩
    exact ⟨rfl, .char closing star slash text, ends⟩

theorem not_nameThen_mark {c : Char} (mark : c = '*' ∨ c = '/') (cs name more : List Char) :
    ¬NameThen (c :: cs) name more := by
  rintro ⟨cut, text, -⟩
  have closing : c ≠ '}' := by
    rcases mark with rfl | rfl <;> decide
  cases text with
  | nil => exact closing (List.cons.inj cut).1
  | brace => exact closing (List.cons.inj cut).1
  | char _ star slash =>
      obtain ⟨same, -⟩ := List.cons.inj cut
      subst same
      exact mark.elim star slash

theorem unescape_of_ne {c : Char} (opening : c ≠ '{') (closing : c ≠ '}') (cs : List Char) :
    unescape (c :: cs) = (c, false) :: unescape cs := by
  rw [unescape.eq_def]
  split <;> simp_all

/-- A brace that is not written twice stands for itself in what is read. -/
theorem unescape_opening {c : Char} (opening : c ≠ '{') (cs : List Char) :
    unescape ('{' :: c :: cs) = ('{', false) :: unescape (c :: cs) := by
  rw [unescape]
  · rintro more - same
    exact opening (List.cons.inj same).1
  · rintro more same
    cases same

section

variable (short : Bool) (cs : List (Char × Bool))

theorem afterName_closing : afterName short (('}', false) :: cs) = some (short, cs) := rfl

theorem afterName_mark {c : Char} (mark : c = '*' ∨ c = '/') (escaped : Bool) :
    afterName short ((c, escaped) :: cs) = none := by
  rcases mark with rfl | rfl <;> rfl

theorem afterName_char {c : Char} {escaped : Bool} (goesOn : c ≠ '}' ∨ escaped = true) (star : c ≠ '*')
    (slash : c ≠ '/') : afterName short ((c, escaped) :: cs) = afterName false cs := by
  rcases goesOn with closing | rfl <;> simp [afterName, *]

end

/-- What the reader should find: a name with its brace, what follows it, and whether the name has nothing more. -/
def FindsName (short : Bool) (cs : List Char) (alone : Bool) (rest : List (Char × Bool)) : Prop :=
  ∃ name more, NameThen cs name more ∧ rest = unescape more ∧ alone = (short && name.isEmpty)

/-- A name that goes on has more. -/
theorem findsName_longer {cs longer front : List Char} (goesOn : front ≠ [])
    (continues : ∀ name more, NameThen longer name more ↔ ∃ shorter, name = front ++ shorter ∧ NameThen cs shorter more)
    {short alone : Bool} {rest : List (Char × Bool)} :
    FindsName short longer alone rest ↔ FindsName false cs alone rest := by
  unfold FindsName
  simp only [continues]
  constructor
  · rintro ⟨_, more, ⟨shorter, rfl, named⟩, read, rfl⟩
    refine ⟨shorter, more, named, read, ?_⟩
    simp [goesOn]
  · rintro ⟨shorter, more, named, read, rfl⟩
    refine ⟨_, more, ⟨shorter, rfl, named⟩, read, ?_⟩
    simp [goesOn]

/-- What is read of a name and of what follows it is what there is. -/
theorem afterName_unescape_iff {short alone : Bool} {cs : List Char} {rest : List (Char × Bool)} :
    afterName short (unescape cs) = some (alone, rest) ↔ FindsName short cs alone rest := by
  fun_induction unescape cs generalizing short with
  | case1 =>
      refine iff_of_false (fun read => ?_) ?_
      · cases read
      · rintro ⟨name, more, ⟨cut, -, -⟩, -⟩
        cases name <;> cases cut
  | case2 cs ih =>
      have once (rest name more : List Char) :=
        @nameThen_char '{' (by decide) (by decide) (by decide) rest name more
      rw [afterName_char _ _ (.inr rfl) (by decide) (by decide), ih]
      symm
      exact (findsName_longer (List.cons_ne_nil _ _) (once _)).trans
        (findsName_longer (List.cons_ne_nil _ _) (once _))
  | case3 cs ih =>
      rw [afterName_char _ _ (.inr rfl) (by decide) (by decide), ih]
      exact (findsName_longer (List.cons_ne_nil _ _) fun _ _ => nameThen_brace).symm
  | case4 c cs notOpening notClosing ih =>
      by_cases closing : c = '}'
      · subst closing
        have ends : cs.head? ≠ some '}' := by
          intro next
          obtain ⟨more, same⟩ := List.head?_eq_some_iff.mp next
          exact notClosing more rfl same
        rw [afterName_closing, Option.some.injEq, Prod.mk.injEq]
        unfold FindsName
        simp only [nameThen_closing ends]
        constructor
        · rintro ⟨rfl, rfl⟩
          exact ⟨_, _, ⟨rfl, rfl⟩, rfl, (Bool.and_true short).symm⟩
        · rintro ⟨_, _, ⟨rfl, rfl⟩, rfl, rfl⟩
          exact ⟨(Bool.and_true short).symm, rfl⟩
      · by_cases mark : c = '*' ∨ c = '/'
        · rw [afterName_mark _ _ mark]
          refine iff_of_false (fun read => ?_) ?_
          · cases read
          · rintro ⟨name, more, named, -⟩
            exact not_nameThen_mark mark cs name more named
        · obtain ⟨star, slash⟩ := not_or.mp mark
          rw [afterName_char _ _ (.inl closing) star slash, ih]
          exact (findsName_longer (List.cons_ne_nil _ _) fun _ _ => nameThen_char closing star slash).symm

/-! ## Parts -/

theorem parts?_literal {c : Char} {escaped : Bool} (itself : c ≠ '{' ∧ c ≠ '}' ∨ escaped = true)
    (cs : List (Char × Bool)) : parts? ((c, escaped) :: cs) = (parts? cs).map (.literal c :: ·) := by
  rw [parts?.eq_def]
  rcases itself with ⟨opening, closing⟩ | rfl <;> simp [*]

theorem parts?_literal_eq_some {c : Char} {escaped : Bool} (itself : c ≠ '{' ∧ c ≠ '}' ∨ escaped = true)
    {cs : List (Char × Bool)} {parts : List RoutePart} :
    parts? ((c, escaped) :: cs) = some parts ↔ ∃ more, parts? cs = some more ∧ parts = .literal c :: more := by
  rw [parts?_literal itself, Option.map_eq_some_iff]
  simp only [eq_comm]

theorem parts?_closing (cs : List (Char × Bool)) : parts? (('}', false) :: cs) = none := by
  rw [parts?.eq_def]
  rfl

theorem parts?_opening_closing (escaped : Bool) (cs : List (Char × Bool)) :
    parts? (('{', false) :: ('}', escaped) :: cs) = none := by
  rw [parts?.eq_def]
  rfl

/-- What a name makes of a pattern, and what must follow it. -/
theorem parts?_named {first : Char} (closing : first ≠ '}') (escaped : Bool) (cs : List (Char × Bool)) :
    parts? (('{', false) :: (first, escaped) :: cs) =
      (afterName true cs).bind fun (alone, rest) =>
        if first = '*' then if alone || !rest.isEmpty then none else some [.rest]
        else if rest.isEmpty || (rest.head?.map Prod.fst) = some '/' then (parts? rest).map (.segment :: ·)
        else none := by
  rw [parts?.eq_def]
  dsimp only
  rw [if_neg (by decide), if_pos (by decide), if_neg closing]
  split
  case h_1 unnamed =>
    rw [unnamed]
    rfl
  case h_2 named =>
    rw [named]
    rfl

/-! ## The reader and the grammar -/

theorem head_unescape_closing (cs : List Char) : ∃ escaped more, unescape ('}' :: cs) = ('}', escaped) :: more := by
  rw [unescape.eq_def]
  split
  case h_1 => contradiction
  case h_2 same => cases same
  case h_3 => exact ⟨true, _, rfl⟩
  case h_4 same =>
    obtain ⟨rfl, -⟩ := List.cons.inj same
    exact ⟨false, _, rfl⟩

theorem unescape_isEmpty (cs : List Char) : (unescape cs).isEmpty = cs.isEmpty := by
  fun_cases unescape cs <;> rfl

theorem endsSegment_iff {cs : List Char} :
    ((unescape cs).isEmpty || ((unescape cs).head?.map Prod.fst) = some '/') = true ↔ EndsSegment cs := by
  constructor
  · intro ends
    cases cs with
    | nil => exact .nil
    | cons c cs =>
        have head : ((unescape (c :: cs)).head?.map Prod.fst) = some c := by
          rw [unescape.eq_def]
          split <;> simp_all
        rw [unescape_isEmpty, head] at ends
        have slash : c = '/' := by simpa using ends
        subst slash
        exact .slash cs
  · rintro (_ | cs)
    · rfl
    · rw [unescape_of_ne (by decide) (by decide)]
      rfl

/-- A name that is read is one of the grammar, if what follows it is. -/
theorem written_of_named {cs : List Char} (notOpening : cs.head? ≠ some '{')
    (shorter : ∀ more parts, more.length < cs.length → parts? (unescape more) = some parts → Written more parts)
    {parts : List RoutePart} (read : parts? (('{', false) :: unescape cs) = some parts) :
    Written ('{' :: cs) parts := by
  cases cs with
  | nil =>
      rw [unescape, parts?.eq_def] at read
      cases read
  | cons first cs =>
      have opening : first ≠ '{' := fun same => notOpening (congrArg some same)
      by_cases closing : first = '}'
      · obtain ⟨escaped, more, same⟩ := head_unescape_closing cs
        rw [closing, same, parts?_opening_closing] at read
        cases read
      rw [unescape_of_ne opening closing, parts?_named closing] at read
      obtain ⟨⟨alone, rest⟩, named, read⟩ := Option.bind_eq_some_iff.mp read
      obtain ⟨name, more, ⟨rfl, text, -⟩, rfl, rfl⟩ := afterName_unescape_iff.mp named
      dsimp only at read
      by_cases star : first = '*'
      · rw [if_pos star, unescape_isEmpty] at read
        split at read
        case isTrue => cases read
        case isFalse last =>
          cases read
          obtain ⟨named, last⟩ : name ≠ [] ∧ more = [] := by simpa using last
          rw [star, last]
          exact .rest text named
      · rw [if_neg star] at read
        split at read
        case isTrue ends =>
          obtain ⟨parts, next, rfl⟩ := Option.map_eq_some_iff.mp read
          have written := shorter more parts (by simp only [List.length_append, List.length_cons]; omega) next
          exact .segment opening closing star text (endsSegment_iff.mp ends) written
        case isFalse => cases read

/-- A pattern that is read is one of the grammar. -/
theorem written_of_parts? {cs : List Char} {parts : List RoutePart} (read : parts? (unescape cs) = some parts) :
    Written cs parts := by
  -- by induction on the length, for a name takes many characters at once
  induction length : cs.length using Nat.strongRecOn generalizing cs parts with
  | ind n shorter =>
      subst length
      revert read
      fun_cases unescape cs with
      | case1 =>
          intro read
          rw [parts?.eq_def] at read
          cases read
          exact .nil
      | case2 cs =>
          intro read
          obtain ⟨more, next, rfl⟩ := (parts?_literal_eq_some (.inr rfl)).mp read
          exact .opening (shorter cs.length (by simp only [List.length_cons]; omega) next rfl)
      | case3 cs =>
          intro read
          obtain ⟨more, next, rfl⟩ := (parts?_literal_eq_some (.inr rfl)).mp read
          exact .closing (shorter cs.length (by simp only [List.length_cons]; omega) next rfl)
      | case4 c cs notOpening notClosing =>
          intro read
          by_cases closing : c = '}'
          · rw [closing, parts?_closing] at read
            cases read
          by_cases opening : c = '{'
          · subst opening
            refine written_of_named ?_ ?_ read
            · intro next
              obtain ⟨more, same⟩ := List.head?_eq_some_iff.mp next
              exact notOpening more rfl same
            · intro more parts length read
              exact shorter more.length (Nat.lt_succ_of_lt length) read rfl
          · obtain ⟨more, next, rfl⟩ := (parts?_literal_eq_some (.inl ⟨opening, closing⟩)).mp read
            exact .plain opening closing (shorter cs.length (Nat.lt_succ_self _) next rfl)

/-- Every pattern of the grammar is read. -/
theorem Written.parts?_eq {cs : List Char} {parts : List RoutePart} (written : Written cs parts) :
    parts? (unescape cs) = some parts := by
  induction written with
  | nil => rw [unescape, parts?.eq_def]
  | plain opening closing more ih =>
      rw [unescape_of_ne opening closing, parts?_literal (.inl ⟨opening, closing⟩), ih]
      rfl
  | opening more ih =>
      rw [unescape, parts?_literal (.inr rfl), ih]
      rfl
  | closing more ih =>
      rw [unescape, parts?_literal (.inr rfl), ih]
      rfl
  | @segment first name cs parts opening closing star text ends more ih =>
      have next : cs.head? ≠ some '}' := by
        cases ends <;> simp
      have named : afterName true (unescape (name ++ '}' :: cs)) = some (true && name.isEmpty, unescape cs) :=
        afterName_unescape_iff.mpr ⟨name, cs, ⟨rfl, text, next⟩, rfl, rfl⟩
      rw [unescape_opening opening, unescape_of_ne opening closing, parts?_named closing, named, Option.bind_some]
      dsimp only
      rw [if_neg star, if_pos (endsSegment_iff.mpr ends), ih]
      rfl
  | @rest name text named =>
      have read : afterName true (unescape (name ++ ['}'])) = some (false, unescape []) :=
        afterName_unescape_iff.mpr ⟨name, [], ⟨rfl, text, nofun⟩, rfl, by simp [named]⟩
      rw [unescape_opening (by decide), unescape_of_ne (by decide) (by decide), parts?_named (by decide), read]
      rfl

theorem parts?_unescape_iff {cs : List Char} {parts : List RoutePart} :
    parts? (unescape cs) = some parts ↔ Written cs parts :=
  ⟨written_of_parts?, Written.parts?_eq⟩

/-- The reader of patterns accepts exactly the texts that start at the root and write a route. -/
theorem parse?_eq_some_iff {pattern : String} {route : Route} :
    parse? pattern = some route ↔ pattern.toList.head? = some '/' ∧ WrittenAs pattern route := by
  have current : (!hasObsoleteMark pattern.toList) = true ↔
      ¬['/', ':'] <:+: pattern.toList ∧ ¬['/', '*'] <:+: pattern.toList := by
    rw [Bool.not_eq_true', ← Bool.not_eq_true, hasObsoleteMark_iff, not_or]
  unfold parse?
  constructor
  · intro read
    split at read
    case isTrue checked =>
      obtain ⟨rooted, unmarked⟩ := Bool.and_eq_true_iff.mp checked
      obtain ⟨noColon, noStar⟩ := current.mp unmarked
      split at read
      case h_1 parts written =>
        split at read
        case isTrue few =>
          cases read
          exact ⟨of_decide_eq_true rooted, noColon, noStar, parts?_unescape_iff.mp written, few⟩
        case isFalse => cases read
      case h_2 => cases read
    case isFalse => cases read
  · rintro ⟨rooted, noColon, noStar, written, few⟩
    have checked : (pattern.toList.head? = some '/' && !hasObsoleteMark pattern.toList) = true :=
      Bool.and_eq_true_iff.mpr ⟨decide_eq_true rooted, current.mpr ⟨noColon, noStar⟩⟩
    rw [if_pos checked, parts?_unescape_iff.mpr written]
    exact if_pos few

/-- A path without braces and without the marks of the obsolete notation writes a route. -/
theorem writtenAs_of_literal {pattern : String} (literal : IsLiteral pattern)
    (noColon : ¬['/', ':'] <:+: pattern.toList) (noStar : ¬['/', '*'] <:+: pattern.toList) :
    WrittenAs pattern ⟨pattern.toList.map .literal⟩ := by
  have read : parts? (unescape pattern.toList) = some (pattern.toList.map .literal) := by
    rw [unescape_of_literal literal, parts?_of_literal literal]
  have unnamed : (pattern.toList.map RoutePart.literal).count .segment = 0 := by
    rw [List.count_eq_zero]
    intro member
    obtain ⟨c, -, same⟩ := List.mem_map.mp member
    cases same
  refine ⟨noColon, noStar, parts?_unescape_iff.mp read, ?_⟩
  rw [unnamed]
  exact Nat.zero_le segmentLimit

end Route

/-! ## Configurations without problems -/

/-- Of a configuration without problems it is known that its path starts at the root. -/
theorem rooted_of_accepted {config : Config} (accepted : Config.problems config = []) :
    config.graphql.path.toList.head? = some '/' :=
  eq_of_beq (Config.problems_eq_nil_iff.mp accepted).path

/-- A server can be built from a configuration without problems exactly if its path writes a route, and then it
serves this route.  Every path without braces does, if none of its segments starts with an obsolete mark. -/
theorem accepted_config_served_iff {config : Config} (accepted : Config.problems config = []) :
    (∀ route, (∃ server, new? config = some server ∧ server.route = route) ↔
      Route.WrittenAs config.graphql.path route) ∧
    (Route.IsLiteral config.graphql.path → ¬['/', ':'] <:+: config.graphql.path.toList →
      ¬['/', '*'] <:+: config.graphql.path.toList → ∃ server, new? config = some server) := by
  have served (route : Route) : (∃ server, new? config = some server ∧ server.route = route) ↔
      Route.WrittenAs config.graphql.path route := by
    have written : Route.parse? config.graphql.path = some route ↔ Route.WrittenAs config.graphql.path route :=
      Route.parse?_eq_some_iff.trans (and_iff_right (rooted_of_accepted accepted))
    rw [← written]
    constructor
    · rintro ⟨server, built, rfl⟩
      obtain ⟨route, parsed, rfl⟩ := Option.map_eq_some_iff.mp built
      exact parsed
    · intro parsed
      exact ⟨_, Option.map_eq_some_iff.mpr ⟨route, parsed, rfl⟩, rfl⟩
  refine ⟨served, fun literal noColon noStar => ?_⟩
  obtain ⟨server, built, -⟩ := (served _).mpr (Route.writtenAs_of_literal literal noColon noStar)
  exact ⟨server, built⟩

/-- The standard configuration with another path. -/
def withPath (path : String) : Config :=
  { Config.standard with graphql := { Config.Endpoint.standard with path } }

/-- The path `/{{a}}/{id}/{*rest}`. -/
def bracedPath : String := "/\x7b\x7ba\x7d\x7d/\x7bid\x7d/\x7b*rest\x7d"

/-- What the path with braces stands for: the first ones for themselves, the others for what is named in them. -/
def bracedRoute : Route :=
  ⟨[.literal '/', .literal '{', .literal 'a', .literal '}', .literal '/', .segment, .literal '/', .rest]⟩

theorem toList_bracedPath : bracedPath.toList =
    ['/', '{', '{', 'a', '}', '}', '/', '{', 'i', 'd', '}', '/', '{', '*', 'r', 'e', 's', 't', '}'] := by
  decide +kernel

theorem writtenAs_bracedPath : Route.WrittenAs bracedPath bracedRoute where
  noColon := by
    rw [toList_bracedPath]
    decide +kernel
  noStar := by
    rw [toList_bracedPath]
    decide +kernel
  written := by
    rw [toList_bracedPath]
    have name : Route.NameText ['r', 'e', 's', 't'] :=
      .char (by decide) (by decide) (by decide) <| .char (by decide) (by decide) (by decide) <|
        .char (by decide) (by decide) (by decide) <| .char (by decide) (by decide) (by decide) .nil
    have rest : Route.Written ['/', '{', '*', 'r', 'e', 's', 't', '}'] [.literal '/', .rest] :=
      .plain (by decide) (by decide) (.rest name nofun)
    have id : Route.NameText ['d'] := .char (by decide) (by decide) (by decide) .nil
    have segment : Route.Written ['{', 'i', 'd', '}', '/', '{', '*', 'r', 'e', 's', 't', '}']
        [.segment, .literal '/', .rest] :=
      .segment (by decide) (by decide) (by decide) id (.slash _) rest
    exact .plain (by decide) (by decide) <| .opening <| .plain (by decide) (by decide) <| .closing <|
      .plain (by decide) (by decide) segment
  few := by decide

/-- A path with braces that are written twice, a name and a last name is served. -/
theorem bracedPath_served : Config.problems (withPath bracedPath) = [] ∧
    ∃ server, new? (withPath bracedPath) = some server ∧ server.route = bracedRoute := by
  have accepted : Config.problems (withPath bracedPath) = [] := by
    decide +kernel
  exact ⟨accepted, ((accepted_config_served_iff accepted).1 _).mpr writtenAs_bracedPath⟩

/-- The path `/{`: a brace that is never closed. -/
def unclosedPath : String := "/\x7b"

/-- The content of a file that sets the path to one with a brace that is never closed. -/
def unclosedFile : Bytes := Bytes.ofString "graphql.path = \"/\x7b\""

/-- A brace that is never closed: the configuration has no problem, and a file with it is loaded, but no server can
be built from it. -/
theorem unclosed_brace_not_served :
    (¬∀ config, Config.problems config = [] → ∃ server, new? config = some server) ∧
      ¬∀ source config, Config.load source = .ok config → ∃ server, new? config = some server := by
  have accepted : Config.problems (withPath unclosedPath) = [] := by
    decide +kernel
  have read : Config.Watch.loaded? (.file unclosedFile) = some (withPath unclosedPath) := by
    decide +kernel
  have refused : new? (withPath unclosedPath) = none := by
    with_unfolding_all rfl
  have never : ¬∃ server, new? (withPath unclosedPath) = some server := by
    rintro ⟨server, built⟩
    cases refused.symm.trans built
  have loaded := Config.Watch.loaded?_eq_some_iff.mp read
  exact ⟨fun all => never (all _ accepted), fun all => never (all _ _ loaded)⟩

end QueryGateway.Server
