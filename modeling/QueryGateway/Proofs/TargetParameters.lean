import QueryGateway.Proofs.FormTexts
import QueryGateway.Proofs.Precedence

/-!
# Parameters in targets

A target gives parameters after its path: segments between ampersands, each of which writes a pair of a name and a
value.  There are many writings of the same pairs.  An octet may stand for itself or be written with a percent sign
and two digits, a space may be a plus sign, and there may be empty segments anywhere.  All of them give the same
parameters: for each name, the value of the first pair with that name.
-/

namespace QueryGateway

open Http

namespace Http.Form

/-! ## First values -/

/-- The value of the first pair with a name, if there is one. -/
inductive FirstValue (name : String) (pairs : List (String × String)) : Option String → Prop
  | absent (missing : ∀ value, (name, value) ∉ pairs) : FirstValue name pairs none
  | given {before after : List (String × String)} {value : String} (cut : pairs = before ++ (name, value) :: after)
      (first : ∀ earlier, (name, earlier) ∉ before) : FirstValue name pairs (some value)

theorem forall_not_mem_iff {name : String} {pairs : List (String × String)} :
    (∀ value, (name, value) ∉ pairs) ↔ ∀ pair ∈ pairs, (name != pair.1) = true := by
  constructor
  · intro missing pair member
    refine bne_iff_ne.mpr ?_
    rintro rfl
    exact missing pair.2 member
  · intro different value member
    exact bne_iff_ne.mp (different _ member) rfl

theorem firstValue_iff {name : String} {pairs : List (String × String)} {value? : Option String} :
    FirstValue name pairs value? ↔ first? pairs name = value? := by
  constructor
  · intro first
    cases first with
    | absent missing => exact List.lookup_eq_none_iff.mpr (forall_not_mem_iff.mp missing)
    | given cut first => exact List.lookup_eq_some_iff.mpr ⟨_, _, cut, forall_not_mem_iff.mp first⟩
  · rintro rfl
    cases found : first? pairs name with
    | none => exact .absent (forall_not_mem_iff.mpr (List.lookup_eq_none_iff.mp found))
    | some value =>
        obtain ⟨before, after, cut, different⟩ := List.lookup_eq_some_iff.mp found
        exact .given cut (forall_not_mem_iff.mpr different)

/-- Only the first pair with a name counts. -/
theorem first?_eq_of_find?_eq {name : String} {pairs others : List (String × String)}
    (same : (others.find? fun pair => pair.1 = name) = pairs.find? fun pair => pair.1 = name) :
    first? others name = first? pairs name := by
  have found (pairs : List (String × String)) :
      first? pairs name = (pairs.find? fun pair => pair.1 = name).map Prod.snd := by
    unfold first?
    induction pairs with
    | nil => rfl
    | cons pair pairs ih =>
        rw [List.lookup_cons, List.find?_cons]
        by_cases here : pair.1 = name
        · simp [here]
        · rw [beq_eq_false_iff_ne.mpr (Ne.symm here), decide_eq_false here]
          exact ih
  rw [found, found, same]

end Http.Form

/-! ## Query strings -/

namespace Http.Uri

/-- What may follow a query string: nothing, or a fragment. -/
def StartsFragment (cs : List Char) : Prop := cs = [] ∨ ∃ more, cs = '#' :: more

/-- The query string of a target, if it has one: it starts after the first question mark, and ends where a fragment
starts. -/
inductive QueryPart : List Char → Option (List Char) → Prop
  | absent {path fragment : List Char} (inside : ∀ c ∈ path, c ≠ '#' ∧ c ≠ '?') (ends : StartsFragment fragment) :
      QueryPart (path ++ fragment) none
  | present {path query fragment : List Char} (inside : ∀ c ∈ path, c ≠ '#' ∧ c ≠ '?') (whole : '#' ∉ query)
      (ends : StartsFragment fragment) : QueryPart (path ++ '?' :: (query ++ fragment)) (some query)

/-- What follows the path of a target, without the fragment. -/
def afterPath (cs : List Char) : List Char := (cs.takeWhile (· ≠ '#')).dropWhile (· ≠ '?')

section

variable {cs path : List Char}

theorem afterPath_append (inside : ∀ c ∈ path, c ≠ '#' ∧ c ≠ '?') (cs : List Char) :
    afterPath (path ++ cs) = afterPath cs := by
  unfold afterPath
  rw [List.takeWhile_append_of_pos fun c member => decide_eq_true (inside c member).1,
    List.dropWhile_append_of_pos fun c member => decide_eq_true (inside c member).2]

theorem afterPath_dropWhile {p : Char → Bool} (inside : ∀ c ∈ cs.takeWhile p, c ≠ '#' ∧ c ≠ '?') :
    afterPath (cs.dropWhile p) = afterPath cs := by
  rw [← afterPath_append inside, List.takeWhile_append_dropWhile]

theorem afterPath_of_startsFragment (ends : StartsFragment cs) : afterPath cs = [] := by
  rcases ends with rfl | ⟨more, rfl⟩ <;> rfl

theorem QueryPart.tail?_afterPath {query? : Option (List Char)} (part : QueryPart cs query?) :
    (afterPath cs).tail? = query? := by
  cases part with
  | absent inside ends => rw [afterPath_append inside, afterPath_of_startsFragment ends, List.tail?_nil]
  | @present path query fragment inside whole ends =>
      have kept : ('?' :: (query ++ fragment)).takeWhile (· ≠ '#') = '?' :: query := by
        have inQuery : ∀ c ∈ '?' :: query, decide (c ≠ '#') = true := fun c member => by
          refine decide_eq_true ?_
          rintro rfl
          exact List.not_mem_cons_of_ne_of_not_mem (by decide) whole member
        rw [← List.cons_append, List.takeWhile_append_of_pos inQuery]
        rcases ends with rfl | ⟨more, rfl⟩
        · rw [List.takeWhile_nil, List.append_nil]
        · rw [List.takeWhile_cons_of_neg (by decide), List.append_nil]
      rw [afterPath_append inside, afterPath, kept, List.dropWhile_cons_of_neg (by decide), List.tail?_cons]

theorem query_of_ofPathAndQuery? {uri : Uri} (valid : ofPathAndQuery? cs = some uri) :
    uri.query = (afterPath cs).tail?.map String.ofList := by
  simp only [ofPathAndQuery?] at valid
  unfold afterPath
  split at valid
  · split at valid
    · next rest =>
      rw [rest]
      cases valid
      rfl
    · next rest =>
      rw [rest]
      split at valid
      · cases valid
        rfl
      · cases valid
  · cases valid

/-- Neither a scheme nor what separates it from the rest holds a question mark. -/
theorem afterPath_of_splitScheme? {scheme rest : List Char} (cut : splitScheme? cs = some (scheme, rest)) :
    afterPath cs = afterPath rest := by
  have inScheme : ∀ c ∈ cs.takeWhile isSchemeChar, c ≠ '#' ∧ c ≠ '?' := by
    intro c member
    have ofScheme := List.mem_takeWhile_imp member
    constructor <;> rintro rfl <;> cases ofScheme
  unfold splitScheme? at cut
  split at cut
  · next separated =>
    split at cut
    · cases cut
    · cases cut
      have separator : ∀ c ∈ [':', '/', '/'], c ≠ '#' ∧ c ≠ '?' := by simp
      rw [← afterPath_dropWhile inScheme, separated]
      exact afterPath_append separator _
  · cases cut

theorem not_endsAuthority {c : Char} (inside : endsAuthority c = false) : c ≠ '#' ∧ c ≠ '?' := by
  constructor <;> rintro rfl <;> cases inside

theorem query_of_ofAbsolute? {uri : Uri} (valid : ofAbsolute? cs = some uri) :
    uri.query = (afterPath cs).tail?.map String.ofList := by
  unfold ofAbsolute? at valid
  split at valid
  · next noScheme =>
    split at valid
    · next authority =>
      cases valid
      have inside : ∀ c ∈ cs, c ≠ '#' ∧ c ≠ '?' := by
        intro c member
        simp only [Bool.and_eq_true, Bool.not_eq_true', List.any_eq_false] at authority
        exact not_endsAuthority (Bool.eq_false_iff.mpr (authority.2 c member))
      rw [← List.append_nil cs, afterPath_append inside]
      rfl
    · cases valid
  · next scheme rest cut =>
    simp only at valid
    split at valid
    · obtain ⟨bare, ofRest, rfl⟩ := Option.map_eq_some_iff.mp valid
      have inAuthority : ∀ c ∈ rest.takeWhile fun c => !endsAuthority c, c ≠ '#' ∧ c ≠ '?' := by
        intro c member
        have inside : (!endsAuthority c) = true := List.mem_takeWhile_imp (p := fun c => !endsAuthority c) member
        exact not_endsAuthority (by simpa using inside)
      rw [afterPath_of_splitScheme? cut, ← afterPath_dropWhile inAuthority, ← query_of_ofPathAndQuery? ofRest]
      split <;> rfl
    · cases valid

/-- The query string of a valid target is the one that its text has, in whichever form the target is. -/
theorem query_of_parse? {target : String} {uri : Uri} (valid : parse? target = some uri)
    {query? : Option (List Char)} (part : QueryPart target.toList query?) : uri.query = query?.map String.ofList := by
  rw [← part.tail?_afterPath]
  unfold parse? at valid
  split at valid
  · cases valid
  split at valid
  · cases valid
  · next star =>
    cases valid
    rw [star]
    rfl
  · next rest slash =>
    rw [slash]
    exact query_of_ofPathAndQuery? valid
  · exact query_of_ofAbsolute? valid

end

end Http.Uri

namespace GraphQL

/-! ## Parameters -/

/-- The pairs that a target writes: those of its query string, and none if it has no query string. -/
inductive TargetWrites (target : String) : List (String × String) → Prop
  | nothing (part : Uri.QueryPart target.toList none) : TargetWrites target []
  | query {query : List Char} {pairs : List (String × String)} (part : Uri.QueryPart target.toList (some query))
      (text : Form.QueryText pairs (Utf8.encode query)) : TargetWrites target pairs

section

variable {target : String} {uri : Uri} {pairs : List (String × String)}

theorem TargetWrites.ofUri_eq (writes : TargetWrites target pairs) (valid : Uri.parse? target = some uri) :
    UrlParameters.ofUri uri = UrlParameters.ofPairs pairs := by
  cases writes with
  | nothing part =>
      rw [UrlParameters.ofUri, Uri.query_of_parse? valid part]
      with_unfolding_all rfl
  | query part text =>
      rw [← Bytes.ofString_ofList] at text
      rw [UrlParameters.ofUri, Uri.query_of_parse? valid part]
      exact congrArg UrlParameters.ofPairs text.pairs_eq

/-- No rule is about the form of a query string: each verdict names another rejection, or none. -/
theorem not_invalidQueryString_of_rule {limit : Option Nat} {options : Options} {request : Request} {rule : Rule}
    (member : rule ∈ rules Query.ShapedAs limit options request) {status : Nat} {detail : String} :
    ¬rule (.reject status (.invalidQueryString detail)) := by
  simp only [rules, headRules, bodyRules, documentRules, queryRules, List.mem_append, List.mem_cons,
    List.not_mem_nil, or_false] at member
  intro gives
  rcases member with (rfl | rfl | rfl | rfl | rfl) |
    (rfl | rfl | rfl | rfl | rfl | rfl | rfl | rfl | rfl | rfl | rfl | rfl | rfl) <;>
  grind [Rule.otherMethod, Rule.getWithoutQuery, Rule.faultyVariables, Rule.targetQuery, Rule.otherMediaType,
    Rule.brokenBody, Rule.longBody, Rule.notText, Rule.bodyText, Rule.malformed, Rule.scalar, Rule.misshapenObject,
    Rule.misshapenList, Rule.objectWithoutText, Rule.object, Rule.batchingDisabled, Rule.itemWithoutText, Rule.batch]

/-- No request is rejected for the form of its query string. -/
theorem plan_ne_invalidQueryString (handler : Handler) (limit : Option Nat) (request : Request) (detail : String) :
    handler.plan limit request ≠ .error (.invalidQueryString detail) := by
  intro rejected
  obtain ⟨⟨verdict, first⟩, planned⟩ := decides_request handler limit request
  obtain ⟨rule, member, gives⟩ := first.exists_rule
  have plan := (planned verdict first).1
  rw [rejected] at plan
  cases verdict with
  | reject status rejection =>
      cases plan
      exact not_invalidQueryString_of_rule member gives
  | single | batch => cases plan

/-- The parameters of a valid target are the first values of their names among the pairs that it writes, whichever way
it writes them.  There is always a result: no request is rejected for the form of its query string.  And nothing but
the first pair with each of the three names counts, so targets that agree in these have the same parameters. -/
theorem parameters_are_first_values (valid : Uri.parse? target = some uri) (writes : TargetWrites target pairs) :
    (Form.FirstValue "query" pairs (UrlParameters.ofUri uri).query ∧
      Form.FirstValue "operationName" pairs (UrlParameters.ofUri uri).operationName ∧
      Form.FirstValue "variables" pairs (UrlParameters.ofUri uri).variablesText) ∧
    (∀ (handler : Handler) (limit : Option Nat) (request : Request), request.head.uri = uri → ∀ detail,
      handler.plan limit request ≠ .error (.invalidQueryString detail)) ∧
    ∀ other otherUri others, Uri.parse? other = some otherUri → TargetWrites other others →
      (∀ name ∈ ["query", "operationName", "variables"],
        (others.find? fun pair => pair.1 = name) = pairs.find? fun pair => pair.1 = name) →
      UrlParameters.ofUri otherUri = UrlParameters.ofUri uri := by
  have own := writes.ofUri_eq valid
  refine ⟨?_, fun handler limit request _ => plan_ne_invalidQueryString handler limit request, ?_⟩
  · rw [own]
    exact ⟨Form.firstValue_iff.mpr rfl, Form.firstValue_iff.mpr rfl, Form.firstValue_iff.mpr rfl⟩
  · intro other otherUri others otherValid otherWrites same
    simp only [List.forall_mem_cons] at same
    obtain ⟨query, operationName, values, -⟩ := same
    rw [own, otherWrites.ofUri_eq otherValid, UrlParameters.ofPairs, Form.first?_eq_of_find?_eq query,
      Form.first?_eq_of_find?_eq operationName, Form.first?_eq_of_find?_eq values]
    rfl

end

/-- A query that is written with an encoded name and with braces of either case is the one that counts, and a name alone
has the empty value. -/
theorem first_values_of_written_target :
    ∃ uri, Uri.parse? "/?&%71uery=%7Ba+%7d&query=b&&operationName" = some uri ∧
      (UrlParameters.ofUri uri).query = some "{a }" ∧ (UrlParameters.ofUri uri).operationName = some "" ∧
      (UrlParameters.ofUri uri).variablesText = none := by
  have name : Form.LooseText (Bytes.ofString "query") (Bytes.ofString "%71uery") :=
    Form.looseText_iff.mpr ⟨by decide, by with_unfolding_all rfl⟩
  have value : Form.LooseText (Bytes.ofString "{a }") (Bytes.ofString "%7Ba+%7d") :=
    Form.looseText_iff.mpr ⟨by decide, by with_unfolding_all rfl⟩
  have plainName : Form.LooseText (Bytes.ofString "query") (Bytes.ofString "query") :=
    Form.looseText_iff.mpr ⟨by decide, by with_unfolding_all rfl⟩
  have plainValue : Form.LooseText (Bytes.ofString "b") (Bytes.ofString "b") :=
    Form.looseText_iff.mpr ⟨by decide, by with_unfolding_all rfl⟩
  have nameAlone : Form.LooseText (Bytes.ofString "operationName") (Bytes.ofString "operationName") :=
    Form.looseText_iff.mpr ⟨by decide, by with_unfolding_all rfl⟩
  have segments := Form.SegmentsText.empty (.cons (.named name (by decide) value) (.cons
    (.named plainName (by decide) plainValue) (.empty (.cons (.bare nameAlone (by decide) (by decide)) .nil))))
  have part : Uri.QueryPart "/?&%71uery=%7Ba+%7d&query=b&&operationName".toList
      (some "&%71uery=%7Ba+%7d&query=b&&operationName".toList) :=
    @Uri.QueryPart.present ['/'] "&%71uery=%7Ba+%7d&query=b&&operationName".toList [] (by simp) (by decide)
      (Or.inl rfl)
  have valid : Uri.parse? "/?&%71uery=%7Ba+%7d&query=b&&operationName" =
      some ⟨"/", some "&%71uery=%7Ba+%7d&query=b&&operationName"⟩ := by with_unfolding_all rfl
  obtain ⟨⟨query, operationName, values⟩, -⟩ := parameters_are_first_values valid (.query part (.intro segments))
  exact ⟨_, valid, (Form.firstValue_iff.mp query).symm, (Form.firstValue_iff.mp operationName).symm,
    (Form.firstValue_iff.mp values).symm⟩

end GraphQL

end QueryGateway
