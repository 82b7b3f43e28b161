import QueryGateway.Config.Load
import QueryGateway.Proofs.GivenFields
import QueryGateway.Proofs.PrintedDocuments
import QueryGateway.Proofs.ShapedTexts

/-!
# Configurations that are given in part

A document gives some settings of a configuration: each of them stands once under its name, in the map of its section,
and what else stands in these maps does not matter.  The configuration that is read from it has the settings that are
given and is the standard one in all others, whatever the notation of the document.
-/

namespace QueryGateway

open Shape

namespace Config

/-! ## Settings -/

/-- The sections of a configuration. -/
inductive Section where
  | listener
  | graphql
  | timeouts
  | observability
  deriving DecidableEq, Repr

/-- The settings of a configuration. -/
inductive Setting where
  | bindAddress
  | path
  | batching
  | bodyLimit
  | requestSeconds
  | logLevel
  | metricsEnabled
  | metricsAddress
  deriving DecidableEq, Repr

/-- The name of a section. -/
def Section.name : Section → String
  | listener => "listener"
  | graphql => "graphql"
  | timeouts => "timeouts"
  | observability => "observability"

theorem Section.name_injective {part other : Section} (same : part.name = other.name) : part = other := by
  cases part <;> cases other <;> first | rfl | (revert same; decide)

namespace Setting

/-- The section that a setting stands in. -/
def part : Setting → Section
  | bindAddress => .listener
  | path | batching | bodyLimit => .graphql
  | requestSeconds => .timeouts
  | logLevel | metricsEnabled | metricsAddress => .observability

/-- The name of a setting. -/
def name : Setting → String
  | bindAddress => "bind_address"
  | path => "path"
  | batching => "request_batching_enabled"
  | bodyLimit => "max_body_size"
  | requestSeconds => "request_secs"
  | logLevel => "log_level"
  | metricsEnabled => "metrics_enabled"
  | metricsAddress => "metrics_address"

/-- What a value shows that gives a setting. -/
def view {δ : Type} (config : Config) : Setting → View δ
  | bindAddress => .text config.listener.bindAddress
  | path => .text config.graphql.path
  | batching => .flag config.graphql.batching
  | bodyLimit => .whole config.graphql.bodyLimit.toNat
  | requestSeconds => .whole config.timeouts.requestSeconds.toNat
  | logLevel => .text config.observability.logLevel
  | metricsEnabled => .flag config.observability.metricsEnabled
  | metricsAddress => .text config.observability.metricsAddress

end Setting

/-- The configuration that has the given settings of another and is the standard one in all others. -/
def restrict (config : Config) (given : Setting → Bool) : Config where
  listener.bindAddress := if given .bindAddress then config.listener.bindAddress else Listener.standard.bindAddress
  graphql.path := if given .path then config.graphql.path else Endpoint.standard.path
  graphql.batching := if given .batching then config.graphql.batching else Endpoint.standard.batching
  graphql.bodyLimit := if given .bodyLimit then config.graphql.bodyLimit else Endpoint.standard.bodyLimit
  timeouts.requestSeconds :=
    if given .requestSeconds then config.timeouts.requestSeconds else Timeouts.standard.requestSeconds
  observability.logLevel := if given .logLevel then config.observability.logLevel else Observability.standard.logLevel
  observability.metricsEnabled :=
    if given .metricsEnabled then config.observability.metricsEnabled else Observability.standard.metricsEnabled
  observability.metricsAddress :=
    if given .metricsAddress then config.observability.metricsAddress else Observability.standard.metricsAddress

variable {δ : Type} [Shape.Tree δ] {config : Config} {given : Setting → Bool}

/-! ## Documents -/

/-- The map of a section gives its settings. -/
def GivesSettings (config : Config) (given : Setting → Bool) (own : List (String × δ)) (part : Section) : Prop :=
  ∀ setting : Setting, setting.part = part →
    Holds own setting.name (fun view d => Tree.view d = view)
      (if given setting then some (setting.view config) else none)

/-- A map gives the settings of a section, or leaves the section out if none of them is given. -/
inductive GivesSection (config : Config) (given : Setting → Bool) (entries : List (String × δ)) (part : Section) : Prop
  | omitted (absent : valuesOf entries part.name = [])
      (nothing : ∀ setting : Setting, setting.part = part → given setting = false)
  | map {d : δ} {own : List (String × δ)} (one : valuesOf entries part.name = [d]) (shows : Tree.view d = .map own)
      (settings : GivesSettings config given own part)

/-- A document gives the given settings of a configuration: it is a map that gives those of every section. -/
inductive Gives (config : Config) (given : Setting → Bool) (d : δ) : Prop
  | intro {entries : List (String × δ)} (shows : Tree.view d = .map entries)
      (sections : ∀ part : Section, GivesSection config given entries part)

/-! ## Reading -/

/-- A setting that is given is read as it is. -/
theorem GivesSettings.holds {own : List (String × δ)} {part : Section} (gives : GivesSettings config given own part)
    (setting : Setting) (inPart : setting.part = part) {β : Type} {reader : TreeReader δ β} {b : β}
    (reads : ∀ {d}, Tree.view d = setting.view config → reader.run d = .ok b) :
    Holds own setting.name (Reads reader) (if given setting then some b else none) := by
  have held := gives setting inPart
  cases isGiven : given setting with
  | false =>
      rw [isGiven] at held
      exact held
  | true =>
      rw [isGiven] at held
      obtain ⟨d, one, shows⟩ := held
      exact ⟨d, one, reads shows⟩

section

variable {d : δ} {own : List (String × δ)}

theorem GivesSettings.run_listener (gives : GivesSettings config given own .listener) (shows : Tree.view d = .map own) :
    (Listener.shape : TreeReader δ Listener).run d = .ok (restrict config given).listener := by
  have bindAddress := gives.holds .bindAddress rfl run_text
  have distinct : ["bind_address"].Nodup := by decide
  unfold Listener.shape
  refine Assembles.run_record shows ⟨distinct, List.pairwise_singleton _ _⟩ (.mayGive bindAddress id ?_)
  unfold restrict
  cases given .bindAddress <;> exact .done

theorem GivesSettings.run_graphql (gives : GivesSettings config given own .graphql) (shows : Tree.view d = .map own) :
    (Endpoint.shape : TreeReader δ Endpoint).run d = .ok (restrict config given).graphql := by
  have path := gives.holds .path rfl run_text
  have batching := gives.holds .batching rfl run_flag
  have bodyLimit := gives.holds .bodyLimit rfl fun shows =>
    @run_word _ _ _ _ "usize" _ _ _ shows (word64?_toNat config.graphql.bodyLimit)
  have distinct : ["path", "request_batching_enabled", "max_body_size"].Nodup := by decide
  unfold Endpoint.shape
  refine Assembles.run_record shows ⟨distinct, ?_⟩ (.mayGive path id (.mayGive batching id (.mayGive bodyLimit id ?_)))
  · simp [Field.mayGive]
  · unfold restrict
    cases given .path <;> cases given .batching <;> cases given .bodyLimit <;> exact .done

theorem GivesSettings.run_timeouts (gives : GivesSettings config given own .timeouts) (shows : Tree.view d = .map own) :
    (Timeouts.shape : TreeReader δ Timeouts).run d = .ok (restrict config given).timeouts := by
  have requestSeconds := gives.holds .requestSeconds rfl fun shows =>
    @run_word _ _ _ _ "u64" _ _ _ shows (word64?_toNat config.timeouts.requestSeconds)
  have distinct : ["request_secs"].Nodup := by decide
  unfold Timeouts.shape
  refine Assembles.run_record shows ⟨distinct, List.pairwise_singleton _ _⟩ (.mayGive requestSeconds id ?_)
  unfold restrict
  cases given .requestSeconds <;> exact .done

theorem GivesSettings.run_observability (gives : GivesSettings config given own .observability)
    (shows : Tree.view d = .map own) :
    (Observability.shape : TreeReader δ Observability).run d = .ok (restrict config given).observability := by
  have logLevel := gives.holds .logLevel rfl run_text
  have metricsEnabled := gives.holds .metricsEnabled rfl run_flag
  have metricsAddress := gives.holds .metricsAddress rfl run_text
  have distinct : ["log_level", "metrics_enabled", "metrics_address"].Nodup := by decide
  unfold Observability.shape
  refine Assembles.run_record shows ⟨distinct, ?_⟩
    (.mayGive logLevel id (.mayGive metricsEnabled id (.mayGive metricsAddress id ?_)))
  · simp [Field.mayGive]
  · unfold restrict
    cases given .logLevel <;> cases given .metricsEnabled <;> cases given .metricsAddress <;> exact .done

end

/-- A section is read as what its map gives, or it is left out and is the standard one. -/
theorem GivesSection.exists_part {entries : List (String × δ)} {part : Section} {σ : Type} {reader : TreeReader δ σ}
    {standard whole : σ} (gives : GivesSection config given entries part)
    (reads : ∀ {d own}, GivesSettings config given own part → Tree.view d = .map own → reader.run d = .ok whole)
    (nothing : (∀ setting : Setting, setting.part = part → given setting = false) → standard = whole) :
    ∃ read, Holds entries part.name (Reads reader) read ∧ read.getD standard = whole := by
  cases gives with
  | omitted absent notGiven => exact ⟨none, absent, nothing notGiven⟩
  | map one shows settings => exact ⟨some whole, ⟨_, one, reads settings shows⟩, rfl⟩

/-- Where no setting of a section is given, the section is the standard one. -/
theorem restrict_of_nothing {part : Section}
    (nothing : ∀ setting : Setting, setting.part = part → given setting = false) :
    match part with
    | .listener => Listener.standard = (restrict config given).listener
    | .graphql => Endpoint.standard = (restrict config given).graphql
    | .timeouts => Timeouts.standard = (restrict config given).timeouts
    | .observability => Observability.standard = (restrict config given).observability := by
  cases part with
  | listener => simp only [restrict, nothing .bindAddress rfl]; rfl
  | graphql => simp only [restrict, nothing .path rfl, nothing .batching rfl, nothing .bodyLimit rfl]; rfl
  | timeouts => simp only [restrict, nothing .requestSeconds rfl]; rfl
  | observability =>
      simp only [restrict, nothing .logLevel rfl, nothing .metricsEnabled rfl, nothing .metricsAddress rfl]; rfl

/-- A document is read as the configuration of which it gives the settings. -/
theorem Gives.run_shape {d : δ} (gives : Gives config given d) :
    (shape : TreeReader δ Config).run d = .ok (restrict config given) := by
  obtain ⟨shows, sections⟩ := gives
  obtain ⟨listener, listenerHeld, listenerRead⟩ :=
    (sections .listener).exists_part GivesSettings.run_listener restrict_of_nothing
  obtain ⟨graphql, graphqlHeld, graphqlRead⟩ :=
    (sections .graphql).exists_part GivesSettings.run_graphql restrict_of_nothing
  obtain ⟨timeouts, timeoutsHeld, timeoutsRead⟩ :=
    (sections .timeouts).exists_part GivesSettings.run_timeouts restrict_of_nothing
  obtain ⟨observability, observabilityHeld, observabilityRead⟩ :=
    (sections .observability).exists_part GivesSettings.run_observability restrict_of_nothing
  have whole : (⟨listener.getD .standard, graphql.getD .standard, timeouts.getD .standard,
      observability.getD .standard⟩ : Config) = restrict config given := by
    rw [listenerRead, graphqlRead, timeoutsRead, observabilityRead]
  have distinct : ["listener", "graphql", "timeouts", "observability"].Nodup := by decide
  unfold shape
  refine Assembles.run_record shows ⟨distinct, ?_⟩ (.mayGive listenerHeld id (.mayGive graphqlHeld id
    (.mayGive timeoutsHeld id (.mayGive observabilityHeld id ?_))))
  · simp [Field.mayGive]
  · rw [← whole]
    cases listener <;> cases graphql <;> cases timeouts <;> cases observability <;> exact .done

/-! ## Texts -/

/-- A configuration is read from a JSON text as from the document that the text writes. -/
theorem agrees_shape : Agrees 2 (shape : TextReader Config) (shape : TreeReader Document Config) := by
  have listener : Agrees 1 (Listener.shape : TextReader Listener) Listener.shape :=
    agrees_record ⟨rfl, .cons (agrees_mayGive agrees_text _ _) .nil⟩
  have graphql : Agrees 1 (Endpoint.shape : TextReader Endpoint) Endpoint.shape :=
    agrees_record ⟨rfl, .cons (agrees_mayGive agrees_text _ _) (.cons (agrees_mayGive agrees_flag _ _)
      (.cons (agrees_mayGive (agrees_word _ _) _ _) .nil))⟩
  have timeouts : Agrees 1 (Timeouts.shape : TextReader Timeouts) Timeouts.shape :=
    agrees_record ⟨rfl, .cons (agrees_mayGive (agrees_word _ _) _ _) .nil⟩
  have observability : Agrees 1 (Observability.shape : TextReader Observability) Observability.shape :=
    agrees_record ⟨rfl, .cons (agrees_mayGive agrees_text _ _) (.cons (agrees_mayGive agrees_flag _ _)
      (.cons (agrees_mayGive agrees_text _ _) .nil))⟩
  apply agrees_record
  exact ⟨rfl, .cons (agrees_mayGive listener _ _) (.cons (agrees_mayGive graphql _ _)
    (.cons (agrees_mayGive timeouts _ _) (.cons (agrees_mayGive observability _ _) .nil)))⟩

theorem parse_of_gives {m : Nat} {document : Document} {octets : Bytes} (text : Json.TextOf m document octets)
    (gives : Gives config given document) : TextReader.parse shape octets = .ok (restrict config given) := by
  rw [← Json.toOption_eq_some, agrees_shape.toOption_parse (by decide) text, gives.run_shape]
  rfl

theorem view_numberDocument (w : WholeNumber) : Tree.view (Json.numberDocument (.whole w)) = .whole w.val := by
  have stands := Json.value?_numberDocument w
  rw [Json.numberDocument, Document.value?] at stands
  obtain ⟨read, isRead, same⟩ := Option.map_eq_some_iff.mp stands
  have number : (Json.numberDocument (.whole w)).number? = some (.whole w) := by
    rw [Json.numberDocument, Document.number?, isRead]
    exact congrArg some (Json.number.inj same)
  show Document.numberView (Json.numberDocument (.whole w)).number? = _
  rw [number]
  rfl

/-- The JSON value of a setting. -/
def Setting.toJson (config : Config) : Setting → Json
  | bindAddress => .string config.listener.bindAddress
  | path => .string config.graphql.path
  | batching => .bool config.graphql.batching
  | bodyLimit => GraphQL.wordJson config.graphql.bodyLimit
  | requestSeconds => GraphQL.wordJson config.timeouts.requestSeconds
  | logLevel => .string config.observability.logLevel
  | metricsEnabled => .bool config.observability.metricsEnabled
  | metricsAddress => .string config.observability.metricsAddress

/-- The settings of a section, in order. -/
def Section.settings : Section → List Setting
  | listener => [.bindAddress]
  | graphql => [.path, .batching, .bodyLimit]
  | timeouts => [.requestSeconds]
  | observability => [.logLevel, .metricsEnabled, .metricsAddress]

/-- The members of a section for the settings that are given. -/
def Section.members (config : Config) (given : Setting → Bool) (part : Section) : Members :=
  (part.settings.filter given).map fun setting => (setting.name, setting.toJson config)

/-- The JSON value that gives the given settings of a configuration, and nothing else. -/
def partJson (config : Config) (given : Setting → Bool) : Json :=
  .object ([Section.listener, .graphql, .timeouts, .observability].map fun part =>
    (part.name, .object (part.members config given)))

theorem Setting.view_toJson (config : Config) (setting : Setting) :
    Tree.view (setting.toJson config).document = setting.view config := by
  cases setting with
  | bodyLimit | requestSeconds => exact view_numberDocument _
  | bindAddress | path | batching | logLevel | metricsEnabled | metricsAddress => rfl

theorem Setting.name_injective {setting other : Setting} (same : setting.name = other.name) : setting = other := by
  cases setting <;> cases other <;> first | rfl | (revert same; decide)

/-- Of settings without repetition, each stands once under its name if it is given. -/
theorem valuesOf_settings (config : Config) (given : Setting → Bool) (setting : Setting) {settings : List Setting}
    (distinct : settings.Nodup) :
    valuesOf (Json.memberDocuments ((settings.filter given).map fun other => (other.name, other.toJson config)))
        setting.name =
      if setting ∈ settings ∧ given setting = true then [(setting.toJson config).document] else [] := by
  induction settings with
  | nil => rfl
  | cons other settings ih =>
      obtain ⟨new, distinct⟩ := List.nodup_cons.mp distinct
      have others := ih distinct
      by_cases same : other = setting
      · subst same
        rw [if_neg fun found => new found.1] at others
        by_cases isGiven : given other = true
        · rw [List.filter_cons_of_pos isGiven, List.map_cons, Json.memberDocuments, valuesOf_cons_self, others,
            if_pos ⟨List.mem_cons_self, isGiven⟩]
        · rw [List.filter_cons_of_neg isGiven, others, if_neg fun found => isGiven found.2]
      · have among : setting ∈ other :: settings ↔ setting ∈ settings := by
          rw [List.mem_cons, or_iff_right (Ne.symm same)]
        simp only [among, ← others]
        by_cases isGiven : given other = true
        · rw [List.filter_cons_of_pos isGiven, List.map_cons, Json.memberDocuments,
            valuesOf_cons_of_ne fun names => same (Setting.name_injective names)]
        · rw [List.filter_cons_of_neg isGiven]

theorem Section.givesSettings (config : Config) (given : Setting → Bool) (part : Section) :
    GivesSettings config given (Json.memberDocuments (part.members config given)) part := by
  intro setting inPart
  have distinct : part.settings.Nodup := by cases part <;> decide
  have member : setting ∈ part.settings := by cases setting <;> cases inPart <;> decide
  have values := valuesOf_settings config given setting distinct
  cases isGiven : given setting with
  | false => exact values.trans (if_neg fun found => absurd (isGiven ▸ found.2) Bool.false_ne_true)
  | true => exact ⟨_, values.trans (if_pos ⟨member, isGiven⟩), setting.view_toJson config⟩

/-- This value gives the settings. -/
theorem gives_partJson (config : Config) (given : Setting → Bool) :
    Gives config given (partJson config given).document := by
  refine .intro rfl fun part => ?_
  have gives := part.givesSettings config given
  cases part <;> exact .map rfl rfl gives

/-- It does not matter whether a section in which nothing is given is left out or empty. -/
theorem Gives.cons_empty {d whole e : δ} {part : Section} {entries : List (String × δ)}
    (gives : Gives config given d) (shows : Tree.view d = .map entries) (left : valuesOf entries part.name = [])
    (wholeShows : Tree.view whole = .map ((part.name, e) :: entries)) (empty : Tree.view e = .map []) :
    Gives config given whole := by
  obtain @⟨own, ownShows, sections⟩ := gives
  cases ownShows.symm.trans shows
  refine .intro wholeShows fun other => ?_
  by_cases same : part = other
  · subst same
    cases sections part with
    | omitted absent nothing =>
        refine .map ((valuesOf_cons_self _ _ _).trans (congrArg _ left)) empty fun setting inPart => ?_
        rw [nothing setting inPart]
        rfl
    | map one =>
        rw [left] at one
        cases one
  · have elsewhere : part.name ≠ other.name := fun names => same (Section.name_injective names)
    have values := valuesOf_cons_of_ne elsewhere e entries
    cases sections other with
    | omitted absent nothing => exact .omitted (values.trans absent) nothing
    | map one ownShows settings => exact .map (values.trans one) ownShows settings

/-- A document that gives some settings of a configuration, in whatever order and whatever else stands in it, is read
as the configuration that has these settings and is the standard one in all others, from every JSON text of it and from
a TOML table.  So the JSON text of any settings gives just these, that of a whole configuration gives it back, the two
notations agree, and a section that is left out is as good as an empty one. -/
theorem given_settings_are_read (config : Config) (given : Setting → Bool) :
    (∀ m document octets, Json.TextOf m document octets → Gives config given document →
      TextReader.parse shape octets = .ok (restrict config given)) ∧
    (∀ table : Toml, Gives config given table →
      (shape : TreeReader Toml Config).run table = .ok (restrict config given)) ∧
    TextReader.parse shape (Bytes.ofString (partJson config given).text) = .ok (restrict config given) ∧
    TextReader.parse shape (Bytes.ofString config.toJson.text) = .ok config ∧
    (∀ m document octets (table : Toml), Json.TextOf m document octets → Gives config given document →
      Gives config given table →
      (TextReader.parse shape octets).toOption = ((shape : TreeReader Toml Config).run table).toOption) ∧
    ∀ (δ : Type) [Shape.Tree δ] (d whole e : δ) (part : Section) (entries : List (String × δ)), Gives config given d →
      Tree.view d = .map entries → valuesOf entries part.name = [] →
      Tree.view whole = .map ((part.name, e) :: entries) → Tree.view e = .map [] →
      (shape : TreeReader δ Config).run whole = (shape : TreeReader δ Config).run d := by
  have parsed (given : Setting → Bool) :=
    parse_of_gives (Json.textOf_text (Nat.le_refl _)) (gives_partJson config given)
  refine ⟨fun m document octets text gives => parse_of_gives text gives, fun table gives => gives.run_shape,
    parsed given, parsed fun _ => true, fun m document octets table text gives tableGives => ?_,
    fun δ _ d whole e part entries gives shows left wholeShows empty => ?_⟩
  · rw [parse_of_gives text gives, tableGives.run_shape]
    rfl
  · rw [(gives.cons_empty shows left wholeShows empty).run_shape, gives.run_shape]

/-- The standard configuration but for the bodies, which are to be short. -/
def shortBodies : Config := { Config.standard with graphql := { Endpoint.standard with bodyLimit := 5 } }

/-- A JSON value that gives the limit of bodies only, an empty section, and other things. -/
def shortBodiesJson : Json :=
  .object [("more", .array [.object []]),
    ("graphql", .object [("note", .null), ("max_body_size", GraphQL.wordJson 5)]), ("timeouts", .object [])]

/-- A TOML table that does so, in another order. -/
def shortBodiesTable : Toml :=
  .table [("timeouts", .table []), ("more", .moment),
    ("graphql", .table [("max_body_size", .placed ⟨2, 1⟩ (.whole 5)), ("limits", .array [.whole 5])])]

theorem shortBodies_read :
    TextReader.parse shape (Bytes.ofString shortBodiesJson.text) = .ok shortBodies ∧
      (shape : TreeReader Toml Config).run shortBodiesTable = .ok shortBodies := by
  obtain ⟨fromJson, fromToml, -⟩ := given_settings_are_read shortBodies fun setting => setting == .bodyLimit
  refine ⟨fromJson _ _ _ (Json.textOf_text (Nat.le_refl _)) (.intro rfl fun part => ?_),
    fromToml shortBodiesTable (.intro rfl fun part => ?_)⟩
  · cases part with
    | listener | observability => exact .omitted rfl fun setting inPart => by cases setting <;> cases inPart <;> rfl
    | graphql =>
        refine .map rfl rfl fun setting inPart => ?_
        cases setting <;> cases inPart
        · rfl
        · rfl
        · exact ⟨_, rfl, view_numberDocument _⟩
    | timeouts => exact .map rfl rfl fun setting inPart => by cases setting <;> cases inPart; rfl
  · cases part with
    | listener | observability => exact .omitted rfl fun setting inPart => by cases setting <;> cases inPart <;> rfl
    | graphql =>
        refine .map rfl rfl fun setting inPart => ?_
        cases setting <;> cases inPart
        · rfl
        · rfl
        · exact ⟨_, rfl, rfl⟩
    | timeouts => exact .map rfl rfl fun setting inPart => by cases setting <;> cases inPart; rfl

end Config

end QueryGateway
