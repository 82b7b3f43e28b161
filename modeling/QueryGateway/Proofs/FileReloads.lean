import QueryGateway.Proofs.Reloads
import QueryGateway.Server.Watched

/-!
# A file that is watched keeps its last good configuration

Contents are written to the file of a server, and the watcher is told of every one of them, once or more often,
before the next one is written.  What it sends are the configurations of the contents that load, in order, each as
often as it was told of its content; nothing else is ever sent.  Once the server has taken what was sent, its handler
follows the last content that loads, or else the one that the server was started with, whatever was served meanwhile.
-/

namespace QueryGateway

open Shape

/-! ## What loads -/

/-- Octets are the writing of a text exactly if this text is read from them. -/
theorem Bytes.toString?_eq_some_iff {octets : Bytes} {text : String} :
    octets.toString? = some text ↔ octets = Bytes.ofString text := by
  rw [Bytes.toString?, Option.map_eq_some_iff]
  constructor
  · rintro ⟨chars, decoded, rfl⟩
    rw [Bytes.ofString_ofList, Utf8.encode_of_decode? decoded]
  · rintro rfl
    exact ⟨text.toList, Utf8.decode?_encode text.toList, String.ofList_toList⟩

namespace Config

/-- Octets write a configuration: they are UTF-8, a TOML text of the right shape, and what it says is valid. -/
structure WrittenBy (octets : Bytes) (config : Config) : Prop where
  shaped : ∃ text document, octets = Bytes.ofString text ∧ Toml.parse? text = some document ∧
    (shape : TreeReader Toml Config).run document = .ok config
  valid : IsValid config

theorem read_file_eq_ok_iff {octets : Bytes} {text : String} :
    (Source.file octets).read = .ok text ↔ octets = Bytes.ofString text := by
  rw [← Bytes.toString?_eq_some_iff]
  unfold Source.read
  dsimp only
  cases octets.toString? with
  | none => exact ⟨nofun, nofun⟩
  | some read => exact ⟨fun same => congrArg some (Except.ok.inj same), fun same => by rw [Option.some.inj same]⟩

theorem ofText_eq_ok_iff {text : String} {config : Config} :
    ofText text = .ok config ↔ ∃ document, Toml.parse? text = some document ∧
      (shape : TreeReader Toml Config).run document = .ok config := by
  constructor
  · intro given
    unfold ofText at given
    split at given
    · cases given
    next document parsed =>
      split at given
      · next found fits =>
        cases given
        exact ⟨document, parsed, fits⟩
      · cases given
  · rintro ⟨document, parsed, fits⟩
    unfold ofText
    rw [parsed]
    dsimp only
    rw [fits]

/-- What loads from a file is exactly what its octets write. -/
theorem load_file_eq_ok_iff {octets : Bytes} {config : Config} :
    load (.file octets) = .ok config ↔ WrittenBy octets config := by
  constructor
  · intro loaded
    unfold load at loaded
    split at loaded
    · cases loaded
    next text read =>
      obtain ⟨found, given, checked⟩ := bind_eq_ok loaded
      obtain ⟨rfl, valid⟩ := check_eq_ok_iff.mp checked
      obtain ⟨document, parsed, fits⟩ := ofText_eq_ok_iff.mp given
      exact ⟨⟨text, document, read_file_eq_ok_iff.mp read, parsed, fits⟩, valid⟩
  · rintro ⟨⟨text, document, writes, parsed, fits⟩, valid⟩
    unfold load
    rw [read_file_eq_ok_iff.mpr writes]
    dsimp only
    rw [ofText_eq_ok_iff.mpr ⟨document, parsed, fits⟩]
    exact check_eq_ok_iff.mpr ⟨rfl, valid⟩

end Config

/-! ## Repetitions -/

/-- A list in which each item of another one is repeated some number of times, but at least once. -/
inductive Repeats {α : Type} : List α → List α → Prop
  | nil : Repeats [] []
  | once {x : α} {xs ys : List α} (others : Repeats xs ys) : Repeats (x :: xs) (x :: ys)
  | again {x : α} {xs ys : List α} (before : Repeats (x :: xs) ys) : Repeats (x :: xs) (x :: ys)

namespace Repeats

variable {α β : Type} {xs ys : List α}

theorem filterMap (f : α → Option β) (repeats : Repeats xs ys) : Repeats (xs.filterMap f) (ys.filterMap f) := by
  induction repeats with
  | nil => exact .nil
  | @once x xs ys others ih =>
      cases made : f x with
      | none => rwa [List.filterMap_cons_none made, List.filterMap_cons_none made]
      | some y =>
          rw [List.filterMap_cons_some made, List.filterMap_cons_some made]
          exact .once ih
  | @again x xs ys before ih =>
      cases made : f x with
      | none =>
          have skipped : (x :: ys).filterMap f = ys.filterMap f := List.filterMap_cons_none made
          rwa [skipped]
      | some y =>
          rw [List.filterMap_cons_some made] at ih ⊢
          rw [List.filterMap_cons_some made]
          exact .again ih

theorem mem (repeats : Repeats xs ys) {y : α} (member : y ∈ ys) : y ∈ xs := by
  induction repeats with
  | nil => exact member
  | once others ih =>
      rcases List.mem_cons.mp member with rfl | member
      · exact List.mem_cons_self
      · exact List.mem_cons_of_mem _ (ih member)
  | again before ih =>
      rcases List.mem_cons.mp member with rfl | member
      · exact List.mem_cons_self
      · exact ih member

/-- Repetitions do not change which item is the last one. -/
theorem getLast?_eq (repeats : Repeats xs ys) : ys.getLast? = xs.getLast? := by
  induction repeats with
  | nil => rfl
  | once others ih => rw [List.getLast?_cons, List.getLast?_cons, ih]
  | again before ih =>
      rw [List.getLast?_cons, ih, List.getLast?_cons]
      rfl

end Repeats

namespace Server.Watched

open Http GraphQL

/-! ## What the watcher sees -/

/-- What comes to stand at the path of the file, if an event puts anything there. -/
def Event.put? : Event → Option Config.Source
  | .put source => some source
  | _ => none

/-- Whether the watcher is told of a change. -/
def Event.isChange : Event → Bool
  | .notice told => told.isChange
  | _ => false

/-- What comes to stand at the path of the file, in order. -/
def puts (events : List Event) : List Config.Source := events.filterMap Event.put?

/-- What the watcher finds at the path, each time that it is told of a change. -/
def seen (source : Config.Source) : List Event → List Config.Source
  | [] => []
  | event :: events =>
    let others := seen (event.put?.getD source) events
    if event.isChange then source :: others else others

/-- The watcher is told of a change before something else comes to stand at the path. -/
def Noticed : List Event → Prop
  | [] => False
  | event :: events => event.isChange = true ∨ event.put? = none ∧ Noticed events

instance decidableNoticed : (events : List Event) → Decidable (Noticed events)
  | [] => inferInstanceAs (Decidable False)
  | event :: events =>
    have := decidableNoticed events
    inferInstanceAs (Decidable (event.isChange = true ∨ event.put? = none ∧ Noticed events))

/-- The watcher is told of everything that comes to stand at the path, while it stands there. -/
def Observed : List Event → Prop
  | [] => True
  | event :: events => (event.put?.isSome = true → Noticed events) ∧ Observed events

instance decidableObserved : (events : List Event) → Decidable (Observed events)
  | [] => inferInstanceAs (Decidable True)
  | event :: events =>
    have := decidableObserved events
    inferInstanceAs (Decidable ((event.put?.isSome = true → Noticed events) ∧ Observed events))

/-- The configuration that is told to be sent. -/
def Told.sent? : Told → Option Config
  | .sent config => config
  | _ => none

section

variable {source : Config.Source} {event : Event} {events : List Event}

theorem puts_cons_of_none (silent : event.put? = none) : puts (event :: events) = puts events :=
  List.filterMap_cons_none silent

theorem puts_cons_of_some {other : Config.Source} (put : event.put? = some other) :
    puts (event :: events) = other :: puts events := List.filterMap_cons_some put

theorem seen_cons_of_isChange (change : event.isChange = true) :
    seen source (event :: events) = source :: seen (event.put?.getD source) events := if_pos change

theorem seen_cons_of_not_isChange (noChange : event.isChange = false) :
    seen source (event :: events) = seen (event.put?.getD source) events :=
  if_neg (Bool.eq_false_iff.mp noChange)

theorem put?_of_isChange (change : event.isChange = true) : event.put? = none := by
  cases event with
  | put => cases change
  | notice | take | request | advance => rfl

theorem noticed_of_isChange (change : event.isChange = true) : Noticed (event :: events) := Or.inl change

/-- What an event that tells nothing does about the next notice. -/
theorem noticed_cons_iff (noChange : event.isChange = false) (silent : event.put? = none) :
    Noticed (event :: events) ↔ Noticed events := by
  constructor
  · rintro (change | ⟨-, noticed⟩)
    · cases noChange.symm.trans change
    · exact noticed
  · exact fun noticed => Or.inr ⟨silent, noticed⟩

theorem not_noticed_of_put {other : Config.Source} (put : event.put? = some other) : ¬Noticed (event :: events) := by
  rintro (change | ⟨silent, -⟩)
  · cases put.symm.trans (put?_of_isChange change)
  · cases put.symm.trans silent

end

theorem repeats_from_notice {source : Config.Source} {events : List Event}
    (told : Noticed events → Repeats (source :: puts events) (seen source events))
    (untold : ¬Noticed events → Repeats (puts events) (seen source events)) :
    Repeats (source :: puts events) (source :: seen source events) := by
  by_cases noticed : Noticed events
  · exact .again (told noticed)
  · exact .once (untold noticed)

/-- The watcher sees what is put at the path, in order and each at least once.  What stood there before is seen too
if the watcher is told of a change of it. -/
theorem repeats_seen {events : List Event} (observed : Observed events) (source : Config.Source) :
    (Noticed events → Repeats (source :: puts events) (seen source events)) ∧
      (¬Noticed events → Repeats (puts events) (seen source events)) := by
  -- both at once, for a notice of what stands at the path turns the second case into the first
  induction events generalizing source with
  | nil => exact ⟨False.elim, fun _ => .nil⟩
  | cons event events ih =>
      obtain ⟨notices, others⟩ := observed
      cases change : event.isChange with
      | true =>
          have silent := put?_of_isChange change
          obtain ⟨told, untold⟩ := ih others source
          rw [puts_cons_of_none silent, seen_cons_of_isChange change, silent]
          exact ⟨fun _ => repeats_from_notice told untold,
            fun unnoticed => absurd (noticed_of_isChange change) unnoticed⟩
      | false =>
          rw [seen_cons_of_not_isChange change]
          cases put : event.put? with
          | none =>
              rw [puts_cons_of_none put, noticed_cons_iff change put]
              exact ih others source
          | some other =>
              have noticed : Noticed events := notices (by rw [put]; rfl)
              rw [puts_cons_of_some put]
              exact ⟨fun now => absurd now (not_noticed_of_put put), fun _ => (ih others other).1 noticed⟩

/-! ## What the watcher sends -/

theorem run_cons (engine : Engine) (watched : Watched) (event : Event) (events : List Event) :
    watched.run engine (event :: events) =
      ((watched.step engine event).1 :: ((watched.step engine event).2.run engine events).1,
        ((watched.step engine event).2.run engine events).2) := rfl

theorem source_step (engine : Engine) (watched : Watched) (event : Event) :
    (watched.step engine event).2.source = event.put?.getD watched.source := by
  cases event with
  | put | notice | request | advance => rfl
  | take =>
      obtain ⟨server, source, pending⟩ := watched
      cases pending with
      | nil | cons => rfl

theorem sent?_step (engine : Engine) (watched : Watched) (event : Event) :
    (watched.step engine event).1.sent? =
      if event.isChange then Config.Watch.loaded? watched.source else none := by
  cases event with
  | put | notice | request | advance => rfl
  | take =>
      obtain ⟨server, source, pending⟩ := watched
      cases pending with
      | nil | cons => rfl

/-- What is sent in a run are the configurations of what the watcher sees, as far as it loads. -/
theorem sent_run (engine : Engine) (watched : Watched) (events : List Event) :
    (watched.run engine events).1.filterMap Told.sent? =
      (seen watched.source events).filterMap Config.Watch.loaded? := by
  induction events generalizing watched with
  | nil => rfl
  | cons event events ih =>
      have told := sent?_step engine watched event
      rw [run_cons, List.filterMap_cons, ih, source_step, told]
      cases change : event.isChange with
      | true =>
          rw [seen_cons_of_isChange change, List.filterMap_cons]
          rfl
      | false =>
          rw [seen_cons_of_not_isChange change]
          rfl

/-! ## What the server takes -/

/-- The options after configurations were taken in order. -/
def taking (options : Options) (configs : List Config) : Options :=
  configs.foldl (fun _ config => config.graphql.options) options

/-- The options of the handler once the server has taken all that was sent. -/
def settled (watched : Watched) : Options := taking watched.server.handler.options watched.pending

theorem taking_eq_getLast? (config : Config) (configs : List Config) :
    taking config.graphql.options configs = (configs.getLast?.getD config).graphql.options := by
  induction configs generalizing config with
  | nil => rfl
  | cons next configs ih =>
      rw [List.getLast?_cons]
      exact ih next

theorem taking_append (options : Options) (first others : List Config) :
    taking options (first ++ others) = taking (taking options first) others := List.foldl_append

/-- Only what is sent changes what the options settle at. -/
theorem settled_step (engine : Engine) (watched : Watched) (event : Event) :
    (watched.step engine event).2.settled = taking watched.settled (watched.step engine event).1.sent?.toList := by
  cases event with
  | put | advance => rfl
  | notice told => exact taking_append _ _ _
  | take =>
      obtain ⟨server, source, pending⟩ := watched
      cases pending with
      | nil | cons => rfl
  | request request fresh =>
      have kept : (watched.server.serve engine fresh request).2.2.handler = watched.server.handler :=
        (watched.server.served_serve engine fresh request).frame.2.2.1
      exact congrArg (fun handler => taking handler.options watched.pending) kept

theorem settled_run (engine : Engine) (watched : Watched) (events : List Event) :
    (watched.run engine events).2.settled =
      taking watched.settled ((watched.run engine events).1.filterMap Told.sent?) := by
  induction events generalizing watched with
  | nil => rfl
  | cons event events ih =>
      rw [run_cons]
      dsimp only
      rw [ih, settled_step, ← taking_append, List.filterMap_cons]
      cases (watched.step engine event).1.sent? with
      | none | some => rfl

theorem pending_take (engine : Engine) (watched : Watched) :
    (watched.step engine .take).2.pending = watched.pending.drop 1 := by
  obtain ⟨server, source, pending⟩ := watched
  cases pending with
  | nil | cons => rfl

theorem pending_takes (engine : Engine) (watched : Watched) (count : Nat) :
    (watched.run engine (List.replicate count .take)).2.pending = watched.pending.drop count := by
  induction count generalizing watched with
  | zero => rfl
  | succ count ih =>
      rw [List.replicate_succ, run_cons]
      dsimp only
      rw [ih, pending_take, List.drop_drop, Nat.add_comm]

theorem seen_takes (source : Config.Source) (count : Nat) : seen source (List.replicate count .take) = [] := by
  induction count with
  | zero => rfl
  | succ count ih => exact ih

/-- Once the server has taken all that was sent, its handler has the options that they settle at. -/
theorem options_after_takes (engine : Engine) (watched : Watched) {count : Nat}
    (enough : watched.pending.length ≤ count) :
    (watched.run engine (List.replicate count .take)).2.server.handler.options = watched.settled := by
  have taken := settled_run engine watched (List.replicate count .take)
  rw [sent_run, seen_takes, settled, pending_takes, List.drop_of_length_le enough] at taken
  exact taken

/-! ## The file and the handler -/

/-- A server is started with a configuration that was loaded from its file, and contents are written to the file, each
of them noticed at least once while it stands there.  Then the configurations that are sent are those of the contents
that load, in order, each at least once, after the first one as often as a change of the first content is told.  Each
of them is written by octets that are UTF-8, TOML of the right shape and valid.  A notice of a content that does not
load leaves everything as it was.  And once the server has taken what was sent, the switch for batches is that of the
last content that loads. -/
theorem last_good_config_stays {initial : Bytes} {config : Config} {server : Server}
    (loads : Config.load (.file initial) = .ok config) (built : new? config = some server) (engine : Engine)
    {contents : List Bytes} {events : List Event} (written : puts events = contents.map .file)
    (observed : Observed events) :
    let ran := (start server (.file initial)).run engine events
    let sent := ran.1.filterMap Told.sent?
    Repeats (config :: Config.Watch.sent contents) (config :: sent) ∧
      (¬Noticed events → Repeats (Config.Watch.sent contents) sent) ∧
      (∀ reloaded ∈ sent, ∃ octets ∈ initial :: contents, Config.WrittenBy octets reloaded) ∧
      (∀ (watched : Watched) (notice : Notice), Config.Watch.loaded? watched.source = none →
        watched.step engine (.notice notice) = (.sent none, watched)) ∧
      ∀ count, ran.2.pending.length ≤ count →
        (ran.2.run engine (List.replicate count .take)).2.server.handler.options.batching =
          (Config.Watch.inForce config contents).graphql.batching := by
  intro ran sent
  have first : Config.Watch.loaded? (.file initial) = some config := Config.Watch.loaded?_eq_some_iff.mpr loads
  have all : sent = (seen (.file initial) events).filterMap Config.Watch.loaded? := sent_run engine _ events
  have load : (puts events).filterMap Config.Watch.loaded? = Config.Watch.sent contents := by
    rw [written, List.filterMap_map]
    rfl
  obtain ⟨told, untold⟩ := repeats_seen observed (.file initial)
  have whole : Repeats (config :: Config.Watch.sent contents) (config :: sent) := by
    have loaded := (repeats_from_notice told untold).filterMap Config.Watch.loaded?
    rwa [List.filterMap_cons_some first, List.filterMap_cons_some first, load, ← all] at loaded
  refine ⟨whole, ?_, ?_, fun _ notice refused => step_notice_of_not_loaded refused engine notice, ?_⟩
  · intro unnoticed
    have loaded := (untold unnoticed).filterMap Config.Watch.loaded?
    rwa [load, ← all] at loaded
  · intro reloaded member
    rcases List.mem_cons.mp (whole.mem (List.mem_cons_of_mem config member)) with rfl | inContents
    · exact ⟨initial, List.mem_cons_self, Config.load_file_eq_ok_iff.mp loads⟩
    · obtain ⟨octets, among, loaded⟩ := Config.Watch.mem_sent.mp inContents
      exact ⟨octets, List.mem_cons_of_mem initial among, Config.load_file_eq_ok_iff.mp loaded⟩
  · intro count enough
    have begins : (start server (.file initial)).settled = config.graphql.options := by
      obtain ⟨route, -, same⟩ := Option.map_eq_some_iff.mp built
      rw [← same]
      rfl
    have lasts := whole.getLast?_eq
    rw [List.getLast?_cons, List.getLast?_cons] at lasts
    have settles : ran.2.settled = (Config.Watch.inForce config contents).graphql.options := by
      rw [settled_run, begins, taking_eq_getLast?, Option.some.inj lasts]
      rfl
    rw [options_after_takes engine ran.2 enough, settles]
    rfl

/-- A file that switches batches on. -/
def batchesOn : Bytes := Bytes.ofString "graphql.request_batching_enabled = true"

/-- An octet that starts no character. -/
def noText : Bytes := [0xFF]

/-- Batches are switched on, of which the watcher is told twice; a slow query is cut off, and what is written to the
file then is no text. -/
def switched : List Event :=
  [.put (.file batchesOn), .notice .modified, .request slowRequest [], .notice .created, .notice .other,
    .put (.file noText), .notice .modified]

/-- A new server with the standard configuration. -/
def ofStandard : Server := ⟨.standard, ⟨"/graphql".toList.map .literal⟩, .new ⟨false⟩, .empty, .zero⟩

/-- The configuration that switches batches on is sent twice, and it stays the one that the handler follows. -/
theorem batches_stay_switched_on :
    let ran := (start ofStandard (.file [])).run slowEngine switched
    Repeats [.standard, Config.standard.withBatching true] (.standard :: ran.1.filterMap Told.sent?) ∧
      (ran.2.run slowEngine (List.replicate 2 .take)).2.server.handler.options.batching = true := by
  intro ran
  have loads : Config.load (.file []) = .ok .standard := by
    refine Config.Watch.loaded?_eq_some_iff.mp ?_
    decide +kernel
  have built : new? .standard = some ofStandard := by
    with_unfolding_all rfl
  have observed : Observed switched := by
    decide
  have sent : Config.Watch.sent [batchesOn, noText] = [Config.standard.withBatching true] := by
    decide +kernel
  have last : (Config.Watch.inForce .standard [batchesOn, noText]).graphql.batching = true := by
    decide +kernel
  have enough : ran.2.pending.length ≤ 2 := by
    decide +kernel
  obtain ⟨whole, -, -, -, settles⟩ :=
    @last_good_config_stays [] .standard ofStandard loads built slowEngine [batchesOn, noText] switched rfl observed
  rw [sent] at whole
  exact ⟨whole, (settles 2 enough).trans last⟩

end Server.Watched

end QueryGateway
