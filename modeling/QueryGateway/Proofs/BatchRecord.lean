import Mathlib.Algebra.BigOperators.Finprod
import QueryGateway.Proofs.Precedence
import QueryGateway.Proofs.Reloads
import QueryGateway.Proofs.RequestRecord

/-!
# The record of batches

A batch is recorded with the number of its queries when it is accepted, whatever becomes of it afterwards, and only
then.  So the samples of batches tell how many were accepted in a run, and how many queries they had together.  The
latter are added up as doubles, which is exact up to the largest whole number below which a double misses none.
The samples of requests tell the same by method as by method and status.  No sample ever decreases.
-/

namespace QueryGateway

/-! ## Sums of doubles -/

namespace Binary64

/-- A natural number that is a double, as far as its size is concerned. -/
def IsWhole (n : Nat) : Prop := ∃ mantissa exponent, mantissa < 2 * leastNormal ∧ n = mantissa * 2 ^ exponent

theorem le_roundQuotient (num den : Nat) : num / den ≤ roundQuotient num den := by
  unfold roundQuotient
  dsimp only
  split
  · exact Nat.le_succ _
  · exact Nat.le_refl _

theorem roundQuotient_le (num den : Nat) : roundQuotient num den ≤ num / den + 1 := by
  unfold roundQuotient
  dsimp only
  split
  · exact Nat.le_refl _
  · exact Nat.le_succ _

/-- The unit of a large number leaves 53 binary digits of it. -/
theorem quotient_bounds {n : Nat} (large : 2 * leastNormal ≤ n) :
    leastNormal ≤ n / 2 ^ (n.log2 - 52) ∧ n / 2 ^ (n.log2 - 52) < 2 * leastNormal := by
  have notZero : n ≠ 0 := Nat.ne_of_gt (Nat.lt_of_lt_of_le (by decide) large)
  have digits : 52 ≤ n.log2 := (Nat.le_log2 notZero).mpr (Nat.le_trans (by decide) large)
  have low : 2 ^ n.log2 ≤ n := Nat.log2_self_le notZero
  have high : n < 2 ^ (n.log2 + 1) := Nat.lt_log2_self
  have split : leastNormal * 2 ^ (n.log2 - 52) = 2 ^ n.log2 := by
    rw [show leastNormal = 2 ^ 52 from rfl, ← Nat.pow_add, Nat.add_sub_cancel' digits]
  constructor
  · rw [Nat.le_div_iff_mul_le (Nat.two_pow_pos _), split]
    exact low
  · rw [Nat.div_lt_iff_lt_mul (Nat.two_pow_pos _), Nat.mul_assoc, split, Nat.mul_comm, ← Nat.pow_succ]
    exact high

theorem nearestNat_of_large {n : Nat} (large : 2 * leastNormal ≤ n) :
    nearestNat n = roundQuotient n (2 ^ (n.log2 - 52)) * 2 ^ (n.log2 - 52) := by
  unfold nearestNat
  rw [if_neg (Nat.not_lt.mpr large), Nat.one_shiftLeft]

theorem isWhole_nearestNat (n : Nat) : IsWhole (nearestNat n) := by
  rcases Nat.lt_or_ge n (2 * leastNormal) with small | large
  · rw [nearestNat_of_lt small]
    exact ⟨n, 0, small, (Nat.mul_one n).symm⟩
  · have bound := roundQuotient_le n (2 ^ (n.log2 - 52))
    have below := (quotient_bounds large).2
    rw [nearestNat_of_large large]
    rcases Nat.lt_or_ge (roundQuotient n (2 ^ (n.log2 - 52))) (2 * leastNormal) with fits | full
    · exact ⟨_, _, fits, rfl⟩
    · -- rounding up has given one more binary digit
      have same : roundQuotient n (2 ^ (n.log2 - 52)) = 2 * leastNormal := by omega
      refine ⟨1, 53 + (n.log2 - 52), by decide, ?_⟩
      rw [same, Nat.one_mul, Nat.pow_add]
      rfl

/-- Rounding goes past no double. -/
theorem le_nearestNat {whole n : Nat} (isWhole : IsWhole whole) (le : whole ≤ n) : whole ≤ nearestNat n := by
  rcases Nat.lt_or_ge n (2 * leastNormal) with small | large
  · rwa [nearestNat_of_lt small]
  obtain ⟨mantissa, exponent, fits, rfl⟩ := isWhole
  have bounds := quotient_bounds large
  have up := le_roundQuotient n (2 ^ (n.log2 - 52))
  rw [nearestNat_of_large large]
  refine Nat.le_trans ?_ (Nat.mul_le_mul_right _ up)
  rcases Nat.lt_or_ge exponent (n.log2 - 52) with fine | coarse
  · -- a double of a smaller unit lies below all that have this one
    have halves : 2 * 2 ^ exponent ≤ 2 ^ (n.log2 - 52) := by
      rw [Nat.mul_comm, ← Nat.pow_succ]
      exact Nat.pow_le_pow_right (by decide) fine
    calc mantissa * 2 ^ exponent ≤ 2 * leastNormal * 2 ^ exponent := Nat.mul_le_mul_right _ (Nat.le_of_lt fits)
      _ = leastNormal * (2 * 2 ^ exponent) := by rw [Nat.mul_comm 2, Nat.mul_assoc]
      _ ≤ n / 2 ^ (n.log2 - 52) * 2 ^ (n.log2 - 52) := Nat.mul_le_mul bounds.1 halves
  · -- any other one is a multiple of this unit
    obtain ⟨more, rfl⟩ := Nat.exists_eq_add_of_le coarse
    rw [Nat.pow_add, Nat.mul_left_comm, Nat.mul_comm] at le ⊢
    exact Nat.mul_le_mul_right _ ((Nat.le_div_iff_mul_le (Nat.two_pow_pos _)).mpr le)

/-- Numbers added up as doubles. -/
def addUp (total : Nat) (sizes : List Nat) : Nat :=
  sizes.foldl (fun total size => nearestNat (total + nearestNat size)) total

theorem addUp_append (total : Nat) (sizes others : List Nat) :
    addUp total (sizes ++ others) = addUp (addUp total sizes) others := List.foldl_append

theorem le_addUp {total : Nat} (isWhole : IsWhole total) (sizes : List Nat) :
    total ≤ addUp total sizes ∧ IsWhole (addUp total sizes) := by
  induction sizes generalizing total with
  | nil => exact ⟨Nat.le_refl _, isWhole⟩
  | cons size sizes ih =>
      obtain ⟨grows, whole⟩ := ih (isWhole_nearestNat (total + nearestNat size))
      exact ⟨Nat.le_trans (le_nearestNat isWhole (Nat.le_add_right _ _)) grows, whole⟩

/-- A double misses no whole number up to this one. -/
theorem nearestNat_of_le {n : Nat} (le : n ≤ 2 * leastNormal) : nearestNat n = n := by
  rcases Nat.lt_or_eq_of_le le with less | rfl
  · exact nearestNat_of_lt less
  · decide +kernel

theorem addUp_of_le {total : Nat} {sizes : List Nat} (le : total + sizes.sum ≤ 2 * leastNormal) :
    addUp total sizes = total + sizes.sum := by
  induction sizes generalizing total with
  | nil => rfl
  | cons size sizes ih =>
      rw [List.sum_cons, ← Nat.add_assoc] at le ⊢
      have first : nearestNat size = size := nearestNat_of_le (by omega)
      have added : nearestNat (total + size) = total + size := nearestNat_of_le (by omega)
      show addUp (nearestNat (total + nearestNat size)) sizes = _
      rw [first, added]
      exact ih le

end Binary64

/-! ## Accepted batches -/

namespace GraphQL

open Http Shape

/-- A handler accepts a batch: it is posted as a JSON list from which queries can be read, batches are enabled, and
every query has a text. -/
structure Handler.AcceptsBatch (handler : Handler) (limit : Option Nat) (request : Request) (queries : List Query) :
    Prop where
  asks : ∃ values, AsksInBody request values
  json : contentType request.head = MediaType.json
  decoded : ∃ items, Holds limit request (.array items) ∧
    (Format.list Query.shape : TreeReader Json (List Query)).run (.array items) = .ok queries
  enabled : handler.options.batching = true
  complete : ∀ query ∈ queries, query.text ≠ none

section

variable {handler : Handler} {limit : Option Nat} {request : Request} {queries : List Query}

theorem Handler.AcceptsBatch.unique {others : List Query} (first : handler.AcceptsBatch limit request queries)
    (second : handler.AcceptsBatch limit request others) : queries = others := by
  obtain ⟨items, holds, read⟩ := first.decoded
  obtain ⟨_, held, readOthers⟩ := second.decoded
  cases holds.unique held
  exact Except.ok.inj (read.symm.trans readOthers)

/-- A batch that is accepted is planned as the executions of its queries. -/
theorem Handler.AcceptsBatch.exists_plan (accepts : handler.AcceptsBatch limit request queries) :
    ∃ executions, handler.plan limit request = .ok (.batch executions) ∧ executions.length = queries.length := by
  obtain ⟨⟨values, asks⟩, json, ⟨items, holds, read⟩, enabled, complete⟩ := accepts
  refine ⟨(queries.map fun query => query.inheritVariables values).map (handler.providers.execution request.head),
    ?_, by rw [List.length_map, List.length_map]⟩
  rw [asks.plan_of_holds json holds, Payload.ofJson, Payload.fit_of_run read]
  show handler.planPayload request.head values (.batch queries) = _
  rw [Handler.planPayload, enabled, Handler.completeQueries_of_texts complete]
  rfl

/-- The payload of a batch is a list of queries. -/
theorem Payload.exists_read_of_batch {octets : Bytes} (done : Payload.ofBytes octets = .ok (.batch queries)) :
    ∃ items, Json.parse octets = .ok (.array items) ∧
      (Format.list Query.shape : TreeReader Json (List Query)).run (.array items) = .ok queries := by
  unfold Payload.ofBytes at done
  split at done
  · cases done
  next value parsed =>
    unfold Payload.ofJson at done
    split at done
    · obtain ⟨query, -, same⟩ := map_eq_ok done
      cases same
    · next items =>
      obtain ⟨_, read, same⟩ := map_eq_ok done
      cases same
      exact ⟨items, parsed, Handler.run_of_fit read⟩
    · cases done

theorem Handler.acceptsBatch_of_planPayload {values : Option Members} {octets : Bytes} {payload : Payload}
    {executions : List Execution} (asks : AsksInBody request values)
    (json : contentType request.head = MediaType.json) (body : readBody limit request.body = .ok octets)
    (read : Payload.ofBytes octets = .ok payload)
    (planned : handler.planPayload request.head values payload = .ok (.batch executions)) :
    ∃ queries, handler.AcceptsBatch limit request queries ∧ queries.length = executions.length := by
  have arrives : Arrives limit request.body (.ok octets) := by
    rw [← Handler.collect_of_readBody body]
    exact arrives_collect limit request.body
  cases payload with
  | single query =>
      rw [planPayload] at planned
      split at planned <;> cases planned
  | batch queries =>
      rw [planPayload] at planned
      split at planned
      · cases planned
      next enabled =>
        obtain ⟨completed, done, same⟩ := map_eq_ok planned
        cases same
        obtain ⟨texts, rfl⟩ := completeQueries_eq_ok done
        obtain ⟨items, parsed, run⟩ := Payload.exists_read_of_batch read
        have holds : Holds limit request (.array items) := holds_iff.mpr ⟨octets, arrives, parsed⟩
        refine ⟨queries, ⟨⟨values, asks⟩, json, ⟨items, holds, run⟩, ?_, ?_⟩, ?_⟩
        · simpa using enabled
        · intro query member
          obtain ⟨text, given⟩ := texts query member
          rw [given]
          exact Option.some_ne_none text
        · rw [List.length_map, List.length_map]

theorem Handler.acceptsBatch_of_planPost {executions : List Execution} (method : request.head.method = "POST")
    (planned : handler.planPost limit request.head request.body = .ok (.batch executions)) :
    ∃ queries, handler.AcceptsBatch limit request queries ∧ queries.length = executions.length := by
  simp only [planPost] at planned
  obtain ⟨values, read, planned⟩ := bind_eq_ok planned
  split at planned
  · cases planned
  next noQuery =>
  split at planned
  · next json =>
    obtain ⟨octets, body, planned⟩ := bind_eq_ok planned
    obtain ⟨payload, payloadRead, planned⟩ := bind_eq_ok planned
    have given : TargetVariables request.head.uri values := UrlParameters.variableValues_eq_ok_iff.mp read
    exact acceptsBatch_of_planPayload ⟨method, noQuery, given⟩ json body payloadRead planned
  · split at planned
    · obtain ⟨octets, -, planned⟩ := bind_eq_ok planned
      split at planned <;> cases planned
    · cases planned

/-- Nothing else is planned as a batch. -/
theorem Handler.acceptsBatch_of_plan {executions : List Execution}
    (planned : handler.plan limit request = .ok (.batch executions)) :
    ∃ queries, handler.AcceptsBatch limit request queries ∧ queries.length = executions.length := by
  unfold Handler.plan at planned
  split at planned
  · simp only [planGet] at planned
    split at planned
    · cases planned
    · obtain ⟨values, -, planned⟩ := bind_eq_ok planned
      cases planned
  · split at planned
    · next method => exact acceptsBatch_of_planPost method planned
    · cases planned

/-- The handling of a request has the size of a batch exactly if it is an accepted one. -/
theorem Handler.batchSize_eq_some_iff {engine : Engine} {ordinal size : Nat} :
    (handler.handle engine ordinal limit request).batchSize = some size ↔
      ∃ queries, handler.AcceptsBatch limit request queries ∧ queries.length = size := by
  constructor
  · intro sized
    cases decided : handler.plan limit request with
    | error rejection =>
        rw [handle_of_rejected decided] at sized
        cases sized
    | ok plan =>
        rw [handle_of_accepted decided] at sized
        cases plan with
        | single execution => cases sized
        | batch executions =>
            obtain rfl : executions.length = size := Option.some.inj sized
            exact acceptsBatch_of_plan decided
  · rintro ⟨queries, accepts, rfl⟩
    obtain ⟨executions, decided, length⟩ := accepts.exists_plan
    rw [handle_of_accepted decided]
    exact congrArg some length

end

end GraphQL

/-! ## What is recorded of a run -/

namespace Server

open Http GraphQL

/-- The request of a moment gets through to the handler, which accepts it as a batch. -/
def Moment.AcceptsBatch (moment : Moment) (queries : List Query) : Prop :=
  ∃ request fresh, moment.event = .request request fresh ∧
    moment.before.reaches (identified fresh request) = true ∧
    moment.before.handler.AcceptsBatch (some (moment.before.readLimit (identified fresh request)))
      (identified fresh request) queries

/-- The batches that are accepted in the course of moments, in order. -/
inductive Accepted : List Moment → List (List Query) → Prop
  | none : Accepted [] []
  | batch {moment : Moment} {moments : List Moment} {queries : List Query} {batches : List (List Query)}
      (accepts : moment.AcceptsBatch queries) (others : Accepted moments batches) :
      Accepted (moment :: moments) (queries :: batches)
  | other {moment : Moment} {moments : List Moment} {batches : List (List Query)}
      (accepts : ∀ queries, ¬moment.AcceptsBatch queries) (others : Accepted moments batches) :
      Accepted (moment :: moments) batches

theorem Moment.AcceptsBatch.unique {moment : Moment} {queries others : List Query}
    (first : moment.AcceptsBatch queries) (second : moment.AcceptsBatch others) : queries = others := by
  obtain ⟨request, fresh, event, -, accepts⟩ := first
  obtain ⟨_, _, again, -, acceptsOthers⟩ := second
  cases event.symm.trans again
  exact accepts.unique acceptsOthers

theorem Accepted.unique {moments : List Moment} {batches others : List (List Query)}
    (first : Accepted moments batches) (second : Accepted moments others) : batches = others := by
  induction first generalizing others with
  | none =>
      cases second
      rfl
  | batch accepts _ ih =>
      cases second with
      | batch acceptsOthers rest => rw [accepts.unique acceptsOthers, ih rest]
      | other acceptsNone => exact absurd accepts (acceptsNone _)
  | other acceptsNone _ ih =>
      cases second with
      | batch accepts => exact absurd accepts (acceptsNone _)
      | other _ rest => exact ih rest

theorem batches_record (metrics : Metrics) (method : String) (size : Option Nat) (reply : Option Reply) :
    (record metrics method size reply).batches = metrics.batches ++ size.toList := by
  cases size with
  | none => exact (batches_record_none metrics method reply).trans (List.append_nil _).symm
  | some size =>
      cases reply with
      | none => rfl
      | some reply => cases reply <;> rfl

/-- What one request adds to the record of batches: its size, once it gets through to the handler. -/
theorem Served.batches_eq {server : Server} {engine : Engine} {request : Request} {result : Reply × Activity × Server}
    (served : Served server engine request result) :
    result.2.2.metrics.batches = server.metrics.batches ++
      if server.reaches request = true then (server.handling engine request).batchSize.toList else [] := by
  cases served with
  | noTime none =>
      rw [if_neg (not_reaches_of_noTime none), List.append_nil]
      rfl
  | tooMuch time long =>
      rw [if_neg (not_reaches_of_tooMuch long), List.append_nil]
      rfl
  | unknown time short other =>
      rw [if_neg (not_reaches_of_unknown other), List.append_nil]
      rfl
  | inTime reached timely =>
      rw [if_pos reached]
      exact batches_record server.metrics _ _ _
  | cutOff reached late =>
      rw [if_pos reached]
      exact batches_record server.metrics _ _ _

/-- A step that accepts a batch records its size. -/
theorem batches_step_of_accepts {engine : Engine} {server : Server} {event : Event} {queries : List Query}
    (accepts : (Moment.of engine server event).AcceptsBatch queries) :
    (step engine server event).2.metrics.batches = server.metrics.batches ++ [queries.length] := by
  obtain ⟨request, fresh, rfl, reached, accepts⟩ := accepts
  have size : (server.handling engine (identified fresh request)).batchSize = some queries.length :=
    Handler.batchSize_eq_some_iff.mpr ⟨queries, accepts, rfl⟩
  have here : server.reaches (identified fresh request) = true := reached
  have served := (server.served_serve engine fresh request).batches_eq
  rw [if_pos here, size] at served
  exact served

/-- Any other step records no size. -/
theorem batches_step_of_not_accepts {engine : Engine} {server : Server} {event : Event}
    (accepts : ∀ queries, ¬(Moment.of engine server event).AcceptsBatch queries) :
    (step engine server event).2.metrics.batches = server.metrics.batches := by
  cases event with
  | request request fresh =>
      have served := (server.served_serve engine fresh request).batches_eq
      refine served.trans ?_
      split
      · next reached =>
        cases size : (server.handling engine (identified fresh request)).batchSize with
        | none => exact List.append_nil _
        | some length =>
            obtain ⟨queries, accepted, -⟩ := Handler.batchSize_eq_some_iff.mp size
            exact absurd ⟨request, fresh, rfl, reached, accepted⟩ (accepts queries)
      · exact List.append_nil _
  | change | reconfigure | advance => rfl

/-- The record of batches tells the sizes of those that were accepted. -/
theorem exists_accepted (engine : Engine) (server : Server) (events : List Event) :
    ∃ batches, Accepted (moments engine server events) batches ∧
      (run engine server events).2.metrics.batches = server.metrics.batches ++ batches.map List.length := by
  induction events generalizing server with
  | nil => exact ⟨[], .none, (List.append_nil _).symm⟩
  | cons event events ih =>
      obtain ⟨batches, others, recorded⟩ := ih (step engine server event).2
      by_cases accepts : ∃ queries, (Moment.of engine server event).AcceptsBatch queries
      · obtain ⟨queries, accepts⟩ := accepts
        refine ⟨queries :: batches, .batch accepts others, ?_⟩
        rw [run_cons]
        dsimp only
        rw [recorded, batches_step_of_accepts accepts, List.append_assoc]
        rfl
      · rw [not_exists] at accepts
        refine ⟨batches, .other accepts others, ?_⟩
        rw [run_cons]
        dsimp only
        rw [recorded, batches_step_of_not_accepts accepts]

/-! ## Samples -/

theorem count_fst_eq_sum {entries : List (String × Nat)} {statuses : Finset Nat}
    (within : ∀ entry ∈ entries, entry.2 ∈ statuses) (method : String) :
    (entries.map Prod.fst).count method = ∑ status ∈ statuses, entries.count (method, status) := by
  induction entries with
  | nil => simp
  | cons entry entries ih =>
      have one : (∑ status ∈ statuses, if entry == (method, status) then 1 else 0) =
          if entry.1 == method then 1 else 0 := by
        obtain ⟨other, status⟩ := entry
        have here : status ∈ statuses := within _ List.mem_cons_self
        by_cases same : other = method
        · simp [same, here]
        · simp [same]
      simp only [List.map_cons, List.count_cons]
      rw [Finset.sum_add_distrib, one, ih fun entry member => within entry (List.mem_cons_of_mem _ member)]

/-- The labels of the durations are those of the counted requests, without the status. -/
def Metrics.Paired (metrics : Metrics) : Prop := metrics.durations = metrics.requests.map Prod.fst

/-- A request is counted and its duration recorded, or neither. -/
theorem Metrics.Paired.record {metrics : Metrics} (paired : metrics.Paired) (method : String) (size : Option Nat)
    (reply : Option Reply) : (record metrics method size reply).Paired := by
  have counted (status : Nat) : (metrics.recordRequest method status).Paired := by
    have labels : metrics.durations ++ [method] = (metrics.requests ++ [(method, status)]).map Prod.fst := by
      rw [List.map_append, ← show metrics.durations = _ from paired]
      rfl
    exact labels
  cases reply with
  | none => cases size <;> exact paired
  | some reply =>
      cases reply with
      | response answer => cases size <;> exact counted answer.status
      | panic message => cases size <;> exact paired

theorem Served.paired {server : Server} {engine : Engine} {request : Request} {result : Reply × Activity × Server}
    (served : Served server engine request result) (paired : server.metrics.Paired) :
    result.2.2.metrics.Paired := by
  cases served with
  | noTime | tooMuch => exact paired
  | unknown => exact paired.record request.head.method none (some (.response unknownPath))
  | inTime | cutOff => exact paired.record request.head.method _ _

theorem paired_step {engine : Engine} {server : Server} (event : Event) (paired : server.metrics.Paired) :
    (step engine server event).2.metrics.Paired := by
  cases event with
  | request request fresh => exact (server.served_serve engine fresh request).paired paired
  | change | reconfigure | advance => exact paired

theorem paired_run {engine : Engine} {server : Server} (paired : server.metrics.Paired) (events : List Event) :
    (run engine server events).2.metrics.Paired :=
  @run_keeps engine (fun state => state.metrics.Paired) (fun _ event => paired_step event) server paired events

/-- As many durations are recorded with a method as requests are counted with it and any status. -/
theorem Metrics.Paired.durationCount_eq_finsum {metrics : Metrics} (paired : metrics.Paired) (method : String) :
    metrics.durationCount method = ∑ᶠ status, metrics.requestsTotal method status := by
  have within : ∀ entry ∈ metrics.requests, entry.2 ∈ (metrics.requests.map Prod.snd).toFinset := by
    intro entry member
    exact List.mem_toFinset.mpr (List.mem_map_of_mem member)
  rw [durationCount, paired, finsum_eq_sum_of_support_subset]
  · exact count_fst_eq_sum within method
  · intro status counted
    exact within _ (List.count_pos_iff.mp (Nat.pos_of_ne_zero counted))

/-- The samples of one record are at most those of another one. -/
structure Metrics.AtMost (metrics later : Metrics) : Prop where
  requestsTotal : ∀ method status, metrics.requestsTotal method status ≤ later.requestsTotal method status
  durationCount : ∀ method, metrics.durationCount method ≤ later.durationCount method
  batchCount : metrics.batchCount ≤ later.batchCount
  batchSum : metrics.batchSum ≤ later.batchSum

theorem Metrics.batchSum_eq (metrics : Metrics) : metrics.batchSum = Binary64.addUp 0 metrics.batches := rfl

/-- Samples only grow with their record. -/
theorem Metrics.atMost_of_grows {metrics later : Metrics} (requests : metrics.requests <+: later.requests)
    (durations : metrics.durations <+: later.durations) (batches : metrics.batches <+: later.batches) :
    metrics.AtMost later := by
  refine ⟨fun method status => requests.sublist.count_le _, fun method => ?_, batches.length_le, ?_⟩
  · exact durations.sublist.count_le method
  · obtain ⟨more, same⟩ := batches
    have whole : Binary64.IsWhole (Binary64.addUp 0 metrics.batches) :=
      (Binary64.le_addUp ⟨0, 0, by decide, rfl⟩ metrics.batches).2
    rw [batchSum_eq, batchSum_eq, ← same, Binary64.addUp_append]
    exact (Binary64.le_addUp whole more).1

/-- What is recorded stays recorded. -/
theorem record_step (engine : Engine) (server : Server) (event : Event) :
    server.metrics.requests <+: (step engine server event).2.metrics.requests ∧
      server.metrics.batches <+: (step engine server event).2.metrics.batches := by
  refine ⟨⟨_, (requests_step engine server event).symm⟩, ?_⟩
  by_cases accepts : ∃ queries, (Moment.of engine server event).AcceptsBatch queries
  · obtain ⟨queries, accepts⟩ := accepts
    exact ⟨_, (batches_step_of_accepts accepts).symm⟩
  · rw [batches_step_of_not_accepts (not_exists.mp accepts)]

theorem record_run (engine : Engine) (server : Server) (events : List Event) :
    server.metrics.requests <+: (run engine server events).2.metrics.requests ∧
      server.metrics.batches <+: (run engine server events).2.metrics.batches := by
  have next (state : Server) (event : Event)
      (kept : server.metrics.requests <+: state.metrics.requests ∧ server.metrics.batches <+: state.metrics.batches) :
      server.metrics.requests <+: (step engine state event).2.metrics.requests ∧
        server.metrics.batches <+: (step engine state event).2.metrics.batches := by
    obtain ⟨requests, batches⟩ := record_step engine state event
    exact ⟨kept.1.trans requests, kept.2.trans batches⟩
  exact @run_keeps engine (fun state => server.metrics.requests <+: state.metrics.requests ∧
    server.metrics.batches <+: state.metrics.batches) next server ⟨List.prefix_rfl, List.prefix_rfl⟩ events

theorem run_append (engine : Engine) (server : Server) (events later : List Event) :
    (run engine server (events ++ later)).2 = (run engine (run engine server events).2 later).2 := by
  induction events generalizing server with
  | nil => rfl
  | cons event events ih => exact ih (step engine server event).2

/-- The samples of a new server, in every run.  As many batches are counted as were accepted, each one once, whether it
was answered, failed, panicked or took too long; the numbers of their queries are added up as doubles, which is exact
unless the total is larger than every number up to which doubles miss none.  As many durations are counted under a
method as requests under this method with all statuses together.  And whatever happens later, no sample decreases. -/
theorem samples_agree_throughout {config : Config} {server : Server} (new : new? config = some server)
    (engine : Engine) (events : List Event) :
    let metrics := (run engine server events).2.metrics
    (∃ batches, Accepted (moments engine server events) batches ∧
      (∀ others, Accepted (moments engine server events) others → others = batches) ∧
      metrics.batchCount = batches.length ∧
      metrics.batchSum = Binary64.addUp 0 (batches.map List.length) ∧
      ((batches.map List.length).sum ≤ 2 ^ 53 → metrics.batchSum = (batches.map List.length).sum)) ∧
      (∀ method, metrics.durationCount method = ∑ᶠ status, metrics.requestsTotal method status) ∧
      ∀ later, metrics.AtMost (run engine server (events ++ later)).2.metrics := by
  intro metrics
  obtain ⟨batches, accepted, recorded⟩ := exists_accepted engine server events
  have start : server.metrics = .empty := by
    obtain ⟨route, -, rfl⟩ := Option.map_eq_some_iff.mp new
    rfl
  have paired : metrics.Paired := by
    refine paired_run ?_ events
    rw [start]
    rfl
  rw [start, show Metrics.empty.batches = [] from rfl, List.nil_append] at recorded
  have sum : metrics.batchSum = Binary64.addUp 0 (batches.map List.length) := by
    rw [Metrics.batchSum_eq, recorded]
  refine ⟨⟨batches, accepted, fun others again => again.unique accepted, ?_, sum, ?_⟩,
    paired.durationCount_eq_finsum, ?_⟩
  · rw [Metrics.batchCount, recorded, List.length_map]
  · intro small
    rw [sum, Binary64.addUp_of_le (by rwa [Nat.zero_add]), Nat.zero_add]
  · intro later
    rw [run_append]
    obtain ⟨requests, sizes⟩ := record_run engine (run engine server events).2 later
    have durations : metrics.durations <+: (run engine (run engine server events).2 later).2.metrics.durations := by
      rw [show metrics.durations = _ from paired,
        show Metrics.durations _ = _ from paired_run paired later]
      exact requests.map Prod.fst
    exact Metrics.atMost_of_grows requests durations sizes

/-- A batch takes too long, an empty one is answered, and one is refused after batches were switched off. -/
def threeBatches : List Event :=
  [.request slowBatch [], .request (postedBatch []) [], .reconfigure elsewhere, .request slowBatch []]

/-- The first two of the batches are counted, with two queries together. -/
theorem two_of_three_batches_recorded :
    ∃ batches, Accepted (moments slowEngine ofOneSecond threeBatches) batches ∧ batches.length = 2 ∧
      Binary64.addUp 0 (batches.map List.length) = 2 := by
  obtain ⟨⟨batches, accepted, -, count, sum, -⟩, -, -⟩ :=
    samples_agree_throughout new?_oneSecond slowEngine threeBatches
  have counted : (run slowEngine ofOneSecond threeBatches).2.metrics.batchCount = 2 ∧
      (run slowEngine ofOneSecond threeBatches).2.metrics.batchSum = 2 := by
    decide +kernel
  exact ⟨batches, accepted, count.symm.trans counted.1, sum.symm.trans counted.2⟩

end Server

end QueryGateway
