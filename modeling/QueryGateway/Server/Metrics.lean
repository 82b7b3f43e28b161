import QueryGateway.Decimal.Shortest

/-!
# Metrics

What was recorded, in order: for every request that was answered by the routes, its method and its status in a
counter and its method in a histogram, and the size of every accepted batch.  How long a request took is left out: no
sample tells it.  The samples are computed from the record.
-/

namespace QueryGateway.Server

/-- What was recorded. -/
structure Metrics where
  /-- The labels of the counted requests. -/
  requests : List (String × Nat)
  /-- The labels of the durations. -/
  durations : List String
  batches : List Nat
  deriving DecidableEq, Repr

namespace Metrics

/-- Nothing was recorded. -/
def empty : Metrics := ⟨[], [], []⟩

/-- Records a request: it is counted, and so is its duration. -/
def recordRequest (metrics : Metrics) (method : String) (status : Nat) : Metrics :=
  { metrics with
    requests := metrics.requests ++ [(method, status)]
    durations := metrics.durations ++ [method] }

/-- Records the size of a batch. -/
def recordBatch (metrics : Metrics) (size : Nat) : Metrics :=
  { metrics with batches := metrics.batches ++ [size] }

/-- How many requests were recorded with a method and a status. -/
def requestsTotal (metrics : Metrics) (method : String) (status : Nat) : Nat :=
  metrics.requests.count (method, status)

/-- How many durations were recorded with a method. -/
def durationCount (metrics : Metrics) (method : String) : Nat :=
  metrics.durations.count method

/-- How many batches were recorded. -/
def batchCount (metrics : Metrics) : Nat := metrics.batches.length

/-- The sum of the sizes of batches, kept as a double. -/
def batchSum (metrics : Metrics) : Nat :=
  metrics.batches.foldl
    (fun total size => Binary64.nearestNat (total + Binary64.nearestNat size)) 0

/-! ## Samples -/

/-- A label value: quotes and line feeds are escaped, and of two backslashes in a row the first one is taken
for the escape of the second. -/
def labelChars : List Char → List Char
  | [] => []
  | ['\\'] => ['\\', '\\']
  | '\\' :: '\\' :: cs => '\\' :: '\\' :: labelChars cs
  | '\\' :: '"' :: cs => '\\' :: '"' :: labelChars cs
  | '\\' :: '\n' :: cs => '\\' :: 'n' :: labelChars ('\\' :: cs)
  | '\\' :: c :: cs => '\\' :: '\\' :: c :: labelChars cs
  | '"' :: cs => '\\' :: '"' :: labelChars cs
  | '\n' :: cs => '\\' :: 'n' :: labelChars cs
  | c :: cs => c :: labelChars cs
  termination_by cs => cs.length

/-- A label with its value. -/
def label (name value : String) : String :=
  name ++ "=\"" ++ String.ofList (labelChars value.toList) ++ "\""

/-- The samples of requests by method and status. -/
def requestLines (metrics : Metrics) : List String :=
  metrics.requests.eraseDups.map fun (method, status) =>
    "graphql_http_requests_total\x7b" ++ label "method" method ++ ","
      ++ label "status" (toString status) ++ "\x7d "
      ++ toString (metrics.requestsTotal method status)

/-- The samples of durations by method. -/
def durationLines (metrics : Metrics) : List String :=
  metrics.durations.eraseDups.map fun method =>
    "graphql_http_request_duration_seconds_count\x7b" ++ label "method" method ++ "\x7d "
      ++ toString (metrics.durationCount method)

/-- The samples of batches. -/
def batchLines (metrics : Metrics) : List String :=
  if metrics.batches.isEmpty then []
  else
    ["graphql_batch_size_count " ++ toString metrics.batchCount,
     "graphql_batch_size_sum " ++ Decimal.wholeText metrics.batchSum]

/-- The samples in ascending order. -/
def lines (metrics : Metrics) : List String :=
  (metrics.requestLines ++ metrics.durationLines ++ metrics.batchLines).mergeSort fun a b => a ≤ b

end Metrics

end QueryGateway.Server
