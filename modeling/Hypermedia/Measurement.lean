import Hypermedia.Json.Basic
/-!
# Measurements

Exchanges are counted by method and status and timed by method; the fetches of associations and the answers from a
proxy's memory are counted by relation.  An exchange without an answer has the status zero.
-/
namespace Hypermedia

inductive Measurement where
  /-- An exchange that took so many milliseconds. -/
  | exchange (method : String) (status milliseconds : Nat)
  /-- An association was asked from the server. -/
  | fetch (relation : String)
  /-- An association was answered from memory. -/
  | hit (relation : String)
  deriving DecidableEq

namespace Measurement

inductive Metric where
  | requests
  | durations
  | fetches
  | hits
  deriving DecidableEq

def metrics : List Metric := [.requests, .durations, .fetches, .hits]

def Metric.name : Metric → String
  | .requests => "hal_client_requests_total"
  | .durations => "hal_client_request_duration_seconds"
  | .fetches => "hal_client_association_fetches_total"
  | .hits => "hal_client_association_cache_hits_total"

def Metric.description : Metric → String
  | .requests => "counter: Total number of HTTP requests issued by the client"
  | .durations => "histogram: HTTP request duration in seconds"
  | .fetches => "counter: Linked associations fetched from the server"
  | .hits => "counter: Linked associations served from a proxy's cache"

structure Series where
  metric : Metric
  labels : List (String × String)
  deriving DecidableEq

def Series.text (s : Series) : String :=
  s.metric.name ++ "\x7b" ++ ",".intercalate (s.labels.map fun l => l.1 ++ "=" ++ l.2) ++ "\x7d"

def series : Measurement → List Series
  | .exchange method status _ =>
    [⟨.requests, [("method", method), ("status", String.ofList (Nat.toDigits 10 status))]⟩,
      ⟨.durations, [("method", method)]⟩]
  | .fetch relation => [⟨.fetches, [("rel", relation)]⟩]
  | .hit relation => [⟨.hits, [("rel", relation)]⟩]

/-- A time in seconds: the whole seconds, and the rest as a fraction in nanoseconds, each rounded. -/
def seconds (milliseconds : Nat) : Number.Double :=
  let sum := do
    let whole ← Number.Double.ofNat? (milliseconds / 1000)
    let rest ← (← Number.Double.ofNat? (milliseconds % 1000 * 1000000)).div? (← Number.Double.ofNat? 1000000000)
    whole.add? rest
  sum.getD .zero

/-- What was measured in a series: how often, and the seconds together. -/
structure Reading where
  count : Nat
  total : Number.Double

def Reading.add (r : Reading) (m : Measurement) : Reading :=
  match m with
  | .exchange _ _ ms => ⟨r.count + 1, (r.total.add? (seconds ms)).getD r.total⟩
  | _ => ⟨r.count + 1, r.total⟩

def reading (ms : List Measurement) (s : Series) : Reading :=
  (ms.filter fun m => s ∈ m.series).foldl Reading.add ⟨0, .zero⟩

/-- Every series with its reading, in the order of the first measurements. -/
def readings (ms : List Measurement) : List (Series × Reading) :=
  (ms.flatMap series).eraseDups.map fun s => (s, reading ms s)

def fetchCount (ms : List Measurement) (relation : String) : Nat := ms.count (.fetch relation)

def hitCount (ms : List Measurement) (relation : String) : Nat := ms.count (.hit relation)

end Measurement
end Hypermedia
