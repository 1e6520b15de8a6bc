import InjectingProxy.Metrics.Ledger
import InjectingProxy.Number.Shortest

/-!
# The ledger as text

The ledger is read by a monitoring system as lines of text: two lines that describe each metric, and
a line for each of its samples.

## What is here

* `Exposition.bounds`: the bounds of the latency buckets, in seconds.
* `Sample`, `Exposition.samples`: the samples of a ledger in their order.
* `Exposition.lines`: all lines.
-/

set_option autoImplicit false

namespace InjectingProxy
namespace Exposition

/-- The bounds of the latency buckets, in seconds. -/
def bounds : List Float :=
  [0.005, 0.01, 0.025, 0.05, 0.075, 0.1, 0.25, 0.5, 0.75, 1.0, 2.5, 5.0, 7.5, 10.0]

/-- An exponent with at least two figures. -/
def exponentText (n : Nat) : String := (if n < 10 then "e+0" else "e+") ++ toString n

/-- The text of a number: the shortest one, but from a million on with an exponent, and infinities
in their own spelling. -/
def numberText (x : Float) : String :=
  if x.isNaN then "NaN"
  else if x.isInf then if 0 < x then "+Inf" else "-Inf"
  else
    let digits := (shortest x).toList
    let whole := digits.takeWhile (· != '.')
    if 0 < x && whole.length < digits.length && 6 < whole.length then
      let mantissa := whole.take 1 ++ '.' :: whole.drop 1 ++ digits.drop (whole.length + 1)
      let kept := (mantissa.reverse.dropWhile fun c => c == '0' || c == '.').reverse
      String.ofList kept ++ exponentText (whole.length - 1)
    else shortest x

/-- The text of a count. -/
def countText (n : Nat) : String := numberText (Float.ofNat n)

/-- The text of a bound. -/
def boundText : Bound Float → String
  | .upTo limit => numberText limit
  | .unbounded => "+Inf"

/-- A value of a metric, with the labels that set it apart. -/
structure Sample where
  name : String
  labels : List (String × String)
  value : String

/-- The name of the counter of outcomes. -/
def outcomeMetric : String := "faultproxy_requests_total"

/-- The name of the gauge of requests in flight. -/
def inFlightMetric : String := "faultproxy_in_flight_requests"

/-- The name of the histogram of latencies. -/
def latencyMetric : String := "faultproxy_request_latency_seconds"

/-- The samples of outcomes, in the order of their first use. -/
def outcomeSamples (l : Ledger Float) : List Sample :=
  l.totals.map fun (o, n) => ⟨outcomeMetric, [("outcome", o.name)], countText n⟩

/-- The sample of requests in flight. -/
def inFlightSamples (l : Ledger Float) : List Sample :=
  [⟨inFlightMetric, [], numberText (Float.ofInt l.inFlight)⟩]

/-- The samples of the latency: its buckets, its count and its sum. -/
def latencySamples (l : Ledger Float) : List Sample :=
  (l.latency.cumulative.map fun (b, n) =>
    ⟨latencyMetric ++ "_bucket", [("le", boundText b)], countText n⟩) ++
  [⟨latencyMetric ++ "_count", [], countText l.latency.count⟩,
    ⟨latencyMetric ++ "_sum", [], numberText l.latency.sum⟩]

/-- All samples of a ledger. -/
def samples (l : Ledger Float) : List Sample :=
  outcomeSamples l ++ inFlightSamples l ++ latencySamples l

/-- The two lines that describe a metric. -/
def describe (name description kind : String) : List String :=
  ["# HELP " ++ name ++ " " ++ description, "# TYPE " ++ name ++ " " ++ kind]

/-- The line of a sample. -/
def sampleLine (s : Sample) : String :=
  let labels :=
    if s.labels.isEmpty then ""
    else
      "\x7b" ++ ",".intercalate (s.labels.map fun (k, v) => k ++ "=\"" ++ v ++ "\"") ++ "\x7d"
  s.name ++ labels ++ " " ++ s.value

/-- All lines; the text ends with a line break, so that the last line is empty. -/
def lines (l : Ledger Float) : List String :=
  describe outcomeMetric "Requests handled by the proxy, by outcome" "counter" ++
    (outcomeSamples l).map sampleLine ++
    describe inFlightMetric "Number of requests in flight" "gauge" ++
    (inFlightSamples l).map sampleLine ++
    describe latencyMetric "Request latency in seconds, including body streaming" "histogram" ++
    (latencySamples l).map sampleLine ++ [""]

end Exposition
end InjectingProxy
