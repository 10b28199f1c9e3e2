import Mathlib.Algebra.Order.Ring.Unbundled.Rat
import Mathlib.Algebra.Ring.Nat
import Mathlib.Data.List.DropRight
import Mathlib.Data.Rat.Floor
import Mathlib.Data.String.Basic
import MorningstarModbus.Domain.Models
import MorningstarModbus.Lib.Dict
import MorningstarModbus.Lib.Query
import MorningstarModbus.Lib.Timestamp

/-!
# MorningstarModbus.Polling.Service

Polling performance (`polling/service.py`): the samples of polls, the benchmark
of an interval, the limit on persistence, and the selection of an interval.

`datetime.fromisoformat` and the format `:g` of a float are parameters.
-/

namespace MorningstarModbus

open Calendar Query

structure PollingEnv where
  /-- `datetime.fromisoformat`, `none` where it raises `ValueError` -/
  fromisoformat : String → Option Timestamp
  /-- `f"{x:g}"` -/
  general : ℚ → String

/-! ## samples -/

/-- `_frame_size` -/
def frameSize (hexPayload : String) : Nat := hexPayload.length / 2

/-- `estimate_rtu_wire_time_ms` -/
def estimateRtuWireTimeMs (requestBytes responseBytes requestCount baudrate stopBits : Nat) : ℚ :=
  if baudrate = 0 ∨ requestCount = 0 then 0
  else
    let bitsPerCharacter : ℚ := 1 + 8 + stopBits
    let frameBits := (requestBytes + responseBytes) * bitsPerCharacter
    let silentGapBits := requestCount * 7 * bitsPerCharacter
    (frameBits + silentGapBits) / baudrate * 1000

structure PollPerformanceSample where
  observedAt : String
  transport : Transport
  configuredIntervalSeconds : ℚ
  pollLatencyMs : ℚ
  requestCount : Nat
  successfulRequests : Nat
  failedRequests : Nat
  requestBytes : Nat
  responseBytes : Nat
  estimatedWireTimeMs : Option ℚ
  busUtilizationPercent : Option ℚ
  deadlineMissed : Bool
  success : Bool
  error : String := ""
  deriving DecidableEq

def PollPerformanceSample.totalBytes (s : PollPerformanceSample) : Nat :=
  s.requestBytes + s.responseBytes

structure PollTrafficTracker where
  transport : Transport
  baudrate : Option Nat
  stopBits : Nat
  exchanges : List ModbusExchange := []
  deriving DecidableEq

namespace PollTrafficTracker

/-- `begin` -/
def beginPoll (t : PollTrafficTracker) : PollTrafficTracker := { t with exchanges := [] }

def record (exchange : ModbusExchange) (t : PollTrafficTracker) : PollTrafficTracker :=
  { t with exchanges := t.exchanges ++ [exchange] }

/-- The wire time of a serial poll and its share of the interval. -/
def wireTime (interval : ℚ) (t : PollTrafficTracker) : Option ℚ × Option ℚ :=
  let requestBytes := (t.exchanges.map fun e => frameSize e.requestHex).sum
  let responseBytes := (t.exchanges.map fun e => frameSize e.responseHex).sum
  match t.transport, t.baudrate with
  | .serial, some baudrate =>
      if baudrate = 0 then (none, none)
      else
        let wireTimeMs := estimateRtuWireTimeMs requestBytes responseBytes t.exchanges.length
          baudrate t.stopBits
        (some wireTimeMs,
          if 0 < interval then some (wireTimeMs / (interval * 1000) * 100) else none)
  | _, _ => (none, none)

/-- `finish` -/
def finish (now : Timestamp) (interval latencyMs : ℚ) (success : Bool) (error : String)
    (t : PollTrafficTracker) : PollPerformanceSample :=
  let successful := (t.exchanges.filter fun e => e.errorType = "").length
  { observedAt := now.isoformat
    transport := t.transport
    configuredIntervalSeconds := interval
    pollLatencyMs := latencyMs
    requestCount := t.exchanges.length
    successfulRequests := successful
    failedRequests := t.exchanges.length - successful
    requestBytes := (t.exchanges.map fun e => frameSize e.requestHex).sum
    responseBytes := (t.exchanges.map fun e => frameSize e.responseHex).sum
    estimatedWireTimeMs := (t.wireTime interval).1
    busUtilizationPercent := (t.wireTime interval).2
    deadlineMissed := interval * 1000 < latencyMs
    success
    error := String.ofList (error.toList.take 1000) }

end PollTrafficTracker

/-! ## benchmark -/

/-- `percentile` -/
def percentile (values : List ℚ) (fraction : ℚ) : Option ℚ :=
  let ordered := orderBy id .asc values
  if ordered.length ≤ 1 then ordered.head?
  else do
    let position := ((ordered.length - 1 : Nat) : ℚ) * fraction
    let lower := position.floor.toNat
    let upper := min (lower + 1) (ordered.length - 1)
    let weight := position - lower
    return (← ordered[lower]?) * (1 - weight) + (← ordered[upper]?) * weight

structure BenchmarkThresholds where
  minSuccessRate : ℚ := 98 / 100
  maxP95IntervalRatio : ℚ := 80 / 100
  maxDeadlineMissRate : ℚ := 5 / 100
  maxRequestFailureRate : ℚ := 2 / 100
  maxBusUtilizationPercent : ℚ := 70

structure PerformanceSummary where
  samples : Nat := 0
  successRate : ℚ := 0
  pollRateHz : ℚ := 0
  pollLatencyP50Ms : Option ℚ := none
  pollLatencyP95Ms : Option ℚ := none
  pollLatencyP99Ms : Option ℚ := none
  deadlineMisses : Nat := 0
  deadlineMissRate : ℚ := 0
  requestCount : Nat := 0
  requestFailureRate : ℚ := 0
  modbusRequestsPerSecond : ℚ := 0
  modbusBytesPerSecond : ℚ := 0
  busUtilizationPercent : Option ℚ := none
  busUtilizationMaxPercent : Option ℚ := none
  deriving DecidableEq

/-- `(max(timestamps) - min(timestamps)).total_seconds()` of the times that parse. -/
def durationSeconds (env : PollingEnv) (samples : List PollPerformanceSample) : ℚ :=
  let instants := (samples.filterMap fun s => env.fromisoformat s.observedAt).map Timestamp.instant
  match instants.max?, instants.min? with
  | some last, some first => ((last : ℚ) - first) / 1000000
  | _, _ => 0

/-- `summarize_performance` -/
def summarizePerformance (env : PollingEnv) (samples : List PollPerformanceSample) :
    PerformanceSummary :=
  if samples.isEmpty then {}
  else
    let latencies := samples.map PollPerformanceSample.pollLatencyMs
    let deadlineMisses := samples.countP PollPerformanceSample.deadlineMissed
    let requestCount := (samples.map PollPerformanceSample.requestCount).sum
    let failedRequests := (samples.map PollPerformanceSample.failedRequests).sum
    let totalBytes := (samples.map PollPerformanceSample.totalBytes).sum
    let busValues := samples.filterMap PollPerformanceSample.busUtilizationPercent
    let duration := durationSeconds env samples
    let perSecond (x : ℚ) : ℚ := if 0 < duration then x / duration else 0
    { samples := samples.length
      successRate := samples.countP PollPerformanceSample.success / samples.length
      pollRateHz := perSecond (samples.length - 1)
      pollLatencyP50Ms := percentile latencies (50 / 100)
      pollLatencyP95Ms := percentile latencies (95 / 100)
      pollLatencyP99Ms := percentile latencies (99 / 100)
      deadlineMisses
      deadlineMissRate := deadlineMisses / samples.length
      requestCount
      requestFailureRate := if requestCount = 0 then 0 else failedRequests / requestCount
      modbusRequestsPerSecond := perSecond requestCount
      modbusBytesPerSecond := perSecond totalBytes
      busUtilizationPercent :=
        if busValues.isEmpty then none else some (busValues.sum / busValues.length)
      busUtilizationMaxPercent := busValues.max? }

structure BenchmarkStage where
  intervalSeconds : ℚ
  passed : Bool
  summary : PerformanceSummary
  reasons : List String
  deriving DecidableEq

/-- The criteria of a stage in their order, each with its reason to fail. -/
def benchmarkCriteria (interval : ℚ) (summary : PerformanceSummary)
    (thresholds : BenchmarkThresholds) : List (Bool × String) :=
  [ (summary.successRate < thresholds.minSuccessRate, "poll success rate below threshold"),
    (match summary.pollLatencyP95Ms with
      | none => true
      | some p95 => interval * 1000 * thresholds.maxP95IntervalRatio < p95,
      "p95 poll latency leaves insufficient interval headroom"),
    (thresholds.maxDeadlineMissRate < summary.deadlineMissRate,
      "deadline-miss rate above threshold"),
    (thresholds.maxRequestFailureRate < summary.requestFailureRate,
      "Modbus request failure rate above threshold"),
    (summary.busUtilizationMaxPercent.any fun bus => thresholds.maxBusUtilizationPercent < bus,
      "estimated RTU bus utilization above threshold") ]

/-- `evaluate_benchmark_stage` -/
def evaluateBenchmarkStage (env : PollingEnv) (interval : ℚ) (samples : List PollPerformanceSample)
    (thresholds : BenchmarkThresholds) : BenchmarkStage :=
  let summary := summarizePerformance env samples
  let reasons := ((benchmarkCriteria interval summary thresholds).filter Prod.fst).map Prod.snd
  { intervalSeconds := interval, passed := reasons.isEmpty, summary, reasons }

/-! ## persistence -/

structure PollPersistenceLimiter where
  intervalSeconds : ℚ
  lastWrite : Dict String ℚ := Dict.empty

namespace PollPersistenceLimiter

/-- `__init__` -/
def create (intervalSeconds : ℚ) : Except String PollPersistenceLimiter :=
  if intervalSeconds ≤ 0 then .error "persistence interval must be positive"
  else .ok { intervalSeconds }

/-- `should_persist` -/
def shouldPersist (now : ℚ) (controllerId : String) (l : PollPersistenceLimiter) :
    Bool × PollPersistenceLimiter :=
  if (l.lastWrite controllerId).any fun previous => now - previous < l.intervalSeconds then
    (false, l)
  else (true, { l with lastWrite := l.lastWrite.set controllerId now })

end PollPersistenceLimiter

/-! ## interval selection -/

structure AutoPollIntervalController where
  /-- from slow to fast -/
  intervalsSeconds : List ℚ
  samplesPerInterval : Nat
  thresholds : BenchmarkThresholds
  fallbackIntervalSeconds : ℚ
  stageIndex : Nat := 0
  lastSafeInterval : Option ℚ := none
  lockedInterval : Option ℚ := none
  samples : Dict String (List PollPerformanceSample) := Dict.empty

inductive AutoPollError where
  | value (message : String)
  /-- `IndexError` of the stage index -/
  | index
  deriving DecidableEq

namespace AutoPollIntervalController

/-- `__init__` -/
def create (intervalsSeconds : List ℚ) (samplesPerInterval : Int)
    (thresholds : BenchmarkThresholds) (fallbackIntervalSeconds : ℚ) :
    Except AutoPollError AutoPollIntervalController :=
  match intervalsSeconds.max? with
  | none => .error (.value "auto polling requires at least one interval")
  | some slowest =>
      if samplesPerInterval < 3 then
        .error (.value "auto polling requires at least three samples per interval")
      else if fallbackIntervalSeconds < slowest then
        .error (.value "auto polling fallback must be at least as slow as the first interval")
      else .ok
        { intervalsSeconds := orderBy id .desc
            (Table.distinct (intervalsSeconds ++ [fallbackIntervalSeconds]))
          samplesPerInterval := samplesPerInterval.toNat
          thresholds
          fallbackIntervalSeconds }

/-- `current_interval_seconds` -/
def currentIntervalSeconds (c : AutoPollIntervalController) : Option ℚ :=
  match c.lockedInterval with
  | some locked => some locked
  | none => c.intervalsSeconds[c.stageIndex]?

def calibrating (c : AutoPollIntervalController) : Bool := c.lockedInterval.isNone

def reset (c : AutoPollIntervalController) : AutoPollIntervalController :=
  { c with stageIndex := 0, lastSafeInterval := none, lockedInterval := none,
           samples := Dict.empty }

/-- `_samples.get(controller_id, ())` -/
def samplesOf (c : AutoPollIntervalController) (controllerId : String) :
    List PollPerformanceSample :=
  (c.samples controllerId).getD []

/-- The loop over the controllers appends to the list of each. -/
def collect (samples : Dict String PollPerformanceSample) (controllerIds : List String)
    (c : AutoPollIntervalController) : AutoPollIntervalController :=
  { c with
    samples := fun id =>
      if id ∈ controllerIds then
        match samples id with
        | some sample => some (c.samplesOf id ++ [sample])
        | none => c.samples id
      else c.samples id }

/-- Every controller of the set has its samples. -/
def ready (controllerIds : List String) (c : AutoPollIntervalController) : Bool :=
  controllerIds.all fun id => c.samplesPerInterval ≤ (c.samplesOf id).length

/-- The stage of one controller, over its last samples. -/
def stage (env : PollingEnv) (interval : ℚ) (c : AutoPollIntervalController)
    (controllerId : String) : BenchmarkStage :=
  evaluateBenchmarkStage env interval ((c.samplesOf controllerId).rtake c.samplesPerInterval)
    c.thresholds

/-- The failures in the order of the controllers. -/
def failures (env : PollingEnv) (interval : ℚ) (controllerIds : List String)
    (c : AutoPollIntervalController) : List String :=
  (orderBy id .asc (Table.distinct controllerIds)).filterMap fun id =>
    let stage := c.stage env interval id
    if stage.passed then none else some (id ++ ": " ++ ", ".intercalate stage.reasons)

/-- `self._last_safe_interval or self.fallback_interval_seconds` -/
def safeOrFallback (c : AutoPollIntervalController) : ℚ :=
  match c.lastSafeInterval with
  | some safe => if safe = 0 then c.fallbackIntervalSeconds else safe
  | none => c.fallbackIntervalSeconds

/-- What `observe` does once every controller has its samples. -/
def conclude (env : PollingEnv) (interval : ℚ) (controllerIds : List String)
    (c : AutoPollIntervalController) : AutoPollIntervalController × String :=
  let failures := c.failures env interval controllerIds
  let cleared := { c with samples := Dict.empty }
  if failures ≠ [] then
    ({ cleared with lockedInterval := some c.safeOrFallback },
      "auto polling stopped at " ++ env.general interval ++ "s; using " ++
        env.general c.safeOrFallback ++ "s because " ++ "; ".intercalate failures)
  else
    let safe := { cleared with lastSafeInterval := some interval }
    match c.intervalsSeconds[c.stageIndex + 1]? with
    | some next =>
        ({ safe with stageIndex := c.stageIndex + 1 },
          "auto polling stage " ++ env.general interval ++ "s passed; testing " ++
            env.general next ++ "s")
    | none =>
        ({ safe with lockedInterval := some interval },
          "auto polling selected " ++ env.general interval ++
            "s after all configured stages passed")

/-- `observe` -/
def observe (env : PollingEnv) (samples : Dict String PollPerformanceSample)
    (controllerIds : List String) (c : AutoPollIntervalController) :
    Except AutoPollError (AutoPollIntervalController × Option String) :=
  if c.lockedInterval.isSome ∨ controllerIds = [] then .ok (c, none)
  else
    let c := c.collect samples controllerIds
    if ¬ c.ready controllerIds then .ok (c, none)
    else match c.currentIntervalSeconds with
      | none => .error .index
      | some interval =>
          let (c, message) := c.conclude env interval controllerIds
          .ok (c, some message)

end AutoPollIntervalController

end MorningstarModbus
