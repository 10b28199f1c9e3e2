import MorningstarModbus.Lib.IpNetwork
import MorningstarModbus.Lib.Loop
import MorningstarModbus.Lib.PyFloat
import MorningstarModbus.Lib.Text

/-!
# MorningstarModbus.Config.Settings

The settings of a TOML file and their checks (`config/settings.py`).  Floats are those of TOML,
with infinities and `nan`.

* `AppConfig.validate` — the checks in their order, each with its text;
* `validate_accepted` — what is known of settings that were accepted.
-/

namespace MorningstarModbus

/-! ## settings -/

/-- What TOML may give for `watch.poll_interval_seconds`. -/
inductive PollIntervalValue where
  | int (n : Int)
  | float (x : PyFloat)
  | text (s : String)
  /-- a boolean, a date, an array or a table -/
  | other
  deriving DecidableEq

/-- `PollInterval` -/
inductive PollInterval where
  | seconds (x : PyFloat)
  | auto
  deriving DecidableEq

structure DatabaseConfig where
  telemetryWriteIntervalSeconds : PyFloat := .finite 1
  deriving DecidableEq

structure StorageConfig where
  archiveDir : String := "./morningstar-archive"
  maintenanceIntervalSeconds : PyFloat := .finite 21600
  hotDays : Int := 7
  warmDays : Int := 30
  coolDays : Int := 180
  warmBucketSeconds : Int := 10
  coolBucketSeconds : Int := 60
  coldBucketSeconds : Int := 300
  archiveBatchRows : Int := 10000
  parquetCompressionLevel : Int := 19
  pruneArchivedRaw : Bool := true
  incrementalVacuumPages : Int := 2048
  deriving DecidableEq

structure WatchConfig where
  pollIntervalSeconds : PollIntervalValue := .float (.finite 5)
  discoveryIntervalSeconds : PyFloat := .finite 30
  unitIds : List Int := [1]
  maxTcpConcurrency : Int := 32
  failureThreshold : Int := 3
  retryBackoffInitialSeconds : PyFloat := .finite 2
  retryBackoffMaxSeconds : PyFloat := .finite 60
  deriving DecidableEq

structure PollBenchmarkConfig where
  intervalsSeconds : List PyFloat := [.finite 1, .finite (1 / 2), .finite (1 / 4)]
  samplesPerInterval : Int := 12
  minSuccessRate : PyFloat := .finite (98 / 100)
  maxP95IntervalRatio : PyFloat := .finite (80 / 100)
  maxDeadlineMissRate : PyFloat := .finite (5 / 100)
  maxRequestFailureRate : PyFloat := .finite (2 / 100)
  maxBusUtilizationPercent : PyFloat := .finite 70
  minimumIntervalSeconds : PyFloat := .finite (1 / 4)
  autoFallbackIntervalSeconds : PyFloat := .finite 5
  deriving DecidableEq

structure SerialConfig where
  enabled : Bool := true
  baudrate : Nat := 9600
  stopBits : Nat := 2
  ports : List String := []
  deriving DecidableEq

structure TcpConfig where
  enabled : Bool := true
  port : Nat := 502
  hosts : List String := []
  subnets : List String := []
  deriving DecidableEq

structure HistoryBackfillConfig where
  maxDays : Int := 200
  calendarTimezone : String := "local"
  httpPort : Int := 80
  httpPath : String := "/datalog.html"
  timeoutSeconds : PyFloat := .finite 3
  maxResponseBytes : Int := 1048576
  deriving DecidableEq

structure SystemApiConfig where
  defaultUid : String := "sys_default"
  defaultName : String := "default"
  deriving DecidableEq

structure SnmpTrapConfig where
  host : String := "127.0.0.1"
  port : Int := 9162
  maxPacketBytes : Int := 65507
  deriving DecidableEq

structure AppConfig where
  database : DatabaseConfig := {}
  storage : StorageConfig := {}
  watch : WatchConfig := {}
  pollBenchmark : PollBenchmarkConfig := {}
  serial : SerialConfig := {}
  tcp : TcpConfig := {}
  backfill : HistoryBackfillConfig := {}
  system : SystemApiConfig := {}
  snmp : SnmpTrapConfig := {}
  deriving DecidableEq

/-! ## checks -/

/-- What the checks take from the Python library. -/
structure ConfigEnv where
  /-- `str.lower()` -/
  lower : String → String
  /-- `ip_network(subnet, strict=False)` -/
  ipNetwork : String → Except String IpNetwork
  /-- `str(address)` -/
  addressText : IpVersion → Nat → String

/-- `if …: raise ValueError(…)` -/
def refuse (bad : Prop) [Decidable bad] (message : String) : Except String Unit :=
  if bad then .error message else .ok ()

/-- A check passes where there is nothing to refuse. -/
@[simp] theorem refuse_eq_ok {bad : Prop} [Decidable bad] {message : String} {u : Unit} :
    refuse bad message = .ok u ↔ ¬ bad := by
  unfold refuse
  split
  · case isTrue h => simp [h]
  · case isFalse h => simp [h]

/-- `_normalize_poll_interval` -/
def normalizePollInterval (env : ConfigEnv) : PollIntervalValue → Except String PollInterval
  | .text s =>
      if env.lower (Text.strip s) ≠ "auto" then
        .error "watch.poll_interval_seconds must be a positive number or \"auto\""
      else .ok .auto
  | .other => .error "watch.poll_interval_seconds must be a positive number or \"auto\""
  | .int n => positive (.ofInt n)
  | .float x => positive x
where
  positive (interval : PyFloat) : Except String PollInterval :=
    if PyFloat.le interval (.finite 0) then .error "watch.poll_interval_seconds must be positive"
    else .ok (.seconds interval)

def StorageConfig.check (storage : StorageConfig) : Except String Unit := do
  refuse (PyFloat.lt storage.maintenanceIntervalSeconds (.finite 60))
    "storage.maintenance_interval_seconds must be >= 60"
  refuse (¬ (1 ≤ storage.hotDays ∧ storage.hotDays ≤ storage.warmDays ∧
      storage.warmDays ≤ storage.coolDays))
    "storage retention tiers must satisfy hot_days <= warm_days <= cool_days"
  refuse (storage.warmBucketSeconds < 1) "storage.warm_bucket_seconds must be positive"
  refuse (storage.coolBucketSeconds < 1) "storage.cool_bucket_seconds must be positive"
  refuse (storage.coldBucketSeconds < 1) "storage.cold_bucket_seconds must be positive"
  refuse (¬ (storage.warmBucketSeconds ≤ storage.coolBucketSeconds ∧
      storage.coolBucketSeconds ≤ storage.coldBucketSeconds))
    "storage bucket sizes must increase from warm to cold"
  refuse (¬ (100 ≤ storage.archiveBatchRows ∧ storage.archiveBatchRows ≤ 1000000))
    "storage.archive_batch_rows must be within 100..1000000"
  refuse (¬ (1 ≤ storage.parquetCompressionLevel ∧ storage.parquetCompressionLevel ≤ 22))
    "storage.parquet_compression_level must be within 1..22"
  refuse (storage.incrementalVacuumPages < 1) "storage.incremental_vacuum_pages must be positive"
  refuse (Text.strip storage.archiveDir = "") "storage.archive_dir must not be empty"

/-- The checks of the watch settings that come after those of the storage. -/
def WatchConfig.check (watch : WatchConfig) : Except String Unit := do
  refuse (¬ ∀ unit ∈ watch.unitIds, 1 ≤ unit ∧ unit ≤ 247) "unit_ids must be within 1..247"
  refuse (¬ (1 ≤ watch.maxTcpConcurrency ∧ watch.maxTcpConcurrency ≤ 256))
    "max_tcp_concurrency must be within 1..256"
  refuse (watch.failureThreshold < 1) "failure_threshold must be positive"
  refuse (PyFloat.le watch.retryBackoffInitialSeconds (.finite 0))
    "retry_backoff_initial_seconds must be positive"
  refuse (PyFloat.lt watch.retryBackoffMaxSeconds watch.retryBackoffInitialSeconds)
    "retry_backoff_max_seconds must be >= retry_backoff_initial_seconds"

def HistoryBackfillConfig.check (backfill : HistoryBackfillConfig) : Except String Unit := do
  refuse (¬ (1 ≤ backfill.maxDays ∧ backfill.maxDays ≤ 200))
    "backfill.max_days must be within 1..200"
  refuse (Text.strip backfill.calendarTimezone = "")
    "backfill.calendar_timezone must not be empty"
  refuse (¬ (1 ≤ backfill.httpPort ∧ backfill.httpPort ≤ 65535))
    "backfill.http_port must be within 1..65535"
  refuse (¬ ['/'] <+: backfill.httpPath.toList) "backfill.http_path must start with /"
  refuse (¬ (backfill.httpPath.toList.all fun c => c.toNat < 128) ∨
      backfill.httpPath.toList.any fun c => c = '\r' ∨ c = '\n')
    "backfill.http_path must be ASCII and contain no line breaks"
  refuse (PyFloat.le backfill.timeoutSeconds (.finite 0))
    "backfill.timeout_seconds must be positive"
  refuse (¬ (16384 ≤ backfill.maxResponseBytes ∧ backfill.maxResponseBytes ≤ 8388608))
    "backfill.max_response_bytes must be between 16 KiB and 8 MiB"

/-- `[A-Za-z0-9_.:-]` -/
def isUidChar (c : Char) : Bool :=
  ('A' ≤ c && c ≤ 'Z') || ('a' ≤ c && c ≤ 'z') || ('0' ≤ c && c ≤ '9') ||
    c == '_' || c == '.' || c == ':' || c == '-'

def SystemApiConfig.check (system : SystemApiConfig) : Except String Unit := do
  refuse (¬ (system.defaultUid ≠ "" ∧ system.defaultUid.toList.all isUidChar))
    "system.default_uid must contain only letters, digits, _, ., :, or -"
  refuse (Text.strip system.defaultName = "") "system.default_name must not be empty"
  refuse (128 < system.defaultName.length) "system.default_name must be at most 128 characters"

def SnmpTrapConfig.check (snmp : SnmpTrapConfig) : Except String Unit := do
  refuse (¬ (1 ≤ snmp.port ∧ snmp.port ≤ 65535)) "snmp.port must be within 1..65535"
  refuse (Text.strip snmp.host = "") "snmp.host must not be empty"
  refuse (¬ (512 ≤ snmp.maxPacketBytes ∧ snmp.maxPacketBytes ≤ 65507))
    "snmp.max_packet_bytes must be within 512..65507"

/-- `max(…)` of floats, as Python goes through them. -/
def slowestInterval : List PyFloat → PyFloat
  | [] => .finite 0
  | x :: xs => xs.foldl PyFloat.max x

/-- `not 0.0 <= value <= 1.0` -/
def outsideUnit (value : PyFloat) : Prop :=
  ¬ (PyFloat.le (.finite 0) value ∧ PyFloat.le value (.finite 1))

instance (value : PyFloat) : Decidable (outsideUnit value) :=
  inferInstanceAs (Decidable (¬ _))

def PollBenchmarkConfig.check (benchmark : PollBenchmarkConfig) : Except String Unit := do
  refuse (PyFloat.le benchmark.minimumIntervalSeconds (.finite 0))
    "poll_benchmark.minimum_interval_seconds must be positive"
  refuse (benchmark.intervalsSeconds = [])
    "poll_benchmark.intervals_seconds must not be empty"
  refuse (∃ interval ∈ benchmark.intervalsSeconds,
      PyFloat.lt interval benchmark.minimumIntervalSeconds)
    "poll benchmark interval is below minimum_interval_seconds"
  refuse (benchmark.samplesPerInterval < 3) "poll_benchmark.samples_per_interval must be >= 3"
  refuse (PyFloat.le benchmark.autoFallbackIntervalSeconds (.finite 0))
    "poll_benchmark.auto_fallback_interval_seconds must be positive"
  refuse (PyFloat.lt benchmark.autoFallbackIntervalSeconds
      (slowestInterval benchmark.intervalsSeconds))
    "poll_benchmark.auto_fallback_interval_seconds must be >= the slowest benchmark interval"
  refuse (outsideUnit benchmark.minSuccessRate)
    "poll_benchmark.min_success_rate must be within 0..1"
  refuse (outsideUnit benchmark.maxP95IntervalRatio)
    "poll_benchmark.max_p95_interval_ratio must be within 0..1"
  refuse (outsideUnit benchmark.maxDeadlineMissRate)
    "poll_benchmark.max_deadline_miss_rate must be within 0..1"
  refuse (outsideUnit benchmark.maxRequestFailureRate)
    "poll_benchmark.max_request_failure_rate must be within 0..1"
  refuse (¬ (PyFloat.lt (.finite 0) benchmark.maxBusUtilizationPercent ∧
      PyFloat.le benchmark.maxBusUtilizationPercent (.finite 100)))
    "poll_benchmark.max_bus_utilization_percent must be within 0..100"

def TcpConfig.check (env : ConfigEnv) (tcp : TcpConfig) : Except String Unit :=
  tcp.subnets.forM fun subnet => do
    let network ← env.ipNetwork subnet
    refuse (4096 < network.numAddresses)
      ("refusing TCP discovery network larger than /20: " ++ subnet)

/-- `_validate`, which gives the poll interval that it normalizes. -/
def AppConfig.validate (env : ConfigEnv) (config : AppConfig) : Except String PollInterval := do
  let interval ← normalizePollInterval env config.watch.pollIntervalSeconds
  refuse (PyFloat.le config.watch.discoveryIntervalSeconds (.finite 0))
    "watch discovery interval must be positive"
  refuse (PyFloat.lt config.database.telemetryWriteIntervalSeconds (.finite 1))
    "database.telemetry_write_interval_seconds must be >= 1.0"
  config.storage.check
  config.watch.check
  config.backfill.check
  config.system.check
  config.snmp.check
  config.pollBenchmark.check
  config.tcp.check env
  return interval

/-! ## accepted settings -/

/-- What is known of settings that were accepted, with the interval that was normalized. -/
structure AppConfig.Accepted (env : ConfigEnv) (config : AppConfig) (interval : PollInterval) :
    Prop where
  interval : ∀ x, interval = .seconds x → PyFloat.le x (.finite 0) = false
  discovery : PyFloat.le config.watch.discoveryIntervalSeconds (.finite 0) = false
  writes : PyFloat.lt config.database.telemetryWriteIntervalSeconds (.finite 1) = false
  tiers : 1 ≤ config.storage.hotDays ∧ config.storage.hotDays ≤ config.storage.warmDays ∧
    config.storage.warmDays ≤ config.storage.coolDays
  units : ∀ unit ∈ config.watch.unitIds, 1 ≤ unit ∧ unit ≤ 247
  concurrency : 1 ≤ config.watch.maxTcpConcurrency ∧ config.watch.maxTcpConcurrency ≤ 256
  threshold : 1 ≤ config.watch.failureThreshold
  backoff : PyFloat.le config.watch.retryBackoffInitialSeconds (.finite 0) = false ∧
    PyFloat.lt config.watch.retryBackoffMaxSeconds config.watch.retryBackoffInitialSeconds = false
  minimum : PyFloat.le config.pollBenchmark.minimumIntervalSeconds (.finite 0) = false
  stages : config.pollBenchmark.intervalsSeconds ≠ [] ∧
    ∀ x ∈ config.pollBenchmark.intervalsSeconds,
      PyFloat.lt x config.pollBenchmark.minimumIntervalSeconds = false
  samples : 3 ≤ config.pollBenchmark.samplesPerInterval
  fallback : PyFloat.lt config.pollBenchmark.autoFallbackIntervalSeconds
    (slowestInterval config.pollBenchmark.intervalsSeconds) = false
  subnets : ∀ subnet ∈ config.tcp.subnets, ∃ network, env.ipNetwork subnet = .ok network ∧
    network.numAddresses ≤ 4096

section Accepted

variable {env : ConfigEnv}

/-- A fixed interval that was accepted is positive; a NaN is none. -/
theorem normalizePollInterval_positive {value : PollIntervalValue} {interval : PollInterval}
    (h : normalizePollInterval env value = .ok interval) (x : PyFloat)
    (hx : interval = .seconds x) : PyFloat.le x (.finite 0) = false := by
  have hpositive : ∀ y, normalizePollInterval.positive y = .ok interval →
      PyFloat.le x (.finite 0) = false := by
    intro y hy
    unfold normalizePollInterval.positive at hy
    split at hy
    · cases hy
    · case isFalse hle =>
        rw [Except.ok.injEq, hx, PollInterval.seconds.injEq] at hy
        rw [← hy]
        exact Bool.eq_false_iff.mpr hle
  unfold normalizePollInterval at h
  split at h
  · split at h
    · cases h
    · rw [Except.ok.injEq] at h
      rw [← h] at hx
      cases hx
  · cases h
  · exact hpositive _ h
  · exact hpositive _ h

/-- Retention times come in the order of their tiers. -/
theorem StorageConfig.tiers_of_check {storage : StorageConfig} (h : storage.check = .ok ()) :
    1 ≤ storage.hotDays ∧ storage.hotDays ≤ storage.warmDays ∧
      storage.warmDays ≤ storage.coolDays := by
  simp only [check, Loop.bind_eq_ok, refuse_eq_ok, not_not, exists_const] at h
  exact h.2.1

/-- What the checks of `watch` leave of it, comparisons as Python makes them. -/
theorem WatchConfig.of_check {watch : WatchConfig} (h : watch.check = .ok ()) :
    (∀ unit ∈ watch.unitIds, 1 ≤ unit ∧ unit ≤ 247) ∧
      (1 ≤ watch.maxTcpConcurrency ∧ watch.maxTcpConcurrency ≤ 256) ∧
      1 ≤ watch.failureThreshold ∧
      PyFloat.le watch.retryBackoffInitialSeconds (.finite 0) = false ∧
      PyFloat.lt watch.retryBackoffMaxSeconds watch.retryBackoffInitialSeconds = false := by
  simp only [check, Loop.bind_eq_ok, refuse_eq_ok, not_not, exists_const, not_lt,
    Bool.not_eq_true] at h
  exact h

/-- The same of `poll_benchmark`. -/
theorem PollBenchmarkConfig.of_check {benchmark : PollBenchmarkConfig}
    (h : benchmark.check = .ok ()) :
    PyFloat.le benchmark.minimumIntervalSeconds (.finite 0) = false ∧
      benchmark.intervalsSeconds ≠ [] ∧
      (∀ x ∈ benchmark.intervalsSeconds,
        PyFloat.lt x benchmark.minimumIntervalSeconds = false) ∧
      3 ≤ benchmark.samplesPerInterval ∧
      PyFloat.lt benchmark.autoFallbackIntervalSeconds
        (slowestInterval benchmark.intervalsSeconds) = false := by
  simp only [check, Loop.bind_eq_ok, refuse_eq_ok, exists_const, not_lt, not_exists, not_and,
    Bool.not_eq_true] at h
  obtain ⟨hminimum, hne, hstages, hsamples, -, hfallback, -⟩ := h
  exact ⟨hminimum, hne, hstages, hsamples, hfallback⟩

/-- Every subnet can be read, and is small enough to sweep. -/
theorem TcpConfig.of_check {tcp : TcpConfig} (h : tcp.check env = .ok ()) :
    ∀ subnet ∈ tcp.subnets, ∃ network, env.ipNetwork subnet = .ok network ∧
      network.numAddresses ≤ 4096 := by
  unfold check at h
  generalize tcp.subnets = subnets at h
  induction subnets with
  | nil => simp
  | cons subnet subnets ih =>
      simp only [List.forM_eq_forM, List.forM_cons, Loop.bind_eq_ok, refuse_eq_ok, exists_const,
        not_lt] at h ih
      obtain ⟨⟨network, hnetwork, hsize⟩, hrest⟩ := h
      intro other hother
      cases List.mem_cons.mp hother with
      | inl heq => exact ⟨network, heq ▸ hnetwork, hsize⟩
      | inr hmem => exact ih hrest other hmem

/-- What `_validate` lets through satisfies all of its checks at once. -/
theorem validate_accepted {config : AppConfig} {interval : PollInterval}
    (h : config.validate env = .ok interval) : config.Accepted env interval := by
  simp only [AppConfig.validate, Loop.bind_eq_ok, refuse_eq_ok, exists_const, Loop.pure_eq_ok,
    Except.ok.injEq, Bool.not_eq_true] at h
  obtain ⟨value, hvalue, hdiscovery, hwrites, _, hstorage, _, hwatch, _, _, _, _, _, _, _,
    hbenchmark, _, htcp, rfl⟩ := h
  obtain ⟨hunits, hconcurrency, hthreshold, hbackoff⟩ := WatchConfig.of_check hwatch
  obtain ⟨hminimum, hne, hstages, hsamples, hfallback⟩ := PollBenchmarkConfig.of_check hbenchmark
  exact {
    interval := normalizePollInterval_positive hvalue
    discovery := hdiscovery
    writes := hwrites
    tiers := StorageConfig.tiers_of_check hstorage
    units := hunits
    concurrency := hconcurrency
    threshold := hthreshold
    backoff := hbackoff
    minimum := hminimum
    stages := ⟨hne, hstages⟩
    samples := hsamples
    fallback := hfallback
    subnets := TcpConfig.of_check htcp }

end Accepted

/-- The defaults pass their checks. -/
theorem validate_default (env : ConfigEnv) :
    ({} : AppConfig).validate env = .ok (.seconds (.finite 5)) := by
  have hstorage : ({} : StorageConfig).check = .ok () := by decide +kernel
  have hwatch : ({} : WatchConfig).check = .ok () := by decide +kernel
  have hbackfill : ({} : HistoryBackfillConfig).check = .ok () := by decide +kernel
  have hsystem : ({} : SystemApiConfig).check = .ok () := by decide +kernel
  have hsnmp : ({} : SnmpTrapConfig).check = .ok () := by decide +kernel
  have hbenchmark : ({} : PollBenchmarkConfig).check = .ok () := by decide +kernel
  have hinterval : normalizePollInterval.positive (.finite 5) = .ok (.seconds (.finite 5)) := by
    decide +kernel
  have hdiscovery : refuse (PyFloat.le (.finite 30) (.finite 0))
      "watch discovery interval must be positive" = .ok () := by decide +kernel
  have hwrites : refuse (PyFloat.lt (.finite 1) (.finite 1))
      "database.telemetry_write_interval_seconds must be >= 1.0" = .ok () := by decide +kernel
  simp only [AppConfig.validate, normalizePollInterval, hinterval, hdiscovery, hwrites, hstorage,
    hwatch, hbackfill, hsystem, hsnmp, hbenchmark, Loop.ok_bind]
  rfl

end MorningstarModbus
