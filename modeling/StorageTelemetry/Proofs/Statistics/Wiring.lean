import StorageTelemetry.Cache.Series
import StorageTelemetry.Json.Lookup
import StorageTelemetry.Proofs.Records

namespace StorageTelemetry

/-!
# What each series is made from

For every series of an entity it is written down here, by the names that are
used in documents, which raw counters it is made from on a legacy system and by
which formula, and which sampled series it is read from on a bulk system and in
which unit.  On its way from a document to an exported series a value passes
through several lists that only agree by the order of their entries; that they
do agree is what the wiring says.
-/

/-! ## Raw counters -/

/-- A counter by its keys in the statistics of a legacy system: one of a window
of input and output counters, or one of a storage pool. -/
inductive RawField
  | ofWindow (window counter : String)
  | ofPool (counter : String)
deriving DecidableEq

/-- The member that a record gives under a name, if the document is such a
record. -/
def Json.member? (title : String) (names : List String) (name : String) (document : Json) :
    Option Json :=
  match document.record title names with
  | .ok record => record.get? name
  | .error _ => none

/-- The number in a document, zero if there is none. -/
def numberIn : Option Json → Nat
  | some document =>
      match document.word with
      | .ok word => word.toNat
      | .error _ => 0
  | none => 0

/-- The number that statistics give for a counter, zero if they leave it out. -/
def RawField.read (document : Json) : RawField → Nat
  | ofWindow window counter =>
      numberIn ((document.member? "struct IoCounters" IoCounters.keys window).bind
        (Json.member? "struct Bwc" Window.keys counter))
  | ofPool counter =>
      numberIn (document.member? "struct StoragePoolCounters" PoolCounters.keys counter)

/-! ## Reading documents -/

/-- A word is the number in what is given for it. -/
theorem Record.numberIn_get? {record : Record Json} {name : String} {word : UInt64}
    (ended : record.read name Json.word 0 = .ok word) :
    numberIn (record.get? name) = word.toNat := by
  rcases Record.read_eq_ok ended with ⟨absent, rfl⟩ | ⟨given, found, same⟩
  · rw [absent]
    rfl
  · rw [found, numberIn, same]

/-- The counter of a window under its key. -/
def Window.counter? (window : Window) : String → Option UInt64
  | "numOccurrences" => some window.occurrences
  | "numSeconds" => some window.seconds
  | "totalWeightInKb" => some window.weightInKb
  | _ => none

/-- The counters of a window are the numbers in its document. -/
theorem Window.numberIn_member? {document : Json} {window : Window}
    (read : Window.ofJson document = .ok window) {counter : String} {word : UInt64}
    (known : window.counter? counter = some word) :
    numberIn (document.member? "struct Bwc" Window.keys counter) = word.toNat := by
  rcases bind_eq_ok_iff.mp read with ⟨record, opened, read⟩
  rcases bind_eq_ok_iff.mp read with ⟨occurrences, first, read⟩
  rcases bind_eq_ok_iff.mp read with ⟨seconds, second, read⟩
  rcases bind_eq_ok_iff.mp read with ⟨weightInKb, third, read⟩
  cases read
  rw [Json.member?, opened]
  unfold Window.counter? at known
  split at known <;> cases known
  · exact Record.numberIn_get? first
  · exact Record.numberIn_get? second
  · exact Record.numberIn_get? third

/-- The window of input and output counters under its key. -/
def IoCounters.window? (counters : IoCounters) : String → Option Window
  | "userDataReadBwc" => some counters.read
  | "userDataWriteBwc" => some counters.write
  | "userDataSdcReadLatency" => some counters.readLatency
  | "userDataSdcWriteLatency" => some counters.writeLatency
  | _ => none

/-- The counters of all windows are the numbers in the document. -/
theorem IoCounters.read_ofWindow {document : Json} {counters : IoCounters}
    (read : IoCounters.ofJson document = .ok counters) {key counter : String} {window : Window}
    {word : UInt64} (known : counters.window? key = some window)
    (counted : window.counter? counter = some word) :
    (RawField.ofWindow key counter).read document = word.toNat := by
  have each : ∀ {record : Record Json}, document.record "struct IoCounters" keys = .ok record →
      record.read key Window.ofJson .empty = .ok window →
        (RawField.ofWindow key counter).read document = word.toNat := by
    intro record opened read
    rw [RawField.read, Json.member?, opened]
    rcases Record.read_eq_ok read with ⟨absent, rfl⟩ | ⟨given, found, same⟩
    · -- A window that was left out counts nothing.
      simp only [absent]
      unfold Window.counter? at counted
      split at counted <;> cases counted <;> rfl
    · simp only [found]
      exact Window.numberIn_member? same counted
  rcases bind_eq_ok_iff.mp read with ⟨record, opened, read⟩
  rcases bind_eq_ok_iff.mp read with ⟨first, readFirst, read⟩
  rcases bind_eq_ok_iff.mp read with ⟨second, readSecond, read⟩
  rcases bind_eq_ok_iff.mp read with ⟨third, readThird, read⟩
  rcases bind_eq_ok_iff.mp read with ⟨fourth, readFourth, read⟩
  cases read
  unfold IoCounters.window? at known
  split at known <;> cases known
  · exact each opened readFirst
  · exact each opened readFourth
  · exact each opened readSecond
  · exact each opened readThird

/-- The counter of a pool under its key. -/
def PoolCounters.counter? (counters : PoolCounters) : String → Option UInt64
  | "maxCapacityInKb" => some counters.maximum
  | "spareCapacityInKb" => some counters.spare
  | "capacityInUseInKb" => some counters.inUse
  | "primaryVacInKb" => some counters.provisioned
  | _ => none

/-- The counters of a pool are the numbers in its document. -/
theorem PoolCounters.read_ofPool {document : Json} {counters : PoolCounters}
    (read : PoolCounters.ofJson document = .ok counters) {counter : String} {word : UInt64}
    (known : counters.counter? counter = some word) :
    (RawField.ofPool counter).read document = word.toNat := by
  rcases bind_eq_ok_iff.mp read with ⟨record, opened, read⟩
  rcases bind_eq_ok_iff.mp read with ⟨first, readFirst, read⟩
  rcases bind_eq_ok_iff.mp read with ⟨second, readSecond, read⟩
  rcases bind_eq_ok_iff.mp read with ⟨third, readThird, read⟩
  rcases bind_eq_ok_iff.mp read with ⟨fourth, readFourth, read⟩
  cases read
  rw [RawField.read, Json.member?, opened]
  unfold PoolCounters.counter? at known
  split at known <;> cases known
  · exact Record.numberIn_get? readSecond
  · exact Record.numberIn_get? readFourth
  · exact Record.numberIn_get? readFirst
  · exact Record.numberIn_get? readThird

/-! ## Writing documents -/

/-- A number that fits is read back from its document. -/
theorem Json.word_ofNat (word : UInt64) : Json.word (.ofNat word.toNat) = .ok word := by
  have fits : word.toNat < twoPow 64 := word.toNat_lt
  have whole : isWhole ⟨false, word.toNat, 0, true⟩ = true := by
    simp [isWhole, fits]
  simp [Json.word, Json.ofNat, natBelow, whole, Nat.not_le.mpr fits, Except.map]

/-- A record of the three counters of a window is the window. -/
theorem Window.ofJson_of_record {window : Window} {document : Json}
    (opened : document.record "struct Bwc" keys = .ok ⟨window.toJson.entries, .missingField⟩) :
    Window.ofJson document = .ok window := by
  refine (except_bind_of_ok opened).trans ?_
  refine (except_bind_of_ok (Record.read_of_get? rfl (Json.word_ofNat _))).trans ?_
  refine (except_bind_of_ok (Record.read_of_get? rfl (Json.word_ofNat _))).trans ?_
  exact except_bind_of_ok (Record.read_of_get? rfl (Json.word_ofNat _))

theorem Window.ofJson_toJson (window : Window) : Window.ofJson window.toJson = .ok window :=
  ofJson_of_record rfl

/-! ## Wirings -/

/-- What one series is made from.  On a legacy system a formula is applied to
some raw counters; on a bulk system the latest sample of one named series is
converted. -/
structure SeriesWiring where
  ending : String
  fields : List RawField
  formula : List Nat → Double
  bulkName : String
  convert : Double → Double

/-- Statistics as they are received: the document of a legacy system, or the
named series of a bulk system. -/
inductive RawStatistics
  | counters (document : Json)
  | samples (metrics : List NamedSamples)

/-- The last sample of the first series with a name, zero if there is none. -/
def lastSample (metrics : List NamedSamples) (name : String) : Double :=
  ((metrics.filter (·.name = name)).head?.bind (·.values.getLast?)).getD .zero

namespace SeriesWiring

/-- The value of a series. -/
def value (wiring : SeriesWiring) : RawStatistics → Double
  | .counters document => wiring.formula (wiring.fields.map (RawField.read document))
  | .samples metrics => (wiring.convert (lastSample metrics wiring.bulkName)).nonNegative

/-- Whether statistics are the same as far as one series is concerned: they
give the same numbers for its own counters, or the same series of its own
name. -/
def Same (wiring : SeriesWiring) : RawStatistics → RawStatistics → Prop
  | .counters document, .counters other =>
      ∀ field ∈ wiring.fields, field.read document = field.read other
  | .samples metrics, .samples others =>
      metrics.filter (·.name = wiring.bulkName) = others.filter (·.name = wiring.bulkName)
  | _, _ => False

/-- A series depends on its own counters and samples only. -/
theorem value_eq_of_same {wiring : SeriesWiring} {raw other : RawStatistics}
    (same : wiring.Same raw other) : wiring.value raw = wiring.value other := by
  cases raw with
  | counters document =>
      cases other with
      | counters document' => exact congrArg wiring.formula (List.map_congr_left same)
      | samples metrics => cases same
  | samples metrics =>
      cases other with
      | counters document => cases same
      | samples metrics' =>
          have filtered : metrics.filter (·.name = wiring.bulkName) =
              metrics'.filter (·.name = wiring.bulkName) := same
          simp only [value, lastSample, filtered]

end SeriesWiring

/-! ## Formulas -/

/-- An amount divided by how often or how long it was counted, in some unit;
zero if nothing was counted. -/
def quotientIn (unit : Double → Double) : List Nat → Double
  | [amount, counted] =>
      if counted = 0 then .zero else unit (Double.ofNat amount / Double.ofNat counted)
  | _ => .zero

/-- Kilobytes as gigabytes. -/
def gigabytes (kilobytes : Nat) : Double :=
  Double.ofNat kilobytes / Double.ofNat (twoPow 20)

/-- Raw capacity is mirrored, so half of what is not spare is usable. -/
def totalCapacity : List Nat → Double
  | [maximum, spare] => gigabytes ((maximum - spare) / 2)
  | _ => .zero

/-- What is usable and not in use; zero when more is in use than there is. -/
def availableCapacity : List Nat → Double
  | [maximum, spare, inUse] => gigabytes ((maximum - spare) / 2 - inUse / 2)
  | _ => .zero

def capacityInUse : List Nat → Double
  | [inUse] => gigabytes (inUse / 2)
  | _ => .zero

/-- What volumes were promised is not mirrored. -/
def provisionedCapacity : List Nat → Double
  | [provisioned] => gigabytes provisioned
  | _ => .zero

/-- The windows of input and output, with kilobytes and milliseconds in units of
1024. -/
def ioWiring : List SeriesWiring :=
  [{ ending := "read_bw_megabytes_per_second"
     fields := [.ofWindow "userDataReadBwc" "totalWeightInKb",
       .ofWindow "userDataReadBwc" "numSeconds"]
     formula := quotientIn (· / Double.ofNat 1024)
     bulkName := "host_read_bandwidth"
     convert := (· / Double.ofNat (twoPow 20)) },
   { ending := "write_bw_megabytes_per_second"
     fields := [.ofWindow "userDataWriteBwc" "totalWeightInKb",
       .ofWindow "userDataWriteBwc" "numSeconds"]
     formula := quotientIn (· / Double.ofNat 1024)
     bulkName := "host_write_bandwidth"
     convert := (· / Double.ofNat (twoPow 20)) },
   { ending := "read_iops_per_second"
     fields := [.ofWindow "userDataReadBwc" "numOccurrences",
       .ofWindow "userDataReadBwc" "numSeconds"]
     formula := quotientIn fun rate => rate
     bulkName := "host_read_iops"
     convert := fun rate => rate },
   { ending := "write_iops_per_second"
     fields := [.ofWindow "userDataWriteBwc" "numOccurrences",
       .ofWindow "userDataWriteBwc" "numSeconds"]
     formula := quotientIn fun rate => rate
     bulkName := "host_write_iops"
     convert := fun rate => rate },
   { ending := "read_latency_milliseconds"
     fields := [.ofWindow "userDataSdcReadLatency" "totalWeightInKb",
       .ofWindow "userDataSdcReadLatency" "numOccurrences"]
     formula := quotientIn (· / Double.ofNat 1024)
     bulkName := "host_read_latency"
     convert := (· / Double.ofNat 1000) },
   { ending := "write_latency_milliseconds"
     fields := [.ofWindow "userDataSdcWriteLatency" "totalWeightInKb",
       .ofWindow "userDataSdcWriteLatency" "numOccurrences"]
     formula := quotientIn (· / Double.ofNat 1024)
     bulkName := "host_write_latency"
     convert := (· / Double.ofNat 1000) }]

/-- The capacities of pools. -/
def capacityWiring : List SeriesWiring :=
  [{ ending := "total_logical_capacity_gigabytes"
     fields := [.ofPool "maxCapacityInKb", .ofPool "spareCapacityInKb"]
     formula := totalCapacity
     bulkName := "logical_capacity"
     convert := (· / Double.ofNat (twoPow 30)) },
   { ending := "logical_capacity_available_gigabytes"
     fields := [.ofPool "maxCapacityInKb", .ofPool "spareCapacityInKb",
       .ofPool "capacityInUseInKb"]
     formula := availableCapacity
     bulkName := "logical_free"
     convert := (· / Double.ofNat (twoPow 30)) },
   { ending := "logical_capacity_in_use_gigabytes"
     fields := [.ofPool "capacityInUseInKb"]
     formula := capacityInUse
     bulkName := "logical_used"
     convert := (· / Double.ofNat (twoPow 30)) },
   { ending := "logical_provisioned_gigabytes"
     fields := [.ofPool "primaryVacInKb"]
     formula := provisionedCapacity
     bulkName := "logical_provisioned"
     convert := (· / Double.ofNat (twoPow 30)) }]

/-- The wiring of all series of a kind. -/
def EntityKind.wiring : EntityKind → List SeriesWiring
  | sdc | volume => ioWiring
  | storagePool => capacityWiring

/-- There is a wiring for each series of a kind, in order. -/
theorem EntityKind.endings_wiring (kind : EntityKind) :
    kind.wiring.map (·.ending) = kind.series.map (·.ending) := by
  cases kind <;> rfl

/-! ## Normalized values -/

/-- Whether statistics were read from what was received. -/
def IoStatistics.Reads : IoStatistics → RawStatistics → Prop
  | .legacy counters, .counters document => IoCounters.ofJson document = .ok counters
  | .bulk resource, .samples metrics => resource.metrics = metrics
  | _, _ => False

/-- Whether statistics were read from what was received. -/
def CapacityStatistics.Reads : CapacityStatistics → RawStatistics → Prop
  | .legacy counters, .counters document => PoolCounters.ofJson document = .ok counters
  | .bulk resource, .samples metrics => resource.metrics = metrics
  | _, _ => False

theorem BulkResource.value_eq (resource : BulkResource) (name : String) :
    resource.value name = lastSample resource.metrics name := by
  rw [BulkResource.value, lastSample, List.head?_filter]
  cases resource.metrics.find? fun samples => samples.name = name <;> rfl

section

variable (window : Window)

/-- A word is zero if its number is. -/
theorem toNat_eq_zero_iff (word : UInt64) : word.toNat = 0 ↔ word = 0 :=
  ⟨fun none => UInt64.toNat_inj.mp none, fun none => none ▸ rfl⟩

theorem Window.bandwidth_eq : window.bandwidth =
    quotientIn (· / Double.ofNat 1024) [window.weightInKb.toNat, window.seconds.toNat] := by
  simp only [bandwidth, quotientIn, toNat_eq_zero_iff, kbPerMb]

theorem Window.rate_eq :
    window.rate =
      quotientIn (fun rate => rate) [window.occurrences.toNat, window.seconds.toNat] := by
  simp only [rate, quotientIn, toNat_eq_zero_iff]

theorem Window.latency_eq : window.latency =
    quotientIn (· / Double.ofNat 1024) [window.weightInKb.toNat, window.occurrences.toNat] := by
  simp only [latency, quotientIn, toNat_eq_zero_iff, kbPerMb]

end

/-- The figures of data clients and volumes are those that are wired, series by
series. -/
theorem IoStatistics.values_normalize {statistics : IoStatistics} {raw : RawStatistics}
    (reads : statistics.Reads raw) :
    statistics.normalize.values = ioWiring.map (·.value raw) := by
  cases statistics with
  | legacy counters =>
      cases raw with
      | samples metrics => cases reads
      | counters document =>
          have field : ∀ key counter window word, counters.window? key = some window →
              window.counter? counter = some word →
                (RawField.ofWindow key counter).read document = word.toNat :=
            fun _ _ _ _ => IoCounters.read_ofWindow reads
          simp only [normalize, IoMetrics.values, ioWiring, List.map_cons, List.map_nil,
            SeriesWiring.value, Window.bandwidth_eq, Window.rate_eq, Window.latency_eq,
            field "userDataReadBwc" "totalWeightInKb" _ _ rfl rfl,
            field "userDataReadBwc" "numSeconds" _ _ rfl rfl,
            field "userDataReadBwc" "numOccurrences" _ _ rfl rfl,
            field "userDataWriteBwc" "totalWeightInKb" _ _ rfl rfl,
            field "userDataWriteBwc" "numSeconds" _ _ rfl rfl,
            field "userDataWriteBwc" "numOccurrences" _ _ rfl rfl,
            field "userDataSdcReadLatency" "totalWeightInKb" _ _ rfl rfl,
            field "userDataSdcReadLatency" "numOccurrences" _ _ rfl rfl,
            field "userDataSdcWriteLatency" "totalWeightInKb" _ _ rfl rfl,
            field "userDataSdcWriteLatency" "numOccurrences" _ _ rfl rfl]
  | bulk resource =>
      cases raw with
      | counters document => cases reads
      | samples metrics =>
          cases reads
          simp only [normalize, IoMetrics.values, ioWiring, List.map_cons, List.map_nil,
            SeriesWiring.value, BulkResource.value_eq, twoPow20, microsPerMilli]

section

variable (counters : PoolCounters)

theorem PoolCounters.total_eq : Double.ofNat counters.totalKb / twoPow20 =
    totalCapacity [counters.maximum.toNat, counters.spare.toNat] := by
  rw [totalCapacity, gigabytes, totalKb, twoPow20]

theorem PoolCounters.available_eq : Double.ofNat counters.availableKb / twoPow20 =
    availableCapacity
      [counters.maximum.toNat, counters.spare.toNat, counters.inUse.toNat] := by
  rw [availableCapacity, gigabytes, availableKb, totalKb, inUseKb, twoPow20]

theorem PoolCounters.inUse_eq : Double.ofNat counters.inUseKb / twoPow20 =
    capacityInUse [counters.inUse.toNat] := by
  rw [capacityInUse, gigabytes, inUseKb, twoPow20]

theorem PoolCounters.provisioned_eq : Double.ofNat counters.provisioned.toNat / twoPow20 =
    provisionedCapacity [counters.provisioned.toNat] := by
  rw [provisionedCapacity, gigabytes, twoPow20]

end

/-- The figures of pools are those that are wired, series by series. -/
theorem CapacityStatistics.values_normalize {statistics : CapacityStatistics} {raw : RawStatistics}
    (reads : statistics.Reads raw) :
    statistics.normalize.values = capacityWiring.map (·.value raw) := by
  cases statistics with
  | legacy counters =>
      cases raw with
      | samples metrics => cases reads
      | counters document =>
          have field : ∀ counter word, counters.counter? counter = some word →
              (RawField.ofPool counter).read document = word.toNat :=
            fun _ _ => PoolCounters.read_ofPool reads
          simp only [normalize, CapacityMetrics.values, capacityWiring, List.map_cons,
            List.map_nil, SeriesWiring.value, PoolCounters.total_eq, PoolCounters.available_eq,
            PoolCounters.inUse_eq, PoolCounters.provisioned_eq, field "maxCapacityInKb" _ rfl,
            field "spareCapacityInKb" _ rfl, field "capacityInUseInKb" _ rfl,
            field "primaryVacInKb" _ rfl]
  | bulk resource =>
      cases raw with
      | counters document => cases reads
      | samples metrics =>
          cases reads
          simp only [normalize, CapacityMetrics.values, capacityWiring, List.map_cons,
            List.map_nil, SeriesWiring.value, BulkResource.value_eq, twoPow30]

end StorageTelemetry
