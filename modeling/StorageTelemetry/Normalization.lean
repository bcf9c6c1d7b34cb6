import StorageTelemetry.Gateway.Statistics
import StorageTelemetry.Powers

namespace StorageTelemetry

/-!
# Normalized figures

Both generations of statistics are reduced to the same units: megabytes per
second, operations per second, milliseconds per operation, and gigabytes.
Every figure is finite and not negative.  A zero divisor and a series that was
not reported give zero.
-/

def kbPerMb : Double := .ofNat 1024

/-- Bytes in a megabyte, and kilobytes in a gigabyte. -/
def twoPow20 : Double := .ofNat (twoPow 20)

/-- Bytes in a gigabyte. -/
def twoPow30 : Double := .ofNat (twoPow 30)

def microsPerMilli : Double := .ofNat 1000

namespace Window

/-! ## Windows -/

/-- Megabytes per second, zero for an empty window. -/
def bandwidth (window : Window) : Double :=
  if window.seconds = 0 then .zero
  else Double.ofNat window.weightInKb.toNat / Double.ofNat window.seconds.toNat / kbPerMb

/-- Operations per second, zero for an empty window. -/
def rate (window : Window) : Double :=
  if window.seconds = 0 then .zero
  else Double.ofNat window.occurrences.toNat / Double.ofNat window.seconds.toNat

/-- Milliseconds per operation, zero when nothing completed. -/
def latency (window : Window) : Double :=
  if window.occurrences = 0 then .zero
  else Double.ofNat window.weightInKb.toNat / Double.ofNat window.occurrences.toNat / kbPerMb

end Window

/-! ## Input and output -/

/-- Normalized input and output figures of one data client or volume. -/
structure IoMetrics where
  readBandwidth : Double
  writeBandwidth : Double
  readRate : Double
  writeRate : Double
  readLatency : Double
  writeLatency : Double
deriving DecidableEq

namespace IoMetrics

def zero : IoMetrics := ⟨.zero, .zero, .zero, .zero, .zero, .zero⟩

/-- The figures in the order of the exported series. -/
def values (m : IoMetrics) : List Double :=
  [m.readBandwidth, m.writeBandwidth, m.readRate, m.writeRate, m.readLatency, m.writeLatency]

/-- The series requested for data clients and volumes in a batch. -/
def bulkNames : List String :=
  ["host_read_bandwidth", "host_write_bandwidth", "host_read_iops", "host_write_iops",
   "host_read_latency", "host_write_latency"]

end IoMetrics

/-- Input and output statistics of either generation. -/
inductive IoStatistics
  | legacy (counters : IoCounters)
  | bulk (resource : BulkResource)
deriving DecidableEq

/-- The figures of input and output statistics.  Rates come from the bandwidth
windows, latencies from the windows of their own. -/
def IoStatistics.normalize : IoStatistics → IoMetrics
  | legacy counters =>
      { readBandwidth := counters.read.bandwidth
        writeBandwidth := counters.write.bandwidth
        readRate := counters.read.rate
        writeRate := counters.write.rate
        readLatency := counters.readLatency.latency
        writeLatency := counters.writeLatency.latency }
  | bulk resource =>
      { readBandwidth := (resource.value "host_read_bandwidth" / twoPow20).nonNegative
        writeBandwidth := (resource.value "host_write_bandwidth" / twoPow20).nonNegative
        readRate := (resource.value "host_read_iops").nonNegative
        writeRate := (resource.value "host_write_iops").nonNegative
        readLatency := (resource.value "host_read_latency" / microsPerMilli).nonNegative
        writeLatency := (resource.value "host_write_latency" / microsPerMilli).nonNegative }

/-! ## Capacity -/

/-- Normalized capacity figures of one storage pool. -/
structure CapacityMetrics where
  total : Double
  available : Double
  inUse : Double
  provisioned : Double
deriving DecidableEq

namespace CapacityMetrics

/-- The figures in the order of the exported series. -/
def values (m : CapacityMetrics) : List Double := [m.total, m.available, m.inUse, m.provisioned]

/-- The series requested for storage pools in a batch. -/
def bulkNames : List String :=
  ["logical_capacity", "logical_free", "logical_used", "logical_provisioned"]

end CapacityMetrics

namespace PoolCounters

/-- Logical capacity in whole kilobytes.  Raw capacity is mirrored, so half of
what is not spare is usable. -/
def totalKb (counters : PoolCounters) : Nat :=
  (counters.maximum.toNat - counters.spare.toNat) / 2

/-- Logical capacity in use, in whole kilobytes. -/
def inUseKb (counters : PoolCounters) : Nat := counters.inUse.toNat / 2

/-- Logical capacity left, in whole kilobytes; zero when more is in use than
there is. -/
def availableKb (counters : PoolCounters) : Nat := counters.totalKb - counters.inUseKb

end PoolCounters

/-- Capacity statistics of either generation. -/
inductive CapacityStatistics
  | legacy (counters : PoolCounters)
  | bulk (resource : BulkResource)
deriving DecidableEq

def CapacityStatistics.normalize : CapacityStatistics → CapacityMetrics
  | legacy counters =>
      { total := Double.ofNat counters.totalKb / twoPow20
        available := Double.ofNat counters.availableKb / twoPow20
        inUse := Double.ofNat counters.inUseKb / twoPow20
        provisioned := Double.ofNat counters.provisioned.toNat / twoPow20 }
  | bulk resource =>
      { total := (resource.value "logical_capacity" / twoPow30).nonNegative
        available := (resource.value "logical_free" / twoPow30).nonNegative
        inUse := (resource.value "logical_used" / twoPow30).nonNegative
        provisioned := (resource.value "logical_provisioned" / twoPow30).nonNegative }

end StorageTelemetry
