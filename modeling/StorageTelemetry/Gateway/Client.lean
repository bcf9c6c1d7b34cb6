import StorageTelemetry.Clock.Ticker
import StorageTelemetry.Fault
import StorageTelemetry.Gateway.Entities
import StorageTelemetry.Gateway.Generation
import StorageTelemetry.Gateway.Statistics
import StorageTelemetry.Pipeline.Outcome

namespace StorageTelemetry

/-!
# The management interface

What collection needs from a gateway.  A call begins at some moment, takes
some time, and ends in one of the three ways in which work can end.  What it
answers may depend on when it began.
-/

/-- What a call gives: how long it takes and how it ends. -/
structure Reply (α : Type) where
  delay : Nat
  outcome : Outcome Fault α

/-- The calls that collection makes. -/
inductive Request
  | authenticate
  | generation
  | sdcs
  | sdcVolumes (sdcId : String)
  | sdcStatistics (sdcId : String)
  | volumeStatistics (volumeId : String)
  | pools
  | poolStatistics (poolId : String)
  | bulk (query : BulkQuery)
deriving DecidableEq

/-- A gateway as collection sees it. -/
structure Client where
  authenticate : Instant → Reply Unit
  generation : Instant → Reply Generation
  sdcs : Instant → Reply (List Sdc)
  sdcVolumes : String → Instant → Reply (List Volume)
  sdcStatistics : String → Instant → Reply IoCounters
  volumeStatistics : String → Instant → Reply IoCounters
  pools : Instant → Reply (List StoragePool)
  poolStatistics : String → Instant → Reply PoolCounters
  bulk : BulkQuery → Instant → Reply BulkResponse

end StorageTelemetry
