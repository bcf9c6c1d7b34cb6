import StorageTelemetry.Entity.Records

namespace StorageTelemetry

/-!
# The series exported for an entity

Every entity of a kind has the same series, whose names share the kind's
beginning and whose order is the order of the figures in its record.
-/

/-- The end of a series name and its help text. -/
structure SeriesSpec where
  ending : String
  help : String
deriving DecidableEq

def ioSeries : List SeriesSpec :=
  [⟨"read_bw_megabytes_per_second", "Read bandwidth in MB/s"⟩,
   ⟨"write_bw_megabytes_per_second", "Write bandwidth in MB/s"⟩,
   ⟨"read_iops_per_second", "Read operations per second"⟩,
   ⟨"write_iops_per_second", "Write operations per second"⟩,
   ⟨"read_latency_milliseconds", "Average read latency in milliseconds"⟩,
   ⟨"write_latency_milliseconds", "Average write latency in milliseconds"⟩]

def capacitySeries : List SeriesSpec :=
  [⟨"total_logical_capacity_gigabytes", "Total logical capacity in GB"⟩,
   ⟨"logical_capacity_available_gigabytes", "Available logical capacity in GB"⟩,
   ⟨"logical_capacity_in_use_gigabytes", "Logical capacity in use in GB"⟩,
   ⟨"logical_provisioned_gigabytes", "Logical capacity provisioned to volumes in GB"⟩]

namespace EntityKind

def series : EntityKind → List SeriesSpec
  | sdc | volume => ioSeries
  | storagePool => capacitySeries

/-- The beginning of the series names of a kind. -/
def seriesStem : EntityKind → String
  | sdc => "powerflex_export_node"
  | volume => "powerflex_volume"
  | storagePool => "powerflex_storage_pool"

def seriesName (kind : EntityKind) (spec : SeriesSpec) : String :=
  kind.seriesStem ++ "_" ++ spec.ending

end EntityKind
end StorageTelemetry
