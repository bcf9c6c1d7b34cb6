import StorageTelemetry.Document.Conversion
import StorageTelemetry.Proofs.Settings.Places
import StorageTelemetry.Settings.Basic

namespace StorageTelemetry

/-!
# The leaves of the settings

A leaf is a scalar in one of four sections.  Each has a place, a kind of value
and perhaps a default, and the settings are what their leaves are, together
with the driver names and the inventory.
-/

/-- The kinds of scalars. -/
inductive ScalarKind
  | text
  | optionalText
  | flag
  | word
  | word16
deriving DecidableEq

namespace ScalarKind

/-- The values of a kind. -/
def Value : ScalarKind → Type
  | text => String
  | optionalText => Option String
  | flag => Bool
  | word => UInt64
  | word16 => UInt16

/-- How a value is read from what is given for it. -/
def read : (kind : ScalarKind) → Tree → Except Mismatch kind.Value
  | text => Readable.text
  | optionalText => Readable.optionalText
  | flag => Readable.flag
  | word => Readable.word
  | word16 => Readable.word16

end ScalarKind

/-- The scalar leaves of the sections for the gateway, for collection, for the
election of a leader and for the server. -/
inductive Leaf
  | endpoint
  | username
  | password
  | insecure
  | certPath
  | sdcInterval
  | volumeInterval
  | poolInterval
  | sdcEnabled
  | volumeEnabled
  | poolEnabled
  | maxConcurrentQueries
  | tokenRefreshInterval
  | authTimeout
  | electionEnabled
  | electionEndpoint
  | electionNamespace
  | address
  | port
deriving DecidableEq

namespace Leaf

def kind : Leaf → ScalarKind
  | endpoint | username | password | electionEndpoint | electionNamespace | address => .text
  | certPath => .optionalText
  | insecure | sdcEnabled | volumeEnabled | poolEnabled | electionEnabled => .flag
  | sdcInterval | volumeInterval | poolInterval | maxConcurrentQueries | tokenRefreshInterval
  | authTimeout => .word
  | port => .word16

/-- The section and the field. -/
def place : Leaf → String × String
  | endpoint => ("powerflex", "endpoint")
  | username => ("powerflex", "username")
  | password => ("powerflex", "password")
  | insecure => ("powerflex", "insecure")
  | certPath => ("powerflex", "cert_path")
  | sdcInterval => ("collection", "sdc_poll_interval_seconds")
  | volumeInterval => ("collection", "volume_poll_interval_seconds")
  | poolInterval => ("collection", "storage_pool_poll_interval_seconds")
  | sdcEnabled => ("collection", "sdc_metrics_enabled")
  | volumeEnabled => ("collection", "volume_metrics_enabled")
  | poolEnabled => ("collection", "storage_pool_metrics_enabled")
  | maxConcurrentQueries => ("collection", "max_concurrent_queries")
  | tokenRefreshInterval => ("collection", "token_refresh_interval_seconds")
  | authTimeout => ("collection", "auth_timeout_seconds")
  | electionEnabled => ("leader_election", "enabled")
  | electionEndpoint => ("leader_election", "endpoint")
  | electionNamespace => ("leader_election", "namespace")
  | address => ("server", "addr")
  | port => ("server", "port")

/-- What settings have at a leaf. -/
def get : (leaf : Leaf) → Settings → leaf.kind.Value
  | endpoint, settings => settings.gateway.endpoint
  | username, settings => settings.gateway.username
  | password, settings => settings.gateway.password
  | insecure, settings => settings.gateway.insecure
  | certPath, settings => settings.gateway.certPath
  | sdcInterval, settings => settings.collection.sdcInterval
  | volumeInterval, settings => settings.collection.volumeInterval
  | poolInterval, settings => settings.collection.poolInterval
  | sdcEnabled, settings => settings.collection.sdcEnabled
  | volumeEnabled, settings => settings.collection.volumeEnabled
  | poolEnabled, settings => settings.collection.poolEnabled
  | maxConcurrentQueries, settings => settings.collection.maxConcurrentQueries
  | tokenRefreshInterval, settings => settings.collection.tokenRefreshInterval
  | authTimeout, settings => settings.collection.authTimeout
  | electionEnabled, settings => settings.election.enabled
  | electionEndpoint, settings => settings.election.endpoint
  | electionNamespace, settings => settings.election.namespaceName
  | address, settings => settings.server.address
  | port, settings => settings.server.port

/-- Whether a leaf must be given. -/
def required : Leaf → Bool
  | endpoint | username | password => true
  | _ => false

/-- Settings of which nothing is given. -/
def nothingGiven : Settings where
  gateway := ⟨"", "", "", false, none⟩
  collection := .default
  election := .default
  server := .default
  inventory := .empty

/-- What a leaf is if it is not given. -/
def default? (leaf : Leaf) : Option leaf.kind.Value :=
  if leaf.required then none else some (leaf.get nothingGiven)

/-- The name of the setting that is a leaf. -/
def key (leaf : Leaf) : String := leaf.place.1 ++ "." ++ leaf.place.2

theorem placeOf_key (leaf : Leaf) :
    Tree.placeOf leaf.key = [.key leaf.place.1, .key leaf.place.2] := by
  cases leaf <;> decide +kernel

/-- The sections that have leaves. -/
def sectionNames : List String := ["powerflex", "collection", "leader_election", "server"]

theorem section_mem (leaf : Leaf) : leaf.place.1 ∈ sectionNames := by
  cases leaf <;> decide

/-- All leaves. -/
def all : List Leaf :=
  [endpoint, username, password, insecure, certPath, sdcInterval, volumeInterval, poolInterval,
   sdcEnabled, volumeEnabled, poolEnabled, maxConcurrentQueries, tokenRefreshInterval, authTimeout,
   electionEnabled, electionEndpoint, electionNamespace, address, port]

/-- Different leaves stand at different places. -/
theorem place_injective {leaf other : Leaf} (same : leaf.place = other.place) : leaf = other := by
  have found : ∀ leaf : Leaf, all.find? (fun other => other.place = leaf.place) = some leaf := by
    intro leaf
    cases leaf <;> decide +kernel
  have first := found leaf
  rw [same, found other] at first
  exact (Option.some.inj first).symm

end Leaf

/-- Settings made of leaves, driver names and an inventory. -/
def Settings.ofLeaves (value : (leaf : Leaf) → leaf.kind.Value) (driverNames : List String)
    (inventory : Inventory) : Settings where
  gateway :=
    ⟨value .endpoint, value .username, value .password, value .insecure, value .certPath⟩
  collection :=
    ⟨value .sdcInterval, value .volumeInterval, value .poolInterval, value .sdcEnabled,
     value .volumeEnabled, value .poolEnabled, value .maxConcurrentQueries,
     value .tokenRefreshInterval, value .authTimeout, driverNames⟩
  election := ⟨value .electionEnabled, value .electionEndpoint, value .electionNamespace⟩
  server := ⟨value .address, value .port⟩
  inventory := inventory

@[simp] theorem Leaf.get_ofLeaves (leaf : Leaf) (value : (leaf : Leaf) → leaf.kind.Value)
    (driverNames : List String) (inventory : Inventory) :
    leaf.get (.ofLeaves value driverNames inventory) = value leaf := by
  cases leaf <;> rfl

end StorageTelemetry
