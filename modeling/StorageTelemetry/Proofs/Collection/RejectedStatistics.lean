import StorageTelemetry.Program.Live
import StorageTelemetry.Proofs.Collection.LegacyPasses
import StorageTelemetry.Proofs.Collection.PassRuns
import StorageTelemetry.Proofs.Gateway.OneGeneration
import StorageTelemetry.Proofs.Gateway.Requests
import StorageTelemetry.Proofs.Statistics.SparseRecords

namespace StorageTelemetry

/-!
# Rejected statistics

A gateway that answers with a sparse document of counters is understood, and one that
answers with a faulty document is not: such an answer is a fault, whatever its status
and however the document is written.  On a legacy system every entity is asked about
on its own, so a fault costs that entity and no other.  Nothing is recorded of it, and
what was exported of it before stays as it is.
-/

open Json GatewayConnection

/-! ## Answers -/

/-- Whether every answer of success is read as a value, if its body is a text of a
document. -/
def GatewayConnection.Accepts {α : Type} (reader : Json → Except Mismatch α) (document : Json)
    (value : α) : Prop :=
  ∀ path answer, IsText document answer.text → isSuccess answer.status = true →
    decode path reader answer = .ok value

/-- Whether every answer is a fault, if its body is a text of a document. -/
def GatewayConnection.Rejects {α : Type} (reader : Json → Except Mismatch α) (document : Json) :
    Prop :=
  ∀ path answer, IsText document answer.text → ∃ fault, decode path reader answer = .error fault

theorem GatewayConnection.accepts_of_ofJson {α : Type} {reader : Json → Except Mismatch α}
    {document : Json} {value : α} (read : reader document = .ok value) :
    Accepts reader document value := by
  intro path answer written success
  rcases isSuccess_iff.mp success with ⟨least, most⟩
  exact decode_eq_ok_iff.mpr ⟨least, most, document, written, read⟩

theorem GatewayConnection.rejects_of_ofJson {α : Type} {reader : Json → Except Mismatch α}
    {document : Json} (unread : ∀ value, reader document ≠ .ok value) :
    Rejects reader document := by
  intro path answer written
  cases ended : decode path reader answer with
  | error fault => exact ⟨fault, rfl⟩
  | ok value =>
    rcases decode_eq_ok_iff.mp ended with ⟨-, -, document', written', read⟩
    exact absurd (written'.unique written ▸ read) (unread value)

/-! ## Clients -/

/-- Whether a document cannot be the statistics of an entity of a kind. -/
def EntityKind.Faulty : EntityKind → Json → Prop
  | sdc | volume => IoCounters.Faulty
  | storagePool => PoolCounters.Faulty

namespace RestClient

variable {client : RestClient} {known : KnownAnswers}

/-- Whether a client that asks for the statistics of an entity is given an answer. -/
def IsAnswered (client : RestClient) (known : KnownAnswers) (entity : Entity)
    (answer : RestAnswer) : Prop :=
  ∃ request ∈ client.requestsOf (statisticsRequest entity), known.server request = some answer

/-- A call does not give a value, if no answer to what it sends has one. -/
theorem reply_ne_done {α : Type} {call : GatewayCall α} {server : RestServer}
    (unread : ∀ request ∈ (client.perform call server).sent, ∀ answer,
      known.server request = some answer → ∃ document, IsText document answer.text ∧
        ∀ value, call.read document ≠ .ok value) (value : α) :
    (known.reply (client.perform call known.server)).outcome ≠ .done value := by
  intro ended
  have result : (client.perform call known.server).result = .ok value :=
    Outcome.ofExcept_eq_done_iff.mp ended
  rcases GatewayCall.exists_answer_of_ok result with ⟨request, sent, answer, answered, read⟩
  -- The request is the same with every gateway.
  have sent' : request ∈ (client.perform call server).sent := by
    rw [GatewayCall.sent_perform] at sent
    rw [perform, GatewayCall.sent_perform]
    exact sent
  rcases unread request sent' answer answered with ⟨document, written, bad⟩
  rcases decode_eq_ok_iff.mp read with ⟨-, -, document', written', read⟩
  exact bad value (written'.unique written ▸ read)

/-- Statistics are never those of a faulty document. -/
theorem statistics_ne_done {entity : Entity}
    (faulty : ∀ answer, client.IsAnswered known entity answer →
      ∃ document, IsText document answer.text ∧ entity.1.Faulty document) (now : Instant)
    (counters : entity.1.Counters) :
    ((client.management known).statistics entity now).outcome ≠ .done counters := by
  rcases entity with ⟨kind, id⟩
  cases kind with
  | sdc | volume | storagePool =>
    apply reply_ne_done
    intro request sent answer answered
    rcases faulty answer ⟨request, sent, answered⟩ with ⟨document, written, bad⟩
    exact ⟨document, written, fun _ => bad.ofJson_ne⟩

theorem calm_management (client : RestClient) (known : KnownAnswers) :
    (client.management known).Calm := by
  intro id now panic ended
  unfold management KnownAnswers.reply Outcome.ofExcept at ended
  simp only at ended
  split at ended <;> cases ended

end RestClient

/-! ## Sparse and faulty documents -/

/-- Counters are read from every text of an object that writes some of them, in any
order and among other members, with zero for those that are left out; and nothing is
read from a document in which a counter or a window is given twice, is null, or is a
counter but no whole number of 64 bits without a sign.

So an entity of a legacy system whose answers are of that kind is dropped.  A pass
records nothing of it, and it is exported afterwards as it was before. -/
theorem sparse_statistics_read_or_dropped :
    (∀ (counters : IoCounters) kept keptIn document, counters.Writes kept keptIn document →
      Accepts IoCounters.ofJson document (counters.keeping kept keptIn)) ∧
    (∀ (counters : PoolCounters) kept document, counters.Writes kept document →
      Accepts PoolCounters.ofJson document (counters.keeping kept)) ∧
    (∀ document, IoCounters.Faulty document → Rejects IoCounters.ofJson document) ∧
    (∀ document, PoolCounters.Faulty document → Rejects PoolCounters.ofJson document) ∧
    ∀ (context : CollectionContext) (client : RestClient) (known : KnownAnswers) now kind exporter
      result final (entity : Entity),
      context.client = client.management known →
      (context.client.generation now).outcome = .done .legacy →
      exporter.Reached →
      PassRun context kind now exporter result final →
      (∀ answer, client.IsAnswered known entity answer →
        ∃ document, IsText document answer.text ∧ entity.1.Faulty document) →
      (kind = .volume → (pollGroups context kind now).outcome = .done [] →
        entity ≠ VolumeRecord.keepAlive.observation.entity) →
      final.AgreesOn exporter entity := by
  refine ⟨?_, ?_, ?_, ?_, ?_⟩
  · exact fun _ _ _ _ writes => accepts_of_ofJson writes.ofJson_eq
  · exact fun _ _ _ writes => accepts_of_ofJson writes.ofJson_eq
  · exact fun _ faulty => rejects_of_ofJson fun _ => faulty.ofJson_ne
  · exact fun _ faulty => rejects_of_ofJson fun _ => faulty.ofJson_ne
  · intro context client known now kind exporter result final entity behind legacy reached run
      faulty others
    have calm : context.client.Calm := behind ▸ client.calm_management known
    apply (passRun_oneByOne legacy calm reached run).kept entity _ others
    rw [behind]
    exact RestClient.statistics_ne_done faulty

/-- A client that has logged in at a gateway that it knows for a legacy one. -/
def legacyClient : RestClient where
  connection := ⟨"http://gateway", "admin", "secret"⟩
  manager := { TokenManager.initial with token := "token" }
  cell := { GenerationCell.initial with known := some .legacy }

/-- The answers that list one data client and give a document as its statistics. -/
def answersWith (document : Json) : KnownAnswers :=
  let answered (request : Request) (document : Json) :
      List (RestRequest × Nat × Option RestAnswer) :=
    (legacyClient.requestsOf request).map (·, 0, some ⟨200, Text.bytes document.compact⟩)
  let listed : Json := .ofMembers [("id", .ofText "sdc-1"), ("sdcGuid", .ofText "a")]
  ⟨answered .sdcs (.array [listed]) ++ answered (.sdcStatistics "sdc-1") document⟩

/-- A pass over the node of this data client. -/
def passWith (document : Json) : CollectionContext :=
  let inventory := { Inventory.empty with nodes := [⟨"node", "a", "", "driver"⟩] }
  ⟨legacyClient.management (answersWith document), inventory.discovery, 1, ["driver"]⟩

def readsOnly : Json :=
  .ofMembers [("unit", .array [.null]),
    ("userDataReadBwc", .ofMembers [("numSeconds", .ofNat 2), ("numOccurrences", .ofNat 6)])]

theorem readsOnly_writes :
    IoCounters.Writes (· = "userDataReadBwc") (fun _ key => key ≠ "totalWeightInKb")
      ⟨⟨6, 2, 9⟩, ⟨1, 1, 1⟩, .empty, .empty⟩ readsOnly := by
  refine ⟨fun _ => .ofMembers [("numSeconds", .ofNat 2), ("numOccurrences", .ofNat 6)], ?_, ?_⟩
  · intro key window known written
    cases of_decide_eq_true written
    cases known
    exact ⟨_, [], rfl, .swap _ _ _, nofun⟩
  · exact ⟨_, [("unit", .array [.null])], rfl, .swap _ _ _, by decide⟩

def twiceSeconds : Json :=
  .ofMembers [("userDataReadBwc", .ofMembers [("numSeconds", .ofNat 1), ("numSeconds", .ofNat 2)])]

theorem twiceSeconds_faulty : IoCounters.Faulty twiceSeconds := by
  have declared : "userDataReadBwc" ∈ IoCounters.keys := by decide
  have declared' : "numSeconds" ∈ Window.keys := by decide
  exact .member declared (List.mem_singleton_self _) (.inr (.twice declared' (Nat.le_refl 2)))

theorem twiceSeconds_regular : Regular twiceSeconds := by
  refine regular_ofMembers (List.forall_mem_singleton.mpr (regular_ofMembers ?_))
  intro member found
  rcases List.mem_pair.mp found with rfl | rfl
  · exact regular_ofNat 1
  · exact regular_ofNat 2

/-- What is left out of an object counts as zero.  A later answer that gives the
seconds twice is rejected, and the data client stays as it was exported before. -/
theorem twiceSeconds_dropped :
    let first := collect (passWith readsOnly) .sdc 0 (Exporter.start Registry.empty)
    let later := collect (passWith twiceSeconds) .sdc 9 first.exporter
    Accepts IoCounters.ofJson readsOnly ⟨⟨6, 2, 0⟩, .empty, .empty, .empty⟩ ∧
      later.calls.map (·.2) = [.generation, .sdcs, .sdcStatistics "sdc-1"] ∧
      later.exporter.AgreesOn first.exporter (.sdc, "sdc-1") := by
  intro first later
  rcases sparse_statistics_read_or_dropped with ⟨accepted, -, -, -, dropped⟩
  refine ⟨accepted _ _ _ _ readsOnly_writes, by decide +kernel, ?_⟩
  have ran : PassRun (passWith readsOnly) .sdc 0 (.start .empty) first.result first.exporter :=
    collect_is_run ..
  have reached : first.exporter.Reached := ran.callsOf.reached .start
  apply dropped (passWith twiceSeconds) legacyClient (answersWith twiceSeconds) 9 .sdc _ _ _
    (.sdc, "sdc-1") rfl rfl reached (collect_is_run ..) _ nofun
  rintro answer ⟨request, sent, answered⟩
  have answers : ∀ request ∈ legacyClient.requestsOf (.sdcStatistics "sdc-1"),
      ((answersWith twiceSeconds).server request).map (·.text) = some twiceSeconds.compact := by
    decide +kernel
  have text := answers request sent
  rw [answered] at text
  have same : answer.text = twiceSeconds.compact := Option.some.inj text
  exact ⟨twiceSeconds, same ▸ isText_compact twiceSeconds_regular, twiceSeconds_faulty⟩

end StorageTelemetry
