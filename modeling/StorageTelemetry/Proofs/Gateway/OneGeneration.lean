import Mathlib.Logic.Relation
import StorageTelemetry.Program.Live
import StorageTelemetry.Proofs.Collection.GenerationUse
import StorageTelemetry.Proofs.Gateway.GenerationHistory
import StorageTelemetry.Proofs.Session.Authentication

namespace StorageTelemetry

/-!
# One generation for all ticks

However callers share the cell of the generation, the gateway is asked until it
tells a version, and no more.  So whoever is told a generation is told the
same, and ticks that are told theirs by the cell go by one generation.
Collection from a real gateway is a case of this: between two stages nobody
waits at its client's cell, and every stage moves the cell as one caller does.
-/

/-! ## Asking for the version -/

/-- An answer tells a version exactly if its status is one of success and its
body is a text. -/
theorem GatewayConnection.decode_text_eq_ok_iff (path : String) (answer : RestAnswer)
    (version : String) :
    decode path Json.text answer = .ok version ↔
      200 ≤ answer.status ∧ answer.status < 300 ∧
        Json.ofString? answer.text = some (.string (some version)) := by
  rw [← readBody_text_eq_ok_iff]
  unfold decode isSuccess
  grind

/-- A call that reads a text gives it exactly if the gateway is asked and
answers with a status of success and that text. -/
theorem GatewayCall.reading_text_eq_ok_iff (path : String) (connection : GatewayConnection)
    (server : RestServer) (secret version : String) :
    ((reading path Json.text).perform connection server (.ok secret)).result = .ok version ↔
      ∃ request answer, connection.request? "GET" path secret none = some request ∧
        server request = some answer ∧ 200 ≤ answer.status ∧ answer.status < 300 ∧
          Json.ofString? answer.text = some (.string (some version)) := by
  simp only [perform, reading, Option.isSome_none, Bool.false_eq_true, if_false,
    GatewayConnection.exchange_bind_eq_ok_iff, GatewayConnection.decode_text_eq_ok_iff]

/-! ## A client on its own -/

open GenerationCell

namespace RestClient

/-- Whether nobody waits at the cell and nobody asks. -/
def AtRest (client : RestClient) : Prop := client.cell.queue = [] ∧ client.cell.asking = none

/-- The moves of the cell by which a client on its own gets the generation. -/
def generationMoves (client : RestClient) (server : RestServer) : List GenerationCell.Event :=
  .want :: .proceed ::
    match client.cell.known, client.token with
    | some _, _ => []
    | none, .error fault => [.tokenMissed fault]
    | none, .ok token =>
        [.sendRequest,
          .answer (GatewayCall.version.perform client.connection server (.ok token)).result]

/-- What a client that asks for the generation makes of its cell. -/
structure MovesCell (client : RestClient) (server : RestServer) : Prop where
  atRest : (client.generation server).2.AtRest
  runs : Moves.run? step? client.cell (client.generationMoves server) =
    some (client.generation server).2.cell
  answered : (client.generation server).2.cell.answers.get? client.cell.nextTicket =
    some (client.generation server).1.result
  silent : client.cell.known ≠ none → (client.generation server).1.sent = []

theorem AtRest.movesCell {client : RestClient} (atRest : client.AtRest) (server : RestServer) :
    client.MovesCell server := by
  obtain ⟨queue, asking⟩ := atRest
  obtain ⟨connection, manager, known, _, _, answers, ticket, requests⟩ := client
  cases queue
  cases asking
  have put : ∀ answer : Except Fault Generation,
      (answers.put ticket answer).get? ticket = some answer := fun answer => by
    rw [Table.get?_put, if_pos rfl]
  cases known with
  | some generation =>
      refine ⟨⟨rfl, rfl⟩, rfl, ?_, fun _ => rfl⟩
      simp [RestClient.generation, apply, step?, put, reply]
  | none =>
      let client : RestClient :=
        ⟨connection, manager, none, none, [], answers, ticket, requests⟩
      cases token : client.token with
      | error fault =>
          refine ⟨?_, ?_, ?_, fun unknown => absurd rfl unknown⟩ <;>
            simp [AtRest, RestClient.generation, generationMoves, Moves.run?, apply, step?,
              conclude, reply, client, token, put]
      | ok text =>
          cases answer : (GatewayCall.version.perform connection server (.ok text)).result with
          | ok version | error fault =>
              refine ⟨?_, ?_, ?_, fun unknown => absurd rfl unknown⟩ <;>
                simp [AtRest, RestClient.generation, generationMoves, Moves.run?, apply, step?,
                  conclude, reply, client, token, answer, put]

end RestClient

/-! ## Ticks -/

/-- Whether requests go by one generation, if it is known: beside one for the
session and one for the generation there are none that another generation
would make. -/
structure SuitOne (known : Option Generation) (requests : List Request) : Prop where
  asked_once : requests.count .generation ≤ 1
  suits : ∀ request ∈ requests, request = .authenticate ∨ request = .generation ∨
    ∃ generation, known = some generation ∧ request.Suits generation

theorem suitOne_nil (known : Option Generation) : SuitOne known [] :=
  ⟨Nat.zero_le 1, nofun⟩

/-- A tick goes by the generation that its gateway tells. -/
theorem TickByOne.suitOne {client : Client} {now : Instant} {calls : List (Instant × Request)}
    (byOne : TickByOne client now calls) {known : Option Generation}
    (tells : .generation ∈ calls.map (·.2) → ∀ moment generation,
      (client.generation moment).outcome = .done generation → known = some generation) :
    SuitOne known (calls.map (·.2)) := by
  cases byOne with
  | idle => exact suitOne_nil known
  | gate => exact ⟨by simp, by simp⟩
  | @pass moment calls goes =>
      obtain ⟨others, rfl, suit⟩ := goes
      have told := tells (by simp) moment
      have suits : ∀ request ∈ others.map (·.2), ∃ generation, known = some generation ∧
          request.Suits generation := by
        refine List.forall_mem_map.mpr fun call member => ?_
        obtain ⟨generation, answered, fits⟩ := suit call member
        exact ⟨generation, told generation answered, fits⟩
      have none : Request.generation ∉ others.map (·.2) := fun member => by
        obtain ⟨generation, -, fits⟩ := suits _ member
        exact fits
      refine ⟨?_, ?_⟩
      · simp [List.count_eq_zero_of_not_mem none]
      · simp only [List.map_cons, List.forall_mem_cons, true_or, or_true, true_and]
        exact fun request member => .inr (.inr (suits request member))

/-- Whether the retrievers of a pass are all of the generation that is known. -/
def ReadsBy (known : Option Generation) (context : CollectionContext) (now : Instant) :
    EntityKind → Prop
  | .sdc => ∀ retrievers, (enumerateSdcs context now).outcome = .done retrievers →
      ∀ retriever ∈ retrievers, known = some retriever.generation
  | .volume => ∀ retrievers, (enumerateVolumes context now).outcome = .done retrievers →
      ∀ retriever ∈ retrievers, known = some retriever.generation
  | .storagePool => ∀ retrievers, (enumerateStorageClasses context now).outcome = .done retrievers →
      ∀ retriever ∈ retrievers, ∀ pool ∈ retriever.pools, known = some pool.generation

theorem readsBy {known : Option Generation} {context : CollectionContext} {now : Instant}
    (tells : ∀ generation, (context.client.generation now).outcome = .done generation →
      known = some generation) (kind : EntityKind) : ReadsBy known context now kind := by
  cases kind with
  | sdc =>
      intro retrievers ended retriever listed
      obtain ⟨generation, told, same⟩ := (enumerateSdcs_goesBy context).gives ended
      rw [same retriever listed, tells generation told]
  | volume =>
      intro retrievers ended retriever listed
      obtain ⟨generation, told, same⟩ := (enumerateVolumes_goesBy context).gives ended
      rw [same retriever listed, tells generation told]
  | storagePool =>
      intro retrievers ended retriever listed pool behind
      obtain ⟨generation, told, same⟩ := (enumerateStorageClasses_goesBy context).gives ended
      rw [same retriever listed pool behind, tells generation told]

/-- Whether every generation that a gateway tells is one that the cell told one
of its callers. -/
def GenerationCell.Tells (cell : GenerationCell) (client : Client) : Prop :=
  ∀ moment generation, (client.generation moment).outcome = .done generation →
    ∃ ticket, cell.answers.get? ticket = some (.ok generation)

/-! ## Collection from a real gateway -/

theorem Outcome.ofExcept_eq_done_iff {ε α : Type} {answer : Except ε α} {value : α} :
    ofExcept answer = .done value ↔ answer = .ok value := by
  cases answer <;> simp [ofExcept]

/-- A stage of the loop makes the calls of one tick at most. -/
theorem LoopRun.calls_next? {scheduler : Scheduler} {surroundings : Surroundings}
    {run next : LoopRun} (moved : run.next? scheduler surroundings = some next) :
    next.calls = run.calls ∨ ∃ leads kind now exporter,
      next.calls = run.calls ++ (scheduler.tick leads kind now exporter).calls := by
  rcases Option.ite_none_right_eq_some.mp moved with ⟨-, same⟩
  cases same
  cases taken : (branchOrder run.loop).findSome? (run.take? scheduler surroundings) with
  | none => exact .inl rfl
  | some next =>
      rcases List.exists_of_findSome?_eq_some taken with ⟨branch, -, taken⟩
      cases branch with
      | shutdown =>
          rcases Option.ite_none_right_eq_some.mp taken with ⟨-, same⟩
          cases same
          exact .inl rfl
      | failure =>
          cases received : run.loop.failures with
          | nil => simp only [take?, received, reduceCtorEq] at taken
          | cons failure rest =>
              simp only [take?, received, Option.some.injEq] at taken
              exact .inl (taken ▸ rfl)
      | ticker kind =>
          rcases Option.ite_none_right_eq_some.mp taken with ⟨-, same⟩
          cases same
          exact .inr ⟨_, kind, _, _, rfl⟩

namespace LiveCollection

variable {settings : Settings} {surroundings : Surroundings} {state next later : LiveCollection}

/-- What can become of collection: a stage with some answers, or something that
happens to the loop from outside. -/
inductive Turns (settings : Settings) (surroundings : Surroundings) (state : LiveCollection) :
    LiveCollection → Prop
  | stage {next : LiveCollection} (known : KnownAnswers)
      (goesOn : state.step settings surroundings known = .goOn next) :
      Turns settings surroundings state next
  | perform (event : CollectionLoop.Event) :
      Turns settings surroundings state (state.perform event)

/-- Whether the cell of the client has been moved by callers alone, and what
the last stage asked for goes by what the cell knows. -/
structure ByCell (state : LiveCollection) : Prop where
  atRest : state.client.AtRest
  runs : ∃ events, Moves.run? GenerationCell.step? .initial events = some state.client.cell
  suits : SuitOne state.client.cell.known (state.run.calls.map (·.2))

theorem byCell_start (settings : Settings) (connection : GatewayConnection)
    (surroundings : Surroundings) : (start settings connection surroundings).ByCell :=
  ⟨⟨rfl, rfl⟩, ⟨[], rfl⟩, suitOne_nil none⟩

/-- A generation that is known stays known. -/
def KeepsKnown (state next : LiveCollection) : Prop :=
  ∀ generation, state.client.cell.known = some generation →
    next.client.cell.known = some generation

end LiveCollection

namespace RestClient

variable {client : RestClient}

/-- After a client has asked for the generation its cell has still been moved by
callers alone, it knows what it knew, and it knows what was answered. -/
theorem AtRest.generation (atRest : client.AtRest) (server : RestServer)
    {events : List GenerationCell.Event}
    (ran : Moves.run? GenerationCell.step? .initial events = some client.cell) :
    (∃ later, Moves.run? GenerationCell.step? .initial later =
      some (client.generation server).2.cell) ∧
    (∀ generation, client.cell.known = some generation →
      (client.generation server).2.cell.known = some generation) ∧
    ∀ generation, (client.generation server).1.result = .ok generation →
      (client.generation server).2.cell.known = some generation := by
  have moves := atRest.movesCell server
  have continued := Moves.run?_append_eq_some_iff.mpr ⟨_, ran, moves.runs⟩
  have follows := follows_of_run continued
  refine ⟨⟨_, continued⟩, fun generation known => ?_, fun generation answered => ?_⟩
  · rw [follows.known, told?_append, ← (follows_of_run ran).known, known, Option.some_or]
  · exact follows.agreed _ generation (moves.answered.trans (congrArg some answered))

end RestClient

namespace LiveCollection

variable {settings : Settings} {surroundings : Surroundings} {state next later : LiveCollection}

/-- What a stage asks for goes by what the cell knows after it. -/
theorem ByCell.afterCalls (byCell : state.ByCell) (known : KnownAnswers)
    {calls : List (Instant × Request)} {now : Instant}
    (byOne : TickByOne (state.client.management known) now calls) :
    let client := state.client.afterCalls known (calls.map (·.2))
    client.AtRest ∧
      (∃ events, Moves.run? GenerationCell.step? .initial events = some client.cell) ∧
      SuitOne client.cell.known (calls.map (·.2)) ∧
      ∀ generation, state.client.cell.known = some generation →
        client.cell.known = some generation := by
  obtain ⟨events, ran⟩ := byCell.runs
  unfold RestClient.afterCalls
  by_cases asked : Request.generation ∈ calls.map (·.2)
  · obtain ⟨runs, keeps, tells⟩ := byCell.atRest.generation known.server ran
    rw [if_pos (List.contains_iff_mem.mpr asked)]
    refine ⟨(byCell.atRest.movesCell known.server).atRest, runs, byOne.suitOne ?_, keeps⟩
    exact fun _ _ generation told => tells generation (Outcome.ofExcept_eq_done_iff.mp told)
  · rw [if_neg fun contained => asked (List.contains_iff_mem.mp contained)]
    exact ⟨byCell.atRest, byCell.runs, byOne.suitOne fun member => absurd member asked,
      fun _ known => known⟩

/-- A stage is a login, which leaves the cell alone, or one of the loop. -/
theorem step_cases {known : KnownAnswers}
    (goesOn : state.step settings surroundings known = .goOn next) :
    (next.client.cell = state.client.cell ∧ next.run = state.run) ∨
      (forget state.run).next? (scheduler settings state.client known) surroundings =
          some next.run ∧
        next.client = state.client.afterCalls known (next.run.calls.map (·.2)) := by
  unfold step at goesOn
  split at goesOn
  · refine .inl ?_
    simp only [RestClient.refresh] at goesOn
    cases asked : known.missing? (state.client.connection.login known.server).sent with
    | some request => simp only [asked, reduceCtorEq] at goesOn
    | none =>
        simp only [asked, LiveStep.goOn.injEq] at goesOn
        exact goesOn ▸ ⟨rfl, rfl⟩
  · refine .inr ?_
    cases moved : (forget state.run).next? (scheduler settings state.client known) surroundings with
    | none => simp only [moved, reduceCtorEq] at goesOn
    | some run =>
        simp only [moved] at goesOn
        cases asked : known.missing? ((run.calls.map (·.2)).flatMap state.client.requestsOf) with
        | some request => simp only [asked, reduceCtorEq] at goesOn
        | none =>
            simp only [asked, LiveStep.goOn.injEq] at goesOn
            exact goesOn ▸ ⟨rfl, rfl⟩

theorem ByCell.stage (byCell : state.ByCell) {known : KnownAnswers}
    (goesOn : state.step settings surroundings known = .goOn next) :
    next.ByCell ∧ state.KeepsKnown next := by
  obtain ⟨cell, run⟩ | ⟨moved, client⟩ := step_cases goesOn
  · refine ⟨⟨?_, ?_, ?_⟩, fun _ known => cell ▸ known⟩
    · rw [RestClient.AtRest, cell]
      exact byCell.atRest
    · rw [cell]
      exact byCell.runs
    · rw [cell, run]
      exact byCell.suits
  · obtain ⟨now, byOne⟩ : ∃ now, TickByOne (state.client.management known) now next.run.calls := by
      obtain nothing | ⟨leads, kind, now, exporter, made⟩ := LoopRun.calls_next? moved
      · exact ⟨0, nothing ▸ .idle⟩
      · have byOne := tick_byOne (scheduler settings state.client known) leads kind now exporter
        exact ⟨now, made ▸ byOne⟩
    obtain ⟨atRest, runs, suits, keeps⟩ := byCell.afterCalls known byOne
    rw [← client] at atRest runs suits keeps
    exact ⟨⟨atRest, runs, suits⟩, keeps⟩

theorem Turns.byCell (turns : Turns settings surroundings state next) (byCell : state.ByCell) :
    next.ByCell ∧ state.KeepsKnown next := by
  cases turns with
  | stage known goesOn => exact byCell.stage goesOn
  | perform event => exact ⟨⟨byCell.atRest, byCell.runs, byCell.suits⟩, fun _ known => known⟩

/-- What collection comes to from some state on, whatever the gateway answers
and whatever happens from outside. -/
theorem ByCell.of_reaches (byCell : state.ByCell)
    (reaches : Relation.ReflTransGen (Turns settings surroundings) state later) :
    later.ByCell ∧ state.KeepsKnown later := by
  induction reaches with
  | refl => exact ⟨byCell, fun _ known => known⟩
  | tail _ turns ih =>
      obtain ⟨still, keeps⟩ := turns.byCell ih.1
      exact ⟨still, fun generation known => keeps generation (ih.2 generation known)⟩

/-- A client that knows the generation sends no request to learn it. -/
theorem ByCell.requestsOf_generation (byCell : state.ByCell) {generation : Generation}
    (known : state.client.cell.known = some generation) :
    state.client.requestsOf .generation = [] :=
  (byCell.atRest.movesCell _).silent (known ▸ Option.some_ne_none generation)

end LiveCollection

/-! ## All ticks -/

/-- Whether two states of collection, one after the other, go by one generation:
what their last stages asked for suits what is known, and what is known stays
known and is not asked for again. -/
structure LiveCollection.OneGeneration (state later : LiveCollection) : Prop where
  runs : ∃ events, Moves.run? step? .initial events = some state.client.cell
  suits : SuitOne state.client.cell.known (state.run.calls.map (·.2))
  known : ∀ generation, state.client.cell.known = some generation →
    later.client.cell.known = some generation ∧ later.client.requestsOf .generation = [] ∧
      SuitOne (some generation) (later.run.calls.map (·.2))

/-- Callers who share the cell of the generation, in whatever order they move,
ask the gateway until it tells a version, and no more.

Of the answers of a gateway exactly those tell a version that have a status of
success and a text as their body; every other answer, and every token that does
not come in time, costs the one who asked and nobody else.  A tick whose gateway
tells what the cell told one of its callers goes by the generation of the first
version.  So does collection from a real gateway, whatever that answers. -/
theorem generation_asked_until_told {events : List Event} {cell : GenerationCell}
    (ran : Moves.run? step? initial events = some cell) :
    AsksUntilTold events cell ∧
    (∀ connection server secret version,
      (GatewayCall.version.perform connection server (.ok secret)).result = .ok version ↔
        ∃ request answer,
          connection.request? "GET" "/api/version" secret none = some request ∧
            server request = some answer ∧ 200 ≤ answer.status ∧ answer.status < 300 ∧
              Json.ofString? answer.text = some (.string (some version))) ∧
    (∀ scheduler : Scheduler, cell.Tells scheduler.context.client →
      ∀ leads kind now exporter,
        SuitOne (told? events) ((scheduler.tick leads kind now exporter).calls.map (·.2)) ∧
          ∀ moment, ReadsBy (told? events) scheduler.context moment kind) ∧
    ∀ settings connection surroundings state later,
      Relation.ReflTransGen (LiveCollection.Turns settings surroundings)
        (.start settings connection surroundings) state →
      Relation.ReflTransGen (LiveCollection.Turns settings surroundings) state later →
        state.OneGeneration later := by
  have law := asksUntilTold_of_run ran
  refine ⟨law, fun _ _ _ _ => GatewayCall.reading_text_eq_ok_iff .., ?_, ?_⟩
  · intro scheduler tells leads kind now exporter
    have told : ∀ moment generation,
        (scheduler.context.client.generation moment).outcome = .done generation →
          told? events = some generation := by
      intro moment generation answered
      obtain ⟨ticket, given⟩ := tells moment generation answered
      exact law.known ▸ law.agreed ticket generation given
    exact ⟨(tick_byOne scheduler leads kind now exporter).suitOne fun _ => told,
      fun moment => readsBy (told moment) kind⟩
  · intro settings connection surroundings state later reaches continues
    have begun := LiveCollection.byCell_start settings connection surroundings
    have byCell := (begun.of_reaches reaches).1
    obtain ⟨after, keeps⟩ := byCell.of_reaches continues
    refine ⟨byCell.runs, byCell.suits, fun generation known => ?_⟩
    have still := keeps generation known
    exact ⟨still, after.requestsOf_generation still, still ▸ after.suits⟩

/-- Four callers: one gets no token, one no answer, one is told the version, and
one comes while the gateway is asked for the third time. -/
def slowStart : List Event :=
  [.want, .want, .proceed, .tokenMissed (.timeout "no token"), .proceed, .sendRequest,
    .answer (.error (.http "the connection was closed")), .want, .proceed, .sendRequest, .want,
    .answer (.ok "4.5.2"), .proceed]

/-- Two requests are sent, and the two callers who have met no fault are told
the same. -/
theorem slowStart_told :
    ∃ cell, Moves.run? step? initial slowStart = some cell ∧ AsksUntilTold slowStart cell ∧
      told? slowStart = some .legacy ∧ cell.requests = 2 ∧
      cell.answers.entries.map (fun answer => (answer.1, answer.2.toOption)) =
        [(0, none), (1, none), (2, some .legacy), (3, some .legacy)] :=
  ⟨_, rfl, (generation_asked_until_told rfl).1, by decide, rfl, by decide⟩

end StorageTelemetry
