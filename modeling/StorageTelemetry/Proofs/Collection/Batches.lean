import StorageTelemetry.Proofs.Collection.Routines
import StorageTelemetry.Proofs.Tables

namespace StorageTelemetry

/-!
# Batches serve all or nobody

A batch is fetched with one query for all identifiers, and with none if there
is none.  It is accepted exactly if the answer has a resource for each of
them, and then every identifier finds the last resource that carries it.
-/

/-- The last resource of an answer with an identifier. -/
def BulkResponse.last? (response : BulkResponse) (id : String) : Option BulkResource :=
  response.resources.reverse.find? (·.id = id)

theorem BulkResponse.exists_last?_iff (response : BulkResponse) (id : String) :
    (∃ resource, response.last? id = some resource) ↔
      ∃ resource ∈ response.resources, resource.id = id := by
  rw [← Option.isSome_iff_exists, last?, List.find?_isSome]
  simp

/-- Whether no batch comes of a query: there is something to be asked for, and
the query gets no answer, or one without resources, or one that lacks an
identifier. -/
def Client.BatchFails (client : Client) (query : BulkQuery) (moment : Instant) : Prop :=
  query.ids ≠ [] ∧
    ((∀ response, (client.bulk query moment).outcome ≠ .done response) ∨
      ∃ response, (client.bulk query moment).outcome = .done response ∧
        (response.resources = [] ∨
          ∃ id ∈ query.ids, ∀ resource ∈ response.resources, resource.id ≠ id))

/-- Whether a query is answered with a resource for an identifier, of which
the given one is the last. -/
def Client.Serves (client : Client) (query : BulkQuery) (moment : Instant) (id : String)
    (resource : BulkResource) : Prop :=
  ∃ response, (client.bulk query moment).outcome = .done response ∧
    response.last? id = some resource

namespace BulkBatch

/-- In a batch an identifier finds the last resource that carries it. -/
theorem get?_ofResponse (response : BulkResponse) (id : String) :
    (ofResponse response).resources.get? id = response.last? id := by
  rw [ofResponse, Table.get?_ofPairs, ← List.map_reverse, List.find?_map, Option.map_map]
  exact Option.map_id'

/-- An answer is accepted exactly if it has a resource for each identifier and
is not empty. -/
theorem fault?_eq_none_iff (resourceType : String) (ids : List String) (response : BulkResponse) :
    fault? resourceType ids response = none ↔
      response.resources ≠ [] ∧ ∀ id ∈ ids, ∃ resource ∈ response.resources, resource.id = id := by
  unfold fault?
  by_cases empty : response.resources = []
  · simp [empty]
  · simp [empty]

section

variable (client : Client) (resourceType : String) (ids metrics : List String) (moment : Instant)

variable {ids}

theorem fetch_of_ne_nil (wanted : ids ≠ []) :
    fetch client resourceType ids metrics =
      client.askBulk ⟨resourceType, ids, metrics⟩ >>= fun response =>
        match fault? resourceType ids response with
        | some fault => .fail fault
        | none => return ofResponse response := by
  have some : ids.isEmpty = false := by simpa using wanted
  simp only [fetch, some]
  rfl

/-- A batch comes of an answer that is accepted. -/
theorem fetch_eq_done_iff (wanted : ids ≠ []) {batch : BulkBatch} :
    (fetch client resourceType ids metrics moment).outcome = .done batch ↔
      ∃ response, (client.bulk ⟨resourceType, ids, metrics⟩ moment).outcome = .done response ∧
        fault? resourceType ids response = none ∧ batch = ofResponse response := by
  rw [fetch_of_ne_nil client resourceType metrics wanted, Routine.outcome_bind_eq_done_iff]
  refine exists_congr fun response => and_congr_right fun _ => ?_
  cases fault? resourceType ids response with
  | some fault => exact ⟨nofun, fun accepted => nomatch accepted.1⟩
  | none =>
      constructor
      · intro same
        exact ⟨rfl, (Outcome.done.inj same).symm⟩
      · rintro ⟨-, rfl⟩
        rfl

variable (ids)

/-- One query is sent for all identifiers, and none if there is none. -/
theorem calls_fetch :
    (fetch client resourceType ids metrics moment).calls =
      if ids = [] then [] else [(moment, .bulk ⟨resourceType, ids, metrics⟩)] := by
  by_cases nothing : ids = []
  · subst nothing
    rfl
  · rw [fetch_of_ne_nil client resourceType metrics nothing, if_neg nothing]
    simp only [Bind.bind, Routine.andThen, Client.askBulk, Routine.call]
    cases (client.bulk ⟨resourceType, ids, metrics⟩ moment).outcome with
    | done response =>
        dsimp only
        cases fault? resourceType ids response <;> rfl
    | failed fault => rfl
    | panicked panic => rfl

/-- A batch comes of a query unless the query is one that fails. -/
theorem exists_batch_iff :
    (∃ batch, (fetch client resourceType ids metrics moment).outcome = .done batch) ↔
      ¬ client.BatchFails ⟨resourceType, ids, metrics⟩ moment := by
  by_cases nothing : ids = []
  · subst nothing
    constructor
    · rintro - ⟨wanted, -⟩
      exact wanted rfl
    · intro _
      exact ⟨empty, rfl⟩
  · simp only [fetch_eq_done_iff client resourceType metrics moment nothing, fault?_eq_none_iff]
    constructor
    · rintro ⟨batch, response, answered, ⟨filled, complete⟩, -⟩
      rintro ⟨-, unanswered | ⟨other, same, lacks⟩⟩
      · exact unanswered response answered
      · obtain rfl := Outcome.done.inj (answered.symm.trans same)
        rcases lacks with blank | ⟨id, listed, absent⟩
        · exact filled blank
        · obtain ⟨resource, member, found⟩ := complete id listed
          exact absent resource member found
    · intro succeeds
      have answers : ∃ response,
          (client.bulk ⟨resourceType, ids, metrics⟩ moment).outcome = .done response := by
        by_contra none
        exact succeeds ⟨nothing, Or.inl fun response same => none ⟨response, same⟩⟩
      obtain ⟨response, answered⟩ := answers
      refine ⟨_, response, answered, ⟨fun blank => ?_, fun id listed => ?_⟩, rfl⟩
      · exact succeeds ⟨nothing, Or.inr ⟨response, answered, Or.inl blank⟩⟩
      · by_contra absent
        refine succeeds ⟨nothing, Or.inr ⟨response, answered, Or.inr ⟨id, listed, ?_⟩⟩⟩
        exact fun resource member found => absent ⟨resource, member, found⟩

/-- A batch has the last resource for each identifier that was asked for. -/
theorem exists_resource {batch : BulkBatch}
    (fetched : (fetch client resourceType ids metrics moment).outcome = .done batch) {id : String}
    (listed : id ∈ ids) :
    ∃ resource, batch.resources.get? id = some resource ∧
      client.Serves ⟨resourceType, ids, metrics⟩ moment id resource := by
  obtain ⟨response, answered, accepted, rfl⟩ :=
    (fetch_eq_done_iff client resourceType metrics moment (List.ne_nil_of_mem listed)).mp fetched
  have complete := ((fault?_eq_none_iff resourceType ids response).mp accepted).2
  obtain ⟨resource, last⟩ := (response.exists_last?_iff id).mpr (complete id listed)
  exact ⟨resource, (get?_ofResponse response id).trans last, response, answered, last⟩

end

end BulkBatch
end StorageTelemetry
