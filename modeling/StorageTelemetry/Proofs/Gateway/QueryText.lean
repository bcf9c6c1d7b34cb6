import StorageTelemetry.Gateway.Calls
import StorageTelemetry.Proofs.Json.Writing

namespace StorageTelemetry

/-!
# The text of a batched query

One query asks for all entities of a kind, under identifiers that the gateway chose.
An identifier is any text at all, and may have quotes, backslashes and control
characters.  Whatever it has, it stays within its own string: the text of a query is
one document, which has the three members of the query and in them its own texts, in
their order.  So different queries have different texts.
-/

open Json

namespace BulkQuery

theorem regular_toJson (query : BulkQuery) : Regular query.toJson := by
  apply regular_ofMembers
  simp only [List.forall_mem_cons]
  exact ⟨regular_ofText _, regular_ofTexts _, regular_ofTexts _, nofun⟩

theorem ofTexts_injective {first second : List String} (same : ofTexts first = ofTexts second) :
    first = second := by
  refine (List.map_inj_right fun text text' same => ?_).mp (Json.array.inj same)
  exact Option.some.inj (Json.string.inj same)

theorem toJson_injective {first second : BulkQuery} (same : first.toJson = second.toJson) :
    first = second := by
  have members := Json.object.inj same
  simp only [List.map_cons, List.cons.injEq, Prod.mk.injEq, true_and] at members
  rcases members with ⟨resourceType, ids, metrics, _⟩
  rcases first with ⟨⟩
  rcases second with ⟨⟩
  cases Option.some.inj (Json.string.inj resourceType)
  cases ofTexts_injective ids
  cases ofTexts_injective metrics
  rfl

/-- What is sent for a query is its text. -/
theorem body_of_sent (query : BulkQuery) (connection : GatewayConnection) (server : RestServer)
    (token : Except Fault String) :
    ∀ request ∈ ((GatewayCall.bulk query).perform connection server token).sent,
      request.body = query.toJson.compact := by
  intro request sent
  cases token with
  | error _ => cases sent
  | ok token =>
    simp only [GatewayCall.perform, GatewayCall.bulk, GatewayConnection.exchange,
      GatewayConnection.request?] at sent
    cases location : Location.ofAddress? (connection.address "/dtapi/rest/v1/metrics/query") with
    | none => simp [location] at sent
    | some location' =>
      simp only [location, Option.map_some, List.mem_singleton] at sent
      subst sent
      rfl

/-- The text of a query is one document and stands for no other.  Reading it gives
the texts of the query under the three keys, and so the query.  It is this text that
is sent. -/
theorem query_text_decodes :
    (∀ query : BulkQuery,
      IsText query.toJson query.toJson.compact ∧
      (∀ document, IsText document query.toJson.compact → document = query.toJson) ∧
      ofString? query.toJson.compact = some (.object
        [(some "resource_type", .string (some query.resourceType)),
         (some "ids", .array (query.ids.map fun id => .string (some id))),
         (some "metrics", .array (query.metrics.map fun metric => .string (some metric)))]) ∧
      ∀ connection server token,
        ∀ request ∈ ((GatewayCall.bulk query).perform connection server token).sent,
          request.body = query.toJson.compact) ∧
    Function.Injective fun query : BulkQuery => query.toJson.compact := by
  have decoded : ∀ query : BulkQuery, ofString? query.toJson.compact = some query.toJson :=
    fun query => ofString?_compact query.regular_toJson
  refine ⟨fun query => ⟨isText_compact query.regular_toJson, ?_, decoded query,
    query.body_of_sent⟩, ?_⟩
  · intro document text
    exact Option.some.inj ((ofString?_of_isText text).symm.trans (decoded query))
  · intro first second same
    have documents : some first.toJson = some second.toJson := by
      rw [← decoded first, ← decoded second]
      exact congrArg ofString? same
    exact toJson_injective (Option.some.inj documents)

/-- An identifier that looks like the end of the identifiers. -/
example : (BulkQuery.toJson ⟨"volume", ["\"],"], []⟩).compact =
    "\x7b\"resource_type\":\"volume\",\"ids\":[\"\\\"],\"],\"metrics\":[]\x7d" := by
  decide

end BulkQuery
end StorageTelemetry
