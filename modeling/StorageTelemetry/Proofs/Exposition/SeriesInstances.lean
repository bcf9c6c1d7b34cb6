import StorageTelemetry.Proofs.Exposition.MeterHistory

namespace StorageTelemetry

/-!
# Instances of series

The registry keeps a number with every series and with every handle, and a
handle reaches a series if both numbers agree.  New series get new numbers, so
a handle that was given out for an earlier series does not reach a later one
under the same target.  From this follows that every run leaves the registry as
its history calls for.
-/

namespace Registry

/-- The help text and the label keys of the family with a name. -/
def describes? (registry : Registry) (name : String) : Option (String × List String) :=
  (registry.family? name).map fun family => (family.help, family.keys)

theorem describes?_eq (registry : Registry) (name : String) :
    registry.describes? name = (registry.descriptions.find? (·.1 = name)).map (·.2) := by
  rw [describes?, family?, descriptions, List.find?_map, Option.map_map]
  rfl

theorem describes?_congr {registry after : Registry}
    (same : after.descriptions = registry.descriptions) (name : String) :
    after.describes? name = registry.describes? name := by
  rw [describes?_eq, describes?_eq, same]

theorem describes?_register {registry : Registry} {name : String}
    (unknown : registry.family? name = none) (help : String) (keys : List String)
    (other : String) :
    (registry.register ⟨name, help, keys, []⟩).describes? other =
      (registry.describes? other).or (if name = other then some (help, keys) else none) := by
  unfold describes? family? register
  rw [List.find?_append]
  by_cases here : name = other
  · subst here
    have missing : registry.families.find? (·.name = name) = none := unknown
    simp [missing]
  · simp [here]

/-! ## Creating -/

theorem Apart.exists_shownAt {registry : Registry} (apart : registry.Apart) {handle : Handle}
    (reaches : registry.Reaches handle) : ∃ value, registry.shownAt handle.target = some value := by
  obtain ⟨series, member, values, -⟩ := reaches
  exact ⟨series.value, (apart.shownAt_iff _ _).mpr ⟨series, member, values, rfl⟩⟩

/-- What comes of a creation that gives a handle.  Either there is a series under
its target already, and then nothing changes, or one is added at zero that has
the number of the handle. -/
structure Grants (registry : Registry) (name help : String) (labels : LabelSet)
    (handle : Handle) (after : Registry) : Prop where
  apart : after.Apart
  bare : after.bare = registry.bare
  target : handle.target = (name, labels.values)
  describes : ∀ other, after.describes? other =
    (registry.describes? other).or (if name = other then some (help, labels.keys) else none)
  valid : registry.describes? name = none → registrationFault? name help labels.keys = none
  series : registry.Reaches handle ∧ after = registry ∨
    (∀ series ∈ registry.seriesAt name, series.values ≠ labels.values) ∧
      handle.id = registry.nextId ∧ after.nextId = registry.nextId + 1 ∧
      ∀ other, after.seriesAt other =
        if other = name then registry.seriesAt name ++ [⟨registry.nextId, labels.values, .zero⟩]
        else registry.seriesAt other

/-- Attaching a series to a known family grants a handle. -/
theorem Apart.grants_attach {registry : Registry} (apart : registry.Apart) {family : Family}
    (listed : family ∈ registry.families) (help : String) {labels : LabelSet}
    (keys : family.keys = labels.keys) :
    registry.Grants family.name help labels (registry.attach family labels.values).1
      (registry.attach family labels.values).2 := by
  have there := apart.family?_of_mem listed
  have series := apart.seriesAt_of_mem listed
  have valid : registry.describes? family.name = none →
      registrationFault? family.name help labels.keys = none := by
    intro unknown
    rw [describes?, there] at unknown
    cases unknown
  have known : ∀ other, registry.describes? other = (registry.describes? other).or
      (if family.name = other then some (help, labels.keys) else none) := by
    intro other
    by_cases here : family.name = other
    · subst here
      simp [describes?, there]
    · simp [here]
  cases found : family.series.find? (·.values = labels.values) with
  | some old =>
      have gave : registry.attach family labels.values =
          (⟨family.name, labels.values, old.id⟩, registry) := by
        unfold Registry.attach
        rw [found]
      rw [gave]
      refine ⟨apart, rfl, rfl, known, valid, Or.inl ⟨⟨old, ?_, ?_, rfl⟩, rfl⟩⟩
      · rw [series]
        exact List.mem_of_find?_eq_some found
      · simpa using List.find?_some found
  | none =>
      have fresh : ∀ series ∈ family.series, series.values ≠ labels.values :=
        fun series member => by simpa using List.find?_eq_none.mp found series member
      have fits : labels.values.length = family.keys.length := by
        rw [keys, LabelSet.values, LabelSet.keys, List.length_map, List.length_map]
      have adds := apart.attach labels.values listed fresh fits
      rw [attach_new fresh] at adds ⊢
      exact ⟨adds.apart, rfl, rfl,
        fun other => (describes?_congr adds.described other).trans (known other), valid,
        Or.inr ⟨series ▸ fresh, rfl, rfl, adds.seriesAt⟩⟩

theorem Apart.grants {registry after : Registry} (apart : registry.Apart) {name help : String}
    {labels : LabelSet} {handle : Handle}
    (created : registry.create name help labels = .ok (handle, after)) :
    registry.Grants name help labels handle after := by
  unfold create at created
  cases found : registry.family? name with
  | some family =>
      obtain ⟨listed, rfl⟩ := mem_of_family? found
      rw [found] at created
      by_cases keys : family.keys = labels.keys
      · simp only [if_pos keys, Except.ok.injEq] at created
        have grants := apart.grants_attach listed help keys
        rwa [created] at grants
      · simp only [if_neg keys] at created
        cases created
  | none =>
      rw [found] at created
      cases valid : registrationFault? name help labels.keys with
      | some fault =>
          rw [valid] at created
          cases created
      | none =>
          simp only [valid, Except.ok.injEq] at created
          have registered := apart.register found help labels.keys
          have listed : ⟨name, help, labels.keys, []⟩ ∈
              (registry.register ⟨name, help, labels.keys, []⟩).families :=
            List.mem_append_right _ List.mem_cons_self
          have keys : (Family.mk name help labels.keys []).keys = labels.keys := rfl
          have grants := registered.grants_attach listed help keys
          have opened : (registry.register ⟨name, help, labels.keys, []⟩).attach
              ⟨name, help, labels.keys, []⟩ labels.values = (handle, after) := created
          rw [opened] at grants
          refine ⟨grants.apart, grants.bare, grants.target, fun other => ?_, fun _ => valid,
            Or.inr ?_⟩
          · rw [grants.describes, describes?_register found]
            cases registry.describes? other <;> by_cases here : name = other <;> simp [here]
          · have series := grants.series
            simp only [seriesAt_register found] at series
            have none : registry.seriesAt name = [] := by
              rw [seriesAt, found]
              rfl
            rcases series with ⟨⟨old, member, -⟩, -⟩ | added
            · have family : handle.family = name := congrArg Prod.fst grants.target
              rw [family, seriesAt_register found, none] at member
              cases member
            · exact added

section

variable {registry after : Registry} {name help : String} {labels : LabelSet} {handle : Handle}
  (grants : registry.Grants name help labels handle after)
include grants

theorem Grants.reaches_self : after.Reaches handle := by
  rcases grants.series with ⟨reaches, rfl⟩ | ⟨-, id, -, added⟩
  · exact reaches
  · refine (reaches_of_added added _).mpr (Or.inr ?_)
    exact Handle.mk.injEq .. ▸
      ⟨congrArg Prod.fst grants.target, congrArg Prod.snd grants.target, id⟩

/-- Handles that were given out before reach what they did. -/
theorem Grants.reaches_iff {other : Handle} (issued : other.id < registry.nextId) :
    after.Reaches other ↔ registry.Reaches other := by
  rcases grants.series with ⟨-, rfl⟩ | ⟨-, -, -, added⟩
  · rfl
  · rw [reaches_of_added added]
    refine or_iff_left fun same => ?_
    rw [same] at issued
    exact Nat.lt_irrefl _ issued

/-- A creation shows its target, at zero unless a value is shown already. -/
theorem Grants.shownAt (apart : registry.Apart) (target : Target) :
    after.shownAt target =
      if target = (name, labels.values) then some ((registry.shownAt target).getD .zero)
      else registry.shownAt target := by
  rcases grants.series with ⟨reaches, rfl⟩ | ⟨fresh, -, -, added⟩
  · obtain ⟨value, shown⟩ := apart.exists_shownAt reaches
    by_cases here : target = (name, labels.values)
    · rw [grants.target, ← here] at shown
      rw [if_pos here, shown]
      rfl
    · rw [if_neg here]
  · rw [shownAt_of_added added fresh]
    by_cases here : target = (name, labels.values)
    · have missing : registry.shownAt target = none := by
        rw [here, Registry.shownAt, List.find?_eq_none.mpr fun series member => by
          simpa using fresh series member]
        rfl
      rw [if_pos here, if_pos here, missing]
      rfl
    · rw [if_neg here, if_neg here]

theorem Grants.nextId_le : registry.nextId ≤ after.nextId := by
  rcases grants.series with ⟨-, rfl⟩ | ⟨-, -, next, -⟩
  · exact Nat.le_refl _
  · rw [next]
    exact Nat.le_succ _

/-- Numbers of series are below the next one, also that of the new series. -/
theorem Grants.numbered (numbered : ∀ name, ∀ series ∈ registry.seriesAt name,
    series.id < registry.nextId) (other : String) :
    ∀ series ∈ after.seriesAt other, series.id < after.nextId := by
  intro series member
  rcases grants.series with ⟨-, rfl⟩ | ⟨-, -, next, added⟩
  · exact numbered other series member
  · rw [added] at member
    by_cases here : other = name
    · rw [if_pos here] at member
      rcases List.mem_append.mp member with old | new
      · exact Nat.lt_of_lt_of_le (numbered name series old) grants.nextId_le
      · rw [List.mem_singleton.mp new, next]
        exact Nat.lt_succ_self _
    · rw [if_neg here] at member
      exact Nat.lt_of_lt_of_le (numbered other series member) grants.nextId_le

theorem Grants.issued (numbered : ∀ name, ∀ series ∈ registry.seriesAt name,
    series.id < registry.nextId) : handle.id < after.nextId := by
  obtain ⟨series, member, -, number⟩ := grants.reaches_self
  exact number ▸ grants.numbered numbered _ series member

end

/-- Creations are answered by what is known of the family. -/
theorem create_answer (registry : Registry) (name help : String) (labels : LabelSet) :
    (registry.create name help labels).map (fun _ => ()) =
      creationVerdict (registry.describes? name) name help labels := by
  unfold create describes? creationVerdict
  cases found : registry.family? name with
  | some family =>
      obtain ⟨-, rfl⟩ := mem_of_family? found
      by_cases keys : family.keys = labels.keys
      · simp [keys, Except.map]
      · simp [keys, Except.map, keysFault]
  | none => cases registrationFault? name help labels.keys <;> rfl

/-! ## Setting and reaching -/

/-- Changing the series of one family brings no new numbers. -/
theorem numbered_of_changed {registry after : Registry} {family : String}
    {changed : List Series} {bound : Nat}
    (seriesAt : ∀ name, after.seriesAt name =
      if name = family then changed else registry.seriesAt name)
    (kept : ∀ series ∈ changed, ∃ old ∈ registry.seriesAt family, old.id = series.id)
    (numbered : ∀ name, ∀ series ∈ registry.seriesAt name, series.id < bound) (name : String) :
    ∀ series ∈ after.seriesAt name, series.id < bound := by
  intro series member
  rw [seriesAt] at member
  by_cases here : name = family
  · rw [if_pos here] at member
    rcases kept series member with ⟨old, listed, same⟩
    exact same ▸ numbered family old listed
  · rw [if_neg here] at member
    exact numbered name series member

/-- A handle that reaches nothing sets nothing. -/
theorem Apart.set_of_stale {registry : Registry} (apart : registry.Apart) {handle : Handle}
    (stale : ¬registry.Reaches handle) (value : Double) : registry.set handle value = registry := by
  have unset : ∀ family ∈ registry.families, family.name = handle.family →
      setSeries handle value family.series = family.series := by
    intro family listed named
    refine (List.map_congr_left fun series member => ?_).trans (List.map_id family.series)
    refine if_neg fun reached => stale ⟨series, ?_, by simpa using reached⟩
    rw [← named, apart.seriesAt_of_mem listed]
    exact member
  have same : registry.families.map (fun family => if family.name = handle.family
      then { family with series := setSeries handle value family.series } else family) =
        registry.families := by
    refine (List.map_congr_left fun family listed => ?_).trans (List.map_id registry.families)
    by_cases named : family.name = handle.family
    · rw [if_pos named, unset family listed named]
      rfl
    · exact if_neg named
  rw [set_eq, Registry.modifySeries, modifyFamily, same]

end Registry

/-! ## Runs reflect their histories -/

namespace MeterSession

/-- Whether a registry is as the history of a run calls for: its families and
series are those of the history, and the handles in force are those that reach a
series. -/
structure Reflects (session : MeterSession) : Prop where
  apart : session.registry.Apart
  bare : session.registry.bare = Registry.empty.bare
  valid : ∀ name description, session.history.description? name = some description →
    Registry.registrationFault? name description.1 description.2 = none
  numbered : ∀ name, ∀ series ∈ session.registry.seriesAt name,
    series.id < session.registry.nextId
  issued : ∀ handle ∈ session.handles, handle.id < session.registry.nextId
  described : ∀ name, session.registry.describes? name = session.history.description? name
  shown : ∀ target, session.registry.shownAt target = session.history.shown? target
  targets : session.handles.map Handle.target = session.history.targets
  reaches : ∀ number handle, session.handles[number]? = some handle →
    (session.registry.Reaches handle ↔ session.history.inForce number = true)

theorem reflects_start : start.Reflects where
  apart := Registry.apart_empty
  bare := rfl
  valid := nofun
  numbered := nofun
  issued := nofun
  described _ := rfl
  shown _ := rfl
  targets := rfl
  reaches := nofun

variable {session : MeterSession}

theorem Reflects.length_targets (reflects : session.Reflects) :
    session.history.targets.length = session.handles.length := by
  rw [← reflects.targets, List.length_map]

theorem Reflects.targets_getElem? (reflects : session.Reflects) (number : Nat) :
    session.history.targets[number]? = (session.handles[number]?).map Handle.target := by
  rw [← reflects.targets, List.getElem?_map]

/-- A creation that gives a handle is reflected. -/
theorem Reflects.create (reflects : session.Reflects) {name help : String} {labels : LabelSet}
    {handle : Handle} {after : Registry}
    (created : session.registry.create name help labels = .ok (handle, after)) :
    (MeterSession.mk after (session.handles ++ [handle])
      (.create name help labels :: session.history)).Reflects := by
  have grants := reflects.apart.grants created
  refine ⟨grants.apart, grants.bare.trans reflects.bare, ?_, grants.numbered reflects.numbered,
    ?_, fun other => ?_, fun target => ?_, ?_, fun number other given => ?_⟩
  · intro other description known
    rcases Option.or_eq_some_iff.mp known with before | ⟨unknown, first⟩
    · exact reflects.valid other description before
    · by_cases here : name = other
      · subst here
        rw [if_pos rfl, Option.some.injEq] at first
        subst first
        exact grants.valid ((reflects.described name).trans unknown)
      · rw [if_neg here] at first
        cases first
  · rw [List.forall_mem_append, List.forall_mem_singleton]
    exact ⟨fun other given => Nat.lt_of_lt_of_le (reflects.issued other given) grants.nextId_le,
      grants.issued reflects.numbered⟩
  · rw [grants.describes, reflects.described]
    rfl
  · rw [grants.shownAt reflects.apart, reflects.shown]
    rfl
  · rw [List.map_append, reflects.targets, List.map_singleton, grants.target]
    rfl
  · rw [MeterHistory.inForce, Bool.or_eq_true, beq_iff_eq, reflects.length_targets]
    rcases Nat.lt_or_ge number session.handles.length with before | beyond
    · rw [List.getElem?_append_left before] at given
      rw [or_iff_right (Nat.ne_of_lt before), ← reflects.reaches number other given]
      exact grants.reaches_iff (reflects.issued other (List.mem_of_getElem? given))
    · rw [List.getElem?_append_right beyond, List.getElem?_singleton] at given
      split_ifs at given with last
      cases given
      exact iff_of_true grants.reaches_self (Or.inl (by omega))

/-- The handle of a call, with what its history knows about it. -/
theorem Reflects.aimed (reflects : session.Reflects) {number : Nat} {handle : Handle}
    (given : session.handles[number]? = some handle) (target : Target) :
    session.history.targets[number]? = some target ↔ target = handle.target := by
  rw [reflects.targets_getElem?, given, Option.map_some, Option.some.injEq, eq_comm]

/-- A call through a handle that was never given out is reflected. -/
theorem Reflects.unaimed (reflects : session.Reflects) {number : Nat}
    (given : session.handles[number]? = none) (target : Target) :
    session.history.targets[number]? ≠ some target := by
  rw [reflects.targets_getElem?, given]
  exact nofun

theorem through_of_none {number : Nat} (given : session.handles[number]? = none)
    (act : Registry → Handle → Registry) : session.through number act = session.registry := by
  rw [through, given]
  rfl

theorem through_of_some {number : Nat} {handle : Handle}
    (given : session.handles[number]? = some handle) (act : Registry → Handle → Registry) :
    session.through number act = act session.registry handle := by
  rw [through, given]
  rfl

/-- Setting through a handle is reflected, whether or not the handle is stale. -/
theorem Reflects.set (reflects : session.Reflects) (number : Nat) (value : Double) :
    (session.call (.set number value)).2.Reflects := by
  cases given : session.handles[number]? with
  | none =>
      have unchanged : (session.call (.set number value)).2 =
          { session with history := .set number value :: session.history } := by
        simp only [MeterSession.call, through_of_none given]
      rw [unchanged]
      refine { reflects with shown := fun target => ?_ }
      rw [MeterHistory.shown?, if_neg fun both => reflects.unaimed given target both.2]
      exact reflects.shown target
  | some handle =>
      have changed : (session.call (.set number value)).2 =
          { session with
            registry := session.registry.set handle value
            history := .set number value :: session.history } := by
        simp only [MeterSession.call, through_of_some given]
        rfl
      rw [changed]
      refine { reflects with
        apart := reflects.apart.set handle value
        numbered := Registry.numbered_of_changed (session.registry.seriesAt_set handle value)
          (fun series member => ?_) reflects.numbered
        described := fun name => ?_
        shown := fun target => ?_
        reaches := fun other held given' => ?_ }
      · rcases (Registry.exists_mem_setSeries handle value _ series.values series.id).mp
          ⟨series, member, rfl, rfl⟩ with ⟨old, listed, -, same⟩
        exact ⟨old, listed, same⟩
      · refine (Registry.describes?_congr ?_ name).trans (reflects.described name)
        exact Registry.descriptions_modifySeries ..
      · have force := reflects.reaches number handle given
        by_cases reaches : session.registry.Reaches handle
        · simp only [MeterHistory.shown?, reflects.aimed given, force.mp reaches, true_and,
            ← reflects.shown]
          exact reflects.apart.shownAt_set reaches value target
        · rw [MeterHistory.shown?, if_neg fun both => reaches (force.mpr both.1),
            ← reflects.shown]
          exact congrArg (Registry.shownAt · target) (reflects.apart.set_of_stale reaches value)
      · exact (session.registry.reaches_set handle value held).trans
          (reflects.reaches other held given')

theorem Reflects.retire (reflects : session.Reflects) (number : Nat) :
    (session.call (.retire number)).2.Reflects := by
  cases given : session.handles[number]? with
  | none =>
      have unchanged : (session.call (.retire number)).2 =
          { session with history := .retire number :: session.history } := by
        simp only [MeterSession.call, through_of_none given]
      rw [unchanged]
      refine { reflects with
        shown := fun target => ?_
        reaches := fun other held given' => ?_ }
      · rw [MeterHistory.shown?, if_neg (reflects.unaimed given target)]
        exact reflects.shown target
      · have elsewhere : session.history.targets[number]? ≠ session.history.targets[other]? := by
          rw [(reflects.aimed given' _).mpr rfl]
          exact reflects.unaimed given _
        rw [MeterHistory.inForce, bne_iff_ne.mpr elsewhere, Bool.and_true]
        exact reflects.reaches other held given'
  | some handle =>
      have changed : (session.call (.retire number)).2 =
          { session with
            registry := session.registry.retire handle
            history := .retire number :: session.history } := by
        simp only [MeterSession.call, through_of_some given]
        rfl
      rw [changed]
      refine { reflects with
        apart := reflects.apart.retire handle
        numbered := Registry.numbered_of_changed (session.registry.seriesAt_retire handle)
          (fun series member => ⟨series, (List.mem_filter.mp member).1, rfl⟩) reflects.numbered
        described := fun name => ?_
        shown := fun target => ?_
        reaches := fun other held given' => ?_ }
      · refine (Registry.describes?_congr ?_ name).trans (reflects.described name)
        exact Registry.descriptions_modifySeries ..
      · simp only [MeterHistory.shown?, reflects.aimed given, ← reflects.shown]
        exact session.registry.shownAt_retire handle target
      · rw [MeterHistory.inForce, Bool.and_eq_true, bne_iff_ne, (reflects.aimed given' _).mpr rfl,
          ne_eq, reflects.aimed given, ← reflects.reaches other held given']
        exact session.registry.reaches_retire handle held

theorem Reflects.call (reflects : session.Reflects) (call : MeterCall) :
    (session.call call).2.Reflects := by
  cases call with
  | create name help labels =>
      simp only [MeterSession.call, Meter.create]
      cases created : session.registry.create name help labels with
      | error fault => exact reflects
      | ok given => exact reflects.create created
  | set number value => exact reflects.set number value
  | retire number => exact reflects.retire number

/-- Every run is reflected. -/
theorem Reflects.callAll (reflects : session.Reflects) (calls : List MeterCall) :
    (session.callAll calls).2.Reflects := by
  induction calls generalizing session with
  | nil => exact reflects
  | cons call rest ih => exact ih (reflects.call call)

/-- Creations are answered as the history calls for. -/
theorem Reflects.answer (reflects : session.Reflects) (name help : String) (labels : LabelSet) :
    (session.call (.create name help labels)).1 =
      creationVerdict (session.history.description? name) name help labels := by
  rw [← reflects.described, ← Registry.create_answer]
  simp only [MeterSession.call, Meter.create]
  cases session.registry.create name help labels <;> rfl

end MeterSession
end StorageTelemetry
