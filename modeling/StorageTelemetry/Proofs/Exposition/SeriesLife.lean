import StorageTelemetry.Proofs.Exposition.RenderedSeries

namespace StorageTelemetry

/-!
# The life of a series

A series begins at zero when it is created, shows what is set through the handles
of its instance, and ends when any handle with its target retires it.  Handles
that outlive it do nothing, also after the target has come into use again.
-/

namespace MeterSession

variable {session : MeterSession}

/-! ## What is rendered -/

theorem Reflects.registry_valid (reflects : session.Reflects) : session.registry.Valid := by
  intro family listed
  have known : session.history.description? family.name = some (family.help, family.keys) := by
    rw [← reflects.described, Registry.describes?, reflects.apart.family?_of_mem listed]
    rfl
  exact reflects.valid family.name _ known

/-- A text is rendered after a run, and these series are read in it: whether the last
session was usable, and each series that the history shows, under the first
description of its family.  No two of them share their name and label values. -/
structure Rendered (session : MeterSession) (text : String) (series : List ExportedSeries) :
    Prop where
  rendered : session.registry.render = .ok text
  read : Exposition.read? text = some series
  mem_iff : ∀ shown, shown ∈ series ↔
    shown = ⟨"powerflex_up", "PowerFlex gateway reachable and authenticated (1=yes, 0=no)",
      "gauge", [], .zero⟩ ∨
    ∃ name help keys values value, session.history.description? name = some (help, keys) ∧
      session.history.shown? (name, values) = some value ∧
      shown = ⟨name, help, "gauge", sortLabels (keys.zip values), value⟩
  distinct : (series.map fun shown => (shown.name, shown.labels.map Prod.snd)).Nodup

theorem Reflects.exists_rendered (reflects : session.Reflects) :
    ∃ text series, session.Rendered text series := by
  have own : session.registry.ownFamilies.flatMap ShownFamily.exported =
      [⟨"powerflex_up", "PowerFlex gateway reachable and authenticated (1=yes, 0=no)", "gauge",
        [], .zero⟩] := by
    have same : session.registry.bare.ownFamilies = Registry.empty.bare.ownFamilies :=
      congrArg Registry.ownFamilies reflects.bare
    have empty : session.registry.ownFamilies = Registry.empty.ownFamilies := same
    rw [empty]
    simp [Registry.ownFamilies, ShownFamily.ofKinds, ShownFamily.exported, sortSeries,
      Registry.empty, Table.empty]
  rcases reflects.registry_valid.exists_text with ⟨text, rendered, read⟩
  refine ⟨text, _, rendered, read, fun series => ?_,
    reflects.apart.nodup_renderedSeries reflects.registry_valid (by simp [own])⟩
  rw [session.registry.renderedSeries_perm.mem_iff, List.mem_append, or_comm, own]
  refine or_congr List.mem_singleton ?_
  simp only [List.mem_flatMap, List.mem_map, ← reflects.described, ← reflects.shown,
    reflects.apart.shownAt_iff]
  constructor
  · rintro ⟨family, listed, held, member, rfl⟩
    refine ⟨family.name, family.help, family.keys, held.values, held.value, ?_,
      ⟨held, ?_, rfl, rfl⟩, rfl⟩
    · rw [Registry.describes?, reflects.apart.family?_of_mem listed]
      rfl
    · rw [reflects.apart.seriesAt_of_mem listed]
      exact member
  · rintro ⟨name, help, keys, values, value, described, ⟨held, member, rfl, rfl⟩, rfl⟩
    obtain ⟨family, listed, rfl, inFamily⟩ := Registry.exists_family_of_mem_seriesAt member
    rw [Registry.describes?, reflects.apart.family?_of_mem listed] at described
    cases described
    exact ⟨family, listed, held, inFamily, rfl⟩

/-! ## What calls do -/

/-- Setting through a stale handle changes nothing. -/
theorem Reflects.set_of_stale (reflects : session.Reflects) {number : Nat}
    (stale : session.history.inForce number = false) (value : Double) :
    (session.call (.set number value)).2.registry = session.registry := by
  simp only [MeterSession.call, through]
  cases given : session.handles[number]? with
  | none => rfl
  | some handle =>
      refine reflects.apart.set_of_stale (fun reaches => ?_) value
      rw [reflects.reaches number handle given, stale] at reaches
      cases reaches

/-- The laws of handles after a run.  What is set through a handle in force is
shown under its target and nowhere else; what is set through a stale handle has
no effect, now or after any further calls. -/
structure HandlesAct (session : MeterSession) : Prop where
  set : ∀ number handle value target, session.handles[number]? = some handle →
    session.history.inForce number = true →
    (session.call (.set number value)).2.registry.shownAt target =
      if target = handle.target then some value else session.registry.shownAt target
  stale : ∀ number, number < session.handles.length → session.history.inForce number = false →
    ∀ calls value, let after := (session.callAll calls).2
      (after.call (.set number value)).2.registry = after.registry
  retire : ∀ number handle target, session.handles[number]? = some handle →
    (session.call (.retire number)).2.registry.shownAt target =
      if target = handle.target then none else session.registry.shownAt target
  retired : ∀ number handle older held, session.handles[number]? = some handle →
    session.handles[older]? = some held → held.target = handle.target →
    (session.call (.retire number)).2.history.inForce older = false

theorem Reflects.handlesAct (reflects : session.Reflects) : session.HandlesAct where
  set number handle value target given inForce := by
    rw [(reflects.set number value).shown]
    have shown : (session.call (.set number value)).2.history =
        .set number value :: session.history := rfl
    simp only [shown, MeterHistory.shown?, inForce, reflects.aimed given, true_and,
      ← reflects.shown]
  stale number given stale calls value := by
    obtain ⟨later, grown⟩ := session.exists_history_callAll calls
    refine (reflects.callAll calls).set_of_stale ?_ value
    rw [grown]
    exact MeterHistory.stale_append (reflects.length_targets ▸ given) stale later
  retire number handle target given := by
    rw [(reflects.retire number).shown]
    have shown : (session.call (.retire number)).2.history =
        .retire number :: session.history := rfl
    simp only [shown, MeterHistory.shown?, reflects.aimed given, ← reflects.shown]
  retired number handle older held given given' same := by
    have shown : (session.call (.retire number)).2.history =
        .retire number :: session.history := rfl
    rw [shown, MeterHistory.inForce, (reflects.aimed given _).mpr rfl,
      (reflects.aimed given' _).mpr rfl, same, bne_self_eq_false, Bool.and_false]

/-- The laws of creations after a run.  A refusal leaves everything as it was.
A family is described for ever as at first, and creations with other keys are
refused.  Under a target with a series, a creation gives the handle that reaches
it and changes nothing; otherwise the new series is shown at zero, and handles
that were given out before are as stale as they were. -/
structure CreationsAct (session : MeterSession) : Prop where
  answer : ∀ name help labels, (session.call (.create name help labels)).1 =
    creationVerdict (session.history.description? name) name help labels
  refused : ∀ call fault, (session.call call).1 = .error fault → (session.call call).2 = session
  opened : ∀ name help labels, session.history.description? name = none →
    (session.call (.create name help labels)).1 = .ok () →
    (session.call (.create name help labels)).2.registry.describes? name =
      some (help, labels.keys)
  described : ∀ name help keys, session.registry.describes? name = some (help, keys) →
    ∀ calls, let after := (session.callAll calls).2
      after.registry.describes? name = some (help, keys) ∧
        ∀ help' labels, labels.keys ≠ keys → (after.call (.create name help' labels)).1 =
          .error (Registry.keysFault ⟨name, help, keys, []⟩ labels.keys)
  again : ∀ name help labels value, (session.call (.create name help labels)).1 = .ok () →
    session.registry.shownAt (name, labels.values) = some value →
    (session.call (.create name help labels)).2.registry = session.registry ∧
      ∃ handle, (session.call (.create name help labels)).2.handles =
        session.handles ++ [handle] ∧ session.registry.Reaches handle ∧
        ∀ number held, session.handles[number]? = some held →
          held.target = (name, labels.values) → session.history.inForce number = true →
          held = handle
  fresh : ∀ name help labels, (session.call (.create name help labels)).1 = .ok () →
    session.registry.shownAt (name, labels.values) = none →
    (session.call (.create name help labels)).2.registry.shownAt (name, labels.values) =
        some .zero ∧
      ∀ older, older < session.handles.length →
        (session.call (.create name help labels)).2.history.inForce older =
          session.history.inForce older

theorem Reflects.creationsAct (reflects : session.Reflects) : session.CreationsAct where
  answer := reflects.answer
  refused _ _ := call_of_error
  opened name help labels unknown answered := by
    rw [(reflects.call _).described, history_of_ok answered, MeterHistory.description?, unknown,
      if_pos rfl, Option.none_or]
  described name help keys known calls := by
    obtain ⟨later, grown⟩ := session.exists_history_callAll calls
    have after := reflects.callAll calls
    rw [reflects.described] at known
    have lasting := MeterHistory.description?_append known later
    rw [← grown] at lasting
    refine ⟨(after.described name).trans lasting, fun help' labels different => ?_⟩
    rw [after.answer, lasting]
    exact if_neg different.symm
  again name help labels value answered shown := by
    obtain ⟨handle, after, created⟩ := exists_handle_of_ok answered
    have grants := reflects.apart.grants created
    obtain ⟨held, member, values, -⟩ := (reflects.apart.shownAt_iff _ _).mp shown
    obtain ⟨reaches, rfl⟩ := grants.series.resolve_right fun new => new.1 held member values
    rw [call_create created]
    refine ⟨rfl, handle, rfl, reaches, fun number other given target inForce => ?_⟩
    exact reflects.apart.eq_of_reaches ((reflects.reaches number other given).mpr inForce) reaches
      (target.trans grants.target.symm)
  fresh name help labels answered absent := by
    have history := history_of_ok answered
    constructor
    · rw [(reflects.call _).shown, history, MeterHistory.shown?, if_pos rfl, ← reflects.shown,
        absent]
      rfl
    · intro older given
      rw [history, MeterHistory.inForce, reflects.length_targets,
        beq_eq_false_iff_ne.mpr (Nat.ne_of_lt given), Bool.false_or]

end MeterSession

/-- Whatever is created, set and retired on a fresh registry, through handles in
force and stale ones, the registry is as the history of these calls has it: a
series lives from its creation until something is retired under its target, and
shows what was last set through a handle that was given out in this time.  Rendering
never fails, all of these series and no others are read in its text, and creations and
handles keep their laws. -/
theorem series_live_until_retired (calls : List MeterCall) :
    let session := (MeterSession.start.callAll calls).2
    session.Reflects ∧ (∃ text series, session.Rendered text series) ∧
      session.CreationsAct ∧ session.HandlesAct := by
  intro session
  have reflects : session.Reflects := MeterSession.reflects_start.callAll calls
  exact ⟨reflects, reflects.exists_rendered, reflects.creationsAct, reflects.handlesAct⟩

/-- The first handle is stale when the series is created again, and sets nothing,
while the second does. -/
example :
    let again : List MeterCall :=
      [.create "reads" "Reads" ⟨[("disk", "a")]⟩, .retire 0, .create "reads" "" ⟨[("disk", "a")]⟩]
    let shown := fun calls =>
      (MeterSession.start.callAll (again ++ calls)).2.registry.shownAt ("reads", ["a"])
    shown [.set 0 .nan] = some .zero ∧ shown [.set 1 .nan, .set 0 .zero] = some .nan := by
  decide

end StorageTelemetry
