import StorageTelemetry.Proofs.Session.SharedLock
import StorageTelemetry.Session.World

namespace StorageTelemetry

/-!
# Sessions are runs

A session makes all moves that are possible at one moment and then goes on to
the next moment at which something is due.  Each of its moves, and each of its
steps in time, is a run of the token manager on the clock.  So what holds of
all these runs holds of sessions.
-/

namespace Clocked

variable {first middle last : Clocked}

/-- Some run leads from one state to another. -/
def Reaches (first last : Clocked) : Prop := ∃ moves, first.run? moves = some last

theorem Reaches.refl (clocked : Clocked) : clocked.Reaches clocked := ⟨[], rfl⟩

theorem Reaches.trans (start : first.Reaches middle) (rest : middle.Reaches last) :
    first.Reaches last := by
  obtain ⟨moves, ran⟩ := start
  obtain ⟨moves', ran'⟩ := rest
  exact ⟨moves ++ moves', Moves.run?_append_eq_some_iff.mpr ⟨middle, ran, ran'⟩⟩

theorem Step.reaches {move : Move} (possible : Step first move last) : first.Reaches last :=
  ⟨[move], Moves.run?_cons_eq_some_iff.mpr ⟨last, step?_eq_some_iff.mpr possible, rfl⟩⟩

theorem Timely.reaches (timely : first.Timely) (reaches : first.Reaches last) : last.Timely := by
  obtain ⟨moves, ran⟩ := reaches
  exact timely.run ran

/-- The state after a move of the manager, if it is possible, and otherwise
the state itself. -/
def applied (clocked : Clocked) (event : TokenManager.Event) : Clocked :=
  { clocked with manager := clocked.manager.apply event }

theorem reaches_applied (event : TokenManager.Event) (allowed : first.allows event = true) :
    first.Reaches (first.applied event) := by
  unfold applied TokenManager.apply
  cases moved : first.manager.step? event with
  | none => exact .refl first
  | some manager => exact (Step.act allowed (TokenManager.step?_eq_some_iff.mp moved)).reaches

end Clocked

namespace SessionWorld

open Clocked

variable {world next : SessionWorld}

/-- The manager of a session and the time. -/
def clocked (world : SessionWorld) : Clocked := ⟨world.clock, world.manager⟩

theorem endLogin?_reaches (ended : world.endLogin? = some next) :
    world.clocked.Reaches next.clocked := by
  simp only [endLogin?] at ended
  split at ended
  · rename_i time result planned
    split at ended
    · cases result with
      | ok token =>
          cases ended
          exact (reaches_applied (.loginSucceeded token) rfl).trans
            (reaches_applied .markGood rfl)
      | error fault =>
          cases ended
          exact reaches_applied .loginFailed rfl
    · cases ended
  · cases ended

theorem acquire?_reaches (acquired : world.acquire? = some next) :
    world.clocked.Reaches next.clocked := by
  simp only [acquire?] at acquired
  split at acquired
  · rename_i ticket manager first granted
    have possible : Clocked.Step world.clocked (.act .acquire) ⟨world.clock, manager⟩ :=
      .act rfl (TokenManager.step?_eq_some_iff.mp granted)
    split at acquired
    · cases acquired
      exact possible.reaches
    · cases acquired
      exact possible.reaches.trans (reaches_applied (.readMark ticket) rfl)
  · cases acquired

theorem mem_deadlines_iff {ticket : Ticket} {deadline : Instant} :
    (ticket, deadline) ∈ world.deadlines ↔
      ticket ∈ world.manager.queue ∧ world.manager.deadlineOf? ticket = some deadline := by
  simp only [deadlines, List.mem_filterMap]
  constructor
  · rintro ⟨other, queued, shown⟩
    split at shown
    · rename_i purpose waits
      obtain ⟨moment, reads, same⟩ := Option.map_eq_some_iff.mp shown
      cases same
      exact ⟨queued, deadlineOf?_eq_some_iff.mpr ⟨purpose, waits, reads⟩⟩
    · cases shown
  · rintro ⟨queued, waits⟩
    obtain ⟨purpose, found, reads⟩ := deadlineOf?_eq_some_iff.mp waits
    exact ⟨ticket, queued, by simp [found, reads]⟩

theorem expire?_reaches (expired : world.expire? = some next) :
    world.clocked.Reaches next.clocked := by
  obtain ⟨⟨ticket, deadline⟩, found, rfl⟩ := Option.map_eq_some_iff.mp expired
  have due : deadline ≤ world.clock := by simpa using List.find?_some found
  have waits := (mem_deadlines_iff.mp (List.mem_of_find?_eq_some found)).2
  have allowed : world.clocked.allows (.expire ticket) = true := by
    simp [allows, clocked, waits, due]
  exact reaches_applied (.expire ticket) allowed

theorem moveLoop?_reaches {before after : RefreshLoop}
    (moved : world.moveLoop? before = some (after, next)) :
    world.clocked.Reaches next.clocked := by
  cases before with
  | refreshing ticket ticker =>
      simp only [moveLoop?] at moved
      split at moved
      · cases moved
        exact .refl world.clocked
      · cases moved
  | idle ticker =>
      simp only [moveLoop?] at moved
      split at moved
      · cases moved
        exact .refl world.clocked
      · cases moved
        have possible : TokenManager.Step world.manager (.request .refresh)
            (world.manager.request .refresh) := .request .refresh
        exact (Clocked.Step.act rfl possible).reaches
      · cases moved
  | ended reason => cases moved
  | broken => cases moved

theorem moveLoops?_reaches {before after : List RefreshLoop}
    (moved : world.moveLoops? before = some (after, next)) :
    world.clocked.Reaches next.clocked := by
  induction before generalizing after with
  | nil => cases moved
  | cons state rest ih =>
      simp only [moveLoops?] at moved
      split at moved
      · rename_i state' next' first
        cases moved
        exact moveLoop?_reaches first
      · obtain ⟨⟨rest', next'⟩, later, same⟩ := Option.map_eq_some_iff.mp moved
        cases same
        exact ih later

/-- What happens at one moment is a run. -/
theorem react?_reaches (reacted : world.react? = some next) :
    world.clocked.Reaches next.clocked := by
  simp only [react?] at reacted
  split at reacted
  · rename_i ended
    cases reacted
    exact endLogin?_reaches ended
  · split at reacted
    · rename_i acquired
      cases reacted
      exact acquire?_reaches acquired
    · split at reacted
      · rename_i expired
        cases reacted
        exact expire?_reaches expired
      · obtain ⟨⟨loops, world'⟩, moved, rfl⟩ := Option.map_eq_some_iff.mp reacted
        exact (moveLoops?_reaches moved : world.clocked.Reaches world'.clocked)

theorem nextMoment?_le {limit : Option Instant} {moment : Instant}
    (due : world.nextMoment? limit = some moment) {other : Instant}
    (listed : other ∈ world.dueMoments) : moment ≤ other := by
  simp only [nextMoment?] at due
  split at due
  · rename_i least found
    have same : least = moment := by
      split at due
      · exact Option.some.inj (Option.ite_none_right_eq_some.mp due).2
      · exact Option.some.inj due
    exact same ▸ (List.min?_eq_some_iff.mp found).2 other listed
  · cases due

/-- The clock of a session goes on no further than to the next deadline. -/
theorem mayPass_nextMoment (timely : world.clocked.Timely) {limit : Option Instant}
    {moment : Instant} (due : world.nextMoment? limit = some moment) :
    world.clocked.mayPass (max world.clock moment) = true := by
  refine Bool.and_eq_true_iff.mpr ⟨?_, List.all_eq_true.mpr fun ticket queued => ?_⟩
  · exact decide_eq_true (Nat.le_max_left _ _)
  · cases waits : world.manager.deadlineOf? ticket with
    | none => simp [clocked, waits]
    | some deadline =>
        have early : world.clock ≤ deadline := timely.early ticket deadline waits
        have listed : deadline ∈ world.dueMoments := by
          refine List.mem_append_left _ (List.mem_append_right _ ?_)
          exact List.mem_map.mpr ⟨_, mem_deadlines_iff.mpr ⟨queued, waits⟩, rfl⟩
        have moment_le := nextMoment?_le due listed
        simpa [clocked, waits] using Nat.max_le.mpr ⟨early, moment_le⟩

/-- However long a session goes on by itself, it makes a run. -/
theorem runUntil_reaches (done : SessionWorld → Bool) (limit : Option Instant) (steps : Nat)
    (timely : world.clocked.Timely) :
    world.clocked.Reaches (runUntil done limit steps world).clocked := by
  induction steps generalizing world with
  | zero => exact .refl world.clocked
  | succ steps ih =>
      simp only [runUntil]
      split
      · rename_i next reacted
        have reaches := react?_reaches reacted
        exact reaches.trans (ih (timely.reaches reaches))
      · split
        · exact .refl world.clocked
        · split
          · rename_i moment due
            have passed : Clocked.Step world.clocked (.pass (max world.clock moment))
                { world with clock := max world.clock moment }.clocked :=
              .pass (mayPass_nextMoment timely due)
            exact passed.reaches.trans (ih (timely.step passed))
          · exact .refl world.clocked

end SessionWorld
end StorageTelemetry
