import StorageTelemetry.Proofs.Scheduler.LoopRuns
import StorageTelemetry.Proofs.Session.BrokenLoops

namespace StorageTelemetry

/-!
# Timers of valid settings

Valid settings give every ticker a period that is not zero, and this is all that
the tickers of the collection loop need.  The ticker of the session also needs a
first due moment within the range of the clock.  The intervals at which entities
are polled are bounded from above, but the one at which the session is refreshed is
not, so valid settings may name one that no clock can represent.  Then the session
is refreshed once and never again.
-/

/-- The period of the session's ticker, as it is set. -/
def CollectionSettings.refreshPeriod (settings : CollectionSettings) : Nat :=
  secondsSpan settings.tokenRefreshInterval.toNat

theorem refreshPeriod_pos {settings : CollectionSettings} (valid : settings.validate = .ok ()) :
    0 < settings.refreshPeriod := by
  unfold CollectionSettings.validate at valid
  rcases ensure_bind_eq_ok_iff.mp valid with ⟨-, others⟩
  rcases ensure_bind_eq_ok_iff.mp others with ⟨-, others⟩
  rcases ensure_bind_eq_ok_iff.mp others with ⟨-, others⟩
  rcases ensure_bind_eq_ok_iff.mp others with ⟨-, others⟩
  rcases ensure_bind_eq_ok_iff.mp others with ⟨given, -⟩
  have nonzero : settings.tokenRefreshInterval.toNat ≠ 0 := by
    intro none
    have zero : settings.tokenRefreshInterval = 0 := UInt64.toNat_inj.mp none
    rw [zero] at given
    cases given
  exact Nat.mul_pos (by decide) (Nat.pos_of_ne_zero nonzero)

/-- All settings are checked last for what is collected. -/
theorem validate_collection {settings : Settings} (valid : settings.validate = .ok ()) :
    settings.collection.validate = .ok () := by
  unfold Settings.validate at valid
  rcases ensure_bind_eq_ok_iff.mp valid with ⟨-, others⟩
  rcases ensure_bind_eq_ok_iff.mp others with ⟨-, others⟩
  rcases ensure_bind_eq_ok_iff.mp others with ⟨-, others⟩
  exact (ensure_bind_eq_ok_iff.mp others).2

theorem add_secondsSpan_div (now : Instant) (seconds : Nat) :
    (now + secondsSpan seconds) / 1000 = now / 1000 + seconds :=
  Nat.add_mul_div_left now seconds (by decide)

theorem isSome_firstTicker?_iff {settings : CollectionSettings}
    (valid : settings.validate = .ok ()) {now : Instant} :
    (RefreshLoop.firstTicker? settings.refreshPeriod now).isSome = true ↔
      now / 1000 + settings.tokenRefreshInterval.toNat < RefreshLoop.clockLimit := by
  have positive := refreshPeriod_pos valid
  rw [← add_secondsSpan_div, ← CollectionSettings.refreshPeriod]
  simp [RefreshLoop.firstTicker?, positive]

/-- The timetable of a session whose loop starts with some settings. -/
abbrev Timetable.ofSettings (settings : CollectionSettings) (plan : Nat → Login)
    (start : Instant) : Timetable :=
  ⟨plan, settings.refreshPeriod, start⟩

theorem inRange_ofSettings_iff {settings : CollectionSettings}
    (valid : settings.validate = .ok ()) {plan : Nat → Login} {start : Instant} :
    (Timetable.ofSettings settings plan start).InRange ↔
      (start + (plan 0).delay) / 1000 + settings.tokenRefreshInterval.toNat <
        RefreshLoop.clockLimit := by
  rw [← add_secondsSpan_div]
  exact and_iff_right (refreshPeriod_pos valid)

/-- Valid settings give all tickers their periods.  Whether the ticker of the session
can be set up depends on the second in which the first login ends: if the interval
does not lead beyond the clock from there, the session is refreshed by its timetable
for as long as it runs, and otherwise its loop breaks after one login. -/
theorem valid_settings_start_timers (settings : Settings) (valid : settings.validate = .ok ()) :
    CollectionLoop.legalPeriods settings.collection.period = true ∧
    0 < settings.collection.refreshPeriod ∧
    (∀ now, (RefreshLoop.firstTicker? settings.collection.refreshPeriod now).isSome = true ↔
      now / 1000 + settings.collection.tokenRefreshInterval.toNat < RefreshLoop.clockLimit) ∧
    ∀ (plan : Nat → Login) (before : SessionWorld),
      Relation.ReflTransGen SessionWorld.Turn (.start plan settings.collection.refreshPeriod)
        before →
      ∀ watched, (Watched.first before).Reaches watched →
        let timetable := Timetable.ofSettings settings.collection plan before.clock
        let second := (before.clock + (plan 0).delay) / 1000
        (second + settings.collection.tokenRefreshInterval.toNat < RefreshLoop.clockLimit →
          Keeps timetable watched ∧ .broken ∉ watched.world.loops) ∧
        (RefreshLoop.clockLimit ≤ second + settings.collection.tokenRefreshInterval.toNat →
          Fails timetable watched) := by
  have valid' := validate_collection valid
  refine ⟨legalPeriods_of_valid valid', refreshPeriod_pos valid',
    fun now => isSome_firstTicker?_iff valid', ?_⟩
  intro plan before turns watched reaches
  constructor
  · intro within
    have inRange := (inRange_ofSettings_iff valid').mpr within
    have onTime := (Watched.OnTime.first turns).reaches inRange reaches
    exact ⟨onTime.keeps inRange, onTime.phase.not_broken⟩
  · intro beyond
    have outside : ¬(Timetable.ofSettings settings.collection plan before.clock).InRange :=
      fun inRange => Nat.not_le_of_lt ((inRange_ofSettings_iff valid').mp inRange) beyond
    exact ((Watched.Failing.first turns).reaches outside reaches).fails outside

/-- Settings for a session that is refreshed at an interval of some seconds. -/
def refreshedEvery (seconds : UInt64) : Settings where
  gateway := ⟨"https://gateway.local", "admin", "secret", false, none⟩
  collection := { CollectionSettings.default with tokenRefreshInterval := seconds }
  election := .default
  server := .default
  inventory := .empty

/-- A session that starts with such settings, some turns later. -/
def refreshedSession (seconds : UInt64) (steps : Nat) : Watched :=
  Watched.onward^[steps]
    (.first (.start slowLogins (refreshedEvery seconds).collection.refreshPeriod))

theorem refreshedEvery_keeps_or_fails :
    (refreshedEvery 300).validate = .ok () ∧
    Keeps (.ofSettings (refreshedEvery 300).collection slowLogins 0) (refreshedSession 300 9) ∧
    (refreshedEvery 9223372036854775808).validate = .ok () ∧
    Fails (.ofSettings (refreshedEvery 9223372036854775808).collection slowLogins 0)
      (refreshedSession 9223372036854775808 9) := by
  have short : (refreshedEvery 300).validate = .ok () := by rfl
  have long : (refreshedEvery 9223372036854775808).validate = .ok () := by rfl
  have keeps := (valid_settings_start_timers _ short).2.2.2 slowLogins _ .refl
    (refreshedSession 300 9) (Watched.reaches_iterate_onward 9 _)
  have fails := (valid_settings_start_timers _ long).2.2.2 slowLogins _ .refl
    (refreshedSession 9223372036854775808 9) (Watched.reaches_iterate_onward 9 _)
  exact ⟨short, (keeps.1 (by decide)).1, long, fails.2 (by decide)⟩

/-- An interval is accepted that no clock can represent.  Wherever the clock stands,
the ticker of the session cannot be set up, and left alone the loop breaks when its
first login has ended. -/
theorem refreshedEvery_breaks :
    (refreshedEvery 9223372036854775808).validate = .ok () ∧
    (∀ now, RefreshLoop.firstTicker?
      (refreshedEvery 9223372036854775808).collection.refreshPeriod now = none) ∧
    (refreshedSession 9223372036854775808 4).log = ⟨[0], [3], none, none⟩ ∧
    (refreshedSession 9223372036854775808 4).world.loops = [.broken] := by
  refine ⟨by rfl, ?_, by rfl, by rfl⟩
  intro now
  have valid : (refreshedEvery 9223372036854775808).collection.validate = .ok () := by rfl
  rw [← Option.not_isSome_iff_eq_none, isSome_firstTicker?_iff valid]
  exact Nat.not_lt_of_le (Nat.le_add_left _ _)

end StorageTelemetry
