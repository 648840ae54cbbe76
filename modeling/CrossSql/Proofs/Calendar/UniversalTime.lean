import CrossSql.Proofs.Calendar.DayNumber
import CrossSql.Value.Decode

/-!
# Universal time

Every timestamp on the clock of universal time stands for a moment of its own. So an offset
timestamp has exactly one counterpart there, if the calendar reaches the day of its moment: what is
left of the offset after the time of day is carried over into the days. The counterpart, taken as an
offset timestamp again, is equal to the first one, and nothing at all changes on the way there and
back from a timestamp.

## Main definitions

* `Timestamp.moment_injective`: one timestamp for a moment.
* `OffsetTimestamp.toUniversal?_eq_some_iff`: the counterpart of an offset timestamp.
* `Moment.day`: the day of a moment in universal time.
* `Value.decodeTimestamp_keeps_moment`: decoding timestamps with and without an offset.
-/

namespace CrossSql

open Calendar

namespace Calendar

theorem Timestamp.moment_injective : Function.Injective Timestamp.moment := by
  intro t u same
  obtain ⟨seconds, nanos⟩ := Moment.mk.inj same
  have bound := t.time.seconds_lt
  have bound' := u.time.seconds_lt
  unfold secondsPerDay at *
  have date : t.date = u.date := Date.dayNumber_injective (by omega)
  have second : t.time.seconds = u.time.seconds := by omega
  obtain ⟨_, ⟨_, _, _, _⟩⟩ := t
  obtain ⟨_, ⟨_, _, _, _⟩⟩ := u
  simp_all

/-- The number of the day on which a moment falls in universal time. -/
def Moment.day (m : Moment) : Int := m.seconds / secondsPerDay

namespace OffsetTimestamp

variable {t : OffsetTimestamp} {u : Timestamp}

/-- The counterpart of an offset timestamp is the one timestamp that stands for the same moment. -/
theorem toUniversal?_eq_some_iff : t.toUniversal? = some u ↔ u.moment = t.moment := by
  have bound := u.time.seconds_lt
  simp only [toUniversal?, moment, Timestamp.moment, Option.map_eq_some_iff,
    Date.addDays?_eq_some_iff, Moment.mk.injEq]
  unfold secondsPerDay at *
  constructor
  · rintro ⟨date, walked, rfl⟩
    dsimp only
    omega
  · rintro ⟨seconds, nanos⟩
    refine ⟨u.date, by omega, ?_⟩
    have second : ((t.clock.time.seconds - t.offset) % (86400 : Nat)).toNat = u.time.seconds := by
      omega
    obtain ⟨_, ⟨_, _, _, _⟩⟩ := u
    simp_all

/-- The calendar of universal time has a timestamp for every moment on one of its days. -/
theorem exists_moment_eq (h : InCalendar t.moment.day) : ∃ u : Timestamp, u.moment = t.moment := by
  obtain ⟨date, number⟩ := Date.exists_dayNumber_eq h
  have rest : (t.moment.seconds % secondsPerDay).toNat < secondsPerDay := by
    unfold secondsPerDay
    omega
  refine ⟨⟨date, _, t.clock.time.nanos, rest, t.clock.time.nanos_lt⟩, ?_⟩
  have seconds : date.dayNumber * secondsPerDay + (t.moment.seconds % secondsPerDay).toNat =
      t.moment.seconds := by
    rw [number, Moment.day]
    unfold secondsPerDay
    omega
  rw [Timestamp.moment, seconds]
  rfl

theorem moment_ofUniversal (u : Timestamp) : (ofUniversal u).moment = u.moment := by
  simp [moment, ofUniversal, Timestamp.moment]

end OffsetTimestamp

end Calendar

namespace Value

theorem decodeTimestamp_ok_iff {t : OffsetTimestamp} {u : Timestamp} :
    (present (.offsetTimestamp t)).decodeTimestamp = .ok u ↔ u.moment = t.moment := by
  rw [← OffsetTimestamp.toUniversal?_eq_some_iff, decodeTimestamp]
  cases t.toUniversal? <;> simp [orError]

/-- An offset timestamp whose day in universal time belongs to the calendar is decoded as the one
timestamp that stands for its moment, and back from there an equal value is decoded. A timestamp is
decoded as an offset timestamp, and back from there as itself. -/
theorem decodeTimestamp_keeps_moment :
    (∀ t : OffsetTimestamp, InCalendar t.moment.day →
      ∃ u : Timestamp, (present (.offsetTimestamp t)).decodeTimestamp = .ok u ∧
        u.moment = t.moment ∧ (∀ other : Timestamp, other.moment = t.moment → other = u) ∧
        ∃ back : OffsetTimestamp, (present (.timestamp u)).decodeOffsetTimestamp = .ok back ∧
          back.moment = t.moment ∧
          (present (.offsetTimestamp back)).sameValue (present (.offsetTimestamp t))) ∧
    ∀ u : Timestamp, ∃ t : OffsetTimestamp,
      (present (.timestamp u)).decodeOffsetTimestamp = .ok t ∧
        (present (.offsetTimestamp t)).decodeTimestamp = .ok u := by
  refine ⟨fun t inside => ?_, fun u => ⟨.ofUniversal u, rfl, ?_⟩⟩
  · obtain ⟨u, same⟩ := OffsetTimestamp.exists_moment_eq inside
    have back := (OffsetTimestamp.moment_ofUniversal u).trans same
    refine ⟨u, decodeTimestamp_ok_iff.2 same, same, fun other same' => ?_, _, rfl, back, ?_⟩
    · exact Timestamp.moment_injective (same'.trans same.symm)
    · exact beq_iff_eq.2 back
  · exact decodeTimestamp_ok_iff.2 (OffsetTimestamp.moment_ofUniversal u).symm

/-- The first second of March in the year zero, on a clock one second ahead, still is in February,
which has a leap day. -/
theorem decodeTimestamp_keeps_moment_leapDay :
    let t : OffsetTimestamp := ⟨⟨⟨0, 3, 1, by decide⟩, ⟨0, 5, by decide, by decide⟩⟩, 1⟩
    let u : Timestamp := ⟨⟨0, 2, 29, by decide⟩, ⟨86399, 5, by decide, by decide⟩⟩
    InCalendar t.moment.day ∧ (present (.offsetTimestamp t)).decodeTimestamp = .ok u ∧
      ∃ back : OffsetTimestamp, (present (.timestamp u)).decodeOffsetTimestamp = .ok back ∧
        back.moment = t.moment ∧
        (present (.offsetTimestamp back)).sameValue (present (.offsetTimestamp t)) := by
  intro t u
  have inside : InCalendar t.moment.day := by decide
  obtain ⟨v, decoded, -, unique, back⟩ := decodeTimestamp_keeps_moment.1 t inside
  obtain rfl : u = v := unique u (by decide)
  exact ⟨inside, decoded, back⟩

end Value

end CrossSql
