import RecordBinding.Proofs.RoundTrip
import RecordBinding.Proofs.StrictFailure

namespace RecordBinding

namespace TimeSpan

theorem nanos_ofDuration (d : Duration) : (ofDuration d).nanos = min (d.nanos : Int) longest.nanos := by
  have limit : longest.nanos = maxSpanNanos := rfl
  rw [ofDuration, limit]
  split
  · rename_i within
    exact (Int.min_eq_left within).symm
  · rename_i beyond
    exact (Int.min_eq_right (Int.le_of_not_le beyond)).symm

theorem nanos_ofDuration_mono {d e : Duration} (ordered : d.nanos ≤ e.nanos) :
    (ofDuration d).nanos ≤ (ofDuration e).nanos := by
  rw [nanos_ofDuration, nanos_ofDuration]
  omega

theorem toDuration?_eq_none_iff {t : TimeSpan} : t.toDuration? = none ↔ t.nanos < 0 := by
  by_cases negative : t.nanos < 0
  · exact iff_of_true (dif_pos negative) negative
  · refine iff_of_false (fun refused => ?_) negative
    rw [toDuration?, dif_neg negative] at refused
    cases refused

theorem toDuration?_eq_some_iff {t : TimeSpan} {d : Duration} :
    t.toDuration? = some d ↔ (d.nanos : Int) = t.nanos := by
  constructor
  · intro lasts
    have nonnegative : ¬t.nanos < 0 := fun negative => by
      rw [toDuration?_eq_none_iff.2 negative] at lasts
      cases lasts
    rw [toDuration?, dif_neg nonnegative, Option.some.injEq] at lasts
    rw [← lasts]
    exact Int.toNat_of_nonneg (Int.not_lt.1 nonnegative)
  · intro same
    have nonnegative : ¬t.nanos < 0 := by omega
    rw [toDuration?, dif_neg nonnegative, Option.some.injEq]
    have alike : t.nanos.toNat = d.nanos := by omega
    cases d
    cases alike
    rfl

/-- The seconds are rounded down, so that what is above them counts upwards also before zero. -/
theorem nanos_eq (t : TimeSpan) :
    t.nanos = t.seconds * 1000000000 + t.subsecond ∧ t.subsecond < 1000000000 := by
  rw [seconds, subsecond, Int.fdiv_eq_ediv_of_nonneg _ (by decide),
    Int.fmod_eq_emod_of_nonneg _ (by decide)]
  omega

theorem seconds_lt_zero_iff {t : TimeSpan} : t.seconds < 0 ↔ t.nanos < 0 := by
  have parts := t.nanos_eq
  omega

end TimeSpan

namespace LeafType

/-- A duration is not converted from anything: what is read as one already holds one. -/
theorem tryFrom_duration_eq_ok_iff {v : Value} {d : Duration} :
    duration.tryFrom v = .ok d ↔ duration.Reads v d := by
  refine ⟨fun converted => ?_, tryFrom_of_reads⟩
  cases v with
  | timeSpan t => exact .duration (orRefuse_eq_ok_iff.1 converted)
  | _ => cases converted

theorem tryFrom_timeSpan_eq_ok_iff {t : TimeSpan} {d : Duration} :
    duration.tryFrom (.timeSpan t) = .ok d ↔ (d.nanos : Int) = t.nanos :=
  orRefuse_eq_ok_iff.trans TimeSpan.toDuration?_eq_some_iff

theorem tryFrom_timeSpan_eq_error_iff {t : TimeSpan} {e : Error} :
    duration.tryFrom (.timeSpan t) = .error e ↔
      t.nanos < 0 ∧ e = .conversion (.timeSpan t) "std::time::Duration" :=
  orRefuse_eq_error_iff.trans (and_congr_left' TimeSpan.toDuration?_eq_none_iff)

theorem exists_tryFrom_timeSpan_iff {t : TimeSpan} :
    (∃ d, duration.tryFrom (.timeSpan t) = .ok d) ↔ 0 ≤ t.nanos := by
  constructor
  · rintro ⟨d, converted⟩
    have := tryFrom_timeSpan_eq_ok_iff.1 converted
    omega
  · intro nonnegative
    cases converted : duration.tryFrom (.timeSpan t) with
    | ok d => exact ⟨d, rfl⟩
    | error e => exact absurd (tryFrom_timeSpan_eq_error_iff.1 converted).1 (Int.not_lt.2 nonnegative)

theorem fromExact_duration_eq_ok_iff {v : Value} {d : Duration} :
    duration.fromExact v = .ok d ↔ duration.tryFrom v = .ok d :=
  (FieldType.fromExact_eq_ok_iff (t := .leaf duration)).trans tryFrom_duration_eq_ok_iff.symm

/-- Durations are held as spans, which end first: the longest span stands for all that is
longer, and nothing before zero is a duration. Up to there each comes back as it was, and a
value that is refused comes back in the error. What a value holds exactly is no more and no less
than what it converts to. -/
theorem durations_are_nonnegative_spans :
    TimeSpan.longest.nanos = 9223372036854775807 * 1000000 ∧
    (∀ d : Duration, ∃ t back, duration.toValue d = .timeSpan t ∧
      duration.tryFrom (duration.toValue d) = .ok back ∧
      t.nanos = min (d.nanos : Int) TimeSpan.longest.nanos ∧ (back.nanos : Int) = t.nanos) ∧
    (∀ (d e : Duration) (s t : TimeSpan), d.nanos ≤ e.nanos → duration.toValue d = .timeSpan s →
      duration.toValue e = .timeSpan t → s.nanos ≤ t.nanos) ∧
    (∀ t : TimeSpan,
      (t.nanos = t.seconds * 1000000000 + t.subsecond ∧ t.subsecond < 1000000000) ∧
      ((∃ d, duration.tryFrom (.timeSpan t) = .ok d) ↔ 0 ≤ t.nanos) ∧
      (∀ d, duration.tryFrom (.timeSpan t) = .ok d → duration.toValue d = .timeSpan t) ∧
      ∀ e, duration.tryFrom (.timeSpan t) = .error e ↔
        t.seconds < 0 ∧ e = .conversion (.timeSpan t) "std::time::Duration") ∧
    ∀ v : Value,
      (duration.isExactly v = true ↔ ∃ d, duration.tryFrom v = .ok d) ∧
      (∀ d, duration.fromExact v = .ok d ↔ duration.tryFrom v = .ok d) ∧
      ∀ w, duration.fromExact v = .error w → w = v := by
  refine ⟨rfl, fun d => ?_, ?_, fun t => ?_, fun v => ?_⟩
  · have nonnegative : 0 ≤ (TimeSpan.ofDuration d).nanos := by
      have limit : (0 : Int) ≤ TimeSpan.longest.nanos := by decide
      rw [TimeSpan.nanos_ofDuration]
      omega
    obtain ⟨back, converted⟩ := exists_tryFrom_timeSpan_iff.2 nonnegative
    exact ⟨_, back, rfl, converted, TimeSpan.nanos_ofDuration d,
      tryFrom_timeSpan_eq_ok_iff.1 converted⟩
  · rintro d e s t ordered ⟨⟩ ⟨⟩
    exact TimeSpan.nanos_ofDuration_mono ordered
  · refine ⟨t.nanos_eq, exists_tryFrom_timeSpan_iff, fun d converted => ?_, fun e => ?_⟩
    · exact congrArg Value.timeSpan (TimeSpan.ofDuration_of_toDuration? (orRefuse_eq_ok_iff.1 converted))
    · rw [TimeSpan.seconds_lt_zero_iff]
      exact tryFrom_timeSpan_eq_error_iff
  · refine ⟨?_, fun d => fromExact_duration_eq_ok_iff, fun w back => ?_⟩
    · rcases duration.reads_or_refused v with ⟨d, reads⟩ | ⟨inexact, refused⟩
      · exact iff_of_true (taken_of_reads reads).1 ⟨d, tryFrom_of_reads reads⟩
      · refine iff_of_false (Bool.eq_false_iff.1 inexact) ?_
        rintro ⟨d, converted⟩
        cases refused.symm.trans (fromExact_duration_eq_ok_iff.2 converted)
    · rcases duration.reads_or_refused v with ⟨d, reads⟩ | ⟨_, refused⟩
      · cases (taken_of_reads reads).2.symm.trans back
      · exact (Except.error.inj (refused.symm.trans back)).symm

/-- A nanosecond more than the longest span. -/
def overlong : Duration := ⟨9223372036854775807000001, by decide⟩

/-- A nanosecond before zero, which is a second before zero and most of a second after that. -/
def justBefore : TimeSpan := ⟨-1, by decide⟩

theorem overlong_and_negative_bounded :
    overlong.nanos = TimeSpan.longest.nanos + 1 ∧
    duration.toValue overlong = .timeSpan .longest ∧
    (∀ d, d.nanos ≤ overlong.nanos →
      ∃ t, duration.toValue d = .timeSpan t ∧ t.nanos ≤ TimeSpan.longest.nanos) ∧
    (∃ d, duration.tryFrom (.timeSpan .longest) = .ok d ∧ duration.toValue d = .timeSpan .longest) ∧
    (justBefore.seconds = -1 ∧ justBefore.subsecond = 999999999) ∧
    duration.tryFrom (.timeSpan justBefore) =
      .error (.conversion (.timeSpan justBefore) "std::time::Duration") ∧
    ∃ w, duration.fromExact (.timeSpan justBefore) = .error w ∧ w = .timeSpan justBefore := by
  obtain ⟨_, _, ordered, spans, exact⟩ := durations_are_nonnegative_spans
  obtain ⟨_, _, written, _⟩ := spans .longest
  obtain ⟨_, _, _, refused⟩ := spans justBefore
  have encoded : duration.toValue overlong = .timeSpan .longest := rfl
  have held : duration.tryFrom (.timeSpan .longest) = .ok ⟨9223372036854775807000000, by decide⟩ := rfl
  have back : duration.fromExact (.timeSpan justBefore) = .error (.timeSpan justBefore) := rfl
  refine ⟨by decide, encoded, fun d shorter => ?_, ⟨_, held, written _ held⟩, ⟨rfl, rfl⟩, ?_, ?_⟩
  · exact ⟨_, rfl, ordered d overlong _ _ shorter rfl encoded⟩
  · exact (refused _).2 ⟨by decide, rfl⟩
  · exact ⟨_, back, (exact _).2.2 _ back⟩

end LeafType

end RecordBinding
