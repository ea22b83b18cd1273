import LogThrottle.Proofs.Counting.Turns

/-! The time in a digest. It is read off two readings of the stopwatch, each rounded down to milliseconds and
kept between 1 and 2^64 - 1, and is accurate but for that rounding. -/
namespace LogThrottle

namespace Duration

/-- From one reading to a later one, in clock milliseconds; nothing if the later one is lower. -/
def span (a b : Duration) : Duration := .ofMillis (.ofNat (b.clockMillis.toNat - a.clockMillis.toNat))

variable (a b : Duration)

/-- Nothing wraps or overflows on the way. -/
theorem span_nanos : (span a b).nanos =
    (max 1 (min (b.nanos / 1_000_000) (2 ^ 64 - 1)) - max 1 (min (a.nanos / 1_000_000) (2 ^ 64 - 1))) * 1_000_000 := by
  have largest : 2 ^ 64 - 1 = 18_446_744_073_709_551_615 := by norm_num
  have whole : (UInt64.ofNat (b.clockMillis.toNat - a.clockMillis.toNat)).toNat =
      b.clockMillis.toNat - a.clockMillis.toNat := by
    rw [UInt64.toNat_ofNat']
    exact Nat.mod_eq_of_lt (Nat.lt_of_le_of_lt (Nat.sub_le _ _) b.clockMillis.toNat_lt)
  rw [largest, ← millis, ← millis, ← clockMillis_toNat, ← clockMillis_toNat, ← whole, span, ofMillis]

theorem span_le : (span a b).nanos ≤ (2 ^ 64 - 2) * 1_000_000 := by
  rw [span_nanos]
  omega

variable {a b}

theorem span_of_le (back : b.nanos ≤ a.nanos) : (span a b).nanos = 0 := by
  have millis : b.nanos / 1_000_000 ≤ a.nanos / 1_000_000 := Nat.div_le_div_right back
  rw [span_nanos]
  omega

/-- One rounding loses less than a millisecond; the lower end is raised by one at most. -/
theorem span_accurate (forth : a.nanos ≤ b.nanos) (bounded : b.nanos < 2 ^ 64 * 1_000_000) :
    b.nanos < (span a b).nanos + a.nanos + 2_000_000 ∧ (span a b).nanos + a.nanos < b.nanos + 1_000_000 := by
  rw [span_nanos]
  omega

end Duration

namespace System
open Call
variable {t : ThrottleId} {s : System}

/-- After more attempts than the limit since the last reset, the next reset delivers a digest that is made
of their number, the reading `a` at the attempt that reached the limit and the reading `b` at the reset;
no other reading shows in it. Its time is a whole number of milliseconds, nothing if `b` is not after `a`,
and up to the rounding what passed from `a` to `b`. -/
theorem elapsed_accurate (usable : s.Usable t) (fresh : (s.throttle t).limiter = .cleared) {xs : List Turn}
    (few : ∀ before, before <+: xs → (Turn.events before).length < 2 ^ 64)
    (beyond : (s.limit t).toNat < (Turn.events xs).length) (b : Duration) :
    ∃ answers s' a d s'', (turns t xs).exec s = (.ok answers, s') ∧
      (turn t (.reset b)).exec s' = (.ok (.reported (some d)), s'') ∧
      s''.journal.toList = s'.journal.toList ++ s.answerEntries t (.reported (some d)) ∧
      (Turn.events xs)[(s.limit t).toNat - 1]? = some a ∧
      d = ⟨(s.throttle t).topic, .ofNat ((Turn.events xs).length - (s.limit t).toNat), d.elapsed⟩ ∧
      d.elapsed.nanos = (max 1 (min (b.nanos / 1_000_000) (2 ^ 64 - 1)) -
        max 1 (min (a.nanos / 1_000_000) (2 ^ 64 - 1))) * 1_000_000 ∧
      d.elapsed.nanos ≤ (2 ^ 64 - 2) * 1_000_000 ∧
      (b.nanos ≤ a.nanos → d.elapsed.nanos = 0) ∧
      (a.nanos ≤ b.nanos → b.nanos < 2 ^ 64 * 1_000_000 →
        b.nanos < d.elapsed.nanos + a.nanos + 2_000_000 ∧ d.elapsed.nanos + a.nanos < b.nanos + 1_000_000) := by
  have tracks : Limiter.Tracks (s.limit t) [] (s.throttle t).limiter := fresh ▸ .cleared _
  obtain ⟨answers, s', he, turned⟩ := turns_turned usable tracks few
  have positive := limit_pos s t
  have reached : (s.limit t).toNat - 1 < (Turn.events xs).length := by omega
  have at_limit := List.getElem?_eq_getElem reached
  have tracks' := turned.tracks
  rw [← turned.limit] at tracks'
  obtain ⟨s'', he', turned'⟩ := reset_turned turned.usable tracks' b
  have journal := turned'.journal
  rw [turned.limit, ← Turn.events, if_pos beyond, turned.topic] at he' journal
  have elapsed : (s'.throttle t).limiter.sinceMark b.clockMillis =
      (Turn.events xs)[(s.limit t).toNat - 1].span b := by
    rw [Limiter.sinceMark, turned.tracks.mark_of_reached at_limit, Duration.span]
  rw [elapsed] at he' journal
  refine ⟨answers, s', _, _, s'', he, he', ?_, at_limit, rfl, Duration.span_nanos _ b, Duration.span_le _ b,
    Duration.span_of_le, Duration.span_accurate⟩
  rw [journal, turned.answerEntries_eq]
  simp

/-- A stopwatch beyond 2^64 milliseconds at the limit, and moved back to 1.5 ms for the reset; then 2.9 ms
at the limit of the next period and 7.1 ms at its reset, with other readings between. -/
theorem elapsed_accurate_twice :
    let s := System.run {} [.addSink .filled fun _ _ => none, .addStopwatch .zero fun _ => none, .openRoster,
      .build ⟨0, 0, 0, none, 2, ⟨7, by decide⟩, 3⟩, .lookup 0 { template := "x" }]
    let far : Duration := ⟨10 ^ 27, by decide⟩
    let first : List Turn := [.attempt .zero, .attempt far, .attempt .zero]
    let second := first ++ [.reset ⟨1_500_000, by decide⟩, .attempt far, .attempt ⟨2_900_000, by decide⟩,
      .attempt .zero, .attempt far]
    (∃ answers s' d s'', (turns 0 first).exec s = (.ok answers, s') ∧
      (turn 0 (.reset ⟨1_500_000, by decide⟩)).exec s' = (.ok (.reported (some d)), s'') ∧
      d.elapsed.nanos = 0 ∧ s''.delivered 0 = [⟨.info, "(suppressed 1 logs similar to 'x' in 0ns)"⟩]) ∧
    ∃ answers s' d s'', (turns 0 second).exec s = (.ok answers, s') ∧
      (turn 0 (.reset ⟨7_100_000, by decide⟩)).exec s' = (.ok (.reported (some d)), s'') ∧
      d.suppressed = 2 ∧ d.elapsed.nanos = 5_000_000 ∧
      s''.delivered 0 = [⟨.info, "(suppressed 1 logs similar to 'x' in 0ns)"⟩,
        ⟨.info, "(suppressed 2 logs similar to 'x' in 5ms)"⟩] := by
  intro s far first second
  have usable : s.Usable 0 := ⟨⟨fun _ _ => rfl, rfl, fun _ => rfl⟩, by decide +kernel, by decide +kernel⟩
  have few {xs : List Turn} (short : xs.length < 2 ^ 64) :
      ∀ before, before <+: xs → (Turn.events before).length < 2 ^ 64 := fun before h =>
    Nat.lt_of_le_of_lt (Nat.le_trans (Turn.length_events_le before) h.length_le) short
  have fewFirst := few (show first.length < 2 ^ 64 by decide)
  have fewSecond := few (show second.length < 2 ^ 64 by decide)
  -- The lines are computed from the turns, since the digests in them are only known to exist.
  have lines {xs : List Turn} {b : Duration} {answers : List Turn.Answer} {answer : Turn.Answer} {s' s'' : System}
      (he : (turns 0 xs).exec s = (.ok answers, s')) (he' : (turn 0 (.reset b)).exec s' = (.ok answer, s'')) :
      s''.delivered 0 = ((turn 0 (.reset b)).exec ((turns 0 xs).exec s).2).2.delivered 0 := by
    rw [he, he']
  refine ⟨?_, ?_⟩
  · obtain ⟨answers, s', a, d, s'', he, he', _, reached, _, _, _, back, _⟩ :=
      elapsed_accurate usable (by decide +kernel) fewFirst (by decide +kernel) ⟨1_500_000, by decide⟩
    have at_limit : (Turn.events first)[(s.limit 0).toNat - 1]? = some far := by decide +kernel
    obtain rfl : far = a := Option.some.inj (at_limit.symm.trans reached)
    exact ⟨answers, s', d, s'', he, he', back (by decide), (lines he he').trans (by decide +kernel)⟩
  · obtain ⟨answers, s', a, d, s'', he, he', _, reached, digest, elapsed, _⟩ :=
      elapsed_accurate usable (by decide +kernel) fewSecond (by decide +kernel) ⟨7_100_000, by decide⟩
    have at_limit : (Turn.events second)[(s.limit 0).toNat - 1]? = some ⟨2_900_000, by decide⟩ := by decide +kernel
    obtain rfl := Option.some.inj (at_limit.symm.trans reached)
    have two : UInt64.ofNat ((Turn.events second).length - (s.limit 0).toNat) = 2 := by decide +kernel
    refine ⟨answers, s', d, s'', he, he', ?_, elapsed.trans (by decide), (lines he he').trans (by decide +kernel)⟩
    rw [digest]
    exact two

end System
end LogThrottle
