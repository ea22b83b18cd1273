import LogThrottle.Proofs.Enrolment.Flushing
import LogThrottle.Proofs.Enrolment.Idle
import LogThrottle.Proofs.Reporting.Books

/-! Withheld events are neither lost nor told twice. What a logger withheld was reported in its digests or
is pending with the members of its roster, and a flush leaves nothing pending. -/
namespace LogThrottle

/-- What an entry reports as withheld by a logger. -/
def Entry.reportedBy (s : System) (l : LoggerId) : Entry → Nat
  | .line (.digest t d) _ _ => if (s.throttle t).logger = l then d.suppressed.toNat else 0
  | _ => 0

namespace System
open Call

/-- The sum of the numbers in all digests delivered so far for a logger's throttles. -/
def reportedBy (s : System) (l : LoggerId) : Nat := (s.journal.toList.map (Entry.reportedBy s l)).sum

/-- The members of a logger's roster that are its own. -/
def ownMembers (s : System) (l : LoggerId) : List ThrottleId :=
  (s.roster (s.logger l).roster).members.filter fun t => (s.throttle t).logger = l

/-- The events beyond the limit of all these members. -/
def pending (s : System) (l : LoggerId) : Nat := ((s.ownMembers l).map s.excess).sum

variable {n : Nat} {s s' : System}

private theorem reportedBy_eq (l : LoggerId) {es : List Entry} (authentic : ∀ e ∈ es, s.Authentic e) :
    (es.map (Entry.reportedBy s l)).sum = ∑ t ∈ Finset.range s.throttles.size,
      if (s.throttle t).logger = l then (es.map (Entry.reported t)).sum else 0 := by
  induction es with
  | nil => simp
  | cons e es ih =>
    have rest := ih fun x hx => authentic x (List.mem_cons_of_mem e hx)
    have first : Entry.reportedBy s l e = ∑ t ∈ Finset.range s.throttles.size,
        if (s.throttle t).logger = l then e.reported t else 0 := by
      cases e with
      | notice => simp [Entry.reportedBy, Entry.reported]
      | line o k line =>
        cases o with
        | digest u d =>
          have made : u < s.throttles.size := (authentic _ List.mem_cons_self).1
          have one (t : ThrottleId) : (if (s.throttle t).logger = l then
              Entry.reported t (.line (.digest u d) k line) else 0) =
              if t = u then (if (s.throttle u).logger = l then d.suppressed.toNat else 0) else 0 := by
            by_cases ht : t = u
            · subst ht
              simp [Entry.reported]
            · have : ¬u = t := fun e => ht e.symm
              simp [Entry.reported, ht, this]
          simp only [one, Finset.sum_ite_eq', Finset.mem_range, made, if_true]
          rfl
        | _ => simp [Entry.reportedBy, Entry.reported]
    simp only [List.map_cons, List.sum_cons]
    rw [first, rest, ← Finset.sum_add_distrib]
    refine Finset.sum_congr rfl fun t _ => ?_
    split <;> rfl

/-- Only members have anything pending. -/
private theorem pending_eq (aligned : Aligned (fun _ _ => False) s) (idle : Idle s) {l : LoggerId}
    (alive : s.alive (s.logger l).roster = true) :
    s.pending l = ∑ t ∈ Finset.range s.throttles.size,
      if (s.throttle t).logger = l then s.excess t else 0 := by
  have distinct : (s.ownMembers l).Nodup := (aligned.nodup_members _).filter _
  rw [pending, ← List.sum_toFinset _ distinct, ← Finset.sum_filter]
  refine Finset.sum_subset (fun t ht => ?_) fun t ht out => ?_
  · obtain ⟨member, own⟩ := List.mem_filter.mp (List.mem_toFinset.mp ht)
    obtain ⟨p, member⟩ := Roster.mem_members.mp member
    exact Finset.mem_filter.mpr ⟨Finset.mem_range.mpr (aligned.member _ p t member).1, by simpa using own⟩
  · obtain ⟨made, rfl⟩ := Finset.mem_filter.mp ht
    have cleared : (s.throttle t).limiter = .cleared := Classical.byContradiction fun left => by
      have enrolled := idle t (Finset.mem_range.mp made) alive left
      refine out (List.mem_toFinset.mpr (List.mem_filter.mpr ⟨?_, by simp⟩))
      exact Roster.mem_members.mpr ⟨_, enrolled⟩
    rw [excess, cleared]
    exact Nat.zero_sub _

/-- The books, read by what was reported and what is pending. -/
private theorem suppressed_eq (booked : Booked n s) (aligned : Aligned (fun _ _ => False) s)
    (idle : Idle s) {l : LoggerId} (alive : s.alive (s.logger l).roster = true) :
    (s.logger l).tally.suppressed.toNat = s.reportedBy l + s.pending l := by
  rw [booked.balance, reportedBy, reportedBy_eq l booked.authentic, pending_eq aligned idle alive,
    ← Finset.sum_add_distrib, ledger]
  refine Finset.sum_congr rfl fun t _ => ?_
  split <;> rfl

section Flushes
variable {a : Action}

/-- Where a flush began a new epoch, the throttles of the roster are cleared. -/
private theorem cleared_of_epoch {T : ThrottleId → Prop} (sound : Sound s) (idle : Idle s)
    (spared : Spares T s s') {t : ThrottleId} (out : ¬T t) (alive : s'.alive (s'.home t) = true)
    (moved : (s'.roster (s'.home t)).epoch ≠ (s.roster (s'.home t)).epoch) :
    (s'.throttle t).limiter = .cleared := by
  apply Classical.byContradiction
  intro left
  have kept := spared.limiter t out left
  have old : t < s.throttles.size := Classical.byContradiction fun new => by
    rw [kept, throttle_of_size_le (Nat.not_lt.mp new)] at left
    exact left rfl
  have home := spared.home t old
  rw [home] at alive moved
  have before := spared.alive _ (sound.home_lt old) alive
  exact left (spared.swept t old out moved (idle t old before (kept ▸ left)))

/-- A logging call through a throttle flushes nothing. -/
private theorem epoch_logThrough (t : ThrottleId) (severity : Severity) (args : List Argument)
    (r : RosterId) :
    (((logThrough t severity args).exec s).2.roster r).epoch = (s.roster r).epoch := by
  obtain ⟨s₁, he, joined⟩ := join_outcome t s
  rw [(steady_logThrough severity args he).roster_eq]
  cases joined with
  | idle => rfl
  | enrolled _ _ wrote => rw [epoch_enrolled, roster, wrote.rosters, roster]

/-- A throttle's first event is within its limit. -/
private theorem excess_first_event (calm : Calm s) (tracked : Tracked n s) (few : n + 1 < 2 ^ 64)
    {t : ThrottleId} (made : t < s.throttles.size) (cleared : (s.throttle t).limiter = .cleared)
    (severity : Severity) {args : List Argument} (shown : Painless args) :
    ((logThrough t severity args).exec s).2.excess t = 0 := by
  obtain ⟨s₁, s', message, joining, joined, he, _, wrote⟩ := logThrough_calm calm t severity shown
  have even : Even n s s₁ := by
    have kept := balances_join n t s calm tracked
    rwa [joining] at kept
  have made₁ := Nat.lt_of_lt_of_le made even.fixed.size
  obtain ⟨events, _, tracks, _, tracks'⟩ := verdict_eq even.tracked few made₁
  have none : events.length = 0 := by
    have limiter : (s₁.throttle t).limiter = (s.throttle t).limiter :=
      (congrArg Throttle.limiter (joined.throttle t) :)
    rw [← tracks.count, limiter, cleared]
    rfl
  have limit : s'.limit t = s₁.limit t := by
    rw [wrote.told.limit_eq, (fixed_ticked severity).limit_eq made₁]
  have limiter : (s'.throttle t).limiter = (s₁.verdict t).2 := by
    rw [throttle, wrote.throttles, ← throttle, throttle_ticked, if_pos ⟨rfl, made₁⟩]
  have positive := limit_pos s₁ t
  rw [he, excess, limiter, limit, tracks'.count, List.length_append, List.length_singleton, none]
  omega

/-- An action that flushed a roster leaves none of the roster's throttles with events beyond the limit.
A call that overflowed has logged at most one event since. -/
private theorem excess_after (booked : Booked n s) (sound : Sound s) (idle : Idle s)
    (few : n + 1 < 2 ^ 64) (ready : a.Ready s) (quiet : a.Calm s) (counted : a.Counted)
    {t : ThrottleId} (alive : (s.after a).alive ((s.after a).home t) = true)
    (moved : ((s.after a).roster ((s.after a).home t)).epoch ≠
      (s.roster ((s.after a).home t)).epoch) : (s.after a).excess t = 0 := by
  have spared := spares_after sound ready counted.1
  by_cases reached : a.throttle? s = some t
  · obtain ⟨s₁, severity, after, made, found⟩ := logging_outcome sound ready reached
    rw [after] at moved ⊢
    rcases found with rfl | ⟨rfl, _, _, l, topic, rfl⟩
    · exact absurd (epoch_logThrough t severity _ _) moved
    · have kept := (lasting_balances n).lookup l topic s booked.calm booked.tracked
      have spared := (lasting_spares (T := fun _ => False)).lookup l topic s
      refine excess_first_event kept.calm kept.tracked few made ?_ severity (quiet.arguments reached)
      refine Classical.byContradiction fun left => left ?_
      rw [spared.limiter _ id left, throttle_of_size_le (Nat.le_refl _)]
      rfl
  · rw [excess, cleared_of_epoch sound idle spared reached alive moved]
    exact Nat.zero_sub _

end Flushes

section Calm
variable {l : LoggerId}

private theorem suppressed_of_calm {as : List Action}
    (orderly : System.Along (fun s a => a.Ready s ∧ a.Domestic s ∧ a.Calm s ∧ a.Counted) {} as)
    (few : as.length < 2 ^ 64) (alive : (System.run {} as).alive ((System.run {} as).logger l).roster = true) :
    ((System.run {} as).logger l).tally.suppressed.toNat =
      (System.run {} as).reportedBy l + (System.run {} as).pending l := by
  have booked : Booked as.length (System.run {} as) := booked_run (orderly.mono fun _ _ h => ⟨h.1, h.2.2⟩) few
  have regular : System.Along (fun s a => a.Ready s ∧ a.Regular s) {} as :=
    orderly.mono fun _ _ h => ⟨h.1, h.2.1, h.2.2.2.1⟩
  have flushes : (System.run {} as).flushes < 2 ^ 64 :=
    Nat.lt_of_le_of_lt (flushes_le_length (regular.mono fun _ _ h => h.1)) few
  exact suppressed_eq booked (aligned_of_regular regular flushes) (idle_run regular flushes) alive

/-- A flush leaves nothing pending. -/
private theorem pending_of_calm (as : List Action) (a : Action)
    (orderly : System.Along (fun s a => a.Ready s ∧ a.Domestic s ∧ a.Calm s ∧ a.Counted) {} (as ++ [a]))
    (few : (as ++ [a]).length < 2 ^ 64)
    (alive : ((System.run {} as).after a).alive (((System.run {} as).after a).logger l).roster = true)
    (moved : (((System.run {} as).after a).roster (((System.run {} as).after a).logger l).roster).epoch ≠
      ((System.run {} as).roster (((System.run {} as).after a).logger l).roster).epoch) :
    ((System.run {} as).after a).pending l = 0 := by
  obtain ⟨earlier, ready, _, quiet, counted⟩ := along_snoc.mp orderly
  rw [List.length_append, List.length_singleton] at few
  have few' := Nat.lt_of_succ_lt few
  have regular : System.Along (fun s a => a.Ready s ∧ a.Regular s) {} as :=
    earlier.mono fun _ _ h => ⟨h.1, h.2.1, h.2.2.2.1⟩
  have sound := sound_run (regular.mono fun _ _ h => h.1)
  have booked := booked_run (earlier.mono fun _ _ h => ⟨h.1, h.2.2⟩) few'
  have idle := idle_run regular (Nat.lt_of_le_of_lt (flushes_le_length (regular.mono fun _ _ h => h.1)) few')
  refine List.sum_eq_zero fun x hx => ?_
  obtain ⟨t, ht, rfl⟩ := List.mem_map.mp hx
  have own : (((System.run {} as).after a).throttle t).logger = l := by
    simpa using (List.mem_filter.mp ht).2
  subst own
  exact excess_after booked sound idle few ready quiet counted alive moved

end Calm

private theorem faultless_of_clean {as : List Action}
    (orderly : System.Along (fun s a => a.Ready s ∧ a.Domestic s ∧ a.Clean s ∧ a.Counted) {} as) :
    System.Along (fun s a => a.Ready s ∧ a.Domestic s ∧ a.Calm s ∧ a.Counted) {} (as.map (Action.masked .faultless)) ∧
      System.run {} (as.map (Action.masked .faultless)) = (System.run {} as).masked .faultless :=
  faultless_run orderly (fun _ _ h => h.2.2.1) fun _ _ h =>
    ⟨ready_masked h.1, domestic_masked h.2.1, calm_masked h.2.2.1, h.2.2.2.masked⟩

/-- On every run where nothing fails, without bare attempts and resets of tallies, the events that a logger with a
living roster withheld are the sum of the numbers in the digests of its throttles and of what is pending
with its members. What digests say is what their lines say. After an action that flushed the roster,
nothing is pending. -/
theorem suppressed_eq_reported_add_pending {as : List Action}
    (orderly : System.Along (fun s a => a.Ready s ∧ a.Domestic s ∧ a.Clean s ∧ a.Counted) {} as)
    (few : as.length < 2 ^ 64) :
    let s := System.run {} as
    (∀ e ∈ s.journal.toList, s.Authentic e) ∧
    ∀ l, s.alive (s.logger l).roster = true →
      (s.logger l).tally.suppressed.toNat = s.reportedBy l + s.pending l ∧
      ∀ before a, as = before ++ [a] →
        (s.roster (s.logger l).roster).epoch ≠
          ((System.run {} before).roster (s.logger l).roster).epoch →
        (s.logger l).tally.suppressed.toNat = s.reportedBy l := by
  intro s
  -- faults that never fired are taken away; throttles, loggers, rosters and the journal stay as they are
  obtain ⟨calm, same⟩ := faultless_of_clean orderly
  have few' : (as.map (Action.masked .faultless)).length < 2 ^ 64 := by rwa [List.length_map]
  have booked := booked_run (calm.mono fun _ _ h => ⟨h.1, h.2.2⟩) few'
  have settled (l : LoggerId) (alive : s.alive (s.logger l).roster = true) :
      (s.logger l).tally.suppressed.toNat = s.reportedBy l + s.pending l := by
    have balance := suppressed_of_calm (l := l) calm few'
    rw [same] at balance
    exact balance alive
  rw [same] at booked
  refine ⟨booked.authentic, fun l alive => ⟨settled l alive, ?_⟩⟩
  rintro before a rfl moved
  obtain ⟨earlier, last⟩ := along_snoc.mp orderly
  have began := (faultless_of_clean earlier).2
  have flushed := pending_of_calm (l := l) (before.map (Action.masked .faultless)) (a.masked .faultless)
  rw [began, masked_after last.2.2.1, ← run_snoc, ← List.map_singleton, ← List.map_append] at flushed
  have none : s.pending l = 0 := flushed calm few' alive moved
  rw [settled l alive, none, Nat.add_zero]

/-- Three events at a limit of one, a flush, and two more. The sink would fail at its tenth line, and an argument
would if it were shown. -/
theorem suppressed_after_flush_and_two_more :
    let before : List Action := [.addSink .filled fun n _ => if n = 9 then some .wordless else none,
      .addStopwatch .zero fun _ => none, .openRoster, .build ⟨0, 0, 0, none, 1, ⟨7, by decide⟩, 3⟩,
      .log 0 .info "x" [.faulty .wordless], .log 0 .info "x" [], .logThrough 0 .warn []]
    let flushed := before ++ [.flush 0]
    let s := System.run {} flushed
    let as := flushed ++ [.emit 0 [], .log 0 .info "x" []]
    let s' := System.run {} as
    s.reportedBy 0 = 2 ∧ (s.logger 0).tally.suppressed.toNat = s.reportedBy 0 ∧
      s'.pending 0 = 1 ∧ (s'.logger 0).tally.suppressed.toNat = s'.reportedBy 0 + s'.pending 0 ∧
      s'.delivered 0 = [⟨.info, "x"⟩, ⟨.info, "(suppressed 2 logs similar to 'x' in 0ns)"⟩, ⟨.info, "x"⟩] := by
  intro before flushed s as s'
  have clean : System.Along (fun s a => a.Ready s ∧ a.Domestic s ∧ a.Clean s) {} as := by decide +kernel
  have counted : System.Along (fun _ a => a.Counted) {} as := by
    simp [as, flushed, before, System.Along, Action.Counted]
  have orderly : System.Along (fun s a => a.Ready s ∧ a.Domestic s ∧ a.Clean s ∧ a.Counted) {} as :=
    (clean.and counted).mono fun _ _ h => ⟨h.1.1, h.1.2.1, h.1.2.2, h.2⟩
  have first := suppressed_eq_reported_add_pending (along_append.mp orderly).1 (by decide)
  have last := suppressed_eq_reported_add_pending orderly (by decide)
  have settled := (first.2 0 (by decide +kernel)).2 before _ rfl (by decide +kernel)
  have pending := (last.2 0 (by decide +kernel)).1
  exact ⟨by decide +kernel, settled, by decide +kernel, pending, by decide +kernel⟩

end System
end LogThrottle
