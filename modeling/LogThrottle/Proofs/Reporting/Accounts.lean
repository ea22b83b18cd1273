import LogThrottle.Proofs.Limiter.Counting
import LogThrottle.Proofs.System.Composites
import LogThrottle.Proofs.System.Ticking

/-! Accounts of withheld events: what was reported for a throttle, and what a reset would still report.
Where nothing fails, only an event moves an account; a reset moves the second part into the first. -/
namespace LogThrottle

/-- What an entry reports as withheld from a throttle. -/
def Entry.reported (t : ThrottleId) : Entry → Nat
  | .line (.digest u d) _ _ => if u = t then d.suppressed.toNat else 0
  | _ => 0

/-- Not a digest. -/
def Entry.Plain (e : Entry) : Prop := ∀ t d k line, e ≠ .line (.digest t d) k line

theorem Entry.Plain.reported_eq {e : Entry} (h : e.Plain) (t : ThrottleId) : e.reported t = 0 := by
  cases e with
  | notice => rfl
  | line o k line =>
    cases o with
    | digest u d => exact absurd rfl (h u d k line)
    | _ => rfl

namespace System
open Call

/-- Events reported for a throttle so far. -/
def reported (s : System) (t : ThrottleId) : Nat := (s.journal.toList.map (Entry.reported t)).sum

/-- Events of a throttle beyond its limit since the last reset. -/
def excess (s : System) (t : ThrottleId) : Nat :=
  (s.throttle t).limiter.count.toNat - (s.limit t).toNat

def account (s : System) (t : ThrottleId) : Nat := s.reported t + s.excess t

/-- A digest is about a throttle that exists, and its line says what the digest says, to the sink and at
the severity that the throttle reports to. -/
def Authentic (s : System) : Entry → Prop
  | .line (.digest t d) k line => t < s.throttles.size ∧ d.topic = (s.throttle t).topic ∧
      k = (s.logger (s.throttle t).logger).sink ∧ line = ⟨d.topic.voice, d.text⟩
  | _ => True

/-- Every limiter stands for at most `n` events. -/
def Tracked (n : Nat) (s : System) : Prop :=
  ∀ t < s.throttles.size, ∃ events : List Duration, events.length ≤ n ∧
    (s.throttle t).limiter.Tracks (s.limit t) events

/-- Throttles that were there before have their topics, their loggers, and their loggers' sinks and
quotas. -/
structure Fixed (s s' : System) : Prop where
  size : s.throttles.size ≤ s'.throttles.size
  topic : ∀ t < s.throttles.size, (s'.throttle t).topic = (s.throttle t).topic
  logger : ∀ t < s.throttles.size, (s'.throttle t).logger = (s.throttle t).logger
  sink : ∀ t < s.throttles.size,
    (s'.logger (s.throttle t).logger).sink = (s.logger (s.throttle t).logger).sink
  quota : ∀ t < s.throttles.size,
    (s'.logger (s.throttle t).logger).quota = (s.logger (s.throttle t).logger).quota

/-- No account has moved. -/
structure Even (n : Nat) (s s' : System) : Prop where
  fixed : Fixed s s'
  calm : Calm s'
  tracked : Tracked n s'
  account : ∀ t, s'.account t = s.account t
  suppressed : ∀ l, (s'.logger l).tally.suppressed = (s.logger l).tally.suppressed
  authentic : (∀ e ∈ s.journal.toList, s.Authentic e) → ∀ e ∈ s'.journal.toList, s'.Authentic e

theorem excess_of_size_le {s : System} {t : ThrottleId} (h : s.throttles.size ≤ t) :
    s.excess t = 0 := by
  rw [excess, throttle_of_size_le h]
  exact Nat.zero_sub _

namespace Fixed
variable {s s' s'' : System}

theorem refl (s : System) : Fixed s s :=
  ⟨Nat.le_refl _, fun _ _ => rfl, fun _ _ => rfl, fun _ _ => rfl, fun _ _ => rfl⟩

theorem trans (h : Fixed s s') (h' : Fixed s' s'') : Fixed s s'' where
  size := Nat.le_trans h.size h'.size
  topic t ht := (h'.topic t (Nat.lt_of_lt_of_le ht h.size)).trans (h.topic t ht)
  logger t ht := (h'.logger t (Nat.lt_of_lt_of_le ht h.size)).trans (h.logger t ht)
  sink t ht := by
    have last := h'.sink t (Nat.lt_of_lt_of_le ht h.size)
    rw [h.logger t ht] at last
    exact last.trans (h.sink t ht)
  quota t ht := by
    have last := h'.quota t (Nat.lt_of_lt_of_le ht h.size)
    rw [h.logger t ht] at last
    exact last.trans (h.quota t ht)

theorem limit_eq (h : Fixed s s') {t : ThrottleId} (ht : t < s.throttles.size) :
    s'.limit t = s.limit t := by
  rw [limit, h.logger t ht, h.quota t ht, limit]

theorem authentic (h : Fixed s s') {e : Entry} (proper : s.Authentic e) : s'.Authentic e := by
  cases e with
  | notice => trivial
  | line o k line =>
    cases o with
    | digest t d =>
      obtain ⟨ht, topic, sink, text⟩ := proper
      refine ⟨Nat.lt_of_lt_of_le ht h.size, ?_, ?_, text⟩
      · rw [h.topic t ht, topic]
      · rw [h.logger t ht, h.sink t ht, sink]
    | _ => trivial

end Fixed

theorem Told.fixed {es : List Entry} {s s' : System} (h : Told es s s') : Fixed s s' where
  size := Nat.le_of_eq h.throttles.symm
  topic t _ := h.topic_eq t
  logger t _ := h.logger_eq t
  sink _ _ := (congrArg Logger.sink (h.logger _) :)
  quota _ _ := (congrArg Logger.quota (h.logger _) :)

namespace Even
variable {n : Nat} {s s' s'' : System}

theorem trans (h : Even n s s') (h' : Even n s' s'') : Even n s s'' where
  fixed := h.fixed.trans h'.fixed
  calm := h'.calm
  tracked := h'.tracked
  account t := (h'.account t).trans (h.account t)
  suppressed l := (h'.suppressed l).trans (h.suppressed l)
  authentic before := h'.authentic (h.authentic before)

/-- What leaves limiters and tallies alone and writes no digest. -/
theorem quiet {es : List Entry} (fixed : Fixed s s') (calm : Calm s') (tracked : Tracked n s)
    (limiter : ∀ t, (s'.throttle t).limiter = (s.throttle t).limiter)
    (suppressed : ∀ l, (s'.logger l).tally.suppressed = (s.logger l).tally.suppressed)
    (journal : s'.journal.toList = s.journal.toList ++ es) (plain : ∀ e ∈ es, e.Plain) :
    Even n s s' where
  fixed := fixed
  calm := calm
  tracked t ht := by
    by_cases old : t < s.throttles.size
    · rw [limiter, fixed.limit_eq old]
      exact tracked t old
    · rw [limiter, throttle_of_size_le (Nat.not_lt.mp old)]
      exact ⟨[], Nat.zero_le _, .cleared _⟩
  account t := by
    have told : s'.reported t = s.reported t := by
      have none : es.map (Entry.reported t) = es.map fun _ => 0 :=
        List.map_congr_left fun e he => (plain e he).reported_eq t
      rw [reported, journal, List.map_append, List.sum_append, none, reported]
      simp
    have left : s'.excess t = s.excess t := by
      by_cases old : t < s.throttles.size
      · rw [excess, limiter, fixed.limit_eq old, excess]
      · rw [excess_of_size_le (Nat.not_lt.mp old), excess, limiter,
          throttle_of_size_le (Nat.not_lt.mp old)]
        exact Nat.zero_sub _
    rw [System.account, told, left, System.account]
  suppressed := suppressed
  authentic before e he := by
    rw [journal] at he
    rcases List.mem_append.mp he with he | he
    · exact fixed.authentic (before e he)
    · cases e with
      | notice => trivial
      | line o k line =>
        cases o with
        | digest t d => exact absurd rfl (plain _ he t d k line)
        | _ => trivial

theorem refl (calm : Calm s) (tracked : Tracked n s) : Even n s s :=
  quiet (.refl s) calm tracked (fun _ => rfl) (fun _ => rfl) (List.append_nil _).symm (by simp)

theorem wrote {es : List Entry} (h : Wrote es s s') (calm : Calm s) (tracked : Tracked n s)
    (plain : ∀ e ∈ es, e.Plain) : Even n s s' :=
  quiet h.told.fixed (h.calm calm) tracked (fun t => by rw [throttle, h.throttles, throttle])
    (fun l => by rw [logger, h.loggers, logger]) h.journal plain

end Even

end System
end LogThrottle
