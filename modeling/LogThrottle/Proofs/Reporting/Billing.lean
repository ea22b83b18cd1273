import LogThrottle.Proofs.Reporting.Settling

/-! One event: it is counted once, and an event that is withheld moves the account of its throttle and
the tally of its logger alike. -/
namespace LogThrottle.System
open Call
variable {n : Nat} {t : ThrottleId} {s s' s'' : System}

/-- One event of a throttle was counted, and `b` events were withheld. -/
structure Billed (n : Nat) (t : ThrottleId) (b : Nat) (s s' : System) : Prop where
  once : b ≤ 1
  fixed : Fixed s s'
  calm : Calm s'
  tracked : Tracked (n + 1) s'
  account : ∀ u, s'.account u = s.account u + if u = t then b else 0
  suppressed : ∀ l, (s'.logger l).tally.suppressed =
    (s.logger l).tally.suppressed + if l = (s.throttle t).logger then .ofNat b else 0
  authentic : (∀ e ∈ s.journal.toList, s.Authentic e) → ∀ e ∈ s'.journal.toList, s'.Authentic e

theorem Tracked.mono {m : Nat} (h : Tracked n s) (le : n ≤ m) : Tracked m s := fun t ht =>
  (h t ht).imp fun _ tracks => ⟨Nat.le_trans tracks.1 le, tracks.2⟩

theorem Even.billed {b : Nat} (h : Even n s s') (made : t < s.throttles.size)
    (h' : Billed n t b s' s'') : Billed n t b s s'' where
  once := h'.once
  fixed := h.fixed.trans h'.fixed
  calm := h'.calm
  tracked := h'.tracked
  account u := by rw [h'.account, h.account]
  suppressed l := by rw [h'.suppressed, h.suppressed, h.fixed.logger t made]
  authentic before := h'.authentic (h.authentic before)

theorem Billed.even {b : Nat} (h : Billed n t b s s') (h' : Even (n + 1) s' s'') : Billed n t b s s'' where
  once := h.once
  fixed := h.fixed.trans h'.fixed
  calm := h'.calm
  tracked := h'.tracked
  account u := by rw [h'.account, h.account]
  suppressed l := by rw [h'.suppressed, h.suppressed]
  authentic before := h'.authentic (h.authentic before)

section Ticking
variable (severity : Severity)

theorem fixed_ticked : Fixed s (ticked t severity s) where
  size := Nat.le_of_eq (size_throttles_ticked severity).symm
  topic u _ := by
    rw [throttle_ticked]
    split <;> rfl
  logger u _ := by
    rw [throttle_ticked]
    split <;> rfl
  sink u _ := by
    rw [logger_ticked]
    split <;> rfl
  quota u _ := by
    rw [logger_ticked]
    split <;> rfl

end Ticking

/-- The limiter decides by how many events came before. -/
theorem verdict_eq (tracked : Tracked n s) (few : n + 1 < 2 ^ 64) (made : t < s.throttles.size) :
    ∃ events : List Duration, events.length ≤ n ∧ (s.throttle t).limiter.Tracks (s.limit t) events ∧
      (s.verdict t).1 = (if events.length < (s.limit t).toNat then .allow else .suppress) ∧
      (s.verdict t).2.Tracks (s.limit t) (events ++ [s.now t]) := by
  obtain ⟨events, le, tracks⟩ := tracked t made
  have next := tracks.attempt (limit_pos s t) (by omega) (s.now t)
  exact ⟨events, le, tracks, next⟩

private theorem tracked_ticked (tracked : Tracked n s) (few : n + 1 < 2 ^ 64)
    (made : t < s.throttles.size) (severity : Severity) : Tracked (n + 1) (ticked t severity s) := by
  obtain ⟨events, le, _, _, tracks⟩ := verdict_eq tracked few made
  intro u hu
  rw [size_throttles_ticked] at hu
  rw [(fixed_ticked severity).limit_eq hu, throttle_ticked]
  by_cases hut : t = u
  · subst hut
    rw [if_pos ⟨rfl, made⟩]
    exact ⟨events ++ [s.now t], by rw [List.length_append]; exact Nat.succ_le_succ le, tracks⟩
  · rw [if_neg fun e => hut e.1]
    obtain ⟨events, le, tracks⟩ := tracked u hu
    exact ⟨events, Nat.le_succ_of_le le, tracks⟩

/-- An event that is withheld is one more in excess. -/
private theorem excess_ticked (tracked : Tracked n s) (few : n + 1 < 2 ^ 64)
    (made : t < s.throttles.size) (severity : Severity) (u : ThrottleId) :
    (ticked t severity s).excess u =
      s.excess u + if u = t then (if (s.verdict t).1 = .suppress then 1 else 0) else 0 := by
  by_cases hu : u = t
  · subst hu
    obtain ⟨events, _, tracks, decided, tracks'⟩ := verdict_eq tracked few made
    have before : s.excess u = events.length - (s.limit u).toNat := by rw [excess, tracks.count]
    have after : (ticked u severity s).excess u = events.length + 1 - (s.limit u).toNat := by
      rw [excess, (fixed_ticked severity).limit_eq made, throttle_ticked, if_pos ⟨rfl, made⟩,
        tracks'.count, List.length_append, List.length_singleton]
    rw [before, after, if_pos rfl, decided]
    split
    · rw [if_neg (by decide)]
      omega
    · rw [if_pos rfl]
      omega
  · have other : ¬(t = u ∧ u < s.throttles.size) := fun e => hu e.1.symm
    rw [if_neg hu, Nat.add_zero]
    by_cases old : u < s.throttles.size
    · rw [excess, (fixed_ticked severity).limit_eq old, throttle_ticked, if_neg other, excess]
    · have new := Nat.not_lt.mp old
      have new' : (ticked t severity s).throttles.size ≤ u := by
        rw [size_throttles_ticked]
        exact new
      rw [excess_of_size_le new, excess_of_size_le new']

theorem billed_ticked (calm : Calm s) (tracked : Tracked n s) (few : n + 1 < 2 ^ 64)
    (made : t < s.throttles.size) (listed : (s.throttle t).logger < s.loggers.size)
    (severity : Severity) :
    Billed n t (if (s.verdict t).1 = .suppress then 1 else 0) s (ticked t severity s) := by
  refine ⟨by split <;> omega, fixed_ticked severity, calm_ticked severity calm,
    tracked_ticked tracked few made severity, fun u => ?_, fun l => ?_, fun before e he => ?_⟩
  · have told : (ticked t severity s).reported u = s.reported u := by
      rw [reported, journal_ticked, reported]
    rw [account, told, excess_ticked tracked few made, account, Nat.add_assoc]
  · rw [logger_ticked]
    by_cases hl : (s.throttle t).logger = l
    · subst hl
      rw [if_pos ⟨rfl, listed⟩, if_pos rfl]
      cases (s.verdict t).1 with
      | allow => exact (UInt64.add_zero _).symm
      | suppress => rfl
    · rw [if_neg fun e => hl e.1, if_neg fun e => hl e.symm]
      exact (UInt64.add_zero _).symm
  · rw [journal_ticked] at he
    exact (fixed_ticked severity).authentic (before e he)

theorem balances_join (n : Nat) (t : ThrottleId) : Keeps (Balances n) (join t) := by
  intro s
  rw [join_exec]
  split
  · exact balances_enrol n _ t s
  · exact .refl n s

/-- A logging call through a throttle bills it for one event. -/
theorem logThrough_billed (calm : Calm s) (tracked : Tracked n s) (few : n + 1 < 2 ^ 64)
    (made : t < s.throttles.size) (listed : (s.throttle t).logger < s.loggers.size)
    (severity : Severity) {args : List Argument} (shown : Painless args) :
    ∃ b s', (logThrough t severity args).exec s = (.ok (), s') ∧ Billed n t b s s' := by
  obtain ⟨s₁, s', message, joining, joined, he, _, wrote⟩ := logThrough_calm calm t severity shown
  have even : Even n s s₁ := by
    have kept := balances_join n t s calm tracked
    rwa [joining] at kept
  have size := even.fixed.size
  have plain : ∀ e ∈ s₁.eventEntries t ⟨severity, message⟩, e.Plain := by
    intro e he
    rw [eventEntries] at he
    split at he
    · obtain rfl := List.mem_singleton.mp he
      intro u d k line same
      cases same
    · cases he
  have listed' : (s₁.throttle t).logger < s₁.loggers.size := by
    rw [even.fixed.logger t made, joined.loggers]
    exact listed
  have billed := billed_ticked even.calm even.tracked few (Nat.lt_of_lt_of_le made size) listed' severity
  refine ⟨_, s', he, even.billed made (billed.even ?_)⟩
  exact .wrote wrote billed.calm billed.tracked plain

end LogThrottle.System
