import LogThrottle.Proofs.Refinement.Calling

/-! One event beside plain counting. Its throttle joins, its reading goes to the end of the list, and its
line is delivered exactly if fewer events than the limit came before. -/
namespace LogThrottle.Reference
open LogThrottle.System
open LogThrottle.Call
variable {x : Setting} {g : Ledger} {n : Nat} {s s' : System} {t : ThrottleId} {i : Instance}

theorem Unmoved.ticked (t : ThrottleId) (severity : Severity) (s : System) :
    Unmoved s (ticked t severity s) := by
  have parts : (System.ticked t severity s).holders = s.holders ∧
      (System.ticked t severity s).sinks = s.sinks ∧
      (System.ticked t severity s).stopwatches = s.stopwatches ∧
      (System.ticked t severity s).loggers.size = s.loggers.size := by
    rw [System.ticked]
    split <;> exact ⟨rfl, rfl, rfl, size_loggers_changeTally ..⟩
  refine ⟨calm_ticked severity, parts.1, parts.2.2.2, congrArg Array.size parts.2.2.1, fun l => ?_,
    fun k => ?_, fun w => ?_⟩
  · rw [logger_ticked]
    split <;> rfl
  · rw [System.sink, parts.2.1, System.sink]
  · rw [System.stopwatch, parts.2.2.1, System.stopwatch]

/-- The decision on an event, and the limiter after it. -/
theorem Mirrors.verdict_eq (m : Mirrors x g n s) (h : Stands x n i (s.throttle t))
    (few : n + 1 < 2 ^ 64) :
    (s.verdict t).1 = (if i.events.length < g.limit then .allow else .suppress) ∧
      (s.verdict t).2.Tracks x.quota.limit (i.events ++ [g.reading]) := by
  have next := h.tracks.attempt (UInt32.lt_iff_toNat_lt.mp x.quota.limit_pos)
    (Nat.lt_of_le_of_lt (Nat.succ_le_succ h.few) few) g.reading
  rw [m.limit] at next
  rw [verdict, m.limit_eq h, m.now_eq h]
  exact next

theorem Mirrors.ticked (m : Mirrors x g n s) (hi : g.instances[t]? = some i) (few : n + 1 < 2 ^ 64)
    (severity : Severity) :
    Mirrors x { g with instances := g.instances.set t { i with events := i.events ++ [g.reading] } }
      (n + 1) (ticked t severity s) := by
  have there := (List.getElem?_eq_some_iff.mp hi).1
  have h := m.stands t i hi
  have surrounds : Surrounds x g (System.ticked t severity s) := m.toSurrounds.unmoved (.ticked t severity s)
  refine { surrounds with size := ?_, stands := fun u j hj => ?_ }
  · rw [size_throttles_ticked, m.size, List.length_set]
  · rw [throttle_ticked]
    by_cases hu : t = u
    · subst hu
      rw [List.getElem?_set_self there] at hj
      obtain rfl := Option.some.inj hj
      rw [if_pos ⟨rfl, m.size ▸ there⟩]
      refine ⟨h.logger, h.topic, (m.verdict_eq h few).2, ?_⟩
      rw [List.length_append]
      exact Nat.succ_le_succ h.few
    · rw [List.getElem?_set_ne hu] at hj
      rw [if_neg fun e => hu e.1]
      have other := m.stands u j hj
      exact { other with few := Nat.le_succ_of_le other.few }

theorem follows_joined (f : Follows x g n s) (h : Stands x n i (s.throttle t)) (joined : Joined t s s') :
    Follows x g n s' ∧ Tells [] s s' := by
  cases joined with
  | idle => exact ⟨f, .refl s⟩
  | @enrolled s₁ _ _ wrote =>
    rw [f.home_eq h] at wrote ⊢
    have enrolling : Tells [] s₁ (System.enrolled 0 t s₁) := .same rfl
    have f₁ : Follows x g n s₁ := f.steady (f.toMirrors.wrote wrote) rfl wrote.rosters
    exact ⟨f₁.enrolled t, (Tells.announced wrote).trans enrolling⟩

/-- A logging call through a throttle is one event of its instance. -/
theorem follows_logThrough (f : Follows x g n s) (hi : g.instances[t]? = some i)
    (few : n + 1 < 2 ^ 64) (severity : Severity) {args : List Argument} (shown : Painless args) :
    ∃ s', (logThrough t severity args).exec s = (.ok (), s') ∧
      Follows x (g.event t severity args).2 (n + 1) s' ∧ Tells (g.event t severity args).1 s s' := by
  obtain ⟨s₁, s', message, _, joined, he, rendered, wrote⟩ := logThrough_calm f.calm t severity shown
  obtain ⟨f₁, silent⟩ := follows_joined f (f.stands t i hi) joined
  have h := f₁.stands t i hi
  have ticked := f₁.toMirrors.ticked hi few severity
  have rosters : s'.rosters = s₁.rosters := wrote.rosters.trans (rosters_ticked severity)
  have text : g.message i.topic.template args = message := by
    rw [f₁.sink_eq h, f₁.style, h.topic] at rendered
    rw [Ledger.message, rendered]
    rfl
  have journal : s'.journal.toList = s₁.journal.toList ++ s₁.eventEntries t ⟨severity, message⟩ := by
    rw [wrote.journal, journal_ticked]
  have told : Tells (g.event t severity args).1 s₁ s' := by
    rw [eventEntries, f₁.sink_eq h, (f₁.toMirrors.verdict_eq h few).1] at journal
    rw [Ledger.event, hi]
    dsimp only
    by_cases early : i.events.length < g.limit
    · rw [if_pos early] at journal ⊢
      rw [text]
      exact .of_journal journal (.line _ .nil) (by simp)
    · rw [if_neg early] at journal ⊢
      exact .silent journal rfl List.not_mem_nil
  refine ⟨s', he, ?_, silent.trans told⟩
  rw [Ledger.event, hi]
  exact f₁.steady (ticked.wrote wrote) rfl rosters

end LogThrottle.Reference
