import LogThrottle.Proofs.Refinement.Events

/-! One happening beside plain counting. Whatever a caller does has the outcomes that the ledger tells. -/
namespace LogThrottle.Reference
open LogThrottle.System
open LogThrottle.Call
variable {x : Setting} {g : Ledger} {n : Nat} {s : System}

/-- Where stamps and membership agree, a pass finds everybody with events. -/
theorem Follows.gathered (f : Follows x g n s) (sound : Sound s)
    (aligned : Aligned (fun _ _ => False) s) (idle : Idle s) :
    Gathered x.quota.period (s.roster 0) s where
  distinct := aligned.nodup_members 0
  made q t ht := (aligned.member 0 q t ht).1
  complete t made left := by
    have there : t < g.instances.length := f.size ▸ made
    have h := f.stands t _ (List.getElem?_eq_getElem there)
    have alive := (sound.held f.held).2
    rw [f.roster, ← f.home_eq h] at alive
    have enrolled := idle t made alive left
    rwa [Enrolled, f.home_eq h, f.period_eq h] at enrolled

theorem ready_of_fits (f : Follows x g n s) (sound : Sound s) {h : Happening} (fits : h.Fits g) :
    (x.action h).Ready s := by
  have alive := (sound.held f.held).2
  rw [f.roster] at alive
  cases h with
  | lookup | log => exact f.held
  | logThrough | emit => exact Nat.lt_of_lt_of_eq fits.1 f.size.symm
  | flush | shutdown => exact alive
  | fire => exact f.there
  | move => exact f.watched

private theorem follows_move (f : Follows x g n s) {m : Stopwatch.Move}
    (fits : (Happening.move m).Fits g) :
    ∃ s', (moveClock 0 m).exec s = (.ok (), s') ∧ Follows x { g with reading := g.moved m } n s' ∧
      Tells [] s s' := by
  have fine := (f.calm.stopwatch 0).1
  let w : Stopwatch := { s.stopwatch 0 with reading := g.moved m }
  have moved : (s.stopwatch 0).move m = (.ok (), w) := by
    cases m with
    | set d => simp [Stopwatch.move, Stopwatch.set, fine, w, Ledger.moved]
    | advance d =>
      obtain ⟨r, hr⟩ := Option.ne_none_iff_exists'.mp fits
      have far := hr
      rw [← f.reading] at far
      simp [Stopwatch.move, Stopwatch.advance, fine, far, w, Ledger.moved, hr]
  refine ⟨{ s with stopwatches := s.stopwatches.setIfInBounds 0 w }, ?_, ?_, .same rfl⟩
  · simp only [moveClock, exec_bind, exec_get, exec_modify, exec_ofExcept, moved]
  have read (i : StopwatchId) : (s.stopwatches.setIfInBounds 0 w).getD i default =
      if 0 = i ∧ i < s.stopwatches.size then w else s.stopwatch i := getD_setIfInBounds ..
  refine { f with
    calm := ⟨f.calm.sink, fun i => ?_, f.calm.counter⟩
    watched := ?_
    reading := ?_
    jobs := ?_ }
  · rw [System.stopwatch, read]
    split
    · exact ⟨fine, (f.calm.stopwatch 0).2⟩
    · exact f.calm.stopwatch i
  · rw [Array.size_setIfInBounds]
    exact f.watched
  · rw [System.stopwatch, read, if_pos ⟨rfl, f.watched⟩]
  · exact ⟨f.jobs.closed, f.jobs.scheduled⟩

private theorem made_lookup (f : Follows x g n s) (sound : Sound s) (topic : Topic) :
    (g.lookup topic).2.1 < (g.lookup topic).2.2.instances.length := by
  rw [Ledger.lookup]
  cases found : g.find? topic with
  | some i => exact Nat.lt_of_lt_of_eq (sound.catalogue 0 topic i ((f.cached topic).trans found)).1 f.size
  | none =>
    dsimp only
    split
    · simp [Ledger.enter, Ledger.settled]
    · simp [Ledger.enter]

/-- What a caller does has the outcomes that the ledger tells, and no call fails. -/
theorem follows_after (f : Follows x g n s) (sound : Sound s)
    (gathered : Gathered x.quota.period (s.roster 0) s) (few : n + 1 < 2 ^ 64) {h : Happening}
    (fits : h.Fits g) :
    (∃ answer, ((x.action h).perform.exec s).1 = .ok answer) ∧
      Follows x (g.step h).2 (n + 1) (s.after (x.action h)) ∧
      Tells (g.step h).1 s (s.after (x.action h)) := by
  have later {k : Ledger} {s' : System} (f' : Follows x k n s') : Follows x k (n + 1) s' :=
    { f' with toMirrors := f'.toMirrors.mono (Nat.le_succ n) }
  have logged {k : Ledger} {s₁ : System} (f₁ : Follows x k n s₁) {i : Nat} (made : i < k.instances.length)
      (severity : Severity) {args : List Argument} (shown : Painless args) :
      ∃ s', (logThrough i severity args).exec s₁ = (.ok (), s') ∧
        Follows x (k.event i severity args).2 (n + 1) s' ∧ Tells (k.event i severity args).1 s₁ s' :=
    follows_logThrough f₁ (List.getElem?_eq_getElem made) few severity shown
  cases h with
  | lookup topic =>
    obtain ⟨s', he, f', tells⟩ := follows_lookup f gathered topic
    rw [after, Setting.action, Action.perform, he]
    exact ⟨⟨_, rfl⟩, later f', tells⟩
  | log severity template args =>
    obtain ⟨s₁, he₁, f₁, before⟩ := follows_lookup f gathered { template }
    obtain ⟨s', he, f', here⟩ := logged f₁ (made_lookup f sound { template }) severity fits
    rw [after, Setting.action, Action.perform, log, exec_bind, he₁]
    dsimp only
    rw [he]
    exact ⟨⟨_, rfl⟩, f', before.trans here⟩
  | logThrough i severity args =>
    obtain ⟨s', he, f', tells⟩ := logged f fits.1 severity fits.2
    rw [after, Setting.action, Action.perform, he]
    exact ⟨⟨_, rfl⟩, f', tells⟩
  | emit i args =>
    have found := List.getElem?_eq_getElem fits.1
    obtain ⟨s', he, f', tells⟩ := logged f fits.1 (s.throttle i).topic.voice fits.2
    rw [after, Setting.action, Action.perform, emit, exec_bind, exec_get]
    dsimp only
    rw [he, Ledger.step, found]
    rw [(f.stands i _ found).topic] at f' tells
    exact ⟨⟨_, rfl⟩, f', tells⟩
  | flush =>
    obtain ⟨s', he, f', tells⟩ := follows_flush f gathered
    rw [after, Setting.action, Action.perform, he]
    exact ⟨⟨_, rfl⟩, later f', tells⟩
  | fire =>
    obtain ⟨s', he, f', tells⟩ := follows_fire f gathered
    rw [after, Setting.action, Action.perform, he]
    exact ⟨⟨_, rfl⟩, later f', tells⟩
  | shutdown =>
    obtain ⟨s', he, f', tells⟩ := follows_shutdown f gathered
    rw [after, Setting.action, Action.perform, he]
    exact ⟨⟨_, rfl⟩, later f', tells⟩
  | move m =>
    obtain ⟨s', he, f', tells⟩ := follows_move f fits
    rw [after, Setting.action, Action.perform, he]
    exact ⟨⟨_, rfl⟩, later f', tells⟩

end LogThrottle.Reference
