import LogThrottle.Proofs.Shutdown.Sheltering

/-! After a shutdown. No reset job runs any more, and what is logged through the throttles of the roster waits
for a flush that somebody asks for. -/
namespace LogThrottle.System
open Call
variable {r : RosterId} {t : ThrottleId} {a : Action} {p : Duration} {s s' : System}

section Flushed

private theorem flush_clears (apart : Apart r t s) (member : t ∈ (s.roster r).membersAt p) :
    ∃ s', (flush r).exec s = (.ok (), s') ∧ Apart r t s' ∧ (s'.throttle t).limiter = .cleared := by
  obtain ⟨s', flushed, same⟩ := flush_outcome r s
  have after : s.after (.flush r) = s' := congrArg Prod.snd flushed
  refine ⟨s', flushed, (apart.drained r).steady same, ?_⟩
  rw [← after, limiter_flush, if_pos ⟨Roster.mem_members.mpr ⟨p, member⟩, apart.made⟩]

/-- An overflow clears the throttle, and the lookup goes on to make another. -/
private theorem lookup_clears {l : LoggerId} {topic : Topic} (apart : Apart r t s)
    (member : t ∈ (s.roster r).membersAt p) (own : (s.logger l).roster = r)
    (absent : (s.logger l).catalogue.find? topic = none)
    (full : (s.logger l).capacity < (s.logger l).catalogue.size) (taken : s.refusal? l = none) :
    ∃ u s', (lookup l topic).exec s = (.ok u, s') ∧ Apart r t s' ∧ u < s'.throttles.size ∧ u ≠ t ∧
      (s'.throttle t).limiter = .cleared := by
  obtain ⟨s₁, s₂, warned, flushed, he⟩ := overflow_taken taken
  obtain ⟨apart₁, before⟩ := shelters_warned (r := r) (t := t) warned apart
  obtain ⟨s₃, flushed', apart₂, cleared⟩ := flush_clears apart₁ (before.member p member)
  rw [own, flushed'] at flushed
  cases flushed
  -- nothing that follows the flush reaches the throttle
  have vacated : Shelters r t s₂ (setCatalogue l .cleared s₂) := .alike (.setCatalogue s₂ l _) id (fun _ => rfl) rfl
  have emptied := vacated.trans (shelters_changeTally _ l Tally.countOverflow)
  have introduced := shelters_introduce (r := r) (t := t) (absent_overflow absent he)
  obtain ⟨apart₃, unreset⟩ := (emptied.trans introduced) apart₂
  have looked : (lookup l topic).exec s =
      (introduce l topic).exec (changeTally l Tally.countOverflow (setCatalogue l .cleared s₂)) := by
    rw [lookup_of_none absent, if_pos full, exec_bind, he]
  obtain ⟨s₄, he', wrote⟩ := introduce_exec (absent_overflow absent he)
  rw [he'] at looked apart₃ unreset
  refine ⟨_, _, looked, apart₃, ?_, ?_, (unreset.limiter_eq id).trans cleared⟩
  · rw [size_throttles_enrolled, wrote.throttles, size_throttles_registered]
    exact Nat.lt_succ_self _
  · exact Nat.ne_of_gt (emptied apart₂).1.made

private theorem release_clears (apart : Apart r t s) (member : t ∈ (s.roster r).membersAt p)
    (held : (⟨.guard, r⟩ : Holder) ∈ s.holders) :
    ((s.after (.release ⟨.guard, r⟩)).throttle t).limiter = .cleared := by
  obtain ⟨s₁, flushed, apart₁, cleared⟩ := flush_clears apart member
  have letGo : Shelters r t s₁ { s₁ with holders := s₁.holders.erase ⟨.guard, r⟩ } := .of_same rfl rfl rfl rfl
  rw [← cleared]
  simp only [after, Action.perform, release, exec_bind, exec_get, held, if_true, flushed, exec_modify]
  split
  · exact (letGo apart₁).2.limiter_eq id
  · exact ((letGo.trans (shelters_shutdown r _)) apart₁).2.limiter_eq id

/-- A flush resets every member, whatever brought it about. -/
theorem cleared_of_flushes (apart : Apart r t s) (ready : a.Ready s) (flushes : a.Flushes r s)
    (member : t ∈ (s.roster r).membersAt p) : ((s.after a).throttle t).limiter = .cleared := by
  cases a with
  | flush i =>
    obtain rfl : i = r := flushes
    rw [limiter_flush, if_pos ⟨Roster.mem_members.mpr ⟨p, member⟩, apart.made⟩]
  | release x =>
    obtain rfl : x = ⟨.guard, r⟩ := flushes
    exact release_clears apart member ready
  | lookup l topic =>
    obtain ⟨_, sought, own, overflows⟩ := flushes
    cases sought
    obtain ⟨absent, full, taken⟩ := (overflows_iff rfl).mp overflows
    obtain ⟨u, s', he, _, _, _, cleared⟩ := lookup_clears apart member own absent full taken
    rwa [after, Action.perform, he]
  | log l severity template args =>
    obtain ⟨_, sought, own, overflows⟩ := flushes
    cases sought
    obtain ⟨absent, full, taken⟩ := (overflows_iff rfl).mp overflows
    obtain ⟨u, s', he, apart', made, other, cleared⟩ := lookup_clears apart member own absent full taken
    rw [after, Action.perform, log, exec_bind, he]
    exact ((unreset_logThrough apart' made severity args).limiter_eq other).trans cleared
  | _ =>
    obtain ⟨_, sought, _⟩ := flushes
    cases sought

/-- Only a roster that somebody holds is flushed. -/
theorem alive_of_flushes (sound : Sound s) (ready : a.Ready s) (flushes : a.Flushes r s) : s.alive r = true := by
  cases a with
  | flush i =>
    obtain rfl : i = r := flushes
    exact ready
  | release x =>
    obtain rfl : x = ⟨.guard, r⟩ := flushes
    exact alive_iff.mpr ⟨_, ready, rfl⟩
  | lookup | log =>
    obtain ⟨_, sought, own, _⟩ := flushes
    cases sought
    exact own ▸ (sound.held ready).2
  | _ =>
    obtain ⟨_, sought, _⟩ := flushes
    cases sought

end Flushed

section Runs
variable {as bs before later : List Action}

theorem Resident.apart (h : Resident as r t) (feasible : System.Feasible {} as)
    (closed : ((System.run {} as).roster r).closed = true) : Apart r t (System.run {} as) :=
  ⟨h.made, h.home, closed, fun _ _ => h.eq_of_member feasible⟩

/-- Members stay members until the next flush. -/
private theorem member_run (feasible : System.Feasible {} (as ++ bs)) (resident : Resident (as ++ bs) r t)
    (closed : ((System.run {} as).roster r).closed = true) (made : t < (System.run {} as).throttles.size)
    (unflushed : (System.run {} as).Along (fun s a => ¬a.Flushes r s) bs)
    (member : t ∈ ((System.run {} as).roster r).membersAt p) :
    t ∈ ((System.run {} (as ++ bs)).roster r).membersAt p := by
  induction bs generalizing as with
  | nil => rwa [List.append_nil]
  | cons b bs ih =>
    obtain ⟨earlier, ready, _⟩ := along_append.mp feasible
    have sound := sound_run earlier
    have apart := (resident.of_append feasible made).apart earlier closed
    have step := unreset_after apart (reachable_run as .empty earlier) ready unflushed.1
    obtain ⟨_, _, carries⟩ := advances_after sound ready
    have next : System.run {} (as ++ [b]) = (System.run {} as).after b := run_snoc ..
    rw [List.append_cons] at feasible resident ⊢
    refine ih feasible resident ?_ ?_ (next ▸ unflushed.2) (next ▸ step.member p member)
    · exact next ▸ closed_after sound ready closed
    · exact Nat.lt_of_lt_of_le made (next ▸ carries.throttles)

/-- A logging call makes its throttle a member of the roster that the throttle belongs to alone. -/
private theorem enrolled_after_call (feasible : System.Feasible {} (as ++ a :: bs))
    (few : (System.run {} (as ++ a :: bs)).flushes < 2 ^ 64) (resident : Resident (as ++ a :: bs) r t)
    (alive : (System.run {} (as ++ a :: bs)).alive r = true) (reached : a.throttle? (System.run {} as) = some t) :
    Resident (as ++ [a]) r t ∧ (System.run {} (as ++ [a])).Enrolled t := by
  have next : System.run {} (as ++ [a]) = (System.run {} as).after a := run_snoc ..
  have never := resident.not_enrolledAbroad feasible
  rw [List.append_cons] at feasible few resident alive
  rw [run_append] at few alive
  obtain ⟨upto, rest⟩ := along_append.mp feasible
  obtain ⟨prior, ready⟩ := along_snoc.mp upto
  have sound := sound_run prior
  have sound' := sound_run upto
  have made : t < (System.run {} (as ++ [a])).throttles.size := next ▸ made_after sound ready reached
  have resident' := resident.of_append feasible made
  refine ⟨resident', ?_⟩
  have few' : (System.run {} as).flushes < 2 ^ 64 := by
    refine Nat.lt_of_le_of_lt (Nat.le_trans ?_ (flushes_le_run sound' rest)) few
    exact next ▸ flushes_le_after sound ready
  have alive' : (System.run {} (as ++ [a])).alive ((System.run {} (as ++ [a])).home t) = true := by
    rw [resident'.home]
    exact alive_of_run sound' rest (resident'.home ▸ sound'.home_lt made) alive
  rw [next] at alive' ⊢
  rw [enrolled_after sound ready reached alive']
  -- a stranded throttle would have been enrolled with another roster
  rintro ⟨there, same, out⟩
  exact out (((aligned_run prior few').enrolled_of_stamp there (never _)).mp same)

/-- A throttle was logged through after some of the actions, and its roster was not flushed since. -/
def LoggedSince (r : RosterId) (t : ThrottleId) (s : System) (later : List Action) : Prop :=
  ∃ earlier call since, later = earlier ++ call :: since ∧ call.throttle? (s.run earlier) = some t ∧
    (s.run (earlier ++ [call])).Along (fun s a => ¬a.Flushes r s) since

/-- Throttles keep joining a closed roster, as long as somebody holds it. -/
theorem enrolled_of_loggedSince (feasible : System.Feasible {} (as ++ later))
    (few : (System.run {} (as ++ later)).flushes < 2 ^ 64) (resident : Resident (as ++ later) r t)
    (closed : ((System.run {} as).roster r).closed = true)
    (alive : (System.run {} (as ++ later)).alive r = true) (logged : LoggedSince r t (System.run {} as) later) :
    (System.run {} (as ++ later)).Enrolled t := by
  obtain ⟨earlier, call, since, rfl, reached, unflushed⟩ := logged
  rw [← List.append_assoc] at feasible few resident alive ⊢
  rw [← run_append] at reached unflushed
  rw [← List.append_assoc] at unflushed
  obtain ⟨resident', enrolled⟩ := enrolled_after_call feasible few resident alive reached
  rw [List.append_cons] at feasible resident ⊢
  obtain ⟨upto, rest⟩ := along_append.mp feasible
  have sound := sound_run upto
  have closed' : ((System.run {} (as ++ earlier ++ [call])).roster r).closed = true := by
    rw [List.append_assoc] at upto ⊢
    obtain ⟨before, calls⟩ := along_append.mp upto
    rw [run_append]
    exact closed_run (sound_run before) calls closed
  have period : (System.run {} (as ++ earlier ++ [call] ++ since)).period t =
      (System.run {} (as ++ earlier ++ [call])).period t := by
    obtain ⟨_, _, carries⟩ := advances_run sound rest
    rw [run_append]
    exact carries.period_eq sound resident'.made
  rw [Enrolled, resident'.home] at enrolled
  rw [Enrolled, resident.home, period]
  exact member_run feasible resident closed' resident'.made unflushed enrolled

/-- After a shutdown has returned, whatever else is done: the roster is closed, none of its slots has a reset job,
whether it was there or is new, and a further shutdown does nothing. No throttle that belongs to the roster alone is
reset by a call that does not flush the roster: it delivers no digest, and the limiter is as it was or has counted
one event. But throttles go on joining: a call that flushes the roster finds all that were logged through since the
last flush as members, and resets them. -/
theorem flushes_alone_reset_after_shutdown (feasible : System.Feasible {} (before ++ .shutdown r :: later)) :
    let as := before ++ .shutdown r :: later
    let s := System.run {} as
    (s.roster r).closed = true ∧
    (∀ p slot, (s.roster r).slots.find? p = some slot → slot.scheduled = false) ∧
    (shutdown r).exec s = (.ok (), s) ∧
    ∀ t, Resident as r t → ∀ a : Action, a.Ready s →
      (¬a.Flushes r s → (s.after a).digestsOf t = s.digestsOf t ∧
        (((s.after a).throttle t).limiter = (s.throttle t).limiter ∨
          a.Reaches t s ∧ (s.throttle t).limiter.Counts ((s.after a).throttle t).limiter)) ∧
      (a.Flushes r s → s.flushes < 2 ^ 64 → LoggedSince r t (System.run {} (before ++ [.shutdown r])) later →
        s.Enrolled t ∧ ((s.after a).throttle t).limiter = .cleared) := by
  intro as s
  have cut : as = before ++ [.shutdown r] ++ later := List.append_cons ..
  have whole : s = System.run {} (before ++ [.shutdown r] ++ later) := congrArg (System.run {}) cut
  rw [List.append_cons] at feasible
  obtain ⟨upto, rest⟩ := along_append.mp feasible
  have reached : Reachable s := whole ▸ reachable_run _ .empty feasible
  have shut : ((System.run {} (before ++ [.shutdown r])).roster r).closed = true := by
    obtain ⟨earlier, ready⟩ := along_snoc.mp upto
    rw [run_snoc]
    exact closed_shutdown ((sound_run earlier).alive_lt ready)
  have closed : (s.roster r).closed = true := by
    rw [whole, run_append]
    exact closed_run (sound_run upto) rest shut
  refine ⟨closed, fun p slot found => ?_, shutdown_of_closed closed, fun t resident a ready => ?_⟩
  · rw [reached.punctual r p slot found, closed]
    rfl
  · have apart : Apart r t s := resident.apart (cut ▸ feasible) closed
    refine ⟨fun quiet => ?_, fun flushes few logged => ?_⟩
    · have unreset := unreset_after apart reached ready quiet
      exact ⟨unreset.digests, unreset.limiter⟩
    · have alive := alive_of_flushes reached.sound ready flushes
      have enrolled : s.Enrolled t := by
        rw [whole] at few alive ⊢
        exact enrolled_of_loggedSince feasible few (cut ▸ resident) shut alive logged
      refine ⟨enrolled, cleared_of_flushes (p := s.period t) apart ready flushes ?_⟩
      rwa [Enrolled, resident.home] at enrolled

/-- One throttle is limited after the shutdown, and another is made for a period that the roster has not seen. The
job of the first period does nothing; a guard that is released resets both. -/
theorem flushes_alone_reset_after_shutdown_guard :
    let before : List Action := [.addSink .filled fun _ _ => none, .addStopwatch .zero fun _ => none, .openRoster,
      .build ⟨0, 0, 0, none, 1, ⟨7, by decide⟩, 3⟩, .guard 0, .log 0 .info "x" []]
    let later : List Action := [.build ⟨0, 0, 0, none, 1, ⟨9, by decide⟩, 3⟩, .log 0 .info "x" [],
      .log 0 .info "x" [], .log 1 .info "y" [], .shutdown 0]
    let s := System.run {} (before ++ .shutdown 0 :: later)
    let fired := s.after (.fire 0 ⟨7, by decide⟩)
    let released := s.after (.release ⟨.guard, 0⟩)
    (s.throttle 0).limiter.count = 2 ∧ (fired.throttle 0).limiter = (s.throttle 0).limiter ∧
      fired.digestsOf 0 = s.digestsOf 0 ∧ s.Enrolled 0 ∧ s.Enrolled 1 ∧ (s.throttle 1).limiter.count = 1 ∧
      (released.throttle 0).limiter = .cleared ∧ (released.throttle 1).limiter = .cleared := by
  intro before later s fired released
  have feasible : System.Feasible {} (before ++ .shutdown 0 :: later) := by decide +kernel
  have few : s.flushes < 2 ^ 64 := by decide +kernel
  have resident (t : ThrottleId) (made : t < s.throttles.size) (home : s.home t = 0) :
      Resident (before ++ .shutdown 0 :: later) 0 t := ⟨made, home, by simp [before, later]⟩
  obtain ⟨_, _, _, throttles⟩ := flushes_alone_reset_after_shutdown feasible
  obtain ⟨quiet, _⟩ := throttles 0 (resident 0 (by decide +kernel) (by decide +kernel)) (.fire 0 ⟨7, by decide⟩)
    (by decide +kernel)
  obtain ⟨digests, limiter⟩ := quiet (by decide +kernel)
  obtain ⟨_, first⟩ := throttles 0 (resident 0 (by decide +kernel) (by decide +kernel)) (.release ⟨.guard, 0⟩)
    (by decide +kernel)
  obtain ⟨_, second⟩ := throttles 1 (resident 1 (by decide +kernel) (by decide +kernel)) (.release ⟨.guard, 0⟩)
    (by decide +kernel)
  obtain ⟨enrolled, cleared⟩ := first rfl few
    ⟨later.take 2, .log 0 .info "x" [], later.drop 3, rfl, by decide +kernel, by decide +kernel⟩
  obtain ⟨enrolled', cleared'⟩ := second rfl few
    ⟨later.take 3, .log 1 .info "y" [], later.drop 4, rfl, by decide +kernel, by decide +kernel⟩
  refine ⟨by decide +kernel, limiter.resolve_right fun one => ?_, digests, enrolled, enrolled', by decide +kernel,
    cleared, cleared'⟩
  rcases one.1 with reached | attempt
  · cases reached
  · cases attempt

end Runs
end LogThrottle.System
