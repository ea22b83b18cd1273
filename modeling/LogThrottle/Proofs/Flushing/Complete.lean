import LogThrottle.Proofs.Enrolment.Filing
import LogThrottle.Proofs.Flushing.Contributions

/-! A flush is complete and isolates failures. It resets every member of its roster once, whatever became of
the resets before, leaves the slots empty in a new epoch, and does not fail. -/
namespace LogThrottle

theorem Roster.drain_drain (r : Roster) : r.drain.drain = { r.drain with epoch := r.drain.epoch + 1 } := by
  have slots : (r.drain.slots.map fun _ x => { x with members := .empty }) = r.drain.slots := by
    simp only [drain, Store.map, List.map_map]
    rfl
  exact congrArg (fun slots => { r.drain with epoch := r.drain.epoch + 1, slots }) slots

namespace System
open Call

theorem changeRoster_congr {s : System} {r : RosterId} {f g : Roster → Roster}
    (agree : f (s.roster r) = g (s.roster r)) : changeRoster r f s = changeRoster r g s := by
  have rosters : s.rosters.modify r f = s.rosters.modify r g := by
    apply Array.ext_getElem?
    intro i
    rw [Array.getElem?_modify, Array.getElem?_modify]
    by_cases own : r = i
    · subst own
      rw [if_pos rfl, if_pos rfl]
      cases there : s.rosters[r]? with
      | none => rfl
      | some x =>
        have read : s.roster r = x := by rw [roster, Array.getD_eq_getD_getElem?, there, Option.getD_some]
        rw [Option.map_some, Option.map_some, ← read, agree]
    · rw [if_neg own, if_neg own]
  rw [changeRoster, rosters, changeRoster]

/-- Resets one after the other, each from the system that the last one left. -/
inductive Passes : System → List (ThrottleId × Contribution) → System → Prop where
  | nil (s : System) : Passes s [] s
  | cons {s s₁ s' : System} {t : ThrottleId} {c : Contribution} {cs : List (ThrottleId × Contribution)}
      (reset : (resetOrReport t).exec s = (.ok (), s₁)) (contributes : s.Contributes t c)
      (wrote : Wrote (s.contributed t c) (settled t c s) s₁) (rest : Passes s₁ cs s') : Passes s ((t, c) :: cs) s'

theorem resetAll_passes (ts : List ThrottleId) (s : System) :
    ∃ cs s', (resetAll ts).exec s = (.ok (), s') ∧ cs.map Prod.fst = ts ∧ Passes s cs s' := by
  induction ts generalizing s with
  | nil => exact ⟨[], s, rfl, rfl, .nil s⟩
  | cons t ts ih =>
    obtain ⟨c, s₁, he, contributes, wrote⟩ := resetOrReport_contributes t s
    obtain ⟨cs, s', he', all, rest⟩ := ih s₁
    refine ⟨(t, c) :: cs, s', ?_, congrArg (t :: ·) all, .cons he contributes wrote rest⟩
    rw [resetAll, exec_bind, he]
    exact he'

variable {t : ThrottleId} {c : Contribution} {cs : List (ThrottleId × Contribution)} {s s' : System}

theorem told_settled (t : ThrottleId) (c : Contribution) (s : System) : Told [] s (settled t c s) := by
  have cleared := Told.setLimiter s t .cleared
  rw [settled]
  split
  · exact cleared.trans (.countDigest _ _)
  · exact cleared

theorem Contributes.nothing_iff (h : s.Contributes t c) : c = .nothing ↔ ¬s.Exceeded t := by
  cases h with
  | nothing within => exact ⟨fun _ => within, fun _ => rfl⟩
  | digest exceeded | unread exceeded | refused exceeded =>
    exact ⟨(nomatch ·), fun within => absurd exceeded within⟩

/-- Throttles that do not exist have exceeded nothing. -/
theorem Exceeded.made (h : s.Exceeded t) : t < s.throttles.size := Classical.byContradiction fun unmade => by
  have limited := h.1
  rw [throttle_of_size_le (Nat.not_lt.mp unmade)] at limited
  cases limited

theorem tally_settled (owned : c.isDigest = true → (s.throttle t).logger < s.loggers.size) (l : LoggerId) :
    ((settled t c s).logger l).tally = if c.isDigest = true ∧ (s.throttle t).logger = l then
      (s.logger l).tally.countDigest else (s.logger l).tally := by
  rw [settled]
  cases counted : c.isDigest with
  | false => rw [if_neg Bool.false_ne_true, if_neg fun both => Bool.false_ne_true both.1]; rfl
  | true =>
    rw [if_pos rfl, logger_changeTally]
    by_cases own : (s.throttle t).logger = l
    · rw [if_pos ⟨own, own ▸ owned counted⟩, if_pos ⟨rfl, own⟩]
      rfl
    · rw [if_neg fun both => own both.1, if_neg fun both => own both.2]
      rfl

namespace Passes

theorem told (h : Passes s cs s') : Told (cs.flatMap fun p => s.contributed p.1 p.2) s s' := by
  induction h with
  | nil s => exact .refl s
  | @cons s s₁ s' t c cs reset contributes wrote rest ih =>
    have first : Told (s.contributed t c) s s₁ := (told_settled t c s).trans wrote.told
    have same : (fun p : ThrottleId × Contribution => s₁.contributed p.1 p.2) = fun p => s.contributed p.1 p.2 := by
      funext p
      rw [first.contributed_eq]
    rw [same] at ih
    exact first.trans ih

/-- Tallies count the digests. -/
theorem tally (h : Passes s cs s') (owned : ∀ t < s.throttles.size, (s.throttle t).logger < s.loggers.size)
    (l : LoggerId) : (s'.logger l).tally = { (s.logger l).tally with
      digests := (s.logger l).tally.digests +
        .ofNat (cs.countP fun p => p.2.isDigest ∧ (s.throttle p.1).logger = l) } := by
  induction h with
  | nil s => exact congrArg (fun n => { (s.logger l).tally with digests := n }) (UInt64.add_zero _).symm
  | @cons s s₁ s' t c cs reset contributes wrote rest ih =>
    have first : Told (s.contributed t c) s s₁ := (told_settled t c s).trans wrote.told
    have owned₁ : ∀ t < s₁.throttles.size, (s₁.throttle t).logger < s₁.loggers.size := by
      intro t made
      rw [first.throttles] at made
      rw [first.logger_eq, first.loggers]
      exact owned t made
    have counted : (s₁.logger l).tally = if c.isDigest = true ∧ (s.throttle t).logger = l then
        (s.logger l).tally.countDigest else (s.logger l).tally := by
      rw [logger, wrote.loggers, ← logger]
      refine tally_settled (fun digest => owned t ?_) l
      cases contributes with
      | digest exceeded => exact exceeded.made
      | nothing | unread | refused => cases digest
    have later := ih owned₁
    simp only [first.logger_eq] at later
    rw [later, counted, List.countP_cons, UInt64.ofNat_add]
    by_cases digest : c.isDigest = true ∧ (s.throttle t).logger = l
    · simp only [digest, Tally.countDigest]
      simp
      ac_rfl
    · simp [digest]

/-- Different throttles contribute what they would have before the pass, as far as their limiters decide. -/
theorem contributes_of_mem (h : Passes s cs s') (distinct : (cs.map Prod.fst).Nodup)
    {p : ThrottleId × Contribution} (member : p ∈ cs) :
    ∃ es s₁, Told es s s₁ ∧ (s₁.throttle p.1).limiter = (s.throttle p.1).limiter ∧ s₁.Contributes p.1 p.2 := by
  induction h with
  | nil => cases member
  | @cons s s₁ s' t c cs reset contributes wrote rest ih =>
    rw [List.map_cons, List.nodup_cons] at distinct
    obtain rfl | later := List.mem_cons.mp member
    · exact ⟨[], s, .refl s, rfl, contributes⟩
    · have first : Told (s.contributed t c) s s₁ := (told_settled t c s).trans wrote.told
      obtain ⟨es, s₂, told, limiter, contributes'⟩ := ih distinct.2 later
      refine ⟨_, s₂, first.trans told, limiter.trans ?_, contributes'⟩
      have other : t ≠ p.1 := fun same => distinct.1 (List.mem_map.mpr ⟨p, later, same.symm⟩)
      have throttles := throttles_resetOrReport t s
      rw [reset] at throttles
      rw [throttle, throttles, ← throttle, throttle_setLimiter, if_neg fun own => other own.1]

end Passes

section Reading
variable {es : List Entry} {s₁ : System}

/-- Nothing is contributed exactly if the limit was not exceeded; a digest tells by how many. -/
theorem Contributes.of_told (told : Told es s s₁) (limiter : (s₁.throttle t).limiter = (s.throttle t).limiter)
    (h : s₁.Contributes t c) : (c = .nothing ↔ ¬s.Exceeded t) ∧ ∀ d, c = .digest d →
      d.topic = (s.throttle t).topic ∧
        d.suppressed.toNat = (s.throttle t).limiter.count.toNat - (s.limit t).toNat := by
  have same : s₁.Exceeded t ↔ s.Exceeded t := by rw [Exceeded, limiter, told.limit_eq, Exceeded]
  refine ⟨by rw [h.nothing_iff, same], ?_⟩
  rintro d rfl
  cases h with
  | digest exceeded read taken =>
    refine ⟨told.topic_eq t, ?_⟩
    rw [digestAt, limiter, told.limit_eq, UInt64.toNat_ofNat']
    exact Nat.mod_eq_of_lt (Nat.lt_of_le_of_lt (Nat.sub_le _ _) (s.throttle t).limiter.count.toNat_lt)

end Reading

/-- For every roster of a reachable system, wherever sinks and stopwatches fail: a flush returns, and its
members are reset once each. A member contributes nothing exactly if it has not exceeded its limit, or its
digest, or the report of a failure, as the calls of its reset come to; only digests are counted, in the tally
of the member's logger. The slots stay and are empty in a new epoch, members are cleared and all other
throttles keep count and mark, and another flush at once only begins the next epoch. -/
theorem flush_isolates_failures (reachable : Reachable s) {r : RosterId} (made : r < s.rosters.size) :
    ∃ cs s', (flush r).exec s = (.ok (), s') ∧
      cs.map Prod.fst = (s.roster r).members ∧ (s.roster r).members.Nodup ∧ Passes (drained r s) cs s' ∧
      (∀ p ∈ cs, (p.2 = .nothing ↔ ¬s.Exceeded p.1) ∧ ∀ d, p.2 = .digest d →
        d.topic = (s.throttle p.1).topic ∧
          d.suppressed.toNat = (s.throttle p.1).limiter.count.toNat - (s.limit p.1).toNat) ∧
      s'.journal.toList =
        s.journal.toList ++ .notice .flushing :: cs.flatMap (fun p => s.contributed p.1 p.2) ∧
      (∀ l, (s'.logger l).tally = { (s.logger l).tally with
        digests := (s.logger l).tally.digests +
          .ofNat (cs.countP fun p => p.2.isDigest ∧ (s.throttle p.1).logger = l) }) ∧
      (∀ t, (s'.throttle t).limiter =
        if t ∈ (s.roster r).members then .cleared else (s.throttle t).limiter) ∧
      (∀ period, (s'.roster r).membersAt period = []) ∧
      (s'.roster r).slots.keys = (s.roster r).slots.keys ∧
      (s'.roster r).epoch = (s.roster r).epoch + 1 ∧
      (flush r).exec s' =
        (.ok (), write (.notice .flushing) (changeRoster r (fun x => { x with epoch := x.epoch + 1 }) s')) := by
  obtain ⟨cs, s', he, all, passes⟩ := resetAll_passes (s.roster r).members (drained r s)
  have flushed : (flush r).exec s = (.ok (), s') := (flush_exec r s).trans he
  have distinct := reachable.filed.nodup_members r
  have told := passes.told
  have emptied : s'.roster r = (s.roster r).drain := by
    rw [roster, told.rosters, ← roster, roster_drained, if_pos ⟨rfl, made⟩]
  refine ⟨cs, s', flushed, all, distinct, passes, fun p member => ?_, ?_, fun l => ?_, fun t => ?_,
    fun period => ?_, ?_, ?_, ?_⟩
  · obtain ⟨es, s₁, told₁, limiter, contributes⟩ := passes.contributes_of_mem (all ▸ distinct) member
    exact (Contributes.of_told told₁ limiter contributes :)
  · have noted : (drained r s).journal.toList = s.journal.toList ++ [.notice .flushing] := Array.toList_push
    rw [told.journal, noted, List.append_assoc]
    rfl
  · exact passes.tally reachable.sound.throttle l
  · have cleared := limiter_flush r s t
    rw [after, Action.perform, flushed] at cleared
    rw [cleared]
    by_cases there : t < s.throttles.size
    · simp only [there, and_true]
    · rw [if_neg fun both => there both.2, throttle_of_size_le (Nat.not_lt.mp there), ite_eq_right_iff.mpr]
      exact fun _ => rfl
  · rw [emptied, Roster.membersAt_drain]
  · rw [emptied, Roster.drain, Store.keys_map]
  · rw [emptied]
    rfl
  · have none : (s'.roster r).members = [] := by rw [emptied, Roster.members_drain]
    have again : changeRoster r Roster.drain s' = changeRoster r (fun x => { x with epoch := x.epoch + 1 }) s' :=
      changeRoster_congr (by rw [emptied, Roster.drain_drain])
    rw [flush_exec, none, drained, again]
    rfl

/-- Of five members the first cannot read its stopwatch, the second has a sink that fails twice and the third
one that fails once. The fourth is summed up, and the last has not exceeded its limit. -/
theorem flush_isolates_failures_of_three :
    let s := System.run {} [.addSink .filled fun _ _ => none,
      .addSink .filled fun n _ => if n = 1 then some (.text "full") else none,
      .addSink .filled fun n _ => if 1 ≤ n then some .wordless else none,
      .addStopwatch .zero fun _ => none, .addStopwatch .zero fun n => if n = 1 then some .wordless else none,
      .openRoster, .build ⟨0, 0, 0, none, 1, ⟨7, by decide⟩, 3⟩, .build ⟨0, 1, 0, none, 1, ⟨7, by decide⟩, 3⟩,
      .build ⟨0, 2, 0, none, 1, ⟨9, by decide⟩, 3⟩, .build ⟨0, 0, 1, none, 1, ⟨9, by decide⟩, 3⟩,
      .log 0 .info "a" [], .log 0 .info "b" [], .log 0 .info "b" [], .log 1 .info "c" [], .log 1 .info "c" [],
      .log 2 .info "d" [], .log 2 .info "d" [], .log 3 .info "e" [], .log 3 .info "e" []]
    let s' := s.after (.flush 0)
    Reachable s ∧ ∃ cs : List (ThrottleId × Contribution),
      (flush 0).exec s = (.ok (), s') ∧ cs.map Prod.fst = [4, 3, 2, 1, 0] ∧ (∀ p ∈ cs, p.2 = .nothing ↔ p.1 = 0) ∧
      s'.journal.toList.drop s.journal.size = [.notice .flushing,
        .line (.failure 4) 0 ⟨.warn, "failed to reset rate-limited log 'e': unknown panic"⟩, .notice .resetFailed,
        .line (.failure 2) 1 ⟨.warn, "failed to reset rate-limited log 'c': full"⟩,
        .line (.digest 1 ⟨{ template := "b" }, 1, .zero⟩) 0
          ⟨.info, "(suppressed 1 logs similar to 'b' in 0ns)"⟩] ∧
      (s'.after (.flush 0)).journal.toList = s'.journal.toList ++ [.notice .flushing] := by
  intro s s'
  have reachable : Reachable s := reachable_run _ .empty (by decide +kernel)
  obtain ⟨cs, s₁, he, all, _, _, fits, _, _, _, _, _, _, again⟩ :=
    flush_isolates_failures reachable (by decide +kernel : 0 < s.rosters.size)
  obtain rfl : s' = s₁ := congrArg Prod.snd he
  have members : (s.roster 0).members = [4, 3, 2, 1, 0] := by decide +kernel
  have within : ∀ t ∈ [4, 3, 2, 1, 0], ¬s.Exceeded t ↔ t = 0 := by decide +kernel
  have noted (f : Roster → Roster) (u : System) : (write (.notice .flushing) (changeRoster 0 f u)).journal.toList =
      u.journal.toList ++ [.notice .flushing] := Array.toList_push
  rw [members] at all
  refine ⟨reachable, cs, he, all, fun p member => ?_, by decide +kernel, ?_⟩
  · rw [(fits p member).1]
    exact within p.1 (all ▸ List.mem_map_of_mem member)
  · rw [after, Action.perform, again]
    exact noted _ s'

end System
end LogThrottle
