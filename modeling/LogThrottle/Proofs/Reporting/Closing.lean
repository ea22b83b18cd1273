import LogThrottle.Proofs.Enrolment.Filing
import LogThrottle.Proofs.Reporting.Books
import LogThrottle.Proofs.System.Marks

/-! What the release of a roster's last holder reports. It flushes a roster that was still open, and a
guard flushes its roster in any case; a roster that was shut down before is left as it is. -/
namespace LogThrottle

def Entry.isDigestOf (t : ThrottleId) : Entry → Bool
  | .line (.digest u _) _ _ => u = t
  | _ => false

namespace System
open Call

/-- `es` was written, some throttles were reset, and each of them told there what it withheld. -/
structure Swept (ts : List ThrottleId) (es : List Entry) (s s' : System) : Prop where
  journal : s'.journal.toList = s.journal.toList ++ es
  limiter : ∀ t, (s'.throttle t).limiter =
    if t ∈ ts ∧ t < s.throttles.size then .cleared else (s.throttle t).limiter
  digests : ∀ t, es.filter (Entry.isDigestOf t) = if t ∈ ts then s.digestEntries t else []

variable {s s' s'' : System} {r : RosterId} {t : ThrottleId} {ts : List ThrottleId} {es fs : List Entry}

/-- Nothing more is reset. -/
theorem Swept.trans (h : Swept ts es s s') (h' : Swept [] fs s' s'') : Swept ts (es ++ fs) s s'' where
  journal := by rw [h'.journal, h.journal, List.append_assoc]
  limiter t := by
    rw [h'.limiter, if_neg fun again => List.not_mem_nil again.1]
    exact h.limiter t
  digests t := by
    rw [List.filter_append, h'.digests, if_neg List.not_mem_nil, List.append_nil]
    exact h.digests t

theorem swept_of_same (throttles : s'.throttles = s.throttles) (journal : s'.journal = s.journal) :
    Swept [] [] s s' where
  journal := by rw [journal, List.append_nil]
  limiter t := by rw [throttle, throttles, ← throttle, if_neg fun again => List.not_mem_nil again.1]
  digests _ := rfl

theorem filter_digestEntries (s : System) (t u : ThrottleId) :
    (s.digestEntries u).filter (Entry.isDigestOf t) = if u = t then s.digestEntries u else [] := by
  rw [digestEntries]
  cases s.digest? u with
  | none => simp
  | some d => by_cases own : u = t <;> simp [Entry.isDigestOf, own]

/-- A pass over different throttles has one digest of each at most. -/
theorem filter_flatMap_digestEntries (distinct : ts.Nodup) (t : ThrottleId) :
    (ts.flatMap s.digestEntries).filter (Entry.isDigestOf t) =
      if t ∈ ts then s.digestEntries t else [] := by
  induction ts with
  | nil => rfl
  | cons u ts ih =>
    obtain ⟨once, distinct⟩ := List.nodup_cons.mp distinct
    rw [List.flatMap_cons, List.filter_append, filter_digestEntries, ih distinct]
    by_cases own : u = t
    · subst own
      rw [if_pos rfl, if_neg once, if_pos List.mem_cons_self, List.append_nil]
    · have other : ¬t = u := fun e => own e.symm
      simp only [own, if_false, List.nil_append, List.mem_cons, other, false_or]

theorem swept_flush (serene : Serene s) (distinct : (s.roster r).members.Nodup) :
    ∃ es s', (flush r).exec s = (.ok (), s') ∧ Swept (s.roster r).members es s s' ∧
      Told ((s.roster r).members.flatMap s.digestEntries) (drained r s) s' := by
  have drained_serene : Serene (drained r s) := ⟨serene.sink, serene.stopwatch⟩
  obtain ⟨s', he, told⟩ := resetAll_serene drained_serene distinct
  have limiters := limiter_resetAll (s.roster r).members (drained r s)
  rw [he] at limiters
  refine ⟨.notice .flushing :: (s.roster r).members.flatMap s.digestEntries, s', ?_,
    ⟨?_, limiters, filter_flatMap_digestEntries distinct⟩, told⟩
  · rw [flush_exec, he]
  · rw [told.journal, drained, write, Array.toList_push, List.append_assoc]
    rfl

private theorem members_close (s : System) (r : RosterId) :
    ((changeRoster r Roster.close s).roster r).members = (s.roster r).members := by
  rw [roster_changeRoster]
  split <;> rfl

private theorem members_drained (there : r < s.rosters.size) : ((drained r s).roster r).members = [] := by
  rw [roster_drained, if_pos ⟨rfl, there⟩, Roster.members_drain]

/-- Only an open roster is flushed. -/
theorem swept_shutdown (serene : Serene s) (distinct : (s.roster r).members.Nodup) :
    ∃ es s', (shutdown r).exec s = (.ok (), s') ∧
      Swept (if (s.roster r).closed then [] else (s.roster r).members) es s s' ∧
      ((s.roster r).closed = true → es = []) := by
  simp only [shutdown, exec_bind, exec_get]
  split
  · exact ⟨[], s, rfl, swept_of_same rfl rfl, fun _ => rfl⟩
  · rename_i opened
    have members := members_close s r
    obtain ⟨es, s', he, swept, _⟩ := swept_flush (s := changeRoster r Roster.close s)
      ⟨serene.sink, serene.stopwatch⟩ (members ▸ distinct)
    rw [members] at swept
    refine ⟨es, changeRoster r Roster.cancelJobs s', ?_, ?_, fun closed => absurd closed opened⟩
    · simp only [exec_bind, he, exec_modify]
    · have nothing : Swept [] [] s' (changeRoster r Roster.cancelJobs s') := swept_of_same rfl rfl
      have all := swept.trans nothing
      rw [List.append_nil] at all
      exact ⟨all.journal, all.limiter, all.digests⟩

section Release
variable {x : Holder}

/-- Nobody is left to hold the roster. -/
private theorem exec_letGo (last : ∀ y ∈ s.holders.erase x, y.roster ≠ x.roster) :
    (do modify fun s => { s with holders := s.holders.erase x }
        unless (← get).alive x.roster do shutdown x.roster : Call Unit).exec s =
      (shutdown x.roster).exec { s with holders := s.holders.erase x } := by
  have dead : System.alive { s with holders := s.holders.erase x } x.roster = false :=
    Bool.eq_false_iff.mpr fun alive => by
      obtain ⟨y, hy, same⟩ := alive_iff.mp alive
      exact last y hy same
  simp only [exec_bind, exec_get, exec_modify, dead, Bool.false_eq_true, if_false]

/-- A guard that is the last holder flushes its roster, whether or not it is open; any other flushes it
by closing it. -/
theorem swept_release (serene : Serene s) (distinct : (s.roster x.roster).members.Nodup)
    (there : x.roster < s.rosters.size) (held : x ∈ s.holders)
    (last : ∀ y ∈ s.holders.erase x, y.roster ≠ x.roster) :
    ∃ es, Swept (if (s.roster x.roster).closed ∧ x.kind ≠ .guard then []
        else (s.roster x.roster).members) es s (s.after (.release x)) ∧
      ((s.roster x.roster).closed = true → x.kind ≠ .guard → es = []) := by
  have after : s.after (.release x) = ((release x).exec s).2 := rfl
  rw [after]
  simp only [release, exec_bind, exec_get, held, if_true]
  by_cases guard : x.kind = .guard
  · obtain ⟨es, s₁, he, swept, told⟩ := swept_flush serene distinct
    have members : (s₁.roster x.roster).members = [] := by
      rw [roster, told.rosters]
      exact members_drained there
    have last₁ : ∀ y ∈ s₁.holders.erase x, y.roster ≠ x.roster := by
      rw [told.holders]
      exact last
    have serene₁ : Serene s₁ := told.serene ⟨serene.sink, serene.stopwatch⟩
    obtain ⟨fs, s₂, he', again, _⟩ := swept_shutdown (s := { s₁ with holders := s₁.holders.erase x })
      (r := x.roster) ⟨serene₁.sink, serene₁.stopwatch⟩ (members.symm ▸ List.nodup_nil)
    -- the second flush finds no members
    have nobody : (System.roster { s₁ with holders := s₁.holders.erase x } x.roster).members = [] := members
    rw [nobody, ite_self] at again
    have all := swept.trans ⟨again.journal, again.limiter, again.digests⟩
    simp only [guard, if_true, exec_bind, he, exec_letGo last₁, he']
    exact ⟨_, by simpa using all, fun _ other => absurd rfl other⟩
  · obtain ⟨es, s₁, he, swept, closed⟩ := swept_shutdown (s := { s with holders := s.holders.erase x })
      (r := x.roster) ⟨serene.sink, serene.stopwatch⟩ distinct
    simp only [guard, if_false, exec_letGo last, he]
    refine ⟨es, ?_, fun shut _ => closed shut⟩
    have all : Swept (if (s.roster x.roster).closed then [] else (s.roster x.roster).members) es s s₁ :=
      ⟨swept.journal, swept.limiter, swept.digests⟩
    simpa [guard] using all

end Release

/-- A throttle reports its events beyond the limit, if it has any. -/
theorem digestEntries_of_marked (marked : s.Marked t)
    (fine : s.Fine (s.logger (s.throttle t).logger).stopwatch) :
    if (s.limit t).toNat < (s.throttle t).limiter.count.toNat then
      ∃ d : Digest, d.topic = (s.throttle t).topic ∧
        d.suppressed.toNat = (s.throttle t).limiter.count.toNat - (s.limit t).toNat ∧
        s.digestEntries t =
          [.line (.digest t d) (s.logger (s.throttle t).logger).sink ⟨d.topic.voice, d.text⟩]
    else s.digestEntries t = [] := by
  split
  · rename_i beyond
    have number := Limiter.withheld_toNat (s.limit t) _ (marked fine (Nat.le_of_lt beyond))
    have told : (s.throttle t).limiter.withheld (s.limit t) ≠ 0 := by
      intro nothing
      rw [nothing] at number
      exact Nat.sub_ne_zero_of_lt beyond number.symm
    refine ⟨⟨(s.throttle t).topic, (s.throttle t).limiter.withheld (s.limit t),
      (s.throttle t).limiter.sinceMark (s.now t).clockMillis⟩, rfl, number, ?_⟩
    simp only [digestEntries, digest?, told, if_false, Option.toList_some, List.map_cons, List.map_nil]
  · rename_i within
    have nothing : (s.throttle t).limiter.withheld (s.limit t) = 0 := by
      rw [Limiter.withheld, Nat.sub_eq_zero_of_le (Nat.not_lt.mp within)]
      split <;> rfl
    simp only [digestEntries, digest?, nothing, if_true, Option.toList_none, List.map_nil]

/-- When the last holder of a roster goes away in any state, every member has one digest of exactly its
events beyond the limit, or none if it has no such events, and starts afresh. Only where the roster was
shut down before and its last holder is no guard, nothing is written and nothing reset. -/
theorem release_last_digests (reached : Reachable s) {x : Holder} (held : x ∈ s.holders)
    (last : ∀ y ∈ s.holders.erase x, y.roster ≠ x.roster) (serene : Serene s) :
    ∃ es, (s.after (.release x)).journal.toList = s.journal.toList ++ es ∧
      if (s.roster x.roster).closed ∧ x.kind ≠ .guard then
        es = [] ∧ ∀ t, ((s.after (.release x)).throttle t).limiter = (s.throttle t).limiter
      else ∀ t ∈ (s.roster x.roster).members,
        ((s.after (.release x)).throttle t).limiter = .cleared ∧
        if (s.limit t).toNat < (s.throttle t).limiter.count.toNat then
          ∃ d : Digest, d.topic = (s.throttle t).topic ∧
            d.suppressed.toNat = (s.throttle t).limiter.count.toNat - (s.limit t).toNat ∧
            es.filter (Entry.isDigestOf t) =
              [.line (.digest t d) (s.logger (s.throttle t).logger).sink ⟨d.topic.voice, d.text⟩]
        else es.filter (Entry.isDigestOf t) = [] := by
  have filed := reached.filed
  obtain ⟨es, swept, silent⟩ := swept_release serene (filed.nodup_members _)
    (reached.sound.holder x held) held last
  refine ⟨es, swept.journal, ?_⟩
  split
  · rename_i shut
    rw [if_pos shut] at swept
    refine ⟨silent shut.1 shut.2, fun t => ?_⟩
    rw [swept.limiter, if_neg fun again => List.not_mem_nil again.1]
  · rename_i flushed
    rw [if_neg flushed] at swept
    intro t member
    obtain ⟨p, slot⟩ := Roster.mem_members.mp member
    refine ⟨?_, ?_⟩
    · rw [swept.limiter, if_pos ⟨member, (filed _ p t slot).1⟩]
    · rw [swept.digests, if_pos member]
      exact digestEntries_of_marked (reached.marked t) (serene.stopwatch _)

/-- Two events at a limit of one after the shutdown, and a guard as the last holder. -/
theorem release_last_digests_guard :
    let as : List Action := [.addSink .filled fun _ _ => none, .addStopwatch .zero fun _ => none,
      .openRoster, .build ⟨0, 0, 0, none, 1, ⟨7, by decide⟩, 3⟩, .guard 0, .log 0 .info "x" [],
      .shutdown 0, .log 0 .info "x" [], .log 0 .info "x" [], .release ⟨.owner, 0⟩,
      .release ⟨.logger 0, 0⟩]
    let s := System.run {} as
    let s' := s.after (.release ⟨.guard, 0⟩)
    ∃ d : Digest, d.suppressed.toNat = 1 ∧
      s'.journal.toList.filter (Entry.isDigestOf 0) = s.journal.toList.filter (Entry.isDigestOf 0) ++
        [.line (.digest 0 d) 0 ⟨.info, "(suppressed 1 logs similar to 'x' in 0ns)"⟩] := by
  intro as s s'
  have ready : System.Along (fun s a => a.Ready s) {} as := by decide +kernel
  have calm : System.Along (fun s a => a.Calm s ∧ a.Counted) {} as := by
    simp [as, System.Along, Action.Calm, Action.Counted, Painless]
  have serene : Serene s := (booked_run (ready.and calm) (by decide)).calm.serene
  obtain ⟨es, written, told⟩ := release_last_digests (x := ⟨.guard, 0⟩) (reachable_run as .empty ready)
    (by decide +kernel) (by decide +kernel) serene
  rw [if_neg (by decide +kernel)] at told
  have first := (told 0 (by decide +kernel)).2
  rw [if_pos (by decide +kernel)] at first
  obtain ⟨d, _, number, digest⟩ := first
  have whole : s'.journal.toList.filter (Entry.isDigestOf 0) = s.journal.toList.filter (Entry.isDigestOf 0) ++
      [.line (.digest 0 ⟨⟨"x", none⟩, 1, .zero⟩) 0 ⟨.info, "(suppressed 1 logs similar to 'x' in 0ns)"⟩] := by
    decide +kernel
  obtain rfl : d = ⟨⟨"x", none⟩, 1, .zero⟩ := by
    have same := whole
    rw [written, List.filter_append, digest] at same
    injection List.append_cancel_left same with line
    injection line with origin
    exact (Origin.digest.inj origin).2
  exact ⟨_, number.trans (by decide +kernel), whole⟩

/-- Without the guard, the same two events are never reported. -/
theorem release_last_unreported :
    let as : List Action := [.addSink .filled fun _ _ => none, .addStopwatch .zero fun _ => none,
      .openRoster, .build ⟨0, 0, 0, none, 1, ⟨7, by decide⟩, 3⟩, .log 0 .info "x" [],
      .shutdown 0, .log 0 .info "x" [], .log 0 .info "x" [], .release ⟨.owner, 0⟩]
    let s := System.run {} as
    Reachable s ∧ Serene s ∧ s.holders = [⟨.logger 0, 0⟩] ∧ 0 ∈ (s.roster 0).members ∧
      (s.limit 0).toNat < (s.throttle 0).limiter.count.toNat ∧
      (s.after (.release ⟨.logger 0, 0⟩)).journal = s.journal := by
  intro as s
  have ready : System.Along (fun s a => a.Ready s) {} as := by decide +kernel
  have calm : System.Along (fun s a => a.Calm s ∧ a.Counted) {} as := by
    simp [as, System.Along, Action.Calm, Action.Counted, Painless]
  have serene : Serene s := (booked_run (ready.and calm) (by decide)).calm.serene
  exact ⟨reachable_run as .empty ready, serene, by decide +kernel⟩

end System
end LogThrottle
