import LogThrottle.Proofs.Enrolment.Idle
import LogThrottle.Proofs.Enrolment.Jobs
import LogThrottle.Proofs.Hoisting.Agreeing

/-! Reset passes over systems that agree. The members may differ, but not those that have events: they are
members of their rosters in both systems. So the passes report the same, each in its own order. -/
namespace LogThrottle.System
open Call

/-- What a pass reports: the digests of its throttles, each with the logger. -/
def reports (s : System) (ts : List ThrottleId) : List (LoggerId × Digest) :=
  ts.filterMap fun t => (s.digest? t).map ((s.throttle t).logger, ·)

/-- The line of a report, if a given sink takes it. -/
def reportLine? (s : System) (k : SinkId) (x : LoggerId × Digest) : Option Line :=
  if (s.logger x.1).sink = k then some ⟨x.2.topic.voice, x.2.text⟩ else none

section Reports
variable {s s' : System} {ts : List ThrottleId} {t : ThrottleId} {d : Digest}

theorem mem_reports {x : LoggerId × Digest} :
    x ∈ s.reports ts ↔ ∃ t ∈ ts, s.digest? t = some x.2 ∧ (s.throttle t).logger = x.1 := by
  obtain ⟨l, d⟩ := x
  simp only [reports, List.mem_filterMap, Option.map_eq_some_iff, Prod.mk.injEq]
  constructor
  · rintro ⟨t, there, e, some, rfl, rfl⟩
    exact ⟨t, there, some, rfl⟩
  · rintro ⟨t, there, some, rfl⟩
    exact ⟨t, there, d, some, rfl, rfl⟩

theorem reports_cons (s : System) (t : ThrottleId) (ts : List ThrottleId) :
    s.reports (t :: ts) = ((s.digest? t).map ((s.throttle t).logger, ·)).toList ++ s.reports ts := by
  rw [reports, List.filterMap_cons]
  cases s.digest? t <;> rfl

/-- No two throttles make the same report. -/
theorem nodup_reports (grown : Grown s) (distinct : ts.Nodup) : (s.reports ts).Nodup := by
  refine distinct.filterMap fun t u x ht hu => ?_
  obtain ⟨d, some, rfl⟩ := Option.map_eq_some_iff.mp ht
  obtain ⟨e, some', same⟩ := Option.map_eq_some_iff.mp hu
  obtain ⟨owner, rfl⟩ := Prod.mk.inj same
  have key : s.key t = s.key u :=
    Prod.ext owner.symm ((digest?_topic some).symm.trans (digest?_topic some'))
  have listed := grown.listed t (left_of_digest? some).1
  rw [key, grown.listed u (left_of_digest? some').1] at listed
  exact (Option.some.inj listed).symm

/-- A pass delivers the lines of its reports. -/
theorem lines_reports (s : System) (ts : List ThrottleId) (k : SinkId) :
    (ts.flatMap s.digestEntries).filterMap (Entry.line? k) = (s.reports ts).filterMap (s.reportLine? k) := by
  induction ts with
  | nil => rfl
  | cons t ts ih =>
    rw [List.flatMap_cons, List.filterMap_append, ih, reports_cons, List.filterMap_append, digestEntries]
    congr 1
    cases some : s.digest? t with
    | none => rfl
    | some d =>
      simp only [Option.toList_some, Option.map_some, List.map_cons, List.map_nil, List.filterMap_cons,
        List.filterMap_nil, Entry.line?, reportLine?, digest?_topic some]

/-- A pass counts its reports. -/
theorem tally_resetAll (serene : Serene s) (sound : Sound s) (distinct : ts.Nodup) (l : LoggerId) :
    (((resetAll ts).exec s).2.logger l).tally =
      Tally.countDigest^[(s.reports ts).countP (·.1 = l)] (s.logger l).tally := by
  induction ts generalizing s with
  | nil => rfl
  | cons t ts ih =>
    obtain ⟨once, distinct⟩ := List.nodup_cons.mp distinct
    have first := tally_resetOrReport serene (sound.throttle t) l
    have limiters := throttles_resetOrReport t s
    have steady := steady_resetOrReport t s
    obtain ⟨s₁, he, told⟩ := resetOrReport_serene serene t
    rw [he] at first limiters steady
    have rest : s₁.reports ts = s.reports ts := by
      refine List.filterMap_congr fun u hu => ?_
      have apart : ¬(t = u ∧ u < s.throttles.size) := fun own => once (own.1 ▸ hu)
      have spared : (s₁.throttle u).limiter = (s.throttle u).limiter := by
        rw [throttle, limiters, ← throttle, throttle_setLimiter, if_neg apart]
      rw [told.digest?_eq spared, told.logger_eq]
    rw [resetAll, exec_bind, he]
    refine (ih (told.serene serene) (sound.shifts steady.shifts) distinct).trans ?_
    rw [rest, first, reports_cons, List.countP_append]
    cases s.digest? t with
    | none => simp
    | some d =>
      by_cases own : (s.throttle t).logger = l
      · simp [own, Nat.add_comm 1]
      · simp [own]

end Reports

/-- A throttle that has events is a member of a given roster exactly if that is its own, under its period. -/
structure Attended (r : RosterId) (s : System) : Prop where
  there : r < s.rosters.size
  member : ∀ t < s.throttles.size, (s.throttle t).limiter ≠ .cleared → ∀ d,
    t ∈ (s.roster r).membersAt d ↔ s.home t = r ∧ d = s.period t

namespace Attended
variable {r : RosterId} {s : System}

theorem mem_members (h : Attended r s) {t : ThrottleId} (made : t < s.throttles.size)
    (left : (s.throttle t).limiter ≠ .cleared) : t ∈ (s.roster r).members ↔ s.home t = r := by
  rw [Roster.mem_members]
  constructor
  · rintro ⟨d, member⟩
    exact ((h.member t made left d).mp member).1
  · exact fun own => ⟨s.period t, (h.member t made left _).mpr ⟨own, rfl⟩⟩

theorem changeRoster (h : Attended r s) {f : Roster → Roster} (members : ∀ x d, (f x).membersAt d = x.membersAt d) :
    Attended r (changeRoster r f s) := by
  refine ⟨Nat.lt_of_lt_of_eq h.there (size_rosters_changeRoster ..).symm, fun t made left d => ?_⟩
  rw [roster_changeRoster, if_pos ⟨rfl, h.there⟩, members]
  exact h.member t made left d

/-- Nobody who has events is left after a flush. -/
theorem flush (h : Attended r s) : Attended r ((flush r).exec s).2 := by
  have cleared := limiter_flush r s
  have flushed : s.after (.flush r) = ((System.flush r).exec s).2 := rfl
  have rosters := (beside_flush r s).rosters
  obtain ⟨s', he, steady⟩ := flush_outcome r s
  rw [flushed, he] at cleared
  rw [he] at rosters ⊢
  refine ⟨Nat.lt_of_lt_of_eq h.there rosters.symm, fun t made left d => ?_⟩
  have made' : t < s.throttles.size := steady.throttles ▸ made
  have empty : (s'.roster r).membersAt d = [] := by
    rw [steady.roster_eq, roster_drained, if_pos ⟨rfl, h.there⟩, Roster.membersAt_drain]
  have away : s'.home t ≠ r := by
    rw [steady.home_eq]
    intro own
    rw [cleared] at left
    split at left
    · exact left rfl
    · rename_i out
      exact out ⟨(h.mem_members made' left).mpr own, made'⟩
  rw [empty]
  exact ⟨fun member => absurd member List.not_mem_nil, fun own => absurd own.1 away⟩

end Attended

/-- On runs in which events are counted by logging calls alone, whoever has events is a member while the roster
is alive. -/
theorem attended_run {as : List Action} (regular : System.Along (fun s a => a.Ready s ∧ a.Regular s) {} as)
    (few : (System.run {} as).flushes < 2 ^ 64) {r : RosterId} (alive : (System.run {} as).alive r = true) :
    Attended r (System.run {} as) := by
  have sound := sound_run (regular.mono fun _ _ h => h.1)
  refine ⟨sound.alive_lt alive, fun t made left d => ⟨fun member => ?_, ?_⟩⟩
  · obtain ⟨_, period, home | ⟨_, abroad⟩⟩ := (aligned_of_regular regular few).member r d t member
    · exact ⟨home.symm, period⟩
    · exact absurd abroad id
  · rintro ⟨rfl, rfl⟩
    exact idle_run regular few t made alive left

namespace Agrees
variable {s s' : System} {ts ts' : List ThrottleId} {r : RosterId}

/-- Changes of rosters are not seen. -/
theorem changeRoster (h : Agrees s s') (r : RosterId) {f : Roster → Roster}
    (closed : ∀ x y, y.closed = x.closed → (f y).closed = (f x).closed) :
    Agrees (changeRoster r f s) (System.changeRoster r f s') :=
  { h with toBeside := h.toBeside.changeRoster r closed }

theorem drained (h : Agrees s s') (r : RosterId) : Agrees (drained r s) (System.drained r s') :=
  (h.changeRoster r (f := Roster.drain) fun _ _ same => same).written (wrote_write _ _) (wrote_write _ _) rfl
    fun _ => .refl _

section Grown
variable (h : Agrees s s') (grown : Grown s) (grown' : Grown s')
include h grown grown'

private theorem limiter_of_key {t t' : ThrottleId} (made : t < s.throttles.size) (made' : t' < s'.throttles.size)
    (key : s'.key t' = s.key t) : (s'.throttle t').limiter = (s.throttle t).limiter :=
  h.limiter_eq (grown.listed t made) (key ▸ grown'.listed t' made')

/-- Whoever has events is in both systems, with the same key and limiter. -/
private theorem counterpart {t : ThrottleId} (made : t < s.throttles.size)
    (left : (s.throttle t).limiter ≠ .cleared) :
    ∃ t' < s'.throttles.size, s'.key t' = s.key t ∧ (s'.throttle t').limiter = (s.throttle t).limiter := by
  have found := grown.listed t made
  have same := h.limiter (s.key t)
  rw [limiterOf_of_listed found] at same
  cases found' : s'.listed? (s.key t) with
  | none => exact absurd (same.symm.trans (limiterOf_of_unlisted found')) left
  | some t' =>
    obtain ⟨made', key⟩ := grown'.sound.key_of_listed found'
    exact ⟨t', made', key, h.limiter_eq found found'⟩

private theorem reports_subset (both : ∀ t < s.throttles.size, ∀ t' < s'.throttles.size, s'.key t' = s.key t →
    (s.throttle t).limiter ≠ .cleared → t ∈ ts → t' ∈ ts') : s.reports ts ⊆ s'.reports ts' := by
  intro x report
  obtain ⟨t, there, some, owner⟩ := mem_reports.mp report
  obtain ⟨made, left⟩ := left_of_digest? some
  obtain ⟨t', made', key, limiter⟩ := h.counterpart grown grown' made left
  refine mem_reports.mpr ⟨t', both t made t' made' key left there, ?_, ?_⟩
  · rw [h.digest?_eq key limiter, some]
  · exact (congrArg Prod.fst key).trans owner

private theorem limiterOf_resetAll (both : ∀ t < s.throttles.size, ∀ t' < s'.throttles.size, s'.key t' = s.key t →
    (s.throttle t).limiter ≠ .cleared → (t' ∈ ts' ↔ t ∈ ts)) (p : Key) :
    ((resetAll ts').exec s').2.limiterOf p = ((resetAll ts).exec s).2.limiterOf p := by
  have listed := (steady_resetAll ts s).listed_eq p
  have listed' := (steady_resetAll ts' s').listed_eq p
  have same := h.limiter p
  -- a limiter that is cleared stays so, whoever is in the pass
  have still {s : System} {ts : List ThrottleId} (cleared : s.limiterOf p = .cleared)
      (listed : ((resetAll ts).exec s).2.listed? p = s.listed? p) :
      ((resetAll ts).exec s).2.limiterOf p = .cleared := by
    cases found : s.listed? p with
    | none => exact limiterOf_of_unlisted (listed.trans found)
    | some t =>
      rw [limiterOf_of_listed found] at cleared
      rw [limiterOf_of_listed (listed.trans found), limiter_resetAll, cleared, ite_self]
  by_cases cleared : s.limiterOf p = .cleared
  · rw [still cleared listed, still (same.trans cleared) listed']
  · cases found : s.listed? p with
    | none => exact absurd (limiterOf_of_unlisted found) cleared
    | some t =>
      cases found' : s'.listed? p with
      | none => exact absurd (same.symm.trans (limiterOf_of_unlisted found')) cleared
      | some t' =>
        obtain ⟨made, key⟩ := grown.sound.key_of_listed found
        obtain ⟨made', key'⟩ := grown'.sound.key_of_listed found'
        have left : (s.throttle t).limiter ≠ .cleared := limiterOf_of_listed found ▸ cleared
        have members := both t made t' made' (key'.trans key.symm) left
        rw [limiterOf_of_listed (listed.trans found), limiterOf_of_listed (listed'.trans found'),
          limiter_resetAll, limiter_resetAll, h.limiter_eq found found']
        simp only [members, made, made']

/-- A pass in each system, over the same throttles as far as they have events. -/
theorem resetAll (distinct : ts.Nodup) (distinct' : ts'.Nodup)
    (both : ∀ t < s.throttles.size, ∀ t' < s'.throttles.size, s'.key t' = s.key t →
      (s.throttle t).limiter ≠ .cleared → (t' ∈ ts' ↔ t ∈ ts)) :
    Agrees ((resetAll ts).exec s).2 ((System.resetAll ts').exec s').2 := by
  have reports : (s'.reports ts').Perm (s.reports ts) := by
    refine (List.perm_ext_iff_of_nodup (nodup_reports grown' distinct') (nodup_reports grown distinct)).mpr
      fun x => ⟨fun x' => ?_, fun x => ?_⟩
    · refine h.symm.reports_subset grown' grown (fun t' made' t made key left member => ?_) x'
      have limiter := h.limiter_of_key grown grown' made made' key.symm
      exact (both t made t' made' key.symm (limiter ▸ left)).mp member
    · exact h.reports_subset grown grown' (fun t made t' made' key left =>
        (both t made t' made' key left).mpr) x
  have limiters := h.limiterOf_resetAll grown grown' both
  have tally := tally_resetAll grown.calm.serene grown.sound distinct
  have tally' := tally_resetAll grown'.calm.serene grown'.sound distinct'
  have beside := h.toBeside.keeps (beside_resetAll ts) (beside_resetAll ts')
  have steady := steady_resetAll ts s
  have steady' := steady_resetAll ts' s'
  obtain ⟨s₁, he, told⟩ := resetAll_serene grown.calm.serene distinct
  obtain ⟨s₁', he', told'⟩ := resetAll_serene grown'.calm.serene distinct'
  rw [he] at limiters tally beside steady ⊢
  rw [he'] at limiters tally' beside steady' ⊢
  refine ⟨beside, fun l => ?_, fun c => ?_, limiters, ?_, fun k => ?_⟩
  · rw [tally, tally', reports.countP_eq, h.tally]
  · have counted {es : List Entry} {s s₁ : System} (told : Told es s s₁) :
        (s₁.counter c).counts = (s.counter c).counts := (congrArg Counter.counts (told.counter c) :)
    rw [counted told, counted told', h.counts]
  · rw [steady.flushes, steady'.flushes, h.flushes]
  · have line : s'.reportLine? k = s.reportLine? k := funext fun x => by
      rw [reportLine?, h.logger_sink, reportLine?]
    rw [delivered_append told.journal, delivered_append told'.journal, lines_reports, lines_reports, line]
    exact (h.lines k).append (reports.filterMap _)

/-- Firings of closed rosters do nothing, and all others reset whoever has events under the period. -/
theorem fire (punctual : (s.roster r).Punctual) (punctual' : (s'.roster r).Punctual)
    (attended : (s.roster r).closed = false → Attended r s)
    (attended' : (s'.roster r).closed = false → Attended r s') (period : Duration) :
    Agrees (s.after (.fire r period)) (s'.after (.fire r period)) := by
  have same : Agrees ((System.resetAll ((s.roster r).due period)).exec s).2
      ((System.resetAll ((s'.roster r).due period)).exec s').2 := by
    rw [punctual.due_eq, punctual'.due_eq, h.closed]
    cases opened : (s.roster r).closed with
    | true => exact h
    | false =>
      simp only [Bool.false_eq_true, if_false]
      refine h.resetAll grown grown' ((s.roster r).nodup_membersAt period) ((s'.roster r).nodup_membersAt period)
        fun t made t' made' key left => ?_
      have limiter := h.limiter_of_key grown grown' made made' key
      rw [(attended opened).member t made left, (attended' ((h.closed r).trans opened)).member t' made'
        fun cleared => left (limiter.symm.trans cleared), h.home_eq key, h.period_eq key]
  exact same

variable (attended : Attended r s) (attended' : Attended r s')
include attended attended'

theorem flush : Agrees ((flush r).exec s).2 ((System.flush r).exec s').2 := by
  rw [flush_exec, flush_exec]
  refine (h.drained r).resetAll (grown.drained r) (grown'.drained r) (grown.filed.nodup_members r)
    (grown'.filed.nodup_members r) fun t made t' made' key left => ?_
  have limiter := h.limiter_of_key grown grown' made made' key
  rw [attended.mem_members made left, attended'.mem_members made' fun cleared => left (limiter.symm.trans cleared),
    h.home_eq key]

end Grown

/-- Closing a roster in both systems. -/
theorem closing (r : RosterId) :
    ClosingBoth r fun s s' => Agrees s s' ∧ (Grown s ∧ Attended r s) ∧ Grown s' ∧ Attended r s' where
  holders h := h.1.holders
  closed h := h.1.closed r
  flush | ⟨h, ⟨grown, attended⟩, grown', attended'⟩ => ⟨h.flush grown grown' attended attended',
    ⟨closing_grown.flush r _ grown, attended.flush⟩, closing_grown.flush r _ grown', attended'.flush⟩
  close | ⟨h, ⟨grown, attended⟩, grown', attended'⟩ => ⟨h.changeRoster r fun _ _ _ => rfl,
    ⟨closing_grown.close _ r grown, attended.changeRoster Roster.membersAt_close⟩,
    closing_grown.close _ r grown', attended'.changeRoster Roster.membersAt_close⟩
  cancelJobs | ⟨h, ⟨grown, attended⟩, grown', attended'⟩ => ⟨h.changeRoster r fun _ _ same => same,
    ⟨closing_grown.cancelJobs _ r grown, attended.changeRoster Roster.membersAt_cancelJobs⟩,
    closing_grown.cancelJobs _ r grown', attended'.changeRoster Roster.membersAt_cancelJobs⟩
  letGo x | ⟨h, ⟨grown, attended⟩, grown', attended'⟩ => ⟨{ h with toBeside := h.toBeside.letGo x },
    ⟨closing_grown.letGo _ x grown, ⟨attended.there, attended.member⟩⟩,
    closing_grown.letGo _ x grown', ⟨attended'.there, attended'.member⟩⟩

end Agrees
end LogThrottle.System
