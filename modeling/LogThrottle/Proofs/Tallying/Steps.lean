import LogThrottle.Proofs.System.Waning
import LogThrottle.Proofs.Tallying.Postings

/-! What the parts of an action do to the books. A digest is posted and counted in one reset, an overflow is
warned of before its flush and counted after it, and an event is counted with its call. -/
namespace LogThrottle

namespace Limiter

/-- An attempt counts one event at most; a count that wraps is lower. -/
theorem count_attempt_le (limit : UInt32) (now : UInt64) (x : Limiter) :
    (x.attempt limit now).2.count.toNat ≤ x.count.toNat + 1 := by
  rw [attempt]
  cases x.bump.course limit x.ordinal with
  | pass | hold => exact x.count_bump_le
  | mark =>
    dsimp only
    split
    · exact x.count_bump_le
    · rw [count_setMark]
      exact x.count_bump_le

end Limiter

namespace System
open Call
variable {owed : Option LoggerId} {calls : List (LoggerId × Severity)} {e w : Nat} {s s' : System}

theorem Kept.mono {e' w' : Nat} (h : Kept owed calls e w s) (events : e ≤ e') (overflows : w ≤ w') :
    Kept owed calls e' w' s :=
  { h with digests := Nat.le_trans h.digests events, overflows := Nat.le_trans h.overflows overflows }

section Idling

theorem Wrote.idles {ns : List Notice} (h : Wrote (ns.map .notice) s s') : Idles s s' where
  throttles := Nat.le_of_eq (congrArg Array.size h.throttles.symm)
  owner t _ := by rw [throttle, h.throttles, throttle]
  loggers := Nat.le_of_eq (congrArg Array.size h.loggers.symm)
  settings l _ := by rw [logger, h.loggers, logger]
  counters := Nat.le_of_eq h.sizes.2.2.symm
  limiter t := by rw [throttle, h.throttles, throttle]
  tally l := by rw [logger, h.loggers, logger]
  counts c := (congrArg Counter.counts (h.counter c) :)
  notices := ⟨ns, h.journal⟩

private theorem announcement_notices (r : RosterId) (t : ThrottleId) (s : System) :
    ∃ ns : List Notice, announcement r t s = ns.map .notice := by
  unfold announcement
  split
  · exact ⟨[.scheduling], rfl⟩
  · exact ⟨[], rfl⟩

theorem Wrote.idles_announced {r : RosterId} {t : ThrottleId} {s₀ : System}
    (h : Wrote (announcement r t s₀) s s') : Idles s s' := by
  obtain ⟨ns, same⟩ := announcement_notices r t s₀
  rw [same] at h
  exact h.idles

private theorem idles_enrolled (s : System) (r : RosterId) (t : ThrottleId) : Idles s (enrolled r t s) := by
  have field (u : ThrottleId) : ((enrolled r t s).throttle u).logger = (s.throttle u).logger ∧
      ((enrolled r t s).throttle u).limiter = (s.throttle u).limiter := by
    rw [throttle_enrolled]
    split <;> exact ⟨rfl, rfl⟩
  exact { Idles.refl s with
    throttles := Nat.le_of_eq (size_throttles_enrolled ..).symm
    owner := fun u _ => (field u).1
    limiter := fun u => (field u).2 }

private theorem idles_setCatalogue (s : System) (l : LoggerId) (c : Catalogue) :
    Idles s (setCatalogue l c s) := by
  have field (i : LoggerId) : ((setCatalogue l c s).logger i).settings = (s.logger i).settings ∧
      ((setCatalogue l c s).logger i).tally = (s.logger i).tally := by
    rw [logger_setCatalogue]
    split <;> exact ⟨rfl, rfl⟩
  exact { Idles.refl s with
    loggers := Nat.le_of_eq (size_loggers_setCatalogue ..).symm
    settings := fun i _ => (field i).1
    tally := fun i => (field i).2 }

/-- The books stay as they are where no part is made. -/
theorem Kept.beside (h : Kept owed calls e w s) (idles : Idles s s') (beside : Beside s s')
    (throttles : s'.throttles.size = s.throttles.size) : Kept owed calls e w s' :=
  h.idles idles (h.toWired.extends idles.toExtends (beside.calm h.calm) throttles beside.loggers)

/-- The books stay as they are. -/
def KeepsBooks (owed : Option LoggerId) (calls : List (LoggerId × Severity)) (e w : Nat) (s s' : System) : Prop :=
  Kept owed calls e w s → Kept owed calls e w s'

theorem kept_enrol (r : RosterId) (t : ThrottleId) : Keeps (KeepsBooks owed calls e w) (enrol r t) := by
  intro s h
  obtain ⟨s', he, wrote⟩ := enrol_exec r t s
  rw [he]
  refine h.beside (wrote.idles_announced.trans (idles_enrolled s' r t))
    (wrote.beside.trans (beside_enrolled s' r t)) ?_
  rw [size_throttles_enrolled, wrote.throttles]

theorem kept_join (t : ThrottleId) : Keeps (KeepsBooks owed calls e w) (join t) := by
  intro s
  rw [join_exec]
  split
  · exact kept_enrol _ t s
  · exact id

private theorem kept_registered {l : LoggerId} (topic : Topic) (made : l < s.loggers.size)
    (h : Kept owed calls e w s) : Kept owed calls e w (registered l topic s) := by
  have read (t : ThrottleId) (old : t ≠ s.throttles.size) :
      (registered l topic s).throttle t = s.throttle t := by
    rw [throttle_registered, if_neg old]
  have field (i : LoggerId) : ((registered l topic s).logger i).settings = (s.logger i).settings ∧
      ((registered l topic s).logger i).tally = (s.logger i).tally := by
    rw [logger_registered]
    split <;> exact ⟨rfl, rfl⟩
  have size := size_throttles_registered s l topic
  have idles : Idles s (registered l topic s) := { Idles.refl s with
    throttles := size ▸ Nat.le_succ _
    owner := fun t old => by rw [read t (Nat.ne_of_lt old)]
    loggers := Nat.le_of_eq (size_loggers_registered ..).symm
    settings := fun i _ => (field i).1
    tally := fun i => (field i).2
    limiter := fun t => by
      by_cases new : t = s.throttles.size
      · rw [throttle_registered, if_pos new, throttle_of_size_le (Nat.le_of_eq new.symm)]
        rfl
      · rw [read t new] }
  refine h.idles idles ⟨(beside_registered s l topic).calm h.calm, fun t there => ?_, fun i there c own => ?_⟩
  · rw [size] at there
    rw [size_loggers_registered, throttle_registered]
    split
    · exact made
    · rename_i old
      exact h.owner t (Nat.lt_of_le_of_ne (Nat.le_of_lt_succ there) old)
  · rw [size_loggers_registered] at there
    have same : ((registered l topic s).logger i).counter = (s.logger i).counter :=
      (congrArg Logger.counter (field i).1 :)
    rw [same] at own
    exact h.counter i there c own

theorem kept_introduce {l : LoggerId} {topic : Topic} (made : l < s.loggers.size)
    (absent : (s.logger l).catalogue.find? topic = none) (h : Kept owed calls e w s) :
    ∃ s', (introduce l topic).exec s = (.ok s.throttles.size, s') ∧
      s.throttles.size < s'.throttles.size ∧ (s'.throttle s.throttles.size).logger = l ∧
      Kept owed calls e w s' := by
  obtain ⟨s', he, wrote⟩ := introduce_exec absent
  have kept := kept_registered topic made h
  have first := wrote.idles_announced
  have size : s'.throttles.size = s.throttles.size + 1 := by
    rw [wrote.throttles, size_throttles_registered]
  have own : (s'.throttle s.throttles.size).logger = l := by
    rw [throttle, wrote.throttles, ← throttle, throttle_registered, if_pos rfl]
  have second := idles_enrolled s' (s.logger l).roster s.throttles.size
  have announced := kept.beside first wrote.beside (congrArg Array.size wrote.throttles)
  refine ⟨_, he, ?_, ?_, announced.beside second (beside_enrolled ..) (size_throttles_enrolled ..)⟩
  · rw [size_throttles_enrolled, size]
    exact Nat.lt_succ_self _
  · rw [second.owner _ (by rw [size]; exact Nat.lt_succ_self _), own]

end Idling

section Resetting

section Digest
variable {t : ThrottleId} (told : Told (s.digestEntries t) s s')
  (limiter : ∀ u, (s'.throttle u).limiter =
    if t = u ∧ u < s.throttles.size then .cleared else (s.throttle u).limiter)
include told limiter

/-- A digest leaves the load lower by more than the one that it adds to the digests. -/
private theorem load_of_digest : (s.digest? t).toList.length + s'.load ≤ s.load := by
  by_cases made : t < s.throttles.size
  · have others (u : ThrottleId) (other : u ≠ t) : (s'.throttle u).limiter = (s.throttle u).limiter := by
      rw [limiter, if_neg fun own => other own.1.symm]
    have moved := load_of_others told.throttles made others
    have none : (s'.throttle t).limiter.count.toNat = 0 := by
      rw [limiter, if_pos ⟨rfl, made⟩]
      rfl
    cases some : s.digest? t with
    | none =>
      rw [Option.toList_none, List.length_nil]
      omega
    | some d =>
      have fewer := (lt_count_of_digest? some).1
      rw [Option.toList_some, List.length_singleton]
      omega
  · have none : s.digest? t = none := digest?_of_cleared (by rw [throttle_of_size_le (Nat.not_lt.mp made)]; rfl)
    have same (u : ThrottleId) : (s'.throttle u).limiter = (s.throttle u).limiter := by
      rw [limiter, if_neg fun own : t = u ∧ u < s.throttles.size => made (own.1 ▸ own.2)]
    rw [none, load_of_limiter (Nat.le_of_eq told.throttles.symm) same, Option.toList_none, List.length_nil,
      Nat.zero_add]

private theorem kept_digest (h : Kept owed calls e w s) (beside : Beside s s')
    (tally : ∀ l, (s'.logger l).tally = if (s.digest? t).isSome ∧ (s.throttle t).logger = l then
      (s.logger l).tally.countDigest else (s.logger l).tally) : Kept owed calls e w s' := by
  have grown := Extends.of_beside beside told.throttles told.logger_eq
  have wired := h.toWired.extends grown (told.calm h.calm) told.throttles told.loggers
  have posted : (s.digestEntries t).filterMap (Entry.post? s') =
      (s.digest? t).toList.map fun _ => ((s.throttle t).logger, .digests) := by
    rw [digestEntries]
    cases s.digest? t with
    | none => rfl
    | some d => simp only [Option.toList_some, List.map_cons, List.map_nil, List.filterMap_cons, Entry.post?,
        List.filterMap_nil, told.logger_eq]
  have posts := grown.posts h.toWired h.addressed told.journal
  rw [posted] at posts
  refine ⟨wired, h.toPosted.post h.toWired grown told.journal (fun x hx => ?_) posted (fun l column => ?_) ?_ ?_,
    h.toCalled.same grown (fun l => ?_) (fun l => ?_) fun c => ?_⟩
  · rw [digestEntries] at hx
    obtain ⟨d, some, rfl⟩ := List.mem_map.mp hx
    have made := (left_of_digest? (Option.mem_toList.mp some)).1
    exact ⟨Nat.lt_of_lt_of_le made grown.throttles, told.sink_eq t⟩
  · rw [tally]
    cases s.digest? t with
    | none => simp
    | some d =>
      by_cases own : (s.throttle t).logger = l
      · cases column <;> simp [own, Tally.column, Tally.countDigest, debt]
      · simp [own]
  · have lower := load_of_digest told limiter
    simp only [List.countP_map, Function.comp_def, decide_true, List.countP_true]
    omega
  · simp
  · have none : ((s.digest? t).toList.map fun _ => ((s.throttle t).logger, Tally.Column.digests)).count
        (l, .allowed) = 0 := List.count_eq_zero_of_not_mem (by simp)
    rw [posts, List.count_append, none, Nat.add_zero]
  · exact (congrArg (fun x : Logger => x.tally.suppressed) (told.logger l) :)
  · exact (congrArg Counter.counts (told.counter c) :)

end Digest

theorem kept_resetOrReport (t : ThrottleId) : Keeps (KeepsBooks owed calls e w) (resetOrReport t) := by
  intro s h
  have tally := tally_resetOrReport h.calm.serene (h.owner t)
  have throttles := throttles_resetOrReport t s
  have beside := beside_resetOrReport t s
  obtain ⟨s', he, told⟩ := resetOrReport_serene h.calm.serene t
  rw [he] at tally throttles beside ⊢
  refine kept_digest told (fun u => ?_) h beside tally
  rw [throttle, throttles, ← throttle, throttle_setLimiter]
  split <;> rfl

theorem kept_resetAll (ts : List ThrottleId) : Keeps (KeepsBooks owed calls e w) (resetAll ts) :=
  Chain.resetAll ⟨fun _ => id, fun h h' kept => h' (h kept)⟩ fun t _ => kept_resetOrReport t

/-- Holders, rosters, sinks and stopwatches may be any that do not fail. -/
theorem kept_of_same (h : Kept owed calls e w s) (calm : Calm s') (throttles : s'.throttles = s.throttles)
    (loggers : s'.loggers = s.loggers) (counters : s'.counters = s.counters) (journal : s'.journal = s.journal) :
    Kept owed calls e w s' := by
  have idles := Idles.of_same throttles loggers counters journal
  exact h.idles idles (h.toWired.extends idles.toExtends calm (congrArg Array.size throttles)
    (congrArg Array.size loggers))

theorem kept_drained (s : System) (r : RosterId) : KeepsBooks owed calls e w s (drained r s) := by
  intro h
  have emptied : Kept owed calls e w (changeRoster r Roster.drain s) :=
    kept_of_same h ⟨h.calm.sink, h.calm.stopwatch, h.calm.counter⟩ rfl rfl rfl rfl
  have wrote : Wrote ([.flushing].map .notice) (changeRoster r Roster.drain s) (drained r s) := wrote_write ..
  exact emptied.beside wrote.idles wrote.beside rfl

theorem kept_flush (r : RosterId) : Keeps (KeepsBooks owed calls e w) (flush r) := by
  intro s h
  rw [flush_exec]
  exact kept_resetAll _ _ (kept_drained s r h)

theorem closing_kept : Closing (KeepsBooks owed calls e w) where
  refl _ := id
  trans h h' kept := h' (h kept)
  flush := kept_flush
  close _ _ h := kept_of_same h ⟨h.calm.sink, h.calm.stopwatch, h.calm.counter⟩ rfl rfl rfl rfl
  cancelJobs _ _ h := kept_of_same h ⟨h.calm.sink, h.calm.stopwatch, h.calm.counter⟩ rfl rfl rfl rfl
  letGo _ _ h := kept_of_same h ⟨h.calm.sink, h.calm.stopwatch, h.calm.counter⟩ rfl rfl rfl rfl

end Resetting

section Overflowing
variable {l : LoggerId}

/-- The warning is posted before the overflow is counted. -/
private theorem kept_warned {line : Line} (made : l < s.loggers.size) (h : Kept none calls e w s)
    (wrote : Wrote ([.notice .overflowed] ++ [.line (.overflow l) (s.logger l).sink line]) s s') :
    Kept (some l) calls e (w + 1) s' := by
  have same (t : ThrottleId) : s'.throttle t = s.throttle t := by rw [throttle, wrote.throttles, throttle]
  have logger (i : LoggerId) : s'.logger i = s.logger i := by rw [System.logger, wrote.loggers, System.logger]
  have size := congrArg Array.size wrote.throttles
  have grown := Extends.of_beside wrote.beside size fun t => by rw [same]
  have wired := h.toWired.extends grown (wrote.calm h.calm) size (congrArg Array.size wrote.loggers)
  have posts := grown.posts h.toWired h.addressed wrote.journal
  have posted : ([Entry.notice .overflowed] ++ [Entry.line (.overflow l) (s.logger l).sink line]).filterMap
      (Entry.post? s') = [(l, .overflows)] := rfl
  rw [posted] at posts
  refine ⟨wired, h.toPosted.post h.toWired grown wrote.journal (fun x hx => ?_) posted
    (fun i column => ?_) ?_ (by simp), h.toCalled.same grown (fun i => ?_) (fun i => ?_) fun c => ?_⟩
  · obtain rfl | rfl : x = .notice .overflowed ∨ x = .line (.overflow l) (s.logger l).sink line := by simpa using hx
    · trivial
    · exact ⟨Nat.lt_of_lt_of_le made grown.loggers, by rw [logger]⟩
  · rw [logger]
    by_cases own : l = i
    · cases column <;> simp [debt, own]
    · simp [debt, own]
  · rw [load_of_limiter grown.throttles fun t => by rw [same], List.countP_singleton]
    simp [Nat.add_comm]
  · have none : [(l, Tally.Column.overflows)].count (i, .allowed) = 0 := by simp
    rw [posts, List.count_append, none, Nat.add_zero]
  · rw [logger]
  · exact (congrArg Counter.counts (wrote.counter c) :)

private theorem kept_countOverflow (made : l < s.loggers.size) (h : Kept (some l) calls e w s) :
    Kept none calls e w (changeTally l Tally.countOverflow s) := by
  have grown := Extends.of_beside (beside_changeTally s l Tally.countOverflow) rfl fun _ => rfl
  have tally (i : LoggerId) : ((changeTally l Tally.countOverflow s).logger i).tally =
      if l = i then (s.logger i).tally.countOverflow else (s.logger i).tally := by
    rw [logger_changeTally]
    by_cases own : l = i
    · rw [if_pos ⟨own, own ▸ made⟩, if_pos own]
    · rw [if_neg fun both => own both.1, if_neg own]
  have posts := grown.posts h.toWired h.addressed (List.append_nil _).symm
  have posted : [].filterMap (Entry.post? (changeTally l Tally.countOverflow s)) = [] := rfl
  rw [posted, List.append_nil] at posts
  refine ⟨h.toWired.extends grown ((beside_changeTally s l _).calm h.calm) rfl (size_loggers_changeTally ..),
    h.toPosted.post h.toWired grown (List.append_nil _).symm (by simp) posted
      (fun i column => ?_) ?_ (Nat.le_refl w), h.toCalled.same grown (fun i => ?_) (fun i => ?_) fun _ => rfl⟩
  · rw [tally, List.count_nil]
    by_cases own : l = i
    · cases column <;> simp [own, debt, Tally.column, Tally.countOverflow]
    · simp [own, debt]
  · have load : (changeTally l Tally.countOverflow s).load = s.load :=
      load_of_limiter (Nat.le_refl _) fun _ => rfl
    rw [load, List.countP_nil]
    omega
  · rw [posts]
  · rw [tally]
    split <;> rfl

theorem kept_overflow (made : l < s.loggers.size) (h : Kept none calls e w s) :
    ∃ s', (overflow l).exec s = (.ok (), s') ∧ Kept none calls e (w + 1) s' := by
  obtain ⟨s₁, s₂, warned, he', he⟩ := overflow_taken (h.calm.sink (s.logger l).sink _ _)
  have owing := kept_warned made h warned
  have flushed := kept_flush (s.logger l).roster s₁ owing
  have beside := warned.beside.trans (beside_flush (s.logger l).roster s₁)
  rw [he'] at flushed beside
  have vacated : Kept (some l) calls e (w + 1) (setCatalogue l .cleared s₂) :=
    flushed.beside (idles_setCatalogue s₂ l _) (beside_setCatalogue s₂ l _) rfl
  refine ⟨_, he, kept_countOverflow ?_ vacated⟩
  rw [size_loggers_setCatalogue]
  exact Nat.lt_of_lt_of_eq made beside.loggers.symm

/-- A lookup counts at most one overflow, and finds a throttle of the logger that was asked. -/
theorem kept_lookup (sound : Sound s) (made : l < s.loggers.size) (topic : Topic)
    (h : Kept none calls e w s) :
    ∃ t s', (lookup l topic).exec s = (.ok t, s') ∧ t < s'.throttles.size ∧ (s'.throttle t).logger = l ∧
      Kept none calls e (w + 1) s' := by
  cases found : (s.logger l).catalogue.find? topic with
  | some t =>
    obtain ⟨there, own, _⟩ := sound.catalogue l topic t found
    exact ⟨t, s, lookup_of_some found, there, own, h.mono (Nat.le_refl e) (Nat.le_succ w)⟩
  | none =>
    rw [lookup_of_none found]
    split
    · obtain ⟨s₁, he, kept⟩ := kept_overflow made h
      have beside := searching_beside.overflow l s
      rw [he] at beside
      obtain ⟨s', he', introduced⟩ := kept_introduce (Nat.lt_of_lt_of_eq made beside.loggers.symm)
        (absent_overflow found he) kept
      rw [exec_bind, he]
      exact ⟨_, s', he', introduced⟩
    · obtain ⟨s', he, introduced⟩ := kept_introduce made found (h.mono (Nat.le_refl e) (Nat.le_succ w))
      exact ⟨_, s', he, introduced⟩

end Overflowing

section Counting
variable {t : ThrottleId}

/-- An attempt adds one event to the load at most. -/
private theorem load_of_verdict (made : t < s.throttles.size) (throttles : s'.throttles.size = s.throttles.size)
    (limiter : ∀ u, (s'.throttle u).limiter =
      if t = u ∧ u < s.throttles.size then (s.verdict t).2 else (s.throttle u).limiter) :
    s'.load ≤ s.load + 1 := by
  have moved := load_of_others throttles made fun u other => by
    rw [limiter, if_neg fun own => other own.1.symm]
  have once := Limiter.count_attempt_le (s.limit t) (s.now t).clockMillis (s.throttle t).limiter
  rw [limiter, if_pos ⟨rfl, made⟩] at moved
  rw [verdict] at moved
  omega

/-- An attempt of its own is no call, and delivers nothing. -/
theorem kept_attempt (made : t < s.throttles.size) (h : Kept none calls e w s) :
    Kept none calls (e + 1) w ((attempt t).exec s).2 := by
  obtain ⟨s', he, wrote⟩ := attempt_calm h.calm t
  rw [he]
  change Kept none calls (e + 1) w s'
  have beside := (beside_setLimiter s t (s.verdict t).2).trans wrote.beside
  have size : s'.throttles.size = s.throttles.size := by rw [wrote.throttles, size_throttles_setLimiter]
  have read (u : ThrottleId) : s'.throttle u =
      if t = u ∧ u < s.throttles.size then { s.throttle u with limiter := (s.verdict t).2 } else s.throttle u := by
    rw [throttle, wrote.throttles, ← throttle, throttle_setLimiter]
  have logger (l : LoggerId) : s'.logger l = s.logger l := by
    rw [System.logger, wrote.loggers]
    rfl
  have grown := Extends.of_beside beside size fun u => by
    rw [read]
    split <;> rfl
  have posts := grown.posts h.toWired h.addressed wrote.journal
  have posted : [].filterMap (Entry.post? s') = [] := rfl
  rw [posted, List.append_nil] at posts
  refine ⟨h.toWired.extends grown (beside.calm h.calm) size beside.loggers,
    h.toPosted.post h.toWired grown wrote.journal (by simp) posted (fun l column => ?_) ?_ (Nat.le_refl w),
    h.toCalled.same grown (fun l => ?_) (fun l => ?_) fun c => ?_⟩
  · rw [logger, List.count_nil]
    exact (UInt64.add_zero _).symm
  · have more := load_of_verdict made size fun u => by
      rw [read]
      split <;> rfl
    rw [List.countP_nil]
    omega
  · rw [posts]
  · rw [logger]
  · exact (congrArg Counter.counts (wrote.counter c) :)

section Ticked
variable {line : Line} {severity : Severity} (wrote : Wrote (s.eventEntries t line) (ticked t severity s) s')
include wrote

private theorem throttle_of_ticked (u : ThrottleId) : s'.throttle u =
    if t = u ∧ u < s.throttles.size then { s.throttle u with limiter := (s.verdict t).2 } else s.throttle u := by
  rw [throttle, wrote.throttles, ← throttle, throttle_ticked]

private theorem size_throttles_of_ticked : s'.throttles.size = s.throttles.size := by
  rw [wrote.throttles, size_throttles_ticked]

private theorem owner_of_ticked (u : ThrottleId) : (s'.throttle u).logger = (s.throttle u).logger := by
  rw [throttle_of_ticked wrote]
  split <;> rfl

private theorem extends_of_ticked : Extends s s' :=
  .of_beside ((beside_ticked s t severity).trans wrote.beside) (size_throttles_of_ticked wrote) (owner_of_ticked wrote)

private theorem journal_of_ticked : s'.journal.toList = s.journal.toList ++ s.eventEntries t line := by
  rw [wrote.journal, journal_ticked]

private theorem posts_of_event : (s.eventEntries t line).filterMap (Entry.post? s') =
    if (s.verdict t).1 = .allow then [((s.throttle t).logger, .allowed)] else [] := by
  rw [eventEntries]
  cases (s.verdict t).1 with
  | allow => simp only [List.filterMap_cons, Entry.post?, owner_of_ticked wrote, List.filterMap_nil, if_true]
  | suppress => rfl

private theorem tally_of_ticked (wired : Wired s) (made : t < s.throttles.size) (l : LoggerId) :
    (s'.logger l).tally = if (s.throttle t).logger = l then Decision.count (s.verdict t).1 (s.logger l).tally
      else (s.logger l).tally := by
  rw [logger, wrote.loggers, ← logger, logger_ticked]
  by_cases own : (s.throttle t).logger = l
  · rw [if_pos ⟨own, own ▸ wired.owner t made⟩, if_pos own]
  · rw [if_neg fun both => own both.1, if_neg own]

private theorem count_of_ticked (wired : Wired s) (made : t < s.throttles.size) (c : CounterId) (name : String) :
    (s'.counter c).count name = (s.counter c).count name +
      if (s.logger (s.throttle t).logger).counter = some c ∧ severity.counterName = name then 1 else 0 := by
  have same : (s'.counter c).count name = ((ticked t severity s).counter c).count name := by
    rw [Counter.count, (congrArg Counter.counts (wrote.counter c) :), Counter.count]
  rw [same, counter_ticked]
  by_cases own : (s.logger (s.throttle t).logger).counter = some c
  · rw [if_pos ⟨own, wired.counter _ (wired.owner t made) c own⟩, Counter.count_raised]
    simp only [own, true_and]
  · rw [if_neg fun both => own both.1, if_neg fun both => own both.1, Nat.add_zero]

/-- The event is posted if it passes. -/
private theorem posted_of_ticked (wired : Wired s) (made : t < s.throttles.size) (h : Posted none e w s) :
    Posted none (e + 1) w s' := by
  have grown := extends_of_ticked wrote
  refine h.post wired grown (journal_of_ticked wrote) (fun x hx => ?_) (posts_of_event wrote)
    (fun l column => ?_) ?_ ?_
  · rw [eventEntries] at hx
    cases decided : (s.verdict t).1 with
    | allow =>
      rw [decided] at hx
      obtain rfl := List.mem_singleton.mp hx
      refine ⟨Nat.lt_of_lt_of_le made grown.throttles, ?_⟩
      rw [owner_of_ticked wrote, grown.sink_eq (wired.owner t made)]
    | suppress =>
      rw [decided] at hx
      cases hx
  · rw [tally_of_ticked wrote wired made]
    by_cases own : (s.throttle t).logger = l
    · cases (s.verdict t).1 <;> cases column <;>
        simp [own, debt, Decision.count, Tally.column, Tally.countAllowed, Tally.countSuppressed]
    · rw [if_neg own]
      split <;> simp [own]
  · have more := load_of_verdict made (size_throttles_of_ticked wrote) fun u => by
      rw [throttle_of_ticked wrote]
      split <;> rfl
    have undigested : (if (s.verdict t).1 = .allow then [((s.throttle t).logger, Tally.Column.allowed)]
        else []).countP (·.2 = .digests) = 0 := by
      split <;> rfl
    omega
  · split <;> exact Nat.le_refl w

/-- The call is entered, as one that passed or one that was withheld. -/
private theorem called_of_ticked (wired : Wired s) (made : t < s.throttles.size)
    (before : ∀ x ∈ s.journal.toList, s.Addressed x) (h : Called calls s) :
    Called (calls ++ [((s.throttle t).logger, severity)]) s' := by
  have grown := extends_of_ticked wrote
  have posts := grown.posts wired before (journal_of_ticked wrote)
  rw [posts_of_event wrote] at posts
  refine ⟨fun x hx => ?_, fun l => ?_, fun c name => ?_⟩
  · obtain old | new := List.mem_append.mp hx
    · exact Nat.lt_of_lt_of_le (h.caller x old) grown.loggers
    · obtain rfl := List.mem_singleton.mp new
      exact Nat.lt_of_lt_of_le (wired.owner t made) grown.loggers
  · obtain ⟨withheld, suppressed, all⟩ := h.decided l
    rw [tally_of_ticked wrote wired made, posts, List.count_append, List.countP_append, List.countP_singleton]
    by_cases own : (s.throttle t).logger = l
    · cases (s.verdict t).1 with
      | allow =>
        refine ⟨withheld, by simpa [own, Decision.count, Tally.countAllowed] using suppressed, ?_⟩
        simp only [own, if_true, List.count_singleton_self, decide_true]
        omega
      | suppress =>
        refine ⟨withheld + 1, ?_, ?_⟩
        · simp [own, Decision.count, Tally.countSuppressed, suppressed, UInt64.ofNat_add]
        · simp only [own, reduceCtorEq, if_false, List.count_nil, if_true, decide_true]
          omega
    · refine ⟨withheld, by simpa [own] using suppressed, ?_⟩
      split <;> simp [own, all]
  · rw [count_of_ticked wrote wired made, List.countP_append, List.countP_singleton,
      ← h.counted_of_extends grown, grown.counter_eq (wired.owner t made)]
    simp only [decide_eq_true_eq]

/-- One event is counted, and passes or is withheld, and its call is counted. -/
private theorem kept_ticked (made : t < s.throttles.size) (h : Kept none calls e w s) :
    Kept none (calls ++ [((s.throttle t).logger, severity)]) (e + 1) w s' := by
  have beside := (beside_ticked s t severity).trans wrote.beside
  exact ⟨h.toWired.extends (extends_of_ticked wrote) (beside.calm h.calm) (size_throttles_of_ticked wrote)
      beside.loggers,
    posted_of_ticked wrote h.toWired made h.toPosted, called_of_ticked wrote h.toWired made h.addressed h.toCalled⟩

end Ticked

/-- A logging call through a throttle counts one event of the throttle's logger at the call's severity. -/
theorem kept_logThrough (made : t < s.throttles.size) (severity : Severity) {args : List Argument}
    (shown : Painless args) (h : Kept none calls e w s) :
    Kept none (calls ++ [((s.throttle t).logger, severity)]) (e + 1) w
      ((logThrough t severity args).exec s).2 := by
  obtain ⟨s₁, s', message, joining, joined, he, _, wrote⟩ := logThrough_calm h.calm t severity shown
  have kept := kept_join t s h
  rw [joining] at kept
  have own : (s₁.throttle t).logger = (s.throttle t).logger := (congrArg Throttle.logger (joined.throttle t) :)
  have ticked := kept_ticked wrote (Nat.lt_of_lt_of_eq made joined.throttles.symm) kept
  rw [he]
  rwa [own] at ticked

end Counting

end System
end LogThrottle
