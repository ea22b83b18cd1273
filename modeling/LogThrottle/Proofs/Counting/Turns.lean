import LogThrottle.Proofs.Limiter.Counting
import LogThrottle.Proofs.System.Ticking

/-! One throttle as plain counting. Attempts and resets come in turns, each at its own reading of the
stopwatch; what they answer, but for the time in a digest, can be counted without looking at a clock. -/
namespace LogThrottle

/-- A call on one throttle, and what its stopwatch shows then. -/
inductive Turn where
  | attempt (now : Duration)
  | reset (now : Duration)

namespace Turn

def now : Turn → Duration
  | attempt now | reset now => now

inductive Answer where
  | decided (d : Decision)
  | reported (d : Option Digest)
  deriving DecidableEq

/-- What an answer says apart from topics and times. -/
inductive Result where
  | decided (d : Decision)
  | reported (suppressed : Option Nat)
  deriving DecidableEq

def Answer.result : Answer → Result
  | decided d => .decided d
  | reported d => .reported (d.map (·.suppressed.toNat))

/-- The results of turns after `n` attempts, counted. -/
def counted (limit : Nat) : Nat → List Turn → List Result
  | _, [] => []
  | n, attempt _ :: xs => .decided (if n < limit then .allow else .suppress) :: counted limit (n + 1) xs
  | n, reset _ :: xs => .reported (if limit < n then some (n - limit) else none) :: counted limit 0 xs

def enter (events : List Duration) : Turn → List Duration
  | attempt now => events ++ [now]
  | reset _ => []

/-- Readings at the attempts since the last reset, oldest first. -/
def events (xs : List Turn) : List Duration := xs.foldl enter []

theorem length_events_le (xs : List Turn) : (events xs).length ≤ xs.length := by
  induction xs using List.reverseRecOn with
  | nil => exact Nat.le_refl 0
  | append_singleton xs x ih =>
    rw [events, List.foldl_append, ← events, List.length_append]
    cases x with
    | attempt now => exact Nat.le_trans (Nat.le_of_eq List.length_append) (Nat.add_le_add_right ih 1)
    | reset now => exact Nat.zero_le _

end Turn

namespace System
open Call

/-- The stopwatch is moved first. -/
def turn (t : ThrottleId) (x : Turn) : Call Turn.Answer := do
  moveClock ((← get).logger ((← get).throttle t).logger).stopwatch (.set x.now)
  match x with
  | .attempt _ => return .decided (← attempt t)
  | .reset _ => return .reported (← reset t)

def turns (t : ThrottleId) : List Turn → Call (List Turn.Answer)
  | [] => return []
  | x :: xs => return (← turn t x) :: (← turns t xs)

/-- A throttle that exists, with a stopwatch that exists, and neither stopwatch nor sink ever fails. -/
structure Usable (t : ThrottleId) (s : System) : Prop extends Served s t where
  made : t < s.throttles.size
  clock : (s.logger (s.throttle t).logger).stopwatch < s.stopwatches.size

/-- The lines of an answer. -/
def answerEntries (s : System) (t : ThrottleId) : Turn.Answer → List Entry
  | .reported (some d) =>
    [.line (.digest t d) (s.logger (s.throttle t).logger).sink ⟨(s.throttle t).topic.voice, d.text⟩]
  | _ => []

variable {t : ThrottleId} {es : List Entry} {events : List Duration} {s s' s'' : System}

theorem Told.usable (h : Told es s s') (usable : s.Usable t) : s'.Usable t where
  sink := by
    rw [h.sink_eq, (congrArg Sink.fault (h.sink _) :)]
    exact usable.sink
  stopwatch := by
    rw [h.stopwatch_eq]
    exact (h.fine_iff _).mpr usable.stopwatch
  made := h.throttles ▸ usable.made
  clock := by
    rw [h.stopwatch_eq, h.stopwatches]
    exact usable.clock

section Calls
variable (usable : s.Usable t) (tracks : Limiter.Tracks (s.limit t) events (s.throttle t).limiter)
include usable

private theorem attempt_counted (tracks : Limiter.Tracks (s.limit t) events (s.throttle t).limiter)
    (few : events.length + 1 < 2 ^ 64) :
    ∃ s', (attempt t).exec s = (.ok (if events.length < (s.limit t).toNat then .allow else .suppress), s') ∧
      Told [] s s' ∧ Limiter.Tracks (s.limit t) (events ++ [s.now t]) (s'.throttle t).limiter := by
  obtain ⟨decided, attempted⟩ := tracks.attempt (limit_pos s t) few (s.now t)
  obtain ⟨s', he, wrote⟩ := attempt_exec usable.stopwatch
  refine ⟨s', ?_, (Told.setLimiter s t _).trans wrote.told, ?_⟩
  · rw [he, verdict, decided]
  · rw [throttle, wrote.throttles, ← throttle, throttle_setLimiter, if_pos ⟨rfl, usable.made⟩]
    exact attempted

private theorem reset_cleared :
    ∃ s', (reset t).exec s = (.ok (s.digest? t), s') ∧ Told (s.digestEntries t) s s' ∧
      (s'.throttle t).limiter = .cleared := by
  obtain ⟨s₁, wrote, he⟩ := reset_exec usable.toServed
  have told : Told (s.digestEntries t) s s₁ := (Told.setLimiter s t .cleared).trans wrote.told
  have cleared : (s₁.throttle t).limiter = .cleared := by
    rw [throttle, wrote.throttles, ← throttle, throttle_setLimiter, if_pos ⟨rfl, usable.made⟩]
  refine ⟨_, he, ?_⟩
  split
  · exact ⟨List.append_nil (s.digestEntries t) ▸ told.trans (.countDigest s₁ _), cleared⟩
  · exact ⟨told, cleared⟩

end Calls

/-- The system with the stopwatch of a throttle moved. -/
private def timed (t : ThrottleId) (now : Duration) (s : System) : System :=
  let w := (s.logger (s.throttle t).logger).stopwatch
  { s with stopwatches := s.stopwatches.setIfInBounds w { s.stopwatch w with reading := now } }

section Timed
variable (usable : s.Usable t) (now : Duration)
include usable

private theorem exec_timed :
    (moveClock (s.logger (s.throttle t).logger).stopwatch (.set now)).exec s = (.ok (), timed t now s) := by
  have whole : (s.stopwatch (s.logger (s.throttle t).logger).stopwatch).broken = false := usable.stopwatch.1
  simp only [moveClock, exec_bind, exec_get, exec_modify, exec_ofExcept, Stopwatch.move, Stopwatch.set, whole,
    Bool.false_eq_true, if_false, timed]

private theorem stopwatch_timed : (timed t now s).stopwatch (s.logger (s.throttle t).logger).stopwatch =
    { s.stopwatch (s.logger (s.throttle t).logger).stopwatch with reading := now } := by
  rw [stopwatch, timed, getD_setIfInBounds, if_pos ⟨rfl, usable.clock⟩]

private theorem usable_timed : (timed t now s).Usable t where
  sink := usable.sink
  stopwatch := by
    have same : ((timed t now s).logger ((timed t now s).throttle t).logger).stopwatch =
      (s.logger (s.throttle t).logger).stopwatch := rfl
    rw [same, Fine, stopwatch_timed usable]
    exact usable.stopwatch
  made := usable.made
  clock := Nat.lt_of_lt_of_eq usable.clock Array.size_setIfInBounds.symm

private theorem now_timed : (timed t now s).now t = now :=
  congrArg Stopwatch.reading (stopwatch_timed usable now)

end Timed

/-- What turns leave after some attempts, what they answer, and what was written. -/
structure Turned (t : ThrottleId) (xs : List Turn) (events : List Duration) (answers : List Turn.Answer)
    (s s' : System) : Prop where
  usable : s'.Usable t
  topic : (s'.throttle t).topic = (s.throttle t).topic
  limit : s'.limit t = s.limit t
  sink : (s'.logger (s'.throttle t).logger).sink = (s.logger (s.throttle t).logger).sink
  tracks : Limiter.Tracks (s.limit t) (xs.foldl Turn.enter events) (s'.throttle t).limiter
  results : answers.map Turn.Answer.result = Turn.counted (s.limit t).toNat events.length xs
  digests : ∀ d, .reported (some d) ∈ answers → d.topic = (s.throttle t).topic
  journal : s'.journal.toList = s.journal.toList ++ answers.flatMap (s.answerEntries t)

section Turns
variable (usable : s.Usable t) (tracks : Limiter.Tracks (s.limit t) events (s.throttle t).limiter)
include usable tracks

/-- An attempt passes exactly if fewer than the limit came before it, whatever the stopwatch shows. -/
theorem attempt_turned (now : Duration) (few : events.length + 1 < 2 ^ 64) :
    let answer : Turn.Answer := .decided (if events.length < (s.limit t).toNat then .allow else .suppress)
    ∃ s', (turn t (.attempt now)).exec s = (.ok answer, s') ∧ Turned t [.attempt now] events [answer] s s' := by
  intro answer
  obtain ⟨s', he, told, attempted⟩ := attempt_counted (usable_timed usable now) tracks few
  rw [now_timed usable] at attempted
  refine ⟨s', ?_, told.usable (usable_timed usable now), told.topic_eq t, told.limit_eq t, told.sink_eq t,
    attempted, rfl, by simp [answer], told.journal⟩
  simp only [turn, Turn.now, exec_bind, exec_get, exec_timed usable, he, exec_pure]
  rfl

/-- A reset reports how many attempts there were beyond the limit, if there were any. -/
theorem reset_turned (now : Duration) :
    let answer : Turn.Answer := .reported (if (s.limit t).toNat < events.length then
      some ⟨(s.throttle t).topic, .ofNat (events.length - (s.limit t).toNat),
        (s.throttle t).limiter.sinceMark now.clockMillis⟩ else none)
    ∃ s', (turn t (.reset now)).exec s = (.ok answer, s') ∧ Turned t [.reset now] events [answer] s s' := by
  intro answer
  obtain ⟨s', he, told, cleared⟩ := reset_cleared (usable_timed usable now)
  have digest : .reported ((timed t now s).digest? t) = answer := by
    have untimed : Limiter.Tracks ((timed t now s).limit t) events ((timed t now s).throttle t).limiter := tracks
    rw [digest?_of_tracks untimed, now_timed usable]
    rfl
  have entries : (timed t now s).digestEntries t = [answer].flatMap (s.answerEntries t) := by
    rw [← digest, digestEntries]
    cases (timed t now s).digest? t <;> rfl
  have number : (UInt64.ofNat (events.length - (s.limit t).toNat)).toNat = events.length - (s.limit t).toNat := by
    rw [UInt64.toNat_ofNat', ← tracks.count]
    exact Nat.mod_eq_of_lt (Nat.lt_of_le_of_lt (Nat.sub_le _ _) (s.throttle t).limiter.count.toNat_lt)
  refine ⟨s', ?_, told.usable (usable_timed usable now), told.topic_eq t, told.limit_eq t, told.sink_eq t,
    ?_, ?_, ?_, ?_⟩
  · simp only [turn, Turn.now, exec_bind, exec_get, exec_timed usable, he, exec_pure, digest]
  · rw [cleared]
    exact .cleared _
  · by_cases beyond : (s.limit t).toNat < events.length
    · simp only [answer, if_pos beyond, List.map_cons, List.map_nil, Turn.Answer.result, Turn.counted,
        Option.map_some, number]
    · simp only [answer, if_neg beyond, List.map_cons, List.map_nil, Turn.Answer.result, Turn.counted,
        Option.map_none]
  · intro d reported
    by_cases beyond : (s.limit t).toNat < events.length
    · simp only [answer, if_pos beyond, List.mem_singleton, Turn.Answer.reported.injEq, Option.some.injEq] at reported
      rw [reported]
    · simp [answer, if_neg beyond] at reported
  · rw [told.journal, entries]
    rfl

end Turns

/-- Turns change nothing of what lines are made of. -/
theorem Turned.answerEntries_eq {xs : List Turn} {answers : List Turn.Answer}
    (h : Turned t xs events answers s s') : s'.answerEntries t = s.answerEntries t := by
  funext b
  cases b with
  | decided d => rfl
  | reported d => cases d with
    | none => rfl
    | some d => rw [answerEntries, h.sink, h.topic, answerEntries]

/-- Later turns count on from what the earlier ones left. -/
theorem Turned.cons {x : Turn} {xs : List Turn} {answer : Turn.Answer} {answers : List Turn.Answer}
    (h : Turned t [x] events [answer] s s') (h' : Turned t xs (x.enter events) answers s' s'') :
    Turned t (x :: xs) events (answer :: answers) s s'' := by
  have results : Turn.counted (s.limit t).toNat events.length (x :: xs) =
      Turn.counted (s.limit t).toNat events.length [x] ++
        Turn.counted (s.limit t).toNat (x.enter events).length xs := by
    cases x with
    | attempt now => rw [Turn.enter, List.length_append]; rfl
    | reset now => rfl
  refine ⟨h'.usable, h'.topic.trans h.topic, h'.limit.trans h.limit, h'.sink.trans h.sink, ?_, ?_, ?_, ?_⟩
  · rw [← h.limit]
    exact h'.tracks
  · rw [results, ← h.results, ← h.limit, ← h'.results]
    rfl
  · intro d reported
    obtain rfl | later := List.mem_cons.mp reported
    · exact h.digests d List.mem_cons_self
    · rw [h'.digests d later, h.topic]
  · rw [h'.journal, h.journal, h.answerEntries_eq, List.append_assoc]
    simp

/-- Turns are taken one after the other as long as there are fewer than 2^64 attempts between resets. -/
theorem turns_turned (usable : s.Usable t) (tracks : Limiter.Tracks (s.limit t) events (s.throttle t).limiter)
    {xs : List Turn} (few : ∀ before, before <+: xs → (before.foldl Turn.enter events).length < 2 ^ 64) :
    ∃ answers s', (turns t xs).exec s = (.ok answers, s') ∧ Turned t xs events answers s s' := by
  induction xs generalizing s events with
  | nil =>
    exact ⟨[], s, rfl, usable, rfl, rfl, rfl, tracks, rfl, fun d => nofun, (List.append_nil _).symm⟩
  | cons x xs ih =>
    have first := few [x] (List.prefix_append [x] xs)
    obtain ⟨answer, s₁, he, turned⟩ : ∃ answer s₁, (turn t x).exec s = (.ok answer, s₁) ∧
        Turned t [x] events [answer] s s₁ := by
      cases x with
      | attempt now => exact ⟨_, attempt_turned usable tracks now (by simpa [Turn.enter] using first)⟩
      | reset now => exact ⟨_, reset_turned usable tracks now⟩
    have tracks₁ := turned.tracks
    rw [← turned.limit] at tracks₁
    obtain ⟨answers, s₂, he', turned'⟩ := ih turned.usable tracks₁ fun before h =>
      few (x :: before) (List.cons_prefix_cons.mpr ⟨rfl, h⟩)
    refine ⟨answer :: answers, s₂, ?_, turned.cons turned'⟩
    simp only [turns, exec_bind, he, he', exec_pure]

/-- For every limit and all turns at any readings, with fewer than 2^64 attempts between resets, a throttle
that starts afresh answers as counting does: an attempt passes as long as the limit is not reached, and a
reset reports, and delivers, the number beyond the limit if there is one. Count and mark are those of the
attempts since the last reset. -/
theorem turns_count_plainly (usable : s.Usable t) (fresh : (s.throttle t).limiter = .cleared) {xs : List Turn}
    (few : ∀ before, before <+: xs → (Turn.events before).length < 2 ^ 64) :
    ∃ answers s', (turns t xs).exec s = (.ok answers, s') ∧
      (s'.throttle t).limiter.count.toNat = (Turn.events xs).length ∧
      ((s'.throttle t).limiter.isLimited = true ↔ (s.limit t).toNat ≤ (Turn.events xs).length) ∧
      answers.map Turn.Answer.result = Turn.counted (s.limit t).toNat 0 xs ∧
      (∀ d, .reported (some d) ∈ answers → d.topic = (s.throttle t).topic) ∧
      s'.journal.toList = s.journal.toList ++ answers.flatMap (s.answerEntries t) := by
  have tracks : Limiter.Tracks (s.limit t) [] (s.throttle t).limiter := fresh ▸ .cleared _
  obtain ⟨answers, s', he, turned⟩ := turns_turned usable tracks few
  exact ⟨answers, s', he, turned.tracks.count, turned.tracks.isLimited_iff (limit_pos s t), turned.results,
    turned.digests, turned.journal⟩

/-- A stopwatch that stands still, leaps and moves back, at a limit of two. -/
theorem turns_count_plainly_moving_back :
    let s := System.run {} [.addSink .filled fun _ _ => none, .addStopwatch .zero fun _ => none, .openRoster,
      .build ⟨0, 0, 0, none, 2, ⟨7, by decide⟩, 3⟩, .lookup 0 ⟨"x", some .warn⟩]
    let late : Duration := ⟨10 ^ 27, by decide⟩
    let xs : List Turn := [.attempt .zero, .attempt late, .attempt .zero, .reset .zero, .attempt late, .reset late]
    ∃ answers s', (turns 0 xs).exec s = (.ok answers, s') ∧ (s'.throttle 0).limiter.count = 0 ∧
      answers.map Turn.Answer.result = [.decided .allow, .decided .allow, .decided .suppress, .reported (some 1),
        .decided .allow, .reported none] ∧
      s'.delivered 0 = [⟨.warn, "(suppressed 1 logs similar to 'x' in 0ns)"⟩] := by
  intro s late xs
  have usable : s.Usable 0 := ⟨⟨fun _ _ => rfl, rfl, fun _ => rfl⟩, by decide +kernel, by decide +kernel⟩
  have few : ∀ before, before <+: xs → (Turn.events before).length < 2 ^ 64 := by
    intro before h
    exact Nat.lt_of_le_of_lt (Nat.le_trans (Turn.length_events_le before) h.length_le) (by decide)
  obtain ⟨answers, s', he, count, _, results, _⟩ := turns_count_plainly usable (by decide +kernel) few
  have lines : ((turns 0 xs).exec s).2.delivered 0 = [⟨.warn, "(suppressed 1 logs similar to 'x' in 0ns)"⟩] := by
    decide +kernel
  rw [he] at lines
  refine ⟨answers, s', he, ?_, ?_, lines⟩
  · exact UInt64.toNat_inj.mp count
  · rw [results]
    decide +kernel

end System
end LogThrottle
