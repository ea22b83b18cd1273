import LogThrottle.Proofs.System.Growing

/-! The same throttles and the same calls in another system with the same surroundings, where throttles may
have other numbers. -/
namespace LogThrottle

namespace Action

/-- The throttle that a call is made on. -/
def handle? : Action → Option ThrottleId
  | .logThrough t .. | .emit t _ | .attempt t | .enrol _ t => some t
  | _ => none

/-- The same call on another throttle. -/
def through (t : ThrottleId) : Action → Action
  | .logThrough _ severity args => .logThrough t severity args
  | .emit _ args => .emit t args
  | .attempt _ => .attempt t
  | .enrol r _ => .enrol r t
  | a => a

variable {s s' : System} {a : Action} {t : ThrottleId}

theorem through_of_none (free : a.handle? = none) : a.through t = a := by
  cases a with
  | logThrough | emit | attempt | enrol => cases free
  | _ => rfl

theorem sought?_through : (a.through t).sought? = a.sought? := by
  cases a <;> rfl

theorem handle?_lt (ready : a.Ready s) (own : a.handle? = some t) : t < s.throttles.size := by
  cases a with
  | logThrough | emit | attempt => exact Option.some.inj own ▸ ready
  | enrol => exact Option.some.inj own ▸ ready.2
  | _ => cases own

/-- A call that is possible in one of two systems with the same surroundings is possible in the other. -/
theorem ready_through (h : System.Beside s s') (ready : a.Ready s) (made : a.handle? ≠ none → t < s'.throttles.size) :
    (a.through t).Ready s' := by
  cases a with
  | addSink | addStopwatch | addCounter | openRoster => trivial
  | build p =>
    obtain ⟨alive, sink, stopwatch, counter⟩ := ready
    refine ⟨(h.alive_eq _).trans alive, h.sinks ▸ sink, h.stopwatches ▸ stopwatch, fun c hc => ?_⟩
    exact h.counters ▸ counter c hc
  | move w m => exact Nat.lt_of_lt_of_eq ready h.stopwatches.symm
  | lookup l topic => exact (h.loggerHeld_iff l).mpr ready
  | log l severity template args => exact (h.loggerHeld_iff l).mpr ready
  | share l => exact (h.loggerHeld_iff l).mpr ready
  | resetTally l => exact (h.loggerHeld_iff l).mpr ready
  | logThrough | emit | attempt => exact made (Option.some_ne_none _)
  | enrol r u => exact ⟨(h.alive_eq r).trans ready.1, made (Option.some_ne_none _)⟩
  | flush r => exact (h.alive_eq r).trans ready
  | shutdown r => exact (h.alive_eq r).trans ready
  | guard r => exact (h.alive_eq r).trans ready
  | fire r period => exact Nat.lt_of_lt_of_eq ready h.rosters.symm
  | release x =>
    have held : x ∈ s.holders := ready
    exact (h.holders ▸ held : x ∈ s'.holders)

/-- What brings no failure into one of two systems with the same surroundings brings none into the other. -/
theorem calm_through (h : System.Beside s s') (quiet : a.Calm s) : (a.through t).Calm s' := by
  cases a with
  | move w m =>
    have read (s : System) : ((s.stopwatch w).move m).1 = ({ s.stopwatch w with reads := 0 }.move m).1 := by
      rw [Stopwatch.move_unread]
    have same : ((s'.stopwatch w).move m).1 = ((s.stopwatch w).move m).1 := by
      rw [read, read, h.stopwatch w]
    exact same.trans quiet
  | addSink | addStopwatch | addCounter | log | logThrough | emit => exact quiet
  | _ => trivial

end Action

namespace System.Equipped
variable {s s' : System} {t t' : ThrottleId} (h : Equipped s s') (key : s'.key t' = s.key t)
include h key

theorem limit_eq : s'.limit t' = s.limit t := by
  have owner : (s'.throttle t').logger = (s.throttle t).logger := congrArg Prod.fst key
  rw [limit, owner, h.logger_quota, limit]

theorem now_eq : s'.now t' = s.now t := by
  have owner : (s'.throttle t').logger = (s.throttle t).logger := congrArg Prod.fst key
  rw [now, owner, h.logger_stopwatch, h.stopwatch_reading, now]

theorem home_eq : s'.home t' = s.home t := by
  have owner : (s'.throttle t').logger = (s.throttle t).logger := congrArg Prod.fst key
  rw [home, owner, h.logger_roster, home]

theorem period_eq : s'.period t' = s.period t := by
  have owner : (s'.throttle t').logger = (s.throttle t).logger := congrArg Prod.fst key
  rw [period, owner, h.logger_quota, period]

variable (limiter : (s'.throttle t').limiter = (s.throttle t).limiter)
include limiter

theorem digest?_eq : s'.digest? t' = s.digest? t := by
  have topic : (s'.throttle t').topic = (s.throttle t).topic := congrArg Prod.snd key
  rw [digest?, h.limit_eq key, h.now_eq key, topic, limiter, digest?]

theorem verdict_eq : s'.verdict t' = s.verdict t := by
  rw [verdict, h.limit_eq key, h.now_eq key, limiter, verdict]

end System.Equipped
end LogThrottle
