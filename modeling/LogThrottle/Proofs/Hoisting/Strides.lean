import LogThrottle.Proofs.Hoisting.Passes
import LogThrottle.Proofs.Teardown.Releases

/-! Two runs side by side, of which the second logs through kept throttles where the first logs through loggers.
Each stride is an action in both, or the lookup by which the second run comes by a throttle. -/
namespace LogThrottle

/-- A stride of two runs. -/
inductive Stride where
  | both (a b : Action)
  /-- A handle taken in the second run only. -/
  | taken (l : LoggerId) (template : String)

namespace Stride

def first? : Stride → Option Action
  | both a _ => some a
  | taken .. => none

def second : Stride → Action
  | both _ b => b
  | taken l template => .lookup l { template }

end Stride

/-- The actions of the first run. -/
def firsts (ms : List Stride) : List Action := ms.flatMap fun m => m.first?.toList

/-- The actions of the second run. -/
def seconds (ms : List Stride) : List Action := ms.map Stride.second

namespace Action

/-- Events are counted by logging calls alone, and throttles enrolled by lookups and logging calls alone. -/
def Usual : Action → Prop
  | attempt _ | enrol .. => False
  | _ => True

instance : (a : Action) → Decidable a.Usual
  | .attempt _ | .enrol .. => isFalse id
  | .addSink .. | .addStopwatch .. | .addCounter _ | .openRoster | .build _ | .move .. | .lookup .. | .log ..
  | .logThrough .. | .emit .. | .flush _ | .shutdown _ | .fire .. | .guard _ | .share _ | .release _
  | .resetTally _ => isTrue trivial

/-- What an action of the first run is in the second: the same, on the throttle that the second run has for the
key; or, for a logging call, perhaps the call through that throttle. -/
inductive Twin (s s' : System) : Action → Action → Prop
  | same {a : Action} (free : a.handle? = none) : Twin s s' a a
  | handle {a : Action} {t t' : ThrottleId} (own : a.handle? = some t) (made : t' < s'.throttles.size)
      (key : s'.key t' = s.key t) : Twin s s' a (a.through t')
  | kept {l : LoggerId} {severity : Severity} {template : String} {args : List Argument} {t' : ThrottleId}
      (made : t' < s'.throttles.size) (key : s'.key t' = (l, { template })) :
      Twin s s' (.log l severity template args) (.logThrough t' severity args)

end Action

/-- A stride fits two systems. A handle is taken from a logger that is held, for a template that the first run
still logs through the logger. -/
def Stride.Fits (s s' : System) (rest : List Stride) : Stride → Prop
  | both a b => a.Twin s s' b
  | taken l template => s'.loggerHeld l ∧ ∃ severity args b, both (.log l severity template args) b ∈ rest

/-- Every stride of two runs fits the systems that it meets. -/
def System.Fitting (s s' : System) : List Stride → Prop
  | [] => True
  | m :: ms => m.Fits s s' ms ∧ (s.run m.first?.toList).Fitting (s'.after m.second) ms

theorem System.Fitting.fits {s s' : System} {before after : List Stride} {m : Stride}
    (h : s.Fitting s' (before ++ m :: after)) :
    m.Fits (s.run (firsts before)) (s'.run (seconds before)) after := by
  induction before generalizing s s' with
  | nil => exact h.1
  | cons n before ih =>
    rw [firsts, List.flatMap_cons, run_append]
    exact ih h.2

namespace Action.Twin
variable {s s' : System} {a b : Action}

theorem usual (h : Twin s s' a b) (usual : a.Usual) : b.Usual := by
  cases h with
  | same => exact usual
  | kept => trivial
  | handle own =>
    cases a with
    | logThrough | emit => trivial
    | attempt | enrol => exact usual
    | _ => cases own

/-- The second run looks nothing up that the first does not look up. -/
theorem sought (h : Twin s s' a b) {p : Key} (sought : b.sought? = some p) : a.sought? = some p := by
  cases h with
  | same => exact sought
  | kept => cases sought
  | handle =>
    rw [sought?_through] at sought
    exact sought

theorem ready (h : Twin s s' a b) (beside : System.Beside s s') (ready : a.Ready s) : b.Ready s' := by
  cases h with
  | kept made => exact made
  | handle own made => exact ready_through beside ready fun _ => made
  | same free =>
    have kept := ready_through (t := 0) beside ready fun some => absurd free some
    rwa [through_of_none free] at kept

theorem calm (h : Twin s s' a b) (beside : System.Beside s s') (quiet : a.Calm s) : b.Calm s' := by
  cases h with
  | kept => exact quiet
  | handle => exact calm_through beside quiet
  | same free =>
    have kept := calm_through (t := 0) beside quiet
    rwa [through_of_none free] at kept

end Action.Twin

namespace System
open Call

/-- Every throttle has its place, whoever has events is a member while its roster is alive, and jobs are right. -/
structure Poised (s : System) : Prop extends Grown s where
  punctual : ∀ r, (s.roster r).Punctual
  attended : ∀ r, s.alive r = true → Attended r s
  tended : Tended s

/-- The roster of a job that does anything is alive. -/
theorem Poised.open (h : Poised s) {r : RosterId} (made : r < s.rosters.size) (opened : (s.roster r).closed = false) :
    Attended r s :=
  h.attended r ((h.tended r made).resolve_right (by rw [opened]; exact Bool.false_ne_true))

section Steps
variable {s s' : System} {a b : Action}

private theorem Agrees.addCounter (h : Agrees s s') (fault : Nat → String → Option Fault) :
    Agrees (s.after (.addCounter fault)) (s'.after (.addCounter fault)) := by
  refine { h with toBeside := h.toBeside.after (.addCounter fault), counts := fun c => ?_ }
  rw [counter_addCounter, counter_addCounter, h.counters]
  split
  · rfl
  · exact h.counts c

private theorem Agrees.build (h : Agrees s s') (plan : Plan) :
    Agrees (s.after (.build plan)) (s'.after (.build plan)) := by
  have limiters (s : System) (p : Key) : (s.after (.build plan)).limiterOf p = s.limiterOf p := by
    refine limiterOf_congr (listed?_build s plan p) fun t _ => ?_
    rw [after_build]
    cases plan.logger <;> rfl
  have beside := h.toBeside.after (.build plan)
  have limiter (p : Key) : (s'.after (.build plan)).limiterOf p = (s.after (.build plan)).limiterOf p := by
    rw [limiters, limiters, h.limiter]
  rw [after_build, after_build] at beside limiter ⊢
  cases made : plan.logger with
  | error e => exact h
  | ok x =>
    rw [made] at beside limiter
    refine { h with toBeside := beside, tally := fun l => ?_, limiter := limiter }
    have read (s : System) : (s.loggers.push x).getD l default = if l = s.loggers.size then x else s.logger l :=
      getD_push ..
    refine (congrArg Logger.tally (read s')).trans (.trans ?_ (congrArg Logger.tally (read s)).symm)
    rw [h.loggers]
    split
    · rfl
    · exact h.tally l

private theorem Agrees.resetTally (h : Agrees s s') (l : LoggerId) :
    Agrees (s.after (.resetTally l)) (s'.after (.resetTally l)) := by
  have limiters (s : System) (p : Key) : (s.after (.resetTally l)).limiterOf p = s.limiterOf p := by
    refine limiterOf_congr ?_ fun _ _ => rfl
    exact (steady_changeTally s l fun _ => {}).listed_eq p
  refine { h with
    toBeside := h.toBeside.after (.resetTally l), tally := fun i => ?_, limiter := fun p => ?_ }
  · have read (s : System) : (s.after (.resetTally l)).logger i =
        if l = i ∧ i < s.loggers.size then { s.logger i with tally := {} } else s.logger i := logger_changeTally ..
    rw [read, read, h.loggers]
    split
    · rfl
    · exact h.tally i
  · rw [limiters, limiters, h.limiter]

/-- What a lookup leaves agrees with what it found, and lists the throttle. -/
theorem Sought.looked {p : Key} {t : ThrottleId} {s₁ : System} (sought : Sought p s t s₁) (fit : Fit s)
    (held : s.loggerHeld p.1) : Agrees s s₁ ∧ Fit s₁ ∧ s₁.listed? p = some t := by
  have made := (fit.sound.held held).1
  have agrees := sought.agrees fit.sound made
  exact ⟨agrees, fit.shifts (sought.shifts fit.sound held) agrees.toEquipped, sought.listed made⟩

section Poised
variable (h : Agrees s s') (poised : Poised s) (poised' : Poised s')
include h poised poised'

/-- Calls on a handle, made on throttles with the same key. -/
private theorem Agrees.handled {t t' : ThrottleId} (made : t < s.throttles.size) (made' : t' < s'.throttles.size)
    (key : s'.key t' = s.key t) (severity : Severity) {args : List Argument} (shown : Painless args) :
    Agrees ((System.logThrough t severity args).exec s).2 ((System.logThrough t' severity args).exec s').2 :=
  h.logThrough poised.toFit poised'.toFit (poised.listed t made) (key ▸ poised'.listed t' made') severity shown

/-- A logging call in the first system, and the call through the kept throttle in the second. -/
private theorem Agrees.kept {l : LoggerId} {template : String} {t' : ThrottleId} {severity : Severity}
    {args : List Argument} (smooth : (Action.log l severity template args).Smooth s)
    (made : t' < s'.throttles.size) (key : s'.key t' = (l, { template })) :
    Agrees (s.after (.log l severity template args)) (s'.after (.logThrough t' severity args)) := by
  obtain ⟨held, shown, roomy⟩ := smooth
  obtain ⟨t, s₁, he, sought⟩ := lookup_roomy (p := (l, { template })) (roomy _ rfl)
  obtain ⟨agrees, fit, found⟩ := sought.looked poised.toFit held
  rw [after, Action.perform, log, exec_bind, he]
  exact (agrees.symm.trans h).logThrough fit poised'.toFit found (key ▸ poised'.listed t' made) severity shown

/-- The same action in both systems. -/
private theorem Agrees.same (free : a.handle? = none) (smooth : a.Smooth s) (smooth' : a.Smooth s') :
    Agrees (s.after a) (s'.after a) := by
  obtain ⟨ready, quiet, roomy⟩ := smooth
  obtain ⟨ready', _, roomy'⟩ := smooth'
  cases a with
  | addSink style fault => exact { h with toBeside := h.toBeside.after (.addSink style fault) }
  | addStopwatch reading fault => exact { h with toBeside := h.toBeside.after (.addStopwatch reading fault) }
  | addCounter fault => exact h.addCounter fault
  | openRoster => exact { h with toBeside := h.toBeside.after .openRoster }
  | build plan => exact h.build plan
  | move w m =>
    have beside := h.toBeside.after (.move w m)
    rw [after_move, after_move] at beside ⊢
    exact { h with toBeside := beside }
  | lookup l topic =>
    obtain ⟨t, s₁, he, sought⟩ := lookup_roomy (p := (l, topic)) (roomy _ rfl)
    obtain ⟨t', s₁', he', sought'⟩ := lookup_roomy (p := (l, topic)) (roomy' _ rfl)
    rw [after, after, Action.perform, he, he']
    exact (sought.looked poised.toFit ready).1.symm.trans (h.trans (sought'.looked poised'.toFit ready').1)
  | log l severity template args =>
    obtain ⟨t, s₁, he, sought⟩ := lookup_roomy (p := (l, { template })) (roomy _ rfl)
    obtain ⟨t', s₁', he', sought'⟩ := lookup_roomy (p := (l, { template })) (roomy' _ rfl)
    obtain ⟨agrees, fit, found⟩ := sought.looked poised.toFit ready
    obtain ⟨agrees', fit', found'⟩ := sought'.looked poised'.toFit ready'
    rw [after, after, Action.perform, log, exec_bind, exec_bind, he, he']
    exact (agrees.symm.trans (h.trans agrees')).logThrough fit fit' found found' severity quiet
  | flush r =>
    exact h.flush poised.toGrown poised'.toGrown (poised.attended r ready) (poised'.attended r ready')
  | shutdown r =>
    exact ((closing r).shutdown ⟨h, ⟨poised.toGrown, poised.attended r ready⟩, poised'.toGrown,
      poised'.attended r ready'⟩).2.1
  | fire r period =>
    exact h.fire poised.toGrown poised'.toGrown (poised.punctual r) (poised'.punctual r) (poised.open ready)
      (poised'.open ready') period
  | guard r => exact { h with toBeside := h.toBeside.after (.guard r) }
  | share l => exact { h with toBeside := h.toBeside.after (.share l) }
  | release x =>
    have alive : s.alive x.roster = true := alive_iff.mpr ⟨x, ready, rfl⟩
    have alive' : s'.alive x.roster = true := alive_iff.mpr ⟨x, ready', rfl⟩
    exact ((closing x.roster).release ⟨h, ⟨poised.toGrown, poised.attended _ alive⟩, poised'.toGrown,
      poised'.attended _ alive'⟩).2.1
  | resetTally l => exact h.resetTally l
  | logThrough | emit | attempt | enrol => cases free

/-- Twins leave systems that agree. -/
theorem Agrees.after (usual : a.Usual) (smooth : a.Smooth s) (smooth' : b.Smooth s') (twin : a.Twin s s' b) :
    Agrees (s.after a) (s'.after b) := by
  cases twin with
  | same free => exact h.same poised poised' free smooth smooth'
  | kept made key => exact h.kept poised poised' smooth made key
  | @handle _ t t' own made key =>
    cases a with
    | logThrough u severity args =>
      obtain rfl : u = t := Option.some.inj own
      exact h.handled poised poised' smooth.1 made key severity smooth.2.1
    | emit u args =>
      obtain rfl : u = t := Option.some.inj own
      have topic : (s'.throttle t').topic = (s.throttle u).topic := congrArg Prod.snd key
      rw [Action.through, after_emit, after_emit, topic]
      exact h.handled poised poised' smooth.1 made key _ smooth.2.1
    | attempt | enrol => exact absurd usual id
    | _ => cases own

end Poised
end Steps
end System
end LogThrottle
