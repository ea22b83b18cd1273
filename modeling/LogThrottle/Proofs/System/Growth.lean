import LogThrottle.Proofs.Enrolment.Filing
import LogThrottle.Proofs.System.Growing

/-! Runs in which nothing fails and no catalogue overflows. Every throttle is in the catalogue of its logger
under its topic, so no two have the same key. -/
namespace LogThrottle

namespace Catalogue

private theorem size_eq_sum (c : Catalogue) : c.size = ∑ i : Fin 6, c.shelves[i].size := by
  have listed : c.shelves.toList = List.ofFn fun i : Fin 6 => c.shelves[i] := by
    apply List.ext_getElem
    · rw [Vector.length_toList, List.length_ofFn]
    · intro i _ _
      rw [List.getElem_ofFn, Vector.getElem_toList]
      rfl
  have summed (shelves : List Shelf) :
      shelves.foldr (fun s n => s.size + n) 0 = (shelves.map Store.size).sum := by
    rw [List.sum_eq_foldr, List.foldr_map]
  rw [size, summed, listed, List.map_ofFn, List.sum_ofFn]
  rfl

/-- A catalogue with fewer topics is smaller. -/
theorem size_le {c d : Catalogue} (fewer : ∀ topic, c.find? topic ≠ none → d.find? topic ≠ none) :
    c.size ≤ d.size := by
  have shelf (severity : Option Severity) : (c.shelf severity).size ≤ (d.shelf severity).size := by
    rw [← Store.length_keys, ← Store.length_keys]
    refine ((c.shelf severity).nodup_keys.subperm fun template there => ?_).length_le
    have found : (c.shelf severity).find? template ≠ none := fun none =>
      Store.find?_eq_none_iff.mp none there
    exact Classical.byContradiction fun gone => fewer ⟨template, severity⟩ found (Store.find?_eq_none_iff.mpr gone)
  have placed (i : Fin 6) : ∃ severity, position severity = i := by
    fin_cases i
    exacts [⟨none, rfl⟩, ⟨some .trace, rfl⟩, ⟨some .debug, rfl⟩, ⟨some .info, rfl⟩, ⟨some .warn, rfl⟩,
      ⟨some .error, rfl⟩]
  rw [size_eq_sum, size_eq_sum]
  refine Finset.sum_le_sum fun i _ => ?_
  obtain ⟨severity, rfl⟩ := placed i
  exact shelf severity

end Catalogue

namespace System
open Call
variable {s s' : System} {a : Action}

theorem listed?_build (s : System) (plan : Plan) (p : Key) :
    (s.after (.build plan)).listed? p = s.listed? p := by
  rw [after_build]
  cases made : plan.logger with
  | error e => rfl
  | ok x =>
    have read : (s.loggers.push x).getD p.1 default = if p.1 = s.loggers.size then x else s.logger p.1 :=
      getD_push ..
    refine (congrArg (fun y : Logger => y.catalogue.find? p.2) read).trans ?_
    split
    · rename_i new
      rw [(fresh_of_plan made).2.1, listed?, logger_of_size_le (Nat.le_of_eq new.symm)]
      rfl
    · rfl

private theorem grows_build (P : Key → Prop) (plan : Plan) : Grows P s (s.after (.build plan)) := by
  have listed := listed?_build s plan
  rw [after_build] at listed ⊢
  revert listed
  cases plan.logger with
  | error e => exact fun _ => grows_refl P s
  | ok x =>
    exact fun listed calm => ⟨⟨calm.sink, calm.stopwatch, calm.counter⟩,
      .of_same rfl (fun _ => rfl) listed fun _ _ => rfl⟩

/-- An action in which nothing fails and no catalogue overflows makes throttles for the topic it asks for only. -/
theorem grows_after (sound : Sound s) (smooth : a.Smooth s) :
    Grows (fun p => a.sought? = some p) s (s.after a) := by
  obtain ⟨ready, quiet, roomy⟩ := smooth
  cases a with
  | addSink => exact fun calm => ⟨calm_addSink calm quiet, .outside rfl rfl rfl⟩
  | addStopwatch => exact fun calm => ⟨calm_addStopwatch calm quiet, .outside rfl rfl rfl⟩
  | addCounter => exact fun calm => ⟨calm_addCounter calm quiet, .outside rfl rfl rfl⟩
  | openRoster | guard | share =>
    exact fun calm => ⟨⟨calm.sink, calm.stopwatch, calm.counter⟩, .outside rfl rfl rfl⟩
  | build p => exact grows_build _ p
  | move w m =>
    rw [after_move]
    exact fun calm => ⟨calm_move calm quiet, .outside rfl rfl rfl⟩
  | lookup l topic =>
    obtain ⟨t, s', he, sought⟩ := lookup_roomy (p := (l, topic)) (roomy _ rfl)
    rw [after, Action.perform, he]
    exact sought.grows (sound.held ready).1 rfl
  | log l severity template args =>
    have made := (sound.held ready).1
    obtain ⟨t, s₁, he, sought⟩ := lookup_roomy (p := (l, { template })) (roomy _ rfl)
    rw [after, Action.perform, log, exec_bind, he]
    exact grows_trans (sought.grows made rfl) (grows_logThrough (sought.made sound ready) severity quiet)
  | logThrough t severity args => exact grows_logThrough ready severity quiet
  | emit t args =>
    rw [after_emit]
    exact grows_logThrough ready _ quiet
  | attempt t =>
    intro calm
    obtain ⟨s', he, wrote⟩ := attempt_calm calm t
    rw [after, Action.perform, he]
    exact ⟨wrote.calm ⟨calm.sink, calm.stopwatch, calm.counter⟩,
      (gains_setLimiter _ s t _).trans (wrote.gains _ fun _ _ => rfl)⟩
  | enrol r t => exact grows_enrol r t s
  | flush r => exact (closing_grows _).flush r s
  | shutdown r => exact (closing_grows _).shutdown r s
  | fire r period => exact grows_resetAll _ s
  | release x => exact (closing_grows _).release x s
  | resetTally l => exact fun calm => ⟨⟨calm.sink, calm.stopwatch, calm.counter⟩, gains_changeTally _ s l fun _ => {}⟩

/-- All parts refer to each other as they should, and none of them fails. -/
structure Fit (s : System) : Prop where
  sound : Sound s
  calm : Calm s
  filed : Filed s

/-- Every throttle has its place, and nothing is told of others. -/
structure Grown (s : System) : Prop extends Fit s where
  listed : ∀ t < s.throttles.size, s.listed? (s.key t) = some t
  silent : ∀ t, s.throttles.size ≤ t → s.linesOf t = []

theorem Fit.shifts (h : Fit s) (path : Shifts s s') (equipped : Equipped s s') : Fit s' :=
  ⟨h.sound.shifts path, equipped.calm h.calm, h.filed.shifts h.sound path⟩

/-- Closing a roster leaves all parts referring to each other. -/
theorem closing_fit : Closing fun s s' => Fit s → Fit s' where
  refl _ := id
  trans h h' fit := h' (h fit)
  flush r s fit := fit.shifts (shifts_flush r s) (closing_equipped.flush r s)
  close s r fit := fit.shifts (.single (.close s r)) (closing_equipped.close s r)
  cancelJobs s r fit := fit.shifts (.single (.cancelJobs s r)) (closing_equipped.cancelJobs s r)
  letGo s x fit := fit.shifts (.single (.letGo s x)) (closing_equipped.letGo s x)

/-- What is gained has its place. -/
theorem Grown.of_gains {P : Key → Prop} (h : Grown s) (fit : Fit s') (gains : Gains P s s') : Grown s' where
  toFit := fit
  listed t made := by
    by_cases old : t < s.throttles.size
    · rw [gains.key t old]
      exact gains.listed _ t (h.listed t old)
    · exact (gains.fresh t (Nat.not_lt.mp old) made).2
  silent t unmade := (gains.lines t unmade).trans (h.silent t (Nat.le_trans gains.size unmade))

theorem Grown.after (h : Grown s) (smooth : a.Smooth s) : Grown (s.after a) := by
  obtain ⟨calm, gains⟩ := grows_after h.sound smooth h.calm
  exact h.of_gains ⟨h.sound.after smooth.1, calm, h.filed.after h.sound smooth.1⟩ gains

theorem Grown.drained (h : Grown s) (r : RosterId) : Grown (drained r s) :=
  h.of_gains (h.toFit.shifts (.single (.drain s r)) (beside_drained s r).toEquipped)
    (gains_drained (fun _ => True) s r)

/-- Closing a roster leaves every throttle in its place. -/
theorem closing_grown : Closing fun s s' => Grown s → Grown s' :=
  let grows := closing_grows fun _ => True
  { refl := fun _ => id
    trans := fun h h' grown => h' (h grown)
    flush := fun r s h => h.of_gains (closing_fit.flush r s h.toFit) (grows.flush r s h.calm).2
    close := fun s r h => h.of_gains (closing_fit.close s r h.toFit) (grows.close s r h.calm).2
    cancelJobs := fun s r h => h.of_gains (closing_fit.cancelJobs s r h.toFit) (grows.cancelJobs s r h.calm).2
    letGo := fun s x h => h.of_gains (closing_fit.letGo s x h.toFit) (grows.letGo s x h.calm).2 }

theorem grown_run {as : List Action} (smooth : System.Along (fun s a => a.Smooth s) {} as) :
    Grown (System.run {} as) := by
  refine smooth.keeps (I := Grown) ⟨⟨.empty, ?_, .empty⟩, fun t made => ?_, fun _ _ => rfl⟩ fun s a h => h.after
  · exact ⟨fun _ _ _ => rfl, fun _ => ⟨rfl, fun _ => rfl⟩, fun _ _ _ => rfl⟩
  · exact absurd made (Nat.not_lt_zero t)

theorem Grown.listed_iff (h : Grown s) {p : Key} {t : ThrottleId} :
    s.listed? p = some t ↔ t < s.throttles.size ∧ s.key t = p :=
  ⟨h.sound.key_of_listed, fun ⟨made, same⟩ => same ▸ h.listed t made⟩

end System
end LogThrottle
