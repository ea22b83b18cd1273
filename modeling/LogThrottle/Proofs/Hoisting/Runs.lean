import LogThrottle.Proofs.Hoisting.Room
import LogThrottle.Proofs.Hoisting.Strides

/-! Logging through a kept throttle is logging through the logger. When the throttle was looked up, and how many
flushes there were since, makes no difference: it joins again with its first event, and has no events before. -/
namespace LogThrottle

theorem firsts_append (ms ns : List Stride) : firsts (ms ++ ns) = firsts ms ++ firsts ns := List.flatMap_append

theorem firsts_snoc (ms : List Stride) (m : Stride) : firsts (ms ++ [m]) = firsts ms ++ m.first?.toList := by
  rw [firsts_append]
  exact congrArg (firsts ms ++ ·) (List.append_nil _)

theorem seconds_snoc (ms : List Stride) (m : Stride) : seconds (ms ++ [m]) = seconds ms ++ [m.second] :=
  List.map_append

theorem mem_firsts {a b : Action} {ms : List Stride} (there : .both a b ∈ ms) : a ∈ firsts ms :=
  List.mem_flatMap.mpr ⟨.both a b, there, List.mem_singleton_self a⟩

namespace System
open Call

theorem poised_run {as : List Action} (smooth : System.Along (fun s a => a.Smooth s) {} as)
    (usual : ∀ a ∈ as, a.Usual) (few : (System.run {} as).flushes < 2 ^ 64) : Poised (System.run {} as) := by
  have regular : System.Along (fun s a => a.Ready s ∧ a.Regular s) {} as := by
    refine (smooth.and (along_of_forall usual {})).mono fun s a ⟨smooth, usual⟩ => ⟨smooth.1, ?_, ?_⟩
    · cases a with
      | enrol => exact absurd usual id
      | _ => trivial
    · rintro t rfl
      exact usual
  refine ⟨grown_run smooth, punctual_run as, fun r alive => attended_run regular few alive, ?_⟩
  refine (smooth.keeps (I := fun s => Grown s ∧ Tended s) ⟨@grown_run [] trivial, ?_⟩ ?_).2
  · exact fun r made => absurd made (Nat.not_lt_zero r)
  · rintro s a ⟨grown, tended⟩ smooth
    have steadfast : Steadfast s := by
      refine ⟨fun k n line => ?_, fun w n => ?_⟩
      · rw [grown.calm.sink, grown.calm.sink]
      · rw [(grown.calm.stopwatch w).2, (grown.calm.stopwatch w).2]
    exact ⟨grown.after smooth, tended.after grown.sound grown.filed steadfast smooth.1⟩

/-- The second run up to a point: it can go on from there, agrees with the first, and has looked up nothing that
is not looked up at the end of the first. -/
private structure Abreast (e : System) (ms : List Stride) : Prop where
  smooth : System.Along (fun s a => a.Smooth s) {} (seconds ms)
  usual : ∀ b ∈ seconds ms, b.Usual
  agrees : Agrees (System.run {} (firsts ms)) (System.run {} (seconds ms))
  inside : ∀ p, (System.run {} (seconds ms)).listed? p ≠ none → e.listed? p ≠ none

private theorem Abreast.snoc {e : System} {ms rest : List Stride} {m : Stride} (f : Abreast e ms)
    (poised : Poised (System.run {} (firsts ms))) (uncrowded : Uncrowded e)
    (capacity : ∀ l < (System.run {} (firsts ms)).loggers.size,
      (e.logger l).capacity = ((System.run {} (firsts ms)).logger l).capacity)
    (smooth : (System.run {} (firsts ms)).Along (fun s a => a.Smooth s ∧ a.Usual) m.first?.toList)
    (fits : m.Fits (System.run {} (firsts ms)) (System.run {} (seconds ms)) rest)
    (there : ∀ p, m.second.sought? = some p → e.listed? p ≠ none)
    (few : (System.run {} (firsts ms)).flushes < 2 ^ 64) : Abreast e (ms ++ [m]) := by
  obtain ⟨smooth', usual', agrees, inside⟩ := f
  have poised' : Poised (System.run {} (seconds ms)) := poised_run smooth' usual' (agrees.flushes ▸ few)
  -- there is room, since what is looked up now is looked up in the first run too
  have room (ready : m.second.Ready (System.run {} (seconds ms))) : m.second.Roomy (System.run {} (seconds ms)) := by
    intro p sought absent
    have made := made_of_sought poised'.sound ready sought
    refine uncrowded.room inside ?_ (there p sought) absent
    rw [agrees.logger_capacity]
    exact capacity p.1 (Nat.lt_of_lt_of_eq made agrees.loggers)
  have step : m.second.Smooth (System.run {} (seconds ms)) ∧ m.second.Usual ∧
      Agrees ((System.run {} (firsts ms)).run m.first?.toList) ((System.run {} (seconds ms)).after m.second) := by
    cases m with
    | both a b =>
      obtain ⟨⟨first, usual⟩, _⟩ := smooth
      have twin : a.Twin (System.run {} (firsts ms)) (System.run {} (seconds ms)) b := fits
      have ready := twin.ready agrees.toBeside first.1
      have second : b.Smooth (System.run {} (seconds ms)) :=
        ⟨ready, twin.calm agrees.toBeside first.2.1, room ready⟩
      exact ⟨second, twin.usual usual, agrees.after poised poised' usual first second twin⟩
    | taken l template =>
      obtain ⟨held, _⟩ := fits
      have roomy := room held
      obtain ⟨t, s₁, he, sought⟩ := lookup_roomy (p := (l, { template })) (roomy _ rfl)
      have looked : (System.run {} (seconds ms)).after (.lookup l { template }) = s₁ := congrArg Prod.snd he
      refine ⟨⟨held, trivial, roomy⟩, trivial, ?_⟩
      exact looked ▸ agrees.trans (sought.looked poised'.toFit held).1
  obtain ⟨second, usual, next⟩ := step
  refine ⟨?_, ?_, ?_, fun p found => ?_⟩
  · rw [seconds_snoc]
    exact along_snoc.mpr ⟨smooth', second⟩
  · rw [seconds_snoc]
    exact List.forall_mem_append.mpr ⟨usual', List.forall_mem_singleton.mpr usual⟩
  · rw [firsts_snoc, seconds_snoc, run_append, run_snoc]
    exact next
  · rw [seconds_snoc, run_snoc] at found
    exact (listed_before poised'.toGrown second found).elim (inside p) (there p)

section Runs
variable {ms : List Stride} (smooth : System.Along (fun s a => a.Smooth s) {} (firsts ms))
  (usual : ∀ a ∈ firsts ms, a.Usual) (few : (System.run {} (firsts ms)).flushes < 2 ^ 64)
  (fitting : System.Fitting {} {} ms)
include smooth usual few fitting

private theorem abreast {before after : List Stride} (cut : ms = before ++ after) :
    Abreast (System.run {} (firsts ms)) before := by
  have grown : Grown {} := @grown_run [] trivial
  induction before using List.reverseRecOn generalizing after with
  | nil =>
    have nothing (p : Key) : System.listed? {} p = none := Catalogue.find?_cleared p.2
    exact ⟨trivial, fun _ none => absurd none List.not_mem_nil, .refl _, fun p found => absurd (nothing p) found⟩
  | append_singleton before m ih =>
    have cut' : ms = before ++ m :: after := by rw [cut, List.append_assoc]; rfl
    have run : firsts ms = firsts before ++ (m.first?.toList ++ firsts after) := by
      rw [cut', firsts_append]
      rfl
    obtain ⟨early, late⟩ := along_append.mp (run ▸ smooth)
    have ending : System.run {} (firsts ms) =
        (System.run {} (firsts before)).run (m.first?.toList ++ firsts after) := by
      rw [run, run_append]
    have poised : Poised (System.run {} (firsts before)) := by
      refine poised_run early (fun a there => usual a (run ▸ List.mem_append_left _ there)) ?_
      refine Nat.lt_of_le_of_lt ?_ few
      rw [ending]
      exact flushes_le_run (grown_run early).sound (late.mono fun _ _ h => h.1)
    have fits := (cut' ▸ fitting).fits
    refine (ih cut').snoc poised ?_ (fun l made => ?_) ?_ fits (fun p sought => ?_) ?_
    · exact uncrowded_run (smooth.mono fun _ _ h => h.1)
    · rw [ending]
      obtain ⟨es, _, carries⟩ := advances_run poised.sound (late.mono fun _ _ h => h.1)
      exact (congrArg Logger.capacity (carries.logger l made) :)
    · refine (along_append.mp late).1.and (along_of_forall (fun a there => usual a ?_) _)
      exact run ▸ List.mem_append_right _ (List.mem_append_left _ there)
    · cases m with
      | both a b =>
        have twin : a.Twin _ _ b := fits
        exact listed_of_mem grown smooth (mem_firsts (cut' ▸ List.mem_append_right _ List.mem_cons_self))
          (twin.sought sought)
      | taken l template =>
        obtain ⟨_, severity, args, b, logged⟩ := fits
        have logs := mem_firsts (cut' ▸ List.mem_append_right before (List.mem_cons_of_mem _ logged))
        exact listed_of_mem grown smooth logs sought
    · refine Nat.lt_of_le_of_lt ?_ few
      rw [ending]
      exact flushes_le_run poised.sound (late.mono fun _ _ h => h.1)

end Runs

/-- Keeping a throttle is as good as logging through the logger. Take any run in which nothing fails, no catalogue
overflows, and events are counted by logging calls alone; let a second run make the calls on handles on the
throttles with the same keys, and any of the logging calls through throttles that were looked up before, at any
time at which the logger was held. No catalogue overflows in the second run either. With every action, both runs
deliver the same lines to every sink, up to their order within the action, which matters for reset passes alone,
and they have the same tallies, external counts and limiters of the keys that both have looked up.
Epochs wrap at 2^64, so the run makes fewer flushes. -/
theorem hoisted_alike {ms : List Stride} (smooth : System.Along (fun s a => a.Smooth s) {} (firsts ms))
    (usual : ∀ a ∈ firsts ms, a.Usual) (few : (System.run {} (firsts ms)).flushes < 2 ^ 64)
    (fitting : System.Fitting {} {} ms) : System.Along (fun s a => a.Smooth s) {} (seconds ms) ∧
    ∀ before m after, ms = before ++ m :: after →
      let s := System.run {} (firsts before)
      let s' := System.run {} (seconds before)
      let s₁ := s.run m.first?.toList
      let s₁' := s'.after m.second
      (∀ k, ∃ ls ls', s₁.delivered k = s.delivered k ++ ls ∧ s₁'.delivered k = s'.delivered k ++ ls' ∧
        ls'.Perm ls) ∧
      (∀ l, (s₁'.logger l).tally = (s₁.logger l).tally) ∧
      (∀ c, (s₁'.counter c).counts = (s₁.counter c).counts) ∧
      ∀ p t t', s₁.listed? p = some t → s₁'.listed? p = some t' →
        (s₁'.throttle t').limiter = (s₁.throttle t).limiter := by
  have all := abreast smooth usual few fitting (List.append_nil ms).symm
  refine ⟨all.smooth, fun before m after cut => ?_⟩
  intro s s' s₁ s₁'
  have now := abreast smooth usual few fitting cut
  have next := abreast smooth usual few fitting (cut.trans (List.append_cons before m after))
  have run : System.run {} (firsts (before ++ [m])) = s₁ := by rw [firsts_snoc, run_append]
  have run' : System.run {} (seconds (before ++ [m])) = s₁' := by rw [seconds_snoc, run_snoc]
  have agrees : Agrees s₁ s₁' := run ▸ run' ▸ next.agrees
  refine ⟨fun k => ?_, agrees.tally, agrees.counts, fun p t t' found found' => agrees.limiter_eq found found'⟩
  have part : firsts ms = firsts before ++ m.first?.toList ++ firsts after := by
    rw [← firsts_snoc, ← firsts_append, ← List.append_cons, ← cut]
  obtain ⟨early, one⟩ := along_append.mp (along_append.mp (part ▸ smooth)).1
  have ready : m.second.Ready s' := (along_snoc.mp (seconds_snoc before m ▸ next.smooth)).2.1
  obtain ⟨es, _, carries⟩ := advances_run (grown_run early).sound (one.mono fun _ _ h => h.1)
  obtain ⟨es', _, carries'⟩ := advances_after (grown_run now.smooth).sound ready
  refine ⟨_, _, delivered_append carries.journal k, delivered_append carries'.journal k, ?_⟩
  have whole := agrees.lines k
  rw [delivered_append carries.journal, delivered_append carries'.journal] at whole
  exact (List.perm_append_left_iff _).mp (((now.agrees.lines k).symm.append_right _).trans whole)

/-- One handle is taken before a flush and one before a lookup, so throttles are made in another order, and the
digests of the last pass come in another order. -/
theorem hoisted_alike_across_flush :
    let y : Topic := ⟨"y", some .error⟩
    let before : List Stride := [.both (.addSink .filled fun _ _ => none) (.addSink .filled fun _ _ => none),
      .both (.addStopwatch .zero fun _ => none) (.addStopwatch .zero fun _ => none), .both .openRoster .openRoster,
      .both (.build ⟨0, 0, 0, none, 1, ⟨7, by decide⟩, 2⟩)
        (.build ⟨0, 0, 0, none, 1, ⟨7, by decide⟩, 2⟩),
      .both (.guard 0) (.guard 0), .taken 0 "x", .both (.flush 0) (.flush 0), .taken 0 "z",
      .both (.lookup 0 y) (.lookup 0 y), .both (.log 0 .info "z" []) (.logThrough 1 .info []),
      .both (.emit 0 []) (.emit 2 []), .both (.logThrough 0 .warn []) (.logThrough 2 .warn []),
      .both (.log 0 .info "x" []) (.logThrough 0 .info []), .both (.log 0 .warn "x" []) (.logThrough 0 .warn []),
      .both (.log 0 .warn "z" []) (.log 0 .warn "z" [])]
    let last : Action := .release ⟨.guard, 0⟩
    let s := System.run {} (firsts before)
    let s' := System.run {} (seconds before)
    ((∃ ls ls', (s.after last).delivered 0 = s.delivered 0 ++ ls ∧
        (s'.after last).delivered 0 = s'.delivered 0 ++ ls' ∧ ls'.Perm ls) ∧
      ((s'.after last).logger 0).tally = ((s.after last).logger 0).tally) ∧
      s.throttles.map (·.topic.template) = #["y", "z", "x"] ∧
      s'.throttles.map (·.topic.template) = #["x", "z", "y"] ∧
      ((s.after last).delivered 0).drop 3 = [⟨.info, "(suppressed 1 logs similar to 'x' in 0ns)"⟩,
        ⟨.info, "(suppressed 1 logs similar to 'z' in 0ns)"⟩,
        ⟨.error, "(suppressed 1 logs similar to 'y' in 0ns)"⟩] ∧
      ((s'.after last).delivered 0).drop 3 = [⟨.info, "(suppressed 1 logs similar to 'x' in 0ns)"⟩,
        ⟨.error, "(suppressed 1 logs similar to 'y' in 0ns)"⟩,
        ⟨.info, "(suppressed 1 logs similar to 'z' in 0ns)"⟩] := by
  intro y before last s s'
  let ms := before ++ [.both last last]
  have ready : System.Feasible {} (firsts ms) := by decide +kernel
  have calm : System.Along (fun s a => a.Calm s) {} (firsts ms) := by
    simp [ms, before, last, firsts, Stride.first?, System.Along, Action.Calm, Painless]
  have roomy : System.Along (fun s a => a.Roomy s) {} (firsts ms) := by decide +kernel
  have usual : ∀ a ∈ firsts ms, a.Usual := by decide +kernel
  have few : (System.run {} (firsts ms)).flushes < 2 ^ 64 := by decide +kernel
  have fitting : System.Fitting {} {} ms := by
    refine ⟨.same rfl, .same rfl, .same rfl, .same rfl, .same rfl,
      ⟨by decide +kernel, .info, [], .logThrough 0 .info [], by simp⟩, .same rfl,
      ⟨by decide +kernel, .info, [], .logThrough 1 .info [], by simp⟩, .same rfl, .kept ?_ ?_, .handle rfl ?_ ?_,
      .handle rfl ?_ ?_, .kept ?_ ?_, .kept ?_ ?_, .same rfl, .same rfl, trivial⟩
    all_goals decide +kernel
  obtain ⟨_, alike⟩ := hoisted_alike (ready.and (calm.and roomy)) usual few fitting
  obtain ⟨lines, tally, _⟩ := alike before (.both last last) [] rfl
  exact ⟨⟨lines 0, tally 0⟩, by decide +kernel⟩

end System
end LogThrottle
