import LogThrottle.Proofs.Refinement.Steps

/-! Runs beside plain counting. What a logger on a roster of its own delivers, whatever happens to it, is
what the ledger tells. -/
namespace LogThrottle.Reference
open LogThrottle.System
open LogThrottle.Call
variable {x : Setting} {g : Ledger} {n : Nat} {s : System}

theorem Ledger.run_snoc (g : Ledger) (hs : List Happening) (h : Happening) :
    g.run (hs ++ [h]) = ((g.run hs).step h).2 := by
  rw [run, List.foldl_append]
  rfl

theorem Ledger.outcomes_snoc (g : Ledger) (hs : List Happening) (h : Happening) :
    g.outcomes (hs ++ [h]) = g.outcomes hs ++ ((g.run hs).step h).1 := by
  induction hs generalizing g with
  | nil => exact List.append_nil _
  | cons first hs ih =>
    rw [List.cons_append, outcomes, ih, outcomes, List.append_assoc]
    rfl

theorem Ledger.fitting_snoc {g : Ledger} {hs : List Happening} {h : Happening} :
    g.Fitting (hs ++ [h]) ↔ g.Fitting hs ∧ h.Fits (g.run hs) := by
  induction hs generalizing g with
  | nil => simp [Fitting, run]
  | cons first hs ih =>
    rw [List.cons_append, Fitting, Fitting, ih, and_assoc]
    rfl

private theorem passes_lookup (g : Ledger) (topic : Topic) :
    (g.lookup topic).1.countP Outcome.isPass ≤ 1 := by
  rw [Ledger.lookup]
  split
  · exact Nat.zero_le 1
  · split
    · exact Nat.le_refl 1
    · exact Nat.zero_le 1

private theorem passes_event (g : Ledger) (i : Nat) (severity : Severity) (args : List Argument) :
    (g.event i severity args).1.countP Outcome.isPass = 0 := by
  rw [Ledger.event]
  split
  · rfl
  · dsimp only
    split <;> rfl

/-- A happening has one reset pass at most. -/
theorem passes_step (g : Ledger) (h : Happening) : (g.step h).1.countP Outcome.isPass ≤ 1 := by
  cases h with
  | lookup topic => exact passes_lookup g topic
  | log severity template args =>
    have here := passes_event (g.lookup { template }).2.2 (g.lookup { template }).2.1 severity args
    have both : (g.step (.log severity template args)).1 = (g.lookup { template }).1 ++
        ((g.lookup { template }).2.2.event (g.lookup { template }).2.1 severity args).1 := rfl
    rw [both, List.countP_append, here]
    exact passes_lookup g { template }
  | logThrough i severity args =>
    exact Nat.le_trans (Nat.le_of_eq (passes_event g i severity args)) (Nat.zero_le 1)
  | emit i args =>
    rw [Ledger.step]
    split
    · exact Nat.le_trans (Nat.le_of_eq (passes_event g i _ args)) (Nat.zero_le 1)
    · exact Nat.zero_le 1
  | flush => exact Nat.le_refl 1
  | fire | shutdown =>
    rw [Ledger.step]
    split
    · exact Nat.zero_le 1
    · exact Nat.le_refl 1
  | move m => exact Nat.zero_le 1

private theorem passes_outcomes (g : Ledger) (hs : List Happening) :
    (g.outcomes hs).countP Outcome.isPass ≤ hs.length := by
  induction hs generalizing g with
  | nil => exact Nat.le_refl 0
  | cons h hs ih =>
    rw [Ledger.outcomes, List.countP_append, List.length_cons, Nat.add_comm]
    exact Nat.add_le_add (ih _) (passes_step g h)

section Opening

private def built (x : Setting) : Logger where
  roster := 0
  sink := 0
  stopwatch := 0
  counter := if x.counted then some 0 else none
  quota := x.quota
  capacity := x.capacity
  capacity_pos := x.capacity_pos

private theorem run_opening (x : Setting) :
    System.run {} x.opening = {
      sinks := #[{ style := x.style }]
      stopwatches := #[{ reading := x.reading }]
      counters := #[{}]
      rosters := #[{}]
      loggers := #[built x]
      holders := [⟨.logger 0, 0⟩, ⟨.owner, 0⟩] } := by
  have plan : Plan.logger ⟨0, 0, 0, if x.counted then some 0 else none, x.quota.limit, x.quota.period,
      x.capacity⟩ = .ok (built x) := by
    simp [Plan.logger, Quota.of, built, x.quota.limit_pos, x.quota.period_pos, x.capacity_pos]
  have split : x.opening = x.opening.take 4 ++ [.build ⟨0, 0, 0, if x.counted then some 0 else none,
      x.quota.limit, x.quota.period, x.capacity⟩] := rfl
  rw [split, run_snoc, after_build, plan]
  rfl

theorem follows_opening (x : Setting) : Follows x x.ledger 0 (System.run {} x.opening) := by
  rw [run_opening]
  exact {
    calm := by
      refine ⟨fun k n line => ?_, fun w => ?_, fun c n severity => ?_⟩
      · cases k <;> rfl
      · cases w <;> exact ⟨rfl, fun _ => rfl⟩
      · cases c <;> rfl
    held := ⟨⟨.logger 0, 0⟩, List.mem_cons_self, rfl⟩
    listed := Nat.zero_lt_one
    watched := Nat.zero_lt_one
    roster := rfl
    sink := rfl
    stopwatch := rfl
    quota := rfl
    capacity := rfl
    limit := rfl
    style := rfl
    reading := rfl
    cached := Catalogue.find?_cleared
    full := rfl
    size := rfl
    stands := fun _ _ h => absurd h (by simp [Setting.ledger])
    there := Nat.zero_lt_one
    jobs := ⟨rfl, fun _ _ h => absurd h (by simp [System.roster, default])⟩ }

theorem regular_opening (x : Setting) :
    System.Along (fun s a => a.Ready s ∧ a.Regular s) {} x.opening := by
  refine ⟨⟨trivial, trivial, nofun⟩, ⟨trivial, trivial, nofun⟩, ⟨trivial, trivial, nofun⟩,
    ⟨trivial, trivial, nofun⟩, ⟨⟨rfl, Nat.zero_lt_one, Nat.zero_lt_one, fun c hc => ?_⟩, trivial, nofun⟩,
    trivial⟩
  dsimp only at hc
  split at hc
  · obtain rfl := Option.some.inj hc
    exact Nat.zero_lt_one
  · cases hc

end Opening

/-- A run that fits is orderly, and the ledger tells what it did. -/
structure Orderly (x : Setting) (hs : List Happening) : Prop where
  regular : System.Along (fun s a => a.Ready s ∧ a.Regular s) {} (x.actions hs)
  follows : Follows x (x.ledger.run hs) hs.length (System.run {} (x.actions hs))
  tells : Tells (x.ledger.outcomes hs) (System.run {} x.opening) (System.run {} (x.actions hs))

namespace Orderly
variable {hs : List Happening}

private theorem flushes_le (told : Orderly x hs) : (System.run {} (x.actions hs)).flushes ≤ hs.length := by
  have none : (System.run {} x.opening).flushes = 0 := by
    rw [run_opening]
    rfl
  have few := told.tells.flushes
  rw [none, Nat.zero_add] at few
  exact Nat.le_trans few (passes_outcomes _ hs)

theorem sound (told : Orderly x hs) : Sound (System.run {} (x.actions hs)) :=
  sound_run (told.regular.mono fun _ _ h => h.1)

theorem gathered (told : Orderly x hs) (few : hs.length < 2 ^ 64) :
    Gathered x.quota.period ((System.run {} (x.actions hs)).roster 0) (System.run {} (x.actions hs)) := by
  have flushes := Nat.lt_of_le_of_lt told.flushes_le few
  exact told.follows.gathered told.sound (aligned_of_regular told.regular flushes)
    (idle_run told.regular flushes)

theorem nil (x : Setting) : Orderly x [] := by
  have same : x.actions [] = x.opening := List.append_nil _
  refine ⟨?_, ?_, ?_⟩
  · rw [same]
    exact regular_opening x
  · rw [same]
    exact follows_opening x
  · rw [same]
    exact .refl _

theorem actions_snoc (x : Setting) (hs : List Happening) (h : Happening) :
    x.actions (hs ++ [h]) = x.actions hs ++ [x.action h] := by
  rw [Setting.actions, List.map_append, ← List.append_assoc]
  rfl

theorem snoc (told : Orderly x hs) {h : Happening} (few : hs.length + 1 < 2 ^ 64)
    (fits : h.Fits (x.ledger.run hs)) : Orderly x (hs ++ [h]) := by
  have gathered := told.gathered (Nat.lt_of_succ_lt few)
  obtain ⟨_, follows, tells⟩ := follows_after told.follows told.sound gathered few fits
  have regular : (x.action h).Regular (System.run {} (x.actions hs)) := by
    cases h <;> exact ⟨trivial, nofun⟩
  refine ⟨?_, ?_, ?_⟩
  · rw [actions_snoc]
    exact along_snoc.mpr ⟨told.regular, ready_of_fits told.follows told.sound fits, regular⟩
  · rw [actions_snoc, System.run_snoc, Ledger.run_snoc, List.length_append]
    exact follows
  · rw [actions_snoc, System.run_snoc, Ledger.outcomes_snoc]
    exact told.tells.trans tells

end Orderly

theorem orderly_run (x : Setting) {hs : List Happening} (fitting : x.ledger.Fitting hs)
    (few : hs.length < 2 ^ 64) : Orderly x hs := by
  induction hs using List.reverseRecOn with
  | nil => exact .nil x
  | append_singleton hs h ih =>
    obtain ⟨earlier, fits⟩ := Ledger.fitting_snoc.mp fitting
    rw [List.length_append, List.length_singleton] at few
    exact (ih earlier (Nat.lt_of_succ_lt few)).snoc few fits

/-- For every quota, capacity and style of sink, and whatever happens to the logger, its sink takes
exactly the lines that plain counting tells, up to the order inside a reset pass. No call fails, and a
lookup gives the instance that the ledger gives. -/
theorem delivered_plain_counting (x : Setting) {hs : List Happening} (fitting : x.ledger.Fitting hs)
    (few : hs.length < 2 ^ 64) :
    Delivered (x.ledger.outcomes hs) ((System.run {} (x.actions hs)).delivered 0) ∧
    ∀ before h, hs = before ++ [h] →
      let s := System.run {} (x.actions before)
      (∃ answer, ((x.action h).perform.exec s).1 = .ok answer) ∧
      ∀ topic, h = .lookup topic →
        ((lookup 0 topic).exec s).1 = .ok ((x.ledger.run before).lookup topic).2.1 := by
  refine ⟨?_, ?_⟩
  · obtain ⟨ls, delivered, lines⟩ := (orderly_run x fitting few).tells.lines
    have none : (System.run {} x.opening).delivered 0 = [] := by
      rw [run_opening]
      rfl
    rw [lines, none]
    exact delivered
  · rintro before h rfl
    obtain ⟨earlier, fits⟩ := Ledger.fitting_snoc.mp fitting
    rw [List.length_append, List.length_singleton] at few
    have told := orderly_run x earlier (Nat.lt_of_succ_lt few)
    have gathered := told.gathered (Nat.lt_of_succ_lt few)
    refine ⟨(follows_after told.follows told.sound gathered few fits).1, fun topic _ => ?_⟩
    obtain ⟨s', he, _⟩ := follows_lookup told.follows gathered topic
    rw [he]

/-- At a limit and a capacity of one: the third topic overflows, and a kept throttle is used again. -/
theorem delivered_after_overflow :
    let x : Setting := ⟨.filled, .zero, true, ⟨1, ⟨7, by decide⟩, by decide, by decide⟩, 1, by decide⟩
    let hs : List Happening := [.log .info "a" [], .log .warn "a" [], .move (.set (.ofMillis 5)),
      .lookup ⟨"b", some .error⟩, .lookup ⟨"c", none⟩, .emit 1 [.integer 3], .logThrough 1 .debug [],
      .shutdown, .logThrough 0 .info [], .fire]
    x.ledger.Fitting hs ∧ Delivered (x.ledger.outcomes hs) ((System.run {} (x.actions hs)).delivered 0) ∧
      (System.run {} (x.actions hs)).delivered 0 = [⟨.info, "a"⟩, warning,
        ⟨.info, "(suppressed 1 logs similar to 'a' in 4ms)"⟩, ⟨.error, "b"⟩,
        ⟨.error, "(suppressed 1 logs similar to 'b' in 0ns)"⟩, ⟨.info, "a"⟩] := by
  intro x hs
  have none : Painless [] := fun _ => List.not_mem_nil
  have three : Painless [.integer 3] := fun _ h => nomatch List.mem_singleton.mp h
  have fitting : x.ledger.Fitting hs :=
    ⟨none, none, trivial, trivial, trivial, ⟨by decide, three⟩, ⟨by decide, none⟩, trivial,
      ⟨by decide, none⟩, trivial, trivial⟩
  exact ⟨fitting, (delivered_plain_counting x fitting (by decide)).1, by decide +kernel⟩

end LogThrottle.Reference
