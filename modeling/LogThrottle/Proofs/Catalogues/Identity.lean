import LogThrottle.Proofs.Catalogues.Capacity

/-! One throttle for a topic between two overflows. What a logger has given stays in its catalogue as long as
that does not overflow; after an overflow everything it gives is made anew. -/
namespace LogThrottle.System
open Call
variable {l : LoggerId} {topic : Topic} {t : ThrottleId} {a : Action} {s : System}

/-- What is in a catalogue stays there until the catalogue overflows. -/
theorem listed_of_not_overflows (sound : Sound s) (ready : a.Ready s) (quiet : ¬a.Overflows l s)
    (listed : (s.logger l).catalogue.find? topic = some t) :
    ((s.after a).logger l).catalogue.find? topic = some t := by
  by_cases asked : ∃ other, a.sought? = some (l, other)
  · obtain ⟨other, sought⟩ := asked
    exact (stock_of_not_overflows sound ready sought quiet).2 topic t listed
  · rwa [catalogue_after fun other sought => asked ⟨other, sought⟩]

/-- A catalogue with throttles from a number on only. -/
structure Renewed (l : LoggerId) (n : Nat) (s : System) : Prop where
  begun : n ≤ s.throttles.size
  listed : ∀ topic t, (s.logger l).catalogue.find? topic = some t → n ≤ t

/-- Whatever enters a catalogue is new. -/
theorem Renewed.after {n : Nat} (h : Renewed l n s) (sound : Sound s) (ready : a.Ready s) :
    Renewed l n (s.after a) := by
  obtain ⟨es, _, carries⟩ := advances_after sound ready
  refine ⟨Nat.le_trans h.begun carries.throttles, fun other t found => ?_⟩
  by_cases asked : ∃ topic, a.sought? = some (l, topic)
  · obtain ⟨topic, sought⟩ := asked
    have stocked := stocked_after sound ready sought
    revert stocked
    generalize ((lookup l topic).exec s).1 = answer
    intro stocked
    cases stocked with
    | found _ same | refused _ _ _ same => exact h.listed other t (same.catalogue ▸ found)
    | entered absent _ catalogue =>
      rw [catalogue, Catalogue.find?_insert, absent, Option.getD_none] at found
      split at found
      · exact Option.some.inj found ▸ h.begun
      · exact h.listed other t found
    | emptied _ _ _ catalogue =>
      rw [catalogue, Catalogue.find?_insert, Catalogue.find?_cleared, Catalogue.find?_cleared] at found
      split at found
      · exact Option.some.inj found ▸ h.begun
      · cases found
  · rw [catalogue_after fun topic sought => asked ⟨topic, sought⟩] at found
    exact h.listed other t found

/-- An overflow leaves nothing old in the catalogue. -/
theorem renewed_of_overflows {n : Nat} (sound : Sound s) (ready : a.Ready s) (overflows : a.Overflows l s)
    (begun : n ≤ s.throttles.size) : Renewed l n (s.after a) := by
  obtain ⟨es, _, carries⟩ := advances_after sound ready
  obtain ⟨⟨i, topic⟩, sought, own, _⟩ := id overflows
  obtain rfl : i = l := own
  obtain ⟨_, _, listed⟩ := stock_of_overflows sound ready sought overflows
  refine ⟨Nat.le_trans begun carries.throttles, fun other t found => ?_⟩
  rw [listed] at found
  split at found
  · exact Option.some.inj found ▸ begun
  · cases found

section Runs
variable {as : List Action}

/-- In the course of a run a catalogue either overflows or keeps what it had. -/
theorem listed_or_renewed (sound : Sound s) (feasible : s.Feasible as) :
    (s.Along (fun s a => ¬a.Overflows l s) as → ∀ topic t, (s.logger l).catalogue.find? topic = some t →
      ((s.run as).logger l).catalogue.find? topic = some t) ∧
    ∀ n ≤ s.throttles.size, ¬s.Along (fun s a => ¬a.Overflows l s) as ∨ Renewed l n s → Renewed l n (s.run as) := by
  induction as generalizing s with
  | nil => exact ⟨fun _ _ _ => id, fun n _ renewed => renewed.resolve_left fun overflowed => overflowed trivial⟩
  | cons a as ih =>
    obtain ⟨es, _, carries⟩ := advances_after sound feasible.1
    obtain ⟨listed, renewed⟩ := ih (sound.after feasible.1) feasible.2
    refine ⟨fun quiet topic t found => ?_, fun n begun why => ?_⟩
    · exact listed quiet.2 topic t (listed_of_not_overflows sound feasible.1 quiet.1 found)
    · refine renewed n (Nat.le_trans begun carries.throttles) ?_
      by_cases overflows : a.Overflows l s
      · exact .inr (renewed_of_overflows sound feasible.1 overflows begun)
      · exact why.imp (fun overflowed later => overflowed ⟨overflows, later⟩) fun old => old.after sound feasible.1

/-- What a logger has given is in its catalogue then, and is a throttle of the topic for good. -/
private theorem given_topic {u : ThrottleId} (sound : Sound s) (ready : a.Ready s)
    (sought : a.sought? = some (l, topic)) (given : ((lookup l topic).exec s).1 = .ok u)
    (feasible : (s.after a).Feasible as) :
    ((s.after a).logger l).catalogue.find? topic = some u ∧ u < (s.after a).throttles.size ∧
      (((s.after a).run as).throttle u).topic = topic := by
  have listed := find?_after sound ready sought given
  have sound' := sound.after ready
  obtain ⟨made, _, about⟩ := sound'.catalogue l topic u listed
  obtain ⟨es, _, carries⟩ := advances_run sound' feasible
  exact ⟨listed, made, (carries.topic u made).trans about⟩

end Runs

/-- In every run a logger gives, for two calls without an overflow of its catalogue in between, the same
throttle exactly if they ask for the same topic; with an overflow in between, that of the second call included,
it gives different ones. What was given for a topic is a throttle of that topic for good, and a catalogue holds
each throttle on the shelf of its severity under its template. -/
theorem one_throttle_per_topic {before between rest : List Action} {a b : Action} {l : LoggerId} {x y : Topic}
    {u v : ThrottleId} (feasible : System.Feasible {} (before ++ a :: between ++ b :: rest))
    (first : a.sought? = some (l, x)) (second : b.sought? = some (l, y))
    (given : ((lookup l x).exec (System.run {} before)).1 = .ok u)
    (given' : ((lookup l y).exec (System.run {} (before ++ a :: between))).1 = .ok v) :
    let s := System.run {} (before ++ a :: between ++ b :: rest)
    let quiet := (System.run {} (before ++ [a])).Along (fun s c => ¬c.Overflows l s) (between ++ [b])
    (quiet → (u = v ↔ x = y)) ∧ (¬quiet → u ≠ v) ∧
    (s.throttle u).topic = x ∧ (s.throttle v).topic = y ∧
    ∀ i severity template t, ((s.logger i).catalogue.shelf severity).find? template = some t →
      (s.throttle t).topic = ⟨template, severity⟩ := by
  intro s quiet
  obtain ⟨earlier, ready', later⟩ := along_append.mp feasible
  obtain ⟨early, ready, middle⟩ := along_append.mp earlier
  have sound := sound_run early
  have sound' := sound.after ready
  have cut : System.run {} (before ++ a :: between) = ((System.run {} before).after a).run between :=
    run_append {} before (a :: between)
  have ending : s = ((System.run {} (before ++ a :: between)).after b).run rest :=
    run_append {} (before ++ a :: between) (b :: rest)
  have quiet_eq : quiet = ((System.run {} before).after a).Along (fun s c => ¬c.Overflows l s) (between ++ [b]) := by
    rw [← run_snoc]
  have feasible' : ((System.run {} before).after a).Feasible (between ++ [b]) :=
    along_snoc.mpr ⟨middle, cut ▸ ready'⟩
  have all : ((System.run {} before).after a).Feasible (between ++ b :: rest) :=
    along_append.mpr ⟨middle, cut ▸ ready', cut ▸ later⟩
  have whole : s = ((System.run {} before).after a).run (between ++ b :: rest) := by
    rw [ending, cut, run_append]
    rfl
  obtain ⟨listed, made, about⟩ := given_topic sound ready first given all
  obtain ⟨listed', _, about'⟩ := given_topic (sound_run earlier) ready' second given' later
  rw [← whole] at about
  rw [← ending] at about'
  rw [cut, ← run_snoc] at listed'
  obtain ⟨kept, renewed⟩ := listed_or_renewed (l := l) sound' feasible'
  refine ⟨fun quiet => ?_, fun overflowed same => ?_, about, about', fun i severity template t found => ?_⟩
  · have still := kept (quiet_eq ▸ quiet) x u listed
    constructor
    · rintro rfl
      rw [← about, ← about']
    · rintro rfl
      exact Option.some.inj (still.symm.trans listed')
  · have new := (renewed _ (Nat.le_refl _) (.inl (quiet_eq ▸ overflowed))).listed y v listed'
    exact absurd (same ▸ made) (Nat.not_lt.mpr new)
  · exact ((sound_run feasible).catalogue i ⟨template, severity⟩ t found).2.2

/-- A throttle is still used when its topic is given another one after an overflow. -/
theorem one_throttle_per_topic_around_overflow :
    let opening : List Action := [.addSink .filled fun _ _ => none, .addStopwatch .zero fun _ => none,
      .openRoster, .build ⟨0, 0, 0, none, 1, ⟨7, by decide⟩, 1⟩]
    let between : List Action := [.log 0 .info "a" [], .log 0 .info "b" [], .logThrough 0 .info []]
    let s := System.run {} (opening ++ .lookup 0 ⟨"x", none⟩ :: between ++ .log 0 .info "x" [] :: [.emit 0 []])
    (0 : ThrottleId) ≠ 3 ∧ (s.throttle 0).topic = ⟨"x", none⟩ ∧ (s.throttle 3).topic = ⟨"x", none⟩ ∧
      (s.throttle 0).limiter.count = 2 ∧ (s.throttle 3).limiter.count = 1 := by
  intro opening between s
  have feasible : System.Feasible {}
      (opening ++ .lookup 0 ⟨"x", none⟩ :: between ++ .log 0 .info "x" [] :: [.emit 0 []]) := by
    decide +kernel
  obtain ⟨_, distinct, about, about', _⟩ :=
    one_throttle_per_topic feasible rfl rfl (u := 0) (v := 3) (by decide +kernel) (by decide +kernel)
  exact ⟨distinct (by decide +kernel), about, about', by decide +kernel⟩

end LogThrottle.System
