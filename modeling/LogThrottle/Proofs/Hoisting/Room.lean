import LogThrottle.Proofs.Catalogues.Capacity
import LogThrottle.Proofs.System.Growth

/-! Room in catalogues. Where none overflows, a catalogue never holds more than one topic beyond its capacity;
so there was room for every topic before the last one entered, in whichever order they came. -/
namespace LogThrottle.System
open Call
variable {s s' : System} {a : Action} {p : Key}

/-- What is listed after an action was listed before, or was asked for. -/
theorem listed_before (grown : Grown s) (smooth : a.Smooth s) (found : (s.after a).listed? p ≠ none) :
    s.listed? p ≠ none ∨ a.sought? = some p := by
  obtain ⟨_, gains⟩ := grows_after grown.sound smooth grown.calm
  obtain ⟨t, found⟩ := Option.ne_none_iff_exists'.mp found
  obtain ⟨made, key⟩ := (grown.after smooth).sound.key_of_listed found
  by_cases old : t < s.throttles.size
  · rw [gains.key t old] at key
    rw [← key, grown.listed t old]
    exact .inl (Option.some_ne_none t)
  · rw [← key]
    exact .inr (gains.fresh t (Nat.not_lt.mp old) made).1

/-- What was asked for is listed. -/
theorem listed_of_sought (grown : Grown s) (smooth : a.Smooth s) (sought : a.sought? = some p) :
    (s.after a).listed? p ≠ none := by
  obtain ⟨ready, quiet, roomy⟩ := smooth
  cases a with
  | lookup l topic =>
    obtain rfl : (l, topic) = p := Option.some.inj sought
    obtain ⟨t, s₁, he, found⟩ := lookup_roomy (p := (l, topic)) (roomy _ rfl)
    rw [after, Action.perform, he]
    exact (found.listed (grown.sound.held ready).1).symm ▸ Option.some_ne_none t
  | log l severity template args =>
    obtain rfl : (l, { template }) = p := Option.some.inj sought
    have made := (grown.sound.held ready).1
    obtain ⟨t, s₁, he, found⟩ := lookup_roomy (p := (l, { template })) (roomy _ rfl)
    have calm := (found.grows (P := fun _ => True) made trivial grown.calm).1
    have grows := grows_logThrough (P := fun _ => True) (found.made grown.sound ready) severity quiet calm
    rw [after, Action.perform, log, exec_bind, he]
    exact (grows.2.listed _ t (found.listed made)).symm ▸ Option.some_ne_none t
  | _ => cases sought

theorem listed_run {as : List Action} (grown : Grown s) (smooth : s.Along (fun s a => a.Smooth s) as)
    (found : s.listed? p ≠ none) : (s.run as).listed? p ≠ none := by
  refine (smooth.keeps (I := fun s => Grown s ∧ s.listed? p ≠ none) ⟨grown, found⟩ ?_).2
  rintro s a ⟨grown, found⟩ smooth
  obtain ⟨t, found⟩ := Option.ne_none_iff_exists'.mp found
  refine ⟨grown.after smooth, ?_⟩
  rw [(grows_after grown.sound smooth grown.calm).2.listed p t found]
  exact Option.some_ne_none t

/-- What was asked for in the course of a run is listed at its end. -/
theorem listed_of_mem {as : List Action} (grown : Grown s) (smooth : s.Along (fun s a => a.Smooth s) as)
    (there : a ∈ as) (sought : a.sought? = some p) : (s.run as).listed? p ≠ none := by
  obtain ⟨before, after, rfl⟩ := List.append_of_mem there
  obtain ⟨early, now, late⟩ := along_append.mp smooth
  have grown' : Grown (s.run before) := early.keeps grown fun _ _ h => h.after
  have cut : (s.run before).run (a :: after) = ((s.run before).after a).run after := rfl
  rw [run_append, cut]
  exact listed_run (grown'.after now) late (listed_of_sought grown' now sought)

/-- Where all that is listed, and one topic more, is listed in a system that is not crowded, there is room. -/
theorem Uncrowded.room {e : System} (h : Uncrowded e) (inside : ∀ q, s.listed? q ≠ none → e.listed? q ≠ none)
    (capacity : (e.logger p.1).capacity = (s.logger p.1).capacity) (there : e.listed? p ≠ none)
    (absent : s.listed? p = none) : (s.logger p.1).catalogue.size ≤ (s.logger p.1).capacity := by
  have entered : ((s.logger p.1).catalogue.insert p.2 0).1.size = (s.logger p.1).catalogue.size + 1 :=
    Catalogue.size_insert_of_none 0 absent
  have smaller : ((s.logger p.1).catalogue.insert p.2 0).1.size ≤ (e.logger p.1).catalogue.size := by
    refine Catalogue.size_le fun topic found => ?_
    rw [Catalogue.find?_insert] at found
    by_cases own : topic = p.2
    · rw [own]
      exact there
    · rw [if_neg own] at found
      exact inside (p.1, topic) found
  have all := Nat.le_trans smaller (h p.1)
  rw [entered, capacity] at all
  exact Nat.le_of_succ_le_succ all

end LogThrottle.System
