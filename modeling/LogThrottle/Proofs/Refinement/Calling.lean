import LogThrottle.Proofs.Refinement.Telling

/-! Lookups and events beside plain counting, one computation after the other. -/
namespace LogThrottle.Reference
open LogThrottle.System
open LogThrottle.Call
variable {x : Setting} {g : Ledger} {n : Nat} {s s' : System}

theorem warning_eq : warning = ⟨.warn, overflowWarning⟩ := rfl

theorem Tells.announced {r : RosterId} {t : ThrottleId} {s₁ : System}
    (h : Wrote (announcement r t s) s₁ s') : Tells [] s₁ s' := by
  refine .silent h.journal ?_ (flushing_not_mem_announcement r t s)
  rw [announcement]
  split <;> rfl

theorem find?_enter (g : Ledger) (topic other : Topic) :
    (g.enter topic).find? other = if topic = other then some g.instances.length else g.find? other := by
  by_cases h : topic = other <;> simp [Ledger.find?, Ledger.enter, h]

/-- Another catalogue for other topics in use. -/
theorem Surrounds.setCatalogue (m : Surrounds x g s) {c : Catalogue} {is : List Instance}
    {cs : List (Topic × Nat)}
    (cached : ∀ topic, c.find? topic = { g with instances := is, cached := cs }.find? topic)
    (full : c.size = cs.length) :
    Surrounds x { g with instances := is, cached := cs } (setCatalogue 0 c s) := by
  have logger : (System.setCatalogue 0 c s).logger 0 = { s.logger 0 with catalogue := c } := by
    rw [logger_setCatalogue, if_pos ⟨rfl, m.listed⟩]
  exact {
    calm := ⟨m.calm.sink, m.calm.stopwatch, m.calm.counter⟩
    held := m.held
    listed := by
      rw [size_loggers_setCatalogue]
      exact m.listed
    watched := m.watched
    roster := (congrArg Logger.roster logger :).trans m.roster
    sink := (congrArg Logger.sink logger :).trans m.sink
    stopwatch := (congrArg Logger.stopwatch logger :).trans m.stopwatch
    quota := (congrArg Logger.quota logger :).trans m.quota
    capacity := (congrArg Logger.capacity logger :).trans m.capacity
    limit := m.limit
    style := m.style
    reading := m.reading
    cached := fun topic => (congrArg (·.catalogue.find? topic) logger :).trans (cached topic)
    full := (congrArg (·.catalogue.size) logger :).trans full }

namespace Mirrors

theorem vacated (m : Mirrors x g n s) :
    Mirrors x { g with cached := [] } n (setCatalogue 0 .cleared s) where
  toSurrounds := m.toSurrounds.setCatalogue Catalogue.find?_cleared rfl
  size := m.size
  stands := m.stands

/-- A new throttle is a new instance. -/
theorem registered (m : Mirrors x g n s) {topic : Topic} (absent : g.find? topic = none) :
    Mirrors x (g.enter topic) n (registered 0 topic s) := by
  have none := (m.cached topic).trans absent
  have pushed : Surrounds x g { s with throttles := s.throttles.push { topic, logger := 0 } } :=
    m.toSurrounds.unmoved (.of_parts rfl rfl rfl rfl rfl)
  refine { pushed.setCatalogue (fun other => ?_) ?_ with size := ?_, stands := fun t i hi => ?_ }
  · have same := find?_enter g topic other
    rw [Ledger.enter] at same
    rw [same, Catalogue.find?_insert, none, m.cached, m.size]
    by_cases h : topic = other
    · rw [if_pos h, if_pos h.symm]
      rfl
    · rw [if_neg h, if_neg fun e => h e.symm]
  · rw [Catalogue.size_insert_of_none _ none, m.full]
    rfl
  · rw [size_throttles_registered, m.size, Ledger.enter]
    simp
  · rw [throttle_registered, m.size]
    by_cases new : t = g.instances.length
    · subst new
      rw [Ledger.enter, List.getElem?_concat_length] at hi
      obtain rfl := Option.some.inj hi
      rw [if_pos rfl]
      exact ⟨rfl, rfl, .cleared _, Nat.zero_le _⟩
    · have inside := (List.getElem?_eq_some_iff.mp hi).1
      have there : t < g.instances.length := by
        rw [Ledger.enter, List.length_append, List.length_singleton] at inside
        exact Nat.lt_of_le_of_ne (Nat.le_of_lt_succ inside) new
      rw [Ledger.enter, List.getElem?_append_left there] at hi
      rw [if_neg new]
      exact m.stands t i hi

end Mirrors

section Lookups

private theorem follows_overflow (f : Follows x g n s)
    (gathered : Gathered x.quota.period (s.roster 0) s) :
    ∃ s', (overflow 0).exec s = (.ok (), s') ∧ Follows x { g.settled with cached := [] } n s' ∧
      Tells [.line warning, .pass g.digests] s s' := by
  obtain ⟨s₁, s₂, warned, he₂, he⟩ := overflow_taken (l := 0) (f.calm.sink (s.logger 0).sink _ _)
  have f₁ : Follows x g n s₁ := f.steady (f.toMirrors.wrote warned) rfl warned.rosters
  have told : Tells [.line warning] s s₁ := by
    refine .of_journal warned.journal ?_ (by simp [overflowEntries])
    rw [overflowEntries, f.sink, warning_eq]
    exact .line _ .nil
  have gathered₁ : Gathered x.quota.period (s₁.roster 0) s₁ := by
    refine ⟨?_, ?_, ?_⟩
    · rw [roster, warned.rosters]
      exact gathered.distinct
    · rw [roster, warned.rosters, warned.throttles]
      exact gathered.made
    · simp only [roster, throttle, warned.rosters, warned.throttles]
      exact gathered.complete
  obtain ⟨s₄, he₄, f₂, passed⟩ := follows_flush f₁ gathered₁
  rw [f.roster] at he₂
  cases he₄.symm.trans he₂
  let s₃ := setCatalogue 0 .cleared s₂
  have m₃ : Mirrors x { g.settled with cached := [] } n (changeTally 0 Tally.countOverflow s₃) :=
    f₂.toMirrors.vacated.unmoved (.changeTally s₃ 0 _) rfl fun _ => rfl
  have counted : Tells [] s₂ (changeTally 0 Tally.countOverflow s₃) := .same rfl
  exact ⟨_, he, f₂.steady m₃ rfl rfl, (told.trans passed).trans counted⟩

private theorem follows_introduce (f : Follows x g n s) {topic : Topic}
    (absent : g.find? topic = none) :
    ∃ s', (introduce 0 topic).exec s = (.ok g.instances.length, s') ∧ Follows x (g.enter topic) n s' ∧
      Tells [] s s' := by
  obtain ⟨s', he, wrote⟩ := introduce_exec ((f.cached topic).trans absent)
  rw [f.roster, f.size] at he
  have f₁ : Follows x (g.enter topic) n (registered 0 topic s) :=
    f.steady (f.toMirrors.registered absent) rfl rfl
  have f₂ : Follows x (g.enter topic) n s' := f₁.steady (f₁.toMirrors.wrote wrote) rfl wrote.rosters
  have registering : Tells [] s (registered 0 topic s) := .same rfl
  have enrolling : Tells [] s' (enrolled 0 g.instances.length s') := .same rfl
  exact ⟨_, he, f₂.enrolled _, (registering.trans (.announced wrote)).trans enrolling⟩

/-- A lookup gives the throttle of the instance that the ledger gives. -/
theorem follows_lookup (f : Follows x g n s) (gathered : Gathered x.quota.period (s.roster 0) s)
    (topic : Topic) :
    ∃ s', (lookup 0 topic).exec s = (.ok (g.lookup topic).2.1, s') ∧
      Follows x (g.lookup topic).2.2 n s' ∧ Tells (g.lookup topic).1 s s' := by
  rw [Ledger.lookup]
  cases found : g.find? topic with
  | some i => exact ⟨s, lookup_of_some ((f.cached topic).trans found), f, .refl s⟩
  | none =>
    rw [lookup_of_none ((f.cached topic).trans found), f.capacity, f.full]
    by_cases crowded : g.capacity < g.cached.length
    · obtain ⟨s₁, he₁, f₁, told⟩ := follows_overflow f gathered
      have vacant : { g.settled with cached := [] }.find? topic = none := rfl
      obtain ⟨s₂, he₂, f₂, silent⟩ := follows_introduce f₁ vacant
      have same : { g.settled with cached := [] }.instances.length = g.instances.length :=
        List.length_map ..
      rw [same] at he₂
      simp only [crowded, if_true, exec_bind, he₁, he₂]
      exact ⟨s₂, rfl, f₂, told.trans silent⟩
    · obtain ⟨s₁, he₁, f₁, silent⟩ := follows_introduce f found
      simp only [crowded, if_false]
      exact ⟨s₁, he₁, f₁, silent⟩

end Lookups

end LogThrottle.Reference
