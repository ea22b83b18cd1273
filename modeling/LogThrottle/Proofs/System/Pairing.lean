import LogThrottle.Proofs.System.Executions
import LogThrottle.System.Holding

/-! Two computations side by side. They go together where they give the same answer and leave related
systems; where only one of them moves, the systems may still stay related. -/
namespace LogThrottle.Call
variable {α β γ : Type} {R : System → System → Prop}

/-- From two systems, two computations give the same answer, a fault included, and leave related systems. -/
def Together (R : System → System → Prop) (c d : Call α) (s s' : System) : Prop :=
  (c.exec s).1 = (d.exec s').1 ∧ R (c.exec s).2 (d.exec s').2

/-- Systems that are related stay so when the first of them alone runs a computation. -/
def Aside (R : System → System → Prop) (c : Call α) : Prop := ∀ s s', R s s' → R (c.exec s).2 s'

theorem together_get_bind {k m : System → Call α} {s s' : System} :
    Together R (get >>= k) (get >>= m) s s' ↔ Together R (k s) (m s') s s' := Iff.rfl

theorem together_modify_bind {f g : System → System} {k m : Unit → Call α} {s s' : System} :
    Together R (modify f >>= k) (modify g >>= m) s s' ↔ Together R (k ()) (m ()) (f s) (g s') := Iff.rfl

theorem Together.bind {c d : Call α} {k m : α → Call β} {s s' : System} (h : Together R c d s s')
    (next : ∀ {a s₁ s₁'}, R s₁ s₁' → Together R (k a) (m a) s₁ s₁') :
    Together R (c >>= k) (d >>= m) s s' := by
  obtain ⟨same, related⟩ := h
  rw [Together, exec_bind, exec_bind]
  revert same related
  rcases c.exec s with ⟨_ | a, s₁⟩ <;> rcases d.exec s' with ⟨_ | b, s₁'⟩
  · intro same related
    cases same
    exact ⟨rfl, related⟩
  · exact fun same => nomatch same
  · exact fun same => nomatch same
  · intro same related
    cases same
    exact next related

/-- The systems are related after two computations that go together up to a point, whatever happens on
either side from there on. -/
theorem Together.bind_apart {c d : Call α} {k : α → Call β} {m : α → Call γ} {s s' : System}
    (h : Together R c d s s')
    (next : ∀ {a s₁ s₁'}, R s₁ s₁' → R ((k a).exec s₁).2 ((m a).exec s₁').2) :
    R ((c >>= k).exec s).2 ((d >>= m).exec s').2 := by
  obtain ⟨same, related⟩ := h
  rw [exec_bind, exec_bind]
  revert same related
  rcases c.exec s with ⟨_ | a, s₁⟩ <;> rcases d.exec s' with ⟨_ | b, s₁'⟩
  · exact fun _ related => related
  · exact fun same => nomatch same
  · exact fun same => nomatch same
  · intro same related
    cases same
    exact next related

theorem aside_pure (a : α) : Aside R (pure a) := fun _ _ related => related

theorem aside_ofExcept (e : Except Fault α) : Aside R (ofExcept e) := by
  intro s s' related
  rwa [exec_ofExcept]

theorem Aside.bind {c : Call α} {k : α → Call β} (hc : Aside R c) (hk : ∀ a, Aside R (k a)) :
    Aside R (c >>= k) := by
  intro s s' related
  have first := hc s s' related
  rw [exec_bind]
  revert first
  rcases c.exec s with ⟨_ | a, s₁⟩
  · exact id
  · exact fun first => hk a s₁ s' first

theorem aside_get : Aside R get := fun _ _ related => related

/-- Where relatedness is symmetric, either side may fail, and then go on alone from there. -/
theorem Aside.recovers (symm : ∀ {s s'}, R s s' → R s' s) {c : Call α} {d : Call β}
    {handle : Fault → Call α} {handle' : Fault → Call β} (hc : ∀ f, Aside R (handle f))
    (hd : ∀ f, Aside R (handle' f)) {s s' : System} (related : R (c.exec s).2 (d.exec s').2) :
    R ((tryCatch c handle).exec s).2 ((tryCatch d handle').exec s').2 := by
  rw [exec_tryCatch, exec_tryCatch]
  revert related
  rcases c.exec s with ⟨f | _, s₁⟩ <;> rcases d.exec s' with ⟨g | _, s₁'⟩
  · exact fun related => symm (hd g _ _ (symm (hc f _ _ related)))
  · exact fun related => hc f _ _ related
  · exact fun related => symm (hd g _ _ (symm related))
  · exact id

theorem Aside.tryCatch {c : Call α} {handle : Fault → Call α} (hc : Aside R c)
    (hh : ∀ f, Aside R (handle f)) : Aside R (tryCatch c handle) := by
  intro s s' related
  have first := hc s s' related
  rw [exec_tryCatch]
  revert first
  rcases c.exec s with ⟨f | _, s₁⟩
  · exact fun first => hh f s₁ s' first
  · exact id

/-- Where relatedness is symmetric, either side may move. -/
theorem Aside.both (symm : ∀ {s s'}, R s s' → R s' s) {c : Call α} {d : Call β} (hc : Aside R c)
    (hd : Aside R d) {s s' : System} (related : R s s') : R (c.exec s).2 (d.exec s').2 :=
  symm (hd _ _ (symm (hc _ _ related)))

end LogThrottle.Call

namespace LogThrottle.System
open Call

/-- What the parts of a shutdown and of a release of one roster keep when they happen in two systems. -/
structure ClosingBoth (r : RosterId) (R : System → System → Prop) : Prop where
  holders : ∀ {s s'}, R s s' → s'.holders = s.holders
  closed : ∀ {s s'}, R s s' → (s'.roster r).closed = (s.roster r).closed
  flush : ∀ {s s'}, R s s' → R ((flush r).exec s).2 ((flush r).exec s').2
  close : ∀ {s s'}, R s s' → R (changeRoster r Roster.close s) (changeRoster r Roster.close s')
  cancelJobs : ∀ {s s'}, R s s' → R (changeRoster r Roster.cancelJobs s) (changeRoster r Roster.cancelJobs s')
  letGo : ∀ {s s' : System} h, R s s' →
    R { s with holders := s.holders.erase h } { s' with holders := s'.holders.erase h }

namespace ClosingBoth
variable {r : RosterId} {R : System → System → Prop} {s s' : System}

/-- Neither flush fails. -/
theorem together_flush (h : ClosingBoth r R) (related : R s s') :
    Together R (System.flush r) (System.flush r) s s' := by
  refine ⟨?_, h.flush related⟩
  obtain ⟨s₁, he⟩ := resetAll_ok (s.roster r).members (drained r s)
  obtain ⟨s₁', he'⟩ := resetAll_ok (s'.roster r).members (drained r s')
  rw [flush_exec, flush_exec, he, he']

theorem shutdown (h : ClosingBoth r R) (related : R s s') : Together R (shutdown r) (shutdown r) s s' := by
  simp only [System.shutdown, together_get_bind, h.closed related]
  split
  · exact ⟨rfl, related⟩
  · rw [together_modify_bind]
    refine (h.together_flush (h.close related)).bind fun flushed => ?_
    exact ⟨rfl, h.cancelJobs flushed⟩

theorem release {x : Holder} (h : ClosingBoth x.roster R) (related : R s s') :
    Together R (release x) (release x) s s' := by
  have rest {s s' : System} (related : R s s') : Together R
      (do modify fun s => { s with holders := s.holders.erase x }
          unless (← get).alive x.roster do System.shutdown x.roster : Call Unit)
      (do modify fun s => { s with holders := s.holders.erase x }
          unless (← get).alive x.roster do System.shutdown x.roster) s s' := by
    have released := h.letGo x related
    have alike : System.alive { s' with holders := s'.holders.erase x } x.roster =
        System.alive { s with holders := s.holders.erase x } x.roster := by
      rw [alive, alive, h.holders related]
    simp only [together_modify_bind, together_get_bind, alike]
    split
    · exact ⟨rfl, released⟩
    · exact h.shutdown released
  simp only [System.release, together_get_bind, h.holders related]
  split
  · split
    · exact (h.together_flush related).bind rest
    · exact rest related
  · exact ⟨rfl, related⟩

end ClosingBoth
end LogThrottle.System
