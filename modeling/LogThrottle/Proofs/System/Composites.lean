import LogThrottle.Proofs.System.Keeping
import LogThrottle.System.Holding
import LogThrottle.System.Lookup

/-! Passes, lookups, shutdowns and releases keep what their parts keep. -/
namespace LogThrottle.Call.Chain
variable {R : System → System → Prop} (h : Chain R)
include h

theorem resetAll {ts : List ThrottleId} (reset : ∀ t ∈ ts, Keeps R (System.resetOrReport t)) :
    Keeps R (System.resetAll ts) := by
  induction ts with
  | nil => exact h.pure ()
  | cons t ts ih =>
    exact h.bind (reset t List.mem_cons_self) fun _ => ih fun u hu => reset u (List.mem_cons_of_mem t hu)

/-- A shutdown closes its roster, flushes it and cancels its jobs, or does nothing. -/
theorem shutdown {r : RosterId} (close : ∀ s, R s (System.changeRoster r Roster.close s))
    (flush : Keeps R (System.flush r)) (cancelJobs : ∀ s, R s (System.changeRoster r Roster.cancelJobs s)) :
    Keeps R (System.shutdown r) := by
  apply h.bind h.get
  intro s
  split
  · exact h.pure ()
  · exact h.bind (keeps_modify close) fun _ => h.bind flush fun _ => keeps_modify cancelJobs

/-- A release is a flush at most, if a guard is released, then the letting go, and a shutdown at most. -/
theorem release {x : Holder} (flush : x.kind = .guard → Keeps R (System.flush x.roster))
    (letGo : ∀ s : System, R s { s with holders := s.holders.erase x })
    (shutdown : Keeps R (System.shutdown x.roster)) : Keeps R (System.release x) := by
  have rest : Keeps R (do
      modify fun s => { s with holders := s.holders.erase x }
      unless (← MonadState.get).alive x.roster do System.shutdown x.roster : Call Unit) := by
    apply h.bind (keeps_modify letGo)
    intro _
    apply h.bind h.get
    intro s
    split
    · exact h.pure ()
    · exact shutdown
  apply h.bind h.get
  intro s
  split
  · dsimp only
    split
    · rename_i guard
      exact h.bind (flush guard) fun _ => rest
    · exact rest
  · exact h.pure ()

end LogThrottle.Call.Chain

namespace LogThrottle.System
open Call
variable {R : System → System → Prop}

/-- What the parts of shutdowns and releases keep. -/
structure Closing (R : System → System → Prop) : Prop extends Chain R where
  flush : ∀ r, Keeps R (flush r)
  close : ∀ s r, R s (changeRoster r Roster.close s)
  cancelJobs : ∀ s r, R s (changeRoster r Roster.cancelJobs s)
  letGo : ∀ (s : System) h, R s { s with holders := s.holders.erase h }

/-- What the parts of lookups keep. -/
structure Searching (R : System → System → Prop) : Prop extends Chain R where
  flush : ∀ r, Keeps R (flush r)
  overflowed : ∀ s, R s (write (.notice .overflowed) s)
  warn : ∀ l k line, Keeps R (deliver (.overflow l) k line)
  enrol : ∀ r t, Keeps R (enrol r t)
  push : ∀ s topic l, R s { s with throttles := s.throttles.push { topic, logger := l } }
  setCatalogue : ∀ s l c, R s (setCatalogue l c s)
  countOverflow : ∀ s l, R s (changeTally l Tally.countOverflow s)

/-- What the parts of both keep. -/
structure Lasting (R : System → System → Prop) : Prop extends Closing R, Searching R

namespace Closing
variable (h : Closing R)
include h

theorem shutdown (r : RosterId) : Keeps R (shutdown r) :=
  h.toChain.shutdown (h.close · r) (h.flush r) (h.cancelJobs · r)

theorem release (x : Holder) : Keeps R (release x) :=
  h.toChain.release (fun _ => h.flush _) (h.letGo · x) (h.shutdown _)

end Closing

namespace Searching
variable (h : Searching R)
include h

theorem overflow (l : LoggerId) : Keeps R (overflow l) := by
  apply h.bind h.get
  intro s
  apply h.bind (keeps_modify h.overflowed)
  intro _
  apply h.bind (h.warn l _ _)
  intro _
  apply h.bind (h.flush _)
  intro _
  exact h.bind (keeps_modify fun s => h.setCatalogue s l _) fun _ => keeps_modify fun s =>
    h.countOverflow s l

theorem introduce (l : LoggerId) (topic : Topic) : Keeps R (introduce l topic) := by
  apply h.bind h.get
  intro s
  apply h.bind h.get
  intro s'
  dsimp only
  generalize (s.logger l).catalogue.insert topic s'.throttles.size = inserted
  obtain ⟨c, kept, fresh⟩ := inserted
  apply h.bind (keeps_modify fun s => h.push s topic l)
  intro _
  apply h.bind (keeps_modify fun s => h.setCatalogue s l c)
  intro _
  cases fresh with
  | false => exact h.pure kept
  | true => exact h.bind (h.enrol _ kept) fun _ => h.pure kept

theorem lookup (l : LoggerId) (topic : Topic) : Keeps R (lookup l topic) := by
  apply h.bind h.get
  intro s
  dsimp only
  split
  · exact h.pure _
  · split
    · exact h.bind (h.overflow l) fun _ => h.introduce l topic
    · exact h.introduce l topic

end Searching
end LogThrottle.System
