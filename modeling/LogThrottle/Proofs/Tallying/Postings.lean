import LogThrottle.Proofs.Limiter.Attempting
import LogThrottle.Proofs.System.Beside

/-! Postings: each delivered line belongs to a column of the tally of one logger, and each logging call to a
name of an external counter. What is said here of a system holds between two parts of an action too, so an
overflow that was warned of and is not counted yet has its place in it. -/
namespace LogThrottle

/-- What the lines of a logger are counted under. -/
inductive Tally.Column where
  | allowed | digests | overflows
  deriving DecidableEq

def Tally.column (x : Tally) : Tally.Column → UInt64
  | .allowed => x.allowed
  | .digests => x.digests
  | .overflows => x.overflows

/-- The logger and the column that a line is counted under. -/
def Entry.post? (s : System) : Entry → Option (LoggerId × Tally.Column)
  | .line (.event t) _ _ => some ((s.throttle t).logger, .allowed)
  | .line (.digest t _) _ _ => some ((s.throttle t).logger, .digests)
  | .line (.overflow l) _ _ => some (l, .overflows)
  | _ => none

namespace System

/-- Postings so far, oldest first. -/
def posts (s : System) : List (LoggerId × Tally.Column) := s.journal.toList.filterMap (Entry.post? s)

/-- A line is counted, and went to the sink of the logger that it is counted for. -/
def Addressed (s : System) : Entry → Prop
  | .line (.event t) k _ | .line (.digest t _) k _ =>
    t < s.throttles.size ∧ (s.logger (s.throttle t).logger).sink = k
  | .line (.overflow l) k _ => l < s.loggers.size ∧ (s.logger l).sink = k
  | .line .caller .. | .line (.failure _) .. => False
  | .notice _ => True

/-- Events counted since the last resets, of all throttles together. -/
def load (s : System) : Nat := ∑ t ∈ Finset.range s.throttles.size, (s.throttle t).limiter.count.toNat

/-- What a tally lacks of an overflow that was warned of. -/
def debt (owed : Option LoggerId) (l : LoggerId) (column : Tally.Column) : UInt64 :=
  if owed = some l ∧ column = .overflows then 1 else 0

/-- Parts refer to parts that exist, and nothing outside fails. -/
structure Wired (s : System) : Prop where
  calm : Calm s
  owner : ∀ t < s.throttles.size, (s.throttle t).logger < s.loggers.size
  counter : ∀ l < s.loggers.size, ∀ c ∈ (s.logger l).counter, c < s.counters.size

/-- Tallies agree with postings, up to one overflow that may be owed. Every digest had its events: there are
no more digests, and no more events since the last resets, than `e` together. -/
structure Posted (owed : Option LoggerId) (e w : Nat) (s : System) : Prop where
  addressed : ∀ x ∈ s.journal.toList, s.Addressed x
  tally : ∀ l column, UInt64.ofNat (s.posts.count (l, column)) =
    (s.logger l).tally.column column + debt owed l column
  digests : s.posts.countP (·.2 = .digests) + s.load ≤ e
  overflows : s.posts.countP (·.2 = .overflows) ≤ w

/-- Tallies and external counters agree with the calls made, each by its logger and the name that its severity
is counted under. -/
structure Called (calls : List (LoggerId × Severity)) (s : System) : Prop where
  caller : ∀ x ∈ calls, x.1 < s.loggers.size
  decided : ∀ l, ∃ withheld : Nat, (s.logger l).tally.suppressed = .ofNat withheld ∧
    s.posts.count (l, .allowed) + withheld = calls.countP (·.1 = l)
  counted : ∀ c name, (s.counter c).count name =
    calls.countP fun x => (s.logger x.1).counter = some c ∧ x.2.counterName = name

/-- The books of a run of `calls`, with at most `e` events and `w` overflows. -/
structure Kept (owed : Option LoggerId) (calls : List (LoggerId × Severity)) (e w : Nat) (s : System) : Prop
    extends Wired s, Posted owed e w s, Called calls s

/-- What was there is there, with its settings; new loggers and throttles may have been made. -/
structure Extends (s s' : System) : Prop where
  throttles : s.throttles.size ≤ s'.throttles.size
  owner : ∀ t < s.throttles.size, (s'.throttle t).logger = (s.throttle t).logger
  loggers : s.loggers.size ≤ s'.loggers.size
  settings : ∀ l < s.loggers.size, (s'.logger l).settings = (s.logger l).settings
  counters : s.counters.size ≤ s'.counters.size

/-- Besides, nothing was counted, and notices were written at most. -/
structure Idles (s s' : System) : Prop extends Extends s s' where
  limiter : ∀ t, (s'.throttle t).limiter = (s.throttle t).limiter
  tally : ∀ l, (s'.logger l).tally = (s.logger l).tally
  counts : ∀ c, (s'.counter c).counts = (s.counter c).counts
  notices : ∃ ns : List Notice, s'.journal.toList = s.journal.toList ++ ns.map .notice

variable {owed : Option LoggerId} {calls : List (LoggerId × Severity)} {e w : Nat} {s s' s'' : System}

namespace Extends

theorem refl (s : System) : Extends s s :=
  ⟨Nat.le_refl _, fun _ _ => rfl, Nat.le_refl _, fun _ _ => rfl, Nat.le_refl _⟩

theorem trans (h : Extends s s') (h' : Extends s' s'') : Extends s s'' where
  throttles := Nat.le_trans h.throttles h'.throttles
  owner t made := (h'.owner t (Nat.lt_of_lt_of_le made h.throttles)).trans (h.owner t made)
  loggers := Nat.le_trans h.loggers h'.loggers
  settings l made := (h'.settings l (Nat.lt_of_lt_of_le made h.loggers)).trans (h.settings l made)
  counters := Nat.le_trans h.counters h'.counters

theorem of_beside (h : Beside s s') (throttles : s'.throttles.size = s.throttles.size)
    (owner : ∀ t, (s'.throttle t).logger = (s.throttle t).logger) : Extends s s' where
  throttles := Nat.le_of_eq throttles.symm
  owner t _ := owner t
  loggers := Nat.le_of_eq h.loggers.symm
  settings l _ := h.logger l
  counters := Nat.le_of_eq h.counters.symm

theorem sink_eq (h : Extends s s') {l : LoggerId} (made : l < s.loggers.size) :
    (s'.logger l).sink = (s.logger l).sink := (congrArg Logger.sink (h.settings l made) :)

theorem counter_eq (h : Extends s s') {l : LoggerId} (made : l < s.loggers.size) :
    (s'.logger l).counter = (s.logger l).counter := (congrArg Logger.counter (h.settings l made) :)

/-- What was counted stays counted under the same logger, with the same sink. -/
theorem post?_eq (h : Extends s s') (wired : Wired s) {x : Entry} (proper : s.Addressed x) :
    s'.Addressed x ∧ x.post? s' = x.post? s := by
  cases x with
  | notice => exact ⟨trivial, rfl⟩
  | line o k line =>
    cases o with
    | caller | failure => exact proper.elim
    | event t | digest t =>
      obtain ⟨made, sent⟩ := proper
      refine ⟨⟨Nat.lt_of_lt_of_le made h.throttles, ?_⟩, ?_⟩
      · rw [h.owner t made, h.sink_eq (wired.owner t made), sent]
      · simp only [Entry.post?, h.owner t made]
    | overflow l =>
      obtain ⟨made, sent⟩ := proper
      exact ⟨⟨Nat.lt_of_lt_of_le made h.loggers, (h.sink_eq made).trans sent⟩, rfl⟩

theorem addressed (h : Extends s s') (wired : Wired s) {es : List Entry}
    (before : ∀ x ∈ s.journal.toList, s.Addressed x) (new : ∀ x ∈ es, s'.Addressed x)
    (journal : s'.journal.toList = s.journal.toList ++ es) : ∀ x ∈ s'.journal.toList, s'.Addressed x := by
  intro x hx
  rw [journal] at hx
  exact (List.mem_append.mp hx).elim (fun old => (h.post?_eq wired (before x old)).1) (new x)

theorem posts (h : Extends s s') (wired : Wired s) {es : List Entry}
    (before : ∀ x ∈ s.journal.toList, s.Addressed x)
    (journal : s'.journal.toList = s.journal.toList ++ es) :
    s'.posts = s.posts ++ es.filterMap (Entry.post? s') := by
  have same : s.journal.toList.filterMap (Entry.post? s') = s.journal.toList.filterMap (Entry.post? s) :=
    List.filterMap_congr fun x old => (h.post?_eq wired (before x old)).2
  rw [System.posts, journal, List.filterMap_append, same, System.posts]

end Extends

theorem load_of_limiter (size : s.throttles.size ≤ s'.throttles.size)
    (limiter : ∀ t, (s'.throttle t).limiter = (s.throttle t).limiter) : s'.load = s.load := by
  have grown : Finset.range s.throttles.size ⊆ Finset.range s'.throttles.size :=
    Finset.range_subset_range.mpr size
  simp only [load, limiter]
  refine (Finset.sum_subset grown fun t _ new => ?_).symm
  rw [throttle_of_size_le (Nat.not_lt.mp fun old => new (Finset.mem_range.mpr old))]
  rfl

/-- Where one limiter alone changes, the load changes by its count. -/
theorem load_of_others {t : ThrottleId} (size : s'.throttles.size = s.throttles.size)
    (made : t < s.throttles.size)
    (others : ∀ u, u ≠ t → (s'.throttle u).limiter = (s.throttle u).limiter) :
    s'.load + (s.throttle t).limiter.count.toNat = s.load + (s'.throttle t).limiter.count.toNat := by
  have here := Finset.mem_range.mpr made
  have rest : ∑ u ∈ (Finset.range s.throttles.size).erase t, (s'.throttle u).limiter.count.toNat =
      ∑ u ∈ (Finset.range s.throttles.size).erase t, (s.throttle u).limiter.count.toNat :=
    Finset.sum_congr rfl fun u hu => by rw [others u (Finset.mem_erase.mp hu).1]
  rw [load, size, load, ← Finset.add_sum_erase _ _ here, ← Finset.add_sum_erase _ _ here, rest]
  omega

namespace Idles

theorem refl (s : System) : Idles s s :=
  { Extends.refl s with
    limiter := fun _ => rfl, tally := fun _ => rfl, counts := fun _ => rfl
    notices := ⟨[], (List.append_nil _).symm⟩ }

theorem trans (h : Idles s s') (h' : Idles s' s'') : Idles s s'' where
  toExtends := h.toExtends.trans h'.toExtends
  limiter t := (h'.limiter t).trans (h.limiter t)
  tally l := (h'.tally l).trans (h.tally l)
  counts c := (h'.counts c).trans (h.counts c)
  notices := by
    obtain ⟨ns, journal⟩ := h.notices
    obtain ⟨ns', journal'⟩ := h'.notices
    exact ⟨ns ++ ns', by rw [journal', journal, List.map_append, List.append_assoc]⟩

theorem of_same (throttles : s'.throttles = s.throttles) (loggers : s'.loggers = s.loggers)
    (counters : s'.counters = s.counters) (journal : s'.journal = s.journal) : Idles s s' where
  throttles := Nat.le_of_eq (congrArg Array.size throttles.symm)
  owner t _ := by rw [throttle, throttles, throttle]
  loggers := Nat.le_of_eq (congrArg Array.size loggers.symm)
  settings l _ := by rw [logger, loggers, logger]
  counters := Nat.le_of_eq (congrArg Array.size counters.symm)
  limiter t := by rw [throttle, throttles, throttle]
  tally l := by rw [logger, loggers, logger]
  counts c := by rw [counter, counters, counter]
  notices := ⟨[], by rw [journal, List.map_nil, List.append_nil]⟩

end Idles

/-- New lines are posted, and the tallies follow. -/
theorem Posted.post {owed' : Option LoggerId} {e' w' : Nat} {es : List Entry}
    {ps : List (LoggerId × Tally.Column)} (h : Posted owed e w s) (wired : Wired s) (grown : Extends s s')
    (journal : s'.journal.toList = s.journal.toList ++ es) (new : ∀ x ∈ es, s'.Addressed x)
    (posted : es.filterMap (Entry.post? s') = ps)
    (tally : ∀ l column, (s'.logger l).tally.column column + debt owed' l column =
      (s.logger l).tally.column column + debt owed l column + .ofNat (ps.count (l, column)))
    (digests : ps.countP (·.2 = .digests) + s'.load + e ≤ e' + s.load)
    (overflows : w + ps.countP (·.2 = .overflows) ≤ w') : Posted owed' e' w' s' := by
  have posts : s'.posts = s.posts ++ ps := posted ▸ grown.posts wired h.addressed journal
  refine ⟨grown.addressed wired h.addressed new journal, fun l column => ?_, ?_, ?_⟩
  · rw [posts, List.count_append, UInt64.ofNat_add, h.tally, tally]
  · have before := h.digests
    rw [posts, List.countP_append]
    omega
  · have before := h.overflows
    rw [posts, List.countP_append]
    omega

/-- Calls were counted by the counters that their loggers have still. -/
theorem Called.counted_of_extends (h : Called calls s) (grown : Extends s s') (c : CounterId) (name : String) :
    (s.counter c).count name =
      calls.countP fun x => (s'.logger x.1).counter = some c ∧ x.2.counterName = name := by
  rw [h.counted]
  refine List.countP_congr fun x hx => ?_
  rw [grown.counter_eq (h.caller x hx)]

/-- No call was made, and no event passed. -/
theorem Called.same (h : Called calls s) (grown : Extends s s')
    (posts : ∀ l, s'.posts.count (l, .allowed) = s.posts.count (l, .allowed))
    (suppressed : ∀ l, (s'.logger l).tally.suppressed = (s.logger l).tally.suppressed)
    (counts : ∀ c, (s'.counter c).counts = (s.counter c).counts) : Called calls s' where
  caller x hx := Nat.lt_of_lt_of_le (h.caller x hx) grown.loggers
  decided l := by
    rw [posts, suppressed]
    exact h.decided l
  counted c name := by
    rw [Counter.count, counts, ← Counter.count]
    exact h.counted_of_extends grown c name

/-- The books stay as they are, if what was made since is wired. -/
theorem Kept.idles (h : Kept owed calls e w s) (idles : Idles s s') (wired : Wired s') :
    Kept owed calls e w s' := by
  obtain ⟨ns, journal⟩ := idles.notices
  have none : (ns.map Entry.notice).filterMap (Entry.post? s') = [] := by
    rw [List.filterMap_map]
    exact List.filterMap_eq_nil_iff.mpr fun _ _ => rfl
  have posts := idles.posts h.toWired h.addressed journal
  rw [none, List.append_nil] at posts
  refine ⟨wired, h.toPosted.post h.toWired idles.toExtends journal ?_ none ?_ ?_ (Nat.le_refl w),
    h.toCalled.same idles.toExtends ?_ ?_ idles.counts⟩
  · intro x hx
    obtain ⟨n, _, rfl⟩ := List.mem_map.mp hx
    trivial
  · intro l column
    rw [idles.tally, List.count_nil]
    exact (UInt64.add_zero _).symm
  · rw [load_of_limiter idles.throttles idles.limiter, List.countP_nil]
    omega
  · exact fun l => by rw [posts]
  · exact fun l => by rw [idles.tally]

/-- A change of neither loggers nor throttles' owners leaves everything wired. -/
theorem Wired.extends (h : Wired s) (grown : Extends s s') (calm : Calm s')
    (throttles : s'.throttles.size = s.throttles.size) (loggers : s'.loggers.size = s.loggers.size) :
    Wired s' where
  calm := calm
  owner t made := by
    rw [throttles] at made
    rw [grown.owner t made, loggers]
    exact h.owner t made
  counter l made c wired := by
    rw [loggers] at made
    rw [grown.counter_eq made] at wired
    exact Nat.lt_of_lt_of_le (h.counter l made c wired) grown.counters

end System
end LogThrottle
