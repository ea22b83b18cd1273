import LogThrottle.Proofs.System.Beside
import LogThrottle.Proofs.System.Faultless
import LogThrottle.Proofs.Windows.Giving

/-! Systems in which nothing fails and no catalogue overflows. They only grow: throttles stay where they are
listed, a new one is listed under its own key, and nothing is written about throttles that do not exist. -/
namespace LogThrottle

/-- A logger and one of its topics. -/
abbrev Key := LoggerId × Topic

/-- The line of an event or a digest of a throttle, with the sink that took it. -/
def Entry.about? (t : ThrottleId) : Entry → Option (SinkId × Line)
  | .line (.event u) k x | .line (.digest u _) k x => if u = t then some (k, x) else none
  | _ => none

namespace System
open Call

def key (s : System) (t : ThrottleId) : Key := ((s.throttle t).logger, (s.throttle t).topic)

/-- The throttle in the catalogue under a key. -/
def listed? (s : System) (p : Key) : Option ThrottleId := (s.logger p.1).catalogue.find? p.2

/-- The limiter of a key, if it has a throttle. -/
def limiter? (s : System) (p : Key) : Option Limiter := (s.listed? p).map fun t => (s.throttle t).limiter

/-- All that was delivered about a throttle. -/
def linesOf (s : System) (t : ThrottleId) : List (SinkId × Line) :=
  s.journal.toList.filterMap (Entry.about? t)

/-- The second system is the first with throttles more, all of them under given keys, and with lines more,
none of them about throttles that do not exist. -/
structure Gains (P : Key → Prop) (s s' : System) : Prop where
  size : s.throttles.size ≤ s'.throttles.size
  key : ∀ t < s.throttles.size, s'.key t = s.key t
  listed : ∀ p t, s.listed? p = some t → s'.listed? p = some t
  fresh : ∀ t, s.throttles.size ≤ t → t < s'.throttles.size → P (s'.key t) ∧ s'.listed? (s'.key t) = some t
  lines : ∀ t, s'.throttles.size ≤ t → s'.linesOf t = s.linesOf t

/-- Nothing fails, and nothing is gained but throttles under given keys. -/
def Grows (P : Key → Prop) (s s' : System) : Prop := Calm s → Calm s' ∧ Gains P s s'

end System

/-- A topic that is asked for is in the catalogue, or there is room for it. -/
def Action.Roomy (s : System) (a : Action) : Prop :=
  ∀ p ∈ a.sought?, s.listed? p = none → (s.logger p.1).catalogue.size ≤ (s.logger p.1).capacity

instance (s : System) (a : Action) : Decidable (a.Roomy s) :=
  inferInstanceAs (Decidable (∀ p ∈ a.sought?, s.listed? p = none →
    (s.logger p.1).catalogue.size ≤ (s.logger p.1).capacity))

/-- An action for which everything is there, in which nothing fails, and which makes no catalogue overflow. -/
def Action.Smooth (s : System) (a : Action) : Prop := a.Ready s ∧ a.Calm s ∧ a.Roomy s

namespace System
open Call
variable {P : Key → Prop} {es : List Entry} {s s' s'' : System}

theorem linesOf_append (journal : s'.journal.toList = s.journal.toList ++ es) (t : ThrottleId) :
    s'.linesOf t = s.linesOf t ++ es.filterMap (Entry.about? t) := by
  rw [linesOf, journal, List.filterMap_append, linesOf]

theorem linesOf_drained (r : RosterId) (s : System) (t : ThrottleId) : (drained r s).linesOf t = s.linesOf t := by
  have noted : (drained r s).journal.toList = s.journal.toList ++ [.notice .flushing] := Array.toList_push
  rw [linesOf_append noted]
  exact List.append_nil _

/-- What is listed under a key exists and has that key. -/
theorem Sound.key_of_listed (h : Sound s) {p : Key} {t : ThrottleId} (found : s.listed? p = some t) :
    t < s.throttles.size ∧ s.key t = p := by
  obtain ⟨made, owner, topic⟩ := h.catalogue p.1 p.2 t found
  exact ⟨made, Prod.ext owner topic⟩

namespace Gains

theorem refl (P : Key → Prop) (s : System) : Gains P s s where
  size := Nat.le_refl _
  key _ _ := rfl
  listed _ _ := id
  fresh _ new made := absurd made (Nat.not_lt.mpr new)
  lines _ _ := rfl

theorem trans (h : Gains P s s') (h' : Gains P s' s'') : Gains P s s'' where
  size := Nat.le_trans h.size h'.size
  key t made := (h'.key t (Nat.lt_of_lt_of_le made h.size)).trans (h.key t made)
  listed p t found := h'.listed p t (h.listed p t found)
  fresh t new made := by
    by_cases early : t < s'.throttles.size
    · obtain ⟨given, found⟩ := h.fresh t new early
      rw [h'.key t early]
      exact ⟨given, h'.listed _ t found⟩
    · exact h'.fresh t (Nat.not_lt.mp early) made
  lines t unmade := (h'.lines t unmade).trans (h.lines t (Nat.le_trans h'.size unmade))

/-- Throttles keep their keys and their places. -/
theorem of_same (size : s'.throttles.size = s.throttles.size) (key : ∀ t, s'.key t = s.key t)
    (listed : ∀ p, s'.listed? p = s.listed? p)
    (lines : ∀ t, s.throttles.size ≤ t → s'.linesOf t = s.linesOf t) : Gains P s s' where
  size := Nat.le_of_eq size.symm
  key t _ := key t
  listed p _ found := (listed p).trans found
  fresh _ new made := absurd made (Nat.not_lt.mpr (size ▸ new))
  lines t unmade := lines t (size ▸ unmade)

/-- Rosters, holders, sinks, stopwatches and counters may be any. -/
theorem outside (throttles : s'.throttles = s.throttles) (loggers : s'.loggers = s.loggers)
    (journal : s'.journal = s.journal) : Gains P s s' := by
  refine .of_same (congrArg Array.size throttles) (fun t => ?_) (fun p => ?_) fun t _ => ?_
  · rw [System.key, throttle, throttles, ← throttle, ← System.key]
  · rw [listed?, logger, loggers, ← logger, ← listed?]
  · rw [linesOf, journal, linesOf]

end Gains

section Listed
variable {s s' : System} (p : Key)

theorem Steady.listed_eq (h : Steady s s') : s'.listed? p = s.listed? p := by
  rw [listed?, h.logger_catalogue, listed?]

theorem Wrote.listed_eq {es : List Entry} (h : Wrote es s s') : s'.listed? p = s.listed? p := by
  rw [listed?, logger, h.loggers, ← logger, ← listed?]

theorem Joined.listed_eq {t : ThrottleId} (h : Joined t s s') : s'.listed? p = s.listed? p := by
  rw [listed?, logger, h.loggers, ← logger, ← listed?]

theorem listed?_ticked (s : System) (t : ThrottleId) (severity : Severity) :
    (ticked t severity s).listed? p = s.listed? p := by
  rw [listed?, logger_ticked]
  split <;> rfl

end Listed

section Changes
theorem Wrote.gains (P : Key → Prop) (wrote : Wrote es s s')
    (quiet : ∀ t, s.throttles.size ≤ t → es.filterMap (Entry.about? t) = []) : Gains P s s' := by
  refine .of_same (congrArg Array.size wrote.throttles) (fun t => ?_) wrote.listed_eq fun t unmade => ?_
  · rw [key, throttle, wrote.throttles, ← throttle, ← key]
  · rw [linesOf_append wrote.journal, quiet t unmade, List.append_nil]

variable (P) (s)

theorem gains_setLimiter (t : ThrottleId) (x : Limiter) : Gains P s (setLimiter t x s) := by
  refine .of_same (size_throttles_setLimiter ..) (fun u => ?_) (fun _ => rfl) fun _ _ => rfl
  rw [key, throttle_setLimiter]
  split <;> rfl

theorem gains_changeTally (l : LoggerId) (f : Tally → Tally) : Gains P s (changeTally l f s) :=
  .of_same rfl (fun _ => rfl) (steady_changeTally s l f).listed_eq fun _ _ => rfl

theorem gains_enrolled (r : RosterId) (t : ThrottleId) : Gains P s (enrolled r t s) := by
  refine .of_same (size_throttles_enrolled ..) (fun u => ?_) (fun _ => rfl) fun _ _ => rfl
  rw [key, throttle_enrolled]
  split <;> rfl

theorem gains_drained (r : RosterId) : Gains P s (drained r s) :=
  .of_same rfl (fun _ => rfl) (fun _ => rfl) fun t _ => linesOf_drained r s t

theorem gains_ticked (t : ThrottleId) (severity : Severity) : Gains P s (ticked t severity s) := by
  refine .of_same (size_throttles_ticked severity) (fun u => ?_) (listed?_ticked · s t severity) fun u _ => ?_
  · rw [key, throttle_ticked]
    split <;> rfl
  · rw [linesOf, journal_ticked, linesOf]

end Changes

theorem listed?_registered (s : System) {p q : Key} (made : p.1 < s.loggers.size)
    (absent : s.listed? p = none) :
    (registered p.1 p.2 s).listed? q = if q = p then some s.throttles.size else s.listed? q := by
  obtain ⟨l, topic⟩ := p
  obtain ⟨i, other⟩ := q
  simp only [listed?] at absent ⊢
  rw [logger_registered]
  by_cases own : l = i
  · subst own
    rw [if_pos ⟨rfl, made⟩, Catalogue.find?_insert, absent]
    by_cases same : other = topic
    · simp [same]
    · simp [same]
  · have away : ¬i = l := fun e => own e.symm
    simp [own, away]

theorem key_registered (s : System) (p : Key) (t : ThrottleId) :
    (registered p.1 p.2 s).key t = if t = s.throttles.size then p else s.key t := by
  rw [key, throttle_registered]
  split <;> rfl

theorem gains_registered {p : Key} (made : p.1 < s.loggers.size) (absent : s.listed? p = none) (given : P p) :
    Gains P s (registered p.1 p.2 s) where
  size := by
    rw [size_throttles_registered]
    exact Nat.le_succ _
  key t old := by rw [key_registered, if_neg (Nat.ne_of_lt old)]
  listed q t found := by
    rw [listed?_registered s made absent]
    split
    · rename_i same
      rw [same, absent] at found
      cases found
    · exact found
  fresh t new made' := by
    rw [size_throttles_registered] at made'
    obtain rfl : t = s.throttles.size := Nat.le_antisymm (Nat.le_of_lt_succ made') new
    rw [key_registered, if_pos rfl, listed?_registered s made absent, if_pos rfl]
    exact ⟨given, rfl⟩
  lines t _ := rfl

section Entries

theorem about?_announcement (r : RosterId) (t u : ThrottleId) (s : System) :
    (announcement r t s).filterMap (Entry.about? u) = [] := by
  unfold announcement
  split <;> rfl

theorem about?_digestEntries (s : System) (t u : ThrottleId) :
    (s.digestEntries t).filterMap (Entry.about? u) =
      if t = u then (s.digest? t).toList.map fun d =>
        ((s.logger (s.throttle t).logger).sink, ⟨(s.throttle t).topic.voice, d.text⟩) else [] := by
  rw [digestEntries]
  cases s.digest? t with
  | none => simp
  | some d => by_cases own : t = u <;> simp [Entry.about?, own]

theorem about?_eventEntries (s : System) (t u : ThrottleId) (line : Line) :
    (s.eventEntries t line).filterMap (Entry.about? u) =
      if t = u ∧ (s.verdict t).1 = .allow then [((s.logger (s.throttle t).logger).sink, line)] else [] := by
  rw [eventEntries]
  cases (s.verdict t).1 with
  | allow => by_cases own : t = u <;> simp [Entry.about?, own]
  | suppress => simp

end Entries

theorem grows_refl (P : Key → Prop) (s : System) : Grows P s s := fun calm => ⟨calm, .refl P s⟩

theorem grows_trans (h : Grows P s s') (h' : Grows P s' s'') : Grows P s s'' := by
  intro calm
  obtain ⟨calm', gains⟩ := h calm
  obtain ⟨calm'', gains'⟩ := h' calm'
  exact ⟨calm'', gains.trans gains'⟩

private theorem grows_wrote (wrote : Wrote es s s')
    (quiet : ∀ t, s.throttles.size ≤ t → es.filterMap (Entry.about? t) = []) : Grows P s s' :=
  fun calm => ⟨wrote.calm calm, wrote.gains P quiet⟩

private theorem grows_resetOrReport (t : ThrottleId) : Keeps (Grows P) (resetOrReport t) := by
  intro s calm
  obtain ⟨s', he, told⟩ := resetOrReport_serene calm.serene t
  rw [he]
  refine ⟨told.calm calm, .of_same told.throttles (fun u => ?_) (fun p => ?_) fun u unmade => ?_⟩
  · rw [key, told.logger_eq, told.topic_eq, key]
  · have same : (s'.logger p.1).catalogue = (s.logger p.1).catalogue :=
      (congrArg Logger.catalogue (told.logger p.1) :)
    rw [listed?, same, listed?]
  · rw [linesOf_append told.journal, about?_digestEntries]
    split
    · rename_i own
      rw [digest?_of_cleared (by rw [own, throttle_of_size_le unmade]; rfl)]
      exact List.append_nil _
    · exact List.append_nil _

theorem grows_resetAll (ts : List ThrottleId) : Keeps (Grows P) (resetAll ts) :=
  Chain.resetAll ⟨grows_refl P, grows_trans⟩ fun t _ => grows_resetOrReport t

theorem grows_enrol (r : RosterId) (t : ThrottleId) : Keeps (Grows P) (enrol r t) := by
  intro s
  obtain ⟨s', he, wrote⟩ := enrol_exec r t s
  rw [he]
  refine grows_trans (grows_wrote wrote fun u _ => about?_announcement r t u s) fun calm => ?_
  exact ⟨⟨calm.sink, calm.stopwatch, calm.counter⟩, gains_enrolled P s' r t⟩

private theorem grows_join (t : ThrottleId) : Keeps (Grows P) (join t) := by
  intro s
  rw [join_exec]
  split
  · exact grows_enrol _ t s
  · exact grows_refl P s

theorem closing_grows (P : Key → Prop) : Closing (Grows P) where
  refl := grows_refl P
  trans := grows_trans
  flush r s := by
    rw [flush_exec]
    refine grows_trans (fun calm => ?_) (grows_resetAll _ (drained r s))
    exact ⟨⟨calm.sink, calm.stopwatch, calm.counter⟩, gains_drained P s r⟩
  close _ _ calm := ⟨⟨calm.sink, calm.stopwatch, calm.counter⟩, .outside rfl rfl rfl⟩
  cancelJobs _ _ calm := ⟨⟨calm.sink, calm.stopwatch, calm.counter⟩, .outside rfl rfl rfl⟩
  letGo _ _ calm := ⟨⟨calm.sink, calm.stopwatch, calm.counter⟩, .outside rfl rfl rfl⟩

theorem grows_logThrough {t : ThrottleId} (made : t < s.throttles.size) (severity : Severity)
    {args : List Argument} (shown : Painless args) :
    Grows P s ((logThrough t severity args).exec s).2 := by
  intro calm
  obtain ⟨s₁, s', message, he, joined, done, _, wrote⟩ := logThrough_calm calm t severity shown
  have first := grows_join (P := P) t s calm
  rw [he] at first
  obtain ⟨calm₁, gains⟩ := first
  rw [done]
  have ticks := gains_ticked P s₁ t severity
  refine ⟨wrote.calm (calm_ticked severity calm₁), gains.trans (ticks.trans (wrote.gains P fun u unmade => ?_))⟩
  rw [about?_eventEntries, if_neg]
  rintro ⟨rfl, _⟩
  rw [size_throttles_ticked, joined.throttles] at unmade
  exact absurd made (Nat.not_lt.mpr unmade)

/-- A lookup for which there is room finds a throttle, or makes one and enrols it. -/
inductive Sought (p : Key) (s : System) (t : ThrottleId) : System → Prop where
  | found (found : s.listed? p = some t) : Sought p s t s
  | fresh {s₁ : System} (absent : s.listed? p = none) (new : t = s.throttles.size)
      (wrote : Wrote (announcement (s.logger p.1).roster t (registered p.1 p.2 s)) (registered p.1 p.2 s) s₁) :
      Sought p s t (enrolled (s.logger p.1).roster t s₁)

theorem lookup_roomy {p : Key}
    (room : s.listed? p = none → (s.logger p.1).catalogue.size ≤ (s.logger p.1).capacity) :
    ∃ t s', (lookup p.1 p.2).exec s = (.ok t, s') ∧ Sought p s t s' := by
  cases found : s.listed? p with
  | some t => exact ⟨t, s, lookup_of_some found, .found found⟩
  | none =>
    obtain ⟨s', he, wrote⟩ := introduce_exec found
    rw [lookup_of_none found, if_neg (Nat.not_lt.mpr (room found))]
    exact ⟨_, _, he, .fresh found rfl wrote⟩

section Sought
variable {p : Key} {t : ThrottleId}

theorem Sought.grows (h : Sought p s t s') (made : p.1 < s.loggers.size) (given : P p) : Grows P s s' := by
  cases h with
  | found => exact grows_refl P s
  | @fresh s₁ absent new wrote =>
    have registers : Grows P s (registered p.1 p.2 s) := fun calm =>
      ⟨⟨calm.sink, calm.stopwatch, calm.counter⟩, gains_registered made absent given⟩
    refine grows_trans registers (grows_trans (grows_wrote wrote fun u _ => about?_announcement _ _ u _) ?_)
    exact fun calm => ⟨⟨calm.sink, calm.stopwatch, calm.counter⟩, gains_enrolled P s₁ _ _⟩

theorem Sought.shifts (h : Sought p s t s') (sound : Sound s) (held : s.loggerHeld p.1) : Shifts s s' := by
  obtain ⟨made, alive⟩ := sound.held held
  cases h with
  | found => exact .refl
  | fresh absent new wrote =>
    subst new
    exact .single (.introduce made alive absent wrote.steady_announced)

/-- What a lookup gives is listed. -/
theorem Sought.listed (h : Sought p s t s') (made : p.1 < s.loggers.size) : s'.listed? p = some t := by
  cases h with
  | found found => exact found
  | @fresh s₁ absent new wrote =>
    have same : (enrolled (s.logger p.1).roster t s₁).listed? p = (registered p.1 p.2 s).listed? p :=
      congrArg (fun loggers : Array Logger => (loggers.getD p.1 default).catalogue.find? p.2) wrote.loggers
    rw [same, listed?_registered s made absent, if_pos rfl, new]

theorem Sought.made (h : Sought p s t s') (sound : Sound s) (held : s.loggerHeld p.1) :
    t < s'.throttles.size :=
  ((sound.shifts (h.shifts sound held)).catalogue _ _ t (h.listed (sound.held held).1)).1

end Sought

end System
end LogThrottle
