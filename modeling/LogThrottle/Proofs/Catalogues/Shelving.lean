import LogThrottle.Proofs.Flushing.Complete
import LogThrottle.Proofs.System.Beside
import LogThrottle.Proofs.Windows.Giving

/-! What happens to the catalogue of a logger and to its count of overflows. Whatever else is done, only a call
that asks the logger for a new topic changes the catalogue: the topic enters it, or enters it emptied. -/
namespace LogThrottle

/-- A call asks a logger for a new topic, and makes its catalogue overflow to the end. -/
def Action.Overflows (l : LoggerId) (s : System) (a : Action) : Prop :=
  ∃ p ∈ a.sought?, p.1 = l ∧ (s.logger l).catalogue.find? p.2 = none ∧
    (s.logger l).capacity < (s.logger l).catalogue.size ∧ ((System.overflow l).exec s).1.isOk = true

instance (l : LoggerId) (s : System) (a : Action) : Decidable (a.Overflows l s) :=
  inferInstanceAs (Decidable (∃ p ∈ a.sought?, p.1 = l ∧ (s.logger l).catalogue.find? p.2 = none ∧
    (s.logger l).capacity < (s.logger l).catalogue.size ∧ ((System.overflow l).exec s).1.isOk = true))

namespace System
open Call

/-- The catalogue of a logger and its count of overflows are as they were. -/
structure SameStock (l : LoggerId) (s s' : System) : Prop where
  catalogue : (s'.logger l).catalogue = (s.logger l).catalogue
  overflows : (s'.logger l).tally.overflows = (s.logger l).tally.overflows

variable {l : LoggerId} {s s' s'' : System}

namespace SameStock

theorem refl (l : LoggerId) (s : System) : SameStock l s s := ⟨rfl, rfl⟩

theorem trans (h : SameStock l s s') (h' : SameStock l s' s'') : SameStock l s s'' :=
  ⟨h'.catalogue.trans h.catalogue, h'.overflows.trans h.overflows⟩

theorem of_loggers (same : s'.loggers = s.loggers) : SameStock l s s' := by
  have read : s'.logger l = s.logger l := by rw [logger, same, logger]
  exact ⟨by rw [read], by rw [read]⟩

theorem changeTally (s : System) (i : LoggerId) {f : Tally → Tally}
    (kept : i = l → ∀ x, (f x).overflows = x.overflows) : SameStock l s (changeTally i f s) := by
  constructor <;> rw [logger_changeTally]
  · split <;> rfl
  · split
    · rename_i own
      exact kept own.1 _
    · rfl

theorem setCatalogue (s : System) {i : LoggerId} (other : i ≠ l) (c : Catalogue) :
    SameStock l s (setCatalogue i c s) := by
  constructor <;> rw [logger_setCatalogue, if_neg fun own => other own.1]

end SameStock

theorem Wrote.sameStock {es : List Entry} (h : Wrote es s s') : SameStock l s s' := .of_loggers h.loggers

section Outside

private theorem resetting_stock (l : LoggerId) : Resetting (fun _ => True) (SameStock l) where
  refl := .refl l
  trans h h' := h.trans h'
  wrote _ wrote := wrote.sameStock
  asked _ _ _ := .of_loggers rfl
  ofReset _ := trivial
  countDigest s i := .changeTally s i fun _ _ => rfl

private theorem judging_stock (l : LoggerId) (t : ThrottleId) : Judging t (fun _ => True) (SameStock l) where
  toFrame := (resetting_stock l).toFrame
  touch _ _ := .of_loggers rfl
  event _ _ := trivial
  countAllowed s i := .changeTally s i fun _ _ => rfl
  countSuppressed s i := .changeTally s i fun _ _ => rfl

private theorem sameStock_attempt (t : ThrottleId) : Keeps (SameStock l) (attempt t) :=
  (resetting_stock l).attempt (judging_stock l t).touch

private theorem sameStock_resetAll (ts : List ThrottleId) : Keeps (SameStock l) (resetAll ts) :=
  (resetting_stock l).resetAll fun _ _ _ => .of_loggers rfl

private theorem sameStock_flush (r : RosterId) : Keeps (SameStock l) (flush r) :=
  (resetting_stock l).flush (fun _ => .of_loggers rfl) fun _ _ => .of_loggers rfl

private theorem sameStock_enrol (r : RosterId) (t : ThrottleId) : Keeps (SameStock l) (enrol r t) :=
  (resetting_stock l).enrol trivial fun _ => .of_loggers rfl

private theorem sameStock_logThrough (t : ThrottleId) (severity : Severity) (args : List Argument) :
    Keeps (SameStock l) (logThrough t severity args) :=
  (judging_stock l t).logThrough severity args ((resetting_stock l).join fun r => sameStock_enrol r t)

private theorem closing_sameStock (l : LoggerId) : Closing (SameStock l) where
  toChain := (resetting_stock l).toChain
  flush := sameStock_flush
  close _ _ := .of_loggers rfl
  cancelJobs _ _ := .of_loggers rfl
  letGo _ _ := .of_loggers rfl

end Outside

section Lookups
variable {i : LoggerId} {topic : Topic}

private theorem stock_introduce (absent : (s.logger i).catalogue.find? topic = none) :
    (i ≠ l → SameStock l s ((introduce i topic).exec s).2) ∧ (i = l → i < s.loggers.size →
      (((introduce i topic).exec s).2.logger l).catalogue =
        ((s.logger l).catalogue.insert topic s.throttles.size).1 ∧
      (((introduce i topic).exec s).2.logger l).tally.overflows = (s.logger l).tally.overflows) := by
  obtain ⟨s', he, wrote⟩ := introduce_exec absent
  have after : SameStock l (registered i topic s) ((introduce i topic).exec s).2 := by
    rw [he]
    exact wrote.sameStock.trans (.of_loggers rfl)
  constructor
  · intro other
    refine SameStock.trans ⟨?_, ?_⟩ after <;> rw [logger_registered, if_neg fun own => other own.1]
  · rintro rfl made
    rw [after.catalogue, after.overflows, logger_registered, if_pos ⟨rfl, made⟩]
    exact ⟨rfl, rfl⟩

/-- An overflow of the logger empties its catalogue and is counted, unless the sink refuses the warning. -/
private theorem stock_overflow (i : LoggerId) (s : System) :
    (∃ f s', (overflow i).exec s = (.error f, s') ∧ s.refusal? i = some f ∧ ∀ l, SameStock l s s') ∨
    ∃ s', (overflow i).exec s = (.ok (), s') ∧ s.refusal? i = none ∧ s'.loggers.size = s.loggers.size ∧
      s'.throttles.size = s.throttles.size ∧ (∀ l, i ≠ l → SameStock l s s') ∧ (i < s.loggers.size →
        (s'.logger i).catalogue = .cleared ∧
          (s'.logger i).tally.overflows = (s.logger i).tally.overflows + 1) := by
  cases answer : s.refusal? i with
  | some f =>
    obtain ⟨s', he, wrote⟩ := overflow_refused answer
    exact .inl ⟨f, s', he, rfl, fun l => wrote.sameStock⟩
  | none =>
    obtain ⟨s₁, s₂, wrote, flushed, he⟩ := overflow_taken answer
    have kept (l : LoggerId) : SameStock l s s₂ := by
      have same := sameStock_flush (l := l) (s.logger i).roster s₁
      rw [flushed] at same
      exact wrote.sameStock.trans same
    obtain ⟨s₃, flushed', same⟩ := flush_outcome (s.logger i).roster s₁
    cases flushed'.symm.trans flushed
    have loggers : s₂.loggers.size = s.loggers.size := same.loggers.trans (congrArg Array.size wrote.loggers)
    have throttles : s₂.throttles.size = s.throttles.size :=
      same.throttles.trans (congrArg Array.size wrote.throttles)
    refine .inr ⟨_, he, rfl, ?_, throttles, fun l other => ?_, fun made => ?_⟩
    · rw [size_loggers_changeTally, size_loggers_setCatalogue, loggers]
    · exact ((kept l).trans (.setCatalogue s₂ other _)).trans (.changeTally _ _ fun own => absurd own other)
    · have there : i < s₂.loggers.size := loggers.symm ▸ made
      rw [logger_changeTally, if_pos ⟨rfl, by rwa [size_loggers_setCatalogue]⟩, logger_setCatalogue,
        if_pos ⟨rfl, there⟩]
      exact ⟨rfl, congrArg (· + 1) (kept i).overflows⟩

end Lookups

/-- What a call does to the stock of a logger. -/
inductive Stocked (l : LoggerId) (topic : Topic) (s : System) : Except Fault ThrottleId → System → Prop where
  | found {s' : System} {t : ThrottleId} (found : (s.logger l).catalogue.find? topic = some t)
      (same : SameStock l s s') : Stocked l topic s (.ok t) s'
  | refused {s' : System} {f : Fault} (absent : (s.logger l).catalogue.find? topic = none)
      (full : (s.logger l).capacity < (s.logger l).catalogue.size) (refused : s.refusal? l = some f)
      (same : SameStock l s s') : Stocked l topic s (.error f) s'
  | entered {s' : System} (absent : (s.logger l).catalogue.find? topic = none)
      (room : (s.logger l).catalogue.size ≤ (s.logger l).capacity)
      (catalogue : (s'.logger l).catalogue = ((s.logger l).catalogue.insert topic s.throttles.size).1)
      (overflows : (s'.logger l).tally.overflows = (s.logger l).tally.overflows) :
      Stocked l topic s (.ok s.throttles.size) s'
  | emptied {s' : System} (absent : (s.logger l).catalogue.find? topic = none)
      (full : (s.logger l).capacity < (s.logger l).catalogue.size) (taken : s.refusal? l = none)
      (catalogue : (s'.logger l).catalogue = (Catalogue.cleared.insert topic s.throttles.size).1)
      (overflows : (s'.logger l).tally.overflows = (s.logger l).tally.overflows + 1) :
      Stocked l topic s (.ok s.throttles.size) s'

theorem overflow_isOk_iff (l : LoggerId) (s : System) :
    ((overflow l).exec s).1.isOk = true ↔ s.refusal? l = none := by
  obtain ⟨f, s', he, refused, _⟩ | ⟨s', he, taken, _⟩ := stock_overflow l s
  · simp [he, refused, Except.isOk, Except.toBool]
  · simp [he, taken, Except.isOk, Except.toBool]

theorem overflows_iff {a : Action} {topic : Topic} (sought : a.sought? = some (l, topic)) : a.Overflows l s ↔
    (s.logger l).catalogue.find? topic = none ∧ (s.logger l).capacity < (s.logger l).catalogue.size ∧
      s.refusal? l = none := by
  simp [Action.Overflows, sought, overflow_isOk_iff]

theorem Stocked.trans {topic : Topic} {answer : Except Fault ThrottleId} (h : Stocked l topic s answer s')
    (same : SameStock l s' s'') : Stocked l topic s answer s'' := by
  cases h with
  | found found first => exact .found found (first.trans same)
  | refused absent full refused first => exact .refused absent full refused (first.trans same)
  | entered absent room catalogue overflows =>
    exact .entered absent room (same.catalogue.trans catalogue) (same.overflows.trans overflows)
  | emptied absent full taken catalogue overflows =>
    exact .emptied absent full taken (same.catalogue.trans catalogue) (same.overflows.trans overflows)

section Actions
variable {a : Action} {topic : Topic}

private theorem stocked_lookup (made : l < s.loggers.size) (topic : Topic) :
    Stocked l topic s ((lookup l topic).exec s).1 ((lookup l topic).exec s).2 := by
  cases found : (s.logger l).catalogue.find? topic with
  | some t =>
    rw [lookup_of_some found]
    exact .found found (.refl l s)
  | none =>
    rw [lookup_of_none found]
    split
    · rename_i full
      rw [exec_bind]
      obtain ⟨f, s₁, he, refused, same⟩ | ⟨s₁, he, taken, loggers, throttles, _, emptied⟩ := stock_overflow l s
      · rw [he]
        exact .refused found full refused (same l)
      · obtain ⟨s', done, _⟩ := introduce_exec (absent_overflow found he)
        obtain ⟨cleared, counted⟩ := emptied made
        have entered := (stock_introduce (l := l) (absent_overflow found he)).2 rfl (loggers.symm ▸ made)
        rw [cleared, counted, throttles] at entered
        rw [he]
        dsimp only
        rw [done] at entered ⊢
        rw [throttles] at entered ⊢
        exact .emptied found full taken entered.1 entered.2
    · rename_i room
      obtain ⟨s', done, _⟩ := introduce_exec found
      have entered := (stock_introduce (l := l) found).2 rfl made
      rw [done] at entered ⊢
      exact .entered found (Nat.not_lt.mp room) entered.1 entered.2

private theorem sameStock_lookup {i : LoggerId} (other : i ≠ l) (topic : Topic) :
    Keeps (SameStock l) (lookup i topic) := by
  intro s
  cases found : (s.logger i).catalogue.find? topic with
  | some t =>
    rw [lookup_of_some found]
    exact .refl l s
  | none =>
    rw [lookup_of_none found]
    split
    · rw [exec_bind]
      obtain ⟨f, s₁, he, _, same⟩ | ⟨s₁, he, _, _, _, same, _⟩ := stock_overflow i s
      · rw [he]
        exact same l
      · rw [he]
        exact (same l other).trans ((stock_introduce (absent_overflow found he)).1 other)
    · exact (stock_introduce found).1 other

/-- A call that asks a logger for a topic does to its stock what the lookup does. -/
theorem stocked_after (sound : Sound s) (ready : a.Ready s) (sought : a.sought? = some (l, topic)) :
    Stocked l topic s ((lookup l topic).exec s).1 (s.after a) := by
  cases a with
  | lookup =>
    cases sought
    exact stocked_lookup (sound.held ready).1 topic
  | log i severity template args =>
    cases sought
    have stocked := stocked_lookup (sound.held ready).1 { template }
    rw [after, Action.perform, log, exec_bind]
    revert stocked
    rcases (lookup l { template }).exec s with ⟨f | t, s₁⟩
    · exact id
    · exact fun stocked => stocked.trans (sameStock_logThrough t severity args s₁)
  | _ => cases sought

/-- What asks a logger for nothing leaves its stock alone, unless it resets the tally. -/
theorem sameStock_after (elsewhere : ∀ topic, a.sought? ≠ some (l, topic)) (standing : a ≠ .resetTally l) :
    SameStock l s (s.after a) := by
  cases a with
  | addSink | addStopwatch | addCounter | openRoster | guard | share => exact .of_loggers rfl
  | build p =>
    rw [after_build]
    cases built : p.logger with
    | error e => exact .refl l s
    | ok x =>
      -- a new logger has an empty catalogue and a fresh tally, as one that does not exist
      obtain ⟨_, catalogue, tally⟩ := fresh_of_plan built
      have read : (s.loggers.push x).getD l default = if l = s.loggers.size then x else s.logger l := getD_push ..
      constructor <;> rw [logger, read] <;> split
      · rename_i new
        rw [catalogue, logger_of_size_le (Nat.le_of_eq new.symm)]
        rfl
      · rfl
      · rename_i new
        rw [tally, logger_of_size_le (Nat.le_of_eq new.symm)]
        rfl
      · rfl
  | move w m =>
    rw [after_move]
    exact .of_loggers rfl
  | lookup i topic =>
    have other : i ≠ l := fun own => elsewhere topic (own ▸ rfl)
    exact sameStock_lookup other topic s
  | log i severity template args =>
    have other : i ≠ l := fun own => elsewhere { template } (own ▸ rfl)
    exact (resetting_stock l).bind (sameStock_lookup other _) (fun t => sameStock_logThrough t severity args) s
  | logThrough t severity args => exact sameStock_logThrough t severity args s
  | emit t args =>
    rw [after_emit]
    exact sameStock_logThrough t _ args s
  | attempt t => exact sameStock_attempt t s
  | enrol r t => exact sameStock_enrol r t s
  | flush r => exact sameStock_flush r s
  | shutdown r => exact (closing_sameStock l).shutdown r s
  | fire r period => exact sameStock_resetAll _ s
  | release x => exact (closing_sameStock l).release x s
  | resetTally i =>
    have other : i ≠ l := fun own => standing (own ▸ rfl)
    exact .changeTally s i (f := fun _ => {}) fun own => absurd own other

/-- Resetting a tally leaves the catalogues alone. -/
theorem catalogue_after (elsewhere : ∀ topic, a.sought? ≠ some (l, topic)) :
    ((s.after a).logger l).catalogue = (s.logger l).catalogue := by
  by_cases resets : a = .resetTally l
  · subst resets
    have same : ((changeTally l (fun _ => {}) s).logger l).catalogue = (s.logger l).catalogue := by
      rw [logger_changeTally]
      split <;> rfl
    exact same
  · exact (sameStock_after elsewhere resets).catalogue

end Actions

end System
end LogThrottle
