import LogThrottle.Proofs.Reporting.Billing
import LogThrottle.Proofs.System.Faultless

/-! The books of a run: for each logger, the events it withheld are those on the accounts of its
throttles. A logging call bills one event, and nothing else moves an account. -/
namespace LogThrottle

/-- Events are counted and withheld by logging calls alone, and tallies are never reset. -/
def Action.Counted (a : Action) : Prop := (∀ t, a ≠ .attempt t) ∧ ∀ l, a ≠ .resetTally l

theorem Action.Counted.masked {hides : Prop} {m : Mask hides} {a : Action} (counted : a.Counted) :
    (a.masked m).Counted := by
  refine ⟨fun t => ?_, System.standing_masked counted.2⟩
  cases a with
  | attempt => exact counted.1 t
  | _ => nofun

namespace System
open Call
variable {n : Nat} {s s' : System}

/-- Nothing but sinks, stopwatches and counters has changed, and none of them fails. -/
private theorem even_outside (calm : Calm s') (tracked : Tracked n s) (throttles : s'.throttles = s.throttles)
    (loggers : s'.loggers = s.loggers) (journal : s'.journal = s.journal) : Even n s s' := by
  have throttle (t : ThrottleId) : s'.throttle t = s.throttle t := by
    rw [System.throttle, throttles, System.throttle]
  have logger (l : LoggerId) : s'.logger l = s.logger l := by
    rw [System.logger, loggers, System.logger]
  have nothing : s'.journal.toList = s.journal.toList ++ [] := by rw [journal, List.append_nil]
  have fixed : Fixed s s' := {
    size := Nat.le_of_eq (congrArg Array.size throttles.symm)
    topic := fun t _ => congrArg Throttle.topic (throttle t)
    logger := fun t _ => congrArg Throttle.logger (throttle t)
    sink := fun _ _ => congrArg Logger.sink (logger _)
    quota := fun _ _ => congrArg Logger.quota (logger _) }
  refine .quiet fixed calm tracked (fun t => ?_) (fun l => ?_) nothing (by simp)
  · rw [throttle]
  · rw [logger]

private theorem balances_build (n : Nat) (sound : Sound s) (p : Plan) :
    Balances n s (s.after (.build p)) := by
  rw [after_build]
  cases hp : p.logger with
  | error e => exact .refl n s
  | ok x =>
    have read (i : LoggerId) : (s.loggers.push x).getD i default =
        if i = s.loggers.size then x else s.logger i := getD_push ..
    have old (t : ThrottleId) (ht : t < s.throttles.size) :
        (s.loggers.push x).getD (s.throttle t).logger default = s.logger (s.throttle t).logger := by
      rw [read, if_neg (Nat.ne_of_lt (sound.throttle t ht))]
    have built : Balances n s { s with
        loggers := s.loggers.push x
        holders := ⟨.logger s.loggers.size, p.roster⟩ :: s.holders } := by
      refine balances_of_same { Fixed.refl s with
        sink := fun t ht => congrArg Logger.sink (old t ht)
        quota := fun t ht => congrArg Logger.quota (old t ht) } ⟨rfl, rfl, rfl⟩ (fun _ => rfl)
        (fun l => ?_) (List.append_nil _).symm (by simp)
      rw [logger, read]
      split
      · rename_i new
        rw [(fresh_of_plan hp).2.2, logger_of_size_le (Nat.le_of_eq new.symm)]
        rfl
      · rfl
    exact built

private theorem balances_holders (n : Nat) (s : System) (hs : List Holder) :
    Balances n s { s with holders := hs } :=
  balances_of_same { Fixed.refl s with } ⟨rfl, rfl, rfl⟩ (fun _ => rfl) (fun _ => rfl)
    (List.append_nil _).symm (by simp)

/-- Only logging calls move accounts. -/
theorem even_after {a : Action} (sound : Sound s) (calm : Calm s) (tracked : Tracked n s)
    (ready : a.Ready s) (quiet : a.Calm s) (counted : a.Counted) (silent : a.throttle? s = none) :
    Even n s (s.after a) := by
  cases a with
  | addSink => exact even_outside (calm_addSink calm quiet) tracked rfl rfl rfl
  | addStopwatch => exact even_outside (calm_addStopwatch calm quiet) tracked rfl rfl rfl
  | addCounter => exact even_outside (calm_addCounter calm quiet) tracked rfl rfl rfl
  | openRoster =>
    exact balances_of_same { Fixed.refl s with } ⟨rfl, rfl, rfl⟩ (fun _ => rfl) (fun _ => rfl)
      (List.append_nil _).symm (by simp) calm tracked
  | build p => exact balances_build n sound p calm tracked
  | move w m =>
    rw [after_move]
    exact even_outside (calm_move calm quiet) tracked rfl rfl rfl
  | lookup l topic => exact (lasting_balances n).lookup l topic s calm tracked
  | log l severity template args =>
    have kept := (lasting_balances n).lookup l { template } s calm tracked
    rw [Action.throttle?] at silent
    rw [after, Action.perform, log, exec_bind]
    revert kept silent
    rcases (lookup l { template }).exec s with ⟨_ | t, s'⟩
    · exact fun _ kept => kept
    · intro silent
      cases silent
  | logThrough | emit => cases silent
  | attempt t => exact absurd rfl (counted.1 t)
  | enrol r t => exact balances_enrol n r t s calm tracked
  | flush r => exact balances_flush n r s calm tracked
  | shutdown r => exact (lasting_balances n).shutdown r s calm tracked
  | fire r period => exact balances_resetAll n _ s calm tracked
  | guard | share => exact balances_holders n s _ calm tracked
  | release x => exact (lasting_balances n).release x s calm tracked
  | resetTally l => exact absurd rfl (counted.2 l)

/-- A logging call bills its throttle for one event. What it did before that moved no account. -/
theorem billed_after {a : Action} {t : ThrottleId} (sound : Sound s) (calm : Calm s)
    (tracked : Tracked n s) (few : n + 1 < 2 ^ 64) (ready : a.Ready s) (quiet : a.Calm s)
    (reached : a.throttle? s = some t) :
    ∃ s₁ b, Even n s s₁ ∧ t < s₁.throttles.size ∧ Billed n t b s₁ (s.after a) := by
  obtain ⟨s₁, severity, after, made, found⟩ := logging_outcome sound ready reached
  have before : Even n s s₁ ∧ Sound s₁ := by
    rcases found with rfl | ⟨_, path, _, l, topic, rfl⟩
    · exact ⟨.refl calm tracked, sound⟩
    · exact ⟨(lasting_balances n).lookup l topic s calm tracked, sound.shifts path⟩
  obtain ⟨even, sound₁⟩ := before
  obtain ⟨b, s', he, billed⟩ := logThrough_billed even.calm even.tracked few made
    (sound₁.throttle t made) severity (quiet.arguments reached)
  rw [after, he]
  exact ⟨s₁, b, even, made, billed⟩

/-- What is on the accounts of a logger's throttles. -/
def ledger (s : System) (l : LoggerId) : Nat :=
  ∑ t ∈ Finset.range s.throttles.size, if (s.throttle t).logger = l then s.account t else 0

/-- After at most `n` events, the books of every logger are right. -/
structure Booked (n : Nat) (s : System) : Prop where
  calm : Calm s
  tracked : Tracked n s
  authentic : ∀ e ∈ s.journal.toList, s.Authentic e
  few : ∀ l, (s.logger l).tally.suppressed.toNat ≤ n
  balance : ∀ l, (s.logger l).tally.suppressed.toNat = s.ledger l

theorem reported_of_size_le (authentic : ∀ e ∈ s.journal.toList, s.Authentic e) {t : ThrottleId}
    (new : s.throttles.size ≤ t) : s.reported t = 0 := by
  have none : s.journal.toList.map (Entry.reported t) = s.journal.toList.map fun _ => 0 := by
    refine List.map_congr_left fun e he => ?_
    cases e with
    | notice => rfl
    | line o k line =>
      cases o with
      | digest u d =>
        have made : u < s.throttles.size := (authentic _ he).1
        exact if_neg fun same : u = t => Nat.not_le.mpr made (same ▸ new)
      | _ => rfl
  rw [reported, none]
  simp

private theorem ledger_of_fixed (fixed : Fixed s s')
    (fresh : ∀ t, s.throttles.size ≤ t → s'.account t = 0) (l : LoggerId) :
    s'.ledger l =
      ∑ t ∈ Finset.range s.throttles.size, if (s.throttle t).logger = l then s'.account t else 0 := by
  have grown : Finset.range s.throttles.size ⊆ Finset.range s'.throttles.size := fun t ht =>
    Finset.mem_range.mpr (Nat.lt_of_lt_of_le (Finset.mem_range.mp ht) fixed.size)
  rw [ledger, ← Finset.sum_subset grown]
  · refine Finset.sum_congr rfl fun t ht => ?_
    rw [fixed.logger t (Finset.mem_range.mp ht)]
  · intro t _ new
    rw [fresh t (Nat.not_lt.mp fun old => new (Finset.mem_range.mpr old)), ite_self]

namespace Booked

theorem empty : Booked 0 {} where
  calm := ⟨fun _ _ _ => rfl, fun _ => ⟨rfl, fun _ => rfl⟩, fun _ _ _ => rfl⟩
  tracked t ht := absurd ht (Nat.not_lt_zero t)
  authentic _ he := absurd he List.not_mem_nil
  few _ := Nat.le_refl 0
  balance _ := rfl

private theorem account_new (h : Booked n s) {t : ThrottleId} (new : s.throttles.size ≤ t) :
    s.account t = 0 := by
  rw [account, reported_of_size_le h.authentic new, excess_of_size_le new]

theorem even (h : Booked n s) (even : Even n s s') : Booked n s' where
  calm := even.calm
  tracked := even.tracked
  authentic := even.authentic h.authentic
  few l := even.suppressed l ▸ h.few l
  balance l := by
    rw [even.suppressed, h.balance, ledger_of_fixed even.fixed fun t new => ?_, ledger]
    · simp only [even.account]
    · rw [even.account]
      exact h.account_new new

theorem billed {b : Nat} {t : ThrottleId} (h : Booked n s) (billed : Billed n t b s s')
    (made : t < s.throttles.size) (few : n + 1 < 2 ^ 64) : Booked (n + 1) s' := by
  have once := billed.once
  have counted (l : LoggerId) : (s'.logger l).tally.suppressed.toNat =
      (s.logger l).tally.suppressed.toNat + if (s.throttle t).logger = l then b else 0 := by
    have old := h.few l
    rw [billed.suppressed, UInt64.toNat_add]
    by_cases hl : l = (s.throttle t).logger
    · rw [if_pos hl, if_pos hl.symm, UInt64.toNat_ofNat', Nat.mod_eq_of_lt (by omega : b < 2 ^ 64)]
      exact Nat.mod_eq_of_lt (by omega)
    · rw [if_neg hl, if_neg fun e => hl e.symm]
      exact Nat.mod_eq_of_lt (by rw [UInt64.toNat_zero]; omega)
  refine ⟨billed.calm, billed.tracked, billed.authentic h.authentic, fun l => ?_, fun l => ?_⟩
  · have old := h.few l
    rw [counted]
    split <;> omega
  · rw [counted, h.balance, ledger_of_fixed billed.fixed fun u new => ?_, ledger]
    · have moved (u : ThrottleId) :
          (if (s.throttle u).logger = l then s'.account u else 0) =
            (if (s.throttle u).logger = l then s.account u else 0) +
              if u = t then (if (s.throttle t).logger = l then b else 0) else 0 := by
        rw [billed.account]
        by_cases hu : u = t
        · subst hu
          split <;> simp
        · simp only [hu, if_false, Nat.add_zero]
      simp only [moved, Finset.sum_add_distrib, Finset.sum_ite_eq', Finset.mem_range, made, if_true]
    · rw [billed.account, h.account_new new, if_neg (Nat.ne_of_gt (Nat.lt_of_lt_of_le made new))]

theorem mono {m : Nat} (h : Booked n s) (le : n ≤ m) : Booked m s :=
  { h with tracked := h.tracked.mono le, few := fun l => Nat.le_trans (h.few l) le }

end Booked

/-- The books are right after every run without failures. -/
theorem booked_run {as : List Action}
    (orderly : System.Along (fun s a => a.Ready s ∧ a.Calm s ∧ a.Counted) {} as)
    (few : as.length < 2 ^ 64) : Booked as.length (System.run {} as) := by
  induction as using List.reverseRecOn with
  | nil => exact .empty
  | append_singleton as a ih =>
    obtain ⟨earlier, ready, quiet, counted⟩ := along_snoc.mp orderly
    rw [List.length_append, List.length_singleton] at few ⊢
    rw [run_snoc]
    have booked := ih earlier (Nat.lt_of_succ_lt few)
    have sound := sound_run (earlier.mono fun _ _ h => h.1)
    cases reached : a.throttle? (System.run {} as) with
    | none =>
      have even := even_after sound booked.calm booked.tracked ready quiet counted reached
      exact (booked.even even).mono (Nat.le_succ _)
    | some t =>
      obtain ⟨s₁, b, even, made, billed⟩ :=
        billed_after sound booked.calm booked.tracked few ready quiet reached
      exact (booked.even even).billed billed made few

end System
end LogThrottle
