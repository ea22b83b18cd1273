import LogThrottle.Proofs.Interleaving.Marking

/-! How many attempts overlapping callers are allowed. Below the limit everybody passes. At or past it a caller
passes only if it saw no mark, and there is one by the time it has passed: so each caller passes there once at
most, and somebody does. -/
namespace LogThrottle.Interleaving.Attempt
open Phase

namespace Phase

/-- In an attempt that has not returned. -/
def busy : Phase → Nat
  | .idle => 0
  | _ => 1

/-- Allowed, and still with the lock. -/
def passes : Phase → Bool
  | .passing _ => true
  | _ => false

/-- In an attempt that saw no mark, and so will be allowed. -/
def chosen : Phase → Nat
  | .owing _ | .checking _ | .timing _ | .marking .. | .passing _ => 1
  | _ => 0

theorem busy_of_ne_idle {p : Phase} (h : p ≠ .idle) : p.busy = 1 := by
  cases p with
  | idle => exact absurd rfl h
  | _ => rfl

theorem chosen_le_one (p : Phase) : p.chosen ≤ 1 := by
  cases p with
  | owing | checking | timing | marking | passing => exact Nat.le_refl 1
  | _ => exact Nat.zero_le 1

end Phase

/-- The weights of the places where the callers numbered below a bound stand. -/
def weight (w : Phase → Nat) (callers : Nat) (phase : Caller → Phase) : Nat :=
  ∑ c ∈ Finset.range callers, w (phase c)

section Weight
variable {w : Phase → Nat} {callers : Nat}

theorem weight_enter {x : Config} {c : Caller} (inside : c < callers) (p : Phase) :
    weight w callers (x.enter c p).phase + w (x.phase c) = weight w callers x.phase + w p := by
  have member : c ∈ Finset.range callers := Finset.mem_range.mpr inside
  have others : ∑ d ∈ (Finset.range callers).erase c, w ((x.enter c p).phase d) =
      ∑ d ∈ (Finset.range callers).erase c, w (x.phase d) := by
    refine Finset.sum_congr rfl fun d away => ?_
    simp only [Config.enter, Finset.ne_of_mem_erase away, if_false]
  have own : w ((x.enter c p).phase c) = w p := by simp only [Config.enter, if_true]
  calc weight w callers (x.enter c p).phase + w (x.phase c)
      = w p + ∑ d ∈ (Finset.range callers).erase c, w (x.phase d) + w (x.phase c) := by
        rw [weight, ← Finset.add_sum_erase _ _ member, own, others]
    _ = w (x.phase c) + ∑ d ∈ (Finset.range callers).erase c, w (x.phase d) + w p := by omega
    _ = weight w callers x.phase + w p := by
        rw [weight, Finset.add_sum_erase _ (fun d => w (x.phase d)) member]

theorem weight_le {phase : Caller → Phase} (le : ∀ p, w p ≤ 1) : weight w callers phase ≤ callers := by
  have bound := Finset.sum_le_sum fun c (_ : c ∈ Finset.range callers) => le (phase c)
  simpa [weight] using bound

theorem weight_of_quiet {x : Config} (quiet : x.Quiet) (nothing : w .idle = 0) : weight w callers x.phase = 0 :=
  Finset.sum_eq_zero fun c _ => by rw [quiet c, nothing]

end Weight

/-- Whoever has the lock is where it is needed. -/
def Owned (x : Config) : Prop := ∀ c, x.lock = some c → (x.phase c).locked = true

namespace Owned
variable {limit : UInt32} {x y : Config}

/-- A caller without the lock moves and leaves the lock where it is. -/
private theorem elsewhere (h : Owned x) {c : Caller} (unlocked : (x.phase c).locked = false) (p : Phase) (d : Caller)
    (has : x.lock = some d) : ((x.enter c p).phase d).locked = true := by
  have locked := h d has
  have other : d ≠ c := by
    rintro rfl
    rw [unlocked] at locked
    cases locked
  simpa only [Config.enter, other, if_false] using locked

/-- A caller moves to where the lock is needed. -/
private theorem onward (h : Owned x) {c : Caller} {p : Phase} (locked : p.locked = true) (d : Caller)
    (has : x.lock = some d) : ((x.enter c p).phase d).locked = true :=
  forall_moved (P := fun d (p : Phase) => x.lock = some d → p.locked = true) (fun _ => locked) (fun d _ => h d) d has

theorem step (h : Owned x) (s : Step limit x y) : Owned y := by
  cases s with
  | countBelow c at_ below => exact h
  | countPast c at_ past => exact h.elsewhere (at_ ▸ rfl) _
  | seeMark c at_ limited => exact h.elsewhere (at_ ▸ rfl) _
  | seeNone c at_ unlimited => exact h.elsewhere (at_ ▸ rfl) _
  | acquire c at_ free =>
    intro d has
    obtain rfl : c = d := Option.some.inj has
    simp only [Config.enter, if_true]
    rfl
  | findBelow c at_ below => exact h.onward rfl
  | findPast c at_ past => exact h.onward rfl
  | readClock c now at_ => exact h.onward rfl
  | setMark c at_ => exact h.onward rfl
  | allow c at_ =>
    intro d has
    cases has

/-- With no call under way the lock is free. -/
theorem free (h : Owned x) (quiet : x.Quiet) : x.lock = none := by
  cases held : x.lock with
  | none => rfl
  | some c =>
    have locked := h c held
    rw [quiet c] at locked
    cases locked

end Owned

/-- Events that may be counted while a caller is here: once it has passed the first look, the limit is reached; once it
passes, there is a mark. -/
def Phase.Due (limit : UInt32) (events : Nat) (limited : Bool) : Phase → Prop
  | .idle => True
  | .passing _ => limit.toNat ≤ events ∧ limited = true
  | _ => limit.toNat ≤ events

theorem Phase.Due.reached {limit : UInt32} {events : Nat} {limited : Bool} {p : Phase} (h : p.Due limit events limited)
    (busy : p.busy = 1) : limit.toNat ≤ events := by
  cases p with
  | idle => cases busy
  | passing n => exact h.1
  | _ => exact h

theorem Phase.Due.mono {limit : UInt32} {events events' : Nat} {limited limited' : Bool} {p : Phase}
    (h : p.Due limit events limited) (le : events ≤ events') (kept : limited = true → limited' = true) :
    p.Due limit events' limited' := by
  cases p with
  | idle => trivial
  | passing n => exact ⟨h.1.trans le, kept h.2⟩
  | _ => exact Nat.le_trans h le

/-- Callers are under way only at or past the limit. -/
def Begun (limit : UInt32) (x : Config) : Prop :=
  ∀ c, (x.phase c).Due limit x.events x.limiter.isLimited

namespace Begun
variable {limit : UInt32} {x y : Config}

private theorem enter {events : Nat} {limited : Bool} {c : Caller} {p : Phase} (own : p.Due limit events limited)
    (others : ∀ d, (x.phase d).Due limit events limited) (d : Caller) :
    ((x.enter c p).phase d).Due limit events limited :=
  forall_moved (P := fun _ (p : Phase) => p.Due limit events limited) own (fun d _ => others d) d

theorem step (h : Begun limit x) (m : Marked limit x) (few : x.events < 2 ^ 64) (s : Step limit x y) : Begun limit y := by
  have reached {c : Caller} {p : Phase} (at_ : x.phase c = p) (busy : p.busy = 1) : limit.toNat ≤ x.events :=
    (h c).reached (at_ ▸ busy)
  cases s with
  | countBelow c at_ below => exact fun d => (h d).mono (Nat.le_succ _) id
  | countPast c at_ past => exact enter (m.events_of_ordinal_past past) fun d => (h d).mono (Nat.le_succ _) id
  | seeMark c at_ limited => exact enter trivial h
  | seeNone c at_ unlimited => exact enter (reached at_ rfl) h
  | acquire c at_ free => exact enter (reached at_ rfl) h
  | findBelow c at_ below => exact absurd (reached at_ rfl) (Nat.not_le.mpr (m.events_of_below few below))
  | findPast c at_ past => exact enter (reached at_ rfl) h
  | readClock c now at_ => exact enter (reached at_ rfl) h
  | setMark c at_ =>
    have marking := m.fits c
    rw [at_] at marking
    have limited := Limiter.isLimited_setMark marking.1 x.limiter
    exact enter ⟨marking.2, limited⟩ fun d => (h d).mono (Nat.le_refl _) fun _ => limited
  | allow c at_ => exact enter trivial h

end Begun

/-- Every event counted is of an attempt that returned or of one under way. -/
def Accounted (callers : Nat) (x : Config) : Prop := x.returned.length + weight busy callers x.phase = x.events

namespace Accounted
variable {limit : UInt32} {callers : Nat} {x y : Config} {c : Caller} {p : Phase}

/-- A caller under way moves on and stays under way. -/
private theorem move (h : Accounted callers x) (inside : c < callers) (busy : (x.phase c).busy = 1) (busy' : p.busy = 1) :
    x.returned.length + weight Phase.busy callers (x.enter c p).phase = x.events := by
  have moved := weight_enter (w := Phase.busy) (x := x) inside p
  rw [busy, busy'] at moved
  rw [Accounted] at h
  omega

/-- A caller returns. -/
private theorem finish (h : Accounted callers x) (inside : c < callers) (busy : (x.phase c).busy = 1) :
    x.returned.length + 1 + weight Phase.busy callers (x.enter c .idle).phase = x.events := by
  have moved : weight Phase.busy callers (x.enter c .idle).phase + _ = _ + 0 := weight_enter inside .idle
  rw [busy] at moved
  rw [Accounted] at h
  omega

theorem step (h : Accounted callers x) (inside : ∀ c, (x.phase c).busy = 1 → c < callers)
    (inside' : ∀ c, (y.phase c).busy = 1 → c < callers) (s : Step limit x y) : Accounted callers y := by
  have on {c : Caller} {p q : Phase} (at_ : x.phase c = p) (busy : p.busy = 1) (busy' : q.busy = 1) :=
    h.move (inside c (at_ ▸ busy)) (at_ ▸ busy) busy'
  have back {c : Caller} {p : Phase} (at_ : x.phase c = p) (busy : p.busy = 1) :=
    h.finish (inside c (at_ ▸ busy)) (at_ ▸ busy)
  cases s with
  | countBelow c at_ below => exact (Nat.add_right_comm ..).trans (congrArg (· + 1) h)
  | countPast c at_ past =>
    have moved := weight_enter (w := busy) (x := x) (inside' c (by simp [Config.enter, busy])) (.counted x.limiter.ordinal)
    rw [at_] at moved
    exact (congrArg (x.returned.length + ·) moved).trans (congrArg (· + 1) h)
  | seeMark c at_ limited => exact back at_ rfl
  | seeNone c at_ unlimited => exact on at_ rfl rfl
  | acquire c at_ free => exact on at_ rfl rfl
  | findBelow c at_ below => exact on at_ rfl rfl
  | findPast c at_ past => exact on at_ rfl rfl
  | readClock c now at_ => exact on at_ rfl rfl
  | setMark c at_ => exact on at_ rfl rfl
  | allow c at_ => exact back at_ rfl

end Accounted

/-- Attempts that returned and were allowed. -/
def allowed (x : Config) : Nat := x.returned.countP fun r => r.2 = .allow

/-- How the attempts allowed stand to the events counted. While there is no mark, only events below the limit have
been allowed. Once there is one, each caller may add one more, and somebody does. -/
structure Admitted (limit : UInt32) (callers : Nat) (x : Config) : Prop where
  least : min x.events (limit.toNat - 1) ≤ allowed x
  unmarked : x.limiter.isLimited = false → allowed x ≤ min x.events (limit.toNat - 1)
  most : x.limiter.isLimited = true → allowed x + weight chosen callers x.phase ≤ limit.toNat - 1 + callers
  somebody : x.limiter.isLimited = true → limit.toNat ≤ allowed x ∨ ∃ c n, x.phase c = .passing n

namespace Admitted
variable {limit : UInt32} {callers : Nat} {x y : Config} {c : Caller} {p : Phase}

/-- An event below the limit is allowed at once. -/
private theorem pass (h : Admitted limit callers x) (unlimited : x.limiter.isLimited = false)
    (below : x.events + 1 < limit.toNat) (limiter : y.limiter.isLimited = x.limiter.isLimited)
    (events : y.events = x.events + 1) (one : allowed y = allowed x + 1) : Admitted limit callers y := by
  have same : y.limiter.isLimited = false := limiter.trans unlimited
  have least := h.least
  have most := h.unmarked unlimited
  refine ⟨?_, fun _ => ?_, fun limited => ?_, fun limited => ?_⟩
  · omega
  · omega
  · exact absurd (same.symm.trans limited) Bool.false_ne_true
  · exact absurd (same.symm.trans limited) Bool.false_ne_true

/-- A caller that does not pass moves on. -/
private theorem move (h : Admitted limit callers x) (inside : c < callers) (early : (x.phase c).passes = false)
    (same : x.limiter.isLimited = true → p.chosen = (x.phase c).chosen)
    (limiter : y.limiter.isLimited = x.limiter.isLimited) (phase : y.phase = (x.enter c p).phase)
    (events : min y.events (limit.toNat - 1) = min x.events (limit.toNat - 1))
    (none : allowed y = allowed x) : Admitted limit callers y := by
  refine ⟨?_, fun unlimited => ?_, fun limited => ?_, fun limited => ?_⟩
  · rw [events, none]
    exact h.least
  · rw [events, none]
    exact h.unmarked (limiter ▸ unlimited)
  · have moved := weight_enter (w := chosen) (x := x) inside p
    rw [same (limiter ▸ limited)] at moved
    rw [phase, none]
    have most := h.most (limiter ▸ limited)
    omega
  · rw [none, phase]
    refine (h.somebody (limiter ▸ limited)).imp id fun ⟨d, n, there⟩ => ⟨d, n, ?_⟩
    have other : d ≠ c := by
      rintro rfl
      rw [there] at early
      cases early
    simpa only [Config.enter, other, if_false] using there

/-- Whoever sets the mark passes next. If there was none, then nobody has passed at or past the limit before. -/
private theorem mark (h : Admitted limit callers x) (inside : c < callers) {n : UInt64}
    (same : (x.phase c).chosen = 1) (limited : y.limiter.isLimited = true)
    (phase : y.phase = (x.enter c (.passing n)).phase) (events : y.events = x.events)
    (none : allowed y = allowed x) : Admitted limit callers y := by
  have own : y.phase c = .passing n := by rw [phase]; exact if_pos rfl
  refine ⟨?_, fun unlimited => absurd (unlimited.symm.trans limited) Bool.false_ne_true, fun _ => ?_, fun _ => .inr ⟨c, n, own⟩⟩
  · rw [events, none]
    exact h.least
  · have moved : weight chosen callers (x.enter c (.passing n)).phase + _ = _ + 1 := weight_enter inside _
    rw [phase, none]
    cases before : x.limiter.isLimited with
    | true =>
      have most := h.most before
      omega
    | false =>
      have unmarked := h.unmarked before
      have bound : weight chosen callers (x.enter c (.passing n)).phase ≤ callers := weight_le chosen_le_one
      omega

/-- A caller that passes at or past the limit makes one more of those allowed, and one less of those chosen. -/
private theorem finish (h : Admitted limit callers x) (inside : c < callers) {n : UInt64} (at_ : x.phase c = .passing n)
    (reached : limit.toNat ≤ x.events) (before : x.limiter.isLimited = true)
    (limiter : y.limiter.isLimited = x.limiter.isLimited) (phase : y.phase = (x.enter c .idle).phase)
    (events : y.events = x.events) (one : allowed y = allowed x + 1) : Admitted limit callers y := by
  have limited : y.limiter.isLimited = true := limiter.trans before
  have least := h.least
  have most := h.most before
  have moved : weight chosen callers (x.enter c .idle).phase + (x.phase c).chosen = _ + 0 := weight_enter inside .idle
  rw [at_] at moved
  have moved : weight chosen callers (x.enter c .idle).phase + 1 = weight chosen callers x.phase := moved
  refine ⟨?_, fun unlimited => absurd (unlimited.symm.trans limited) Bool.false_ne_true, fun _ => ?_, fun _ => .inl ?_⟩
  · omega
  · rw [phase]
    omega
  · omega

theorem step (h : Admitted limit callers x) (m : Marked limit x) (b : Begun limit x) (few : x.events < 2 ^ 64)
    (inside : ∀ c, (x.phase c).busy = 1 → c < callers) (inside' : ∀ c, (y.phase c).busy = 1 → c < callers)
    (s : Step limit x y) : Admitted limit callers y := by
  have due {c : Caller} {p : Phase} (at_ : x.phase c = p) : p.Due limit x.events x.limiter.isLimited := at_ ▸ b c
  cases s with
  | countBelow c at_ below =>
    have early := m.events_of_ordinal_below few below
    have unlimited : x.limiter.isLimited = false := Bool.eq_false_iff.mpr fun limited =>
      absurd (m.reached limited) (Nat.not_le.mpr (Nat.lt_of_succ_lt early))
    exact h.pass unlimited early rfl rfl (by simp [allowed])
  | countPast c at_ past =>
    have past := m.events_of_ordinal_past past
    refine h.move (inside' c ?_) (at_ ▸ rfl) (fun _ => at_ ▸ rfl) rfl rfl ?_ rfl
    · simp [Config.enter, busy]
    · show min (x.events + 1) (limit.toNat - 1) = min x.events (limit.toNat - 1)
      omega
  | seeMark c at_ limited =>
    exact h.move (inside c (at_ ▸ rfl)) (at_ ▸ rfl) (fun _ => at_ ▸ rfl) rfl rfl rfl (by simp [allowed])
  | seeNone c at_ unlimited =>
    exact h.move (inside c (at_ ▸ rfl)) (at_ ▸ rfl) (fun limited =>
      absurd (unlimited.symm.trans limited) Bool.false_ne_true) rfl rfl rfl rfl
  | acquire c at_ free =>
    exact h.move (inside c (at_ ▸ rfl)) (at_ ▸ rfl) (fun _ => at_ ▸ rfl) rfl rfl rfl rfl
  | findBelow c at_ below => exact absurd (due at_) (Nat.not_le.mpr (m.events_of_below few below))
  | findPast c at_ past =>
    exact h.move (inside c (at_ ▸ rfl)) (at_ ▸ rfl) (fun _ => at_ ▸ rfl) rfl rfl rfl rfl
  | readClock c now at_ =>
    exact h.move (inside c (at_ ▸ rfl)) (at_ ▸ rfl) (fun _ => at_ ▸ rfl) rfl rfl rfl rfl
  | setMark c at_ =>
    have marking := m.fits c
    rw [at_] at marking
    exact h.mark (inside c (at_ ▸ rfl)) (at_ ▸ rfl) (Limiter.isLimited_setMark marking.1 _) rfl rfl rfl
  | allow c at_ =>
    exact h.finish (inside c (at_ ▸ rfl)) at_ (due at_).1 (due at_).2 rfl rfl rfl (by simp [allowed])

end Admitted
section Unreset
variable {limit : UInt32} {callers : Nat} {x : Config}

theorem Unreset.reachable (h : Unreset limit callers x) : Reachable limit x := by
  induction h with
  | start => exact .start
  | attempt _ s _ ih => exact ih.attempt s

theorem Unreset.inside (h : Unreset limit callers x) (c : Caller) (busy : (x.phase c).busy = 1) : c < callers := by
  refine Nat.lt_of_not_le fun outside => ?_
  have idle : x.phase c = .idle := by
    cases h with
    | start => rfl
    | attempt _ _ idle => exact idle c outside
  rw [idle] at busy
  cases busy

/-- A caller below the bound moves, and the others stay where they are. -/
theorem Unreset.move {y : Config} {c : Caller} {p : Phase} (h : Unreset limit callers x) (s : Step limit x y)
    (inside : c < callers) (phase : y.phase = (x.enter c p).phase) : Unreset limit callers y := by
  refine h.attempt s fun d outside => ?_
  have other : d ≠ c := fun own => Nat.not_lt.mpr outside (own ▸ inside)
  rw [phase]
  refine (if_neg other).trans (Classical.byContradiction fun away => ?_)
  exact Nat.not_lt.mpr outside (h.inside d (busy_of_ne_idle away))

theorem events_le_step {x y : Config} (s : Step limit x y) : x.events ≤ y.events := by
  cases s with
  | countBelow | countPast => exact Nat.le_succ _
  | _ => exact Nat.le_refl _

theorem owned_unreset (h : Unreset limit callers x) : Owned x := by
  induction h with
  | start => exact nofun
  | attempt _ s _ ih => exact ih.step s

theorem accounted_unreset (h : Unreset limit callers x) : Accounted callers x := by
  induction h with
  | start => exact (Nat.zero_add _).trans (weight_of_quiet (w := busy) (x := {}) (fun _ => rfl) rfl)
  | attempt earlier s idle ih => exact ih.step earlier.inside (Unreset.attempt earlier s idle).inside s

theorem admitted_unreset (h : Unreset limit callers x) (few : x.events < 2 ^ 64) :
    Begun limit x ∧ Admitted limit callers x := by
  induction h with
  | start => exact ⟨fun _ => trivial, Nat.le_of_eq (Nat.zero_min _), fun _ => Nat.zero_le _, nofun, nofun⟩
  | attempt earlier s idle ih =>
    have fewer := Nat.lt_of_le_of_lt (events_le_step s) few
    obtain ⟨begun, admitted⟩ := ih fewer
    have marked := marked_reachable earlier.reachable
    exact ⟨begun.step marked fewer s,
      admitted.step marked begun fewer earlier.inside (Unreset.attempt earlier s idle).inside s⟩

end Unreset

/-- A whole reset with nobody in between. -/
def Resets (x y : Config) : Prop :=
  ∃ x₁ x₂ x₃, ResetStep x x₁ ∧ ResetStep x₁ x₂ ∧ ResetStep x₂ x₃ ∧ ResetStep x₃ y

/-- A caller with the lock, and nobody else under way. -/
structure Alone (c : Caller) (p : Phase) (x : Config) : Prop where
  lock : x.lock = some c
  phase : ∀ d, x.phase d = if d = c then p else .idle

section Resets
variable {c d : Caller} {p q : Phase} {x y : Config}

theorem Alone.eq_of_phase (h : Alone c p x) (at_ : x.phase d = q) (busy : q.busy = 1) : d = c ∧ p = q := by
  rw [h.phase] at at_
  split at at_
  · exact ⟨‹_›, at_⟩
  · subst at_
    cases busy

theorem Alone.enter (h : Alone c p x) (q : Phase) (limiter : Limiter) (events : Nat) :
    Alone c q { x.enter c q with limiter, events } := by
  refine ⟨h.lock, fun d => ?_⟩
  by_cases own : d = c
  · simp only [Config.enter, own, if_true]
  · simp only [Config.enter, h.phase d, own, if_false]

/-- What the next step of a reset leaves, by the place where it stands. -/
def Phase.Leads (c : Caller) (x y : Config) : Phase → Prop
  | .clearing => Alone c (.emptying x.limiter.mark) y ∧ y.limiter = { x.limiter with mark := 0 } ∧
      y.resets = x.resets
  | .emptying mark => Alone c (.reset mark x.limiter.count) y ∧ y.limiter = { x.limiter with count := 0 } ∧
      y.resets = x.resets
  | .reset mark count => y.limiter = x.limiter ∧ y.resets = ⟨count, mark⟩ :: x.resets
  | _ => False

theorem Alone.resetStep (h : Alone c p x) (s : ResetStep x y) : p.Leads c x y := by
  cases s with
  | acquire d at_ free => exact absurd (h.lock.symm.trans free) (Option.some_ne_none c)
  | clearMark d at_ =>
    obtain ⟨rfl, rfl⟩ := h.eq_of_phase at_ rfl
    exact ⟨h.enter _ _ _, rfl, rfl⟩
  | clearCount d at_ =>
    obtain ⟨rfl, rfl⟩ := h.eq_of_phase at_ rfl
    exact ⟨h.enter _ _ _, rfl, rfl⟩
  | release d at_ =>
    obtain ⟨rfl, rfl⟩ := h.eq_of_phase at_ rfl
    exact ⟨rfl, rfl⟩

theorem alone_of_acquire (quiet : x.Quiet) (s : ResetStep x y) :
    ∃ c, Alone c .clearing y ∧ y.limiter = x.limiter ∧ y.resets = x.resets := by
  cases s with
  | acquire c at_ free =>
    refine ⟨c, ⟨rfl, fun d => ?_⟩, rfl, rfl⟩
    by_cases own : d = c
    · simp only [Config.enter, own, if_true]
    · simp only [Config.enter, quiet d, own, if_false]
  | clearMark c at_ | clearCount c at_ | release c at_ =>
    rw [quiet c] at at_
    cases at_

theorem exists_resets (quiet : x.Quiet) (free : x.lock = none) (c : Caller) : ∃ y, Resets x y := by
  have at_ (z : Config) (p : Phase) : (z.enter c p).phase c = p := if_pos rfl
  exact ⟨_, _, _, _, .acquire c (quiet c) free, .clearMark c (at_ _ _), .clearCount c (at_ _ _), .release c (at_ _ _)⟩

/-- A reset keeps the limiter that it finds and leaves a fresh one. -/
theorem Resets.found (h : Resets x y) (quiet : x.Quiet) : y.resets = x.limiter :: x.resets ∧ y.limiter = .cleared := by
  obtain ⟨x₁, x₂, x₃, first, second, third, last⟩ := h
  obtain ⟨c, clearing, limiter₁, resets₁⟩ := alone_of_acquire quiet first
  obtain ⟨emptying, limiter₂, resets₂⟩ := clearing.resetStep second
  obtain ⟨reset, limiter₃, resets₃⟩ := emptying.resetStep third
  obtain ⟨limiter₄, resets₄⟩ := reset.resetStep last
  rw [resets₄, resets₃, resets₂, resets₁, limiter₄, limiter₃, limiter₂, limiter₁]
  exact ⟨rfl, rfl⟩

end Resets

theorem withheld_of_reached {limit : UInt32} {s : Limiter} (reached : s.isLimited = true ↔ limit.toNat ≤ s.count.toNat) :
    (s.withheld limit).toNat = s.count.toNat - limit.toNat := by
  cases limited : s.isLimited with
  | true => exact s.withheld_toNat limit limited
  | false =>
    have early : ¬limit.toNat ≤ s.count.toNat := fun past => by simp [reached.mpr past] at limited
    rw [Limiter.withheld, if_neg (by simp [limited])]
    exact (Nat.sub_eq_zero_of_le (Nat.le_of_not_le early)).symm

/-- Callers numbered below a bound make attempts on a fresh limiter in any interleaving, and nobody resets it. When
all attempts have returned, all are counted, and there is a mark if their number came to the limit. As many attempts
are allowed as the limit says, or all if they are fewer, and one more for each other caller at most. A reset that
follows can be done, and reports as withheld all that are beyond the limit. -/
theorem allowed_under_contention {q : Quota} {callers : Nat} {x : Config} (h : Unreset q.limit callers x)
    (quiet : x.Quiet) (few : x.returned.length < 2 ^ 64) :
    let limit := q.limit.toNat
    let attempts := x.returned.length
    x.limiter.count.toNat = attempts ∧ (x.limiter.isLimited = true ↔ limit ≤ attempts) ∧
    min attempts limit ≤ allowed x ∧ allowed x ≤ min attempts (limit - 1 + callers) ∧
    (∃ y, Resets x y) ∧ ∀ y, Resets x y → ∃ found, y.resets = found :: x.resets ∧ y.limiter = .cleared ∧
      (found.withheld q.limit).toNat = attempts - limit ∧ (found.withheld q.limit ≠ 0 ↔ limit < attempts) := by
  intro limit attempts
  have counted : attempts = x.events := by
    have accounted := accounted_unreset h
    rwa [Accounted, weight_of_quiet quiet rfl, Nat.add_zero] at accounted
  have few : x.events < 2 ^ 64 := counted ▸ few
  have marked := marked_reachable h.reachable
  have count : x.limiter.count.toNat = attempts := by rw [marked.count, Nat.mod_eq_of_lt few, counted]
  have positive : 0 < limit := UInt32.lt_iff_toNat_lt.mp q.limit_pos
  have owed := owed_reachable positive h.reachable
  have limited : x.limiter.isLimited = true ↔ limit ≤ attempts :=
    counted ▸ ⟨marked.reached, owed.settled quiet few⟩
  obtain ⟨-, least, unmarked, most, somebody⟩ := admitted_unreset h few
  have all : allowed x ≤ attempts := List.countP_le_length
  have nobody : weight chosen callers x.phase = 0 := weight_of_quiet quiet rfl
  refine ⟨count, limited, ?_, ?_, exists_resets quiet ((owned_unreset h).free quiet) 0, fun y resets => ?_⟩
  · cases mark : x.limiter.isLimited with
    | true =>
      obtain enough | ⟨c, n, passing⟩ := somebody mark
      · exact (Nat.min_le_right _ _).trans enough
      · rw [quiet c] at passing
        cases passing
    | false =>
      have early : ¬limit ≤ attempts := fun past => by simp [limited.mpr past] at mark
      omega
  · cases mark : x.limiter.isLimited with
    | true =>
      have := most mark
      omega
    | false =>
      have := unmarked mark
      omega
  · obtain ⟨resets, cleared⟩ := resets.found quiet
    have withheld := withheld_of_reached (count ▸ limited)
    rw [count] at withheld
    refine ⟨x.limiter, resets, cleared, withheld, ?_⟩
    rw [Ne, ← UInt64.toNat_inj, withheld, UInt64.toNat_zero]
    omega

/-- With room for one event two callers that count at once both pass, and the next event is held. -/
theorem allowed_under_contention_of_two : ∃ x y : Config,
    Unreset 1 2 x ∧ x.Quiet ∧ x.returned = [(3, .suppress), (2, .allow), (1, .allow)] ∧ Resets x y ∧
    allowed x = min 3 (1 - 1 + 2) ∧ x.limiter.count.toNat = 3 ∧ x.limiter.isLimited = true ∧
    ∃ found, y.resets = [found] ∧ y.limiter = .cleared ∧ (found.withheld 1).toNat = 2 := by
  have zero : 0 < 2 := by decide
  have one : 1 < 2 := by decide
  have begun : Unreset 1 2 {} := .start
  have counted := (begun.move (.countPast 0 rfl rfl) zero rfl).move (.countPast 1 rfl rfl) one rfl
  have unmarked := (counted.move (.seeNone 0 rfl rfl) zero rfl).move (.seeNone 1 rfl rfl) one rfl
  have timing := (unmarked.move (.acquire 0 rfl rfl) zero rfl).move (.findPast 0 rfl rfl) zero rfl
  have marked := (timing.move (.readClock 0 .zero rfl) zero rfl).move (.setMark 0 rfl) zero rfl
  have first := marked.move (.allow 0 rfl) zero rfl
  have timing' := (first.move (.acquire 1 rfl rfl) one rfl).move (.findPast 1 rfl rfl) one rfl
  have marked' := (timing'.move (.readClock 1 .zero rfl) one rfl).move (.setMark 1 rfl) one rfl
  have second := marked'.move (.allow 1 rfl) one rfl
  have third := (second.move (.countPast 0 rfl rfl) zero rfl).move (.seeMark 0 rfl rfl) zero rfl
  obtain ⟨x, hx, quiet, returned, none⟩ : ∃ x : Config, Unreset 1 2 x ∧ x.Quiet ∧
      x.returned = [(3, .suppress), (2, .allow), (1, .allow)] ∧ x.resets = [] := by
    refine ⟨_, third, fun c => ?_, rfl, rfl⟩
    by_cases zero : c = 0 <;> by_cases one : c = 1 <;> simp [Config.enter, zero, one]
  have few : x.returned.length < 2 ^ 64 := by rw [returned]; decide
  obtain ⟨count, limited, -, most, ⟨y, resets⟩, found⟩ := allowed_under_contention (q := default) hx quiet few
  obtain ⟨found, kept, cleared, withheld, -⟩ := found y resets
  rw [returned] at count limited most withheld
  have two : allowed x = 2 := by rw [allowed, returned]; rfl
  exact ⟨x, y, hx, quiet, returned, resets, two, count, limited.mpr (by decide), found, none ▸ kept, cleared, withheld⟩

end LogThrottle.Interleaving.Attempt
