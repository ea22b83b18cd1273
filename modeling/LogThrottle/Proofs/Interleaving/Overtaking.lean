import LogThrottle.Proofs.Interleaving.Runs

/-! Flushes that overtake logging calls. A call that has found its throttle enrolled counts a moment
later; a flush that begins in between empties the roster, and nothing enrols the throttle again
before the next logging call. -/
namespace LogThrottle.Interleaving.Enrolment

variable {quota : ThrottleId → Quota}

/-- Nobody has enrolled the throttle since. -/
def Alone (x : Nat → Config) (t : ThrottleId) (i n : Nat) : Prop :=
  ∀ k, i < k → k < n → ¬Enrols t (x k) (x (k + 1))

/-- A flush began at `i` while the caller was between its look at the epoch and its counting. -/
structure Late (x : Nat → Config) (n : Nat) (t : ThrottleId) (c : Caller) (i : Nat) : Prop where
  before : i < n
  begins : FlushBegins (x i) (x (i + 1))
  past : ∀ k, i ≤ k → k ≤ n → ((x k).phase c).Past t

/-- The caller was late when it counted at `j`; nobody has enrolled the throttle since the flush, and
nobody has reset it since it was counted. -/
structure Overtaken (x : Nat → Config) (n : Nat) (t : ThrottleId) (c : Caller) (i j : Nat) : Prop where
  late : Late x j t c i
  before : j < n
  counts : Counts c t (x j) (x (j + 1))
  alone : Alone x t i n
  kept : ∀ k, j < k → k ≤ n → (x k).limiter t ≠ .cleared

section Runs
variable {x : Nat → Config} {n : Nat}

theorem Alone.succ {t : ThrottleId} {i : Nat} (h : Alone x t i n) (s : Step quota (x n) (x (n + 1)))
    (out : t ∉ (x (n + 1)).roster.members) : Alone x t i (n + 1) := by
  intro k after before
  rcases Nat.lt_succ_iff_lt_or_eq.mp before with earlier | rfl
  · exact h k after earlier
  · exact fun enrols => out (enrols.mem_members s)

/-- A flush that began leaves the throttle out until somebody enrols it. -/
theorem Alone.not_mem {t : ThrottleId} {i : Nat} (run : Trace (Step quota) {} x n) (begins : FlushBegins (x i) (x (i + 1)))
    (h : Alone x t i n) (before : i < n) : t ∉ (x n).roster.members := by
  induction n, before using Nat.le_induction with
  | base => exact begins.not_mem t
  | succ n le ih =>
    have out := ih (run.take n.le_succ) fun k after before => h k after (Nat.lt_succ_of_lt before)
    intro member
    obtain earlier | enrols := mem_members_of_step (run.step n n.lt_succ_self) member
    · exact out earlier
    · exact h n le n.lt_succ_self enrols

theorem Late.succ {t : ThrottleId} {c : Caller} {i : Nat} (h : Late x n t c i)
    (past : ((x (n + 1)).phase c).Past t) : Late x (n + 1) t c i := by
  refine ⟨Nat.lt_succ_of_lt h.before, h.begins, fun k after before => ?_⟩
  rcases Nat.le_succ_iff.mp before with earlier | rfl
  · exact h.past k after earlier
  · exact past

theorem Late.of_begins {t : ThrottleId} {c : Caller} (begins : FlushBegins (x n) (x (n + 1)))
    (past : ((x n).phase c).Past t) (past' : ((x (n + 1)).phase c).Past t) : Late x (n + 1) t c n := by
  refine ⟨n.lt_succ_self, begins, fun k after before => ?_⟩
  rcases Nat.le_succ_iff_eq_or_le.mp before with rfl | earlier
  · exact past'
  · exact Nat.le_antisymm earlier after ▸ past

/-- What the caller counts will be reset by the next flush, unless a flush has come in between. -/
def Covered (x : Nat → Config) (n : Nat) (t : ThrottleId) (c : Caller) : Prop :=
  t ∈ (x n).roster.members ∨ ∃ i, Late x n t c i ∧ Alone x t i n

theorem covered_of_begins {t : ThrottleId} {c : Caller} (begins : FlushBegins (x n) (x (n + 1)))
    (past : ((x n).phase c).Past t) (past' : ((x (n + 1)).phase c).Past t) : Covered x (n + 1) t c :=
  .inr ⟨n, .of_begins begins past past', fun _ after before => absurd before (Nat.not_lt.mpr after)⟩

theorem Covered.succ {t : ThrottleId} {c : Caller} (h : Covered x n t c) (s : Step quota (x n) (x (n + 1)))
    (past : ((x n).phase c).Past t) (past' : ((x (n + 1)).phase c).Past t) : Covered x (n + 1) t c := by
  by_cases member : t ∈ (x (n + 1)).roster.members
  · exact .inl member
  · obtain before | ⟨i, late, alone⟩ := h
    · obtain still | begins := mem_members_step s before
      · exact .inl still
      · exact covered_of_begins begins past past'
    · exact .inr ⟨i, late.succ past', alone.succ s member⟩

/-- What callers past their look at the epoch rely on. -/
structure Relied (x : Nat → Config) (n : Nat) : Prop where
  comparing : ∀ c t e, (x n).phase c = .comparing t e → e = (x n).roster.epoch ∨ Covered x n t c
  counting : ∀ c t, (x n).phase c = .counting t → Covered x n t c

theorem Relied.succ (h : Relied x n) (stamped : Stamped (x n)) (s : Step quota (x n) (x (n + 1))) :
    Relied x (n + 1) := by
  refine ⟨fun c t e comparing => ?_, fun c t counting => ?_⟩
  · have past' : ((x (n + 1)).phase c).Past t := comparing ▸ rfl
    obtain before | fresh := comparing_of_step s comparing
    · have past : ((x n).phase c).Past t := before ▸ rfl
      obtain current | covered := h.comparing c t e before
      · obtain same | ⟨u, -, enrolled⟩ | begins := roster_step s
        · exact .inl (same ▸ current)
        · exact .inl (enrolled ▸ current)
        · exact .inr (covered_of_begins begins past past')
      · exact .inr (covered.succ s past past')
    · exact .inl fresh
  · have past' : ((x (n + 1)).phase c).Past t := counting ▸ rfl
    obtain before | ⟨e, before, stamp, same⟩ | member := counting_of_step s counting
    · exact (h.counting c t before).succ s (before ▸ rfl) past'
    · obtain current | covered := h.comparing c t e before
      · have member : t ∈ (x n).roster.members := (stamped.member t).mpr (stamp.trans current)
        exact .inl (same ▸ member)
      · exact covered.succ s (before ▸ rfl) past'
    · exact .inl member

theorem relied_run (run : Trace (Step quota) {} x n) (few : ∀ i ≤ n, (x i).roster.epoch ≠ neverEnrolled) :
    Relied x n := by
  induction n with
  | zero => exact ⟨by rw [run.start]; nofun, by rw [run.start]; nofun⟩
  | succ n ih =>
    have earlier := run.take n.le_succ
    have few' : ∀ i ≤ n, (x i).roster.epoch ≠ neverEnrolled := fun i le => few i (Nat.le_succ_of_le le)
    exact (ih earlier few').succ (stamped_run earlier few') (run.step n n.lt_succ_self)

theorem Overtaken.succ {t : ThrottleId} {c : Caller} {i j : Nat} (h : Overtaken x n t c i j)
    (s : Step quota (x n) (x (n + 1))) (out : t ∉ (x (n + 1)).roster.members)
    (kept : (x (n + 1)).limiter t ≠ .cleared) : Overtaken x (n + 1) t c i j := by
  refine ⟨h.late, Nat.lt_succ_of_lt h.before, h.counts, h.alone.succ s out, fun k after before => ?_⟩
  rcases Nat.le_succ_iff.mp before with earlier | rfl
  · exact h.kept k after earlier
  · exact kept

theorem Late.overtaken {t : ThrottleId} {c : Caller} {i : Nat} (late : Late x n t c i)
    (alone : Alone x t i n) (s : Step quota (x n) (x (n + 1))) (counts : Counts c t (x n) (x (n + 1)))
    (out : t ∉ (x (n + 1)).roster.members) (kept : (x (n + 1)).limiter t ≠ .cleared) :
    Overtaken x (n + 1) t c i n := by
  refine ⟨late, n.lt_succ_self, counts, alone.succ s out, fun k after before => ?_⟩
  exact Nat.le_antisymm before after ▸ kept

/-- Whatever bears events is a member, waits for its reset in a flush, or was overtaken. -/
theorem accounted_run (run : Trace (Step quota) {} x n) (few : ∀ i ≤ n, (x i).roster.epoch ≠ neverEnrolled)
    (t : ThrottleId) (borne : (x n).limiter t ≠ .cleared) :
    t ∈ (x n).roster.members ∨ (∃ c ts, (x n).phase c = .resetting ts ∧ t ∈ ts) ∨
      ∃ c i j, Overtaken x n t c i j := by
  induction n with
  | zero => exact absurd (by rw [run.start]; rfl) borne
  | succ n ih =>
    have earlier := run.take n.le_succ
    have few' : ∀ i ≤ n, (x i).roster.epoch ≠ neverEnrolled := fun i le => few i (Nat.le_succ_of_le le)
    have s := run.step n n.lt_succ_self
    by_cases member : t ∈ (x (n + 1)).roster.members
    · exact .inl member
    obtain same | ⟨cleared, -⟩ | ⟨c, counts, roster⟩ := limiter_step s t
    · obtain before | ⟨c, ts, resetting, waiting⟩ | ⟨c, i, j, overtaken⟩ :=
        ih earlier few' (same ▸ borne)
      · obtain still | ⟨drained, d, _, resetting⟩ := mem_members_step s before
        · exact .inl still
        · exact .inr (.inl ⟨d, _, resetting, before⟩)
      · obtain ⟨us, resetting', waiting'⟩ := resetting_step s resetting waiting borne
        exact .inr (.inl ⟨c, us, resetting', waiting'⟩)
      · exact .inr (.inr ⟨c, i, j, overtaken.succ s member borne⟩)
    · exact absurd cleared borne
    · obtain before | ⟨i, late, alone⟩ := (relied_run earlier few').counting c t counts.1
      · exact absurd (roster ▸ before) member
      · exact .inr (.inr ⟨c, i, n, late.overtaken alone s counts member borne⟩)

/-- Nobody deals with the throttle. -/
structure Forsaken (x : Config) (t : ThrottleId) : Prop where
  out : t ∉ x.roster.members
  idle : ∀ c, ¬(x.phase c).Concerns t

theorem Forsaken.step {x y : Config} {t : ThrottleId} (h : Forsaken x t) (s : Step quota x y)
    (none : ∀ c e, y.phase c ≠ .comparing t e) : Forsaken y t ∧ y.limiter t = x.limiter t := by
  refine ⟨⟨fun member => ?_, fun c concerns => ?_⟩, ?_⟩
  · obtain before | ⟨d, enrolling, -⟩ := mem_members_of_step s member
    · exact h.out before
    · exact h.idle d (by rw [enrolling]; rfl)
  · obtain before | member | ⟨e, comparing⟩ := concerns_step s concerns
    · exact h.idle c before
    · exact h.out member
    · exact none c e comparing
  · obtain same | ⟨-, c, ts, resetting⟩ | ⟨c, ⟨counting, -⟩, -⟩ := limiter_step s t
    · exact same
    · exact absurd (by rw [resetting]; exact List.mem_cons_self) (h.idle c)
    · exact absurd (by rw [counting]; rfl) (h.idle c)

theorem forsaken_run {t : ThrottleId} {m : Nat} (run : Trace (Step quota) {} x m) (after : n ≤ m)
    (h : Forsaken (x n) t)
    (none : ∀ k, n ≤ k → k ≤ m → ∀ c e, (x k).phase c ≠ .comparing t e) :
    Forsaken (x m) t ∧ (x m).limiter t = (x n).limiter t := by
  induction m, after using Nat.le_induction with
  | base => exact ⟨h, rfl⟩
  | succ m le ih =>
    obtain ⟨forsaken, same⟩ := ih (run.take m.le_succ) fun k after before =>
      none k after (Nat.le_succ_of_le before)
    obtain ⟨forsaken', same'⟩ := forsaken.step (run.step m m.lt_succ_self)
      (none (m + 1) (Nat.le_succ_of_le le) le_rfl)
    exact ⟨forsaken', same'.trans same⟩

end Runs

/-- With no call under way, a throttle that bears events is out of the roster exactly if a flush overtook
the call that counted them. Its stamp says so, and nothing but another logging call on it changes its
limiter, however many flushes follow. The run makes less than 2^64 - 1 flushes. -/
theorem not_mem_iff_overtaken {x : Nat → Config} {n : Nat} (run : Trace (Step quota) {} x n)
    (few : ∀ i ≤ n, (x i).roster.epoch ≠ neverEnrolled) (quiet : (x n).Quiet) (t : ThrottleId)
    (borne : ((x n).limiter t).count ≠ 0) :
    (t ∉ (x n).roster.members ↔ ∃ c i j, Overtaken x n t c i j) ∧
    (t ∉ (x n).roster.members ↔ (x n).stamp t ≠ (x n).roster.epoch) ∧
    (t ∉ (x n).roster.members → ∀ m, n ≤ m → Trace (Step quota) {} x m →
      (∀ k, n ≤ k → k ≤ m → ∀ c e, (x k).phase c ≠ .comparing t e) →
      t ∉ (x m).roster.members ∧ (x m).limiter t = (x n).limiter t) := by
  refine ⟨⟨fun out => ?_, ?_⟩, ?_, fun out m after longer none => ?_⟩
  · have nonzero : (x n).limiter t ≠ .cleared := fun cleared => borne (by rw [cleared]; rfl)
    obtain member | ⟨c, ts, resetting, -⟩ | overtaken := accounted_run run few t nonzero
    · exact absurd member out
    · exact nomatch (quiet c).symm.trans resetting
    · exact overtaken
  · rintro ⟨c, i, j, overtaken⟩
    exact overtaken.alone.not_mem run overtaken.late.begins
      (overtaken.late.before.trans overtaken.before)
  · exact not_congr ((stamped_run run few).member t)
  · have forsaken : Forsaken (x n) t := ⟨out, fun c => by rw [quiet c]; exact id⟩
    obtain ⟨still, same⟩ := forsaken_run longer after forsaken none
    exact ⟨still.out, same⟩

/-- Two callers find the throttle enrolled; a third flushes; then the two count. -/
def overtaking : List (Config → Config) :=
  [(·.enter 0 (.comparing 0 0)), (·.enter 0 (.enrolling 0)),
    fun x => { (x.enter 0 (.counting 0)).stampWith 0 0 with
      roster := x.roster.enrol (default : Quota).period 0 },
    (·.enter 1 (.comparing 0 0)), (·.enter 1 (.counting 0)),
    fun x => { x.enter 2 (.resetting [0]) with roster := x.roster.drain },
    fun x => (x.enter 2 (.resetting [])).limitWith 0 .cleared, (·.enter 2 .idle),
    fun x => (x.enter 0 .idle).limitWith 0 { count := 1, mark := 1 },
    fun x => (x.enter 1 .idle).limitWith 0 { count := 2, mark := 1 }]

def afterSteps (i : Nat) : Config := (overtaking.take i).foldl (fun x f => f x) {}

private theorem run_overtaking : Trace (Step fun _ => default) {} afterSteps 10 := by
  refine ⟨rfl, fun i lt => ?_⟩
  interval_cases i
  · exact .begin 0 0 rfl
  · exact .outdated 0 rfl (by decide)
  · exact .enrol 0 rfl
  · exact .begin 1 0 rfl
  · exact .upToDate 1 rfl rfl
  · exact .drain 2 rfl
  · exact .reset 2 rfl
  · exact .finish 2 rfl
  · exact .count 0 .zero rfl
  · exact .count 1 .zero rfl

private theorem quiet_overtaking : (afterSteps 10).Quiet
  | 0 | 1 | 2 | _ + 3 => rfl

theorem withheld_outside_roster : ∃ x : Config, Reachable (fun _ => default) x ∧ x.Quiet ∧
    (x.limiter 0).count = 2 ∧ (x.limiter 0).withheld 1 = 1 ∧ 0 ∉ x.roster.members :=
  ⟨afterSteps 10, run_overtaking.keeps .start fun i lt reached => .step reached (run_overtaking.step i lt),
    quiet_overtaking, rfl, by decide, by decide⟩

theorem overtaken_twice :
    Trace (Step fun _ => default) {} afterSteps 10 ∧ (∀ i ≤ 10, (afterSteps i).roster.epoch ≠ neverEnrolled) ∧
    (afterSteps 10).Quiet ∧ ((afterSteps 10).limiter 0).count ≠ 0 ∧ ∃ c i j, Overtaken afterSteps 10 0 c i j := by
  have few : ∀ i ≤ 10, (afterSteps i).roster.epoch ≠ neverEnrolled := by decide
  have borne : ((afterSteps 10).limiter 0).count ≠ 0 := by decide
  have out : 0 ∉ (afterSteps 10).roster.members := by decide
  exact ⟨run_overtaking, few, quiet_overtaking, borne,
    (not_mem_iff_overtaken run_overtaking few quiet_overtaking 0 borne).1.mp out⟩

end LogThrottle.Interleaving.Enrolment
