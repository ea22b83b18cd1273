import LogThrottle.Interleaving.Enrolment
import LogThrottle.Proofs.Interleaving.Callers
import LogThrottle.Proofs.Interleaving.Traces

/-! Runs of logging calls and flushes on one roster, and what one step of a run can do to the roster,
the stamps, the limiters and the callers under way. -/
namespace LogThrottle.Interleaving.Enrolment

variable {quota : ThrottleId → Quota}

/-- In a logging call on the throttle that has looked at the epoch, does not find it outdated, and has
not counted. -/
def Phase.Past (t : ThrottleId) : Phase → Prop
  | .comparing u _ | .counting u => u = t
  | _ => False

/-- In a logging call on the throttle, or in a flush that is still to reset it. -/
def Phase.Concerns (t : ThrottleId) : Phase → Prop
  | .idle => False
  | .comparing u _ | .enrolling u | .counting u => u = t
  | .resetting ts => t ∈ ts

def FlushBegins (x y : Config) : Prop :=
  y.roster = x.roster.drain ∧ ∃ d, x.phase d = .idle ∧ y.phase d = .resetting x.roster.members

def Enrols (t : ThrottleId) (x y : Config) : Prop :=
  ∃ d, x.phase d = .enrolling t ∧ y.phase d = .counting t

def Counts (c : Caller) (t : ThrottleId) (x y : Config) : Prop :=
  x.phase c = .counting t ∧ y.phase c = .idle

section Steps
variable {x y : Config} {t : ThrottleId}

/-- What a step does to the roster. -/
theorem roster_step (s : Step quota x y) :
    y.roster = x.roster ∨
    (∃ u, Enrols u x y ∧ y.roster = x.roster.enrol (quota u).period u) ∨
    FlushBegins x y := by
  cases s with
  | @enrol c u at_ => exact .inr (.inl ⟨u, ⟨c, at_, if_pos rfl⟩, rfl⟩)
  | drain c at_ => exact .inr (.inr ⟨rfl, c, at_, if_pos rfl⟩)
  | _ => exact .inl rfl

theorem FlushBegins.not_mem (h : FlushBegins x y) (t : ThrottleId) : t ∉ y.roster.members := by
  rw [h.1, Roster.mem_members]
  rintro ⟨p, member⟩
  rw [Roster.membersAt_drain] at member
  cases member

theorem mem_members_enrol {r : Roster} {p : Duration} {t u : ThrottleId} :
    t ∈ (r.enrol p u).members ↔ t ∈ r.members ∨ t = u := by
  simp only [Roster.mem_members, Roster.mem_membersAt_enrol, exists_or, exists_and_right, exists_eq,
    true_and]

theorem mem_members_step (s : Step quota x y) (member : t ∈ x.roster.members) :
    t ∈ y.roster.members ∨ FlushBegins x y := by
  obtain same | ⟨u, -, enrolled⟩ | begins := roster_step s
  · exact .inl (same ▸ member)
  · exact .inl (enrolled ▸ mem_members_enrol.mpr (.inl member))
  · exact .inr begins

theorem mem_members_of_step (s : Step quota x y) (member : t ∈ y.roster.members) :
    t ∈ x.roster.members ∨ Enrols t x y := by
  obtain same | ⟨u, enrols, enrolled⟩ | begins := roster_step s
  · exact .inl (same ▸ member)
  · rw [enrolled, mem_members_enrol] at member
    rcases member with before | rfl
    · exact .inl before
    · exact .inr enrols
  · exact absurd member (begins.not_mem t)

theorem comparing_of_step (s : Step quota x y) {c : Caller} {e : UInt64}
    (h : y.phase c = .comparing t e) : x.phase c = .comparing t e ∨ e = y.roster.epoch := by
  cases s with
  | begin d u at_ =>
    refine (moved_eq h).symm.imp id fun own => ?_
    cases own.2
    rfl
  | count d now at_ => exact (moved_eq h).elim (fun own => nomatch own.2) .inl
  | _ => exact (moved_eq h).elim (fun own => nomatch own.2) .inl

theorem counting_of_step (s : Step quota x y) {c : Caller} (h : y.phase c = .counting t) :
    x.phase c = .counting t ∨
    (∃ e, x.phase c = .comparing t e ∧ x.stamp t = e ∧ y.roster = x.roster) ∨
    t ∈ y.roster.members := by
  cases s with
  | @upToDate d u e at_ same =>
    refine (moved_eq h).symm.imp id fun own => .inl ⟨e, ?_, ?_, rfl⟩
    · cases own.2
      exact own.1 ▸ at_
    · cases own.2
      exact same
  | @enrol d u at_ =>
    refine (moved_eq h).symm.imp id fun own => .inr (mem_members_enrol.mpr (.inr ?_))
    cases own.2
    rfl
  | _ => exact (moved_eq h).elim (fun own => nomatch own.2) .inl

theorem Enrols.mem_members (s : Step quota x y) (h : Enrols t x y) : t ∈ y.roster.members := by
  obtain ⟨d, enrolling, counting⟩ := h
  obtain before | ⟨e, before, -⟩ | member := counting_of_step s counting
  · exact nomatch enrolling.symm.trans before
  · exact nomatch enrolling.symm.trans before
  · exact member

theorem limiter_step (s : Step quota x y) (t : ThrottleId) :
    y.limiter t = x.limiter t ∨
    (y.limiter t = .cleared ∧ ∃ c ts, x.phase c = .resetting (t :: ts)) ∨
    ∃ c, Counts c t x y ∧ y.roster = x.roster := by
  cases s with
  | @count c u now at_ =>
    by_cases same : t = u
    · exact .inr (.inr ⟨c, ⟨same ▸ at_, if_pos rfl⟩, rfl⟩)
    · exact .inl (if_neg same)
  | @reset c u us at_ =>
    by_cases same : t = u
    · exact .inr (.inl ⟨if_pos same, c, us, same ▸ at_⟩)
    · exact .inl (if_neg same)
  | _ => exact .inl rfl

/-- What waits for its reset is still waiting after a step that does not clear it. -/
theorem resetting_step (s : Step quota x y) {c : Caller} {ts : List ThrottleId}
    (at_ : x.phase c = .resetting ts) (waiting : t ∈ ts) (kept : y.limiter t ≠ .cleared) :
    ∃ us, y.phase c = .resetting us ∧ t ∈ us := by
  have stays {d : Caller} {p : Phase} (elsewhere : x.phase d ≠ .resetting ts) :
      (x.enter d p).phase c = .resetting ts := stays_of_ne at_ elsewhere
  cases s with
  | begin d u at' => exact ⟨ts, stays (at' ▸ nofun), waiting⟩
  | upToDate d at' same => exact ⟨ts, stays (at' ▸ nofun), waiting⟩
  | outdated d at' old => exact ⟨ts, stays (at' ▸ nofun), waiting⟩
  | enrol d at' => exact ⟨ts, stays (at' ▸ nofun), waiting⟩
  | count d now at' => exact ⟨ts, stays (at' ▸ nofun), waiting⟩
  | drain d at' => exact ⟨ts, stays (at' ▸ nofun), waiting⟩
  | @reset d u us at' =>
    by_cases same : c = d
    · subst same
      cases at_.symm.trans at'
      refine ⟨us, if_pos rfl, (List.mem_cons.mp waiting).resolve_left fun first => ?_⟩
      exact absurd (if_pos first) kept
    · exact ⟨ts, (if_neg same).trans at_, waiting⟩
  | finish d at' =>
    have nonempty : ts ≠ [] := List.ne_nil_of_mem waiting
    exact ⟨ts, stays (at' ▸ fun empty => nonempty (by cases empty; rfl)), waiting⟩

theorem concerns_step (s : Step quota x y) {c : Caller} (h : (y.phase c).Concerns t) :
    (x.phase c).Concerns t ∨ t ∈ x.roster.members ∨ ∃ e, y.phase c = .comparing t e := by
  have entered {d : Caller} {p : Phase} (h : ((x.enter d p).phase c).Concerns t) :
      c = d ∧ p.Concerns t ∨ (x.phase c).Concerns t := by
    obtain ⟨same, own⟩ | other := moved_eq (d := c) (c := d) (p := p) (q := (x.enter d p).phase c) rfl
    · exact .inl ⟨same, own ▸ h⟩
    · exact .inr (other ▸ h)
  cases s with
  | begin d u at_ =>
    refine (entered h).symm.imp id fun own => .inr ⟨x.roster.epoch, ?_⟩
    obtain ⟨rfl, rfl⟩ := own
    exact if_pos rfl
  | drain d at_ => exact (entered h).symm.imp id fun own => .inl own.2
  | upToDate d at_ same => exact (entered h).elim (fun own => .inl (by rw [own.1, at_]; exact own.2)) .inl
  | outdated d at_ old => exact (entered h).elim (fun own => .inl (by rw [own.1, at_]; exact own.2)) .inl
  | enrol d at_ => exact (entered h).elim (fun own => .inl (by rw [own.1, at_]; exact own.2)) .inl
  | count d now at_ => exact (entered h).elim (fun own => own.2.elim) .inl
  | reset d at_ =>
    refine (entered h).elim (fun own => .inl ?_) .inl
    rw [own.1, at_]
    exact List.mem_cons_of_mem _ own.2
  | finish d at_ => exact (entered h).elim (fun own => own.2.elim) .inl

end Steps

/-- The stamp tells who is a member, as long as the epoch has not come to the number that stands for
no epoch. -/
structure Stamped (x : Config) : Prop where
  bounded : ∀ t, x.stamp t = neverEnrolled ∨ (x.stamp t).toNat ≤ x.roster.epoch.toNat
  member : ∀ t, t ∈ x.roster.members ↔ x.stamp t = x.roster.epoch

theorem Stamped.step {x y : Config} (h : Stamped x) (few : x.roster.epoch ≠ neverEnrolled)
    (few' : y.roster.epoch ≠ neverEnrolled) (s : Step quota x y) : Stamped y := by
  have next : (x.roster.epoch + 1).toNat = x.roster.epoch.toNat + 1 := by
    rw [UInt64.toNat_add]
    refine Nat.mod_eq_of_lt (Nat.lt_of_le_of_ne x.roster.epoch.toNat_lt fun last => few ?_)
    exact UInt64.toNat_inj.mp (Nat.succ.inj last)
  cases s with
  | @enrol c u at_ =>
    refine ⟨fun t => ?_, fun t => ?_⟩
    · by_cases same : t = u
      · exact .inr (by simp [Config.stampWith, same])
      · simpa [Config.stampWith, Config.enter, same] using h.bounded t
    · by_cases same : t = u
      · simp [Config.stampWith, same, mem_members_enrol]
      · simpa [Config.stampWith, Config.enter, same, mem_members_enrol] using h.member t
  | drain c at_ =>
    refine ⟨fun t => (h.bounded t).imp id fun le => ?_, fun t => ?_⟩
    · exact le.trans (next ▸ Nat.le_succ _)
    · refine iff_of_false (FlushBegins.not_mem (x := x) ⟨rfl, c, at_, if_pos rfl⟩ t) fun same => ?_
      obtain never | le := h.bounded t
      · exact few' (same.symm.trans never)
      · have : x.stamp t = x.roster.epoch + 1 := same
        rw [this, next] at le
        exact Nat.not_succ_le_self _ le
  | _ => exact ⟨h.bounded, h.member⟩

theorem stamped_run {x : Nat → Config} {n : Nat} (run : Trace (Step quota) {} x n)
    (few : ∀ i ≤ n, (x i).roster.epoch ≠ neverEnrolled) : Stamped (x n) := by
  refine run.keeps ⟨fun _ => .inl rfl, fun t => iff_of_false List.not_mem_nil nofun⟩ fun i lt stamped => ?_
  exact stamped.step (few i lt.le) (few (i + 1) lt) (run.step i lt)

end LogThrottle.Interleaving.Enrolment
