import LogThrottle.Proofs.Enrolment.Jobs
import LogThrottle.Proofs.System.Growth
import LogThrottle.Proofs.System.Handles

/-! Two systems that are the same for one key. Its throttle may have another number in the second system, and
all other throttles may be any; the surroundings, and the epochs of all rosters, are the same. -/
namespace LogThrottle.System
open Call

/-- The same surroundings and epochs. -/
structure Level (s s' : System) : Prop extends Beside s s' where
  epoch : ∀ r, (s'.roster r).epoch = (s.roster r).epoch

/-- One throttle in two systems, with the same memberships, and with the same lines about it. -/
structure Matches (s s' : System) (t t' : ThrottleId) : Prop where
  throttle : s'.throttle t' = s.throttle t
  member : ∀ r d, t' ∈ (s'.roster r).membersAt d ↔ t ∈ (s.roster r).membersAt d
  lines : s'.linesOf t' = s.linesOf t

/-- A key has no throttle in either system, or throttles that match. -/
structure SameFor (p : Key) (s s' : System) : Prop extends Level s s' where
  throttle : Option.Rel (Matches s s') (s.listed? p) (s'.listed? p)

namespace Level
variable {s s' s'' : System}

theorem refl (s : System) : Level s s := ⟨.refl s, fun _ => rfl⟩

theorem symm (h : Level s s') : Level s' s := ⟨h.toBeside.symm, fun r => (h.epoch r).symm⟩

theorem trans (h : Level s s') (h' : Level s' s'') : Level s s'' :=
  ⟨h.toBeside.trans h'.toBeside, fun r => (h'.epoch r).trans (h.epoch r)⟩

theorem of_rosters (beside : Beside s s') (rosters : s'.rosters = s.rosters) : Level s s' :=
  ⟨beside, fun r => by rw [roster, rosters, roster]⟩

theorem keeps {α β : Type} {c : Call α} {d : Call β} (h : Level s s') (hc : Keeps Level c)
    (hd : Keeps Level d) : Level (c.exec s).2 (d.exec s').2 :=
  (hc s).symm.trans (h.trans (hd s'))

theorem changeRoster (h : Level s s') (r : RosterId) {f : Roster → Roster}
    (closed : ∀ x y, y.closed = x.closed → (f y).closed = (f x).closed)
    (epoch : ∀ x y, y.epoch = x.epoch → (f y).epoch = (f x).epoch) :
    Level (changeRoster r f s) (System.changeRoster r f s') := by
  refine ⟨h.toBeside.changeRoster r closed, fun i => ?_⟩
  rw [roster_changeRoster, roster_changeRoster, h.rosters]
  split
  · exact epoch _ _ (h.epoch i)
  · exact h.epoch i

end Level

section Levels
variable {s s' : System}

theorem Wrote.level {es : List Entry} (h : Wrote es s s') : Level s s' := .of_rosters h.beside h.rosters

theorem level_enrolled (s : System) (r : RosterId) (t : ThrottleId) : Level s (enrolled r t s) :=
  ⟨beside_enrolled s r t, fun i => epoch_enrolled s r i t⟩

theorem Level.drained (h : Level s s') (r : RosterId) : Level (drained r s) (System.drained r s') := by
  have begun := h.changeRoster r (f := Roster.drain) (fun _ _ same => same) fun _ _ same => congrArg (· + 1) same
  exact ((wrote_write _ _).level.symm.trans begun).trans (wrote_write _ _).level

theorem level_ticked (s : System) (t : ThrottleId) (severity : Severity) : Level s (ticked t severity s) :=
  .of_rosters (beside_ticked s t severity) (rosters_ticked severity)

theorem level_resetAll (ts : List ThrottleId) : Keeps Level (resetAll ts) := fun s =>
  .of_rosters (beside_resetAll ts s) (steady_resetAll ts s).rosters

theorem level_attempt (t : ThrottleId) : Keeps Level (attempt t) := fun s =>
  .of_rosters (beside_attempt t s) (steady_attempt t s).rosters

end Levels

namespace Matches
variable {s s' s'' : System} {t t' t'' : ThrottleId}

theorem refl (s : System) (t : ThrottleId) : Matches s s t t := ⟨rfl, fun _ _ => Iff.rfl, rfl⟩

theorem trans (h : Matches s s' t t') (h' : Matches s' s'' t' t'') : Matches s s'' t t'' :=
  ⟨h'.throttle.trans h.throttle, fun r d => (h'.member r d).trans (h.member r d), h'.lines.trans h.lines⟩

theorem symm (h : Matches s s' t t') : Matches s' s t' t :=
  ⟨h.throttle.symm, fun r d => (h.member r d).symm, h.lines.symm⟩

theorem key (h : Matches s s' t t') : s'.key t' = s.key t := by rw [System.key, h.throttle, System.key]

theorem limiter (h : Matches s s' t t') : (s'.throttle t').limiter = (s.throttle t).limiter :=
  congrArg Throttle.limiter h.throttle

/-- Nothing is written about the throttle. -/
theorem wrote {es : List Entry} (wrote : Wrote es s s') (quiet : es.filterMap (Entry.about? t) = []) :
    Matches s s' t t where
  throttle := by rw [System.throttle, wrote.throttles, System.throttle]
  member r d := by rw [roster, wrote.rosters, roster]
  lines := by rw [linesOf_append wrote.journal, quiet, List.append_nil]

/-- The same is written about both throttles. -/
theorem written {s₁ s₁' : System} {es es' : List Entry} (h : Matches s s' t t') (wrote : Wrote es s s₁)
    (wrote' : Wrote es' s' s₁') (same : es'.filterMap (Entry.about? t') = es.filterMap (Entry.about? t)) :
    Matches s₁ s₁' t t' where
  throttle := by
    rw [System.throttle, wrote'.throttles, ← System.throttle, h.throttle, System.throttle, System.throttle,
      wrote.throttles]
  member r d := by
    rw [roster, roster, wrote'.rosters, wrote.rosters]
    exact h.member r d
  lines := by rw [linesOf_append wrote'.journal, linesOf_append wrote.journal, h.lines, same]

theorem drained (h : Matches s s' t t') (level : Level s s') (r : RosterId) :
    Matches (drained r s) (System.drained r s') t t' where
  throttle := h.throttle
  member i d := by
    rw [roster_drained, roster_drained, level.rosters]
    split
    · rw [Roster.membersAt_drain, Roster.membersAt_drain]
      exact ⟨fun none => absurd none List.not_mem_nil, fun none => absurd none List.not_mem_nil⟩
    · exact h.member i d
  lines := by rw [linesOf_drained, linesOf_drained, h.lines]

theorem changeRoster (h : Matches s s' t t') (level : Level s s') (r : RosterId) {f : Roster → Roster}
    (members : ∀ x d, (f x).membersAt d = x.membersAt d) :
    Matches (changeRoster r f s) (System.changeRoster r f s') t t' where
  throttle := h.throttle
  member i d := by
    rw [roster_changeRoster, roster_changeRoster, level.rosters]
    split
    · rw [members, members]
      exact h.member i d
    · exact h.member i d
  lines := h.lines

theorem enrolled (h : Matches s s' t t') (level : Level s s') (r : RosterId) (made : t < s.throttles.size)
    (made' : t' < s'.throttles.size) : Matches (enrolled r t s) (System.enrolled r t' s') t t' where
  throttle := by
    rw [throttle_enrolled, throttle_enrolled, if_pos ⟨rfl, made'⟩, if_pos ⟨rfl, made⟩, h.throttle, level.epoch]
  member i d := by
    rw [mem_membersAt_enrolled, mem_membersAt_enrolled, h.member, level.rosters, level.period_eq h.key]
    simp only [and_true]
  lines := h.lines

/-- Another throttle is enrolled. -/
theorem enrolled_other (s : System) (r : RosterId) {u : ThrottleId} (other : u ≠ t) :
    Matches s (System.enrolled r u s) t t where
  throttle := by rw [throttle_enrolled, if_neg fun own => other own.1]
  member i d := by
    rw [mem_membersAt_enrolled]
    exact ⟨fun h => h.resolve_right fun own => other own.2.2.symm, .inl⟩
  lines := rfl

theorem setLimiter_other (s : System) (x : Limiter) {u : ThrottleId} (other : u ≠ t) :
    Matches s (setLimiter u x s) t t where
  throttle := by rw [throttle_setLimiter, if_neg fun own => other own.1]
  member _ _ := Iff.rfl
  lines := rfl

theorem ticked_other (s : System) (severity : Severity) {u : ThrottleId} (other : u ≠ t) :
    Matches s (ticked u severity s) t t where
  throttle := by rw [throttle_ticked, if_neg fun own => other own.1]
  member r d := by rw [roster, rosters_ticked, roster]
  lines := by rw [linesOf, journal_ticked, linesOf]

theorem registered_other (s : System) (p : Key) (made : t < s.throttles.size) :
    Matches s (registered p.1 p.2 s) t t where
  throttle := by rw [throttle_registered, if_neg (Nat.ne_of_lt made)]
  member _ _ := Iff.rfl
  lines := rfl

/-- Throttles that were made just now, before they are enrolled. -/
theorem registered (grown : Grown s) (grown' : Grown s') (p : Key) :
    Matches (registered p.1 p.2 s) (System.registered p.1 p.2 s') s.throttles.size s'.throttles.size where
  throttle := by rw [throttle_registered, throttle_registered, if_pos rfl, if_pos rfl]
  member r d := by
    have apart {s : System} (grown : Grown s) : s.throttles.size ∉ (s.roster r).membersAt d := fun member =>
      Nat.lt_irrefl _ (grown.filed r d _ member).1
    exact ⟨fun member => absurd member (apart grown'), fun member => absurd member (apart grown)⟩
  lines := (grown'.silent _ (Nat.le_refl _)).trans (grown.silent _ (Nat.le_refl _)).symm

theorem attempted (h : Matches s s' t t') (level : Level s s') (made : t < s.throttles.size)
    (made' : t' < s'.throttles.size) :
    Matches (setLimiter t (s.verdict t).2 s) (setLimiter t' (s'.verdict t').2 s') t t' where
  throttle := by
    rw [throttle_setLimiter, throttle_setLimiter, if_pos ⟨rfl, made'⟩, if_pos ⟨rfl, made⟩, h.throttle,
      level.verdict_eq h.key h.limiter]
  member := h.member
  lines := h.lines

theorem ticked (h : Matches s s' t t') (level : Level s s') (severity : Severity) (made : t < s.throttles.size)
    (made' : t' < s'.throttles.size) : Matches (ticked t severity s) (System.ticked t' severity s') t t' where
  throttle := by
    rw [throttle_ticked, throttle_ticked, if_pos ⟨rfl, made'⟩, if_pos ⟨rfl, made⟩, h.throttle,
      level.verdict_eq h.key h.limiter]
  member r d := by
    rw [roster, rosters_ticked, roster, rosters_ticked]
    exact h.member r d
  lines := by rw [linesOf, linesOf, journal_ticked, journal_ticked]; exact h.lines

end Matches

section Passes
variable {s s₁ s' s₁' : System} {t t' : ThrottleId} {ts ts' : List ThrottleId}

/-- A pass over different throttles writes one digest of each at most. -/
theorem about?_flatMap_digestEntries (distinct : ts.Nodup) (s : System) (t : ThrottleId) :
    (ts.flatMap s.digestEntries).filterMap (Entry.about? t) =
      if t ∈ ts then (s.digestEntries t).filterMap (Entry.about? t) else [] := by
  induction ts with
  | nil => rfl
  | cons u ts ih =>
    obtain ⟨once, distinct⟩ := List.nodup_cons.mp distinct
    rw [List.flatMap_cons, List.filterMap_append, ih distinct]
    by_cases own : u = t
    · subst own
      rw [if_neg once, if_pos List.mem_cons_self, List.append_nil]
    · have other : ¬t = u := fun e => own e.symm
      rw [about?_digestEntries, if_neg own, List.nil_append]
      simp only [List.mem_cons, other, false_or]

theorem Told.throttle_eq {es : List Entry} (told : Told es s s₁) (t : ThrottleId) :
    s₁.throttle t = { s.throttle t with limiter := (s₁.throttle t).limiter } :=
  congrArg (fun x : Throttle => { x with limiter := (s₁.throttle t).limiter }) (told.throttle t)

/-- A pass in each system, over both or over neither of two throttles that match. -/
theorem Matches.resetAll (h : Matches s s' t t') (level : Level s s') (calm : Calm s) (calm' : Calm s')
    (made : t < s.throttles.size) (made' : t' < s'.throttles.size) (distinct : ts.Nodup) (distinct' : ts'.Nodup)
    (both : t' ∈ ts' ↔ t ∈ ts) : Matches ((resetAll ts).exec s).2 ((System.resetAll ts').exec s').2 t t' := by
  have cleared := limiter_resetAll ts s t
  have cleared' := limiter_resetAll ts' s' t'
  obtain ⟨s₁, he, told⟩ := resetAll_serene calm.serene distinct
  obtain ⟨s₁', he', told'⟩ := resetAll_serene calm'.serene distinct'
  rw [he] at cleared ⊢
  rw [he'] at cleared' ⊢
  refine ⟨?_, fun r d => ?_, ?_⟩
  · rw [told.throttle_eq, told'.throttle_eq, cleared, cleared', h.throttle]
    simp only [both, made, made']
  · rw [roster, roster, told.rosters, told'.rosters]
    exact h.member r d
  · rw [linesOf_append told.journal, linesOf_append told'.journal, about?_flatMap_digestEntries distinct,
      about?_flatMap_digestEntries distinct', about?_digestEntries, about?_digestEntries, if_pos rfl,
      if_pos rfl, h.lines, level.digest?_eq h.key h.limiter, h.throttle, level.logger_sink]
    simp only [both]

end Passes

end LogThrottle.System
