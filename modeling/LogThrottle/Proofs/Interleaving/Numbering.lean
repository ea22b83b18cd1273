import LogThrottle.Proofs.Interleaving.Marking

/-! Numbers of events. While nobody resets the limiter, the events are numbered as they are counted, and each number
is with one caller under way or with one attempt that returned. -/
namespace LogThrottle.Interleaving.Attempt
open Phase

/-- The number of the event that a caller here has counted. -/
def Phase.number? : Phase → Option UInt64
  | .counted n | .owing n | .checking n | .timing n | .marking n _ | .passing n => some n
  | .idle | .clearing | .emptying _ | .reset .. => none

namespace Config

def numbers (x : Config) (c : Caller) : Option UInt64 := (x.phase c).number?

/-- Numbers of the attempts that returned, the latest first. -/
def given (x : Config) : List UInt64 := x.returned.map Prod.fst

theorem numbers_enter (x : Config) (c : Caller) (p : Phase) :
    (x.enter c p).numbers = Function.update x.numbers c p.number? :=
  read_moved Phase.number? ..

/-- A caller moves on with the number that it has. -/
theorem numbers_move {x : Config} {c : Caller} {p q : Phase} (at_ : x.phase c = p) (same : q.number? = p.number?) :
    (x.enter c q).numbers = x.numbers :=
  read_moved_of_eq at_ same

end Config

/-- The numbers up to the last one are each in one place: with an attempt that returned, or with a caller under way,
who has one at or past the limit. -/
structure Numbering (limit : UInt32) (given : List UInt64) (borne : Caller → Option UInt64) (events : Nat) : Prop where
  le : ∀ m ∈ given, m.toNat ≤ events
  once : given.Nodup
  past : ∀ c m, borne c = some m → limit.toNat ≤ m.toNat ∧ m.toNat ≤ events
  apart : ∀ c d m, borne c = some m → borne d = some m → c = d
  pending : ∀ c m, borne c = some m → m ∉ given
  all : ∀ m : UInt64, 0 < m.toNat → m.toNat ≤ events → m ∈ given ∨ ∃ c, borne c = some m

namespace Numbering
variable {limit : UInt32} {given : List UInt64} {borne : Caller → Option UInt64} {events : Nat} {c : Caller}
  {m : UInt64}

/-- The next event passes at once. -/
theorem pass (h : Numbering limit given borne events) (next : m.toNat = events + 1) :
    Numbering limit (m :: given) borne (events + 1) where
  le k member := by
    rcases List.mem_cons.mp member with rfl | old
    · exact next.le
    · exact Nat.le_succ_of_le (h.le k old)
  once := List.nodup_cons.mpr ⟨fun old => by have := h.le m old; omega, h.once⟩
  past d k has := ⟨(h.past d k has).1, Nat.le_succ_of_le (h.past d k has).2⟩
  apart := h.apart
  pending d k has member := by
    rcases List.mem_cons.mp member with rfl | old
    · have := (h.past d k has).2
      omega
    · exact h.pending d k has old
  all k positive le := by
    rcases Nat.le_succ_iff.mp le with old | last
    · exact (h.all k positive old).imp_left (List.mem_cons_of_mem m)
    · exact .inl (UInt64.toNat_inj.mp (last.trans next.symm) ▸ List.mem_cons_self)

/-- A caller counts the next event and is under way with it. -/
theorem take (h : Numbering limit given borne events) (next : m.toNat = events + 1) (past : limit.toNat ≤ m.toNat)
    (free : borne c = none) : Numbering limit given (Function.update borne c (some m)) (events + 1) where
  le k member := Nat.le_succ_of_le (h.le k member)
  once := h.once
  past d k has := by
    rw [Function.update_apply] at has
    split at has
    · cases has
      exact ⟨past, next.le⟩
    · exact ⟨(h.past d k has).1, Nat.le_succ_of_le (h.past d k has).2⟩
  apart d e k has has' := by
    rw [Function.update_apply] at has has'
    split at has <;> split at has'
    · exact ‹d = c›.trans ‹e = c›.symm
    · cases has
      have := (h.past e m has').2
      omega
    · cases has'
      have := (h.past d m has).2
      omega
    · exact h.apart d e k has has'
  pending d k has member := by
    rw [Function.update_apply] at has
    split at has
    · cases has
      have := h.le m member
      omega
    · exact h.pending d k has member
  all k positive le := by
    rcases Nat.le_succ_iff.mp le with old | last
    · refine (h.all k positive old).imp_right fun ⟨d, has⟩ => ⟨d, ?_⟩
      rwa [Function.update_of_ne]
      rintro rfl
      cases has.symm.trans free
    · refine .inr ⟨c, ?_⟩
      rw [Function.update_self, UInt64.toNat_inj.mp (last.trans next.symm)]

/-- A caller returns. -/
theorem give (h : Numbering limit given borne events) (has : borne c = some m) :
    Numbering limit (m :: given) (Function.update borne c none) events where
  le k member := by
    rcases List.mem_cons.mp member with rfl | old
    · exact (h.past c k has).2
    · exact h.le k old
  once := List.nodup_cons.mpr ⟨h.pending c m has, h.once⟩
  past d k has' := by
    rw [Function.update_apply] at has'
    split at has'
    · cases has'
    · exact h.past d k has'
  apart d e k has' has'' := by
    rw [Function.update_apply] at has' has''
    split at has' <;> split at has''
    · cases has'
    · cases has'
    · cases has''
    · exact h.apart d e k has' has''
  pending d k has' member := by
    rw [Function.update_apply] at has'
    split at has'
    · cases has'
    · rcases List.mem_cons.mp member with rfl | old
      · exact absurd (h.apart d c k has' has) ‹d ≠ c›
      · exact h.pending d k has' old
  all k positive le := by
    obtain member | ⟨d, has'⟩ := h.all k positive le
    · exact .inl (List.mem_cons_of_mem m member)
    · by_cases own : d = c
      · subst own
        cases has.symm.trans has'
        exact .inl List.mem_cons_self
      · exact .inr ⟨d, (Function.update_of_ne own ..).trans has'⟩

end Numbering

def Numbered (limit : UInt32) (x : Config) : Prop := Numbering limit x.given x.numbers x.events

namespace Numbered
variable {limit : UInt32} {x y : Config}

/-- An event has one decision. -/
theorem decision_eq (h : Numbered limit x) {m : UInt64} {a b : Decision} (one : (m, a) ∈ x.returned)
    (other : (m, b) ∈ x.returned) : a = b :=
  congrArg Prod.snd (List.inj_on_of_nodup_map h.once one other rfl)

theorem step (h : Numbered limit x) (m : Marked limit x) (few : y.events < 2 ^ 64) (s : Step limit x y) :
    Numbered limit y := by
  have move {c : Caller} {p q : Phase} (at_ : x.phase c = p) (same : q.number? = p.number?) :
      Numbering limit x.given (x.enter c q).numbers x.events :=
    (Config.numbers_move at_ same).symm ▸ h
  have give {c : Caller} {p : Phase} {n : UInt64} (at_ : x.phase c = p) (has : p.number? = some n) :
      Numbering limit (n :: x.given) (x.enter c .idle).numbers x.events :=
    (x.numbers_enter c .idle).symm ▸ Numbering.give h ((congrArg Phase.number? at_).trans has)
  have next (few : x.events + 1 < 2 ^ 64) : x.limiter.ordinal.toNat = x.events + 1 := by
    rw [Limiter.ordinal_toNat, m.count, Nat.mod_eq_of_lt (Nat.lt_of_succ_lt few)]
    omega
  cases s with
  | countBelow c at_ below => exact Numbering.pass h (next few)
  | countPast c at_ past =>
    have free : x.numbers c = none := congrArg Phase.number? at_
    have taken := Numbering.take h (next few) ((next few).symm ▸ m.events_of_ordinal_past past) free
    have moved : Numbering limit x.given (x.enter c (.counted x.limiter.ordinal)).numbers (x.events + 1) :=
      (x.numbers_enter c _).symm ▸ taken
    exact moved
  | seeMark c at_ limited => exact give at_ rfl
  | seeNone c at_ unlimited => exact move at_ rfl
  | acquire c at_ free => exact move at_ rfl
  | findBelow c at_ below => exact move at_ rfl
  | findPast c at_ past => exact move at_ rfl
  | readClock c now at_ => exact move at_ rfl
  | setMark c at_ => exact move at_ rfl
  | allow c at_ => exact give at_ rfl

end Numbered

end LogThrottle.Interleaving.Attempt
