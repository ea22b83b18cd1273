import LogThrottle.Duration
import LogThrottle.Ids
import LogThrottle.Store

/-! Rosters: throttles grouped by period. A period keeps its slot once it has one; the slot's reset
job is scheduled when the slot is made, unless the roster is closed. -/
namespace LogThrottle

structure Slot where
  members : Store ThrottleId Unit := .empty
  /-- Whether a reset job runs each time the period ends. -/
  scheduled : Bool
  deriving Inhabited

structure Roster where
  slots : Store Duration Slot := .empty
  /-- Counts the flushes; wraps at 2^64. -/
  epoch : UInt64 := 0
  closed : Bool := false

namespace Roster

instance : Inhabited Roster := ⟨{}⟩

def members (r : Roster) : List ThrottleId := r.slots.values.flatMap (·.members.keys)

def membersAt (r : Roster) (period : Duration) : List ThrottleId :=
  ((r.slots.find? period).map (·.members.keys)).getD []

/-- Whether enrolling under a period would make a slot with a reset job. -/
def schedules (r : Roster) (period : Duration) : Bool :=
  (r.slots.find? period).isNone && !r.closed

/-- Enrols a throttle once, under its period. -/
def enrol (r : Roster) (period : Duration) (t : ThrottleId) : Roster :=
  let slots := (r.slots.insert period { scheduled := !r.closed }).1
  { r with slots := slots.map fun p s =>
      if p = period then { s with members := (s.members.insert t ()).1 } else s }

/-- Begins an epoch with empty slots. -/
def drain (r : Roster) : Roster :=
  { r with epoch := r.epoch + 1, slots := r.slots.map fun _ s => { s with members := .empty } }

def close (r : Roster) : Roster := { r with closed := true }

def cancelJobs (r : Roster) : Roster :=
  { r with slots := r.slots.map fun _ s => { s with scheduled := false } }

/-- The throttles that the reset job of a period would reset. -/
def due (r : Roster) (period : Duration) : List ThrottleId :=
  match r.slots.find? period with
  | some s => if s.scheduled then s.members.keys else []
  | none => []

@[simp] theorem epoch_enrol (r : Roster) (period : Duration) (t : ThrottleId) :
    (r.enrol period t).epoch = r.epoch := rfl

@[simp] theorem closed_enrol (r : Roster) (period : Duration) (t : ThrottleId) :
    (r.enrol period t).closed = r.closed := rfl

theorem mem_membersAt {r : Roster} {period : Duration} {t : ThrottleId} :
    t ∈ r.membersAt period ↔ ∃ s, r.slots.find? period = some s ∧ t ∈ s.members.keys := by
  unfold membersAt
  cases r.slots.find? period <;> simp

theorem mem_membersAt_enrol {r : Roster} {period p : Duration} {t u : ThrottleId} :
    u ∈ (r.enrol period t).membersAt p ↔ u ∈ r.membersAt p ∨ p = period ∧ u = t := by
  simp only [membersAt, enrol, Store.find?_map, Store.find?_insert]
  by_cases hp : p = period
  · subst hp
    cases r.slots.find? p with
    | none => simp [Store.keys_insert]
    | some s =>
      simp only [Store.keys_insert, if_true, Option.getD_some, Option.map_some, true_and]
      split
      · rename_i ht
        exact ⟨Or.inl, fun h => h.elim id (· ▸ ht)⟩
      · rw [List.mem_cons, Or.comm]
  · cases r.slots.find? p <;> simp [hp]

@[simp] theorem membersAt_drain (r : Roster) (period : Duration) : r.drain.membersAt period = [] := by
  simp only [membersAt, drain, Store.find?_map]
  cases r.slots.find? period <;> simp

@[simp] theorem membersAt_close (r : Roster) (period : Duration) :
    r.close.membersAt period = r.membersAt period := rfl

@[simp] theorem membersAt_cancelJobs (r : Roster) (period : Duration) :
    r.cancelJobs.membersAt period = r.membersAt period := by
  simp only [membersAt, cancelJobs, Store.find?_map]
  cases r.slots.find? period <;> simp

theorem nodup_membersAt (r : Roster) (period : Duration) : (r.membersAt period).Nodup := by
  unfold membersAt
  cases r.slots.find? period with
  | none => exact List.nodup_nil
  | some s => exact s.members.nodup_keys

/-- Being a member is being a member of some slot. -/
theorem mem_members {r : Roster} {t : ThrottleId} :
    t ∈ r.members ↔ ∃ period, t ∈ r.membersAt period := by
  simp only [members, mem_membersAt, List.mem_flatMap, Store.mem_values]
  constructor
  · rintro ⟨s, ⟨p, hp⟩, ht⟩
    exact ⟨p, s, hp, ht⟩
  · rintro ⟨p, s, hp, ht⟩
    exact ⟨s, ⟨p, hp⟩, ht⟩

theorem members_drain (r : Roster) : r.drain.members = [] := by
  refine List.eq_nil_iff_forall_not_mem.mpr fun t member => ?_
  obtain ⟨p, member⟩ := mem_members.mp member
  rw [membersAt_drain] at member
  exact List.not_mem_nil member

theorem due_subset (r : Roster) (period : Duration) : r.due period ⊆ r.membersAt period := by
  intro t ht
  unfold due at ht
  split at ht
  · rename_i s hs
    split at ht
    · exact mem_membersAt.mpr ⟨s, hs, ht⟩
    · exact absurd ht List.not_mem_nil
  · exact absurd ht List.not_mem_nil

end Roster
end LogThrottle
