import LogThrottle.Interleaving.Lookup
import LogThrottle.Proofs.Interleaving.Runs
import LogThrottle.Proofs.Interleaving.Traces
import LogThrottle.Proofs.System.Growth

/-! Overlapping lookups of one logger. Whoever inserts a topic first settles its throttle for all: a catalogue that
does not overflow only gains topics, and what a lookup returns, what is enrolled and what is about to be is in it. -/
namespace LogThrottle

namespace Catalogue

/-- A catalogue of given topics. -/
def ofTopics : List Topic → Catalogue
  | [] => cleared
  | topic :: topics => ((ofTopics topics).insert topic 0).1

theorem find?_ofTopics {topics : List Topic} {topic : Topic} :
    (ofTopics topics).find? topic ≠ none ↔ topic ∈ topics := by
  induction topics with
  | nil => exact iff_of_false (fun found => found (find?_cleared topic)) List.not_mem_nil
  | cons first rest ih =>
    rw [ofTopics, find?_insert, List.mem_cons]
    by_cases same : topic = first
    · simp [same]
    · simpa [same] using ih

theorem size_ofTopics {topics : List Topic} (distinct : topics.Nodup) : (ofTopics topics).size = topics.length := by
  induction topics with
  | nil => rfl
  | cons first rest ih =>
    obtain ⟨new, distinct⟩ := List.nodup_cons.mp distinct
    have absent : (ofTopics rest).find? first = none := not_not.mp fun found => new (find?_ofTopics.mp found)
    exact (size_insert_of_none 0 absent).trans (congrArg (· + 1) (ih distinct))

/-- A catalogue is no larger than a list that has all its topics. -/
theorem size_le_length {c : Catalogue} {topics : List Topic} (distinct : topics.Nodup)
    (listed : ∀ topic, c.find? topic ≠ none → topic ∈ topics) : c.size ≤ topics.length := calc
  c.size ≤ (ofTopics topics).size := size_le fun topic found => find?_ofTopics.mpr (listed topic found)
  _ = topics.length := size_ofTopics distinct

/-- An insertion gives what is kept, and says whether that is new. -/
theorem insert_snd (c : Catalogue) (topic : Topic) (t : ThrottleId) :
    (c.insert topic t).2 = ((c.find? topic).getD t, (c.find? topic).isNone) := by
  cases found : c.find? topic with
  | none => exact insert_of_none t found
  | some kept => exact congrArg Prod.snd (Store.insert_of_some t found)

end Catalogue

namespace Interleaving.Lookup

/-- The topic that a caller here is looking up. -/
def Phase.topic? : Phase → Option Topic
  | .idle => none
  | .missing topic | .inserting topic | .enrolling topic _ => some topic

def Config.sought (x : Config) (c : Caller) : Option Topic := (x.phase c).topic?

section Steps
variable {capacity : Nat} {period : Duration} {x y : Config} {c : Caller} {p q : Phase}

theorem sought_enter (x : Config) (c : Caller) (p : Phase) :
    (x.enter c p).sought = Function.update x.sought c p.topic? :=
  read_moved Phase.topic? ..

/-- A caller goes on with its lookup. -/
theorem sought_move (at_ : x.phase c = p) (same : q.topic? = p.topic?) : (x.enter c q).sought = x.sought :=
  read_moved_of_eq at_ same

/-- The topics asked for are those of lookups that returned and of those under way, and only they are listed. -/
structure Asked (x : Config) : Prop where
  listed : ∀ topic, x.catalogue.find? topic ≠ none → topic ∈ x.asked
  sought : ∀ c topic, x.sought c = some topic → topic ∈ x.asked
  answered : ∀ topic ∈ x.asked, (∃ t, (topic, t) ∈ x.returned) ∨ ∃ c, x.sought c = some topic

namespace Asked

/-- A caller comes upon the next step of its lookup. -/
private theorem move (h : Asked x) (sought : y.sought = x.sought) (asked : y.asked = x.asked)
    (returned : y.returned = x.returned)
    (listed : ∀ topic, y.catalogue.find? topic ≠ none → topic ∈ x.asked) : Asked y := by
  constructor <;> simp only [sought, asked, returned]
  exacts [listed, h.sought, h.answered]

/-- A caller returns. -/
private theorem finish (h : Asked x) {topic : Topic} {t : ThrottleId} (at_ : x.sought c = some topic)
    (sought : y.sought = Function.update x.sought c none) (asked : y.asked = x.asked)
    (returned : y.returned = (topic, t) :: x.returned) (catalogue : y.catalogue = x.catalogue) : Asked y := by
  refine ⟨?_, fun d other has => ?_, fun other member => ?_⟩
  · rw [catalogue, asked]
    exact h.listed
  · rw [sought, Function.update_apply] at has
    split at has
    · cases has
    · exact asked ▸ h.sought d other has
  · rw [returned, sought]
    obtain ⟨u, member⟩ | ⟨d, has⟩ := h.answered other (asked ▸ member)
    · exact .inl ⟨u, List.mem_cons_of_mem _ member⟩
    · by_cases own : d = c
      · subst own
        cases at_.symm.trans has
        exact .inl ⟨t, List.mem_cons_self⟩
      · exact .inr ⟨d, (Function.update_of_ne own ..).trans has⟩

theorem step (h : Asked x) (s : Step capacity period x y) : Asked y := by
  cases s with
  | @hit c topic t idle found =>
    refine ⟨fun other found => List.mem_cons_of_mem _ (h.listed other found),
      fun d other has => List.mem_cons_of_mem _ (h.sought d other has), fun other member => ?_⟩
    rcases List.mem_cons.mp member with rfl | old
    · exact .inl ⟨t, List.mem_cons_self⟩
    · exact (h.answered other old).imp_left fun ⟨u, member⟩ => ⟨u, List.mem_cons_of_mem _ member⟩
  | miss c topic idle absent =>
    have sought := sought_enter x c (.missing topic)
    refine ⟨fun other found => List.mem_cons_of_mem _ (h.listed other found), fun d other has => ?_,
      fun other member => ?_⟩
    · have has : (x.enter c (.missing topic)).sought d = some other := has
      rw [sought, Function.update_apply] at has
      split at has
      · cases has
        exact List.mem_cons_self
      · exact List.mem_cons_of_mem _ (h.sought d other has)
    · show _ ∨ ∃ d, (x.enter c (.missing topic)).sought d = some other
      rw [sought]
      rcases List.mem_cons.mp member with rfl | old
      · exact .inr ⟨c, Function.update_self ..⟩
      · refine (h.answered other old).imp_right fun ⟨d, has⟩ => ⟨d, ?_⟩
        rwa [Function.update_of_ne]
        rintro rfl
        cases has.symm.trans (congrArg Phase.topic? idle)
  | room c at_ room => exact h.move (sought_move at_ rfl) rfl rfl h.listed
  | overflow c at_ full =>
    exact h.move (sought_move at_ rfl) rfl rfl fun topic found => absurd (Catalogue.find?_cleared topic) found
  | @insert c topic at_ fresh =>
    refine h.move (sought_move at_ rfl) rfl rfl fun other found => ?_
    have found : (x.catalogue.insert topic x.made).1.find? other ≠ none := found
    rw [Catalogue.find?_insert] at found
    by_cases same : other = topic
    · exact h.sought c other (same ▸ congrArg Phase.topic? at_)
    · exact h.listed other (by simpa [same] using found)
  | lose c at_ stale => exact h.finish (congrArg Phase.topic? at_) (sought_enter x c .idle) rfl rfl rfl
  | enrol c at_ => exact h.finish (congrArg Phase.topic? at_) (sought_enter x c .idle) rfl rfl rfl

theorem moved (h : Asked x) (s : Move capacity period x y) : Asked y := by
  obtain s | s := s
  · exact h.step s
  · cases s
    exact ⟨h.listed, h.sought, h.answered⟩

end Asked

/-- What a lookup brings in stays. -/
structure Kept (x y : Config) : Prop where
  catalogue : ∀ topic t, x.catalogue.find? topic = some t → y.catalogue.find? topic = some t
  lost : x.lost ⊆ y.lost

/-- What callers have and what is enrolled is what the catalogue has. -/
structure Shared (x : Config) : Prop where
  made : ∀ topic t, x.catalogue.find? topic = some t → t < x.made
  apart : ∀ a b t, x.catalogue.find? a = some t → x.catalogue.find? b = some t → a = b
  enrolling : ∀ c topic t, x.phase c = .enrolling topic t → x.catalogue.find? topic = some t
  returned : ∀ topic t, (topic, t) ∈ x.returned → x.catalogue.find? topic = some t
  members : ∀ t ∈ x.roster.members, ∃ topic, x.catalogue.find? topic = some t
  lost : ∀ t ∈ x.lost, t < x.made ∧ ∀ topic, x.catalogue.find? topic ≠ some t
  overflows : x.overflows = 0

namespace Shared

/-- A caller that is not about to enrol moves, and nobody else. -/
private theorem elsewhere (h : Shared x) (away : ∀ topic t, p ≠ .enrolling topic t) (d : Caller) (topic : Topic)
    (t : ThrottleId) (at_ : (x.enter c p).phase d = .enrolling topic t) : x.catalogue.find? topic = some t := by
  revert topic t
  refine forall_moved (P := fun _ (p : Phase) => ∀ topic t, p = .enrolling topic t → x.catalogue.find? topic = some t)
    (fun topic t at_ => absurd at_ (away topic t)) (fun d _ topic t at_ => h.enrolling d topic t at_) d

/-- A lookup brings in a new topic. -/
private theorem insert (h : Shared x) {topic : Topic} (absent : x.catalogue.find? topic = none) :
    Shared { x.enter c (.enrolling topic x.made) with
      catalogue := (x.catalogue.insert topic x.made).1
      made := x.made + 1 } := by
  have find (other : Topic) : (x.catalogue.insert topic x.made).1.find? other =
      if other = topic then some x.made else x.catalogue.find? other := by
    rw [Catalogue.find?_insert, absent, Option.getD_none]
  have kept {other : Topic} {t : ThrottleId} (found : x.catalogue.find? other = some t) :
      (x.catalogue.insert topic x.made).1.find? other = some t := by
    have old : other ≠ topic := by
      rintro rfl
      cases found.symm.trans absent
    rw [find, if_neg old, found]
  constructor <;> dsimp only
  · intro other t found
    rw [find] at found
    split at found
    · cases found
      exact Nat.lt_succ_self _
    · exact Nat.lt_succ_of_lt (h.made other t found)
  · intro a b t found found'
    rw [find] at found found'
    split at found <;> split at found'
    · exact ‹a = topic›.trans ‹b = topic›.symm
    · cases found
      exact absurd (h.made b _ found') (Nat.lt_irrefl _)
    · cases found'
      exact absurd (h.made a _ found) (Nat.lt_irrefl _)
    · exact h.apart a b t found found'
  · refine forall_moved (P := fun _ (p : Phase) => ∀ other t, p = .enrolling other t →
      (x.catalogue.insert topic x.made).1.find? other = some t) (fun other t at_ => ?_)
      fun d _ other t at_ => kept (h.enrolling d other t at_)
    cases at_
    rw [find, if_pos rfl]
  · exact fun other t member => kept (h.returned other t member)
  · intro t member
    obtain ⟨other, found⟩ := h.members t member
    exact ⟨other, kept found⟩
  · intro t member
    obtain ⟨made, gone⟩ := h.lost t member
    refine ⟨Nat.lt_succ_of_lt made, fun other found => ?_⟩
    rw [find] at found
    split at found
    · cases found
      exact Nat.lt_irrefl _ made
    · exact gone other found
  · exact h.overflows

theorem step (h : Shared x) (room : x.catalogue.size ≤ capacity) (s : Step capacity period x y) :
    Shared y ∧ Kept x y := by
  have same {z : Config} (catalogue : z.catalogue = x.catalogue) (lost : x.lost ⊆ z.lost) : Kept x z :=
    ⟨fun topic t found => catalogue ▸ found, lost⟩
  cases s with
  | @hit c topic t idle found =>
    refine ⟨{ h with returned := fun other u member => ?_ }, same rfl (List.Subset.refl _)⟩
    rcases List.mem_cons.mp member with new | old
    · cases new
      exact found
    · exact h.returned other u old
  | miss c topic idle absent =>
    exact ⟨{ h with enrolling := h.elsewhere nofun }, same rfl (List.Subset.refl _)⟩
  | room c at_ room => exact ⟨{ h with enrolling := h.elsewhere nofun }, same rfl (List.Subset.refl _)⟩
  | overflow c at_ full => exact absurd full (Nat.not_lt.mpr room)
  | @insert c topic at_ fresh =>
    have absent : x.catalogue.find? topic = none := by
      rw [Catalogue.insert_snd] at fresh
      exact Option.isNone_iff_eq_none.mp fresh
    refine ⟨h.insert absent, fun other t found => ?_, List.Subset.refl _⟩
    have old : other ≠ topic := by
      rintro rfl
      cases found.symm.trans absent
    exact (Catalogue.find?_insert ..).trans ((if_neg old).trans found)
  | @lose c topic at_ stale =>
    obtain ⟨kept, found⟩ : ∃ kept, x.catalogue.find? topic = some kept := by
      rw [Catalogue.insert_snd] at stale
      exact Option.ne_none_iff_exists'.mp fun absent => by simp [absent] at stale
    have given : (x.catalogue.insert topic x.made).2.1 = kept := by rw [Catalogue.insert_snd, found, Option.getD_some]
    refine ⟨{ h with
      made := fun other t found => Nat.lt_succ_of_lt (h.made other t found)
      enrolling := h.elsewhere nofun
      returned := fun other u member => ?_
      lost := fun t member => ?_ }, same rfl (List.subset_cons_self _ _)⟩
    · rcases List.mem_cons.mp member with new | old
      · cases new
        exact given ▸ found
      · exact h.returned other u old
    · rcases List.mem_cons.mp member with rfl | old
      · exact ⟨Nat.lt_succ_self _, fun other found => Nat.lt_irrefl _ (h.made other _ found)⟩
      · exact ⟨Nat.lt_succ_of_lt (h.lost t old).1, (h.lost t old).2⟩
  | @enrol c topic t at_ =>
    have found := h.enrolling c topic t at_
    refine ⟨{ h with
      enrolling := h.elsewhere nofun
      returned := fun other u member => ?_
      members := fun u member => ?_ }, same rfl (List.Subset.refl _)⟩
    · rcases List.mem_cons.mp member with new | old
      · cases new
        exact found
      · exact h.returned other u old
    · obtain old | rfl := Enrolment.mem_members_enrol.mp member
      · exact h.members u old
      · exact ⟨topic, found⟩

theorem moved (h : Shared x) (room : x.catalogue.size ≤ capacity) (s : Move capacity period x y) :
    Shared y ∧ Kept x y := by
  obtain s | s := s
  · exact h.step room s
  · cases s
    refine ⟨{ h with members := fun t member => ?_ }, fun _ _ => id, List.Subset.refl _⟩
    rw [Roster.members_drain] at member
    cases member

end Shared

/-- A topic of the catalogue has its throttle enrolled, or somebody is about to enrol it. -/
def Enrolled (x : Config) : Prop := ∀ topic t, x.catalogue.find? topic = some t →
  t ∈ x.roster.members ∨ ∃ c, x.phase c = .enrolling topic t

theorem Enrolled.step (h : Enrolled x) (s : Step capacity period x y) : Enrolled y := by
  -- a caller that is not about to enrol moves, and whoever is stays so
  have elsewhere {c : Caller} {p : Phase} (away : ∀ topic t, x.phase c ≠ .enrolling topic t) {topic : Topic}
      {t : ThrottleId} (enrolled : t ∈ x.roster.members ∨ ∃ d, x.phase d = .enrolling topic t) :
      t ∈ x.roster.members ∨ ∃ d, (x.enter c p).phase d = .enrolling topic t :=
    enrolled.imp_right fun ⟨d, at_⟩ => ⟨d, stays_of_ne at_ (away topic t)⟩
  cases s with
  | hit c topic idle found => exact h
  | miss c topic idle absent => exact fun other t found => elsewhere (idle ▸ nofun) (h other t found)
  | room c at_ room => exact fun other t found => elsewhere (at_ ▸ nofun) (h other t found)
  | overflow c at_ full => exact fun other t found => nomatch (Catalogue.find?_cleared other).symm.trans found
  | @insert c topic at_ fresh =>
    intro other t found
    have found : (x.catalogue.insert topic x.made).1.find? other = some t := found
    rw [Catalogue.insert_snd] at fresh
    rw [Catalogue.find?_insert, Option.isNone_iff_eq_none.mp fresh, Option.getD_none] at found
    split at found
    · rename_i new
      cases found
      exact .inr ⟨c, new ▸ if_pos rfl⟩
    · exact elsewhere (at_ ▸ nofun) (h other t found)
  | lose c at_ stale => exact fun other t found => elsewhere (at_ ▸ nofun) (h other t found)
  | @enrol c topic t at_ =>
    intro other u found
    obtain member | ⟨d, at_'⟩ := h other u found
    · exact .inl (Enrolment.mem_members_enrol.mpr (.inl member))
    · by_cases own : d = c
      · subst own
        cases at_.symm.trans at_'
        exact .inl (Enrolment.mem_members_enrol.mpr (.inr rfl))
      · exact .inr ⟨d, (if_neg own).trans at_'⟩

theorem membersAt_moved (h : ∀ p, ∀ t ∈ x.roster.membersAt p, p = period) (s : Move capacity period x y) :
    ∀ p, ∀ t ∈ y.roster.membersAt p, p = period := by
  have drained (p : Duration) (t : ThrottleId) (member : t ∈ x.roster.drain.membersAt p) : p = period := by
    rw [Roster.membersAt_drain] at member
    cases member
  obtain s | s := s
  · cases s with
    | overflow c at_ full => exact drained
    | @enrol c topic t at_ =>
      intro p u member
      exact (Roster.mem_membersAt_enrol.mp member).elim (h p u) And.left
    | _ => exact h
  · cases s
    exact drained

theorem asked_moved (s : Move capacity period x y) : x.asked ⊆ y.asked := by
  obtain s | s := s
  · cases s with
    | hit | miss => exact List.subset_cons_self _ _
    | _ => exact List.Subset.refl _
  · cases s
    exact List.Subset.refl _

end Steps

section Runs
variable {capacity : Nat} {period : Duration} {x : Nat → Config} {n : Nat}

theorem asked_run (run : Trace (Move capacity period) {} x n) : Asked (x n) :=
  run.keeps ⟨fun topic found => absurd (Catalogue.find?_cleared topic) found, nofun, nofun⟩ fun i lt h =>
    h.moved (run.step i lt)

/-- Where no more topics are asked for than the capacity, there is room at every time. -/
theorem room_run (run : Trace (Move capacity period) {} x n) (few : (x n).asked.dedup.length ≤ capacity) {i : Nat}
    (le : i ≤ n) : (x i).catalogue.size ≤ capacity := by
  have asked : (x i).asked ⊆ (x n).asked := run.stays (P := fun y => (x i).asked ⊆ y.asked)
    (fun _ _ s sub => List.Subset.trans sub (asked_moved s)) le le_rfl (List.Subset.refl _)
  refine (Catalogue.size_le_length (List.nodup_dedup _) fun topic found => ?_).trans few
  exact List.mem_dedup.mpr (asked ((asked_run (run.take le)).listed topic found))

theorem shared_run (run : Trace (Move capacity period) {} x n) (few : (x n).asked.dedup.length ≤ capacity) {i : Nat}
    (le : i ≤ n) : Shared (x i) := by
  refine (run.take le).keeps ?_ fun j lt h =>
    (h.moved (room_run run few (lt.le.trans le)) (run.step j (lt.trans_le le))).1
  have nothing {topic : Topic} {t : ThrottleId} (found : ({} : Config).catalogue.find? topic = some t) : False :=
    Option.some_ne_none t (found.symm.trans (Catalogue.find?_cleared topic))
  exact ⟨fun _ _ found => (nothing found).elim, fun _ _ _ found => (nothing found).elim, nofun, nofun, nofun, nofun,
    rfl⟩

theorem kept_run (run : Trace (Move capacity period) {} x n) (few : (x n).asked.dedup.length ≤ capacity) {i j : Nat}
    (le : i ≤ j) (within : j ≤ n) : Kept (x i) (x j) := by
  have keeping : Trace Kept {} x n :=
    run.mono fun k lt s => ((shared_run run few lt.le).moved (room_run run few lt.le) s).2
  exact keeping.stays (fun _ _ s h => ⟨fun topic t found => s.catalogue topic t (h.catalogue topic t found),
    List.Subset.trans h.lost s.lost⟩) le within ⟨fun _ _ => id, List.Subset.refl _⟩

/-- A candidate that lost is never a member, neither before nor after. -/
theorem not_mem_of_lost (run : Trace (Move capacity period) {} x n) (few : (x n).asked.dedup.length ≤ capacity)
    {i j : Nat} (within : i ≤ n) (within' : j ≤ n) {t : ThrottleId} (lost : t ∈ (x i).lost) :
    t ∉ (x j).roster.members := by
  intro member
  obtain ⟨topic, found⟩ := (shared_run run few within').members t member
  obtain before | after := Nat.le_total i j
  · exact ((shared_run run few within').lost t ((kept_run run few before within').lost lost)).2 topic found
  · exact ((shared_run run few within).lost t lost).2 topic ((kept_run run few after within).catalogue topic t found)

theorem enrolled_run (run : Trace (Step capacity period) {} x n) : Enrolled (x n) :=
  run.keeps (fun topic _ found => nomatch (Catalogue.find?_cleared topic).symm.trans found) fun i lt h =>
    h.step (run.step i lt)

theorem membersAt_run (run : Trace (Move capacity period) {} x n) :
    ∀ p, ∀ t ∈ (x n).roster.membersAt p, p = period :=
  run.keeps (P := fun y => ∀ p, ∀ t ∈ y.roster.membersAt p, p = period) (fun _ _ member => nomatch member)
    fun i lt h => membersAt_moved h (run.step i lt)

/-- When all lookups have returned, each topic asked for has its throttle. -/
theorem returned_of_asked (run : Trace (Move capacity period) {} x n) (few : (x n).asked.dedup.length ≤ capacity)
    (quiet : (x n).Quiet) {topic : Topic} (asked : topic ∈ (x n).asked) :
    ∃ t, (topic, t) ∈ (x n).returned ∧ (x n).catalogue.find? topic = some t := by
  obtain ⟨t, member⟩ | ⟨c, sought⟩ := (asked_run run).answered topic asked
  · exact ⟨t, member, (shared_run run few le_rfl).returned topic t member⟩
  · rw [Config.sought, quiet c] at sought
    cases sought

end Runs

/-- Any number of callers look up topics of one logger in any interleaving, with flushes in between, and ask for no
more different topics than the capacity. Then all that look up one topic get the same throttle, and different topics
have different ones; the catalogue does not overflow; and a candidate that was not kept is never enrolled. If nobody
flushes, each topic asked for has one member of the roster when all lookups have returned, and there are no others. -/
theorem lookups_agree {capacity : Nat} {period : Duration} {x : Nat → Config} {n : Nat}
    (run : Trace (Move capacity period) {} x n) (few : (x n).asked.dedup.length ≤ capacity) :
    (∀ a s b t, (a, s) ∈ (x n).returned → (b, t) ∈ (x n).returned → (s = t ↔ a = b)) ∧
    (x n).overflows = 0 ∧
    (∀ i ≤ n, ∀ j ≤ n, ∀ t ∈ (x i).lost, t ∉ (x j).roster.members) ∧
    ((x n).Quiet → (∀ i < n, Step capacity period (x i) (x (i + 1))) → ∃ throttle : Topic → ThrottleId,
      (∀ topic ∈ (x n).asked, (topic, throttle topic) ∈ (x n).returned) ∧
      (x n).roster.members.Perm ((x n).asked.dedup.map throttle)) := by
  have shared := shared_run run few le_rfl
  refine ⟨fun a s b t one other => ?_, shared.overflows, fun i within j within' t lost => ?_, fun quiet steps => ?_⟩
  · have found := shared.returned a s one
    have found' := shared.returned b t other
    constructor
    · rintro rfl
      exact shared.apart a b s found found'
    · rintro rfl
      exact Option.some.inj (found.symm.trans found')
  · exact not_mem_of_lost run few within within' lost
  · choose! throttle returned found using fun (topic : Topic) (asked : topic ∈ (x n).asked) =>
      returned_of_asked run few quiet asked
    have enrolled := enrolled_run (run.mono fun i lt _ => steps i lt)
    have distinct : (x n).roster.members.Nodup :=
      Roster.nodup_members_of_filed fun p t member => membersAt_run run p t member
    have apart : ((x n).asked.dedup.map throttle).Nodup :=
      (List.nodup_dedup _).map_on fun a member b member' same =>
        shared.apart a b _ (found a (List.mem_dedup.mp member)) (same ▸ found b (List.mem_dedup.mp member'))
    refine ⟨throttle, returned, (List.perm_ext_iff_of_nodup distinct apart).mpr fun t => ?_⟩
    simp only [List.mem_map, List.mem_dedup]
    constructor
    · intro member
      obtain ⟨topic, listed⟩ := shared.members t member
      have asked := (asked_run run).listed topic (listed ▸ Option.some_ne_none t)
      exact ⟨topic, asked, Option.some.inj ((found topic asked).symm.trans listed)⟩
    · rintro ⟨topic, asked, rfl⟩
      obtain member | ⟨c, enrolling⟩ := enrolled topic _ (found topic asked)
      · exact member
      · rw [quiet c] at enrolling
        cases enrolling

/-- Two callers miss one topic; the second inserts it while the first is still to insert its own candidate. -/
def racing : List (Config → Config) :=
  let miss (c : Caller) (topic : Topic) (x : Config) : Config :=
    { x.enter c (.missing topic) with asked := topic :: x.asked }
  let insert (c : Caller) (topic : Topic) (x : Config) : Config :=
    { x.enter c (.enrolling topic x.made) with
      catalogue := (x.catalogue.insert topic x.made).1
      made := x.made + 1 }
  let enrol (c : Caller) (topic : Topic) (t : ThrottleId) (x : Config) : Config :=
    { x.enter c .idle with roster := x.roster.enrol .zero t, returned := (topic, t) :: x.returned }
  [miss 0 ⟨"x", none⟩, miss 1 ⟨"x", none⟩, (·.enter 0 (.inserting ⟨"x", none⟩)), (·.enter 1 (.inserting ⟨"x", none⟩)),
    insert 1 ⟨"x", none⟩,
    fun x => { x.enter 0 .idle with
      made := x.made + 1
      lost := x.made :: x.lost
      returned := (⟨"x", none⟩, (x.catalogue.insert ⟨"x", none⟩ x.made).2.1) :: x.returned },
    miss 0 ⟨"y", none⟩, (·.enter 0 (.inserting ⟨"y", none⟩)), enrol 1 ⟨"x", none⟩ 0, insert 0 ⟨"y", none⟩,
    enrol 0 ⟨"y", none⟩ 2]

def afterRacing (i : Nat) : Config := (racing.take i).foldl (fun x f => f x) {}

private theorem step_racing (i : Nat) (lt : i < 11) : Step 2 .zero (afterRacing i) (afterRacing (i + 1)) := by
  interval_cases i
  · exact .miss 0 _ rfl rfl
  · exact .miss 1 _ rfl rfl
  · exact .room 0 rfl (by decide)
  · exact .room 1 rfl (by decide)
  · exact .insert 1 rfl rfl
  · exact .lose 0 rfl rfl
  · exact .miss 0 _ rfl rfl
  · exact .room 0 rfl (by decide)
  · exact .enrol 1 rfl
  · exact .insert 0 rfl rfl
  · exact .enrol 0 rfl

theorem lookups_agree_racing : Trace (Move 2 .zero) {} afterRacing 11 ∧ (afterRacing 11).asked.dedup.length ≤ 2 ∧
    (afterRacing 11).Quiet ∧ (afterRacing 11).returned = [(⟨"y", none⟩, 2), (⟨"x", none⟩, 0), (⟨"x", none⟩, 0)] ∧
    (afterRacing 11).lost = [1] ∧ 1 ∉ (afterRacing 11).roster.members ∧
    (afterRacing 11).roster.members.length = 2 := by
  have run : Trace (Move 2 .zero) {} afterRacing 11 := ⟨rfl, fun i lt => .inl (step_racing i lt)⟩
  have few : (afterRacing 11).asked.dedup.length ≤ 2 := by decide
  have quiet : (afterRacing 11).Quiet
    | 0 | 1 | _ + 2 => rfl
  obtain ⟨-, -, never, each⟩ := lookups_agree run few
  obtain ⟨throttle, -, members⟩ := each quiet step_racing
  have lost : (afterRacing 11).lost = [1] := by decide
  have returned : (afterRacing 11).returned = [(⟨"y", none⟩, 2), (⟨"x", none⟩, 0), (⟨"x", none⟩, 0)] := by decide
  refine ⟨run, few, quiet, returned, lost, never 11 le_rfl 11 le_rfl 1 (lost ▸ List.mem_cons_self), ?_⟩
  rw [members.length_eq, List.length_map]
  decide

end Interleaving.Lookup
end LogThrottle
