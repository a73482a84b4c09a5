import Chip8.Proofs.History
import Chip8.Proofs.Recording
import Mathlib.Data.List.Nodup
import Mathlib.Order.Bounds.Defs

/-!
# Delivery of events

Observers are registered, unregistered and cleared in any order, and in between events are sent.
Some of them take themselves out when they are handed an event, while it is still being handed to
others. What each of them holds in the end is said here by the history alone.

* An observer is registered if the latest request that bears on it registered it
  (`Tracer.Enrolled`). An event bears on an observer that takes itself out, and on no other.
* A registration takes effect if the observer was not registered before (`Tracer.EnrolsAt`). The
  observers stand in the order of their latest registrations that took effect.
* An observer holds the events that were sent while it was registered and since it was last cleared
  (`Tracer.eventsAt`). For one that takes itself out these are the first events after each
  registration that took effect.

None of this mentions another observer, so which others there are makes no difference. The main
result is `Tracer.delivery`. It rests on one fact about a single event, that it reaches each
registered observer once whoever leaves meanwhile (`Tracer.toList_held_perform`), and this in turn
on the list of observers being without repetition.
-/

namespace Chip8.Tracer

/-- A request to a tracer. -/
inductive Request (ε : Type)
  | register (o : Observer)
  | unregister (o : Observer)
  | clear (o : Observer)
  | emit (e : ε)

variable {ε : Type} {t : Tracer ε} {o p : Observer} {rs : List (Request ε)} {r : Request ε}
  {i : Nat}

namespace Request

/-- The event that is sent, if one is. -/
def event? : Request ε → Option ε
  | emit e => some e
  | _ => none

/-- Whether an observer is registered by a request. -/
def registers (o : Observer) : Request ε → Bool
  | register p => p = o
  | _ => false

/-- Whether an observer is unregistered by a request. -/
def unregisters (o : Observer) : Request ε → Bool
  | unregister p => p = o
  | _ => false

/-- Whether an observer is cleared by a request. -/
def clears (o : Observer) : Request ε → Bool
  | clear p => p = o
  | _ => false

/-- Whether a request names an observer or sends an event. -/
def concerns (o : Observer) (r : Request ε) : Bool :=
  r.registers o || r.unregisters o || r.clears o || r.event?.isSome

/-- What a request tells of whether an observer is registered. One that takes itself out is not
registered after an event. -/
def enrols (o : Observer) : Request ε → Option Bool
  | register p => if p = o then some true else none
  | unregister p => if p = o then some false else none
  | clear _ => none
  | emit _ => if o.once then some false else none

/-- Only a registration tells that an observer is registered. -/
theorem enrols_eq_some_true_iff : r.enrols o = some true ↔ r.registers o = true := by
  cases r with
  | register p => simp [enrols, registers]
  | unregister p => simp [enrols, registers]
  | clear p => simp [enrols, registers]
  | emit e => simp [enrols, registers]

/-- A request that does not name an observer and sends nothing does not bear on it. -/
theorem silent_of_not_concerns (other : r.concerns o = false) :
    r.enrols o = none ∧ r.clears o = false ∧ r.event? = none := by
  unfold concerns at other
  simp only [Bool.or_eq_false_iff] at other
  obtain ⟨⟨⟨register, unregister⟩, clear⟩, event⟩ := other
  refine ⟨?_, clear, by simpa using event⟩
  cases r with
  | register p => exact if_neg (of_decide_eq_false register)
  | unregister p => exact if_neg (of_decide_eq_false unregister)
  | clear p => rfl
  | emit e => cases event

end Request

/-- What a request makes of a tracer. -/
def perform (t : Tracer ε) : Request ε → Tracer ε
  | .register o => t.register o
  | .unregister o => t.unregister o
  | .clear o => t.clear o
  | .emit e => t.emit e

/-- The tracer after some requests, the first of them to one without observers. -/
def after (rs : List (Request ε)) : Tracer ε := rs.foldl perform empty

/-- Whether an observer is registered after some requests. -/
def Enrolled (o : Observer) (rs : List (Request ε)) : Prop :=
  History.latest? (Request.enrols o) rs = some true

instance (o : Observer) (rs : List (Request ε)) : Decidable (Enrolled o rs) :=
  inferInstanceAs (Decidable (_ = _))

/-- Whether the request at a place registers an observer that is not registered. -/
def EnrolsAt (o : Observer) (rs : List (Request ε)) (i : Nat) : Prop :=
  rs[i]?.any (·.registers o) = true ∧ ¬Enrolled o (rs.take i)

instance (o : Observer) (rs : List (Request ε)) (i : Nat) : Decidable (EnrolsAt o rs i) :=
  inferInstanceAs (Decidable (_ ∧ _))

/-- Whether the latest registration of an observer that took effect is at a place. -/
def JoinedAt (o : Observer) (rs : List (Request ε)) (i : Nat) : Prop :=
  IsGreatest {j | EnrolsAt o rs j} i

/-- Whether an event that is sent next is the first one since some registration of an observer that
took effect, and the observer was not unregistered since. -/
def AwaitsFirst (o : Observer) (rs : List (Request ε)) : Prop :=
  ∃ i < rs.length, EnrolsAt o rs i ∧
    ∀ r ∈ rs.drop (i + 1), r.event?.isNone = true ∧ r.unregisters o = false

instance (o : Observer) (rs : List (Request ε)) : Decidable (AwaitsFirst o rs) :=
  inferInstanceAs (Decidable (∃ i < _, _))

/-- Whether an observer that is handed an event at a place still holds it: it is not cleared
later. -/
def KeepsFrom (o : Observer) (rs : List (Request ε)) (i : Nat) : Prop :=
  ∀ r ∈ rs.drop (i + 1), r.clears o = false

instance (o : Observer) (rs : List (Request ε)) (i : Nat) : Decidable (KeepsFrom o rs i) :=
  inferInstanceAs (Decidable (∀ _ ∈ _, _))

/-- The events that were sent at some places of a history, in their order. -/
def eventsAt (rs : List (Request ε)) (places : Nat → Bool) : List ε :=
  ((List.range rs.length).filter places).filterMap fun i ↦ rs[i]?.bind Request.event?

/-! ### One request -/

/-- Whoever takes itself out while an event is handed to some observers is taken out once. -/
theorem registered_foldl_deliver (e : ε) (t : Tracer ε) (ps : List Observer) :
    (ps.foldl (deliver e) t).registered = t.registered.diff (ps.filter (·.once)) := by
  induction ps generalizing t with
  | nil => rfl
  | cons p ps ih =>
    rw [List.foldl_cons, ih, deliver, List.filter_cons]
    split
    · rw [List.diff_cons]
      rfl
    · rfl

/-- A request takes some observers out, or it adds one that was not registered at the end. -/
theorem registered_perform (t : Tracer ε) (r : Request ε) :
    (t.perform r).registered.Sublist t.registered ∨
      ∃ p, r = .register p ∧ p ∉ t.registered ∧ (t.perform r).registered = t.registered ++ [p] := by
  cases r with
  | register p =>
    by_cases mem : p ∈ t.registered
    · left
      rw [perform, register_of_mem mem]
    · right
      refine ⟨p, rfl, mem, ?_⟩
      rw [perform, register, if_neg mem]
  | unregister p => exact .inl List.erase_sublist
  | clear p => exact .inl (List.Sublist.refl _)
  | emit e =>
    left
    rw [perform, emit, registered_foldl_deliver]
    exact List.diff_sublist ..

theorem nodup_perform (nodup : t.registered.Nodup) (r : Request ε) :
    (t.perform r).registered.Nodup := by
  obtain sublist | ⟨p, -, fresh, added⟩ := t.registered_perform r
  · exact nodup.sublist sublist
  · rw [added]
    exact nodup.append (List.nodup_singleton p) (by simpa using fresh)

/-- **Who is registered after a request**: whom the request registers, and who was registered before
if it does not tell. -/
theorem mem_registered_perform (nodup : t.registered.Nodup) (o : Observer) (r : Request ε) :
    o ∈ (t.perform r).registered ↔
      (r.enrols o).getD (decide (o ∈ t.registered)) = true := by
  cases r with
  | register p =>
    rw [perform, register, Request.enrols]
    by_cases same : p = o
    · subst same
      by_cases mem : p ∈ t.registered
      · simp [mem]
      · simp [mem]
    · have other : o ≠ p := fun h ↦ same h.symm
      by_cases mem : p ∈ t.registered
      · simp [mem, same]
      · simp [mem, same, other]
  | unregister p =>
    rw [perform, unregister, Request.enrols, nodup.mem_erase_iff]
    by_cases same : p = o
    · simp [same]
    · have other : o ≠ p := fun h ↦ same h.symm
      simp [same, other]
  | clear p => simp [perform, clear, Request.enrols]
  | emit e =>
    rw [perform, emit, registered_foldl_deliver, nodup.mem_sdiff_iff, Request.enrols]
    by_cases leaves : o.once = true
    · simp [leaves]
    · simp [leaves]

/-- **What an observer holds after a request.** A registered observer is handed an event once, also
while others take themselves out. -/
theorem toList_held_perform (nodup : t.registered.Nodup) (o : Observer) (r : Request ε) :
    ((t.perform r).held o).toList =
      if r.clears o then []
      else (t.held o).toList ++ if o ∈ t.registered then r.event?.toList else [] := by
  cases r with
  | register p =>
    have held : (t.perform (.register p)).held o = t.held o := by
      rw [perform, register]
      split
      · rfl
      · rfl
    simp [held, Request.clears, Request.event?]
  | unregister p =>
    have held : (t.perform (.unregister p)).held o = t.held o := rfl
    simp [held, Request.clears, Request.event?]
  | clear p =>
    rw [perform, clear, held, Request.clears]
    by_cases same : p = o
    · subst same
      rw [find_update_self]
      simp
    · have other : o ≠ p := fun h ↦ same h.symm
      rw [find_update_of_ne other]
      simp [same, Request.event?, held]
  | emit e =>
    rw [perform, emit, toList_held_foldl_deliver, nodup.count]
    by_cases mem : o ∈ t.registered
    · simp [mem, Request.clears, Request.event?]
    · simp [mem, Request.clears]

/-! ### Who is registered -/

theorem after_concat (rs : List (Request ε)) (r : Request ε) :
    after (rs ++ [r]) = (after rs).perform r :=
  List.foldl_concat ..

/-- No observer is registered twice. -/
theorem nodup_after (rs : List (Request ε)) : (after rs).registered.Nodup := by
  induction rs using List.reverseRecOn with
  | nil => exact List.nodup_nil
  | append_singleton rs r ih =>
    rw [after_concat]
    exact nodup_perform ih r

theorem enrolled_concat :
    Enrolled o (rs ++ [r]) ↔ (r.enrols o).getD (decide (Enrolled o rs)) = true := by
  rw [Enrolled, History.latest?_concat]
  rcases r.enrols o with - | b
  · exact decide_eq_true_iff.symm
  · exact Option.some_inj

/-- **Who is registered** is told by the history. -/
theorem mem_registered_after (o : Observer) (rs : List (Request ε)) :
    o ∈ (after rs).registered ↔ Enrolled o rs := by
  induction rs using List.reverseRecOn with
  | nil => exact iff_of_false List.not_mem_nil nofun
  | append_singleton rs r ih =>
    rw [after_concat, mem_registered_perform (nodup_after rs), enrolled_concat]
    simp only [ih]

/-- An observer that is registered was so before, or it was registered just now. -/
theorem registers_or_enrolled (enrolled : Enrolled o (rs ++ [r])) :
    r.registers o = true ∧ ¬Enrolled o rs ∨ Enrolled o rs := by
  by_cases before : Enrolled o rs
  · exact .inr before
  · rw [enrolled_concat, decide_eq_false before] at enrolled
    rcases told : r.enrols o with - | b
    · rw [told] at enrolled
      cases enrolled
    · rw [told] at enrolled
      obtain rfl : b = true := enrolled
      exact .inl ⟨Request.enrols_eq_some_true_iff.1 told, before⟩

/-! ### In which order -/

/-- Places of a history before its last request are places before that request, with the same
past. -/
theorem enrolsAt_concat : EnrolsAt o (rs ++ [r]) i ↔
    EnrolsAt o rs i ∨ i = rs.length ∧ r.registers o = true ∧ ¬Enrolled o rs := by
  unfold EnrolsAt
  obtain before | rfl | beyond := Nat.lt_trichotomy i rs.length
  · rw [List.getElem?_append_left before, List.take_append_of_le_length (Nat.le_of_lt before)]
    simp [Nat.ne_of_lt before]
  · simp
  · have past : (rs ++ [r]).length ≤ i := by
      rw [List.length_append]
      exact beyond
    simp [List.getElem?_eq_none past, List.getElem?_eq_none (Nat.le_of_lt beyond),
      Nat.ne_of_gt beyond]

theorem EnrolsAt.lt_length (h : EnrolsAt o rs i) : i < rs.length := by
  by_contra beyond
  have none : rs[i]? = none := List.getElem?_eq_none (Nat.le_of_not_lt beyond)
  rw [EnrolsAt, none] at h
  cases h.1

/-- A registration that took effect just now is the latest. -/
theorem joinedAt_length (registers : r.registers o = true) (fresh : ¬Enrolled o rs) :
    JoinedAt o (rs ++ [r]) rs.length := by
  refine ⟨enrolsAt_concat.2 (.inr ⟨rfl, registers, fresh⟩), fun i joined ↦ ?_⟩
  have inside := EnrolsAt.lt_length joined
  rw [List.length_append] at inside
  exact Nat.le_of_lt_succ inside

/-- As long as an observer is registered, its latest registration that took effect stays the
latest. -/
theorem JoinedAt.concat (h : JoinedAt o rs i) (enrolled : Enrolled o rs) (r : Request ε) :
    JoinedAt o (rs ++ [r]) i := by
  refine ⟨enrolsAt_concat.2 (.inl h.1), fun j joined ↦ ?_⟩
  obtain before | ⟨-, -, fresh⟩ := enrolsAt_concat.1 joined
  · exact h.2 before
  · exact absurd enrolled fresh

/-- A registered observer joined at some place. -/
theorem exists_joinedAt (enrolled : Enrolled o rs) : ∃ i < rs.length, JoinedAt o rs i := by
  induction rs using List.reverseRecOn with
  | nil => cases enrolled
  | append_singleton rs r ih =>
    have longer : (rs ++ [r]).length = rs.length + 1 := List.length_append
    rw [longer]
    obtain ⟨registers, fresh⟩ | before := registers_or_enrolled enrolled
    · exact ⟨rs.length, Nat.lt_succ_self _, joinedAt_length registers fresh⟩
    · obtain ⟨i, inside, joined⟩ := ih before
      exact ⟨i, Nat.lt_succ_of_lt inside, joined.concat before r⟩

/-- **The observers stand in the order in which they joined.** -/
theorem pairwise_after (rs : List (Request ε)) :
    (after rs).registered.Pairwise fun o p ↦
      ∃ i j, i < j ∧ JoinedAt o rs i ∧ JoinedAt p rs j := by
  induction rs using List.reverseRecOn with
  | nil => exact .nil
  | append_singleton rs r ih =>
    have kept : (after rs).registered.Pairwise fun o p ↦
        ∃ i j, i < j ∧ JoinedAt o (rs ++ [r]) i ∧ JoinedAt p (rs ++ [r]) j := by
      refine ih.imp_of_mem fun {o p} first second ↦ ?_
      rintro ⟨i, j, earlier, joined, joined'⟩
      exact ⟨i, j, earlier, joined.concat ((mem_registered_after o rs).1 first) r,
        joined'.concat ((mem_registered_after p rs).1 second) r⟩
    rw [after_concat]
    obtain sublist | ⟨p, rfl, fresh, added⟩ := (after rs).registered_perform r
    · exact kept.sublist sublist
    · rw [added, List.pairwise_append]
      refine ⟨kept, List.pairwise_singleton .., fun o mem p' last ↦ ?_⟩
      obtain rfl := List.mem_singleton.1 last
      have enrolled := (mem_registered_after o rs).1 mem
      obtain ⟨i, inside, joined⟩ := exists_joinedAt enrolled
      rw [mem_registered_after] at fresh
      exact ⟨i, rs.length, inside, joined.concat enrolled _,
        joinedAt_length (decide_eq_true rfl) fresh⟩

/-! ### What is held -/

/-- Events at places of a longer history. -/
theorem eventsAt_concat (rs : List (Request ε)) (r : Request ε) (places : Nat → Bool) :
    eventsAt (rs ++ [r]) places =
      eventsAt rs places ++ if places rs.length then r.event?.toList else [] := by
  have same : ∀ i ∈ (List.range rs.length).filter places,
      (rs ++ [r])[i]?.bind Request.event? = rs[i]?.bind Request.event? := by
    intro i mem
    rw [List.getElem?_append_left (List.mem_range.1 (List.mem_of_mem_filter mem))]
  rw [eventsAt, eventsAt, List.length_append, List.length_singleton, List.range_succ,
    List.filter_append, List.filterMap_append, List.filterMap_congr same]
  congr 1
  by_cases taken : places rs.length = true
  · rw [List.filter_singleton, taken]
    rcases event : r.event? with - | e
    · simp [event]
    · simp [event]
  · simp [taken]

/-- Only the places in a history matter. -/
theorem eventsAt_congr {places places' : Nat → Bool}
    (same : ∀ i < rs.length, places i = places' i) :
    eventsAt rs places = eventsAt rs places' := by
  rw [eventsAt, eventsAt, List.filter_congr fun i mem ↦ same i (List.mem_range.1 mem)]

/-- What holds of each request after a place in a history and of one more. -/
theorem forall_drop_concat {P : Request ε → Prop} (inside : i < rs.length) :
    (∀ q ∈ (rs ++ [r]).drop (i + 1), P q) ↔ (∀ q ∈ rs.drop (i + 1), P q) ∧ P r := by
  rw [List.drop_append_of_le_length inside]
  simp [or_imp, forall_and]

/-- **What an observer holds** is what was sent while it was registered, and after it was last
cleared. -/
theorem toList_held_after (o : Observer) (rs : List (Request ε)) :
    ((after rs).held o).toList =
      eventsAt rs fun i ↦ o ∈ (after (rs.take i)).registered ∧ KeepsFrom o rs i := by
  induction rs using List.reverseRecOn with
  | nil => rfl
  | append_singleton rs r ih =>
    have earlier : ∀ i < rs.length,
        decide (o ∈ (after ((rs ++ [r]).take i)).registered ∧ KeepsFrom o (rs ++ [r]) i) =
          (decide (o ∈ (after (rs.take i)).registered ∧ KeepsFrom o rs i) && !r.clears o) := by
      intro i inside
      have later : KeepsFrom o (rs ++ [r]) i ↔ KeepsFrom o rs i ∧ r.clears o = false :=
        forall_drop_concat inside
      rw [List.take_append_of_le_length (Nat.le_of_lt inside)]
      simp [later, Bool.and_assoc]
    rw [after_concat, toList_held_perform (nodup_after rs), eventsAt_concat, eventsAt_congr earlier,
      ih]
    have last : KeepsFrom o (rs ++ [r]) rs.length := by simp [KeepsFrom]
    rcases clears : r.clears o with - | -
    · simp [last]
    · cases r with
      | clear p => simp [Request.event?, eventsAt]
      | _ => cases clears

/-! ### An observer that takes itself out -/

theorem awaitsFirst_concat : AwaitsFirst o (rs ++ [r]) ↔
    (AwaitsFirst o rs ∧ r.event?.isNone = true ∧ r.unregisters o = false) ∨
      r.registers o = true ∧ ¬Enrolled o rs := by
  constructor
  · rintro ⟨i, -, joins, silent⟩
    obtain before | ⟨rfl, registers⟩ := enrolsAt_concat.1 joins
    · have inside := before.lt_length
      rw [forall_drop_concat inside] at silent
      exact .inl ⟨⟨i, inside, before, silent.1⟩, silent.2⟩
    · exact .inr registers
  · rintro (⟨⟨i, inside, joins, silent⟩, still⟩ | registers)
    · refine ⟨i, ?_, enrolsAt_concat.2 (.inl joins), (forall_drop_concat inside).2 ⟨silent, still⟩⟩
      rw [List.length_append]
      exact Nat.lt_succ_of_lt inside
    · refine ⟨rs.length, ?_, enrolsAt_concat.2 (.inr ⟨rfl, registers⟩), ?_⟩
      · rw [List.length_append]
        exact Nat.lt_succ_self _
      · simp

/-- An observer that takes itself out is registered exactly while it awaits the first event. -/
theorem enrolled_iff_awaitsFirst (leaves : o.once = true) : Enrolled o rs ↔ AwaitsFirst o rs := by
  induction rs using List.reverseRecOn with
  | nil => exact iff_of_false nofun nofun
  | append_singleton rs r ih =>
    rw [enrolled_concat, awaitsFirst_concat, ← ih]
    cases r with
    | register p =>
      by_cases same : p = o
      · simp [Request.enrols, Request.registers, Request.unregisters, Request.event?, same,
          Classical.em]
      · simp [Request.enrols, Request.registers, Request.unregisters, Request.event?, same]
    | unregister p =>
      by_cases same : p = o
      · simp [Request.enrols, Request.registers, Request.unregisters, same]
      · simp [Request.enrols, Request.registers, Request.unregisters, Request.event?, same]
    | clear p => simp [Request.enrols, Request.registers, Request.unregisters, Request.event?]
    | emit e => simp [Request.enrols, Request.registers, Request.event?, leaves]

/-- So it holds the first event after each registration that took effect, and no others. -/
theorem toList_held_after_of_once (leaves : o.once = true) (rs : List (Request ε)) :
    ((after rs).held o).toList =
      eventsAt rs fun i ↦ AwaitsFirst o (rs.take i) ∧ KeepsFrom o rs i := by
  rw [toList_held_after]
  refine eventsAt_congr fun i _ ↦ decide_eq_decide.2 (and_congr_left fun _ ↦ ?_)
  rw [mem_registered_after, enrolled_iff_awaitsFirst leaves]

/-! ### Other observers -/

theorem enrolled_filter : Enrolled o (rs.filter (·.concerns o)) ↔ Enrolled o rs := by
  have same : History.latest? (Request.enrols o) (rs.filter (·.concerns o)) =
      History.latest? (Request.enrols o) rs :=
    History.latest?_filter (fun _ other ↦ (Request.silent_of_not_concerns other).1) rs
  rw [Enrolled, same, Enrolled]

/-- **Other observers make no difference.** What an observer holds is the same without any request
that names another one. -/
theorem toList_held_filter (o : Observer) (rs : List (Request ε)) :
    ((after (rs.filter (·.concerns o))).held o).toList = ((after rs).held o).toList := by
  induction rs using List.reverseRecOn with
  | nil => rfl
  | append_singleton rs r ih =>
    have registered : o ∈ (after (rs.filter (·.concerns o))).registered ↔
        o ∈ (after rs).registered := by
      rw [mem_registered_after, mem_registered_after, enrolled_filter]
    rw [List.filter_append, after_concat, toList_held_perform (nodup_after rs), ← ih]
    rcases concerned : r.concerns o with - | -
    · obtain ⟨-, clears, event⟩ := Request.silent_of_not_concerns concerned
      simp [concerned, clears, event]
    · rw [List.filter_singleton, concerned, cond_true, after_concat,
        toList_held_perform (nodup_after _)]
      simp only [registered]

/-- **Delivery is exact.** After any requests no observer is registered twice, and the observers
stand in the order of their latest registrations that took effect; an observer is registered if the
latest request that bears on it registered it. An observer holds what was sent while it was
registered and after it was last cleared, in that order, and an observer that takes itself out the
first of it after each registration that took effect. None of this depends on other observers. -/
theorem delivery (rs : List (Request ε)) :
    (after rs).registered.Nodup ∧
    ((after rs).registered.Pairwise fun o p ↦
      ∃ i j, i < j ∧ JoinedAt o rs i ∧ JoinedAt p rs j) ∧
    (∀ o, o ∈ (after rs).registered ↔ Enrolled o rs) ∧
    (∀ o, ((after rs).held o).toList =
      eventsAt rs fun i ↦ o ∈ (after (rs.take i)).registered ∧ KeepsFrom o rs i) ∧
    (∀ o, o.once = true → ((after rs).held o).toList =
      eventsAt rs fun i ↦ AwaitsFirst o (rs.take i) ∧ KeepsFrom o rs i) ∧
    ∀ o, ((after rs).held o).toList = ((after (rs.filter (·.concerns o))).held o).toList :=
  ⟨nodup_after rs, pairwise_after rs, fun o ↦ mem_registered_after o rs,
    fun o ↦ toList_held_after o rs, fun _ leaves ↦ toList_held_after_of_once leaves rs,
    fun o ↦ (toList_held_filter o rs).symm⟩

/-- An observer that takes itself out, to try things with. -/
def leaver : Observer := ⟨[], true⟩

/-- Requests that register an observer and one that takes itself out, each of them twice. -/
def mixedRequests : List (Request Nat) :=
  [.register leaver, .register .recorder, .emit 1, .register leaver, .register leaver, .emit 2,
    .clear .recorder, .emit 3, .unregister .recorder, .emit 4, .register leaver,
    .register .recorder]

/-- The observer that takes itself out holds the first event after each of the registrations that
took effect, and the other one what was sent after it was cleared and until it was unregistered. -/
theorem delivery_of_mixedRequests :
    leaver.once = true ∧ ((after mixedRequests).held leaver).toList = [1, 2] ∧
      ((after mixedRequests).held .recorder).toList = [3] ∧
      leaver ∈ (after mixedRequests).registered := by
  obtain ⟨-, -, registered, held, first, -⟩ := delivery mixedRequests
  exact ⟨rfl, (first leaver rfl).trans (by decide), (held .recorder).trans (by decide),
    (registered leaver).2 (by decide)⟩

end Chip8.Tracer
