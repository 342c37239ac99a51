import Mathlib.Data.List.Nodup
import Mathlib.Data.List.Range
import Echo.Transition.Run

/-!
# One slot for one-shot timers

A client schedules a one-shot timer for an owner and keeps the number of the last timer
and its owner in two slots.  Whatever order timers are renewed, cancelled and expire in,
only the timer in the slot is pending, and the owner in the slot is the one it was created
for.
-/

namespace Echo.User

open Echo.Transition

universe u

/-- The timers created so far with their owners, in order, and the two slots. -/
structure Schedule (U : Type u) where
  created : List (Nat × U)
  pending : List Bool
  timer : Option Nat
  owner : Option U

variable {U : Type u}

namespace Schedule

def IsPending (timer : Nat) (schedule : Schedule U) : Prop :=
  schedule.pending[timer]?.getD false = true

/-- A timer that has been created and can no longer expire. -/
def Settled (timer : Nat) (schedule : Schedule U) : Prop :=
  timer < schedule.pending.length ∧ ¬schedule.IsPending timer

/-- A timer that has expired or was invalidated is no longer pending. -/
def settle (timer : Nat) (schedule : Schedule U) : Schedule U :=
  { schedule with pending := schedule.pending.modify timer fun _ => false }

/-- Settle the timer in the slot. -/
def cancel (schedule : Schedule U) : Schedule U :=
  match schedule.timer with
  | none => schedule
  | some timer => schedule.settle timer

def create (owner : U) (schedule : Schedule U) : Schedule U :=
  { schedule with
    created := schedule.created ++ [(schedule.pending.length, owner)]
    pending := schedule.pending ++ [true]
    timer := some schedule.pending.length }

/-- Replace the schedule.  The owner is kept even where no timer is created for it. -/
def renew (owner : U) (lasts : Bool) (schedule : Schedule U) : Schedule U :=
  let schedule := { schedule.cancel with owner := some owner }
  if lasts then schedule.create owner else schedule

/-- A pending timer expires.  It stays in its slot, its owner does not. -/
def expire (timer : Nat) (schedule : Schedule U) : Schedule U :=
  if schedule.pending[timer]?.getD false then
    { schedule.settle timer with owner := none }
  else schedule

theorem isPending_settle_iff {timer settled : Nat} {schedule : Schedule U} :
    (schedule.settle settled).IsPending timer ↔ timer ≠ settled ∧ schedule.IsPending timer := by
  unfold IsPending settle
  rw [List.getElem?_modify]
  by_cases same : settled = timer
  · subst same
    cases schedule.pending[settled]? <;> simp
  · simp [same, Ne.symm same]

theorem IsPending.lt_length {timer : Nat} {schedule : Schedule U}
    (pending : schedule.IsPending timer) : timer < schedule.pending.length := by
  by_contra outside
  rw [IsPending, List.getElem?_eq_none (Nat.le_of_not_lt outside)] at pending
  cases pending

/-! ## The pairing -/

/-- Timers are numbered in the order of their creation, the slot holds the last one, and
only that one is pending, for the owner in the other slot. -/
structure Paired (schedule : Schedule U) : Prop where
  numbered : schedule.created.map Prod.fst = List.range schedule.pending.length
  last : ∀ timer, schedule.timer = some timer → timer + 1 = schedule.pending.length
  paired : ∀ timer, schedule.IsPending timer →
    schedule.timer = some timer ∧
      ∃ owner, (timer, owner) ∈ schedule.created ∧ schedule.owner = some owner

namespace Paired

variable {schedule : Schedule U} (isPaired : schedule.Paired)

include isPaired

theorem lt_length {timer : Nat} {owner : U} (created : (timer, owner) ∈ schedule.created) :
    timer < schedule.pending.length := by
  have listed : timer ∈ schedule.created.map Prod.fst := List.mem_map_of_mem created
  rw [isPaired.numbered] at listed
  exact List.mem_range.mp listed

/-- A timer is created once. -/
theorem owner_unique {timer : Nat} {first second : U} (created : (timer, first) ∈ schedule.created)
    (again : (timer, second) ∈ schedule.created) : first = second := by
  have distinct : (schedule.created.map Prod.fst).Nodup := by
    rw [isPaired.numbered]
    exact List.nodup_range
  have same := List.inj_on_of_nodup_map distinct created again rfl
  exact congrArg Prod.snd same

/-- A timer that is created later is not among those there are. -/
theorem not_mem_of_append {earlier later : List (Nat × U)}
    (split : schedule.created = earlier ++ later) {timer : Nat} {owner : U}
    (created : (timer, owner) ∈ later) : (timer, owner) ∉ earlier := by
  have distinct : (schedule.created.map Prod.fst).Nodup := by
    rw [isPaired.numbered]
    exact List.nodup_range
  rw [split, List.map_append] at distinct
  intro before
  exact List.disjoint_of_nodup_append distinct (List.mem_map_of_mem before)
    (List.mem_map_of_mem created)

/-- A timer is settled when a later one has been created. -/
theorem settled_of_lt {timer later : Nat} {owner : U} (created : (later, owner) ∈ schedule.created)
    (earlier : timer < later) : schedule.Settled timer := by
  have bound := isPaired.lt_length created
  refine ⟨earlier.trans bound, ?_⟩
  intro pending
  have lastEq := isPaired.last timer (isPaired.paired timer pending).1
  omega

theorem settle {settled : Nat} (inSlot : schedule.timer = some settled) :
    (schedule.settle settled).Paired ∧ ∀ timer, ¬(schedule.settle settled).IsPending timer := by
  have quiet : ∀ timer, ¬(schedule.settle settled).IsPending timer := by
    intro timer pending
    obtain ⟨other, stillPending⟩ := isPending_settle_iff.mp pending
    obtain ⟨timerEq, _⟩ := isPaired.paired timer stillPending
    exact other (Option.some.inj (timerEq.symm.trans inSlot))
  refine ⟨⟨?_, ?_, ?_⟩, quiet⟩
  · rw [Schedule.settle, List.length_modify]
    exact isPaired.numbered
  · rw [Schedule.settle, List.length_modify]
    exact isPaired.last
  · intro timer pending
    exact absurd pending (quiet timer)

theorem cancel : schedule.cancel.Paired ∧ ∀ timer, ¬schedule.cancel.IsPending timer := by
  unfold Schedule.cancel
  split
  · rename_i empty
    refine ⟨isPaired, ?_⟩
    intro timer pending
    obtain ⟨timerEq, _⟩ := isPaired.paired timer pending
    rw [empty] at timerEq
    cases timerEq
  · rename_i timer inSlot
    exact isPaired.settle inSlot

theorem renew (owner : U) (lasts : Bool) : (schedule.renew owner lasts).Paired := by
  obtain ⟨cancelled, quiet⟩ := isPaired.cancel
  cases lasts with
  | false =>
      refine ⟨cancelled.numbered, cancelled.last, ?_⟩
      intro timer pending
      exact absurd pending (quiet timer)
  | true =>
      constructor
      · have numbered := cancelled.numbered
        simp [Schedule.renew, create, List.range_succ, numbered]
      · intro timer inSlot
        cases inSlot
        simp [Schedule.renew, create]
      · intro timer pending
        have bound : timer < schedule.cancel.pending.length + 1 := by
          simpa [Schedule.renew, create] using pending.lt_length
        rcases Nat.lt_or_eq_of_le (Nat.le_of_lt_succ bound) with earlier | rfl
        · apply absurd _ (quiet timer)
          simpa [Schedule.renew, create, IsPending, List.getElem?_append_left earlier] using pending
        · refine ⟨rfl, owner, ?_, rfl⟩
          exact List.mem_append_right _ List.mem_cons_self

theorem expire (timer : Nat) : (schedule.expire timer).Paired := by
  unfold Schedule.expire
  split
  · rename_i pending
    obtain ⟨settled, quiet⟩ := isPaired.settle (isPaired.paired timer pending).1
    refine ⟨settled.numbered, settled.last, ?_⟩
    intro other stillPending
    exact absurd stillPending (quiet other)
  · exact isPaired

end Paired

/-! ## Settled timers -/

namespace Settled

variable {timer : Nat} {schedule : Schedule U} (settled : schedule.Settled timer)

include settled

theorem settle (other : Nat) : (schedule.settle other).Settled timer := by
  refine ⟨?_, ?_⟩
  · rw [Schedule.settle, List.length_modify]
    exact settled.1
  · intro pending
    exact settled.2 (isPending_settle_iff.mp pending).2

theorem cancel : schedule.cancel.Settled timer := by
  unfold Schedule.cancel
  split
  · exact settled
  · exact settled.settle _

theorem create (owner : U) : (schedule.create owner).Settled timer := by
  refine ⟨?_, ?_⟩
  · simpa [Schedule.create] using Nat.lt_succ_of_lt settled.1
  · simpa [Schedule.create, IsPending, List.getElem?_append_left settled.1] using settled.2

theorem renew (owner : U) (lasts : Bool) : (schedule.renew owner lasts).Settled timer := by
  have cancelled : Schedule.Settled timer { schedule.cancel with owner := some owner } :=
    settled.cancel
  cases lasts with
  | false => exact cancelled
  | true => exact cancelled.create owner

theorem expire (other : Nat) : (schedule.expire other).Settled timer := by
  unfold Schedule.expire
  split
  · exact settled.settle other
  · exact settled

end Settled

/-- A timer that expires is settled afterwards. -/
theorem IsPending.settled_expire {timer : Nat} {schedule : Schedule U}
    (pending : schedule.IsPending timer) : (schedule.expire timer).Settled timer := by
  have expired : schedule.expire timer = { schedule.settle timer with owner := none } :=
    if_pos pending
  rw [expired]
  constructor
  · simpa [settle] using pending.lt_length
  · intro stillPending
    exact (isPending_settle_iff.mp stillPending).1 rfl

/-- Renewing the schedule settles every timer there is. -/
theorem Paired.settled_renew {schedule : Schedule U} (isPaired : schedule.Paired) {timer : Nat}
    (exists_timer : timer < schedule.pending.length) (owner : U) (lasts : Bool) :
    (schedule.renew owner lasts).Settled timer := by
  have length_cancel : schedule.cancel.pending.length = schedule.pending.length := by
    unfold Schedule.cancel
    split
    · rfl
    · exact List.length_modify _ _ _
  have cancelled : Settled timer { schedule.cancel with owner := some owner } :=
    ⟨length_cancel ▸ exists_timer, isPaired.cancel.2 timer⟩
  cases lasts with
  | false => exact cancelled
  | true => exact cancelled.create owner

end Schedule

/-! ## Runs -/

/-- What happens to a schedule. -/
inductive Move (U : Type u)
  | cancel
  | renew (owner : U) (lasts : Bool)
  | expire (timer : Nat)

namespace Move

def apply (schedule : Schedule U) : Move U → Schedule U
  | cancel => schedule.cancel
  | renew owner lasts => schedule.renew owner lasts
  | expire timer => schedule.expire timer

variable {schedule : Schedule U}

theorem paired_apply (isPaired : schedule.Paired) (move : Move U) :
    (move.apply schedule).Paired := by
  cases move with
  | cancel => exact isPaired.cancel.1
  | renew owner lasts => exact isPaired.renew owner lasts
  | expire timer => exact isPaired.expire timer

theorem settled_apply {timer : Nat} (settled : schedule.Settled timer) (move : Move U) :
    (move.apply schedule).Settled timer := by
  cases move with
  | cancel => exact settled.cancel
  | renew owner lasts => exact settled.renew owner lasts
  | expire other => exact settled.expire other

/-- Only a renewal creates a timer, for its owner. -/
theorem mem_created_apply {move : Move U} {timer : Nat} {owner : U}
    (created : (timer, owner) ∈ (move.apply schedule).created) :
    (timer, owner) ∈ schedule.created ∨ ∃ lasts, move = renew owner lasts := by
  have kept : schedule.cancel.created = schedule.created := by
    unfold Schedule.cancel
    split <;> rfl
  cases move with
  | cancel => exact .inl (kept ▸ created)
  | renew other lasts =>
      cases lasts with
      | false => exact .inl (kept ▸ created)
      | true =>
          rcases List.mem_append.mp created with before | new
          · exact .inl (kept ▸ before)
          · cases List.mem_singleton.mp new
            exact .inr ⟨true, rfl⟩
  | expire other =>
      have unchanged : (schedule.expire other).created = schedule.created := by
        unfold Schedule.expire
        split <;> rfl
      exact .inl (unchanged ▸ created)

theorem paired_run (isPaired : schedule.Paired) (moves : List (Move U)) :
    (run apply schedule moves).Paired := by
  have preserved (schedule : Schedule U) (move : Move U) (isPaired : schedule.Paired) :
      (apply schedule move).Paired := paired_apply isPaired move
  exact invariant_run_of_step preserved isPaired moves

theorem settled_run {timer : Nat} (settled : schedule.Settled timer) (moves : List (Move U)) :
    (run apply schedule moves).Settled timer := by
  have preserved (schedule : Schedule U) (move : Move U) (settled : schedule.Settled timer) :
      (apply schedule move).Settled timer := settled_apply settled move
  exact invariant_run_of_step preserved settled moves

theorem mem_created_run {moves : List (Move U)} {timer : Nat} {owner : U}
    (created : (timer, owner) ∈ (run apply schedule moves).created) :
    (timer, owner) ∈ schedule.created ∨ ∃ lasts, renew owner lasts ∈ moves := by
  induction moves generalizing schedule with
  | nil => exact .inl created
  | cons move moves ih =>
      rcases ih created with before | ⟨lasts, member⟩
      · rcases mem_created_apply before with before | ⟨lasts, rfl⟩
        · exact .inl before
        · exact .inr ⟨lasts, List.mem_cons_self⟩
      · exact .inr ⟨lasts, List.mem_cons_of_mem move member⟩

end Move

end Echo.User
