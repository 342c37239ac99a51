import Echo.Protocol.Launch
import Echo.User.Events

/-!
# The account of users

Of the whole client, the question whose user counts concerns four things: whether
the client is enabled and started, the user it has put off, and the users that the
helper was given.  The operations on this account are stated here on their
own, and every step of the client is shown to be one of them.
-/

namespace Echo.User

open Echo.Client Echo.Transition

structure Account where
  enabled : Bool
  started : Bool
  pending : Option BBCUser
  stored : List BBCUser

namespace Account

/-- A user is given to the helper, or put off while events are off.  When the
helper's answer postpones the report, the user that was put off stays. -/
def supply (user : BBCUser) (postponed : Bool) (account : Account) : Account :=
  if account.enabled && account.started then
    { account with
      pending := if postponed then account.pending else none
      stored := account.stored ++ [user] }
  else
    { account with pending := some user }

def start (postponed : Bool) (account : Account) : Account :=
  if !account.enabled || account.started then account else
  let account := { account with started := true }
  match account.pending with
  | some user => account.supply user postponed
  | none => account

/-- Supply the user that was put off, and forget it. -/
def applyPending (postponed : Bool) (account : Account) : Account :=
  match account.pending, account.started with
  | some user, true => { account.supply user postponed with pending := none }
  | _, _ => account

def enable (autoStart appliedPostponed startPostponed : Bool) (account : Account) : Account :=
  if account.enabled then account else
  let account := applyPending appliedPostponed { account with enabled := true }
  if autoStart && !account.started then account.start startPostponed else account

def disable (account : Account) : Account :=
  { account with enabled := false }

/-- Only the latest user is put off, an unstarted client has put it off, and with
nothing put off, or with events on, it is the one that the helper was given last. -/
structure Kept (latest : BBCUser) (account : Account) : Prop where
  pending : ∀ user, account.pending = some user → user = latest
  unstarted : account.started = false → account.pending = some latest
  settled : account.started = true → account.pending = none → account.stored.getLast? = some latest
  current : account.enabled = true → account.started = true → account.stored.getLast? = some latest

/-- An operation after which the latest user is kept has given the helper no other. -/
structure Follows (latest : BBCUser) (before after : Account) : Prop where
  kept : after.Kept latest
  given : Extends (· = latest) before.stored after.stored

variable {latest : BBCUser} {account : Account}

/-- The latest user wins unless its report is postponed while another user is still
put off. -/
theorem supply_follows {user : BBCUser} {postponed : Bool}
    (replaces : account.enabled = true → account.started = true → postponed = true →
      ∀ other, account.pending = some other → other = user) :
    Follows user account (account.supply user postponed) := by
  unfold supply
  cases on : account.enabled && account.started with
  | true =>
      simp only [Bool.and_eq_true] at on
      rcases on with ⟨enabled, started⟩
      have left : ∀ other, (if postponed then account.pending else none) = some other →
          other = user := by
        cases postponed with
        | true => exact replaces enabled started rfl
        | false => exact fun _ impossible => absurd impossible (by simp)
      constructor
      · constructor
        · exact left
        · intro unstarted
          exact absurd (unstarted.symm.trans started) (by decide)
        · intro _ _
          exact List.getLast?_concat
        · intro _ _
          exact List.getLast?_concat
      · exact Extends.single (· = user) rfl _
  | false =>
      constructor
      · constructor
        · intro other pendingEq
          exact (Option.some.inj pendingEq).symm
        · intro _
          rfl
        · intro _ impossible
          cases impossible
        · intro enabled started
          exact absurd on (by simp [show account.enabled = true from enabled,
            show account.started = true from started])
      · exact .refl _ _

theorem start_follows (kept : account.Kept latest) (postponed : Bool) :
    Follows latest account (account.start postponed) := by
  unfold start
  split
  · exact ⟨kept, .refl _ _⟩
  · rename_i due
    simp only [Bool.or_eq_true, Bool.not_eq_true', not_or, Bool.not_eq_true] at due
    simp only [kept.unstarted due.2]
    have supplied : Follows latest { account with started := true, pending := some latest }
        (supply latest postponed { account with started := true, pending := some latest }) := by
      apply supply_follows
      intro _ _ _ other pendingEq
      exact (Option.some.inj pendingEq).symm
    exact ⟨supplied.kept, supplied.given⟩

theorem applyPending_follows (kept : account.Kept latest) (postponed : Bool) :
    Follows latest account (applyPending postponed { account with enabled := true }) := by
  unfold applyPending
  dsimp only
  split
  · rename_i user pendingEq started
    rcases kept.pending user pendingEq with rfl
    have supplied : Follows user { account with enabled := true }
        (supply user postponed { account with enabled := true }) :=
      supply_follows fun _ _ _ => kept.pending
    have on : (supply user postponed { account with enabled := true }).started = true ∧
        (supply user postponed { account with enabled := true }).enabled = true := by
      simp [supply, started]
    constructor
    · constructor
      · intro other impossible
        cases impossible
      · intro unstarted
        exact absurd (unstarted.symm.trans on.1) (by decide)
      · intro _ _
        exact supplied.kept.current on.2 on.1
      · exact supplied.kept.current
    · exact supplied.given
  · rename_i other
    constructor
    · constructor
      · exact kept.pending
      · exact kept.unstarted
      · exact kept.settled
      · intro _ started
        apply kept.settled started
        cases pendingEq : account.pending with
        | none => rfl
        | some user => exact absurd started (other user pendingEq)
    · exact .refl _ _

theorem enable_follows (kept : account.Kept latest)
    (autoStart appliedPostponed startPostponed : Bool) :
    Follows latest account (account.enable autoStart appliedPostponed startPostponed) := by
  unfold enable
  split
  · exact ⟨kept, .refl _ _⟩
  · have applied := applyPending_follows kept appliedPostponed
    dsimp only
    split
    · have started := start_follows applied.kept startPostponed
      exact ⟨started.kept, applied.given.trans started.given⟩
    · exact applied

theorem disable_follows (kept : account.Kept latest) :
    Follows latest account account.disable := by
  constructor
  · constructor
    · exact kept.pending
    · exact kept.unstarted
    · exact kept.settled
    · intro impossible
      cases impossible
  · exact .refl _ _

end Account

end Echo.User
