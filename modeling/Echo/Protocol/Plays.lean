import Echo.Client.Laws
import Echo.Protocol.Closed
import Echo.Protocol.Ownership

/-!
# Plays are answered once

A play of live, enriched media may be held back and released later by the broker
that the play itself has started.  A released play then answers the last call that
was held back, unless the flag outlives its session: opening a live session without
ESS data while plays are suppressed lets the new broker release a play that was
never held back.
-/

namespace Echo.Client

/-- The labels of a delivered play. -/
def DelegateCall.play : DelegateCall → Option (Option Labels)
  | .avPlayEvent _ eventLabels => some eventLabels
  | _ => none

/-- The labels of the plays among the calls. -/
def plays (calls : List DelegateCall) : List (Option Labels) :=
  calls.filterMap DelegateCall.play

theorem plays_filter (calls : List DelegateCall) :
    plays (calls.filter DelegateCall.isProtocol) = plays calls := by
  rw [plays, List.filterMap_filter]
  congr 1
  funext call
  cases call <;> rfl

end Echo.Client

namespace Echo.Protocol

open Echo.Client

/-- While plays are suppressed, a session with a live broker has enriched live
media. -/
def SuppressesEnriched (state : State) : Prop :=
  state.session.suppressingPlayEvent = true → state.session.media.isSome = true →
    ∀ broker, state.session.broker = some broker → state.kindOf broker = some .live →
      state.session.isEnrichedLive = true

/-- The current broker could release a play. -/
structure Armed (state : State) (broker : BrokerRef) : Prop where
  suppressing : state.session.suppressingPlayEvent = true
  current : state.session.broker = some broker
  live : state.kindOf broker = some .live
  started : state.phaseOf broker = some .started

/-- Media that is only written in place stays enriched or plain. -/
theorem isEnrichedLive_of_identity {session next : Session} {update : Media → Media}
    (inPlace : ∀ media, (update media).identity = media.identity)
    (mediaEq : next.media = session.media.map update) :
    next.isEnrichedLive = session.isEnrichedLive := by
  cases stored : session.media with
  | none => simp [Session.isEnrichedLive, mediaEq, stored]
  | some media =>
      have sameLive : (update media).isLive = media.isLive := by
        simpa [Media.identity] using congrArg Media.isLive (inPlace media)
      have sameEnriched : (update media).isEnrichedWithESSData = media.isEnrichedWithESSData := by
        simpa [Media.identity] using congrArg Media.isEnrichedWithESSData (inPlace media)
      simp [Session.isEnrichedLive, mediaEq, stored, sameLive, sameEnriched]

namespace SuppressesEnriched

variable {state : State}

/-- Moves that keep the broker and the flag, and write to the media in place. -/
theorem of_same (holds : SuppressesEnriched state) (owned : Owned state) {act : Act}
    (flagEq : (act.session state).suppressingPlayEvent = state.session.suppressingPlayEvent)
    (brokerEq : (act.session state).broker = state.session.broker)
    (update : Media → Media) (inPlace : ∀ media, (update media).identity = media.identity)
    (mediaEq : (act.session state).media = state.session.media.map update) :
    SuppressesEnriched (act.apply state) := by
  intro suppressing stored broker current live
  rw [Act.apply_session] at *
  rw [flagEq] at suppressing
  rw [brokerEq] at current
  rw [mediaEq, Option.isSome_map] at stored
  rw [Act.kindOf_apply (owned.made broker current)] at live
  rw [isEnrichedLive_of_identity inPlace mediaEq]
  exact holds suppressing stored broker current live

theorem apply (holds : SuppressesEnriched state) (owned : Owned state) {act : Act}
    (opens : ∀ media, act = .setMedia media (some .live) →
      state.session.suppressingPlayEvent = true →
        media.isLive = true ∧ media.isEnrichedWithESSData = true) :
    SuppressesEnriched (act.apply state) := by
  have sessionEq := Act.apply_session state act
  cases act with
  | setMedia media kind =>
      intro suppressing _ broker current live
      rw [sessionEq] at suppressing current ⊢
      cases kind with
      | none => cases current
      | some kind =>
          have kindEq : kind = .live := by
            rw [← Option.some.inj current] at live
            simpa [State.kindOf, Act.apply, State.close] using live
          subst kindEq
          obtain ⟨isLive, enriched⟩ := opens media rfl suppressing
          simp [Act.session, Session.isEnrichedLive, isLive, enriched]
  | disable =>
      intro _ _ broker current
      rw [sessionEq] at current
      cases current
  | navigate navigation position eventLabels =>
      by_cases ends : navigation = .avEnd
      · subst ends
        intro _ stored
        cases before : state.session.media with
        | none => simp [sessionEq, Act.session, Session.navigated, before] at stored
        | some media =>
            rw [sessionEq, Act.session, Session.navigated_avEnd (by simp [before])] at stored
            cases stored
      · obtain ⟨update, inPlace, navigatedEq⟩ := state.session.navigated_of_ne_avEnd ends
        intro suppressing stored broker current live
        rw [sessionEq, Act.session, navigatedEq] at suppressing stored current ⊢
        rw [Act.kindOf_apply (owned.made broker current)] at live
        rw [isEnrichedLive_of_identity inPlace rfl]
        rw [Bool.or_eq_true] at suppressing
        rcases suppressing with earlier | enriched
        · exact holds earlier (by simpa using stored) broker current live
        · exact enriched
  | release position eventLabels =>
      intro suppressing
      rw [sessionEq] at suppressing
      cases suppressing
  | unsuppress =>
      intro suppressing
      rw [sessionEq] at suppressing
      cases suppressing
  | liveMediaUpdate media newPosition oldPosition =>
      intro suppressing
      rw [sessionEq] at suppressing
      cases suppressing
  | setMediaLength length =>
      exact holds.of_same owned rfl rfl (fun media => { media with length }) (fun _ => rfl) rfl
  | play position eventLabels =>
      exact holds.of_same owned rfl rfl
        (fun media => { media with isPlaying := true, isBuffering := false }) (fun _ => rfl) rfl
  | _ => exact holds.of_same owned rfl rfl id (fun _ => rfl) (congrFun Option.map_id _).symm

end SuppressesEnriched

/-- A move that arms the broker either holds a play back, or finds the broker armed
and neither opens a session nor delivers a play. -/
theorem armed_apply {state : State} (owned : Owned state) (holds : SuppressesEnriched state)
    {act : Act} (guard : act.Guard state) {broker : BrokerRef}
    (armed : Armed (act.apply state) broker) :
    (∃ eventLabels, act = .suppress eventLabels) ∨
      Armed state broker ∧
        (act.session state).suppressedPlayEventLabels =
          state.session.suppressedPlayEventLabels ∧
        (∀ media kind, act ≠ .setMedia media kind) ∧ plays (act.calls state) = [] := by
  obtain ⟨suppressing, current, live, started⟩ := armed
  rw [Act.apply_session] at suppressing current
  cases act with
  | suppress eventLabels => exact .inl ⟨eventLabels, rfl⟩
  | play position eventLabels =>
      have made := owned.made broker current
      rw [Act.kindOf_apply made] at live
      exact absurd ⟨holds suppressing guard.2.1 broker current live, suppressing⟩ guard.2.2
  | release position eventLabels => cases suppressing
  | unsuppress => cases suppressing
  | liveMediaUpdate media newPosition oldPosition => cases suppressing
  | disable => cases current
  | setMedia media kind =>
      cases kind with
      | none => cases current
      | some kind =>
          rw [← Option.some.inj current] at started
          simp [State.phaseOf, Act.apply, State.close] at started
  | navigate navigation position eventLabels =>
      exact absurd started (owned.not_started_of_stopped broker)
  | setMediaLength length =>
      refine .inr ⟨⟨suppressing, current, live, started⟩, rfl, by simp, ?_⟩
      rw [Act.calls]
      split <;> rfl
  | enable starts =>
      refine .inr ⟨⟨suppressing, current, live, started⟩, rfl, by simp, ?_⟩
      cases starts <;> rfl
  | _ => exact .inr ⟨⟨suppressing, current, live, started⟩, rfl, by simp, rfl⟩

/-- Only a play that is not held back, or one that is released, is delivered. -/
theorem Act.plays_calls (state : State) (act : Act) :
    (∃ position eventLabels, act = .play position eventLabels) ∨
      (∃ position eventLabels, act = .release position eventLabels) ∨
        plays (act.calls state) = [] := by
  cases act with
  | play position eventLabels => exact .inl ⟨position, eventLabels, rfl⟩
  | release position eventLabels => exact .inr (.inl ⟨position, eventLabels, rfl⟩)
  | setMedia media kind => cases kind <;> exact .inr (.inr rfl)
  | enable starts => cases starts <;> exact .inr (.inr rfl)
  | navigate navigation position eventLabels => cases navigation <;> exact .inr (.inr rfl)
  | setMediaLength length =>
      refine .inr (.inr ?_)
      rw [calls]
      split <;> rfl
  | _ => exact .inr (.inr rfl)

end Echo.Protocol

namespace Echo.Client

open Echo.Protocol Echo.Transition

variable {H : Type}

/-! ## Steps of a run by their number -/

/-- The labels of the plays that the delegate at an index receives in one step. -/
def playsIn (platform : Platform H) (index : Nat) (world : World H) (op : Op) :
    List (Option Labels) :=
  plays (received index (emitted platform world op))

/-- The same for a step of a run, by its number. -/
def playsAt (platform : Platform H) (index : Nat) (world : World H) (ops : List Op)
    (number : Nat) : List (Option Labels) :=
  (ops[number]?.map (playsIn platform index (run platform world (ops.take number)))).getD []

/-- A step of a run is an effective `setMedia`. -/
def OpensAt (platform : Platform H) (world : World H) (ops : List Op) (number : Nat) : Prop :=
  ∃ op, ops[number]? = some op ∧ OpensSession (run platform world (ops.take number)) op

/-- A step of a run is an app call of `avPlayEvent` with labels that sanitise to the
given ones. -/
def CallsPlayAt (platform : Platform H) (ops : List Op) (number : Nat)
    (labels : Option Labels) : Prop :=
  ∃ position eventLabels, ops[number]? = some (.media (.avPlayEvent position eventLabels)) ∧
    labels = eventLabels.map (sanitiseLabels platform)

section Concat

variable {platform : Platform H} {index : Nat} {world : World H} {ops : List Op} {op : Op}
  {number : Nat}

theorem playsAt_concat_of_lt (earlier : number < ops.length) :
    playsAt platform index world (ops ++ [op]) number =
      playsAt platform index world ops number := by
  rw [playsAt, List.getElem?_append_left earlier,
    List.take_append_of_le_length (Nat.le_of_lt earlier), playsAt]

theorem playsAt_concat_length :
    playsAt platform index world (ops ++ [op]) ops.length =
      playsIn platform index (run platform world ops) op := by
  simp [playsAt]

theorem playsAt_of_length_le (beyond : ops.length ≤ number) :
    playsAt platform index world ops number = [] := by
  simp [playsAt, List.getElem?_eq_none beyond]

theorem lt_length_of_playsAt (delivers : playsAt platform index world ops number ≠ []) :
    number < ops.length := by
  by_contra beyond
  exact delivers (playsAt_of_length_le (Nat.le_of_not_lt beyond))

theorem opensAt_concat_iff_of_lt (earlier : number < ops.length) :
    OpensAt platform world (ops ++ [op]) number ↔ OpensAt platform world ops number := by
  rw [OpensAt, List.getElem?_append_left earlier,
    List.take_append_of_le_length (Nat.le_of_lt earlier), OpensAt]

theorem opensAt_concat_length_iff :
    OpensAt platform world (ops ++ [op]) ops.length ↔
      OpensSession (run platform world ops) op := by
  simp [OpensAt]

theorem CallsPlayAt.concat {labels : Option Labels}
    (called : CallsPlayAt platform ops number labels) :
    CallsPlayAt platform (ops ++ [op]) number labels := by
  obtain ⟨position, eventLabels, found, labelsEq⟩ := called
  have earlier := (List.getElem?_eq_some_iff.mp found).1
  refine ⟨position, eventLabels, ?_, labelsEq⟩
  rw [List.getElem?_append_left earlier]
  exact found

end Concat

/-- Every delivered play answers a call of its own: one made no later, since the
last effective `setMedia`, whose sanitised labels it carries. -/
structure Accounts (platform : Platform H) (index : Nat) (world : World H) (ops : List Op)
    (answer : Nat → Nat) : Prop where
  single : ∀ number, (playsAt platform index world ops number).length ≤ 1
  answers : ∀ number labels, labels ∈ playsAt platform index world ops number →
    answer number ≤ number ∧ CallsPlayAt platform ops (answer number) labels ∧
      ∀ later, answer number < later → later ≤ number → ¬OpensAt platform world ops later
  distinct : ∀ first second, playsAt platform index world ops first ≠ [] →
    playsAt platform index world ops second ≠ [] → answer first = answer second →
      first = second

/-- A call of the current session that no delivered play has answered yet. -/
structure Unanswered (platform : Platform H) (index : Nat) (world : World H) (ops : List Op)
    (answer : Nat → Nat) (number : Nat) (labels : Option Labels) : Prop where
  called : CallsPlayAt platform ops number labels
  current : ∀ later, number < later → later < ops.length → ¬OpensAt platform world ops later
  fresh : ∀ delivered, playsAt platform index world ops delivered ≠ [] →
    answer delivered ≠ number

section Accounting

variable {platform : Platform H} {index : Nat} {world : World H} {ops : List Op} {op : Op}
  {answer : Nat → Nat}

theorem Accounts.nil (platform : Platform H) (index : Nat) (world : World H) :
    Accounts platform index world [] id := by
  have silent (number : Nat) : playsAt platform index world [] number = [] :=
    playsAt_of_length_le (Nat.zero_le number)
  constructor
  · intro number
    simp [silent]
  · intro number labels member
    rw [silent] at member
    exact absurd member List.not_mem_nil
  · intro first second delivers
    exact absurd (silent first) delivers

/-- Earlier answers stay right after another step. -/
theorem Accounts.answers_concat (accounts : Accounts platform index world ops answer)
    {number : Nat} (earlier : number < ops.length) {labels : Option Labels}
    (member : labels ∈ playsAt platform index world (ops ++ [op]) number) :
    answer number ≤ number ∧ CallsPlayAt platform (ops ++ [op]) (answer number) labels ∧
      ∀ later, answer number < later → later ≤ number →
        ¬OpensAt platform world (ops ++ [op]) later := by
  rw [playsAt_concat_of_lt earlier] at member
  obtain ⟨notLater, called, current⟩ := accounts.answers number labels member
  refine ⟨notLater, called.concat, ?_⟩
  intro later after before
  rw [opensAt_concat_iff_of_lt (Nat.lt_of_le_of_lt before earlier)]
  exact current later after before

theorem playsAt_concat_cases {number : Nat}
    (delivers : playsAt platform index world (ops ++ [op]) number ≠ []) :
    number < ops.length ∧ playsAt platform index world ops number ≠ [] ∨
      number = ops.length := by
  have bound := lt_length_of_playsAt delivers
  rw [List.length_append, List.length_singleton] at bound
  rcases Nat.lt_succ_iff_lt_or_eq.mp bound with earlier | last
  · rw [playsAt_concat_of_lt earlier] at delivers
    exact .inl ⟨earlier, delivers⟩
  · exact .inr last

/-- A step that delivers no play needs no new answer. -/
theorem Accounts.concat_silent (accounts : Accounts platform index world ops answer)
    (silent : playsIn platform index (run platform world ops) op = []) :
    Accounts platform index world (ops ++ [op]) answer := by
  have delivered {number : Nat}
      (delivers : playsAt platform index world (ops ++ [op]) number ≠ []) :
      number < ops.length ∧ playsAt platform index world ops number ≠ [] := by
    rcases playsAt_concat_cases delivers with earlier | rfl
    · exact earlier
    · rw [playsAt_concat_length] at delivers
      exact absurd silent delivers
  constructor
  · intro number
    by_cases delivers : playsAt platform index world (ops ++ [op]) number = []
    · simp [delivers]
    · rw [playsAt_concat_of_lt (delivered delivers).1]
      exact accounts.single number
  · intro number labels member
    exact accounts.answers_concat (delivered (List.ne_nil_of_mem member)).1 member
  · intro first second firstDelivers secondDelivers same
    exact accounts.distinct first second (delivered firstDelivers).2
      (delivered secondDelivers).2 same

/-- A step that delivers a play answers a call that was not answered before. -/
theorem Accounts.concat_play (accounts : Accounts platform index world ops answer)
    {labels : Option Labels} {number : Nat}
    (delivers : playsIn platform index (run platform world ops) op = [labels])
    (notLater : number ≤ ops.length) (called : CallsPlayAt platform (ops ++ [op]) number labels)
    (current : ∀ later, number < later → later ≤ ops.length →
      ¬OpensAt platform world (ops ++ [op]) later)
    (fresh : ∀ delivered, playsAt platform index world ops delivered ≠ [] →
      answer delivered ≠ number) :
    Accounts platform index world (ops ++ [op]) (Function.update answer ops.length number) := by
  have latest : playsAt platform index world (ops ++ [op]) ops.length = [labels] :=
    playsAt_concat_length.trans delivers
  have kept {earlier : Nat} (before : earlier < ops.length) :
      Function.update answer ops.length number earlier = answer earlier :=
    Function.update_of_ne (Nat.ne_of_lt before) number answer
  constructor
  · intro step
    by_cases silent : playsAt platform index world (ops ++ [op]) step = []
    · simp [silent]
    · rcases playsAt_concat_cases silent with ⟨earlier, _⟩ | rfl
      · rw [playsAt_concat_of_lt earlier]
        exact accounts.single step
      · simp [latest]
  · intro step stepLabels member
    rcases playsAt_concat_cases (List.ne_nil_of_mem member) with ⟨earlier, _⟩ | rfl
    · rw [kept earlier]
      exact accounts.answers_concat earlier member
    · rw [latest, List.mem_singleton] at member
      subst member
      rw [Function.update_self]
      exact ⟨notLater, called, current⟩
  · intro first second firstDelivers secondDelivers same
    rcases playsAt_concat_cases firstDelivers with ⟨firstEarlier, firstBefore⟩ | rfl
    · rw [kept firstEarlier] at same
      rcases playsAt_concat_cases secondDelivers with ⟨secondEarlier, secondBefore⟩ | rfl
      · rw [kept secondEarlier] at same
        exact accounts.distinct first second firstBefore secondBefore same
      · rw [Function.update_self] at same
        exact absurd same (fresh first firstBefore)
    · rw [Function.update_self] at same
      rcases playsAt_concat_cases secondDelivers with ⟨secondEarlier, secondBefore⟩ | rfl
      · rw [kept secondEarlier] at same
        exact absurd same.symm (fresh second secondBefore)
      · rfl

/-- A call that is held back is not answered yet. -/
theorem Accounts.unanswered_concat (accounts : Accounts platform index world ops answer)
    {position : UInt64} {eventLabels : Option Labels}
    (silent : playsIn platform index (run platform world ops)
      (.media (.avPlayEvent position eventLabels)) = []) :
    Unanswered platform index world (ops ++ [.media (.avPlayEvent position eventLabels)]) answer
      ops.length (eventLabels.map (sanitiseLabels platform)) := by
  constructor
  · exact ⟨position, eventLabels, by simp, rfl⟩
  · intro later after before
    rw [List.length_append, List.length_singleton] at before
    omega
  · intro delivered delivers
    rcases playsAt_concat_cases delivers with ⟨earlier, deliversBefore⟩ | rfl
    · obtain ⟨labels, member⟩ := List.exists_mem_of_ne_nil _ deliversBefore
      have notLater := (accounts.answers delivered labels member).1
      omega
    · rw [playsAt_concat_length] at delivers
      exact absurd silent delivers

/-- A call stays unanswered while nothing is delivered and no session opened. -/
theorem Unanswered.concat {number : Nat} {labels : Option Labels}
    (unanswered : Unanswered platform index world ops answer number labels)
    (silent : playsIn platform index (run platform world ops) op = [])
    (unopened : ¬OpensSession (run platform world ops) op) :
    Unanswered platform index world (ops ++ [op]) answer number labels := by
  constructor
  · exact unanswered.called.concat
  · intro later after before
    rw [List.length_append, List.length_singleton] at before
    rcases Nat.lt_succ_iff_lt_or_eq.mp before with earlier | rfl
    · rw [opensAt_concat_iff_of_lt earlier]
      exact unanswered.current later after earlier
    · rw [opensAt_concat_length_iff]
      exact unopened
  · intro delivered delivers
    rcases playsAt_concat_cases delivers with ⟨earlier, deliversBefore⟩ | rfl
    · exact unanswered.fresh delivered deliversBefore
    · rw [playsAt_concat_length] at delivers
      exact absurd silent delivers

end Accounting

/-! ## Runs of the client -/

/-- Live media is not opened without ESS data, under a player delegate, while plays
are suppressed. -/
def OpensEnriched (platform : Platform H) (world : World H) : Op → Prop
  | .media (.setMedia media) =>
      world.client.echoEnabled = true → world.client.playerDelegate.isSome = true →
        world.client.session.suppressingPlayEvent = true →
          (platform.getClone media).isLive = true →
            (platform.getClone media).isEnrichedWithESSData = true
  | _ => True

theorem playsIn_eq {platform : Platform H} {world : World H} {index : Nat}
    (present : index < world.client.settings.delegates.length) (op : Op) :
    playsIn platform index world op =
      plays ((op.act platform world).calls (observe index world)) := by
  rw [playsIn, ← plays_filter, ← heard_emitted platform present op]
  rfl

theorem suppressesEnriched_step {platform : Platform H} {world : World H} {op : Op}
    {index : Nat} (owned : Owned (observe index world))
    (holds : SuppressesEnriched (observe index world))
    (guard : (op.act platform world).Guard (observe index world))
    (enriched : OpensEnriched platform world op) :
    SuppressesEnriched ((op.act platform world).apply (observe index world)) := by
  apply holds.apply owned
  intro clone opens suppressing
  have takes := op.act_takes platform world
  rw [opens] at takes guard
  obtain ⟨media, rfl, rfl, broker⟩ := takes.of_setMedia
  obtain ⟨delegate, delegateEq, kindEq⟩ := Option.map_eq_some_iff.mp broker.symm
  have isLive : (cloneFor platform media world).isLive = true := by
    by_contra notLive
    simp [Settings.brokerKind, notLive] at kindEq
  exact ⟨isLive, enriched guard (by simp [delegateEq]) suppressing isLive⟩

/-- The session side of a well-behaved run: brokers are owned, and only enriched
live media is suppressed. -/
theorem suppressesEnriched_run {platform : Platform H} {arguments : InitArguments}
    {world : World H} (launched : Launched platform arguments world) {ops : List Op}
    (always : Always platform (OpensEnriched platform) world ops) (index : Nat) :
    Owned (observe index (run platform world ops)) ∧
      SuppressesEnriched (observe index (run platform world ops)) := by
  refine observe_run (fun state => Owned state ∧ SuppressesEnriched state) ?_ ?_ always
  · rintro world op ⟨owned, holds⟩ enriched guard
    exact ⟨owned.apply guard, suppressesEnriched_step owned holds guard enriched⟩
  · refine ⟨(launched.owned index).1, ?_⟩
    rw [launched.observe_eq index]
    intro suppressing
    cases suppressing

/-- An effective `setMedia` makes the move of that name. -/
theorem OpensSession.act_eq {world : World H} {op : Op} (opens : OpensSession world op)
    (platform : Platform H) :
    ∃ media broker, op.act platform world = .setMedia media broker := by
  unfold OpensSession at opens
  split at opens
  · rename_i media
    have enabled : world.client.echoEnabled = true := opens
    exact ⟨cloneFor platform media world,
      world.client.brokerFor (cloneFor platform media world),
      by simp [Op.act, MediaCall.act, enabled]⟩
  · exact opens.elim

/-- A release by a running live broker finds that broker armed. -/
theorem armed_of_release {world : World H} {broker : BrokerRef}
    {index : Nat} {position : UInt64} {eventLabels : Option Labels}
    (owned : Owned (observe index world))
    (running : CallsBackRunning world (.live broker .releaseSuppressedPlay))
    (guard : (Act.release position eventLabels).Guard (observe index world)) :
    Armed (observe index world) broker := by
  obtain ⟨started, live⟩ := running
  rw [← observe_phaseOf index] at started
  rw [← observe_kindOf index] at live
  exact ⟨guard.2.2.1, (owned.running broker started).1, live, started⟩

/-- An app call of `avPlayEvent`. -/
def Op.isPlayCall : Op → Bool
  | .media (.avPlayEvent _ _) => true
  | _ => false

/-- The number of plays that the delegate at an index has received. -/
def playCount (index : Nat) (world : World H) : Nat :=
  (plays (received index world.log)).length

theorem playCount_step (platform : Platform H) (index : Nat) (world : World H) (op : Op) :
    playCount index (step platform world op) =
      playCount index world + (playsIn platform index world op).length := by
  rw [playCount, step_log, received_append, plays, List.filterMap_append, List.length_append]
  rfl

/-- What is carried along a run: all plays so far are accounted for, and an armed
broker holds a call that is not. -/
structure Balanced (platform : Platform H) (index : Nat) (world : World H) (ops : List Op)
    (answer : Nat → Nat) : Prop where
  accounts : Accounts platform index world ops answer
  counted : playCount index (run platform world ops) ≤ ops.countP Op.isPlayCall
  held : ∀ broker, Armed (observe index (run platform world ops)) broker →
    playCount index (run platform world ops) < ops.countP Op.isPlayCall ∧
      ∃ number, Unanswered platform index world ops answer number
        (run platform world ops).client.session.suppressedPlayEventLabels

section Balance

variable {platform : Platform H} {index : Nat} {world : World H} {ops : List Op} {op : Op}
  {answer : Nat → Nat}

/-- After a delivered play no broker is armed. -/
theorem not_armed_of_delivers (owned : Owned (observe index world))
    (holds : SuppressesEnriched (observe index world))
    (present : index < world.client.settings.delegates.length)
    (delivers : playsIn platform index world op ≠ []) (broker : BrokerRef) :
    ¬Armed (observe index (step platform world op)) broker := by
  intro armed
  have performs := step_performs platform present op
  rw [playsIn_eq present] at delivers
  rw [performs.result] at armed
  rcases armed_apply owned holds performs.guard armed with ⟨eventLabels, suppresses⟩ | armedBefore
  · rw [suppresses] at delivers
    exact delivers rfl
  · exact delivers armedBefore.2.2.2

theorem Balanced.concat_silent (balanced : Balanced platform index world ops answer)
    (present : index < (run platform world ops).client.settings.delegates.length)
    (owned : Owned (observe index (run platform world ops)))
    (holds : SuppressesEnriched (observe index (run platform world ops)))
    (silent : playsIn platform index (run platform world ops) op = []) :
    Balanced platform index world (ops ++ [op]) answer := by
  have countEq : playCount index (run platform world (ops ++ [op])) =
      playCount index (run platform world ops) := by
    rw [run_concat, playCount_step, silent]
    rfl
  have callsLe : ops.countP Op.isPlayCall ≤ (ops ++ [op]).countP Op.isPlayCall := by
    rw [List.countP_append]
    exact Nat.le_add_right _ _
  refine ⟨balanced.accounts.concat_silent silent, ?_, ?_⟩
  · rw [countEq]
    exact balanced.counted.trans callsLe
  · intro broker armed
    have performs := step_performs platform present op
    have sessionEq : (run platform world (ops ++ [op])).client.session =
        (op.act platform (run platform world ops)).session
          (observe index (run platform world ops)) := by
      rw [run_concat, ← Act.apply_session, ← performs.result]
      rfl
    rw [run_concat, performs.result] at armed
    rw [countEq, sessionEq]
    rcases armed_apply owned holds performs.guard armed with
      ⟨eventLabels, suppresses⟩ | ⟨armedBefore, labelsEq, unopened, _⟩
    · have takes := op.act_takes platform (run platform world ops)
      rw [suppresses] at takes
      cases takes with
      | suppress position original =>
          refine ⟨?_, ops.length, ?_⟩
          · rw [List.countP_append]
            exact Nat.lt_succ_of_le balanced.counted
          · rw [suppresses]
            exact balanced.accounts.unanswered_concat silent
    · obtain ⟨fewer, number, unanswered⟩ := balanced.held broker armedBefore
      refine ⟨fewer.trans_le callsLe, number, ?_⟩
      rw [labelsEq]
      refine unanswered.concat silent ?_
      intro opens
      obtain ⟨media, kind, actEq⟩ := opens.act_eq platform
      exact unopened media kind actEq

/-- A play that is delivered at once answers its own call. -/
theorem Balanced.concat_play (balanced : Balanced platform index world ops answer)
    (present : index < (run platform world ops).client.settings.delegates.length)
    (owned : Owned (observe index (run platform world ops)))
    (holds : SuppressesEnriched (observe index (run platform world ops)))
    {reported : UInt64} {labels : Option Labels}
    (plays : op.act platform (run platform world ops) = .play reported labels) :
    ∃ answer, Balanced platform index world (ops ++ [op]) answer := by
  have delivers : playsIn platform index (run platform world ops) op = [labels] := by
    rw [playsIn_eq present, plays]
    rfl
  have takes := op.act_takes platform (run platform world ops)
  rw [plays] at takes
  cases takes with
  | play position eventLabels =>
      refine ⟨Function.update answer ops.length ops.length, ?_, ?_, ?_⟩
      · apply balanced.accounts.concat_play delivers (Nat.le_refl _)
        · exact ⟨position, eventLabels, by simp, rfl⟩
        · intro later after before
          omega
        · intro delivered deliversBefore
          obtain ⟨earlierLabels, member⟩ := List.exists_mem_of_ne_nil _ deliversBefore
          have notLater := (balanced.accounts.answers delivered earlierLabels member).1
          have bound := lt_length_of_playsAt deliversBefore
          omega
      · rw [run_concat, playCount_step, delivers, List.countP_append]
        exact Nat.add_le_add_right balanced.counted 1
      · intro broker armed
        rw [run_concat] at armed
        exact absurd armed (not_armed_of_delivers owned holds present (by simp [delivers]) broker)

/-- A released play answers the call that was held back. -/
theorem Balanced.concat_release (cleanser : IdempotentCleanser platform)
    (balanced : Balanced platform index world ops answer)
    (present : index < (run platform world ops).client.settings.delegates.length)
    (owned : Owned (observe index (run platform world ops)))
    (holds : SuppressesEnriched (observe index (run platform world ops)))
    (running : CallsBackRunning (run platform world ops) op)
    {reported : UInt64} {labels : Option Labels}
    (releases : op.act platform (run platform world ops) = .release reported labels) :
    ∃ answer, Balanced platform index world (ops ++ [op]) answer := by
  have delivers : playsIn platform index (run platform world ops) op = [labels] := by
    rw [playsIn_eq present, releases]
    rfl
  have guard := (step_performs platform present op).guard
  have takes := op.act_takes platform (run platform world ops)
  rw [releases] at takes guard
  cases takes with
  | release broker =>
      obtain ⟨fewer, number, unanswered⟩ :=
        balanced.held broker (armed_of_release owned running guard)
      obtain ⟨position, eventLabels, found, heldEq⟩ := unanswered.called
      have bound := (List.getElem?_eq_some_iff.mp found).1
      have labelsEq : (run platform world ops).client.session.suppressedPlayEventLabels.map
          (sanitiseLabels platform) =
          (run platform world ops).client.session.suppressedPlayEventLabels := by
        rw [heldEq, Option.map_map]
        congr 1
        funext original
        exact sanitiseLabels_idem cleanser original
      refine ⟨Function.update answer ops.length number, ?_, ?_, ?_⟩
      · apply balanced.accounts.concat_play delivers (Nat.le_of_lt bound)
        · rw [labelsEq]
          exact unanswered.called.concat
        · intro later after before
          rcases Nat.lt_or_eq_of_le before with earlier | rfl
          · rw [opensAt_concat_iff_of_lt earlier]
            exact unanswered.current later after earlier
          · rw [opensAt_concat_length_iff]
            exact id
        · exact unanswered.fresh
      · rw [run_concat, playCount_step, delivers, List.countP_append]
        exact fewer
      · intro other armed
        rw [run_concat] at armed
        exact absurd armed (not_armed_of_delivers owned holds present (by simp [delivers]) other)

end Balance

theorem Launched.balanced {platform : Platform H} {arguments : InitArguments} {world : World H}
    (launched : Launched platform arguments world) (index : Nat) :
    Balanced platform index world [] id := by
  have observed := launched.observe_eq index
  refine ⟨.nil platform index world, ?_, ?_⟩
  · have silent : plays (heard index world.log) = [] := by
      rw [show heard index world.log = _ from congrArg State.heard observed]
      dsimp only
      split <;> rfl
    have countEq : playCount index world = 0 := by
      rw [playCount, ← plays_filter]
      exact congrArg List.length silent
    exact Nat.le_of_eq countEq
  · intro broker armed
    have suppressing : (observe index world).session.suppressingPlayEvent = true :=
      armed.suppressing
    rw [observed] at suppressing
    cases suppressing

/-- A well-behaved run is balanced wherever it ends. -/
theorem balanced_run {platform : Platform H} (cleanser : IdempotentCleanser platform)
    {arguments : InitArguments} {world : World H}
    (launched : Launched platform arguments world) {index : Nat}
    (present : index < world.client.settings.delegates.length) {ops : List Op}
    (always : Always platform
      (fun world op => CallsBackRunning world op ∧ OpensEnriched platform world op) world ops) :
    ∃ answer, Balanced platform index world ops answer := by
  -- Induction on the last operation: the answers so far are kept, and at most the
  -- new step is given one.
  induction ops using List.reverseRecOn with
  | nil => exact ⟨id, launched.balanced index⟩
  | append_singleton ops op ih =>
      obtain ⟨before, running, enriched⟩ := (always_concat_iff _ _ _ _ _).mp always
      obtain ⟨answer, balanced⟩ := ih before
      obtain ⟨owned, holds⟩ :=
        suppressesEnriched_run launched (before.mono fun _ _ both => both.2) index
      rw [← run_settings platform world ops] at present
      rcases Act.plays_calls (observe index (run platform world ops))
          (op.act platform (run platform world ops)) with
        ⟨reported, labels, plays⟩ | ⟨reported, labels, releases⟩ | silent
      · exact balanced.concat_play present owned holds plays
      · exact balanced.concat_release cleanser present owned holds running releases
      · refine ⟨answer, balanced.concat_silent present owned holds ?_⟩
        rw [playsIn_eq present]
        exact silent

/-- Plays are neither duplicated nor invented, along every run in which brokers call
back only while they run and no live media without ESS data is opened while plays
are suppressed: every delivered play answers a call of its own, made since the last
effective `setMedia`, with that call's sanitised labels, and at no point have more
plays been delivered than called for. -/
theorem plays_answered {platform : Platform H} (cleanser : IdempotentCleanser platform)
    {arguments : InitArguments} {world : World H}
    (launched : Launched platform arguments world) {index : Nat}
    (present : index < world.client.settings.delegates.length) {ops : List Op}
    (always : Always platform
      (fun world op => CallsBackRunning world op ∧ OpensEnriched platform world op) world ops) :
    (∃ answer, Accounts platform index world ops answer) ∧
      ∀ first, first <+: ops →
        playCount index (run platform world first) ≤ first.countP Op.isPlayCall := by
  constructor
  · obtain ⟨answer, balanced⟩ := balanced_run cleanser launched present always
    exact ⟨answer, balanced.accounts⟩
  · intro first initial
    obtain ⟨answer, balanced⟩ :=
      balanced_run cleanser launched present (always.restrict initial)
    exact balanced.counted

instance (platform : Platform H) (world : World H) :
    (op : Op) → Decidable (OpensEnriched platform world op)
  | .media (.setMedia _) => inferInstanceAs (Decidable (_ → _ → _ → _ → _))
  | .media (.setMediaLength _) | .media (.avPlayEvent _ _) | .media (.navigation _ _ _)
  | .media (.avUserActionEvent _ _ _ _) | .live _ _ | .onDemand _ _ | .report _
  | .getComScoreDeviceID | .lifecycle _ | .fireTimer _ | .playhead _ | .clock _ =>
      .isTrue trivial

/-- A play of enriched live media is held back after a pause, and released. -/
def releasedPlay : List Op :=
  [.report (.setPlayerDelegate 0), .media (.setMedia (liveMedia true)),
    .media (.avPlayEvent 0 none), .media (.navigation .avPause 0 none),
    .media (.avPlayEvent 0 none), .live 0 .releaseSuppressedPlay]

theorem plays_answered_releasedPlay :
    (∃ answer, Accounts reference 0 launchedWorld releasedPlay answer) ∧
      ∀ first, first <+: releasedPlay →
        playCount 0 (run reference launchedWorld first) ≤ first.countP Op.isPlayCall :=
  plays_answered reference_cleanser launchedWorld_launched (by decide) (by decide)

/-- Enriched live media is paused, and replaced by live media without ESS data,
whose broker releases a play after the one that was delivered. -/
def inventedPlay : List Op :=
  [.report (.setPlayerDelegate 0), .media (.setMedia (liveMedia true)),
    .media (.avPlayEvent 0 none), .media (.navigation .avPause 0 none),
    .media (.setMedia (liveMedia false)), .media (.avPlayEvent 0 none),
    .live 1 .releaseSuppressedPlay]

/-- Two calls of `avPlayEvent` lead to three delivered plays. -/
theorem not_plays_answered_inventedPlay :
    Launched reference defaultArguments launchedWorld ∧
      Always reference CallsBackRunning launchedWorld inventedPlay ∧
      inventedPlay.countP Op.isPlayCall <
        playCount 0 (run reference launchedWorld inventedPlay) :=
  ⟨launchedWorld_launched, by decide, by decide⟩

end Echo.Client
