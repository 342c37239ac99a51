import Echo.Client.Laws
import Echo.Isolation.Agreement
import Echo.Isolation.Showing
import Echo.Protocol.Observe

/-!
# Isolated sessions

`setMedia` closes the last session and opens a new one, but it keeps the suppression of
plays and the labels of a play that was held back.  Whatever two clients did before,
what they deliver from `setMedia` on is the same exactly if these two do not differ in a
way that can surface.
-/

namespace Echo.Client

open Echo.Isolation Echo.Protocol Echo.Transition

variable {H : Type}

/-! ## Opening a session -/

theorem clearMedia_session (platform : Platform H) (world : World H) :
    (clearMedia platform world).client.session =
      { world.client.session with media := none, broker := none } := by
  have closed := congrArg State.session (observe_clearMedia platform 0 world)
  exact closed.trans (by simp [State.close, Session.closed])

/-- The position of the broker that the factory makes. -/
def freshPosition (platform : Platform H) (client : EchoClient) (media : Media) :
    Option UInt64 :=
  client.playerDelegate.map fun playerDelegate =>
    platform.brokerPosition (client.settings.brokerKind media) playerDelegate media

theorem makeBroker_position (platform : Platform H) (playerDelegate : PlayerDelegate)
    (media : Media) (world : World H) :
    ∃ phase log, makeBroker platform playerDelegate media world =
      { world with
        client := { world.client with
          session := { world.client.session with broker := some world.brokers.length } }
        brokers := world.brokers ++ [⟨world.client.settings.brokerKind media, phase,
          platform.brokerPosition (world.client.settings.brokerKind media) playerDelegate media⟩]
        log } := by
  refine ⟨.made, (makeBroker platform playerDelegate media world).log, ?_⟩
  unfold makeBroker
  dsimp only
  split
  · rename_i essUrl hasUrl isLive
    have live : world.client.settings.brokerKind media = .live := by
      simp [Settings.brokerKind, hasUrl, isLive]
    rw [live]
    rfl
  · rename_i notLive
    have onDemand : world.client.settings.brokerKind media = .onDemand := by
      cases hasUrl : world.client.settings.essUrl with
      | none => simp [Settings.brokerKind, hasUrl]
      | some essUrl =>
          cases isLive : media.isLive with
          | false => simp [Settings.brokerKind, isLive]
          | true => exact absurd isLive (notLive essUrl hasUrl)
    rw [onDemand]
    rfl

/-- What is visible of a session that has just got its broker. -/
theorem initBroker_view (platform : Platform H) {world : World H} {media : Media}
    (stored : world.client.session.media = some media)
    (closed : world.client.session.broker = none) :
    viewOf platform (initBroker platform world) =
        { viewOf platform world with
          media := some media.attributes
          position := freshPosition platform world.client media } ∧
      BrokerMade (initBroker platform world) := by
  unfold initBroker freshPosition
  cases delegate : world.client.playerDelegate with
  | none =>
      constructor
      · simp [viewOf, stored, closed]
      · intro broker member
        rw [closed] at member
        cases member
  | some playerDelegate =>
      obtain ⟨phase, log, made⟩ := makeBroker_position platform playerDelegate media world
      simp only [stored, made]
      constructor
      · simp [viewOf, stored, World.positionOf]
      · intro broker member
        cases member
        simp

/-- What is visible of a session that has just been opened: its media and its broker are
new, the suppression of plays and the labels of a play held back are not. -/
theorem openSession_view (platform : Platform H) (media : Media) (world : World H) :
    viewOf platform (openSession platform media world) =
        { viewOf platform world with
          media := some (platform.getClone media).attributes
          position := freshPosition platform world.client (cloneFor platform media world) } ∧
      BrokerMade (openSession platform media world) ∧
      (openSession platform media world).client.session.media =
        some (cloneFor platform media world) := by
  obtain ⟨delegate, nextID⟩ := clearMedia_keeps platform world
  have settings := (clearMedia_frame platform world).settings
  have session := clearMedia_session platform world
  have opened : openSession platform media world = initBroker platform
      (addLabel platform (platform.labelKey .essEnabled)
        (if world.client.settings.essEnabled then "true" else "false")
        (adoptClone platform media (clearMedia platform world))) := by
    rw [← settings]
    rfl
  have cloned : (adoptClone platform media (clearMedia platform world)).client.session =
      { world.client.session with
        media := some (cloneFor platform media world)
        broker := none } := by
    have stored : (adoptClone platform media (clearMedia platform world)).client.session =
        { (clearMedia platform world).client.session with
          media := some (cloneFor platform media (clearMedia platform world)) } := rfl
    rw [stored, session, cloneFor, nextID]
    rfl
  have fresh : freshPosition platform
      (adoptClone platform media (clearMedia platform world)).client
      (cloneFor platform media world) =
      freshPosition platform world.client (cloneFor platform media world) := by
    have kept : (adoptClone platform media (clearMedia platform world)).client.playerDelegate =
        world.client.playerDelegate := delegate
    have settingsKept : (adoptClone platform media (clearMedia platform world)).client.settings =
        world.client.settings := settings
    rw [freshPosition, kept, settingsKept]
    rfl
  have stored : (addLabel platform (platform.labelKey .essEnabled)
        (if world.client.settings.essEnabled then "true" else "false")
        (adoptClone platform media (clearMedia platform world))).client.session.media =
      some (cloneFor platform media world) := congrArg Session.media cloned
  obtain ⟨view, made⟩ := initBroker_view platform stored (congrArg Session.broker cloned)
  rw [opened]
  refine ⟨view.trans ?_, made, ?_⟩
  · rw [addLabel_client, fresh]
    simp only [viewOf, addLabel_client, cloned]
    rfl
  · have adopted := congrArg State.session (observe_initBroker platform stored 0)
    exact (congrArg Session.media adopted).trans (by simp)

/-! ## What a session delivers -/

/-- What the delegate at an index receives from the delegates' `setMedia` on. -/
def delivered (platform : Platform H) (index : Nat) (media : Media) (world : World H)
    (ops : List Op) : List DelegateCall :=
  seen index ((run platform (setMedia platform media world) ops).log.drop
    (openSession platform media world).log.length)

theorem delivered_eq (platform : Platform H) (index : Nat) (media : Media) {world : World H}
    (enabled : world.client.echoEnabled = true) {ops : List Op}
    (inSession : ∀ op ∈ ops, op.InSession) :
    delivered platform index media world ops =
      .setMedia (platform.getClone media).attributes ::
        outputs (View.next platform) (View.output platform)
          (viewOf platform (openSession platform media world)) ops := by
  obtain ⟨_, made, stored⟩ := openSession_view platform media world
  have opened : setMedia platform media world =
      (openSession platform media world).broadcast
        (.setMedia (cloneFor platform media world)) := by
    simp only [setMedia, enabled, Bool.not_true, Bool.false_eq_true, if_false, stored]
  have shown : Shows platform (openSession platform media world) _ _ :=
    .broadcast (.setMedia (cloneFor platform media world)) _
  have stillEnabled : (setMedia platform media world).client.echoEnabled = true :=
    (setMedia_frame platform media world).echoEnabled.trans enabled
  obtain ⟨entries, logEq⟩ := run_log platform (setMedia platform media world) ops
  have inside := seen_run platform stillEnabled (by rw [opened]; exact shown.brokerMade made)
    inSession index
  rw [logEq, seen_append] at inside
  have later := List.append_cancel_left inside
  rw [opened, shown.view] at later
  rw [delivered, logEq, opened, World.broadcast_log, List.append_assoc, List.drop_left,
    seen_append, later]
  rfl

/-! ## Clients with different pasts -/

/-- Two clients have kept nothing of their earlier sessions that could surface in a
session of the media. -/
def SameResidue (platform : Platform H) (media : Media) (left right : World H) : Prop :=
  (left.client.playerDelegate.isSome = true →
    left.client.session.suppressedPlayEventLabels.map (sanitiseLabels platform) =
      right.client.session.suppressedPlayEventLabels.map (sanitiseLabels platform)) ∧
  (left.client.session.suppressingPlayEvent = right.client.session.suppressingPlayEvent ∨
    if left.client.playerDelegate.isSome = true then media.RefusesPlays
    else media.holdsPlays = false)

/-- Fresh brokers start at the same position. -/
theorem freshPosition_congr {platform : Platform H} (positions : SameBrokerPositions platform)
    (media : Media) {left right : World H}
    (settings : left.client.settings = right.client.settings)
    (playerDelegate : left.client.playerDelegate = right.client.playerDelegate) :
    freshPosition platform left.client (cloneFor platform media left) =
      freshPosition platform right.client (cloneFor platform media right) := by
  unfold freshPosition
  rw [settings, playerDelegate]
  congr 1
  funext delegate
  apply positions
  rfl

theorem agrees_openSession_iff {platform : Platform H} (clones : CopiesAttributes platform)
    (positions : SameBrokerPositions platform) (media : Media) {left right : World H}
    (settings : left.client.settings = right.client.settings)
    (playerDelegate : left.client.playerDelegate = right.client.playerDelegate) :
    Agrees (viewOf platform (openSession platform media left))
        (viewOf platform (openSession platform media right)) ↔
      SameResidue platform media left right := by
  have fresh := freshPosition_congr positions media settings playerDelegate
  rw [(openSession_view platform media left).1, (openSession_view platform media right).1,
    clones media]
  have hasPosition :
      (freshPosition platform left.client (cloneFor platform media left)).isSome =
        left.client.playerDelegate.isSome := Option.isSome_map
  have blind : ({ viewOf platform left with
        media := some media.attributes
        position := freshPosition platform left.client (cloneFor platform media left) } :
          View).Blind ↔
      if left.client.playerDelegate.isSome = true then media.RefusesPlays
      else media.holdsPlays = false := by
    cases delegate : left.client.playerDelegate with
    | none =>
        simp only [View.Blind, freshPosition, delegate, Option.map_none]
        rfl
    | some playerDelegate =>
        simp only [View.Blind, freshPosition, delegate, Option.map_some]
        rfl
  constructor
  · intro agrees
    exact ⟨fun delegate => agrees.labels (hasPosition.trans delegate),
      agrees.suppressing.imp_right blind.mp⟩
  · rintro ⟨labels, suppressing⟩
    exact ⟨rfl, fresh, fun broker => labels (hasPosition.symm.trans broker),
      suppressing.imp_right blind.mpr⟩

/-- Two enabled clients of one configuration, whatever they did before, deliver the same
from the delegates' `setMedia` on exactly if nothing they have kept of their earlier
sessions can surface. -/
theorem sessions_isolated_iff {platform : Platform H} (clones : CopiesAttributes platform)
    (positions : SameBrokerPositions platform) (media : Media) {left right : World H}
    (leftEnabled : left.client.echoEnabled = true)
    (rightEnabled : right.client.echoEnabled = true)
    (settings : left.client.settings = right.client.settings)
    (playerDelegate : left.client.playerDelegate = right.client.playerDelegate) :
    (∀ ops, (∀ op ∈ ops, op.InSession) → ∀ index < left.client.settings.delegates.length,
      delivered platform index media left ops = delivered platform index media right ops) ↔
      left.client.settings.delegates = [] ∨ SameResidue platform media left right := by
  have sameMedia : (viewOf platform (openSession platform media left)).media =
      (viewOf platform (openSession platform media right)).media := by
    rw [(openSession_view platform media left).1, (openSession_view platform media right).1]
  have samePosition : (viewOf platform (openSession platform media left)).position =
      (viewOf platform (openSession platform media right)).position := by
    rw [(openSession_view platform media left).1, (openSession_view platform media right).1]
    exact freshPosition_congr positions media settings playerDelegate
  rw [← agrees_openSession_iff clones positions media settings playerDelegate,
    agrees_iff platform sameMedia samePosition]
  constructor
  · intro same
    cases delegates : left.client.settings.delegates with
    | nil => exact .inl rfl
    | cons delegate others =>
        right
        intro ops inSession
        have received := same ops inSession 0 (by simp [delegates])
        rw [delivered_eq platform 0 media leftEnabled inSession,
          delivered_eq platform 0 media rightEnabled inSession] at received
        exact List.tail_eq_of_cons_eq received
  · rintro (none | same) ops inSession index present
    · rw [none] at present
      exact absurd present (Nat.not_lt_zero index)
    · rw [delivered_eq platform index media leftEnabled inSession,
        delivered_eq platform index media rightEnabled inSession, same ops inSession]

/-- A session of live media that is played and paused. -/
def pausedSession (media : Media) : List Op :=
  [.report (.setPlayerDelegate 0), .media (.setMedia media), .media (.avPlayEvent 0 none),
    .media (.navigation .avPause 0 none)]

/-- A paused session of live media without ESS data leaves nothing behind. -/
theorem sessions_isolated_plainLive :
    delivered reference 0 (liveMedia true)
        (run reference launchedWorld (pausedSession (liveMedia false)))
        [.media (.avPlayEvent 0 none), .media (.navigation .avPause 0 none)] =
      delivered reference 0 (liveMedia true)
        (run reference launchedWorld [.report (.setPlayerDelegate 0)])
        [.media (.avPlayEvent 0 none), .media (.navigation .avPause 0 none)] := by
  have paused : (run reference launchedWorld
      (pausedSession (liveMedia false))).client.echoEnabled = true := by decide
  have fresh : (run reference launchedWorld
      [.report (.setPlayerDelegate 0)]).client.echoEnabled = true := by decide
  exact (sessions_isolated_iff reference_clone reference_positions (liveMedia true)
    paused fresh (by decide) (by decide)).mpr (.inr ⟨fun _ => rfl, .inl (by decide)⟩) _
    (by simp [Op.InSession]) 0 (by decide)

/-- A paused session of enriched live media leaves plays suppressed, and the first play of
the next session is held back. -/
theorem not_sessions_isolated_enrichedLive :
    let paused := run reference launchedWorld (pausedSession (liveMedia true))
    let fresh := run reference launchedWorld [.report (.setPlayerDelegate 0)]
    Launched reference defaultArguments launchedWorld ∧
      paused.client.echoEnabled = true ∧ fresh.client.echoEnabled = true ∧
      paused.client.settings = fresh.client.settings ∧
      paused.client.playerDelegate = fresh.client.playerDelegate ∧
      paused.client.hasStarted = fresh.client.hasStarted ∧
      paused.client.counterNameSet = fresh.client.counterNameSet ∧
      paused.client.user = fresh.client.user ∧
      delivered reference 0 (liveMedia true) paused [.media (.avPlayEvent 0 none)] ≠
        delivered reference 0 (liveMedia true) fresh [.media (.avPlayEvent 0 none)] :=
  ⟨launchedWorld_launched, by decide, by decide, by decide, by decide, by decide, by decide,
    by decide, by decide⟩

end Echo.Client
