import Echo.Labels.Delivered

/-!
# Reported positions

Three separately written paths of the client check a position against the length of the
media.  They agree: outside a play, a position that comes within a second of the end is
reported as the length, and a play at such a position is refused.  Live media is always
reported at the position of its broker.
-/

namespace Echo.Client

open Echo.Isolation Echo.Protocol Echo.Transition

variable {H : Type}

/-! ## The length check -/

/-- The position is accepted for media of this length, over the natural numbers. -/
def AcceptedAt (length position : UInt64) : Prop :=
  length = 0 ∨ position.toNat + 1000 < length.toNat

instance (length position : UInt64) : Decidable (AcceptedAt length position) :=
  inferInstanceAs (Decidable (_ ∨ _))

/-- The position that is reported for media of this length. -/
def clampPosition (length position : UInt64) : UInt64 :=
  if AcceptedAt length position then position else length

theorem exceededBy_iff (media : Media) (position : UInt64) :
    media.exceededBy position = true ↔ ¬AcceptedAt media.length position := by
  have zero : media.length = 0 ↔ media.length.toNat = 0 := by
    rw [← UInt64.toNat_inj]
    rfl
  have atLeast : media.length ≥ 1000 ↔ 1000 ≤ media.length.toNat := UInt64.le_iff_toNat_le
  have below : media.length < 1000 ↔ media.length.toNat < 1000 := UInt64.lt_iff_toNat_lt
  unfold Media.exceededBy AcceptedAt
  by_cases long : media.length ≥ 1000
  · have limit : (media.length - 1000).toNat = media.length.toNat - 1000 :=
      UInt64.toNat_sub_of_le _ _ long
    have reached : position ≥ media.length - 1000 ↔
        media.length.toNat - 1000 ≤ position.toNat := by
      rw [← limit]
      exact UInt64.le_iff_toNat_le
    have longNat := atLeast.mp long
    simp only [long, true_and, reached, below, ne_eq, zero]
    split
    · simp only [true_iff]
      omega
    · rw [if_neg (by omega)]
      simp only [Bool.false_eq_true, false_iff]
      omega
  · have short : media.length.toNat < 1000 := by
      rw [← below]
      exact UInt64.not_le.mp long
    simp only [long, false_and, if_false, below, ne_eq, zero]
    split
    · simp only [true_iff]
      omega
    · simp only [Bool.false_eq_true, false_iff]
      omega

theorem clampPosition_le {length : UInt64} (nonzero : length ≠ 0) (position : UInt64) :
    clampPosition length position ≤ length := by
  unfold clampPosition
  split
  · rename_i accepted
    rcases accepted with isZero | before
    · exact absurd isZero nonzero
    · rw [UInt64.le_iff_toNat_le]
      omega
  · exact UInt64.le_refl length

theorem clampPosition_mono (length : UInt64) {first second : UInt64} (le : first ≤ second) :
    clampPosition length first ≤ clampPosition length second := by
  by_cases firstAccepted : AcceptedAt length first
  · by_cases secondAccepted : AcceptedAt length second
    · simpa only [clampPosition, if_pos firstAccepted, if_pos secondAccepted] using le
    · have nonzero : length ≠ 0 := fun isZero => secondAccepted (.inl isZero)
      have bounded := clampPosition_le nonzero first
      simpa only [clampPosition, if_neg secondAccepted] using bounded
  · have secondRefused : ¬AcceptedAt length second := by
      rw [UInt64.le_iff_toNat_le] at le
      rintro (isZero | before)
      · exact firstAccepted (.inl isZero)
      · exact firstAccepted (.inr (by omega))
    simp only [clampPosition, if_neg firstAccepted, if_neg secondRefused]
    exact UInt64.le_refl length

theorem clampPosition_idem (length position : UInt64) :
    clampPosition length (clampPosition length position) = clampPosition length position := by
  by_cases accepted : AcceptedAt length position
  · simp only [clampPosition, if_pos accepted]
  · have refused : ¬AcceptedAt length length := by
      rintro (isZero | before)
      · exact accepted (.inl isZero)
      · omega
    simp only [clampPosition, if_neg accepted, if_neg refused]

/-! ## No underflow -/

/-- Unsigned subtraction, which traps when it would underflow. -/
def trappingSub (minuend subtrahend : UInt64) : Option UInt64 :=
  if subtrahend ≤ minuend then some (minuend - subtrahend) else none

/-- The length check with the subtraction that may trap.  The conjunction is evaluated
from the left, so the subtraction is not reached unless the length is at least 1000. -/
def positionExceedsTrapping (position : UInt64) (world : World H) : Option Bool :=
  match world.client.session.media with
  | none => some false
  | some media =>
      let shortMedia := media.length < 1000 && media.length != 0
      if media.length ≥ 1000 then
        (trappingSub media.length 1000).map fun limit =>
          if position ≥ limit then true else shortMedia
      else some shortMedia

theorem positionExceedsTrapping_eq (position : UInt64) (world : World H) :
    positionExceedsTrapping position world = some (positionExceedsMediaLength position world) := by
  unfold positionExceedsTrapping positionExceedsMediaLength trappingSub
  cases world.client.session.media with
  | none => rfl
  | some media =>
      have short : (decide (media.length < 1000) && media.length != 0) =
          if media.length < 1000 ∧ media.length ≠ 0 then true else false := by
        by_cases below : media.length < 1000 <;> by_cases zero : media.length = 0 <;>
          simp [below, zero]
      dsimp only
      rw [short]
      by_cases long : media.length ≥ 1000
      · simp [long]
      · simp [long]

/-! ## What is delivered -/

/-- The position that a call reports. -/
def DelegateCall.position : DelegateCall → Option UInt64
  | .avPlayEvent position _ | .avPauseEvent position _ | .avBufferEvent position _
  | .avEndEvent position _ | .avRewindEvent position _ _ | .avFastForwardEvent position _ _
  | .avSeekEvent position _ | .avUserActionEvent _ _ position _ => some position
  | _ => none

/-- The positions that the delegate at an index receives from one step. -/
def positions (platform : Platform H) (index : Nat) (world : World H) (op : Op) :
    List UInt64 :=
  (received index (emitted platform world op)).filterMap DelegateCall.position

/-- The calls that one step makes on brokers. -/
def brokerCalls (platform : Platform H) (world : World H) (op : Op) :
    List (BrokerRef × BrokerCall) :=
  (emitted platform world op).filterMap fun
    | .broker broker call => some (broker, call)
    | _ => none

/-- The position that an operation other than a play asks to report. -/
def Op.asksFor : Op → Option UInt64
  | .media (.navigation _ position _) | .media (.avUserActionEvent _ _ position _)
  | .live _ (.sendHeartbeat _ position) | .onDemand _ (.sendHeartbeat _ position)
  | .onDemand _ (.avPauseEvent position _) => some position
  | _ => none

theorem positions_eq {platform : Platform H} {world : World H} {op : Op} {reaction : Reaction}
    (shown : Shows platform world (step platform world op) reaction) (index : Nat) :
    positions platform index world op = reaction.2.filterMap DelegateCall.position := by
  have upToMedia : ∀ call : DelegateCall, call.attributes.position = call.position := by
    intro call
    cases call <;> rfl
  have grown := shown.calls index
  rw [step_log, seen_append] at grown
  rw [← List.append_cancel_left grown, seen, List.filterMap_map, positions]
  congr 1
  funext call
  exact (upToMedia call).symm

/-- The view reports the broker's position of live media, and the clamped one of other
media. -/
theorem report_of_position {view : View} {own : UInt64} (positionEq : view.position = some own)
    (media : Media) (position : UInt64) :
    view.report media position =
      if media.isLive then own else clampPosition media.length position := by
  unfold View.report clampPosition
  rw [positionEq]
  dsimp only
  split
  · rfl
  · by_cases accepted : AcceptedAt media.length position
    · rw [if_neg (mt (exceededBy_iff media position).mp (not_not_intro accepted)),
        if_pos accepted]
    · rw [if_pos ((exceededBy_iff media position).mpr accepted), if_neg accepted]

/-- A report outside a play. -/
theorem positions_of_asksFor (platform : Platform H) {world : World H}
    (enabled : world.client.echoEnabled = true) {media : Media}
    (stored : world.client.session.media = some media) {broker : BrokerRef}
    (current : world.client.session.broker = some broker) {op : Op} {position : UInt64}
    (asks : op.asksFor = some position) (index : Nat) :
    positions platform index world op =
      [if media.isLive then world.positionOf broker
        else clampPosition media.length position] := by
  have mediaEq : (viewOf platform world).media = some media.attributes := by
    simp [viewOf, stored]
  have positionEq : (viewOf platform world).position = some (world.positionOf broker) := by
    simp [viewOf, current]
  have reported := report_of_position positionEq media.attributes position
  have navigated (navigation : Navigation) (labels : Option Labels)
      (shown : Shows platform world (step platform world op)
        ((viewOf platform world).navigate navigation position labels)) :
      positions platform index world op =
        [if media.isLive then world.positionOf broker
          else clampPosition media.length position] := by
    rw [positions_eq shown, View.navigate, mediaEq]
    simp only [reported]
    cases navigation <;> rfl
  have acted (actionType actionName : String) (labels : Option Labels)
      (shown : Shows platform world (step platform world op)
        ((viewOf platform world).userAction actionType actionName position labels)) :
      positions platform index world op =
        [if media.isLive then world.positionOf broker
          else clampPosition media.length position] := by
    rw [positions_eq shown, View.userAction, mediaEq]
    simp only [reported]
    rfl
  cases op with
  | media call =>
      cases call with
      | navigation navigation position labels =>
          cases asks
          apply navigated navigation
          rw [step, MediaCall.perform, Navigation.event_eq_navigate]
          exact navigate_shows platform navigation position labels enabled
      | avUserActionEvent actionType actionName position labels =>
          cases asks
          exact acted actionType actionName _
            (avUserActionEvent_shows platform actionType actionName position labels enabled)
      | _ => cases asks
  | live other callback =>
      cases callback with
      | sendHeartbeat name position =>
          cases asks
          exact acted "echo_hb" name none
            (avUserActionEvent_shows platform "echo_hb" name position none enabled)
      | _ => cases asks
  | onDemand other callback =>
      cases callback with
      | sendHeartbeat name position =>
          cases asks
          exact acted "echo_hb" name none
            (avUserActionEvent_shows platform "echo_hb" name position none enabled)
      | avPauseEvent position labels =>
          cases asks
          exact navigated .avPause _ (navigate_shows platform .avPause position labels enabled)
  | _ => cases asks

/-! ## Plays -/

theorem positionExceedsMediaLength_iff {world : World H} {media : Media}
    (stored : world.client.session.media = some media) (position : UInt64) :
    positionExceedsMediaLength position world = true ↔ ¬AcceptedAt media.length position := by
  rw [positionExceedsMediaLength_eq stored]
  exact exceededBy_iff media.attributes position

/-- An accepted play moves the broker before it starts it. -/
theorem emitted_play (platform : Platform H) {world : World H}
    (enabled : world.client.echoEnabled = true) {media : Media}
    (stored : world.client.session.media = some media) {broker : BrokerRef}
    (current : world.client.session.broker = some broker) (notLive : media.isLive = false)
    {position : UInt64} (accepted : AcceptedAt media.length position) (labels : Option Labels) :
    ∃ message client, emitted platform world (.media (.avPlayEvent position labels)) =
      [.debug .info message, .broker broker (.setPosition position), .broker broker .start,
        .broadcast (.avPlayEvent position (labels.map (sanitiseLabels platform))) client] := by
  have within (level : EchoDebugLevel) (message : String) :
      positionExceedsMediaLength position (world.debug level message) = false := by
    have storedStill : (world.debug level message).client.session.media = some media := stored
    rw [← Bool.not_eq_true, positionExceedsMediaLength_iff storedStill]
    exact not_not_intro accepted
  have logged : ∃ message client,
      (step platform world (.media (.avPlayEvent position labels))).log = world.log ++
        [.debug .info message, .broker broker (.setPosition position), .broker broker .start,
          .broadcast (.avPlayEvent position (labels.map (sanitiseLabels platform))) client] := by
    simp [step, MediaCall.perform, avPlayEvent, enabled, announce, stored, playBroker, current,
      notLive, within, deliverPlay]
  obtain ⟨message, client, logEq⟩ := logged
  refine ⟨message, client, ?_⟩
  rw [emitted, logEq, List.drop_left]

/-- A play of live media is reported at the position of its broker, unless it is held
back. -/
theorem positions_of_live_play (platform : Platform H) {world : World H}
    (enabled : world.client.echoEnabled = true) (made : BrokerMade world) {media : Media}
    (stored : world.client.session.media = some media) {broker : BrokerRef}
    (current : world.client.session.broker = some broker) (live : media.isLive = true)
    (position : UInt64) (labels : Option Labels) (index : Nat) :
    positions platform index world (.media (.avPlayEvent position labels)) =
      if media.isEnrichedWithESSData && world.client.session.suppressingPlayEvent then []
      else [world.positionOf broker] := by
  have shown : Shows platform world (step platform world (.media (.avPlayEvent position labels)))
      _ := avPlayEvent_shows platform position labels enabled made
  have mediaEq : (viewOf platform world).media = some media.attributes := by
    simp [viewOf, stored]
  have positionEq : (viewOf platform world).position = some (world.positionOf broker) := by
    simp [viewOf, current]
  have liveEq : media.attributes.isLive = true := live
  have holdsEq : (media.attributes.holdsPlays && (viewOf platform world).suppressing) =
      (media.isEnrichedWithESSData && world.client.session.suppressingPlayEvent) := by
    simp [Media.holdsPlays, Media.attributes, live, viewOf]
  rw [positions_eq shown, View.play, mediaEq, positionEq]
  simp only [liveEq, if_true, View.deliver, holdsEq]
  split
  · rfl
  · rfl

/-- What a client with this media and this broker reports. -/
structure ReportsPositions (platform : Platform H) (index : Nat) (world : World H)
    (media : Media) (broker : BrokerRef) : Prop where
  /-- Outside a play, other media than live is reported at the clamped position. -/
  clamped : media.isLive = false → ∀ op position, op.asksFor = some position →
    positions platform index world op = [clampPosition media.length position]
  /-- An accepted play is reported where it is, after the broker was set there and
  started. -/
  played : media.isLive = false → ∀ position labels, AcceptedAt media.length position →
    positions platform index world (.media (.avPlayEvent position labels)) = [position] ∧
      brokerCalls platform world (.media (.avPlayEvent position labels)) =
        [(broker, .setPosition position), (broker, .start)]
  /-- Any other play of such media does nothing. -/
  refused : media.isLive = false → ∀ position labels, ¬AcceptedAt media.length position →
    Unaffected world (step platform world (.media (.avPlayEvent position labels)))
  /-- Live media is reported at the position of its broker. -/
  live : media.isLive = true → ∀ op position, op.asksFor = some position →
    positions platform index world op = [world.positionOf broker]
  /-- So is a play of live media, unless it is held back. -/
  livePlay : media.isLive = true → ∀ position labels,
    positions platform index world (.media (.avPlayEvent position labels)) =
      if media.isEnrichedWithESSData && world.client.session.suppressingPlayEvent then []
      else [world.positionOf broker]

/-- Reported positions, in every reachable enabled state with media and a broker: they
follow the clamped position, which never exceeds a length, is monotone and stable, and
is computed without underflow. -/
theorem reported_positions {platform : Platform H} {arguments : InitArguments} {world : World H}
    (launched : Launched platform arguments world) (ops : List Op) {media : Media}
    {broker : BrokerRef} (enabled : (run platform world ops).client.echoEnabled = true)
    (stored : (run platform world ops).client.session.media = some media)
    (current : (run platform world ops).client.session.broker = some broker) (index : Nat) :
    ReportsPositions platform index (run platform world ops) media broker ∧
      (media.length ≠ 0 → ∀ position, clampPosition media.length position ≤ media.length) ∧
      (∀ first second, first ≤ second →
        clampPosition media.length first ≤ clampPosition media.length second) ∧
      (∀ position, clampPosition media.length (clampPosition media.length position) =
        clampPosition media.length position) ∧
      ∀ position, positionExceedsTrapping position (run platform world ops) =
        some (positionExceedsMediaLength position (run platform world ops)) := by
  refine ⟨?_, clampPosition_le, fun _ _ => clampPosition_mono media.length,
    clampPosition_idem media.length, fun position => positionExceedsTrapping_eq position _⟩
  constructor
  · intro notLive op position asks
    rw [positions_of_asksFor platform enabled stored current asks index, notLive]
    rfl
  · intro notLive position labels accepted
    obtain ⟨message, client, emittedEq⟩ :=
      emitted_play platform enabled stored current notLive accepted labels
    rw [positions, brokerCalls, emittedEq]
    exact ⟨rfl, rfl⟩
  · intro notLive position labels refused
    apply unaffected_of_refusesPlay
    exact ⟨⟨media, stored, notLive⟩, by simp [current],
      (positionExceedsMediaLength_iff stored position).mpr refused⟩
  · intro live op position asks
    rw [positions_of_asksFor platform enabled stored current asks index, live]
    rfl
  · intro live position labels
    exact positions_of_live_play platform enabled (launched.brokerMade_run ops) stored current
      live position labels index

/-- An episode of five seconds, asked to report a pause near its end. -/
def episode : Media :=
  { objectID := 0
    consumptionMode := .onDemand
    isLive := false
    isEnrichedWithESSData := false
    length := 5000
    isPlaying := false
    isBuffering := false }

theorem reported_positions_episode :
    positions reference 0
      (run reference launchedWorld [.report (.setPlayerDelegate 0), .media (.setMedia episode)])
      (.media (.navigation .avPause 4500 none)) = [5000] :=
  (reported_positions launchedWorld_launched
    [.report (.setPlayerDelegate 0), .media (.setMedia episode)]
    (show _ = true by decide) (show _ = some (episode) by decide) (show _ = some 0 by decide)
    0).1.clamped rfl _ 4500 rfl

end Echo.Client
