import Echo.Isolation.View

/-!
# Views that cannot be told apart

Two views of the same media at the same position put out the same calls under every
sequence of operations exactly if they agree on what can still surface: the labels
that a release would deliver, and the suppression of plays wherever it matters.
-/

namespace Echo.Client

/-- Media that is not live but whose length is not to be set, and that refuses a play
even from its start. -/
def Media.RefusesPlays (media : Media) : Prop :=
  media.isLive = false ∧ media.consumptionMode = .live ∧ media.exceededBy 0 = true

instance (media : Media) : Decidable media.RefusesPlays :=
  inferInstanceAs (Decidable (_ ∧ _ ∧ _))

/-- Media that refuses a play from its start refuses one from anywhere. -/
theorem Media.exceededBy_of_zero {media : Media} (exceeded : media.exceededBy 0 = true)
    (position : UInt64) : media.exceededBy position = true := by
  unfold Media.exceededBy at exceeded ⊢
  split at exceeded
  · rename_i atEnd
    have reached : position ≥ media.length - 1000 :=
      UInt64.le_trans atEnd.2 (UInt64.zero_le)
    rw [if_pos ⟨atEnd.1, reached⟩]
  · split at exceeded
    · split
      · rfl
      · rfl
    · cases exceeded

end Echo.Client

namespace Echo.Isolation

open Echo.Client Echo.Transition

variable {H : Type}

/-- Whether plays are suppressed can never surface. -/
def View.Blind (view : View) : Prop :=
  match view.media, view.position with
  | none, _ => True
  | some media, none => media.holdsPlays = false
  | some media, some _ => media.RefusesPlays

structure Agrees (left right : View) : Prop where
  media : left.media = right.media
  position : left.position = right.position
  labels : left.position.isSome → left.labels = right.labels
  suppressing : left.suppressing = right.suppressing ∨ left.Blind

/-- Two reactions put out the same calls, and end in views that agree. -/
def SameReaction (left right : Reaction) : Prop :=
  left.2 = right.2 ∧ Agrees left.1 right.1

namespace Agrees

variable {left right : View}

/-- Writing the same media to both views. -/
theorem withMedia (agrees : Agrees left right) {media : Option Media}
    (blind : left.Blind → { left with media }.Blind) :
    Agrees { left with media } { right with media } where
  media := rfl
  position := agrees.position
  labels := agrees.labels
  suppressing := agrees.suppressing.imp_right blind

theorem deliver (platform : Platform H) (agrees : Agrees left right) {media : Media}
    (current : left.media = some media)
    (same : media.holdsPlays = true ∨ left.position.isSome →
      left.suppressing = right.suppressing)
    (position : UInt64) (sanitisedLabels : Option Labels) :
    SameReaction (left.deliver platform media position sanitisedLabels)
      (right.deliver platform media position sanitisedLabels) := by
  have heldSame : (media.holdsPlays && left.suppressing) =
      (media.holdsPlays && right.suppressing) := by
    cases holds : media.holdsPlays with
    | true => rw [same (.inl holds)]
    | false => rfl
  unfold View.deliver
  rw [← heldSame]
  split
  · exact ⟨rfl, agrees.media, agrees.position, fun _ => rfl, agrees.suppressing⟩
  · refine ⟨rfl, agrees.withMedia ?_⟩
    intro blind
    cases positionEq : left.position with
    | none =>
        simp only [View.Blind, current, positionEq] at blind ⊢
        exact blind
    | some own =>
        simp only [View.Blind, current, positionEq] at blind ⊢
        exact blind

theorem play (platform : Platform H) (agrees : Agrees left right) (position : UInt64)
    (sanitisedLabels : Option Labels) :
    SameReaction (left.play platform position sanitisedLabels)
      (right.play platform position sanitisedLabels) := by
  unfold View.play
  rw [← agrees.media, ← agrees.position]
  cases current : left.media with
  | none => exact ⟨rfl, agrees⟩
  | some media =>
      cases positionEq : left.position with
      | none =>
          apply agrees.deliver platform current
          rintro (holds | impossible)
          · rcases agrees.suppressing with same | blind
            · exact same
            · simp [View.Blind, current, positionEq, holds] at blind
          · simp [positionEq] at impossible
      | some own =>
          have unlessRefused (plays : ¬media.RefusesPlays) :
              left.suppressing = right.suppressing := by
            rcases agrees.suppressing with same | blind
            · exact same
            · simp only [View.Blind, current, positionEq] at blind
              exact absurd blind plays
          by_cases live : media.isLive = true
          · simp only [if_pos live]
            apply agrees.deliver platform current
            intro _
            exact unlessRefused fun refuses => absurd (live.symm.trans refuses.1) (by decide)
          · by_cases exceeded : media.exceededBy position = true
            · simp only [if_neg live, if_pos exceeded]
              exact ⟨rfl, agrees⟩
            · simp only [if_neg live, if_neg exceeded]
              have same := unlessRefused fun refuses =>
                exceeded (Media.exceededBy_of_zero refuses.2.2 position)
              have moved : Agrees { left with position := some position }
                  { right with position := some position } :=
                ⟨agrees.media, rfl, fun _ => agrees.labels (by simp [positionEq]), .inl same⟩
              have delivered :=
                moved.deliver platform current (fun _ => same) position sanitisedLabels
              rw [← agrees.media, current] at delivered
              exact delivered

/-- What a navigation event leaves of the media is blind if the media was. -/
theorem blind_navigation {view : View} {media : Media} (current : view.media = some media)
    (navigation : Navigation) (blind : view.Blind) :
    { view with media := navigation.media media }.Blind := by
  cases positionEq : view.position with
  | none =>
      simp only [View.Blind, current, positionEq] at blind ⊢
      cases navigation <;> trivial
  | some own =>
      simp only [View.Blind, current, positionEq] at blind ⊢
      cases navigation <;> trivial

theorem report_eq (agrees : Agrees left right) (media : Media) (position : UInt64) :
    left.report media position = right.report media position := by
  rw [View.report, View.report, agrees.position]

theorem navigate (agrees : Agrees left right) (navigation : Navigation) (position : UInt64)
    (sanitisedLabels : Option Labels) :
    SameReaction (left.navigate navigation position sanitisedLabels)
      (right.navigate navigation position sanitisedLabels) := by
  unfold View.navigate
  rw [← agrees.media]
  cases current : left.media with
  | none => exact ⟨rfl, agrees⟩
  | some media =>
      constructor
      · simp only [agrees.report_eq]
      · constructor
        · rfl
        · exact agrees.position
        · exact agrees.labels
        · rcases agrees.suppressing with same | blind
          · left
            simp only [same]
          · exact .inr (blind_navigation current navigation blind)

theorem userAction (agrees : Agrees left right) (actionType actionName : String)
    (position : UInt64) (sanitisedLabels : Option Labels) :
    SameReaction (left.userAction actionType actionName position sanitisedLabels)
      (right.userAction actionType actionName position sanitisedLabels) := by
  unfold View.userAction
  rw [← agrees.media]
  cases left.media with
  | none => exact ⟨rfl, agrees⟩
  | some media => exact ⟨by simp only [agrees.report_eq], agrees⟩

theorem setLength (agrees : Agrees left right) (length : UInt64) :
    SameReaction (left.setLength length) (right.setLength length) := by
  unfold View.setLength
  rw [← agrees.media]
  cases current : left.media with
  | none => exact ⟨rfl, agrees⟩
  | some media =>
      by_cases live : media.consumptionMode = .live
      · simp only [if_pos live]
        exact ⟨rfl, agrees⟩
      · simp only [if_neg live]
        refine ⟨rfl, agrees.withMedia ?_⟩
        intro blind
        cases positionEq : left.position with
        | none =>
            simp only [View.Blind, current, positionEq] at blind ⊢
            exact blind
        | some own =>
            simp only [View.Blind, current, positionEq] at blind
            exact absurd blind.2.1 live

theorem update (agrees : Agrees left right) (media : Media) (newPosition oldPosition : UInt64) :
    SameReaction (left.update media newPosition oldPosition)
      (right.update media newPosition oldPosition) :=
  ⟨rfl, rfl, agrees.position, agrees.labels, .inl rfl⟩

theorem movePlayhead (agrees : Agrees left right) (position : UInt64) :
    Agrees (left.movePlayhead position) (right.movePlayhead position) := by
  constructor
  · exact agrees.media
  · simp only [View.movePlayhead, agrees.position]
  · intro broker
    exact agrees.labels (by simpa [View.movePlayhead] using broker)
  · rcases agrees.suppressing with same | blind
    · exact .inl same
    · right
      cases current : left.media with
      | none => simp only [View.Blind, View.movePlayhead, current]
      | some media =>
          cases positionEq : left.position with
          | none =>
              simp only [View.Blind, View.movePlayhead, current, positionEq,
                Option.map_none] at blind ⊢
              exact blind
          | some own =>
              simp only [View.Blind, View.movePlayhead, current, positionEq,
                Option.map_some] at blind ⊢
              exact blind

/-- A blind view with a broker only forgets that plays are suppressed. -/
theorem release_of_blind (platform : Platform H) {view : View} {own : UInt64}
    (positionEq : view.position = some own) (blind : view.Blind) :
    view.release platform = ({ view with suppressing := false }, []) := by
  rcases view with ⟨media, position, suppressing, labels⟩
  subst positionEq
  cases suppressing with
  | false => rfl
  | true =>
      cases media with
      | none => rfl
      | some media =>
          rcases blind with ⟨notLive, _, exceeded⟩
          have refused := Media.exceededBy_of_zero exceeded own
          simp only [View.release, View.play, notLive, refused, Bool.false_eq_true, if_false,
            if_true]

theorem release (platform : Platform H) (agrees : Agrees left right) :
    SameReaction (left.release platform) (right.release platform) := by
  cases positionEq : left.position with
  | none =>
      have rightPosition : right.position = none := agrees.position.symm.trans positionEq
      simp only [View.release, positionEq, rightPosition]
      exact ⟨rfl, agrees⟩
  | some own =>
      have rightPosition : right.position = some own := agrees.position.symm.trans positionEq
      have labels : left.labels = right.labels := agrees.labels (by simp [positionEq])
      rcases agrees.suppressing with same | blind
      · have released : Agrees { left with suppressing := false }
            { right with suppressing := false } :=
          ⟨agrees.media, agrees.position, agrees.labels, .inl rfl⟩
        simp only [View.release, positionEq, rightPosition, ← same, ← labels]
        split
        · have played := released.play platform own left.labels
          rw [positionEq, rightPosition, ← labels] at played
          exact played
        · exact ⟨rfl, agrees⟩
      · have rightBlind : right.Blind := by
          unfold View.Blind at blind ⊢
          rw [← agrees.media, ← agrees.position]
          exact blind
        rw [release_of_blind platform positionEq blind,
          release_of_blind platform rightPosition rightBlind]
        exact ⟨rfl, agrees.media, agrees.position, agrees.labels, .inl rfl⟩

/-- Views that agree react in the same way to everything. -/
theorem react (platform : Platform H) (agrees : Agrees left right) (op : Op) :
    SameReaction (left.react platform op) (right.react platform op) := by
  have unchanged (calls : List DelegateCall) : SameReaction (left, calls) (right, calls) :=
    ⟨rfl, agrees⟩
  cases op with
  | media call =>
      cases call with
      | setMedia media => exact unchanged []
      | setMediaLength length => exact agrees.setLength length
      | avPlayEvent position labels => exact agrees.play platform position _
      | navigation navigation position labels => exact agrees.navigate navigation position _
      | avUserActionEvent actionType actionName position labels =>
          exact agrees.userAction actionType actionName position _
  | live broker callback =>
      cases callback with
      | liveMediaUpdate media newPosition oldPosition =>
          exact agrees.update media newPosition oldPosition
      | liveTimestampUpdate timestamp => exact unchanged _
      | setEssError error code => exact unchanged _
      | setEssSuccess isSuccess => exact unchanged _
      | releaseSuppressedPlay => exact agrees.release platform
      | sendHeartbeat name position => exact agrees.userAction "echo_hb" name position none
  | onDemand broker callback =>
      cases callback with
      | sendHeartbeat name position => exact agrees.userAction "echo_hb" name position none
      | avPauseEvent position labels => exact agrees.navigate .avPause position _
  | playhead position => exact ⟨rfl, agrees.movePlayhead position⟩
  | _ => exact unchanged []

theorem outputs_eq (platform : Platform H) (agrees : Agrees left right) (ops : List Op) :
    outputs (View.next platform) (View.output platform) left ops =
      outputs (View.next platform) (View.output platform) right ops := by
  have same (left right : View) (op : Op) (agrees : Agrees left right) (_ : True) :
      left.output platform op = right.output platform op := (agrees.react platform op).1
  have preserved (left right : View) (op : Op) (agrees : Agrees left right) (_ : True) :
      Agrees (left.next platform op) (right.next platform op) := (agrees.react platform op).2
  exact outputs_eq_of_related Agrees same preserved agrees fun _ _ => trivial

end Agrees

/-! ## Telling views apart -/

/-- Live media with schedule data. -/
def enrichedLive : Media :=
  { objectID := 0
    consumptionMode := .live
    isLive := true
    isEnrichedWithESSData := true
    length := 0
    isPlaying := false
    isBuffering := false }

/-- The media is enriched, paused, and a play is released. -/
def revealLabels : List Op :=
  [.live 0 (.liveMediaUpdate enrichedLive 0 0), .media (.navigation .avPause 0 none),
    .live 0 .releaseSuppressedPlay]

theorem outputs_revealLabels (platform : Platform H) {view : View} {own : UInt64}
    (positionEq : view.position = some own) :
    outputs (View.next platform) (View.output platform) view revealLabels =
      [.liveMediaUpdate enrichedLive.attributes 0 0, .avPauseEvent own none,
        .avPlayEvent own view.labels] := by
  rcases view with ⟨media, position, suppressing, labels⟩
  subst positionEq
  rfl

/-- A play, which media that holds plays back delivers unless they are suppressed. -/
def revealHolding : List Op :=
  [.media (.avPlayEvent 0 none)]

theorem outputs_revealHolding (platform : Platform H) {view : View} {media : Media}
    (current : view.media = some media) (holds : media.holdsPlays = true) :
    outputs (View.next platform) (View.output platform) view revealHolding = [] ↔
      view.suppressing = true := by
  rcases view with ⟨viewMedia, position, suppressing, labels⟩
  subst current
  have live : media.isLive = true := (Bool.and_eq_true_iff.mp holds).1
  cases position with
  | none =>
      cases suppressing <;>
        simp [revealHolding, outputs, View.output, View.react, View.play, View.deliver, holds]
  | some own =>
      cases suppressing <;>
        simp [revealHolding, outputs, View.output, View.react, View.play, View.deliver, holds,
          live]

/-- The length is dropped, the playhead goes to the start, and a play is released. -/
def revealRelease : List Op :=
  [.media (.setMediaLength 0), .playhead 0, .live 0 .releaseSuppressedPlay]

/-- A play of media that does not hold plays back is delivered from the start, unless
the media refuses it. -/
theorem play_zero_ne_nil (platform : Platform H) {view : View} {media : Media}
    {own : UInt64} (current : view.media = some media) (positionEq : view.position = some own)
    (delivers : media.holdsPlays = false)
    (accepts : media.isLive = true ∨ media.exceededBy 0 = false) (labels : Option Labels) :
    (view.play platform 0 labels).2 ≠ [] := by
  rcases view with ⟨viewMedia, position, suppressing, held⟩
  subst current positionEq
  cases live : media.isLive with
  | true => simp [View.play, View.deliver, live, delivers]
  | false =>
      have notExceeded : media.exceededBy 0 = false := by
        rcases accepts with isLive | notExceeded
        · exact absurd (isLive.symm.trans live) (by decide)
        · exact notExceeded
      simp [View.play, View.deliver, live, notExceeded, delivers]

theorem outputs_revealRelease (platform : Platform H) {view : View} {media : Media}
    {own : UInt64} (current : view.media = some media) (positionEq : view.position = some own)
    (delivers : media.holdsPlays = false) (accepts : ¬media.RefusesPlays) :
    outputs (View.next platform) (View.output platform) view revealRelease = [] ↔
      view.suppressing = false := by
  rcases view with ⟨viewMedia, position, suppressing, labels⟩
  subst current positionEq
  -- Whether or not the length could be dropped, a play from the start is accepted.
  obtain ⟨shortened, lengthEq, holds, accepted⟩ : ∃ shortened : Media,
      (View.setLength 0 ⟨some media, some own, suppressing, labels⟩ =
        (⟨some shortened, some own, suppressing, labels⟩, [])) ∧
      shortened.holdsPlays = false ∧
      (shortened.isLive = true ∨ shortened.exceededBy 0 = false) := by
    by_cases live : media.consumptionMode = .live
    · refine ⟨media, by simp [View.setLength, live], delivers, ?_⟩
      by_contra neither
      simp only [not_or, Bool.not_eq_true, Bool.not_eq_false] at neither
      exact accepts ⟨neither.1, live, neither.2⟩
    · exact ⟨{ media with length := 0 }, by simp [View.setLength, live], delivers, .inr rfl⟩
  have outputEq : outputs (View.next platform) (View.output platform)
      ⟨some media, some own, suppressing, labels⟩ revealRelease =
      (View.release platform ⟨some shortened, some 0, suppressing, labels⟩).2 := by
    simp [revealRelease, outputs, View.output, View.next, View.react, lengthEq,
      View.movePlayhead]
  rw [outputEq]
  cases suppressing with
  | false => simp [View.release]
  | true =>
      have delivered := play_zero_ne_nil platform
        (show (⟨some shortened, some 0, false, labels⟩ : View).media = some shortened from rfl)
        rfl holds accepted labels
      simpa [View.release] using delivered

/-- Exactly the views that agree have the same output under every sequence of
operations. -/
theorem agrees_iff (platform : Platform H) {left right : View}
    (media : left.media = right.media) (position : left.position = right.position) :
    Agrees left right ↔ ∀ ops, (∀ op ∈ ops, op.InSession) →
      outputs (View.next platform) (View.output platform) left ops =
        outputs (View.next platform) (View.output platform) right ops := by
  constructor
  · intro agrees ops _
    exact agrees.outputs_eq platform ops
  · intro same
    constructor
    · exact media
    · exact position
    · intro broker
      obtain ⟨own, positionEq⟩ := Option.isSome_iff_exists.mp broker
      have revealed := same revealLabels (by simp [revealLabels, Op.InSession])
      rw [outputs_revealLabels platform positionEq,
        outputs_revealLabels platform (position.symm.trans positionEq)] at revealed
      simpa using revealed
    · by_contra differ
      rw [not_or] at differ
      rcases differ with ⟨differs, sees⟩
      cases current : left.media with
      | none => exact sees (by simp only [View.Blind, current])
      | some shown =>
          have rightCurrent : right.media = some shown := media.symm.trans current
          by_cases holds : shown.holdsPlays = true
          · have revealed := same revealHolding (by simp [revealHolding, Op.InSession])
            have iff := outputs_revealHolding platform current holds
            rw [revealed, outputs_revealHolding platform rightCurrent holds] at iff
            exact differs (Bool.eq_iff_iff.mpr iff.symm)
          · rw [Bool.not_eq_true] at holds
            cases positionEq : left.position with
            | none => exact sees (by simpa only [View.Blind, current, positionEq] using holds)
            | some own =>
                have accepts : ¬shown.RefusesPlays := by
                  intro refuses
                  exact sees (by simpa only [View.Blind, current, positionEq] using refuses)
                have revealed := same revealRelease (by simp [revealRelease, Op.InSession])
                have iff := outputs_revealRelease platform current positionEq holds accepts
                rw [revealed, outputs_revealRelease platform rightCurrent
                  (position.symm.trans positionEq) holds accepts] at iff
                exact differs (Bool.eq_iff_iff.mpr (by
                  rw [← Bool.not_eq_false, ← Bool.not_eq_false, iff]))

end Echo.Isolation
