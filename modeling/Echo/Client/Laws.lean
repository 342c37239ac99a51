import Echo.Client.Reference

/-!
# What is assumed of the collaborators

The documented behaviour of the label cleanser, of cloning, and of the user
promise helper's slot.  Each law is stated on its own, so that a result names the
ones it rests on, and the reference environment satisfies all of them.
-/

namespace Echo.Client

variable {H : Type}

/-! ## The label cleanser -/

/-- Cleaning a clean key, or a clean value under a clean key, changes nothing. -/
structure IdempotentCleanser (platform : Platform H) : Prop where
  key : ∀ key, platform.cleanLabelKey (platform.cleanLabelKey key) = platform.cleanLabelKey key
  value : ∀ key value, platform.cleanLabelValue key (platform.cleanLabelValue key value) =
    platform.cleanLabelValue key value

/-- An entry that the cleanser leaves alone. -/
def IsCleanEntry (platform : Platform H) (entry : Σ _ : String, String) : Prop :=
  platform.cleanLabelKey entry.1 = entry.1 ∧ platform.cleanLabelValue entry.1 entry.2 = entry.2

theorem sanitiseLabels_eq_writeAll (platform : Platform H) (labels : Labels) :
    sanitiseLabels platform labels =
      Dictionary.writeAll ((platform.labelOrder.entries labels).map fun entry =>
        ⟨platform.cleanLabelKey entry.1,
          platform.cleanLabelValue (platform.cleanLabelKey entry.1) entry.2⟩) ∅ := by
  unfold sanitiseLabels Dictionary.writeAll
  rw [List.foldl_map]

/-- Every sanitised value was cleaned, under the clean key, from a value supplied with a
key that cleans to it. -/
theorem lookup_sanitiseLabels {platform : Platform H} {labels : Labels} {key value : String}
    (found : (sanitiseLabels platform labels).lookup key = some value) :
    ∃ original supplied, labels.lookup original = some supplied ∧
      platform.cleanLabelKey original = key ∧ platform.cleanLabelValue key supplied = value := by
  rw [sanitiseLabels_eq_writeAll] at found
  rcases Dictionary.lookup_writeAll found with written | there
  · obtain ⟨⟨original, supplied⟩, member, cleaned⟩ := List.mem_map.mp written
    cases cleaned
    exact ⟨original, supplied, (platform.labelOrder.mem_entries_iff _ _ _).mp member, rfl, rfl⟩
  · rw [Finmap.lookup_empty] at there
    cases there

/-- Every entry of a sanitised dictionary is clean. -/
theorem isCleanEntry_of_mem_sanitiseLabels {platform : Platform H}
    (cleanser : IdempotentCleanser platform) {labels : Labels}
    {entry : Σ _ : String, String}
    (member : entry ∈ platform.labelOrder.entries (sanitiseLabels platform labels)) :
    IsCleanEntry platform entry := by
  obtain ⟨key, value⟩ := entry
  have found := (platform.labelOrder.mem_entries_iff _ key value).mp member
  obtain ⟨original, supplied, _, rfl, rfl⟩ := lookup_sanitiseLabels found
  exact ⟨cleanser.key original, cleanser.value _ supplied⟩

/-- Sanitising twice is sanitising once. -/
theorem sanitiseLabels_idem {platform : Platform H} (cleanser : IdempotentCleanser platform)
    (labels : Labels) :
    sanitiseLabels platform (sanitiseLabels platform labels) = sanitiseLabels platform labels := by
  have unchanged : (platform.labelOrder.entries (sanitiseLabels platform labels)).map
      (fun entry => (⟨platform.cleanLabelKey entry.1,
        platform.cleanLabelValue (platform.cleanLabelKey entry.1) entry.2⟩ :
          Σ _ : String, String)) =
      platform.labelOrder.entries (sanitiseLabels platform labels) := by
    conv_rhs => rw [← List.map_id (platform.labelOrder.entries (sanitiseLabels platform labels))]
    apply List.map_congr_left
    rintro ⟨key, value⟩ member
    obtain ⟨cleanKey, cleanValue⟩ := isCleanEntry_of_mem_sanitiseLabels cleanser member
    simp only [cleanKey, cleanValue, id_eq]
  rw [sanitiseLabels_eq_writeAll platform (sanitiseLabels platform labels), unchanged,
    Dictionary.writeAll_entries]

theorem reference_cleanser : IdempotentCleanser reference :=
  ⟨fun _ => rfl, fun _ _ => rfl⟩

/-- The reference environment with a cleanser that turns one dirty key into a clean one. -/
noncomputable def cleansingPlatform : Platform Store :=
  { reference with
    cleanLabelKey := fun key =>
      if key = "some.label_or-other" then "some_label_or_other" else key }

theorem cleansingPlatform_cleanser : IdempotentCleanser cleansingPlatform where
  key key := by
    by_cases dirty : key = "some.label_or-other"
    · simp [cleansingPlatform, dirty]
    · simp [cleansingPlatform, dirty]
  value _ _ := rfl

/-- A client with this cleanser as it comes out of its initialiser. -/
noncomputable def cleansingWorld : World Store :=
  (initialise cleansingPlatform defaultArguments { user := signedOut } 0).1

theorem cleansingWorld_launched :
    Launched cleansingPlatform defaultArguments cleansingWorld :=
  ⟨{ user := signedOut }, 0, by
    unfold cleansingWorld initialise
    have valid : isValidConfig cleansingPlatform defaultArguments.appName
        (collateConfig cleansingPlatform defaultArguments.config) = .ok () := by
      rfl
    simp only [valid]⟩

/-! ## Media and brokers -/

/-- A clone carries every attribute of its original. -/
def CopiesAttributes (platform : Platform H) : Prop :=
  ∀ media, (platform.getClone media).attributes = media.attributes

/-- Where a fresh broker starts depends on the attributes of its media, not on which
object carries them. -/
def SameBrokerPositions (platform : Platform H) : Prop :=
  ∀ kind playerDelegate (first second : Media), first.attributes = second.attributes →
    platform.brokerPosition kind playerDelegate first =
      platform.brokerPosition kind playerDelegate second

theorem reference_clone : CopiesAttributes reference :=
  fun _ => rfl

theorem reference_positions : SameBrokerPositions reference :=
  fun _ _ _ _ _ => rfl

/-! ## The slot for a postponed transition -/

/-- The helper keeps one persistent slot: `setPostponedUserStateTransition` fills it,
`clearPostponedUserStateTransition` empties it and nothing else changes it.  Setting a
user answers with the slot's transition exactly when the slot is full. -/
structure PostponedSlot (helper : UserPromise H) (slot : H → Option UserStateTransition) :
    Prop where
  create : ∀ cookies store, slot (helper.create cookies store) = slot store
  setBBCUser : ∀ user store, slot (helper.setBBCUser user store).2 = slot store
  getBBCUser : ∀ store, slot (helper.getBBCUser store).2 = slot store
  getDeviceID : ∀ store, slot (helper.getDeviceID store).2 = slot store
  clearWebviewCookies : ∀ store, slot (helper.clearWebviewCookies store) = slot store
  fills : ∀ transition store,
    slot (helper.setPostponedUserStateTransition transition store) = some transition
  empties : ∀ store, slot (helper.clearPostponedUserStateTransition store) = none
  isPostponed : ∀ user store,
    (helper.setBBCUser user store).1.isPostponedUserStateChange = (slot store).isSome
  transition : ∀ user store, ∀ transition ∈ slot store,
    (helper.setBBCUser user store).1.userStateTransition = transition

theorem reference_slot : PostponedSlot reference.userPromise Store.slot where
  create _ _ := rfl
  setBBCUser _ _ := rfl
  getBBCUser _ := rfl
  getDeviceID _ := rfl
  clearWebviewCookies _ := rfl
  fills _ _ := rfl
  empties _ := rfl
  isPostponed _ _ := rfl
  transition user store transition member := by
    have slotEq : store.slot = some transition := member
    simp [reference, referenceHelper, slotEq]

end Echo.Client
