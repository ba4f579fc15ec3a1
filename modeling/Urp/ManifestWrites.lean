import Urp.ChatEnds
import Urp.WrittenManifests

/-!
# What calls add to the manifests

An execution and a chat request leave every manifest as it is, and put new
ones under identifiers that they draw.
-/

namespace Urp

open Python Program

/-! ## New manifests -/

/-- The store took this manifest under an identifier drawn between the two
numbers. -/
structure Manifest.Filed (host : Host) (low high : Nat) (manifest : Manifest) :
    Prop where
  drawn : ∃ k, low ≤ k ∧ k < high ∧ manifest.manifestId = host.idText "mf" k
  accepted : validateIdentifier manifest.manifestId "manifest id" "mf_" =
    .ok manifest.manifestId
  valid : validateManifest host manifest = .ok ()

theorem Manifest.Filed.widen {host : Host} {low high lower higher : Nat}
    {manifest : Manifest} (below : lower ≤ low) (above : high ≤ higher)
    (filed : manifest.Filed host low high) :
    manifest.Filed host lower higher := by
  obtain ⟨k, start, stop, same⟩ := filed.drawn
  exact ⟨⟨k, by omega, by omega, same⟩, filed.accepted, filed.valid⟩

/-- The manifests are as they were, but for new ones of this kind. -/
structure World.Adds (host : Host) (made : Manifest → Prop)
    (world later : World) : Prop where
  drawn : world.supply.nextId ≤ later.supply.nextId
  lookup : ∀ manifestId,
    later.manifests.lookup manifestId = world.manifests.lookup manifestId ∨
      ∃ manifest, later.manifests.lookup manifestId =
          some manifest.reloaded ∧ made manifest ∧
        manifest.manifestId = manifestId ∧
          manifest.Filed host world.supply.nextId later.supply.nextId

section Adds

variable {host : Host} {made : Manifest → Prop}

instance : IsPreorder World (World.Adds host made) where
  refl world := ⟨Nat.le_refl _, fun _ => .inl rfl⟩
  trans _ _ _ early late := by
    refine ⟨Nat.le_trans early.drawn late.drawn, fun manifestId => ?_⟩
    rcases late.lookup manifestId with same | ⟨manifest, found, makes, named, filed⟩
    · rcases early.lookup manifestId with
        before | ⟨manifest, found, makes, named, filed⟩
      · exact .inl (same.trans before)
      · exact .inr ⟨manifest, same.trans found, makes, named,
          filed.widen (Nat.le_refl _) late.drawn⟩
    · exact .inr ⟨manifest, found, makes, named,
        filed.widen early.drawn (Nat.le_refl _)⟩

theorem World.Adds.of_same {world later : World}
    (manifests : later.manifests = world.manifests)
    (supply : world.supply.Before later.supply) :
    world.Adds host made later := by
  refine ⟨supply.1, fun manifestId => .inl ?_⟩
  rw [manifests]

theorem World.Adds.mono {other : Manifest → Prop} {world later : World}
    (adds : world.Adds host made later)
    (weaker : ∀ manifest, made manifest → other manifest) :
    world.Adds host other later := by
  refine ⟨adds.drawn, fun manifestId => ?_⟩
  rcases adds.lookup manifestId with same | ⟨manifest, found, makes, rest⟩
  · exact .inl same
  · exact .inr ⟨manifest, found, weaker manifest makes, rest⟩

theorem adds_of_quiet {α : Type} {body : Program World PyException α}
    (quiet : Within World.Quiet body) : Within (World.Adds host made) body :=
  fun world => .of_same (quiet world).manifests (quiet world).supply

theorem adds_supply {α : Type} {body : Program Supply PyException α}
    (drawn : Within Supply.Before body) :
    Within (World.Adds host made) (focus World.supplyLens body) :=
  adds_of_quiet (quiet_supply drawn)

/-- The store takes a manifest that was made under a drawn identifier. -/
theorem adds_put {world middle : World} (adds : world.Adds host made middle)
    (session : Session) {manifest : Manifest} (makes : made manifest)
    (drawn : ∃ k, world.supply.nextId ≤ k ∧ k < middle.supply.nextId ∧
      manifest.manifestId = host.idText "mf" k) :
    world.Adds host made (focus World.manifestsLens
      (FileManifestStore.put host session manifest) middle).2 := by
  apply ensures_state_iff.mp
  rw [ensures_focus]
  unfold FileManifestStore.put
  rw [ensures_bind, ensures_lift]
  refine ⟨fun _ _ => ?_, fun _ _ => adds⟩
  rw [ensures_bind, ensures_lift]
  refine ⟨fun _ valid => ?_, fun _ _ => adds⟩
  rw [ensures_bind, ensures_lift]
  refine ⟨fun manifestId accepted => ?_, fun _ _ => adds⟩
  obtain rfl := (validateIdentifier_eq_ok accepted).1
  rw [ensures_modify]
  refine ⟨adds.drawn, fun manifestId => ?_⟩
  by_cases same : manifest.manifestId = manifestId
  · refine .inr ⟨manifest, ?_, makes, same, drawn, accepted, valid⟩
    rw [← same]
    exact Dict.lookup_insert_self _ _ _
  · rcases adds.lookup manifestId with before | taken
    · left
      rw [← before]
      exact Dict.lookup_insert_ne _ _ same
    · right
      obtain ⟨other, found, rest⟩ := taken
      exact ⟨other, (Dict.lookup_insert_ne _ _ same).trans found, rest⟩

/-- So it does when an event is recorded after it. -/
theorem adds_putAnd {α : Type} {world middle : World}
    (adds : world.Adds host made middle) (session : Session)
    {manifest : Manifest} (makes : made manifest)
    (drawn : ∃ k, world.supply.nextId ≤ k ∧ k < middle.supply.nextId ∧
      manifest.manifestId = host.idText "mf" k)
    {rest : Program World PyException α} (quiet : Within World.Quiet rest) :
    world.Adds host made ((focus World.manifestsLens
      (FileManifestStore.put host session manifest) >>= fun _ => rest)
        middle).2 := by
  have put := adds_put adds session makes drawn
  apply ensures_state_iff.mp
  rw [ensures_bind]
  apply (ensures_state_iff.mpr put).mono
  · intro _ later added
    apply ((adds_of_quiet quiet).ensures later).mono <;>
    · exact fun _ _ recorded => trans_of (World.Adds host made) added recorded
  · exact fun _ _ added => added

variable (execution : Execution) (prepared : Prepared)

theorem adds_writeManifest {state : ManifestState} {physical : Physical}
    {verification : VerificationResult} {lineage telemetry : Object}
    (details : Object)
    (makes : ∀ manifestId createdAt, made (manifestOf execution prepared state
      physical verification lineage telemetry manifestId createdAt)) :
    Within (World.Adds host made) (writeManifest host execution prepared state
      physical verification lineage telemetry details) := by
  intro world
  apply ensures_state_iff.mp
  unfold writeManifest
  rw [ensures_bind]
  apply (ensures_newManifest host execution prepared state physical verification
    lineage telemetry world).mono
  · rintro manifest middle ⟨quiet, nextId, createdAt, rfl⟩
    apply ensures_state_iff.mpr
    have adds : world.Adds host made middle :=
      .of_same quiet.manifests quiet.supply
    apply adds_putAnd adds execution.session (makes _ createdAt)
    · refine ⟨world.supply.nextId, Nat.le_refl _, ?_, rfl⟩
      omega
    · exact within_bind (quiet_recordExecution host execution _)
        fun _ => within_ret _
  · exact fun _ _ impossible => impossible.elim

/-- An execution adds its own manifests only. -/
theorem adds_executeExactObject
    (ready : execution.prepare host = .ok prepared) :
    Within (World.Adds host (execution.Makes prepared))
      (executeExactObject host execution) := by
  unfold executeExactObject
  rw [ready, lift_ok_bind]
  refine within_bind (adds_of_quiet (quiet_admitPrepared host execution prepared))
    fun _ => ?_
  split
  · rename_i mode
    refine within_bind ?_ fun _ => within_ret _
    exact adds_writeManifest execution prepared _
      fun manifestId createdAt => .observed mode manifestId createdAt
  · rename_i mode
    refine within_bind (within_lift _) fun chunks => ?_
    refine within_bind ?_ fun segments => ?_
    · intro world
      apply ensures_state_iff.mp
      apply (ensures_storeChunks host execution prepared chunks world).mono
      · rintro _ later ⟨drawn, same, -⟩
        exact .of_same same drawn
      · rintro _ later ⟨drawn, same, -⟩
        exact .of_same same drawn
    · refine within_bind (adds_of_quiet (quiet_verifyRestore host execution
        prepared segments)) fun verification => ?_
      refine within_bind ?_ fun manifest => ?_
      · exact adds_writeManifest execution prepared _
          fun manifestId createdAt =>
            .stored mode segments verification manifestId createdAt
      · exact within_bind (adds_of_quiet (quiet_recordAdapter host execution
          prepared manifest)) fun _ => within_ret _

omit execution prepared in
/-- So does a chat request. -/
theorem adds_writeChatManifest (chat : Chat) (served : Served)
    (makes : ∀ record manifestId createdAt,
      made (chatManifest host chat served record manifestId createdAt)) :
    Within (World.Adds host made) (writeChatManifest host chat served) := by
  refine within_bind (adds_supply (within_cacheableUntil host _ _))
    fun cacheable => ?_
  refine within_bind (within_lift _) fun _ => ?_
  intro world
  apply ensures_state_iff.mp
  rw [ensures_bind, ensures_focus]
  apply (host.ensures_newId world.supply "mf").mono
  · rintro manifestId supply ⟨rfl, rfl⟩
    rw [ensures_bind, ensures_focus]
    apply (host.ensures_utcNow _).mono
    · rintro createdAt supply rfl
      let record := computeManifestOf host chat served cacheable
      have puts : ∀ middle : World, world.Adds host made middle →
          world.supply.nextId < middle.supply.nextId → world.Adds host made
            (putManifest host chat.call.session chat.admission
              (chatManifest host chat served record
                (host.idText "mf" world.supply.nextId) createdAt) middle).2 := by
        intro middle adds low
        exact adds_putAnd adds _ (makes record _ createdAt)
          ⟨_, Nat.le_refl _, low, rfl⟩ (quiet_record host _ _)
      rw [ensures_bind]
      apply (ensures_state_iff.mpr (puts _ ?_ (Nat.lt_succ_self _))).mono
      · exact fun _ _ adds => adds
      · exact fun _ _ adds => adds
      · exact .of_same rfl ⟨Nat.le_succ _, Nat.le_succ _⟩
    · exact fun _ _ impossible => impossible.elim
  · exact fun _ _ impossible => impossible.elim

end Adds

/-! ## Gateway calls -/

def Gateway.Adds (host : Host) (made : Manifest → Prop)
    (gateway later : Gateway) : Prop :=
  gateway.world.Adds host made later.world

instance (host : Host) (made : Manifest → Prop) :
    IsPreorder Gateway (Gateway.Adds host made) where
  refl gateway := refl_of (World.Adds host made) gateway.world
  trans _ _ _ early late := trans_of (World.Adds host made) early late

section Gateways

variable {host : Host} {made : Manifest → Prop}

theorem adds_focus {α : Type} {body : Program World PyException α}
    (adds : Within (World.Adds host made) body) :
    Within (Gateway.Adds host made) (focus Gateway.worldLens body) :=
  within_focus adds fun _ _ adds => adds

/-- Looking for an answer adds no manifest. -/
theorem adds_serve (provider : ChatProvider) (chat : Chat) :
    Within (Gateway.Adds host made) (serve host provider chat) := by
  intro gateway
  have same : (serve host provider chat gateway).2.manifests =
      gateway.manifests :=
    uncached_manifests.unlogged.serve host provider chat (fun _ _ => rfl)
      gateway
  let draws := fun later : Gateway => gateway.supply.Before later.supply
  have drawn : draws (serve host provider chat gateway).2 := by
    apply ensures_state_iff.mp
    apply (@ensures_serve host provider chat gateway).mono
    · rintro _ later ⟨-, -, -, stores⟩
      exact stores.supply
    · rintro _ later (shrinks | ⟨_, -, -, stores, -⟩)
      · exact shrinks.supply
      · exact stores.supply
  exact .of_same same drawn

theorem adds_chat (provider : ChatProvider) (call : ChatCall)
    (makes : ∀ (chat : Chat) served record manifestId createdAt,
      made (chatManifest host chat served record manifestId createdAt)) :
    Within (Gateway.Adds host made)
      (handleChatCompletion host provider call) := by
  unfold handleChatCompletion prepareChat
  refine within_bind ?_ fun chat => ?_
  · refine within_bind (within_lift _) fun setup => ?_
    refine within_bind ?_ fun admission => within_lift _
    exact adds_focus (adds_of_quiet (quiet_intake host _))
  · refine within_bind (adds_serve provider chat) fun served => ?_
    refine within_bind (within_lift _) fun _ => ?_
    refine within_bind ?_ fun manifest => within_ret _
    exact adds_focus (adds_writeChatManifest chat served (makes chat served))

end Gateways

end Urp
