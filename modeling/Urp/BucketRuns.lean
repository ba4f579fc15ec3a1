import Urp.BucketListing
import Urp.ObjectProgress

/-!
# Runs of puts and deletions

What the listing shows after any run.  It is a map from keys to the last put
of each, as long as no put writes to a key that is listed.
-/

namespace Urp.LocalS3Adapter

open Python Program

inductive ObjectCall where
  | put (session : Session) (put : ObjectPut)
  | delete (session : Session) (manifestId actor : String) (allowDelete : Bool)

/-- What a call returned or raised. -/
inductive ObjectReply where
  | stored (result : Except PyException StoredObject)
  | deleted (result : Except PyException DeletedObject)

/-- One call of an adapter of the tenant. -/
def objectStep (host : Host) (tenant : String) (gateway : Gateway) :
    ObjectCall → ObjectReply × Gateway
  | .put session put =>
      let run := putObject host session tenant put gateway
      (.stored run.1, run.2)
  | .delete session manifestId actor allowDelete =>
      let run := focus Gateway.worldLens
        (deleteObject host session tenant manifestId actor allowDelete) gateway
      (.deleted run.1, run.2)

abbrev ObjectVisit : Type := Run.Visit Gateway ObjectCall ObjectReply

/-- The call is this put, and it wrote this manifest. -/
def Wrote (v : ObjectVisit) (put : ObjectPut) (manifest : Manifest) : Prop :=
  (∃ session, v.input = .put session put) ∧
    v.before.world.manifests.lookup manifest.manifestId = none ∧
    v.after.world.manifests.lookup manifest.manifestId = some manifest

/-- The last put that wrote to its bucket and key is this one, and it wrote
this manifest. -/
def LastPut (history : List ObjectVisit) (put : ObjectPut)
    (manifest : Manifest) : Prop :=
  ∃ early v late, history = early ++ v :: late ∧ Wrote v put manifest ∧
    ∀ w ∈ late, ∀ other written, Wrote w other written →
      other.location ≠ put.location

/-- After the call, every listing has one row at most for each bucket and key,
and it is the row of the last put. -/
def ListsLastPuts (host : Host) (session : Session) (tenant : String)
    (past : List ObjectVisit) (v : ObjectVisit) : Prop :=
  ∀ bucket start, ∃ rows,
    (listObjects host bucket start session tenant false v.after.world).1 =
        .ok rows ∧
      (rows.map ObjectRow.location).Nodup ∧
      ∀ row ∈ rows, ∃ put manifest, LastPut (past ++ [v]) put manifest ∧
        row = rowOf put manifest

/-- A put that writes its object names no bucket and key that is listed. -/
def WritesUnlisted (host : Host) (session : Session) (tenant : String)
    (v : ObjectVisit) : Prop :=
  ∀ put manifest, Wrote v put manifest → ∀ rows,
    (listObjects host none "" session tenant false v.before.world).1 =
        .ok rows →
      put.location ∉ rows.map ObjectRow.location

/-! ## What a run keeps -/

/-- The store after a run whose puts named no listed key. -/
structure Mapped (host : Host) (session : Session) (tenant : String)
    (history : List ObjectVisit) (gateway : Gateway) : Prop where
  puts : OfPuts tenant gateway.world.manifests
  drawn : ∀ {manifestId manifest},
    gateway.world.manifests.lookup manifestId = some manifest →
      ∃ k < gateway.world.supply.nextId, manifestId = host.idText "mf" k
  last : Shows session tenant → ∀ {put manifest},
    Live gateway.world.manifests put manifest → ∃ written,
      LastPut history written manifest ∧
        manifest.lineage = (putLineage written).reloaded
  single : Shows session tenant → ∀ {put other manifest found},
    Live gateway.world.manifests put manifest →
      Live gateway.world.manifests other found →
        put.location = other.location →
          manifest.manifestId = found.manifestId

section Steps

variable {host : Host} {session : Session} {tenant : String}
variable {history : List ObjectVisit} {gateway : Gateway}

theorem LastPut.snoc {put : ObjectPut} {manifest : Manifest} {v : ObjectVisit}
    (last : LastPut history put manifest)
    (others : ∀ other written, Wrote v other written →
      other.location ≠ put.location) :
    LastPut (history ++ [v]) put manifest := by
  obtain ⟨early, first, late, rfl, wrote, apart⟩ := last
  refine ⟨early, first, late ++ [v], by simp, wrote, fun w member => ?_⟩
  rcases List.mem_append.mp member with earlier | now
  · exact apart w earlier
  · rw [List.mem_singleton] at now
    rw [now]
    exact others

theorem Live.location {put other : ObjectPut} {manifest : Manifest}
    {files : ManifestFiles} (live : Live files put manifest)
    (lineage : manifest.lineage = (putLineage other).reloaded) :
    put.location = other.location :=
  congrArg ObjectRow.location
    (rowOf_congr (live.lineage.symm.trans lineage) manifest)

/-- The listing of such a store is a map to the last puts. -/
theorem Mapped.lists {past : List ObjectVisit} {v : ObjectVisit}
    (mapped : Mapped host session tenant (past ++ [v]) v.after) :
    ListsLastPuts host session tenant past v := by
  intro bucket start
  obtain ⟨rows, run, distinct, member⟩ :=
    @OfPuts.listObjects_spec session tenant v.after.world mapped.puts host
      bucket start
  refine ⟨rows, run, ?_, fun row present => ?_⟩
  · refine List.Nodup.map_on ?_ (List.Nodup.of_map _ distinct)
    intro row present other otherPresent same
    obtain ⟨shows, put, manifest, live, rfl, -⟩ := (member row).mp present
    obtain ⟨-, second, found, otherLive, rfl, -⟩ :=
      (member other).mp otherPresent
    exact List.inj_on_of_nodup_map distinct present otherPresent
      (mapped.single shows live otherLive same)
  · obtain ⟨shows, put, manifest, live, rfl, -⟩ := (member row).mp present
    obtain ⟨written, last, lineage⟩ := mapped.last shows live
    exact ⟨written, manifest, last,
      rowOf_congr (live.lineage.symm.trans lineage) manifest⟩

variable {v : ObjectVisit}

/-- A call that leaves the manifests as they are. -/
theorem Mapped.spare (mapped : Mapped host session tenant history v.before)
    (spares : Spares v.before.world v.after.world) :
    Mapped host session tenant (history ++ [v]) v.after := by
  obtain ⟨same, drawn⟩ := spares
  constructor
  · rw [same]
    exact mapped.puts
  · intro manifestId manifest found
    rw [same] at found
    obtain ⟨k, low, named⟩ := mapped.drawn found
    exact ⟨k, Nat.lt_of_lt_of_le low drawn.1, named⟩
  · intro shows put manifest live
    rw [same] at live
    obtain ⟨written, last, lineage⟩ := mapped.last shows live
    refine ⟨written, last.snoc ?_, lineage⟩
    rintro other found ⟨-, missing, present⟩
    rw [same, missing] at present
    cases present
  · intro shows put other manifest found live otherLive
    rw [same] at live otherLive
    exact mapped.single shows live otherLive

/-- A deletion only takes a row away. -/
theorem Mapped.tombstone {manifestId : String} {deleted : Manifest}
    (mapped : Mapped host session tenant history v.before)
    (deletes : ∀ session put, v.input ≠ .put session put)
    (marks : Tombstones v.before.world v.after.world manifestId deleted) :
    Mapped host session tenant (history ++ [v]) v.after := by
  have lookup : ∀ id, v.after.world.manifests.lookup id =
      if deleted.manifestId = id then
        some { deleted with state := .tombstoned }.reloaded
      else v.before.world.manifests.lookup id := by
    intro id
    rw [marks.manifests, Dict.lookup_insert]
  have earlier : ∀ {put manifest}, Live v.after.world.manifests put manifest →
      Live v.before.world.manifests put manifest := by
    intro put manifest live
    have found := live.found
    rw [lookup] at found
    split at found
    · cases found
      exact absurd rfl live.state
    · exact ⟨found, live.state, live.lineage⟩
  constructor
  · constructor
    · intro id manifest found
      rw [lookup] at found
      split at found
      · rename_i same
        cases found
        exact same
      · exact mapped.puts.keyed found
    · intro id manifest found
      rw [lookup] at found
      split at found
      · have owner := mapped.puts.owner marks.found
        cases found
        exact owner
      · exact mapped.puts.owner found
    · intro id manifest found live
      rw [lookup] at found
      split at found
      · cases found
        exact absurd rfl live
      · exact mapped.puts.lineage found live
  · intro id manifest found
    rw [lookup] at found
    have held : ∃ before, v.before.world.manifests.lookup id = some before := by
      split at found
      · rename_i same
        rw [← same, mapped.puts.keyed marks.found]
        exact ⟨deleted, marks.found⟩
      · exact ⟨manifest, found⟩
    obtain ⟨before, held⟩ := held
    obtain ⟨k, low, named⟩ := mapped.drawn held
    exact ⟨k, Nat.lt_of_lt_of_le low marks.supply.1, named⟩
  · intro shows put manifest live
    obtain ⟨written, last, lineage⟩ := mapped.last shows (earlier live)
    refine ⟨written, last.snoc ?_, lineage⟩
    rintro other found ⟨⟨session, input⟩, -, -⟩
    exact absurd input (deletes session other)
  · intro shows put other manifest found live otherLive
    exact mapped.single shows (earlier live) (earlier otherLive)

/-- A new identifier is not in the store. -/
theorem Mapped.missing (fresh : Function.Injective host.uuid4) {put : ObjectPut}
    {manifest : Manifest} {later : World}
    (mapped : Mapped host session tenant history gateway)
    (writes : Writes host tenant put gateway.world later manifest) :
    gateway.world.manifests.lookup manifest.manifestId = none := by
  obtain ⟨k, low, -, named⟩ := writes.identifier
  cases found : gateway.world.manifests.lookup manifest.manifestId with
  | none => rfl
  | some held =>
      obtain ⟨j, before, same⟩ := mapped.drawn found
      have equal := idText_injective fresh (named.symm.trans same)
      omega

section Write

variable {put : ObjectPut} {made : Manifest} {before after : World}

theorem Writes.lookup
    (writes : Writes host tenant put before after made) (manifestId : String) :
    after.manifests.lookup manifestId =
      if made.manifestId = manifestId then some made.reloaded
      else before.manifests.lookup manifestId := by
  rw [writes.manifests, Dict.lookup_insert]

/-- A live manifest after a put is the put's or was there before. -/
theorem Writes.live_cases {other : ObjectPut} {manifest : Manifest}
    (writes : Writes host tenant put before after made)
    (live : Live after.manifests other manifest) :
    manifest = made.reloaded ∨
      Live before.manifests other manifest ∧
        made.manifestId ≠ manifest.manifestId := by
  have found := live.found
  rw [writes.lookup] at found
  split at found
  · cases found
    exact .inl rfl
  · rename_i apart
    exact .inr ⟨⟨found, live.state, live.lineage⟩, apart⟩

theorem Writes.live (writes : Writes host tenant put before after made)
    (missing : before.manifests.lookup made.manifestId = none) :
    Live after.manifests put made.reloaded where
  found := by
    rw [writes.lookup]
    exact if_pos rfl
  state := by
    have active : made.reloaded.state = .active := writes.state missing
    rw [active]
    decide
  lineage := congrArg Object.reloaded writes.lineage

/-- What a put call wrote. -/
theorem Writes.wrote {session : Session} {v : ObjectVisit}
    (input : v.input = .put session put)
    (writes : Writes host tenant put v.before.world v.after.world made)
    (missing : v.before.world.manifests.lookup made.manifestId = none) :
    Wrote v put made.reloaded :=
  ⟨⟨session, input⟩, missing, (writes.live missing).found⟩

theorem OfPuts.write (puts : OfPuts tenant before.manifests)
    (writes : Writes host tenant put before after made) :
    OfPuts tenant after.manifests := by
  constructor
  · intro id manifest found
    rw [writes.lookup] at found
    split at found
    · rename_i same
      cases found
      exact same
    · exact puts.keyed found
  · intro id manifest found
    rw [writes.lookup] at found
    split at found
    · cases found
      exact writes.tenant
    · exact puts.owner found
  · intro id manifest found live
    rw [writes.lookup] at found
    split at found
    · cases found
      exact ⟨put, congrArg Object.reloaded writes.lineage⟩
    · exact puts.lineage found live

/-- A put to a key that is not listed adds its row. -/
theorem Mapped.write (fresh : Function.Injective host.uuid4)
    {caller : Session} (input : v.input = .put caller put)
    (mapped : Mapped host session tenant history v.before)
    (writes : Writes host tenant put v.before.world v.after.world made)
    (guarded : WritesUnlisted host session tenant v) :
    Mapped host session tenant (history ++ [v]) v.after := by
  have missing := mapped.missing fresh writes
  have wrote := writes.wrote input missing
  have ours : ∀ {other written}, Wrote v other written → other = put := by
    rintro other written ⟨⟨session, same⟩, -⟩
    rw [input] at same
    cases same
    rfl
  have apart : Shows session tenant → ∀ {other manifest},
      Live v.before.world.manifests other manifest →
        put.location ≠ other.location := by
    intro shows other manifest live same
    obtain ⟨rows, run, -, member⟩ :=
      @OfPuts.listObjects_spec session tenant _ mapped.puts host none ""
    apply guarded put _ wrote rows run
    rw [List.mem_map]
    refine ⟨rowOf other manifest, ?_, same.symm⟩
    exact (member _).mpr ⟨shows, other, manifest, live, rfl, by simp [asked]⟩
  constructor
  · exact mapped.puts.write writes
  · intro id manifest found
    obtain ⟨j, low, high, named⟩ := writes.identifier
    rw [writes.lookup] at found
    split at found
    · rename_i same
      exact ⟨j, high, same.symm.trans named⟩
    · obtain ⟨k, before, named⟩ := mapped.drawn found
      exact ⟨k, by omega, named⟩
  · intro shows other manifest live
    rcases writes.live_cases live with rfl | ⟨earlier, -⟩
    · refine ⟨put, ⟨history, v, [], rfl, wrote, ?_⟩,
        congrArg Object.reloaded writes.lineage⟩
      intro w impossible
      cases impossible
    · obtain ⟨written, last, lineage⟩ := mapped.last shows earlier
      refine ⟨written, last.snoc fun other found wroteOther => ?_, lineage⟩
      rw [ours wroteOther, ← earlier.location lineage]
      exact apart shows earlier
  · intro shows first second manifest found live otherLive same
    have mine : ∀ {other manifest}, Live v.after.world.manifests other manifest →
        manifest = made.reloaded → other.location = put.location := by
      intro other manifest live written
      subst written
      exact live.location (congrArg Object.reloaded writes.lineage)
    rcases writes.live_cases live with written | ⟨earlier, -⟩
    · rcases writes.live_cases otherLive with otherWritten | ⟨otherEarlier, -⟩
      · rw [written, otherWritten]
      · rw [mine live written] at same
        exact absurd same (apart shows otherEarlier)
    · rcases writes.live_cases otherLive with otherWritten | ⟨otherEarlier, -⟩
      · rw [mine otherLive otherWritten] at same
        exact absurd same.symm (apart shows earlier)
      · exact mapped.single shows earlier otherEarlier same

/-- A put to a key that is listed breaks the listing. -/
theorem Mapped.unlisted (fresh : Function.Injective host.uuid4)
    {caller : Session} (input : v.input = .put caller put)
    (mapped : Mapped host session tenant history v.before)
    (writes : Writes host tenant put v.before.world v.after.world made)
    (lists : ListsLastPuts host session tenant history v) :
    WritesUnlisted host session tenant v := by
  have missing := mapped.missing fresh writes
  rintro other written ⟨⟨_, same⟩, -, -⟩ rows run listed
  rw [input] at same
  cases same
  obtain ⟨row, present, sameLocation⟩ := List.mem_map.mp listed
  obtain ⟨before, beforeRun, -, member⟩ :=
    @OfPuts.listObjects_spec session tenant _ mapped.puts host none ""
  rw [beforeRun] at run
  cases run
  obtain ⟨shows, earlier, manifest, live, rfl, -⟩ := (member row).mp present
  have apart : made.manifestId ≠ manifest.manifestId := by
    intro equal
    rw [equal, live.found] at missing
    cases missing
  have stays : Live v.after.world.manifests earlier manifest := by
    refine ⟨?_, live.state, live.lineage⟩
    rw [writes.lookup, if_neg apart]
    exact live.found
  obtain ⟨after, afterRun, -, afterMember⟩ :=
    @OfPuts.listObjects_spec session tenant _ (mapped.puts.write writes) host
      none ""
  obtain ⟨shown, shownRun, distinct, -⟩ := lists none ""
  rw [afterRun] at shownRun
  cases shownRun
  have old := (afterMember (rowOf earlier manifest)).mpr
    ⟨shows, earlier, manifest, stays, rfl, by simp [asked]⟩
  have new := (afterMember (rowOf put made.reloaded)).mpr
    ⟨shows, put, _, writes.live missing, rfl, by simp [asked]⟩
  have rows := List.inj_on_of_nodup_map distinct old new sameLocation
  exact apart (congrArg ObjectRow.manifestId rows).symm

end Write

end Steps

/-! ## The run -/

section Run

variable {host : Host} (fresh : Function.Injective host.uuid4)
variable {session : Session} {tenant : String}

include fresh

/-- In a mapped store a call lists the last puts exactly if it writes to no
listed key, and then the store stays mapped. -/
theorem mapped_objectStep {history : List ObjectVisit} {gateway : Gateway}
    (mapped : Mapped host session tenant history gateway) (call : ObjectCall) :
    let v := Run.visit (objectStep host tenant) gateway call
    (ListsLastPuts host session tenant history v →
        WritesUnlisted host session tenant v) ∧
      (WritesUnlisted host session tenant v →
        Mapped host session tenant (history ++ [v]) v.after) := by
  intro v
  have spared : Spares v.before.world v.after.world →
      WritesUnlisted host session tenant v := by
    rintro ⟨same, -⟩ put manifest ⟨-, missing, present⟩
    rw [same, missing] at present
    cases present
  cases call with
  | put caller put =>
      have input : v.input = .put caller put := rfl
      rcases putObject_writes host caller tenant put gateway with
        spares | ⟨made, writes⟩
      · exact ⟨fun _ => spared spares, fun _ => Mapped.spare mapped spares⟩
      · exact ⟨Mapped.unlisted fresh input mapped writes,
          Mapped.write fresh input mapped writes⟩
  | delete caller manifestId actor allowDelete =>
      have deletes : ∀ session put, v.input ≠ .put session put := by
        intro session put same
        cases same
      refine ⟨fun _ put _ wrote => ?_, fun _ => ?_⟩
      · obtain ⟨caller, input⟩ := wrote.1
        exact absurd input (deletes caller put)
      · rcases deleteObject_marks host caller tenant manifestId actor
          allowDelete gateway.world with spares | ⟨manifest, marks⟩
        · exact Mapped.spare mapped spares
        · exact Mapped.tombstone mapped deletes marks

omit fresh in
/-- An empty store is mapped. -/
theorem mapped_empty {gateway : Gateway}
    (empty : gateway.world.manifests = ∅) :
    Mapped host session tenant [] gateway := by
  have missing : ∀ id, gateway.world.manifests.lookup id = none := by
    intro id
    rw [empty]
    rfl
  have absent : ∀ {put manifest}, ¬ Live gateway.world.manifests put manifest := by
    intro put manifest live
    have found := live.found
    rw [missing] at found
    cases found
  refine ⟨⟨?_, ?_, ?_⟩, ?_, fun _ _ _ live => absurd live absent,
    fun _ _ _ _ _ live => absurd live absent⟩ <;>
  · intro id manifest found
    rw [missing] at found
    cases found

/-- In every run from an empty store, every listing is a map from keys to the
last put of each if and only if no put writes to a key that is listed. -/
theorem listsLastPuts_iff {gateway : Gateway}
    (empty : gateway.world.manifests = ∅) (calls : List ObjectCall) :
    Run.Each (ListsLastPuts host session tenant)
        (Run.visits (objectStep host tenant) gateway calls) ↔
      Run.Each (fun _ => WritesUnlisted host session tenant)
        (Run.visits (objectStep host tenant) gateway calls) := by
  apply Run.each_iff_of_step (mapped_empty empty)
  · intro history late call mapped
    obtain ⟨unlisted, keeps⟩ := mapped_objectStep fresh mapped call
    exact ⟨unlisted, fun guarded => (keeps guarded).lists⟩
  · intro history late call mapped guarded
    exact (mapped_objectStep fresh mapped call).2 guarded

/-- A second put of a key that is listed breaks the listing. -/
theorem not_listsLastPuts_of_repeat {gateway middle later : Gateway}
    {put : ObjectPut} {first second : Session} {one two : StoredObject}
    (empty : gateway.world.manifests = ∅) (shows : Shows session tenant)
    (wrote : putObject host first tenant put gateway = (.ok one, middle))
    (rewrote : putObject host second tenant put middle = (.ok two, later)) :
    ¬ Run.Each (ListsLastPuts host session tenant)
      (Run.visits (objectStep host tenant) gateway
        [.put first put, .put second put]) := by
  intro lists
  let v := Run.visit (objectStep host tenant) gateway (.put first put)
  have after : v.after = middle := congrArg Prod.snd wrote
  let w := Run.visit (objectStep host tenant) v.after (.put second put)
  have rewritten : w.after = later := by
    change (putObject host second tenant put v.after).2 = later
    rw [after, rewrote]
  have start : Mapped host session tenant [] gateway := mapped_empty empty
  obtain ⟨unlisted, keeps⟩ := mapped_objectStep fresh start (.put first put)
  have mapped := keeps (unlisted (lists [] v [w] rfl))
  have guarded := (mapped_objectStep fresh mapped (.put second put)).1
    (lists [v] w [] rfl)
  obtain ⟨made, writes, -⟩ :=
    (ensures_putObject host first tenant put gateway).of_ok wrote
  obtain ⟨again, rewrites, -⟩ :=
    (ensures_putObject host second tenant put middle).of_ok rewrote
  rw [← after] at writes rewrites
  rw [← rewritten] at rewrites
  have live := writes.live (start.missing fresh writes)
  have input : w.input = .put second put := rfl
  have wroteAgain := Writes.wrote input rewrites (mapped.missing fresh rewrites)
  obtain ⟨rows, run, -, member⟩ :=
    @OfPuts.listObjects_spec session tenant _ mapped.puts host none ""
  apply guarded put _ wroteAgain rows run
  rw [List.mem_map]
  exact ⟨_, (member _).mpr ⟨shows, put, _, live, rfl, by simp [asked]⟩, rfl⟩

end Run

/-! ## Two puts of one key -/

def samplePutCall : ObjectCall := .put {} (samplePut "docs")

theorem samplePut_passes : ∀ k < 10, samplePutPasses "docs" k = true := by
  decide +kernel

theorem listsLastPuts_iff_sample :
    Run.Each (ListsLastPuts Host.counting {} "acme")
        (Run.visits (objectStep Host.counting "acme") {}
          [samplePutCall, samplePutCall]) ↔
      Run.Each (fun _ => WritesUnlisted Host.counting {} "acme")
        (Run.visits (objectStep Host.counting "acme") {}
          [samplePutCall, samplePutCall]) :=
  listsLastPuts_iff Host.counting_fresh rfl _

/-- The second put of a key leaves the row of the first. -/
theorem repeated_not_listsLastPuts :
    ¬ Run.Each (ListsLastPuts Host.counting {} "acme")
      (Run.visits (objectStep Host.counting "acme") {}
        [samplePutCall, samplePutCall]) := by
  obtain ⟨one, middle, wrote, goes⟩ :=
    samplePut_returns_first "docs" (by decide)
  have early : middle.supply.nextId ≤ 9 := goes.drawn
  have second := @samplePut_returns "docs" middle
    (samplePut_passes _ (Nat.lt_succ_of_le early)) early goes.policies
    goes.healthy goes.sound
  obtain ⟨two, later, rewrote, -⟩ := second
  apply @not_listsLastPuts_of_repeat Host.counting Host.counting_fresh {} "acme"
    {} middle later (samplePut "docs") {} {} one two rfl ?_ wrote rewrote
  intro listed same
  exact (Option.some.inj same).symm

end Urp.LocalS3Adapter
