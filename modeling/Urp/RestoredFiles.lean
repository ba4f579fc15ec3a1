import Urp.RestoreAtomicity

/-!
# Where an accepted archive's files stand

Every file of an accepted archive is written below the state directory.  The
duplicate check compares the names as texts, so that two names can denote one
path, where the later entry stays; the main theorem says when every declared
name still denotes a file with the declared digest and size.
-/

namespace Urp

open Python Program

/-- `record[name]`, or `None`. -/
def recordField (record : Value) (name : String) : Value :=
  Value.get (record.entries?.getD []) name

def IsWhole (value : Value) : Prop :=
  ∃ n : Int, value.number? = some (.finite n)

/-- The path that the name denotes holds a file with the declared digest and
size. -/
def StateDirectory.HoldsRecord (directory : StateDirectory) (name : String)
    (record : Value) : Prop :=
  ∃ data, directory.lookup (posixParts name) = some data ∧
    recordField record "sha256" = .str (sha256 data) ∧
    (recordField record "size").number? =
      some (.finite ((data.length : Int) : ℚ))

/-- Every declared size is a whole number, and two names of one path declare
the same digest and size. -/
structure Unambiguous (declared : List (String × Value)) : Prop where
  whole : ∀ name record, Entries.lookup declared name = some record →
    IsWhole (recordField record "size")
  alike : ∀ name record other otherRecord,
    Entries.lookup declared name = some record →
    Entries.lookup declared other = some otherRecord →
    posixParts name = posixParts other →
      recordField record "sha256" = recordField otherRecord "sha256" ∧
        (recordField record "size").number? =
          (recordField otherRecord "size").number?

/-! ## Verified records -/

theorem eq_str_of_pyEq {text : String} {value : Value}
    (same : Value.pyEq (.str text) value = true) : value = .str text := by
  cases value with
  | str other =>
      rw [Value.pyEq, beq_iff_eq] at same
      rw [same]
  | _ => simp [Value.pyEq, Value.number?] at same

theorem subscript_eq_ok {value item : Value} {name : String}
    (read : subscript value name = .ok item) : recordField value name = item := by
  cases value with
  | dict entries =>
      simp only [subscript] at read
      split at read
      · rename_i found
        cases read
        simp [recordField, Value.entries?, Value.get, Value.getD, found]
      · cases read
  | _ => cases read

/-- `int` keeps a whole number. -/
theorem number?_of_intOf {host : Host} {value : Value} {n : Int}
    (cut : intOf host value = .ok n) (whole : IsWhole value) :
    value.number? = some (.finite n) := by
  obtain ⟨m, number⟩ := whole
  cases value with
  | bool b =>
      simp only [intOf, Except.ok.injEq] at cut
      rw [← cut]
      cases b <;> rfl
  | int k =>
      cases cut
      rfl
  | float f =>
      cases f with
      | finite text =>
          simp only [Value.number?, PyFloat.number?, Option.some.injEq,
            Number.finite.injEq] at number
          simp only [intOf, Except.ok.injEq] at cut
          rw [number, Rat.num_intCast, Rat.den_intCast, Nat.cast_one,
            Int.tdiv_one] at cut
          simp [Value.number?, PyFloat.number?, number, cut]
      | infinity negative => cases cut
      | nan => cases cut
  | _ => cases number

/-- What a verified entry's record declares. -/
theorem verifyEntry_eq_ok {host : Host} {record : Value} {name : String}
    {data : Bytes} (checked : verifyEntry host record name data = .ok ()) :
    recordField record "sha256" = .str (sha256 data) ∧
      intOf host (recordField record "size") = .ok data.length := by
  unfold verifyEntry at checked
  obtain ⟨size, readSize, checked⟩ := except_bind_eq_ok_iff.mp checked
  obtain ⟨length, cut, checked⟩ := except_bind_eq_ok_iff.mp checked
  split at checked
  · cases checked
  · rename_i same
    obtain ⟨digest, readDigest, checked⟩ := except_bind_eq_ok_iff.mp checked
    split at checked
    · rename_i agreed
      rw [not_not] at same
      rw [subscript_eq_ok readSize, subscript_eq_ok readDigest, same]
      exact ⟨eq_str_of_pyEq agreed, cut⟩
    · cases checked

/-! ## What an accepted import leaves -/

section Accepted

variable {faults : RestoreFaults} {host : Host} {key : Option String}
variable {base root : List String} {archive : RestoreArchive}
variable {staging : StateDirectory}

/-- A merge that returns keeps what is there and adds the rest. -/
theorem ensures_mergeInto_lookup {sources : List (StatePath × Bytes)}
    (valid : ∀ source ∈ sources, isFilePath source.1 = true)
    (current : StateDirectory) :
    Ensures (mergeInto faults root sources) current
      (fun _ later => ∀ path, later.lookup path =
        (current.lookup path).or (Entries.lookup sources path))
      (fun _ _ => True) := by
  induction sources generalizing current with
  | nil =>
      rw [mergeInto]
      intro path
      simp
  | cons source rest ih =>
      obtain ⟨path, data⟩ := source
      obtain ⟨named, others⟩ := List.forall_mem_cons.mp valid
      rw [mergeInto, resolveUnder_of_isFilePath named]
      simp only [ensures_bind, ensures_lift, Except.ok.injEq, forall_eq',
        reduceCtorEq, implies_true, and_true, ensures_get]
      cases found : current.lookup path with
      | some existing =>
          rw [ensures_ite]
          refine ⟨fun _ => trivial, fun _ => (ih others current).mono ?_ ?_⟩
          · intro _ later merged other
            rw [merged, Entries.lookup]
            by_cases same : path = other
            · subst same
              simp [found]
            · rw [if_neg same]
          · exact fun _ _ _ => trivial
      | none =>
          cases fault : faults.write path with
          | some error => exact trivial
          | none =>
              simp only [attempt, ensures_bind, ensures_modify,
                ensures_lift]
              refine ⟨fun next written => ?_, fun _ _ => trivial⟩
              obtain ⟨fits, rfl⟩ := write_eq_ok_iff.mp written
              refine (ih others _).mono (fun _ later merged other => ?_)
                fun _ _ _ => trivial
              have inserted : (current.insert path data fits).lookup other =
                  if path = other then some data else current.lookup other :=
                Dict.lookup_insert _ _ _ _
              rw [merged, inserted, Entries.lookup]
              by_cases same : path = other
              · subst same
                rw [if_pos rfl, if_pos rfl, found]
                rfl
              · rw [if_neg same, if_neg same]

theorem ensures_moveStaged (site : RestoreSite) :
    Ensures (moveStaged faults staging) site
      (fun _ later => later.state = some staging) (fun _ _ => True) := by
  have last : ∀ site : RestoreSite, Ensures
      (attempt faults.moveStaging fun site : RestoreSite =>
        { site with state := some staging }) site
      (fun _ later => later.state = some staging) (fun _ _ => True) := by
    intro site
    cases fault : faults.moveStaging with
    | some error => exact trivial
    | none => exact rfl
  simp only [moveStaged, ensures_bind, ensures_get]
  cases site.state with
  | none => exact last site
  | some old =>
      cases fault : faults.moveState with
      | some error => exact trivial
      | none => exact last _

/-- A replacement that returns has installed the staged tree. -/
theorem ensures_replaceState (site : RestoreSite) :
    Ensures (replaceState faults staging) site
      (fun _ later => later.state = some staging) (fun _ _ => True) := by
  have install : ∀ site, Ensures (installStaged faults staging) site
      (fun _ later => later.state = some staging) (fun _ _ => True) := by
    intro site
    have moved := @ensures_moveStaged faults staging site
    rcases run : moveStaged faults staging site with ⟨error | _, later⟩
    · have raises : Ensures (moveBack faults >>= fun _ =>
          (Program.raise error : Program RestoreSite PyException Unit)) later
          (fun _ final => final.state = some staging) (fun _ _ => True) := by
        rw [ensures_bind]
        exact (ensures_self _ later).mono (fun _ _ _ => trivial)
          fun _ _ _ => trivial
      unfold Ensures installStaged at *
      rw [run]
      exact raises
    · have installed := moved.of_ok run
      have drops : Ensures (dropPrevious faults) later
          (fun _ final => final.state = some staging) (fun _ _ => True) := by
        simp only [dropPrevious, ensures_bind, ensures_get]
        cases later.previous with
        | none => exact installed
        | some old =>
            cases fault : faults.drop with
            | some error => exact trivial
            | none => exact installed
      unfold Ensures installStaged at *
      rw [run]
      exact drops
  simp only [replaceState, ensures_bind, ensures_get]
  cases site.previous with
  | none => exact install site
  | some old =>
      cases fault : faults.clear with
      | some error => exact trivial
      | none => exact install _

/-- An accepted import into an empty directory leaves the staged files. -/
theorem restored_of_accepted {previous : Option StateDirectory}
    {replace : Bool} {later : RestoreSite}
    (accepted : restoreArchive faults host key base root archive replace
      { state := some ∅, previous := previous } = (.ok (), later)) :
    ∃ staging restored, extractArchive host key base archive = .ok staging ∧
      later.state = some restored ∧
      ∀ path, restored.lookup path = staging.lookup path := by
  have holds : Ensures (restoreArchive faults host key base root archive
      replace) { state := some ∅, previous := previous }
      (fun _ later => ∃ staging restored,
        extractArchive host key base archive = .ok staging ∧
          later.state = some restored ∧
          ∀ path, restored.lookup path = staging.lookup path)
      (fun _ _ => True) := by
    simp only [restoreArchive, ensures_bind]
    rw [ensures_lift]
    refine ⟨fun staging extracted => ?_, fun _ _ => trivial⟩
    cases replace with
    | true =>
        refine (ensures_replaceState _).mono (fun _ later installed => ?_)
          fun _ _ _ => trivial
        exact ⟨staging, staging, extracted, installed, fun _ => rfl⟩
    | false =>
        have perm : staging.sources.Perm staging.files.entries :=
          List.perm_insertionSort _ _
        have valid : ∀ source ∈ staging.sources,
            isFilePath source.1 = true := fun source member =>
          staging.named _ (List.mem_map_of_mem (perm.mem_iff.mp member))
        have merged := @ensures_mergeInto_lookup faults root _ valid ∅
        simp only [Bool.false_eq_true, if_false, mergeStaged]
        rw [ensures_focus]
        refine merged.mono (fun _ later lookup => ?_) fun _ _ _ => trivial
        refine ⟨staging, later, extracted, rfl, fun path => ?_⟩
        rw [lookup]
        exact Entries.lookup_perm staging.files.distinct perm path
  exact holds.of_ok accepted

/-- What stands at a declared name's path is a verified entry of the path. -/
theorem staged_declared (accepted : archive.Accepted host staging)
    {name : String} {record : Value}
    (declared : Entries.lookup archive.declared name = some record) :
    ∃ data other otherRecord, staging.lookup (posixParts name) = some data ∧
      posixParts other = posixParts name ∧
      Entries.lookup archive.declared other = some otherRecord ∧
      recordField otherRecord "sha256" = .str (sha256 data) ∧
      intOf host (recordField otherRecord "size") = .ok data.length := by
  have listed : name ∈ archive.fileNames :=
    (accepted.declared name).mp
      (List.mem_map.mpr ⟨_, Entries.lookup_mem declared, rfl⟩)
  obtain ⟨entry, member, rfl⟩ := List.mem_map.mp listed
  have path : posixParts entry.filename ∈
      ((archive.entries.filter fun entry => !entry.isDir).map fun entry =>
        (posixParts entry.filename, entry.data)).map Prod.fst := by
    rw [List.map_map]
    exact List.mem_map.mpr ⟨entry, member, rfl⟩
  obtain ⟨data, found, pair⟩ := Dict.exists_lookup_ofList path
  obtain ⟨other, otherMember, same⟩ := List.mem_map.mp pair
  obtain ⟨samePath, rfl⟩ := Prod.mk.inj same
  obtain ⟨inEntries, file⟩ := List.mem_filter.mp otherMember
  obtain ⟨expected, recorded, checked⟩ :=
    (accepted.verified other inEntries (by simpa using file)).record
  have fields := verifyEntry_eq_ok checked
  refine ⟨other.data, other.filename, expected, ?_, samePath, recorded,
    fields.1, fields.2⟩
  rw [StateDirectory.lookup, accepted.staged]
  exact found

/-- Every staged file stands where a declared name resolves to, below every
root. -/
theorem staged_inside (accepted : archive.Accepted host staging)
    {path : StatePath} {data : Bytes}
    (found : staging.lookup path = some data) :
    ∃ name ∈ archive.declared.map Prod.fst,
      resolvePath root name = root ++ path := by
  rw [StateDirectory.lookup, accepted.staged] at found
  have pair := Dict.mem_of_mem_ofList ((Dict.mem_entries_iff _ _ _).mpr found)
  obtain ⟨entry, member, same⟩ := List.mem_map.mp pair
  obtain ⟨rfl, rfl⟩ := Prod.mk.inj same
  obtain ⟨inEntries, file⟩ := List.mem_filter.mp member
  have verified := accepted.verified entry inEntries (by simpa using file)
  refine ⟨entry.filename, ?_, resolvePath_of_valid verified.name root⟩
  exact (accepted.declared _).mpr (List.mem_map.mpr ⟨entry, member, rfl⟩)

end Accepted

/-- An accepted archive's files all stand below the state directory; every
declared name denotes a file with the declared digest and size exactly when
the declared sizes are whole and names of one path declare the same. -/
theorem accepted_declared_iff {faults : RestoreFaults} {host : Host}
    {key : Option String} {base root : List String}
    {archive : RestoreArchive} {previous : Option StateDirectory}
    {replace : Bool} {later : RestoreSite}
    (accepted : restoreArchive faults host key base root archive replace
      { state := some ∅, previous := previous } = (.ok (), later)) :
    (∃ restored, later.state = some restored ∧
      (∀ path ∈ restored.paths, isFilePath path = true ∧
        ∃ name ∈ archive.declared.map Prod.fst,
          resolvePath root name = root ++ path) ∧
      ∀ name record, Entries.lookup archive.declared name = some record →
        restored.HoldsRecord name record) ↔
      Unambiguous archive.declared := by
  obtain ⟨staging, restored, extracted, state, files⟩ :=
    restored_of_accepted accepted
  have checked := extractArchive_eq_ok extracted
  constructor
  · rintro ⟨other, same, -, holds⟩
    constructor
    · intro name record declared
      obtain ⟨data, -, -, size⟩ := holds name record declared
      exact ⟨data.length, size⟩
    · intro name record other otherRecord declared otherDeclared samePath
      obtain ⟨data, found, digest, size⟩ := holds name record declared
      obtain ⟨otherData, otherFound, otherDigest, otherSize⟩ :=
        holds other otherRecord otherDeclared
      rw [samePath, otherFound] at found
      cases found
      exact ⟨digest.trans otherDigest.symm, size.trans otherSize.symm⟩
  · intro unambiguous
    refine ⟨restored, state, ?_, ?_⟩
    · intro path member
      refine ⟨restored.named path member, ?_⟩
      obtain ⟨data, found⟩ := StateDirectory.mem_paths_iff.mp member
      rw [files] at found
      exact staged_inside checked found
    · intro name record declared
      obtain ⟨data, other, otherRecord, found, samePath, otherDeclared, digest,
        size⟩ := staged_declared checked declared
      have alike := unambiguous.alike name record other otherRecord declared
        otherDeclared samePath.symm
      refine ⟨data, ?_, alike.1.trans digest, ?_⟩
      · rw [files]
        exact found
      · rw [alike.2]
        exact number?_of_intOf size
          (unambiguous.whole other otherRecord otherDeclared)

/-- An extracted archive merges into an empty directory. -/
theorem exists_restoreArchive {host : Host} {key : Option String}
    {base root : List String} {archive : RestoreArchive}
    {staging : StateDirectory}
    (extracted : extractArchive host key base archive = .ok staging) :
    ∃ later, restoreArchive {} host key base root archive false
      { state := some ∅ } = (.ok (), later) := by
  obtain ⟨restored, merged, -, -⟩ := mergeState_empty staging
  have valid : ∀ source ∈ staging.sources, isFilePath source.1 = true := by
    intro source member
    exact staging.named _ (List.mem_map_of_mem
      ((List.perm_insertionSort _ _).mem_iff.mp member))
  have returns := ensures_mergeInto_of_mergeFiles root valid merged
  have whole : Ensures (restoreArchive {} host key base root archive false)
      { state := some ∅ } (fun _ _ => True) (fun _ _ => False) := by
    simp only [restoreArchive, extracted, ensures_bind, ensures_lift,
      Except.ok.injEq, forall_eq', reduceCtorEq, false_implies, implies_true,
      and_true, Bool.false_eq_true, if_false, mergeStaged]
    rw [ensures_focus]
    exact returns.mono (fun _ _ _ => trivial) fun _ _ => id
  rcases run : restoreArchive {} host key base root archive false
      { state := some ∅ } with ⟨error | _, later⟩
  · exact (whole.of_error run).elim
  · exact ⟨later, rfl⟩

/-- One file, whose name has a doubled slash. -/
def slashedFiles : List (String × Bytes) := [("plans//p.json", [1])]

/-- Two names of one path, with files of different sizes. -/
def doubledFiles : List (String × Bytes) :=
  [("plans//p.json", [1]), ("plans/p.json", [1, 2])]

def planTree : StateDirectory :=
  StateDirectory.insert ∅ ["plans", "p.json"] [] (by decide)

theorem exists_accepted {files : List (String × Bytes)}
    (listed : files = slashedFiles ∨ files = doubledFiles) :
    ∃ later, restoreArchive {} Host.counting none ["staging"] ["state"]
      (archiveOf files) false { state := some ∅ } = (.ok (), later) := by
  have valid : ∀ name ∈ ["plans//p.json", "plans/p.json"],
      (validateArchiveName name = .ok () ∧ hasSuffix "/" name = false) ∧
        posixParts name ∈ planTree.paths := by
    intro name member
    simp only [List.mem_cons, List.not_mem_nil, or_false] at member
    rcases member with rfl | rfl
    · exact ⟨⟨validateArchiveName_eq_ok_iff.mpr (by decide), by decide⟩,
        by decide⟩
    · exact ⟨⟨validateArchiveName_eq_ok_iff.mpr (by decide), by decide⟩,
        by decide⟩
  have names : ∀ file ∈ files,
      file.1 ∈ ["plans//p.json", "plans/p.json"] := by
    rcases listed with rfl | rfl <;> decide
  obtain ⟨staging, extracted⟩ := @exists_extractArchive Host.counting
    ["staging"] planTree files (fun file member =>
      (valid file.1 (names file member)).1)
    (by rcases listed with rfl | rfl <;> decide)
    (by rcases listed with rfl | rfl <;> decide)
    (by rcases listed with rfl | rfl <;> decide)
    (fun file member => (valid file.1 (names file member)).2)
  exact exists_restoreArchive extracted

/-- A file under a name with a doubled slash is found at its path. -/
theorem accepted_declared_sample :
    ∃ later, restoreArchive {} Host.counting none ["staging"] ["state"]
        (archiveOf slashedFiles) false { state := some ∅ } = (.ok (), later) ∧
      ∃ restored, later.state = some restored ∧
        ∀ name record, Entries.lookup (archiveOf slashedFiles).declared name =
          some record → restored.HoldsRecord name record := by
  obtain ⟨later, accepted⟩ := exists_accepted (.inl rfl)
  refine ⟨later, accepted, ?_⟩
  have only : ∀ name record, Entries.lookup (archiveOf slashedFiles).declared
      name = some record → record = .dict [("sha256", .str (sha256 [1])),
        ("size", .int 1)] := by
    intro name record found
    rw [declared_archiveOf] at found
    have member := Entries.lookup_mem found
    simp only [slashedFiles, List.map_cons, List.map_nil, List.mem_singleton,
      Prod.mk.injEq] at member
    exact member.2
  have unambiguous : Unambiguous (archiveOf slashedFiles).declared := by
    constructor
    · intro name record found
      rw [only name record found]
      exact ⟨1, rfl⟩
    · intro name record other otherRecord found otherFound _
      rw [only name record found, only other otherRecord otherFound]
      exact ⟨rfl, rfl⟩
  obtain ⟨restored, state, -, holds⟩ :=
    (accepted_declared_iff accepted).mpr unambiguous
  exact ⟨restored, state, holds⟩

/-- Of two names of one path the first one denotes the other's file. -/
theorem accepted_misdeclared :
    ∃ later restored, restoreArchive {} Host.counting none ["staging"]
        ["state"] (archiveOf doubledFiles) false { state := some ∅ } =
          (.ok (), later) ∧
      later.state = some restored ∧
      ∃ name record, Entries.lookup (archiveOf doubledFiles).declared name =
        some record ∧ ¬ restored.HoldsRecord name record := by
  obtain ⟨later, accepted⟩ := exists_accepted (.inr rfl)
  obtain ⟨staging, restored, extracted, state, files⟩ :=
    restored_of_accepted accepted
  refine ⟨later, restored, accepted, state, "plans//p.json",
    .dict [("sha256", .str (sha256 [1])), ("size", .int 1)], ?_, ?_⟩
  · rw [declared_archiveOf]
    simp [doubledFiles, Entries.lookup]
  · rintro ⟨data, found, -, size⟩
    have last : (archiveOf doubledFiles).staged.lookup
        (posixParts "plans//p.json") = some [1, 2] := by
      decide
    rw [files, StateDirectory.lookup,
      (extractArchive_eq_ok extracted).staged, last] at found
    cases found
    have declared : (recordField (.dict [("sha256", .str (sha256 [1])),
        ("size", .int 1)]) "size").number? = some (.finite 1) := rfl
    rw [declared] at size
    simp at size

end Urp
