import Urp.RestoreImports

/-!
# What a failed import leaves

A merge stops at the first file that cannot be merged and keeps the files
written before it; a replacement can lose the state between its two moves, or
fail after both.  The main theorem says when a failed import leaves the files
of the state directory as they were.
-/

namespace Urp

open Python Program

/-- The file cannot be merged: another content stands at its path, or none
does and it cannot be written. -/
def obstructed (faults : RestoreFaults) (directory : StateDirectory)
    (source : StatePath × Bytes) : Bool :=
  match directory.lookup source.1 with
  | some existing => sha256 existing != sha256 source.2
  | none => !directory.fits source.1 || (faults.write source.1).isSome

/-- The files before the first one that cannot be merged. -/
def clearSources (faults : RestoreFaults) (directory : StateDirectory)
    (sources : List (StatePath × Bytes)) : List (StatePath × Bytes) :=
  sources.takeWhile fun source => !obstructed faults directory source

/-! ## Merging -/

/-- The directory with some files of the staged tree. -/
structure StateDirectory.Grown (directory staging current : StateDirectory) :
    Prop where
  old : ∀ path ∈ directory.paths, path ∈ current.paths
  origin : ∀ path ∈ current.paths,
    path ∈ directory.paths ∨ path ∈ staging.paths

section Merging

variable {directory staging current : StateDirectory}

theorem StateDirectory.Grown.refl (directory staging : StateDirectory) :
    directory.Grown staging directory :=
  ⟨fun _ member => member, fun _ member => .inl member⟩

/-- A staged file fits the grown directory as it fitted the old one. -/
theorem StateDirectory.Grown.fits_eq
    (grown : directory.Grown staging current) {path : StatePath}
    (staged : path ∈ staging.paths) :
    current.fits path = directory.fits path := by
  rw [Bool.eq_iff_iff, fits_iff, fits_iff]
  refine and_congr_right fun _ => ⟨fun free other member => ?_,
    fun free other member => ?_⟩
  · exact free other (grown.old other member)
  · rcases grown.origin other member with old | new
    · exact free other old
    · rintro (above | below)
      · exact staging.tree other new path staged above
      · exact (staging.tree path staged other new below).symm

theorem mem_paths_insert_iff {path : StatePath} {data : Bytes}
    (fits : current.fits path = true) (other : StatePath) :
    other ∈ (current.insert path data fits).paths ↔
      other = path ∨ other ∈ current.paths := by
  rw [StateDirectory.mem_paths_iff, StateDirectory.mem_paths_iff]
  simp only [StateDirectory.lookup, StateDirectory.insert, Dict.lookup_insert]
  by_cases same : path = other
  · simp [same]
  · simp [same, Ne.symm same]

theorem StateDirectory.Grown.insert (grown : directory.Grown staging current)
    {path : StatePath} {data : Bytes} (staged : path ∈ staging.paths)
    (fits : current.fits path = true) :
    directory.Grown staging (current.insert path data fits) := by
  constructor
  · intro other member
    exact (mem_paths_insert_iff fits other).mpr
      (.inr (grown.old other member))
  · intro other member
    rcases (mem_paths_insert_iff fits other).mp member with rfl | old
    · exact .inr staged
    · exact grown.origin other old

/-- What a merge leaves that raises: the files before the first obstructed
one are there, and nothing changed if they were there before. -/
structure MergeStops (faults : RestoreFaults) (directory : StateDirectory)
    (sources : List (StatePath × Bytes)) (current later : StateDirectory) :
    Prop where
  stuck : ∃ source ∈ sources, obstructed faults directory source = true
  kept : ∀ path ∈ current.paths, path ∈ later.paths
  present : ∀ source ∈ clearSources faults directory sources,
    source.1 ∈ later.paths
  unchanged : (∀ source ∈ clearSources faults directory sources,
    source.1 ∈ directory.paths) → later = current

section Steps

variable {faults : RestoreFaults} {source : StatePath × Bytes}
variable {rest : List (StatePath × Bytes)} {later : StateDirectory}

theorem mergeStops_here (stuck : obstructed faults directory source = true) :
    MergeStops faults directory (source :: rest) current current := by
  have clear : clearSources faults directory (source :: rest) = [] := by
    simp [clearSources, stuck]
  refine ⟨⟨source, List.mem_cons_self, stuck⟩, fun _ member => member, ?_,
    fun _ => rfl⟩
  rw [clear]
  intro other member
  cases member

theorem clearSources_cons
    (free : obstructed faults directory source = false) :
    clearSources faults directory (source :: rest) =
      source :: clearSources faults directory rest := by
  simp [clearSources, free]

/-- A file that was there already. -/
theorem MergeStops.skip
    (free : obstructed faults directory source = false)
    (there : source.1 ∈ current.paths)
    (stops : MergeStops faults directory rest current later) :
    MergeStops faults directory (source :: rest) current later := by
  obtain ⟨stuck, member, found⟩ := stops.stuck
  refine ⟨⟨stuck, List.mem_cons_of_mem _ member, found⟩, stops.kept, ?_, ?_⟩
  · rw [clearSources_cons free]
    exact List.forall_mem_cons.mpr ⟨stops.kept _ there, stops.present⟩
  · rw [clearSources_cons free]
    exact fun old => stops.unchanged (List.forall_mem_cons.mp old).2

/-- A file that is written. -/
theorem MergeStops.write
    (free : obstructed faults directory source = false)
    (absent : source.1 ∉ directory.paths)
    (fits : current.fits source.1 = true)
    (stops : MergeStops faults directory rest
      (current.insert source.1 source.2 fits) later) :
    MergeStops faults directory (source :: rest) current later := by
  obtain ⟨stuck, member, found⟩ := stops.stuck
  have members := @mem_paths_insert_iff current source.1 source.2 fits
  refine ⟨⟨stuck, List.mem_cons_of_mem _ member, found⟩, ?_, ?_, ?_⟩
  · intro path old
    exact stops.kept path ((members path).mpr (.inr old))
  · rw [clearSources_cons free]
    exact List.forall_mem_cons.mpr
      ⟨stops.kept _ ((members source.1).mpr (.inl rfl)), stops.present⟩
  · rw [clearSources_cons free]
    exact fun old => absurd (List.forall_mem_cons.mp old).1 absent

end Steps

/-- A merge returns when no file is obstructed, and else stops. -/
theorem ensures_mergeInto (faults : RestoreFaults) (root : List String)
    {sources : List (StatePath × Bytes)}
    (inside : ∀ source ∈ sources, source.1 ∈ staging.paths)
    (distinct : (sources.map Prod.fst).Nodup)
    (grown : directory.Grown staging current)
    (same : ∀ source ∈ sources,
      current.lookup source.1 = directory.lookup source.1) :
    Ensures (mergeInto faults root sources) current
      (fun _ _ => ∀ source ∈ sources,
        obstructed faults directory source = false)
      (fun _ later => MergeStops faults directory sources current later) := by
  induction sources generalizing current with
  | nil =>
      rw [mergeInto]
      intro source member
      cases member
  | cons source rest ih =>
      obtain ⟨path, data⟩ := source
      obtain ⟨staged, othersStaged⟩ := List.forall_mem_cons.mp inside
      obtain ⟨sameHere, sameOthers⟩ := List.forall_mem_cons.mp same
      rw [List.map_cons, List.nodup_cons] at distinct
      rw [mergeInto, resolveUnder_of_isFilePath (staging.named path staged)]
      simp only [ensures_bind, ensures_lift, Except.ok.injEq, forall_eq',
        reduceCtorEq, false_implies, implies_true, and_true, ensures_get]
      cases found : current.lookup path with
      | some existing =>
          have before : directory.lookup path = some existing :=
            sameHere.symm.trans found
          rw [ensures_ite]
          constructor
          · intro differ
            exact mergeStops_here (by simpa [obstructed, before] using differ)
          · intro agree
            have free : obstructed faults directory (path, data) = false := by
              simpa [obstructed, before] using agree
            refine (ih othersStaged distinct.2 grown sameOthers).mono ?_ ?_
            · exact fun _ _ clear => List.forall_mem_cons.mpr ⟨free, clear⟩
            · intro _ later stops
              exact stops.skip free
                (StateDirectory.mem_paths_iff.mpr ⟨existing, found⟩)
      | none =>
          have before : directory.lookup path = none :=
            sameHere.symm.trans found
          have fitsSame := grown.fits_eq staged
          cases fault : faults.write path with
          | some error =>
              simp only [attempt, ensures_bind, ensures_raise]
              exact mergeStops_here (by simp [obstructed, before, fault])
          | none =>
              simp only [attempt, ensures_bind, ensures_modify, id_eq,
                ensures_lift]
              constructor
              · intro written wrote
                obtain ⟨fits, rfl⟩ := write_eq_ok_iff.mp wrote
                have free : obstructed faults directory (path, data) =
                    false := by
                  rw [fitsSame] at fits
                  simp [obstructed, before, fault, fits]
                have absent : path ∉ directory.paths := by
                  rw [StateDirectory.mem_paths_iff, before]
                  rintro ⟨_, ⟨⟩⟩
                have sameNext : ∀ source ∈ rest,
                    (current.insert path data fits).lookup source.1 =
                      directory.lookup source.1 := by
                  intro other member
                  have apart : path ≠ other.1 := by
                    intro again
                    have listed : other.1 ∈ rest.map Prod.fst :=
                      List.mem_map_of_mem member
                    exact distinct.1 (by rwa [← again] at listed)
                  rw [← sameOthers other member]
                  exact Dict.lookup_insert_ne _ _ apart
                refine (ih othersStaged distinct.2 (grown.insert staged fits)
                  sameNext).mono ?_ ?_
                · exact fun _ _ clear => List.forall_mem_cons.mpr ⟨free, clear⟩
                · exact fun _ later stops => stops.write free absent
              · intro error refused
                have unfit : current.fits path = false := by
                  by_contra fits
                  rw [Bool.not_eq_false] at fits
                  rw [write_eq_ok_iff.mpr ⟨fits, rfl⟩] at refused
                  cases refused
                rw [fitsSame] at unfit
                exact mergeStops_here (by simp [obstructed, before, unfit])

end Merging

/-! ## Failed imports -/

/-- The state directory holds the files of `directory`. -/
def RestoreSite.Holds (site : RestoreSite) (directory : StateDirectory) :
    Prop :=
  ∃ current, site.state = some current ∧
    ∀ path, current.lookup path = directory.lookup path

/-- The files of the archive in the order of their paths. -/
def RestoreArchive.sources (archive : RestoreArchive) :
    List (StatePath × Bytes) :=
  archive.staged.entries.insertionSort fun left right => left.1 ≤ right.1

/-- No file is written before the first one that cannot be merged. -/
def MergeKeeps (faults : RestoreFaults) (archive : RestoreArchive)
    (directory : StateDirectory) : Prop :=
  (∃ source ∈ archive.sources, obstructed faults directory source = true) →
    ∀ source ∈ clearSources faults directory archive.sources,
      source.1 ∈ directory.paths

/-- A state that was moved away is moved back when its replacement cannot
move in, and can be removed when the replacement, with other files, has. -/
def ReplaceKeeps (faults : RestoreFaults) (archive : RestoreArchive)
    (directory : StateDirectory) (previous : Option StateDirectory) : Prop :=
  (previous.isSome = true → faults.clear = none) → faults.moveState = none →
    (faults.moveStaging.isSome = true → faults.moveBack = none) ∧
    (faults.moveStaging = none → faults.drop.isSome = true →
      ∀ path, archive.staged.lookup path = directory.lookup path)

section Failed

variable {faults : RestoreFaults} {archive : RestoreArchive}
variable {directory staging : StateDirectory} {root : List String}
variable {previous : Option StateDirectory}

/-- A failed merge keeps the files exactly when none is written before the
first obstructed one. -/
theorem failedMerge_holds_iff (staged : staging.files = archive.staged) :
    Ensures (mergeStaged faults root staging)
        { state := some directory, previous := previous }
        (fun _ _ => True) (fun _ later => later.Holds directory) ↔
      MergeKeeps faults archive directory := by
  have sources : staging.sources = archive.sources := by
    rw [StateDirectory.sources, staged]
    rfl
  have perm : archive.sources.Perm staging.files.entries := by
    rw [← sources]
    exact List.perm_insertionSort _ _
  have inside : ∀ source ∈ archive.sources, source.1 ∈ staging.paths :=
    fun source member => List.mem_map_of_mem (perm.mem_iff.mp member)
  have distinct : (archive.sources.map Prod.fst).Nodup :=
    (perm.map Prod.fst).nodup_iff.mpr staging.files.distinct
  have merged := ensures_mergeInto faults root inside distinct
    (.refl directory staging) fun _ _ => rfl
  unfold mergeStaged
  rw [ensures_focus, sources]
  constructor
  · intro held stuck
    have both := merged.and held
    rcases run : mergeInto faults root archive.sources directory with
      ⟨error | _, later⟩
    · obtain ⟨stops, current, same, files⟩ := both.of_error run
      cases same
      intro source member
      obtain ⟨data, found⟩ := StateDirectory.mem_paths_iff.mp
        (stops.present source member)
      rw [files] at found
      exact StateDirectory.mem_paths_iff.mpr ⟨data, found⟩
    · obtain ⟨free, -⟩ := both.of_ok run
      obtain ⟨source, member, obstruction⟩ := stuck
      rw [free source member] at obstruction
      cases obstruction
  · intro keeps
    refine merged.mono (fun _ _ _ => trivial) fun _ later stops => ?_
    rw [stops.unchanged (keeps stops.stuck)]
    exact ⟨directory, rfl, fun _ => rfl⟩

/-- The three ways that the moves end: the state stays, or the replacement
stays outside, or it is installed. -/
theorem installStaged_holds_iff {site : RestoreSite}
    (existing : site.state = some directory) :
    Ensures (installStaged faults staging) site
        (fun _ _ => True) (fun _ later => later.Holds directory) ↔
      (faults.moveState = none →
        (faults.moveStaging.isSome = true → faults.moveBack = none) ∧
        (faults.moveStaging = none → faults.drop.isSome = true →
          ∀ path, staging.lookup path = directory.lookup path)) := by
  obtain ⟨state, old⟩ := site
  cases existing
  have holds : ∀ previous, RestoreSite.Holds ⟨some directory, previous⟩
      directory := fun _ => ⟨directory, rfl, fun _ => rfl⟩
  cases moveState : faults.moveState with
  | some error =>
      have run : installStaged faults staging ⟨some directory, old⟩ =
          (.error error, ⟨some directory, old⟩) := by
        simp only [installStaged, moveStaged, attempt, moveState]
        rfl
      rw [ensures_of_raise run]
      refine iff_of_true (holds old) ?_
      intro unmoved
      cases unmoved
  | none =>
      cases moveStaging : faults.moveStaging with
      | some error =>
          cases moveBack : faults.moveBack with
          | some other =>
              have run : installStaged faults staging ⟨some directory, old⟩ =
                  (.error other, ⟨none, some directory⟩) := by
                simp only [installStaged, moveStaged, attempt, moveState,
                  moveStaging, Urp.moveBack, moveBack]
                rfl
              rw [ensures_of_raise run]
              refine iff_of_false ?_ fun kept => ?_
              · rintro ⟨current, none, -⟩
                cases none
              · cases (kept rfl).1 rfl
          | none =>
              have run : installStaged faults staging ⟨some directory, old⟩ =
                  (.error error, ⟨some directory, none⟩) := by
                simp only [installStaged, moveStaged, attempt, moveState,
                  moveStaging, Urp.moveBack, moveBack]
                rfl
              rw [ensures_of_raise run]
              refine iff_of_true (holds none) fun _ => ⟨fun _ => rfl, ?_⟩
              intro installed
              cases installed
      | none =>
          cases drop : faults.drop with
          | some error =>
              have run : installStaged faults staging ⟨some directory, old⟩ =
                  (.error error, ⟨some staging, some directory⟩) := by
                simp only [installStaged, moveStaged, attempt, moveState,
                  moveStaging, dropPrevious, drop]
                rfl
              rw [ensures_of_raise run]
              constructor
              · rintro ⟨current, same, files⟩ _
                cases same
                refine ⟨fun stranded => ?_, fun _ _ => files⟩
                cases stranded
              · intro kept
                exact ⟨staging, rfl, (kept rfl).2 rfl rfl⟩
          | none =>
              have run : installStaged faults staging ⟨some directory, old⟩ =
                  (.ok (), ⟨some staging, none⟩) := by
                simp only [installStaged, moveStaged, attempt, moveState,
                  moveStaging, dropPrevious, drop]
                rfl
              rw [ensures_of_run run]
              refine iff_of_true trivial fun _ => ⟨?_, ?_⟩
              · intro stranded
                cases stranded
              · intro _ dropped
                cases dropped

theorem failedReplace_holds_iff (staged : staging.files = archive.staged) :
    Ensures (replaceState faults staging)
        { state := some directory, previous := previous }
        (fun _ _ => True) (fun _ later => later.Holds directory) ↔
      ReplaceKeeps faults archive directory previous := by
  have lookup : ∀ path, staging.lookup path = archive.staged.lookup path := by
    intro path
    rw [StateDirectory.lookup, staged]
  unfold ReplaceKeeps
  simp only [← lookup]
  cases previous with
  | none =>
      have run : Ensures (replaceState faults staging)
          { state := some directory, previous := none }
          (fun _ _ => True) (fun _ later => later.Holds directory) ↔
          Ensures (installStaged faults staging)
            { state := some directory, previous := none }
            (fun _ _ => True) (fun _ later => later.Holds directory) := Iff.rfl
      rw [run, installStaged_holds_iff rfl]
      simp
  | some old =>
      cases clear : faults.clear with
      | some error =>
          have run : replaceState faults staging ⟨some directory, some old⟩ =
              (.error error, ⟨some directory, some old⟩) := by
            simp only [replaceState, attempt, clear]
            rfl
          rw [ensures_of_raise run]
          refine iff_of_true ⟨directory, rfl, fun _ => rfl⟩ fun cleared => ?_
          cases cleared rfl
      | none =>
          have run : replaceState faults staging ⟨some directory, some old⟩ =
              installStaged faults staging ⟨some directory, none⟩ := by
            simp only [replaceState, attempt, clear]
            rfl
          have same : ∀ onReturn onRaise,
              Ensures (replaceState faults staging)
                ⟨some directory, some old⟩ onReturn onRaise ↔
              Ensures (installStaged faults staging)
                ⟨some directory, none⟩ onReturn onRaise := by
            intro onReturn onRaise
            unfold Ensures
            rw [run]
          rw [same, installStaged_holds_iff rfl]
          simp

end Failed

/-- A failed import leaves the files of the state directory exactly when the
archive is refused, or no file is merged before an obstructed one, or the
replaced state is moved back or dropped. -/
theorem failedImport_holds_iff (host : Host) (key : Option String)
    (base root : List String) (faults : RestoreFaults)
    (archive : RestoreArchive) (directory : StateDirectory)
    (previous : Option StateDirectory) (replace : Bool) :
    (∀ error later,
      restoreArchive faults host key base root archive replace
          { state := some directory, previous := previous } =
        (.error error, later) → later.Holds directory) ↔
      (∃ error, extractArchive host key base archive = .error error) ∨
        (replace = true ∧ ReplaceKeeps faults archive directory previous ∨
          replace = false ∧ MergeKeeps faults archive directory) := by
  rw [← ensures_onRaise_iff]
  simp only [restoreArchive, ensures_bind]
  rw [ensures_lift]
  cases extracted : extractArchive host key base archive with
  | error error =>
      refine iff_of_true ⟨?_, ?_⟩ (.inl ⟨error, rfl⟩)
      · intro staging same
        cases same
      · intro _ _
        exact ⟨directory, rfl, fun _ => rfl⟩
  | ok staging =>
      have staged := (extractArchive_eq_ok extracted).staged
      cases replace with
      | true =>
          have replaced := @failedReplace_holds_iff faults archive directory
            staging previous staged
          simpa using replaced
      | false =>
          have merged := @failedMerge_holds_iff faults archive directory
            staging root previous staged
          simpa using merged

/-- A directory with the file `traces.jsonl`. -/
def tracedDirectory : StateDirectory :=
  StateDirectory.insert ∅ ["traces.jsonl"] [1] (by decide)

/-- A ledger, and other traces. -/
def tracedFiles : List (String × Bytes) :=
  [("ledger.jsonl", [3]), ("traces.jsonl", [2])]

def tracedTree : StateDirectory :=
  tracedDirectory.insert ["ledger.jsonl"] [3] (by decide)

theorem exists_extractArchive_traced :
    ∃ staging, extractArchive Host.counting none ["staging"]
      (archiveOf tracedFiles) = .ok staging := by
  refine @exists_extractArchive _ _ tracedTree tracedFiles ?_ (by decide)
    (by decide) (by decide) (by decide)
  intro file member
  simp only [tracedFiles, List.mem_cons, List.not_mem_nil, or_false] at member
  rcases member with rfl | rfl
  · exact ⟨validateArchiveName_eq_ok_iff.mpr (by decide), by decide⟩
  · exact ⟨validateArchiveName_eq_ok_iff.mpr (by decide), by decide⟩

theorem not_mergeKeeps_traced :
    ¬ MergeKeeps {} (archiveOf tracedFiles) tracedDirectory := by
  have sources : (archiveOf tracedFiles).sources =
      [(["ledger.jsonl"], [3]), (["traces.jsonl"], [2])] := by
    decide
  have first : obstructed {} tracedDirectory (["ledger.jsonl"], [3]) =
      false := by
    decide
  have second : obstructed {} tracedDirectory (["traces.jsonl"], [2]) =
      true := by
    decide +kernel
  intro keeps
  have there := keeps ⟨(["traces.jsonl"], [2]), by simp [sources], second⟩
    (["ledger.jsonl"], [3]) (by simp [sources, clearSources, first])
  revert there
  decide

/-- An import that fails at its second file leaves the first one. -/
theorem failedImport_writes :
    ∃ error later,
      restoreArchive {} Host.counting none ["staging"] ["state"]
          (archiveOf tracedFiles) false { state := some tracedDirectory } =
        (.error error, later) ∧ ¬ later.Holds tracedDirectory := by
  obtain ⟨staging, extracted⟩ := exists_extractArchive_traced
  have staged := (extractArchive_eq_ok extracted).staged
  have loses := (@failedMerge_holds_iff {} _ _ staging ["state"] none
    staged).not.mpr not_mergeKeeps_traced
  rw [ensures_onRaise_iff] at loses
  simp only [not_forall] at loses
  obtain ⟨error, later, run, lost⟩ := loses
  refine ⟨error, later, ?_, lost⟩
  have merged : restoreArchive {} Host.counting none ["staging"] ["state"]
      (archiveOf tracedFiles) false { state := some tracedDirectory } =
        mergeStaged {} ["state"] staging { state := some tracedDirectory } := by
    unfold restoreArchive
    rw [extracted]
    rfl
  rw [merged, run]

end Urp
