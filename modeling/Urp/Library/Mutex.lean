import Mathlib.Data.List.Induction
import Mathlib.Logic.Function.Basic
import Mathlib.Logic.Relation
import Urp.Library.Run

/-!
# Transactions under one lock

Any number of writers run transactions of a state machine on shared state.  A
transaction acquires the lock, loads the state, and later stores the state it
computed from what it loaded.  The steps of different writers interleave
freely; whatever the order, the shared state is the one that the finished
transactions reach when they run one after another.
-/

namespace Mutex

variable {σ ι ο ω : Type}

/-- Where a writer is in its transaction. -/
inductive Phase (σ ι : Type) where
  | idle
  | holding (job : ι)
  | loaded (job : ι) (snapshot : σ)

structure System (σ ι ο ω : Type) where
  shared : σ
  holder : Option ω
  phase : ω → Phase σ ι
  /-- The finished transactions in the order of their stores. -/
  finished : List (ι × ο)

def System.start (s : σ) : System σ ι ο ω where
  shared := s
  holder := none
  phase _ := .idle
  finished := []

namespace System

variable (system : System σ ι ο ω)

def jobs : List ι := system.finished.map Prod.fst

variable [DecidableEq ω]

def acquire (writer : ω) (job : ι) : System σ ι ο ω :=
  { system with
    holder := some writer
    phase := Function.update system.phase writer (.holding job) }

def load (writer : ω) (job : ι) : System σ ι ο ω :=
  { system with
    phase := Function.update system.phase writer (.loaded job system.shared) }

def store (writer : ω) (job : ι) (result : ο × σ) : System σ ι ο ω where
  shared := result.2
  holder := none
  phase := Function.update system.phase writer .idle
  finished := system.finished ++ [(job, result.1)]

end System

variable [DecidableEq ω]

inductive Step (step : σ → ι → ο × σ) :
    System σ ι ο ω → System σ ι ο ω → Prop where
  | acquire (system : System σ ι ο ω) (writer : ω) (job : ι) :
      system.holder = none → system.phase writer = .idle →
      Step step system (system.acquire writer job)
  | load (system : System σ ι ο ω) (writer : ω) (job : ι) :
      system.phase writer = .holding job →
      Step step system (system.load writer job)
  | store (system : System σ ι ο ω) (writer : ω) (job : ι) (snapshot : σ) :
      system.phase writer = .loaded job snapshot →
      Step step system (system.store writer job (step snapshot job))

/-- Reached from `s` by steps of any writers in any order. -/
def Reachable (step : σ → ι → ο × σ) (s : σ) (system : System σ ι ο ω) : Prop :=
  Relation.ReflTransGen (Step step) (System.start s) system

/-- The finished transactions ran one after another, only the holder is in a
transaction, and what it loaded is current. -/
structure Serial (step : σ → ι → ο × σ) (s : σ) (system : System σ ι ο ω) :
    Prop where
  shared : system.shared = Run.final step s system.jobs
  outputs : system.finished =
    (Run.visits step s system.jobs).map fun v => (v.input, v.output)
  exclusive : ∀ writer, system.phase writer ≠ .idle →
    system.holder = some writer
  current : ∀ writer job snapshot,
    system.phase writer = .loaded job snapshot → snapshot = system.shared

variable {step : σ → ι → ο × σ} {s : σ} {before after : System σ ι ο ω}

omit [DecidableEq ω] in
theorem serial_start (step : σ → ι → ο × σ) (s : σ) :
    Serial step s (System.start s : System σ ι ο ω) := by
  constructor
  · rfl
  · rfl
  · intro writer busy
    exact absurd rfl busy
  · intro writer job snapshot loaded
    cases loaded

theorem Serial.acquire (serial : Serial step s before) {writer : ω} {job : ι}
    (free : before.holder = none) :
    Serial step s (before.acquire writer job) := by
  have allIdle : ∀ other, before.phase other = .idle := by
    intro other
    by_contra busy
    have held := serial.exclusive other busy
    rw [free] at held
    cases held
  constructor
  · exact serial.shared
  · exact serial.outputs
  · intro other busy
    by_cases same : other = writer
    · subst same
      rfl
    · simp [System.acquire, same, allIdle] at busy
  · intro other otherJob snapshot loaded
    by_cases same : other = writer
    · subst same
      simp [System.acquire] at loaded
    · simp [System.acquire, same, allIdle] at loaded

theorem Serial.load (serial : Serial step s before) {writer : ω} {job : ι}
    (holding : before.phase writer = .holding job) :
    Serial step s (before.load writer job) := by
  have held : before.holder = some writer :=
    serial.exclusive writer (by simp [holding])
  constructor
  · exact serial.shared
  · exact serial.outputs
  · intro other busy
    by_cases same : other = writer
    · subst same
      exact held
    · exact serial.exclusive other (by simpa [System.load, same] using busy)
  · intro other otherJob snapshot loaded
    by_cases same : other = writer
    · subst same
      simp only [System.load, Function.update_self, Phase.loaded.injEq]
        at loaded
      exact loaded.2.symm
    · exact serial.current other otherJob snapshot
        (by simpa [System.load, same] using loaded)

theorem Serial.store (serial : Serial step s before) {writer : ω} {job : ι}
    {snapshot : σ} (loaded : before.phase writer = .loaded job snapshot) :
    Serial step s (before.store writer job (step snapshot job)) := by
  have held : before.holder = some writer :=
    serial.exclusive writer (by simp [loaded])
  have current := serial.current writer job snapshot loaded
  subst current
  have othersIdle : ∀ other, other ≠ writer → before.phase other = .idle := by
    intro other different
    by_contra busy
    have otherHeld := serial.exclusive other busy
    rw [held] at otherHeld
    exact different (Option.some.inj otherHeld).symm
  have jobs : (before.store writer job (step before.shared job)).jobs =
      before.jobs ++ [job] := by
    simp [System.store, System.jobs]
  constructor
  · rw [jobs, Run.final_append, ← serial.shared]
    rfl
  · rw [jobs, Run.visits_append, ← serial.shared, List.map_append,
      ← serial.outputs]
    rfl
  · intro other busy
    by_cases same : other = writer
    · subst same
      simp [System.store] at busy
    · simp [System.store, same, othersIdle other same] at busy
  · intro other otherJob otherSnapshot otherLoaded
    by_cases same : other = writer
    · subst same
      simp [System.store] at otherLoaded
    · simp [System.store, same, othersIdle other same] at otherLoaded

/-- Every interleaving is serial. -/
theorem serial_of_reachable (reachable : Reachable step s after) :
    Serial step s after := by
  induction reachable with
  | refl => exact serial_start step s
  | tail _ last serial =>
      cases last with
      | acquire writer job free _ => exact serial.acquire free
      | load writer job holding => exact serial.load holding
      | store writer job snapshot loaded => exact serial.store loaded

/-- One writer alone can run any transactions one after another. -/
theorem exists_reachable (step : σ → ι → ο × σ) (s : σ) (writer : ω)
    (jobs : List ι) :
    ∃ system : System σ ι ο ω, Reachable step s system ∧ system.jobs = jobs := by
  have quiet : ∃ system : System σ ι ο ω, Reachable step s system ∧
      system.jobs = jobs ∧ system.holder = none ∧
        system.phase writer = .idle := by
    induction jobs using List.reverseRecOn with
    | nil => exact ⟨System.start s, .refl, rfl, rfl, rfl⟩
    | append_singleton early job ih =>
        obtain ⟨system, reachable, jobs, free, idle⟩ := ih
        have acquired := reachable.tail (Step.acquire system writer job free idle)
        have loaded := acquired.tail (Step.load _ writer job
          (Function.update_self ..))
        have stored := loaded.tail (Step.store _ writer job system.shared
          (Function.update_self ..))
        refine ⟨_, stored, ?_, rfl, Function.update_self ..⟩
        simp [System.jobs, System.store, System.load, System.acquire, ← jobs]
  obtain ⟨system, reachable, same, -⟩ := quiet
  exact ⟨system, reachable, same⟩

end Mutex
