import Mathlib.Data.List.Forall2
import Mathlib.Logic.Basic
import Mathlib.Order.Defs.Unbundled

/-!
# Programs whose state survives a failure

A `Program` reads and updates a state and either returns a value or raises an
error; the state changes made before a raise stay.  `Ensures` is its weakest
precondition with one postcondition for each exit.  `Frames` says that a view
of the state is the same after every exit, and `Within` that the start and the
exit are related.
-/

/-- A lawful view of one part of a state. -/
structure Lens (σ τ : Type) where
  get : σ → τ
  set : σ → τ → σ
  get_set : ∀ s t, get (set s t) = t

def Program (σ ε α : Type) : Type := σ → Except ε α × σ

namespace Program

variable {σ τ ε α β γ : Type}

def ret (value : α) : Program σ ε α := fun s => (.ok value, s)

def andThen (first : Program σ ε α) (next : α → Program σ ε β) :
    Program σ ε β := fun s =>
  match first s with
  | (.ok value, later) => next value later
  | (.error error, later) => (.error error, later)

instance : Monad (Program σ ε) where
  pure := ret
  bind := andThen

def raise (error : ε) : Program σ ε α := fun s => (.error error, s)

def get : Program σ ε σ := fun s => (.ok s, s)

def modify (change : σ → σ) : Program σ ε Unit := fun s => (.ok (), change s)

/-- Run a pure computation that may fail. -/
def lift (result : Except ε α) : Program σ ε α := fun s => (result, s)

/-- Translate the errors that `handler` names; the others pass through. -/
def rethrow (body : Program σ ε α) (handler : ε → ε) : Program σ ε α :=
  fun s =>
    match body s with
    | (.ok value, later) => (.ok value, later)
    | (.error error, later) => (.error (handler error), later)

/-- Run a program on one part of the state. -/
def focus (lens : Lens σ τ) (body : Program τ ε α) : Program σ ε α := fun s =>
  match body (lens.get s) with
  | (result, part) => (result, lens.set s part)

/-- Run `body` on every element in order and collect the results. -/
def forEach (items : List α) (body : α → Program σ ε β) :
    Program σ ε (List β) :=
  match items with
  | [] => ret []
  | item :: rest => do
      let value ← body item
      let values ← forEach rest body
      ret (value :: values)

@[simp] theorem pure_eq_ret (value : α) :
    (pure value : Program σ ε α) = ret value := rfl

/-! ## Postconditions for both exits -/

/-- From `s`, every return satisfies `onReturn` and every raise `onRaise`. -/
def Ensures (body : Program σ ε α) (s : σ) (onReturn : α → σ → Prop)
    (onRaise : ε → σ → Prop) : Prop :=
  match body s with
  | (.ok value, later) => onReturn value later
  | (.error error, later) => onRaise error later

section Rules

variable {s : σ} {onReturn : α → σ → Prop} {onRaise : ε → σ → Prop}

@[simp] theorem ensures_ret {value : α} :
    Ensures (ret value) s onReturn onRaise ↔ onReturn value s := Iff.rfl

@[simp] theorem ensures_raise {error : ε} :
    Ensures (raise error : Program σ ε α) s onReturn onRaise ↔
      onRaise error s := Iff.rfl

@[simp] theorem ensures_get {onReturn : σ → σ → Prop} :
    Ensures (get : Program σ ε σ) s onReturn onRaise ↔ onReturn s s := Iff.rfl

@[simp] theorem ensures_modify {change : σ → σ} {onReturn : Unit → σ → Prop} :
    Ensures (modify change : Program σ ε Unit) s onReturn onRaise ↔
      onReturn () (change s) := Iff.rfl

theorem ensures_lift {result : Except ε α} :
    Ensures (lift result : Program σ ε α) s onReturn onRaise ↔
      (∀ value, result = .ok value → onReturn value s) ∧
        (∀ error, result = .error error → onRaise error s) := by
  cases result <;> simp [Ensures, lift]

@[simp] theorem ensures_bind {first : Program σ ε β}
    {next : β → Program σ ε α} :
    Ensures (first >>= next) s onReturn onRaise ↔
      Ensures first s (fun value later =>
        Ensures (next value) later onReturn onRaise) onRaise := by
  change Ensures (andThen first next) s onReturn onRaise ↔ _
  unfold Ensures andThen
  rcases first s with ⟨_ | _, later⟩ <;> rfl

theorem ensures_ite {condition : Prop} [Decidable condition]
    {yes no : Program σ ε α} :
    Ensures (if condition then yes else no) s onReturn onRaise ↔
      (condition → Ensures yes s onReturn onRaise) ∧
        (¬ condition → Ensures no s onReturn onRaise) := by
  by_cases holds : condition <;> simp [holds]

theorem ensures_focus {lens : Lens σ τ} {body : Program τ ε α} :
    Ensures (focus lens body) s onReturn onRaise ↔
      Ensures body (lens.get s)
        (fun value part => onReturn value (lens.set s part))
        (fun error part => onRaise error (lens.set s part)) := by
  unfold Ensures focus
  rcases body (lens.get s) with ⟨_ | _, later⟩ <;> rfl

theorem Ensures.mono {body : Program σ ε α}
    {weakReturn : α → σ → Prop} {weakRaise : ε → σ → Prop}
    (strong : Ensures body s onReturn onRaise)
    (returns : ∀ value later, onReturn value later → weakReturn value later)
    (raises : ∀ error later, onRaise error later → weakRaise error later) :
    Ensures body s weakReturn weakRaise := by
  unfold Ensures at strong ⊢
  rcases run : body s with ⟨_ | _, later⟩ <;> rw [run] at strong
  · exact raises _ _ strong
  · exact returns _ _ strong

theorem Ensures.and {body : Program σ ε α}
    {otherReturn : α → σ → Prop} {otherRaise : ε → σ → Prop}
    (left : Ensures body s onReturn onRaise)
    (right : Ensures body s otherReturn otherRaise) :
    Ensures body s (fun value later => onReturn value later ∧ otherReturn value later)
      (fun error later => onRaise error later ∧ otherRaise error later) := by
  unfold Ensures at left right ⊢
  rcases run : body s with ⟨_ | _, later⟩ <;> rw [run] at left right <;>
    exact ⟨left, right⟩

/-- Read a postcondition off a known returning run. -/
theorem Ensures.of_ok {body : Program σ ε α} {value : α} {later : σ}
    (holds : Ensures body s onReturn onRaise)
    (run : body s = (.ok value, later)) : onReturn value later := by
  unfold Ensures at holds
  rwa [run] at holds

theorem Ensures.of_fst_ok {body : Program σ ε α} {value : α}
    (holds : Ensures body s onReturn onRaise)
    (returned : (body s).1 = .ok value) : onReturn value (body s).2 :=
  holds.of_ok (Prod.ext returned rfl)

/-- Read a postcondition off a known raising run. -/
theorem Ensures.of_error {body : Program σ ε α} {error : ε} {later : σ}
    (holds : Ensures body s onReturn onRaise)
    (run : body s = (.error error, later)) : onRaise error later := by
  unfold Ensures at holds
  rwa [run] at holds

/-- The strongest postcondition of each exit. -/
theorem ensures_self (body : Program σ ε α) (s : σ) :
    Ensures body s (fun value later => body s = (.ok value, later))
      (fun error later => body s = (.error error, later)) := by
  unfold Ensures
  rcases body s with ⟨_ | _, later⟩ <;> rfl

/-- A known returning run decides every postcondition. -/
theorem ensures_of_run {body : Program σ ε α} {value : α} {later : σ}
    (run : body s = (.ok value, later)) :
    Ensures body s onReturn onRaise ↔ onReturn value later := by
  unfold Ensures
  rw [run]

/-- So does a known raising run. -/
theorem ensures_of_raise {body : Program σ ε α} {error : ε} {later : σ}
    (run : body s = (.error error, later)) :
    Ensures body s onReturn onRaise ↔ onRaise error later := by
  unfold Ensures
  rw [run]

/-- A postcondition of the raise alone. -/
theorem ensures_onRaise_iff {body : Program σ ε α} :
    Ensures body s (fun _ _ => True) onRaise ↔
      ∀ error later, body s = (.error error, later) → onRaise error later := by
  constructor
  · exact fun holds error later run => holds.of_error run
  · intro raised
    exact (ensures_self body s).mono (fun _ _ _ => trivial) raised

/-- A postcondition of both exits that speaks of the final state only. -/
theorem ensures_state_iff {body : Program σ ε α} {holds : σ → Prop} :
    Ensures body s (fun _ => holds) (fun _ => holds) ↔ holds (body s).2 := by
  unfold Ensures
  rcases body s with ⟨_ | _, later⟩ <;> rfl

end Rules

/-! ## Running a sequence -/

theorem bind_ok {first : Program σ ε α} {next : α → Program σ ε β}
    {s later : σ} {value : α} (run : first s = (.ok value, later)) :
    (first >>= next) s = next value later := by
  change andThen first next s = _
  simp [andThen, run]

theorem bind_error {first : Program σ ε α} {next : α → Program σ ε β}
    {s later : σ} {error : ε} (run : first s = (.error error, later)) :
    (first >>= next) s = (.error error, later) := by
  change andThen first next s = _
  simp [andThen, run]

theorem rethrow_ok {body : Program σ ε α} {s later : σ} {value : α}
    (run : body s = (.ok value, later)) (handler : ε → ε) :
    rethrow body handler s = (.ok value, later) := by
  simp [rethrow, run]

theorem rethrow_error {body : Program σ ε α} {s later : σ} {error : ε}
    (run : body s = (.error error, later)) (handler : ε → ε) :
    rethrow body handler s = (.error (handler error), later) := by
  unfold rethrow
  rw [run]

@[simp] theorem ret_bind (value : α) (next : α → Program σ ε β) :
    (ret value >>= next) = next value := rfl

@[simp] theorem lift_ok_bind (value : α) (next : α → Program σ ε β) :
    (lift (.ok value) >>= next) = next value := rfl

@[simp] theorem lift_error_bind (error : ε) (next : α → Program σ ε β) :
    (lift (.error error) >>= next) = raise error := rfl

@[simp] theorem raise_bind (error : ε) (next : α → Program σ ε β) :
    ((raise error : Program σ ε α) >>= next) = raise error := rfl

/-- A sequence that only wraps the value. -/
theorem bind_ret_run (first : Program σ ε α) (wrap : α → β) (s : σ) :
    (first >>= fun value => ret (wrap value)) s =
      ((first s).1.map wrap, (first s).2) := by
  change andThen first _ s = _
  unfold andThen
  rcases first s with ⟨_ | _, later⟩ <;> rfl

theorem get_bind (next : σ → Program σ ε β) (s : σ) :
    (get >>= next) s = next s s := rfl

theorem modify_bind (change : σ → σ) (next : Unit → Program σ ε β) (s : σ) :
    (modify change >>= next) s = next () (change s) := rfl

/-- The part's run inside a focused run. -/
theorem run_of_focus {lens : Lens σ τ} {body : Program τ ε α} {s later : σ}
    {result : Except ε α} (run : focus lens body s = (result, later)) :
    body (lens.get s) = (result, lens.get later) := by
  cases run
  rw [lens.get_set]

theorem focus_of_run {lens : Lens σ τ} {body : Program τ ε α} {s : σ}
    {result : Except ε α} {part : τ} (run : body (lens.get s) = (result, part)) :
    focus lens body s = (result, lens.set s part) := by
  unfold focus
  rw [run]

theorem focus_ret (lens : Lens σ τ) (value : α)
    (lawful : ∀ s, lens.set s (lens.get s) = s) :
    focus lens (ret value : Program τ ε α) = ret value := by
  funext s
  simp [focus, ret, lawful]

/-- A body that only returns makes `forEach` a map. -/
theorem forEach_ret {items : List α} {body : α → Program σ ε β}
    {value : α → β} (each : ∀ item ∈ items, body item = ret (value item)) :
    forEach items body = ret (items.map value) := by
  induction items with
  | nil => rfl
  | cons item rest ih =>
      rw [forEach, each item List.mem_cons_self,
        ih fun later member => each later (List.mem_cons_of_mem _ member)]
      rfl

/-- A pure sequence returns only through a return of its first part. -/
theorem except_bind_eq_ok_iff {first : Except ε α} {next : α → Except ε β}
    {result : β} :
    (first >>= next) = .ok result ↔
      ∃ value, first = .ok value ∧ next value = .ok result := by
  cases first with
  | error error =>
      constructor
      · intro run
        cases run
      · rintro ⟨value, ⟨⟩, -⟩
  | ok value =>
      constructor
      · intro run
        exact ⟨value, rfl, run⟩
      · rintro ⟨_, ⟨⟩, run⟩
        exact run

/-- Each result of a list is one of its items' results. -/
theorem exists_of_mem_mapM {f : α → Except ε β} {items : List α}
    {results : List β} (run : items.mapM f = .ok results) {result : β}
    (member : result ∈ results) : ∃ item ∈ items, f item = .ok result := by
  induction items generalizing results with
  | nil =>
      cases run
      cases member
  | cons item rest ih =>
      rw [List.mapM_cons] at run
      obtain ⟨head, first, run⟩ := except_bind_eq_ok_iff.mp run
      obtain ⟨tail, others, run⟩ := except_bind_eq_ok_iff.mp run
      cases run
      rcases List.mem_cons.mp member with rfl | later
      · exact ⟨item, List.mem_cons_self, first⟩
      · obtain ⟨other, otherMember, found⟩ := ih others later
        exact ⟨other, List.mem_cons_of_mem _ otherMember, found⟩

/-- Each item of a list has its result among the results. -/
theorem exists_mem_of_mapM {f : α → Except ε β} {items : List α}
    {results : List β} (run : items.mapM f = .ok results) {item : α}
    (member : item ∈ items) : ∃ result ∈ results, f item = .ok result := by
  induction items generalizing results with
  | nil => cases member
  | cons first rest ih =>
      rw [List.mapM_cons] at run
      obtain ⟨head, firstRun, run⟩ := except_bind_eq_ok_iff.mp run
      obtain ⟨tail, others, run⟩ := except_bind_eq_ok_iff.mp run
      cases run
      rcases List.mem_cons.mp member with rfl | later
      · exact ⟨head, List.mem_cons_self, firstRun⟩
      · obtain ⟨result, present, found⟩ := ih others later
        exact ⟨result, List.mem_cons_of_mem _ present, found⟩

/-- Items that are all accepted have their results in order. -/
theorem mapM_of_ok {f : α → Except ε β} {result : α → β} {items : List α}
    (each : ∀ item ∈ items, f item = .ok (result item)) :
    items.mapM f = .ok (items.map result) := by
  induction items with
  | nil => rfl
  | cons item rest ih =>
      rw [List.mapM_cons, each item List.mem_cons_self,
        ih fun other member => each other (List.mem_cons_of_mem _ member)]
      rfl

/-- The computation returns a value that passes the check. -/
def Passes (check : α → Bool) : Except ε α → Bool
  | .ok value => check value
  | .error _ => false

theorem exists_of_passes {check : α → Bool} {result : Except ε α}
    (passes : Passes check result = true) :
    ∃ value, result = .ok value ∧ check value = true := by
  cases result with
  | ok value => exact ⟨value, rfl, passes⟩
  | error error => cases passes

/-- A sequence returns only through a return of its first part. -/
theorem bind_eq_ok_iff {first : Program σ ε α} {next : α → Program σ ε β}
    {s final : σ} {result : β} :
    (first >>= next) s = (.ok result, final) ↔
      ∃ value later, first s = (.ok value, later) ∧
        next value later = (.ok result, final) := by
  change andThen first next s = _ ↔ _
  unfold andThen
  constructor
  · intro run
    rcases firstRun : first s with ⟨_ | value, later⟩ <;>
      rw [firstRun] at run
    · cases run
    · exact ⟨value, later, rfl, run⟩
  · rintro ⟨value, later, firstRun, run⟩
    rw [firstRun]
    exact run

theorem rethrow_eq_ok_iff {body : Program σ ε α} {handler : ε → ε}
    {s final : σ} {result : α} :
    rethrow body handler s = (.ok result, final) ↔
      body s = (.ok result, final) := by
  unfold rethrow
  rcases run : body s with ⟨error | value, later⟩ <;> simp

theorem focus_eq_ok_iff {lens : Lens σ τ} {body : Program τ ε α}
    {s final : σ} {result : α} :
    focus lens body s = (.ok result, final) ↔
      ∃ part, body (lens.get s) = (.ok result, part) ∧
        final = lens.set s part := by
  constructor
  · intro run
    rcases inner : body (lens.get s) with ⟨value, part⟩
    rw [focus_of_run inner] at run
    cases run
    exact ⟨part, rfl, rfl⟩
  · rintro ⟨part, run, rfl⟩
    exact focus_of_run run

/-- A sequence of items returns only if the body returns on each. -/
theorem forEach_returns {items : List α} {body : α → Program σ ε β} {s : σ}
    {values : List β} {final : σ}
    (run : forEach items body s = (.ok values, final)) {item : α}
    (member : item ∈ items) :
    ∃ before value later, body item before = (.ok value, later) := by
  induction items generalizing s values with
  | nil => cases member
  | cons first rest ih =>
      obtain ⟨value, later, head, tail⟩ := bind_eq_ok_iff.mp run
      obtain ⟨others, last, restRun, ended⟩ := bind_eq_ok_iff.mp tail
      cases ended
      rcases List.mem_cons.mp member with rfl | inside
      · exact ⟨s, value, later, head⟩
      · exact ih restRun inside

/-- The values of a sequence that returns, each as its body leaves it. -/
theorem forEach_returned {items : List α} {body : α → Program σ ε β} {s : σ}
    {holds : α → β → Prop}
    (each : ∀ item before value later,
      body item before = (.ok value, later) → holds item value)
    {values : List β} {final : σ}
    (run : forEach items body s = (.ok values, final)) :
    List.Forall₂ holds items values := by
  induction items generalizing s values with
  | nil =>
      cases run
      exact .nil
  | cons first rest ih =>
      obtain ⟨value, later, head, tail⟩ := bind_eq_ok_iff.mp run
      obtain ⟨others, last, restRun, ended⟩ := bind_eq_ok_iff.mp tail
      cases ended
      exact .cons (each _ _ _ _ head) (ih restRun)

/-- A body that returns only in the state it started in, with a value that the
item determines. -/
theorem forEach_eq_ok_iff {items : List α} {body : α → Program σ ε β} {s : σ}
    {holds : α → β → Prop}
    (each : ∀ item value later,
      body item s = (.ok value, later) ↔ later = s ∧ holds item value)
    {values : List β} {final : σ} :
    forEach items body s = (.ok values, final) ↔
      final = s ∧ List.Forall₂ holds items values := by
  induction items generalizing values final with
  | nil =>
      constructor
      · intro run
        cases run
        exact ⟨rfl, .nil⟩
      · rintro ⟨rfl, all⟩
        cases all
        rfl
  | cons item rest ih =>
      rw [forEach, bind_eq_ok_iff]
      constructor
      · rintro ⟨value, later, first, run⟩
        obtain ⟨rfl, held⟩ := (each _ _ _).mp first
        obtain ⟨others, last, restRun, ended⟩ := bind_eq_ok_iff.mp run
        obtain ⟨rfl, all⟩ := ih.mp restRun
        cases ended
        exact ⟨rfl, .cons held all⟩
      · rintro ⟨rfl, all⟩
        cases all with
        | cons held all =>
            exact ⟨_, _, (each _ _ _).mpr ⟨rfl, held⟩,
              bind_eq_ok_iff.mpr ⟨_, _, ih.mpr ⟨rfl, all⟩, rfl⟩⟩

/-! ## Runs that return -/

/-- From `s` the body returns with this postcondition. -/
def Returns (body : Program σ ε α) (s : σ) (onReturn : α → σ → Prop) : Prop :=
  ∃ value later, body s = (.ok value, later) ∧ onReturn value later

section Returns

variable {s : σ} {onReturn : α → σ → Prop}

/-- A body that cannot raise returns. -/
theorem Ensures.returns {body : Program σ ε α}
    (holds : Ensures body s onReturn fun _ _ => False) :
    Returns body s onReturn := by
  unfold Ensures at holds
  rcases run : body s with ⟨_ | value, later⟩ <;> rw [run] at holds
  · exact holds.elim
  · exact ⟨value, later, run, holds⟩

theorem returns_ret {value : α} (holds : onReturn value s) :
    Returns (ret value : Program σ ε α) s onReturn :=
  ⟨value, s, rfl, holds⟩

theorem returns_get_bind {next : σ → Program σ ε α} :
    Returns (get >>= next) s onReturn ↔ Returns (next s) s onReturn := Iff.rfl

theorem Returns.mono {body : Program σ ε α} {weak : α → σ → Prop}
    (strong : Returns body s onReturn)
    (weaker : ∀ value later, onReturn value later → weak value later) :
    Returns body s weak := by
  obtain ⟨value, later, run, holds⟩ := strong
  exact ⟨value, later, run, weaker value later holds⟩

/-- A body that runs as another one returns as it does. -/
theorem Returns.of_run {body other : Program σ ε α} {start : σ}
    (holds : Returns other start onReturn) (same : body s = other start) :
    Returns body s onReturn := by
  obtain ⟨value, later, run, done⟩ := holds
  exact ⟨value, later, same.trans run, done⟩

theorem Returns.bind {first : Program σ ε β} {next : β → Program σ ε α}
    {middle : β → σ → Prop} (head : Returns first s middle)
    (tail : ∀ value later, middle value later →
      Returns (next value) later onReturn) :
    Returns (first >>= next) s onReturn := by
  obtain ⟨value, later, run, holds⟩ := head
  obtain ⟨result, final, rest, done⟩ := tail value later holds
  exact ⟨result, final, (bind_ok run).trans rest, done⟩

theorem Returns.focus {lens : Lens σ τ} {body : Program τ ε α}
    {inner : α → τ → Prop} (holds : Returns body (lens.get s) inner) :
    Returns (focus lens body) s fun value later =>
      ∃ part, inner value part ∧ later = lens.set s part := by
  obtain ⟨value, part, run, done⟩ := holds
  refine ⟨value, lens.set s part, ?_, part, done, rfl⟩
  unfold Program.focus
  rw [run]

/-- A body that returns on each item from any state returns on all. -/
theorem returns_forEach {items : List α} {body : α → Program σ ε β}
    {holds : α → β → Prop}
    (each : ∀ item ∈ items, ∀ s, Returns (body item) s fun value _ =>
      holds item value) (s : σ) :
    Returns (forEach items body) s fun values _ =>
      List.Forall₂ holds items values := by
  induction items generalizing s with
  | nil => exact returns_ret .nil
  | cons item rest ih =>
      apply (each item List.mem_cons_self s).bind
      intro value later held
      have others := ih fun other member =>
        each other (List.mem_cons_of_mem _ member)
      apply (others later).bind
      intro values final all
      exact returns_ret (.cons held all)

end Returns

/-! ## Frames -/

/-- The view `project` is the same after every exit. -/
def Frames (project : σ → γ) (body : Program σ ε α) : Prop :=
  ∀ s, project (body s).2 = project s

section Frames

variable {project : σ → γ}

theorem frames_ret (value : α) :
    Frames project (ret value : Program σ ε α) := fun _ => rfl

theorem frames_raise (error : ε) :
    Frames project (raise error : Program σ ε α) := fun _ => rfl

theorem frames_get : Frames project (get : Program σ ε σ) := fun _ => rfl

theorem frames_lift (result : Except ε α) :
    Frames project (lift result : Program σ ε α) := fun _ => rfl

theorem frames_modify {change : σ → σ}
    (same : ∀ s, project (change s) = project s) :
    Frames project (modify change : Program σ ε Unit) := same

theorem frames_bind {first : Program σ ε α} {next : α → Program σ ε β}
    (head : Frames project first)
    (tail : ∀ value, Frames project (next value)) :
    Frames project (first >>= next) := by
  intro s
  have headSame := head s
  change project (andThen first next s).2 = project s
  unfold andThen
  cases run : first s with
  | mk result later =>
      rw [run] at headSame
      cases result with
      | ok value => exact (tail value later).trans headSame
      | error error => exact headSame

theorem frames_ite {condition : Prop} [Decidable condition]
    {yes no : Program σ ε α} (left : Frames project yes)
    (right : Frames project no) :
    Frames project (if condition then yes else no) := by
  split
  · exact left
  · exact right

theorem frames_rethrow {body : Program σ ε α} {handler : ε → ε}
    (inner : Frames project body) : Frames project (rethrow body handler) := by
  intro s
  have same := inner s
  unfold rethrow
  rcases run : body s with ⟨_ | _, later⟩ <;> simpa [run] using same

theorem frames_focus {lens : Lens σ τ} {body : Program τ ε α}
    (outside : ∀ s part, project (lens.set s part) = project s) :
    Frames project (focus lens body) := fun _ => outside _ _

theorem frames_forEach {items : List α} {body : α → Program σ ε β}
    (each : ∀ item, Frames project (body item)) :
    Frames project (forEach items body) := by
  induction items with
  | nil => exact frames_ret []
  | cons item rest ih =>
      exact frames_bind (each item) fun value =>
        frames_bind ih fun values => frames_ret (value :: values)

theorem Frames.of_run {body : Program σ ε α} (framed : Frames project body)
    {s later : σ} {result : Except ε α} (run : body s = (result, later)) :
    project later = project s := by
  have same := framed s
  rwa [run] at same

/-- A framed view may be read before or after. -/
theorem Frames.ensures {body : Program σ ε α} (framed : Frames project body)
    (s : σ) :
    Ensures body s (fun _ later => project later = project s)
      (fun _ later => project later = project s) :=
  ensures_state_iff.mpr (framed s)

/-- A body that changes nothing is known by its result. -/
theorem Frames.ensures_run {body : Program σ ε α}
    (framed : Frames (fun s => s) body) (s : σ) :
    Ensures body s (fun value later => later = s ∧ body s = (.ok value, s))
      (fun error later => later = s ∧ body s = (.error error, s)) := by
  have same := framed s
  unfold Ensures
  rcases run : body s with ⟨_ | _, later⟩ <;> rw [run] at same <;>
    simp only at same ⊢ <;> subst same <;> exact ⟨rfl, rfl⟩

end Frames

/-! ## Related exits -/

/-- Every exit is related to the start. -/
def Within (rel : σ → σ → Prop) (body : Program σ ε α) : Prop :=
  ∀ s, rel s (body s).2

theorem within_modify {rel : σ → σ → Prop} {change : σ → σ}
    (each : ∀ s, rel s (change s)) :
    Within rel (modify change : Program σ ε Unit) := each

theorem within_ite {rel : σ → σ → Prop} {condition : Prop}
    [Decidable condition] {yes no : Program σ ε α} (left : Within rel yes)
    (right : Within rel no) :
    Within rel (if condition then yes else no) := by
  split
  · exact left
  · exact right

theorem within_rethrow {rel : σ → σ → Prop} {body : Program σ ε α}
    {handler : ε → ε} (inner : Within rel body) :
    Within rel (rethrow body handler) := by
  intro s
  have related := inner s
  unfold rethrow
  rcases run : body s with ⟨_ | _, later⟩ <;> simpa [run] using related

theorem within_focus {rel : σ → σ → Prop} {part : τ → τ → Prop}
    {lens : Lens σ τ} {body : Program τ ε α} (inner : Within part body)
    (outer : ∀ s t, part (lens.get s) t → rel s (lens.set s t)) :
    Within rel (focus lens body) := fun s => outer s _ (inner (lens.get s))

theorem Within.ensures {rel : σ → σ → Prop} {body : Program σ ε α}
    (within : Within rel body) (s : σ) :
    Ensures body s (fun _ later => rel s later) (fun _ later => rel s later) :=
  ensures_state_iff.mpr (within s)

theorem Within.of_run {rel : σ → σ → Prop} {body : Program σ ε α}
    (within : Within rel body) {s later : σ} {result : Except ε α}
    (run : body s = (result, later)) : rel s later := by
  have related := within s
  rwa [run] at related

section Preorder

variable {rel : σ → σ → Prop} [IsPreorder σ rel]

theorem within_ret (value : α) : Within rel (ret value : Program σ ε α) :=
  refl_of rel

theorem within_raise (error : ε) : Within rel (raise error : Program σ ε α) :=
  refl_of rel

theorem within_get : Within rel (get : Program σ ε σ) := refl_of rel

theorem within_lift (result : Except ε α) :
    Within rel (lift result : Program σ ε α) := refl_of rel

theorem within_bind {first : Program σ ε α} {next : α → Program σ ε β}
    (head : Within rel first) (tail : ∀ value, Within rel (next value)) :
    Within rel (first >>= next) := by
  intro s
  have middle := head s
  change rel s (andThen first next s).2
  unfold andThen
  cases run : first s with
  | mk result later =>
      rw [run] at middle
      cases result with
      | ok value => exact trans_of rel middle (tail value later)
      | error error => exact middle

theorem within_forEach {items : List α} {body : α → Program σ ε β}
    (each : ∀ item, Within rel (body item)) :
    Within rel (forEach items body) := by
  induction items with
  | nil => exact within_ret []
  | cons item rest ih =>
      apply within_bind (each item)
      intro value
      apply within_bind ih
      intro values
      exact within_ret _

end Preorder

/-! ## Raised errors -/

/-- Whatever the body raises is allowed. -/
def Raises (allowed : ε → Prop) (body : Program σ ε α) : Prop :=
  ∀ s, Ensures body s (fun _ _ => True) fun error _ => allowed error

section Raises

variable {allowed : ε → Prop}

theorem raises_ret (value : α) :
    Raises allowed (ret value : Program σ ε α) := fun _ => trivial

theorem raises_get : Raises allowed (get : Program σ ε σ) := fun _ => trivial

theorem raises_modify (change : σ → σ) :
    Raises allowed (modify change : Program σ ε Unit) := fun _ => trivial

theorem raises_raise {error : ε} (ok : allowed error) :
    Raises allowed (raise error : Program σ ε α) := fun _ => ok

theorem raises_lift {result : Except ε α}
    (ok : ∀ error, result = .error error → allowed error) :
    Raises allowed (lift result : Program σ ε α) := fun _ =>
  ensures_lift.mpr ⟨fun _ _ => trivial, ok⟩

theorem raises_bind {first : Program σ ε α} {next : α → Program σ ε β}
    (head : Raises allowed first) (tail : ∀ value, Raises allowed (next value)) :
    Raises allowed (first >>= next) := fun s =>
  ensures_bind.mpr ((head s).mono (fun value later _ => tail value later)
    fun _ _ ok => ok)

theorem raises_ite {condition : Prop} [Decidable condition]
    {yes no : Program σ ε α} (left : Raises allowed yes)
    (right : Raises allowed no) :
    Raises allowed (if condition then yes else no) := by
  split
  · exact left
  · exact right

theorem raises_focus {lens : Lens σ τ} {body : Program τ ε α}
    (inner : Raises allowed body) : Raises allowed (focus lens body) := fun s =>
  ensures_focus.mpr (inner (lens.get s))

end Raises

end Program
