import Urp.Library.Program

/-!
# Programs that ignore a part of their state

A program ignores a change of its state when it runs alike with and without
it and passes it on: the same result, and the same final state but for the
change.
-/

namespace Program

variable {σ τ ε α β : Type}

def Ignores (change : σ → σ) (body : Program σ ε α) : Prop :=
  ∀ s, body (change s) = ((body s).1, change (body s).2)

variable {change : σ → σ}

theorem ignores_ret (value : α) :
    Ignores change (ret value : Program σ ε α) := fun _ => rfl

theorem ignores_raise (error : ε) :
    Ignores change (raise error : Program σ ε α) := fun _ => rfl

theorem ignores_lift (result : Except ε α) :
    Ignores change (lift result : Program σ ε α) := fun _ => rfl

theorem ignores_modify {update : σ → σ}
    (commutes : ∀ s, update (change s) = change (update s)) :
    Ignores change (modify update : Program σ ε Unit) :=
  fun s => congrArg (Prod.mk (Except.ok ())) (commutes s)

theorem ignores_bind {first : Program σ ε β} {next : β → Program σ ε α}
    (head : Ignores change first)
    (tail : ∀ s value later, first s = (.ok value, later) →
      Ignores change (next value)) :
    Ignores change (first >>= next) := by
  intro s
  have early := head s
  rcases run : first s with ⟨error | value, later⟩ <;> rw [run] at early
  · rw [bind_error early, bind_error run]
  · rw [bind_ok early, bind_ok run]
    exact tail s value later run later

theorem ignores_ite {condition : Prop} [Decidable condition]
    {yes no : Program σ ε α} (first : Ignores change yes)
    (second : Ignores change no) :
    Ignores change (if condition then yes else no) := by
  split
  · exact first
  · exact second

/-- A program on a part that the change leaves alone. -/
theorem ignores_focus {lens : Lens σ τ} {body : Program τ ε α}
    (kept : ∀ s, lens.get (change s) = lens.get s)
    (commutes : ∀ s part,
      lens.set (change s) part = change (lens.set s part)) :
    Ignores change (focus lens body) := by
  intro s
  unfold focus
  rw [kept s]
  rcases body (lens.get s) with ⟨result, part⟩
  exact congrArg (Prod.mk result) (commutes s part)

/-! ## Whether a program returns -/

/-- Both return or both raise, wherever each of them starts. -/
def ReturnAlike (body : Program σ ε α) (other : Program σ ε β) : Prop :=
  ∀ s t, (body s).1.isOk = (other t).1.isOk

variable {γ δ : Type}

theorem returnAlike_ret (value : α) (other : β) :
    ReturnAlike (ret value : Program σ ε α) (ret other) := fun _ _ => rfl

theorem returnAlike_raise (error other : ε) :
    ReturnAlike (raise error : Program σ ε α)
      (raise other : Program σ ε β) := fun _ _ => rfl

theorem returnAlike_bind {first : Program σ ε α} {second : Program σ ε β}
    {next : α → Program σ ε γ} {other : β → Program σ ε δ}
    (head : ReturnAlike first second)
    (tail : ∀ value result, ReturnAlike (next value) (other result)) :
    ReturnAlike (first >>= next) (second >>= other) := by
  intro s t
  have alike := head s t
  rcases left : first s with ⟨error | value, later⟩ <;>
    rcases right : second t with ⟨reason | result, after⟩ <;>
    rw [left, right] at alike
  · rw [bind_error left, bind_error right]
    rfl
  · cases alike
  · cases alike
  · rw [bind_ok left, bind_ok right]
    exact tail value result later after

/-- The same pure result goes into both. -/
theorem returnAlike_lift_bind {result : Except ε γ}
    {next : γ → Program σ ε α} {other : γ → Program σ ε β}
    (alike : ∀ value, ReturnAlike (next value) (other value)) :
    ReturnAlike (lift result >>= next) (lift result >>= other) := by
  intro s t
  cases result with
  | error error => rfl
  | ok value => exact alike value s t

theorem returnAlike_focus {lens : Lens σ τ} {body : Program τ ε α}
    {other : Program τ ε β} (inner : ReturnAlike body other) :
    ReturnAlike (focus lens body) (focus lens other) := by
  intro s t
  exact inner (lens.get s) (lens.get t)

end Program
