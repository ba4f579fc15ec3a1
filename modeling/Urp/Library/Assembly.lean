import Mathlib.Data.List.Induction
import Urp.Library.Dict

/-!
# A target assembled from parts

A target is created, takes parts under keys, a later part replacing an
earlier one of its key, and is finished by one of several owners.  An owner
first claims it, which closes it to new parts, and then either releases it
again, or stores what it assembled against a receipt, clears the parts and
finishes.  `Step` is the protocol; `Leads.tells` says what each life tells
about the events before it.
-/

namespace Assembly

variable {τ κ β ι ω : Type}

inductive Event (τ κ β ι ω : Type) where
  | create (target : τ)
  | accept (key : κ) (part : β)
  | claim (owner : ι)
  | release (owner : ι)
  | store (owner : ι) (receipt : ω)
  | clear (owner : ι)
  | finish (owner : ι)
  | abandon

inductive Life (τ κ β ι ω : Type) where
  | absent
  | opened (target : τ) (parts : Dict κ β)
  | claimed (owner : ι) (target : τ) (parts : Dict κ β)
  | stored (owner : ι) (receipt : ω) (target : τ) (parts : Dict κ β)
  | cleared (owner : ι) (receipt : ω) (target : τ) (parts : Dict κ β)
  | closed

def Life.target : Life τ κ β ι ω → Option τ
  | .opened target _ => some target
  | .claimed _ target _ => some target
  | .stored _ _ target _ => some target
  | .cleared _ _ target _ => some target
  | _ => none

/-- Who may act on the target alone. -/
def Life.owner : Life τ κ β ι ω → Option ι
  | .claimed owner _ _ => some owner
  | .stored owner _ _ _ => some owner
  | .cleared owner _ _ _ => some owner
  | _ => none

def Event.owner : Event τ κ β ι ω → Option ι
  | .release owner => some owner
  | .store owner _ => some owner
  | .clear owner => some owner
  | .finish owner => some owner
  | _ => none

/-- The parts that were accepted, in order. -/
def accepted (trace : List (Event τ κ β ι ω)) : List (κ × β) :=
  trace.filterMap fun
    | .accept key part => some (key, part)
    | _ => none

theorem accepted_append (early late : List (Event τ κ β ι ω)) :
    accepted (early ++ late) = accepted early ++ accepted late :=
  List.filterMap_append

variable [DecidableEq κ]

/-! ## The protocol -/

inductive Step : Life τ κ β ι ω → Event τ κ β ι ω → Life τ κ β ι ω → Prop where
  | create (target : τ) : Step .absent (.create target) (.opened target ∅)
  | accept (target : τ) (parts : Dict κ β) (key : κ) (part : β) :
      Step (.opened target parts) (.accept key part)
        (.opened target (parts.insert key part))
  | claim (target : τ) (parts : Dict κ β) (owner : ι) :
      Step (.opened target parts) (.claim owner) (.claimed owner target parts)
  | release (target : τ) (parts : Dict κ β) (owner : ι) :
      Step (.claimed owner target parts) (.release owner)
        (.opened target parts)
  | store (target : τ) (parts : Dict κ β) (owner : ι) (receipt : ω) :
      Step (.claimed owner target parts) (.store owner receipt)
        (.stored owner receipt target parts)
  | clear (target : τ) (parts : Dict κ β) (owner : ι) (receipt : ω) :
      Step (.stored owner receipt target parts) (.clear owner)
        (.cleared owner receipt target parts)
  | finish (target : τ) (parts : Dict κ β) (owner : ι) (receipt : ω) :
      Step (.cleared owner receipt target parts) (.finish owner) .closed
  | abandon (target : τ) (parts : Dict κ β) :
      Step (.opened target parts) .abandon .closed

/-- The events may happen in this order, and lead to this life. -/
inductive Leads : List (Event τ κ β ι ω) → Life τ κ β ι ω → Prop where
  | start : Leads [] .absent
  | step {trace : List (Event τ κ β ι ω)} {event : Event τ κ β ι ω}
      {life later : Life τ κ β ι ω} :
      Leads trace life → Step life event later → Leads (trace ++ [event]) later

variable {trace past early between rest : List (Event τ κ β ι ω)}
variable {event : Event τ κ β ι ω} {life later : Life τ κ β ι ω}
variable {owner : ι} {receipt : ω} {target : τ} {parts : Dict κ β}

/-- While a target has an owner every event is the owner's. -/
theorem Step.owner_eq (happens : Step life event later)
    (owned : life.owner = some owner) : event.owner = some owner := by
  cases happens with
  | create => cases owned
  | accept => cases owned
  | claim => cases owned
  | release => exact owned
  | store => exact owned
  | clear => exact owned
  | finish => exact owned
  | abandon => cases owned

/-- An event of a trace is a step, and if it is not the last then another
event may follow it. -/
theorem leads_split (leads : Leads (past ++ event :: rest) life) :
    ∃ before after, Leads past before ∧ Step before event after ∧
      (rest = [] ∧ after = life ∨ ∃ next later, Step after next later) := by
  induction rest using List.reverseRecOn generalizing life with
  | nil =>
      generalize whole : past ++ [event] = all at leads
      cases leads with
      | start => simp at whole
      | step leads happens =>
          obtain ⟨rfl, same⟩ := List.append_inj' whole rfl
          cases same
          exact ⟨_, _, leads, happens, .inl ⟨rfl, rfl⟩⟩
  | append_singleton rest last ih =>
      rw [← List.cons_append, ← List.append_assoc] at leads
      generalize whole : past ++ event :: rest ++ [last] = all at leads
      cases leads with
      | start => simp at whole
      | step leads happens =>
          obtain ⟨rfl, same⟩ := List.append_inj' whole rfl
          obtain ⟨before, after, first, now, others⟩ := ih leads
          refine ⟨before, after, first, now, .inr ?_⟩
          rcases others with ⟨-, rfl⟩ | others
          · exact ⟨_, _, happens⟩
          · exact others

/-! ## What a life says about the events before it -/

/-- The target was created and has the parts that were accepted. -/
structure Opened (trace : List (Event τ κ β ι ω)) (target : τ)
    (parts : Dict κ β) : Prop where
  created : .create target ∈ trace
  parts : parts = Dict.ofList (accepted trace)

/-- The owner claimed the target as it then was, and no part was accepted
since. -/
structure Claimed (trace : List (Event τ κ β ι ω)) (owner : ι) (target : τ)
    (parts : Dict κ β) (early between : List (Event τ κ β ι ω)) : Prop where
  split : trace = early ++ .claim owner :: between
  opened : Opened early target parts
  unchanged : accepted between = []

theorem Opened.accept (opened : Opened trace target parts) (key : κ)
    (part : β) :
    Opened (trace ++ [.accept key part]) target (parts.insert key part) where
  created := List.mem_append_left _ opened.created
  parts := by
    have appended : accepted (trace ++ [.accept key part]) =
        accepted trace ++ [(key, part)] := accepted_append _ _
    rw [appended, opened.parts]
    unfold Dict.ofList
    rw [List.foldl_append]
    rfl

theorem Claimed.append (claimed : Claimed trace owner target parts early between)
    (refuses : accepted [event] = []) :
    Claimed (trace ++ [event]) owner target parts early
      (between ++ [event]) where
  split := by
    rw [claimed.split]
    simp
  opened := claimed.opened
  unchanged := by
    rw [accepted_append, claimed.unchanged, refuses]
    rfl

theorem Claimed.created
    (claimed : Claimed trace owner target parts early between) :
    .create target ∈ trace := by
  rw [claimed.split]
  exact List.mem_append_left _ claimed.opened.created

theorem Claimed.release
    (claimed : Claimed trace owner target parts early between) :
    Opened (trace ++ [.release owner]) target parts where
  created := List.mem_append_left _ claimed.created
  parts := by
    have quiet : accepted (.claim owner :: between) = [] := claimed.unchanged
    rw [claimed.split, accepted_append, accepted_append, quiet,
      claimed.opened.parts]
    exact congrArg Dict.ofList (by simp [accepted])

inductive Tells (trace : List (Event τ κ β ι ω)) : Life τ κ β ι ω → Prop where
  | absent : trace = [] → Tells trace .absent
  | opened {target : τ} {parts : Dict κ β} :
      Opened trace target parts → Tells trace (.opened target parts)
  | claimed {owner : ι} {target : τ} {parts : Dict κ β}
      {early between : List (Event τ κ β ι ω)} :
      Claimed trace owner target parts early between →
      Tells trace (.claimed owner target parts)
  | stored {owner : ι} {receipt : ω} {target : τ} {parts : Dict κ β}
      {early between : List (Event τ κ β ι ω)} :
      Claimed trace owner target parts early between →
      .store owner receipt ∈ between →
      Tells trace (.stored owner receipt target parts)
  | cleared {owner : ι} {receipt : ω} {target : τ} {parts : Dict κ β}
      {early between : List (Event τ κ β ι ω)} :
      Claimed trace owner target parts early between →
      .store owner receipt ∈ between →
      Tells trace (.cleared owner receipt target parts)
  | closed : Tells trace .closed

theorem Tells.step (tells : Tells trace life) (happens : Step life event later) :
    Tells (trace ++ [event]) later := by
  cases happens with
  | create target =>
      cases tells with
      | absent empty =>
          rw [empty]
          exact .opened ⟨List.mem_singleton_self _, rfl⟩
  | accept target parts key part =>
      cases tells with
      | opened opened => exact .opened (opened.accept key part)
  | claim target parts owner =>
      cases tells with
      | opened opened => exact .claimed ⟨rfl, opened, rfl⟩
  | release target parts owner =>
      cases tells with
      | claimed claimed => exact .opened claimed.release
  | store target parts owner receipt =>
      cases tells with
      | claimed claimed => exact .stored (claimed.append rfl) (by simp)
  | clear target parts owner receipt =>
      cases tells with
      | stored claimed stored =>
          exact .cleared (claimed.append rfl) (List.mem_append_left _ stored)
  | finish target parts owner receipt => exact .closed
  | abandon target parts => exact .closed

theorem Leads.tells (leads : Leads trace life) : Tells trace life := by
  induction leads with
  | start => exact .absent rfl
  | step _ happens ih => exact ih.step happens

/-- A life with a target tells of its creation. -/
theorem Leads.created (leads : Leads trace life)
    (of : life.target = some target) : .create target ∈ trace := by
  cases leads.tells with
  | absent => cases of
  | opened opened =>
      cases of
      exact opened.created
  | claimed claimed =>
      cases of
      exact claimed.created
  | stored claimed =>
      cases of
      exact claimed.created
  | cleared claimed =>
      cases of
      exact claimed.created
  | closed => cases of

/-- Every event but the creation is of a life with a target. -/
theorem Step.target_or (happens : Step life event later) :
    (∃ target, event = .create target ∧ life = .absent) ∨
      ∃ target, life.target = some target := by
  cases happens with
  | create target => exact .inl ⟨target, rfl, rfl⟩
  | accept target => exact .inr ⟨target, rfl⟩
  | claim target => exact .inr ⟨target, rfl⟩
  | release target => exact .inr ⟨target, rfl⟩
  | store target => exact .inr ⟨target, rfl⟩
  | clear target => exact .inr ⟨target, rfl⟩
  | finish target => exact .inr ⟨target, rfl⟩
  | abandon target => exact .inr ⟨target, rfl⟩

/-! ## Ends -/

/-- A finish is the last event. -/
theorem finish_split (leads : Leads (past ++ .finish owner :: rest) life) :
    rest = [] := by
  obtain ⟨before, after, first, happens, others⟩ := leads_split leads
  cases happens with
  | finish target parts owner receipt =>
      rcases others with ⟨empty, -⟩ | ⟨_, _, impossible⟩
      · exact empty
      · cases impossible

/-- So is an abandonment. -/
theorem abandon_split (leads : Leads (past ++ .abandon :: rest) life) :
    rest = [] := by
  obtain ⟨before, after, first, happens, others⟩ := leads_split leads
  cases happens with
  | abandon target parts =>
      rcases others with ⟨empty, -⟩ | ⟨_, _, impossible⟩
      · exact empty
      · cases impossible

end Assembly
