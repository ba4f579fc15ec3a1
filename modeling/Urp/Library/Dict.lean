import Mathlib.Data.List.Nodup

/-!
# Insertion-ordered dictionaries

`Dict` keeps its keys distinct by construction and its entries in the order
in which their keys were first inserted: inserting under a present key
replaces the value in place, inserting under a new key appends.  The raw
operations work on entry lists, so that a data type whose own nesting rules
out a structure with a proof field can use them too.
-/

namespace Entries

variable {κ α : Type} [DecidableEq κ]

def lookup : List (κ × α) → κ → Option α
  | [], _ => none
  | (key, value) :: rest, target =>
      if key = target then some value else lookup rest target

/-- Replace the value in place, or append a new entry. -/
def insert : List (κ × α) → κ → α → List (κ × α)
  | [], target, new => [(target, new)]
  | (key, value) :: rest, target, new =>
      if key = target then (key, new) :: rest
      else (key, value) :: insert rest target new

def erase (entries : List (κ × α)) (target : κ) : List (κ × α) :=
  entries.filter fun entry => !decide (entry.1 = target)

@[simp] theorem lookup_nil (target : κ) :
    lookup ([] : List (κ × α)) target = none := rfl

theorem lookup_eq_none_iff {entries : List (κ × α)} {target : κ} :
    lookup entries target = none ↔ target ∉ entries.map Prod.fst := by
  induction entries with
  | nil => simp
  | cons entry rest ih =>
      obtain ⟨key, value⟩ := entry
      by_cases same : key = target
      · simp [lookup, same]
      · simp [lookup, same, ih, Ne.symm same]

theorem lookup_mem {entries : List (κ × α)} {target : κ} {value : α}
    (found : lookup entries target = some value) :
    (target, value) ∈ entries := by
  induction entries with
  | nil => simp at found
  | cons entry rest ih =>
      obtain ⟨key, head⟩ := entry
      by_cases same : key = target
      · simp only [lookup, same, if_true, Option.some.injEq] at found
        simp [same, found]
      · simp only [lookup, same, if_false] at found
        exact List.mem_cons_of_mem _ (ih found)

theorem lookup_of_mem {entries : List (κ × α)} {target : κ} {value : α}
    (distinct : (entries.map Prod.fst).Nodup)
    (member : (target, value) ∈ entries) :
    lookup entries target = some value := by
  induction entries with
  | nil => simp at member
  | cons entry rest ih =>
      obtain ⟨key, head⟩ := entry
      simp only [List.map_cons, List.nodup_cons] at distinct
      rcases List.mem_cons.mp member with here | later
      · cases here
        simp [lookup]
      · have different : key ≠ target := by
          rintro rfl
          exact distinct.1 (List.mem_map.mpr ⟨_, later, rfl⟩)
        simp [lookup, different, ih distinct.2 later]

/-- A lookup among entries whose values are mapped. -/
theorem lookup_map {β : Type} (entries : List (κ × α)) (change : α → β)
    (target : κ) :
    lookup (entries.map fun entry => (entry.1, change entry.2)) target =
      (lookup entries target).map change := by
  induction entries with
  | nil => rfl
  | cons entry rest ih =>
      obtain ⟨key, value⟩ := entry
      simp only [List.map_cons, lookup]
      split
      · rfl
      · exact ih

/-- The order of entries with distinct keys does not matter. -/
theorem lookup_perm {entries others : List (κ × α)}
    (distinct : (entries.map Prod.fst).Nodup) (perm : others.Perm entries)
    (target : κ) : lookup others target = lookup entries target := by
  apply Option.ext
  intro value
  have otherDistinct : (others.map Prod.fst).Nodup :=
    (perm.map Prod.fst).nodup_iff.mpr distinct
  constructor
  · exact fun found => lookup_of_mem distinct (perm.mem_iff.mp (lookup_mem found))
  · exact fun found =>
      lookup_of_mem otherDistinct (perm.mem_iff.mpr (lookup_mem found))

theorem lookup_insert (entries : List (κ × α)) (target other : κ) (new : α) :
    lookup (insert entries target new) other =
      if target = other then some new else lookup entries other := by
  induction entries with
  | nil => simp [insert, lookup]
  | cons entry rest ih =>
      obtain ⟨key, value⟩ := entry
      by_cases same : key = target
      · subst key
        by_cases hit : target = other <;> simp [insert, lookup, hit]
      · by_cases hit : key = other
        · subst other
          simp [insert, lookup, same, Ne.symm same]
        · simp [insert, lookup, same, hit, ih]

theorem lookup_erase (entries : List (κ × α)) (target other : κ) :
    lookup (erase entries target) other =
      if target = other then none else lookup entries other := by
  unfold erase
  induction entries with
  | nil => simp
  | cons entry rest ih =>
      obtain ⟨key, value⟩ := entry
      by_cases same : key = target
      · subst key
        by_cases hit : target = other
        · simpa [hit] using ih
        · simpa [lookup, hit] using ih
      · by_cases hit : key = other
        · subst other
          simp [lookup, same, Ne.symm same]
        · simpa [lookup, same, hit] using ih

theorem keys_insert (entries : List (κ × α)) (target : κ) (new : α) :
    (insert entries target new).map Prod.fst =
      if target ∈ entries.map Prod.fst then entries.map Prod.fst
      else entries.map Prod.fst ++ [target] := by
  induction entries with
  | nil => simp [insert]
  | cons entry rest ih =>
      obtain ⟨key, value⟩ := entry
      by_cases same : key = target
      · simp [insert, same]
      · have different : target ≠ key := Ne.symm same
        simp only [insert, same, if_false, List.map_cons, ih]
        by_cases present : target ∈ rest.map Prod.fst
        · simp [present]
        · simp only [present, if_false, List.mem_cons, different, or_self,
            List.cons_append]

theorem nodup_insert {entries : List (κ × α)} (target : κ) (new : α)
    (distinct : (entries.map Prod.fst).Nodup) :
    ((insert entries target new).map Prod.fst).Nodup := by
  rw [keys_insert]
  by_cases present : target ∈ entries.map Prod.fst
  · simpa [present] using distinct
  · rw [if_neg present]
    exact List.nodup_append'.mpr
      ⟨distinct, List.nodup_singleton _, by simpa using present⟩

theorem nodup_erase {entries : List (κ × α)} (target : κ)
    (distinct : (entries.map Prod.fst).Nodup) :
    ((erase entries target).map Prod.fst).Nodup :=
  distinct.sublist (List.filter_sublist.map Prod.fst)

/-- Inserting under a fresh key appends. -/
theorem mem_of_mem_insert {entries : List (κ × α)} {target : κ} {new : α}
    {entry : κ × α} (member : entry ∈ insert entries target new) :
    entry = (target, new) ∨ entry ∈ entries := by
  induction entries with
  | nil => exact .inl (List.mem_singleton.mp member)
  | cons head rest ih =>
      obtain ⟨key, value⟩ := head
      unfold insert at member
      split at member
      · rename_i same
        rcases List.mem_cons.mp member with rfl | later
        · rw [same]
          exact .inl rfl
        · exact .inr (List.mem_cons_of_mem _ later)
      · rcases List.mem_cons.mp member with rfl | later
        · exact .inr List.mem_cons_self
        · rcases ih later with added | old
          · exact .inl added
          · exact .inr (List.mem_cons_of_mem _ old)

theorem insert_of_not_mem {entries : List (κ × α)} {target : κ} (new : α)
    (absent : target ∉ entries.map Prod.fst) :
    insert entries target new = entries ++ [(target, new)] := by
  induction entries with
  | nil => rfl
  | cons entry rest ih =>
      obtain ⟨key, value⟩ := entry
      simp only [List.map_cons, List.mem_cons, not_or] at absent
      simp [insert, Ne.symm absent.1, ih absent.2]

theorem insert_eq_self {entries : List (κ × α)} {target : κ} {value : α}
    (found : lookup entries target = some value) :
    insert entries target value = entries := by
  induction entries with
  | nil => simp at found
  | cons entry rest ih =>
      obtain ⟨key, head⟩ := entry
      by_cases same : key = target
      · simp only [lookup, same, if_true, Option.some.injEq] at found
        simp [insert, same, found]
      · simp only [lookup, same, if_false] at found
        simp [insert, same, ih found]

end Entries

/-- A finite map with distinct keys in insertion order. -/
structure Dict (κ α : Type) where
  entries : List (κ × α)
  distinct : (entries.map Prod.fst).Nodup

namespace Dict

variable {κ α : Type}

def empty : Dict κ α := ⟨[], by simp⟩

instance : EmptyCollection (Dict κ α) := ⟨empty⟩

instance : Inhabited (Dict κ α) := ⟨empty⟩

def values (dict : Dict κ α) : List α := dict.entries.map Prod.snd

variable [DecidableEq κ]

def lookup (dict : Dict κ α) (key : κ) : Option α :=
  Entries.lookup dict.entries key

def insert (dict : Dict κ α) (key : κ) (value : α) : Dict κ α :=
  ⟨Entries.insert dict.entries key value,
    Entries.nodup_insert key value dict.distinct⟩

def erase (dict : Dict κ α) (key : κ) : Dict κ α :=
  ⟨Entries.erase dict.entries key, Entries.nodup_erase key dict.distinct⟩

def contains (dict : Dict κ α) (key : κ) : Bool := (dict.lookup key).isSome

/-- The entries that `keep` accepts. -/
def filter (dict : Dict κ α) (keep : κ → α → Bool) : Dict κ α :=
  ⟨dict.entries.filter fun entry => keep entry.1 entry.2,
    dict.distinct.sublist (List.filter_sublist.map Prod.fst)⟩

/-- The dictionary of the pairs, a later value replacing an earlier one. -/
def ofList (pairs : List (κ × α)) : Dict κ α :=
  pairs.foldl (fun dict pair => dict.insert pair.1 pair.2) ∅

/-- Pairs with distinct keys are the entries. -/
theorem entries_ofList {pairs : List (κ × α)}
    (distinct : (pairs.map Prod.fst).Nodup) : (ofList pairs).entries = pairs := by
  have appended : ∀ (rest : List (κ × α)) (dict : Dict κ α),
      ((dict.entries ++ rest).map Prod.fst).Nodup →
      (rest.foldl (fun dict pair => dict.insert pair.1 pair.2) dict).entries =
        dict.entries ++ rest := by
    intro rest
    induction rest with
    | nil => simp
    | cons pair rest ih =>
        intro dict distinct
        obtain ⟨key, value⟩ := pair
        have fresh : key ∉ dict.entries.map Prod.fst := by
          rw [List.map_append, List.map_cons, List.nodup_append] at distinct
          intro member
          exact distinct.2.2 _ member _ List.mem_cons_self rfl
        have entries : (dict.insert key value).entries =
            dict.entries ++ [(key, value)] :=
          Entries.insert_of_not_mem value fresh
        rw [List.foldl_cons, ih]
        · rw [entries, List.append_assoc]
          rfl
        · rw [entries, List.append_assoc]
          exact distinct
  exact appended pairs ∅ distinct

/-- Every entry is one of the pairs. -/
theorem mem_of_mem_ofList {pairs : List (κ × α)} {entry : κ × α}
    (member : entry ∈ (ofList pairs).entries) : entry ∈ pairs := by
  have folded : ∀ (rest : List (κ × α)) (dict : Dict κ α),
      entry ∈ (rest.foldl (fun dict pair => dict.insert pair.1 pair.2)
        dict).entries → entry ∈ dict.entries ∨ entry ∈ rest := by
    intro rest
    induction rest with
    | nil => exact fun dict member => .inl member
    | cons pair rest ih =>
        intro dict member
        rcases ih (dict.insert pair.1 pair.2) member with inserted | later
        · rcases Entries.mem_of_mem_insert inserted with rfl | old
          · exact .inr List.mem_cons_self
          · exact .inl old
        · exact .inr (List.mem_cons_of_mem _ later)
  rcases folded pairs ∅ member with impossible | found
  · cases impossible
  · exact found

@[simp] theorem lookup_empty (key : κ) :
    (∅ : Dict κ α).lookup key = none := rfl

theorem lookup_insert (dict : Dict κ α) (key other : κ) (value : α) :
    (dict.insert key value).lookup other =
      if key = other then some value else dict.lookup other :=
  Entries.lookup_insert dict.entries key other value

@[simp] theorem lookup_insert_self (dict : Dict κ α) (key : κ) (value : α) :
    (dict.insert key value).lookup key = some value := by
  simp [lookup_insert]

theorem lookup_insert_ne (dict : Dict κ α) {key other : κ} (value : α)
    (different : key ≠ other) :
    (dict.insert key value).lookup other = dict.lookup other := by
  simp [lookup_insert, different]

/-- Inserting what is there already changes nothing. -/
theorem insert_eq_self_iff {dict : Dict κ α} {key : κ} {value : α} :
    dict.insert key value = dict ↔ dict.lookup key = some value := by
  constructor
  · intro same
    rw [← same, lookup_insert_self]
  · intro found
    obtain ⟨entries, distinct⟩ := dict
    simp only [insert, Dict.mk.injEq]
    exact Entries.insert_eq_self found

theorem lookup_erase (dict : Dict κ α) (key other : κ) :
    (dict.erase key).lookup other =
      if key = other then none else dict.lookup other :=
  Entries.lookup_erase dict.entries key other

/-- Erasing never makes a key appear. -/
theorem lookup_of_lookup_erase {dict : Dict κ α} {key other : κ} {value : α}
    (found : (dict.erase key).lookup other = some value) :
    dict.lookup other = some value := by
  rw [lookup_erase] at found
  split at found
  · cases found
  · exact found

theorem mem_entries_iff (dict : Dict κ α) (key : κ) (value : α) :
    (key, value) ∈ dict.entries ↔ dict.lookup key = some value :=
  ⟨Entries.lookup_of_mem dict.distinct, Entries.lookup_mem⟩

theorem lookup_ofList {pairs : List (κ × α)}
    (distinct : (pairs.map Prod.fst).Nodup) {key : κ} {value : α} :
    (ofList pairs).lookup key = some value ↔ (key, value) ∈ pairs := by
  rw [← mem_entries_iff, entries_ofList distinct]

/-- A key of the pairs has one of its values. -/
theorem exists_lookup_ofList {pairs : List (κ × α)} {key : κ}
    (member : key ∈ pairs.map Prod.fst) :
    ∃ value, (ofList pairs).lookup key = some value ∧ (key, value) ∈ pairs := by
  have folded : ∀ (rest : List (κ × α)) (dict : Dict κ α),
      (dict.lookup key).isSome = true ∨ key ∈ rest.map Prod.fst →
        ((rest.foldl (fun dict pair => dict.insert pair.1 pair.2)
          dict).lookup key).isSome = true := by
    intro rest
    induction rest with
    | nil =>
        intro dict present
        exact present.resolve_right List.not_mem_nil
    | cons pair rest ih =>
        intro dict present
        apply ih
        rw [lookup_insert]
        by_cases same : pair.1 = key
        · simp [same]
        · rw [if_neg same]
          rcases present with held | listed
          · exact .inl held
          · rw [List.map_cons, List.mem_cons] at listed
            exact .inr (listed.resolve_left fun here => same here.symm)
  obtain ⟨value, found⟩ :=
    Option.isSome_iff_exists.mp (folded pairs ∅ (.inr member))
  exact ⟨value, found,
    mem_of_mem_ofList ((mem_entries_iff _ _ _).mpr found)⟩

theorem mem_values_iff (dict : Dict κ α) (value : α) :
    value ∈ dict.values ↔ ∃ key, dict.lookup key = some value := by
  simp [values, mem_entries_iff]

theorem lookup_filter (dict : Dict κ α) (keep : κ → α → Bool) (key : κ) :
    (dict.filter keep).lookup key = (dict.lookup key).filter (keep key) := by
  apply Option.ext
  intro value
  rw [← mem_entries_iff, Option.filter_eq_some_iff, ← mem_entries_iff]
  exact List.mem_filter

@[simp] theorem contains_eq_true_iff (dict : Dict κ α) (key : κ) :
    dict.contains key = true ↔ ∃ value, dict.lookup key = some value := by
  simp [contains, Option.isSome_iff_exists]

end Dict
