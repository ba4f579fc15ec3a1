import Urp.Library.Dict

/-!
# Dictionaries with computed values

`Dict.map` computes the value of every entry from its key and its old value.
-/

namespace Entries

variable {κ α β : Type} [DecidableEq κ]

theorem map_insert (change : κ → α → β) (entries : List (κ × α)) (key : κ)
    (value : α) :
    (insert entries key value).map (fun entry => (entry.1, change entry.1 entry.2)) =
      insert (entries.map fun entry => (entry.1, change entry.1 entry.2)) key
        (change key value) := by
  induction entries with
  | nil => rfl
  | cons entry rest ih =>
      simp only [insert, List.map_cons]
      split
      · next same => simp [same]
      · simp [ih]

theorem lookup_mapWithKey (change : κ → α → β) (entries : List (κ × α))
    (key : κ) :
    lookup (entries.map fun entry => (entry.1, change entry.1 entry.2)) key =
      (lookup entries key).map (change key) := by
  induction entries with
  | nil => rfl
  | cons entry rest ih =>
      simp only [List.map_cons, lookup]
      split
      · next same => simp [same]
      · exact ih

end Entries

namespace Dict

variable {κ α β : Type}

def map (change : κ → α → β) (dict : Dict κ α) : Dict κ β :=
  ⟨dict.entries.map fun entry => (entry.1, change entry.1 entry.2), by
    rw [List.map_map]
    exact dict.distinct⟩

theorem keys_map (change : κ → α → β) (dict : Dict κ α) :
    (dict.map change).entries.map Prod.fst = dict.entries.map Prod.fst := by
  simp [map]

theorem isEmpty_map (change : κ → α → β) (dict : Dict κ α) :
    (dict.map change).entries.isEmpty = dict.entries.isEmpty := by
  simp [map]

theorem length_map (change : κ → α → β) (dict : Dict κ α) :
    (dict.map change).entries.length = dict.entries.length := by
  simp [map]

variable [DecidableEq κ]

theorem map_insert (change : κ → α → β) (dict : Dict κ α) (key : κ)
    (value : α) :
    (dict.insert key value).map change =
      (dict.map change).insert key (change key value) := by
  simp only [map, insert, Dict.mk.injEq]
  exact Entries.map_insert change dict.entries key value

theorem lookup_map (change : κ → α → β) (dict : Dict κ α) (key : κ) :
    (dict.map change).lookup key = (dict.lookup key).map (change key) :=
  Entries.lookup_mapWithKey change dict.entries key

end Dict
