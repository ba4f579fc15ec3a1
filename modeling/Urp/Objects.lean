import Urp.Contracts
import Urp.Python.JsonRoundTrip

/-!
# Dictionaries after a round trip through a file

A JSON file is written with its keys sorted at every level, so that reading it
back gives the sorted dictionary.
-/

namespace Urp

open Python

namespace Object

theorem keys_sorted (data : Object) :
    (((Value.sortedEntries data.entries).insertionSort
      fun p q => p.1 ≤ q.1).map Prod.fst).Nodup := by
  have permuted := List.perm_insertionSort
    (fun p q : String × Value => p.1 ≤ q.1) (Value.sortedEntries data.entries)
  rw [(permuted.map Prod.fst).nodup_iff, Value.keys_sortedEntries]
  exact data.distinct

/-- The dictionary with its keys sorted at every level. -/
def sorted (data : Object) : Object where
  entries := (Value.sortedEntries data.entries).insertionSort
    fun p q => p.1 ≤ q.1
  distinct := data.keys_sorted

theorem toValue_sorted (data : Object) :
    data.sorted.toValue = data.toValue.sorted := rfl

theorem ofList_sorted (data : Object) :
    ofList ((Value.sortedEntries data.entries).insertionSort
      fun p q => p.1 ≤ q.1) = data.sorted := by
  have entries := Dict.entries_ofList data.keys_sorted
  unfold ofList sorted
  cases whole : Dict.ofList ((Value.sortedEntries data.entries).insertionSort
    fun p q => p.1 ≤ q.1) with
  | mk found distinct =>
      rw [whole] at entries
      simp only at entries
      subst entries
      rfl

/-- The dictionary as it reads back from a file that `atomic_write_json`
wrote. -/
def reloaded (data : Object) : Object :=
  sorted ⟨Value.withTextEntries data.entries, by
    rw [Value.keys_withTextEntries]
    exact data.distinct⟩

/-- A dictionary is its entries. -/
theorem eq_of_toValue {left right : Object}
    (same : left.toValue = right.toValue) : left = right := by
  obtain ⟨entries, distinct⟩ := left
  obtain ⟨others, _⟩ := right
  cases same
  rfl

theorem sorted_sorted (data : Object) : data.sorted.sorted = data.sorted :=
  eq_of_toValue (Value.sorted_sorted data.toValue)

theorem reloaded_of_noBytes {data : Object}
    (noBytes : data.toValue.hasBytes = false) : data.reloaded = data.sorted := by
  apply eq_of_toValue
  have text := Value.withText_of_noBytes data.toValue noBytes
  exact congrArg Value.sorted text

theorem hasBytes_sorted (data : Object) :
    data.sorted.toValue.hasBytes = data.toValue.hasBytes :=
  Value.hasBytes_sorted data.toValue

theorem hasBytes_reloaded (data : Object) :
    data.reloaded.toValue.hasBytes = false := by
  unfold reloaded
  rw [hasBytes_sorted]
  exact Value.hasBytes_withText data.toValue

end Object

/-! ## Looking up in a sorted dictionary -/

theorem lookup_sorted {entries : List (String × Value)}
    (distinct : (entries.map Prod.fst).Nodup) (key : String) :
    Entries.lookup ((Value.sortedEntries entries).insertionSort
        fun p q => p.1 ≤ q.1) key =
      (Entries.lookup entries key).map Value.sorted := by
  have permuted := List.perm_insertionSort
    (fun p q : String × Value => p.1 ≤ q.1) (Value.sortedEntries entries)
  have sortedDistinct := Object.keys_sorted ⟨entries, distinct⟩
  cases found : Entries.lookup entries key with
  | none =>
      rw [Entries.lookup_eq_none_iff] at found
      rw [Option.map_none, Entries.lookup_eq_none_iff,
        (permuted.map Prod.fst).mem_iff, Value.keys_sortedEntries]
      exact found
  | some value =>
      apply Entries.lookup_of_mem sortedDistinct
      rw [permuted.mem_iff, Value.sortedEntries_eq_map, List.mem_map]
      exact ⟨(key, value), Entries.lookup_mem found, rfl⟩

theorem get_sorted {entries : List (String × Value)}
    (distinct : (entries.map Prod.fst).Nodup) (key : String) :
    Value.get ((Value.sortedEntries entries).insertionSort
        fun p q => p.1 ≤ q.1) key =
      (Value.get entries key).sorted := by
  unfold Value.get Value.getD
  rw [lookup_sorted distinct]
  cases Entries.lookup entries key <;> rfl

theorem lookup_withTextEntries (entries : List (String × Value)) (key : String) :
    Entries.lookup (Value.withTextEntries entries) key =
      (Entries.lookup entries key).map Value.withText := by
  induction entries with
  | nil => rfl
  | cons entry rest ih =>
      obtain ⟨name, value⟩ := entry
      simp only [Value.withTextEntries, Entries.lookup, ih]
      split <;> rfl

/-- A value of a file's dictionary is the one written, read back. -/
theorem Object.lookup_reloaded (data : Object) (key : String) :
    data.reloaded.lookup key =
      (data.lookup key).map fun value => value.withText.sorted := by
  have distinct : ((Value.withTextEntries data.entries).map Prod.fst).Nodup := by
    rw [Value.keys_withTextEntries]
    exact data.distinct
  refine (lookup_sorted distinct key).trans ?_
  rw [lookup_withTextEntries, Option.map_map]
  rfl

end Urp
