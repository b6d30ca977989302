import Mathlib.Data.List.Induction
import Mathlib.Data.List.Nodup
import MultiRelease.NameMap

/-!
# What changing a map changes

A map is a list of entries in ascending order of their names.  Changing the value of one name leaves
the values of all others alone (`NameMap.get?_alter_of_ne`).  The name itself has the changed value
afterwards (`NameMap.get?_insert_self`, `NameMap.get?_alter_self`), which for `NameMap.alter` needs
that the entries are in order (`NameMap.Sorted`): in a list out of order the old value might stand
behind the place where the name belongs.

All maps that a build makes are in order, since it starts from an empty one and changes it
(`NameMap.sorted_empty`, `NameMap.Sorted.alter`).  In such a map every name stands once
(`NameMap.Sorted.nodup_keys`), and the entries are what is found (`NameMap.Sorted.mem_entries_iff`).

Maps are filled from lists in two ways, and where a list has several values for one name it matters
which.

* `NameMap.get?_foldl_insertIfAbsent`: if only what is absent is put in, the first value counts.
* `NameMap.get?_ofList`: if everything is put in, the last value counts.

Each change of a map is a change of its list of entries, and the lemmas about lists
(`NameMap.find?_alterEntries_of_ne`, `NameMap.find?_alterEntries_self` and
`NameMap.pairwise_alterEntries`) follow the recursion of `NameMap.alterEntries`: the name is found,
its place is found, or the search goes on behind the first entry.
-/

set_option autoImplicit false

namespace MultiRelease.NameMap

variable {α : Type}

theorem find?_alterEntries_of_ne {name other : String} (h : other ≠ name) (change : Option α → α) :
    ∀ entries : List (String × α), (alterEntries name change entries).find? (·.1 = other)
      = entries.find? (·.1 = other)
  | [] => by simp [alterEntries, Ne.symm h]
  | (key, value) :: rest => by
    rw [alterEntries]
    split
    · simp [Ne.symm h]
    · split
      · rename_i hkey
        simp [← hkey, Ne.symm h]
      · rw [List.find?_cons, List.find?_cons, find?_alterEntries_of_ne h change rest]

/-- Other names keep their values. -/
theorem get?_alter_of_ne {name other : String} (h : other ≠ name) (map : NameMap α)
    (change : Option α → α) : (map.alter name change).get? other = map.get? other := by
  rw [get?, get?, alter, find?_alterEntries_of_ne h]

theorem find?_alterEntries_const (name : String) (value : α) :
    ∀ entries : List (String × α),
      (alterEntries name (fun _ => value) entries).find? (·.1 = name) = some (name, value)
  | [] => by simp [alterEntries]
  | (key, old) :: rest => by
    rw [alterEntries]
    split
    · simp
    · split
      · simp
      · rename_i hkey
        rw [List.find?_cons_of_neg (by simpa using Ne.symm hkey), find?_alterEntries_const]

/-- What is inserted is found. -/
theorem get?_insert_self (map : NameMap α) (name : String) (value : α) :
    (map.insert name value).get? name = some value := by
  rw [get?, insert, alter, find?_alterEntries_const]
  rfl

theorem get?_insert_of_ne {name other : String} (h : other ≠ name) (map : NameMap α) (value : α) :
    (map.insert name value).get? other = map.get? other :=
  get?_alter_of_ne h map _

theorem contains_eq_isSome (map : NameMap α) (name : String) :
    map.contains name = (map.get? name).isSome := by
  rw [contains, get?, Option.isSome_map, List.isSome_find?]

theorem find?_alterEntries_of_absent {name : String} {change : Option α → α} :
    ∀ {entries : List (String × α)}, entries.any (·.1 = name) = false →
      (alterEntries name change entries).find? (·.1 = name) = some (name, change none)
  | [], _ => by simp [alterEntries]
  | (key, value) :: rest, h => by
    rw [List.any_cons, Bool.or_eq_false_iff, decide_eq_false_iff_not] at h
    rw [alterEntries]
    split
    · simp
    · rw [if_neg (Ne.symm h.1), List.find?_cons_of_neg (by simpa using h.1),
        find?_alterEntries_of_absent h.2]

/-- What is inserted under a new name is found. -/
theorem get?_insertIfAbsent_of_absent {map : NameMap α} {name : String}
    (h : map.contains name = false) (value : α) :
    (map.insertIfAbsent name value).get? name = some value := by
  rw [get?, insertIfAbsent, alter, find?_alterEntries_of_absent h]
  rfl

theorem get?_eq_none_iff (map : NameMap α) (name : String) :
    map.get? name = none ↔ map.contains name = false := by
  rw [contains_eq_isSome, Option.isSome_eq_false_iff, Option.isNone_iff_eq_none]

theorem mem_of_find? {pairs : List (String × α)} {name : String} {found : String × α}
    (h : pairs.find? (·.1 = name) = some found) : (name, found.2) ∈ pairs := by
  have hname := List.find?_some h
  rw [decide_eq_true_eq] at hname
  rw [← hname]
  exact List.mem_of_find?_eq_some h

/-- A name that stands for one value stands for the value that is found. -/
theorem map_find?_eq_some_iff {pairs : List (String × α)} {name : String} {value : α}
    (hunique : ∀ value value', (name, value) ∈ pairs → (name, value') ∈ pairs → value = value') :
    (pairs.find? (·.1 = name)).map (·.2) = some value ↔ (name, value) ∈ pairs := by
  constructor
  · intro h
    obtain ⟨found, hfound, rfl⟩ := Option.map_eq_some_iff.1 h
    exact mem_of_find? hfound
  · intro hmem
    have hsome : (pairs.find? (·.1 = name)).isSome := by
      rw [List.find?_isSome]
      exact ⟨_, hmem, by simp⟩
    obtain ⟨found, hfound⟩ := Option.isSome_iff_exists.1 hsome
    rw [hfound, Option.map_some, hunique _ _ (mem_of_find? hfound) hmem]

theorem mem_entries_of_get? {map : NameMap α} {name : String} {value : α}
    (h : map.get? name = some value) : (name, value) ∈ map.entries := by
  obtain ⟨found, hfind, rfl⟩ := Option.map_eq_some_iff.1 h
  exact mem_of_find? hfind

theorem mem_keys_iff {map : NameMap α} {name : String} :
    name ∈ map.keys ↔ ∃ value, map.get? name = some value := by
  rw [keys, ← Option.isSome_iff_exists, get?, Option.isSome_map, List.find?_isSome]
  simp

/-! ## Maps in order -/

/-- The entries are in strictly ascending order of their names. -/
def Sorted (map : NameMap α) : Prop := map.entries.Pairwise fun a b => a.1 < b.1

theorem sorted_empty : Sorted ({} : NameMap α) := List.Pairwise.nil

theorem key_of_mem_alterEntries {name : String} {change : Option α → α} {entry : String × α} :
    ∀ {entries : List (String × α)}, entry ∈ alterEntries name change entries →
      entry.1 = name ∨ entry ∈ entries
  | [], h => by
    rw [alterEntries, List.mem_singleton] at h
    exact .inl (by rw [h])
  | (key, value) :: rest, h => by
    rw [alterEntries] at h
    split at h
    · rcases List.mem_cons.1 h with rfl | h
      · exact .inl rfl
      · exact .inr h
    · split at h
      · rcases List.mem_cons.1 h with rfl | h
        · exact .inl rfl
        · exact .inr (List.mem_cons_of_mem _ h)
      · rcases List.mem_cons.1 h with rfl | h
        · exact .inr List.mem_cons_self
        · exact (key_of_mem_alterEntries h).imp id (List.mem_cons_of_mem _)

theorem pairwise_alterEntries (name : String) (change : Option α → α) :
    ∀ {entries : List (String × α)}, entries.Pairwise (fun a b => a.1 < b.1) →
      (alterEntries name change entries).Pairwise fun a b => a.1 < b.1
  | [], _ => List.pairwise_singleton _ _
  | (key, value) :: rest, h => by
    obtain ⟨hfirst, hrest⟩ := List.pairwise_cons.1 h
    rw [alterEntries]
    by_cases hlt : name < key
    · rw [if_pos hlt, List.pairwise_cons]
      refine ⟨fun entry hentry => ?_, h⟩
      rcases List.mem_cons.1 hentry with rfl | hentry
      · exact hlt
      · exact String.lt_trans hlt (hfirst entry hentry)
    · rw [if_neg hlt]
      by_cases heq : name = key
      · rw [if_pos heq, heq, List.pairwise_cons]
        exact ⟨hfirst, hrest⟩
      · rw [if_neg heq, List.pairwise_cons]
        refine ⟨fun entry hentry => ?_, pairwise_alterEntries name change hrest⟩
        rcases key_of_mem_alterEntries hentry with hname | hentry
        · rw [hname]
          exact String.not_le.1 fun hle => heq (String.le_antisymm hle (String.not_lt.1 hlt))
        · exact hfirst entry hentry

theorem Sorted.alter {map : NameMap α} (h : map.Sorted) (name : String) (change : Option α → α) :
    (map.alter name change).Sorted :=
  pairwise_alterEntries name change h

theorem find?_alterEntries_self (name : String) (change : Option α → α) :
    ∀ {entries : List (String × α)}, entries.Pairwise (fun a b => a.1 < b.1) →
      (alterEntries name change entries).find? (·.1 = name)
        = some (name, change ((entries.find? (·.1 = name)).map (·.2)))
  | [], _ => by simp [alterEntries]
  | (key, value) :: rest, h => by
    obtain ⟨hfirst, hrest⟩ := List.pairwise_cons.1 h
    rw [alterEntries]
    by_cases hlt : name < key
    · have habsent : ((key, value) :: rest).find? (fun x => decide (x.1 = name)) = none := by
        rw [List.find?_eq_none]
        intro entry hentry hname
        rw [decide_eq_true_eq] at hname
        rcases List.mem_cons.1 hentry with rfl | hentry
        · obtain rfl : key = name := hname
          exact String.lt_irrefl key hlt
        · rw [← hname] at hlt
          exact String.lt_irrefl key (String.lt_trans (hfirst entry hentry) hlt)
      rw [if_pos hlt, habsent]
      simp
    · rw [if_neg hlt]
      by_cases heq : name = key
      · rw [if_pos heq]
        simp [heq]
      · rw [if_neg heq, List.find?_cons_of_neg (by simpa using Ne.symm heq),
          List.find?_cons_of_neg (by simpa using Ne.symm heq),
          find?_alterEntries_self name change hrest]

/-- The value of the name itself is changed. -/
theorem get?_alter_self {map : NameMap α} (h : map.Sorted) (name : String)
    (change : Option α → α) :
    (map.alter name change).get? name = some (change (map.get? name)) := by
  rw [get?, alter, find?_alterEntries_self name change h]
  rfl

theorem Sorted.nodup_keys {map : NameMap α} (h : map.Sorted) : map.keys.Nodup := by
  refine List.pairwise_map.2 (List.Pairwise.imp (fun {a b} hlt heq => ?_) h)
  rw [heq] at hlt
  exact String.lt_irrefl b.1 hlt

/-- What is found are the entries. -/
theorem Sorted.mem_entries_iff {map : NameMap α} (h : map.Sorted) {name : String} {value : α} :
    (name, value) ∈ map.entries ↔ map.get? name = some value := by
  refine (map_find?_eq_some_iff fun first second hfirst hsecond => ?_).symm
  exact congrArg Prod.snd (List.inj_on_of_nodup_map h.nodup_keys hfirst hsecond rfl)

/-- Every entry is found. -/
theorem Sorted.get?_of_mem {map : NameMap α} (h : map.Sorted) {name : String} {value : α}
    (hmem : (name, value) ∈ map.entries) : map.get? name = some value :=
  h.mem_entries_iff.1 hmem

/-! ## Maps that are filled -/

theorem Sorted.foldl_insertIfAbsent (pairs : List (String × α)) :
    ∀ {map : NameMap α}, map.Sorted →
      (pairs.foldl (fun map (name, value) => map.insertIfAbsent name value) map).Sorted := by
  induction pairs with
  | nil => exact fun h => h
  | cons pair pairs ih => exact fun h => ih (h.alter pair.1 _)

/-- **Of several values of a name the first counts.** -/
theorem get?_foldl_insertIfAbsent (name : String) (pairs : List (String × α)) :
    ∀ {map : NameMap α}, map.Sorted →
      (pairs.foldl (fun map (name, value) => map.insertIfAbsent name value) map).get? name
        = (map.get? name).or ((pairs.find? (·.1 = name)).map (·.2)) := by
  induction pairs with
  | nil => exact fun _ => (Option.or_none).symm
  | cons pair pairs ih =>
    intro map hmap
    obtain ⟨key, value⟩ := pair
    refine (ih (hmap.alter key fun old => old.getD value)).trans ?_
    by_cases hkey : key = name
    · rw [hkey, get?_alter_self hmap, List.find?_cons_of_pos (by simp)]
      cases map.get? name <;> rfl
    · rw [get?_alter_of_ne (Ne.symm hkey), List.find?_cons_of_neg (by simpa using hkey)]

theorem ofList_concat (pairs : List (String × α)) (name : String) (value : α) :
    ofList (pairs ++ [(name, value)]) = (ofList pairs).insert name value := by
  rw [ofList, List.foldl_append]
  rfl

theorem sorted_ofList (pairs : List (String × α)) : (ofList pairs).Sorted := by
  induction pairs using List.reverseRecOn with
  | nil => exact sorted_empty
  | append_singleton pairs pair ih =>
    rw [ofList_concat]
    exact ih.alter pair.1 _

/-- **Of several values in a list the last counts.** -/
theorem get?_ofList (pairs : List (String × α)) (name : String) :
    (ofList pairs).get? name = (pairs.findRev? (·.1 = name)).map (·.2) := by
  rw [List.findRev?_eq_find?_reverse]
  induction pairs using List.reverseRecOn with
  | nil => rfl
  | append_singleton pairs pair ih =>
    obtain ⟨key, value⟩ := pair
    rw [ofList_concat, List.reverse_append, List.reverse_singleton, List.singleton_append]
    by_cases hkey : key = name
    · rw [hkey, get?_insert_self, List.find?_cons_of_pos (by simp)]
      rfl
    · rw [get?_insert_of_ne (Ne.symm hkey), ih, List.find?_cons_of_neg (by simpa using hkey)]

/-- A name with one value in a list has this value. -/
theorem get?_ofList_eq_some_iff {pairs : List (String × α)} {name : String} {value : α}
    (hunique : ∀ value value', (name, value) ∈ pairs → (name, value') ∈ pairs → value = value') :
    (ofList pairs).get? name = some value ↔ (name, value) ∈ pairs := by
  rw [get?_ofList, List.findRev?_eq_find?_reverse, map_find?_eq_some_iff, List.mem_reverse]
  exact fun first second hfirst hsecond =>
    hunique first second (List.mem_reverse.1 hfirst) (List.mem_reverse.1 hsecond)

end MultiRelease.NameMap
