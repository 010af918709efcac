/-!
# Sorted maps

Finite maps kept as a list of entries with strictly increasing keys.  The list
order is the order in which answers show a map.  Every operation is described
by what it does to `get?`, and two maps with the same `get?` are equal.
-/

set_option autoImplicit false
set_option linter.unusedSectionVars false

namespace TableStore

universe u v w

/-- A finite map: entries with strictly increasing keys. -/
structure SortedMap (κ : Type u) (ν : Type v) [Ord κ] where
  entries : List (κ × ν)
  increasing : entries.Pairwise fun a b => compare a.1 b.1 = .lt

namespace SortedMap

/-! ## Operations on lists of entries -/

section Entries

variable {κ : Type u} {ν : Type v} {μ : Type w} [DecidableEq κ]

def find? (key : κ) : List (κ × ν) → Option ν
  | [] => none
  | entry :: entries =>
      if key = entry.1 then some entry.2 else find? key entries

def put [Ord κ] (key : κ) (value : ν) : List (κ × ν) → List (κ × ν)
  | [] => [(key, value)]
  | entry :: entries =>
      if key = entry.1 then (key, value) :: entries
      else if compare key entry.1 = .lt then (key, value) :: entry :: entries
      else entry :: put key value entries

def drop (key : κ) (entries : List (κ × ν)) : List (κ × ν) :=
  entries.filter fun entry => decide (entry.1 ≠ key)

theorem mem_of_find? {key : κ} {value : ν} {entries : List (κ × ν)}
    (found : find? key entries = some value) : (key, value) ∈ entries := by
  induction entries with
  | nil => simp [find?] at found
  | cons first others ih =>
      simp only [find?] at found
      split at found
      · next same =>
          cases Option.some.inj found
          rw [same]
          exact List.mem_cons_self
      · exact List.mem_cons_of_mem _ (ih found)

theorem find?_drop {key other : κ} {entries : List (κ × ν)} :
    find? other (drop key entries) =
      if other = key then none else find? other entries := by
  induction entries with
  | nil => simp [drop, find?]
  | cons first others ih =>
      simp only [drop, List.filter_cons] at ih ⊢
      by_cases same : first.1 = key <;> by_cases equal : other = key <;>
        simp_all [find?]
      intro wrong
      exact absurd wrong.symm same

theorem mem_put [Ord κ] {key : κ} {value : ν} {entries : List (κ × ν)}
    {entry : κ × ν} (member : entry ∈ put key value entries) :
    entry = (key, value) ∨ entry ∈ entries := by
  induction entries with
  | nil => simpa [put] using member
  | cons first others ih =>
      simp only [put] at member
      split at member
      · rcases List.mem_cons.1 member with rfl | inside
        · exact .inl rfl
        · exact .inr (List.mem_cons_of_mem _ inside)
      · split at member
        · simpa using member
        · rcases List.mem_cons.1 member with rfl | inside
          · exact .inr List.mem_cons_self
          · exact (ih inside).imp_right (List.mem_cons_of_mem _)

theorem find?_put [Ord κ] {key other : κ} {value : ν}
    {entries : List (κ × ν)} :
    find? other (put key value entries) =
      if other = key then some value else find? other entries := by
  induction entries with
  | nil => by_cases same : other = key <;> simp [put, find?, same]
  | cons first others ih =>
      by_cases same : other = key <;> by_cases equal : key = first.1 <;>
        by_cases less : compare key first.1 = .lt <;>
        simp_all [put, find?]

variable [Ord κ] [Std.TransOrd κ] [Std.LawfulEqOrd κ]

theorem increasing_put {key : κ} {value : ν} {entries : List (κ × ν)}
    (increasing : entries.Pairwise fun a b => compare a.1 b.1 = .lt) :
    (put key value entries).Pairwise fun a b => compare a.1 b.1 = .lt := by
  induction entries with
  | nil => simp [put]
  | cons first others ih =>
      have above := (List.pairwise_cons.1 increasing).1
      have tail := increasing.of_cons
      simp only [put]
      split
      · next same =>
          subst same
          exact List.pairwise_cons.2 ⟨above, tail⟩
      · next other =>
          split
          · next less =>
              refine List.pairwise_cons.2 ⟨?_, increasing⟩
              intro entry member
              rcases List.mem_cons.1 member with rfl | inside
              · exact less
              · exact Std.TransCmp.lt_trans less (above _ inside)
          · next notLess =>
              have greater : compare key first.1 = .gt := by
                cases order : compare key first.1 with
                | lt => exact absurd order notLess
                | eq => exact absurd (Std.LawfulEqCmp.eq_of_compare order) other
                | gt => rfl
              refine List.pairwise_cons.2 ⟨?_, ih tail⟩
              intro entry member
              rcases mem_put member with rfl | inside
              · exact Std.OrientedCmp.gt_iff_lt.1 greater
              · exact above _ inside

theorem find?_of_mem {key : κ} {value : ν} {entries : List (κ × ν)}
    (increasing : entries.Pairwise fun a b => compare a.1 b.1 = .lt)
    (member : (key, value) ∈ entries) : find? key entries = some value := by
  induction entries with
  | nil => simp at member
  | cons first others ih =>
      simp only [find?]
      rcases List.mem_cons.1 member with rfl | inside
      · simp
      · have less := (List.pairwise_cons.1 increasing).1 _ inside
        split
        · next same =>
            rw [same] at less
            simp [Std.ReflCmp.compare_self] at less
        · exact ih increasing.of_cons inside

end Entries

/-! ## Maps -/

section Maps

variable {κ : Type u} {ν : Type v} {μ : Type w} [Ord κ] [DecidableEq κ]

instance [DecidableEq ν] : DecidableEq (SortedMap κ ν) :=
  fun m n =>
    if same : m.entries = n.entries then
      .isTrue (by cases m; cases n; cases same; rfl)
    else .isFalse fun equal => same (congrArg entries equal)

def empty : SortedMap κ ν := ⟨[], .nil⟩

instance : EmptyCollection (SortedMap κ ν) := ⟨empty⟩

instance : Inhabited (SortedMap κ ν) := ⟨empty⟩

def get? (m : SortedMap κ ν) (key : κ) : Option ν := find? key m.entries

def contains (m : SortedMap κ ν) (key : κ) : Bool := (m.get? key).isSome

def size (m : SortedMap κ ν) : Nat := m.entries.length

def isEmpty (m : SortedMap κ ν) : Bool := m.entries.isEmpty

def keys (m : SortedMap κ ν) : List κ := m.entries.map (·.1)

def values (m : SortedMap κ ν) : List ν := m.entries.map (·.2)

def first? (m : SortedMap κ ν) : Option (κ × ν) := m.entries.head?

def filter (m : SortedMap κ ν) (keep : κ → ν → Bool) : SortedMap κ ν :=
  ⟨m.entries.filter fun entry => keep entry.1 entry.2,
    m.increasing.filter _⟩

def erase (m : SortedMap κ ν) (key : κ) : SortedMap κ ν :=
  ⟨drop key m.entries, m.increasing.filter _⟩

def map (m : SortedMap κ ν) (change : κ → ν → μ) : SortedMap κ μ :=
  ⟨m.entries.map fun entry => (entry.1, change entry.1 entry.2),
    List.pairwise_map.2 m.increasing⟩

@[simp] theorem get?_empty (key : κ) : (∅ : SortedMap κ ν).get? key = none := rfl

theorem get?_erase (m : SortedMap κ ν) (key other : κ) :
    (m.erase key).get? other = if other = key then none else m.get? other :=
  find?_drop

theorem keys_increasing (m : SortedMap κ ν) :
    m.keys.Pairwise fun a b => compare a b = .lt :=
  List.pairwise_map.2 m.increasing

variable [Std.TransOrd κ] [Std.LawfulEqOrd κ]

theorem nodup_keys (m : SortedMap κ ν) : m.keys.Nodup :=
  m.keys_increasing.imp fun less equal => by
    subst equal
    simp [Std.ReflCmp.compare_self] at less

def insert (m : SortedMap κ ν) (key : κ) (value : ν) : SortedMap κ ν :=
  ⟨put key value m.entries, increasing_put m.increasing⟩

def modify (m : SortedMap κ ν) (key : κ) (change : ν → ν) : SortedMap κ ν :=
  match m.get? key with
  | some value => m.insert key (change value)
  | none => m

theorem get?_insert (m : SortedMap κ ν) (key other : κ) (value : ν) :
    (m.insert key value).get? other =
      if other = key then some value else m.get? other :=
  find?_put

theorem get?_insert_self (m : SortedMap κ ν) (key : κ) (value : ν) :
    (m.insert key value).get? key = some value := by
  rw [get?_insert, if_pos rfl]

theorem get?_modify (m : SortedMap κ ν) (key other : κ) (change : ν → ν) :
    (m.modify key change).get? other =
      if other = key then (m.get? key).map change else m.get? other := by
  simp only [modify]
  split
  · next found => rw [get?_insert]; simp [found]
  · next missing =>
      by_cases same : other = key
      · subst same; simp [missing]
      · simp [same]

theorem mem_entries_iff {m : SortedMap κ ν} {key : κ} {value : ν} :
    (key, value) ∈ m.entries ↔ m.get? key = some value :=
  ⟨find?_of_mem m.increasing, mem_of_find?⟩

theorem get?_of_first? {m : SortedMap κ ν} {key : κ} {value : ν}
    (first : m.first? = some (key, value)) : m.get? key = some value :=
  mem_entries_iff.1 (List.mem_of_head? first)

theorem get?_of_first?_none {m : SortedMap κ ν} (first : m.first? = none) (key : κ) :
    m.get? key = none := by
  rw [first?, List.head?_eq_none_iff] at first
  rw [get?, first, find?]

theorem mem_keys_iff {m : SortedMap κ ν} {key : κ} :
    key ∈ m.keys ↔ ∃ value, m.get? key = some value := by
  simp [keys, mem_entries_iff]

theorem mem_keys_iff_contains {m : SortedMap κ ν} {key : κ} :
    key ∈ m.keys ↔ m.contains key = true := by
  rw [mem_keys_iff, contains, Option.isSome_iff_exists]

theorem get?_filter (m : SortedMap κ ν) (keep : κ → ν → Bool) (key : κ) :
    (m.filter keep).get? key = (m.get? key).filter (keep key) := by
  apply Option.ext
  intro value
  rw [← mem_entries_iff]
  simp [filter, mem_entries_iff]

theorem get?_map (m : SortedMap κ ν) (change : κ → ν → μ) (key : κ) :
    (m.map change).get? key = (m.get? key).map (change key) := by
  apply Option.ext
  intro value
  rw [← mem_entries_iff]
  constructor
  · intro member
    obtain ⟨entry, inside, rfl, rfl⟩ : ∃ entry ∈ m.entries,
        entry.1 = key ∧ change entry.1 entry.2 = value := by
      simpa [map] using member
    simp [mem_entries_iff.1 inside]
  · intro found
    obtain ⟨old, inside, rfl⟩ := Option.map_eq_some_iff.1 found
    exact List.mem_map.2 ⟨(key, old), mem_entries_iff.2 inside, rfl⟩

theorem ext {m n : SortedMap κ ν} (same : ∀ key, m.get? key = n.get? key) :
    m = n := by
  have member (entry : κ × ν) : entry ∈ m.entries ↔ entry ∈ n.entries := by
    rw [mem_entries_iff, mem_entries_iff, same]
  have unordered {a b : κ × ν} (less : compare a.1 b.1 = .lt)
      (greater : compare b.1 a.1 = .lt) : a = b := by
    have := Std.TransCmp.lt_trans less greater
    simp [Std.ReflCmp.compare_self] at this
  have distinct {k : SortedMap κ ν} : k.entries.Nodup :=
    k.increasing.imp fun less equal => by
      subst equal; simp [Std.ReflCmp.compare_self] at less
  have order : m.entries = n.entries :=
    (List.perm_ext_iff_of_nodup distinct distinct).2 member
      |>.eq_of_pairwise (fun _ _ _ _ => unordered) m.increasing n.increasing
  cases m; cases n; cases order; rfl

theorem erase_of_missing {m : SortedMap κ ν} {key : κ} (missing : m.get? key = none) :
    m.erase key = m := by
  apply ext
  intro other
  rw [get?_erase]
  split
  · next here => rw [here, missing]
  · rfl

theorem erase_insert_self (m : SortedMap κ ν) (key : κ) (value : ν) :
    (m.insert key value).erase key = m.erase key := by
  apply ext
  intro other
  rw [get?_erase, get?_erase, get?_insert]
  split <;> rfl

theorem size_erase_lt {m : SortedMap κ ν} {key : κ} {value : ν}
    (found : m.get? key = some value) : (m.erase key).size < m.size := by
  apply List.length_filter_lt_length_iff_exists.2
  exact ⟨(key, value), mem_entries_iff.2 found,
    by simp⟩

/-- The size is the length of any list of the keys without repetition. -/
theorem size_eq_length {m : SortedMap κ ν} {keys : List κ} (distinct : keys.Nodup)
    (same : ∀ key, key ∈ keys ↔ m.contains key = true) : m.size = keys.length := by
  have listed (key : κ) : key ∈ m.keys ↔ key ∈ keys := by
    rw [same, mem_keys_iff_contains]
  have order := (List.perm_ext_iff_of_nodup m.nodup_keys distinct).2 listed
  exact (List.length_map _).symm.trans order.length_eq

theorem size_congr {m : SortedMap κ ν} {n : SortedMap κ μ}
    (same : ∀ key, m.contains key = n.contains key) : m.size = n.size := by
  have length : n.keys.length = n.size := List.length_map _
  rw [← length]
  apply size_eq_length n.nodup_keys
  intro key
  rw [mem_keys_iff_contains, same]

theorem size_insert_of_missing {m : SortedMap κ ν} {key : κ} {value : ν}
    (missing : m.get? key = none) : (m.insert key value).size = m.size + 1 := by
  have absent : key ∉ m.keys := by
    rw [mem_keys_iff, missing]
    simp
  have length : (key :: m.keys).length = m.size + 1 :=
    congrArg (· + 1) (List.length_map _)
  rw [← length]
  apply size_eq_length (List.nodup_cons.2 ⟨absent, m.nodup_keys⟩)
  intro other
  rw [List.mem_cons, mem_keys_iff_contains, contains, contains, get?_insert]
  by_cases same : other = key <;> simp [same]

theorem isEmpty_eq_false_iff {m : SortedMap κ ν} : m.isEmpty = false ↔ ∃ key, key ∈ m.keys := by
  rw [isEmpty, List.isEmpty_eq_false_iff_exists_mem]
  simp [keys]

end Maps

end SortedMap

/-! ## Sets -/

abbrev SortedSet (κ : Type u) [Ord κ] := SortedMap κ Unit

namespace SortedMap

variable {κ : Type u} [Ord κ] [DecidableEq κ]
variable [Std.TransOrd κ] [Std.LawfulEqOrd κ]

def add (s : SortedSet κ) (key : κ) : SortedSet κ := s.insert key ()

def single (key : κ) : SortedSet κ := add ∅ key

theorem contains_add (s : SortedSet κ) (key other : κ) :
    (s.add key).contains other = (decide (other = key) || s.contains other) := by
  simp only [contains, add, get?_insert]
  by_cases same : other = key <;> simp [same]

theorem contains_erase (s : SortedSet κ) (key other : κ) :
    (s.erase key).contains other = (!decide (other = key) && s.contains other) := by
  simp only [contains, get?_erase]
  by_cases same : other = key <;> simp [same]

end SortedMap

end TableStore
