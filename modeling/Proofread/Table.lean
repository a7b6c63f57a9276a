namespace Proofread

abbrev Table (κ α : Type) := List (κ × α)

namespace Table

variable {κ α : Type} [DecidableEq κ]

def get? (table : Table κ α) (key : κ) : Option α :=
  table.lookup key

-- The keys keep the order in which they were first set. A key that is there already keeps its place
-- and takes the new value.
def set : Table κ α → κ → α → Table κ α
  | [], key, value => [(key, value)]
  | (k, v) :: rest, key, value =>
    if k = key then (key, value) :: rest else (k, v) :: set rest key value

def ofPairs (pairs : List (κ × α)) : Table κ α :=
  pairs.foldl (fun table (key, value) => table.set key value) []

theorem get?_set (table : Table κ α) (key other : κ) (value : α) :
    (table.set key value).get? other = if other = key then some value else table.get? other := by
  induction table with
  | nil => by_cases h : other = key <;> simp [set, get?, h]
  | cons head rest ih =>
    obtain ⟨k, v⟩ := head
    grind [set, get?]

theorem get?_eq_some_iff {table : Table κ α} (h : (table.map (·.1)).Nodup) {key : κ} {value : α} :
    table.get? key = some value ↔ (key, value) ∈ table := by
  induction table with
  | nil => simp [get?]
  | cons head rest ih =>
    obtain ⟨k, v⟩ := head
    simp only [List.map_cons, List.nodup_cons, List.mem_map, Prod.exists] at h
    grind [get?]

theorem get?_perm {table other : Table κ α} (h : other.Perm table) (hn : (table.map (·.1)).Nodup)
    (key : κ) : other.get? key = table.get? key := by
  have ho : (other.map (·.1)).Nodup := (h.map _).nodup_iff.mpr hn
  ext value
  rw [get?_eq_some_iff ho, get?_eq_some_iff hn, h.mem_iff]

theorem filter_set_of_ne (table : Table κ α) {key other : κ} (h : other ≠ key) (value : α) :
    (table.set key value).filter (·.1 = other) = table.filter (·.1 = other) := by
  induction table with
  | nil => simp [set, Ne.symm h]
  | cons head rest ih =>
    obtain ⟨k, v⟩ := head
    by_cases hk : k = key
    case pos => simp [set, hk, Ne.symm h]
    case neg => simp [set, hk, List.filter_cons, ih]

theorem set_of_notMem {table : Table κ α} {key : κ} (h : key ∉ table.map (·.1)) (value : α) :
    table.set key value = table ++ [(key, value)] := by
  induction table with
  | nil => rfl
  | cons head rest ih =>
    simp only [List.map_cons, List.mem_cons, not_or] at h
    rw [set, if_neg (Ne.symm h.1), ih h.2, List.cons_append]

theorem foldl_set_of_nodup {table : Table κ α} {pairs : List (κ × α)}
    (h : ((table ++ pairs).map (·.1)).Nodup) :
    pairs.foldl (fun table (key, value) => table.set key value) table = table ++ pairs := by
  induction pairs generalizing table with
  | nil => simp
  | cons pair pairs ih =>
    have fresh : pair.1 ∉ table.map (·.1) := by
      simp only [List.map_append, List.map_cons, List.nodup_append] at h
      exact fun hm => h.2.2 _ hm _ List.mem_cons_self rfl
    rw [List.append_cons] at h ⊢
    have last : table.set pair.1 pair.2 = table ++ [pair] := set_of_notMem fresh pair.2
    rw [List.foldl_cons, ← ih h, ← last]

theorem ofPairs_of_nodup {pairs : List (κ × α)} (h : (pairs.map (·.1)).Nodup) :
    ofPairs pairs = pairs :=
  foldl_set_of_nodup h

theorem keys_set (table : Table κ α) (key : κ) (value : α) :
    (table.set key value).map (·.1)
      = if key ∈ table.map (·.1) then table.map (·.1) else table.map (·.1) ++ [key] := by
  by_cases h : key ∈ table.map (·.1)
  case neg => simp [set_of_notMem h, if_neg h]
  case pos =>
    rw [if_pos h]
    induction table with
    | nil => cases h
    | cons head rest ih =>
      obtain ⟨k, v⟩ := head
      by_cases hk : k = key
      case pos => simp [set, hk]
      case neg =>
        have later : key ∈ rest.map (·.1) := by simpa [Ne.symm hk] using h
        simpa [set, hk] using ih later

theorem keys_foldl_set {table : Table κ α} {seen : List κ} (h : table.map (·.1) = seen.eraseDups)
    (pairs : List (κ × α)) :
    (pairs.foldl (fun table (key, value) => table.set key value) table).map (·.1)
      = (seen ++ pairs.map (·.1)).eraseDups := by
  induction pairs generalizing table seen with
  | nil => simpa using h
  | cons pair pairs ih =>
    have next : (table.set pair.1 pair.2).map (·.1) = (seen ++ [pair.1]).eraseDups := by
      rw [keys_set, h, List.eraseDups_append]
      by_cases hp : pair.1 ∈ seen <;> simp [List.removeAll, hp, List.eraseDups_cons]
    rw [List.foldl_cons, ih next, List.append_assoc, List.map_cons, List.singleton_append]

theorem keys_ofPairs (pairs : List (κ × α)) :
    (ofPairs pairs).map (·.1) = (pairs.map (·.1)).eraseDups := by
  have start : ([] : Table κ α).map (·.1) = ([] : List κ).eraseDups := rfl
  exact keys_foldl_set start pairs

theorem get?_foldl_set (table : Table κ α) (pairs : List (κ × α)) (key : κ) :
    (pairs.foldl (fun table (key, value) => table.set key value) table).get? key
      = (pairs.reverse.lookup key).or (table.get? key) := by
  induction pairs generalizing table with
  | nil => rfl
  | cons pair pairs ih =>
    rw [List.foldl_cons, ih, get?_set, List.reverse_cons, List.lookup_append, Option.or_assoc]
    obtain ⟨k, v⟩ := pair
    have last : [(k, v)].lookup key = if key = k then some v else none := get?_set [] k key v
    by_cases h : key = k <;> simp [h, last]

theorem get?_ofPairs (pairs : List (κ × α)) (key : κ) :
    (ofPairs pairs).get? key = pairs.reverse.lookup key :=
  (get?_foldl_set [] pairs key).trans Option.or_none

end Table

end Proofread
