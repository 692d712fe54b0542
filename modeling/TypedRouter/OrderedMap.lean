/-!
# Ordered maps

A list of names with values, in the order in which the names were first set.  Setting a name
that is there replaces the value in its place, so no name occurs twice.
-/

namespace TypedRouter.OrderedMap

/-- Sets a name: one that is there keeps its place, and a new one goes to the end. -/
def set {α : Type} (name : String) (value : α) : List (String × α) → List (String × α)
  | [] => [(name, value)]
  | (k, v) :: rest => if k = name then (k, value) :: rest else (k, v) :: set name value rest

/-- The map that results from setting all entries one after the other. -/
def ofList {α : Type} (entries : List (String × α)) : List (String × α) :=
  entries.foldl (fun acc (k, v) => set k v acc) []

/-- A look-up passes an entry of another name. -/
@[simp] theorem lookup_cons_of_ne {α : Type} {name other : String} (h : other ≠ name) (value : α)
    (entries : List (String × α)) :
    ((name, value) :: entries).lookup other = entries.lookup other := by
  have hb : (other == name) = false := beq_false_of_ne h
  simp [List.lookup_cons, hb]

/-- Setting a name changes what this name has, and nothing else. -/
@[simp]
theorem lookup_set {α : Type} (name other : String) (value : α) (entries : List (String × α)) :
    (set name value entries).lookup other =
      if other = name then some value else entries.lookup other := by
  induction entries with
  | nil =>
    by_cases h : other = name
    · simp [set, h]
    · simp [set, h]
  | cons entry rest ih =>
    obtain ⟨k, v⟩ := entry
    by_cases hk : k = name
    · subst hk
      by_cases h : other = k
      · simp [set, h]
      · simp [set, h]
    · by_cases h : other = k
      · simp [set, hk, h]
      · simp only [set, if_neg hk, lookup_cons_of_ne h, ih]

/-- The names after setting one are those before it and the name itself. -/
theorem mem_map_fst_set {α : Type} {name other : String} {value : α}
    {entries : List (String × α)} :
    other ∈ (set name value entries).map Prod.fst ↔
      other = name ∨ other ∈ entries.map Prod.fst := by
  induction entries with
  | nil => simp [set]
  | cons entry rest ih =>
    obtain ⟨k, v⟩ := entry
    by_cases hk : k = name
    · subst hk
      simp [set]
    · rw [set, if_neg hk, List.map_cons, List.map_cons, List.mem_cons, List.mem_cons, ih]
      exact or_left_comm

/-- Setting a name does not make one occur twice. -/
theorem nodup_map_fst_set {α : Type} {entries : List (String × α)} (name : String) (value : α)
    (h : (entries.map Prod.fst).Nodup) : ((set name value entries).map Prod.fst).Nodup := by
  induction entries with
  | nil => simp [set]
  | cons entry rest ih =>
    obtain ⟨k, v⟩ := entry
    obtain ⟨hnotMem, hrest⟩ := List.nodup_cons.mp h
    by_cases hk : k = name
    · rw [set, if_pos hk]
      exact h
    · rw [set, if_neg hk, List.map_cons, List.nodup_cons]
      refine ⟨fun hmem => ?_, ih hrest⟩
      rcases mem_map_fst_set.mp hmem with heq | hmem
      · exact hk heq
      · exact hnotMem hmem

/-- Setting a name that is not there adds an entry at the end. -/
theorem set_of_notMem {α : Type} {name : String} {value : α} {entries : List (String × α)}
    (h : name ∉ entries.map Prod.fst) : set name value entries = entries ++ [(name, value)] := by
  induction entries with
  | nil => rfl
  | cons entry rest ih =>
    obtain ⟨k, v⟩ := entry
    have hk : k ≠ name := fun heq => h (by simp [heq])
    have hrest : name ∉ rest.map Prod.fst := fun hmem => h (List.mem_cons_of_mem _ hmem)
    rw [set, if_neg hk, ih hrest, List.cons_append]

/-- Entries of different names are added at the end one after the other, if none of the names is
there before. -/
theorem foldl_set_of_nodup {α : Type} (there entries : List (String × α))
    (h : ((there ++ entries).map Prod.fst).Nodup) :
    entries.foldl (fun acc (k, v) => set k v acc) there = there ++ entries := by
  induction entries generalizing there with
  | nil => rw [List.foldl_nil, List.append_nil]
  | cons entry rest ih =>
    have hnew : entry.1 ∉ there.map Prod.fst := by
      rw [List.map_append, List.nodup_append] at h
      exact fun hmem => h.2.2 entry.1 hmem entry.1 List.mem_cons_self rfl
    have happend : there ++ entry :: rest = there ++ [entry] ++ rest := by simp
    rw [happend] at h ⊢
    rw [List.foldl_cons]
    show rest.foldl _ (set entry.1 entry.2 there) = _
    rw [set_of_notMem hnew]
    exact ih _ h

/-- Entries of different names are a map as they stand. -/
theorem ofList_of_nodup {α : Type} {entries : List (String × α)}
    (h : (entries.map Prod.fst).Nodup) : ofList entries = entries :=
  foldl_set_of_nodup [] entries h

end TypedRouter.OrderedMap
