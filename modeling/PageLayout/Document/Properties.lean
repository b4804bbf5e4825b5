import PageLayout.Json.Value

/-!
# Properties

Named JSON values in the order in which their names were first given. A name that is given again
keeps its place and takes the new value, so no name stands twice.
-/

namespace PageLayout

/-- Named values in order, without repetition of names. -/
structure Properties where
  /-- The names and their values. -/
  entries : List (String × Json.Value)
  /-- No name stands twice. -/
  nodup_keys : (entries.map Prod.fst).Nodup

namespace Properties

/-- No properties. -/
def empty : Properties :=
  ⟨[], List.nodup_nil⟩

instance : Inhabited Properties := ⟨empty⟩

/-- Whether there are no properties. -/
def isEmpty (properties : Properties) : Bool :=
  properties.entries.isEmpty

/-- The value of a name. -/
def get? (properties : Properties) (key : String) : Option Json.Value :=
  properties.entries.lookup key

/-- The entries after `key` is given `value`. -/
def insertEntry (key : String) (value : Json.Value) :
    List (String × Json.Value) → List (String × Json.Value)
  | [] => [(key, value)]
  | entry :: entries =>
    if entry.1 = key then (key, value) :: entries else entry :: insertEntry key value entries

/-- Giving a value to a name that has one leaves the names as they are; a new name comes last. -/
theorem keys_insertEntry (key : String) (value : Json.Value)
    (entries : List (String × Json.Value)) :
    (insertEntry key value entries).map Prod.fst =
      if key ∈ entries.map Prod.fst then entries.map Prod.fst
      else entries.map Prod.fst ++ [key] := by
  induction entries with
  | nil => simp [insertEntry]
  | cons entry entries ih =>
    by_cases h : entry.1 = key
    · simp [insertEntry, h]
    · have h' : key ≠ entry.1 := fun e => h e.symm
      simp only [insertEntry, h, if_false, List.map_cons, ih, List.mem_cons, h', false_or]
      split <;> simp

/-- Giving a value to a name repeats no name. -/
theorem nodup_keys_insertEntry (key : String) (value : Json.Value)
    {entries : List (String × Json.Value)} (h : (entries.map Prod.fst).Nodup) :
    ((insertEntry key value entries).map Prod.fst).Nodup := by
  rw [keys_insertEntry]
  split
  · exact h
  · next hk =>
    rw [List.nodup_append]
    refine ⟨h, by simp, fun a ha b hb e => hk ?_⟩
    rw [List.mem_singleton] at hb
    exact hb ▸ e ▸ ha

/-- The properties after `key` is given `value`. -/
def insert (properties : Properties) (key : String) (value : Json.Value) : Properties :=
  ⟨insertEntry key value properties.entries,
    nodup_keys_insertEntry key value properties.nodup_keys⟩

/-- The properties given by a list of names and values, in its order. -/
def ofList (entries : List (String × Json.Value)) : Properties :=
  entries.foldl (fun properties entry => properties.insert entry.1 entry.2) empty

/-- The value just given to a name is the value of the name. -/
@[simp]
theorem get?_insert_self (properties : Properties) (key : String) (value : Json.Value) :
    (properties.insert key value).get? key = some value := by
  simp only [get?, insert]
  induction properties.entries with
  | nil => simp [insertEntry]
  | cons entry entries ih =>
    obtain ⟨k, v⟩ := entry
    by_cases h : k = key
    · simp [insertEntry, h]
    · have h' : (key == k) = false := beq_eq_false_iff_ne.2 (Ne.symm h)
      rw [insertEntry, if_neg h, List.lookup_cons, h', ih]

/-- The properties as a JSON object whose members keep their order. -/
def toValue (properties : Properties) : Json.Value :=
  .object properties.entries

end Properties

end PageLayout
