/-!
Tables: finite maps from names that remember the order in which their keys first appeared.

Writing to a key that is present replaces its entry where it stands; writing to a new key appends an
entry. Record fields, frames, record shapes, group variants and the type registry are all tables.

* `Table.keys_insert`: the keys after a write.
* `Table.find?_insert`: reading after a write.
* `Table.find?_isSome`: a key can be read exactly when it is listed.
-/

namespace RecordLang

universe u v

/-- Entries in order of first appearance, no key twice. -/
structure Table (α : Type u) where
  entries : List (String × α)
  distinct : (entries.map Prod.fst).Nodup

namespace Table

variable {α : Type u} {β : Type v}

/-! ### Entry lists -/

/-- The entry list after writing `a` to `key`. -/
def put : List (String × α) → String → α → List (String × α)
  | [], key, a => [(key, a)]
  | (k, b) :: rest, key, a => if k = key then (key, a) :: rest else (k, b) :: put rest key a

/-- Writing keeps the keys and their order, and appends the key if it is new. -/
theorem keys_put (es : List (String × α)) (key : String) (a : α) :
    (put es key a).map Prod.fst =
      if key ∈ es.map Prod.fst then es.map Prod.fst else es.map Prod.fst ++ [key] := by
  induction es with
  | nil => simp [put]
  | cons e rest ih =>
      obtain ⟨k, b⟩ := e
      by_cases h : k = key
      · simp [put, h]
      · have h' : ¬ key = k := fun e => h e.symm
        simp only [put, h, if_false, List.map_cons, ih, List.mem_cons, h', false_or]
        split <;> simp

/-- Writing does not repeat a key. -/
theorem nodup_put {es : List (String × α)} (h : (es.map Prod.fst).Nodup) (key : String) (a : α) :
    ((put es key a).map Prod.fst).Nodup := by
  rw [keys_put]
  split
  · exact h
  · next hk =>
      rw [List.nodup_append]
      exact ⟨h, by simp, fun x hx y hy e => hk (by simp only [List.mem_singleton] at hy; rwa [← hy, ← e])⟩

/-! ### Tables -/

/-- The table without entries. -/
def empty : Table α :=
  ⟨[], .nil⟩

instance : Inhabited (Table α) :=
  ⟨empty⟩

/-- The keys in order of first appearance. -/
def keys (t : Table α) : List String :=
  t.entries.map Prod.fst

/-- The number of entries. -/
def size (t : Table α) : Nat :=
  t.entries.length

/-- What stands under `key`. -/
def find? (t : Table α) (key : String) : Option α :=
  t.entries.lookup key

/-- Whether something stands under `key`. -/
def contains (t : Table α) (key : String) : Bool :=
  (t.find? key).isSome

/-- Writes `a` to `key`: in place if the key is present, else at the end. -/
def insert (t : Table α) (key : String) (a : α) : Table α :=
  ⟨put t.entries key a, nodup_put t.distinct key a⟩

/-- Writes the pairs from left to right, so a repeated key keeps its first place and its last entry. -/
def ofList (pairs : List (String × α)) : Table α :=
  pairs.foldl (fun t p => t.insert p.1 p.2) empty

/-- Applies `f` to every entry and keeps the keys. -/
def map (f : α → β) (t : Table α) : Table β :=
  ⟨t.entries.map fun e => (e.1, f e.2), by simpa [Function.comp_def] using t.distinct⟩

/-! ### Reading and writing -/

@[simp] theorem find?_empty (name : String) : (empty : Table α).find? name = none := rfl

@[simp] theorem contains_empty (name : String) : (empty : Table α).contains name = false := rfl

/-- The keys after a write. -/
theorem keys_insert (t : Table α) (key : String) (a : α) :
    (t.insert key a).keys = if key ∈ t.keys then t.keys else t.keys ++ [key] :=
  keys_put t.entries key a

/-- Reading an entry list after a write. -/
theorem lookup_put (es : List (String × α)) (key : String) (a : α) (name : String) :
    (put es key a).lookup name = if name = key then some a else es.lookup name := by
  induction es with
  | nil =>
      by_cases h : name = key
      · simp [put, h]
      · simp [put, h, List.lookup_cons, beq_eq_false_iff_ne.mpr h]
  | cons e rest ih =>
      obtain ⟨k, b⟩ := e
      by_cases hk : k = key
      · subst hk
        by_cases hn : name = k
        · simp [put, hn]
        · simp [put, hn, List.lookup_cons, beq_eq_false_iff_ne.mpr hn]
      · by_cases hn : name = k
        · subst hn
          simp [put, hk]
        · simp [put, hk, List.lookup_cons, beq_eq_false_iff_ne.mpr hn, ih]

/-- Reading after a write: the written key holds the new entry, every other key what it held. -/
theorem find?_insert (t : Table α) (key : String) (a : α) (name : String) :
    (t.insert key a).find? name = if name = key then some a else t.find? name :=
  lookup_put t.entries key a name

/-- An entry list answers for exactly the keys it lists. -/
theorem lookup_isSome (es : List (String × α)) (name : String) :
    (es.lookup name).isSome = true ↔ name ∈ es.map Prod.fst := by
  induction es with
  | nil => simp
  | cons e rest ih =>
      obtain ⟨k, b⟩ := e
      by_cases h : name = k
      · simp [h]
      · simp [List.lookup_cons, beq_eq_false_iff_ne.mpr h, ih, h]

/-- A key can be read exactly when it is listed. -/
theorem find?_isSome (t : Table α) (name : String) :
    (t.find? name).isSome = true ↔ name ∈ t.keys :=
  lookup_isSome t.entries name

end Table

end RecordLang
