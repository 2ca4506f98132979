/-!
# Tables

A table maps keys to values and lists its entries in the order in which their keys first came in.
Its view is `get?`; `get?_insert`, `get?_modify`, `get?_erase` and `get?_filter` say what an operation
does to it.
-/

namespace Latchkey

structure Table (κ α : Type) where
  entries : List (κ × α)
  /-- No key has two entries. -/
  distinct : (entries.map Prod.fst).Nodup

namespace Table

variable {κ α : Type}

@[ext] theorem ext {t u : Table κ α} (h : t.entries = u.entries) : t = u := by
  cases t; cases u; cases h; rfl

def empty : Table κ α := ⟨[], .nil⟩

instance : Inhabited (Table κ α) := ⟨empty⟩

def size (t : Table κ α) : Nat := t.entries.length

def keys (t : Table κ α) : List κ := t.entries.map Prod.fst

def values (t : Table κ α) : List α := t.entries.map Prod.snd

theorem nodup_keys_filter {l : List (κ × α)} (p : κ × α → Bool)
    (h : (l.map Prod.fst).Nodup) : ((l.filter p).map Prod.fst).Nodup :=
  h.sublist (List.filter_sublist.map _)

/-- The entries that satisfy `p`. -/
def filter (p : κ → α → Bool) (t : Table κ α) : Table κ α :=
  ⟨t.entries.filter fun e => p e.1 e.2, nodup_keys_filter _ t.distinct⟩

variable [DecidableEq κ]

/-- The value of the first entry under `k`. -/
def find? (k : κ) : List (κ × α) → Option α
  | [] => none
  | (k', a) :: rest => if k' = k then some a else find? k rest

/-- The entries with `a` under `k`, in the old place of `k` if there is one and else at the end. -/
def put (k : κ) (a : α) : List (κ × α) → List (κ × α)
  | [] => [(k, a)]
  | (k', b) :: rest => if k' = k then (k, a) :: rest else (k', b) :: put k a rest

theorem mem_keys_put {k k' : κ} {a : α} {l : List (κ × α)} :
    k' ∈ (put k a l).map Prod.fst ↔ k' = k ∨ k' ∈ l.map Prod.fst := by
  induction l with
  | nil => simp [put]
  | cons e rest ih =>
    obtain ⟨k₀, b⟩ := e
    by_cases h : k₀ = k
    · subst h; simp [put]
    · simp only [put, h, if_false, List.map_cons, List.mem_cons, ih]
      grind

theorem nodup_keys_put {k : κ} {a : α} {l : List (κ × α)} (h : (l.map Prod.fst).Nodup) :
    ((put k a l).map Prod.fst).Nodup := by
  induction l with
  | nil => simp [put]
  | cons e rest ih =>
    obtain ⟨k₀, b⟩ := e
    simp only [List.map_cons, List.nodup_cons] at h
    by_cases hk : k₀ = k
    · subst hk; simpa [put] using h
    · simp only [put, hk, if_false, List.map_cons, List.nodup_cons, mem_keys_put]
      exact ⟨by simp [h.1], ih h.2⟩

def get? (t : Table κ α) (k : κ) : Option α := find? k t.entries

def contains (t : Table κ α) (k : κ) : Bool := (t.get? k).isSome

def insert (t : Table κ α) (k : κ) (a : α) : Table κ α :=
  ⟨put k a t.entries, nodup_keys_put t.distinct⟩

def erase (t : Table κ α) (k : κ) : Table κ α :=
  t.filter fun k' _ => k' ≠ k

/-- The table with `f` applied to the value under `k`. -/
def modify (t : Table κ α) (k : κ) (f : α → α) : Table κ α :=
  match t.get? k with
  | none => t
  | some a => t.insert k (f a)

/-- The entries put in one by one; of entries under one key the last counts. -/
def ofList (entries : List (κ × α)) : Table κ α :=
  entries.foldl (fun t (k, a) => t.insert k a) empty

@[simp] theorem get?_empty (k : κ) : (empty : Table κ α).get? k = none := rfl

theorem find?_put (k k' : κ) (a : α) (l : List (κ × α)) :
    find? k' (put k a l) = if k = k' then some a else find? k' l := by
  induction l with
  | nil => simp [put, find?]
  | cons e rest ih =>
    obtain ⟨k₀, b⟩ := e
    by_cases h : k₀ = k
    · subst h; by_cases h' : k₀ = k' <;> simp [put, find?, h']
    · by_cases h' : k₀ = k'
      · subst h'; simp [put, find?, h, Ne.symm h]
      · simp [put, find?, h, h', ih]

theorem get?_insert (t : Table κ α) (k k' : κ) (a : α) :
    (t.insert k a).get? k' = if k = k' then some a else t.get? k' :=
  find?_put k k' a t.entries

theorem get?_modify (t : Table κ α) (k k' : κ) (f : α → α) :
    (t.modify k f).get? k' = if k = k' then (t.get? k').map f else t.get? k' := by
  unfold modify
  by_cases h : k = k'
  · subst h
    cases hk : t.get? k with
    | none => simp [hk]
    | some a => simp [get?_insert]
  · cases hk : t.get? k with
    | none => simp [h]
    | some a => simp [get?_insert, h]

theorem find?_eq_none_iff {k : κ} {l : List (κ × α)} :
    find? k l = none ↔ k ∉ l.map Prod.fst := by
  induction l with
  | nil => simp [find?]
  | cons e rest ih =>
    obtain ⟨k₀, b⟩ := e
    by_cases h : k₀ = k
    · simp [find?, h]
    · simp [find?, h, ih, Ne.symm h]

theorem find?_filter {p : κ × α → Bool} {l : List (κ × α)} (h : (l.map Prod.fst).Nodup) (k : κ) :
    find? k (l.filter p) = (find? k l).filter fun a => p (k, a) := by
  induction l with
  | nil => simp [find?]
  | cons e rest ih =>
    obtain ⟨k₀, b⟩ := e
    simp only [List.map_cons, List.nodup_cons] at h
    by_cases hk : k₀ = k
    · subst hk
      have hrest : find? k₀ rest = none := find?_eq_none_iff.2 h.1
      by_cases hp : p (k₀, b) <;> simp [hp, find?, ih h.2, hrest, Option.filter_some]
    · by_cases hp : p (k₀, b) <;> simp [hp, find?, hk, ih h.2]

theorem get?_filter (t : Table κ α) (p : κ → α → Bool) (k : κ) :
    (t.filter p).get? k = (t.get? k).filter (p k) :=
  find?_filter t.distinct k

theorem get?_erase (t : Table κ α) (k k' : κ) :
    (t.erase k).get? k' = if k = k' then none else t.get? k' := by
  rw [erase, get?_filter]
  by_cases h : k = k'
  · subst h; cases t.get? k <;> simp
  · have h' : k' ≠ k := Ne.symm h
    cases t.get? k' <;> simp [h, h']

theorem filter_put (k : κ) (a : α) (l : List (κ × α)) :
    (put k a l).filter (fun e => e.1 ≠ k) = l.filter fun e => e.1 ≠ k := by
  induction l with
  | nil => simp [put]
  | cons e rest ih =>
    obtain ⟨k₀, b⟩ := e
    by_cases h : k₀ = k
    · simp [put, h]
    · rw [put, if_neg h, List.filter_cons, List.filter_cons, ih]

theorem filter_of_not_mem {k : κ} {l : List (κ × α)} (h : k ∉ l.map Prod.fst) :
    l.filter (fun e => e.1 ≠ k) = l := by
  refine List.filter_eq_self.2 fun e he => decide_eq_true fun hk => h ?_
  exact hk ▸ List.mem_map_of_mem he

/-- To take an entry out is the same after its value has been changed. -/
theorem erase_modify (t : Table κ α) (k : κ) (f : α → α) : (t.modify k f).erase k = t.erase k := by
  unfold modify
  split
  · rfl
  · exact Table.ext (filter_put ..)

/-- To take out what was put in under a free key leaves the table as it was. -/
theorem erase_insert {t : Table κ α} {k : κ} (a : α) (h : t.get? k = none) :
    (t.insert k a).erase k = t :=
  Table.ext ((filter_put ..).trans (filter_of_not_mem (find?_eq_none_iff.1 h)))

theorem find?_eq_some_iff {k : κ} {a : α} {l : List (κ × α)} (h : (l.map Prod.fst).Nodup) :
    find? k l = some a ↔ (k, a) ∈ l := by
  induction l with
  | nil => simp [find?]
  | cons e rest ih =>
    obtain ⟨k₀, b⟩ := e
    simp only [List.map_cons, List.nodup_cons] at h
    by_cases hk : k₀ = k
    · subst hk
      have hno : (k₀, a) ∉ rest := fun hm => h.1 (List.mem_map.2 ⟨_, hm, rfl⟩)
      simp [find?, hno, eq_comm]
    · simp [find?, hk, ih h.2, Ne.symm hk]

theorem get?_eq_some_iff {t : Table κ α} {k : κ} {a : α} :
    t.get? k = some a ↔ (k, a) ∈ t.entries :=
  find?_eq_some_iff t.distinct

theorem put_of_not_mem {k : κ} {a : α} {l : List (κ × α)} (h : k ∉ l.map Prod.fst) :
    put k a l = l ++ [(k, a)] := by
  induction l with
  | nil => rfl
  | cons e rest ih =>
    obtain ⟨k₀, b⟩ := e
    obtain ⟨hne, hrest⟩ := not_or.1 (mt List.mem_cons.2 h)
    rw [put, if_neg (Ne.symm hne), ih hrest]
    rfl

/-- Entries under new keys are put in behind those that are there. -/
theorem entries_foldl_insert {l : List (κ × α)} {t : Table κ α}
    (h : ((t.entries ++ l).map Prod.fst).Nodup) :
    (l.foldl (fun t (k, a) => t.insert k a) t).entries = t.entries ++ l := by
  induction l generalizing t with
  | nil => simp
  | cons e rest ih =>
    obtain ⟨k, a⟩ := e
    have hk : k ∉ t.entries.map Prod.fst := by
      intro hk
      rw [List.map_append, List.nodup_append] at h
      exact h.2.2 k hk k (by simp) rfl
    have hput : (t.insert k a).entries = t.entries ++ [(k, a)] := put_of_not_mem hk
    rw [List.foldl_cons, ih (by rw [hput]; simpa using h), hput]
    simp

/-- The entries of a table make that table. -/
theorem ofList_entries (t : Table κ α) : ofList t.entries = t :=
  Table.ext (entries_foldl_insert (t := empty) t.distinct)

end Table

end Latchkey
