namespace EasyConnect

/-! Dictionaries: one value for each key that is present, in the order in which the keys came. -/

structure Dictionary (κ α : Type) where
  entries : List (κ × α)
  nodup : (entries.map Prod.fst).Nodup

namespace Dictionary

variable {κ α : Type}

def empty : Dictionary κ α where
  entries := []
  nodup := List.nodup_nil

def keys (dictionary : Dictionary κ α) : List κ :=
  dictionary.entries.map Prod.fst

def sorted (rank : κ → Nat) (dictionary : Dictionary κ α) : List (κ × α) :=
  dictionary.entries.mergeSort fun first second => decide (rank first.1 ≤ rank second.1)

variable [DecidableEq κ]

def get? (dictionary : Dictionary κ α) (key : κ) : Option α :=
  dictionary.entries.lookup key

def getD (dictionary : Dictionary κ α) (key : κ) (absent : α) : α :=
  (dictionary.get? key).getD absent

/-- A value is replaced where its key stands; a new key goes to the end. -/
def place (key : κ) (value : α) : List (κ × α) → List (κ × α)
  | [] => [(key, value)]
  | entry :: rest =>
      if entry.1 = key then (key, value) :: rest else entry :: place key value rest

theorem place_of_not_mem {key : κ} {value : α} {entries : List (κ × α)}
    (h : key ∉ entries.map Prod.fst) : place key value entries = entries ++ [(key, value)] := by
  induction entries with
  | nil => rfl
  | cons entry rest ih =>
      rw [List.map_cons, List.mem_cons, not_or] at h
      rw [place, if_neg (Ne.symm h.1), ih h.2, List.cons_append]

theorem map_fst_place_of_mem {key : κ} {value : α} {entries : List (κ × α)}
    (h : key ∈ entries.map Prod.fst) :
    (place key value entries).map Prod.fst = entries.map Prod.fst := by
  induction entries with
  | nil => cases h
  | cons entry rest ih =>
      rw [place]
      by_cases hkey : entry.1 = key
      · rw [if_pos hkey, List.map_cons, List.map_cons, hkey]
      · rw [List.map_cons, List.mem_cons] at h
        rw [if_neg hkey, List.map_cons, List.map_cons, ih (h.resolve_left (Ne.symm hkey))]

theorem lookup_cons (entry : κ × α) (rest : List (κ × α)) (key : κ) :
    (entry :: rest).lookup key = if entry.1 = key then some entry.2 else rest.lookup key := by
  by_cases hkey : entry.1 = key
  · rw [if_pos hkey, ← hkey, List.lookup_cons_self]
  · rw [if_neg hkey, List.lookup_cons, beq_false_of_ne (Ne.symm hkey)]

theorem lookup_place (key other : κ) (value : α) (entries : List (κ × α)) :
    (place key value entries).lookup other =
      if key = other then some value else entries.lookup other := by
  induction entries with
  | nil => rw [place, lookup_cons]
  | cons entry rest ih =>
      rw [place, lookup_cons]
      by_cases hkey : entry.1 = key
      · rw [if_pos hkey, lookup_cons, hkey]
        split <;> rfl
      · rw [if_neg hkey, lookup_cons, ih]
        by_cases hother : key = other
        · rw [← hother, if_neg hkey, if_pos rfl, if_pos rfl]
        · rw [if_neg hother, if_neg hother]

theorem nodup_place (key : κ) (value : α) {entries : List (κ × α)}
    (h : (entries.map Prod.fst).Nodup) :
    ((place key value entries).map Prod.fst).Nodup := by
  by_cases hmem : key ∈ entries.map Prod.fst
  · rw [map_fst_place_of_mem hmem]
    exact h
  · rw [place_of_not_mem hmem, List.map_append, List.nodup_append]
    refine ⟨h, by simp, ?_⟩
    intro first hfirst second hsecond heq
    rw [List.map_singleton, List.mem_singleton] at hsecond
    rw [heq, hsecond] at hfirst
    exact hmem hfirst

def set (dictionary : Dictionary κ α) (key : κ) (value : α) : Dictionary κ α where
  entries := place key value dictionary.entries
  nodup := nodup_place key value dictionary.nodup

def bump (dictionary : Dictionary κ Int) (key : κ) : Dictionary κ Int :=
  dictionary.set key (dictionary.getD key 0 + 1)

def fill (dictionary : Dictionary κ α) (keys : List κ) (value : α) : Dictionary κ α :=
  keys.foldl (fun filled key => filled.set key value) dictionary

@[simp] theorem get?_set (dictionary : Dictionary κ α) (key other : κ) (value : α) :
    (dictionary.set key value).get? other =
      if key = other then some value else dictionary.get? other :=
  lookup_place key other value dictionary.entries

@[simp] theorem getD_bump (dictionary : Dictionary κ Int) (key other : κ) :
    (dictionary.bump key).getD other 0 =
      dictionary.getD other 0 + if key = other then 1 else 0 := by
  rw [getD, bump, get?_set]
  split
  · rename_i hkey
    rw [hkey, Option.getD_some]
  · rw [Int.add_zero, getD]

@[simp] theorem get?_fill (dictionary : Dictionary κ α) (keys : List κ) (value : α) (key : κ) :
    (dictionary.fill keys value).get? key =
      if key ∈ keys then some value else dictionary.get? key := by
  induction keys generalizing dictionary with
  | nil => rfl
  | cons first rest ih =>
      rw [fill, List.foldl_cons, ← fill, ih, get?_set]
      by_cases hrest : key ∈ rest
      · simp [hrest]
      · simp [hrest, eq_comm]

end Dictionary

end EasyConnect
