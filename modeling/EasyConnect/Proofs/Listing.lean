import Mathlib.Algebra.GroupWithZero.Nat
import Mathlib.Data.List.Basic

namespace EasyConnect

/-! Listings of a quantity: an entry for each key that has some of it, in the order of the keys.
A quantity has at most one listing, and can be read back from it. -/

structure Lists (rank : κ → Int) (entries : List (κ × Nat)) (quantity : κ → Nat) : Prop where
  ascending : entries.Pairwise fun first second => rank first.1 < rank second.1
  mem_iff : ∀ (key : κ) (count : Nat),
    (key, count) ∈ entries ↔ 0 < count ∧ count = quantity key

def countOf [DecidableEq κ] (key : κ) (entries : List (κ × Nat)) : Nat :=
  ((entries.filter fun entry => decide (entry.1 = key)).map Prod.snd).sum

theorem sum_filter_pos (quantity : κ → Nat) (keys : List κ) :
    ((keys.filter fun key => decide (0 < quantity key)).map quantity).sum =
      (keys.map quantity).sum := by
  induction keys with
  | nil => rfl
  | cons key rest ih =>
      rw [List.filter_cons, List.map_cons, List.sum_cons, ← ih]
      by_cases hpositive : 0 < quantity key
      · rw [if_pos (decide_eq_true hpositive), List.map_cons, List.sum_cons]
      · rw [if_neg (by simpa using hpositive), Nat.eq_zero_of_not_pos hpositive, Nat.zero_add]

namespace Lists

variable {rank : κ → Int} {entries other : List (κ × Nat)} {quantity : κ → Nat}

theorem unique (h : Lists rank entries quantity) (h' : Lists rank other quantity) :
    entries = other := by
  have hnodup (listed : List (κ × Nat))
      (hascending : listed.Pairwise fun first second => rank first.1 < rank second.1) :
      listed.Nodup := by
    apply hascending.imp
    rintro first second hlt rfl
    exact Int.lt_irrefl _ hlt
  have hperm : entries.Perm other := by
    rw [List.perm_ext_iff_of_nodup (hnodup _ h.ascending) (hnodup _ h'.ascending)]
    rintro ⟨key, count⟩
    rw [h.mem_iff, h'.mem_iff]
  apply hperm.eq_of_pairwise _ h.ascending h'.ascending
  intro first second _ _ hlt hgt
  exact absurd hgt (Int.not_lt.mpr (Int.le_of_lt hlt))

theorem countOf_eq [DecidableEq κ] (h : Lists rank entries quantity) (key : κ) :
    countOf key entries = quantity key := by
  have hascending := h.ascending.filter fun entry => decide (entry.1 = key)
  have hmem (entry : κ × Nat)
      (hentry : entry ∈ entries.filter fun entry => decide (entry.1 = key)) :
      entry.1 = key ∧ 0 < entry.2 ∧ entry.2 = quantity key := by
    obtain ⟨hin, hkey⟩ := List.mem_filter.mp hentry
    have heq := of_decide_eq_true hkey
    exact ⟨heq, heq ▸ (h.mem_iff entry.1 entry.2).mp hin⟩
  unfold countOf
  generalize hfound : (entries.filter fun entry => decide (entry.1 = key)) = found at *
  -- Entries of one key cannot ascend, so there is at most one of them.
  match found with
  | [] =>
      by_contra hne
      have hlisted := (h.mem_iff key (quantity key)).mpr ⟨by simp at hne; omega, rfl⟩
      have hfilter : (key, quantity key) ∈
          entries.filter fun entry => decide (entry.1 = key) :=
        List.mem_filter.mpr ⟨hlisted, decide_eq_true rfl⟩
      rw [hfound] at hfilter
      cases hfilter
  | [entry] => simpa using (hmem entry List.mem_cons_self).2.2
  | first :: second :: _ =>
      have hlt := (List.pairwise_cons.mp hascending).1 second List.mem_cons_self
      rw [(hmem first List.mem_cons_self).1,
        (hmem second (List.mem_cons_of_mem _ List.mem_cons_self)).1] at hlt
      exact absurd hlt (Int.lt_irrefl _)

theorem of_indexes {indexes : List ι} {key : ι → κ} {count : ι → Nat}
    (hascending : indexes.Pairwise fun first second => rank (key first) < rank (key second))
    (hcount : ∀ i ∈ indexes, count i = quantity (key i))
    (hcovered : ∀ k, 0 < quantity k → ∃ i ∈ indexes, key i = k) :
    Lists rank
      ((indexes.filter fun i => decide (0 < count i)).map fun i => (key i, count i))
      quantity := by
  constructor
  · rw [List.pairwise_map]
    exact hascending.filter _
  · intro k n
    simp only [List.mem_map, List.mem_filter, decide_eq_true_eq, Prod.mk.injEq]
    constructor
    · rintro ⟨i, ⟨hi, hpositive⟩, rfl, rfl⟩
      exact ⟨hpositive, hcount i hi⟩
    · rintro ⟨hpositive, rfl⟩
      obtain ⟨i, hi, rfl⟩ := hcovered k hpositive
      exact ⟨i, ⟨hi, by rw [hcount i hi]; exact hpositive⟩, rfl, hcount i hi⟩

theorem eq_map {keys : List κ} (h : Lists rank entries quantity)
    (hascending : keys.Pairwise fun first second => rank first < rank second)
    (hcovered : ∀ key, 0 < quantity key → key ∈ keys) :
    entries =
      (keys.filter fun key => decide (0 < quantity key)).map fun key => (key, quantity key) :=
  h.unique (of_indexes hascending (fun _ _ => rfl) fun key hpositive =>
    ⟨key, hcovered key hpositive, rfl⟩)

theorem sum_filter {keys : List κ} (h : Lists rank entries quantity)
    (hascending : keys.Pairwise fun first second => rank first < rank second)
    (hcovered : ∀ key, 0 < quantity key → key ∈ keys) (p : κ → Bool) :
    ((entries.filter fun entry => p entry.1).map Prod.snd).sum =
      ((keys.filter p).map quantity).sum := by
  have hfilter : (keys.filter fun key => decide (0 < quantity key)).filter p =
      (keys.filter p).filter fun key => decide (0 < quantity key) := by
    simp only [List.filter_filter, Bool.and_comm]
  calc
    ((entries.filter fun entry => p entry.1).map Prod.snd).sum =
        (((keys.filter fun key => decide (0 < quantity key)).filter p).map quantity).sum := by
      rw [h.eq_map hascending hcovered, List.filter_map, List.map_map]
      rfl
    _ = ((keys.filter p).map quantity).sum := by rw [hfilter, sum_filter_pos]

end Lists

end EasyConnect
