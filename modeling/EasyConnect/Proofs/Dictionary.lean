import EasyConnect.Dictionary
import Mathlib.Data.List.Nodup

namespace EasyConnect

/-! What a dictionary holds is told by its look-ups, and so is the order of its sorted entries. -/

namespace Dictionary

variable {κ α : Type}

theorem perm_sorted (dictionary : Dictionary κ α) (rank : κ → Nat) :
    (dictionary.sorted rank).Perm dictionary.entries :=
  List.mergeSort_perm _ _

theorem pairwise_sorted (dictionary : Dictionary κ α) (rank : κ → Nat) :
    (dictionary.sorted rank).Pairwise fun first second => rank first.1 ≤ rank second.1 := by
  apply (List.pairwise_mergeSort _ _ dictionary.entries).imp of_decide_eq_true
  · intro first second third hle hle'
    exact decide_eq_true (Nat.le_trans (of_decide_eq_true hle) (of_decide_eq_true hle'))
  · intro first second
    rw [Bool.or_eq_true, decide_eq_true_eq, decide_eq_true_eq]
    exact Nat.le_total _ _

variable [DecidableEq κ]

theorem mem_iff_lookup {entries : List (κ × α)} (h : (entries.map Prod.fst).Nodup)
    {key : κ} {value : α} : (key, value) ∈ entries ↔ entries.lookup key = some value := by
  induction entries with
  | nil => simp
  | cons entry rest ih =>
      rw [List.map_cons, List.nodup_cons] at h
      rw [lookup_cons, List.mem_cons]
      by_cases hkey : entry.1 = key
      · have habsent : (key, value) ∉ rest := fun hmem =>
          h.1 (hkey ▸ List.mem_map_of_mem hmem)
        rw [if_pos hkey, or_iff_left habsent, Prod.ext_iff, Option.some.injEq, ← hkey]
        simp [eq_comm]
      · have hother : (key, value) ≠ entry := fun heq => hkey (congrArg Prod.fst heq).symm
        rw [if_neg hkey, or_iff_right hother, ih h.2]

theorem mem_entries_iff {dictionary : Dictionary κ α} {key : κ} {value : α} :
    (key, value) ∈ dictionary.entries ↔ dictionary.get? key = some value :=
  mem_iff_lookup dictionary.nodup

def among (dictionary : Dictionary κ α) (order : List κ) : List (κ × α) :=
  order.filterMap fun key => (dictionary.get? key).map fun value => (key, value)

theorem mem_among_iff {dictionary : Dictionary κ α} {order : List κ} {key : κ} {value : α} :
    (key, value) ∈ dictionary.among order ↔ key ∈ order ∧ dictionary.get? key = some value := by
  simp [among, List.mem_filterMap]

theorem pairwise_among {R : κ → κ → Prop} {order : List κ} (h : order.Pairwise R)
    (dictionary : Dictionary κ α) :
    (dictionary.among order).Pairwise fun first second => R first.1 second.1 := by
  apply h.filterMap
  intro first second hlt entry hentry entry' hentry'
  simp only [Option.map_eq_some_iff] at hentry hentry'
  obtain ⟨value, -, rfl⟩ := hentry
  obtain ⟨value', -, rfl⟩ := hentry'
  exact hlt

/-- Sorting neither loses nor doubles an entry: a list of all keys in their order, whatever else
is in it, gives the same entries one after the other. -/
theorem sorted_eq_among {dictionary : Dictionary κ α} {rank : κ → Nat} {order : List κ}
    (hrank : ∀ first second, rank first = rank second → first = second)
    (hascending : order.Pairwise fun first second => rank first < rank second)
    (hcovered : ∀ key ∈ dictionary.keys, key ∈ order) :
    dictionary.sorted rank = dictionary.among order := by
  have hsorted := dictionary.perm_sorted rank
  have hlisted := dictionary.pairwise_among hascending
  have hmem (entry : κ × α) :
      entry ∈ dictionary.entries ↔ entry ∈ dictionary.among order := by
    obtain ⟨key, value⟩ := entry
    rw [mem_among_iff, mem_entries_iff, iff_and_self]
    intro hvalue
    exact hcovered key (List.mem_map_of_mem (mem_entries_iff.mpr hvalue))
  have hperm : dictionary.entries.Perm (dictionary.among order) := by
    rw [List.perm_ext_iff_of_nodup dictionary.nodup.of_map]
    · exact hmem
    · exact hlisted.imp fun hlt heq => absurd (heq ▸ hlt) (Nat.lt_irrefl _)
  apply (hsorted.trans hperm).eq_of_pairwise _ (dictionary.pairwise_sorted rank)
    (hlisted.imp Nat.le_of_lt)
  intro first second hfirst hsecond hle hge
  exact List.inj_on_of_nodup_map dictionary.nodup (hsorted.subset hfirst)
    ((hmem second).mpr hsecond) (hrank _ _ (Nat.le_antisymm hle hge))

end Dictionary

end EasyConnect
