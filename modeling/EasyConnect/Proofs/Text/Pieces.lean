import Mathlib.Data.List.Basic

namespace EasyConnect.Text

/-! Texts put together from pieces. The pieces can be told from the whole if there is a character
in what stands between them that none of them has. -/

theorem append_cons_cancel [DecidableEq α] {c : α} {first second rest other : List α}
    (hfirst : c ∉ first) (hsecond : c ∉ second)
    (h : first ++ c :: rest = second ++ c :: other) : first = second ∧ rest = other := by
  have hsplit := congrArg (List.splitOn c) h
  rw [List.splitOn_append_cons_self_of_not_mem hfirst,
    List.splitOn_append_cons_self_of_not_mem hsecond] at hsplit
  obtain rfl := (List.cons.inj hsplit).1
  exact ⟨rfl, (List.cons.inj (List.append_cancel_left h)).2⟩

theorem map_cancel {f : α → β} {first second : List α}
    (hf : ∀ a ∈ first, ∀ b ∈ second, f a = f b → a = b)
    (h : first.map f = second.map f) : first = second := by
  induction first generalizing second with
  | nil => exact (List.map_eq_nil_iff.mp h.symm).symm
  | cons a rest ih =>
      cases second with
      | nil => cases h
      | cons b others =>
          obtain ⟨hhead, htail⟩ := List.cons.inj h
          rw [hf a List.mem_cons_self b List.mem_cons_self hhead,
            ih (fun x hx y hy => hf x (List.mem_cons_of_mem _ hx) y (List.mem_cons_of_mem _ hy))
              htail]

theorem flatMap_cancel {f g : α → List β} {xs : List α}
    (hlength : ∀ x ∈ xs, (f x).length = (g x).length) (h : xs.flatMap f = xs.flatMap g) :
    ∀ x ∈ xs, f x = g x := by
  induction xs with
  | nil => exact fun x hx => absurd hx List.not_mem_nil
  | cons first rest ih =>
      rw [List.flatMap_cons, List.flatMap_cons] at h
      obtain ⟨hfirst, hrest⟩ := List.append_inj h (hlength first List.mem_cons_self)
      have htail := ih (fun x hx => hlength x (List.mem_cons_of_mem _ hx)) hrest
      exact List.forall_mem_cons.mpr ⟨hfirst, htail⟩

section Separated

variable {separator : String} {c : Char}

theorem append_separator_cancel (hc : c ∈ separator.toList)
    {first second rest other : String} (hfirst : c ∉ first.toList)
    (hsecond : c ∉ second.toList)
    (h : first ++ separator ++ rest = second ++ separator ++ other) :
    first = second ∧ rest = other := by
  obtain ⟨before, after, hseparator, hbefore⟩ := List.eq_append_cons_of_mem hc
  have hnot {piece : String} (hpiece : c ∉ piece.toList) : c ∉ piece.toList ++ before := by
    rw [List.mem_append]
    exact not_or.mpr ⟨hpiece, hbefore⟩
  have hlists := congrArg String.toList h
  simp only [String.toList_append, hseparator, List.append_assoc, List.cons_append] at hlists
  rw [← List.append_assoc, ← List.append_assoc] at hlists
  obtain ⟨hpieces, hrest⟩ := append_cons_cancel (hnot hfirst) (hnot hsecond) hlists
  exact ⟨String.toList_inj.mp (List.append_cancel_right hpieces),
    String.toList_inj.mp (List.append_cancel_left hrest)⟩

theorem mem_intercalate_of_separator (hc : c ∈ separator.toList) (first second : String)
    (rest : List String) : c ∈ (separator.intercalate (first :: second :: rest)).toList := by
  rw [String.intercalate_cons_cons, String.toList_append, String.toList_append]
  exact List.mem_append_left _ (List.mem_append_right _ hc)

theorem mem_intercalate {c : Char} {pieces : List String}
    (h : c ∈ (separator.intercalate pieces).toList) :
    c ∈ separator.toList ∨ ∃ piece ∈ pieces, c ∈ piece.toList := by
  induction pieces with
  | nil => exact absurd h List.not_mem_nil
  | cons first rest ih =>
      cases rest with
      | nil =>
          rw [String.intercalate_singleton] at h
          exact .inr ⟨first, List.mem_cons_self, h⟩
      | cons second rest =>
          rw [String.intercalate_cons_cons, String.toList_append, String.toList_append] at h
          rcases List.mem_append.mp h with h | hrest
          · rcases List.mem_append.mp h with hfirst | hseparator
            · exact .inr ⟨first, List.mem_cons_self, hfirst⟩
            · exact .inl hseparator
          · rcases ih hrest with hseparator | ⟨piece, hpiece, hmem⟩
            · exact .inl hseparator
            · exact .inr ⟨piece, List.mem_cons_of_mem _ hpiece, hmem⟩

theorem intercalate_cancel (hc : c ∈ separator.toList) {pieces others : List String}
    (hpieces : ∀ piece ∈ pieces, c ∉ piece.toList)
    (hothers : ∀ piece ∈ others, c ∉ piece.toList)
    (hnonempty : pieces ≠ []) (hnonempty' : others ≠ [])
    (h : separator.intercalate pieces = separator.intercalate others) : pieces = others := by
  induction pieces generalizing others with
  | nil => exact absurd rfl hnonempty
  | cons first rest ih =>
      cases others with
      | nil => exact absurd rfl hnonempty'
      | cons other later =>
          have hfirst := hpieces first List.mem_cons_self
          have hother := hothers other List.mem_cons_self
          cases rest with
          | nil =>
              cases later with
              | nil => rw [String.intercalate_singleton, String.intercalate_singleton] at h; rw [h]
              | cons second later =>
                  rw [String.intercalate_singleton] at h
                  rw [h] at hfirst
                  exact absurd (mem_intercalate_of_separator hc other second later) hfirst
          | cons second rest =>
              cases later with
              | nil =>
                  rw [String.intercalate_singleton] at h
                  rw [← h] at hother
                  exact absurd (mem_intercalate_of_separator hc first second rest) hother
              | cons another later =>
                  rw [String.intercalate_cons_cons, String.intercalate_cons_cons] at h
                  obtain ⟨rfl, htail⟩ := append_separator_cancel hc hfirst hother h
                  rw [ih (fun piece hpiece => hpieces piece (List.mem_cons_of_mem _ hpiece))
                    (fun piece hpiece => hothers piece (List.mem_cons_of_mem _ hpiece))
                    (List.cons_ne_nil _ _) (List.cons_ne_nil _ _) htail]

end Separated

def splitLines (text : String) : List String :=
  (text.toList.splitOn '\n').map String.ofList

theorem splitLines_intercalate {lines : List String} (hnonempty : lines ≠ [])
    (hlines : ∀ line ∈ lines, '\n' ∉ line.toList) :
    splitLines ("\n".intercalate lines) = lines := by
  have hbreak : "\n".toList = ['\n'] := rfl
  rw [splitLines, String.toList_intercalate, hbreak, List.splitOn_intercalate]
  · rw [List.map_map]
    simp only [Function.comp_def, String.ofList_toList, List.map_id']
  · intro line hline
    obtain ⟨text, htext, rfl⟩ := List.mem_map.mp hline
    exact hlines text htext
  · exact fun h => hnonempty (List.map_eq_nil_iff.mp h)

def isMarkup (c : Char) : Bool :=
  c == '=' || c == '|' || c == ' ' || c == '\n'

def IsUnmarked (text : String) : Prop :=
  ∀ c ∈ text.toList, isMarkup c = false

instance (text : String) : Decidable (IsUnmarked text) :=
  List.decidableBAll (fun c => isMarkup c = false) text.toList

theorem IsUnmarked.not_mem {text : String} (h : IsUnmarked text) {c : Char}
    (hc : isMarkup c = true) : c ∉ text.toList := by
  intro hmem
  rw [h c hmem] at hc
  cases hc

theorem IsUnmarked.append {first second : String} (h : IsUnmarked first)
    (h' : IsUnmarked second) : IsUnmarked (first ++ second) := by
  intro c hc
  rw [String.toList_append, List.mem_append] at hc
  exact hc.elim (h c) (h' c)

end EasyConnect.Text
