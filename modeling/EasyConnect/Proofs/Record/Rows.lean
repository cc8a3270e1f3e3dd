import EasyConnect.Proofs.Numeral.Decimal
import EasyConnect.Proofs.Record.Listed
import Mathlib.Data.List.Nodup

namespace EasyConnect

open Text

/-! The rows of a record: a name and a number for each counter and for each entry of a histogram.
Every text of a record is made of them, and they make up the record. -/

theorem Counter.isUnmarked_name (counter : Counter) : IsUnmarked counter.name := by
  cases counter <;> decide +kernel

theorem SuccessCode.isUnmarked_name (code : SuccessCode) : IsUnmarked code.name := by
  cases code <;> decide +kernel

theorem FailureCode.isUnmarked_name (code : FailureCode) : IsUnmarked code.name := by
  cases code <;> decide +kernel

theorem StatusType.isUnmarked_name (type : StatusType) : IsUnmarked type.name := by
  have hevent : IsUnmarked "EASY_CONNECT_EVENT_" := by decide +kernel
  have hunknown : IsUnmarked "EASY_CONNECT_EVENT_UNKNOWN" := by decide +kernel
  cases type with
  | unknown => exact hunknown
  | success code => exact hevent.append code.isUnmarked_name
  | failure code => exact hevent.append code.isUnmarked_name

theorem StatusType.name_injective : Function.Injective StatusType.name := by
  have hnodup : (all.map name).Nodup := by decide +kernel
  intro first second h
  exact List.inj_on_of_nodup_map hnodup first.mem_all second.mem_all h

namespace BucketCount

def stopText : Option Int → String
  | some stop => Numeral.decimal stop
  | none => "inf"

theorem label_eq (bucket : BucketCount) :
    bucket.label =
      "[" ++ (Numeral.decimal bucket.start ++ "," ++ (stopText bucket.stop ++ ")")) := by
  obtain ⟨start, stop, count⟩ := bucket
  cases stop <;> simp only [label, stopText, String.append_assoc]

theorem stopText_injective : Function.Injective stopText := by
  have hinf (n : Int) : Numeral.decimal n ≠ "inf" := by
    intro h
    apply Numeral.not_mem_decimal (by decide : 'i'.isDigit = false) (by decide) n
    rw [h]
    decide
  intro first second h
  cases first with
  | none =>
      cases second with
      | none => rfl
      | some stop => exact absurd h.symm (hinf stop)
  | some stop =>
      cases second with
      | none => exact absurd h (hinf stop)
      | some other => rw [Numeral.decimal_injective h]

theorem label_cancel {first second : BucketCount} (h : first.label = second.label) :
    first.start = second.start ∧ first.stop = second.stop := by
  have hcomma (n : Int) : ',' ∉ (Numeral.decimal n).toList :=
    Numeral.not_mem_decimal (by decide) (by decide) n
  rw [label_eq, label_eq, String.append_right_inj] at h
  obtain ⟨hstart, hrest⟩ := append_separator_cancel (by decide) (hcomma _) (hcomma _) h
  have hstop := (String.append_left_inj ")").mp hrest
  exact ⟨Numeral.decimal_injective hstart, stopText_injective hstop⟩

theorem isUnmarked_label (bucket : BucketCount) : IsUnmarked bucket.label := by
  have hopen : IsUnmarked "[" := by decide
  have hcomma : IsUnmarked "," := by decide
  have hclose : IsUnmarked ")" := by decide
  have hstop : IsUnmarked (stopText bucket.stop) := by
    cases bucket.stop with
    | none => exact (by decide : IsUnmarked "inf")
    | some stop => exact Numeral.isUnmarked_decimal stop
  rw [label_eq]
  exact hopen.append
    (((Numeral.isUnmarked_decimal _).append hcomma).append (hstop.append hclose))

end BucketCount

namespace Record

theorem isUnmarked_of_mem_namedCounters {record : Record} {row : String × Int}
    (h : row ∈ record.namedCounters) : IsUnmarked row.1 := by
  obtain ⟨counter, -, rfl⟩ := List.mem_map.mp h
  exact counter.isUnmarked_name

theorem isUnmarked_of_mem_rows {record : Record} {book : Book} {row : String × Int}
    (h : row ∈ (record.part book).rows) : IsUnmarked row.1 := by
  cases book with
  | failures =>
      obtain ⟨entry, -, rfl⟩ := List.mem_map.mp h
      exact entry.type.isUnmarked_name
  | successes =>
      obtain ⟨entry, -, rfl⟩ := List.mem_map.mp h
      exact entry.type.isUnmarked_name
  | durations =>
      obtain ⟨bucket, -, rfl⟩ := List.mem_map.mp h
      exact bucket.isUnmarked_label

theorem rows_eq_nil_iff {record : Record} {book : Book} :
    (record.part book).rows = [] ↔ record.counts book = [] := by
  rw [← List.isEmpty_iff, ← List.isEmpty_iff, isEmpty_rows_part]

theorem counters_eq_of_namedCounters {first second : Record}
    (h : first.namedCounters = second.namedCounters) : first.counters = second.counters := by
  apply Tally.ext
  intro i
  have hrow := List.map_inj_left.mp h (Counter.ofIndex i) (Counter.mem_all _)
  have hcount := (Prod.mk.inj hrow).2
  simpa only [counter, Counter.index_ofIndex] using hcount

theorem statusRow_injective :
    Function.Injective fun entry : StatusCount => (entry.type.name, (entry.count : Int)) := by
  rintro ⟨type, count⟩ ⟨type', count'⟩ h
  obtain ⟨hname, hcount⟩ := Prod.mk.inj h
  have htype : type = type' := StatusType.name_injective hname
  have hnumber : count = count' := Int.ofNat_inj.mp hcount
  rw [htype, hnumber]

theorem bucketRow_injective :
    Function.Injective fun bucket : BucketCount => (bucket.label, (bucket.count : Int)) := by
  rintro ⟨start, stop, count⟩ ⟨start', stop', count'⟩ h
  obtain ⟨hlabel, hcount⟩ := Prod.mk.inj h
  obtain ⟨hstart, hstop⟩ := BucketCount.label_cancel hlabel
  have hnumber : count = count' := Int.ofNat_inj.mp hcount
  dsimp only at hstart hstop
  rw [hstart, hstop, hnumber]

theorem eq_of_rows {first second : Record}
    (hcounters : first.namedCounters = second.namedCounters)
    (hrows : ∀ book, (first.part book).rows = (second.part book).rows) : first = second := by
  have htally := counters_eq_of_namedCounters hcounters
  have hfailures := statusRow_injective.list_map (hrows .failures)
  have hsuccesses := statusRow_injective.list_map (hrows .successes)
  have hdurations := bucketRow_injective.list_map (hrows .durations)
  obtain ⟨counters, failures, successes, operationTime⟩ := first
  obtain ⟨counters', failures', successes', operationTime'⟩ := second
  dsimp only at htally hfailures hsuccesses hdurations
  rw [htally, hfailures, hsuccesses, hdurations]

end Record

end EasyConnect
