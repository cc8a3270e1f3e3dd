import EasyConnect.Collector.Ledger
import EasyConnect.Proofs.Collector.Totals
import EasyConnect.Proofs.Histogram.Sparse

namespace EasyConnect

/-! A ledger stands for the collector with a count for every slot: step by step both answer alike,
and the models accept every entry that a ledger holds. -/

theorem Validated.recorded_accepted (model : Model) (entry : α) :
    (Validated.accepted entry).recorded model = .ok entry := rfl

theorem StatusCount.ofMembers_members (type : StatusType) {count : Int} (h : 0 ≤ count) :
    ofMembers (type.members count) = .accepted ⟨type, count.toNat⟩ := by
  have htype : Members.required (type.members count) "dpp_status_type" readStatusType =
      .ofMember "dpp_status_type" (readStatusType (.int type.code)) := rfl
  have hcount : Members.required (type.members count) "count" readCount =
      .ofMember "count" (readCount (.int count)) := rfl
  rw [ofMembers, htype, hcount, readStatusType_code, readCount_of_nonneg h]
  rfl

namespace Dictionary

/-- The book has what is held for each of the codes, under the code's type, and nothing else. -/
structure Keeps (book : Dictionary StatusType Int) (type : γ → StatusType) (held : γ → Int) :
    Prop where
  getD : ∀ code, book.getD (type code) 0 = held code
  ofCode : ∀ {key : StatusType} {count : Int}, book.get? key = some count →
    ∃ code, type code = key
  positive : ∀ {key : StatusType} {count : Int}, book.get? key = some count → 0 < count

namespace Keeps

variable {book : Dictionary StatusType Int} {type : γ → StatusType} {held : γ → Int}

theorem empty : (Dictionary.empty : Dictionary StatusType Int).Keeps type fun _ => 0 := by
  constructor
  · intro code
    rfl
  · intro key count h
    cases h
  · intro key count h
    cases h

theorem nonneg (h : book.Keeps type held) (code : γ) : 0 ≤ held code := by
  rw [← h.getD, Dictionary.getD]
  cases hcount : book.get? (type code) with
  | none => exact Int.le_refl 0
  | some count => exact Int.le_of_lt (h.positive hcount)

theorem get? (h : book.Keeps type held) (code : γ) :
    book.get? (type code) = if 0 < held code then some (held code) else none := by
  rw [← h.getD, Dictionary.getD]
  cases hcount : book.get? (type code) with
  | none => rfl
  | some count => rw [Option.getD_some, if_pos (h.positive hcount)]

theorem bump [DecidableEq γ] (h : book.Keeps type held)
    (hinjective : ∀ {first second}, type first = type second → first = second) (code : γ) :
    (book.bump (type code)).Keeps type
      fun other => held other + if code = other then 1 else 0 := by
  have hfound {key : StatusType} {count : Int}
      (hkey : (book.bump (type code)).get? key = some count) :
      type code = key ∧ count = held code + 1 ∨ book.get? key = some count := by
    rw [Dictionary.bump, get?_set, h.getD] at hkey
    split at hkey
    · rename_i heq
      exact .inl ⟨heq, (Option.some.inj hkey).symm⟩
    · exact .inr hkey
  constructor
  case getD =>
    intro other
    have htype : type code = type other ↔ code = other :=
      ⟨hinjective, congrArg type⟩
    simp only [getD_bump, h.getD, htype]
  case ofCode =>
    intro key count hkey
    rcases hfound hkey with ⟨heq, -⟩ | hbefore
    · exact ⟨code, heq⟩
    · exact h.ofCode hbefore
  case positive =>
    intro key count hkey
    rcases hfound hkey with ⟨-, rfl⟩ | hbefore
    · exact Int.lt_add_one_of_le (h.nonneg code)
    · exact h.positive hbefore

theorem statusCounts (h : book.Keeps type held) {codes : List γ}
    (hascending : (codes.map type).Pairwise fun first second => first.code < second.code)
    (hcodes : ∀ code, code ∈ codes) :
    book.statusCounts = .ok (codes.filterMap fun code =>
      if 0 < held code then some ⟨type code, (held code).toNat⟩ else none) := by
  have hsorted : book.sorted StatusType.code = book.among (codes.map type) := by
    apply sorted_eq_among fun _ _ => StatusType.code_injective
    · exact hascending
    · intro key hkey
      obtain ⟨⟨_, count⟩, hentry, rfl⟩ := List.mem_map.mp hkey
      obtain ⟨code, rfl⟩ := h.ofCode (mem_entries_iff.mp hentry)
      exact List.mem_map_of_mem (hcodes code)
  have haccepted : (book.among (codes.map type)).mapM (fun entry =>
        (StatusCount.ofMembers (entry.1.members entry.2)).recorded .statusCount) =
      .ok ((book.among (codes.map type)).map fun entry => ⟨entry.1, entry.2.toNat⟩) := by
    apply mapM_eq_ok_map
    intro entry hentry
    have hpositive := h.positive (mem_among_iff.mp hentry).2
    rw [StatusCount.ofMembers_members entry.1 (Int.le_of_lt hpositive),
      Validated.recorded_accepted]
  rw [Dictionary.statusCounts, hsorted, haccepted, among, List.filterMap_map, List.map_filterMap]
  simp only [Function.comp_apply, h.get?]
  congr 2
  funext code
  split <;> rfl

end Keeps

end Dictionary

theorem Counter.name_injective : Function.Injective Counter.name := by
  have hnodup : (all.map name).Nodup := by decide +kernel
  intro first second h
  exact List.inj_on_of_nodup_map hnodup first.mem_all second.mem_all h

theorem Counter.lookup_named (entries : List (Counter × Int)) (counter : Counter) :
    (entries.map fun (other, count) => (other.name, Value.int count)).lookup counter.name =
      (entries.lookup counter).map Value.int := by
  induction entries with
  | nil => rfl
  | cons entry rest ih =>
      rw [List.map_cons, Dictionary.lookup_cons, Dictionary.lookup_cons, ih]
      by_cases hcounter : entry.1 = counter
      · rw [if_pos hcounter, if_pos (congrArg name hcounter), Option.map_some]
      · rw [if_neg hcounter, if_neg fun h => hcounter (name_injective h)]

namespace Ledger

variable {boundaries : Boundaries} {ledger : Ledger boundaries} {collector : Collector boundaries}

/-- The ledger holds what the collector does, each book in its own way. -/
structure StandsFor (ledger : Ledger boundaries) (collector : Collector boundaries) : Prop where
  counters : ∀ counter : Counter,
    ledger.counters.get? counter = some (collector.counters.get counter.index)
  failures : ledger.failures.Keeps .failure fun code => collector.failures.get code.index
  successes : ledger.successes.Keeps .success fun code => collector.successes.get code.index
  durations : ledger.durations.dense = collector.durations

/-- The same outcome, with states of which the one stands for the other. -/
structure Alike (taken : Ledger boundaries × Outcome) (other : Collector boundaries × Outcome) :
    Prop where
  state : taken.1.StandsFor other.1
  outcome : taken.2 = other.2

theorem standsFor_clear (ledger : Ledger boundaries) :
    ledger.clear.StandsFor (.empty boundaries) := by
  constructor
  case counters =>
    intro counter
    rw [clear, Dictionary.get?_fill, if_pos counter.mem_all, Collector.empty, Tally.get_empty]
  case failures =>
    simp only [Collector.empty, Tally.get_empty]
    exact .empty
  case successes =>
    simp only [Collector.empty, Tally.get_empty]
    exact .empty
  case durations => exact SparseHistogram.dense_empty

theorem standsFor_empty (boundaries : Boundaries) :
    (empty boundaries).StandsFor (.empty boundaries) :=
  standsFor_clear ⟨.empty, .empty, .empty, .empty boundaries⟩

namespace StandsFor

theorem count (h : ledger.StandsFor collector) (counter : Counter) :
    (ledger.count counter).StandsFor (collector.count counter) where
  failures := h.failures
  successes := h.successes
  durations := h.durations
  counters := by
    intro other
    rw [Ledger.count, Dictionary.bump, Dictionary.get?_set, Dictionary.getD, h.counters,
      h.counters, Option.getD_some, Collector.count, Tally.get_add]
    by_cases hcounter : counter = other
    · rw [if_pos hcounter, if_pos (congrArg Counter.index hcounter), hcounter]
    · rw [if_neg hcounter, if_neg fun h => hcounter (Counter.index_inj.mp h), Int.add_zero]

theorem addSuccess (h : ledger.StandsFor collector) (code : SuccessCode) :
    (ledger.addSuccess code).StandsFor (collector.addSuccess code) where
  counters := h.counters
  failures := h.failures
  durations := h.durations
  successes := by
    simp only [Collector.addSuccess, Tally.get_add, SuccessCode.index_inj]
    exact h.successes.bump StatusType.success.inj code

theorem addFailure (h : ledger.StandsFor collector) (code : FailureCode) :
    (ledger.addFailure code).StandsFor (collector.addFailure code) where
  counters := h.counters
  successes := h.successes
  durations := h.durations
  failures := by
    simp only [Collector.addFailure, Tally.get_add, FailureCode.index_inj]
    exact h.failures.bump StatusType.failure.inj code

theorem addDuration (h : ledger.StandsFor collector) (millis : Nat) :
    (ledger.addDuration millis).StandsFor (collector.addDuration millis) where
  counters := h.counters
  failures := h.failures
  successes := h.successes
  durations := by
    rw [Ledger.addDuration, Collector.addDuration, SparseHistogram.dense_increment, h.durations]

theorem failureCounts (h : ledger.StandsFor collector) :
    ledger.failures.statusCounts = .ok collector.failureCounts :=
  h.failures.statusCounts (by decide) FailureCode.mem_all

theorem successCounts (h : ledger.StandsFor collector) :
    ledger.successes.statusCounts = .ok collector.successCounts :=
  h.successes.statusCounts (by decide) SuccessCode.mem_all

theorem countersOf (h : ledger.StandsFor collector) :
    Record.countersOf
        (ledger.counters.entries.map fun (counter, count) => (counter.name, .int count)) =
      .accepted collector.counters := by
  apply Record.countersOf_eq_accepted
  intro counter
  have hcount := h.counters counter
  rw [Dictionary.get?] at hcount
  rw [Counter.lookup_named, hcount, Option.map_some]

theorem record? (h : ledger.StandsFor collector) : ledger.record? = collector.record? := by
  have hbuckets := ledger.durations.buckets_dense
  rw [h.durations] at hbuckets
  rw [Ledger.record?, h.failureCounts, h.successCounts, ← hbuckets, h.countersOf,
    Collector.record?]
  cases collector.durations.buckets.mapM Bucket.record? <;> rfl

theorem success (h : ledger.StandsFor collector) (value : Value) :
    Alike (ledger.step (.success value)) (collector.success value) := by
  rw [Ledger.step, Collector.success]
  cases SuccessCode.ofValue? value with
  | error key => exact ⟨h, rfl⟩
  | ok found =>
      cases found with
      | none => exact ⟨h, rfl⟩
      | some code => exact ⟨h.addSuccess code, rfl⟩

theorem failure (h : ledger.StandsFor collector) (value : Value) :
    Alike (ledger.step (.failure value)) (collector.failure value) := by
  rw [Ledger.step, Collector.failure]
  cases FailureCode.ofValue? value with
  | error key => exact ⟨h, rfl⟩
  | ok found =>
      cases found with
      | none => exact ⟨h, rfl⟩
      | some code => exact ⟨h.addFailure code, rfl⟩

theorem reading (h : ledger.StandsFor collector) (answer : Record → Outcome) :
    Alike (ledger.answering ledger answer) (collector.reading answer) := by
  rw [Ledger.answering, Collector.reading, h.record?]
  cases collector.record? with
  | ok record => exact ⟨h, rfl⟩
  | error fault => exact ⟨h, rfl⟩

theorem draining (h : ledger.StandsFor collector) (answer : Record → Outcome) :
    Alike (ledger.answering ledger.clear answer) (collector.draining answer) := by
  rw [Ledger.answering, Collector.draining, h.record?]
  cases collector.record? with
  | ok record => exact ⟨ledger.standsFor_clear, rfl⟩
  | error fault => exact ⟨h, rfl⟩

theorem step (h : ledger.StandsFor collector) (step : Step) :
    Alike (ledger.step step) (collector.step step) := by
  cases step with
  | count counter => exact ⟨h.count counter, rfl⟩
  | success value => exact h.success value
  | failure value => exact h.failure value
  | duration value => exact ⟨h.addDuration value.millis.1, rfl⟩
  | clear => exact ⟨ledger.standsFor_clear, rfl⟩
  | drain => exact h.draining _
  | record => exact h.reading _
  | lines => exact h.reading _
  | dump refusal =>
      cases refusal with
      | none => exact h.reading _
      | some message => exact h.reading _
  | boundaries => exact ⟨h, rfl⟩
  | report timestamp reset =>
      cases reset with
      | false => exact h.reading _
      | true => exact h.draining _

theorem run (h : ledger.StandsFor collector) (steps : List Step) :
    (ledger.run steps).1.StandsFor (collector.run steps).1 ∧
      (ledger.run steps).2 = (collector.run steps).2 := by
  induction steps generalizing ledger collector with
  | nil => exact ⟨h, rfl⟩
  | cons step later ih =>
      have hstep := h.step step
      have hlater := ih hstep.state
      exact ⟨hlater.1, congrArg₂ List.cons hstep.outcome hlater.2⟩

end StandsFor

/-- On any boundaries and whatever the steps, books and counts answer alike, and in the end the
ones still stand for the others. -/
theorem run_standsFor (boundaries : Boundaries) (steps : List Step) :
    ((empty boundaries).run steps).1.StandsFor ((Collector.empty boundaries).run steps).1 ∧
      ((empty boundaries).run steps).2 = ((Collector.empty boundaries).run steps).2 :=
  (standsFor_empty boundaries).run steps

/-- A status is in its book only with a count above zero, and such entries are never refused. -/
theorem entries_run (boundaries : Boundaries) (steps : List Step) :
    ∀ entry ∈ ((empty boundaries).run steps).1.failures.entries ++
        ((empty boundaries).run steps).1.successes.entries,
      0 < entry.2 ∧
        StatusCount.ofMembers (entry.1.members entry.2) = .accepted ⟨entry.1, entry.2.toNat⟩ := by
  intro entry hentry
  have hstands := (run_standsFor boundaries steps).1
  have hpositive : 0 < entry.2 := by
    rcases List.mem_append.mp hentry with hfailure | hsuccess
    · exact hstands.failures.positive (Dictionary.mem_entries_iff.mp hfailure)
    · exact hstands.successes.positive (Dictionary.mem_entries_iff.mp hsuccess)
  exact ⟨hpositive, StatusCount.ofMembers_members entry.1 (Int.le_of_lt hpositive)⟩

theorem record?_run_shows (whole : WholeBoundaries) (steps : List Step) :
    ∃ record, ((empty whole.toBoundaries).run steps).1.record? = .ok record ∧
      record.Shows (Totals.ofSteps whole (steps.rtakeWhile fun step => !step.resets)) := by
  have hholds := Collector.holds_run whole.toBoundaries steps
  rw [Collector.sinceReset_transcript] at hholds
  rw [(run_standsFor whole.toBoundaries steps).1.record?]
  exact Collector.record?_shows hholds

end Ledger

end EasyConnect
