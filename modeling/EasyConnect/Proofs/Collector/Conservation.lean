import EasyConnect.Proofs.Collector.Totals

namespace EasyConnect

/-! Collections split what is counted between their records: none of it is lost and none of it is
in two of them, in whatever order the calls of several clients come. -/

namespace Totals

instance : Zero Totals where
  zero := ⟨fun _ => 0, fun _ => 0, fun _ => 0, fun _ => 0⟩

instance : Add Totals where
  add first second := {
    counter := fun counter => first.counter counter + second.counter counter
    failure := fun type => first.failure type + second.failure type
    success := fun type => first.success type + second.success type
    duration := fun span => first.duration span + second.duration span }

theorem add_zero (totals : Totals) : totals + 0 = totals := by
  apply Totals.ext
  · funext counter
    exact Int.add_zero _
  · rfl
  · rfl
  · rfl

theorem zero_add (totals : Totals) : 0 + totals = totals := by
  apply Totals.ext
  · funext counter
    exact Int.zero_add _
  · funext type
    exact Nat.zero_add _
  · funext type
    exact Nat.zero_add _
  · funext span
    exact Nat.zero_add _

variable (whole : WholeBoundaries)

theorem ofSteps_nil : ofSteps whole [] = 0 := by
  apply Totals.ext
  · rfl
  · rfl
  · rfl
  · funext span
    exact ite_self 0

theorem ofSteps_append (first second : List Step) :
    ofSteps whole (first ++ second) = ofSteps whole first + ofSteps whole second := by
  apply Totals.ext
  · funext counter
    simp only [ofSteps, List.countP_append, Int.natCast_add]
    rfl
  · funext type
    exact List.countP_append
  · funext type
    exact List.countP_append
  · funext span
    change (ofSteps whole (first ++ second)).duration span =
      (ofSteps whole first).duration span + (ofSteps whole second).duration span
    simp only [ofSteps, List.countP_append]
    split <;> rfl

theorem ofSteps_perm {first second : List Step} (h : first.Perm second) :
    ofSteps whole first = ofSteps whole second := by
  simp only [ofSteps, h.countP_eq]

end Totals

namespace Step

def collects : Step → Bool
  | .drain | .report _ true => true
  | _ => false

end Step

theorem Totals.ofSteps_singleton (whole : WholeBoundaries) {step : Step}
    (h : step.isRecording = false) : ofSteps whole [step] = 0 := by
  have hcounts (counter : Counter) : step.counts counter = false := by
    cases step <;> first | rfl | cases h
  have hfails (type : StatusType) : step.failsAs type = false := by
    cases step <;> first | rfl | cases h
  have hsucceeds (type : StatusType) : step.succeedsAs type = false := by
    cases step <;> first | rfl | cases h
  have hlasts (span : Span) : step.lasts span = false := by
    cases step <;> first | rfl | cases h
  apply Totals.ext
  · funext counter
    simp only [ofSteps, List.countP_singleton, hcounts]
    rfl
  · funext type
    simp only [ofSteps, List.countP_singleton, hfails]
    rfl
  · funext type
    simp only [ofSteps, List.countP_singleton, hsucceeds]
    rfl
  · funext span
    simp only [ofSteps, List.countP_singleton, hlasts]
    split <;> rfl

theorem Totals.ofSteps_filter (whole : WholeBoundaries) (steps : List Step) :
    ofSteps whole (steps.filter Step.isRecording) = ofSteps whole steps := by
  induction steps with
  | nil => rfl
  | cons step later ih =>
      rw [← List.singleton_append, List.filter_append, ofSteps_append, ofSteps_append, ih]
      cases hrecording : step.isRecording with
      | true => rw [List.filter_singleton, hrecording]; rfl
      | false =>
          rw [List.filter_singleton, hrecording, ofSteps_singleton whole hrecording, cond_false,
            ofSteps_nil]

/-- One order of the calls of several clients: each call is whole, and those of one client keep
their order. -/
inductive Interleaving : List (List Step) → List Step → Prop
  | done {clients : List (List Step)} (finished : ∀ client ∈ clients, client = []) :
      Interleaving clients []
  | call (before after : List (List Step)) (step : Step) {client later : List Step}
      (rest : Interleaving (before ++ client :: after) later) :
      Interleaving (before ++ (step :: client) :: after) (step :: later)

theorem Interleaving.perm {clients : List (List Step)} {steps : List Step}
    (h : Interleaving clients steps) : clients.flatten.Perm steps := by
  induction h with
  | done finished => rw [List.flatten_eq_nil_iff.mpr finished]
  | call before after step rest ih =>
      rw [List.flatten_append, List.flatten_cons] at ih ⊢
      exact List.perm_middle.trans (ih.cons step)

def Outcome.record? (outcome : Outcome) : Option Record :=
  match outcome.answer with
  | .ok (.record record) => some record
  | .ok (.report report) => some report.record
  | _ => none

def collected (taken : List (Step × Outcome)) : List Record :=
  taken.filterMap fun taken => if taken.1.collects then taken.2.record? else none

theorem collected_cons {step : Step} {outcome : Outcome} {record : Record}
    (hcollects : step.collects = true) (hrecord : outcome.record? = some record)
    (later : List (Step × Outcome)) :
    collected ((step, outcome) :: later) = record :: collected later := by
  rw [collected, List.filterMap_cons]
  simp only [hcollects, if_true, hrecord]
  rfl

theorem collected_cons_of_not {step : Step} (h : step.collects = false) (outcome : Outcome)
    (later : List (Step × Outcome)) :
    collected ((step, outcome) :: later) = collected later := by
  rw [collected, List.filterMap_cons]
  simp only [h, Bool.false_eq_true, if_false]
  rfl

/-- What a record says by itself, its entries of one key added together. -/
def Record.totals (record : Record) : Totals where
  counter := record.counter
  failure type := countOf type (record.failures.map StatusCount.entry)
  success type := countOf type (record.successes.map StatusCount.entry)
  duration span := countOf span (record.operationTime.map BucketCount.entry)

theorem Record.Shows.totals_eq {record : Record} {totals : Totals}
    (h : record.Shows totals) : record.totals = totals := by
  apply Totals.ext
  · funext counter
    exact h.counters counter
  · funext type
    exact h.failures.countOf_eq type
  · funext type
    exact h.successes.countOf_eq type
  · funext span
    exact h.durations.countOf_eq span

theorem Step.isRecording_of_collects {step : Step} (h : step.collects = true) :
    step.isRecording = false := by
  cases step <;> first | rfl | cases h

theorem Step.resets_of_isRecording {step : Step} (h : step.isRecording = true) :
    step.resets = false := by
  cases step <;> first | rfl | cases h

theorem Step.resets_eq_collects {step : Step} (h : step ≠ .clear) :
    step.resets = step.collects := by
  cases step with
  | clear => exact absurd rfl h
  | report timestamp reset => cases reset <;> rfl
  | _ => rfl

namespace Collector

variable {whole : WholeBoundaries}

theorem step_of_collects {boundaries : Boundaries} {collector : Collector boundaries}
    {record : Record} (h : collector.record? = .ok record) {step : Step}
    (hcollects : step.collects = true) :
    (collector.step step).1 = empty boundaries ∧
      (collector.step step).2.record? = some record := by
  cases step with
  | drain => simp only [step, draining, h, Outcome.record?, and_self]
  | report timestamp reset =>
      cases reset with
      | false => cases hcollects
      | true => simp only [step, draining, h, Outcome.record?, and_self]
  | _ => cases hcollects

/-- At every moment, what was collected and what is still held make up all that was asked for. -/
theorem sum_collected {collector : Collector whole.toBoundaries} {before : List Step}
    (h : collector.Holds before) {steps : List Step} (hclear : Step.clear ∉ steps) :
    ∃ rest, (collector.run steps).1.record? = .ok rest ∧
      (collected (collector.transcript steps)).length = steps.countP Step.collects ∧
      ((collected (collector.transcript steps) ++ [rest]).map Record.totals).sum =
        Totals.ofSteps whole (before ++ steps) := by
  -- A collection forgets what came before it, so that part varies along the run.
  induction steps generalizing collector before with
  | nil =>
      obtain ⟨rest, hrest, hshows⟩ := record?_shows h
      refine ⟨rest, hrest, rfl, ?_⟩
      change rest.totals + 0 = _
      rw [Totals.add_zero, hshows.totals_eq, List.append_nil]
  | cons step later ih =>
      have hlater : Step.clear ∉ later := fun hin => hclear (List.mem_cons_of_mem _ hin)
      cases hcollects : step.collects with
      | true =>
          obtain ⟨record, hrecord, hshows⟩ := record?_shows h
          obtain ⟨hstate, hanswer⟩ := step_of_collects hrecord hcollects
          obtain ⟨rest, hrest, hlength, hsum⟩ := ih holds_empty hlater
          have hcons : collected (collector.transcript (step :: later)) =
              record :: collected ((empty whole.toBoundaries).transcript later) := by
            rw [transcript_cons, collected_cons hcollects hanswer, hstate]
          refine ⟨rest, ?_, ?_, ?_⟩
          · rw [run_cons, hstate]
            exact hrest
          · rw [hcons, List.length_cons, hlength, List.countP_cons, hcollects, if_pos rfl]
          · rw [hcons, List.cons_append, List.map_cons, List.sum_cons, hsum, hshows.totals_eq,
              List.nil_append, ← List.singleton_append, Totals.ofSteps_append,
              Totals.ofSteps_append,
              Totals.ofSteps_singleton whole (Step.isRecording_of_collects hcollects),
              Totals.zero_add]
      | false =>
          have hstep := h.step step
          have hne : step ≠ .clear := fun heq => hclear (heq ▸ List.mem_cons_self)
          rw [Step.emptied, Step.resets_eq_collects hne, hcollects, Bool.false_and,
            if_neg Bool.false_ne_true] at hstep
          obtain ⟨rest, hrest, hlength, hsum⟩ := ih hstep hlater
          have hcons : collected (collector.transcript (step :: later)) =
              collected ((collector.step step).1.transcript later) := by
            rw [transcript_cons, collected_cons_of_not hcollects]
          refine ⟨rest, hrest, ?_, ?_⟩
          · rw [hcons, hlength, List.countP_cons, hcollects, if_neg Bool.false_ne_true,
              Nat.add_zero]
          · rw [hcons, hsum, List.append_assoc, List.singleton_append]

theorem record?_recordings (whole : WholeBoundaries) (steps : List Step) :
    ∃ total,
      ((empty whole.toBoundaries).run (steps.filter Step.isRecording)).1.record? = .ok total ∧
        total.Shows (Totals.ofSteps whole steps) := by
  have hholds := holds_run whole.toBoundaries (steps.filter Step.isRecording)
  have hkept : (steps.filter Step.isRecording).rtakeWhile (fun step => !step.resets) =
      steps.filter Step.isRecording := by
    rw [List.rtakeWhile_eq_self_iff]
    intro step hstep
    rw [Step.resets_of_isRecording (List.of_mem_filter hstep), Bool.not_false]
  rw [sinceReset_transcript, hkept] at hholds
  obtain ⟨total, htotal, hshows⟩ := record?_shows hholds
  rw [Totals.ofSteps_filter] at hshows
  exact ⟨total, htotal, hshows⟩

/-- Added together, the collected records and the last one are the record of a collector that got
the same requests and no collection, be it in this order or one client after the other. -/
theorem collected_add_up (whole : WholeBoundaries) {clients : List (List Step)}
    {steps : List Step} (hclients : Interleaving clients steps)
    (hclear : ∀ client ∈ clients, Step.clear ∉ client) :
    ∃ config, Config.ofValues (whole.values.map Value.int) = .ok config ∧
      ∃ rest total : Record,
        ((empty config.durationBuckets).run steps).1.record? = .ok rest ∧
        ((empty config.durationBuckets).run (steps.filter Step.isRecording)).1.record? =
          .ok total ∧
        ((empty config.durationBuckets).run
          (clients.flatten.filter Step.isRecording)).1.record? = .ok total ∧
        (collected ((empty config.durationBuckets).transcript steps)).length =
          steps.countP Step.collects ∧
        total.Shows
          ((collected ((empty config.durationBuckets).transcript steps) ++ [rest]).map
            Record.totals).sum := by
  refine ⟨⟨whole.toBoundaries⟩, whole.ofValues_toBoundaries, ?_⟩
  have hsteps : Step.clear ∉ steps := by
    intro hin
    obtain ⟨client, hclient, hmem⟩ := List.mem_flatten.mp (hclients.perm.mem_iff.mpr hin)
    exact hclear client hclient hmem
  have hempty : (empty whole.toBoundaries).Holds [] := holds_empty
  obtain ⟨rest, hrest, hlength, hsum⟩ := sum_collected hempty hsteps
  obtain ⟨total, htotal, hshows⟩ := record?_recordings whole steps
  obtain ⟨apart, hapart, hshows'⟩ := record?_recordings whole clients.flatten
  rw [Totals.ofSteps_perm whole hclients.perm] at hshows'
  refine ⟨rest, total, hrest, htotal, ?_, hlength, ?_⟩
  · rw [hshows.unique hshows']
    exact hapart
  · rw [hsum, List.nil_append]
    exact hshows

theorem collected_add_up_with_drain_between :
    Interleaving [[.count .enrolleeSuccess, .duration (.int 2000)], [.drain]]
        [.count .enrolleeSuccess, .drain, .duration (.int 2000)] ∧
      ∃ config, Config.ofValues [.int 1, .int 10] = .ok config ∧
        ∃ rest total : Record,
          ((empty config.durationBuckets).run
            [.count .enrolleeSuccess, .drain, .duration (.int 2000)]).1.record? = .ok rest ∧
          ((empty config.durationBuckets).run
            [.count .enrolleeSuccess, .duration (.int 2000)]).1.record? = .ok total ∧
          total.Shows
            ((collected ((empty config.durationBuckets).transcript
              [.count .enrolleeSuccess, .drain, .duration (.int 2000)]) ++ [rest]).map
                Record.totals).sum := by
  have hclients : Interleaving [[.count .enrolleeSuccess, .duration (.int 2000)], [.drain]]
      [.count .enrolleeSuccess, .drain, .duration (.int 2000)] := by
    apply Interleaving.call [] [[.drain]]
    apply Interleaving.call [[.duration (.int 2000)]] []
    apply Interleaving.call [] [[]]
    apply Interleaving.done
    simp
  obtain ⟨config, hconfig, rest, total, hrest, htotal, -, -, hshows⟩ :=
    collected_add_up ⟨[1, 10], by decide, by decide, by decide⟩ hclients (by simp)
  exact ⟨hclients, config, hconfig, rest, total, hrest, htotal, hshows⟩

end Collector

end EasyConnect
