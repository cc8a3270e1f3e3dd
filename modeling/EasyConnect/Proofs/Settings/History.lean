import EasyConnect.Proofs.Configuration
import EasyConnect.Settings
import Mathlib.Data.List.DropRight

namespace EasyConnect

/-! What settings hold in the course of a run, told from the requests and the replies to them. -/

theorem Config.collector?_eq (config : Config) :
    config.collector? = .ok ⟨config.durationBuckets, .empty config.durationBuckets⟩ := by
  rw [collector?, Boundaries.configure_number]

namespace Settings

def Request.assigns? : Request → Option (Option String)
  | .assign text => if text.toList.contains '\x00' then none else some (some text)
  | .unset => some none
  | _ => none

def Request.forgets : Request → Bool
  | .forget => true
  | _ => false

theorem Request.forgets_iff {request : Request} :
    request.forgets = true ↔ request = .forget := by
  cases request <;> simp [forgets]

def Reply.loaded? : Reply → Option Loaded
  | .loaded given => some given
  | .built given _ _ => some given
  | _ => none

def opening (held : Option String) : Settings :=
  { initial with assigned? := held }

def after (held : Option String) (requests : List Request) : Settings :=
  ((opening held).run requests).1

def transcript (settings : Settings) (requests : List Request) : List (Request × Reply) :=
  requests.zip (settings.run requests).2

def heldAfter (held : Option String) (requests : List Request) : Option String :=
  (requests.filterMap Request.assigns?).getLastD held

def sinceForgotten (taken : List (Request × Reply)) : List (Request × Reply) :=
  taken.rtakeWhile fun taken => !taken.1.forgets

def NothingLoaded (taken : List (Request × Reply)) : Prop :=
  ∀ t ∈ sinceForgotten taken, t.2.loaded? = none

theorem heldAfter_concat (held : Option String) (requests : List Request) (last : Request) :
    heldAfter held (requests ++ [last]) =
      last.assigns?.getD (heldAfter held requests) := by
  unfold heldAfter
  rw [List.filterMap_append]
  cases hassigns : last.assigns? with
  | none => simp [hassigns]
  | some assigned => simp [hassigns]

theorem sinceForgotten_concat (taken : List (Request × Reply)) (last : Request × Reply) :
    sinceForgotten (taken ++ [last]) =
      if last.1.forgets then [] else sinceForgotten taken ++ [last] := by
  unfold sinceForgotten
  rw [List.rtakeWhile_concat]
  cases last.1.forgets <;> rfl

theorem run_append (settings : Settings) (first second : List Request) :
    settings.run (first ++ second) =
      (((settings.run first).1.run second).1,
        (settings.run first).2 ++ ((settings.run first).1.run second).2) := by
  induction first generalizing settings with
  | nil => rfl
  | cons request later ih => simp [ih]

theorem after_append (held : Option String) (first second : List Request) :
    after held (first ++ second) = ((after held first).run second).1 := by
  rw [after, run_append]
  rfl

theorem after_concat (held : Option String) (requests : List Request) (last : Request) :
    after held (requests ++ [last]) = ((after held requests).step last).1 :=
  after_append held requests [last]

theorem transcript_cons (settings : Settings) (request : Request) (later : List Request) :
    settings.transcript (request :: later) =
      (request, (settings.step request).2) ::
        (settings.step request).1.transcript later := rfl

theorem transcript_concat (settings : Settings) (requests : List Request) (last : Request) :
    settings.transcript (requests ++ [last]) =
      settings.transcript requests ++ [(last, ((settings.run requests).1.step last).2)] := by
  induction requests generalizing settings with
  | nil => rfl
  | cons request later ih =>
      simp only [List.cons_append, transcript_cons, ih, run_cons]

theorem current_unset_or_empty {held : Option String} (h : held = none ∨ held = some "") :
    current held = .ok Config.standard := by
  rcases h with rfl | rfl
  · rfl
  · rfl

theorem current_read {raw : String} (h : raw ≠ "") :
    current (some raw) = (Boundaries.read raw).map Config.mk := by
  have hsome : raw.isEmpty = false := by
    rw [Bool.eq_false_iff, ne_eq, String.isEmpty_iff]
    exact h
  simp only [current, hsome, Bool.false_eq_true, if_false]
  cases Boundaries.read raw with
  | ok boundaries => exact Config.ofValues_number ⟨boundaries⟩
  | error error => rfl

theorem whole_standard :
    ∃ whole : WholeBoundaries, Config.standard.durationBuckets = whole.toBoundaries := by
  have hvalues : Boundaries.standard.values = [1, 10, 25, 39].map .int := rfl
  obtain ⟨whole, -, hwhole⟩ := Boundaries.eq_toBoundaries hvalues
  exact ⟨whole, hwhole⟩

theorem whole_of_current {held : Option String} {config : Config}
    (h : current held = .ok config) :
    ∃ whole : WholeBoundaries, config.durationBuckets = whole.toBoundaries := by
  cases held with
  | none =>
      cases h
      exact whole_standard
  | some raw =>
      by_cases hempty : raw = ""
      · rw [current_unset_or_empty (.inr (congrArg some hempty))] at h
        cases h
        exact whole_standard
      · rw [current_read hempty] at h
        cases hread : Boundaries.read raw with
        | error error =>
            rw [hread] at h
            cases h
        | ok boundaries =>
            rw [hread] at h
            cases h
            exact Boundaries.read_eq_ok hread

theorem load_of_kept {settings : Settings} {loaded : Loaded}
    (h : settings.kept? = some loaded) : settings.load = (settings, .loaded loaded) := by
  rw [load, h]

theorem load_of_ok {settings : Settings} {config : Config} (hkept : settings.kept? = none)
    (h : current settings.assigned? = .ok config) :
    settings.load =
      ({ settings with
          kept? := some ⟨config, settings.loads⟩, loads := settings.loads + 1 },
        .loaded ⟨config, settings.loads⟩) := by
  rw [load, hkept, h]

theorem load_of_error {settings : Settings} {error : ConfigError}
    (hkept : settings.kept? = none) (h : current settings.assigned? = .error error) :
    settings.load = (settings, .failed error) := by
  rw [load, hkept, h]

theorem collect_eq (settings : Settings) :
    settings.collect =
      (settings.load.1,
        match settings.load.2 with
        | .loaded loaded => .built loaded loaded.config.durationBuckets (.empty _)
        | other => other) := by
  unfold collect
  cases settings.load with
  | mk next reply =>
      cases reply with
      | loaded loaded => simp only [Config.collector?_eq]
      | _ => rfl

theorem loaded?_collect (settings : Settings) :
    settings.collect.2.loaded? = settings.load.2.loaded? := by
  rw [collect_eq]
  cases settings.load.2 <;> rfl

/-- All that a request can do to what is kept, by the configuration that it answers with. -/
inductive Effect (settings : Settings) (request : Request) (next : Settings)
    (given? : Option Loaded) : Prop
  | silent
      (keeps : request.forgets = false)
      (kept : next.kept? = settings.kept?)
      (loads : next.loads = settings.loads)
      (answer : given? = none)
  | forgot
      (forgets : request.forgets = true)
      (kept : next.kept? = none)
      (loads : next.loads = settings.loads)
      (answer : given? = none)
  | answered
      (loaded : Loaded)
      (keeps : request.forgets = false)
      (before : settings.kept? = some loaded)
      (kept : next.kept? = some loaded)
      (loads : next.loads = settings.loads)
      (answer : given? = some loaded)
  | made
      (config : Config)
      (keeps : request.forgets = false)
      (before : settings.kept? = none)
      (whole : ∃ whole : WholeBoundaries, config.durationBuckets = whole.toBoundaries)
      (kept : next.kept? = some ⟨config, settings.loads⟩)
      (loads : next.loads = settings.loads + 1)
      (answer : given? = some ⟨config, settings.loads⟩)

theorem effect_load (settings : Settings) {request : Request}
    (h : request.forgets = false) :
    Effect settings request settings.load.1 settings.load.2.loaded? := by
  cases hkept : settings.kept? with
  | some loaded =>
      rw [load_of_kept hkept]
      exact .answered loaded h hkept hkept rfl rfl
  | none =>
      cases hcurrent : current settings.assigned? with
      | error error =>
          rw [load_of_error hkept hcurrent]
          exact .silent h rfl rfl rfl
      | ok config =>
          rw [load_of_ok hkept hcurrent]
          exact .made config h hkept (whole_of_current hcurrent) rfl rfl rfl

theorem effect (settings : Settings) (request : Request) :
    Effect settings request (settings.step request).1 (settings.step request).2.loaded? := by
  cases request with
  | assign text =>
      rw [step]
      split
      · exact .silent rfl rfl rfl rfl
      · exact .silent rfl rfl rfl rfl
  | unset => exact .silent rfl rfl rfl rfl
  | forget => exact .forgot rfl rfl rfl rfl
  | load => exact settings.effect_load rfl
  | collect =>
      rw [step, loaded?_collect, collect_eq]
      exact settings.effect_load rfl

theorem assigned?_load (settings : Settings) :
    settings.load.1.assigned? = settings.assigned? := by
  unfold load
  split
  · rfl
  · split
    · rfl
    · rfl

theorem assigned?_step (settings : Settings) (request : Request) :
    (settings.step request).1.assigned? =
      request.assigns?.getD settings.assigned? := by
  cases request with
  | assign text =>
      rw [step, Request.assigns?]
      split
      · rfl
      · rfl
  | unset => rfl
  | forget => rfl
  | load => exact settings.assigned?_load
  | collect =>
      rw [step, collect_eq]
      exact settings.assigned?_load

/-- The variable and the configuration that is kept are those of the history. -/
structure Reflects (held : Option String) (taken : List (Request × Reply))
    (settings : Settings) : Prop where
  assigned : settings.assigned? = heldAfter held (taken.map Prod.fst)
  kept : ∀ t ∈ sinceForgotten taken, ∀ loaded ∈ t.2.loaded?, settings.kept? = some loaded
  empty : NothingLoaded taken → settings.kept? = none

theorem reflects_opening (held : Option String) : Reflects held [] (opening held) := by
  constructor
  case assigned => rfl
  case kept =>
    intro t ht
    cases ht
  case empty =>
    intro _
    rfl

theorem Reflects.step {held : Option String} {taken : List (Request × Reply)}
    {settings : Settings} (h : Reflects held taken settings) (request : Request) :
    Reflects held (taken ++ [(request, (settings.step request).2)])
      (settings.step request).1 := by
  have hsince := sinceForgotten_concat taken (request, (settings.step request).2)
  constructor
  case assigned =>
    rw [assigned?_step, List.map_append, List.map_singleton, heldAfter_concat, h.assigned]
  case kept =>
    cases settings.effect request with
    | silent keeps kept loads answer =>
        rw [hsince, keeps, if_neg Bool.false_ne_true, List.forall_mem_append,
          List.forall_mem_singleton, answer, kept]
        exact ⟨h.kept, fun _ hnone => nomatch hnone⟩
    | forgot forgets kept loads answer =>
        rw [hsince, forgets, if_pos rfl]
        exact fun _ hnil => nomatch hnil
    | answered loaded keeps before kept loads answer =>
        rw [hsince, keeps, if_neg Bool.false_ne_true, List.forall_mem_append,
          List.forall_mem_singleton, answer, kept, ← before]
        exact ⟨h.kept, fun _ hsome => hsome⟩
    | made config keeps before whole kept loads answer =>
        rw [hsince, keeps, if_neg Bool.false_ne_true, List.forall_mem_append,
          List.forall_mem_singleton, answer, kept]
        refine ⟨?_, fun _ hsome => hsome⟩
        intro t ht loaded hloaded
        have hkept := h.kept t ht loaded hloaded
        rw [before] at hkept
        cases hkept
  case empty =>
    intro hnothing
    cases settings.effect request with
    | silent keeps kept loads answer =>
        rw [NothingLoaded, hsince, keeps, if_neg Bool.false_ne_true,
          List.forall_mem_append] at hnothing
        rw [kept]
        exact h.empty hnothing.1
    | forgot forgets kept loads answer => exact kept
    | answered loaded keeps before kept loads answer =>
        rw [NothingLoaded, hsince, keeps, if_neg Bool.false_ne_true, List.forall_mem_append,
          List.forall_mem_singleton, answer] at hnothing
        cases hnothing.2
    | made config keeps before whole kept loads answer =>
        rw [NothingLoaded, hsince, keeps, if_neg Bool.false_ne_true, List.forall_mem_append,
          List.forall_mem_singleton, answer] at hnothing
        cases hnothing.2

theorem reflects_after (held : Option String) (requests : List Request) :
    Reflects held ((opening held).transcript requests) (after held requests) := by
  induction requests using List.reverseRecOn with
  | nil => exact reflects_opening held
  | append_singleton requests last ih =>
      rw [after_concat, transcript_concat]
      exact ih.step last

end Settings

end EasyConnect
