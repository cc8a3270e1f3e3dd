import EasyConnect.Collector.Step
import EasyConnect.Proofs.Settings.History

namespace EasyConnect

/-! Which configuration a load gives.  The first one that is loaded is given to everybody until it
is forgotten, and is never given again after that. -/

theorem Loaded.equals_iff {first second : Loaded}
    (hfirst : ∃ whole : WholeBoundaries, first.config.durationBuckets = whole.toBoundaries)
    (hsecond : ∃ whole : WholeBoundaries, second.config.durationBuckets = whole.toBoundaries)
    (hserial : first.serial = second.serial → first = second) :
    first.equals second = true ↔
      first.config.durationBuckets.values = second.config.durationBuckets.values := by
  obtain ⟨whole, hwhole⟩ := hfirst
  obtain ⟨other, hother⟩ := hsecond
  have hint (m n : Int) : (Value.int m).equals (Value.int n) = true ↔ m = n := by
    rw [Value.equals_int_int, decide_eq_true_iff]
  have hvalues : Value.equalItems (first.config.durationBuckets.values.map .number)
      (second.config.durationBuckets.values.map .number) = true ↔
        first.config.durationBuckets.values = second.config.durationBuckets.values := by
    rw [hwhole, hother]
    have hinjective : Function.Injective Number.int := fun _ _ => Number.int.inj
    simp only [WholeBoundaries.toBoundaries, List.map_map, hinjective.list_map.eq_iff]
    exact Value.equalItems_map_iff hint whole.values other.values
  rw [equals, Bool.or_eq_true, decide_eq_true_iff, hvalues]
  constructor
  · intro h
    cases h with
    | inl hsame => rw [hserial hsame]
    | inr hequal => exact hequal
  · exact .inr

namespace Settings

/-- The configuration has whole seconds for boundaries and was made before now. -/
structure IsKnown (settings : Settings) (loaded : Loaded) : Prop where
  older : loaded.serial < settings.loads
  whole : ∃ whole : WholeBoundaries, loaded.config.durationBuckets = whole.toBoundaries

def KeepsKnown (settings : Settings) : Prop :=
  ∀ loaded ∈ settings.kept?, settings.IsKnown loaded

theorem loads_le_step (settings : Settings) (request : Request) :
    settings.loads ≤ (settings.step request).1.loads := by
  cases settings.effect request with
  | silent keeps kept loads answer => exact Nat.le_of_eq loads.symm
  | forgot forgets kept loads answer => exact Nat.le_of_eq loads.symm
  | answered loaded keeps before kept loads answer => exact Nat.le_of_eq loads.symm
  | made config keeps before whole kept loads answer =>
      rw [loads]
      exact Nat.le_succ _

theorem IsKnown.step {settings : Settings} {loaded : Loaded} (h : settings.IsKnown loaded)
    (request : Request) : (settings.step request).1.IsKnown loaded :=
  ⟨Nat.lt_of_lt_of_le h.older (settings.loads_le_step request), h.whole⟩

theorem kept?_of_given {settings : Settings} {request : Request} {loaded : Loaded}
    (h : (settings.step request).2.loaded? = some loaded) :
    (settings.step request).1.kept? = some loaded := by
  cases settings.effect request with
  | silent keeps kept loads answer =>
      rw [answer] at h
      cases h
  | forgot forgets kept loads answer =>
      rw [answer] at h
      cases h
  | answered loaded keeps before kept loads answer => rw [kept, ← answer, h]
  | made config keeps before whole kept loads answer => rw [kept, ← answer, h]

theorem kept?_cases {settings : Settings} {request : Request} {loaded : Loaded}
    (h : (settings.step request).1.kept? = some loaded) :
    settings.kept? = some loaded ∨
      loaded.serial = settings.loads ∧
        (settings.step request).1.loads = settings.loads + 1 ∧
        ∃ whole : WholeBoundaries, loaded.config.durationBuckets = whole.toBoundaries := by
  cases settings.effect request with
  | silent keeps kept loads answer => exact .inl (kept.symm.trans h)
  | forgot forgets kept loads answer =>
      rw [kept] at h
      cases h
  | answered given keeps before kept loads answer =>
      rw [kept, ← before] at h
      exact .inl h
  | made config keeps before whole kept loads answer =>
      rw [kept] at h
      cases h
      exact .inr ⟨rfl, loads, whole⟩

theorem KeepsKnown.step {settings : Settings} (h : settings.KeepsKnown) (request : Request) :
    (settings.step request).1.KeepsKnown := by
  intro loaded hloaded
  rcases kept?_cases hloaded with hkept | ⟨hserial, hloads, hwhole⟩
  · exact (h loaded hkept).step request
  · refine ⟨?_, hwhole⟩
    rw [hserial, hloads]
    exact Nat.lt_succ_self _

theorem keepsKnown_after (held : Option String) (requests : List Request) :
    (after held requests).KeepsKnown := by
  induction requests using List.reverseRecOn with
  | nil =>
      intro loaded hloaded
      cases hloaded
  | append_singleton requests last ih =>
      rw [after_concat]
      exact ih.step last

theorem given_known (held : Option String) (requests : List Request) :
    ∀ t ∈ (opening held).transcript requests, ∀ loaded ∈ t.2.loaded?,
      (after held requests).IsKnown loaded := by
  induction requests using List.reverseRecOn with
  | nil =>
      intro t ht
      cases ht
  | append_singleton requests last ih =>
      rw [after_concat, transcript_concat, List.forall_mem_append, List.forall_mem_singleton]
      constructor
      · intro t ht loaded hloaded
        exact (ih t ht loaded hloaded).step last
      · intro loaded hloaded
        exact (keepsKnown_after held requests).step last loaded (kept?_of_given hloaded)

def IsNew (taken : List (Request × Reply)) (loaded : Loaded) : Prop :=
  ∀ t ∈ taken, ∀ given ∈ t.2.loaded?, given.serial ≠ loaded.serial

/-- What a load replies after what was taken, with `held` at the start. -/
structure Answers (held : Option String) (taken : List (Request × Reply))
    (reply : Reply) : Prop where
  kept : ∀ t ∈ sinceForgotten taken, ∀ loaded ∈ t.2.loaded?, reply = .loaded loaded
  standard : NothingLoaded taken →
    heldAfter held (taken.map Prod.fst) = none ∨
      heldAfter held (taken.map Prod.fst) = some "" →
    ∃ loaded, reply = .loaded loaded ∧ IsNew taken loaded ∧
      loaded.config = Config.standard
  read : NothingLoaded taken →
    ∀ raw, heldAfter held (taken.map Prod.fst) = some raw → raw ≠ "" →
    ∀ boundaries, Boundaries.read raw = .ok boundaries →
    ∃ loaded, reply = .loaded loaded ∧ IsNew taken loaded ∧
      loaded.config.durationBuckets = boundaries
  failed : NothingLoaded taken →
    ∀ raw, heldAfter held (taken.map Prod.fst) = some raw → raw ≠ "" →
    ∀ error, Boundaries.read raw = .error error →
    reply = .failed error ∧ error.setting = some bucketsVariable ∧
      ∀ left right, error.cause ≠ .refused (.incomparable left right)

theorem answers_load (held : Option String) (requests : List Request) :
    Answers held ((opening held).transcript requests)
      ((after held requests).step .load).2 := by
  have hreflects := reflects_after held requests
  have hmade {config : Config}
      (hnothing : NothingLoaded ((opening held).transcript requests))
      (hcurrent : current (heldAfter held (((opening held).transcript requests).map Prod.fst)) =
        .ok config) :
      ∃ loaded, ((after held requests).step .load).2 = .loaded loaded ∧
        IsNew ((opening held).transcript requests) loaded ∧ loaded.config = config := by
    rw [← hreflects.assigned] at hcurrent
    refine ⟨⟨config, (after held requests).loads⟩, ?_, ?_, rfl⟩
    · rw [step, load_of_ok (hreflects.empty hnothing) hcurrent]
    · intro t ht given hgiven
      exact Nat.ne_of_lt (given_known held requests t ht given hgiven).older
  constructor
  case kept =>
    intro t ht loaded hloaded
    rw [step, load_of_kept (hreflects.kept t ht loaded hloaded)]
  case standard =>
    intro hnothing hheld
    exact hmade hnothing (current_unset_or_empty hheld)
  case read =>
    intro hnothing raw hheld hraw boundaries hread
    have hcurrent := current_read hraw
    rw [hread, ← hheld] at hcurrent
    obtain ⟨loaded, hreply, hnew, hconfig⟩ := hmade hnothing hcurrent
    exact ⟨loaded, hreply, hnew, congrArg Config.durationBuckets hconfig⟩
  case failed =>
    intro hnothing raw hheld hraw error hread
    have hcurrent := current_read hraw
    rw [hread, ← hheld, ← hreflects.assigned] at hcurrent
    refine ⟨?_, Boundaries.read_eq_error hread⟩
    rw [step, load_of_error (hreflects.empty hnothing) hcurrent]

/-- A configuration with an earlier number is out of reach. -/
structure IsPast (serial : Nat) (settings : Settings) : Prop where
  made : serial < settings.loads
  kept : ∀ loaded ∈ settings.kept?, serial < loaded.serial

theorem IsPast.step {serial : Nat} {settings : Settings} (h : IsPast serial settings)
    (request : Request) : IsPast serial (settings.step request).1 := by
  constructor
  case made => exact Nat.lt_of_lt_of_le h.made (settings.loads_le_step request)
  case kept =>
    intro loaded hloaded
    rcases kept?_cases hloaded with hkept | ⟨hserial, _, _⟩
    · exact h.kept loaded hkept
    · rw [hserial]
      exact h.made

theorem IsPast.run {serial : Nat} {settings : Settings} (h : IsPast serial settings)
    (requests : List Request) : IsPast serial (settings.run requests).1 := by
  induction requests generalizing settings with
  | nil => exact h
  | cons request later ih => exact ih (h.step request)

theorem isPast_of_forgotten {serial : Nat} {settings : Settings}
    (h : serial < settings.loads) {requests : List Request} (hforget : .forget ∈ requests) :
    IsPast serial (settings.run requests).1 := by
  induction requests generalizing settings with
  | nil => cases hforget
  | cons request later ih =>
      rcases List.mem_cons.mp hforget with rfl | hlater
      · have hforgot : IsPast serial (settings.step .forget).1 :=
          ⟨h, fun _ hnone => nomatch hnone⟩
        exact hforgot.run later
      · exact ih (Nat.lt_of_lt_of_le h (settings.loads_le_step request)) hlater

theorem kept?_step {settings : Settings} {loaded : Loaded} (h : settings.kept? = some loaded)
    {request : Request} (hkeeps : request ≠ .forget) :
    (settings.step request).1.kept? = some loaded := by
  cases settings.effect request with
  | silent keeps kept loads answer => rw [kept, h]
  | forgot forgets kept loads answer => exact absurd (Request.forgets_iff.mp forgets) hkeeps
  | answered given keeps before kept loads answer => rw [kept, ← before, h]
  | made config keeps before whole kept loads answer =>
      rw [h] at before
      cases before

theorem kept?_run {settings : Settings} {loaded : Loaded} (h : settings.kept? = some loaded)
    {requests : List Request} (hkeeps : .forget ∉ requests) :
    (settings.run requests).1.kept? = some loaded := by
  induction requests generalizing settings with
  | nil => exact h
  | cons request later ih =>
      have hrequest : request ≠ .forget := fun heq => hkeeps (heq ▸ List.mem_cons_self)
      exact ih (kept?_step h hrequest) fun hlater => hkeeps (List.mem_cons_of_mem _ hlater)

theorem ne_forget_of_given {settings : Settings} {request : Request} {loaded : Loaded}
    (h : (settings.step request).2.loaded? = some loaded) : request ≠ .forget := by
  intro hforget
  subst hforget
  cases h

theorem serial_eq_iff {settings : Settings} (hknown : settings.KeepsKnown)
    {first last : Request} {between : List Request} {one two : Loaded}
    (hone : (settings.step first).2.loaded? = some one)
    (htwo : (((settings.step first).1.run between).1.step last).2.loaded? = some two) :
    (one.serial = two.serial ↔ .forget ∉ between) ∧
      (one.serial = two.serial → one = two) := by
  have hkept := kept?_of_given hone
  have hlast := kept?_of_given htwo
  by_cases hforget : .forget ∈ between
  · have holder := (hknown.step first one hkept).older
    have hlt := ((isPast_of_forgotten holder hforget).step last).kept two hlast
    have hne := Nat.ne_of_lt hlt
    exact ⟨⟨fun heq => absurd heq hne, fun hnot => absurd hforget hnot⟩,
      fun heq => absurd heq hne⟩
  · have hsame := kept?_step (kept?_run hkept hforget) (ne_forget_of_given htwo)
    rw [hlast] at hsame
    cases hsame
    exact ⟨⟨fun _ => hforget, fun _ => rfl⟩, fun _ => rfl⟩

structure Builds (load collect : Settings × Reply) : Prop where
  state : collect.1 = load.1
  built : ∀ loaded, load.2 = .loaded loaded →
    ∃ collector : Collector loaded.config.durationBuckets,
      loaded.config.collector? = .ok ⟨loaded.config.durationBuckets, collector⟩ ∧
      collect.2 = .built loaded loaded.config.durationBuckets collector ∧
      (collector.step .boundaries).2.answer =
        .ok (.boundaries loaded.config.durationBuckets.values) ∧
      collector = .empty loaded.config.durationBuckets
  failed : ∀ error, load.2 = .failed error → collect.2 = .failed error

theorem builds_collect (settings : Settings) :
    Builds (settings.step .load) (settings.step .collect) := by
  have hcollect : settings.step .collect = settings.collect := rfl
  rw [hcollect, collect_eq]
  constructor
  case state => rfl
  case built =>
    intro loaded hload
    have hreply : settings.load.2 = .loaded loaded := hload
    exact ⟨.empty _, loaded.config.collector?_eq, by rw [hreply], rfl, rfl⟩
  case failed =>
    intro error hload
    have hreply : settings.load.2 = .failed error := hload
    rw [hreply]

theorem load_of_failed {settings : Settings} {error : ConfigError}
    (h : (settings.step .load).2 = .failed error) : (settings.step .load).1 = settings := by
  have hreply : settings.load.2 = .failed error := h
  change settings.load.1 = settings
  unfold load at hreply ⊢
  split at hreply
  · cases hreply
  · split at hreply
    · rfl
    · cases hreply

/-- After any run, a load gives what was loaded since the loader last forgot, or else what the
variable asks for at that moment, and a load that fails keeps nothing. Two configurations of one
run are the same if and only if none was forgotten between, and equal if and only if their
boundaries are. -/
theorem loads_once_until_forgotten (held : Option String) (before between : List Request)
    (first last : Request) :
    Answers held ((opening held).transcript before) ((after held before).step .load).2 ∧
      (∀ error, ((after held before).step .load).2 = .failed error →
        ((after held before).step .load).1 = after held before) ∧
      Builds ((after held before).step .load) ((after held before).step .collect) ∧
      ∀ one two,
        ((after held before).step first).2.loaded? = some one →
        ((after held (before ++ first :: between)).step last).2.loaded? = some two →
        (one.serial = two.serial ↔ .forget ∉ between) ∧
          (one.serial = two.serial → one = two) ∧
          (one.equals two = true ↔
            one.config.durationBuckets.values = two.config.durationBuckets.values) := by
  have hknown := keepsKnown_after held
  refine ⟨answers_load held before, fun error => load_of_failed, builds_collect _, ?_⟩
  intro one two hone htwo
  have hwholeOne := ((hknown before).step first one (kept?_of_given hone)).whole
  have hwholeTwo := ((hknown _).step last two (kept?_of_given htwo)).whole
  rw [after_append] at htwo
  obtain ⟨hserial, hsame⟩ := serial_eq_iff (hknown before) hone htwo
  exact ⟨hserial, hsame, Loaded.equals_iff hwholeOne hwholeTwo hsame⟩

theorem loads_again_once_forgotten :
    ((opening none).step .load).2.loaded? = some ⟨Config.standard, 0⟩ ∧
      (((opening none).run [.load, .forget]).1.step .load).2.loaded? =
        some ⟨Config.standard, 1⟩ ∧
      Loaded.equals ⟨Config.standard, 0⟩ ⟨Config.standard, 1⟩ = true := by
  have hfirst : ((opening none).step .load).2.loaded? = some ⟨Config.standard, 0⟩ := rfl
  have hsecond : (((opening none).run [.load, .forget]).1.step .load).2.loaded? =
      some ⟨Config.standard, 1⟩ := rfl
  have hrun := (loads_once_until_forgotten none [] [.forget] .load .load).2.2.2
  exact ⟨hfirst, hsecond, (hrun _ _ hfirst hsecond).2.2.mpr rfl⟩

end Settings

end EasyConnect
