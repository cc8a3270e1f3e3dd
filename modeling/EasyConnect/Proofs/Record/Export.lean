import EasyConnect.Record.Validation
import EasyConnect.Value.Equality

namespace EasyConnect

/-! What is exported of an entry or a record builds it again, and tells it from every other. -/

namespace Json

mutual

def toValue : Json → Value
  | .null => .null
  | .bool b => .number (.bool b)
  | .int n => .int n
  | .text s => .text s
  | .list items => .list (toValues items)
  | .object members => .object (toMembers members)

def toValues : List Json → List Value
  | [] => []
  | item :: rest => toValue item :: toValues rest

def toMembers : List (String × Json) → Members
  | [] => []
  | (name, value) :: rest => (name, toValue value) :: toMembers rest

end

def valueMembers : Json → Members
  | .object members => toMembers members
  | _ => []

theorem toValues_map (dump : α → Json) (entries : List α) :
    toValues (entries.map dump) = entries.map fun entry => (dump entry).toValue := by
  induction entries with
  | nil => rfl
  | cons entry rest ih => rw [List.map_cons, toValues, ih, List.map_cons]

end Json

namespace Validated

theorem items_accepted {check : Value → Validated β} {dump : β → Json}
    (h : ∀ b, check (dump b).toValue = .accepted b) (index : Nat) (entries : List β) :
    items check index (Json.toValues (entries.map dump)) = .accepted entries := by
  induction entries generalizing index with
  | nil => rfl
  | cons entry rest ih =>
      simp only [List.map_cons, Json.toValues, items, h, ih]
      rfl

theorem vector_accepted {n : Nat} {check : Fin n → Validated α} {f : Fin n → α}
    (h : ∀ i, check i = .accepted (f i)) : vector n check = .accepted (Vector.ofFn f) := by
  induction n with
  | zero => rfl
  | succ n ih =>
      have hinit : vector n (fun i => check i.castSucc) =
          .accepted (Vector.ofFn fun i => f i.castSucc) :=
        ih fun i => h i.castSucc
      rw [vector, hinit, h, Vector.ofFn_succ]
      rfl

end Validated

namespace Value

theorem equalMembers_map {keys : List κ} {name : κ → String} {f g : κ → Value}
    {others : Members} (h : ∀ key ∈ keys, others.lookup (name key) = some (g key)) :
    equalMembers (keys.map fun key => (name key, f key)) others =
      keys.all fun key => (f key).equals (g key) := by
  induction keys with
  | nil => rfl
  | cons key rest ih =>
      have hrest := ih fun other hother => h other (List.mem_cons_of_mem _ hother)
      rw [List.map_cons, equalMembers, h key List.mem_cons_self, hrest, List.all_cons]

theorem equalMembers_append (first second others : Members) :
    equalMembers (first ++ second) others =
      (equalMembers first others && equalMembers second others) := by
  induction first with
  | nil => rfl
  | cons member rest ih =>
      obtain ⟨name, value⟩ := member
      rw [List.cons_append, equalMembers, ih, equalMembers, Bool.and_assoc]

end Value

theorem readCount_of_nonneg {count : Int} (h : 0 ≤ count) :
    readCount (.int count) = .ok count.toNat := by
  simp only [readCount, readInteger, Int.not_lt.mpr h, if_false]

theorem readCount_ofNat (count : Nat) : readCount (.int count) = .ok count := rfl

theorem readStatusType_code (type : StatusType) : readStatusType (.int type.code) = .ok type := by
  have hfits : fitsWord type.code = true := by
    rw [fitsWord_iff, wordLimit]
    have := type.code_le
    omega
  simp only [readStatusType, readInteger, hfits, if_true, StatusType.ofCode?_code]

namespace StatusCount

theorem ofMembers_toJson (entry : StatusCount) :
    ofMembers entry.toJson.valueMembers = .accepted entry := by
  have htype : Members.required entry.toJson.valueMembers "dpp_status_type" readStatusType =
      .ofMember "dpp_status_type" (readStatusType (.int entry.type.code)) := rfl
  have hcount : Members.required entry.toJson.valueMembers "count" readCount =
      .ofMember "count" (readCount (.int entry.count)) := rfl
  rw [ofMembers, htype, hcount, readStatusType_code, readCount_ofNat]
  rfl

theorem equals_toJson_iff (first second : StatusCount) :
    first.toJson.toValue.equals second.toJson.toValue = true ↔ first = second := by
  obtain ⟨type, count⟩ := first
  obtain ⟨type', count'⟩ := second
  have hequals : (toJson ⟨type, count⟩).toValue.equals (toJson ⟨type', count'⟩).toValue =
      ((Value.int type.code).equals (.int type'.code) &&
        ((Value.int count).equals (.int count') && true)) := rfl
  rw [hequals]
  simp only [Value.equals_int_int, Bool.and_true, Bool.and_eq_true, decide_eq_true_eq,
    Int.natCast_inj, StatusCount.mk.injEq]
  refine and_congr_left fun _ => ?_
  constructor
  · exact StatusType.code_injective
  · exact congrArg StatusType.code

end StatusCount

namespace BucketCount

theorem ofMembers_toJson (bucket : BucketCount) :
    ofMembers bucket.toJson.valueMembers = .accepted bucket := by
  obtain ⟨start, stop, count⟩ := bucket
  cases stop <;> rfl

def stopValue : Option Int → Value
  | some stop => .int stop
  | none => .null

theorem equals_stopValue (first second : Option Int) :
    (stopValue first).equals (stopValue second) = decide (first = second) := by
  cases first with
  | none => cases second <;> rfl
  | some stop =>
      cases second with
      | none => rfl
      | some stop' => simp only [stopValue, Value.equals_int_int, Option.some.injEq]

theorem equals_toJson_iff (first second : BucketCount) :
    first.toJson.toValue.equals second.toJson.toValue = true ↔ first = second := by
  obtain ⟨start, stop, count⟩ := first
  obtain ⟨start', stop', count'⟩ := second
  have hequals : (toJson ⟨start, stop, count⟩).toValue.equals
        (toJson ⟨start', stop', count'⟩).toValue =
      ((Value.int start).equals (.int start') &&
        ((stopValue stop).equals (stopValue stop') &&
          ((Value.int count).equals (.int count') && true))) := by
    cases stop <;> cases stop' <;> rfl
  rw [hequals]
  simp only [Value.equals_int_int, equals_stopValue, Bool.and_true, Bool.and_eq_true,
    decide_eq_true_eq, Int.natCast_inj, BucketCount.mk.injEq]

end BucketCount

namespace Record

theorem countersOf_eq_accepted {members : Members} {counters : Tally Int 8}
    (h : ∀ counter : Counter,
      members.lookup counter.name = some (.int (counters.get counter.index))) :
    countersOf members = .accepted counters := by
  have hvector : (Validated.vector 8 fun i =>
        members.optional (Counter.ofIndex i).name 0 readInteger) =
      .accepted (Vector.ofFn counters.get) := by
    apply Validated.vector_accepted
    intro i
    rw [Members.optional, h, Counter.index_ofIndex]
    rfl
  rw [countersOf, hvector]
  apply congrArg Validated.accepted
  apply Tally.ext
  intro i
  exact Vector.getElem_ofFn _

variable (record : Record)

def listValues : List (String × Value) :=
  [("dpp_failure_code", .list (Json.toValues (record.failures.map StatusCount.toJson))),
    ("dpp_configurator_success_code",
      .list (Json.toValues (record.successes.map StatusCount.toJson))),
    ("dpp_operation_time",
      .list (Json.toValues (record.operationTime.map BucketCount.toJson)))]

theorem valueMembers_toJson :
    record.toJson.valueMembers =
      (Counter.all.map fun counter => (counter.name, Value.int (record.counter counter))) ++
        record.listValues := rfl

theorem lookup_counter (counter : Counter) :
    record.toJson.valueMembers.lookup counter.name = some (.int (record.counter counter)) := by
  cases counter <;> rfl

theorem lookup_list {name : String} {value : Value}
    (hname : ∀ counter ∈ Counter.all, (name != counter.name) = true)
    (h : record.listValues.lookup name = some value) :
    record.toJson.valueMembers.lookup name = some value := by
  have hnone : (Counter.all.map fun counter =>
      (counter.name, Value.int (record.counter counter))).lookup name = none := by
    rw [List.lookup_eq_none_iff, List.forall_mem_map]
    exact hname
  rw [valueMembers_toJson, List.lookup_append, hnone, Option.none_or, h]

theorem countersOf_toJson :
    countersOf record.toJson.valueMembers = .accepted record.counters :=
  countersOf_eq_accepted record.lookup_counter

theorem list_toJson {dump : α → Json} {check : Members → Validated α} {model : Model}
    (h : ∀ a, Members.item model check (dump a).toValue = .accepted a)
    {members : Members} {name : String} {entries : List α}
    (hname : members.lookup name = some (.list (Json.toValues (entries.map dump)))) :
    members.list name model check = .accepted entries := by
  simp only [Members.list, hname, Validated.items_accepted h]
  rfl

theorem ofMembers_toJson : ofMembers record.toJson.valueMembers = .accepted record := by
  have hstatus (entry : StatusCount) : Members.item .statusCount StatusCount.ofMembers
      entry.toJson.toValue = .accepted entry := by
    rw [StatusCount.toJson, Json.toValue, Members.item]
    exact entry.ofMembers_toJson
  have hbucket (bucket : BucketCount) : Members.item .bucketCount BucketCount.ofMembers
      bucket.toJson.toValue = .accepted bucket := by
    rw [BucketCount.toJson, Json.toValue, Members.item]
    exact bucket.ofMembers_toJson
  have hfailures : Members.list record.toJson.valueMembers "dpp_failure_code" .statusCount
      StatusCount.ofMembers = .accepted record.failures :=
    list_toJson hstatus (record.lookup_list (by decide) rfl)
  have hsuccesses : Members.list record.toJson.valueMembers "dpp_configurator_success_code"
      .statusCount StatusCount.ofMembers = .accepted record.successes :=
    list_toJson hstatus (record.lookup_list (by decide) rfl)
  have hdurations : Members.list record.toJson.valueMembers "dpp_operation_time" .bucketCount
      BucketCount.ofMembers = .accepted record.operationTime :=
    list_toJson hbucket (record.lookup_list (by decide) rfl)
  rw [ofMembers, countersOf_toJson, hfailures, hsuccesses, hdurations]
  rfl

theorem equals_toJson_iff (first second : Record) :
    first.toJson.toValue.equals second.toJson.toValue = true ↔ first = second := by
  have hequals : first.toJson.toValue.equals second.toJson.toValue =
      (true && Value.equalMembers first.toJson.valueMembers second.toJson.valueMembers) := rfl
  have hlists : Value.equalMembers first.listValues second.toJson.valueMembers =
      (Value.equalItems (Json.toValues (first.failures.map StatusCount.toJson))
          (Json.toValues (second.failures.map StatusCount.toJson)) &&
        (Value.equalItems (Json.toValues (first.successes.map StatusCount.toJson))
            (Json.toValues (second.successes.map StatusCount.toJson)) &&
          (Value.equalItems (Json.toValues (first.operationTime.map BucketCount.toJson))
              (Json.toValues (second.operationTime.map BucketCount.toJson)) && true))) := rfl
  rw [hequals, valueMembers_toJson first, Value.equalMembers_append,
    Value.equalMembers_map fun counter _ => second.lookup_counter counter, hlists]
  simp only [Bool.true_and, Bool.and_true, Bool.and_eq_true, List.all_eq_true,
    Value.equals_int_int, decide_eq_true_eq, Json.toValues_map,
    Value.equalItems_map_iff StatusCount.equals_toJson_iff,
    Value.equalItems_map_iff BucketCount.equals_toJson_iff]
  constructor
  · intro h
    obtain ⟨hcounters, hfailures, hsuccesses, hdurations⟩ := h
    obtain ⟨counters, failures, successes, operationTime⟩ := first
    have heq : counters = second.counters := by
      apply Tally.ext
      intro i
      have hcounter := hcounters (Counter.ofIndex i) (Counter.mem_all _)
      simpa only [counter, Counter.index_ofIndex] using hcounter
    subst heq hfailures hsuccesses hdurations
    rfl
  · intro h
    subst h
    exact ⟨fun _ _ => rfl, rfl, rfl, rfl⟩

end Record

/-- The members that an export of what they build has. -/
def normalize (check : Members → Validated α) (dump : α → Json) (members : Members) :
    Validated Members :=
  (check members).map fun a => (dump a).valueMembers

structure IsNormalForm (check : Members → Validated α) (dump : α → Json) : Prop where
  isObject : ∀ a, ∃ members, dump a = .object members
  rebuilds : ∀ a, check (dump a).valueMembers = .accepted a
  idempotent : ∀ members normal, normalize check dump members = .accepted normal →
    normalize check dump normal = .accepted normal
  eq_iff_equals : ∀ members others a b, check members = .accepted a →
    check others = .accepted b → (a = b ↔ (dump a).toValue.equals (dump b).toValue = true)

theorem IsNormalForm.of_rebuilds {check : Members → Validated α} {dump : α → Json}
    (hobject : ∀ a, ∃ members, dump a = .object members)
    (hrebuilds : ∀ a, check (dump a).valueMembers = .accepted a)
    (hequals : ∀ a b, (dump a).toValue.equals (dump b).toValue = true ↔ a = b) :
    IsNormalForm check dump where
  isObject := hobject
  rebuilds := hrebuilds
  idempotent members normal h := by
    unfold normalize at h
    cases hchecked : check members with
    | refused first rest =>
        rw [hchecked] at h
        cases h
    | accepted a =>
        rw [hchecked] at h
        cases h
        rw [normalize, hrebuilds]
        rfl
  eq_iff_equals _ _ a b _ _ := (hequals a b).symm

/-- Whatever the members were, the export of what they build builds the same once more, and two
that were built are equal just when their exports are. -/
theorem isNormalForm_toJson :
    IsNormalForm StatusCount.ofMembers StatusCount.toJson ∧
      IsNormalForm BucketCount.ofMembers BucketCount.toJson ∧
      IsNormalForm Record.ofMembers Record.toJson := by
  refine ⟨?_, ?_, ?_⟩
  · apply IsNormalForm.of_rebuilds (fun entry => ⟨_, rfl⟩)
    · exact StatusCount.ofMembers_toJson
    · exact StatusCount.equals_toJson_iff
  · apply IsNormalForm.of_rebuilds (fun bucket => ⟨_, rfl⟩)
    · exact BucketCount.ofMembers_toJson
    · exact BucketCount.equals_toJson_iff
  · apply IsNormalForm.of_rebuilds (fun record => ⟨_, rfl⟩)
    · exact Record.ofMembers_toJson
    · exact Record.equals_toJson_iff

-- A type as a text, a count as a float and a member of another name.
example :
    StatusCount.ofMembers [("count", .number (.float (.finite false 4503599627370496 (-51)))),
        ("note", .null), ("dpp_status_type", .text "5")] =
      StatusCount.ofMembers [("dpp_status_type", .int 5), ("count", .int 2)] := by
  decide +kernel

end EasyConnect
