import EasyConnect.Proofs.Record.Defects
import EasyConnect.Proofs.Record.Export

namespace EasyConnect

/-! A record is checked field by field and item by item.  Each defect of the whole is one of a
single field, each defect in a list is one of a single item, and what is accepted is built of
the entries that are accepted alone. -/

namespace Validated

theorem below_eq_accepted {step : PathStep} {checked : Validated α} {a : α}
    (h : checked.below step = .accepted a) : checked = .accepted a := by
  cases checked with
  | accepted b => exact h
  | refused first rest => cases h

theorem items_eq_accepted {check : α → Validated β} {index : Nat} {xs : List α} {ys : List β}
    (h : items check index xs = .accepted ys) :
    List.Forall₂ (fun x y => check x = .accepted y) xs ys := by
  induction xs generalizing index ys with
  | nil =>
      cases h
      exact .nil
  | cons x rest ih =>
      obtain ⟨⟨y, later⟩, hboth, rfl⟩ := map_eq_accepted h
      obtain ⟨hfirst, hrest⟩ := and_eq_accepted hboth
      exact .cons (below_eq_accepted hfirst) (ih hrest)

theorem ofMember_eq_accepted {name : String} {checked : Except DefectKind α} {a : α}
    (h : ofMember name checked = .accepted a) : checked = .ok a := by
  cases checked with
  | ok b =>
      cases h
      rfl
  | error kind => cases h

theorem vector_eq_accepted {n : Nat} {check : Fin n → Validated α} {v : Vector α n}
    (h : vector n check = .accepted v) :
    ∃ f : Fin n → α, v = Vector.ofFn f ∧ ∀ i, check i = .accepted (f i) := by
  -- A defect of one element would be one of the whole.
  have hdefects := (defects_eq_nil_iff _).mpr ⟨v, h⟩
  rw [defects_vector, List.flatMap_eq_nil_iff] at hdefects
  have hcheck (i : Fin n) : ∃ a, check i = .accepted a :=
    (defects_eq_nil_iff _).mp (hdefects i (List.mem_finRange i))
  obtain ⟨f, hf⟩ := Classical.skolem.mp hcheck
  rw [vector_accepted hf] at h
  cases h
  exact ⟨f, rfl, hf⟩

end Validated

namespace Members

theorem exists_objects {model : Model} {check : Members → Validated α} {items : List Value}
    {entries : List α}
    (h : List.Forall₂ (fun x entry => item model check x = .accepted entry) items entries) :
    ∃ objects : List Members, items = objects.map .object ∧
      List.Forall₂ (fun object entry => check object = .accepted entry) objects entries := by
  induction h with
  | nil => exact ⟨[], rfl, .nil⟩
  | @cons x entry items entries hfirst hrest ih =>
      obtain ⟨objects, rfl, hobjects⟩ := ih
      cases x with
      | object object => exact ⟨object :: objects, rfl, .cons hfirst hobjects⟩
      | _ => cases hfirst

theorem list_eq_accepted {members : Members} {name : String} {model : Model}
    {check : Members → Validated α} {entries : List α}
    (h : members.list name model check = .accepted entries) :
    (members.lookup name = none ∧ entries = []) ∨
      ∃ objects : List Members,
        members.lookup name = some (.list (objects.map .object)) ∧
          List.Forall₂ (fun object entry => check object = .accepted entry) objects entries := by
  unfold list at h
  split at h
  · cases h
    exact .inl ⟨‹_›, rfl⟩
  · obtain ⟨objects, rfl, hobjects⟩ :=
      exists_objects (Validated.items_eq_accepted (Validated.below_eq_accepted h))
    exact .inr ⟨objects, ‹_›, hobjects⟩
  · cases h

theorem required_eq_accepted {members : Members} {name : String}
    {read : Value → Except DefectKind α} {a : α}
    (h : members.required name read = .accepted a) :
    ∃ value, members.lookup name = some value ∧ read value = .ok a := by
  unfold required at h
  split at h
  · cases h
  · exact ⟨_, ‹_›, Validated.ofMember_eq_accepted h⟩

theorem optional_eq_accepted {members : Members} {name : String} {absent a : α}
    {read : Value → Except DefectKind α} (h : members.optional name absent read = .accepted a) :
    (members.lookup name = none ∧ a = absent) ∨
      ∃ value, members.lookup name = some value ∧ read value = .ok a := by
  unfold optional at h
  split at h
  · cases h
    exact .inl ⟨‹_›, rfl⟩
  · exact .inr ⟨_, ‹_›, Validated.ofMember_eq_accepted h⟩

end Members

theorem readInteger_of_readStatusType {value : Value} {type : StatusType}
    (h : readStatusType value = .ok type) : readInteger value = .ok type.code := by
  unfold readStatusType at h
  split at h
  · cases h
  · rename_i n hread
    split at h
    · split at h
      · rename_i hcode
        cases h
        rw [hread, StatusType.ofCode?_eq_some_iff.mp hcode]
      · cases h
    · cases h

theorem readInteger_of_readCount {value : Value} {count : Nat}
    (h : readCount value = .ok count) : readInteger value = .ok count := by
  unfold readCount at h
  split at h
  · rename_i n hread
    split at h
    · cases h
    · rename_i hnonneg
      cases h
      rw [hread, Int.toNat_of_nonneg (Int.not_lt.mp hnonneg)]
  · cases h

def Members.Tells (members : Members) (name : String) (n : Int) : Prop :=
  ∃ value, members.lookup name = some value ∧ readInteger value = .ok n

theorem Members.tells_statusType {members : Members} {name : String} {type : StatusType}
    (h : members.required name readStatusType = .accepted type) :
    members.Tells name type.code := by
  obtain ⟨value, hvalue, hread⟩ := required_eq_accepted h
  exact ⟨value, hvalue, readInteger_of_readStatusType hread⟩

theorem Members.tells_count {members : Members} {name : String} {count : Nat}
    (h : members.required name readCount = .accepted count) : members.Tells name count := by
  obtain ⟨value, hvalue, hread⟩ := required_eq_accepted h
  exact ⟨value, hvalue, readInteger_of_readCount hread⟩

/-- The entry is the one that the members make alone.  They tell a type of the table and a count
that is not below zero. -/
structure StatusCount.IsReadFrom (members : Members) (entry : StatusCount) : Prop where
  alone : ofMembers members = .accepted entry
  type : ∃ n, members.Tells "dpp_status_type" n ∧ n = entry.type.code ∧ 0 ≤ n ∧ n ≤ 16
  count : ∃ n, members.Tells "count" n ∧ n = entry.count ∧ 0 ≤ n

theorem StatusCount.isReadFrom {members : Members} {entry : StatusCount}
    (h : ofMembers members = .accepted entry) : IsReadFrom members entry := by
  obtain ⟨⟨type, count⟩, hboth, rfl⟩ := Validated.map_eq_accepted h
  obtain ⟨htype, hcount⟩ := Validated.and_eq_accepted hboth
  have hcode := type.code_le
  exact {
    alone := h
    type := ⟨_, Members.tells_statusType htype, rfl, by omega, by omega⟩
    count := ⟨_, Members.tells_count hcount, rfl, by omega⟩ }

structure BucketCount.IsReadFrom (members : Members) (bucket : BucketCount) : Prop where
  alone : ofMembers members = .accepted bucket
  count : ∃ n, members.Tells "count" n ∧ n = bucket.count ∧ 0 ≤ n

theorem BucketCount.isReadFrom {members : Members} {bucket : BucketCount}
    (h : ofMembers members = .accepted bucket) : IsReadFrom members bucket := by
  obtain ⟨⟨start, stop, count⟩, hall, rfl⟩ := Validated.map_eq_accepted h
  obtain ⟨-, hboth⟩ := Validated.and_eq_accepted hall
  obtain ⟨-, hcount⟩ := Validated.and_eq_accepted hboth
  exact {
    alone := h
    count := ⟨_, Members.tells_count hcount, rfl, by omega⟩ }

/-- A list that is not given has no entries; one that is given is all objects, and each entry is
read from the object in its place. -/
def Members.ListIsReadAs (members : Members) (name : String) (isReadFrom : Members → α → Prop)
    (entries : List α) : Prop :=
  (members.lookup name = none ∧ entries = []) ∨
    ∃ objects : List Members, members.lookup name = some (.list (objects.map .object)) ∧
      List.Forall₂ isReadFrom objects entries

theorem Members.listIsReadAs {members : Members} {name : String} {model : Model}
    {check : Members → Validated α} {isReadFrom : Members → α → Prop}
    (hcheck : ∀ {object entry}, check object = .accepted entry → isReadFrom object entry)
    {entries : List α} (h : members.list name model check = .accepted entries) :
    members.ListIsReadAs name isReadFrom entries := by
  rcases list_eq_accepted h with hnone | ⟨objects, hlist, hobjects⟩
  · exact .inl hnone
  · exact .inr ⟨objects, hlist, hobjects.imp fun _ _ => hcheck⟩

namespace Record

structure IsBuiltFrom (members : Members) (record : Record) : Prop where
  counters : ∀ counter : Counter,
    (members.lookup counter.name = none ∧ record.counter counter = 0) ∨
      members.Tells counter.name (record.counter counter)
  failures : members.ListIsReadAs "dpp_failure_code" StatusCount.IsReadFrom record.failures
  successes :
    members.ListIsReadAs "dpp_configurator_success_code" StatusCount.IsReadFrom record.successes
  operationTime :
    members.ListIsReadAs "dpp_operation_time" BucketCount.IsReadFrom record.operationTime

theorem isBuiltFrom {members : Members} {record : Record}
    (h : ofMembers members = .accepted record) : IsBuiltFrom members record := by
  obtain ⟨⟨counters, failures, successes, operationTime⟩, hall, rfl⟩ :=
    Validated.map_eq_accepted h
  obtain ⟨hcounters, hlists⟩ := Validated.and_eq_accepted hall
  obtain ⟨hfailures, hlater⟩ := Validated.and_eq_accepted hlists
  obtain ⟨hsuccesses, hoperationTime⟩ := Validated.and_eq_accepted hlater
  obtain ⟨counts, hcounts, rfl⟩ := Validated.map_eq_accepted hcounters
  refine {
    counters := fun counter => ?_
    failures := Members.listIsReadAs StatusCount.isReadFrom hfailures
    successes := Members.listIsReadAs StatusCount.isReadFrom hsuccesses
    operationTime := Members.listIsReadAs BucketCount.isReadFrom hoperationTime }
  obtain ⟨f, rfl, hf⟩ := Validated.vector_eq_accepted hcounts
  have hcounter := hf counter.index
  rw [Counter.ofIndex_index] at hcounter
  simp only [Record.counter, Tally.get, Vector.getElem_ofFn]
  exact Members.optional_eq_accepted hcounter

theorem isAccepted_iff (members : Members) :
    (∃ record, ofMembers members = .accepted record) ↔
      ∀ name ∈ fieldNames, ∀ value, members.lookup name = some value →
        ∃ record, ofMembers [(name, value)] = .accepted record := by
  simp only [← Validated.defects_eq_nil_iff]
  rw [defects_ofMembers, List.flatMap_eq_nil_iff, ← Field.map_name_all]
  constructor
  · intro hfields name hname value hvalue
    obtain ⟨field, hfield, rfl⟩ := List.mem_map.mp hname
    rw [← Members.only_of_lookup hvalue, defects_only]
    exact hfields field hfield
  · intro halone field hfield
    cases hvalue : members.lookup field.name with
    | none => exact Field.defects_absent hvalue
    | some value =>
        rw [← defects_only, Members.only_of_lookup hvalue]
        exact halone field.name (List.mem_map_of_mem hfield) value hvalue

/-- A record is accepted if each of its fields is, alone.  Its defects are those of the fields one
after the other, and no two are in one place.  An item of a list has the defects that it has
alone, below the name of the list and its index.  What is accepted is built of the entries that
the items make alone. -/
theorem validation_is_compositional (members : Members) :
    ((∃ record, ofMembers members = .accepted record) ↔
      ∀ name ∈ fieldNames, ∀ value, members.lookup name = some value →
        ∃ record, ofMembers [(name, value)] = .accepted record) ∧
    (ofMembers members).defects =
      fieldNames.flatMap (fun name => (ofMembers (members.only name)).defects) ∧
    ((ofMembers members).defects.map Defect.path).Nodup ∧
    (∀ (field : ListField) (items : List Value),
      members.lookup field.name = some (.list items) →
        (ofMembers (members.only field.name)).defects =
          items.zipIdx.flatMap fun (item, i) =>
            (field.itemDefects item).map
              (Defect.below (.member field.name) ∘ Defect.below (.item i))) ∧
    (∀ record, ofMembers members = .accepted record → record.IsBuiltFrom members) := by
  refine ⟨isAccepted_iff members, ?_, nodup_paths members, ?_, fun record => isBuiltFrom⟩
  · rw [defects_ofMembers, ← Field.map_name_all, List.flatMap_map]
    simp only [defects_only]
  · intro field items hitems
    exact (defects_only members (.list field)).trans (ListField.defects_list hitems)

theorem validation_of_nested_entries :
    ∃ (members : Members) (sound unsound : Value),
      members.lookup "dpp_failure_code" = some (.list [sound, unsound]) ∧
      (ofMembers (members.only "dpp_failure_code")).defects =
        [sound, unsound].zipIdx.flatMap (fun (item, i) =>
          (ListField.failures.itemDefects item).map
            (Defect.below (.member "dpp_failure_code") ∘ Defect.below (.item i))) ∧
      (ofMembers members).defects =
        [⟨.unknownStatusType,
            [.member "dpp_failure_code", .item 1, .member "dpp_status_type"]⟩,
          ⟨.missing, [.member "dpp_failure_code", .item 1, .member "count"]⟩,
          ⟨.missing, [.member "dpp_operation_time", .item 0, .member "start"]⟩,
          ⟨.negative, [.member "dpp_operation_time", .item 0, .member "count"]⟩] ∧
      ∃ record, ofMembers [("dpp_failure_code", .list [sound])] = .accepted record ∧
        record.IsBuiltFrom [("dpp_failure_code", .list [sound])] ∧
        record.failures = [⟨.failure .invalidUri, 2⟩] := by
  let sound : Value := .object [("dpp_status_type", .int 3), ("count", .int 2)]
  let unsound : Value := .object [("dpp_status_type", .int 17)]
  let members : Members :=
    [("dpp_operation_time", .list [.object [("count", .int (-1))]]),
      ("dpp_failure_code", .list [sound, unsound])]
  have hitems : members.lookup "dpp_failure_code" = some (.list [sound, unsound]) := rfl
  obtain ⟨-, -, -, hlist, -⟩ := validation_is_compositional members
  have haccepted : ofMembers [("dpp_failure_code", .list [sound])] =
      .accepted ⟨Tally.empty 8, [⟨.failure .invalidUri, 2⟩], [], []⟩ := rfl
  obtain ⟨-, -, -, -, hbuilt⟩ :=
    validation_is_compositional [("dpp_failure_code", .list [sound])]
  exact ⟨members, sound, unsound, hitems, hlist .failures _ hitems, rfl,
    _, haccepted, hbuilt _ haccepted, rfl⟩

end Record

end EasyConnect
