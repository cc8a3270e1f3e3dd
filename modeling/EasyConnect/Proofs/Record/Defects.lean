import EasyConnect.Record.Kept
import Mathlib.Data.List.Nodup

namespace EasyConnect

/-! What is wrong with the members of a record is what is wrong with each of them alone, and what
is wrong with an item of a list is what is wrong with it outside of the list. -/

namespace Validated

theorem defects_items (check : α → Validated β) (index : Nat) (xs : List α) :
    (items check index xs).defects =
      (xs.zipIdx index).flatMap fun (x, i) =>
        (check x).defects.map (Defect.below (.item i)) := by
  induction xs generalizing index with
  | nil => rfl
  | cons x rest ih =>
      rw [items, defects_map, defects_and, defects_below, ih, List.zipIdx_cons,
        List.flatMap_cons]

theorem defects_vector {n : Nat} (check : Fin n → Validated α) :
    (vector n check).defects = (List.finRange n).flatMap fun i => (check i).defects := by
  induction n with
  | zero => rfl
  | succ n ih =>
      rw [vector, defects_map, defects_and, ih, List.finRange_succ_last, List.flatMap_append,
        List.flatMap_map, List.flatMap_singleton]

theorem defects_ofMember (name : String) (checked : Except DefectKind α) :
    (ofMember name checked).defects = [] ∨
      ∃ kind, (ofMember name checked).defects = [.ofMember kind name] := by
  cases checked with
  | ok a => exact .inl rfl
  | error kind => exact .inr ⟨kind, rfl⟩

end Validated

/-- Defects that lie below different steps lie in different places. -/
theorem nodup_paths_flatMap {step : ι → PathStep} {defects : ι → List Defect} {xs : List ι}
    (hsteps : (xs.map step).Nodup)
    (hbelow : ∀ x ∈ xs, ∀ defect ∈ defects x, defect.path.head? = some (step x))
    (hdefects : ∀ x ∈ xs, ((defects x).map Defect.path).Nodup) :
    ((xs.flatMap defects).map Defect.path).Nodup := by
  rw [List.map_flatMap, List.nodup_flatMap]
  refine ⟨hdefects, (List.pairwise_map.mp hsteps).imp_of_mem ?_⟩
  intro x y hx hy hne path hpath hpath'
  obtain ⟨defect, hdefect, rfl⟩ := List.mem_map.mp hpath
  obtain ⟨other, hother, heq⟩ := List.mem_map.mp hpath'
  have hhead := hbelow x hx defect hdefect
  rw [← heq, hbelow y hy other hother] at hhead
  exact hne (Option.some.inj hhead).symm

theorem nodup_paths_below {step : PathStep} {defects : List Defect}
    (h : (defects.map Defect.path).Nodup) :
    ((defects.map (Defect.below step)).map Defect.path).Nodup := by
  have hpath : Defect.path ∘ Defect.below step = List.cons step ∘ Defect.path := rfl
  rw [List.map_map, hpath, ← List.map_map]
  exact h.map List.cons_injective

namespace Members

def only (members : Members) (name : String) : Members :=
  match members.lookup name with
  | some value => [(name, value)]
  | none => []

theorem lookup_only (members : Members) (name : String) :
    (members.only name).lookup name = members.lookup name := by
  unfold only
  cases members.lookup name with
  | none => rfl
  | some value => simp

theorem lookup_only_of_ne (members : Members) {name other : String} (h : other ≠ name) :
    (members.only name).lookup other = none := by
  have hother : (other == name) = false := beq_eq_false_iff_ne.mpr h
  unfold only
  cases members.lookup name with
  | none => rfl
  | some value => simp [List.lookup_cons, hother]

theorem only_of_lookup {members : Members} {name : String} {value : Value}
    (h : members.lookup name = some value) : members.only name = [(name, value)] := by
  rw [only, h]

theorem defects_required (members : Members) (name : String)
    (read : Value → Except DefectKind α) :
    (members.required name read).defects = [] ∨
      ∃ kind, (members.required name read).defects = [.ofMember kind name] := by
  unfold required
  cases members.lookup name with
  | none => exact .inr ⟨.missing, rfl⟩
  | some value => exact Validated.defects_ofMember name (read value)

theorem defects_optional (members : Members) (name : String) (absent : α)
    (read : Value → Except DefectKind α) :
    (members.optional name absent read).defects = [] ∨
      ∃ kind, (members.optional name absent read).defects = [.ofMember kind name] := by
  unfold optional
  cases members.lookup name with
  | none => exact .inl rfl
  | some value => exact Validated.defects_ofMember name (read value)

theorem defects_list {members : Members} {name : String} {items : List Value}
    (h : members.lookup name = some (.list items)) (model : Model)
    (check : Members → Validated α) :
    (members.list name model check).defects = items.zipIdx.flatMap fun (x, i) =>
      (item model check x).defects.map
        (Defect.below (.member name) ∘ Defect.below (.item i)) := by
  simp only [list, h, Validated.defects_below, Validated.defects_items, List.map_flatMap,
    List.map_map]

theorem head?_path_list {members : Members} {name : String} {model : Model}
    {check : Members → Validated α} {defect : Defect}
    (h : defect ∈ (members.list name model check).defects) :
    defect.path.head? = some (.member name) := by
  unfold list at h
  split at h
  · cases h
  · rw [Validated.defects_below] at h
    obtain ⟨inner, -, rfl⟩ := List.mem_map.mp h
    rfl
  · rw [Validated.defects_refused, List.mem_singleton] at h
    rw [h]
    rfl

theorem nodup_paths_item {model : Model} {check : Members → Validated α}
    (hcheck : ∀ members, ((check members).defects.map Defect.path).Nodup) (x : Value) :
    ((item model check x).defects.map Defect.path).Nodup := by
  cases x with
  | object members => exact hcheck members
  | _ => exact List.nodup_singleton _

theorem nodup_paths_list {model : Model} {check : Members → Validated α}
    (hcheck : ∀ members, ((check members).defects.map Defect.path).Nodup) (members : Members)
    (name : String) : ((members.list name model check).defects.map Defect.path).Nodup := by
  unfold list
  split
  · exact List.nodup_nil
  · rename_i items hitem
    rw [Validated.defects_below, Validated.defects_items]
    have hindices : (items.zipIdx.map fun entry => PathStep.item entry.2).Nodup := by
      have hstep : (fun entry : Value × Nat => PathStep.item entry.2) =
          PathStep.item ∘ Prod.snd := rfl
      have hinjective : Function.Injective PathStep.item := fun i j h => by
        cases h
        rfl
      rw [hstep, ← List.map_map, List.zipIdx_map_snd]
      exact List.Nodup.map hinjective List.nodup_range'
    refine nodup_paths_below (nodup_paths_flatMap hindices ?_ ?_)
    · intro entry _ defect hdefect
      obtain ⟨inner, -, rfl⟩ := List.mem_map.mp hdefect
      rfl
    · exact fun entry _ => nodup_paths_below (nodup_paths_item hcheck entry.1)
  · exact List.nodup_singleton _

end Members

theorem StatusCount.nodup_paths (members : Members) :
    ((ofMembers members).defects.map Defect.path).Nodup := by
  rw [ofMembers, Validated.defects_map, Validated.defects_and]
  rcases members.defects_required "dpp_status_type" readStatusType with htype | ⟨kind, htype⟩ <;>
    rcases members.defects_required "count" readCount with hcount | ⟨other, hcount⟩ <;>
      simp [htype, hcount, Defect.ofMember]

theorem BucketCount.nodup_paths (members : Members) :
    ((ofMembers members).defects.map Defect.path).Nodup := by
  rw [ofMembers, Validated.defects_map, Validated.defects_and, Validated.defects_and]
  rcases members.defects_required "start" readInteger with hstart | ⟨kind, hstart⟩ <;>
    rcases members.defects_optional "end" none readStop with hstop | ⟨kind', hstop⟩ <;>
      rcases members.defects_required "count" readCount with hcount | ⟨kind'', hcount⟩ <;>
        simp [hstart, hstop, hcount, Defect.ofMember]

namespace Record

inductive ListField
  | failures
  | successes
  | operationTime

namespace ListField

def all : List ListField :=
  [.failures, .successes, .operationTime]

theorem mem_all (field : ListField) : field ∈ all := by
  cases field <;> simp [all]

def name : ListField → String
  | .failures => "dpp_failure_code"
  | .successes => "dpp_configurator_success_code"
  | .operationTime => "dpp_operation_time"

def itemDefects : ListField → Value → List Defect
  | .failures, .object members => (StatusCount.ofMembers members).defects
  | .successes, .object members => (StatusCount.ofMembers members).defects
  | .operationTime, .object members => (BucketCount.ofMembers members).defects
  | .failures, _ => [⟨.notMembers .statusCount, []⟩]
  | .successes, _ => [⟨.notMembers .statusCount, []⟩]
  | .operationTime, _ => [⟨.notMembers .bucketCount, []⟩]

def defects (members : Members) : ListField → List Defect
  | .failures => (members.list "dpp_failure_code" .statusCount StatusCount.ofMembers).defects
  | .successes =>
      (members.list "dpp_configurator_success_code" .statusCount StatusCount.ofMembers).defects
  | .operationTime =>
      (members.list "dpp_operation_time" .bucketCount BucketCount.ofMembers).defects

theorem exists_check (field : ListField) :
    ∃ (α : Type) (model : Model) (check : Members → Validated α),
      (∀ members, ((check members).defects.map Defect.path).Nodup) ∧
        (∀ members, field.defects members = (members.list field.name model check).defects) ∧
          ∀ item, field.itemDefects item = (Members.item model check item).defects := by
  cases field with
  | failures =>
      exact ⟨_, .statusCount, _, StatusCount.nodup_paths, fun _ => rfl,
        fun item => by cases item <;> rfl⟩
  | successes =>
      exact ⟨_, .statusCount, _, StatusCount.nodup_paths, fun _ => rfl,
        fun item => by cases item <;> rfl⟩
  | operationTime =>
      exact ⟨_, .bucketCount, _, BucketCount.nodup_paths, fun _ => rfl,
        fun item => by cases item <;> rfl⟩

theorem defects_congr {members others : Members} {field : ListField}
    (h : members.lookup field.name = others.lookup field.name) :
    field.defects members = field.defects others := by
  obtain ⟨α, model, check, -, hdefects, -⟩ := field.exists_check
  simp only [hdefects, Members.list, h]

theorem defects_list {members : Members} {field : ListField} {items : List Value}
    (h : members.lookup field.name = some (.list items)) :
    field.defects members = items.zipIdx.flatMap fun (item, i) =>
      (field.itemDefects item).map
        (Defect.below (.member field.name) ∘ Defect.below (.item i)) := by
  obtain ⟨α, model, check, -, hdefects, hitem⟩ := field.exists_check
  simp only [hdefects, hitem, Members.defects_list h]

theorem head?_path {members : Members} {field : ListField} {defect : Defect}
    (h : defect ∈ field.defects members) :
    defect.path.head? = some (.member field.name) := by
  obtain ⟨α, model, check, -, hdefects, -⟩ := field.exists_check
  rw [hdefects] at h
  exact Members.head?_path_list h

theorem nodup_paths (members : Members) (field : ListField) :
    ((field.defects members).map Defect.path).Nodup := by
  obtain ⟨α, model, check, hcheck, hdefects, -⟩ := field.exists_check
  rw [hdefects]
  exact Members.nodup_paths_list hcheck members field.name

end ListField

inductive Field
  | scalar (counter : Counter)
  | list (field : ListField)

namespace Field

def all : List Field :=
  Counter.all.map .scalar ++ ListField.all.map .list

theorem mem_all : (field : Field) → field ∈ all
  | .scalar counter =>
      List.mem_append_left _ (List.mem_map_of_mem counter.mem_all)
  | .list field => List.mem_append_right _ (List.mem_map_of_mem field.mem_all)

def name : Field → String
  | .scalar counter => counter.name
  | .list field => field.name

theorem map_name_all : all.map name = fieldNames := rfl

theorem nodup_names : (all.map name).Nodup := by
  decide

def defects (members : Members) : Field → List Defect
  | .scalar counter => (members.optional counter.name 0 readInteger).defects
  | .list field => field.defects members

theorem defects_congr {members others : Members} {field : Field}
    (h : members.lookup field.name = others.lookup field.name) :
    field.defects members = field.defects others := by
  cases field with
  | scalar counter =>
      have hcounter : members.lookup counter.name = others.lookup counter.name := h
      simp only [defects, Members.optional, hcounter]
  | list field => exact ListField.defects_congr h

theorem defects_absent {members : Members} {field : Field}
    (h : members.lookup field.name = none) : field.defects members = [] := by
  have hnone : ([] : Members).lookup field.name = none := rfl
  rw [defects_congr (h.trans hnone.symm)]
  rcases field with counter | failures | successes | operationTime <;> rfl

theorem head?_path {members : Members} {field : Field} {defect : Defect}
    (h : defect ∈ field.defects members) :
    defect.path.head? = some (.member field.name) := by
  cases field with
  | scalar counter =>
      simp only [defects] at h
      rcases members.defects_optional counter.name 0 readInteger with hnone | ⟨kind, hkind⟩
      · rw [hnone] at h
        cases h
      · rw [hkind, List.mem_singleton] at h
        rw [h]
        rfl
  | list field => exact ListField.head?_path h

theorem nodup_paths (members : Members) (field : Field) :
    ((field.defects members).map Defect.path).Nodup := by
  cases field with
  | scalar counter =>
      rcases members.defects_optional counter.name 0 readInteger with hnone | ⟨kind, hkind⟩
      · rw [defects, hnone]
        exact List.nodup_nil
      · rw [defects, hkind]
        exact List.nodup_singleton _
  | list field => exact field.nodup_paths members

end Field

theorem defects_ofMembers (members : Members) :
    (ofMembers members).defects = Field.all.flatMap (Field.defects members) := by
  have hcounters : (countersOf members).defects =
      (Counter.all.map Field.scalar).flatMap (Field.defects members) := by
    rw [countersOf, Validated.defects_map, Validated.defects_vector]
    rfl
  have hlists : (ListField.all.map Field.list).flatMap (Field.defects members) =
      ListField.failures.defects members ++
        (ListField.successes.defects members ++ ListField.operationTime.defects members) := by
    simp [ListField.all, Field.defects]
  simp only [ofMembers, Validated.defects_map, Validated.defects_and, hcounters, Field.all,
    List.flatMap_append, hlists]
  rfl

theorem defects_only (members : Members) (field : Field) :
    (ofMembers (members.only field.name)).defects = field.defects members := by
  obtain ⟨before, after, hall⟩ := List.append_of_mem field.mem_all
  have hnames := Field.nodup_names
  rw [hall, List.map_append, List.map_cons, List.nodup_middle, List.nodup_cons] at hnames
  -- No other field has the name, so each of them is absent and has no defects.
  have hothers : ∀ other ∈ before ++ after, other.defects (members.only field.name) = [] := by
    intro other hother
    apply Field.defects_absent
    apply members.lookup_only_of_ne
    intro hname
    apply hnames.1
    rw [← List.map_append, ← hname]
    exact List.mem_map_of_mem hother
  rw [List.forall_mem_append] at hothers
  rw [defects_ofMembers, hall, List.flatMap_append, List.flatMap_cons,
    List.flatMap_eq_nil_iff.mpr hothers.1, List.flatMap_eq_nil_iff.mpr hothers.2,
    List.nil_append, List.append_nil]
  exact Field.defects_congr (members.lookup_only field.name)

theorem nodup_paths (members : Members) :
    ((ofMembers members).defects.map Defect.path).Nodup := by
  rw [defects_ofMembers]
  have hsteps : (Field.all.map fun field => PathStep.member field.name).Nodup := by
    have hinjective : Function.Injective PathStep.member := fun first second h => by
      cases h
      rfl
    exact List.map_map ▸ Field.nodup_names.map hinjective
  exact nodup_paths_flatMap hsteps (fun field _ defect => Field.head?_path)
    fun field _ => field.nodup_paths members

end Record

end EasyConnect
