import EasyConnect.Proofs.Json.Writer
import EasyConnect.Proofs.Record.Export
import EasyConnect.Report

namespace EasyConnect

/-! A report in JSON can be read back: the text spells the report and nothing else. -/

namespace Json

mutual

def isMapping : Json → Bool
  | .list items => areMappings items
  | .object members => decide (members.map Prod.fst).Nodup && areMemberMappings members
  | _ => true

def areMappings : List Json → Bool
  | [] => true
  | item :: rest => item.isMapping && areMappings rest

def areMemberMappings : List (String × Json) → Bool
  | [] => true
  | (_, value) :: rest => value.isMapping && areMemberMappings rest

end

theorem areMappings_map {dump : α → Json} (h : ∀ a, (dump a).isMapping = true)
    (entries : List α) : areMappings (entries.map dump) = true := by
  induction entries with
  | nil => rfl
  | cons entry rest ih => rw [List.map_cons, areMappings, h, ih, Bool.true_and]

end Json

theorem StatusCount.isMapping_toJson (entry : StatusCount) : entry.toJson.isMapping = true := rfl

theorem BucketCount.isMapping_toJson (bucket : BucketCount) :
    bucket.toJson.isMapping = true := by
  obtain ⟨start, stop, count⟩ := bucket
  cases stop <;> rfl

theorem Record.isMapping_toJson (record : Record) : record.toJson.isMapping = true := by
  have hsplit : record.toJson.isMapping =
      (decide (Counter.all.map Counter.name ++ ["dpp_failure_code",
          "dpp_configurator_success_code", "dpp_operation_time"]).Nodup &&
        (Json.areMappings (record.failures.map StatusCount.toJson) &&
          (Json.areMappings (record.successes.map StatusCount.toJson) &&
            (Json.areMappings (record.operationTime.map BucketCount.toJson) && true)))) := rfl
  rw [hsplit, Json.areMappings_map StatusCount.isMapping_toJson,
    Json.areMappings_map StatusCount.isMapping_toJson,
    Json.areMappings_map BucketCount.isMapping_toJson]
  decide

theorem Record.toJson_injective {first second : Record} (h : first.toJson = second.toJson) :
    first = second := by
  have hfirst := first.ofMembers_toJson
  rw [h, second.ofMembers_toJson] at hfirst
  exact (Validated.accepted.inj hfirst).symm

namespace Report

theorem toJson_injective {first second : Report} (h : first.toJson = second.toJson) :
    first = second := by
  obtain ⟨record, version, timestamp, drained⟩ := first
  obtain ⟨record', version', timestamp', drained'⟩ := second
  simp only [toJson, Json.object.injEq, List.cons.injEq, Prod.mk.injEq, Json.text.injEq,
    Json.bool.injEq, true_and, and_true] at h
  obtain ⟨rfl, rfl, rfl, hrecord⟩ := h
  rw [Record.toJson_injective hrecord]

theorem isMapping_toJson (report : Report) : report.toJson.isMapping = true := by
  have hsplit : report.toJson.isMapping =
      (decide (["version", "timestamp", "drained", "metrics"].Nodup) &&
        (report.record.toJson.isMapping && true)) := rfl
  rw [hsplit, report.record.isMapping_toJson]
  decide

/-- The text conveys the report to whoever knows the grammar, and no other report has it. -/
structure IsConveyedBy (report : Report) (indent : Option Int) (text : String) : Prop where
  ascii : ∀ c ∈ text.toList, c.toNat < 0x80
  wellFormed : Json.Spells text report.toJson
  unambiguous : ∀ json, Json.Spells text json → json = report.toJson
  read : Json.read? text = some report.toJson
  mapping : report.toJson.isMapping = true
  determined : ∀ other : Report, other.jsonIndented indent = .ok text → other = report
  oneLine : indent = none → ∀ c ∈ text.toList, ' ' ≤ c ∧ c ≤ '~'

theorem json_injective (layout : Json.Layout) {first second : Report}
    (h : first.json layout = second.json layout) : first = second := by
  have hfirst := Json.spells_write layout first.toJson
  have hsecond := Json.spells_write layout second.toJson
  unfold json at h
  rw [h] at hfirst
  exact toJson_injective (hfirst.unique hsecond)

theorem jsonIndented_eq_ok_iff {report : Report} {indent : Option Int} {text : String} :
    report.jsonIndented indent = .ok text ↔
      ∃ layout, Json.Layout.ofIndent indent = .ok layout ∧ report.json layout = text := by
  unfold jsonIndented
  cases Json.Layout.ofIndent indent with
  | error fault => simp [Except.map]
  | ok layout => simp [Except.map]

theorem isConveyedBy_of_jsonIndented {report : Report} {indent : Option Int} {text : String}
    (h : report.jsonIndented indent = .ok text) : report.IsConveyedBy indent text := by
  obtain ⟨layout, hlayout, rfl⟩ := jsonIndented_eq_ok_iff.mp h
  have hspells : Json.Spells (report.json layout) report.toJson :=
    Json.spells_write layout report.toJson
  have hplain : layout.IsPlain (report.json layout).toList :=
    Json.isPlain_write layout report.toJson
  constructor
  case ascii =>
    intro c hc
    rcases hplain c hc with hprintable | hbreak
    · exact Nat.lt_of_le_of_lt (Json.le_iff_toNat.mp hprintable.2) (by decide)
    · rw [hbreak.2]
      decide
  case wellFormed => exact hspells
  case unambiguous => exact fun json hjson => hjson.unique hspells
  case read => exact Json.read?_of_spells hspells
  case mapping => exact report.isMapping_toJson
  case determined =>
    intro other hother
    obtain ⟨layout', hlayout', heq⟩ := jsonIndented_eq_ok_iff.mp hother
    cases hlayout.symm.trans hlayout'
    exact json_injective layout heq
  case oneLine =>
    rintro rfl c hc
    cases hlayout
    rcases hplain c hc with hprintable | hbreak
    · exact hprintable
    · exact absurd rfl hbreak.1

theorem jsonIndented_eq_tooWide_iff {report : Report} {indent : Option Int} :
    report.jsonIndented indent = .error .tooWide ↔ ∃ n ∈ indent, ¬fitsWord n = true := by
  cases indent with
  | none => simp [jsonIndented, Json.Layout.ofIndent, Except.map]
  | some n =>
      simp only [jsonIndented, Json.Layout.ofIndent, Option.mem_some_iff, exists_eq_left']
      cases hfits : fitsWord n with
      | false => simp [Except.map]
      | true => simp [Except.map]

theorem exists_jsonIndented (report : Report) {indent : Option Int}
    (h : ∀ n ∈ indent, -wordLimit ≤ n ∧ n < wordLimit) :
    ∃ text, report.jsonIndented indent = .ok text := by
  cases indent with
  | none => exact ⟨_, rfl⟩
  | some n =>
      have hlayout : Json.Layout.ofIndent (some n) = .ok (.indented n.toNat) := by
        rw [Json.Layout.ofIndent, if_pos (fitsWord_iff.mpr (h n rfl))]
      exact ⟨_, jsonIndented_eq_ok_iff.mpr ⟨_, hlayout, rfl⟩⟩

/-- Whatever the record, the version and the time stamp hold, the text that is written at an
indent reads back as the report, and there is one exactly at the indents that fit a word. -/
theorem jsonIndented_conveys (report : Report) (indent : Option Int) :
    (∀ text, report.jsonIndented indent = .ok text → report.IsConveyedBy indent text) ∧
      ((∀ n ∈ indent, -wordLimit ≤ n ∧ n < wordLimit) →
        ∃ text, report.jsonIndented indent = .ok text) ∧
      (report.jsonIndented indent = .error .tooWide ↔ ∃ n ∈ indent, ¬fitsWord n = true) := by
  refine ⟨?_, ?_, ?_⟩
  · intro text htext
    exact isConveyedBy_of_jsonIndented htext
  · exact report.exists_jsonIndented
  · exact jsonIndented_eq_tooWide_iff

theorem jsonIndented_below_word :
    ¬∃ text, Report.jsonIndented { record := ⟨Tally.empty 8, [], [], []⟩, timestamp := "" }
      (some (-9223372036854775809)) = .ok text := by
  intro h
  obtain ⟨text, htext⟩ := h
  have hwide : Report.jsonIndented { record := ⟨Tally.empty 8, [], [], []⟩, timestamp := "" }
      (some (-9223372036854775809)) = .error .tooWide :=
    jsonIndented_eq_tooWide_iff.mpr ⟨_, rfl, by decide⟩
  rw [hwide] at htext
  cases htext

end Report

end EasyConnect
