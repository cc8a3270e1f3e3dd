import EasyConnect.Proofs.Record.Rows

namespace EasyConnect

open Text

/-! What a dump tells. Its lines can be told apart, and the entries on a line too, so that all of
a record is in its dump unless operation times without a sample were left out. -/

namespace Record

def entry (row : String × Int) : String :=
  row.1 ++ "=" ++ Numeral.decimal row.2

theorem entry_cancel {first second : String × Int} (hfirst : IsUnmarked first.1)
    (hsecond : IsUnmarked second.1) (h : entry first = entry second) : first = second := by
  have hequals : '=' ∈ "=".toList := by decide
  obtain ⟨hname, hnumber⟩ :=
    append_separator_cancel hequals (hfirst.not_mem rfl) (hsecond.not_mem rfl) h
  exact Prod.ext hname (Numeral.decimal_injective hnumber)

theorem not_mem_entry {c : Char} {row : String × Int} (hrow : IsUnmarked row.1)
    (hmark : isMarkup c = true) (hequals : c ≠ '=') : c ∉ (entry row).toList := by
  intro h
  rw [entry, String.toList_append, String.toList_append] at h
  rcases List.mem_append.mp h with h | hnumber
  · rcases List.mem_append.mp h with hname | hequal
    · exact hrow.not_mem hmark hname
    · exact hequals (List.mem_singleton.mp hequal)
  · exact (Numeral.isUnmarked_decimal row.2).not_mem hmark hnumber

theorem map_entry_cancel {first second : List (String × Int)}
    (hfirst : ∀ row ∈ first, IsUnmarked row.1) (hsecond : ∀ row ∈ second, IsUnmarked row.1)
    (h : first.map entry = second.map entry) : first = second :=
  map_cancel (fun row hrow other hother => entry_cancel (hfirst row hrow) (hsecond other hother)) h

theorem braced_cancel {first second : List (String × Int)}
    (hfirst : ∀ row ∈ first, IsUnmarked row.1) (hsecond : ∀ row ∈ second, IsUnmarked row.1)
    (hnonempty : first ≠ []) (hnonempty' : second ≠ [])
    (h : braced (first.map entry) = braced (second.map entry)) : first = second := by
  have hblank : ' ' ∈ ", ".toList := by decide
  have hentries {rows : List (String × Int)} (hrows : ∀ row ∈ rows, IsUnmarked row.1) :
      ∀ text ∈ rows.map entry, ' ' ∉ text.toList := by
    intro text htext
    obtain ⟨row, hrow, rfl⟩ := List.mem_map.mp htext
    exact not_mem_entry (hrows row hrow) rfl (by decide)
  rw [braced, braced, String.append_left_inj, String.append_right_inj] at h
  apply map_entry_cancel hfirst hsecond
  apply intercalate_cancel hblank (hentries hfirst) (hentries hsecond) ?_ ?_ h
  · exact fun hnil => hnonempty (List.map_eq_nil_iff.mp hnil)
  · exact fun hnil => hnonempty' (List.map_eq_nil_iff.mp hnil)

theorem body_eq (record : Record) (book : Book) :
    record.body book = braced ((record.part book).rows.map entry) := by
  cases book <;>
    simp only [body, part, statusLine, bucketLine, statusSection, operationTimeSection,
      List.map_map] <;>
    rfl

/-- The operation times are shown: there is nothing to be left out. -/
def ShowsTimes (record : Record) : Prop :=
  record.operationTime = [] ∨ ∃ bucket ∈ record.operationTime, 0 < bucket.count

instance (record : Record) : Decidable record.ShowsTimes :=
  inferInstanceAs (Decidable (_ ∨ _))

theorem showsTimes_iff {record : Record} :
    record.ShowsTimes ↔ (record.counts .durations ≠ [] → record.HasSample .durations) := by
  have hempty : record.counts .durations = [] ↔ record.operationTime = [] := List.map_eq_nil_iff
  have hsample : record.HasSample .durations ↔
      ∃ bucket ∈ record.operationTime, 0 < bucket.count := by
    simp only [HasSample, counts, List.mem_map, exists_exists_and_eq_and]
  rw [← or_iff_not_imp_left, hempty, hsample, ShowsTimes]

theorem ShowsTimes.rows_eq_nil {record : Record} (hshows : record.ShowsTimes) {book : Book}
    (h : record.isDumpedBook book = false) : (record.part book).rows = [] := by
  rw [rows_eq_nil_iff]
  by_contra hentry
  have hdumped : record.isDumpedBook book = true := by
    refine isDumpedBook_iff.mpr ⟨hentry, ?_⟩
    rintro rfl
    exact showsTimes_iff.mp hshows hentry
  rw [h] at hdumped
  cases hdumped

theorem isDumpedBook_eq_of_lines {first second : Record} (h : first.lines = second.lines)
    (book : Book) : first.isDumpedBook book = second.isDumpedBook book := by
  rw [Bool.eq_iff_iff]
  constructor
  · intro hdumped
    apply isDumpedBook_of_mem_lines
    rw [← h]
    exact (isDumped_of_isDumpedBook hdumped).heading_mem
  · intro hdumped
    apply isDumpedBook_of_mem_lines
    rw [h]
    exact (isDumped_of_isDumpedBook hdumped).heading_mem

theorem length_dumpedBook (record : Record) (book : Book) :
    (record.dumpedBook book).length = if record.isDumpedBook book then 2 else 0 := by
  unfold dumpedBook
  split <;> rfl

def inner (record : Record) : List String :=
  record.namedCounters.map entry ++ Book.all.flatMap record.dumpedBook

theorem lines_eq_inner (record : Record) :
    record.lines = header :: (record.inner ++ [footer]) :=
  record.lines_eq

theorem lines_cancel {first second : Record} (h : first.lines = second.lines) :
    first.namedCounters.map entry = second.namedCounters.map entry ∧
      ∀ book, first.dumpedBook book = second.dumpedBook book := by
  have hlength (book : Book) :
      (first.dumpedBook book).length = (second.dumpedBook book).length := by
    rw [length_dumpedBook, length_dumpedBook, isDumpedBook_eq_of_lines h]
  rw [lines_eq_inner, lines_eq_inner] at h
  have hinner := List.append_cancel_right (List.cons.inj h).2
  have hcounters : (first.namedCounters.map entry).length =
      (second.namedCounters.map entry).length := by
    simp only [namedCounters, List.length_map]
  obtain ⟨hentries, hbooks⟩ := List.append_inj hinner hcounters
  have hall := flatMap_cancel (fun book _ => hlength book) hbooks
  exact ⟨hentries, fun book => hall book book.mem_all⟩

theorem eq_of_lines {first second : Record} (hfirst : first.ShowsTimes)
    (hsecond : second.ShowsTimes) (h : first.lines = second.lines) : first = second := by
  obtain ⟨hcounters, hbooks⟩ := lines_cancel h
  apply eq_of_rows
  · exact map_entry_cancel (fun _ => isUnmarked_of_mem_namedCounters)
      (fun _ => isUnmarked_of_mem_namedCounters) hcounters
  · intro book
    have hdumped := isDumpedBook_eq_of_lines h book
    cases hbook : first.isDumpedBook book with
    | false => rw [hfirst.rows_eq_nil hbook, hsecond.rows_eq_nil (hdumped.symm.trans hbook)]
    | true =>
        have hbook' := hdumped.symm.trans hbook
        have hlisted := hbooks book
        rw [dumpedBook, if_pos hbook, dumpedBook, if_pos hbook', body_eq, body_eq] at hlisted
        have hline := (List.cons.inj (List.cons.inj hlisted).2).1
        apply braced_cancel (fun _ => isUnmarked_of_mem_rows) (fun _ => isUnmarked_of_mem_rows)
          _ _ hline
        · exact mt rows_eq_nil_iff.mp (isDumpedBook_iff.mp hbook).1
        · exact mt rows_eq_nil_iff.mp (isDumpedBook_iff.mp hbook').1

/-! The lines by themselves. -/

theorem mem_inner {record : Record} {line : String} (h : line ∈ record.inner) :
    (∃ row ∈ record.namedCounters, line = entry row) ∨
      ∃ book : Book, line = book.heading ∨ line = record.body book := by
  rcases List.mem_append.mp h with hcounter | hbook
  · obtain ⟨row, hrow, rfl⟩ := List.mem_map.mp hcounter
    exact .inl ⟨row, hrow, rfl⟩
  · obtain ⟨book, -, hline⟩ := List.mem_flatMap.mp hbook
    refine .inr ⟨book, ?_⟩
    unfold dumpedBook at hline
    split at hline
    · exact List.mem_pair.mp hline
    · cases hline

theorem break_not_mem_body (record : Record) (book : Book) : '\n' ∉ (record.body book).toList := by
  have hopen : '\n' ∉ "\x7b".toList := by decide
  have hclose : '\n' ∉ "\x7d".toList := by decide
  have hcomma : '\n' ∉ ", ".toList := by decide
  rw [body_eq, braced, String.toList_append, String.toList_append, List.mem_append,
    List.mem_append]
  rintro ((h | h) | h)
  · exact hopen h
  · rcases mem_intercalate h with h | ⟨piece, hpiece, h⟩
    · exact hcomma h
    · obtain ⟨row, hrow, rfl⟩ := List.mem_map.mp hpiece
      exact not_mem_entry (isUnmarked_of_mem_rows hrow) rfl (by decide) h
  · exact hclose h

theorem break_not_mem_line {record : Record} {line : String} (h : line ∈ record.lines) :
    '\n' ∉ line.toList := by
  have hheader : '\n' ∉ header.toList := by decide
  have hfooter : '\n' ∉ footer.toList := by decide
  rw [lines_eq_inner, List.mem_cons, List.mem_append, List.mem_singleton] at h
  rcases h with rfl | h | rfl
  · exact hheader
  · rcases mem_inner h with ⟨row, hrow, rfl⟩ | ⟨book, rfl | rfl⟩
    · exact not_mem_entry (isUnmarked_of_mem_namedCounters hrow) rfl (by decide)
    · cases book <;> decide
    · exact record.break_not_mem_body book
  · exact hfooter

theorem opening_entry {record : Record} {row : String × Int}
    (h : row ∈ record.namedCounters) : opening (entry row) = some 'n' := by
  obtain ⟨counter, -, rfl⟩ := List.mem_map.mp h
  rw [entry, String.append_assoc, opening_append counter.opening_name]

theorem opening_inner {record : Record} {line : String} (h : line ∈ record.inner) :
    opening line ≠ some '-' := by
  rcases mem_inner h with ⟨row, hrow, rfl⟩ | ⟨book, rfl | rfl⟩
  · rw [opening_entry hrow]
    decide
  · rw [book.opening_heading]
    decide
  · rw [opening_body]
    decide

theorem heading_ne {book : Book} {line : String} (h : opening line ≠ some 'd') :
    book.heading ≠ line := by
  rintro rfl
  exact h book.opening_heading

theorem heading_not_mem_flatMap {record : Record} {book : Book} {books : List Book}
    (h : book ∉ books) : book.heading ∉ books.flatMap record.dumpedBook := by
  intro hmem
  obtain ⟨other, hother, hheading⟩ := List.mem_flatMap.mp hmem
  rw [(heading_mem_dumpedBook hheading).1] at h
  exact h hother

/-- Wherever the heading of a histogram stands, the line below it is the histogram's. -/
theorem body_follows_heading {record : Record} {book : Book} {before after : List String}
    (h : record.lines = before ++ book.heading :: after) :
    ∃ later, after = record.body book :: later := by
  have hlisted : record.dumpedBook book = [book.heading, record.body book] := by
    apply if_pos
    apply isDumpedBook_of_mem_lines
    rw [h]
    exact List.mem_append_right _ List.mem_cons_self
  obtain ⟨front, back, hall⟩ := List.append_of_mem book.mem_all
  have hlines : record.lines =
      (header :: record.namedCounters.map entry ++ front.flatMap record.dumpedBook) ++
        book.heading :: (record.body book :: (back.flatMap record.dumpedBook ++ [footer])) := by
    rw [lines_eq_inner, inner, hall, List.flatMap_append, List.flatMap_cons, hlisted]
    simp only [List.append_assoc, List.cons_append, List.nil_append]
  -- No book comes twice, so its heading stands neither above nor below.
  have hnodup : (front ++ book :: back).Nodup := hall ▸ (by decide : Book.all.Nodup)
  obtain ⟨-, hback, hfront⟩ := List.nodup_append.mp hnodup
  have habove : book.heading ∉
      header :: record.namedCounters.map entry ++ front.flatMap record.dumpedBook := by
    rw [List.mem_append, List.mem_cons, List.mem_map]
    rintro ((hheader | ⟨row, hrow, hentry⟩) | hbooks)
    · exact heading_ne (by decide) hheader
    · exact heading_ne (by rw [opening_entry hrow]; decide) hentry.symm
    · exact heading_not_mem_flatMap (fun hmem => hfront _ hmem _ List.mem_cons_self rfl) hbooks
  have hbelow : book.heading ∉
      record.body book :: (back.flatMap record.dumpedBook ++ [footer]) := by
    rw [List.mem_cons, List.mem_append, List.mem_singleton]
    rintro (hbody | hbooks | hfooter)
    · exact heading_ne (by rw [opening_body]; decide) hbody
    · exact heading_not_mem_flatMap (List.nodup_cons.mp hback).1 hbooks
    · exact heading_ne (by decide) hfooter
  rw [hlines, List.append_cons_inj_of_notMem habove hbelow] at h
  exact ⟨_, h.2.2.symm⟩

theorem header_not_mem (record : Record) : header ∉ record.inner ++ [footer] := by
  rw [List.mem_append, List.mem_singleton]
  rintro (h | h)
  · exact opening_inner h (by decide)
  · exact absurd h (by decide)

theorem footer_not_mem (record : Record) : footer ∉ header :: record.inner := by
  rw [List.mem_cons]
  rintro (h | h)
  · exact absurd h (by decide)
  · exact opening_inner h (by decide)

theorem length_flatMap_dumpedBook (record : Record) (books : List Book) :
    (books.flatMap record.dumpedBook).length = 2 * (books.filter record.isDumpedBook).length := by
  induction books with
  | nil => rfl
  | cons book rest ih =>
      rw [List.flatMap_cons, List.length_append, ih, length_dumpedBook, List.filter_cons]
      split
      · rw [List.length_cons, Nat.mul_succ, Nat.add_comm]
      · exact Nat.zero_add _

theorem length_lines (record : Record) :
    record.lines.length = 10 + 2 * (Book.all.filter record.isDumpedBook).length := by
  have hcounters : (record.namedCounters.map entry).length = 8 := by
    rw [List.length_map, namedCounters, List.length_map]
    rfl
  rw [lines_eq_inner, List.length_cons, List.length_append, inner, List.length_append, hcounters,
    length_flatMap_dumpedBook, List.length_singleton]
  omega

theorem splitLines_dump (record : Record) : splitLines record.dump = record.lines ++ [""] := by
  have hlines : record.lines ≠ [] := by
    rw [lines_eq_inner]
    exact List.cons_ne_nil _ _
  have hdump : record.dump = "\n".intercalate (record.lines ++ [""]) := by
    rw [String.intercalate_append_of_ne_nil hlines (List.cons_ne_nil _ _),
      String.intercalate_singleton, String.append_empty, dump]
  rw [hdump]
  apply splitLines_intercalate (List.append_ne_nil_of_left_ne_nil hlines _)
  intro line hline
  rcases List.mem_append.mp hline with h | h
  · exact break_not_mem_line h
  · rw [List.mem_singleton.mp h]
    exact List.not_mem_nil

/-- A dump is made of whole lines between a first and a last that stand nowhere else, two more for
every histogram that is listed. -/
structure DumpsInLines (record : Record) : Prop where
  unbroken : ∀ line ∈ record.lines, '\n' ∉ line.toList
  framed : ∃ inner, record.lines = header :: (inner ++ [footer]) ∧
    header ∉ inner ++ [footer] ∧ footer ∉ header :: inner
  length : ∃ listed : List Book, listed.Nodup ∧
    (∀ book, book ∈ listed ↔ record.IsDumped book) ∧
    record.lines.length = 10 + 2 * listed.length
  splits : splitLines record.dump = record.lines ++ [""]

theorem dumpsInLines (record : Record) : record.DumpsInLines := by
  constructor
  case unbroken => exact fun _ => break_not_mem_line
  case framed =>
    exact ⟨record.inner, record.lines_eq_inner, record.header_not_mem, record.footer_not_mem⟩
  case length =>
    refine ⟨Book.all.filter record.isDumpedBook, ?_, ?_, record.length_lines⟩
    · exact (by decide : Book.all.Nodup).filter _
    · intro book
      rw [List.mem_filter, isDumped_iff, ← isDumpedBook_iff]
      exact and_iff_right book.mem_all
  case splits => exact record.splitLines_dump

theorem lines_inj {first second : Record} (hfirst : first.ShowsTimes)
    (hsecond : second.ShowsTimes) : first.lines = second.lines ↔ first = second :=
  ⟨eq_of_lines hfirst hsecond, congrArg lines⟩

theorem lines_eq_of_dump {first second : Record} (h : first.dump = second.dump) :
    first.lines = second.lines := by
  have hsplit := congrArg splitLines h
  rw [splitLines_dump, splitLines_dump] at hsplit
  exact List.append_cancel_right hsplit

/-- A dump tells its record, line by line or as one text, if the record's operation times are
shown. Those of a collector are. -/
theorem dump_tells_record :
    (∀ record : Record, record.DumpsInLines) ∧
      (∀ first second : Record, first.ShowsTimes → second.ShowsTimes →
        (first.lines = second.lines ↔ first = second) ∧
          (first.dump = second.dump ↔ first = second)) ∧
      ∀ (whole : WholeBoundaries) (collector : Collector whole.toBoundaries),
        ∃ record, collector.record? = .ok record ∧ record.ShowsTimes ∧
          collector.step .lines = (collector, .quiet (.lines record.lines)) ∧
          collector.step (.dump none) = (collector, .quiet (.text record.dump)) := by
  refine ⟨dumpsInLines, ?_, ?_⟩
  · intro first second hfirst hsecond
    have hlines := lines_inj hfirst hsecond
    exact ⟨hlines, fun h => hlines.mp (lines_eq_of_dump h), congrArg dump⟩
  · intro whole collector
    have hrecord := collector.record?_toBoundaries
    refine ⟨_, hrecord, showsTimes_iff.mpr (Collector.hasSample_of_hasEntry hrecord), ?_, ?_⟩
    · rw [Collector.step, Collector.reading, hrecord]
    · rw [Collector.step, Collector.reading, hrecord]

theorem dump_tells_order :
    ShowsTimes ⟨Tally.empty 8, [], [], [⟨0, some 1, 0⟩, ⟨1, none, 2⟩]⟩ ∧
      ShowsTimes ⟨Tally.empty 8, [], [], [⟨1, none, 2⟩, ⟨0, some 1, 0⟩]⟩ ∧
      dump ⟨Tally.empty 8, [], [], [⟨0, some 1, 0⟩, ⟨1, none, 2⟩]⟩ ≠
        dump ⟨Tally.empty 8, [], [], [⟨1, none, 2⟩, ⟨0, some 1, 0⟩]⟩ := by
  have hfirst : ShowsTimes ⟨Tally.empty 8, [], [], [⟨0, some 1, 0⟩, ⟨1, none, 2⟩]⟩ := by decide
  have hsecond : ShowsTimes ⟨Tally.empty 8, [], [], [⟨1, none, 2⟩, ⟨0, some 1, 0⟩]⟩ := by decide
  refine ⟨hfirst, hsecond, fun h => ?_⟩
  have hrecords := (dump_tells_record.2.1 _ _ hfirst hsecond).2.mp h
  exact absurd (congrArg operationTime hrecords) (by decide)

end Record

end EasyConnect
