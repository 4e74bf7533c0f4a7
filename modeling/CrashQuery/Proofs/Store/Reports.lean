import CrashQuery.Proofs.Entries
import CrashQuery.Proofs.Json.Strings
import CrashQuery.Proofs.Store.Healing

/-!
# Reports of missing indices

A store reports a missing index by a JSON text in which the name of the index stands between double
brackets, and the name is looked for in that text as it stands. The text has the name with its
escapes (`Store.chars_report`), and what is found in it has no brackets
(`BackendFault.of_reportIn?`), so a report gives back exactly the names that need no escapes and have
no brackets, and a healing run fails exactly when it meets a missing index with another name
(`Store.reports_iff`). The structured reports of newer servers are looked for only in a text without
a name in brackets, and the text of a store is none of them.
-/

namespace CrashQuery

open Json (IsUnescaped stringChar)

namespace BackendFault

variable {name s rest : List Char}

/-- A report names an index by a text without brackets that is not empty. -/
theorem of_reportHere? (h : reportHere? s = some name) :
    name ≠ [] ∧ ∀ c ∈ name, c ≠ '[' ∧ c ≠ ']' := by
  unfold reportHere? at h
  split at h
  · cases h
  · next inner _ =>
    simp only at h
    split at h
    · cases h
    · next hempty =>
      obtain ⟨_, -, rfl⟩ := Option.map_eq_some_iff.1 h
      refine ⟨by simpa using hempty, fun c hc => ?_⟩
      simpa using List.all_eq_true.1 List.all_takeWhile c hc

/-- The first report of a text names an index by a text without brackets that is not empty. -/
theorem of_reportIn? (h : reportIn? s = some name) :
    name ≠ [] ∧ ∀ c ∈ name, c ≠ '[' ∧ c ≠ ']' := by
  induction s with
  | nil => simp [reportIn?] at h
  | cons c s ih =>
    rw [reportIn?] at h
    split at h
    · next hhere =>
      rw [Option.some.injEq] at h
      exact of_reportHere? (h ▸ hhere)
    · exact ih h

/-- There is no report before the first bracket. -/
theorem reportIn?_append_of_notMem (h : '[' ∉ s) (rest : List Char) :
    reportIn? (s ++ rest) = reportIn? rest := by
  induction s with
  | nil => rfl
  | cons c s ih =>
    rw [List.mem_cons, not_or] at h
    have hhere : reportHere? (c :: (s ++ rest)) = none := by
      unfold reportHere?
      rw [Text.dropStart?, if_neg h.1]
    rw [List.cons_append, reportIn?, hhere]
    exact ih h.2

/-- A name without brackets is found between its brackets. -/
theorem reportIn?_brackets (hne : name ≠ []) (hname : ∀ c ∈ name, c ≠ '[' ∧ c ≠ ']')
    (rest : List Char) :
    reportIn? ('[' :: '[' :: (name ++ ("] missing]".toList ++ rest))) = some name := by
  have hinside : ∀ c ∈ name, (c != '[' && c != ']') = true := by
    intro c hc
    simpa using hname c hc
  have htake : (name ++ ("] missing]".toList ++ rest)).takeWhile (fun c => c != '[' && c != ']') =
      name := by
    rw [List.takeWhile_append_of_pos hinside]
    exact List.append_nil name
  have hdrop : (name ++ ("] missing]".toList ++ rest)).dropWhile (fun c => c != '[' && c != ']') =
      "] missing]".toList ++ rest := List.dropWhile_append_of_pos hinside
  have hhere : reportHere? ('[' :: '[' :: (name ++ ("] missing]".toList ++ rest))) =
      some name := by
    unfold reportHere?
    simp only [Text.dropStart?, if_true]
    rw [htake, hdrop, if_neg (by simpa using hne), Text.dropStart?_append, Option.map_some]
  rw [reportIn?, hhere]

end BackendFault

namespace Store

open BackendFault

/-- The message of a report. -/
def reportMessage (name : String) : String := "IndexMissingException[[" ++ name ++ "] missing]"

/-- A response with an error and the status. -/
def errorResponse (message : String) : Json :=
  Json.object [("error", .str message), ("status", .nat 404)]

/-- A report is a response with its message. -/
theorem missingFault_eq (name : String) :
    missingFault name = .status 404 (errorResponse (reportMessage name)).render := rfl

/-- The text of a response with an error. -/
theorem chars_error (message : String) :
    (errorResponse message).chars =
      '\x7b' :: (Json.stringChars "error" ++ ':' :: (Json.stringChars message ++
        ',' :: (Json.stringChars "status" ++ ':' :: "404\x7d".toList))) := by
  have hsorted : Entries.Sorted [("error", Json.str message), ("status", .nat 404)] :=
    List.pairwise_pair.2 (by show "error" < "status"; decide)
  have hcode : (Json.nat 404).chars = "404".toList := by decide
  unfold errorResponse Json.object
  rw [Entries.ofList_of_sorted hsorted, Json.chars, Json.fieldChars, Json.fieldChars, Json.chars,
    hcode]
  simp

/-- A response with an error is read back as it was. -/
theorem ofText?_error (message : String) :
    Json.ofText? (errorResponse message).render = some (errorResponse message) := by
  have hstatus : ∀ fuel, Json.Reader.fields? (fuel + 2) (Json.stringChars "status" ++
      ':' :: "404\x7d".toList) = some ([(some "status", .number (some (.nat 404)))], []) :=
    fun fuel => Json.Reader.fields?_stringChars_end rfl
  have hread : ∀ fuel, Json.Reader.value? (fuel + 4) (errorResponse message).chars =
        some (.record [(some "error", .text (some message)),
          (some "status", .number (some (.nat 404)))], []) := by
    intro fuel
    rw [chars_error, Json.Reader.value?_record,
      Json.Reader.fields?_stringChars_comma (Json.Reader.value?_stringChars _ _ _), hstatus]
    rfl
  have hlength : 4 ≤ (errorResponse message).chars.length + 1 := by
    rw [chars_error]
    simp only [List.length_cons, List.length_append]
    omega
  obtain ⟨fuel, hfuel⟩ := Nat.exists_eq_add_of_le' hlength
  unfold Json.ofText? Json.Written.ofText?
  simp only [Json.render, String.toList_ofList]
  rw [hfuel, hread]
  rfl

/-- A response whose error is a text is no structured error. -/
theorem structuredReport?_error (message : String) :
    structuredReport? (errorResponse message).render = none := by
  unfold structuredReport?
  rw [ofText?_error]
  have herror : Json.field "error" (errorResponse message) = .str message := by
    simp [errorResponse, Json.field, Json.get?, Json.object, Entries.find?_ofList_cons]
  simp only [herror]
  rfl

/-- Whether a name stands for itself in the text of a report: it is not empty, and none of its
characters is a bracket or is escaped. -/
def IsReportable (name : String) : Prop :=
  name ≠ "" ∧ ∀ c ∈ name.toList, c ≠ '[' ∧ c ≠ ']' ∧ IsUnescaped c

instance (name : String) : Decidable (IsReportable name) :=
  -- The characters of the name are gone through, and not all characters there are.
  @instDecidableAnd _ _ inferInstance (List.decidableBAll _ _)

/-- No escape has brackets. -/
theorem ne_bracket_of_mem_stringChar {c d : Char} (hc : c ≠ '[' ∧ c ≠ ']')
    (hd : d ∈ stringChar c) : d ≠ '[' ∧ d ≠ ']' := by
  rcases Json.stringChar_cases c with ⟨-, hplain⟩ | ⟨-, letter, -, hshort, hescape⟩ |
    ⟨-, hcontrol, hescape⟩
  · rw [hplain, List.mem_singleton] at hd
    exact hd ▸ hc
  · rw [hescape] at hd
    simp only [List.mem_cons, List.not_mem_nil, or_false] at hd
    rcases hd with rfl | rfl
    · decide
    · constructor
      · rintro rfl
        revert hshort
        simp [Json.Reader.shortEscape?]
      · rintro rfl
        revert hshort
        simp [Json.Reader.shortEscape?]
  · have hdigit : ∀ n < 16, Nat.digitChar n ≠ '[' ∧ Nat.digitChar n ≠ ']' := by decide
    rw [hescape, Json.numberedEscape] at hd
    simp only [List.mem_cons, List.not_mem_nil, or_false] at hd
    rcases hd with rfl | rfl | rfl | rfl | rfl | rfl
    · decide
    · decide
    · decide
    · decide
    · exact hdigit _ (by omega)
    · exact hdigit _ (Nat.mod_lt _ (by decide))

/-- The text of a report before the brackets. -/
def reportStart : List Char :=
  '\x7b' :: (Json.stringChars "error" ++ ':' :: '"' :: "IndexMissingException".toList)

/-- The text of a report behind the brackets. -/
def reportEnd : List Char :=
  '"' :: ',' :: (Json.stringChars "status" ++ ':' :: "404\x7d".toList)

/-- In the text of a report the name stands between brackets, with its escapes. -/
theorem chars_report (name : String) :
    (errorResponse (reportMessage name)).chars =
      reportStart ++
        '[' :: '[' :: (name.toList.flatMap stringChar ++ ("] missing]".toList ++ reportEnd)) := by
  have hopen : "IndexMissingException[[".toList.flatMap stringChar =
      "IndexMissingException".toList ++ ['[', '['] := by decide
  have hclose : "] missing]".toList.flatMap stringChar = "] missing]".toList := by decide
  have hmessage : Json.stringChars (reportMessage name) = '"' :: ("IndexMissingException".toList ++
      '[' :: '[' :: (name.toList.flatMap stringChar ++ ("] missing]".toList ++ ['"']))) := by
    unfold Json.stringChars reportMessage
    rw [String.toList_append, String.toList_append, List.flatMap_append, List.flatMap_append, hopen,
      hclose]
    simp only [List.append_assoc, List.cons_append, List.nil_append]
  rw [chars_error, hmessage]
  simp only [reportStart, reportEnd, List.append_assoc, List.cons_append, List.nil_append]

/-- A name without brackets is found in its report with its escapes. -/
theorem reportIn?_report {name : String} (hne : name ≠ "")
    (hname : ∀ c ∈ name.toList, c ≠ '[' ∧ c ≠ ']') :
    reportIn? (errorResponse (reportMessage name)).chars =
      some (name.toList.flatMap stringChar) := by
  rw [chars_report, reportIn?_append_of_notMem (by decide), reportIn?_brackets]
  · intro hnil
    have hlength := Json.length_le_flatMap_stringChar name.toList
    rw [hnil, List.length_nil, Nat.le_zero, List.length_eq_zero_iff, String.toList_eq_nil_iff]
      at hlength
    exact hne hlength
  · intro d hd
    obtain ⟨c, hc, hdc⟩ := List.mem_flatMap.1 hd
    exact ne_bracket_of_mem_stringChar (hname c hc) hdc

/-- A report gives back exactly the names that stand for themselves in its text. -/
theorem missingIndex?_missingFault_iff (name : String) :
    (missingFault name).missingIndex? = some name ↔ IsReportable name := by
  have hmissing : (missingFault name).missingIndex? =
      (reportIn? (errorResponse (reportMessage name)).chars).map String.ofList := by
    rw [missingFault_eq, missingIndex?, if_pos rfl, Json.render, String.toList_ofList]
    split
    · next found hfound => rw [hfound, Option.map_some]
    · next hnone =>
      rw [hnone]
      exact structuredReport?_error _
  rw [hmissing, Option.map_eq_some_iff]
  constructor
  · rintro ⟨found, hfound, rfl⟩
    obtain ⟨hne, hbrackets⟩ := of_reportIn? hfound
    have hnonempty : String.ofList found ≠ "" := by simpa using hne
    have htext := reportIn?_report hnonempty (by simpa using hbrackets)
    rw [hfound, String.toList_ofList, Option.some.injEq] at htext
    refine ⟨hnonempty, fun c hc => ?_⟩
    rw [String.toList_ofList] at hc
    obtain ⟨hopen, hclose⟩ := hbrackets c hc
    exact ⟨hopen, hclose, Json.flatMap_stringChar_eq_self_iff.1 htext.symm c hc⟩
  · rintro ⟨hne, hname⟩
    refine ⟨name.toList, ?_, String.ofList_toList⟩
    rw [reportIn?_report hne fun c hc => ⟨(hname c hc).1, (hname c hc).2.1⟩,
      Json.flatMap_stringChar_eq_self_iff.2 fun c hc => (hname c hc).2.2]

variable {s : Store}

/-- A healing run over a store in which no failure is waiting fails exactly when one of its indices
is missing, not known to be, and cannot be reported. -/
theorem execute_fails_iff (hfailures : s.failures = []) {timeout : Nat}
    (hlatency : s.latency ≤ timeout) {w : World Store} (hw : w.backend = s) (question : Question)
    (indices : List String) :
    (∃ e, (Run.execute Store.backend timeout .heal question none indices w).1 = .error e) ↔
      ∃ i ∈ Run.unknown w.cacheNow indices, s.hasIndex i = false ∧ ¬IsReportable i := by
  unfold Run.execute
  rw [Run.candidates_heal]
  constructor
  · rintro ⟨e, he⟩
    by_contra hall
    push Not at hall
    rw [Run.attempt_of_reported hfailures hlatency hw fun i hi habsent =>
      (missingIndex?_missingFault_iff i).2 (hall i hi habsent)] at he
    unfold Run.outcome at he
    split at he <;> cases he
  · rintro ⟨i, hi, habsent, hreport⟩
    rw [← missingIndex?_missingFault_iff] at hreport
    obtain ⟨fault, hfault⟩ := Run.attempt_of_unreported hfailures hlatency hw hi habsent hreport
    exact ⟨_, hfault⟩

/-- A store in which no failure is waiting answers a call by a report of its first missing index,
which gives back the name exactly when it is not empty and has no brackets, quotes, backslashes or
control characters. A healing run over it fails exactly when the name of a missing index that it has
to ask about is not of this kind. -/
theorem reports_iff (hfailures : s.failures = []) :
    (∀ call name, call.indices.find? (fun i => !s.hasIndex i) = some name →
      ∃ fault, (Store.backend.ask call s).answer = .error fault ∧
        (fault.missingIndex? = some name ↔ IsReportable name)) ∧
    ∀ timeout question indices (w : World Store), s.latency ≤ timeout → w.backend = s →
      ((∃ e, (Run.execute Store.backend timeout .heal question none indices w).1 = .error e) ↔
        ∃ i ∈ Run.unknown w.cacheNow indices, s.hasIndex i = false ∧ ¬IsReportable i) := by
  refine ⟨fun call name hfirst => ⟨missingFault name, ?_, missingIndex?_missingFault_iff name⟩,
    fun timeout question indices w hlatency hw =>
      execute_fails_iff hfailures hlatency hw question indices⟩
  simp only [Store.backend, Store.ask, hfailures, Store.answer, hfirst]

/-- A plain name is read back from its report, and a run goes on without it. -/
theorem reports_plain :
    (∃ fault, (Store.backend.ask ⟨.mapping, ["socorro", "archive"]⟩
        (withIndex "socorro" {})).answer = .error fault ∧
      fault.missingIndex? = some "archive") ∧
    ∃ result, (Run.execute Store.backend 0 .heal .mapping none ["socorro", "archive"]
      { backend := withIndex "socorro" {} }).1 = .ok result := by
  obtain ⟨hreport, hfails⟩ := reports_iff (s := withIndex "socorro" {}) rfl
  have hplain : IsReportable "archive" := by decide
  constructor
  · obtain ⟨fault, hanswer, hfault⟩ := hreport ⟨.mapping, ["socorro", "archive"]⟩ "archive" rfl
    exact ⟨fault, hanswer, hfault.2 hplain⟩
  · cases hresult : (Run.execute Store.backend 0 .heal .mapping none ["socorro", "archive"]
      { backend := withIndex "socorro" {} }).1 with
    | ok result => exact ⟨result, rfl⟩
    | error e =>
      obtain ⟨i, hi, habsent, hi'⟩ := (hfails 0 .mapping ["socorro", "archive"]
        { backend := withIndex "socorro" {} } (Nat.zero_le _) rfl).1 ⟨e, hresult⟩
      have hmem : i = "socorro" ∨ i = "archive" := by simpa using (List.mem_filter.1 hi).1
      rcases hmem with rfl | rfl
      · cases habsent
      · exact absurd hplain hi'

/-- An index with a quote in its name is read back with a backslash before the quote, so that a run
over it fails with an index that was not asked about. -/
theorem not_reports_quoted :
    (Store.backend.ask ⟨.search (.obj []), ["q\"x"]⟩ {}).answer = .error (missingFault "q\"x") ∧
    (missingFault "q\"x").missingIndex? = some "q\\\"x" ∧
    (Run.execute Store.backend 0 .heal (.search (.obj [])) none ["q\"x"] { backend := {} }).1 =
      .error (.database (.unrequestedIndex "q\\\"x")) := by
  have hquote : (missingFault "q\"x").missingIndex? = some "q\\\"x" := by decide +kernel
  refine ⟨rfl, hquote, ?_⟩
  have hjudge : Run.judge .heal ["q\"x"] (Run.pendingIn Store.backend 0 (.search (.obj []))
      ["q\"x"] { backend := {} }).answer =
        .finished (.error (.database (.unrequestedIndex "q\\\"x"))) := by
    have hother : "q\\\"x" ∉ ["q\"x"] := by decide
    have hanswer : (Run.pendingIn Store.backend 0 (.search (.obj [])) ["q\"x"]
        { backend := {} }).answer = .error (missingFault "q\"x") := rfl
    rw [hanswer]
    simp only [Run.judge, hquote]
    rw [if_neg hother]
  unfold Run.execute
  exact congrArg Prod.fst (Run.attempt_of_finished Store.backend 0 .heal (.search (.obj []))
    (by decide) hjudge)

end Store

end CrashQuery
