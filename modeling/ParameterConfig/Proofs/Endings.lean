import ParameterConfig.Command
import ParameterConfig.Proofs.Json.Writable
import ParameterConfig.Proofs.OrderedMap

/-!
# Commands that fail

Whatever a command comes to becomes a status: its own, or that of the failure. An error of the library is logged with its details as fields of the record and then told with all of them, and either may fail in turn: a detail may have a name that the record or the logging call needs for itself, a number may be too long to be written, and what a console tells below a line must be text. `ends_or_leaves` says of every outcome which it is.
-/

namespace ParameterConfig

/-! ### What is told about an error -/

namespace LibraryError

variable {error : LibraryError}

/-- The details, named and shown one after the other. -/
inductive Lists : List (String × Json) → String → Prop
  | last (name : String) (value : Json) : Lists [(name, value)] (name ++ "=" ++ value.display)
  | next (name : String) (value : Json) {others : List (String × Json)} {text : String}
      (hothers : Lists others text) :
      Lists ((name, value) :: others) (name ++ "=" ++ value.display ++ ", " ++ text)

/-- The message of an error, and behind it all of its details if there are any. -/
inductive Tells (error : LibraryError) : String → Prop
  | plain (hnone : error.details.entries = []) : Tells error error.message
  | detailed {text : String} (hdetails : Lists error.details.entries text) :
      Tells error (error.message ++ " (" ++ text ++ ")")

theorem lists_intercalate {entries : List (String × Json)} (hne : entries ≠ []) :
    Lists entries
      (", ".intercalate (entries.map fun entry => entry.1 ++ "=" ++ entry.2.display)) := by
  induction entries with
  | nil => exact absurd rfl hne
  | cons entry rest ih =>
    cases rest with
    | nil =>
      rw [List.map_singleton, String.intercalate_singleton]
      exact .last entry.1 entry.2
    | cons other rest =>
      rw [List.map_cons, String.intercalate_cons_of_ne_nil (by simp)]
      exact .next entry.1 entry.2 (ih (by simp))

theorem mapM_detailText {entries : List (String × Json)}
    (hshort : ∀ entry ∈ entries, ¬ entry.2.TooLong) :
    entries.mapM (fun entry => detailText entry.1 entry.2) =
      .ok (entries.map fun entry => entry.1 ++ "=" ++ entry.2.display) := by
  induction entries with
  | nil => rfl
  | cons entry rest ih =>
    obtain ⟨hentry, hrest⟩ := List.forall_mem_cons.mp hshort
    rw [List.mapM_cons, ih hrest, detailText, Failure.checkWritable_of_not_tooLong hentry]
    rfl

theorem mapM_detailText_of_tooLong {entries : List (String × Json)}
    (hlong : ∃ entry ∈ entries, entry.2.TooLong) :
    entries.mapM (fun entry => detailText entry.1 entry.2) = .error Failure.numberTooLong := by
  induction entries with
  | nil =>
    obtain ⟨_, hmem, _⟩ := hlong
    cases hmem
  | cons entry rest ih =>
    rw [List.mapM_cons, detailText]
    by_cases hentry : entry.2.TooLong
    · rw [Failure.checkWritable_of_tooLong hentry]
      rfl
    · obtain ⟨other, hmem, hother⟩ := hlong
      rcases List.mem_cons.mp hmem with rfl | hmem
      · exact absurd hother hentry
      · rw [Failure.checkWritable_of_not_tooLong hentry, ih ⟨other, hmem, hother⟩]
        rfl

theorem exists_formatted (hshort : ∀ entry ∈ error.details.entries, ¬ entry.2.TooLong) :
    ∃ text, error.formatted = .ok text ∧ error.Tells text := by
  unfold formatted
  by_cases hempty : error.details.isEmpty
  · rw [if_pos hempty]
    exact ⟨_, rfl, .plain (List.isEmpty_iff.mp hempty)⟩
  · rw [if_neg hempty, mapM_detailText hshort]
    refine ⟨_, rfl, .detailed (lists_intercalate fun hnone => hempty ?_)⟩
    exact List.isEmpty_iff.mpr hnone

theorem formatted_of_tooLong (hlong : ∃ entry ∈ error.details.entries, entry.2.TooLong) :
    error.formatted = .error Failure.numberTooLong := by
  have hne : ¬ error.details.isEmpty = true := by
    intro hempty
    obtain ⟨_, hmem, _⟩ := hlong
    rw [List.isEmpty_iff.mp hempty] at hmem
    cases hmem
  rw [formatted, if_neg hne, mapM_detailText_of_tooLong hlong]
  rfl

end LibraryError

/-! ### What stands in the way of an ending -/

namespace Ending

variable {log : Log.Settings} {outcome : Except Failure Int} {error : LibraryError}
  {failure : Failure}

/-- No detail has a name that the record or the call that logs it needs for itself. -/
def NamesFree (error : LibraryError) : Prop :=
  ∀ name ∈ ["error_type", "exit_code", "event", "self", "method_name"], name ∉ error.details.keys

/-- The record about an error goes to a console, all that stands on its line can be written, and a detail that is told below the line is no text. An exception is told below the line unless the one that is being handled takes its place. -/
structure Misplaced (log : Log.Settings) (error : LibraryError) : Prop where
  console : log.json = false
  logged : log.threshold ≤ Log.Level.error.weight
  written : ∀ entry ∈ error.details.entries,
    entry.1 ∉ ["level", "timestamp", "exc_info", "stack", "exception"] → ¬ entry.2.TooLong
  below : ∃ entry ∈ error.details.entries,
    (entry.1 = "stack" ∨
      entry.1 = "exception" ∧ ∀ given, ("exc_info", given) ∈ error.details.entries →
        given.isGiven = false) ∧
      entry.2 ≠ .null ∧ ∀ text, entry.2 ≠ .string text

/-- The failures with which a command is left for good, as nothing handles what goes wrong in telling an error. -/
inductive Leaves (log : Log.Settings) : Except Failure Int → Failure → Prop
  | repeated {error : LibraryError}
      (hname : ∃ name ∈ ["error_type", "exit_code"], name ∈ error.details.keys) :
      Leaves log (.error (.library error)) (.ordinary .key "")
  | taken {error : LibraryError}
      (hown : ∀ name ∈ ["error_type", "exit_code"], name ∉ error.details.keys)
      (hname : ∃ name ∈ ["event", "self", "method_name"], name ∈ error.details.keys) :
      Leaves log (.error (.library error)) (.ordinary .type "")
  | misplaced {error : LibraryError} (hfree : NamesFree error) (hmisplaced : Misplaced log error) :
      Leaves log (.error (.library error)) (.ordinary .type "")
  | tooLong {error : LibraryError} (hfree : NamesFree error) (hplaced : ¬ Misplaced log error)
      (hlong : ∃ entry ∈ error.details.entries, entry.2.TooLong) :
      Leaves log (.error (.library error)) (.ordinary .value
        "Exceeds the limit (4300 digits) for integer string conversion; use sys.set_int_max_str_digits() to increase the limit")

/-! ### The record about an error -/

def fields (error : LibraryError) : List (String × Json) :=
  [("error_type", .string error.kind.name), ("exit_code", .ofNat error.kind.exitCode)] ++
    error.details.entries

theorem names_fields (error : LibraryError) :
    (fields error).map Prod.fst = "error_type" :: "exit_code" :: error.details.keys :=
  rfl

theorem failureFields_of_own
    (hown : ∀ name ∈ ["error_type", "exit_code"], name ∉ error.details.keys) :
    failureFields error = .ok (.ofList (fields error)) := by
  refine if_neg fun hany => ?_
  obtain ⟨name, hname, hreserved⟩ := List.any_eq_true.mp hany
  exact hown name (List.contains_iff_mem.mp hreserved) hname

theorem failureFields_of_repeated
    (hname : ∃ name ∈ ["error_type", "exit_code"], name ∈ error.details.keys) :
    failureFields error = .error (.ordinary .key "") := by
  obtain ⟨name, hown, hname⟩ := hname
  exact if_pos (List.any_eq_true.mpr ⟨name, hname, List.contains_iff_mem.mpr hown⟩)

theorem entries_ofList_fields
    (hown : ∀ name ∈ ["error_type", "exit_code"], name ∉ error.details.keys) :
    (OrderedMap.ofList (fields error)).entries = fields error := by
  refine OrderedMap.entries_ofList ?_
  rw [names_fields]
  refine List.nodup_cons.mpr ⟨?_, List.nodup_cons.mpr ⟨?_, error.details.keys_nodup⟩⟩
  · rw [List.mem_cons, not_or]
    exact ⟨by decide, hown _ (by decide)⟩
  · exact hown _ (by decide)

theorem failureRecord_of_taken
    (hown : ∀ name ∈ ["error_type", "exit_code"], name ∉ error.details.keys)
    (hname : ∃ name ∈ ["event", "self", "method_name"], name ∈ error.details.keys) :
    failureRecord error = .error (.ordinary .type "") := by
  obtain ⟨name, htaken, hname⟩ := hname
  rw [failureRecord, failureFields_of_own hown]
  refine if_pos ?_
  rw [OrderedMap.keys, entries_ofList_fields hown, names_fields]
  refine Bool.or_eq_true_iff.mpr (.inr (List.any_eq_true.mpr ⟨name, ?_, ?_⟩))
  · exact List.mem_cons_of_mem _ (List.mem_cons_of_mem _ hname)
  · exact List.contains_iff_mem.mpr htaken

theorem exists_record (hfree : NamesFree error) :
    ∃ record : Log.Record, failureRecord error = .ok record ∧ record.level = .error ∧
      record.event = "command_failed" ∧ record.fields.entries = fields error := by
  have hown : ∀ name ∈ ["error_type", "exit_code"], name ∉ error.details.keys :=
    fun name hname => hfree name (List.mem_append_left ["event", "self", "method_name"] hname)
  have hentries := entries_ofList_fields hown
  rw [failureRecord, failureFields_of_own hown]
  refine ⟨_, if_neg ?_, rfl, rfl, ?_⟩
  · rw [OrderedMap.keys, hentries, names_fields]
    intro hany
    obtain ⟨name, hname, htaken⟩ := List.any_eq_true.mp ((Bool.or_eq_true_iff.mp hany).resolve_left
      (by decide))
    rw [List.contains_iff_mem] at htaken
    rcases List.mem_cons.mp hname with rfl | hname
    · exact absurd htaken (by decide)
    rcases List.mem_cons.mp hname with rfl | hname
    · exact absurd htaken (by decide)
    exact hfree name (List.mem_append_right ["error_type", "exit_code"] htaken) hname
  · rw [hentries]
    exact hentries

/-! ### The line of the record -/

theorem mem_fields_withTrace {record : Log.Record} {entry : String × Json} :
    entry ∈ (withTrace record).fields.entries ↔
      (entry.1 = "exception" → ∀ given, ("exc_info", given) ∈ record.fields.entries →
        given.isGiven = false) ∧ entry ∈ record.fields.entries := by
  have hgiven : (record.fields.find? "exc_info").any Json.isGiven = false ↔
      ∀ given, ("exc_info", given) ∈ record.fields.entries → given.isGiven = false := by
    simp only [OrderedMap.mem_entries_iff]
    cases record.fields.find? "exc_info" <;> simp
  unfold withTrace
  by_cases htraced : (record.fields.find? "exc_info").any Json.isGiven = true
  · rw [if_pos htraced, OrderedMap.mem_entries_erase, ← hgiven, htraced]
    simp
  · rw [if_neg htraced, ← hgiven, Bool.eq_false_iff.mpr htraced]
    simp

/-- What is no text on the line of a record comes from its fields. -/
theorem mem_line {record : Log.Record} {entry : String × Json}
    (htext : ∀ text, entry.2 ≠ .string text) :
    entry ∈ ((withTrace record).lineFields "").entries ↔
      entry.1 ∉ ["event", "level", "timestamp", "exc_info"] ∧
        (entry.1 = "exception" → ∀ given, ("exc_info", given) ∈ record.fields.entries →
          given.isGiven = false) ∧ entry ∈ record.fields.entries := by
  have hne : ∀ name text, entry ≠ (name, .string text) :=
    fun name text heq => htext text (congrArg Prod.snd heq)
  simp only [Log.Record.lineFields, OrderedMap.mem_entries_erase, OrderedMap.mem_entries_insert,
    mem_fields_withTrace, hne, false_or, List.mem_cons, List.not_mem_nil, or_false, not_or]
  tauto

theorem ne_string_of_tooLong {value : Json} (hlong : value.TooLong) (text : String) :
    value ≠ .string text := by
  rintro rfl
  exact Json.not_tooLong_string text hlong

theorem mem_details {entry : String × Json} (hmem : entry ∈ fields error)
    (hdetail : entry.2.TooLong ∨ entry.1 = "stack" ∨ entry.1 = "exception") :
    entry ∈ error.details.entries := by
  rcases List.mem_append.mp hmem with hown | hmem
  · exfalso
    rcases List.mem_cons.mp hown with rfl | hown
    · rcases hdetail with hlong | hbelow
      · exact ne_string_of_tooLong hlong _ rfl
      · simp at hbelow
    · obtain rfl := List.mem_singleton.mp hown
      rcases hdetail with hlong | hbelow
      · have hshort : ∀ kind : ErrorKind, (Nat.toDigits 10 kind.exitCode).length ≤ 4300 := by
          intro kind
          cases kind <;> decide
        exact absurd (Json.tooLong_integer.mp hlong) (Nat.not_lt.mpr (hshort error.kind))
      · simp at hbelow
  · exact hmem

variable {record : Log.Record}

theorem exists_tooLong_of_line (hfields : record.fields.entries = fields error)
    (hline : (Json.object ((withTrace record).lineFields "").entries).TooLong) :
    ∃ entry ∈ error.details.entries, entry.2.TooLong := by
  obtain ⟨entry, hmem, hlong⟩ := Json.tooLong_object.mp hline
  have hfield := ((mem_line (ne_string_of_tooLong hlong)).mp hmem).2.2
  exact ⟨entry, mem_details (hfields ▸ hfield) (.inl hlong), hlong⟩

theorem not_event (hfree : NamesFree error) {entry : String × Json}
    (hmem : entry ∈ error.details.entries) : entry.1 ≠ "event" := by
  rintro heq
  exact hfree "event" (by decide) (heq ▸ List.mem_map_of_mem hmem)

theorem tooLong_above_iff (hfree : NamesFree error) (hfields : record.fields.entries = fields error) :
    (Json.object (((withTrace record).lineFields "").entries.filter fun entry =>
      !Log.Record.belowNames.contains entry.1)).TooLong ↔
        ∃ entry ∈ error.details.entries,
          entry.1 ∉ ["level", "timestamp", "exc_info", "stack", "exception"] ∧ entry.2.TooLong := by
  rw [Json.tooLong_object]
  refine exists_congr fun entry => ?_
  by_cases hlong : entry.2.TooLong
  · rw [List.mem_filter, mem_line (ne_string_of_tooLong hlong), hfields]
    have hdetail : entry ∈ fields error ↔ entry ∈ error.details.entries :=
      ⟨fun hmem => mem_details hmem (.inl hlong), List.mem_append_right _⟩
    have hevent : entry ∈ error.details.entries → entry.1 ≠ "event" := not_event hfree
    simp only [hdetail, Log.Record.belowNames, Bool.not_eq_true', List.contains_eq_mem,
      decide_eq_false_iff_not, List.mem_cons, List.not_mem_nil, or_false, not_or]
    tauto
  · simp [hlong]

theorem standsBelow_eq_false_iff {value : Json} :
    Log.Record.standsBelow value = false ↔ value ≠ .null ∧ ∀ text, value ≠ .string text := by
  cases value <;> simp [Log.Record.standsBelow]

/-- What is no text below the line is a detail that is told there. -/
theorem not_all_standsBelow_iff (hfields : record.fields.entries = fields error) :
    ((((withTrace record).lineFields "").entries.filter fun entry =>
      Log.Record.belowNames.contains entry.1).all fun entry => Log.Record.standsBelow entry.2) =
        false ↔
      ∃ entry ∈ error.details.entries,
        (entry.1 = "stack" ∨
          entry.1 = "exception" ∧ ∀ given, ("exc_info", given) ∈ error.details.entries →
            given.isGiven = false) ∧
          entry.2 ≠ .null ∧ ∀ text, entry.2 ≠ .string text := by
  have hgiven : ∀ given, ("exc_info", given) ∈ fields error ↔
      ("exc_info", given) ∈ error.details.entries := by
    intro given
    simp [fields]
  rw [List.all_eq_false]
  refine exists_congr fun entry => ?_
  by_cases htext : ∀ text, entry.2 ≠ .string text
  · rw [List.mem_filter, mem_line htext, hfields, Bool.not_eq_true, standsBelow_eq_false_iff]
    have hdetail : entry.1 = "stack" ∨ entry.1 = "exception" →
        (entry ∈ fields error ↔ entry ∈ error.details.entries) := fun hbelow =>
      ⟨fun hmem => mem_details hmem (.inr hbelow), List.mem_append_right _⟩
    simp only [hgiven, Log.Record.belowNames, List.contains_iff_mem, List.mem_cons,
      List.not_mem_nil, or_false]
    constructor
    · rintro ⟨⟨⟨_, hexception, hmem⟩, hbelow⟩, hvalue⟩
      exact ⟨(hdetail hbelow).mp hmem, hbelow.imp_right fun heq => ⟨heq, hexception heq⟩, hvalue⟩
    · rintro ⟨hmem, hbelow, hvalue⟩
      have hname : entry.1 = "stack" ∨ entry.1 = "exception" := hbelow.imp_right And.left
      refine ⟨⟨⟨?_, ?_, (hdetail hname).mpr hmem⟩, hname⟩, hvalue⟩
      · rcases hname with heq | heq <;> rw [heq] <;> decide
      · intro heq
        rcases hbelow with hstack | ⟨_, hexception⟩
        · exact absurd (heq.symm.trans hstack) (by decide)
        · exact hexception
  · rw [Bool.not_eq_true, standsBelow_eq_false_iff]
    exact iff_of_false (fun hentry => htext hentry.2.2) (fun hentry => htext hentry.2.2.2)

/-! ### Whether the record can be written -/

theorem checkConsole_of_short
    (hshort : ¬ (Json.object ((record.lineFields "").entries.filter fun entry =>
      !Log.Record.belowNames.contains entry.1)).TooLong) :
    record.checkConsole =
      if ((record.lineFields "").entries.filter fun entry =>
          Log.Record.belowNames.contains entry.1).all fun entry => Log.Record.standsBelow entry.2
      then .ok () else .error (.ordinary .type "") := by
  rw [Log.Record.checkConsole, Failure.checkWritable_of_not_tooLong hshort]
  rfl

theorem checkConsole_of_misplaced (hfree : NamesFree error)
    (hfields : record.fields.entries = fields error) (hmisplaced : Misplaced log error) :
    (withTrace record).checkConsole = .error (.ordinary .type "") := by
  have hshort := mt (tooLong_above_iff hfree hfields).mp fun ⟨entry, hmem, hname, hlong⟩ =>
    hmisplaced.written entry hmem hname hlong
  have hbelow := (not_all_standsBelow_iff hfields).mpr hmisplaced.below
  rw [checkConsole_of_short hshort, hbelow]
  rfl

theorem level_withTrace : (withTrace record).level = record.level := by
  unfold withTrace
  split <;> rfl

theorem check_of_misplaced (hfree : NamesFree error) (hlevel : record.level = .error)
    (hfields : record.fields.entries = fields error) (hmisplaced : Misplaced log error) :
    log.check (withTrace record) = .error (.ordinary .type "") := by
  have hpasses : (withTrace record).level.passes log.threshold = true := by
    rw [level_withTrace, hlevel]
    exact decide_eq_true hmisplaced.logged
  rw [Log.Settings.check, if_pos hpasses, hmisplaced.console]
  exact checkConsole_of_misplaced hfree hfields hmisplaced

/-- Where no text is missing below the line, only a number can be in the way. -/
theorem check_of_placed (hfree : NamesFree error) (hlevel : record.level = .error)
    (hfields : record.fields.entries = fields error) (hplaced : ¬ Misplaced log error) :
    log.check (withTrace record) = .ok () ∨
      (∃ entry ∈ error.details.entries, entry.2.TooLong) ∧
        log.check (withTrace record) = .error Failure.numberTooLong := by
  unfold Log.Settings.check
  by_cases hpasses : (withTrace record).level.passes log.threshold = true
  case neg => exact .inl (if_neg hpasses)
  rw [if_pos hpasses]
  cases hjson : log.json with
  | true =>
    rw [if_pos rfl]
    by_cases hlong : (Json.object ((withTrace record).lineFields "").entries).TooLong
    · exact .inr ⟨exists_tooLong_of_line hfields hlong, Failure.checkWritable_of_tooLong hlong⟩
    · exact .inl (Failure.checkWritable_of_not_tooLong hlong)
  | false =>
    rw [if_neg (by decide)]
    by_cases hlong : ∃ entry ∈ error.details.entries,
        entry.1 ∉ ["level", "timestamp", "exc_info", "stack", "exception"] ∧ entry.2.TooLong
    · refine .inr ⟨hlong.imp fun entry hentry => ⟨hentry.1, hentry.2.2⟩, ?_⟩
      rw [Log.Record.checkConsole,
        Failure.checkWritable_of_tooLong ((tooLong_above_iff hfree hfields).mpr hlong)]
      rfl
    · refine .inl ?_
      rw [checkConsole_of_short (mt (tooLong_above_iff hfree hfields).mp hlong)]
      refine if_pos (Bool.not_eq_false _ |>.mp fun hbelow => hplaced ?_)
      rw [level_withTrace, hlevel] at hpasses
      exact
        { console := hjson
          logged := of_decide_eq_true hpasses
          written := fun entry hmem hname hentry => hlong ⟨entry, hmem, hname, hentry⟩
          below := (not_all_standsBelow_iff hfields).mp hbelow }

/-! ### How a command ends -/

/-- How a command ends that comes to an outcome. -/
inductive Follows : Except Failure Int → Ending → Prop
  | returned (status : Int) : Follows (.ok status) { status }
  /-- An error of the library is told once, with all its details in their order, and logged with them behind its name and its status. -/
  | failed {error : LibraryError} {status : Int} {text : String} {fields : OrderedMap String Json}
      (hstatus : (error.kind, status) ∈
        [(.configuration, 10), (.credentialParse, 10), (.provider, 11), (.storeFetch, 11),
         (.general, 127)])
      (htext : error.Tells text)
      (hfields : fields.entries =
        [("error_type", .string error.kind.name), ("exit_code", .integer status)] ++
          error.details.entries) :
      Follows (.error (.library error))
        { status, records := [{ level := .error, event := "command_failed", fields }]
          message := some ("Error: " ++ text ++ "\n") }
  | interrupted : Follows (.error .interrupted) { status := 130 }
  /-- Of any other failure nothing is told, and no more than its name is logged. -/
  | crashed {failure : Failure} {fields : OrderedMap String Json}
      (hlibrary : ∀ error, failure ≠ .library error) (hinterrupted : failure ≠ .interrupted)
      (hfields : fields.entries = [("error_type", .string failure.name)]) :
      Follows (.error failure)
        { status := 127, records := [{ level := .error, event := "command_crashed", fields }] }

theorem exists_failed (hfree : NamesFree error) (hplaced : ¬ Misplaced log error)
    (hshort : ∀ entry ∈ error.details.entries, ¬ entry.2.TooLong) :
    ∃ ending, Ending.of log (.error (.library error)) = .ok ending ∧
      Follows (.error (.library error)) ending := by
  obtain ⟨⟨level, event, fields⟩, hrecord, rfl, rfl, hfields⟩ := exists_record hfree
  obtain ⟨text, hformatted, htells⟩ := error.exists_formatted hshort
  have hcheck := (check_of_placed hfree rfl hfields hplaced).resolve_right
    fun ⟨⟨entry, hmem, hlong⟩, _⟩ => hshort entry hmem hlong
  refine ⟨_, ?_, @Follows.failed error error.kind.exitCode text fields ?_ htells hfields⟩
  · simp only [Ending.of, hrecord, hcheck, hformatted, bind, Except.bind]
    rfl
  · cases error.kind <;> simp [ErrorKind.exitCode]

theorem of_tooLong (hfree : NamesFree error) (hplaced : ¬ Misplaced log error)
    (hlong : ∃ entry ∈ error.details.entries, entry.2.TooLong) :
    Ending.of log (.error (.library error)) = .error Failure.numberTooLong := by
  obtain ⟨record, hrecord, hlevel, _, hfields⟩ := exists_record hfree
  rcases check_of_placed hfree hlevel hfields hplaced with hcheck | ⟨_, hcheck⟩
  · simp only [Ending.of, hrecord, hcheck, error.formatted_of_tooLong hlong, bind, Except.bind]
  · simp only [Ending.of, hrecord, hcheck, bind, Except.bind]

theorem of_misplaced (hfree : NamesFree error) (hmisplaced : Misplaced log error) :
    Ending.of log (.error (.library error)) = .error (.ordinary .type "") := by
  obtain ⟨record, hrecord, hlevel, _, hfields⟩ := exists_record hfree
  simp only [Ending.of, hrecord, check_of_misplaced hfree hlevel hfields hmisplaced, bind,
    Except.bind]

theorem of_leaves (hleaves : Leaves log outcome failure) : Ending.of log outcome = .error failure := by
  cases hleaves with
  | repeated hname =>
    simp only [Ending.of, failureRecord, failureFields_of_repeated hname, bind, Except.bind]
  | taken hown hname =>
    simp only [Ending.of, failureRecord_of_taken hown hname, bind, Except.bind]
  | misplaced hfree hmisplaced => exact of_misplaced hfree hmisplaced
  | tooLong hfree hplaced hlong => exact of_tooLong hfree hplaced hlong

theorem leaves_or_follows (log : Log.Settings) (outcome : Except Failure Int) :
    (∃ failure, Leaves log outcome failure) ∨
      ∃ ending, Ending.of log outcome = .ok ending ∧ Follows outcome ending := by
  cases outcome with
  | ok status => exact .inr ⟨_, rfl, .returned status⟩
  | error failure =>
    have hcrashed : (∀ error, failure ≠ .library error) → failure ≠ .interrupted →
        Follows (.error failure) { status := crashed, records := [crashRecord failure] } :=
      fun hlibrary hinterrupted => .crashed hlibrary hinterrupted rfl
    cases failure with
    | library error =>
      by_cases hown : ∃ name ∈ ["error_type", "exit_code"], name ∈ error.details.keys
      · exact .inl ⟨_, .repeated hown⟩
      have hown : ∀ name ∈ ["error_type", "exit_code"], name ∉ error.details.keys :=
        fun name hname hmem => hown ⟨name, hname, hmem⟩
      by_cases htaken : ∃ name ∈ ["event", "self", "method_name"], name ∈ error.details.keys
      · exact .inl ⟨_, .taken hown htaken⟩
      have hfree : NamesFree error := by
        intro name hname hmem
        have hparts : name ∈ ["error_type", "exit_code"] ++ ["event", "self", "method_name"] := hname
        rcases List.mem_append.mp hparts with hname | hname
        · exact hown name hname hmem
        · exact htaken ⟨name, hname, hmem⟩
      by_cases hmisplaced : Misplaced log error
      · exact .inl ⟨_, .misplaced hfree hmisplaced⟩
      by_cases hlong : ∃ entry ∈ error.details.entries, entry.2.TooLong
      · exact .inl ⟨_, .tooLong hfree hmisplaced hlong⟩
      · exact .inr (exists_failed hfree hmisplaced fun entry hmem hentry =>
          hlong ⟨entry, hmem, hentry⟩)
    | interrupted => exact .inr ⟨_, rfl, .interrupted⟩
    | refused code => exact .inr ⟨_, rfl, hcrashed (by simp) (by simp)⟩
    | transport fault => exact .inr ⟨_, rfl, hcrashed (by simp) (by simp)⟩
    | ordinary fault message => exact .inr ⟨_, rfl, hcrashed (by simp) (by simp)⟩
    | invalid issues => exact .inr ⟨_, rfl, hcrashed (by simp) (by simp)⟩

/-- A command ends as it has to, unless an error of the library cannot be logged or told, and then the failure that this is leaves the command. -/
theorem ends_or_leaves (log : Log.Settings) (outcome : Except Failure Int) :
    (∀ failure, Ending.of log outcome = .error failure ↔ Leaves log outcome failure) ∧
      ((∃ failure, Leaves log outcome failure) ∨
        ∃ ending, Ending.of log outcome = .ok ending ∧ Follows outcome ending) := by
  have hcases := leaves_or_follows log outcome
  refine ⟨fun failure => ⟨fun hfailed => ?_, of_leaves⟩, hcases⟩
  rcases hcases with ⟨other, hleaves⟩ | ⟨ending, hended, _⟩
  · obtain rfl := Except.error.inj ((of_leaves hleaves).symm.trans hfailed)
    exact hleaves
  · exact nomatch hended.symm.trans hfailed

/-- A configuration error with a detail that is named like the field for its own name ends no command. -/
theorem not_ended_on_clash :
    let error : LibraryError :=
      { kind := .configuration, message := "m"
        details := .ofList [("error_type", .string "x")] }
    let log : Log.Settings := { threshold := 20, json := true }
    Ending.of log (.error (.library error)) = .error (.ordinary .key "") ∧
      ¬∃ ending, Ending.of log (.error (.library error)) = .ok ending :=
  ⟨rfl, fun ⟨_, hof⟩ => nomatch hof⟩

end Ending
end ParameterConfig
