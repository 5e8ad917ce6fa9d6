import ParameterConfig.Log.Record
import ParameterConfig.Proofs.OrderedMap

/-!
# Log lines

What is emitted of records are the lines of those whose level reaches the threshold. A line is told by its level, its event and its fields; in JSON the fields come first, and then event, level and time. Everything about lines that is said elsewhere is said in these terms.
-/

namespace ParameterConfig
namespace Log

def Settings.lines (settings : Settings) (time : String) (records : List Record) : List String :=
  (records.filter fun record => record.level.passes settings.threshold).map (settings.written time)

/-- The names under which a line tells its event, its level and its time, or an exception. -/
def ownNames : List String :=
  ["event", "level", "timestamp", "exc_info", "exception"]

/-- What one line says. No field is told twice, or under a name that lines use themselves. -/
structure Line where
  level : Level
  event : String
  fields : List (String × Json)
  distinct : (fields.map Prod.fst ++ ownNames).Nodup := by simp [ownNames]

namespace Line

def record (line : Line) : Record :=
  .of line.level line.event [] line.fields

def allFields (line : Line) (time : String) : List (String × Json) :=
  line.fields ++
    [("event", .string line.event), ("level", .string line.level.name),
     ("timestamp", .string time)]

def written (settings : Settings) (time : String) (line : Line) : String :=
  (if settings.json then (Json.object (line.allFields time)).line .spaced
    else line.record.consoleLine time) ++ "\n"

theorem nodup_keys_allFields (line : Line) (time : String) :
    ((line.allFields time).map Prod.fst ++ ["exc_info", "exception"]).Nodup := by
  have hnames : (line.allFields time).map Prod.fst ++ ["exc_info", "exception"] =
      line.fields.map Prod.fst ++ ownNames := by
    rw [allFields, List.map_append, List.append_assoc]
    rfl
  rw [hnames]
  exact line.distinct

theorem lineFields_record (line : Line) (time : String) :
    line.record.lineFields time =
      (OrderedMap.ofList (line.allFields time)).erase "exc_info" := by
  simp only [allFields, OrderedMap.ofList, List.foldl_append, List.foldl_cons, List.foldl_nil]
  rfl

theorem entries_jsonFields (line : Line) (time : String) :
    (line.record.jsonFields time).entries = line.allFields time := by
  obtain ⟨hdistinct, _, hothers⟩ := List.nodup_append.mp (line.nodup_keys_allFields time)
  have hentries := OrderedMap.entries_ofList hdistinct
  have hexcInfo : "exc_info" ∉ (OrderedMap.ofList (line.allFields time)).keys := by
    rw [OrderedMap.keys, hentries]
    exact fun hkey => hothers _ hkey "exc_info" (by decide) rfl
  have herased := OrderedMap.entries_erase_of_not_mem hexcInfo
  rw [Record.jsonFields, lineFields_record, OrderedMap.entries_erase_of_not_mem, herased, hentries]
  rw [OrderedMap.keys, herased, hentries]
  exact fun hkey => hothers _ hkey "exception" (by decide) rfl

/-- A line is what is written of its record when its level reaches the threshold. -/
theorem written_record {settings : Settings} {line : Line}
    (hpasses : line.level.passes settings.threshold = true) (time : String) :
    settings.written time line.record = line.written settings time := by
  have hlevel : line.record.level.passes settings.threshold = true := hpasses
  rw [Settings.written, if_pos hlevel, Record.jsonLine, entries_jsonFields]
  rfl

end Line

namespace Settings

variable (settings : Settings) (time : String)

theorem join_lines (records : List Record) :
    String.join (settings.lines time records) =
      String.join (records.map (settings.written time)) := by
  induction records with
  | nil => rfl
  | cons record rest ih =>
    rw [lines] at ih ⊢
    rw [List.filter_cons, List.map_cons, String.join_cons]
    by_cases hpasses : record.level.passes settings.threshold = true
    · rw [if_pos hpasses, List.map_cons, String.join_cons, ih]
    · rw [if_neg hpasses, ih, written, if_neg hpasses, String.empty_append]

/-- These lines are emitted for the records, and nothing else is written of them. -/
structure Emits (records : List Record) (emitted : List String) : Prop where
  lines : settings.lines time records = emitted
  text : String.join (records.map (settings.written time)) = String.join emitted

/-- Of records the lines are emitted that reach the threshold, in their order. -/
theorem emits_record (told : List Line) :
    settings.Emits time (told.map Line.record)
      ((told.filter fun line => line.level.passes settings.threshold).map
        (Line.written settings time)) := by
  have hlines : settings.lines time (told.map Line.record) =
      (told.filter fun line => line.level.passes settings.threshold).map
        (Line.written settings time) := by
    rw [lines, List.filter_map, List.map_map]
    refine List.map_congr_left fun line hline => ?_
    exact Line.written_record (List.mem_filter.mp hline).2 time
  exact ⟨hlines, by rw [← hlines, join_lines]⟩

theorem emits_record_of_debug (told : List Line) (hdebug : settings.threshold = Level.debug.weight) :
    settings.Emits time (told.map Line.record) (told.map (Line.written settings time)) := by
  have hpasses : ∀ level : Level, level.passes settings.threshold = true := by
    rw [hdebug]
    intro level
    cases level <;> decide
  have hall := settings.emits_record time told
  rwa [List.filter_eq_self.mpr fun line _ => hpasses line.level] at hall

end Settings

end Log
end ParameterConfig
