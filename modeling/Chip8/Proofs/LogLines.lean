import Chip8.Log
import Chip8.Proofs.Numerals
import Mathlib.Data.String.Basic

/-!
# Lines of the log

A report whose wording has no line feed is one line of the log, which begins with the name of its
level and a blank.  So the level of a line can be read off the line, and a log that goes down to a
given level has the lines of the full log that are of this level or of a graver one.

## Main definitions

* `Event.written` — the lines that reports put into a log of some level
* `Event.line`, `Event.OnOneLine` — the one line of a report
* `Line.after?`, `Line.level?` — what a line begins with

## Main statements

* `lines_eq_line` — a report without line feeds is one line
* `level?_line` — and its level can be read off the line
* `written_eq_filter` — the log of a level as a part of the full log
-/

namespace Chip8

/-! ## Splitting at line feeds -/

/-- While no line feed is met, everything that was read stays on the first line. -/
theorem splitOnAux_of_notMem (read rest : List Char) (single : '\n' ∉ rest) :
    String.splitOnAux (String.ofList (read ++ rest)) "\n" 0 ⟨String.utf8Len read⟩ 0 [] =
      [String.ofList (read ++ rest)] := by
  induction rest generalizing read with
  | nil =>
      have whole := String.extract_of_valid [] read []
      simp only [List.nil_append, String.utf8Len_nil, Nat.zero_add] at whole
      rw [String.splitOnAux, if_pos ((String.atEnd_of_valid read []).mpr rfl)]
      rw [List.append_nil] at *
      exact congrArg (fun line => [line]) whole
  | cons c rest ih =>
      simp only [List.mem_cons, not_or] at single
      obtain ⟨other, later⟩ := single
      have inside : ¬ String.Pos.Raw.atEnd (String.ofList (read ++ c :: rest))
          ⟨String.utf8Len read⟩ = true :=
        fun ended => by cases (String.atEnd_of_valid read (c :: rest)).mp ended
      have here :
          String.Pos.Raw.get (String.ofList (read ++ c :: rest)) ⟨String.utf8Len read⟩ = c :=
        String.get_of_valid read (c :: rest)
      have mark : String.Pos.Raw.get "\n" 0 = '\n' := rfl
      have next := String.next_of_valid read c rest
      have onward := ih (read ++ [c]) later
      have stays :
          (⟨String.utf8Len read⟩ : String.Pos.Raw).unoffsetBy 0 = ⟨String.utf8Len read⟩ := rfl
      have plain : ¬ (c == '\n') = true := by simpa using Ne.symm other
      rw [String.splitOnAux, if_neg inside, here, mark, if_neg plain, stays, next]
      rwa [List.append_assoc, List.singleton_append, String.utf8Len_append, String.utf8Len_cons,
        String.utf8Len_nil, Nat.zero_add] at onward

/-- A text without line feeds is one line. -/
theorem splitOn_of_notMem {s : String} (single : '\n' ∉ s.toList) : s.splitOn "\n" = [s] := by
  have line := splitOnAux_of_notMem [] s.toList single
  rw [List.nil_append, String.ofList_toList] at line
  exact line

/-! ## Lines -/

namespace Line

/-- What follows the text that the line begins with. -/
def after? (label line : String) : Option (List Char) :=
  label.toList.isPrefixOf? line.toList

theorem after?_append (label rest : String) : after? label (label ++ rest) = some rest.toList := by
  rw [after?, String.toList_append]
  exact List.isPrefixOf?_eq_some_iff_append_eq.mpr rfl

/-- The level whose name the line begins with. -/
def level? (line : String) : Option Level :=
  Level.all.find? fun l => (after? (l.name ++ " ") line).isSome

/-- The line is of a level that a log of the level `limit` shows. -/
def isShown (limit : Level) (line : String) : Bool :=
  (level? line).any fun l => limit.Shows l

/-- The line reports an error. -/
def isError (line : String) : Bool :=
  level? line = some .error

end Line

namespace Event

/-- The lines that reports put into a log of the level `limit`. -/
def written (limit : Level) (events : List Event) : List String :=
  (shown limit events).flatMap lines

/-- The wording of the report behind the name of its level. -/
def line (e : Event) : String :=
  e.level.name ++ " " ++ e.message

/-- The wording of the report has no line feed in it. -/
def OnOneLine (e : Event) : Prop :=
  '\n' ∉ e.message.toList

variable {e : Event} {events : List Event}

/-- A report without line feeds is one line. -/
theorem lines_eq_line (single : e.OnOneLine) : e.lines = [e.line] := by
  have label : '\n' ∉ (e.level.name ++ " ").toList := by
    cases e.level <;> decide
  refine splitOn_of_notMem ?_
  rw [String.toList_append, List.mem_append, not_or]
  exact ⟨label, single⟩

/-- The level of a report can be read off its line. -/
theorem level?_line (e : Event) : Line.level? e.line = some e.level := by
  rw [Line.level?, line]
  simp only [Line.after?, String.toList_append]
  cases e.level <;> rfl

/-- The full log shows every report. -/
theorem shown_trace (events : List Event) : shown .trace events = events := by
  have all (e : Event) : Level.trace.Shows e.level := by
    cases e.level <;> decide
  exact List.filter_eq_self.mpr fun e _ => decide_eq_true (all e)

/-- Reports without line feeds give one line each. -/
theorem written_eq_map (single : ∀ e ∈ events, e.OnOneLine) (limit : Level) :
    written limit events = (shown limit events).map line := by
  have lines : ∀ e ∈ shown limit events, e.lines = [e.line] :=
    fun e mem => lines_eq_line (single e (List.mem_of_mem_filter mem))
  rw [written, List.flatMap_congr lines, List.map_eq_flatMap]

/-- A log of a level has the lines of the full log that are of this level or of a graver one. -/
theorem written_eq_filter (single : ∀ e ∈ events, e.OnOneLine) (limit : Level) :
    written limit events = (written .trace events).filter (Line.isShown limit) := by
  have level : Line.isShown limit ∘ line = fun e => decide (limit.Shows e.level) := by
    funext e
    rw [Function.comp_apply, Line.isShown, level?_line, Option.any_some]
  rw [written_eq_map single, written_eq_map single, shown_trace, List.filter_map, level, shown]

end Event

end Chip8
