import Chip8.CommandLine
import Chip8.Proofs.Numerals

/-!
# The rates of a command line

A rate is looked at when its option is, and what is not a number from one up to the largest of 64
bits ends the reading.  So the rates that have been found good are in range, however far a command
line has been read, and those that are missing at its end have usual values in range.  There is no
other restriction: every two numbers in range are the rates of some command line.

## Main definitions

* `CommandLine.IsRate` — the numbers a rate may be
* `CommandLine.Given.RatesInRange` — the rates that have been found good are such numbers

## Main statements

* `Given.RatesInRange.readAll` — every command line keeps the rates in range
* `rates_of_parse`, `parse_of_rates` — the rates of a command line, and a command line for any rates
-/

namespace Chip8.CommandLine

/-- A number that a rate may be. -/
def IsRate (n : Nat) : Prop :=
  1 ≤ n ∧ n < 18446744073709551616

/-! ## Reading one rate -/

theorem rate_eq_ok {text : String} {n : Nat} (good : rate text = .ok n) : IsRate n := by
  unfold rate at good
  split at good
  · split at good
    · next inRange =>
        cases good
        exact inRange
    · cases good
  · cases good

/-- The numeral of a number in range is read as that number. -/
theorem rate_toString {n : Nat} (inRange : IsRate n) : rate (toString n) = .ok n := by
  obtain ⟨-, -, -, -, value⟩ := Numeral.decimal?_toString n
  rw [rate, value]
  exact if_pos inRange

/-- A numeral on the command line is a value and no option. -/
theorem ofString_toString (n : Nat) : Argument.ofString (toString n) = .value (toString n) := by
  obtain ⟨first, rest, text, digit, -⟩ := Numeral.decimal?_toString n
  have noSign : first ≠ '-' := by
    rintro rfl
    cases digit
  have whole : String.ofList (first :: rest) = toString n := by
    rw [← text, String.ofList_toList]
  rw [Argument.ofString, text, ← whole]
  simp [Argument.ofChars, noSign]

/-! ## Rates that have been found good -/

/-- The rates that have been found good are in range. -/
structure Given.RatesInRange (g : Given) : Prop where
  ips : ∀ n, g.ips = some n → IsRate n
  frameRate : ∀ n, g.frameRate = some n → IsRate n

theorem ratesInRange_start : Progress.start.given.RatesInRange :=
  ⟨nofun, nofun⟩

section Reading

variable {α β : Type} {x : Except Stop α} {f : α → β} {b : β}

theorem exists_of_map_eq_ok (done : x.map f = .ok b) : ∃ a, x = .ok a ∧ f a = b := by
  cases x with
  | error stop => cases done
  | ok a => exact ⟨a, rfl, Except.ok.inj done⟩

theorem exists_of_bind_eq_ok {f : α → Except Stop β} (done : x.bind f = .ok b) :
    ∃ a, x = .ok a ∧ f a = .ok b := by
  cases x with
  | error stop => cases done
  | ok a => exact ⟨a, rfl, done⟩

theorem of_once_eq_ok {before : Option α} {a : α} (done : once before x = .ok a) : x = .ok a := by
  cases before with
  | some _ => cases done
  | none => exact done

end Reading

variable {g next : Given} {p q : Progress}

theorem Given.RatesInRange.accept (inRange : g.RatesInRange) {s : Setting} {value : String}
    (done : g.accept s value = .ok next) : next.RatesInRange := by
  cases s with
  | ips =>
      obtain ⟨n, good, rfl⟩ := exists_of_map_eq_ok done
      refine ⟨?_, inRange.frameRate⟩
      rintro _ ⟨⟩
      exact rate_eq_ok (of_once_eq_ok good)
  | frameRate =>
      obtain ⟨n, good, rfl⟩ := exists_of_map_eq_ok done
      refine ⟨inRange.ips, ?_⟩
      rintro _ ⟨⟩
      exact rate_eq_ok (of_once_eq_ok good)
  | mode | logFile | logLevel =>
      obtain ⟨_, -, rfl⟩ := exists_of_map_eq_ok done
      exact ⟨inRange.ips, inRange.frameRate⟩

theorem Given.RatesInRange.settle (inRange : p.given.RatesInRange)
    (done : p.settle = .ok next) : next.RatesInRange := by
  unfold Progress.settle at done
  split at done
  · cases done
    exact inRange
  · cases done
  · exact inRange.accept done
  · obtain ⟨_, -, rfl⟩ := exists_of_map_eq_ok done
    exact ⟨inRange.ips, inRange.frameRate⟩

theorem Given.RatesInRange.readRom (inRange : p.given.RatesInRange) {text : String}
    (done : p.readRom text = .ok q) : q.given.RatesInRange := by
  unfold Progress.readRom at done
  split at done
  · cases done
  · obtain ⟨_, settled, rfl⟩ := exists_of_map_eq_ok done
    exact inRange.settle settled

theorem Given.RatesInRange.readArgument (inRange : p.given.RatesInRange) {w : Argument}
    (done : p.readArgument w = .ok q) : q.given.RatesInRange := by
  cases w with
  | separator =>
      cases done
      exact inRange
  | unknown | helpWithValue => cases done
  | help | version =>
      obtain ⟨_, -, stopped⟩ := exists_of_bind_eq_ok done
      cases stopped
  | setting s attached =>
      cases attached with
      | none =>
          obtain ⟨_, settled, rfl⟩ := exists_of_map_eq_ok done
          exact inRange.settle settled
      | some value =>
          obtain ⟨_, both, rfl⟩ := exists_of_map_eq_ok done
          obtain ⟨_, settled, accepted⟩ := exists_of_bind_eq_ok both
          exact (inRange.settle settled).accept accepted
  | value text =>
      simp only [Progress.readArgument] at done
      split at done
      · cases done
        exact inRange
      · exact inRange.readRom done

/-- However a command line goes on, the rates stay in range. -/
theorem Given.RatesInRange.readAll (inRange : p.given.RatesInRange) {optionsEnded : Bool}
    {words : List String} (done : p.readAll optionsEnded words = .ok next) :
    next.RatesInRange := by
  induction words generalizing p optionsEnded with
  | nil => exact inRange.settle done
  | cons text rest ih =>
      unfold Progress.readAll at done
      -- behind a separator every word is a file, whatever it looks like
      split at done
      · obtain ⟨q, read, later⟩ := exists_of_bind_eq_ok done
        exact ih (inRange.readRom read) later
      · obtain ⟨q, read, later⟩ := exists_of_bind_eq_ok done
        exact ih (inRange.readArgument read) later

/-! ## Whole command lines -/

/-- The rates of a command line are in range, whether they were given or not. -/
theorem rates_of_parse {words : List String} {o : Options} (accepted : parse words = .ok o) :
    IsRate o.ips ∧ IsRate o.frameRate := by
  obtain ⟨g, read, complete⟩ := exists_of_bind_eq_ok accepted
  have inRange := ratesInRange_start.readAll read
  have getD (given : Option Nat) {usual : Nat} (good : ∀ n, given = some n → IsRate n)
      (fallback : IsRate usual) : IsRate (given.getD usual) := by
    cases given with
    | none => exact fallback
    | some n => exact good n rfl
  unfold Given.options at complete
  split at complete
  · cases complete
  · cases complete
    exact ⟨getD g.ips inRange.ips ⟨by decide, by decide⟩,
      getD g.frameRate inRange.frameRate ⟨by decide, by decide⟩⟩

/-- A word that is understood leads to the rest of the command line. -/
theorem readAll_of_readArgument {w : Argument} {text : String} (word : Argument.ofString text = w)
    (plain : w ≠ .separator) (read : p.readArgument w = .ok q) (rest : List String) :
    p.readAll false (text :: rest) = q.readAll false rest := by
  simp only [Progress.readAll, Bool.false_eq_true, if_false, word, read, Except.bind, plain,
    decide_false]

/-- Any two rates can be asked for. -/
theorem parse_of_rates {ips frameRate : Nat} (ipsInRange : IsRate ips)
    (frameRateInRange : IsRate frameRate) :
    parse ["--ips", toString ips, "--frame-rate", toString frameRate, "rom.ch8"] =
      .ok ⟨"rom.ch8", ips, frameRate, .superChip, none, .info⟩ := by
  have first : Argument.ofString "--ips" = .setting .ips none := by decide +kernel
  have second : Argument.ofString "--frame-rate" = .setting .frameRate none := by decide +kernel
  have last : Argument.ofString "rom.ch8" = .value "rom.ch8" := by decide +kernel
  let nothing : Given := Progress.start.given
  let one : Given := { nothing with ips := some ips }
  let both : Given := { one with frameRate := some frameRate }
  -- a value is looked at when the word behind it has been understood
  have settleOne : Progress.settle ⟨nothing, .setting .ips (some (toString ips))⟩ = .ok one :=
    congrArg (Except.map _) (rate_toString ipsInRange)
  have settleBoth : Progress.settle ⟨one, .setting .frameRate (some (toString frameRate))⟩ =
      .ok both := congrArg (Except.map _) (rate_toString frameRateInRange)
  have readName : Progress.readArgument ⟨nothing, .setting .ips (some (toString ips))⟩
      (.setting .frameRate none) = .ok ⟨one, .setting .frameRate none⟩ := by
    rw [Progress.readArgument, settleOne]
    rfl
  have readRom : Progress.readArgument ⟨one, .setting .frameRate (some (toString frameRate))⟩
      (.value "rom.ch8") = .ok ⟨both, .rom "rom.ch8"⟩ := by
    simp only [Progress.readArgument, Progress.readRom, settleBoth]
    rfl
  have read : Progress.start.readAll false
      ["--ips", toString ips, "--frame-rate", toString frameRate, "rom.ch8"] =
      .ok { both with rom := some "rom.ch8" } := by
    rw [readAll_of_readArgument first nofun rfl,
      readAll_of_readArgument (ofString_toString ips) nofun rfl,
      readAll_of_readArgument second nofun readName,
      readAll_of_readArgument (ofString_toString frameRate) nofun rfl,
      readAll_of_readArgument last nofun readRom]
    rfl
  rw [parse, read]
  rfl

end Chip8.CommandLine
