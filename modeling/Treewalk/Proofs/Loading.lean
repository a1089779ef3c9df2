import Treewalk.Proofs.Grammar
import Treewalk.Proofs.Location
import Treewalk.Proofs.Reading.Graph
import Treewalk.Proofs.Reading.Json

/-!
# Texts that are no programs

A run of a text reads it first, and then it builds the program. What is wrong with the text, or with
the document in it, is a fault of the format, and a run reports it as a failure: nothing was
evaluated, and nothing is passed on. This covers what the two readers complain about, and what the
grammar of programs does not allow.

But the readers have other ways to fail, on texts that look well formed. A whole number may have too
many digits; a date may not be in the calendar; a tag may say what a scalar is not; an escape may
stand for no character. And a fault cannot be reported if it would quote a number that is too long.
A run passes these on as they are, and `Treewalk.Slip` says which texts have one.

* **`Treewalk.Program.load_isBlame`**: what is wrong with a text is a fault of its format that can
  be reported, or a slip of the text.
* **`Treewalk.Runner.source_reported`**: a text without a slip runs as the program in it, or is
  reported; and a slip escapes.
-/

namespace Treewalk

/-! ### The format of a text -/

/-- The format that a text is read in: the given one, or else the one that is detected. -/
def Format.chosen (format : Option Format) (file : String) (source : Source) : Format :=
  format.getD (detect (some source.toText) (some file))

theorem Format.ofName?_name (format : Format) : ofName? format.name = some format := by
  cases format <;> decide +kernel

/-- A document is read by the reader of its format. -/
theorem Document.read_eq (format : Option Format) (file : String) (source : Source) :
    read (format.map Format.name) (some file) source =
      match Format.chosen format file source with
      | .json => readJson (some file) source.toText
      | .yaml => readYaml (some file) source.toText := by
  cases format with
  | none =>
    simp only [read, Option.map_none, Format.chosen, Option.getD_none]
    split <;> simp_all
  | some format =>
    have hname : format.name ≠ "" := by cases format <;> decide
    simp only [read, Option.map_some, Format.chosen, Option.getD_some]
    rw [Format.ofName?_name]
    cases format <;> rfl

/-! ### Slips -/

/-- **What a text can fail with that is not reported.** -/
inductive Slip (source : Source) : Format → Mishap → Prop
  /-- A whole number in JSON has too many digits. -/
  | number {n : Nat} : Decimal.maxDigits < n → Decimal.HasDigits n source.toText.toList →
      Slip source .json (.tooManyDigitsRead n)
  /-- A numeric escape in YAML stands for no character. -/
  | escape {m : Mishap} : Yaml.Escapes source m → Slip source .yaml m
  /-- A scalar in YAML is not what it looks like, or not what its tag says. -/
  | scalar {m : Mishap} : Yaml.Misread (Yaml.eventsOf source.toText) m → Slip source .yaml m
  /-- A document in YAML holds a number that is too long to be quoted. -/
  | quoted {d : Document} : Yaml.read source.toText = .ok d → d.hasHugeInt = true →
      Slip source .yaml .tooManyDigits
  /-- The complaint is about a line whose number is too long. -/
  | farJson {p : Json.Problem} {line : Nat} :
      Json.read source.toText = .error (.problem p line) → Decimal.isTooLong line = true →
      Slip source .json .tooManyDigits
  | farYaml {p : Yaml.Problem} {line : Nat} :
      Yaml.read source.toText = .error (.problem p line) → Decimal.isTooLong line = true →
      Slip source .yaml .tooManyDigits

/-- A fault is one of a document's format that can be reported, or a mishap as `S` says. -/
inductive Fault.IsBlame (S : Mishap → Prop) : Fault → Prop
  | format {problem : FormatFault} {place : Place} :
      problem.isWritable = true → place.isWritable = true →
      IsBlame S (.raised (.format problem) place)
  | host {m : Mishap} : S m → IsBlame S (.host m)

/-- A fault of the format is reported, or there is a number in it that is too long. -/
theorem Fault.isBlame_ofFormat {S : Mishap → Prop} {problem : FormatFault} {place : Place}
    (h : problem.isWritable = false ∨ place.isWritable = false → S .tooManyDigits) :
    (ofFormat problem place).IsBlame S := by
  by_cases hwritable : problem.isWritable = true ∧ place.isWritable = true
  · obtain ⟨hproblem, hplace⟩ := hwritable
    rw [ofFormat_of_isWritable hproblem hplace]
    exact .format hproblem hplace
  · have hmishap : ofFormat problem place = .host .tooManyDigits := by
      rw [ofFormat, raise, if_neg (by simpa [Cause.isWritable] using hwritable)]
    rw [hmishap]
    refine .host (h ?_)
    simpa [Decidable.or_iff_not_not_and_not] using hwritable

/-- What is wrong on a line is reported, or the line has a number that is too long. -/
theorem Fault.isBlame_ofFormat_line {S : Mishap → Prop} {problem : FormatFault} {file : String}
    {line : Nat} (hproblem : problem.isWritable = true)
    (h : Decimal.isTooLong line = true → S .tooManyDigits) :
    (ofFormat problem ⟨.str file, .int line⟩).IsBlame S := by
  refine isBlame_ofFormat fun hlong => ?_
  rcases hlong with hlong | hlong
  · rw [hproblem] at hlong
    cases hlong
  · simp only [Place.isWritable, Bool.or_eq_false_iff, Bool.not_eq_false', Document.hasHugeInt,
      Document.int, Bool.false_or] at hlong
    exact h hlong.2

namespace Program

variable (file : String) {source : Source}

theorem ofDocument_isBlame {S : Mishap → Prop} {d : Document} {fault : Fault}
    (hS : d.hasHugeInt = true → S .tooManyDigits) (h : ofDocument file d = .error fault) :
    fault.IsBlame S := by
  have hends : Ends (d.hasHugeInt = false) (fun _ => d.IsProgram) (ofDocument file d) :=
    ofDocument_ends file id
  rw [h] at hends
  obtain ⟨problem, place, rfl, hwritable⟩ := hends
  refine Fault.isBlame_ofFormat fun hlong => ?_
  cases hhuge : d.hasHugeInt with
  | true => exact hS hhuge
  | false =>
    obtain ⟨hproblem, hplace⟩ := hwritable hhuge
    simp [hproblem, hplace] at hlong

theorem readJson_isBlame {fault : Fault}
    (h : (Document.readJson (some file) source.toText >>= ofDocument file) = .error fault) :
    fault.IsBlame (Slip source .json) := by
  unfold Document.readJson at h
  split at h
  · next d hread =>
    refine ofDocument_isBlame file (fun hhuge => ?_) h
    rw [Json.read_hasHugeInt hread] at hhuge
    cases hhuge
  · next p line hread =>
    have hfault : Fault.ofFormat (.json p.text) ⟨.str file, .int line⟩ = fault :=
      Except.error.inj h
    rw [← hfault]
    exact Fault.isBlame_ofFormat_line rfl (.farJson hread)
  · next n hread =>
    obtain rfl := Except.error.inj h
    obtain ⟨hmany, hdigits⟩ := Json.read_tooLong hread
    exact .host (.number hmany hdigits)

theorem readYaml_isBlame {fault : Fault}
    (h : (Document.readYaml (some file) source.toText >>= ofDocument file) = .error fault) :
    fault.IsBlame (Slip source .yaml) := by
  unfold Document.readYaml at h
  split at h
  · next d hread => exact ofDocument_isBlame file (.quoted hread) h
  · next p line hread =>
    have hfault : Fault.ofFormat (.yaml p.text) ⟨.str file, .int line⟩ = fault :=
      Except.error.inj h
    rw [← hfault]
    exact Fault.isBlame_ofFormat_line rfl (.farYaml hread)
  · next code position hread =>
    obtain rfl := Except.error.inj h
    exact Fault.isBlame_ofFormat fun hlong => (nomatch hlong)
  · next m hread =>
    obtain rfl := Except.error.inj h
    exact .host ((Yaml.read_mishap hread).elim .escape .scalar)

/-- **What is wrong with a text** is a fault of its format that can be reported, or a slip of the
text. -/
theorem load_isBlame {format : Option Format} {fault : Fault}
    (h : load file (format.map Format.name) source = .error fault) :
    fault.IsBlame (Slip source (Format.chosen format file source)) := by
  unfold load at h
  rw [Document.read_eq] at h
  cases hformat : Format.chosen format file source with
  | json =>
    rw [hformat] at h
    exact readJson_isBlame file h
  | yaml =>
    rw [hformat] at h
    exact readYaml_isBlame file h

end Program

namespace Runner

variable {V W : Type} (r : Runner V W) (tracing : Tracing) (fuel : Nat)

/-- **The law of texts.** A text is read in the format it is said to be in, or in the one that is
detected. If there is a program in it, its run is the run of that program. If not, the run has
evaluated nothing: either it reports a fault of the format, with its place if it has one, or the
text has a slip, and the run is not finished but passes on what the reading failed with. -/
theorem source_reported (format : Option Format) (source : Source) (w : W) :
    let run := r.run tracing fuel (.source (format.map Format.name) source) w
    match Program.load r.file (format.map Format.name) source with
    | .ok p => run = r.run tracing fuel (.program p) w
    | .error (.raised cause place) =>
      cause.title = "ProgramFormatError" ∧
        run = ⟨.failed ⟨cause.title, place.locate cause.text, place.positioned?, []⟩,
          r.bridge.effects (r.bridge.clear w), none, r.bridge.clear w⟩
    | .error (.host m) =>
      Slip source (Format.chosen format r.file source) m ∧
        run = ⟨.escaped (.host m), [], none, r.bridge.clear w⟩ := by
  intro run
  have hjob : (Job.source (format.map Format.name) source).load r.file =
      (Program.load r.file (format.map Format.name) source).map .ok := rfl
  cases hload : Program.load r.file (format.map Format.name) source with
  | ok p => exact r.run_of_load tracing fuel p w (by rw [hjob, hload]; rfl)
  | error fault =>
    rw [hload] at hjob
    cases Program.load_isBlame r.file hload with
    | @format problem place hproblem hplace =>
      have hrun : run = ⟨ending (.raised (.format problem) place) none [],
          r.bridge.effects (r.bridge.clear w), none, r.bridge.clear w⟩ := by
        simp only [run, Runner.run, hjob, Except.map]
      refine ⟨rfl, ?_⟩
      rw [hrun]
      simp [ending, Fault.failure, Fault.isWritable, Fault.reportedAt, Fault.kind, Fault.said,
        Cause.isWritable, hproblem, hplace]
    | host hslip =>
      refine ⟨hslip, ?_⟩
      simp only [run, Runner.run, hjob, Except.map]

/-- The mishap that a reading failed with, if it failed with one. -/
def mishap? {α : Type} : Except Fault α → Option Mishap
  | .error (.host m) => some m
  | _ => none

theorem eq_of_mishap?_eq_some {α : Type} {x : Except Fault α} {m : Mishap}
    (h : mishap? x = some m) : x = .error (.host m) := by
  match x, h with
  | .error (.host _), rfl => rfl

/-- A program with one statement, which looks like a day but names a thirteenth month. -/
def thirteenthMonth : Source := .text "- 2001-13-45\n"

/-- **The month is not reported.** The text is not read, and what comes out of the run is no failure
but the mishap of the calendar. -/
theorem source_escaped :
    let r := Runner.mk Bridges.reflective "-" 64
    let m := Mishap.value "month must be in 1..12"
    Program.load r.file (some "yaml") thirteenthMonth = .error (.host m) ∧
      (r.run .off 1 (.source (some "yaml") thirteenthMonth) (World.start .standard "")).ending =
        .escaped (.host m) := by
  intro r m
  have hload : Program.load r.file (some "yaml") thirteenthMonth = .error (.host m) :=
    eq_of_mishap?_eq_some (by decide +kernel)
  refine ⟨hload, ?_⟩
  simp only [run, Job.load, hload]
  rfl

end Runner

end Treewalk
