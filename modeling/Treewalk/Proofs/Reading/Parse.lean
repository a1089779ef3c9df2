import Treewalk.Proofs.Reading.Scan

/-!
# What a parse of YAML can fail with

The parser reads the tokens of a scan, and a complaint that stands behind them is its own once it
has used them up. It has problems with the tokens, but no others: a failure that is no problem was
there behind the tokens, so an event stands in front of it or nothing does.

* **`Treewalk.Yaml.Event.parse_mishap`**: what is wrong with a parse beyond a problem is what is
  wrong with the scan.
-/

namespace Treewalk.Yaml.Event

open Std.Do

set_option mvcgen.warning false

/-- The complaint behind the tokens is the given one. -/
def Machine.EndsIn (complaint : Option Refusal) (m : Machine) : Prop := m.complaint = complaint

/-- A step of parsing does not touch the complaint, and fails with it if not for a problem. -/
abbrev Parses {α : Type} (complaint : Option Refusal) (x : Parse α) : Prop :=
  Keeps (Machine.EndsIn complaint) (fun m => complaint = some (.mishap m)) x

variable {complaint : Option Refusal}

namespace Parse

/-- Behind the last token stands the complaint, and whoever looks there meets it. -/
@[spec]
theorem head_parses : Parses complaint head := by
  mvcgen [head]
  case vc2 m hm e he _ =>
    have hcomplaint : complaint = some e := hm.symm.trans he
    cases e <;> simp [Refusal.Only, hcomplaint]

@[spec]
theorem advance_parses : Parses complaint advance := by mvcgen [advance]

/-- The states of the parser are kept apart from its tokens. -/
@[spec]
theorem goto_parses (s : State) : Parses complaint (goto s) := by mvcgen [goto]

@[spec]
theorem push_parses (s : State) : Parses complaint (push s) := by mvcgen [push]

@[spec]
theorem pop_parses : Parses complaint pop := by mvcgen [pop]

/-- A problem with a token is located at its line. -/
@[spec]
theorem fail_spec {α : Type} (t : Token) (p : Problem)
    {Q : PostCond α (.arg Machine (.except Refusal .pure))} :
    ⦃fun _ => Q.2.1 (.problem p t.line)⦄ (fail t p : Parse α) ⦃Q⦄ :=
  fun _ h => h

/-- A tag whose handle was not declared is a problem. -/
@[spec]
theorem resolveTag_parses (line : Nat) (handle : Option String) (suffix : String) :
    Parses complaint (resolveTag line handle suffix) := by
  mvcgen [resolveTag]

/-- A node may have an anchor and a tag, in either order. -/
@[spec]
theorem decoration_parses : Parses complaint decoration := by mvcgen [decoration]

/-- A decoration with nothing behind it is an empty scalar, if it is one at all. -/
@[spec]
theorem otherwise_parses (d : Decoration) (t : Token) (line : Nat) :
    Parses complaint (node.otherwise d t line) := by
  mvcgen [node.otherwise]

/-- A node is told by its first token. -/
@[spec]
theorem node_parses (block indentless : Bool) : Parses complaint (node block indentless) := by
  mvcgen [node]

/-- Directives are read until a token is none. -/
@[spec]
theorem directives_parses (fuel : Nat) (versionSeen : Bool) :
    Parses complaint (directives fuel versionSeen) := by
  induction fuel generalizing versionSeen with
  | zero => mvcgen [directives]
  | succ fuel ih => mvcgen [directives, ih]

/-- Marks at the end of documents are skipped, however many there are. -/
@[spec]
theorem skipDocumentEnds_parses (fuel : Nat) : Parses complaint (skipDocumentEnds fuel) := by
  induction fuel with
  | zero => mvcgen [skipDocumentEnds]
  | succ fuel ih => mvcgen [skipDocumentEnds, ih]

@[spec]
theorem documentStart_parses : Parses complaint documentStart := by mvcgen [documentStart]

@[spec]
theorem blockSequenceEntry_parses : Parses complaint blockSequenceEntry := by
  mvcgen [blockSequenceEntry]

@[spec]
theorem blockMappingKey_parses : Parses complaint blockMappingKey := by mvcgen [blockMappingKey]

/-- An entry that does not come first is set apart by a comma. -/
@[spec]
theorem flowSequenceEntry_parses (first : Bool) : Parses complaint (flowSequenceEntry first) := by
  mvcgen [flowSequenceEntry, flowSequenceEntry.finish]

@[spec]
theorem flowMappingKey_parses (first : Bool) : Parses complaint (flowMappingKey first) := by
  mvcgen [flowMappingKey, flowMappingKey.finish]

/-- **A step of parsing**, in every state. -/
theorem next_parses : Parses complaint next := by mvcgen [next]

end Parse

/-- **Every run of parsing** ends with the complaint behind its tokens, or with a problem, or
without a complaint. -/
theorem parseFrom_mishap (fuel : Nat) {m : Machine} {mishap : Mishap}
    (h : (parseFrom fuel m).complaint = some (.mishap mishap)) :
    m.complaint = some (.mishap mishap) := by
  induction fuel generalizing m with
  | zero => cases h
  | succ fuel ih =>
    have hnext := triple_iff.mp (Parse.next_parses : Parses m.complaint _) m rfl
    simp only [parseFrom] at h
    match Parse.next m, hnext, h with
    | .error e, he, h =>
      cases h
      exact he
    | .ok (event, after), hafter, h =>
      dsimp only at h
      split at h
      · cases h
      · rw [← hafter]
        exact ih h

/-- **What is wrong with a parse beyond a problem** is what is wrong with the scan. -/
theorem parse_mishap {s : Token.Supply} {m : Mishap}
    (h : (parse s).complaint = some (.mishap m)) : s.complaint = some (.mishap m) :=
  parseFrom_mishap _ h

end Treewalk.Yaml.Event
