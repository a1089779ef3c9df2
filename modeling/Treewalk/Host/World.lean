import Treewalk.Core.Bridge
import Treewalk.Text.Lines
import Treewalk.Value.Picture

/-!
# The state of a host

A world is the heap of values together with what a host has put out, taken in and counted. Routines
and capabilities are computations over a world that may end in a fault. What they make new is first
described by an `Treewalk.Answer`, so that whatever only reads the heap is a plain function of it.

A host does not run by itself. The stream that it writes to may refuse a text, and a text may show
where something lies in memory. Both are up to the `Treewalk.Machine` beneath, of which nothing is
known here but what it is going to answer.
-/

namespace Treewalk

/-- The kinds of surroundings a program can run in. -/
inductive Setting where
  | standard
  | game
  | empty
  | plain
  | table
  | hollow
  deriving DecidableEq, Repr

namespace Setting

/-- The name of the environment's type. -/
def typeName : Setting → String
  | .standard => "StandardHost"
  | .game => "GameHost"
  | .empty => "IntpHost"
  | .plain => "PlainHost"
  | .table => "TableBridge"
  | .hollow => "SuperBridge"

/-- The environment as a text. -/
def shown (s : Setting) : String := "<" ++ s.typeName ++ ">"

end Setting

/-- **What a host runs on.** The stream that output is written to and the addresses of things in
memory are no part of a host, and they outlast it. A stream may refuse a text, because it has no
room or no code for a character, and then writes nothing of it: `refusal n` is what it makes of a
text after it was given `n` others. Where a thing lies is only known when it is asked for, and
`address n` is the answer after `n` others. The class of the texts that literals make gets a
dictionary of annotations as soon as somebody looks for it, and keeps it: `annotated` says whether
this has happened. -/
structure Machine where
  refusal : Nat → String → Option Mishap
  address : Nat → Nat
  annotated : Bool

namespace Machine

/-- A machine that was just started, with a stream that takes every text; everything lies at one
address. -/
def obliging : Machine := ⟨fun _ _ => none, fun _ => 0x7f0000000000, false⟩

/-- Writes a text: why it is refused, if it is. -/
def write (m : Machine) (text : String) : Option Mishap × Machine :=
  (m.refusal 0 text, { m with refusal := fun n => m.refusal (n + 1) })

/-- Finds out where something lies. -/
def locate (m : Machine) : Nat × Machine :=
  (m.address 0, { m with address := fun n => m.address (n + 1) })

end Machine

/-- The state of a host: its setting, the heap, the routines registered later, what was put out
since the last run began, all that was written, the input left, the ticks counted, and the machine
that it runs on. -/
structure World where
  setting : Setting
  heap : Heap
  registered : List String
  effects : Array String
  output : Array String
  input : List Char
  ticks : Nat
  machine : Machine

/-- The start of a host, on a machine that does not get in its way. -/
def World.start (setting : Setting) (input : String) : World :=
  ⟨setting, .empty, [], #[], #[], input.toList, 0, .obliging⟩

/-- A routine at work. -/
abbrev Act := Ask World

/-- A value that exists already, or what a new one is to hold. -/
inductive Answer where
  | known (v : Value)
  | float (x : Float)
  | list (items : List Value)
  | tuple (items : List Value)
  | dict (entries : List (Value × Value))

namespace Answer

/-- A truth value. -/
def bool (b : Bool) : Answer := .known (.bool b)

/-- An integer. -/
def int (n : Int) : Answer := .known (.int n)

/-- A text. -/
def text (s : String) : Answer := .known (.text s)

/-- A text given by its characters. -/
def chars (s : List Char) : Answer := .known (.chars s)

/-- A list of texts. -/
def texts (ss : List (List Char)) : Answer := .list (ss.map Value.chars)

end Answer

namespace World

/-- The name of a value's type. -/
def typeName (w : World) (v : Value) : String := v.typeName w.setting.typeName w.heap

/-- What can be seen of a value. -/
def picture (w : World) (v : Value) : Picture := w.heap.picture w.setting.shown v

/-- A text that shows the structure of a value. -/
def shown (w : World) (v : Value) : Except Mishap String :=
  let p := w.picture v
  if p.hasHugeInt then .error .tooManyDigits else .ok p.shown

/-- A text for a value in which a text stands for itself. -/
def display (w : World) (v : Value) : Except Mishap String :=
  match v with
  | .str s _ => .ok s
  | v => w.shown v

/-- A text for a value as programs put it out: nil is empty, and truth values are in small
letters. -/
def spoken (w : World) (v : Value) : Except Mishap String :=
  match v with
  | .nil => .ok ""
  | .bool b => .ok (if b then "true" else "false")
  | v => w.display v

/-- A value as it is printed for people. -/
def printed (w : World) (v : Value) : Except Mishap String :=
  let p := w.picture v
  if p.hasHugeInt then .error .tooManyDigits else .ok p.printed

/-- Adds a new value to the heap. -/
def realise (w : World) : Answer → Value × World
  | .known v => (v, w)
  | .float x =>
    let (stamp, heap) := w.heap.stamp
    (.computed x stamp, { w with heap := heap })
  | .list items => new (.list items)
  | .tuple items => new (.tuple items)
  | .dict entries => new (.dict entries)
where
  new (c : Cell) : Value × World :=
    let (a, heap) := w.heap.alloc c
    (.ref a, { w with heap := heap })

/-- A new text that was written as a literal. -/
def freshText (w : World) (s : String) : Value × World :=
  let (stamp, heap) := w.heap.stamp
  (.str s (some stamp), { w with heap := heap })

end World

namespace Act

/-- Ends in a mishap. -/
def fail {α : Type} (m : Mishap) : Act α := throw (.host m)

/-- Goes on with a result, or ends in its mishap. -/
def lift {α : Type} : Except Mishap α → Act α
  | .ok a => return a
  | .error m => fail m

/-- What is read off the world. -/
def read {α : Type} (f : World → Except Mishap α) : Act α := do lift (f (← get))

/-- Makes a new value. -/
def answer (a : Answer) : Act Value := modifyGet (·.realise a)

/-- Makes a new value of what is read off the world. -/
def respond (f : World → Except Mishap Answer) : Act Value := do answer (← read f)

/-- Makes a new object. -/
def object (c : Cell) : Act Value := do
  let w ← get
  let (a, heap) := w.heap.alloc c
  set { w with heap := heap }
  return .ref a

/-- Changes a cell. -/
def store (a : Nat) (c : Cell) : Act Unit :=
  modify fun w => { w with heap := w.heap.store a c }

/-- Takes a line off the input; it is empty at the end of the input. -/
def takeLine : Act (List Char) :=
  modifyGet fun w =>
    let (line, rest) := Text.takeLine w.input
    (line, { w with input := rest })

/-- Writes a text to the stream, unless this refuses it. -/
def write (text : String) : Act Unit := do
  let refusal ← modifyGet fun w =>
    let (refusal, machine) := w.machine.write text
    (refusal, { w with machine := machine })
  match refusal with
  | none => modify fun w => { w with output := w.output.push text }
  | some m => fail m

/-- A text that the stream takes is written. -/
theorem write_of_taken {text : String} {w : World} (h : w.machine.refusal 0 text = none) :
    write text w = .ok () { w with
      output := w.output.push text
      machine := (w.machine.write text).2 } := by
  change (match w.machine.refusal 0 text with
    | none => _
    | some m => fail m) _ = _
  rw [h]
  rfl

/-- A text that the stream refuses is not. -/
theorem write_of_refused {text : String} {w : World} {m : Mishap}
    (h : w.machine.refusal 0 text = some m) :
    write text w = .error (.host m) { w with machine := (w.machine.write text).2 } := by
  change (match w.machine.refusal 0 text with
    | none => _
    | some m => fail m) _ = _
  rw [h]
  rfl

/-- Puts out a text: it is noted as an effect and then written. A text that the stream refuses has
been noted all the same. -/
def put (text : String) : Act Unit := do
  modify fun w => { w with effects := w.effects.push text }
  write text

/-- A text that the stream takes is in both records. -/
theorem put_of_taken {text : String} {w : World} (h : w.machine.refusal 0 text = none) :
    put text w = .ok () { w with
      effects := w.effects.push text
      output := w.output.push text
      machine := (w.machine.write text).2 } :=
  write_of_taken (w := { w with effects := w.effects.push text }) h

/-- A text that the stream refuses is in one of them. -/
theorem put_of_refused {text : String} {w : World} {m : Mishap}
    (h : w.machine.refusal 0 text = some m) :
    put text w = .error (.host m) { w with
      effects := w.effects.push text
      machine := (w.machine.write text).2 } :=
  write_of_refused (w := { w with effects := w.effects.push text }) h

/-- Asks where something lies in memory. -/
def locate : Act Nat :=
  modifyGet fun w =>
    let (address, machine) := w.machine.locate
    (address, { w with machine := machine })

/-- Looks for the annotations of the class of texts that literals make; it has some from then on. -/
def annotate : Act Unit :=
  modify fun w => { w with machine := { w.machine with annotated := true } }

end Act

end Treewalk
