import Mathlib.Data.Option.Basic
import Treewalk.Proofs.Conduct
import Treewalk.Proofs.Shift.Act

/-!
# Methods behind what was left

A value has the same methods behind what was left, and each of them echoes
(`Treewalk.Capability.Echoes`): those of texts and numbers, since they only read the world, and
those of containers, since their acts echo.
-/

namespace Treewalk

open Act

variable {s : Shift} {w : World}

/-! ### Capabilities of values -/

/-- **One capability echoes another**: they take as many arguments, and what the second does echoes
what the first does. -/
structure Capability.Echoes (s : Shift) (c c' : Capability) : Prop where
  signature_eq : c'.signature = c.signature
  run (activation : Activation) (args : List Value) :
    Act.Echoes s (Value.shift s) (c.run activation args)
      (c'.run activation (args.map (Value.shift s)))

namespace Capability

theorem echoes_acting {signature : Option Signature} {f f' : List Value → Act Value}
    (hf : ∀ args, Act.Echoes s (Value.shift s) (f args) (f' (args.map (Value.shift s)))) :
    Echoes s (acting signature f) (acting signature f') :=
  ⟨rfl, fun _ args => hf args⟩

theorem echoes_reading {signature : Option Signature}
    {f f' : World → List Value → Except Mishap Answer}
    (hf : ∀ w args, w.IsStandard →
      f' (w.shift s) (args.map (Value.shift s)) = (f w args).map (Answer.shift s)) :
    Echoes s (reading signature f) (reading signature f') :=
  echoes_acting fun args => .respond fun w hw => hf w args hw

theorem echoes_closed (signature : Option Signature) :
    Echoes s (closed signature) (closed signature) :=
  echoes_acting fun _ => .fail _

theorem Echoes.invoke {c c' : Capability} (h : Echoes s c c') (activation : Activation)
    (name : String) (args : List Value) :
    Act.Echoes s (Value.shift s) (c.invoke activation name args)
      (c'.invoke activation name (args.map (Value.shift s))) := by
  unfold Capability.invoke
  rw [h.signature_eq, List.length_map]
  cases c.signature with
  | none => exact h.run activation args
  | some signature =>
    dsimp only
    cases signature.check name args.length with
    | ok _ => exact h.run activation args
    | error fault => exact .throw fault

end Capability

open Capability

/-- What is looked up in a table echoes, if all of its entries do. -/
theorem echoes_lookup {β : Type} {table : List (String × β)} {make make' : β → Capability}
    (h : ∀ entry ∈ table, Capability.Echoes s (make entry.2) (make' entry.2)) (name : String) :
    Option.Rel (Capability.Echoes s) ((table.lookup name).map make)
      ((table.lookup name).map make') := by
  cases hentry : table.lookup name with
  | none => exact .none
  | some entry => exact .some (h _ (mem_of_lookup_eq_some hentry))

theorem intMethod?_echoes (v : Value) (n : Int) (name : String) :
    Option.Rel (Capability.Echoes s) (intMethod? v n name) (intMethod? (v.shift s) n name) := by
  unfold intMethod?
  split
  · exact .some (echoes_reading fun _ _ _ => rfl)
  · exact .some (echoes_reading fun _ _ _ => rfl)
  · exact .some (echoes_reading fun _ _ _ => rfl)
  · exact .some (echoes_reading fun _ args _ => IntMethod.toOctets_shift n args)
  · refine .some (echoes_reading fun w args _ => ?_)
    rw [refuseArguments_shift]
    exact bind_map fun _ => rfl
  · exact .some (echoes_reading fun _ args _ => IntMethod.fromOctets_shift v args)
  · exact .none

theorem floatMethod?_echoes (v : Value) (x : Float) (name : String) :
    Option.Rel (Capability.Echoes s) (floatMethod? v x name) (floatMethod? (v.shift s) x name) := by
  unfold floatMethod?
  split
  · exact .some (echoes_reading fun _ _ _ => (map_floatRatio x).symm)
  · exact .some (echoes_reading fun _ _ _ => rfl)
  · exact .some (echoes_reading fun _ _ _ => rfl)
  · exact .some (echoes_reading fun _ _ _ => rfl)
  · refine .some (echoes_reading fun _ args _ => ?_)
    rw [Value.headD_map_shift]
    exact floatOfHex_shift _
  · exact .none

theorem textMethod?_echoes (v : Value) (text name : String) :
    Option.Rel (Capability.Echoes s) (textMethod? v text name)
      (textMethod? (v.shift s) text name) := by
  unfold textMethod?
  split
  · exact .some (echoes_closed _)
  split
  · exact .some (echoes_closed _)
  · refine echoes_lookup (fun entry hentry => ?_) name
    exact echoes_reading fun w args hw =>
      TextRequest.isBlind_textMethods entry hentry ⟨w, v, text.toList, args⟩ hw.plain

theorem octetMethod?_echoes (bs : List UInt8) (name : String) :
    Option.Rel (Capability.Echoes s) (octetMethod? bs name) (octetMethod? bs name) := by
  refine echoes_lookup (fun entry hentry => ?_) name
  exact echoes_reading fun w args hw =>
    OctetRequest.isBlind_octetMethods entry hentry ⟨w, .bytes bs, Text.Octets.toText bs, args⟩
      hw.plain

theorem listMethod?_echoes (a : Nat) (items : List Value) (name : String) :
    Option.Rel (Capability.Echoes s) (listMethod? a items name)
      (listMethod? (s.address a) (items.map (Value.shift s)) name) := by
  refine echoes_lookup (fun entry hentry => ?_) name
  exact echoes_acting fun args => ListMethod.isBlind_table entry hentry a items args

theorem tupleMethod?_echoes (items : List Value) (name : String) :
    Option.Rel (Capability.Echoes s) (tupleMethod? items name)
      (tupleMethod? (items.map (Value.shift s)) name) := by
  unfold tupleMethod?
  split
  · exact .some (echoes_acting fun args => ListMethod.isBlind_count 0 items args)
  · exact .none

theorem dictMethod?_echoes (a : Nat) (entries : DictMethod.Entries) (name : String) :
    Option.Rel (Capability.Echoes s) (dictMethod? a entries name)
      (dictMethod? (s.address a) (entries.map (shiftEntry s)) name) := by
  unfold dictMethod?
  split
  · exact .some (echoes_closed _)
  · refine echoes_lookup (fun entry hentry => ?_) name
    exact echoes_acting fun args => DictMethod.isBlind_table entry hentry (.ref a) a entries args

/-- **The methods of a value do not see what was left**, apart from the filling of templates. -/
theorem World.plainMethod?_echoes (hw : w.heap.IsPlain) (v : Value) (name : String) :
    Option.Rel (Capability.Echoes s) (w.plainMethod? v name)
      ((w.shift s).plainMethod? (v.shift s) name) := by
  cases v with
  | nil | environment => exact .none
  | bool b => exact intMethod?_echoes (.bool b) _ name
  | int n => exact intMethod?_echoes (.int n) n name
  | float x stamp => exact floatMethod?_echoes (.float x stamp) x name
  | str text fresh => exact textMethod?_echoes (.str text fresh) text name
  | bytes bs => exact octetMethod?_echoes bs name
  | ref a =>
    simp only [plainMethod?, Value.shift_ref, heap_shift, Heap.cell?_shift]
    cases hcell : w.heap.cell? a with
    | none => exact .none
    | some c =>
      cases c with
      | list items => exact listMethod?_echoes a items name
      | tuple items => exact tupleMethod?_echoes items name
      | dict entries => exact dictMethod?_echoes a entries name
      | counter | vector | grumpy => cases hw a _ hcell

end Treewalk
