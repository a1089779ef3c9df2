/-!
# Argument counts

A `Treewalk.Signature` says how many arguments a routine takes. `Treewalk.Want` is the answer to
"how many did you want?", as it stands in an error: one number, a range, or a lower bound.
-/

namespace Treewalk

/-- The argument counts that a routine admits. -/
inductive Want where
  | exactly (n : Nat)
  | between (least most : Nat)
  | atLeast (n : Nat)
  deriving DecidableEq, Repr

/-- The wanted counts as a text: `2`, `1..3` or `1+`. -/
def Want.text : Want → String
  | .exactly n => toString n
  | .between a b => toString a ++ ".." ++ toString b
  | .atLeast n => toString n ++ "+"

/-- Whether a count is among the wanted ones. -/
def Want.Admits : Want → Nat → Prop
  | .exactly n, k => k = n
  | .between a b, k => a ≤ k ∧ k ≤ b
  | .atLeast n, k => n ≤ k

instance (w : Want) (k : Nat) : Decidable (w.Admits k) := by
  cases w <;> unfold Want.Admits <;> infer_instance

/-- The parameters of a routine: positional ones, those with defaults last, possibly a parameter
that takes all further arguments, and whether a parameter must be given by name. An argument is
never given by name, so a routine of the last sort cannot be called. -/
structure Signature where
  required : Nat
  optional : Nat := 0
  variadic : Bool := false
  keywordRequired : Bool := false
  deriving DecidableEq, Repr

namespace Signature

/-- Whether `count` arguments can be bound to the parameters. -/
def accepts (s : Signature) (count : Nat) : Bool :=
  !s.keywordRequired && s.required ≤ count && (s.variadic || count ≤ s.required + s.optional)

/-- The counts that the positional parameters admit. -/
def want (s : Signature) : Want :=
  if s.variadic then .atLeast s.required
  else if s.optional = 0 then .exactly s.required
  else .between s.required (s.required + s.optional)

end Signature

end Treewalk
