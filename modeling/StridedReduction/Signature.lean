import StridedReduction.Array.Call

/-!
# Functions with array parameters

Binding the arguments of a call to the parameters of a function, and the conversion of the arguments
of declared array parameters to arrays.  Conversions come first, positional ones before named ones;
only then are the arguments bound.
-/

namespace StridedReduction

/-- A parameter of a function. -/
structure Parameter where
  /-- The name of the parameter. -/
  name : String
  /-- Whether the parameter may be left without an argument. -/
  optional : Bool
  deriving DecidableEq, Repr

/-- A function of some parameters, with those of them that take arrays. -/
structure ArrayFunction where
  /-- The parameters in order. -/
  parameters : List Parameter
  /-- The names of the array parameters. -/
  arrays : List String

namespace ArrayFunction

/-- Declares the array parameters of a function, `declarations` times over. -/
def declare (parameters : List Parameter) (arrays : List String) (declarations : Nat) :
    Except Failure ArrayFunction :=
  let unknown := arrays.filter fun name => !parameters.any (·.name == name)
  if !decide arrays.Nodup then .error .repeatedParameter
  else if unknown ≠ [] then .error (.unknownParameters unknown)
  else if 1 < declarations then .error .declaredAlready
  else .ok ⟨parameters, arrays⟩

/-- The positional arguments with those of array parameters as arrays. -/
def acceptPositional (f : ArrayFunction) (arguments : List Operand) :
    Except Failure (List Operand) :=
  arguments.mapIdxM fun position operand =>
    match f.parameters[position]? with
    | some parameter => if f.arrays.contains parameter.name then operand.accept else pure operand
    | none => pure operand

/-- The named arguments with those of array parameters as arrays. -/
def acceptNamed (f : ArrayFunction) (arguments : List (String × Operand)) :
    Except Failure (List (String × Operand)) :=
  arguments.mapM fun (name, operand) => do
    if f.arrays.contains name then return (name, ← operand.accept) else return (name, operand)

/-- The operands bound so far, one for each parameter, after a named one. -/
def bindNamed (parameters : List Parameter) (bound : List (Option Operand)) :
    String × Operand → Except Failure (List (Option Operand))
  | (name, operand) =>
    match parameters.findIdx? (·.name == name) with
    | none => .error (.unexpectedArgument name)
    | some position =>
      match bound[position]? with
      | some (some _) => .error (.repeatedArgument name)
      | _ => .ok (bound.set position (some operand))

/-- The operands of all parameters; those left out have no value. -/
def bind (parameters : List Parameter) (positional : List Operand)
    (named : List (String × Operand)) : Except Failure (List Operand) := do
  let total := parameters.length
  let first := (positional.take total).map some
  let unbound := List.replicate (total - first.length) none
  let bound ← named.foldlM (bindNamed parameters) (first ++ unbound)
  if total < positional.length then
    throw (.tooManyArguments (parameters.filter (!·.optional)).length total positional.length)
  let missing := (parameters.zip bound).filter fun (parameter, operand) =>
    !parameter.optional && operand.isNone
  if missing ≠ [] then throw (.missingArguments (missing.map (·.1.name)))
  return bound.map (·.getD (.value .none))

/-- The operands that the function receives from a call. -/
def call (f : ArrayFunction) (positional : List Operand) (named : List (String × Operand)) :
    Except Failure (List Operand) := do
  let positional ← f.acceptPositional positional
  let named ← f.acceptNamed named
  bind f.parameters positional named

end ArrayFunction

end StridedReduction
