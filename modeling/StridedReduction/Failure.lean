import StridedReduction.Argument
import StridedReduction.Capability
import StridedReduction.Element.SpellingFault
import StridedReduction.Element.Text

/-!
# Failures

The causes for which a call has no answer, the kind of each and its message.
-/

namespace StridedReduction

/-- Why a call has no answer. -/
inductive Failure
  /-- No array was given; its first wanted property is named. -/
  | absentArray (property : String)
  /-- A text names no type of items. -/
  | misspelled (fault : SpellingFault)
  /-- The byte order of text of any length was asked for. -/
  | unorderable
  /-- An axis was given as something other than an integer. -/
  | axisNotInteger (axis : Argument)
  /-- An axis number is negative or too large. -/
  | axisOutOfBounds (axis rank : Int)
  /-- An axis to be moved is out of bounds. -/
  | movedAxisOutOfBounds (axis : Int) (rank : Nat)
  /-- Items of a type have no operations. -/
  | unsupportedType (type : ItemType)
  /-- Items of a type lack what an operation needs. -/
  | missingCapabilities (operation : Operation) (type : ItemType)
  /-- An operation to be checked is not listed. -/
  | unlistedOperation
  /-- An operation to be looked up is not listed. -/
  | unknownOperation (name : String)
  /-- A count exceeds the finite elements of a type. -/
  | countTooLarge (count : Int) (t : ElementType)
  /-- Counts do not convert to items of a type. -/
  | uncountable (type : ItemType)
  /-- A number of steps was given for a point in time, but no step. -/
  | unitlessInstant
  /-- An integer is outside the range of an integer type. -/
  | integerOutOfRange (value : Int) (k : IntegerType)
  /-- An integer does not fit the machine word that integers are read through. -/
  | integerUnread
  /-- An integer is beyond the doubles. -/
  | integerTooLarge
  /-- The correction of a count does not convert to the element type. -/
  | correctionUnconvertible (correction : Argument) (type : ItemType)
  /-- The correction of a count is too large for the element type. -/
  | correctionOutOfRange (correction : Argument) (type : ItemType)
  /-- The correction of a count is not between zero and the count. -/
  | correctionOutsideCount (t : ElementType) (correction : t.Carrier) (count : Int)
  /-- The correction of a count, an array of one element, is not between zero and the count. -/
  | listedCorrectionOutsideCount (t : ElementType) (rank : Nat) (correction : t.Carrier)
      (count : Int)
  /-- An array of several elements was to be true or false. -/
  | ambiguousTruth
  /-- An array without elements was to be true or false. -/
  | emptyTruth
  /-- The order of a difference is not an integer. -/
  | orderNotInteger (order : Argument)
  /-- The order of a difference is negative. -/
  | negativeOrder (order : Int)
  /-- An axis is too short for a difference of the given order. -/
  | orderTooLarge (order axis length : Nat)
  /-- A fold was given an array that is not one-dimensional. -/
  | rankNotOne (rank : Nat)
  /-- A fold was given no accumulators. -/
  | nonpositiveWidth (width : Argument)
  /-- A fold was given a number of accumulators that is no integer. -/
  | widthNotInteger (width : Argument)
  /-- A fold was given a number of accumulators that does not compare with integers. -/
  | widthIncomparable (width : Argument)
  /-- A list was to be cut at a place that is no integer. -/
  | fractionalBound
  /-- An operation is not defined for its operands. -/
  | unsupportedOperands (operation : String)
  /-- A row was expected. -/
  | notARow
  /-- An array without axes has no tightest axis. -/
  | noAxes
  /-- The extent of an axis that does not exist was asked for. -/
  | noSuchExtent
  /-- More axes were addressed than an array has. -/
  | tooManyIndices (rank addressed : Nat)
  /-- An index lies beyond the extent of its axis. -/
  | indexOutOfBounds (index axis extent : Nat)
  /-- A slice has step zero. -/
  | zeroStep
  /-- A permutation has the wrong length. -/
  | permutationLength
  /-- A permutation names an axis twice. -/
  | repeatedAxis
  /-- Shapes do not broadcast together. -/
  | shapesDisagree (shapes : List (List Nat))
  /-- A result does not fit the shape that is to hold it. -/
  | resultTooLarge (holder result : List Nat)
  /-- The results of an operation are of a type that their holder cannot store. -/
  | resultUnstorable (operation : String) (result : ElementType) (holder : ItemType)
  /-- Truth values were to be subtracted. -/
  | truthSubtraction
  /-- Nested lists are not rectangular; the common leading extents are given. -/
  | ragged (shape : List Nat)
  /-- Lists are nested too deeply. -/
  | nestedTooDeeply (limit : Nat)
  /-- An array parameter was declared twice. -/
  | repeatedParameter
  /-- The parameters of a function are declared already. -/
  | declaredAlready
  /-- Array parameters were declared that a function does not have. -/
  | unknownParameters (names : List String)
  /-- A call leaves required parameters without arguments. -/
  | missingArguments (names : List String)
  /-- A call gives more positional arguments than there are parameters. -/
  | tooManyArguments (required total given : Nat)
  /-- A call gives a parameter two arguments. -/
  | repeatedArgument (name : String)
  /-- A call names a parameter that does not exist. -/
  | unexpectedArgument (name : String)

namespace Failure

/-- The kind of a failure. -/
def kind : Failure → FailureKind
  | absentArray _ => .property
  | misspelled fault => fault.kind
  | unorderable => .type
  | axisNotInteger _ => .type
  | axisOutOfBounds _ _ => .axis
  | movedAxisOutOfBounds _ _ => .axis
  | unsupportedType _ => .type
  | missingCapabilities _ _ => .type
  | unlistedOperation => .assertion
  | unknownOperation _ => .key
  | countTooLarge _ _ => .overflow
  | uncountable _ => .type
  | unitlessInstant => .value
  | integerOutOfRange _ _ => .overflow
  | integerUnread => .overflow
  | integerTooLarge => .overflow
  | correctionUnconvertible _ _ => .type
  | correctionOutOfRange _ _ => .value
  | correctionOutsideCount _ _ _ => .value
  | listedCorrectionOutsideCount _ _ _ _ => .value
  | ambiguousTruth => .value
  | emptyTruth => .value
  | orderNotInteger _ => .type
  | negativeOrder _ => .value
  | orderTooLarge _ _ _ => .value
  | rankNotOne _ => .value
  | nonpositiveWidth _ => .value
  | widthNotInteger _ => .type
  | widthIncomparable _ => .type
  | fractionalBound => .type
  | unsupportedOperands _ => .type
  | notARow => .assertion
  | noAxes => .value
  | noSuchExtent => .index
  | tooManyIndices _ _ => .index
  | indexOutOfBounds _ _ _ => .index
  | zeroStep => .value
  | permutationLength => .value
  | repeatedAxis => .value
  | shapesDisagree _ => .value
  | resultTooLarge _ _ => .value
  | resultUnstorable _ _ _ => .storage
  | truthSubtraction => .type
  | ragged _ => .value
  | nestedTooDeeply _ => .value
  | repeatedParameter => .assertion
  | declaredAlready => .assertion
  | unknownParameters _ => .assertion
  | missingArguments _ => .type
  | tooManyArguments _ _ _ => .type
  | repeatedArgument _ => .type
  | unexpectedArgument _ => .type

/-- The text of the greatest finite element of a type. -/
def greatestText : ElementType → String
  | .boolean => truthText true
  | .integer k => toString k.greatest
  | .real f => (Binary.nearest false f.largest 1 : Binary f).text .number
  | .complex f => (Binary.nearest false f.largest 1 : Binary f).text .number

/-- A list of quoted names as a sentence lists them. -/
def enumeration : List String → String
  | [] => ""
  | [name] => quoted name
  | [first, second] => quoted first ++ " and " ++ quoted second
  | names =>
    ", ".intercalate (names.dropLast.map quoted) ++ ", and " ++ quoted (names.getLastD "")

/-- The noun of an argument, in the plural unless there is one. -/
def argumentNoun (count : Nat) : String :=
  if count = 1 then "argument" else "arguments"

/-- The message on a correction that is not between zero and a count. -/
def correctionMessage (correction : String) (count : Int) : String :=
  "`ddof` must not be less than zero or greater than the length of the axis (ddof=" ++ correction ++
    s!", length={count})"

/-- The message of a failure. -/
def message : Failure → String
  | absentArray property => "'NoneType' object has no attribute " ++ quoted property
  | misspelled fault => fault.message
  | unorderable => "Cannot use DescrNewByteOrder for this new style DTypes."
  | axisNotInteger axis => "axis must be an integer, got " ++ axis.typeName
  | axisOutOfBounds axis rank => s!"axis {axis} is out of bounds for array of dimension {rank}"
  | movedAxisOutOfBounds axis rank =>
    s!"source: axis {axis} is out of bounds for array of dimension {rank}"
  | unsupportedType type => "ndreduce does not support dtype=" ++ type.name
  | missingCapabilities operation type =>
    operation.name ++ " is not supported for dtype=" ++ type.name ++ ": missing " ++
      ", ".intercalate ((operation.missing type.capabilities).map Capability.name)
  | unlistedOperation => ""
  | unknownOperation name => quoted name
  | countTooLarge count t =>
    s!"count {count} is not representable as " ++ t.name ++ " (max " ++ greatestText t ++ ")"
  | uncountable type => "cannot convert a count to dtype=" ++ type.name
  | unitlessInstant => "Converting an integer to a NumPy datetime requires a specified unit"
  | integerOutOfRange value k =>
    s!"Python integer {value} out of bounds for " ++ (ElementType.integer k).name
  | integerUnread => "Python int too large to convert to C long"
  | integerTooLarge => "int too large to convert to float"
  | correctionUnconvertible correction type =>
    "ddof must be convertible to " ++ type.name ++ ", got " ++ correction.describe
  | correctionOutOfRange correction type =>
    "ddof=" ++ correction.describe ++ " is out of range for " ++ type.name
  | correctionOutsideCount t correction count => correctionMessage (t.text correction) count
  | listedCorrectionOutsideCount t rank correction count =>
    correctionMessage (t.bracketed rank correction) count
  | ambiguousTruth =>
    "The truth value of an array with more than one element is ambiguous. Use a.any() or a.all()"
  | emptyTruth =>
    "The truth value of an empty array is ambiguous. " ++
      "Use `array.size > 0` to check that an array is not empty."
  | orderNotInteger order =>
    quoted order.qualifiedTypeName ++ " object cannot be interpreted as an integer"
  | negativeOrder order => s!"order must be non-negative but got {order}"
  | orderTooLarge order axis length =>
    s!"diff of order {order} needs at least {order + 1} elements along axis {axis}, " ++
      s!"but the array has {length}"
  | rankNotOne rank => s!"expected a 1-D array, got ndim={rank}"
  | nonpositiveWidth width => "width must be positive, got " ++ width.plainText
  | widthNotInteger width =>
    "expected a sequence of integers or a single integer, got '" ++ width.describe ++ "'"
  | widthIncomparable width =>
    "'<' not supported between instances of " ++ quoted width.typeName ++ " and 'int'"
  | fractionalBound => "slice indices must be integers or None or have an __index__ method"
  | unsupportedOperands operation =>
    "ufunc " ++ quoted operation ++ " not supported for the input types, and the inputs could " ++
      "not be safely coerced to any supported types according to the casting rule ''safe''"
  | notARow => ""
  | noAxes => "min_stride_axis: array must have ndim > 0"
  | noSuchExtent => "tuple index out of range"
  | tooManyIndices rank addressed =>
    s!"too many indices for array: array is {rank}-dimensional, but {addressed} were indexed"
  | indexOutOfBounds index axis extent =>
    s!"index {index} is out of bounds for axis {axis} with size {extent}"
  | zeroStep => "slice step cannot be zero"
  | permutationLength => "axes don't match array"
  | repeatedAxis => "repeated axis in transpose"
  | shapesDisagree shapes =>
    "operands could not be broadcast together with shapes " ++
      String.join (shapes.map fun shape => extentsText "," shape ++ " ")
  | resultTooLarge holder result =>
    "non-broadcastable output operand with shape " ++ extentsText "," holder ++
      " doesn't match the broadcast shape " ++ extentsText "," result
  | resultUnstorable operation result holder =>
    "Cannot cast ufunc " ++ quoted operation ++ " output from dtype(" ++ quoted result.name ++
      ") to dtype(" ++ quoted holder.name ++ ") with casting rule 'same_kind'"
  | truthSubtraction =>
    "numpy boolean subtract, the `-` operator, is not supported, use the bitwise_xor, " ++
      "the `^` operator, or the logical_xor function instead."
  | ragged shape =>
    "setting an array element with a sequence. The requested array has an inhomogeneous shape " ++
      s!"after {shape.length} dimensions. The detected shape was " ++ extentsText ", " shape ++
      " + inhomogeneous part."
  | nestedTooDeeply limit =>
    "setting an array element with a sequence. The requested array would exceed the maximum " ++
      s!"number of dimension of {limit}."
  | repeatedParameter => ""
  | declaredAlready => "this decorator must be the innermost"
  | unknownParameters names =>
    "unknown parameter(s): \x7b" ++ ", ".intercalate (names.map quoted) ++ "\x7d"
  | missingArguments names =>
    s!"f() missing {names.length} required positional " ++ argumentNoun names.length ++ ": " ++
      enumeration names
  | tooManyArguments required total given =>
    let takes :=
      if required < total then s!"from {required} to {total} positional arguments"
      else s!"{total} positional " ++ argumentNoun total
    let were := if given = 1 then "was" else "were"
    "f() takes " ++ takes ++ s!" but {given} " ++ were ++ " given"
  | repeatedArgument name => "f() got multiple values for argument " ++ quoted name
  | unexpectedArgument name => "f() got an unexpected keyword argument " ++ quoted name

end Failure

end StridedReduction
