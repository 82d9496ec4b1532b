import StridedReduction.Float.Decimal

/-!
# Complex numbers

Pairs of floating-point numbers.  Each real operation inside an operation rounds on its own, and no
infinity or not-a-number is treated apart.
-/

namespace StridedReduction

/-- A complex number with parts of the format `f`. -/
structure Complex (f : Format) where
  /-- The real part. -/
  re : Binary f
  /-- The imaginary part. -/
  im : Binary f
  deriving DecidableEq, Inhabited

namespace Complex

variable {f : Format}

/-- A real number as a complex one. -/
def ofReal (x : Binary f) : Complex f :=
  ⟨x, Binary.signedZero false⟩

/-- The rounded sum of each part. -/
protected def add (left right : Complex f) : Complex f :=
  ⟨left.re + right.re, left.im + right.im⟩

/-- The rounded difference of each part. -/
protected def sub (left right : Complex f) : Complex f :=
  ⟨left.re - right.re, left.im - right.im⟩

/-- The product by the four products of the parts. -/
protected def mul (left right : Complex f) : Complex f :=
  ⟨left.re * right.re - left.im * right.im, left.re * right.im + left.im * right.re⟩

/-- The quotient by scaling with the ratio of the divisor's parts, the smaller over the larger. -/
protected def div (left right : Complex f) : Complex f :=
  if right.im.abs.le right.re.abs then
    if right.re.abs.equals (Binary.signedZero false) then
      ⟨left.re / right.re.abs, left.im / right.re.abs⟩
    else
      let ratio := right.im / right.re
      let scale := Binary.ofInt 1 / (right.re + right.im * ratio)
      ⟨(left.re + left.im * ratio) * scale, (left.im - left.re * ratio) * scale⟩
  else
    let ratio := right.re / right.im
    let scale := Binary.ofInt 1 / (right.im + right.re * ratio)
    ⟨(left.re * ratio + left.im) * scale, (left.im * ratio - left.re) * scale⟩

instance : Add (Complex f) := ⟨Complex.add⟩
instance : Sub (Complex f) := ⟨Complex.sub⟩
instance : Mul (Complex f) := ⟨Complex.mul⟩
instance : Div (Complex f) := ⟨Complex.div⟩

@[simp] theorem re_add (left right : Complex f) : (left + right).re = left.re + right.re := rfl
@[simp] theorem im_add (left right : Complex f) : (left + right).im = left.im + right.im := rfl
@[simp] theorem re_sub (left right : Complex f) : (left - right).re = left.re - right.re := rfl
@[simp] theorem im_sub (left right : Complex f) : (left - right).im = left.im - right.im := rfl

/-- Whether a part is not-a-number. -/
def isNaN (x : Complex f) : Bool :=
  x.re.isNaN || x.im.isNaN

/-- Whether both parts are equal. -/
def equals (left right : Complex f) : Bool :=
  left.re.equals right.re && left.im.equals right.im

/-- Lexicographic `≤`: by the real parts, then by the imaginary ones. -/
def le (left right : Complex f) : Bool :=
  (left.re.lt right.re && !left.im.isNaN && !right.im.isNaN) ||
    (left.re.equals right.re && left.im.le right.im)

/-- The lexicographically greater number, the first of two equal ones; not-a-number wins. -/
def maximum (left right : Complex f) : Complex f :=
  if left.isNaN || right.le left then left else right

/-- The lexicographically smaller number, the first of two equal ones; not-a-number wins. -/
def minimum (left right : Complex f) : Complex f :=
  if left.isNaN || left.le right then left else right

/-- The complex number nearest to a complex number of another format. -/
def convert {g : Format} (x : Complex f) : Complex g :=
  ⟨x.re.convert, x.im.convert⟩

/-- The text of a complex number as a sum of its parts; a real part of zero is left out. -/
def sumText (write : Binary f → String) (x : Complex f) : String :=
  let im := write x.im ++ "j"
  if x.re = Binary.signedZero false then im
  else write x.re ++ (if x.im.isNegative then "" else "+") ++ im

/-- The text of a complex number: a number without real part stands alone, any other in
parentheses. -/
def text (x : Complex f) : String :=
  let sum := x.sumText (·.text .part)
  if x.re = Binary.signedZero false then sum else "(" ++ sum ++ ")"

end Complex

end StridedReduction
