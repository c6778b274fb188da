import SqlScalar.Floating.Basic

/-! # Floating-point arithmetic

Every operation rounds the exact result once. What has no exact result, such as the
difference of two infinities, is no number.
-/

namespace SqlScalar.Floating

variable {format : FloatFormat}

/-- The sum of two values. Two opposite numbers add up to zero without a minus sign. -/
def add : Floating format → Floating format → Floating format
  | nan, _ => nan
  | _, nan => nan
  | infinite left, infinite right => if left = right then infinite left else nan
  | infinite left, finite _ _ _ => infinite left
  | finite _ _ _, infinite right => infinite right
  | finite leftSign left _, finite rightSign right _ =>
      let total := withSign leftSign left + withSign rightSign right
      if total = 0 then signedZero (leftSign && rightSign)
      else ofRatio (total < 0) total.natAbs 1

/-- A difference is a sum with the other sign. -/
def subtract (left right : Floating format) : Floating format :=
  add left right.negate

/-- The product of two floating-point numbers, rounded. Infinity times zero is no number. -/
def multiply : Floating format → Floating format → Floating format
  | nan, _ => nan
  | _, nan => nan
  | infinite left, infinite right => infinite (left != right)
  | infinite left, finite rightSign right _ =>
      if right = 0 then nan else infinite (left != rightSign)
  | finite leftSign left _, infinite right =>
      if left = 0 then nan else infinite (leftSign != right)
  | finite leftSign left _, finite rightSign right _ =>
      ofRatio (leftSign != rightSign) (left * right) format.one

/-- The quotient of two floating-point numbers, rounded. Zero by zero is no number. -/
def divide : Floating format → Floating format → Floating format
  | nan, _ => nan
  | _, nan => nan
  | infinite _, infinite _ => nan
  | infinite left, finite rightSign _ _ => infinite (left != rightSign)
  | finite leftSign _ _, infinite right => signedZero (leftSign != right)
  | finite leftSign left _, finite rightSign right _ =>
      if right = 0 then if left = 0 then nan else infinite (leftSign != rightSign)
      else ofRatio (leftSign != rightSign) (left * format.one) right

/-- The remainder of the quotient rounded toward zero, with the sign of the dividend. -/
def remainder : Floating format → Floating format → Floating format
  | nan, _ => nan
  | _, nan => nan
  | infinite _, _ => nan
  | finite negative units representable, infinite _ => finite negative units representable
  | finite negative left _, finite _ right _ =>
      if right = 0 then nan else ofRatio negative (left % right) 1

end SqlScalar.Floating
