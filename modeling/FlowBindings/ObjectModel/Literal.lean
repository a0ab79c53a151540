import FlowBindings.Value

/-!
# Literals of primitive types

The integral types of the generated code are signed, but for the type of characters.
A value above the largest positive one is written so that the compiler takes it for
the negative value with the same bits: in hexadecimal digits with a cast or, for the
longest type, as a decimal number.
-/

namespace FlowBindings.ObjectModel

open Text

inductive Primitive where
  | boolean
  | byte
  /-- Sixteen bits without a sign. -/
  | char
  | short
  | int
  | long
  deriving DecidableEq, Repr

namespace Primitive

def name : Primitive → String
  | boolean => "boolean"
  | byte => "byte"
  | char => "char"
  | short => "short"
  | int => "int"
  | long => "long"

def all : List Primitive := [boolean, byte, char, short, int, long]

def ofName? (name : String) : Option Primitive := all.find? (·.name = name)

def bits : Primitive → Nat
  | boolean => 8
  | byte => 8
  | char => 16
  | short => 16
  | int => 32
  | long => 64

def isSigned : Primitive → Bool
  | boolean => false
  | char => false
  | _ => true

def needsCast : Primitive → Bool
  | byte => true
  | char => true
  | short => true
  | _ => false

end Primitive

inductive Literal where
  | truth (b : Bool)
  | decimal (n : Int)
  /-- A hexadecimal number, cast to a type if one is given; `isLong` tells that it is
  marked as one of the longest type. -/
  | hex (cast : Option Primitive) (n : Int) (isLong : Bool)
  deriving DecidableEq, Repr

namespace Literal

def signedDigits : Int → String
  | .ofNat n => hexDigits n
  | .negSucc n => "-" ++ hexDigits (n + 1)

def render : Literal → String
  | truth b => if b then "true" else "false"
  | decimal n => toString n
  | hex cast n isLong =>
    (cast.elim "" fun t => "(" ++ t.name ++ ") ") ++ "0x" ++ signedDigits n
      ++ (if isLong then "L" else "")

def ofInt? (t : Primitive) (value : Int) : Option Literal :=
  if Int.pow 2 t.bits ≤ value then none
  else if t.isSigned && Int.pow 2 (t.bits - 1) ≤ value then
    if t = .long then some (decimal (Int.pow 2 t.bits - value)) else some (hex (some t) value false)
  else some (hex (if t.needsCast then some t else none) value (t = .long))

def isTrueValue (v : Value) : Bool :=
  v.isTrue && (match v with
    | .text s => s ≠ "False" && s ≠ "false"
    | _ => true)

def ofValue (t : Primitive) (v : Value) : Outcome Literal :=
  match t, v with
  | .boolean, v => pure (truth (isTrueValue v))
  | t, .int n =>
    orFault (ofInt? t n) (.refused ("Value " ++ toString n ++ " to large for type " ++ t.name))
  | t, .bool b => orFault (ofInt? t (if b then 1 else 0)) (.wrongKind "number")
  | _, _ => throw (.wrongKind "number")

end Literal

end FlowBindings.ObjectModel
