import Tablesmith.Value.Basic

/-!
# Equality of values

Two values are the same if they are equal as numbers, texts, dates, members or
collections.  Truth values count as the numbers zero and one, and whole floats
equal the whole numbers.  Lists and other mutable collections cannot be keys.
-/

namespace Tablesmith

open Tablesmith.Number

namespace Value

/-- Whether two numbers are equal. -/
def sameNumbers : Value → Value → Bool
  | .int m, .int n => m = n
  | .int m, .float y => y.toInt? = some m
  | .float x, .int n => x.toInt? = some n
  | .float x, .float y => x.sameNumber y
  | _, _ => false

/-- A truth value as the number that it counts as. -/
def asNumber : Value → Value
  | .bool b => .int (if b then 1 else 0)
  | v => v

mutual

/-- Whether two values are equal. -/
def same : Value → Value → Bool
  | .null, .null => true
  | .text s, .text t => s = t
  | .brokenText s, .brokenText t => s = t
  | .bytes s, .bytes t => s = t
  | .date d, .date e => d = e
  | .moment a, .moment b => a.same b
  | .member a, .member b => a = b
  | .list xs, .list ys => sameAll xs ys
  | .tuple xs, .tuple ys => sameAll xs ys
  | .set xs, .set ys => xs.length = ys.length && allOccur xs ys
  | .dict xs, .dict ys => xs.length = ys.length && allEntriesOccur xs ys
  | .enclosing m _, .enclosing n _ => m = n
  | a, b => sameNumbers a.asNumber b.asNumber

/-- Whether two lists have equal values at every place. -/
def sameAll : List Value → List Value → Bool
  | [], [] => true
  | x :: xs, y :: ys => same x y && sameAll xs ys
  | _, _ => false

/-- Whether every value of the first list has an equal one in the second. -/
def allOccur : List Value → List Value → Bool
  | [], _ => true
  | x :: xs, ys => ys.any (fun y => same x y) && allOccur xs ys

/-- Whether every entry of the first dictionary has an equal one in the
second. -/
def allEntriesOccur : List (Value × Value) → List (Value × Value) → Bool
  | [], _ => true
  | (k, v) :: rest, ys =>
    ys.any (fun e => same k e.1 && same v e.2) && allEntriesOccur rest ys

end

/-- Equality of values as a Boolean test. -/
instance : BEq Value := ⟨same⟩

mutual

/-- The type that keeps a value from being a key, if there is one. -/
def unkeyable? : Value → Option String
  | .list _ => some "list"
  | .dict _ => some "dict"
  | .set _ => some "set"
  | .enclosing _ isDict => some (if isDict then "dict" else "list")
  | .tuple items => firstUnkeyable? items
  | _ => none

/-- The first type that keeps an element from being a key. -/
def firstUnkeyable? : List Value → Option String
  | [] => none
  | v :: rest =>
    match unkeyable? v with
    | some name => some name
    | none => firstUnkeyable? rest

end

def lookupText? (entries : List (Value × Value)) (key : String) :
    Option Value :=
  (entries.find? fun e => e.1.text? == some key).map Prod.snd

/-- Put a value under a key: a key that is already there keeps its place and
its spelling. -/
def put (entries : List (Value × Value)) (key value : Value) :
    List (Value × Value) :=
  if entries.any fun e => e.1 == key then
    entries.map fun e => if e.1 == key then (e.1, value) else e
  else
    entries ++ [(key, value)]

end Value

end Tablesmith
