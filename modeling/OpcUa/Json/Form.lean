import OpcUa.Json.Basic

/-!
How values of a type stand in JSON: a form writes a value and reads it back. A reader is told
how many levels of arrays and objects it may still enter; it counts only what it looks into, so
members that a record does not have may be nested at will.
-/

namespace OpcUa

structure Form (α : Type) where
  write : α → Json
  read : Nat → Json → Option α

namespace Form

def via {α β : Type} (f : Form α) (back : β → α) (forth : α → Option β) : Form β where
  write b := f.write (back b)
  read n j := (f.read n j).bind forth

def raw : Form Json where
  write := id
  read _ := some

def string : Form String where
  write := .ofString
  read
    | _, .text t => t
    | _, _ => none

def bool : Form Bool where
  write := .bool
  read
    | _, .bool b => some b
    | _, _ => none

def integer (low high : Int) : Form Int where
  write := .ofInt
  read
    | _, .number l =>
      match l.toInt? with
      | some n => if low ≤ n ∧ n ≤ high then some n else none
      | none => none
    | _, _ => none

def uint8 : Form UInt8 :=
  (integer 0 255).via (fun n => n.toNat) (fun n => some (UInt8.ofNat n.toNat))

def uint16 : Form UInt16 :=
  (integer 0 65535).via (fun n => n.toNat) (fun n => some (UInt16.ofNat n.toNat))

def uint32 : Form UInt32 :=
  (integer 0 4294967295).via (fun n => n.toNat) (fun n => some (UInt32.ofNat n.toNat))

def uint64 : Form UInt64 :=
  (integer 0 18446744073709551615).via (fun n => n.toNat) (fun n => some (UInt64.ofNat n.toNat))

def int8 : Form Int8 :=
  (integer (-128) 127).via Int8.toInt (fun n => some (Int8.ofInt n))

def int16 : Form Int16 :=
  (integer (-32768) 32767).via Int16.toInt (fun n => some (Int16.ofInt n))

def int32 : Form Int32 :=
  (integer (-2147483648) 2147483647).via Int32.toInt (fun n => some (Int32.ofInt n))

def int64 : Form Int64 :=
  (integer (-9223372036854775808) 9223372036854775807).via Int64.toInt
    (fun n => some (Int64.ofInt n))

/-- A value that may be left out; `null` stands for none. -/
def optional {α : Type} (f : Form α) : Form (Option α) where
  write
    | some a => f.write a
    | none => .null
  read
    | _, .null => some none
    | n, j => (f.read n j).map some

def list {α : Type} (f : Form α) : Form (List α) where
  write as := .array (as.map f.write)
  read
    | n + 1, .array js => js.mapM (f.read n)
    | _, _ => none

/-- A case without a value: its name, or an object with nothing but the name and `null`. -/
def caseName? : Nat → Json → Option String
  | _, .text t => t
  | _ + 1, .object [(name, .null)] => name
  | _, _ => none

def named {α : Type} (all : List α) (name : α → String) : Form α where
  write a := .ofString (name a)
  read n j := do
    let s ← caseName? n j
    all.find? fun a => name a == s

end Form

/-! ### Records -/

/-- What stands in the place of a member: a value; nothing, in an object without that name; or
nothing, in an array that ended before. -/
inductive Slot
  | held (value : Json)
  | absent
  | ended

structure Record (α : Type) where
  names : List String
  write : α → List (String × Json)
  read : Nat → (String → Slot) → Option α

namespace Record

def none : Record Unit where
  names := []
  write _ := []
  read _ _ := some ()

def required {α : Type} (name : String) (f : Form α) : Record α where
  names := [name]
  write a := [(name, f.write a)]
  read n at_ :=
    match at_ name with
    | .held j => f.read n j
    | .absent | .ended => .none

/-- A member that an object may lack. It is always written. -/
def optional {α : Type} (name : String) (f : Form α) : Record (Option α) where
  names := [name]
  write a := [(name, f.optional.write a)]
  read n at_ :=
    match at_ name with
    | .held j => f.optional.read n j
    | .absent => some .none
    | .ended => .none

def defaulted {α : Type} (name : String) (f : Form α) (standard : α) : Record α where
  names := [name]
  write a := [(name, f.write a)]
  read n at_ :=
    match at_ name with
    | .held j => f.read n j
    | .absent | .ended => some standard

def skippable {α : Type} (name : String) (f : Form α) : Record (Option α) where
  names := [name]
  write
    | some a => [(name, f.write a)]
    | .none => []
  read n at_ :=
    match at_ name with
    | .held j => f.optional.read n j
    | .absent | .ended => some .none

def and {α β : Type} (r : Record α) (s : Record β) : Record (α × β) where
  names := r.names ++ s.names
  write p := r.write p.1 ++ s.write p.2
  read n at_ := do
    let a ← r.read n at_
    let b ← s.read n at_
    some (a, b)

def memberSlot (members : List (Option String × Json)) (name : String) : Slot :=
  match members.find? (fun m => m.1 == some name) with
  | some (_, j) => .held j
  | .none => .absent

def elementSlot (names : List String) (values : List Json) (name : String) : Slot :=
  match (names.zip values).find? (fun p => p.1 == name) with
  | some (_, j) => .held j
  | .none => .ended

def hasNoRepeats (names : List String) (members : List (Option String × Json)) : Bool :=
  names.all fun name => members.countP (fun m => m.1 == some name) ≤ 1

/-- Records stand as objects. An array of the members in order is read as well. Members of an
object with other names are passed over, but their names have to be strings. -/
def form {α : Type} (r : Record α) : Form α where
  write a := .ofMembers (r.write a)
  read
    | n + 1, .object members =>
      if members.all (fun m => m.1.isSome) && hasNoRepeats r.names members then
        r.read n (memberSlot members)
      else .none
    | n + 1, .array values =>
      if values.length ≤ r.names.length then r.read n (elementSlot r.names values) else .none
    | _, _ => .none

end Record

end OpcUa
