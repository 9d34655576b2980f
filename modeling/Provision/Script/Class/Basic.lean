/-!
Classes that are there from the start: their names, and the names of their members.

A member is found through an object of the class in a way that depends on its kind
(`MemberKind`): a method is bound to the object, a computed member is read, and a member of the
class itself is bound to the class. A class with several ancestors lists all of them, nearest first.
-/

namespace Provision.Script

/-- How a member of a class is found through an object. -/
inductive MemberKind where
  /-- A method that stands for an operator. -/
  | operator
  /-- Any other method that is not written as a function. -/
  | builtIn
  /-- A method that is written as a function. -/
  | written
  /-- A value computed from the object. -/
  | computed
  /-- A value kept in the object, beside its attributes. -/
  | slot
  /-- A value computed by a function. -/
  | property
  /-- A method of the class itself. -/
  | ofClass
  /-- A function that is bound to nothing. -/
  | free
  | constant
  deriving DecidableEq, Inhabited

/-- A class and its members. -/
structure ClassInfo where
  name : String
  /-- The place where the class is found. -/
  home : String := "builtins"
  /-- The classes that it belongs to, nearest first. -/
  ancestors : List String
  metaclass : String := "type"
  operators : List String := []
  builtIns : List String := []
  written : List String := []
  computed : List String := []
  slots : List String := []
  properties : List String := []
  ofClass : List String := []
  free : List String := []
  constants : List String := []
  deriving Inhabited

namespace ClassInfo

/-- The members of a class, kind by kind. -/
def members (c : ClassInfo) : List (MemberKind × List String) :=
  [(.operator, c.operators), (.builtIn, c.builtIns), (.written, c.written),
    (.computed, c.computed), (.slot, c.slots), (.property, c.properties), (.ofClass, c.ofClass),
    (.free, c.free), (.constant, c.constants)]

/-- The kind of the member of a name, if the class has one. -/
def kind? (c : ClassInfo) (name : String) : Option MemberKind :=
  (c.members.find? fun m => m.2.contains name).map (·.1)

/-- The names of the members of a class. -/
def names (c : ClassInfo) : List String := c.members.flatMap (·.2)

end ClassInfo

end Provision.Script
