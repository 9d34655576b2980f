import Provision.Script.Class.Error
import Provision.Script.Class.Program
import Provision.Script.Class.Record
import Provision.Script.Class.Value

/-!
The classes that are there from the start, all of them, and where their members come from.

A class is known by its name. `lineage` lists a class and the classes it belongs to, and
`definingClass?` finds the first of them that has a member.
-/

namespace Provision.Script

/-- The classes that are there from the start. -/
def knownClasses : List ClassInfo := valueClasses ++ programClasses ++ recordClasses ++ errorClasses

/-- The class of a name. -/
def classInfo? (name : String) : Option ClassInfo := knownClasses.find? (·.name = name)

/-- A class and those that it belongs to, nearest first. -/
def lineage (name : String) : List String :=
  name :: match classInfo? name with
    | some c => c.ancestors
    | none => []

/-- Whether a class is, or belongs to, another one. -/
def isSubclass (name ancestor : String) : Bool := (lineage name).contains ancestor

/-- The class that an object of a class has a member from, and the kind of the member. -/
def definingClass? (name key : String) : Option (String × MemberKind) :=
  (lineage name).findSome? fun c =>
    (classInfo? c).bind fun info => (info.kind? key).map fun kind => (c, kind)

/-- The name of a class with the place where it is found, unless that is the general one. -/
def placedName (name : String) : String :=
  match classInfo? name with
  | some c => if c.home = "builtins" then name else c.home ++ "." ++ name
  | none => name

/-- The names of the members that objects of a class have because of it. -/
def memberNames (name : String) : List String :=
  (lineage name).flatMap fun c => ((classInfo? c).map ClassInfo.names).getD []

end Provision.Script
