import Provision.Driver

/-!
Service programs: programs that name the services they use.

The declared services are looked up in order before the factory is called, so that a missing one
is found before anything runs (`launch`). Arguments given in several steps add up: positional ones
in the order of the steps, and of named ones the last of a name wins (`Arguments.extend_extend`).
The services of a service program stay the same when arguments are added
(`ServiceProgram.withArgs`).

A service program refers to what it is made of by `Parts`. `Workshop` is the place where that is kept,
and where it is converted: services may be given by a mapping or by their tokens alone
(`Workshop.servicesByName`), and further arguments make new parts, of which a new service program is
made (`Workshop.withArgs`).
-/

namespace Provision

/-- Arguments for a factory. -/
structure Arguments (V κ : Type) where
  positional : List V
  named : Bindings κ V

namespace Arguments

variable {V κ : Type} [BEq κ]

/-- The arguments followed by further ones. -/
def extend (a : Arguments V κ) (positional : List V) (named : List (κ × V)) : Arguments V κ :=
  ⟨a.positional ++ positional, a.named.update named⟩

/-- Two extensions are one, by the arguments of both. -/
theorem extend_extend (a : Arguments V κ) (p q : List V) (n o : List (κ × V)) :
    (a.extend p n).extend q o = a.extend (p ++ q) (n ++ o) := by
  simp [extend, Bindings.update_append]

end Arguments

/-! ### Declarations -/

/-- A service program as it is declared. -/
structure ServiceProgram (V κ : Type) where
  /-- The services by their attribute names. -/
  services : Bindings κ V
  factory : V
  /-- The further arguments of the factory. -/
  arguments : Arguments V κ

namespace ServiceProgram

variable {V κ : Type}

/-- The declared tokens in order of declaration. -/
def tokens (s : ServiceProgram V κ) : List V := s.services.values

variable [BEq κ]

/-- Services that are given by their tokens alone have the names of these. -/
def ofTokens (nameOf : V → κ) (tokens : List V) (factory : V) : ServiceProgram V κ :=
  ⟨.ofPairs (tokens.map fun t => (nameOf t, t)), factory, ⟨[], .empty⟩⟩

/-- The same program with further arguments after those that it has. -/
def withArgs (s : ServiceProgram V κ) (positional : List V) (named : List (κ × V)) :
    ServiceProgram V κ :=
  { s with arguments := s.arguments.extend positional named }

@[simp]
theorem withArgs_tokens (s : ServiceProgram V κ) (positional : List V) (named : List (κ × V)) :
    (s.withArgs positional named).tokens = s.tokens := rfl

@[simp]
theorem withArgs_factory (s : ServiceProgram V κ) (positional : List V) (named : List (κ × V)) :
    (s.withArgs positional named).factory = s.factory := rfl

end ServiceProgram

/-! ### Places -/

/-- What a service program is made of, by the places where it is kept. -/
structure Parts (R V : Type) where
  services : R
  factory : V
  arguments : R
  keywords : R

/-- A place where mappings and sequences are kept and referred to by `R`. Dictionaries have keys of
type `κ`, and whoever passes one on by keywords or attributes needs names of type `ν`. -/
structure Workshop (m : Type → Type) (R V κ ν : Type) where
  isMapping (r : R) : m Bool
  /-- The entries of a mapping. -/
  entries (mapping : R) : m (List (κ × V))
  /-- The tokens of a sequence by the names that they tell. -/
  named (tokens : R) : m (List (κ × V))
  items (sequence : R) : m (List V)
  /-- The entries of a mapping whose keys are names. -/
  keywords (mapping : R) : m (List (ν × V))
  /-- What is kept there, if it is a dictionary and no other mapping. -/
  dictionary? (r : R) : m (Option (Bindings κ V))
  /-- What is kept there, if it is a tuple. -/
  tuple? (r : R) : m (Option (List V))
  addDictionary (b : Bindings κ V) : m R
  /-- Puts a new dictionary there, in which some pairs are bound in turn. -/
  addPairs (pairs : List (κ × V)) : m R
  addTuple (items : List V) : m R

namespace Workshop

variable {m : Type → Type} [Monad m] {R V κ ν : Type} (w : Workshop m R V κ ν)

/-- A new dictionary of the services, which are given by a mapping or by their tokens alone. -/
def servicesByName (services : R) : m R := do
  if ← w.isMapping services then w.addDictionary ⟨← w.entries services⟩
  else w.addPairs (← w.named services)

/-- A new tuple of the arguments, none if they are not given. -/
def argumentsOf : Option R → m R
  | none => w.addTuple []
  | some arguments => do w.addTuple (← w.items arguments)

/-- The keyword arguments, which are used as they are given. -/
def keywordsOf : Option R → m R
  | none => w.addDictionary .empty
  | some keywords => return keywords

/-- The parts of a new service program. -/
def declare (services : R) (factory : V) (arguments keywords : Option R) : m (Parts R V) := do
  return ⟨← w.servicesByName services, factory, ← w.argumentsOf arguments,
    ← w.keywordsOf keywords⟩

/-- The service program that is made of some parts, if these are what it takes. -/
def contents? (p : Parts R V) : m (Option (ServiceProgram V κ)) := do
  match ← w.dictionary? p.services, ← w.tuple? p.arguments, ← w.dictionary? p.keywords with
  | some services, some positional, some named =>
    return some ⟨services, p.factory, ⟨positional, named⟩⟩
  | _, _, _ => return none

/-- Makes a new service program with further arguments. Parts that do not make up a service program
are extended in some other way. -/
def withArgs {α : Type} [BEq κ] (p : Parts R V) (positional : List V) (named : List (κ × V))
    (otherwise : m (R × R)) (make : Parts R V → m α) : m α := do
  let (arguments, keywords) ← match ← w.contents? p with
    | some service =>
      let more := (service.withArgs positional named).arguments
      pure (← w.addTuple more.positional, ← w.addDictionary more.named)
    | none => otherwise
  make { p with arguments, keywords }

/-- The declared tokens, told by the services if these are in a dictionary. -/
def tokensOf (services : R) (otherwise : m (List V)) : m (List V) := do
  match ← w.dictionary? services with
  | some services => return services.values
  | none => otherwise

/-- What a factory is called with: the services, which are to be attributes, the positional and the
keyword arguments. -/
def handed (services arguments keywords : R) : m (List (ν × V) × List V × List (ν × V)) := do
  return (← w.keywords services, ← w.items arguments, ← w.keywords keywords)

/-- Calls a factory with an object that has the services as attributes, and with the further
arguments. -/
def build {α : Type} (newHolder : List (ν × V) → m V) (call : V → List V → List (ν × V) → m α)
    (factory : V) (services arguments keywords : R) : m α := do
  let (attributes, positional, named) ← w.handed services arguments keywords
  let holder ← newHolder attributes
  call factory (holder :: positional) named

end Workshop

/-! ### Starting -/

/-- What a service program is made of, as values of the host. -/
structure Blueprint (V : Type) where
  /-- The declared tokens in order of declaration. -/
  required : List V
  factory : V
  services : V
  arguments : V
  keywords : V

/-- How services and arguments become values of the host. -/
structure Packing (V κ : Type) where
  services : Bindings κ V → V
  positional : List V → V
  named : Bindings κ V → V

/-- The values that a service program is made of. -/
def ServiceProgram.blueprint {V κ : Type} (s : ServiceProgram V κ) (pack : Packing V κ) :
    Blueprint V where
  required := s.tokens
  factory := s.factory
  services := pack.services s.services
  arguments := pack.positional s.arguments.positional
  keywords := pack.named s.arguments.named

/-- The blueprint that refers to the parts of a service program. -/
def Parts.blueprint {R V : Type} (refer : R → V) (p : Parts R V) (tokens : List V) :
    Blueprint V where
  required := tokens
  factory := p.factory
  services := refer p.services
  arguments := refer p.arguments
  keywords := refer p.keywords

variable {V E : Type} [ValueLike V] [ErrorLike E]

/-- Checks that every declared service is there, and then has the program built. -/
def Blueprint.build (b : Blueprint V) : Talk V E (Except E V) :=
  (require b.required).bind fun
    | .error e => .done (.error e)
    | .ok _ => .ask (.build b.factory b.services b.arguments b.keywords) .done

/-- The run of a service program: its check, and then the run of the program that was built. -/
def Run.launch (m : Manner) (b : Blueprint V) : Run V E :=
  .active [] <| b.build.bind fun
    | .error e => .done (.leave (m.out (.error e)))
    | .ok program => takeUp m program

end Provision
