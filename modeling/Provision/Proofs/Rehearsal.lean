import Provision.Plan
import Provision.Proofs.Delivery
import Provision.Proofs.ErrorIdentity
import Provision.Proofs.Quotation

/-!
Rehearsals: programs that are run against a plan.

The names that a program asks for are looked up in a plan, which is used up from its front, and in a
fallback where the plan misses; a name that neither has ends the run with an error that tells what
was asked for. `Served` says which implementations requests are to be given, `Wording.report` and
`remainder` what the errors are to say, and `Wording.Concludes` which outcomes there are to be.

* `rehearsal_agrees_with_composition`: a lookup in a rehearsal does what one in the plan composed
  with the fallback does, except for a fallback that fails with a missing key from inside
  (`rehearsal_hides_inner_failure`);
* `Supplied.answers` and `Host.Answers.accompanied`: whoever is given the implementations by the plan
  and the fallback is given those that were to be given;
* `Wording.complaint_eq` and `Phrasing.leftover_eq`: what the errors say;
* `rehearsal_accepts_planned_runs`: a rehearsal comes to exactly the outcomes there are to be.
-/

namespace Provision

variable {V E ν ι σ τ : Type}

/-! ### Lookups -/

/-- Looks a name up in the plan that is part of a state. The plan says with a missing key that its
next item is not for this name. -/
def fromPlan (asked : ι → Bool) (gives : ι → V) (said : E) : StateM (List ι × τ) (Except E V) :=
  fun s =>
    match take? asked s.1 with
    | some (item, rest) => (.ok (gives item), rest, s.2)
    | none => (.error said, s)

section

variable {missingKey saysAbsent : E → Bool} {said : E} (name : ν) (journal : Journal ν)
  {asked : ι → Bool} (gives : ι → V) (fallback : StateM (List ι × τ) (Except E V)) {s : List ι × τ}

/-- What the plan has is handed out, and the fallback is not asked. -/
lemma rehearse_taken {item : ι} {rest : List ι} (ht : take? asked s.1 = some (item, rest)) :
    rehearse (fun e => pure (missingKey e)) name journal (fromPlan asked gives said) fallback s =
      ((.given (gives item), journal ++ [(.sequence, name)]), rest, s.2) := by
  simp [rehearse, fromPlan, ht, bind, StateT.bind, pure_apply]

/-- What the plan misses is up to the fallback, all of whose missing keys count. -/
lemma rehearse_missed (hsaid : missingKey said = true) (ht : take? asked s.1 = none) :
    rehearse (fun e => pure (missingKey e)) name journal (fromPlan asked gives said) fallback s =
      (match (fallback s).1 with
        | .ok v => (.given v, journal ++ [(.fallback, name)])
        | .error e =>
          if missingKey e then (.unknown e, journal ++ [(.notFound, name)])
          else (.failed e, journal),
        (fallback s).2) := by
  obtain ⟨result, s', hf⟩ : ∃ result s', fallback s = (result, s') := ⟨_, _, rfl⟩
  rw [hf]
  cases result with
  | ok v => simp [rehearse, fromPlan, ht, hf, hsaid, bind, StateT.bind, pure_apply]
  | error e =>
    cases h : missingKey e <;>
      simp [rehearse, fromPlan, ht, hf, hsaid, h, bind, StateT.bind, pure_apply]

/-- A plan composed with a fallback hands out what the plan has. -/
lemma search_taken {item : ι} {rest : List ι} (ht : take? asked s.1 = some (item, rest)) :
    search [Finding.ofResult saysAbsent <$> fallback,
        Finding.ofResult saysAbsent <$> fromPlan asked gives said] s =
      (some (.ok (gives item)), rest, s.2) := by
  simp [search, firstPresent, fromPlan, ht, Finding.ofResult, bind, StateT.bind, pure_apply,
    map_apply]

/-- A plan composed with a fallback asks the fallback for what the plan misses; there is none only
if the fallback says that it is absent. -/
lemma search_missed (hsaid : saysAbsent said = true) (ht : take? asked s.1 = none) :
    search [Finding.ofResult saysAbsent <$> fallback,
        Finding.ofResult saysAbsent <$> fromPlan asked gives said] s =
      (match (fallback s).1 with
        | .ok v => some (.ok v)
        | .error e => if saysAbsent e then none else some (.error e),
        (fallback s).2) := by
  obtain ⟨result, s', hf⟩ : ∃ result s', fallback s = (result, s') := ⟨_, _, rfl⟩
  rw [hf]
  cases result with
  | ok v =>
    simp [search, firstPresent, fromPlan, ht, hf, hsaid, Finding.ofResult, bind, StateT.bind,
      pure_apply, map_apply]
  | error e =>
    cases h : saysAbsent e <;>
      simp [search, firstPresent, fromPlan, ht, hf, hsaid, h, Finding.ofResult, bind, StateT.bind,
        pure_apply, map_apply]

end

/-! ### Rehearsals and compositions -/

/-- A lookup in a rehearsal comes to the same as one in a composition; a service is unknown where
the composition has none. -/
def Cast.Agrees : Cast V E → Option (Except E V) → Prop
  | .given v, r => r = some (.ok v)
  | .failed e, r => r = some (.error e)
  | .unknown _, r => r = none

/-- The plan misses, and the fallback fails with a missing key that does not say that it is without
the name. -/
def FailsInside (missingKey saysAbsent : E → Bool) (asked : ι → Bool)
    (fallback : StateM (List ι × τ) (Except E V)) (s : List ι × τ) (e : E) : Prop :=
  take? asked s.1 = none ∧ (fallback s).1 = .error e ∧ missingKey e = true ∧ saysAbsent e = false

/-- **A rehearsal treats its fallback as a composition does, unless that fails with a missing key
from inside.** The plan is composed with any fallback, which may have a state of its own.

* A lookup leaves the same behind in both, what is left of the plan included.
* It comes to the same, an implementation or an error of the fallback itself, and a service is
  unknown to the rehearsal where the composition has none, exactly if the fallback does not fail from
  inside.
* If it does, the composition fails with that error, but to the rehearsal the service is unknown.
* The composition has none exactly if the plan misses and the fallback says that it is absent. -/
theorem rehearsal_agrees_with_composition {missingKey saysAbsent : E → Bool}
    (hkey : ∀ e, saysAbsent e = true → missingKey e = true) {said : E}
    (hsaid : saysAbsent said = true) (name : ν) (journal : Journal ν) (asked : ι → Bool)
    (gives : ι → V) (fallback : StateM (List ι × τ) (Except E V)) (s : List ι × τ) :
    let rehearsed := rehearse (fun e => pure (missingKey e)) name journal
      (fromPlan asked gives said) fallback s
    let composed := search [Finding.ofResult saysAbsent <$> fallback,
      Finding.ofResult saysAbsent <$> fromPlan asked gives said] s
    composed.2 = rehearsed.2 ∧
    (rehearsed.1.1.Agrees composed.1 ↔
      ∀ e, ¬ FailsInside missingKey saysAbsent asked fallback s e) ∧
    (∀ e, FailsInside missingKey saysAbsent asked fallback s e →
      rehearsed.1.1 = .unknown e ∧ composed.1 = some (.error e)) ∧
    (composed.1 = none ↔
      take? asked s.1 = none ∧ ∃ e, (fallback s).1 = .error e ∧ saysAbsent e = true) := by
  intro rehearsed composed
  cases ht : take? asked s.1 with
  | some taken =>
    obtain ⟨item, rest⟩ := taken
    have hr : rehearsed = _ := rehearse_taken name journal gives fallback ht
    have hc : composed = _ := search_taken gives fallback ht
    rw [hr, hc]
    simp [Cast.Agrees, FailsInside, ht]
  | none =>
    have hr : rehearsed = _ := rehearse_missed name journal gives fallback (hkey _ hsaid) ht
    have hc : composed = _ := search_missed gives fallback hsaid ht
    rw [hr, hc]
    cases hf : (fallback s).1 with
    | ok v => simp [Cast.Agrees, FailsInside, hf]
    | error e =>
      cases hm : missingKey e with
      | false =>
        have ha : saysAbsent e = false := by
          cases ha : saysAbsent e with
          | false => rfl
          | true => rw [hkey e ha] at hm; cases hm
        simp [Cast.Agrees, FailsInside, ht, hf, hm, ha]
      | true => cases ha : saysAbsent e <;> simp [Cast.Agrees, FailsInside, ht, hf, hm, ha]

section

variable (fallback : StateM (List String × Unit) (Except String ℕ))

/-- A rehearsal in which a cache is asked for. The plan gives the lengths of its items, and missing
keys are names. -/
def cacheRehearsed : StateM (List String × Unit) (Cast ℕ String × Journal String) :=
  rehearse (fun _ => pure true) "Cache" [] (fromPlan (· == "Cache") String.length "Cache") fallback

/-- The same with the plan composed with the fallback. -/
def cacheComposed : StateM (List String × Unit) (Option (Except String ℕ)) :=
  search [Finding.ofResult (· == "Cache") <$> fallback,
    Finding.ofResult (· == "Cache") <$> fromPlan (· == "Cache") String.length "Cache"]

end

/-- The case of a plan that expects something else, and a fallback that has the service. -/
theorem fallback_gives_cache :
    (cacheRehearsed (pure (.ok 7)) (["Logger"], ())).1.1.Agrees
      (cacheComposed (pure (.ok 7)) (["Logger"], ())).1 ∧
    cacheComposed (pure (.ok 7)) (["Logger"], ()) = (some (.ok 7), ["Logger"], ()) := by
  have hkey : ∀ e : String, (e == "Cache") = true → true = true := fun _ _ => rfl
  obtain ⟨-, hagrees, -, -⟩ := rehearsal_agrees_with_composition hkey
    (rfl : ("Cache" == "Cache") = true) "Cache" [] (· == "Cache") String.length (pure (.ok 7))
    (["Logger"], ())
  refine ⟨hagrees.2 ?_, rfl⟩
  rintro e ⟨-, hf, -⟩
  cases hf

/-- A fallback that fails with a missing key from inside: its error comes out of the composition,
but to the rehearsal the service is unknown. -/
theorem rehearsal_hides_inner_failure :
    (cacheRehearsed (pure (.error "settings")) ([], ())).1.1 = .unknown "settings" ∧
    (cacheComposed (pure (.error "settings")) ([], ())).1 = some (.error "settings") ∧
    ¬ (cacheRehearsed (pure (.error "settings")) ([], ())).1.1.Agrees
      (cacheComposed (pure (.error "settings")) ([], ())).1 := by
  have hcomposed : (cacheComposed (pure (.error "settings")) ([], ())).1 =
      some (.error "settings") := rfl
  refine ⟨rfl, hcomposed, fun h => ?_⟩
  have hnone : (cacheComposed (pure (.error "settings")) ([], ())).1 = none := h
  rw [hcomposed] at hnone
  cases hnone

/-! ### Rehearsing a run -/

/-- How names are written, and the errors that say that something is not as it was planned. -/
structure Phrasing (V E : Type) where
  /-- The name that is a text. -/
  nameOf : String → V
  /-- What is written of a name. -/
  text : V → String
  /-- A name that is a text is written as this text. -/
  text_nameOf (s : String) : text (nameOf s) = s
  /-- The error that says something. -/
  assertion : String → E
  assertion_injective : Function.Injective assertion

/-- What is to be said when some names are left. -/
def remainder (names : List String) : String :=
  "Not all services were requested: " ++ ("[" ++ ", ".intercalate (names.map Text.quoted) ++ "]")

lemma remainder_eq (names : List String) :
    remainder names = leftoverText (Text.bracketed (names.map Text.quoted)) := rfl

/-- What is said tells which names are left. -/
lemma remainder_injective : Function.Injective remainder := fun _ _ h =>
  Text.bracketed_quoted_injective ((String.append_right_inj _).1 h)

namespace Phrasing

variable (w : Phrasing V E)

/-- The error of a plan that was not used up, by the names that are left. -/
def leftover (names : List V) : E :=
  w.assertion (leftoverText (Text.bracketed (names.map fun name => Text.quoted (w.text name))))

lemma leftover_eq (names : List V) :
    w.leftover names = w.assertion (remainder (names.map w.text)) := by
  rw [leftover, remainder_eq, List.map_map, Function.comp_def]

/-- The error tells which names are left. -/
lemma leftover_injective :
    Function.Injective fun names : List String => w.leftover (names.map w.nameOf) := by
  intro names names' h
  have htext (names : List String) : (names.map w.nameOf).map w.text = names := by
    simp [Function.comp_def, w.text_nameOf]
  simp only [leftover_eq, htext] at h
  exact remainder_injective (w.assertion_injective h)

end Phrasing

/-- The plan of a rehearsal, as labels and implementations, and the journal that is kept. -/
abbrev Scene (V : Type) := List (V × V) × Journal V

/-- The names, texts and errors of rehearsals. -/
structure Wording (V E : Type) [ErrorLike E] extends Phrasing V E where
  /-- The name that the label of an item stands for. -/
  named : V → V
  /-- The error that there is no such name. -/
  missing : V → E
  missingKey : E → Bool
  saysAbsent : V → E → Bool
  missingKey_missing (name : V) : missingKey (missing name) = true
  missingKey_of_saysAbsent {name : V} {e : E} : saysAbsent name e = true → missingKey e = true
  missingKey_assertion (s : String) : missingKey (assertion s) = false
  nature_assertion (s : String) : ErrorLike.nature (assertion s) = .ordinary

section

variable [ErrorLike E] [DecidableEq V]

namespace Wording

variable (w : Wording V E)

/-- Whether an item of a plan is for a name. -/
def expects (name : V) (item : V × V) : Bool := w.named item.1 = name

/-- The error of a name that is unknown, once the request is in the journal. -/
def complaint (name : V) (scene : Scene V) : E :=
  w.assertion <| unknownText (w.text name) (scene.2.map fun entry => (entry.1, w.text entry.2))
    (scene.1.head?.map fun item => w.text (w.named item.1))

omit [DecidableEq V] in
/-- Nobody takes the complaint for a missing key. -/
lemma saysAbsent_complaint (name name' : V) (scene : Scene V) :
    w.saysAbsent name (w.complaint name' scene) = false := by
  cases ha : w.saysAbsent name (w.complaint name' scene) with
  | false => rfl
  | true => rw [← w.missingKey_of_saysAbsent ha, complaint, w.missingKey_assertion]

omit [DecidableEq V] in
/-- The complaint crosses every boundary. -/
lemma nature_complaint (name : V) (scene : Scene V) :
    ErrorLike.nature (w.complaint name scene) ≠ .ended := by
  rw [complaint, w.nature_assertion]
  nofun

/-- Looks a name up in a rehearsal. -/
def lookup (fallback : Bindings V V) (name : V) : StateM (Scene V) (Except E V) := do
  lookupRehearsed (fun e => pure (w.missingKey e)) (fun journal => modify fun s => (s.1, journal))
    (fun journal _ => return w.complaint name ((← get).1, journal)) name (← get).2
    (fromPlan (w.expects name) (·.2) (w.missing name))
    (pure ((fallback.get? name).elim (.error (w.missing name)) .ok))

/-- Checks that the plan was used up. -/
def unused : StateM (Scene V) (Option E) := fun scene =>
  (if scene.1.isEmpty then none
    else some (w.leftover (scene.1.map fun item => w.named item.1)), scene)

omit [DecidableEq V] in
/-- A program that has come to a value fails with the names that are left. -/
lemma conclude_unused {left : List (V × V)} (hleft : left ≠ []) (v : V) (journal : Journal V) :
    (conclude w.unused (.ok v) (left, journal)).1 =
      .error (w.assertion (remainder (left.map fun item => w.text (w.named item.1)))) := by
  have h : w.unused (left, journal) =
      (some (w.leftover (left.map fun item => w.named item.1)), left, journal) := by
    simp [unused, hleft]
  simp only [conclude, bind, StateT.bind, h, w.leftover_eq, List.map_map, Function.comp_def]
  rfl

end Wording

/-- A host whose lookups are those of a rehearsal. -/
def Host.rehearsing (host : Host V E σ) (w : Wording V E) (fallback : Bindings V V) :
    Host V E (σ × Scene V)
  | .find name, s =>
    let x := w.lookup fallback name s.2
    (Finding.ofResult (w.saysAbsent name) x.1, s.1, x.2)
  | q, s =>
    let x := host q s.1
    (x.1, x.2, s.2)

/-- Runs a program against a plan and a fallback, in at most so many steps. -/
def Run.rehearsed [ValueLike V] (m : Manner) (host : Host V E σ) (w : Wording V E)
    (plan : List (V × V)) (program : V) (fallback : Bindings V V) (fuel : ℕ) (s : σ) :
    Option (Except E V) × σ :=
  let x := (Run.start m program).conduct m (host.rehearsing w fallback) fuel (s, plan, [])
  (x.1.map fun r => (conclude w.unused r x.2.2).1, x.2.1)

/-! ### What requests are to be given -/

/-- A request that was served: where from, for which name, and the implementation. -/
structure Supply (V : Type) where
  origin : Origin
  name : V
  given : V

/-- The entry of a journal that is made of a request that was served. -/
def Supply.entry (x : Supply V) : Origin × V := (x.origin, x.name)

/-- What the driver is told. -/
def Supply.finding (x : Supply V) : V × Finding V E := (x.name, .found x.given)

/-- The plan has no next item, or it is not for this name. -/
def Wording.Misses (w : Wording V E) (plan : List (V × V)) (name : V) : Prop :=
  ∀ item ∈ plan.head?, w.named item.1 ≠ name

/-- Requests are served greedily, by the next item of the plan if it is for the name, and otherwise
by the fallback. -/
inductive Served (w : Wording V E) (fallback : Bindings V V) :
    List (V × V) → List (Supply V) → List (V × V) → Prop
  | nil (plan : List (V × V)) : Served w fallback plan [] plan
  | sequence {label v : V} {plan left : List (V × V)} {supplies : List (Supply V)} :
    Served w fallback plan supplies left →
    Served w fallback ((label, v) :: plan) (⟨.sequence, w.named label, v⟩ :: supplies) left
  | fallback {name v : V} {plan left : List (V × V)} {supplies : List (Supply V)} :
    w.Misses plan name → fallback.get? name = some v → Served w fallback plan supplies left →
    Served w fallback plan (⟨.fallback, name, v⟩ :: supplies) left

/-! ### What is to be said -/

/-- The line for a request that was served. -/
def Wording.line (w : Wording V E) (x : Supply V) : String :=
  match x.origin with
  | .sequence => "sequence: " ++ w.text x.name
  | .fallback => "fallback: " ++ w.text x.name
  | .notFound => "NOT FOUND: " ++ w.text x.name

/-- The line for what is next in the plan, if anything is. -/
def Wording.nextLine (w : Wording V E) (left : List (V × V)) : String :=
  left.head?.elim "" fun item => "\nNEXT EXPECTED: " ++ w.text (w.named item.1)

/-- What is to be said of a name that is unknown. There is one line for every request, in order, and
the last one is for this name. -/
def Wording.report (w : Wording V E) (supplies : List (Supply V)) (name : V)
    (left : List (V × V)) : String :=
  "Service not found: " ++ w.text name ++ "! Log follows:\n\x7b\x7b\x7b\n" ++
    "\n".intercalate (supplies.map w.line ++ ["NOT FOUND: " ++ w.text name]) ++ w.nextLine left ++
    "\n\x7d\x7d\x7d"

omit [DecidableEq V] in
/-- The complaint says what is to be said. -/
lemma Wording.complaint_eq (w : Wording V E) (supplies : List (Supply V)) (name : V)
    (left : List (V × V)) :
    w.complaint name (left, supplies.map Supply.entry ++ [(.notFound, name)]) =
      w.assertion (w.report supplies name left) := by
  have hline (x : Supply V) : x.origin.word ++ ": " ++ w.text x.name = w.line x := by
    obtain ⟨origin, name, v⟩ := x
    cases origin <;> rfl
  have hlines : ((supplies.map Supply.entry ++ [(Origin.notFound, name)]).map fun entry =>
      (entry.1, w.text entry.2)).map (fun entry => entry.1.word ++ ": " ++ entry.2) =
        supplies.map w.line ++ ["NOT FOUND: " ++ w.text name] := by
    rw [List.map_append, List.map_append, List.map_map, List.map_map]
    exact congrArg (· ++ _) (List.map_congr_left fun x _ => hline x)
  have hnext : ((left.head?.map fun item => w.text (w.named item.1)).map
      ("\nNEXT EXPECTED: " ++ ·)).getD "" = w.nextLine left := by
    cases left <;> rfl
  unfold Wording.complaint unknownText Wording.report
  rw [hlines, hnext]

end

/-- The names that are looked up in a history, and what they come to. -/
def History.findings (h : History V E) : List (V × Finding V E) :=
  h.filterMap fun
    | ⟨.find name, finding⟩ => some (name, finding)
    | _ => none

/-- The exchanges of a history that are no lookups. -/
def History.others (h : History V E) : History V E :=
  h.filter fun x => match x.request with
    | .find _ => false
    | _ => true

section

variable [ErrorLike E] [DecidableEq V] (w : Wording V E) (fallback : Bindings V V)
  {host : Host V E σ} {s s' : σ} {plan left : List (V × V)} {journal : Journal V}

/-- A history in which everything is answered by the host, except that requests for names are given
what they are to be given. -/
structure Supplied (host : Host V E σ) (s : σ) (plan : List (V × V)) (h : History V E)
    (supplies : List (Supply V)) (left : List (V × V)) (s' : σ) : Prop where
  findings : h.findings = supplies.map Supply.finding
  served : Served w fallback plan supplies left
  others : host.Answers s h.others s'

variable {w fallback}

/-! ### What requests are given -/

/-- A lookup is a step of the rehearsal, of which the journal is kept before an error is made. -/
lemma Wording.lookup_apply (name : V) (scene : Scene V) {cast : Cast V E} {journal' : Journal V}
    {scene' : Scene V}
    (hr : rehearse (fun e => pure (w.missingKey e)) name scene.2
      (fromPlan (w.expects name) (·.2) (w.missing name))
      (pure ((fallback.get? name).elim (.error (w.missing name)) .ok)) scene =
        ((cast, journal'), scene')) :
    w.lookup fallback name scene =
      Cast.result (m := StateM (Scene V))
        (fun _ => return w.complaint name ((← get).1, journal')) cast (scene'.1, journal') := by
  simp only [Wording.lookup, lookupRehearsed, bind, StateT.bind, get, getThe, MonadStateOf.get,
    StateT.get, pure, modify, modifyGet, MonadStateOf.modifyGet, StateT.modifyGet] at hr ⊢
  rw [hr]

/-- The next item of the plan is handed out if it is for the name. -/
lemma Wording.lookup_sequence (label v : V) :
    w.lookup fallback (w.named label) ((label, v) :: plan, journal) =
      (.ok v, plan, journal ++ [(.sequence, w.named label)]) := by
  have ht : take? (w.expects (w.named label)) ((label, v) :: plan) = some ((label, v), plan) :=
    take?_eq_some_iff.2 ⟨rfl, by simp [Wording.expects]⟩
  exact w.lookup_apply _ (_, _) (rehearse_taken _ _ _ _ (s := (_, _)) ht)

/-- What the plan misses is served by the fallback, or it is unknown. -/
lemma Wording.lookup_missed {name : V} (hn : w.Misses plan name) :
    w.lookup fallback name (plan, journal) =
      match fallback.get? name with
      | some v => (.ok v, plan, journal ++ [(.fallback, name)])
      | none => (.error (w.complaint name (plan, journal ++ [(.notFound, name)])), plan,
          journal ++ [(.notFound, name)]) := by
  have ht : take? (w.expects name) plan = none := by
    cases plan with
    | nil => rfl
    | cons item rest =>
      have hne : w.named item.1 ≠ name := hn item rfl
      simp [take?, Wording.expects, hne]
  have hr := rehearse_missed name journal (·.2)
    (pure ((fallback.get? name).elim (.error (w.missing name)) .ok))
    (s := (plan, journal)) (w.missingKey_missing name) ht
  rw [w.lookup_apply _ _ hr]
  cases hv : fallback.get? name with
  | some v => rfl
  | none =>
    simp only [pure_apply, Option.elim_none, w.missingKey_missing, if_true]
    rfl

/-! ### Histories of rehearsals -/

section

omit [ErrorLike E] [DecidableEq V]

variable {q : Request V E} (hq : ∀ name, q ≠ .find name) (a : q.Answer) (h : History V E)

include hq

lemma History.findings_other : History.findings (⟨q, a⟩ :: h) = h.findings := by
  cases q with
  | find name => exact absurd rfl (hq name)
  | _ => rfl

lemma History.others_other : History.others (⟨q, a⟩ :: h) = ⟨q, a⟩ :: h.others := by
  cases q with
  | find name => exact absurd rfl (hq name)
  | _ => rfl

end

section

variable (w fallback host)

/-- Requests that are no lookups are answered by the host itself. -/
lemma Host.rehearsing_other {q : Request V E} (hq : ∀ name, q ≠ .find name) (scene : Scene V) :
    host.rehearsing w fallback q (s, scene) = ((host q s).1, (host q s).2, scene) := by
  cases q with
  | find name => exact absurd rfl (hq name)
  | _ => rfl

end

lemma Host.rehearsing_given {name v : V} {scene scene' : Scene V}
    (hv : w.lookup fallback name scene = (.ok v, scene')) :
    host.rehearsing w fallback (.find name) (s, scene) = (.found v, s, scene') := by
  rw [Host.rehearsing, hv]
  rfl

lemma Host.rehearsing_unknown {name : V} (hn : w.Misses plan name)
    (hv : fallback.get? name = none) :
    host.rehearsing w fallback (.find name) (s, plan, journal) =
      (.failed (w.complaint name (plan, journal ++ [(.notFound, name)])), s, plan,
        journal ++ [(.notFound, name)]) := by
  rw [Host.rehearsing, Wording.lookup_missed hn, hv]
  simp [Finding.ofResult, w.saysAbsent_complaint]

/-- Whoever is given what they are to be given is answered by the rehearsal. -/
lemma Supplied.answers {h : History V E} {supplies : List (Supply V)}
    (hs : Supplied w fallback host s plan h supplies left s') (journal : Journal V) :
    (host.rehearsing w fallback).Answers (s, plan, journal) h
      (s', left, journal ++ supplies.map Supply.entry) := by
  induction h generalizing s plan supplies journal with
  | nil =>
    obtain ⟨hf, hserved, ho⟩ := hs
    obtain rfl := List.map_eq_nil_iff.1 hf.symm
    cases hserved
    obtain rfl : s' = s := ho
    simp [Host.Answers]
  | cons x h ih =>
    obtain ⟨q, a⟩ := x
    obtain ⟨hf, hserved, ho⟩ := hs
    by_cases hq : ∃ name, q = .find name
    · obtain ⟨name, rfl⟩ := hq
      cases supplies with
      | nil => cases hf
      | cons supply supplies =>
        obtain ⟨hhead, htail⟩ := List.cons.inj hf
        have hrest : ∀ {plan}, Served w fallback plan supplies left →
            (host.rehearsing w fallback).Answers (s, plan, journal ++ [supply.entry]) h
              (s', left, journal ++ (supply :: supplies).map Supply.entry) := by
          intro plan hserved
          have := ih ⟨htail, hserved, ho⟩ (journal ++ [supply.entry])
          rwa [List.append_assoc] at this
        refine Host.answers_cons.2 ?_
        cases hserved with
        | sequence hserved =>
          cases hhead
          rw [Host.rehearsing_given (Wording.lookup_sequence _ _)]
          exact ⟨rfl, hrest hserved⟩
        | @fallback _ v _ _ _ hn hv hserved =>
          cases hhead
          rw [Host.rehearsing_given (v := v) (by rw [Wording.lookup_missed hn, hv])]
          exact ⟨rfl, hrest hserved⟩
    · have hq : ∀ name, q ≠ .find name := fun name h => hq ⟨name, h⟩
      rw [History.findings_other hq] at hf
      rw [History.others_other hq] at ho
      refine Host.answers_cons.2 ?_
      rw [Host.rehearsing_other w fallback host hq]
      exact ⟨ho.1, ih ⟨hf, hserved, ho.2⟩ journal⟩

section

variable (w fallback host)

/-- A history with a rehearsal, from one state and scene to others: everybody is given what they are
to be given, throughout, or up to the first request for a name that is unknown. -/
inductive Accompanied (s : σ) (plan : List (V × V)) (journal : Journal V) :
    History V E → σ → Scene V → Prop
  | throughout {h : History V E} {supplies : List (Supply V)} {left : List (V × V)} {s' : σ} :
    Supplied w fallback host s plan h supplies left s' →
    Accompanied s plan journal h s' (left, journal ++ supplies.map Supply.entry)
  | upTo {before after : History V E} {name : V} {supplies : List (Supply V)} {left : List (V × V)}
      {s₁ s' : σ} {journal₁ : Journal V} {scene : Scene V} :
    Supplied w fallback host s plan before supplies left s₁ → w.Misses left name →
    fallback.get? name = none →
    journal₁ = journal ++ supplies.map Supply.entry ++ [(.notFound, name)] →
    (host.rehearsing w fallback).Answers (s₁, left, journal₁) after (s', scene) →
    Accompanied s plan journal
      (before ++ ⟨.find name, .failed (w.complaint name (left, journal₁))⟩ :: after) s' scene

end

/-- A history may begin with an exchange that is as it is to be. -/
lemma Accompanied.cons (supplied : List (Supply V)) {x : Exchange V E} {plan' : List (V × V)}
    {s₀ : σ} {h : History V E} {scene : Scene V}
    (hx : ∀ h supplies left s', Supplied w fallback host s₀ plan' h supplies left s' →
      Supplied w fallback host s plan (x :: h) (supplied ++ supplies) left s')
    (hh : Accompanied w fallback host s₀ plan' (journal ++ supplied.map Supply.entry) h s' scene) :
    Accompanied w fallback host s plan journal (x :: h) s' scene := by
  cases hh with
  | throughout hs =>
    rw [List.append_assoc, ← List.map_append]
    exact .throughout (hx _ _ _ _ hs)
  | upTo hs hn hv hj ha =>
    rw [List.append_assoc journal, ← List.map_append] at hj
    exact .upTo (hx _ _ _ _ hs) hn hv hj ha

/-- Whoever is answered by a rehearsal is accompanied by it. -/
lemma Host.Answers.accompanied {h : History V E} {scene : Scene V}
    (hs : (host.rehearsing w fallback).Answers (s, plan, journal) h (s', scene)) :
    Accompanied w fallback host s plan journal h s' scene := by
  induction h generalizing s plan journal with
  | nil =>
    cases hs
    have hnil : Supplied w fallback host s' plan [] [] plan s' := ⟨rfl, .nil plan, rfl⟩
    have hall : Accompanied w fallback host s' plan journal [] s'
        (plan, journal ++ [].map Supply.entry) := .throughout hnil
    simpa using hall
  | cons x h ih =>
    obtain ⟨q, a⟩ := x
    obtain ⟨ha, hrest⟩ := Host.answers_cons.1 hs
    clear hs
    by_cases hq : ∃ name, q = .find name
    · obtain ⟨name, rfl⟩ := hq
      -- One request is served, by the plan or by the fallback, and the rest is what it is.
      have hgiven : ∀ (supply : Supply V) plan₁, (∀ supplies left,
          Served w fallback plan₁ supplies left →
            Served w fallback plan (supply :: supplies) left) →
          w.lookup fallback name (plan, journal) =
            (.ok supply.given, plan₁, journal ++ [supply.entry]) →
          name = supply.name →
          Accompanied w fallback host s plan journal (⟨.find name, a⟩ :: h) s' scene := by
        rintro supply plan₁ hserves hlookup rfl
        rw [Host.rehearsing_given hlookup] at ha hrest
        cases ha
        refine .cons [supply] ?_ (ih hrest)
        rintro h supplies left s' ⟨hf, hserved, ho⟩
        exact ⟨congrArg (List.cons supply.finding) hf, hserves _ _ hserved, ho⟩
      by_cases hn : w.Misses plan name
      · cases hv : fallback.get? name with
        | some v =>
          refine hgiven ⟨.fallback, name, v⟩ plan (fun _ _ => .fallback hn hv) ?_ rfl
          rw [Wording.lookup_missed hn, hv]
          rfl
        | none =>
          rw [Host.rehearsing_unknown hn hv] at ha hrest
          cases ha
          show Accompanied w fallback host s plan journal ([] ++ _ :: h) s' scene
          exact .upTo ⟨rfl, .nil plan, rfl⟩ hn hv (by simp) hrest
      · obtain ⟨⟨label, v⟩, rest, rfl, rfl⟩ : ∃ item rest, plan = item :: rest ∧
            w.named item.1 = name := by
          cases plan with
          | nil => exact absurd (by simp [Wording.Misses]) hn
          | cons item rest => exact ⟨item, rest, rfl, by simpa [Wording.Misses] using hn⟩
        exact hgiven ⟨.sequence, w.named label, v⟩ rest (fun _ _ => .sequence)
          (Wording.lookup_sequence label v) rfl
    · have hq : ∀ name, q ≠ .find name := fun name h => hq ⟨name, h⟩
      rw [Host.rehearsing_other w fallback host hq] at ha hrest
      refine .cons [] ?_ (ih (by simpa using hrest))
      rintro h supplies left s' ⟨hf, hserved, ho⟩
      refine ⟨(History.findings_other hq a h).trans hf, hserved, ?_⟩
      rw [History.others_other hq]
      exact ⟨ha, ho⟩

/-- As long as nothing is looked up, only the host answers. -/
lemma Host.rehearsing_answers_iff {h : History V E} {scene scene' : Scene V}
    (hh : ∀ y ∈ h, y.request.Leaves) :
    (host.rehearsing w fallback).Answers (s, scene) h (s', scene') ↔
      host.Answers s h s' ∧ scene' = scene := by
  induction h generalizing s with
  | nil => simp [Host.Answers]
  | cons x h ih =>
    obtain ⟨q, a⟩ := x
    obtain ⟨hx, hrest⟩ := List.forall_mem_cons.1 hh
    rw [Host.answers_cons, Host.answers_cons, Host.rehearsing_other w fallback host hx.ne_find,
      ih hrest, and_assoc]

/-! ### After an unknown name -/

/-- After an error a run only leaves: nothing is looked up and no program is resumed, these programs
are closed in turn, and unless something comes out of closing, the error is that of the run. -/
structure LeavesWith [ValueLike V] (m : Manner) (host : Host V E σ) (run : Run V E)
    (programs : List V) (cause : E) (s : σ) (h : History V E) (e : E) (s' : σ) : Prop where
  goes : run.Goes m h (.over (.error e))
  answers : host.Answers s h s'
  leaves : ∀ y ∈ h, y.request.Leaves
  closes : ClosedInTurn programs h.closings
  calm : (∀ y ∈ h, y.calm = true) → e = cause

end

section

variable [ValueLike V] [ErrorLike E] {m : Manner} {r : Run V E} {p name : V}
  {before after : History V E} {waiting waiting' : List (Level V)} {e : E}

/-- In one history a run comes to one request at most. -/
lemma Run.Goes.ask_unique {q q' : Request V E} {next : q.Answer → Talk V E (Verdict V E)}
    {next' : q'.Answer → Talk V E (Verdict V E)}
    (hg : r.Goes m before (.active waiting (.ask q next)))
    (hg' : r.Goes m before (.active waiting' (.ask q' next'))) : waiting' = waiting := by
  generalize ho : Run.active waiting (.ask q next) = o at hg
  induction hg with
  | here =>
    subst ho
    cases hg'
    rfl
  | decided _ ih =>
    cases hg' with
    | decided hg' => exact ih hg' ho
  | answered a _ ih =>
    cases hg' with
    | answered _ hg' => exact ih hg' ho

variable [LawfulErrorLike E] {next : Finding V E → Talk V E (Verdict V E)}

/-- When a lookup has failed, the run unwinds. -/
lemma Run.Goes.unwinds_after_lookup
    (hat : (Run.start m p).Goes m before (.active waiting (.ask (.find name) next)))
    (he : ErrorLike.nature e ≠ .ended) :
    (Run.active waiting (next (.failed e))).Keeps (Fate.monitor m)
      (Fate.Unwinds m (before.driven.toList ++ waiting.map (·.program)))
      (Fate.Unwound (before.driven.toList ++ waiting.map (·.program)))
      (.failed before.driven.toList [] (some e)) := by
  let x : Exchange V E := ⟨.find name, .failed e⟩
  have hx : x.escaping = some e := rfl
  have hg : (Run.start m p).Goes m (before ++ [x]) (.active waiting (next (.failed e))) :=
    hat.append (.answered _ (.here _))
  obtain ⟨waiting', next', error, hat', -, herror, hkeeps⟩ :=
    hg.after_failure (hg.sound_before_escape hx) (x.fails_of_escaping hx)
  obtain rfl := hat.ask_unique hat'
  have hout : x.outcome m = some e := congrArg some (m.cross_of_not_ended he)
  rw [herror nofun, hout] at hkeeps
  exact hkeeps

/-- And then it leaves, with any host, and comes to an error. -/
lemma Run.Goes.leaves_after_lookup {host : Host V E σ} {s s' : σ} {result : Except E V}
    (hat : (Run.start m p).Goes m before (.active waiting (.ask (.find name) next)))
    (he : ErrorLike.nature e ≠ .ended)
    (hg : (Run.active waiting (next (.failed e))).Goes m after (.over result))
    (hs : host.Answers s after s') :
    ∃ e', result = .error e' ∧ LeavesWith m host (.active waiting (next (.failed e)))
      (before.driven.toList ++ waiting.map (·.program)) e s after e' s' := by
  have hkeeps := hat.unwinds_after_lookup he
  obtain ⟨hleaves, -⟩ := hg.unwinds hkeeps
  obtain ⟨e', rfl, hclosed, he'⟩ := hg.unwound hkeeps
  exact ⟨e', rfl, hg, hs, hleaves, hclosed, fun h => he' h e rfl⟩

end

section

variable [ValueLike V] [ErrorLike E] [LawfulErrorLike E] [DecidableEq V] (m : Manner)
  (host : Host V E σ) (w : Wording V E) (plan : List (V × V)) (p : V) (fallback : Bindings V V)
  (s : σ)

/-- The outcomes that there are to be of a program that is run against a plan.

* The program finishes with a value, no name is unknown, and the plan was used up.
* The program finishes with a value, no name is unknown, and some of the plan is left.
* The program fails, and no name is unknown.
* A name is unknown, and the program is left. -/
inductive Wording.Concludes : Except E V → σ → Prop
  | accepted {h : History V E} {v : V} {supplies : List (Supply V)} {s' : σ} :
    (Run.start m p).Goes m h (.over (.ok v)) → Supplied w fallback host s plan h supplies [] s' →
    Concludes (.ok v) s'
  | unused {h : History V E} {v : V} {supplies : List (Supply V)} {left : List (V × V)} {s' : σ} :
    (Run.start m p).Goes m h (.over (.ok v)) → Supplied w fallback host s plan h supplies left s' →
    left ≠ [] →
    Concludes (.error (w.assertion (remainder (left.map fun item => w.text (w.named item.1))))) s'
  | failed {h : History V E} {e : E} {supplies : List (Supply V)} {left : List (V × V)} {s' : σ} :
    (Run.start m p).Goes m h (.over (.error e)) →
    Supplied w fallback host s plan h supplies left s' → Concludes (.error e) s'
  | unknown {before after : History V E} {name : V} {waiting : List (Level V)}
      {next : Finding V E → Talk V E (Verdict V E)} {supplies : List (Supply V)}
      {left : List (V × V)} {s₁ s' : σ} {cause e : E} :
    (Run.start m p).Goes m before (.active waiting (.ask (.find name) next)) →
    Supplied w fallback host s plan before supplies left s₁ → w.Misses left name →
    fallback.get? name = none → cause = w.assertion (w.report supplies name left) →
    LeavesWith m host (.active waiting (next (.failed cause)))
      (before.driven.toList ++ waiting.map (·.program)) cause s₁ after e s' →
    Concludes (.error e) s'

variable {m host w plan p fallback s} {outcome : Except E V} {s' : σ}

omit [LawfulErrorLike E] in
/-- A rehearsal comes to what is concluded from a finished history. -/
lemma Run.rehearsed_iff :
    (∃ fuel, Run.rehearsed m host w plan p fallback fuel s = (some outcome, s')) ↔
      ∃ h result scene, (Run.start m p).Goes m h (.over result) ∧
        (host.rehearsing w fallback).Answers (s, plan, []) h (s', scene) ∧
        outcome = (conclude w.unused result scene).1 := by
  constructor
  · rintro ⟨fuel, hf⟩
    obtain ⟨result, s₁, scene, hc⟩ : ∃ result s₁ scene, (Run.start m p).conduct m
        (host.rehearsing w fallback) fuel (s, plan, []) = (result, s₁, scene) := ⟨_, _, _, rfl⟩
    rw [Run.rehearsed, hc] at hf
    cases result with
    | none => cases hf
    | some result =>
      cases hf
      obtain ⟨h, hs, hg⟩ := Run.goes_of_conduct hc
      exact ⟨h, result, scene, hg, hs, rfl⟩
  · rintro ⟨h, result, scene, hg, hs, rfl⟩
    obtain ⟨fuel, hf⟩ := Run.conduct_of_goes hg hs
    refine ⟨fuel, ?_⟩
    rw [Run.rehearsed, hf]
    rfl

omit [LawfulErrorLike E] in
/-- What there is to be is what a rehearsal comes to. -/
lemma Wording.Concludes.rehearsed (hc : w.Concludes m host plan p fallback s outcome s') :
    ∃ fuel, Run.rehearsed m host w plan p fallback fuel s = (some outcome, s') := by
  refine Run.rehearsed_iff.2 ?_
  cases hc with
  | accepted hg hs => exact ⟨_, _, _, hg, hs.answers [], rfl⟩
  | @unused h v supplies left s' hg hs hleft =>
    exact ⟨_, _, _, hg, hs.answers [], (w.conclude_unused hleft _ _).symm⟩
  | failed hg hs => exact ⟨_, _, _, hg, hs.answers [], rfl⟩
  | @unknown before after name waiting next supplies left _ _ _ e hat hs hn hv hcause hleaves =>
    rw [← w.complaint_eq] at hcause
    subst hcause
    refine ⟨_, .error e, (left, supplies.map Supply.entry ++ [(.notFound, name)]),
      hat.append (.answered _ hleaves.goes), (hs.answers []).append ?_, rfl⟩
    refine Host.answers_cons.2 ?_
    rw [List.nil_append, Host.rehearsing_unknown hn hv]
    exact ⟨rfl, (Host.rehearsing_answers_iff hleaves.leaves).2 ⟨hleaves.answers, rfl⟩⟩

/-- What a rehearsal comes to is what there is to be. -/
lemma Run.rehearsed_concludes {fuel : ℕ}
    (hr : Run.rehearsed m host w plan p fallback fuel s = (some outcome, s')) :
    w.Concludes m host plan p fallback s outcome s' := by
  obtain ⟨h, result, scene, hg, hs, rfl⟩ := Run.rehearsed_iff.1 ⟨fuel, hr⟩
  have hacc := hs.accompanied
  cases hacc with
  | @throughout h supplies left s' hsup =>
    cases result with
    | error e => exact .failed hg hsup
    | ok v =>
      cases left with
      | nil => exact .accepted hg hsup
      | cons item left =>
        rw [w.conclude_unused (List.cons_ne_nil item left)]
        exact .unused hg hsup (List.cons_ne_nil _ _)
  | @upTo before after name supplies left s₁ s' journal₁ scene hsup hn hv hj ha =>
    obtain ⟨run, hbefore, hafter⟩ := hg.split
    obtain ⟨waiting, next, hask, hnext⟩ := hafter.cons_inv
    have hat := hbefore.append hask
    rw [List.append_nil] at hat
    obtain ⟨hleaves, -⟩ := hnext.unwinds (hat.unwinds_after_lookup (w.nature_complaint _ _))
    obtain ⟨hanswers, rfl⟩ := (Host.rehearsing_answers_iff hleaves).1 ha
    obtain ⟨e, rfl, hl⟩ := hat.leaves_after_lookup (w.nature_complaint _ _) hnext hanswers
    subst hj
    exact .unknown hat hsup hn hv (w.complaint_eq supplies name left) hl

omit [LawfulErrorLike E] in
/-- A rehearsal comes to one outcome at most. -/
lemma Run.rehearsed_unique {fuel fuel' : ℕ} {outcome' : Except E V} {s'' : σ}
    (hr : Run.rehearsed m host w plan p fallback fuel s = (some outcome, s'))
    (hr' : Run.rehearsed m host w plan p fallback fuel' s = (some outcome', s'')) :
    outcome' = outcome ∧ s'' = s' := by
  obtain ⟨h, result, scene, hg, hs, rfl⟩ := Run.rehearsed_iff.1 ⟨fuel, hr⟩
  obtain ⟨h', result', scene', hg', hs', rfl⟩ := Run.rehearsed_iff.1 ⟨fuel', hr'⟩
  obtain ⟨rfl, -, hstate⟩ := hg.unique hs hg' hs'
  cases hstate
  exact ⟨rfl, rfl⟩

variable (m host w plan p fallback s)

/-- **A rehearsal accepts exactly the planned runs.** A program is run against a plan and a
fallback, with any host that answers everything but lookups.

* A rehearsal comes to an outcome exactly if that is one that there is to be, by what requests are
  to be given: the value of the program, if no name is unknown and the plan is used up by then; the
  error that names what is left of the plan, if some of it is; the error that the program fails
  with.
* If a name is unknown, the run only leaves from there on, and a rehearsal comes to an error. Unless
  something comes out of the programs that are closed, this error has a line for every request so
  far, with where it was served from, and another one for what is next in the plan, if anything is.
* If the program comes to a value and some of the plan is left, the error has the names of all that
  is left. Errors of other names are other errors.
* There is one outcome at most. -/
theorem rehearsal_accepts_planned_runs :
    (∀ outcome s', (∃ fuel, Run.rehearsed m host w plan p fallback fuel s = (some outcome, s')) ↔
      w.Concludes m host plan p fallback s outcome s') ∧
    (∀ before name waiting next supplies left s₁,
      (Run.start m p).Goes m before (.active waiting (.ask (.find name) next)) →
      Supplied w fallback host s plan before supplies left s₁ → w.Misses left name →
      fallback.get? name = none →
      ∃ cause after e s' fuel,
        cause = w.assertion ("Service not found: " ++ w.text name ++
          "! Log follows:\n\x7b\x7b\x7b\n" ++
          "\n".intercalate (supplies.map w.line ++ ["NOT FOUND: " ++ w.text name]) ++
          (left.head?.elim "" fun item => "\nNEXT EXPECTED: " ++ w.text (w.named item.1)) ++
          "\n\x7d\x7d\x7d") ∧
        LeavesWith m host (.active waiting (next (.failed cause)))
          (before.driven.toList ++ waiting.map (·.program)) cause s₁ after e s' ∧
        Run.rehearsed m host w plan p fallback fuel s = (some (.error e), s')) ∧
    (∀ h v supplies left s', (Run.start m p).Goes m h (.over (.ok v)) →
      Supplied w fallback host s plan h supplies left s' → left ≠ [] →
      ∃ fuel, Run.rehearsed m host w plan p fallback fuel s =
        (some (.error (w.assertion ("Not all services were requested: " ++ ("[" ++ ", ".intercalate
          ((left.map fun item => w.text (w.named item.1)).map Text.quoted) ++ "]")))), s')) ∧
    (Function.Injective fun names : List String => w.leftover (names.map w.nameOf)) ∧
    ∀ outcome outcome' s' s'', w.Concludes m host plan p fallback s outcome s' →
      w.Concludes m host plan p fallback s outcome' s'' → outcome' = outcome ∧ s'' = s' := by
  refine ⟨fun outcome s' => ⟨fun ⟨fuel, hr⟩ => Run.rehearsed_concludes hr, fun hc => hc.rehearsed⟩,
    ?_, ?_, w.leftover_injective, ?_⟩
  · intro before name waiting next supplies left s₁ hat hs hn hv
    have hended : ErrorLike.nature (w.assertion (w.report supplies name left)) ≠ .ended := by
      rw [w.nature_assertion]
      nofun
    obtain ⟨after, s', e, hanswers, hg, -⟩ :=
      Run.unwinds_with host (hat.unwinds_after_lookup hended) s₁
    obtain ⟨_, ⟨⟩, hl⟩ := hat.leaves_after_lookup hended hg hanswers
    obtain ⟨fuel, hr⟩ := (Wording.Concludes.unknown hat hs hn hv rfl hl).rehearsed
    refine ⟨w.assertion (w.report supplies name left), after, e, s', fuel, ?_, hl, hr⟩
    unfold Wording.report Wording.nextLine
    rfl
  · intro h v supplies left s' hg hs hleft
    obtain ⟨fuel, hr⟩ := (Wording.Concludes.unused hg hs hleft).rehearsed
    unfold remainder at hr
    exact ⟨fuel, hr⟩
  · intro outcome outcome' s' s'' hc hc'
    obtain ⟨fuel, hr⟩ := hc.rehearsed
    obtain ⟨fuel', hr'⟩ := hc'.rehearsed
    exact Run.rehearsed_unique hr hr'

end

/-! ### A program that asks for three services -/

/-- Errors that tell what they are about. -/
inductive Notice where
  | signal (n : Nature)
  | missing (name : Script.Value)
  | assertion (said : String)
  deriving DecidableEq

instance : ErrorLike Notice where
  nature
    | .signal n => n
    | .missing _ | .assertion _ => .ordinary
  stopped _ _ := .signal .ordinary
  exit := .signal .closing

instance : LawfulErrorLike Notice := ⟨fun _ _ _ => rfl⟩

namespace Notice

open Script

/-- Whether an error is a missing key. -/
def isMissing : Notice → Bool
  | .missing _ => true
  | _ => false

/-- Whether an error is the missing key of a name. -/
def isOf (name : Value) : Notice → Bool
  | .missing name' => name' = name
  | _ => false

/-- Names are texts, and missing keys and assertions are what they are about. -/
def phrasing : Phrasing Value Notice where
  nameOf := .text
  text
    | .text s => s
    | _ => ""
  text_nameOf _ := rfl
  assertion := .assertion
  assertion_injective _ _ := Notice.assertion.inj

/-- A rehearsal in which the objects `1`, `2` and `3` are tokens of services. -/
def wording : Wording Value Notice where
  toPhrasing := phrasing
  named
    | .object 1 => .text "Logger"
    | .object 2 => .text "Cache"
    | .object 3 => .text "Database"
    | label => label
  missing := .missing
  missingKey := isMissing
  saysAbsent := isOf
  missingKey_missing _ := rfl
  missingKey_of_saysAbsent {_ e} h := by
    cases e with
    | missing _ => rfl
    | signal _ | assertion _ => cases h
  missingKey_assertion _ := rfl
  nature_assertion _ := rfl

end Notice

section

open Script

/-- Surroundings in which a program yields the tokens `1`, `2` and `3`, where it is sent the numbers
`1` and `2` for the first two, and ends with what it is sent for the third. -/
def requesting : Host Value Notice Unit := fun q => pure <|
  match q with
  | .inspect _ .program => .ok synchronous
  | .inspect _ .payload => .ok ⟨true, false, false, false, false, false⟩
  | .resume _ _ (.send .none) => .yields (.object 1)
  | .resume _ _ (.send (.int 1)) => .yields (.object 2)
  | .resume _ _ (.send (.int 2)) => .yields (.object 3)
  | .resume _ _ (.send v) => .ends v
  | .resume _ _ (.throw e) => .raises e
  | .find name => .absent (.missing name)
  | .nameOf token => .ok (Notice.wording.named token)
  | .valueOf completion => .ok completion
  | .due => .goOn
  | .build .. => .ok .none
  | .complain _ => .signal .ordinary
  | .handle _ | .handled => ()
  | .barred | .close .. | .report _ | .discard _ => none

/-- The case of a program that asks for three services, the second of which is served by the
fallback. A plan that has the two others is accepted. If it has something else in the place of the
third one, that is unknown, and if it has more, some of it is left. -/
theorem planned_request_is_accepted :
    let concludes := fun plan => Notice.wording.Concludes .blocking requesting
      ((.object 1, .int 1) :: plan) (.object 0) ⟨[(.text "Cache", .int 2)]⟩ ()
    concludes [(.text "Database", .int 3)] (.ok (.int 3)) () ∧
    concludes [(.text "Clock", .int 4)] (.error (.assertion <|
      "Service not found: Database! Log follows:\n\x7b\x7b\x7b\n" ++
      "sequence: Logger\nfallback: Cache\nNOT FOUND: Database\n" ++
      "NEXT EXPECTED: Clock\n\x7d\x7d\x7d")) () ∧
    concludes [(.object 3, .int 3), (.text "Clock", .int 4), (.object 2, .int 5)]
      (.error (.assertion "Not all services were requested: ['Clock', 'Cache']")) () := by
  intro concludes
  have hconcludes := fun plan => (rehearsal_accepts_planned_runs .blocking requesting Notice.wording
    ((.object 1, .int 1) :: plan) (.object 0) ⟨[(.text "Cache", .int 2)]⟩ ()).1
  exact ⟨(hconcludes _ _ _).1 ⟨40, by decide +kernel⟩, (hconcludes _ _ _).1 ⟨40, by decide +kernel⟩,
    (hconcludes _ _ _).1 ⟨40, by decide +kernel⟩⟩

end

end Provision
