import Mathlib.Logic.Function.Iterate
import Provision.Proofs.Declaration
import Provision.Proofs.Evaluation
import Provision.Proofs.Isolation
import Provision.Registration

/-!
Enrolment: what routines come to when they are run, one after the other or together.

A routine can be read straight through (`Routine.evaluate`), with services that are in an
environment and nested routines where they stand. Its run does the same step by step: a program is
created, suspends at every token and at every nested program, and is closed in the end, while the
driver goes through its own talks. That both come to the same is shown once, by induction on the
routine; what registering users comes to is then read off.

* `Site.host`: a host whose programs are routines, which share what the services keep;
* `advance_leads`: from any suspension a run goes where the routine says, one case for each of its
  constructors;
* `start_leads`: a whole run, which leaves all other programs alone;
* `Crowd.serve`: the event loop, which gives turns to a run until it gives way;
* `inTurn_evaluates`, `together_evaluates`: any number of runs, in order or started together;
* `registration_counts_every_user`: the example.
-/

namespace Provision

variable {V E ι σ : Type}

/-! ### What routines deal with -/

/-- The values of the example. -/
inductive Item where
  | nothing
  | text (s : String)
  | number (n : ℕ)
  | rows (rows : List (List (String × Int)))
  | logger
  | database
  | token (service : String)
  /-- A program, by its place among all. -/
  | program (place : ℕ)
  | completion (value : Item)

instance : ValueLike Item := ⟨.nothing⟩

/-- What may go wrong in a routine. -/
inductive Trouble where
  /-- There is no such method, table or name. -/
  | missing
  | complaint (c : Complaint Item)

/-- The errors of the example. -/
inductive Mishap where
  | signal (n : Nature)
  | trouble (t : Trouble)

instance : ErrorLike Mishap where
  nature
    | .signal n => n
    | .trouble _ => .ordinary
  stopped _ _ := .signal .ordinary
  exit := .signal .closing

/-- What the services keep: the tables of the database, and the lines that were printed. -/
structure Books where
  tables : Bindings String (List (List Item))
  printed : List String

/-- Whoever does something with the books, and may fail. -/
abbrev Clerk := ExceptT Trouble (StateM Books)

/-- One thing after another: the second is left out if the first fails. -/
lemma clerk_bind {α β : Type} (act : Clerk α) (f : α → Clerk β) (b : Books) :
    (act >>= f).run b = match act.run b with
      | (.error t, b') => (.error t, b')
      | (.ok a, b') => (f a).run b' := by
  have hbind : (act >>= f).run b = ExceptT.bindCont f (act.run b).1 (act.run b).2 := rfl
  rw [hbind]
  obtain ⟨x, b'⟩ := act.run b
  cases x <;> rfl

@[simp]
lemma clerk_return {α : Type} (a : α) (b : Books) : (pure a : Clerk α).run b = (.ok a, b) := rfl

@[simp]
lemma clerk_throw {α : Type} (t : Trouble) (b : Books) :
    (throw t : Clerk α).run b = (.error t, b) := rfl

namespace Books

/-- The books of a new database. -/
def fresh (printed : List String) : Books :=
  ⟨⟨Registration.tables.map fun table => (table, [])⟩, printed⟩

/-- The pretend database keeps its rows in the books. -/
def keeping : Registration.Keeping Clerk Item where
  stores
    | .text query => return Registration.storesUser query
    | _ => throw .missing
  append table row := do
    match (← get).tables.get? table with
    | some rows => modify fun b => { b with tables := b.tables.put table (rows ++ [row]) }
    | none => throw .missing
  give rows := return .rows rows

/-- How the methods of the services are called. Nothing that is awaited has to wait, so there are no
marks. -/
def hands : Hands Clerk Item Empty where
  call
    | .logger, "info", [.text line] | .logger, "info", [.value (.text line)] => do
      modify fun b => { b with printed := b.printed ++ [line] }
      return .nothing
    | .database, "count", [.text table] | .database, "count", [.value (.text table)] => do
      match (← get).tables.get? table with
      | some rows => return .number rows.length
      | none => throw .missing
    | _, _, _ => throw .missing
  await
    | .database, "query", query :: parameters =>
      .inr <$> keeping.query (item query) (parameters.map item)
    | _, _, _ => throw .missing
  describe
    | .text s => return s
    | _ => throw .missing
where
  /-- The argument that a word is. -/
  item : Word Item → Item
    | .text s => .text s
    | .value v => v

section

variable {b : Books} {rows : List (List Item)}

/-- The logger prints a line. -/
lemma call_info (line : String) (b : Books) :
    (hands.call .logger "info" [.text line]).run b =
      (.ok .nothing, { b with printed := b.printed ++ [line] }) := rfl

lemma describe_text (s : String) (b : Books) :
    (hands.describe (.text s)).run b = (.ok s, b) := rfl

/-- The database counts the rows of a table. -/
lemma call_count {table : String} (h : b.tables.get? table = some rows) :
    (hands.call .database "count" [.text table]).run b = (.ok (.number rows.length), b) := by
  have hget : (get : Clerk Books).run b = (.ok b, b) := rfl
  simp [hands, clerk_bind, hget, h]

/-- A query that stores a user puts its parameter into a row of its own. -/
lemma await_insertion {query : String} (hquery : Registration.storesUser query = true)
    (h : b.tables.get? "users" = some rows) (v : Item) :
    (hands.await .database "query" [.text query, .value v]).run b =
      (.ok (.inr (.rows [])), { b with tables := b.tables.put "users" (rows ++ [[v]]) }) := by
  have hget : (get : Clerk Books).run b = (.ok b, b) := rfl
  have hmodify (f : Books → Books) : (modify f : Clerk PUnit).run b = (.ok ⟨⟩, f b) := rfl
  simp [hands, hands.item, keeping, Registration.Keeping.query, hquery, clerk_bind, hget, h,
    map_apply, hmodify, Except.map]

end

end Books

/-- What a routine comes to, read straight through. -/
def Routine.evaluate (env : Bindings String Item) : Routine Item → Clerk Item
  | .finish v => return v
  | .ask service next =>
    match env.get? service with
    | some v => (next v).evaluate env
    | none => throw (.complaint (.notProvided (.text service)))
  | .nest _ inner next => do (next (← inner.evaluate env)).evaluate env
  | .call object method arguments next => do
    (next (← Books.hands.call object method arguments)).evaluate env
  | .await object method arguments next => do
    match ← Books.hands.await object method arguments with
    | .inl mark => nomatch mark
    | .inr v => (next v).evaluate env
  | .describe v next => do (next (← Books.hands.describe v)).evaluate env

/-! ### Programs -/

/-- Where a program halts. -/
inductive Halt where
  | created (r : Routine Item)
  | suspended (next : Item → Routine Item)
  /-- It has yielded its completion. -/
  | delivered
  | closed

/-- A program, and the protocol through which it is resumed. -/
structure Playing where
  style : Protocol
  halt : Halt

/-- All that a host of routines has: the books of the services, and the programs. -/
structure Site where
  books : Books
  programs : List Playing

namespace Site

/-- The program halts in another place. -/
def setHalt (s : Site) (i : ℕ) (halt : Halt) : Site :=
  { s with programs := s.programs.modify i fun p => { p with halt } }

/-- Makes a new program of a routine. -/
def create (style : Protocol) (r : Routine Item) : StateM Site Item := fun s =>
  (.program s.programs.length, { s with programs := s.programs ++ [⟨style, .created r⟩] })

/-- What a program shows when it has got on so far. -/
def respond (s : Site) (i : ℕ) (style : Protocol) :
    Except Trouble (Rest Item Empty) → Signal Item Mishap × Site
  | .error t => (.raises (.trouble t), s.setHalt i .closed)
  | .ok (.finished v) =>
    match style with
    | .async => (.yields (.completion v), s.setHalt i .delivered)
    | .sync => (.ends v, s.setHalt i .closed)
  | .ok (.asks service next) => (.yields (.token service), s.setHalt i (.suspended next))
  | .ok (.nests _ inner next) =>
    let made := create .sync inner (s.setHalt i (.suspended next))
    (.yields made.1, made.2)
  | .ok (.waits mark _) => nomatch mark

/-- A program goes on with a routine until it suspends or ends. -/
def advance (s : Site) (i : ℕ) (style : Protocol) (r : Routine Item) : Signal Item Mishap × Site :=
  let x := (r.advance Books.hands).run s.books
  { s with books := x.2 }.respond i style x.1

/-- Resumes a program. Routines do not catch what is thrown into them. -/
def resume (s : Site) (via : Protocol) (i : ℕ) (how : Resumption Item Mishap) :
    Signal Item Mishap × Site :=
  match s.programs[i]? with
  | none => (.raises (.trouble .missing), s)
  | some ⟨style, halt⟩ =>
    if style = via then
      match halt, how with
      | .created r, .send .nothing => s.advance i style r
      | .created _, .send _ => (.raises (.trouble .missing), s)
      | .suspended next, .send v => s.advance i style (next v)
      | .delivered, .send _ | .closed, .send _ => (.ends .nothing, s.setHalt i .closed)
      | _, .throw e => (.raises e, s.setHalt i .closed)
    else (.raises (.trouble .missing), s)

/-- What a value shows. -/
def traits (s : Site) (v : Item) : Traits :=
  let style? := match v with
    | .program i => s.programs[i]?.map (·.style)
    | _ => none
  { token := v matches .token _
    async := style? == some .async
    sync := style? == some .sync
    completion := v matches .completion _
    coroutine := false
    uncalled := false }

/-- Runs programs in an environment. -/
def host (env : Bindings String Item) : Host Item Mishap Site
  | .inspect v _, s => (.ok (s.traits v), s)
  | .resume via (.program i) how, s => s.resume via i how
  | .resume .., s => (.raises (.trouble .missing), s)
  | .close _ (.program i), s => (none, s.setHalt i .closed)
  | .find (.text name), s => (match env.get? name with
    | some v => .found v
    | none => .absent (.trouble .missing), s)
  | .find _, s => (.failed (.trouble .missing), s)
  | .nameOf (.token service), s => (.ok (.text service), s)
  | .valueOf (.completion v), s => (.ok v, s)
  | .nameOf _, s | .valueOf _, s | .build .., s => (.error (.trouble .missing), s)
  | .complain c, s => (.trouble (.complaint c), s)
  | .due, s => (.goOn, s)
  | .handle _, s | .handled, s => ((), s)
  | .barred, s | .close .., s | .report _, s | .discard _, s => (none, s)

end Site

/-! ### Where a run leads -/

section

variable [ValueLike V] [ErrorLike E] {m : Manner} {host : Host V E σ} {r r' r'' : Run V E}
  {s s' s'' : σ}

/-- With this host a run gets from one place to another. -/
def Run.Leads (m : Manner) (host : Host V E σ) (r : Run V E) (s : σ) (r' : Run V E) (s' : σ) :
    Prop :=
  ∃ h, r.Goes m h r' ∧ host.Answers s h s'

namespace Run.Leads

lemma refl (r : Run V E) (s : σ) : Leads m host r s r s := ⟨[], .here r, rfl⟩

lemma trans (h : Leads m host r s r' s') (h' : Leads m host r' s' r'' s'') :
    Leads m host r s r'' s'' := by
  obtain ⟨k, hg, hs⟩ := h
  obtain ⟨k', hg', hs'⟩ := h'
  exact ⟨k ++ k', hg.append hg', hs.append hs'⟩

/-- The host answers, and then the run goes on. -/
lemma ask {waiting : List (Level V)} {q : Request V E} {next : q.Answer → Talk V E (Verdict V E)}
    (h : Leads m host (.active waiting (next (host q s).1)) (host q s).2 r' s') :
    Leads m host (.active waiting (.ask q next)) s r' s' := by
  obtain ⟨k, hg, hs⟩ := h
  exact ⟨_, .answered _ hg, rfl, hs⟩

/-- The host answers this, and then the run goes on. -/
lemma told {waiting : List (Level V)} {q : Request V E} {next : q.Answer → Talk V E (Verdict V E)}
    {a : q.Answer} (hq : host q s = (a, s''))
    (h : Leads m host (.active waiting (next a)) s'' r' s') :
    Leads m host (.active waiting (.ask q next)) s r' s' := by
  refine ask ?_
  rw [hq]
  exact h

lemma decided {waiting : List (Level V)} {v : Verdict V E}
    (h : Leads m host (v.next m waiting) s r' s') :
    Leads m host (.active waiting (.done v)) s r' s' := by
  obtain ⟨k, hg, hs⟩ := h
  exact ⟨k, .decided hg, hs⟩

/-- A run goes through the talk that it is in. -/
lemma talk {waiting : List (Level V)} {t : Talk V E (Verdict V E)} {v : Verdict V E}
    {h : History V E} (ht : t.Ends host s h v s')
    (hv : Leads m host (v.next m waiting) s' r'' s'') :
    Leads m host (.active waiting t) s r'' s'' := by
  obtain ⟨k, hg, hs⟩ := hv
  exact ⟨h ++ k, .of_comes ht.1 hg, ht.2.append hs⟩

end Run.Leads

end

/-! ### What happens to the programs -/

namespace Site

/-- All programs but one are where they were, and there may be further ones. -/
structure Spares (s : Site) (i : ℕ) (s' : Site) : Prop where
  grows : s.programs.length ≤ s'.programs.length
  others {j : ℕ} : j < s.programs.length → j ≠ i → s'.programs[j]? = s.programs[j]?

/-- The protocol of a program. -/
def style? (s : Site) (i : ℕ) : Option Protocol := s.programs[i]?.map (·.style)

section

variable {s s' s'' : Site} {i j : ℕ} {halt : Halt} {style : Protocol}

lemma Spares.trans (h : s.Spares i s') (h' : s'.Spares i s'') : s.Spares i s'' where
  grows := Nat.le_trans h.grows h'.grows
  others hj hji := (h'.others (Nat.lt_of_lt_of_le hj h.grows) hji).trans (h.others hj hji)

/-- A program that is made later belongs to whoever makes it. -/
lemma Spares.of_later (h : s.Spares j s') (hj : s.programs.length ≤ j) (i : ℕ) :
    s.Spares i s' where
  grows := h.grows
  others hk _ := h.others hk (Nat.ne_of_lt (Nat.lt_of_lt_of_le hk hj))

lemma spares_setHalt (s : Site) (i : ℕ) (halt : Halt) : s.Spares i (s.setHalt i halt) where
  grows := by simp [setHalt]
  others _ hj := by simp [setHalt, hj.symm]

lemma spares_create (s : Site) (style : Protocol) (r : Routine Item) (i : ℕ) :
    s.Spares i (create style r s).2 where
  grows := by simp [create]
  others hj _ := by simp [create, List.getElem?_append_left hj]

@[simp]
lemma setHalt_books : (s.setHalt i halt).books = s.books := rfl

@[simp]
lemma setHalt_style? : (s.setHalt i halt).style? j = s.style? j := by
  by_cases hij : i = j
  · subst hij
    simp [setHalt, Site.style?, Function.comp_def]
  · simp [setHalt, Site.style?, hij]

lemma lt_of_style? (h : s.style? i = some style) : i < s.programs.length := by
  rw [Site.style?, Option.map_eq_some_iff] at h
  obtain ⟨p, hp, -⟩ := h
  exact (List.getElem?_eq_some_iff.1 hp).1

/-- A program that was told to halt somewhere halts there. -/
lemma setHalt_programs (h : s.style? i = some style) :
    (s.setHalt i halt).programs[i]? = some ⟨style, halt⟩ := by
  rw [Site.style?, Option.map_eq_some_iff] at h
  obtain ⟨p, hp, rfl⟩ := h
  simp [setHalt, hp]

/-- From its start a program goes on with its routine. -/
lemma resume_created {r : Routine Item} (h : s.programs[i]? = some ⟨style, .created r⟩) :
    s.resume style i (.send .nothing) = s.advance i style r := by
  simp [resume, h]

/-- A program goes on with what is sent to it. -/
lemma resume_suspended {next : Item → Routine Item}
    (h : s.programs[i]? = some ⟨style, .suspended next⟩) (v : Item) :
    s.resume style i (.send v) = s.advance i style (next v) := by
  simp [resume, h]

end

/-! ### Closing -/

/-- A talk that a host answers comes to an end. -/
lemma ends_of_answeredBy {α : Type} {host : Host V E σ} {t : Talk V E α} {s s' : σ} {a : α}
    (h : t.answeredBy host s = (a, s')) : ∃ k, t.Ends host s k a s' := by
  induction t generalizing s with
  | done b =>
    cases h
    exact ⟨[], ends_done.2 ⟨rfl, rfl, rfl⟩⟩
  | ask q next ih =>
    obtain ⟨k, hk⟩ := ih (host q s).1 h
    exact ⟨_, ends_ask.2 ⟨k, rfl, hk⟩⟩

variable {m : Manner} {env : Bindings String Item}

/-- A program is closed in the end, and nothing comes out of that. -/
lemma finish_leads (env : Bindings String Item) (waiting : List (Level Item)) (l : Level Item)
    {i : ℕ} (hl : l.program = .program i) {x : Except Mishap Item} (hx : m.out x = x) (s : Site) :
    ∃ s', Run.Leads m (host env) (.active waiting (finish m l x)) s
      ((Verdict.leave x).next m waiting) s' ∧ s'.books = s.books ∧ s.Spares i s' := by
  have hfinish : ∃ s', (finish m l x).answeredBy (host env) s = (.leave (m.out x), s') ∧
      s'.books = s.books ∧ s.Spares i s' := by
    have honce := s.spares_setHalt i .closed
    have htwice := honce.trans ((s.setHalt i .closed).spares_setHalt i .closed)
    obtain ⟨program, via | stage⟩ := l
    · obtain rfl : program = .program i := hl
      cases x <;> exact ⟨_, rfl, rfl, honce⟩
    · obtain rfl : program = .program i := hl
      cases x <;> cases stage <;> first | exact ⟨_, rfl, rfl, honce⟩ | exact ⟨_, rfl, rfl, htwice⟩
  obtain ⟨s', hanswered, hrest⟩ := hfinish
  rw [hx] at hanswered
  obtain ⟨k, hends⟩ := ends_of_answeredBy hanswered
  exact ⟨s', .talk hends (.refl _ _), hrest⟩

/-! ### Routines that are run -/

/-- The result of a run that comes to this. -/
def result : Except Trouble Item → Except Mishap Item := Except.mapError .trouble

lemma out_result (x : Except Trouble Item) : m.out (result x) = result x := by
  cases x <;> cases m <;> rfl

/-- After what a program did with its routine, the run comes to where the routine leads, and leaves
the program with its result. -/
def Reads (m : Manner) (env : Bindings String Item) (r : Routine Item) : Prop :=
  ∀ (s : Site) (i : ℕ) (form : Form) (waiting : List (Level Item)), s.style? i = some form.via →
    ∃ s', Run.Leads m (host env)
        (.active waiting (afterSignal m (.program i) form (s.advance i form.via r).1))
        (s.advance i form.via r).2
        ((Verdict.leave (result ((r.evaluate env).run s.books).1)).next m waiting) s' ∧
      s'.books = ((r.evaluate env).run s.books).2 ∧ s.Spares i s'

/-- A routine that has come to its result. -/
lemma finish_reads (v : Item) : Reads m env (.finish v) := by
  intro s i form waiting hi
  have hout : m.out (.ok v : Except Mishap Item) = .ok v := out_result (.ok v)
  have hspares := s.spares_setHalt i
  obtain ⟨_ | _⟩ | _ := form
  · obtain ⟨s', hleads, hbooks, hs'⟩ := finish_leads env waiting ⟨.program i, .inl .sync⟩
      rfl hout (s.setHalt i .closed)
    exact ⟨s', .ask hleads, hbooks, (hspares _).trans hs'⟩
  · obtain ⟨s', hleads, hbooks, hs'⟩ := finish_leads env waiting ⟨.program i, .inl .async⟩
      rfl hout (s.setHalt i .delivered)
    exact ⟨s', .ask (.ask (.ask hleads)), hbooks, (hspares _).trans hs'⟩
  · obtain ⟨s', hleads, hbooks, hs'⟩ := finish_leads env waiting
      ⟨.program i, .inr .delivering⟩ rfl hout (s.setHalt i .closed)
    exact ⟨s', .ask hleads, hbooks, (hspares _).trans hs'⟩

/-- A level of a suspended program goes on with what the run has for it. -/
lemma halted_leads {form : Form} {waiting : List (Level Item)} {s s' : Site} {i : ℕ}
    {next : Item → Routine Item} {v : Item} {r : Run Item Mishap}
    (hi : s.programs[i]? = some ⟨form.via, .suspended next⟩)
    (h : Run.Leads m (host env)
      (.active waiting (afterSignal m (.program i) form (s.advance i form.via (next v)).1))
      (s.advance i form.via (next v)).2 r s') :
    Run.Leads m (host env)
      (.active waiting (cycle m (.halted (.program i) form) (.send v))) s r s' := by
  rw [cycle_send (.inl rfl)]
  refine .ask ?_
  have hresume : host env (.resume form.via (.program i) (.send v)) s =
      s.advance i form.via (next v) := resume_suspended hi v
  rw [hresume]
  exact h

/-- A routine that asks for a service. -/
lemma ask_reads (service : String) {next : Item → Routine Item}
    (ih : ∀ v, Reads m env (next v)) : Reads m env (.ask service next) := by
  intro s i form waiting hi
  let asked := s.setHalt i (.suspended next)
  have hasked : asked.programs[i]? = some ⟨form.via, .suspended next⟩ := setHalt_programs hi
  have hspares : s.Spares i asked := s.spares_setHalt i _
  have hstyle : asked.style? i = some form.via := setHalt_style?.trans hi
  cases hv : env.get? service with
  | some v =>
    obtain ⟨s', hleads, hbooks, hs'⟩ := ih v asked i form waiting hstyle
    have hevaluate : (Routine.ask service next).evaluate env = (next v).evaluate env := by
      simp [Routine.evaluate, hv]
    rw [hevaluate]
    refine ⟨s', ?_, hbooks, hspares.trans hs'⟩
    have hfind : host env (.find (.text service)) asked = (.found v, asked) := by simp [host, hv]
    exact .ask (.ask (.ask (.told hfind (.ask (.decided (halted_leads hasked hleads))))))
  | none =>
    let e : Trouble := .complaint (.notProvided (.text service))
    have hevaluate : (Routine.ask service next).evaluate env = throw e := by
      simp [Routine.evaluate, hv, e]
    have hfind : host env (.find (.text service)) asked = (.absent (.trouble .missing), asked) := by
      simp [host, hv]
    obtain ⟨s', hleads, hbooks, hs'⟩ := finish_leads env waiting
      (.halted (.program i) form) (Level.halted_form _ _).2 (out_result (m := m) (.error e)) asked
    rw [hevaluate]
    exact ⟨s', .ask (.ask (.ask (.told hfind (.ask (.ask (.ask (.ask hleads))))))), hbooks,
      hspares.trans hs'⟩

/-- What is thrown while a routine goes on comes out of the run. -/
lemma raises_leads (env : Bindings String Item) {t : Trouble} (form : Form)
    (waiting : List (Level Item)) (s : Site) (i : ℕ) :
    ∃ s', Run.Leads m (host env)
        (.active waiting (afterSignal m (.program i) form (.raises (.trouble t)))) s
        ((Verdict.leave (.error (.trouble t))).next m waiting) s' ∧
      s'.books = s.books ∧ s.Spares i s' := by
  have hout : m.out (.error (.trouble t) : Except Mishap Item) = .error (.trouble t) :=
    out_result (.error t)
  obtain via | _ := form
  · exact finish_leads env waiting ⟨.program i, .inl via⟩ rfl hout s
  · exact finish_leads env waiting ⟨.program i, .inr .finished⟩ rfl hout s

/-- What a routine does by itself comes before all else: it fails, or goes on as another routine
from other books. -/
lemma step_reads {α : Type} {r : Routine Item} {act : Clerk α} {next : α → Routine Item}
    (hadvance : r.advance Books.hands = act >>= fun a => (next a).advance Books.hands)
    (hevaluate : r.evaluate env = act >>= fun a => (next a).evaluate env)
    (ih : ∀ a, Reads m env (next a)) : Reads m env r := by
  intro s i form waiting hi
  obtain ⟨x, b, hact⟩ : ∃ x b, act.run s.books = (x, b) := ⟨_, _, rfl⟩
  have hspares : s.Spares i { s with books := b } := ⟨Nat.le_refl _, fun _ _ => rfl⟩
  rw [hevaluate, clerk_bind, advance, hadvance, clerk_bind, hact]
  cases x with
  | error t =>
    obtain ⟨s', hleads, hbooks, hs'⟩ := raises_leads (t := t) (m := m) env form waiting
      (setHalt { s with books := b } i .closed) i
    exact ⟨s', hleads, hbooks, hspares.trans ((spares_setHalt _ i _).trans hs')⟩
  | ok a =>
    obtain ⟨s', hleads, hbooks, hs'⟩ := ih a { s with books := b } i form waiting hi
    exact ⟨s', hleads, hbooks, hspares.trans hs'⟩

/-- A created program is taken up, if the driver accepts it, and read. -/
lemma takeUp_leads {r : Routine Item} (hr : Reads m env r) {s : Site} {i : ℕ} {form : Form}
    (hi : s.programs[i]? = some ⟨form.via, .created r⟩)
    (hform : m.accept (s.traits (.program i)) = .ok form) (waiting : List (Level Item)) :
    ∃ s', Run.Leads m (host env) (.active waiting (takeUp m (.program i))) s
        ((Verdict.leave (result ((r.evaluate env).run s.books).1)).next m waiting) s' ∧
      s'.books = ((r.evaluate env).run s.books).2 ∧ s.Spares i s' := by
  have hstyle : s.style? i = some form.via := by rw [style?, hi]; rfl
  obtain ⟨s', hleads, hrest⟩ := hr s i form waiting hstyle
  have hinspect : host env (.inspect (.program i) .program) s = (.ok (s.traits (.program i)), s) :=
    rfl
  refine ⟨s', .told hinspect ?_, hrest⟩
  simp only [hform]
  refine .ask (.decided ?_)
  show Run.Leads m (host env)
    (.active waiting (cycle m (.opened (.program i) form) (.send ValueLike.nothing))) s _ s'
  rw [cycle_send (.inr ⟨rfl, rfl⟩)]
  exact .told (resume_created hi) hleads

/-- A synchronous program is accepted anyhow, through its own protocol in the end. -/
lemma accept_sync {s : Site} {i : ℕ} (hi : s.style? i = some .sync) :
    ∃ form : Form, m.accept (s.traits (.program i)) = .ok form ∧ form.via = .sync := by
  rw [style?] at hi
  cases m
  · exact ⟨.direct .sync, by simp [traits, hi, Manner.accept], rfl⟩
  · exact ⟨.lifted, by simp [traits, hi, Manner.accept], rfl⟩

/-- A routine that runs another one. -/
lemma nest_reads (name : String) {inner : Routine Item} {next : Item → Routine Item}
    (ihi : Reads m env inner) (ih : ∀ v, Reads m env (next v)) :
    Reads m env (.nest name inner next) := by
  intro s i form waiting hi
  let l : Level Item := .halted (.program i) form
  -- The inner program is made behind all others.
  let halted := s.setHalt i (.suspended next)
  let j := halted.programs.length
  let made := (create .sync inner halted).2
  have hij : i < j := lt_of_style? (setHalt_style?.trans hi)
  have hmade : made.programs[j]? = some ⟨.sync, .created inner⟩ := by simp [made, create, j]
  have hspares : s.Spares i made := (s.spares_setHalt i _).trans (spares_create _ _ _ i)
  have hhalted : made.programs[i]? = some ⟨form.via, .suspended next⟩ :=
    ((spares_create halted .sync inner j).others hij (Nat.ne_of_lt hij)).trans
      (setHalt_programs hi)
  obtain ⟨form', haccept, hvia⟩ := accept_sync (m := m) (s := made) (i := j)
    (by rw [style?, hmade]; rfl)
  obtain ⟨s₁, hinner, hbooks₁, hs₁⟩ := takeUp_leads ihi (hvia ▸ hmade) haccept
    (l :: waiting)
  have hhalted₁ : s₁.programs[i]? = some ⟨form.via, .suspended next⟩ := by
    refine (hs₁.others ?_ (Nat.ne_of_lt hij)).trans hhalted
    simpa [made, create] using Nat.lt_succ_of_lt hij
  have hspares₁ : s.Spares i s₁ := (s.spares_setHalt i _).trans
    (((spares_create halted .sync inner j).trans hs₁).of_later (Nat.le_refl j) i)
  have hentered : ∀ {r : Run Item Mishap} {s' : Site},
      Run.Leads m (host env) ((Verdict.leave
        (result ((inner.evaluate env).run s.books).1)).next m (l :: waiting)) s₁ r s' →
      Run.Leads m (host env)
        (.active waiting (afterSignal m (.program i) form (s.advance i form.via
          (.nest name inner next)).1)) (s.advance i form.via (.nest name inner next)).2 r s' := by
    intro r s' hrest
    have hasync : (Protocol.sync == Protocol.async) = false := rfl
    have hinspect : host env (.inspect (.program j) .payload) made =
        (.ok ⟨false, false, true, false, false, false⟩, made) := by
      simp [host, traits, hmade, hasync]
    exact .told hinspect (.ask (.ask (.decided (hinner.trans hrest))))
  have hevaluate : (Routine.nest name inner next).evaluate env =
      inner.evaluate env >>= fun v => (next v).evaluate env := rfl
  rw [hevaluate, clerk_bind]
  obtain ⟨x, b, hx⟩ : ∃ x b, (inner.evaluate env).run s.books = (x, b) := ⟨_, _, rfl⟩
  have hbooks : s₁.books = b := hbooks₁.trans (congrArg Prod.snd hx)
  rw [hx] at hentered
  rw [hx]
  cases x with
  | error t =>
    obtain ⟨s', hleads, hb, hs'⟩ := finish_leads env waiting l (Level.halted_form _ _).2
      (out_result (m := m) (.error t)) s₁
    exact ⟨s', hentered hleads, hb.trans hbooks, hspares₁.trans hs'⟩
  | ok v =>
    have hstyle₁ : s₁.style? i = some form.via := by rw [style?, hhalted₁]; rfl
    obtain ⟨s', hleads, hb, hs'⟩ := ih v s₁ i form waiting hstyle₁
    rw [hbooks] at hleads hb
    exact ⟨s', hentered (halted_leads hhalted₁ hleads), hb, hspares₁.trans hs'⟩

/-- Whatever the routine is, a run comes to what can be read. -/
lemma routine_reads (r : Routine Item) : Reads m env r := by
  induction r with
  | finish v => exact finish_reads v
  | ask service next ih => exact ask_reads service ih
  | nest name inner next ihi ih => exact nest_reads name ihi ih
  | call object method arguments next ih => exact step_reads rfl rfl ih
  | describe v next ih => exact step_reads rfl rfl ih
  | await object method arguments next ih =>
    let next' : Empty ⊕ Item → Routine Item := Sum.elim Empty.elim next
    have hadvance : (Routine.await object method arguments next).advance Books.hands =
        Books.hands.await object method arguments >>= fun a => (next' a).advance Books.hands := by
      rw [Routine.advance]
      refine congrArg _ (funext fun a => ?_)
      obtain mark | v := a
      · exact mark.elim
      · rfl
    have hevaluate : (Routine.await object method arguments next).evaluate env =
        Books.hands.await object method arguments >>= fun a => (next' a).evaluate env := by
      rw [Routine.evaluate]
      refine congrArg _ (funext fun a => ?_)
      obtain mark | v := a
      · exact mark.elim
      · rfl
    refine step_reads hadvance hevaluate fun a => ?_
    obtain mark | v := a
    · exact mark.elim
    · exact ih v

/-- **A run of a routine comes to what can be read**, and leaves all other programs alone. -/
lemma start_leads (env : Bindings String Item) (r : Routine Item) {s : Site} {i : ℕ} {form : Form}
    (hi : s.programs[i]? = some ⟨form.via, .created r⟩)
    (hform : m.accept (s.traits (.program i)) = .ok form) :
    ∃ s', Run.Leads m (host env) (Run.start m (.program i)) s
        (.over (result ((r.evaluate env).run s.books).1)) s' ∧
      s'.books = ((r.evaluate env).run s.books).2 ∧ s.Spares i s' :=
  takeUp_leads (routine_reads r) hi hform []

end Site

/-! ### The event loop -/

section

variable [ValueLike V] [ErrorLike E] [DecidableEq ι] {m : Manner} {host : Host V E σ}

/-- Whether a run that has a turn gives way: its request is not answered yet. -/
def Party.givesWay (attend : (q : Request V E) → σ → Option q.Answer × σ) (p : Party V E)
    (s : σ) : Bool :=
  match p.run with
  | .active _ (.ask q _) => (attend q s).1.isNone
  | _ => false

/-- The first run in the queue has a turn. It leaves the queue when it is over, goes to the end of
it when it gives way, and otherwise goes on. -/
def Crowd.serve (m : Manner) (attend : Attendant V E ι σ) :
    Crowd V E ι σ × List ι → Crowd V E ι σ × List ι
  | (c, []) => (c, [])
  | (c, i :: queue) =>
    let c' := c.turn m attend i
    (c', match (c'.parties i).run with
      | .over _ => queue
      | .active .. =>
        if (c.parties i).givesWay (attend i) c.state then queue ++ [i] else i :: queue)

/-- Whoever answers at once attends to all runs, and none of them ever gives way. -/
def Host.attends (host : Host V E σ) : Attendant V E ι σ := fun _ q s =>
  (some (host q s).1, (host q s).2)

/-- A run that never gives way is conducted to its result before any other run has a turn. -/
lemma serve_leads {r : Run V E} {x : Except E V} {s' : σ} {h : History V E} {c : Crowd V E ι σ}
    {i : ι} {k : History V E} (queue : List ι) (hc : c.parties i = ⟨r, k⟩)
    (hg : r.Goes m h (.over x)) (hs : host.Answers c.state h s') :
    ∃ n k', (Crowd.serve m host.attends)^[n] (c, i :: queue) =
      (⟨Function.update c.parties i ⟨.over x, k'⟩, s'⟩, queue) := by
  generalize ho : Run.over x = o at hg
  induction hg generalizing c k with
  | here r =>
    subst ho
    obtain rfl := hs
    refine ⟨1, k, ?_⟩
    simp [Crowd.serve, Crowd.turn, Party.turn, hc]
  | @decided waiting v h r hn ih =>
    subst ho
    rcases hv : v.next m waiting with ⟨waiting', t⟩ | y
    · let c' : Crowd V E ι σ := ⟨Function.update c.parties i ⟨v.next m waiting, k⟩, c.state⟩
      have hturn : Crowd.serve m host.attends (c, i :: queue) = (c', i :: queue) := by
        simp [Crowd.serve, Crowd.turn, Party.turn, hc, hv, Party.givesWay, c']
      obtain ⟨n, k', hn⟩ := ih (c := c') (Function.update_self ..) hs rfl
      refine ⟨n + 1, k', ?_⟩
      rw [Function.iterate_succ_apply, hturn, hn]
      simp [c']
    · rw [hv] at hn
      obtain ⟨rfl, hy⟩ := hn.of_over
      cases hy
      obtain rfl := hs
      refine ⟨1, k, ?_⟩
      simp [Crowd.serve, Crowd.turn, Party.turn, hc, hv]
  | @answered waiting q next h r a hn ih =>
    obtain ⟨rfl, hs'⟩ := Host.answers_cons.1 hs
    let x := host q c.state
    let c' : Crowd V E ι σ :=
      ⟨Function.update c.parties i ⟨.active waiting (next x.1), k ++ [⟨q, x.1⟩]⟩, x.2⟩
    have hturn : Crowd.serve m host.attends (c, i :: queue) = (c', i :: queue) := by
      simp [Crowd.serve, Crowd.turn, Party.turn, hc, Party.givesWay, Host.attends, c', x]
    obtain ⟨n, k', hn⟩ := ih (c := c') (Function.update_self ..) hs' ho
    refine ⟨n + 1, k', ?_⟩
    rw [Function.iterate_succ_apply, hturn, hn]
    simp [c']

/-- More fuel than needed does no harm. -/
lemma Run.conduct_mono {r : Run V E} {s s' : σ} {x : Except E V} {fuel more : ℕ}
    (hc : r.conduct m host fuel s = (some x, s')) (hle : fuel ≤ more) :
    r.conduct m host more s = (some x, s') := by
  obtain ⟨more, rfl⟩ := Nat.exists_eq_add_of_le hle
  clear hle
  induction fuel generalizing r s with
  | zero => cases hc
  | succ fuel ih =>
    rw [Nat.succ_add]
    match r with
    | .over y => exact hc
    | .active waiting (.done v) => exact ih hc
    | .active waiting (.ask q next) => exact ih hc

end

/-! ### Any number of runs -/

/-- What some routines come to, read one after the other. -/
def evaluateAll (env : Bindings String Item) (rs : List (Routine Item)) :
    StateM Books (List (Except Trouble Item)) :=
  rs.mapM fun r => (r.evaluate env).run

lemma evaluateAll_cons (env : Bindings String Item) (r : Routine Item) (rs : List (Routine Item))
    (b : Books) : evaluateAll env (r :: rs) b =
      (((r.evaluate env).run b).1 :: (evaluateAll env rs ((r.evaluate env).run b).2).1,
        (evaluateAll env rs ((r.evaluate env).run b).2).2) := by
  rw [evaluateAll, List.mapM_cons]
  rfl

namespace Site

variable (env : Bindings String Item)

/-- Makes a program of a routine and conducts its run, with so much fuel. -/
def conduct (m : Manner) (fuel : ℕ) (style : Protocol)
    (r : Routine Item) : StateM Site (Option (Except Mishap Item)) := do
  (Run.start m (← create style r)).conduct m (host env) fuel

/-- Conducts runs of asynchronous programs one after the other. -/
def inTurn (fuel : ℕ) (rs : List (Routine Item)) :
    StateM Site (List (Option (Except Mishap Item))) :=
  rs.mapM (conduct env .cooperative fuel .async)

/-- Makes asynchronous programs of routines, and starts their runs together in this order. The event
loop gives so many turns. -/
def together (turns : ℕ) (rs : List (Routine Item)) (s : Site) :
    Crowd Item Mishap ℕ Site × List ℕ :=
  (Crowd.serve .cooperative (host env).attends)^[turns]
    (.begun .cooperative .program (rs.mapM (create .async) s).2,
      List.range' s.programs.length rs.length)

/-- Driving in this manner accepts the programs that are resumed through this protocol. -/
def Takes (m : Manner) (style : Protocol) : Prop :=
  ∀ (s : Site) (i : ℕ), s.style? i = some style →
    ∃ form : Form, m.accept (s.traits (.program i)) = .ok form ∧ form.via = style

lemma takes_sync (m : Manner) : Takes m .sync := fun _ _ => accept_sync

lemma takes_async : Takes .cooperative .async := fun s i hi =>
  ⟨.direct .async, by rw [style?] at hi; simp [traits, hi, Manner.accept], rfl⟩

/-- A run that is conducted with enough fuel comes to what can be read. -/
lemma conduct_evaluates {m : Manner} {style : Protocol} (htakes : Takes m style)
    (r : Routine Item) (s : Site) : ∃ N s',
      (∀ fuel ≥ N, conduct env m fuel style r s =
        (some (result ((r.evaluate env).run s.books).1), s')) ∧
      s'.books = ((r.evaluate env).run s.books).2 := by
  let made := (create style r s).2
  have hmade : made.programs[s.programs.length]? = some ⟨style, .created r⟩ := by
    simp [made, create]
  obtain ⟨form, hform, rfl⟩ := htakes made s.programs.length (by rw [style?, hmade]; rfl)
  obtain ⟨s', ⟨h, hg, hs⟩, hbooks, -⟩ := start_leads env r hmade hform
  obtain ⟨N, hconduct⟩ := Run.conduct_of_goes hg hs
  exact ⟨N, s', fun fuel hfuel => Run.conduct_mono hconduct hfuel, hbooks⟩

/-- Runs one after the other come to what can be read. -/
lemma inTurn_evaluates (rs : List (Routine Item)) (s : Site) : ∃ N s',
    (∀ fuel ≥ N, inTurn env fuel rs s =
      ((evaluateAll env rs s.books).1.map fun x => some (result x), s')) ∧
    s'.books = (evaluateAll env rs s.books).2 := by
  induction rs generalizing s with
  | nil => exact ⟨0, s, fun _ _ => rfl, rfl⟩
  | cons r rs ih =>
    obtain ⟨N₁, s₁, hr, hbooks₁⟩ := conduct_evaluates env takes_async r s
    obtain ⟨N₂, s₂, hrs, hbooks₂⟩ := ih s₁
    rw [evaluateAll_cons, ← hbooks₁]
    refine ⟨max N₁ N₂, s₂, fun fuel hfuel => ?_, hbooks₂⟩
    have hhead := hr fuel (Nat.le_trans (Nat.le_max_left ..) hfuel)
    have hrest := hrs fuel (Nat.le_trans (Nat.le_max_right ..) hfuel)
    rw [inTurn] at hrest ⊢
    simp [List.mapM_cons, bind, StateT.bind, hhead, hrest, pure_apply]

/-- Runs that are started together come to what can be read, in the order in which they are in the
queue. -/
lemma serve_evaluates {rs : List (Routine Item)} {places : List ℕ} {c : Crowd Item Mishap ℕ Site}
    (hlength : places.length = rs.length) (hnodup : places.Nodup)
    (hcreated : ∀ p ∈ places.zip rs, c.state.programs[p.1]? = some ⟨.async, .created p.2⟩)
    (hbegun : ∀ i ∈ places, c.parties i = .begun .cooperative (.program i)) :
    ∃ n c', (Crowd.serve .cooperative (host env).attends)^[n] (c, places) = (c', []) ∧
      places.map (fun i => (c'.parties i).run) =
        (evaluateAll env rs c.state.books).1.map (fun x => .over (result x)) ∧
      c'.state.books = (evaluateAll env rs c.state.books).2 ∧
      ∀ j ∉ places, c'.parties j = c.parties j := by
  induction rs generalizing places c with
  | nil =>
    obtain rfl := List.length_eq_zero_iff.1 hlength
    exact ⟨0, c, rfl, rfl, rfl, fun _ _ => rfl⟩
  | cons r rs ih =>
    obtain ⟨i, places, rfl⟩ := List.exists_cons_of_length_eq_add_one hlength
    obtain ⟨hi, hplaces⟩ := List.nodup_cons.1 hnodup
    rw [List.zip_cons_cons, List.forall_mem_cons] at hcreated
    obtain ⟨hfirst, hothers⟩ := hcreated
    -- The first run is conducted to its end.
    obtain ⟨form, hform, hvia⟩ := takes_async c.state i (by rw [style?, hfirst]; rfl)
    obtain ⟨s₁, ⟨h, hg, hs⟩, hbooks₁, hspares⟩ := start_leads env r (hvia ▸ hfirst) hform
    obtain ⟨n₁, k, hn₁⟩ := serve_leads places (hbegun i List.mem_cons_self) hg hs
    let x := result ((r.evaluate env).run c.state.books).1
    let c₁ : Crowd Item Mishap ℕ Site := ⟨Function.update c.parties i ⟨.over x, k⟩, s₁⟩
    have hne : ∀ j ∈ places, j ≠ i := fun j hj hji => hi (hji ▸ hj)
    have hcreated₁ : ∀ p ∈ places.zip rs,
        c₁.state.programs[p.1]? = some ⟨.async, .created p.2⟩ := by
      intro p hp
      have hlt := (List.getElem?_eq_some_iff.1 (hothers p hp)).1
      exact (hspares.others hlt (hne _ (List.of_mem_zip hp).1)).trans (hothers p hp)
    have hbegun₁ : ∀ j ∈ places, c₁.parties j = .begun .cooperative (.program j) := fun j hj =>
      (Function.update_of_ne (hne j hj) ..).trans (hbegun j (List.mem_cons_of_mem _ hj))
    obtain ⟨n₂, c₂, hn₂, hruns, hbooks₂, hrest⟩ :=
      ih (Nat.succ_inj.1 hlength) hplaces hcreated₁ hbegun₁
    rw [evaluateAll_cons, ← hbooks₁]
    refine ⟨n₂ + n₁, c₂, ?_, ?_, hbooks₂, fun j hj => ?_⟩
    · rw [Function.iterate_add_apply, hn₁, hn₂]
    · rw [List.map_cons, List.map_cons, hruns, hrest i hi]
      simp [c₁, x]
    · obtain ⟨hji, hj⟩ := List.ne_and_not_mem_of_not_mem_cons hj
      exact (hrest j hj).trans (Function.update_of_ne hji ..)

/-- New programs are put behind all others. -/
lemma mapM_create (rs : List (Routine Item)) (s : Site) : (rs.mapM (create .async) s).2 =
    { s with programs := s.programs ++ rs.map fun r => ⟨.async, .created r⟩ } := by
  induction rs generalizing s with
  | nil => simp [pure_apply]
  | cons r rs ih =>
    have hcons : ((r :: rs).mapM (create .async) s).2 =
        (rs.mapM (create .async) (create .async r s).2).2 := by
      rw [List.mapM_cons]
      rfl
    rw [hcons, ih]
    simp [create]

/-- Runs that are started together come to what can be read one after the other. -/
lemma together_evaluates (rs : List (Routine Item)) (s : Site) : ∃ N c,
    (∀ turns ≥ N, together env turns rs s = (c, [])) ∧
    (List.range' s.programs.length rs.length).map (fun i => (c.parties i).run) =
      (evaluateAll env rs s.books).1.map (fun x => .over (result x)) ∧
    c.state.books = (evaluateAll env rs s.books).2 := by
  let started : Crowd Item Mishap ℕ Site :=
    .begun .cooperative .program (rs.mapM (create .async) s).2
  have hbooks : started.state.books = s.books := by simp [started, Crowd.begun, mapM_create]
  have hcreated : ∀ p ∈ (List.range' s.programs.length rs.length).zip rs,
      started.state.programs[p.1]? = some ⟨.async, .created p.2⟩ := by
    intro p hp
    obtain ⟨k, hk⟩ := List.mem_iff_getElem?.1 hp
    obtain ⟨hplace, hr⟩ := List.getElem?_zip_eq_some.1 hk
    obtain ⟨hlt, hplace⟩ := List.getElem?_eq_some_iff.1 hplace
    rw [List.getElem_range', Nat.one_mul] at hplace
    simp only [started, Crowd.begun, mapM_create, ← hplace]
    rw [List.getElem?_append_right (Nat.le_add_right ..), Nat.add_sub_cancel_left]
    simp [hr]
  obtain ⟨N, c, hserve, hruns, hc, -⟩ := serve_evaluates env (c := started)
    List.length_range' List.nodup_range' hcreated fun _ _ => rfl
  rw [hbooks] at hruns hc
  refine ⟨N, c, fun turns hturns => ?_, hruns, hc⟩
  obtain ⟨more, rfl⟩ := Nat.exists_eq_add_of_le' hturns
  rw [together, Function.iterate_add_apply]
  exact (congrArg _ hserve).trans (Function.iterate_fixed rfl more)

/-- In turn or together, runs come to what can be read. -/
lemma all_evaluate {rs : List (Routine Item)} {s : Site} {xs : List (Except Trouble Item)}
    {b : Books} (h : evaluateAll env rs s.books = (xs, b)) :
    (∃ N s', (∀ fuel ≥ N, inTurn env fuel rs s = (xs.map fun x => some (result x), s')) ∧
      s'.books = b) ∧
    ∃ N c, (∀ turns ≥ N, together env turns rs s = (c, [])) ∧
      (List.range' s.programs.length rs.length).map (fun i => (c.parties i).run) =
        xs.map (fun x => .over (result x)) ∧
      c.state.books = b := by
  have hinTurn := inTurn_evaluates env rs s
  have htogether := together_evaluates env rs s
  rw [h] at hinTurn htogether
  exact ⟨hinTurn, htogether⟩

end Site

/-! ### Registering users -/

section

open Registration

variable {env : Bindings String Item}

/-- The routine that registers a user of this name. -/
def enrol (name : String) : Routine Item := registerUser (.text name)

/-- The books after some users were registered with a new database. -/
def Books.after (names printed : List String) : Books where
  tables := ⟨[("users", names.map fun name => [.text name])]⟩
  printed := printed ++ names.map fun name => "registered " ++ name

lemma stores_insertion : storesUser "INSERT INTO users (name) VALUES (?)" = true := by
  decide +kernel

/-- The only table has one more row, and there is one more line. -/
lemma after_users (names printed : List String) : (Books.after names printed).tables.get? "users" =
    some (names.map fun name => [.text name]) := by
  simp [Books.after, Bindings.get?, Bindings.find?]

/-- The number of users is the number of names. -/
lemma evaluate_userCount (hdatabase : env.get? "Database" = some .database)
    (names printed : List String) : (userCount.evaluate env).run (.after names printed) =
      (.ok (.number names.length), .after names printed) := by
  have hcount := Books.call_count (after_users names printed)
  simp [userCount, Routine.evaluate, hdatabase, hcount]

/-- A user is stored in a row, and gets the next number. -/
lemma evaluate_enrol (hlogger : env.get? "Logger" = some .logger)
    (hdatabase : env.get? "Database" = some .database) (name : String)
    (names printed : List String) :
    ((enrol name).evaluate env).run (.after names printed) =
      (.ok (.number (names.length + 1)), .after (names ++ [name]) printed) := by
  have hinsertion := Books.await_insertion stores_insertion (after_users names printed) (.text name)
  have hcount := evaluate_userCount hdatabase (names ++ [name]) printed
  have hafter : Books.mk ((Books.after names printed).tables.put "users"
      ((names.map fun name => [.text name]) ++ [[.text name]]))
      ((Books.after names printed).printed ++ ["registered " ++ name]) =
        .after (names ++ [name]) printed := by
    simp [Books.after, Bindings.put, Bindings.insert]
  simp [enrol, registerUser, Routine.evaluate, hlogger, hdatabase, clerk_bind, hinsertion,
    Books.describe_text, Books.call_info, hafter, hcount]

/-- Users get the next numbers in order. -/
lemma evaluate_enrolments (hlogger : env.get? "Logger" = some .logger)
    (hdatabase : env.get? "Database" = some .database) (names before printed : List String) :
    evaluateAll env (names.map enrol) (.after before printed) =
      ((List.range' (before.length + 1) names.length).map fun n => .ok (.number n),
        .after (before ++ names) printed) := by
  induction names generalizing before with
  | nil => simp [evaluateAll, pure_apply]
  | cons name names ih =>
    rw [List.map_cons, evaluateAll_cons, evaluate_enrol hlogger hdatabase, ih]
    simp [List.range'_succ]

/-- The first service that is asked for and is not there. -/
def firstMissing (env : Bindings String Item) : Option String :=
  ["Logger", "Database"].find? fun service => !env.contains service

/-- Without a service nobody is registered, and nothing is printed. -/
lemma evaluate_enrol_missing {service : String} (hmissing : firstMissing env = some service)
    (name : String) (b : Books) : ((enrol name).evaluate env).run b =
      (.error (.complaint (.notProvided (.text service))), b) := by
  have hcases : env.get? "Logger" = none ∧ "Logger" = service ∨
      (env.get? "Logger").isSome = true ∧ env.get? "Database" = none ∧ "Database" = service := by
    simpa [firstMissing, Bindings.contains] using hmissing
  obtain ⟨hlogger, rfl⟩ | ⟨hlogger, hdatabase, rfl⟩ := hcases
  · simp [enrol, registerUser, Routine.evaluate, hlogger]
  · obtain ⟨v, hlogger⟩ := Option.isSome_iff_exists.1 hlogger
    simp [enrol, registerUser, Routine.evaluate, hlogger, hdatabase]

lemma evaluate_enrolments_missing {service : String} (hmissing : firstMissing env = some service)
    (names : List String) (b : Books) : evaluateAll env (names.map enrol) b =
      (names.map fun _ => .error (.complaint (.notProvided (.text service))), b) := by
  induction names with
  | nil => rfl
  | cons name names ih =>
    rw [List.map_cons, evaluateAll_cons, evaluate_enrol_missing hmissing, ih, List.map_cons]

/-- **Registration counts every user once.** There is an environment, and there may already be any
programs. The database of the environment is new, and lines may already be printed.

* If a logger and a database are provided, then users who are registered one after the other get the
  numbers from one in order, each is in a row of the only table, and one line is printed for each.
  The same happens if all the runs are started together in this order. The count of users is the
  number of names then, in either manner of driving.
* If a service is missing, then every one of these runs fails with the error that the first missing
  one is not provided. Whatever the books are, they stay as they are. A count of users fails if
  there is no database. -/
theorem registration_counts_every_user (env : Bindings String Item) (names : List String)
    (s : Site) :
    let places := List.range' s.programs.length names.length
    (env.get? "Logger" = some .logger → env.get? "Database" = some .database →
      ∀ printed, s.books = .fresh printed →
        let counts : List (Except Mishap Item) :=
          (List.range' 1 names.length).map fun n => .ok (.number n)
        (∃ N s', (∀ fuel ≥ N, Site.inTurn env fuel (names.map enrol) s = (counts.map some, s')) ∧
          s'.books = .after names printed) ∧
        (∃ N c, (∀ turns ≥ N, Site.together env turns (names.map enrol) s = (c, [])) ∧
          (places.map fun i => (c.parties i).run) = counts.map .over ∧
          c.state.books = .after names printed) ∧
        ∀ (m : Manner) (t : Site), t.books = .after names printed →
          ∃ N t', (∀ fuel ≥ N, Site.conduct env m fuel .sync userCount t =
            (some (.ok (.number names.length)), t')) ∧ t'.books = t.books) ∧
    (∀ service, firstMissing env = some service →
      let e : Mishap := .trouble (.complaint (.notProvided (.text service)))
      (∃ N s', (∀ fuel ≥ N, Site.inTurn env fuel (names.map enrol) s =
          (names.map fun _ => some (.error e), s')) ∧ s'.books = s.books) ∧
        ∃ N c, (∀ turns ≥ N, Site.together env turns (names.map enrol) s = (c, [])) ∧
          (places.map fun i => (c.parties i).run) = (names.map fun _ => .over (.error e)) ∧
          c.state.books = s.books) ∧
    (env.get? "Database" = none → ∀ m : Manner, ∃ N s',
      (∀ fuel ≥ N, Site.conduct env m fuel .sync userCount s =
        (some (.error (.trouble (.complaint (.notProvided (.text "Database"))))), s')) ∧
      s'.books = s.books) := by
  intro places
  refine ⟨fun hlogger hdatabase printed hfresh => ?_, fun service hmissing => ?_,
    fun hdatabase m => ?_⟩
  · intro counts
    let xs : List (Except Trouble Item) := (List.range' 1 names.length).map fun n => .ok (.number n)
    have hall : evaluateAll env (names.map enrol) s.books = (xs, .after names printed) := by
      have hbefore : s.books = .after [] printed := by
        rw [hfresh]
        simp [Books.fresh, Books.after, tables]
      rw [hbefore]
      exact evaluate_enrolments hlogger hdatabase names [] printed
    have hsome : counts.map some = xs.map fun x => some (Site.result x) := by
      rw [List.map_map, List.map_map]
      rfl
    have hover : counts.map Run.over = xs.map fun x => .over (Site.result x) := by
      rw [List.map_map, List.map_map]
      rfl
    obtain ⟨hinTurn, htogether⟩ := Site.all_evaluate env hall
    rw [List.length_map] at htogether
    rw [hsome, hover]
    refine ⟨hinTurn, htogether, fun m t ht => ?_⟩
    have hcount := evaluate_userCount hdatabase names printed
    obtain ⟨N, t', hconduct, hbooks⟩ := Site.conduct_evaluates env (Site.takes_sync m) userCount t
    rw [ht, hcount] at hconduct hbooks
    exact ⟨N, t', hconduct, hbooks.trans ht.symm⟩
  · intro e
    obtain ⟨hinTurn, htogether⟩ :=
      Site.all_evaluate env (evaluate_enrolments_missing hmissing names s.books)
    rw [List.map_map] at hinTurn htogether
    rw [List.length_map] at htogether
    exact ⟨hinTurn, htogether⟩
  · have hmissing : (userCount.evaluate env).run s.books =
        (.error (.complaint (.notProvided (.text "Database"))), s.books) := by
      simp [userCount, Routine.evaluate, hdatabase]
    obtain ⟨N, s', hconduct, hbooks⟩ := Site.conduct_evaluates env (Site.takes_sync m) userCount s
    rw [hmissing] at hconduct hbooks
    exact ⟨N, s', hconduct, hbooks⟩

/-- Alice and Bob get the first two numbers, in order or together, and if there is only a logger
they get none. -/
theorem two_users_are_counted :
    let env : Bindings String Item := ⟨[("Logger", .logger), ("Database", .database)]⟩
    let bare : Bindings String Item := ⟨[("Logger", .logger)]⟩
    let names := ["alice", "bob"]
    let s : Site := ⟨.fresh [], []⟩
    let e : Mishap := .trouble (.complaint (.notProvided (.text "Database")))
    (∃ N s', (∀ fuel ≥ N, Site.inTurn env fuel (names.map enrol) s =
        ([some (.ok (.number 1)), some (.ok (.number 2))], s')) ∧
      s'.books = .after names [] ∧
      ∃ M t, (∀ fuel ≥ M, Site.conduct env .blocking fuel .sync userCount s' =
        (some (.ok (.number 2)), t)) ∧ t.books = .after names []) ∧
    (∃ N c, (∀ turns ≥ N, Site.together env turns (names.map enrol) s = (c, [])) ∧
      (c.parties 0).run = .over (.ok (.number 1)) ∧ (c.parties 1).run = .over (.ok (.number 2)) ∧
      c.state.books = .after names []) ∧
    (∃ N s', (∀ fuel ≥ N, Site.inTurn bare fuel (names.map enrol) s =
      ([some (.error e), some (.error e)], s')) ∧ s'.books = s.books) ∧
    ∃ N s', (∀ fuel ≥ N, Site.conduct bare .cooperative fuel .sync userCount s =
      (some (.error e), s')) ∧ s'.books = s.books := by
  intro env bare names s e
  have hlogger : env.get? "Logger" = some .logger := by
    simp [env, Bindings.get?, Bindings.find?]
  have hdatabase : env.get? "Database" = some .database := by
    simp [env, Bindings.get?, Bindings.find?]
  have hmissing : firstMissing bare = some "Database" := by
    simp [firstMissing, bare, Bindings.contains, Bindings.get?, Bindings.find?]
  have hnone : bare.get? "Database" = none := by
    simp [bare, Bindings.get?, Bindings.find?]
  obtain ⟨⟨N, s', hinTurn, hbooks⟩, ⟨M, c, htogether, hruns, hstate⟩, hcount⟩ :=
    (registration_counts_every_user env names s).1 hlogger hdatabase [] rfl
  obtain ⟨K, t, hconduct, ht⟩ := hcount .blocking s' hbooks
  obtain ⟨hrefused, -⟩ := (registration_counts_every_user bare names s).2.1 "Database" hmissing
  have hpair : [(c.parties 0).run, (c.parties 1).run] =
      [.over (.ok (.number 1)), .over (.ok (.number 2))] := hruns
  obtain ⟨hzero, hone⟩ : (c.parties 0).run = .over (.ok (.number 1)) ∧
      (c.parties 1).run = .over (.ok (.number 2)) := by simpa using hpair
  exact ⟨⟨N, s', hinTurn, hbooks, K, t, hconduct, ht.trans hbooks⟩,
    ⟨M, c, htogether, hzero, hone, hstate⟩, hrefused,
    (registration_counts_every_user bare names s).2.2 hnone .cooperative⟩

end

end Provision
