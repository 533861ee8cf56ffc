import Chip8.Session

/-!
# The level of the console

A console only prints.  What a request does to a session and what it answers is the same under any
console (`Session.onState_withConsole`, `Session.onMachine_withConsole`), and so is what it has to
say: the level decides which of these messages are printed.  So a session with a quieter console
goes the same way, and prints of the messages of the other session those that are severe enough
(`level_only_filters`).
-/

namespace Chip8

/-! ## Messages -/

/-- The messages that a request to a state sends, printed or not. -/
def State.messages (s : State) (host : Host) : StateRequest → List Message
  | .loadProgram content => (s.loadProgram (.bytes content)).messages
  | .loadValue v => (s.loadValue host v).messages
  | .loadFile path => (s.loadFile host path).messages
  | .execute word => (s.executeInt word).messages
  | .step strict => (s.step strict).messages
  | .run n _ => (s.run n).messages
  | .raiseFault => s.raiseFault.messages
  | .setKeys flags => (s.setKeys flags).messages
  | .setPressed codes => (s.setPressed codes).messages
  | _ => []

/-- The messages that a request to a machine sends, printed or not. -/
def Machine.messages (m : Machine) (host : Host) : MachineRequest → List Message
  | .loadProgram content => (m.loadProgram (.bytes content)).messages
  | .loadValue v => (m.loadValue v).messages
  | .loadFile path => (m.loadFile host path).messages
  | .reset => (m.reset host).messages
  | .step strict => (m.step strict).messages
  | .run n _ => (m.run n).messages
  | .runFrame => m.frame.messages
  | .setKeys flags => (m.setKeys flags).messages
  | .setPressed codes => (m.setPressed codes).messages
  | .tick => m.tick.messages
  | _ => []

theorem Machine.runWithProgress_fst (m : Machine) (n : Nat) : (m.runWithProgress n).1 = m.run n :=
  congrArg m.adoptChecked (m.state.runWithProgress_fst n)

namespace Console

variable {c d : Console}

/-- What a louder console leaves out, a quieter one leaves out as well. -/
theorem filter_shows_filter (h : c.threshold.rank ≤ d.threshold.rank) (messages : List Message) :
    (messages.filter c.shows).filter d.shows = messages.filter d.shows := by
  rw [List.filter_filter]
  refine List.filter_congr fun m _ => ?_
  simp only [shows, Bool.and_eq_left_iff_imp, decide_eq_true_eq]
  intro hm
  exact Nat.le_trans h hm

theorem lines_filter (h : c.threshold.rank ≤ d.threshold.rank) (messages : List Message) :
    d.lines (messages.filter c.shows) = d.lines messages := by
  rw [lines, lines, filter_shows_filter h]

end Console

/-! ## One request -/

namespace Session

variable {σ : Type}

/-- A session with another console. -/
def withConsole (s : Session σ) (c : Console) : Session σ := { s with console := c }

/-- A session with its console at another level. -/
def atLevel (s : Session σ) (level : String) : Session σ :=
  s.withConsole { s.console with level := level }

theorem onState_withConsole (s : Session State) (r : StateRequest) (c : Console) :
    (s.withConsole c).onState r =
      ((s.onState r).1.withConsole c,
        { (s.onState r).2 with lines := c.lines (s.subject.messages s.host r) }) := by
  cases r with
  | run n progress =>
    cases progress with
    | false => rfl
    | true =>
      simp only [onState, ofOutcome, State.messages, ← State.runWithProgress_fst]
      rfl
  | frame on =>
    simp only [onState, withConsole]
    split
    · rfl
    · rfl
  | _ => rfl

theorem onMachine_withConsole (s : Session Machine) (r : MachineRequest) (c : Console) :
    (s.withConsole c).onMachine r =
      ((s.onMachine r).1.withConsole c,
        { (s.onMachine r).2 with lines := c.lines (s.subject.messages s.host r) }) := by
  cases r with
  | run n progress =>
    cases progress with
    | false => rfl
    | true =>
      simp only [onMachine, ofResponse, Machine.messages, ← Machine.runWithProgress_fst]
      rfl
  | instructionsPerFrame =>
    simp only [onMachine, withConsole]
    split
    · rfl
    · rfl
  | _ => rfl

/-- An operation on the folder does not look at the console. -/
theorem ofFolder_withConsole (s : Session σ) (path : String) (r : Except FileRefusal Folder)
    (c : Console) :
    (s.withConsole c).ofFolder path r =
      ((s.ofFolder path r).1.withConsole c, (s.ofFolder path r).2) := by
  unfold ofFolder
  split
  · rfl
  · split
    · rfl
    · rfl

end Session

/-! ## Levels by name -/

/-- Whether a request sets the level of the console. -/
def DeskRequest.setsLevel : DeskRequest → Bool
  | .setLevel (.text name) => (Severity.ofName? (Text.upper name)).isSome
  | _ => false

namespace Severity

theorem ofName?_eq_none {name : String} (h : ∀ level : Severity, name ≠ level.name) :
    ofName? name = none := by
  refine List.find?_eq_none.2 fun level _ hname => ?_
  exact h level (eq_of_beq hname).symm

end Severity

namespace Session

variable {σ : Type}

theorem setLevel_of_none (s : Session σ) (display : Display) {name : String}
    (h : Severity.ofName? (Text.upper name) = none) :
    s.desk display (.setLevel (.text name)) =
      (s, { failure := some (.console (.unknownLevel name)) }) := by
  have hlevel : s.console.setLevel name = .error (.unknownLevel name) := by
    rw [Console.setLevel, Console.setLevel?, h]
    rfl
  have hset : s.console.perform none (.setLevel (.text name)) = .error (.unknownLevel name) := by
    change (s.console.setLevel name).bind _ = _
    rw [hlevel]
    rfl
  simp only [desk, hset]

/-- Requests to the folder print nothing. -/
theorem desk_withConsole (s : Session σ) (display : Display) {r : DeskRequest}
    (hr : r.setsLevel = false) (c : Console) :
    (s.withConsole c).desk display r =
      ((s.desk display r).1.withConsole c, (s.desk display r).2) := by
  cases r with
  | write path bytes => exact s.ofFolder_withConsole path _ c
  | delete path => exact s.ofFolder_withConsole path _ c
  | save path scale =>
    simp only [desk, withConsole]
    split
    · rfl
    · rfl
  | setLevel level =>
    cases level with
    | text name =>
      have hnone : Severity.ofName? (Text.upper name) = none := Option.not_isSome_iff_eq_none.1
        (Bool.eq_false_iff.1 hr)
      rw [setLevel_of_none _ _ hnone, setLevel_of_none _ _ hnone]
    | _ => rfl

theorem lines_desk (s : Session σ) (display : Display) (r : DeskRequest) :
    (s.desk display r).2.lines = [] := by
  cases r with
  | write path bytes | delete path =>
    simp only [desk, ofFolder]
    repeat' split
    all_goals rfl
  | save path scale | setLevel level =>
    simp only [desk]
    split
    all_goals rfl

end Session

/-! ## Requests one after the other -/

/-- A request to a session: to its folder and its console, or to its subject. -/
inductive SessionRequest (ρ : Type) where
  | desk (r : DeskRequest)
  | subject (r : ρ)

/-- Whether a request sets the level of the console. -/
def SessionRequest.setsLevel {ρ : Type} : SessionRequest ρ → Bool
  | .desk r => r.setsLevel
  | .subject _ => false

/-- What can be in the hands of a host: how it fulfils requests, and the messages that it sends on
the way.  It uses the console only to print these. -/
structure Subject (σ ρ : Type) where
  display : σ → Display
  fulfil : Session σ → ρ → Session σ × Reply
  messages : σ → Host → ρ → List Message
  fulfil_withConsole (s : Session σ) (r : ρ) (c : Console) :
    fulfil (s.withConsole c) r =
      ((fulfil s r).1.withConsole c,
        { (fulfil s r).2 with lines := c.lines (messages s.subject s.host r) })

/-- What a request leaves: the subject and the folder after it, the reply, and the messages that
were printed. -/
structure Turn (σ : Type) where
  subject : σ
  host : Host
  reply : Reply
  printed : List Message

/-- A turn of which a console shows less: it prints some of the messages, and their lines. -/
def Turn.shownBy {σ : Type} (t : Turn σ) (c : Console) : Turn σ :=
  { t with
    reply := { t.reply with lines := c.lines t.printed }
    printed := t.printed.filter c.shows }

namespace Subject

/-- A state in the hands of a host. -/
def state : Subject State StateRequest where
  display s := s.display
  fulfil := Session.onState
  messages := State.messages
  fulfil_withConsole := Session.onState_withConsole

/-- A machine in the hands of a host. -/
def machine : Subject Machine MachineRequest where
  display m := m.state.display
  fulfil := Session.onMachine
  messages := Machine.messages
  fulfil_withConsole := Session.onMachine_withConsole

variable {σ ρ : Type} (k : Subject σ ρ)

/-- Fulfil a request. -/
def perform (s : Session σ) : SessionRequest ρ → Session σ × Reply
  | .desk r => s.desk (k.display s.subject) r
  | .subject r => k.fulfil s r

/-- The messages that a request sends; those to the folder and the console send none. -/
def sent (s : Session σ) : SessionRequest ρ → List Message
  | .desk _ => []
  | .subject r => k.messages s.subject s.host r

/-- What a request leaves. -/
def turn (s : Session σ) (r : SessionRequest ρ) : Turn σ where
  subject := (k.perform s r).1.subject
  host := (k.perform s r).1.host
  reply := (k.perform s r).2
  printed := (k.sent s r).filter s.console.shows

/-- What requests one after the other leave. -/
def turns : Session σ → List (SessionRequest ρ) → List (Turn σ)
  | _, [] => []
  | s, r :: rs => k.turn s r :: turns (k.perform s r).1 rs

theorem perform_withConsole (s : Session σ) {r : SessionRequest ρ} (hr : r.setsLevel = false)
    (c : Console) :
    k.perform (s.withConsole c) r =
      ((k.perform s r).1.withConsole c,
        { (k.perform s r).2 with lines := c.lines (k.sent s r) }) := by
  cases r with
  | subject r => exact k.fulfil_withConsole s r c
  | desk r =>
    have hlines := s.lines_desk (k.display s.subject) r
    refine (s.desk_withConsole (k.display s.subject) hr c).trans ?_
    change _ = (_, { (s.desk (k.display s.subject) r).2 with lines := [] })
    rw [← hlines]
    rfl

theorem perform_eq (s : Session σ) {r : SessionRequest ρ} (hr : r.setsLevel = false) :
    (k.perform s r).1.console = s.console ∧
      (k.perform s r).2.lines = s.console.lines (k.sent s r) := by
  have hself := k.perform_withConsole s hr s.console
  change k.perform s r = _ at hself
  constructor
  · exact congrArg (fun p => p.1.console) hself
  · exact congrArg (fun p => p.2.lines) hself

/-- The lines of a turn are those of the messages that were printed. -/
theorem lines_turn (s : Session σ) {r : SessionRequest ρ} (hr : r.setsLevel = false) :
    (k.turn s r).reply.lines = s.console.lines (k.turn s r).printed :=
  (k.perform_eq s hr).2.trans (Console.lines_filter (Nat.le_refl _) _).symm

theorem turn_withConsole (s : Session σ) {r : SessionRequest ρ} (hr : r.setsLevel = false)
    {c : Console} (hc : s.console.threshold.rank ≤ c.threshold.rank) :
    k.turn (s.withConsole c) r = (k.turn s r).shownBy c := by
  have hsent : k.sent (s.withConsole c) r = k.sent s r := by
    cases r with
    | desk => rfl
    | subject => rfl
  have hlines : c.lines (k.sent s r) = c.lines (k.turn s r).printed :=
    (Console.lines_filter hc (k.sent s r)).symm
  have hprinted : (k.sent s r).filter c.shows = (k.turn s r).printed.filter c.shows :=
    (Console.filter_shows_filter hc (k.sent s r)).symm
  rw [turn, k.perform_withConsole s hr, hsent, Turn.shownBy, ← hlines, ← hprinted]
  rfl

/-- A session with a quieter console goes the same way and shows less of it. -/
theorem turns_withConsole (s : Session σ) {rs : List (SessionRequest ρ)}
    (hrs : ∀ r ∈ rs, r.setsLevel = false) {c : Console}
    (hc : s.console.threshold.rank ≤ c.threshold.rank) :
    k.turns (s.withConsole c) rs = (k.turns s rs).map fun t => t.shownBy c := by
  induction rs generalizing s with
  | nil => rfl
  | cons r rs ih =>
    obtain ⟨hr, hlater⟩ := List.forall_mem_cons.1 hrs
    have hnext : (k.perform s r).1.console = s.console := (k.perform_eq s hr).1
    rw [turns, turns, List.map_cons, k.turn_withConsole s hr hc, k.perform_withConsole s hr,
      ih _ hlater (by rw [hnext]; exact hc)]

theorem lines_turns (s : Session σ) {rs : List (SessionRequest ρ)}
    (hrs : ∀ r ∈ rs, r.setsLevel = false) :
    ∀ t ∈ k.turns s rs, t.reply.lines = s.console.lines t.printed ∧
      ∀ m ∈ t.printed, s.console.threshold.rank ≤ m.severity.rank := by
  induction rs generalizing s with
  | nil => exact fun t ht => nomatch ht
  | cons r rs ih =>
    obtain ⟨hr, hlater⟩ := List.forall_mem_cons.1 hrs
    have hnext : (k.perform s r).1.console = s.console := (k.perform_eq s hr).1
    refine List.forall_mem_cons.2 ⟨⟨k.lines_turn s hr, fun m hm => ?_⟩, ?_⟩
    · exact of_decide_eq_true (List.mem_filter.1 hm).2
    · rw [← hnext]
      exact ih _ hlater

/-- Of what requests print, a session at another level prints the messages that are severe enough
for it; the subjects, folders, answers, failures, sounds and events are the same. -/
structure OnlyFilters (s : Session σ) (level : String) (rs : List (SessionRequest ρ)) : Prop where
  lines : ∀ t ∈ k.turns s rs, t.reply.lines = s.console.lines t.printed ∧
    ∀ m ∈ t.printed, s.console.threshold.rank ≤ m.severity.rank
  turns : k.turns (s.atLevel level) rs = (k.turns s rs).map fun t =>
    { t with
      reply := { t.reply with lines := (s.atLevel level).console.lines t.printed }
      printed := t.printed.filter fun m =>
        decide ((s.atLevel level).console.threshold.rank ≤ m.severity.rank) }

theorem onlyFilters (s : Session σ) {level : String} {rs : List (SessionRequest ρ)}
    (hlevel : s.console.threshold.rank ≤ (s.atLevel level).console.threshold.rank)
    (hrs : ∀ r ∈ rs, r.setsLevel = false) : k.OnlyFilters s level rs :=
  ⟨k.lines_turns s hrs, k.turns_withConsole s hrs hlevel⟩

end Subject

/-- The level of the console filters what is printed and influences nothing else.  A name that is no
level is refused and leaves the session as it was. -/
theorem level_only_filters :
    (∀ (s : Session State) (level : String) (rs : List (SessionRequest StateRequest)),
      s.console.threshold.rank ≤ (s.atLevel level).console.threshold.rank →
        (∀ r ∈ rs, r.setsLevel = false) → Subject.state.OnlyFilters s level rs) ∧
    (∀ (s : Session Machine) (level : String) (rs : List (SessionRequest MachineRequest)),
      s.console.threshold.rank ≤ (s.atLevel level).console.threshold.rank →
        (∀ r ∈ rs, r.setsLevel = false) → Subject.machine.OnlyFilters s level rs) ∧
    ∀ (σ : Type) (s : Session σ) (display : Display) (name : String),
      (∀ level : Severity, Text.upper name ≠ level.name) →
        s.desk display (.setLevel (.text name)) =
          (s, { failure := some (.console (.unknownLevel name)) }) := by
  refine ⟨fun s level rs => ?_, fun s level rs => ?_, fun σ s display name hname => ?_⟩
  · exact Subject.state.onlyFilters s
  · exact Subject.machine.onlyFilters s
  · exact s.setLevel_of_none display (Severity.ofName?_eq_none hname)

/-- A program starts the tone, executes an undefined word and returns from nowhere; the level is
asked for by an unknown name on the way. -/
theorem level_only_filters_faulty :
    let s : Session Machine := { subject := .new {} ⟨0, 0⟩, console := { level := "DEBUG" } }
    let rs : List (SessionRequest MachineRequest) :=
      [.subject (.loadProgram [0x60, 0x01, 0xF0, 0x18, 0x80, 0x0F, 0x00, 0xEE]),
        .subject (.run 3 false), .desk (.setLevel (.text "loud")), .subject .tick,
        .subject (.step true)]
    (Subject.machine.turns s rs).map (fun t => t.printed.map Message.severity) =
      [[.debug], [.warning, .debug], [], [.debug], [.error]] ∧
    s.console.threshold.rank ≤ (s.atLevel "WARNING").console.threshold.rank ∧
    (∀ r ∈ rs, r.setsLevel = false) ∧ Subject.machine.OnlyFilters s "WARNING" rs ∧
    (∀ level : Severity, Text.upper "loud" ≠ level.name) ∧
    s.desk .blank (.setLevel (.text "loud")) =
      (s, { failure := some (.console (.unknownLevel "loud")) }) := by
  intro s rs
  have hprinted : (Subject.machine.turns s rs).map (fun t => t.printed.map Message.severity) =
      [[.debug], [.warning, .debug], [], [.debug], [.error]] := by
    decide +kernel
  have hlevel : s.console.threshold.rank ≤ (s.atLevel "WARNING").console.threshold.rank := by
    decide
  have hrs : ∀ r ∈ rs, r.setsLevel = false := by
    decide
  have hname : ∀ level : Severity, Text.upper "loud" ≠ level.name := by
    intro level
    cases level with
    | _ => decide
  obtain ⟨-, hmachine, hunknown⟩ := level_only_filters
  exact ⟨hprinted, hlevel, hrs, hmachine s "WARNING" rs hlevel hrs, hname,
    hunknown Machine s .blank "loud" hname⟩

end Chip8
