import LessonAudit.Rendering
import Mathlib.Logic.Function.Basic
set_option autoImplicit false

namespace LessonAudit.Exchange

inductive Stream where
  | out
  | err
deriving DecidableEq, Repr

structure Pipe where
  room : Nat
  held : List UInt8
  positive : 0 < room
  fits : held.length ≤ room

namespace Pipe

def empty (room : Nat) (positive : 0 < room) : Pipe :=
  ⟨room, [], positive, Nat.zero_le room⟩

def free (p : Pipe) : Nat :=
  p.room - p.held.length

def put (p : Pipe) (bytes : List UInt8) (enough : bytes.length ≤ p.free) : Pipe where
  room := p.room
  held := p.held ++ bytes
  positive := p.positive
  fits := by
    have := p.fits
    unfold free at enough
    rw [List.length_append]
    omega

def drop (p : Pipe) (count : Nat) : Pipe where
  room := p.room
  held := p.held.drop count
  positive := p.positive
  fits := by
    have := p.fits
    rw [List.length_drop]
    omega

variable (p : Pipe)

@[simp] theorem held_empty (room : Nat) (positive : 0 < room) : (empty room positive).held = [] :=
  rfl

@[simp] theorem held_put (bytes : List UInt8) (enough : bytes.length ≤ p.free) :
    (p.put bytes enough).held = p.held ++ bytes :=
  rfl

@[simp] theorem held_drop (count : Nat) : (p.drop count).held = p.held.drop count :=
  rfl

theorem free_pos_of_held_nil (nothing : p.held = []) : 0 < p.free := by
  have := p.positive
  simpa [free, nothing] using this

theorem free_drop_length_pos : 0 < (p.drop p.held.length).free := by
  refine free_pos_of_held_nil _ ?_
  rw [held_drop, List.drop_length]

end Pipe

-- What a renderer wants to do next, and how it goes on by what comes of it. It reads `some []` at
-- the end of its input. What it wants to write may be taken in part. It gets `none` where its own
-- end is closed, or nobody reads what it writes.
inductive Want (σ : Type) where
  | read (limit : Nat) (next : Option (List UInt8) → σ)
  | write (stream : Stream) (bytes : List UInt8) (next : Option Nat → σ)
  | closeInput (next : σ)
  | close (stream : Stream) (next : σ)
  | work (next : σ)
  | exit (ending : Ending)

structure Behaviour (σ : Type) where
  first : σ
  wants : σ → Want σ → Prop

structure Live (σ : Type) where
  state : σ
  reads : Bool
  writes : Stream → Bool
  wrote : Stream → List UInt8

inductive Child (σ : Type) where
  | live (l : Live σ)
  | ended (o : Outcome)

namespace Child

variable {σ : Type}

def fresh (b : Behaviour σ) : Child σ :=
  live ⟨b.first, true, fun _ => true, fun _ => []⟩

def reads : Child σ → Bool
  | live l => l.reads
  | ended _ => false

def writes : Child σ → Stream → Bool
  | live l => l.writes
  | ended _ => fun _ => false

def wrote : Child σ → Stream → List UInt8
  | live l => l.wrote
  | ended o => fun
    | .out => o.stdout
    | .err => o.stderr

end Child

def Live.outcome {σ : Type} (l : Live σ) (ending : Ending) : Outcome :=
  ⟨ending, l.wrote .out, l.wrote .err⟩

@[simp] theorem Live.wrote_outcome {σ : Type} (l : Live σ) (ending : Ending) :
    (Child.ended (σ := σ) (l.outcome ending)).wrote = l.wrote := by
  funext stream
  cases stream <;> rfl

inductive Writer where
  | writing (rest : List UInt8)
  | done (written : Except String Unit)

def Writer.isDone : Writer → Bool
  | writing _ => false
  | done _ => true

structure Caller where
  got : Stream → List UInt8
  finished : Stream → Bool
  output : Option (Except String Outcome)

def Caller.fresh : Caller :=
  ⟨fun _ => [], fun _ => false, none⟩

structure State (σ : Type) where
  writer : Writer
  child : Child σ
  caller : Caller
  input : Pipe
  outputs : Stream → Pipe

section Steps

variable {σ : Type}

inductive Feeds (s : State σ) : State σ → Prop
  | push (front rest : List UInt8) (writing : s.writer = .writing (front ++ rest))
      (nonempty : front ≠ []) (enough : front.length ≤ s.input.free)
      (read : s.child.reads = true) :
      Feeds s { s with writer := .writing rest, input := s.input.put front enough }
  | shut (writing : s.writer = .writing []) : Feeds s { s with writer := .done (.ok ()) }
  | broken (rest : List UInt8) (writing : s.writer = .writing rest) (nonempty : rest ≠ [])
      (unread : s.child.reads = false) : Feeds s { s with writer := .done (.ok ()) }

inductive Drains (s : State σ) : State σ → Prop
  | take (stream : Stream) (count : Nat) (waiting : s.caller.output = none)
      (unfinished : s.caller.finished stream = false) (positive : 0 < count)
      (there : count ≤ (s.outputs stream).held.length) :
      Drains s { s with
        caller := { s.caller with
          got := Function.update s.caller.got stream
            (s.caller.got stream ++ (s.outputs stream).held.take count) }
        outputs := Function.update s.outputs stream ((s.outputs stream).drop count) }
  | finish (stream : Stream) (waiting : s.caller.output = none)
      (unfinished : s.caller.finished stream = false) (nothing : (s.outputs stream).held = [])
      (closed : s.child.writes stream = false) :
      Drains s { s with
        caller := { s.caller with finished := Function.update s.caller.finished stream true } }
  | collect (o : Outcome) (waiting : s.caller.output = none)
      (finished : ∀ stream, s.caller.finished stream = true) (ended : s.child = .ended o) :
      Drains s { s with
        caller := { s.caller with
          output := some (.ok ⟨o.ending, s.caller.got .out, s.caller.got .err⟩) } }

-- What a renderer at work can do of what it wants. It waits where no constructor applies.
inductive Does (s : State σ) (l : Live σ) : Want σ → State σ → Prop
  | receive (limit count : Nat) (next : Option (List UInt8) → σ) (opened : l.reads = true)
      (positive : 0 < count) (allowed : count ≤ limit) (there : count ≤ s.input.held.length) :
      Does s l (.read limit next) { s with
        child := .live { l with state := next (some (s.input.held.take count)) }
        input := s.input.drop count }
  | receiveEnd (limit : Nat) (next : Option (List UInt8) → σ) (opened : l.reads = true)
      (exhausted : limit = 0 ∨ s.input.held = [] ∧ s.writer.isDone = true) :
      Does s l (.read limit next) { s with child := .live { l with state := next (some []) } }
  | receiveNone (limit : Nat) (next : Option (List UInt8) → σ) (closed : l.reads = false) :
      Does s l (.read limit next) { s with child := .live { l with state := next none } }
  | send (stream : Stream) (front rest : List UInt8) (next : Option Nat → σ)
      (opened : l.writes stream = true) (read : s.caller.output = none) (nonempty : front ≠ [])
      (enough : front.length ≤ (s.outputs stream).free) :
      Does s l (.write stream (front ++ rest) next) { s with
        child := .live { l with
          state := next (some front.length)
          wrote := Function.update l.wrote stream (l.wrote stream ++ front) }
        outputs := Function.update s.outputs stream ((s.outputs stream).put front enough) }
  | sendNothing (stream : Stream) (next : Option Nat → σ) :
      Does s l (.write stream [] next) { s with
        child := .live { l with state := next (some 0) } }
  | sendNone (stream : Stream) (bytes : List UInt8) (next : Option Nat → σ)
      (unread : l.writes stream = false ∨ s.caller.output ≠ none) :
      Does s l (.write stream bytes next) { s with
        child := .live { l with state := next none } }
  | closeInput (next : σ) :
      Does s l (.closeInput next) { s with
        child := .live { l with state := next, reads := false } }
  | close (stream : Stream) (next : σ) :
      Does s l (.close stream next) { s with
        child := .live { l with
          state := next, writes := Function.update l.writes stream false } }
  | work (next : σ) : Does s l (.work next) { s with child := .live { l with state := next } }
  | exit (ending : Ending) :
      Does s l (.exit ending) { s with child := .ended (l.outcome ending) }

inductive Helps (s : State σ) : State σ → Prop
  | feeds {t : State σ} (fed : Feeds s t) : Helps s t
  | drains {t : State σ} (drained : Drains s t) : Helps s t

inductive Step (b : Behaviour σ) (s : State σ) : State σ → Prop
  | helps {t : State σ} (helped : Helps s t) : Step b s t
  | does {t : State σ} {l : Live σ} {want : Want σ} (live : s.child = .live l)
      (wanted : b.wants l.state want) (done : Does s l want t) : Step b s t

inductive Fails (s : State σ) : State σ → Prop
  | writing (rest : List UInt8) (reason : String) (writing : s.writer = .writing rest) :
      Fails s { s with writer := .done (.error reason) }
  | waiting (reason : String) (waiting : s.caller.output = none) :
      Fails s { s with caller := { s.caller with output := some (.error reason) } }

inductive Starts (b : Behaviour σ) (body : String) : State σ → Prop
  | mk (input : Nat) (outputs : Stream → Nat) (inputPositive : 0 < input)
      (outputsPositive : ∀ stream, 0 < outputs stream) :
      Starts b body
        { writer := .writing (Text.Utf8.encode body)
          child := .fresh b
          caller := .fresh
          input := .empty input inputPositive
          outputs := fun stream => .empty (outputs stream) (outputsPositive stream) }

inductive Reachable (b : Behaviour σ) (body : String) : State σ → Prop
  | start {s : State σ} (starts : Starts b body s) : Reachable b body s
  | step {s t : State σ} (reached : Reachable b body s) (stepped : Step b s t) :
      Reachable b body t
  | fail {s t : State σ} (reached : Reachable b body s) (failed : Fails s t) : Reachable b body t

end Steps

structure State.Consistent {σ : Type} (s : State σ) : Prop where
  bytes : ∀ stream, s.child.wrote stream = s.caller.got stream ++ (s.outputs stream).held
  finished : ∀ stream, s.caller.finished stream = true →
    s.child.writes stream = false ∧ (s.outputs stream).held = []
  collected : ∀ o, s.caller.output = some (.ok o) →
    s.child = .ended o

section Consistency

variable {σ : Type} {b : Behaviour σ} {s t : State σ}

theorem Feeds.consistent (fed : Feeds s t) (consistent : s.Consistent) : t.Consistent := by
  cases fed <;> exact ⟨consistent.bytes, consistent.finished, consistent.collected⟩

theorem Drains.consistent (drained : Drains s t) (consistent : s.Consistent) :
    t.Consistent := by
  cases drained with
  | take stream count waiting unfinished positive there =>
      refine ⟨fun other => ?_, fun other finished => ?_, fun o output => ?_⟩
      · by_cases same : other = stream
        · subst same
          simp [consistent.bytes]
        · simp [same, consistent.bytes]
      · have different : other ≠ stream := by
          rintro rfl
          exact Bool.noConfusion (unfinished.symm.trans finished)
        simpa [different] using consistent.finished other finished
      · simp [waiting] at output
  | finish stream waiting unfinished nothing closed =>
      refine ⟨consistent.bytes, fun other finished => ?_, consistent.collected⟩
      by_cases same : other = stream
      · subst same
        exact ⟨closed, nothing⟩
      · exact consistent.finished other (by simpa [same] using finished)
  | collect o waiting finished ended =>
      refine ⟨consistent.bytes, consistent.finished, fun p output => ?_⟩
      have got_eq (stream : Stream) : s.child.wrote stream = s.caller.got stream := by
        simpa [(consistent.finished stream (finished stream)).2] using consistent.bytes stream
      have same : p = o := by
        rw [← Except.ok.inj (Option.some.inj output), ← got_eq, ← got_eq, ended]
        rfl
      rw [same]
      exact ended

theorem Does.consistent {l : Live σ} {want : Want σ} (live : s.child = .live l)
    (done : Does s l want t) (consistent : s.Consistent) : t.Consistent := by
  have bytes : ∀ stream, l.wrote stream = s.caller.got stream ++ (s.outputs stream).held := by
    simpa [live, Child.wrote] using consistent.bytes
  have finished : ∀ stream, s.caller.finished stream = true →
      l.writes stream = false ∧ (s.outputs stream).held = [] := by
    simpa [live, Child.writes] using consistent.finished
  -- the caller has not seen the end of a renderer that is at work
  have collected (o : Outcome) : s.caller.output ≠ some (.ok o) := by
    intro output
    have ended := consistent.collected o output
    simp [live] at ended
  cases done with
  | send stream front rest next opened read nonempty enough =>
      refine ⟨fun other => ?_, fun other seen => ?_, fun o output => absurd output (collected o)⟩
      · by_cases same : other = stream
        · subst same
          simp [Child.wrote, bytes]
        · simp [same, Child.wrote, bytes]
      · have different : other ≠ stream := by
          rintro rfl
          exact Bool.noConfusion (opened.symm.trans (finished other seen).1)
        simpa [different, Child.writes] using finished other seen
  | close stream next =>
      refine ⟨bytes, fun other seen => ⟨?_, (finished other seen).2⟩,
        fun o output => absurd output (collected o)⟩
      by_cases same : other = stream
      · simp [same, Child.writes]
      · simpa [same, Child.writes] using (finished other seen).1
  | exit ending =>
      refine ⟨by simpa using bytes, fun other seen => ⟨rfl, (finished other seen).2⟩,
        fun o output => absurd output (collected o)⟩
  | receive | receiveEnd | receiveNone | sendNothing | sendNone | closeInput | work =>
      exact ⟨bytes, finished, fun o output => absurd output (collected o)⟩

theorem Helps.consistent (helped : Helps s t) (consistent : s.Consistent) : t.Consistent := by
  cases helped with
  | feeds fed => exact fed.consistent consistent
  | drains drained => exact drained.consistent consistent

theorem Step.consistent (stepped : Step b s t) (consistent : s.Consistent) : t.Consistent := by
  cases stepped with
  | helps helped => exact helped.consistent consistent
  | does live wanted done => exact done.consistent live consistent

theorem Fails.consistent (failed : Fails s t) (consistent : s.Consistent) : t.Consistent := by
  cases failed with
  | writing rest reason writing =>
      exact ⟨consistent.bytes, consistent.finished, consistent.collected⟩
  | waiting reason waiting =>
      refine ⟨consistent.bytes, consistent.finished, fun o output => ?_⟩
      simp at output

theorem Reachable.consistent {body : String} (reached : Reachable b body s) : s.Consistent := by
  induction reached with
  | start starts =>
      cases starts with
      | mk =>
          exact ⟨fun _ => rfl, fun _ finished => by simp [Caller.fresh] at finished,
            fun _ output => by simp [Caller.fresh] at output⟩
  | step _ stepped ih => exact stepped.consistent ih
  | fail _ failed ih => exact failed.consistent ih

end Consistency

end LessonAudit.Exchange
