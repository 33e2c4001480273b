import LessonAudit.Proofs.Exchange.Parties
import LessonAudit.Proofs.Text.Trim
import LessonAudit.Proofs.Text.Utf8
import LessonAudit.Proofs.Tree.Shape
import Mathlib.Logic.Relation
set_option autoImplicit false

namespace LessonAudit

inductive Outcome.Gives (o : Outcome) : Except RenderError Tree.Node → Prop
  | failed {complaint : List Char} (unsuccessful : o.ending ≠ .exited 0)
      (trims : Text.Trims (Text.Utf8.decodeLossy o.stderr).toList complaint) :
      Gives o (.error (.failed o.ending.text (String.ofList complaint)))
  | unreadable (successful : o.ending = .exited 0)
      (unreadable : ∀ text, o.stdout ≠ Text.Utf8.encode text) : Gives o (.error .invalidEncoding)
  | decoded {text : String} {tree : Tree.Node} (successful : o.ending = .exited 0)
      (readable : o.stdout = Text.Utf8.encode text) (described : Tree.Node.ofText? text = .ok tree) :
      Gives o (.ok tree)
  | undecoded {text : String} {fault : Json.Fault} (successful : o.ending = .exited 0)
      (readable : o.stdout = Text.Utf8.encode text)
      (refused : Tree.Node.ofText? text = .error fault) : Gives o (.error (.tree fault))

theorem Outcome.gives_tree (o : Outcome) : o.Gives o.tree := by
  unfold Outcome.tree
  by_cases successful : o.ending = .exited 0
  · rw [if_pos (by simpa [Ending.isSuccess] using successful)]
    cases read : Text.Utf8.decode? o.stdout with
    | some text =>
        have readable := Text.Utf8.decode?_eq_some_iff.1 read
        dsimp only [Renderer.ofTreeText]
        cases described : Tree.Node.ofText? text with
        | ok tree => exact .decoded successful readable described
        | error fault => exact .undecoded successful readable described
    | none =>
        refine .unreadable successful fun text readable => ?_
        simp [Text.Utf8.decode?_eq_some_iff.2 readable] at read
  · rw [if_neg (by simpa [Ending.isSuccess] using successful)]
    exact .failed successful (Text.trims_trim _)

namespace Exchange

variable {σ : Type} {b : Behaviour σ} {body : String} {s t : State σ}

def Served (s : State σ) (l : Live σ) (want : Want σ) : Prop :=
  (∃ t, Does s l want t) ∨ ∃ t, Helps s t ∧ t.child = .live l ∧ ∃ u, Does t l want u

theorem served_read {l : Live σ} (live : s.child = .live l) (limit : Nat)
    (next : Option (List UInt8) → σ) : Served s l (.read limit next) := by
  by_cases closed : l.reads = false
  · exact .inl ⟨_, .receiveNone limit next closed⟩
  have opened : l.reads = true := by simpa using closed
  by_cases nothing : limit = 0
  · exact .inl ⟨_, .receiveEnd limit next opened (.inl nothing)⟩
  have one : 1 ≤ limit := Nat.one_le_iff_ne_zero.2 nothing
  by_cases empty : s.input.held = []
  · cases writer : s.writer with
    | done written =>
        exact .inl ⟨_, .receiveEnd limit next opened (.inr ⟨empty, by rw [writer]; rfl⟩)⟩
    | writing rest =>
        have room := s.input.free_pos_of_held_nil empty
        cases rest with
        | nil => exact .inr ⟨_, .feeds (.shut writer), live,
            _, .receiveEnd limit next opened (.inr ⟨empty, rfl⟩)⟩
        | cons byte rest =>
            have read : s.child.reads = true := by rw [live]; exact opened
            exact .inr ⟨_, .feeds (.push [byte] rest writer (List.cons_ne_nil _ _) room read), live,
              _, .receive limit 1 next opened Nat.one_pos one (by simp)⟩
  · exact .inl ⟨_, .receive limit 1 next opened Nat.one_pos one (List.length_pos_iff.2 empty)⟩

theorem exists_send {l : Live σ} {stream : Stream} {byte : UInt8} {rest : List UInt8}
    {next : Option Nat → σ} (opened : l.writes stream = true) (read : s.caller.output = none)
    (room : 0 < (s.outputs stream).free) :
    ∃ t, Does s l (.write stream (byte :: rest) next) t :=
  ⟨_, .send stream [byte] rest next opened read (List.cons_ne_nil _ _) room⟩

theorem served_write (consistent : s.Consistent) {l : Live σ} (live : s.child = .live l)
    (stream : Stream) (bytes : List UInt8) (next : Option Nat → σ) :
    Served s l (.write stream bytes next) := by
  cases bytes with
  | nil => exact .inl ⟨_, .sendNothing stream next⟩
  | cons byte rest =>
      by_cases closed : l.writes stream = false
      · exact .inl ⟨_, .sendNone stream _ next (.inl closed)⟩
      have opened : l.writes stream = true := by simpa using closed
      by_cases read : s.caller.output = none
      · by_cases room : 0 < (s.outputs stream).free
        · exact .inl (exists_send opened read room)
        · -- the pipe is full, and the caller drains it, for it has not seen the end of it
          have full : 0 < (s.outputs stream).held.length := by
            refine List.length_pos_iff.2 fun nothing => ?_
            exact room ((s.outputs stream).free_pos_of_held_nil nothing)
          have unfinished : s.caller.finished stream = false := by
            by_contra finished
            have shut := (consistent.finished stream (by simpa using finished)).1
            rw [live] at shut
            exact closed shut
          refine .inr ⟨_, .drains (.take stream _ read unfinished full (Nat.le_refl _)), live,
            exists_send opened read ?_⟩
          simpa using (s.outputs stream).free_drop_length_pos
      · exact .inl ⟨_, .sendNone stream _ next (.inr read)⟩

theorem served (consistent : s.Consistent) {l : Live σ} (live : s.child = .live l)
    (want : Want σ) : Served s l want := by
  cases want with
  | read limit next => exact served_read live limit next
  | write stream bytes next => exact served_write consistent live stream bytes next
  | closeInput next => exact .inl ⟨_, .closeInput next⟩
  | close stream next => exact .inl ⟨_, .close stream next⟩
  | work next => exact .inl ⟨_, .work next⟩
  | exit ending => exact .inl ⟨_, .exit ending⟩

def conclude (output : Except String Outcome) (written : Except String Unit) :
    Except RenderError Tree.Node := do
  let o ← output.mapError .io
  written.mapError .io
  o.tree

theorem conclude_ok (o : Outcome) : conclude (.ok o) (.ok ()) = o.tree := rfl

def State.returned? (s : State σ) : Option (Except RenderError Tree.Node) :=
  match s.caller.output, s.writer with
  | some output, .done written => some (conclude output written)
  | _, _ => none

theorem exists_helps {o : Outcome} (ended : s.child = .ended o) (waiting : s.returned? = none) :
    ∃ t, Helps s t := by
  have unread : s.child.reads = false := by rw [ended]; rfl
  have closed (stream : Stream) : s.child.writes stream = false := by rw [ended]; rfl
  cases writer : s.writer with
  | writing rest =>
      by_cases nothing : rest = []
      · exact ⟨_, .feeds (.shut (by rw [writer, nothing]))⟩
      · exact ⟨_, .feeds (.broken rest writer nothing unread)⟩
  | done written =>
      have undecided : s.caller.output = none := by
        cases output : s.caller.output with
        | none => rfl
        | some given => simp [State.returned?, writer, output] at waiting
      by_cases finished : ∀ stream, s.caller.finished stream = true
      · exact ⟨_, .drains (.collect o undecided finished ended)⟩
      · obtain ⟨stream, unfinished⟩ := not_forall.1 finished
        have unfinished : s.caller.finished stream = false := by simpa using unfinished
        by_cases nothing : (s.outputs stream).held = []
        · exact ⟨_, .drains (.finish stream undecided unfinished nothing (closed stream))⟩
        · exact ⟨_, .drains (.take stream _ undecided unfinished (List.length_pos_iff.2 nothing)
            (Nat.le_refl _))⟩

def Writer.left : Writer → Nat
  | writing rest => rest.length + 1
  | done _ => 0

def State.due (s : State σ) (stream : Stream) : Nat :=
  (s.outputs stream).held.length + if s.caller.finished stream then 0 else 1

def State.left (s : State σ) : Nat :=
  s.writer.left + s.due .out + s.due .err + if s.caller.output.isNone then 1 else 0

theorem Feeds.left_lt (fed : Feeds s t) : t.left < s.left := by
  cases fed with
  | push front rest writing nonempty enough read =>
      have := List.length_pos_iff.2 nonempty
      simp only [State.left, State.due, writing, Writer.left, List.length_append]
      omega
  | shut writing | broken rest writing nonempty unread =>
      simp only [State.left, State.due, writing, Writer.left]
      omega

theorem Drains.left_lt (drained : Drains s t) : t.left < s.left := by
  cases drained with
  | take stream count waiting unfinished positive there =>
      cases stream <;> simp [State.left, State.due] <;> omega
  | finish stream waiting unfinished nothing closed =>
      cases stream <;> simp [State.left, State.due, unfinished]
  | collect o waiting finished ended => simp [State.left, State.due, waiting]

theorem Helps.left_lt (helped : Helps s t) : t.left < s.left := by
  cases helped with
  | feeds fed => exact fed.left_lt
  | drains drained => exact drained.left_lt

theorem Helps.child_eq (helped : Helps s t) : t.child = s.child := by
  cases helped with
  | feeds fed => cases fed <;> rfl
  | drains drained => cases drained <;> rfl

theorem exists_returned {s : State σ} {o : Outcome} (ended : s.child = .ended o) :
    ∃ t, Relation.ReflTransGen Helps s t ∧ t.returned? ≠ none := by
  by_cases waiting : s.returned? = none
  · obtain ⟨next, helped⟩ := exists_helps ended waiting
    have := helped.left_lt
    obtain ⟨t, run, returned⟩ := exists_returned (helped.child_eq.trans ended)
    exact ⟨t, .head helped run, returned⟩
  · exact ⟨s, .refl, waiting⟩
termination_by s.left

structure State.Untroubled (s : State σ) : Prop where
  writer : ∀ reason, s.writer ≠ .done (.error reason)
  caller : ∀ reason, s.caller.output ≠ some (.error reason)

theorem Step.untroubled (stepped : Step b s t) (untroubled : s.Untroubled) : t.Untroubled := by
  obtain ⟨writer, caller⟩ := untroubled
  cases stepped with
  | helps helped =>
      cases helped with
      | feeds fed => cases fed <;> exact ⟨fun _ => by simp, caller⟩
      | drains drained =>
          cases drained with
          | take | finish => exact ⟨writer, caller⟩
          | collect => exact ⟨writer, fun _ => by simp⟩
  | does live wanted done => cases done <;> exact ⟨writer, caller⟩

theorem untroubled_of_steps (starts : Starts b body s) (run : Relation.ReflTransGen (Step b) s t) :
    t.Untroubled := by
  induction run with
  | refl =>
      cases starts with
      | mk => exact ⟨fun _ => by simp, fun _ => by simp [Caller.fresh]⟩
  | tail _ stepped ih => exact stepped.untroubled ih

theorem State.Consistent.returned (consistent : s.Consistent) (untroubled : s.Untroubled)
    {result : Except RenderError Tree.Node} (returned : s.returned? = some result) :
    ∃ o, s.child = .ended o ∧ result = o.tree := by
  unfold State.returned? at returned
  split at returned
  · next output written output_eq writer_eq =>
      cases output with
      | error reason => exact absurd output_eq (untroubled.caller reason)
      | ok o =>
          cases written with
          | error reason => exact absurd writer_eq (untroubled.writer reason)
          | ok => exact ⟨o, consistent.collected o output_eq, (Option.some.inj returned).symm⟩
  · simp at returned

/-- A renderer never waits for ever: it gets what it wants after one step of the others at most, and
when it has ended they go on to a result. Unless the system fails, the result says how the renderer
ended and what it wrote, and is the same for all runs that end so. -/
theorem settled_by_outcome (reached : Reachable b body s) :
    (∀ l want, s.child = .live l → b.wants l.state want → Served s l want) ∧
    (∀ o, s.child = .ended o → ∃ t, Relation.ReflTransGen Helps s t ∧ t.returned? ≠ none) ∧
    (∀ first, Starts b body first → Relation.ReflTransGen (Step b) first s → s.Untroubled) ∧
    ∀ result, s.Untroubled → s.returned? = some result →
      ∃ o, s.child = .ended o ∧ o.Gives result ∧
        ∀ {τ : Type} {c : Behaviour τ} {text : String} {t : State τ}, Reachable c text t →
          t.Untroubled → t.child = .ended o → ∀ other, t.returned? = some other →
            other = result := by
  refine ⟨fun l want live _ => served reached.consistent live want,
    fun o ended => exists_returned ended, fun first starts run => untroubled_of_steps starts run,
    fun result untroubled returned => ?_⟩
  obtain ⟨o, ended, rfl⟩ := reached.consistent.returned untroubled returned
  refine ⟨o, ended, o.gives_tree, ?_⟩
  intro τ c text t reached' untroubled' ended' other returned'
  obtain ⟨o', same, rfl⟩ := reached'.consistent.returned untroubled' returned'
  rw [Child.ended.inj (same.symm.trans ended')]

def grumbling : Behaviour Nat where
  first := 0
  wants
    | 0, want => want = .write .err [32, 110] fun _ => 1
    | 1, want => want = .write .err [111, 10] fun _ => 2
    | _, want => want = .exit (.exited 3)

def treeBytes : List UInt8 :=
  [123, 34, 116, 121, 112, 101, 34, 58, 34, 112, 34, 125]

theorem tree_treeBytes : Outcome.tree ⟨.exited 0, treeBytes, []⟩ = .ok (.ofKind "p") := by
  have readable : treeBytes = Text.Utf8.encode "\x7b\"type\":\"p\"\x7d" := by decide
  have is_text : Json.IsText (.record [("type", .text "p")]) "\x7b\"type\":\"p\"\x7d".toList :=
    (Json.read_iff.1 (show Json.read Json.Schema.free () ['{', '"', 't', 'y', 'p', 'e', '"', ':', '"',
      'p', '"', '}'] = .ok _ from rfl)).1
  have described : Tree.Node.ofText? "\x7b\"type\":\"p\"\x7d" = .ok (.ofKind "p") :=
    Tree.ofText?_iff.2 ⟨_, is_text, by decide, Tree.ofWritten?_iff.1 rfl⟩
  simp only [Outcome.tree, Text.Utf8.decode?_eq_some_iff.2 readable, Renderer.ofTreeText, described]
  rfl

def obliging : Behaviour Nat where
  first := 0
  wants
    | 0, want => want = .read 1 fun _ => 1
    | 1, want => want = .write .out treeBytes fun _ => 2
    | _, want => want = .exit (.exited 0)

theorem settled_by_outcome_two_renderers :
    (∃ (s : State Nat) (l : Live Nat), Reachable grumbling "ab" s ∧ s.child = .live l ∧
      (s.outputs .err).free = 0 ∧ Served s l (.write .err [111, 10] fun _ => 2)) ∧
    (∃ s : State Nat, Reachable grumbling "ab" s ∧
      s.returned? = some (.error (.failed "exit status: 3" "no")) ∧
      Outcome.Gives ⟨.exited 3, [], [32, 110, 111, 10]⟩
        (.error (.failed "exit status: 3" "no"))) ∧
    ∃ s : State Nat, Reachable obliging "abc" s ∧ s.returned? = some (.ok (.ofKind "p")) ∧
      Outcome.Gives ⟨.exited 0, treeBytes, []⟩ (.ok (.ofKind "p")) := by
  refine ⟨?_, ?_, ?_⟩
  case' refine_1 | refine_2 =>
    have start : Reachable grumbling "ab" _ :=
      .start (.mk 1 (fun _ => 2) Nat.one_pos fun _ => Nat.two_pos)
    have pushed := start.step (.helps (.feeds (.push [97] [98] rfl (by simp) (by decide) rfl)))
    have full := pushed.step (.does rfl rfl
      (.send .err [32, 110] [] (fun _ => 1) rfl rfl (by simp) (by decide)))
  case refine_1 => exact ⟨_, _, full, rfl, by decide, (settled_by_outcome full).1 _ _ rfl rfl⟩
  case refine_2 =>
    have drained := full.step (.helps (.drains (.take .err 2 rfl rfl Nat.two_pos (by decide))))
    have sent := drained.step (.does rfl rfl
      (.send .err [111, 10] [] (fun _ => 2) rfl rfl (by simp) (by decide)))
    have exited := sent.step (.does rfl rfl (.exit (.exited 3)))
    have read := exited.step (.helps (.drains (.take .err 2 rfl rfl Nat.two_pos (by decide))))
    have closed := read.step (.helps (.drains (.finish .out rfl rfl rfl rfl)))
    have finished := closed.step (.helps (.drains (.finish .err rfl rfl rfl rfl)))
    have broken := finished.step (.helps (.feeds (.broken [98] rfl (by simp) rfl)))
    have collected := broken.step (.helps (.drains (.collect _ rfl (fun stream => by
      cases stream <;> rfl) rfl)))
    refine ⟨_, collected, rfl, ?_⟩
    obtain ⟨o, ended, gives, -⟩ := (settled_by_outcome collected).2.2.2 _
      ⟨fun _ => by simp, fun _ => by simp⟩ rfl
    cases Child.ended.inj ended
    exact gives
  case refine_3 =>
    have start : Reachable obliging "abc" _ :=
      .start (.mk 2 (fun _ => 32) Nat.two_pos fun _ => by decide)
    have pushed := start.step (.helps (.feeds (.push [97, 98] [99] rfl (by simp) (by decide) rfl)))
    have received := pushed.step (.does rfl rfl
      (.receive 1 1 (fun _ => 1) rfl Nat.one_pos (Nat.le_refl _) (by decide)))
    have sent := received.step (.does rfl rfl
      (.send .out treeBytes [] (fun _ => 2) rfl rfl (by decide) (by decide)))
    have exited := sent.step (.does rfl rfl (.exit (.exited 0)))
    have read := exited.step (.helps (.drains (.take .out 12 rfl rfl (by decide) (by decide))))
    have closed := read.step (.helps (.drains (.finish .out rfl rfl rfl rfl)))
    have finished := closed.step (.helps (.drains (.finish .err rfl rfl rfl rfl)))
    have broken := finished.step (.helps (.feeds (.broken [99] rfl (by simp) rfl)))
    have collected := broken.step (.helps (.drains (.collect _ rfl (fun stream => by
      cases stream <;> rfl) rfl)))
    obtain ⟨s, reached, untroubled, ended, output, written⟩ : ∃ s : State Nat,
        Reachable obliging "abc" s ∧ s.Untroubled ∧ s.child = .ended ⟨.exited 0, treeBytes, []⟩ ∧
          s.caller.output = some (.ok ⟨.exited 0, treeBytes, []⟩) ∧ s.writer = .done (.ok ()) :=
      ⟨_, collected, ⟨fun _ => by simp, fun _ => by simp⟩, rfl, rfl, rfl⟩
    have returned : s.returned? = some (.ok (.ofKind "p")) := by
      simp only [State.returned?, output, written, conclude_ok, tree_treeBytes]
    refine ⟨s, reached, returned, ?_⟩
    obtain ⟨o, same, gives, -⟩ := (settled_by_outcome reached).2.2.2 _ untroubled returned
    cases Child.ended.inj (same.symm.trans ended)
    exact gives

end Exchange
end LessonAudit
