import FrameChat.Proofs.Channel.Attendance
import FrameChat.Proofs.Channel.Visits

/-!
# Announcements

Who comes to watch is announced in the log, and so is who leaves; who takes the
place of its own earlier session is not, nor is a leave of a session that is not
on the roster any more.  In a course of whole requests the announcements about
one identity therefore are that it came, that it left, that it came, and so on,
and it is on the roster exactly if it came last (`Announced`).
-/

namespace FrameChat.Channel

/-- The announcements among messages that concern an identity. -/
def announcements (identity : String) (messages : List Message) : List MessageKind :=
  (messages.filter fun message =>
    message.kind.isPresence && message.author = identity).map Message.kind

/-- Coming and leaving in turn. -/
def comingAndGoing (count : Nat) : List MessageKind :=
  (List.range count).map fun place => if place % 2 = 0 then .join else .leave

/-- Somebody of an identity is on the roster. -/
def Reception.Present (reception : Reception) (identity : String) : Prop :=
  ∃ session viewer,
    reception.roster.viewer? session = some viewer ∧ viewer.identity = identity

namespace Reception.InOrder

variable {reception : Reception} {identity other : String} {session : Nat} {viewer : Viewer}

theorem ofIdentity_ne_nil_iff (inOrder : reception.InOrder) :
    reception.roster.ofIdentity identity ≠ [] ↔ reception.Present identity := by
  rw [Ne, inOrder.ofIdentity_eq_nil_iff, Present]
  push Not
  rfl

theorem present_welcome
    (inOrder : reception.InOrder)
    (viewport : Viewport)
    (address : Net.Address) :
    (reception.welcome identity viewport address).Present other ↔
      other = identity ∨ reception.Present other := by
  constructor
  · rintro ⟨session, viewer, found, rfl⟩
    rw [inOrder.viewer?_welcome] at found
    split at found
    · cases found
      exact Or.inl rfl
    · exact Or.inr ⟨session, viewer, found, rfl⟩
  · rintro (rfl | ⟨session, viewer, found, rfl⟩)
    · exact ⟨reception.lastSession + 1, _, by rw [inOrder.viewer?_welcome, if_pos rfl], rfl⟩
    · have given := inOrder.given session viewer found
      refine ⟨session, viewer, ?_, rfl⟩
      rw [inOrder.viewer?_welcome, if_neg (by omega)]
      exact found

theorem present_dismiss
    (inOrder : reception.InOrder)
    (found : reception.roster.viewer? session = some viewer) :
    (reception.dismiss session).Present other ↔
      reception.Present other ∧ other ≠ viewer.identity := by
  constructor
  · rintro ⟨here, listed, still, rfl⟩
    replace still : (reception.roster.unregister session).2.viewer? here = some listed := still
    rw [Roster.viewer?_unregister] at still
    split at still
    case isTrue => cases still
    case isFalse differ =>
      refine ⟨⟨here, listed, still, rfl⟩, fun same => ?_⟩
      exact differ (inOrder.single here session listed viewer still found same)
  · rintro ⟨⟨here, listed, before, rfl⟩, differ⟩
    refine ⟨here, listed, ?_, rfl⟩
    show (reception.roster.unregister session).2.viewer? here = some listed
    rw [Roster.viewer?_unregister, if_neg]
    · exact before
    · rintro rfl
      cases before.symm.trans found
      exact differ rfl

end Reception.InOrder

theorem comingAndGoing_succ (count : Nat) :
    comingAndGoing (count + 1) =
      comingAndGoing count ++ [if count % 2 = 0 then .join else .leave] := by
  rw [comingAndGoing, List.range_succ, List.map_append]
  rfl

theorem getLast?_comingAndGoing (count : Nat) :
    (comingAndGoing count).getLast? = some .join ↔ count % 2 = 1 := by
  cases count with
  | zero => decide
  | succ count =>
      rw [comingAndGoing_succ, List.getLast?_concat]
      by_cases even : count % 2 = 0
      · rw [if_pos even]
        exact iff_of_true rfl (by omega)
      · rw [if_neg even]
        exact iff_of_false (by decide) (by omega)

theorem announcements_append (identity : String) (earlier later : List Message) :
    announcements identity (earlier ++ later) =
      announcements identity earlier ++ announcements identity later := by
  rw [announcements, List.filter_append, List.map_append]
  rfl

theorem announcements_presence
    {ledger : Ledger}
    {identity : String}
    {kind : MessageKind}
    {numbered : Message}
    (numbers : ledger.Numbers (.presence identity kind) numbered)
    (presence : kind.isPresence = true)
    (other : String) :
    announcements other [numbered] = if identity = other then [kind] else [] := by
  rw [numbers.same]
  by_cases same : identity = other
  · simp [announcements, Message.presence, presence, same]
  · simp [announcements, Message.presence, same]

theorem announcements_written
    {ledger : Ledger}
    {author text : String}
    {numbered : Message}
    (numbers : ledger.Numbers (.written author text) numbered)
    (other : String) :
    announcements other [numbered] = [] := by
  rw [numbers.same]
  rfl

/-- Every identity came and left in turn, and is there if it came last. -/
def Announced (reception : Reception) (notes : List Message) : Prop :=
  ∀ identity, ∃ count, announcements identity notes = comingAndGoing count ∧
    (reception.Present identity ↔ count % 2 = 1)

theorem Announced.same
    {before after : Reception}
    {notes messages : List Message}
    (announced : Announced before notes)
    (present : ∀ identity, after.Present identity ↔ before.Present identity)
    (silent : ∀ identity, announcements identity messages = []) :
    Announced after (notes ++ messages) := by
  intro identity
  rcases announced identity with ⟨count, told, parity⟩
  refine ⟨count, ?_, (present identity).trans parity⟩
  rw [announcements_append, silent, List.append_nil]
  exact told

/-- One identity changes its presence and is announced. -/
theorem Announced.turn
    {before after : Reception}
    {notes : List Message}
    {identity : String}
    {kind : MessageKind}
    {numbered : Message}
    {ledger : Ledger}
    (announced : Announced before notes)
    (numbers : ledger.Numbers (.presence identity kind) numbered)
    (kinds : kind = .join ∧ ¬ before.Present identity ∧ after.Present identity ∨
      kind = .leave ∧ before.Present identity ∧ ¬ after.Present identity)
    (others : ∀ other, other ≠ identity → (after.Present other ↔ before.Present other)) :
    Announced after (notes ++ [numbered]) := by
  have presence : kind.isPresence = true := by
    rcases kinds with ⟨rfl, -⟩ | ⟨rfl, -⟩ <;> rfl
  -- Who is not there came and left evenly often, so that coming is next; who is there, oddly.
  intro other
  rcases announced other with ⟨count, told, parity⟩
  rw [announcements_append, announcements_presence numbers presence, told]
  by_cases same : identity = other
  · subst same
    rw [if_pos rfl]
    refine ⟨count + 1, ?_, ?_⟩
    · rw [comingAndGoing_succ]
      rcases kinds with ⟨rfl, absent, -⟩ | ⟨rfl, present, -⟩
      · have even : count % 2 = 0 := by
          have notOdd := (not_congr parity).mp absent
          omega
        rw [if_pos even]
      · have odd := parity.mp present
        rw [if_neg (by omega)]
    · rcases kinds with ⟨-, absent, present⟩ | ⟨-, present, absent⟩
      · have notOdd := (not_congr parity).mp absent
        refine iff_of_true present ?_
        omega
      · have odd := parity.mp present
        refine iff_of_false absent ?_
        omega
  · rw [if_neg same, List.append_nil]
    exact ⟨count, rfl, (others other (Ne.symm same)).trans parity⟩

theorem Announced.answered
    {channel : Channel}
    {notes messages : List Message}
    {request : Request}
    {after : Reception}
    (announced : Announced channel.reception notes)
    (inOrder : channel.reception.InOrder)
    (answered : Course.Answered channel request after messages) :
    Announced after (notes ++ messages) := by
  cases answered with
  | rejected _ _ => exact announced.same (fun _ => Iff.rfl) fun _ => rfl
  | ignored _ => exact announced.same (fun _ => Iff.rfl) fun _ => rfl
  | drawn => exact announced.same (fun _ => Iff.rfl) fun _ => rfl
  | written numbers => exact announced.same (fun _ => Iff.rfl) (announcements_written numbers)
  | @displacing identity viewport address viewer alone here =>
      rcases inOrder.ofIdentity_mem alone with ⟨found, rfl⟩
      refine announced.same (fun other => ?_) fun _ => rfl
      rw [(inOrder.dismiss viewer.session).present_welcome, inOrder.present_dismiss found]
      constructor
      · rintro (rfl | ⟨present, -⟩)
        · exact ⟨viewer.session, viewer, found, rfl⟩
        · exact present
      · intro present
        by_cases same : other = viewer.identity
        · exact Or.inl same
        · exact Or.inr ⟨present, same⟩
  | @came identity viewport address numbered none numbers =>
      have absent : ¬ channel.reception.Present identity :=
        (not_congr inOrder.ofIdentity_ne_nil_iff).mp (not_not_intro none)
      have present : (channel.reception.welcome identity viewport address).Present identity :=
        (inOrder.present_welcome viewport address).mpr (Or.inl rfl)
      refine announced.turn numbers (Or.inl ⟨rfl, absent, present⟩) ?_
      intro other differ
      rw [inOrder.present_welcome]
      exact or_iff_right differ
  | @left session viewer numbered found numbers =>
      have present : channel.reception.Present viewer.identity := ⟨session, viewer, found, rfl⟩
      have absent : ¬ (channel.reception.dismiss session).Present viewer.identity := by
        rw [inOrder.present_dismiss found]
        exact fun still => still.2 rfl
      refine announced.turn numbers (Or.inr ⟨rfl, present, absent⟩) ?_
      intro other differ
      rw [inOrder.present_dismiss found]
      exact and_iff_left differ

/-! ## Whole visits -/

theorem Ledger.foldl_add (messages : List Message) (ledger : Ledger) :
    (messages.foldl Ledger.add ledger).closed = ledger.closed ∧
      (messages.foldl Ledger.add ledger).limit = ledger.limit := by
  induction messages generalizing ledger with
  | nil => exact ⟨rfl, rfl⟩
  | cons message rest ih => exact ih (ledger.add message)

theorem Ledger.log_foldl_add
    {ledger : Ledger}
    {earlier : List Message}
    (log : ledger.log = newest ledger.limit earlier)
    (messages : List Message) :
    (messages.foldl Ledger.add ledger).log = newest ledger.limit (earlier ++ messages) := by
  induction messages generalizing ledger earlier with
  | nil =>
      rw [List.append_nil]
      exact log
  | cons message rest ih =>
      have added : (ledger.add message).log =
          newest (ledger.add message).limit (earlier ++ [message]) := by
        show newest ledger.limit (ledger.log ++ [message]) = _
        rw [log, newest_newest_append]
        rfl
      have whole := ih added
      rw [List.append_assoc] at whole
      exact whole

namespace Course

variable {course : Course} {limit : Nat} {history notes : List Message}

/-- A channel is open, its log goes on from a history, and everybody was announced. -/
structure Hosted (course : Course) (limit : Nat) (history notes : List Message) : Prop where
  attended : course.Attended
  isOpen : course.channel.closed = false
  limited : course.channel.ledger.limit = limit
  log : course.channel.log = newest limit (history ++ notes)
  announced : Announced course.channel.reception notes

theorem hosted_start
    (name : String)
    (settings : Settings)
    (history : List Message)
    (active : Seconds)
    (counter : UInt64)
    (notices : PerViewport Frame)
    (instant : Nat) :
    (start name settings history active counter notices instant).Hosted settings.historyLimit
      history [] where
  attended := attended_start ..
  isOpen := rfl
  limited := rfl
  log := by
    rw [List.append_nil]
    rfl
  announced := by
    intro identity
    refine ⟨0, rfl, iff_of_false ?_ (by decide)⟩
    rintro ⟨session, viewer, found, -⟩
    cases found

theorem Hosted.answer
    (hosted : course.Hosted limit history notes)
    (visit : Request × Circumstances) :
    (course.answer visit).Hosted limit history
      (notes ++ course.recorded (course.answering visit.2 visit.1)) := by
  have inOrder := hosted.attended.inOrder
  have answer := answer_answering inOrder hosted.isOpen visit.2 visit.1
  rcases Ledger.foldl_add (course.recorded (course.answering visit.2 visit.1))
    course.channel.ledger with ⟨closed, same⟩
  rw [← answer.ledger] at closed same
  constructor
  case attended => exact attended_turns hosted.attended _
  case isOpen => exact closed.trans hosted.isOpen
  case limited => exact same.trans hosted.limited
  case log =>
    have log : course.channel.ledger.log =
        newest course.channel.ledger.limit (history ++ notes) := by
      rw [hosted.limited]
      exact hosted.log
    have grown := Ledger.log_foldl_add log
      (course.recorded (course.answering visit.2 visit.1))
    rw [← answer.ledger, hosted.limited, List.append_assoc] at grown
    exact grown
  case announced => exact hosted.announced.answered inOrder answer.answered

theorem Hosted.answers
    (hosted : course.Hosted limit history notes)
    (visits : List (Request × Circumstances)) :
    (course.answers visits).Hosted limit history (notes ++ course.noted visits) := by
  induction visits generalizing course notes with
  | nil =>
      rw [noted, List.append_nil]
      exact hosted
  | cons visit rest ih =>
      rw [noted, ← List.append_assoc]
      exact ih (hosted.answer visit)

/-- The list of announcements tells who is on the roster. -/
theorem Hosted.present_iff
    (hosted : course.Hosted limit history notes)
    (identity : String) :
    (∃ count, announcements identity notes = comingAndGoing count) ∧
      (course.channel.roster.ofIdentity identity ≠ [] ↔
        (announcements identity notes).getLast? = some .join) := by
  rcases hosted.announced identity with ⟨count, told, parity⟩
  refine ⟨⟨count, told⟩, ?_⟩
  rw [told, getLast?_comingAndGoing, ← parity]
  exact hosted.attended.inOrder.ofIdentity_ne_nil_iff

end Course

end FrameChat.Channel
