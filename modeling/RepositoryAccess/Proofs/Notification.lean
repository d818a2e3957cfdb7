import RepositoryAccess.Proofs.Deeds

namespace RepositoryAccess

namespace Service

-- Nothing is remembered of the store any more, and what is found out from now on belongs to a new epoch.
structure Invalidated (before after : Service) : Prop where
  epoch : after.resolver.epoch = before.resolver.epoch + 1
  roles : ∀ id, (after.resolver.knownRole id).1 = none
  privileges : ∀ id, (after.resolver.knownPrivilege id).1 = none
  missing : ∀ id, (after.resolver.knownMissing id).1 = false
  version : after.version = before.version
  steady : after.Steady

structure ShutDown (before after : Service) : Prop extends Invalidated before after where
  background : after.background = none

theorem invalidate_invalidated (service : Service) : service.Invalidated service.invalidate :=
  ⟨rfl, fun _ => rfl, fun _ => rfl, fun _ => rfl, rfl, rfl⟩

structure Precedes (earlier later : Service) : Prop where
  epoch : earlier.resolver.epoch ≤ later.resolver.epoch
  version : earlier.version ≤ later.version

-- The resolver was emptied since: all that it remembers belongs to a later epoch, and the store was read
-- for it at that version or a later one.
structure RefreshedBy (earlier later : Service) : Prop where
  epoch : earlier.resolver.epoch < later.resolver.epoch
  version : earlier.version ≤ later.version
  emptied : earlier.version ≤ later.emptied

variable {earlier before after : Service}

theorem Precedes.invalidated (precedes : earlier.Precedes before)
    (invalidated : before.Invalidated after) : earlier.RefreshedBy after := by
  have epochs := precedes.epoch
  have versions := precedes.version
  have next := invalidated.epoch
  have same := invalidated.version
  have steady : after.emptied = after.version := invalidated.steady
  exact ⟨by omega, by omega, by omega⟩

theorem Deed.forward (deed : before.Deed after) : before.Precedes after ∧
    (after.emptied = before.emptied ∨ after.emptied = after.version) := by
  have still : before.Precedes before := ⟨Nat.le_refl _, Nat.le_refl _⟩
  cases deed with
  | use use => exact ⟨⟨Nat.le_of_eq use.standing.1.symm, Nat.le_refl _⟩, .inl rfl⟩
  | change f =>
    unfold Service.change
    dsimp only
    split
    · exact ⟨⟨Nat.le_refl _, Nat.le_refl _⟩, .inl rfl⟩
    · exact ⟨⟨Nat.le_refl _, Nat.le_succ _⟩, .inl rfl⟩
  | invalidate | shutdown => exact ⟨⟨Nat.le_succ _, Nat.le_refl _⟩, .inr rfl⟩
  | meetGeneration =>
    unfold Service.meetGeneration Resolver.meetGeneration
    dsimp only
    split
    · exact ⟨⟨Nat.le_succ _, Nat.le_refl _⟩, .inr rfl⟩
    · exact ⟨⟨Nat.le_refl _, Nat.le_refl _⟩, .inl rfl⟩
  | note | meetEpoch | lookUp | remember | elsewhere => exact ⟨⟨still.epoch, still.version⟩, .inl rfl⟩

theorem Precedes.refreshed (precedes : earlier.Precedes before) (refreshed : before.RefreshedBy after) :
    earlier.RefreshedBy after :=
  ⟨Nat.lt_of_le_of_lt precedes.epoch refreshed.epoch, Nat.le_trans precedes.version refreshed.version,
    Nat.le_trans precedes.version refreshed.emptied⟩

theorem Precedes.deed (precedes : earlier.Precedes before) (deed : before.Deed after) :
    earlier.Precedes after :=
  ⟨Nat.le_trans precedes.epoch deed.forward.1.epoch, Nat.le_trans precedes.version deed.forward.1.version⟩

theorem RefreshedBy.deed (refreshed : earlier.RefreshedBy before) (deed : before.Deed after) :
    earlier.RefreshedBy after := by
  obtain ⟨forward, emptied⟩ := deed.forward
  have version := Nat.le_trans refreshed.version forward.version
  refine ⟨Nat.lt_of_lt_of_le refreshed.epoch forward.epoch, version, ?_⟩
  rcases emptied with same | now
  · exact same ▸ refreshed.emptied
  · exact now ▸ version

end Service

namespace Events

namespace Channel
variable {α : Type} {channel : Channel α} {history : List α}

structure Holds (channel : Channel α) (history : List α) : Prop where
  counted : channel.sent = history.length
  latest : channel.kept <:+ history
  behind : channel.next ≤ channel.sent

theorem create_holds (wanted : Nat) : (create wanted : Channel α).Holds [] := by
  refine ⟨rfl, List.nil_suffix, Nat.le_refl _⟩

theorem oldest_le (channel : Channel α) : channel.oldest ≤ channel.sent :=
  Nat.sub_le _ _

theorem Holds.kept_getElem? (holds : channel.Holds history) {k : Nat} (old : channel.oldest ≤ k) :
    channel.kept[k - channel.oldest]? = history[k]? := by
  obtain ⟨lost, rfl⟩ := holds.latest
  have counted := holds.counted
  have first : channel.oldest = lost.length := by
    simp [oldest, counted]
  rw [first] at old ⊢
  rw [List.getElem?_append_right old]

theorem Holds.send (holds : channel.Holds history) (value : α) :
    (channel.send value).Holds (history ++ [value]) := by
  have behind := holds.behind
  refine ⟨?_, ?_, ?_⟩
  · simp [Channel.send, holds.counted]
  · obtain ⟨lost, rfl⟩ := holds.latest
    refine (List.drop_suffix _ _).trans ⟨lost, ?_⟩
    simp
  · show channel.next ≤ channel.sent + 1
    omega

theorem Holds.close (holds : channel.Holds history) : channel.close.Holds history :=
  ⟨holds.counted, holds.latest, holds.behind⟩

theorem Holds.moveTo (holds : channel.Holds history) {next : Nat} (behind : next ≤ channel.sent) :
    Holds { channel with next } history :=
  ⟨holds.counted, holds.latest, behind⟩

inductive Receives (channel : Channel α) (history : List α) : Received α → Channel α → Prop
  | lag : channel.next < channel.oldest →
      Receives channel history (.lagged (channel.oldest - channel.next))
        { channel with next := channel.oldest }
  | message {value : α} : history[channel.next]? = some value → channel.oldest ≤ channel.next →
      Receives channel history (.message value) { channel with next := channel.next + 1 }
  | ended : channel.next = channel.sent → channel.closed = true →
      Receives channel history .ended channel
  | nothing : channel.next = channel.sent → channel.closed = false →
      Receives channel history .nothing channel

theorem Holds.receives (holds : channel.Holds history) :
    Receives channel history channel.receive.1 channel.receive.2 := by
  unfold receive
  split
  · next behind => exact .lag behind
  · next reached =>
    have reached : channel.oldest ≤ channel.next := Nat.le_of_not_lt reached
    rw [holds.kept_getElem? reached]
    cases held : history[channel.next]? with
    | some value => exact .message held reached
    | none =>
      have finished : channel.next = channel.sent := by
        have behind := holds.behind
        have outside := List.getElem?_eq_none_iff.mp held
        have counted := holds.counted
        omega
      cases closed : channel.closed with
      | true => simp only [if_true]; exact .ended finished closed
      | false => simp only [Bool.false_eq_true, if_false]; exact .nothing finished closed

end Channel

theorem Listener.turn_closed (listener : Listener) :
    listener.turn.2.channel.closed = listener.channel.closed := by
  have same : listener.channel.receive.2.closed = listener.channel.closed := by
    unfold Channel.receive
    split
    · rfl
    · split <;> rfl
  unfold Listener.turn
  split
  · rfl
  · dsimp only
    split <;> exact same

-- A service whose resolver a listener serves, and the reaction that the listener is about to bring about.
-- What became of the channel is kept: the events that were sent, and between which positions it lagged.
structure Attendance where
  service : Service
  listener : Listener
  due : Option Reaction := none
  sent : List Event := []
  lags : List (Nat × Nat) := []

-- The listener receives and reacts in two moves, so that others may come in between.
inductive Move
  | send (event : Event)
  | close
  | receive
  | react
  | serve (step : Step)

namespace Attendance

def begin (wanted : Nat) (service : Service) : Attendance :=
  { service, listener := .ofCapacity wanted }

-- Nothing is sent after the channel was closed.  A listener receives again once it has reacted, until it
-- stops.
def Allows (attendance : Attendance) : Move → Prop
  | .send _ | .close => attendance.listener.channel.closed = false
  | .receive => attendance.due = none ∧ attendance.listener.stopped = false
  | .react => attendance.due ≠ none
  | .serve _ => True

instance (attendance : Attendance) (move : Move) : Decidable (attendance.Allows move) := by
  cases move <;> unfold Allows <;> infer_instance

def lagsOf (channel : Channel Event) : List (Nat × Nat) :=
  if channel.next < channel.oldest then [(channel.next, channel.oldest)] else []

def make (attendance : Attendance) : Move → Attendance
  | .send event =>
    { attendance with listener := attendance.listener.send event, sent := attendance.sent ++ [event] }
  | .close => { attendance with listener := attendance.listener.close }
  | .receive =>
    { attendance with listener := attendance.listener.turn.2
                      due := attendance.listener.turn.1
                      lags := attendance.lags ++ lagsOf attendance.listener.channel }
  | .react =>
    match attendance.due with
    | none => attendance
    | some reaction =>
      { attendance with service := ((react reaction).run attendance.service).2, due := none }
  | .serve step => { attendance with service := ((perform step).run attendance.service).2 }

def follow (attendance : Attendance) : List Move → Option Attendance
  | [] => some attendance
  | move :: moves => if attendance.Allows move then (attendance.make move).follow moves else none

def Idle (attendance : Attendance) : Prop :=
  attendance.due = none ∧ (attendance.listener.stopped = true ∨
    attendance.listener.channel.next = attendance.listener.channel.sent)

instance (attendance : Attendance) : Decidable attendance.Idle := inferInstanceAs (Decidable (_ ∧ _))

-- The message at a position was skipped by a lag.
def Lost (attendance : Attendance) (position : Nat) : Prop :=
  ∃ lag ∈ attendance.lags, lag.1 ≤ position ∧ position < lag.2

instance (attendance : Attendance) (position : Nat) : Decidable (attendance.Lost position) :=
  inferInstanceAs (Decidable (∃ lag ∈ _, _))

def ReactsAt (attendance : Attendance) (moves : List Move) (point : Attendance) : Prop :=
  ∃ before after, moves = before ++ .react :: after ∧ attendance.follow before = some point

variable {attendance ending point : Attendance} {move : Move} {moves more : List Move} {event : Event}
  {position : Nat}

theorem follow_append (attendance : Attendance) (moves more : List Move) :
    attendance.follow (moves ++ more) = (attendance.follow moves).bind (·.follow more) := by
  induction moves generalizing attendance with
  | nil => rfl
  | cons move moves ih =>
    simp only [List.cons_append, follow]
    split
    · exact ih _
    · rfl

theorem follow_cons (followed : attendance.follow (move :: moves) = some ending) :
    attendance.Allows move ∧ (attendance.make move).follow moves = some ending := by
  unfold follow at followed
  split at followed
  · next allowed => exact ⟨allowed, followed⟩
  · cases followed

theorem follow_split (followed : attendance.follow (moves ++ move :: more) = some ending) :
    ∃ between, attendance.follow moves = some between ∧ between.Allows move ∧
      (between.make move).follow more = some ending := by
  rw [follow_append] at followed
  obtain ⟨between, first, rest⟩ := Option.bind_eq_some_iff.mp followed
  exact ⟨between, first, follow_cons rest⟩

theorem follow_keeps (property : Attendance → Prop)
    (kept : ∀ attendance, ∀ move ∈ moves, property attendance → attendance.Allows move →
      property (attendance.make move)) (first : property attendance)
    (followed : attendance.follow moves = some ending) : property ending := by
  induction moves generalizing attendance with
  | nil => cases followed; exact first
  | cons move moves ih =>
    obtain ⟨allowed, rest⟩ := follow_cons followed
    refine ih (fun attendance move member => kept attendance move (List.mem_cons_of_mem _ member)) ?_ rest
    exact kept attendance move List.mem_cons_self first allowed

theorem ReactsAt.later (allowed : attendance.Allows move)
    (reacts : (attendance.make move).ReactsAt moves point) : attendance.ReactsAt (move :: moves) point := by
  obtain ⟨before, after, rfl, followed⟩ := reacts
  exact ⟨move :: before, after, rfl, (if_pos allowed).trans followed⟩

theorem receive_cases (holds : attendance.listener.channel.Holds attendance.sent)
    (going : attendance.listener.stopped = false) :
    let channel := attendance.listener.channel
    let after := attendance.make .receive
    (channel.next < channel.oldest ∧ after = { attendance with
        listener := ⟨{ channel with next := channel.oldest }, false⟩
        due := some .invalidate
        lags := attendance.lags ++ [(channel.next, channel.oldest)] }) ∨
    (∃ event, attendance.sent[channel.next]? = some event ∧ channel.oldest ≤ channel.next ∧
      after = { attendance with
        listener := ⟨{ channel with next := channel.next + 1 }, event == .shutdown⟩
        due := some event.reaction }) ∨
    (channel.next = channel.sent ∧ after = { attendance with
        listener := ⟨channel, channel.closed⟩
        due := none }) := by
  intro channel after
  have received := holds.receives
  have turned : after = { attendance with
      listener := attendance.listener.turn.2
      due := attendance.listener.turn.1
      lags := attendance.lags ++ lagsOf channel } := rfl
  rw [turned]
  unfold Listener.turn lagsOf
  simp only [going, Bool.false_eq_true, if_false]
  generalize attendance.listener.channel.receive = result at received ⊢
  obtain ⟨answer, moved⟩ := result
  cases received with
  | lag behind => exact .inl ⟨behind, by simp [channel, behind]⟩
  | message held reached =>
    exact .inr (.inl ⟨_, held, reached, by simp [channel, Nat.not_lt.mpr reached]⟩)
  | ended finished closed =>
    have reached : ¬ channel.next < channel.oldest := by
      rw [show channel.next = channel.sent from finished]
      exact Nat.not_lt.mpr channel.oldest_le
    exact .inr (.inr ⟨finished, by simp [channel, reached, closed]⟩)
  | nothing finished opened =>
    have reached : ¬ channel.next < channel.oldest := by
      rw [show channel.next = channel.sent from finished]
      exact Nat.not_lt.mpr channel.oldest_le
    exact .inr (.inr ⟨finished, by simp [channel, reached, opened]⟩)

theorem make_react {reaction : Reaction} (due : attendance.due = some reaction) :
    attendance.make .react =
      { attendance with service := ((react reaction).run attendance.service).2, due := none } := by
  simp only [make, due]

theorem make_extends (attendance : Attendance) (move : Move) :
    attendance.sent <+: (attendance.make move).sent ∧ attendance.lags <+: (attendance.make move).lags := by
  cases move with
  | send event => exact ⟨List.prefix_append _ _, List.prefix_rfl⟩
  | receive => exact ⟨List.prefix_rfl, List.prefix_append _ _⟩
  | react => cases due : attendance.due <;> simp [make, due]
  | close | serve => exact ⟨List.prefix_rfl, List.prefix_rfl⟩

theorem follow_extends (followed : attendance.follow moves = some ending) :
    attendance.sent <+: ending.sent ∧ attendance.lags <+: ending.lags := by
  refine follow_keeps (fun between => attendance.sent <+: between.sent ∧ attendance.lags <+: between.lags)
    (fun between move _ extended _ => ?_) ⟨List.prefix_rfl, List.prefix_rfl⟩ followed
  have further := between.make_extends move
  exact ⟨extended.1.trans further.1, extended.2.trans further.2⟩

theorem Lost.follow (lost : attendance.Lost position)
    (followed : attendance.follow moves = some ending) : ending.Lost position := by
  obtain ⟨lag, member, within⟩ := lost
  exact ⟨lag, (follow_extends followed).2.subset member, within⟩

theorem sent_kept {before after : List Event} (extended : before <+: after)
    (sent : before[position]? = some event) : after[position]? = some event := by
  obtain ⟨more, rfl⟩ := extended
  rw [List.getElem?_append_left (List.getElem?_eq_some_iff.mp sent).1]
  exact sent

theorem closed_follow (followed : attendance.follow moves = some ending)
    (closed : attendance.listener.channel.closed = true) : ending.sent = attendance.sent := by
  refine (follow_keeps (fun between => between.listener.channel.closed = true ∧
    between.sent = attendance.sent) (fun between move _ kept allowed => ?_) ⟨closed, rfl⟩ followed).2
  cases move with
  | send | close => exact absurd (kept.1.symm.trans allowed) nofun
  | receive => exact ⟨between.listener.turn_closed.trans kept.1, kept.2⟩
  | react => cases due : between.due <;> simpa [make, due] using kept
  | serve => exact kept

-- The listener has come to a message that was not lost.
def Heard (attendance : Attendance) (position : Nat) (event : Event) : Prop :=
  attendance.sent[position]? = some event ∧ position < attendance.listener.channel.next ∧
    ¬ attendance.Lost position

-- The channel agrees with what was sent, and a listener stops only at a shutdown or at the end.
structure Standing (attendance : Attendance) : Prop where
  holds : attendance.listener.channel.Holds attendance.sent
  passed : ∀ lag ∈ attendance.lags, lag.2 ≤ attendance.listener.channel.next
  stops : attendance.listener.stopped = true →
    (∃ position, attendance.Heard position .shutdown) ∨ attendance.listener.channel.closed = true
  shuts : attendance.due = some .shutdown →
    attendance.listener.stopped = true ∧ ∃ position, attendance.Heard position .shutdown

theorem begin_standing (wanted : Nat) (service : Service) : (begin wanted service).Standing :=
  ⟨Channel.create_holds wanted, nofun, nofun, nofun⟩

theorem Heard.make (heard : attendance.Heard position event) (standing : attendance.Standing)
    (allowed : attendance.Allows move) : (attendance.make move).Heard position event := by
  obtain ⟨sent, ahead, kept⟩ := heard
  have lasting : (attendance.make move).sent[position]? = some event :=
    sent_kept (attendance.make_extends move).1 sent
  cases move with
  | send | close | serve => exact ⟨lasting, ahead, kept⟩
  | react =>
    obtain ⟨reaction, due⟩ := Option.ne_none_iff_exists'.mp allowed
    rw [make_react due]
    exact ⟨sent, ahead, kept⟩
  | receive =>
    rcases receive_cases standing.holds allowed.2 with ⟨late, after⟩ | ⟨_, _, _, after⟩ | ⟨_, after⟩
    · rw [after]
      refine ⟨sent, Nat.lt_trans ahead late, ?_⟩
      rintro ⟨lag, member, within⟩
      rcases List.mem_append.mp member with old | new
      · exact kept ⟨lag, old, within⟩
      · rw [List.mem_singleton.mp new] at within
        exact absurd within.1 (Nat.not_le.mpr ahead)
    · rw [after]
      exact ⟨sent, Nat.lt_succ_of_lt ahead, kept⟩
    · rw [after]
      exact ⟨sent, ahead, kept⟩

theorem Standing.make (standing : attendance.Standing) (allowed : attendance.Allows move) :
    (attendance.make move).Standing := by
  have heard {position : Nat} {event : Event} (before : attendance.Heard position event) :=
    before.make standing allowed
  obtain ⟨holds, passed, stops, shuts⟩ := standing
  cases move with
  | send event =>
    refine ⟨holds.send event, passed, fun stopped => ?_, fun due => ?_⟩
    · exact (stops stopped).imp_left fun ⟨position, before⟩ => ⟨position, heard before⟩
    · obtain ⟨stopped, position, before⟩ := shuts due
      exact ⟨stopped, position, heard before⟩
  | close =>
    refine ⟨holds.close, passed, fun stopped => .inr rfl, fun due => ?_⟩
    obtain ⟨stopped, position, before⟩ := shuts due
    exact ⟨stopped, position, heard before⟩
  | receive =>
    rcases receive_cases holds allowed.2 with ⟨late, after⟩ | ⟨event, held, _, after⟩ | ⟨finished, after⟩
    · rw [after]
      refine ⟨holds.moveTo (Channel.oldest_le _), fun lag member => ?_, nofun, nofun⟩
      rcases List.mem_append.mp member with old | new
      · exact Nat.le_trans (passed lag old) (Nat.le_of_lt late)
      · rw [List.mem_singleton.mp new]
    · rw [after]
      have bound := (List.getElem?_eq_some_iff.mp held).1
      have counted := holds.counted
      have kept : ¬ attendance.Lost attendance.listener.channel.next := by
        rintro ⟨lag, member, within⟩
        exact absurd (passed lag member) (Nat.not_le.mpr within.2)
      refine ⟨holds.moveTo (by omega), fun lag member => Nat.le_succ_of_le (passed lag member), ?_, ?_⟩
      · intro stopped
        have shutdown : event = .shutdown := beq_iff_eq.mp stopped
        exact .inl ⟨_, shutdown ▸ held, Nat.lt_succ_self _, kept⟩
      · intro due
        have shutdown : event = .shutdown := by cases event <;> first | rfl | cases due
        exact ⟨beq_iff_eq.mpr shutdown, _, shutdown ▸ held, Nat.lt_succ_self _, kept⟩
    · rw [after]
      exact ⟨holds, passed, .inr, nofun⟩
  | react =>
    obtain ⟨reaction, due⟩ := Option.ne_none_iff_exists'.mp allowed
    rw [make_react due]
    exact ⟨holds, passed, stops, nofun⟩
  | serve step => exact ⟨holds, passed, stops, shuts⟩

theorem Standing.follow (standing : attendance.Standing)
    (followed : attendance.follow moves = some ending) : ending.Standing :=
  follow_keeps Standing (fun _ _ _ standing => standing.make) standing followed

theorem due_reacts {reaction : Reaction} (followed : attendance.follow moves = some ending)
    (due : attendance.due = some reaction) (idle : ending.Idle) :
    ∃ point, attendance.ReactsAt moves point ∧ point.due = some reaction := by
  induction moves generalizing attendance with
  | nil =>
    cases followed
    exact absurd (idle.1.symm.trans due) nofun
  | cons move moves ih =>
    obtain ⟨allowed, rest⟩ := follow_cons followed
    cases move with
    | react => exact ⟨attendance, ⟨[], moves, rfl, rfl⟩, due⟩
    | receive => exact absurd (allowed.1.symm.trans due) nofun
    | send | close | serve =>
      obtain ⟨point, reacts, same⟩ := ih rest due
      exact ⟨point, reacts.later allowed, same⟩

-- A listener that has not stopped short of a message comes to it, unless it stops at a shutdown before, or
-- lags behind and loses it.
theorem comes_to (standing : attendance.Standing) (going : attendance.listener.stopped = false)
    (ahead : attendance.listener.channel.next ≤ position)
    (followed : attendance.follow moves = some ending) (idle : ending.Idle)
    (bound : position < ending.sent.length) :
    ∃ point, attendance.ReactsAt moves point ∧
      ((point.due = some .invalidate ∧ ending.Lost position) ∨
        (∃ event, ending.sent[position]? = some event ∧ point.due = some event.reaction) ∨
        (point.due = some .shutdown ∧ ∃ earlier < position, ending.sent[earlier]? = some .shutdown)) := by
  induction moves generalizing attendance with
  | nil =>
    cases followed
    have counted := standing.holds.counted
    rcases idle.2 with stopped | drained
    · exact absurd (going.symm.trans stopped) nofun
    · omega
  | cons move moves ih =>
    obtain ⟨allowed, rest⟩ := follow_cons followed
    have standing' := standing.make allowed
    suffices onward : ∃ point, (attendance.make move).ReactsAt moves point ∧ _ by
      obtain ⟨point, reacts, found⟩ := onward
      exact ⟨point, reacts.later allowed, found⟩
    cases move with
    | send | close | serve => exact ih standing' going ahead rest
    | react =>
      obtain ⟨reaction, due⟩ := Option.ne_none_iff_exists'.mp allowed
      have same := congrArg Attendance.listener (make_react due)
      exact ih standing' (by rw [same]; exact going) (by rw [same]; exact ahead) rest
    | receive =>
      rcases receive_cases standing.holds allowed.2 with ⟨late, after⟩ | ⟨event, held, _, after⟩ | ⟨finished, after⟩
      · rw [after] at rest standing' ⊢
        rcases Nat.lt_or_ge position attendance.listener.channel.oldest with lost | later
        · obtain ⟨point, reacts, due⟩ := due_reacts rest rfl idle
          have within : ending.Lost position :=
            Lost.follow ⟨_, List.mem_append_right _ (List.mem_singleton.mpr rfl), ahead, lost⟩ rest
          exact ⟨point, reacts, .inl ⟨due, within⟩⟩
        · exact ih standing' rfl later rest
      · rw [after] at rest standing' ⊢
        have lasting : ending.sent[attendance.listener.channel.next]? = some event :=
          sent_kept (follow_extends rest).1 held
        rcases Nat.lt_or_eq_of_le ahead with before | now
        · by_cases shutdown : event = .shutdown
          · obtain ⟨point, reacts, due⟩ := due_reacts rest rfl idle
            rw [shutdown] at due lasting
            exact ⟨point, reacts, .inr (.inr ⟨due, _, before, lasting⟩)⟩
          · exact ih standing' (beq_eq_false_iff_ne.mpr shutdown) before rest
        · obtain ⟨point, reacts, due⟩ := due_reacts rest rfl idle
          exact ⟨point, reacts, .inr (.inl ⟨event, now ▸ lasting, due⟩)⟩
      · rw [after] at rest standing' ⊢
        rcases Bool.eq_false_or_eq_true attendance.listener.channel.closed with closed | opened
        · have same := closed_follow rest closed
          have counted := standing.holds.counted
          rw [same] at bound
          simp only at bound
          omega
        · exact ih standing' opened ahead rest

theorem make_service (attendance : Attendance) (move : Move) :
    (attendance.make move).service = attendance.service ∨
      ∃ (α : Type) (course : Act α), course.Orderly ∧
        (attendance.make move).service = (course.run attendance.service).2 := by
  cases move with
  | send | close | receive => exact .inl rfl
  | react =>
    cases due : attendance.due with
    | none => exact .inl (by simp only [make, due])
    | some reaction =>
      exact .inr ⟨_, react reaction, react_orderly reaction, congrArg Attendance.service (make_react due)⟩
  | serve step => exact .inr ⟨_, perform step, perform_orderly step, rfl⟩

theorem follow_served {property : Service → Prop}
    (kept : ∀ before after : Service, property before → before.Deed after → property after)
    (first : property attendance.service) (followed : attendance.follow moves = some ending) :
    property ending.service := by
  refine follow_keeps (fun between => property between.service) (fun between move _ before _ => ?_) first
    followed
  rcases between.make_service move with same | ⟨α, course, orderly, after⟩
  · rw [same]
    exact before
  · rw [after]
    exact orderly.run_keeps kept before

theorem follow_precedes (followed : attendance.follow moves = some ending) :
    attendance.service.Precedes ending.service :=
  follow_served (fun _ _ => Service.Precedes.deed) ⟨Nat.le_refl _, Nat.le_refl _⟩ followed

theorem react_invalidated (reaction : Reaction) (service : Service) :
    service.Invalidated ((react reaction).run service).2 := by
  cases reaction with
  | invalidate => exact service.invalidate_invalidated
  | shutdown => exact { service.invalidate_invalidated with }

theorem make_invalidated (allowed : attendance.Allows .react) :
    attendance.service.Invalidated (attendance.make .react).service := by
  obtain ⟨reaction, due⟩ := Option.ne_none_iff_exists'.mp allowed
  rw [make_react due]
  exact react_invalidated reaction attendance.service

theorem make_shut (due : attendance.due = some .shutdown) :
    attendance.service.ShutDown (attendance.make .react).service := by
  rw [make_react due]
  exact ⟨react_invalidated .shutdown attendance.service, rfl⟩

theorem make_spares (due : attendance.due = some .invalidate) :
    (attendance.make .react).service = attendance.service.invalidate :=
  congrArg Attendance.service (make_react due)

theorem ReactsAt.rest (reacts : attendance.ReactsAt moves point)
    (followed : attendance.follow moves = some ending) : ∃ before after,
      moves = before ++ .react :: after ∧ attendance.follow before = some point ∧ point.Allows .react ∧
        (point.make .react).follow after = some ending := by
  obtain ⟨before, after, split, reached⟩ := reacts
  rw [split] at followed
  obtain ⟨between, first, allowed, rest⟩ := follow_split followed
  cases reached.symm.trans first
  exact ⟨before, after, split, reached, allowed, rest⟩

theorem ReactsAt.refreshes (reacts : attendance.ReactsAt moves point)
    (followed : attendance.follow moves = some ending) :
    point.service.Invalidated (point.make .react).service ∧
      attendance.service.RefreshedBy ending.service := by
  obtain ⟨before, after, _, reached, allowed, rest⟩ := reacts.rest followed
  have invalidated := make_invalidated allowed
  refine ⟨invalidated, follow_served (fun _ _ => Service.RefreshedBy.deed) ?_ rest⟩
  exact (follow_precedes reached).invalidated invalidated

theorem unsent_follow (followed : attendance.follow moves = some ending) (unsent : .send event ∉ moves)
    (before : event ∉ attendance.sent) : event ∉ ending.sent := by
  refine follow_keeps (fun between => event ∉ between.sent) (fun between move member before _ => ?_) before
    followed
  cases move with
  | send other =>
    intro sent
    rcases List.mem_append.mp sent with old | new
    · exact before old
    · exact unsent (List.mem_singleton.mp new ▸ member)
  | react => cases due : between.due <;> simpa [make, due] using before
  | close | receive | serve => exact before

-- Once the listener has drained the channel or has stopped, every change that was sent before any shutdown
-- was followed by an invalidation of the resolver.
theorem every_change_invalidates {wanted : Nat} {service : Service} {earlier later : List Move}
    {event : Event} {ending : Attendance}
    (followed : (begin wanted service).follow (earlier ++ .send event :: later) = some ending)
    (idle : ending.Idle) (change : event ≠ .shutdown) (early : .send .shutdown ∉ earlier) :
    ∃ sending point, (begin wanted service).follow (earlier ++ [.send event]) = some sending ∧
      sending.ReactsAt later point ∧
      point.service.Invalidated (point.make .react).service ∧
      (point.make .react).service.background = point.service.background ∧
      sending.service.RefreshedBy ending.service := by
  obtain ⟨before, reached, allowed, rest⟩ := follow_split followed
  have standing := (begin_standing wanted service).follow reached
  have unsent : .shutdown ∉ before.sent := unsent_follow reached early List.not_mem_nil
  have counted := standing.holds.counted
  have going : before.listener.stopped = false := by
    refine Bool.eq_false_iff.mpr fun stopped => ?_
    rcases standing.stops stopped with ⟨_, held, _⟩ | closed
    · exact unsent (List.mem_of_getElem? held)
    · exact absurd (closed.symm.trans allowed) nofun
  have sent : ending.sent[before.sent.length]? = some event :=
    sent_kept (follow_extends rest).1 (by simp [make])
  have unshut : ∀ earlier < before.sent.length, ending.sent[earlier]? ≠ some .shutdown := by
    intro earlier less shutdown
    obtain ⟨more, extended⟩ := ((before.make_extends (.send event)).1.trans (follow_extends rest).1)
    rw [← extended, List.getElem?_append_left less] at shutdown
    exact unsent (List.mem_of_getElem? shutdown)
  obtain ⟨point, reacts, found⟩ := comes_to (standing.make allowed) going
    (counted ▸ standing.holds.behind) rest idle (List.getElem?_eq_some_iff.mp sent).1
  have due : point.due = some .invalidate := by
    rcases found with ⟨due, _⟩ | ⟨value, held, due⟩ | ⟨_, earlier, less, shutdown⟩
    · exact due
    · cases sent.symm.trans held
      rw [due]
      cases event with
      | shutdown => exact absurd rfl change
      | authorizationChanged | securityChanged => rfl
    · exact absurd shutdown (unshut earlier less)
  obtain ⟨invalidated, refreshed⟩ := reacts.refreshes rest
  refine ⟨_, point, ?_, reacts, invalidated, ?_, refreshed⟩
  · rw [follow_append, reached]
    exact if_pos allowed
  · rw [make_spares due]
    rfl

def staffed : Service := .new {} [] { roles := [.new "staff" [] []] }

def twoTurns : List Move := [.receive, .react, .receive, .react]

theorem lost_change_invalidates : ∃ sending point ending,
    (begin 1 staffed).follow ([.serve (.resolve "staff")] ++ .send .authorizationChanged ::
      .send .securityChanged :: twoTurns) = some ending ∧ ending.Idle ∧ ending.Lost 0 ∧
    (begin 1 staffed).follow ([.serve (.resolve "staff")] ++ [.send .authorizationChanged]) = some sending ∧
    (sending.service.resolver.knownRole "staff").1.isSome = true ∧
    sending.ReactsAt (.send .securityChanged :: twoTurns) point ∧
    point.service.Invalidated (point.make .react).service ∧ sending.service.RefreshedBy ending.service := by
  have ends : ∃ ending, (begin 1 staffed).follow ([.serve (.resolve "staff")] ++
      .send .authorizationChanged :: .send .securityChanged :: twoTurns) = some ending :=
    Option.isSome_iff_exists.mp (by decide +kernel)
  obtain ⟨ending, followed⟩ := ends
  have settled : ∀ ending ∈ (begin 1 staffed).follow ([.serve (.resolve "staff")] ++
      .send .authorizationChanged :: .send .securityChanged :: twoTurns),
      ending.Idle ∧ ending.Lost 0 := by decide +kernel
  have known : ∀ sending ∈ (begin 1 staffed).follow ([.serve (.resolve "staff")] ++
      [.send .authorizationChanged]), (sending.service.resolver.knownRole "staff").1.isSome = true := by
    decide +kernel
  obtain ⟨idle, lost⟩ := settled ending followed
  obtain ⟨sending, point, sent, reacts, invalidated, _, refreshed⟩ :=
    every_change_invalidates followed idle nofun (by simp)
  exact ⟨sending, point, ending, followed, idle, lost, sent, known sending sent, reacts, invalidated, refreshed⟩

theorem stopped_follow (followed : attendance.follow moves = some ending)
    (stopped : attendance.listener.stopped = true) : ending.listener.stopped = true := by
  refine follow_keeps (fun between => between.listener.stopped = true) (fun between move _ stopped allowed => ?_)
    stopped followed
  cases move with
  | receive => exact absurd (allowed.2.symm.trans stopped) nofun
  | react => cases due : between.due <;> simpa [make, due] using stopped
  | send | close | serve => exact stopped

theorem Heard.follow (heard : attendance.Heard position event) (standing : attendance.Standing)
    (followed : attendance.follow moves = some ending) : ending.Heard position event := by
  refine (follow_keeps (fun between => between.Standing ∧ between.Heard position event)
    (fun between move _ before allowed => ?_) ⟨standing, heard⟩ followed).2
  exact ⟨before.1.make allowed, before.2.make before.1 allowed⟩

theorem kept_shutdown_reached (standing : attendance.Standing)
    (going : attendance.listener.stopped = false) (ahead : attendance.listener.channel.next ≤ position)
    (followed : attendance.follow moves = some ending) (idle : ending.Idle)
    (sent : ending.sent[position]? = some .shutdown) (kept : ¬ ending.Lost position) :
    ∃ point, attendance.ReactsAt moves point ∧ point.due = some .shutdown := by
  obtain ⟨point, reacts, ⟨_, lost⟩ | ⟨event, held, due⟩ | ⟨due, _⟩⟩ :=
    comes_to standing going ahead followed idle (List.getElem?_eq_some_iff.mp sent).1
  · exact absurd lost kept
  · cases sent.symm.trans held
    exact ⟨point, reacts, due⟩
  · exact ⟨point, reacts, due⟩

theorem lost_shutdowns_spare (standing : attendance.Standing) (reacts : attendance.ReactsAt moves point)
    (followed : attendance.follow moves = some ending)
    (lost : ∀ position, ending.sent[position]? = some .shutdown → ending.Lost position) :
    point.due = some .invalidate := by
  obtain ⟨before, after, _, reached, allowed, rest⟩ := reacts.rest followed
  obtain ⟨reaction, due⟩ := Option.ne_none_iff_exists'.mp allowed
  cases reaction with
  | invalidate => exact due
  | shutdown =>
    have there := standing.follow reached
    obtain ⟨_, position, heard⟩ := there.shuts due
    have later := (heard.make there allowed).follow (there.make allowed) rest
    exact absurd (lost position later.1) later.2.2

-- A shutdown that is not lost stops the periodic check and the listener.  If all are lost, reactions empty
-- the caches and leave the periodic check alone, and the listener stops only at the end of the channel.
theorem shutdown_takes_effect_unless_lost {wanted : Nat} {service : Service} {moves : List Move}
    {ending : Attendance} (followed : (begin wanted service).follow moves = some ending)
    (idle : ending.Idle) :
    ((∃ position, ending.sent[position]? = some .shutdown ∧ ¬ ending.Lost position) →
      ending.listener.stopped = true ∧ ∃ point, (begin wanted service).ReactsAt moves point ∧
        point.service.ShutDown (point.make .react).service) ∧
    ((∀ position, ending.sent[position]? = some .shutdown → ending.Lost position) →
      (ending.listener.stopped = true → ending.listener.channel.closed = true) ∧
        ∀ point, (begin wanted service).ReactsAt moves point →
          point.service.Invalidated (point.make .react).service ∧
          (point.make .react).service.background = point.service.background) := by
  have standing := begin_standing wanted service
  refine ⟨fun ⟨position, sent, kept⟩ => ?_, fun lost => ⟨fun stopped => ?_, fun point reacts => ?_⟩⟩
  · obtain ⟨point, reacts, due⟩ :=
      kept_shutdown_reached standing rfl (Nat.zero_le _) followed idle sent kept
    obtain ⟨before, after, _, reached, allowed, rest⟩ := reacts.rest followed
    refine ⟨stopped_follow rest ?_, point, reacts, make_shut due⟩
    rw [make_react due]
    exact ((standing.follow reached).shuts due).1
  · refine ((standing.follow followed).stops stopped).resolve_left ?_
    rintro ⟨position, sent, _, kept⟩
    exact kept (lost position sent)
  · rw [make_spares (lost_shutdowns_spare standing reacts followed lost)]
    exact ⟨point.service.invalidate_invalidated, rfl⟩

-- A shutdown on a channel that keeps one, with a change behind it: the listener is told that it lagged,
-- empties the caches twice and stops at the end of the channel, and the periodic check goes on.
def overtaken : List Move :=
  [.serve .start, .send .shutdown, .send .authorizationChanged, .close] ++ twoTurns ++ [.receive]

theorem lost_shutdown_without_effect : ∃ ending, (begin 1 staffed).follow overtaken = some ending ∧
    ending.Idle ∧ ending.sent = [.shutdown, .authorizationChanged] ∧ ending.Lost 0 ∧
    ending.listener.stopped = true ∧ ending.service.isRunning = true ∧
    ∀ point, (begin 1 staffed).ReactsAt overtaken point →
      point.service.Invalidated (point.make .react).service ∧
      (point.make .react).service.background = point.service.background := by
  have ends : ∃ ending, (begin 1 staffed).follow overtaken = some ending :=
    Option.isSome_iff_exists.mp (by decide +kernel)
  obtain ⟨ending, followed⟩ := ends
  have settled : ∀ ending ∈ (begin 1 staffed).follow overtaken, ending.Idle ∧
      ending.sent = [.shutdown, .authorizationChanged] ∧ ending.Lost 0 ∧
      ending.listener.stopped = true ∧ ending.service.isRunning = true := by decide +kernel
  obtain ⟨idle, sent, lost, stopped, running⟩ := settled ending followed
  have all : ∀ position, ending.sent[position]? = some .shutdown → ending.Lost position := by
    rw [sent]
    rintro (_ | _ | position) shutdown
    · exact lost
    · cases shutdown
    · cases shutdown
  obtain ⟨_, spared⟩ := (shutdown_takes_effect_unless_lost followed idle).2 all
  exact ⟨ending, followed, idle, sent, lost, stopped, running, spared⟩

end Attendance
end Events
end RepositoryAccess
