import RepositoryAccess.Proofs.Notification

namespace RepositoryAccess.Events

namespace Channel
variable {α : Type} {channel : Channel α} {history : List α}

def unread (channel : Channel α) : Nat :=
  if channel.next < channel.oldest then channel.kept.length + 1 else channel.sent - channel.next

theorem Holds.unread_le (holds : channel.Holds history) : channel.unread ≤ channel.kept.length + 1 := by
  have kept := holds.latest.length_le
  have counted := holds.counted
  unfold unread oldest
  split <;> omega

theorem Holds.unread_lag (holds : channel.Holds history) (behind : channel.next < channel.oldest) :
    unread { channel with next := channel.oldest } < channel.unread := by
  have kept := holds.latest.length_le
  have counted := holds.counted
  have all : channel.unread = channel.kept.length + 1 := if_pos behind
  have rest : unread { channel with next := channel.oldest } = channel.sent - channel.oldest :=
    if_neg (Nat.lt_irrefl _)
  rw [all, rest]
  unfold oldest
  omega

theorem unread_message (reached : channel.oldest ≤ channel.next) (bound : channel.next < channel.sent) :
    unread { channel with next := channel.next + 1 } < channel.unread := by
  have all : channel.unread = channel.sent - channel.next := if_neg (Nat.not_lt.mpr reached)
  have rest : unread { channel with next := channel.next + 1 } = channel.sent - (channel.next + 1) :=
    if_neg (Nat.not_lt.mpr (Nat.le_succ_of_le reached))
  omega

theorem send_kept (full : channel.kept.length = min channel.capacity channel.sent) (value : α) :
    (channel.send value).kept.length = min (channel.send value).capacity (channel.send value).sent := by
  simp only [send, List.length_drop, List.length_append, List.length_singleton]
  omega

end Channel

namespace Listener

theorem sends_keep (events : List Event) (listener : Listener) :
    (events.foldl send listener).channel.closed = listener.channel.closed ∧
      (events.foldl send listener).channel.next = listener.channel.next ∧
      (events.foldl send listener).stopped = listener.stopped := by
  induction events generalizing listener with
  | nil => exact ⟨rfl, rfl, rfl⟩
  | cons event events ih => exact ih (listener.send event)

theorem turns_stop {listener : Listener} {history : List Event} {count : Nat}
    (holds : listener.channel.Holds history) (closed : listener.channel.closed = true)
    (enough : listener.stopped = true ∨ listener.channel.unread < count) :
    (listener.turns count).2.stopped = true := by
  induction count generalizing listener with
  | zero => exact enough.resolve_right (Nat.not_lt_zero _)
  | succ count ih =>
    show (listener.turn.2.turns count).2.stopped = true
    cases stopped : listener.stopped with
    | true =>
      have still : listener.turn.2 = listener := by simp [turn, stopped]
      rw [still]
      exact ih holds closed (.inl stopped)
    | false =>
      have unread := enough.resolve_left (by simp [stopped])
      have received := holds.receives
      unfold turn
      simp only [stopped, Bool.false_eq_true, if_false]
      generalize listener.channel.receive = result at received ⊢
      obtain ⟨answer, moved⟩ := result
      cases received with
      | lag behind =>
        have fewer := holds.unread_lag behind
        exact ih (holds.moveTo listener.channel.oldest_le) closed
          (.inr (Nat.lt_of_lt_of_le fewer (Nat.le_of_lt_succ unread)))
      | message held reached =>
        have bound := (List.getElem?_eq_some_iff.mp held).1
        have counted := holds.counted
        have fewer := Channel.unread_message reached (by omega)
        exact ih (holds.moveTo (by omega)) closed
          (.inr (Nat.lt_of_lt_of_le fewer (Nat.le_of_lt_succ unread)))
      | ended => exact ih holds closed (.inl rfl)
      | nothing _ opened => exact absurd (closed.symm.trans opened) nofun

theorem sends_oldest (wanted : Nat) (events : List Event) :
    (events.foldl send (.ofCapacity wanted)).channel.oldest = events.length - wanted.nextPowerOfTwo := by
  have filled : ∀ (listener : Listener),
      listener.channel.kept.length = min listener.channel.capacity listener.channel.sent →
        (events.foldl send listener).channel.oldest =
          listener.channel.sent + events.length - listener.channel.capacity := by
    induction events with
    | nil =>
      intro listener full
      simp only [List.foldl_nil, List.length_nil, Channel.oldest, full]
      omega
    | cons event events ih =>
      intro listener full
      rw [List.foldl_cons, ih (listener.send event) (Channel.send_kept full event)]
      show listener.channel.sent + 1 + events.length - listener.channel.capacity = _
      rw [List.length_cons]
      omega
  have empty := filled (.ofCapacity wanted) (Nat.min_zero _).symm
  rw [empty]
  show 0 + events.length - wanted.nextPowerOfTwo = _
  rw [Nat.zero_add]

end Listener

namespace Attendance
variable {attendance ending point : Attendance} {moves : List Move} {capacity : Nat} {events : List Event}
  {service : Service}

theorem follow_sends (attendance : Attendance) (events : List Event)
    (opened : attendance.listener.channel.closed = false) :
    attendance.follow (events.map .send) = some { attendance with
      listener := events.foldl Listener.send attendance.listener
      sent := attendance.sent ++ events } := by
  induction events generalizing attendance with
  | nil => simp [follow]
  | cons event events ih =>
    have allowed : attendance.Allows (.send event) := opened
    simp only [List.map_cons, follow, allowed, if_true, List.foldl_cons]
    rw [ih (attendance.make (.send event)) opened]
    simp [make]

def Turning (moves : List Move) : Prop := ∀ move ∈ moves, move = .receive ∨ move = .react

theorem follow_turns (attendance : Attendance) (count : Nat) (idle : attendance.due = none) :
    ∃ moves ending, Turning moves ∧ attendance.follow moves = some ending ∧ ending.due = none ∧
      ending.sent = attendance.sent ∧ ending.listener = (attendance.listener.turns count).2 ∧
      ending.service =
        ((reactAll (attendance.listener.turns count).1).run attendance.service).2 := by
  induction count generalizing attendance with
  | zero => exact ⟨[], attendance, nofun, rfl, idle, rfl, rfl, rfl⟩
  | succ count ih =>
    cases stopped : attendance.listener.stopped with
    | true =>
      have still : attendance.listener.turn = (none, attendance.listener) := by
        simp [Listener.turn, stopped]
      obtain ⟨moves, ending, turning, followed, rest⟩ := ih attendance idle
      exact ⟨moves, ending, turning, followed, by simpa [Listener.turns, still] using rest⟩
    | false =>
      have allowed : attendance.Allows .receive := ⟨idle, stopped⟩
      cases due : attendance.listener.turn.1 with
      | none =>
        obtain ⟨moves, ending, turning, followed, rest⟩ := ih (attendance.make .receive) due
        refine ⟨.receive :: moves, ending, List.forall_mem_cons.mpr ⟨.inl rfl, turning⟩, ?_, ?_⟩
        · exact (if_pos allowed).trans followed
        · simpa [Listener.turns, due, make] using rest
      | some reaction =>
        have reacts : (attendance.make .receive).Allows .react := by simp [Allows, make, due]
        have reacted := make_react (show (attendance.make .receive).due = some reaction from due)
        obtain ⟨moves, ending, turning, followed, rest⟩ := ih ((attendance.make .receive).make .react)
          (by rw [reacted])
        refine ⟨.receive :: .react :: moves, ending, ?_, ?_, ?_⟩
        · exact List.forall_mem_cons.mpr ⟨.inl rfl, List.forall_mem_cons.mpr ⟨.inr rfl, turning⟩⟩
        · simpa [follow, allowed, reacts] using followed
        · rw [reacted] at rest
          simpa [Listener.turns, due, reactAll, Act.run_bind, make] using rest

-- The listener has not begun, or it has come to what is kept from a position on, and lost what was before.
def Drains (attendance : Attendance) (first : Nat) : Prop :=
  attendance.listener.channel.oldest = first ∧
    ((attendance.listener.channel.next = 0 ∧ attendance.lags = [] ∧ attendance.listener.stopped = false) ∨
      (first ≤ attendance.listener.channel.next ∧ ∀ position, attendance.Lost position ↔ position < first))

theorem Drains.receive {first : Nat} (drains : attendance.Drains first)
    (holds : attendance.listener.channel.Holds attendance.sent) (allowed : attendance.Allows .receive) :
    (attendance.make .receive).Drains first := by
  obtain ⟨oldest, state⟩ := drains
  have reached := attendance.listener.channel.oldest_le
  have nothing (lags : attendance.lags = []) (none : first = 0) (position : Nat) :
      attendance.Lost position ↔ position < first := by
    simp [Lost, lags, none]
  rcases receive_cases holds allowed.2 with ⟨late, after⟩ | ⟨event, _, there, after⟩ | ⟨finished, after⟩
  · rw [after]
    refine ⟨oldest, .inr ⟨Nat.le_of_eq oldest.symm, fun position => ?_⟩⟩
    rcases state with ⟨start, lags, _⟩ | ⟨passed, _⟩
    · simp [Lost, lags, start, oldest]
    · omega
  · rw [after]
    refine ⟨oldest, .inr ?_⟩
    rcases state with ⟨start, lags, _⟩ | ⟨passed, lost⟩
    · exact ⟨by omega, nothing lags (by omega)⟩
    · exact ⟨Nat.le_succ_of_le passed, lost⟩
  · rw [after]
    refine ⟨oldest, .inr ?_⟩
    rcases state with ⟨start, lags, _⟩ | ⟨passed, lost⟩
    · exact ⟨by omega, nothing lags (by omega)⟩
    · exact ⟨passed, lost⟩

theorem Drains.follow {first : Nat} (drains : attendance.Drains first) (standing : attendance.Standing)
    (turning : Turning moves) (followed : attendance.follow moves = some ending) :
    ending.Drains first := by
  refine (follow_keeps (fun between => between.Standing ∧ between.Drains first)
    (fun between move member before allowed => ?_) ⟨standing, drains⟩ followed).2
  refine ⟨before.1.make allowed, ?_⟩
  rcases turning move member with rfl | rfl
  · exact before.2.receive before.1.holds allowed
  · obtain ⟨reaction, due⟩ := Option.ne_none_iff_exists'.mp allowed
    rw [make_react due]
    exact before.2

-- A channel that is filled, closed and drained in one step of the service is one of these runs.
theorem listen_followed (capacity : Nat) (events : List Event) (service : Service) :
    ∃ moves ending, (∀ step, .serve step ∉ moves) ∧
      (begin capacity (giveTurn.run service).2).follow moves = some ending ∧
      ending.Idle ∧ ending.sent = events ∧
      (∀ position, ending.Lost position ↔ position < events.length - capacity.nextPowerOfTwo) ∧
      ending.service = ((perform (.listen capacity events)).run service).2 := by
  let filled := events.foldl Listener.send (.ofCapacity capacity)
  let closed : Attendance :=
    { service := (giveTurn.run service).2, listener := filled.close, sent := events }
  obtain ⟨opened, start, going⟩ := Listener.sends_keep events (.ofCapacity capacity)
  have filling : (begin capacity (giveTurn.run service).2).follow (events.map .send ++ [.close]) =
      some closed := by
    rw [follow_append, follow_sends _ _ rfl]
    exact if_pos opened
  have standing : closed.Standing := (begin_standing _ _).follow filling
  obtain ⟨turns, ending, turning, followed, due, sent, listener, served⟩ :=
    follow_turns closed (filled.close.channel.kept.length + 2) rfl
  have stopped : ending.listener.stopped = true := by
    rw [listener]
    exact Listener.turns_stop standing.holds rfl (.inr (Nat.lt_succ_of_le standing.holds.unread_le))
  have drains : closed.Drains (events.length - capacity.nextPowerOfTwo) :=
    ⟨Listener.sends_oldest capacity events, .inl ⟨start, rfl, going⟩⟩
  have drained := (drains.follow standing turning followed).2.resolve_left fun fresh =>
    absurd (fresh.2.2.symm.trans stopped) nofun
  refine ⟨events.map .send ++ [.close] ++ turns, ending, ?_, ?_, ⟨due, .inl stopped⟩, sent, drained.2, ?_⟩
  · intro step member
    rcases List.mem_append.mp member with sending | serving
    · simp at sending
    · rcases turning _ serving with impossible | impossible <;> cases impossible
  · rw [follow_append, filling]
    exact followed
  · rw [served]
    simp only [perform, performWithin, performWith, listen, Act.run_bind]
    rfl

theorem giveTurn_background (started : service.background ≠ none) :
    (giveTurn.run service).2.background ≠ none := by
  show (if service.interval = 0 then _ else service : Service).background ≠ none
  split
  · simpa using started
  · exact started

theorem background_spared (quiet : ∀ step, .serve step ∉ moves)
    (followed : attendance.follow moves = some ending)
    (spared : ∀ point, attendance.ReactsAt moves point →
      (point.make .react).service.background = point.service.background) :
    ending.service.background = attendance.service.background := by
  induction moves generalizing attendance with
  | nil => cases followed; rfl
  | cons move moves ih =>
    obtain ⟨allowed, rest⟩ := follow_cons followed
    rw [ih (fun step member => quiet step (List.mem_cons_of_mem _ member)) rest
      fun point reacts => spared point (reacts.later allowed)]
    cases move with
    | send | close | receive => rfl
    | react => exact spared attendance ⟨[], moves, rfl, rfl⟩
    | serve step => exact absurd List.mem_cons_self (quiet step)

theorem background_gone (quiet : ∀ step, .serve step ∉ moves)
    (followed : attendance.follow moves = some ending) (gone : attendance.service.background = none) :
    ending.service.background = none := by
  refine follow_keeps (fun between => between.service.background = none)
    (fun between move member gone allowed => ?_) gone followed
  cases move with
  | send | close | receive => exact gone
  | react =>
    obtain ⟨reaction, due⟩ := Option.ne_none_iff_exists'.mp allowed
    rw [make_react due]
    cases reaction with
    | invalidate => exact gone
    | shutdown => rfl
  | serve step => exact absurd member (quiet step)

-- Whatever is sent, the resolver is emptied once the listener has had its turns.
theorem listen_refreshes (some : events ≠ []) :
    service.RefreshedBy ((perform (.listen capacity events)).run service).2 := by
  obtain ⟨moves, ending, _, followed, idle, sent, _, served⟩ := listen_followed capacity events service
  have bound : 0 < ending.sent.length := by
    rw [sent]
    exact List.length_pos_iff.mpr some
  obtain ⟨point, reacts, _⟩ := comes_to (begin_standing _ _) rfl (Nat.zero_le 0) followed idle bound
  have turned : service.Precedes (giveTurn.run service).2 :=
    giveTurn_orderly.run_keeps (fun _ _ => Service.Precedes.deed) ⟨Nat.le_refl _, Nat.le_refl _⟩
  rw [← served]
  exact turned.refreshed (reacts.refreshes followed).2

-- A shutdown stops the periodic check exactly if it is among the last events, as many as there is room for.
theorem listen_stops_iff (started : service.background ≠ none) :
    ((perform (.listen capacity events)).run service).2.background = none ↔
      .shutdown ∈ events.drop (events.length - capacity.nextPowerOfTwo) := by
  obtain ⟨moves, ending, quiet, followed, idle, sent, lost, served⟩ := listen_followed capacity events service
  rw [← served]
  constructor
  · intro gone
    by_contra absent
    refine giveTurn_background started ?_
    rw [← gone]
    refine (background_spared quiet followed fun point reacts => ?_).symm
    have spares := lost_shutdowns_spare (begin_standing _ _) reacts followed fun position shutdown => by
      refine (lost position).mpr (Nat.lt_of_not_le fun kept => absent ?_)
      rw [sent] at shutdown
      have there : (events.drop (events.length - capacity.nextPowerOfTwo))[position -
          (events.length - capacity.nextPowerOfTwo)]? = some .shutdown := by
        rw [List.getElem?_drop, Nat.add_sub_cancel' kept]
        exact shutdown
      exact List.mem_of_getElem? there
    rw [make_spares spares]
    rfl
  · intro kept
    obtain ⟨index, there⟩ := List.mem_iff_getElem?.mp kept
    rw [List.getElem?_drop] at there
    obtain ⟨point, reacts, due⟩ := kept_shutdown_reached (begin_standing _ _) rfl (Nat.zero_le _) followed idle
      (by rw [sent]; exact there) (fun missed => absurd ((lost _).mp missed) (Nat.not_lt.mpr (Nat.le_add_right _ _)))
    obtain ⟨before, after, split, _, _, rest⟩ := reacts.rest followed
    refine background_gone (fun step member => quiet step ?_) rest (make_shut due).background
    rw [split]
    exact List.mem_append_right _ (List.mem_cons_of_mem _ member)

end Attendance
end RepositoryAccess.Events
