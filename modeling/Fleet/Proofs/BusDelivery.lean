import Fleet.Lifecycle.Bus

namespace Fleet.Proofs.BusDelivery

variable {bus after : Bus} {subscriber : Nat} {event : LifecycleEvent}
  {events more : List LifecycleEvent}

/-- What a subscriber gets until it is told that nothing more will come. To be told of a loss does
not end it. -/
inductive Receives (subscriber : Nat) : Bus → List LifecycleEvent → Prop where
  | closed {bus after : Bus} (h : bus.receive subscriber = some (.closed, after)) :
      Receives subscriber bus []
  | event {bus after : Bus} {event : LifecycleEvent} {events : List LifecycleEvent}
      (h : bus.receive subscriber = some (.event event, after))
      (hrest : Receives subscriber after events) : Receives subscriber bus (event :: events)
  | lagged {bus after : Bus} {missed : Nat} {events : List LifecycleEvent}
      (h : bus.receive subscriber = some (.lagged missed, after))
      (hrest : Receives subscriber after events) : Receives subscriber bus events

def oldest (bus : Bus) : Nat := bus.published - bus.kept.length

def moved (bus : Bus) (subscriber cursor : Nat) : Bus :=
  { bus with cursors := bus.cursors.set subscriber cursor }

theorem cursor_moved (h : subscriber < bus.cursors.length) (cursor : Nat) :
    (moved bus subscriber cursor).cursors[subscriber]? = some cursor :=
  List.getElem?_set_self h

theorem receive_eq {index : Nat} (hcursor : bus.cursors[subscriber]? = some (oldest bus + index)) :
    bus.receive subscriber = some (
      match bus.kept[index]? with
      | some event => (.event event, moved bus subscriber (oldest bus + index + 1))
      | none => (if bus.isOpen then .empty else .closed, bus)) := by
  have hcurrent : ¬ oldest bus + index < bus.published - bus.kept.length :=
    Nat.not_lt.mpr (Nat.le_add_right _ _)
  have hindex : oldest bus + index - (bus.published - bus.kept.length) = index :=
    Nat.add_sub_cancel_left _ _
  unfold Bus.receive
  rw [hcursor]
  dsimp only [Option.map_some]
  rw [if_neg hcurrent, hindex]
  rfl

/-- The induction is on what the subscriber has not yet got of what is kept. -/
theorem receives_drop (hclosed : bus.isOpen = false) {index : Nat}
    (hcursor : bus.cursors[subscriber]? = some (oldest bus + index)) :
    Receives subscriber bus (bus.kept.drop index) := by
  generalize hrest : bus.kept.drop index = events
  induction events generalizing bus index with
  | nil =>
      have hnone : bus.kept[index]? = none :=
        List.getElem?_eq_none (List.drop_eq_nil_iff.mp hrest)
      have hreceive : bus.receive subscriber = some (.closed, bus) := by
        rw [receive_eq hcursor, hnone, hclosed]
        rfl
      exact .closed hreceive
  | cons event rest ih =>
      have hsome : bus.kept[index]? = some event := by
        rw [← List.head?_drop, hrest]
        rfl
      have hlater : bus.kept.drop (index + 1) = rest := by
        rw [← List.tail_drop, hrest]
        rfl
      have hreceive : bus.receive subscriber =
          some (.event event, moved bus subscriber (oldest bus + index + 1)) := by
        rw [receive_eq hcursor, hsome]
      have hsubscribed : subscriber < bus.cursors.length :=
        (List.getElem?_eq_some_iff.mp hcursor).1
      exact .event hreceive (ih hclosed (cursor_moved hsubscribed _) hlater)

theorem receives_pending (hclosed : bus.isOpen = false)
    (hsubscribed : subscriber < bus.cursors.length) :
    Receives subscriber bus (bus.pending subscriber) := by
  have hcursor : bus.cursors[subscriber]? = some bus.cursors[subscriber] :=
    List.getElem?_eq_getElem hsubscribed
  generalize bus.cursors[subscriber] = cursor at hcursor
  have hpending : bus.pending subscriber = bus.kept.drop (cursor - oldest bus) := by
    unfold Bus.pending
    rw [hcursor]
    rfl
  rw [hpending]
  by_cases hlag : cursor < oldest bus
  · have hreceive : bus.receive subscriber =
        some (.lagged (oldest bus - cursor), moved bus subscriber (oldest bus)) := by
      unfold Bus.receive
      rw [hcursor]
      exact congrArg some (if_pos hlag)
    have hclosed' : (moved bus subscriber (oldest bus)).isOpen = false := hclosed
    have hrest : Receives subscriber (moved bus subscriber (oldest bus)) (bus.kept.drop 0) :=
      receives_drop hclosed' (cursor_moved hsubscribed _)
    rw [Nat.sub_eq_zero_of_le (Nat.le_of_lt hlag)]
    exact .lagged hreceive hrest
  · refine receives_drop hclosed (hcursor.trans ?_)
    rw [Nat.add_sub_cancel' (Nat.le_of_not_lt hlag)]

/-- Since the subscriber was last heard of, these notifications have been published, and the bus
still keeps them. -/
structure Awaits (bus : Bus) (subscriber : Nat) (events : List LifecycleEvent) : Prop where
  kept : events <:+ bus.kept
  /-- Nothing is kept that has not been published. -/
  published : bus.kept.length ≤ bus.published
  cursor : bus.cursors[subscriber]? = some (bus.published - events.length)

theorem awaits_subscribe (h : bus.kept.length ≤ bus.published) :
    Awaits bus.subscribe.2 bus.subscribe.1 [] :=
  ⟨List.nil_suffix, h, List.getElem?_concat_length⟩

theorem awaits_publish (h : Awaits bus subscriber events) (hfits : events.length < bus.capacity)
    (event : LifecycleEvent) : Awaits (bus.publish event) subscriber (events ++ [event]) := by
  obtain ⟨⟨earlier, hearlier⟩, hpublished, hcursor⟩ := h
  have hsubscribed : bus.cursors.isEmpty = false := by
    cases hcursors : bus.cursors with
    | nil =>
        rw [hcursors] at hcursor
        contradiction
    | cons => rfl
  have hkept : earlier.length + events.length = bus.kept.length := by
    rw [← hearlier, List.length_append]
  have hlength : (bus.kept ++ [event]).length = bus.kept.length + 1 := List.length_append
  unfold Bus.publish
  rw [hsubscribed, if_neg Bool.false_ne_true]
  refine ⟨?_, ?_, ?_⟩
  · -- What is dropped to make room is older than all that is awaited.
    have hroom : (bus.kept ++ [event]).length - bus.capacity ≤ earlier.length := by omega
    change events ++ [event] <:+ (bus.kept ++ [event]).drop _
    rw [← hearlier, List.append_assoc] at hroom ⊢
    rw [List.drop_append_of_le_length hroom]
    exact List.suffix_append _ _
  · change ((bus.kept ++ [event]).drop _).length ≤ bus.published + 1
    rw [List.length_drop]
    omega
  · change bus.cursors[subscriber]? = some (bus.published + 1 - _)
    rw [hcursor, List.length_append, List.length_singleton, Nat.add_sub_add_right]

theorem capacity_publish (bus : Bus) (event : LifecycleEvent) :
    (bus.publish event).capacity = bus.capacity := by
  unfold Bus.publish
  split <;> rfl

theorem awaits_publishAll (h : Awaits bus subscriber events)
    (hfits : events.length + more.length ≤ bus.capacity) :
    Awaits (bus.publishAll more) subscriber (events ++ more) := by
  induction more generalizing bus events with
  | nil =>
      rw [List.append_nil]
      exact h
  | cons event rest ih =>
      rw [List.length_cons] at hfits
      have hpublish := awaits_publish h (by omega) event
      have hrest : (events ++ [event]).length + rest.length ≤ (bus.publish event).capacity := by
        rw [capacity_publish, List.length_append, List.length_singleton]
        omega
      rw [List.append_cons]
      exact ih hpublish hrest

theorem awaits_close (h : Awaits bus subscriber events) : Awaits bus.close subscriber events :=
  ⟨h.kept, h.published, h.cursor⟩

theorem pending_of_awaits (h : Awaits bus subscriber events) : bus.pending subscriber = events := by
  obtain ⟨⟨earlier, hearlier⟩, hpublished, hcursor⟩ := h
  have hkept : earlier.length + events.length = bus.kept.length := by
    rw [← hearlier, List.length_append]
  have hindex : bus.published - events.length - (bus.published - bus.kept.length) =
      earlier.length := by omega
  unfold Bus.pending
  rw [hcursor]
  dsimp only
  rw [hindex, ← hearlier, List.drop_left]

theorem le_roundUp (number : Nat) : number ≤ Bus.roundUp number := by
  unfold Bus.roundUp
  split
  · assumption
  · exact Nat.le_of_pred_lt Nat.lt_log2_self

theorem eq_of_open {capacity : Nat} (h : Bus.open? capacity = some bus) :
    bus = { capacity := Bus.roundUp capacity } := by
  unfold Bus.open? at h
  split at h
  · contradiction
  · exact (Option.some.inj h).symm

/-- The bus after a subscriber has come, some notifications have been published, and it has been
closed. -/
def heard (bus : Bus) (events : List LifecycleEvent) : Bus :=
  (bus.subscribe.2.publishAll events).close

theorem awaits_heard (h : bus.kept.length ≤ bus.published)
    (hfits : events.length ≤ bus.capacity) : Awaits (heard bus events) bus.subscribe.1 events := by
  refine awaits_close (awaits_publishAll (awaits_subscribe h) ?_)
  rw [List.length_nil, Nat.zero_add]
  exact hfits

/-- Nothing is lost within the capacity that was asked for: a subscriber gets everything that is
published after it has come. -/
theorem receives_heard {capacity : Nat} (hopen : Bus.open? capacity = some bus)
    (hwithin : events.length ≤ capacity) :
    (heard bus events).pending bus.subscribe.1 = events ∧
      Receives bus.subscribe.1 (heard bus events) events := by
  have hawaits : Awaits (heard bus events) bus.subscribe.1 events := by
    obtain rfl := eq_of_open hopen
    exact awaits_heard (Nat.le_refl 0) (Nat.le_trans hwithin (le_roundUp capacity))
  have hpending := pending_of_awaits hawaits
  have hsubscribed := (List.getElem?_eq_some_iff.mp hawaits.cursor).1
  have hreceives := receives_pending (show (heard bus events).isOpen = false from rfl) hsubscribed
  rw [hpending] at hreceives
  exact ⟨hpending, hreceives⟩

end Fleet.Proofs.BusDelivery
