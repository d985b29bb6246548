import Hotplug.Event
import Hotplug.Proofs.Channel.Unread
import Mathlib.Logic.Function.Basic
/-!
# The audience of a registry

The events of a call are sent one by one, and anybody may subscribe, listen or leave at any moment,
also between two events of the same call. A `Scene` is such a moment. Whoever has subscribed gets
the events since then, in order, or word of how many of them are lost (`Attends.runFrom`). What
others do makes no difference to that (`SameFor.runFrom`).
-/

namespace Hotplug

/-- A registry that announces on a channel what its calls do. -/
class Announcer (R : Type) (Call : outParam Type) where
  channel : R → Channel Event
  /-- The events of a call, and the registry afterwards. -/
  call : R → Call → List Event × R
  channel_call (r : R) (c : Call) : channel (call r c).2 = (channel r).sendAll (call r c).1

/-- A reader of a channel of events, and the answers it has got. -/
structure Listener where
  cursor : Cursor
  heard : List (Received Event)
deriving DecidableEq, Repr

inductive Move where
  | subscribe
  | unsubscribe
  | receive
  | drain
deriving DecidableEq, Repr

def Move.apply (c : Channel Event) : Move → Option Listener → Option Listener
  | .subscribe, _ => some ⟨c.subscribe, []⟩
  | .unsubscribe, _ => none
  | .receive, l =>
    l.map fun l => ⟨(c.receive l.cursor).2, l.heard ++ [(c.receive l.cursor).1]⟩
  | .drain, l => l.map fun l => ⟨(c.drain l.cursor).2, l.heard ++ (c.drain l.cursor).1⟩

inductive Act (Call : Type) where
  | call (c : Call)
  /-- The next event of the last call is sent. -/
  | send
  /-- The one of this name makes a move. -/
  | move (name : Nat) (m : Move)
deriving DecidableEq, Repr

namespace Act

variable {Call : Type}

def call? : Act Call → Option Call
  | .call c => some c
  | _ => none

/-- Everything but the moves of others. -/
def concerns (name : Nat) : Act Call → Bool
  | .move other _ => other = name
  | _ => true

/-- Whoever has this name stays subscribed. -/
def Keeps (name : Nat) (a : Act Call) : Prop :=
  a ≠ .move name .subscribe ∧ a ≠ .move name .unsubscribe

end Act

/-- A registry and its audience at some moment. -/
structure Scene (R : Type) where
  registry : R
  /-- The events of the last call that are not sent yet. -/
  pending : List Event
  /-- The channel as the audience finds it. -/
  channel : Channel Event
  listeners : Nat → Option Listener

variable {R Call : Type} [Announcer R Call]

namespace Announcer

def emitted (r : R) : List Call → List Event
  | [] => []
  | c :: cs => (call r c).1 ++ emitted (call r c).2 cs

end Announcer

open Announcer (emitted)

namespace Scene

def new (r : R) : Scene R :=
  ⟨r, [], Announcer.channel r, fun _ => none⟩

/-- A call sends the events of the one before it, if any are left, before it has its own. -/
def step (s : Scene R) : Act Call → Scene R
  | .call c =>
    { s with
      registry := (Announcer.call s.registry c).2
      pending := (Announcer.call s.registry c).1
      channel := s.channel.sendAll s.pending }
  | .send =>
    { s with pending := s.pending.drop 1, channel := s.channel.sendAll (s.pending.take 1) }
  | .move name m =>
    { s with
      listeners :=
        Function.update s.listeners name (m.apply s.channel (s.listeners name)) }

def runFrom (s : Scene R) (acts : List (Act Call)) : Scene R :=
  acts.foldl step s

def run (r : R) (acts : List (Act Call)) : Scene R :=
  runFrom (new r) acts

/-- The channel of the registry is the one that the audience finds, once everything is sent. -/
structure Sound (slots : Nat) (s : Scene R) : Prop where
  carries : ∃ sent, s.channel.Carries sent
  channel_eq : Announcer.channel s.registry = s.channel.sendAll s.pending
  slots_eq : s.channel.slots = slots

theorem Sound.step {slots : Nat} {s : Scene R} (h : Sound slots s) (a : Act Call) :
    Sound slots (s.step a) := by
  obtain ⟨sent, hsent⟩ := h.carries
  cases a with
  | call c =>
    refine ⟨⟨_, hsent.sendAll _⟩, ?_, (Channel.slots_sendAll _ _).trans h.slots_eq⟩
    exact (Announcer.channel_call s.registry c).trans (by rw [h.channel_eq]; rfl)
  | send =>
    refine ⟨⟨_, hsent.sendAll _⟩, ?_, (Channel.slots_sendAll _ _).trans h.slots_eq⟩
    refine h.channel_eq.trans ?_
    change _ = (s.channel.sendAll (s.pending.take 1)).sendAll (s.pending.drop 1)
    rw [← Channel.sendAll_append, List.take_append_drop]
  | move name m => exact ⟨⟨sent, hsent⟩, h.channel_eq, h.slots_eq⟩

theorem Sound.runFrom {slots : Nat} {s : Scene R} (h : Sound slots s) (acts : List (Act Call)) :
    Sound slots (s.runFrom acts) := by
  induction acts generalizing s with
  | nil => exact h
  | cons a acts ih => exact ih (h.step a)

/-! ## What one listener gets -/

def eventsOf (s : Scene R) : Act Call → List Event
  | .call c => (Announcer.call s.registry c).1
  | _ => []

/-- The one of this name has subscribed when `front` was sent. It has got past `passed` and has
`unread` in front of it. -/
structure Attends (s : Scene R) (name : Nat) (l : Listener) (front passed unread : List Event) :
    Prop where
  listener : s.listeners name = some l
  carries : s.channel.Carries (front ++ passed ++ unread)
  cursor_eq : l.cursor = (front ++ passed).length
  accounts : Accounts l.heard passed

variable {s : Scene R} {name : Nat} {l : Listener} {front passed unread : List Event}

theorem Attends.receive_eq (h : Attends s name l front passed unread) :
    s.channel.receive l.cursor = ((Channel.nextAnswer s.channel.slots unread).1,
      l.cursor + (Channel.nextAnswer s.channel.slots unread).2) := by
  rw [Channel.receive_eq h.carries, h.cursor_eq, List.drop_left]

theorem Attends.drain_eq (h : Attends s name l front passed unread) :
    s.channel.drain l.cursor =
      (Channel.allAnswers s.channel.slots unread, l.cursor + unread.length) := by
  have hcursor : l.cursor ≤ (front ++ passed ++ unread).length := by
    rw [h.cursor_eq]
    exact (List.prefix_append _ _).length_le
  rw [Channel.drain_eq h.carries hcursor, h.cursor_eq, List.drop_left, ← List.length_append]

theorem Attends.send (h : Attends s name l front passed unread) {s' : Scene R}
    {es : List Event} (hlisteners : s'.listeners = s.listeners)
    (hchannel : s'.channel = s.channel.sendAll es) :
    Attends s' name l front passed (unread ++ es) where
  listener := by rw [hlisteners, h.listener]
  carries := by
    rw [hchannel, ← List.append_assoc]
    exact h.carries.sendAll es
  cursor_eq := h.cursor_eq
  accounts := h.accounts

theorem Attends.pass (h : Attends s name l front passed unread) {s' : Scene R} {n : Nat}
    {rs : List (Received Event)} (hchannel : s'.channel = s.channel)
    (hlistener : s'.listeners name = some ⟨l.cursor + n, l.heard ++ rs⟩) (hn : n ≤ unread.length)
    (hrs : Accounts rs (unread.take n)) :
    Attends s' name ⟨l.cursor + n, l.heard ++ rs⟩ front (passed ++ unread.take n)
      (unread.drop n) where
  listener := hlistener
  carries := by
    have hall : front ++ (passed ++ unread.take n) ++ unread.drop n =
        front ++ passed ++ unread := by
      simp only [List.append_assoc, List.take_append_drop]
    rw [hchannel, hall]
    exact h.carries
  cursor_eq := by
    change l.cursor + n = _
    have htake : (unread.take n).length = n := List.length_take_of_le hn
    simp only [h.cursor_eq, List.length_append, htake, Nat.add_assoc]
  accounts := h.accounts.append hrs

theorem Attends.receive (h : Attends s name l front passed unread) :
    let next := Channel.nextAnswer s.channel.slots unread
    Attends (s.step (.move name .receive)) name ⟨l.cursor + next.2, l.heard ++ [next.1]⟩ front
      (passed ++ unread.take next.2) (unread.drop next.2) := by
  intro next
  refine h.pass rfl ?_ (Channel.nextAnswer_le _ _) (Channel.accounts_nextAnswer _ _)
  refine (Function.update_self ..).trans ?_
  rw [h.listener, Move.apply, Option.map_some, h.receive_eq]

theorem Attends.drain (h : Attends s name l front passed unread) :
    Attends (s.step (.move name .drain)) name
      ⟨l.cursor + unread.length, l.heard ++ Channel.allAnswers s.channel.slots unread⟩ front
      (passed ++ unread) [] := by
  have hlistener : (s.step (.move name .drain)).listeners name = some
      ⟨l.cursor + unread.length, l.heard ++ Channel.allAnswers s.channel.slots unread⟩ := by
    refine (Function.update_self ..).trans ?_
    rw [h.listener, Move.apply, Option.map_some, h.drain_eq]
  have haccounts : Accounts (Channel.allAnswers s.channel.slots unread)
      (unread.take unread.length) := by
    rw [List.take_length]
    exact Channel.accounts_allAnswers _ _
  have hchannel : (s.step (.move name .drain)).channel = s.channel := rfl
  have hpass := h.pass hchannel hlistener (Nat.le_refl _) haccounts
  rwa [List.take_length, List.drop_length] at hpass

theorem Attends.moveOther (h : Attends s name l front passed unread) {other : Nat} (m : Move)
    (hother : other ≠ name) :
    Attends (s.step (.move other m)) name l front passed unread where
  listener := (Function.update_of_ne (Ne.symm hother) _ _).trans h.listener
  carries := h.carries
  cursor_eq := h.cursor_eq
  accounts := h.accounts

theorem Attends.step (h : Attends s name l front passed unread) {a : Act Call}
    (ha : a.Keeps name) :
    ∃ l' passed' unread', Attends (s.step a) name l' front passed' unread' ∧
      passed' ++ unread' ++ (s.step a).pending =
        passed ++ unread ++ s.pending ++ s.eventsOf a := by
  cases a with
  | call c =>
    refine ⟨l, passed, unread ++ s.pending, h.send rfl rfl, ?_⟩
    simp only [List.append_assoc]
    rfl
  | send =>
    refine ⟨l, passed, unread ++ s.pending.take 1, h.send rfl rfl, ?_⟩
    simp only [Scene.step, eventsOf, List.append_assoc, List.append_nil, List.take_append_drop]
  | move other m =>
    by_cases hother : other = name
    · subst hother
      cases m with
      | subscribe => exact absurd rfl ha.1
      | unsubscribe => exact absurd rfl ha.2
      | receive =>
        refine ⟨_, _, _, h.receive, ?_⟩
        rw [List.append_assoc passed, List.take_append_drop]
        exact (List.append_nil _).symm
      | drain =>
        refine ⟨_, _, _, h.drain, ?_⟩
        rw [List.append_nil]
        exact (List.append_nil _).symm
    · exact ⟨l, passed, unread, h.moveOther m hother, (List.append_nil _).symm⟩

/-- Whoever stays subscribed has passed or has still to read just what there was to come, and the
events of the calls. -/
theorem Attends.runFrom (h : Attends s name l front passed unread) {acts : List (Act Call)}
    (hacts : ∀ a ∈ acts, a.Keeps name) :
    ∃ l' passed' unread', Attends (s.runFrom acts) name l' front passed' unread' ∧
      passed' ++ unread' ++ (s.runFrom acts).pending =
        passed ++ unread ++ s.pending ++ emitted s.registry (acts.filterMap Act.call?) := by
  induction acts generalizing s l passed unread with
  | nil => exact ⟨l, passed, unread, h, (List.append_nil _).symm⟩
  | cons a acts ih =>
    obtain ⟨l', passed', unread', hstep, hmore⟩ := h.step (hacts a List.mem_cons_self)
    obtain ⟨l'', passed'', unread'', hrun, hall⟩ :=
      ih hstep fun b hb => hacts b (List.mem_cons_of_mem _ hb)
    refine ⟨l'', passed'', unread'', hrun, hall.trans ?_⟩
    rw [hmore, List.append_assoc]
    congr 1
    cases a <;> rfl

/-! ## What others do -/

/-- Two moments that one in the audience cannot tell apart. -/
structure SameFor (name : Nat) (s s' : Scene R) : Prop where
  registry_eq : s.registry = s'.registry
  pending_eq : s.pending = s'.pending
  channel_eq : s.channel = s'.channel
  listener_eq : s.listeners name = s'.listeners name

theorem SameFor.trans {s s' s'' : Scene R} (h : SameFor name s s') (h' : SameFor name s' s'') :
    SameFor name s s'' :=
  ⟨h.registry_eq.trans h'.registry_eq, h.pending_eq.trans h'.pending_eq,
    h.channel_eq.trans h'.channel_eq, h.listener_eq.trans h'.listener_eq⟩

theorem SameFor.symm {s s' : Scene R} (h : SameFor name s s') : SameFor name s' s :=
  ⟨h.registry_eq.symm, h.pending_eq.symm, h.channel_eq.symm, h.listener_eq.symm⟩

theorem SameFor.step {s s' : Scene R} (h : SameFor name s s') (a : Act Call) :
    SameFor name (s.step a) (s'.step a) := by
  obtain ⟨hregistry, hpending, hchannel, hlistener⟩ := h
  cases a with
  | call c =>
    exact ⟨by simp only [Scene.step, hregistry], by simp only [Scene.step, hregistry],
      by simp only [Scene.step, hchannel, hpending], hlistener⟩
  | send =>
    exact ⟨hregistry, by simp only [Scene.step, hpending],
      by simp only [Scene.step, hchannel, hpending], hlistener⟩
  | move other m =>
    refine ⟨hregistry, hpending, hchannel, ?_⟩
    by_cases hother : other = name
    · subst hother
      simp only [Scene.step, Function.update_self, hchannel, hlistener]
    · simp only [Scene.step, Function.update_of_ne (Ne.symm hother), hlistener]

theorem SameFor.skip {s s' : Scene R} (h : SameFor name s s') {a : Act Call}
    (ha : a.concerns name = false) : SameFor name (s.step a) s' := by
  cases a with
  | call c => contradiction
  | send => contradiction
  | move other m =>
    have hother : name ≠ other := fun hname => by simp [Act.concerns, hname] at ha
    refine ⟨h.registry_eq, h.pending_eq, h.channel_eq, Eq.trans ?_ h.listener_eq⟩
    exact Function.update_of_ne hother _ _

theorem SameFor.runFrom {s s' : Scene R} (h : SameFor name s s') (acts : List (Act Call)) :
    SameFor name (s.runFrom acts) (s'.runFrom (acts.filter (Act.concerns name))) := by
  induction acts generalizing s s' with
  | nil => exact h
  | cons a acts ih =>
    cases ha : a.concerns name with
    | true =>
      rw [List.filter_cons_of_pos ha]
      exact ih (h.step a)
    | false =>
      rw [List.filter_cons_of_neg (by simp [ha])]
      exact ih (h.skip ha)

end Scene

end Hotplug
