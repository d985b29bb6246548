import Hotplug.Registry.Mounts
/-!
# Watchers

A watcher reads the mount table of a registry again and again. A table that cannot be read is left
for the next time.
-/

namespace Hotplug

structure Watcher where
  registry : MountRegistry
  /-- Milliseconds between two readings. -/
  interval : Nat
deriving Repr

namespace Watcher

def withInterval (r : MountRegistry) (millis : Nat) : Except Error Watcher :=
  if millis = 0 then .error (.configuration .zeroWatchInterval) else .ok ⟨r, millis⟩

def new (r : MountRegistry) : Except Error Watcher := do
  r.config.validate
  withInterval r (r.config.pollIntervalSecs * 1000)

def tick (w : Watcher) (t : FileTree) (now : Instant) : Except Error (List Event × Watcher) :=
  match w.registry.refresh t now with
  | .ok (events, r) => .ok (events, { w with registry := r })
  | .error e => if e.isTransient then .ok ([], w) else .error e

/-- What a watcher at work waits for, whichever comes first. -/
inductive Turn where
  | cancelled
  | due (t : FileTree) (now : Instant)
deriving DecidableEq, Repr

structure Watch where
  watcher : Watcher
  /-- The events of each reading so far. -/
  batches : List (List Event)
  /-- How the work has ended, if it has. -/
  ended : Option (Except Error Unit)

/-- The watcher ends when it is cancelled, and at an error that reading again does not help. -/
def Watch.take (s : Watch) (turn : Turn) : Watch :=
  match s.ended, turn with
  | some _, _ => s
  | none, .cancelled => { s with ended := some (.ok ()) }
  | none, .due t now =>
    match s.watcher.tick t now with
    | .ok (events, w) => { s with watcher := w, batches := s.batches ++ [events] }
    | .error e => { s with ended := some (.error e) }

def Watch.forget (s : Watch) : Watch :=
  { s with batches := [] }

def start (w : Watcher) : Watch :=
  ⟨w, [], none⟩

def run (w : Watcher) (turns : List Turn) : Watch :=
  turns.foldl Watch.take w.start

end Watcher

end Hotplug
