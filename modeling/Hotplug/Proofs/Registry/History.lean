import Hotplug.FileTree.Edit
import Hotplug.Proofs.Registry.Refresh
import Mathlib.Data.List.Induction
/-!
# Histories of a registry

A registry lives through a sequence of readings, of which some may fail. What it knows afterwards is
decided by the last tree that could be read (`tracks_after`): its mount points, and the unique id at
each place. The rest of a record tells of earlier trees.
-/

namespace Hotplug.MountRegistry

open AttachedDevice (Ascending)

/-- A call of `refresh`: the tree it finds, and the time. -/
structure Reading where
  tree : FileTree
  now : Instant
deriving DecidableEq, Repr

/-- The events of a reading, and the registry afterwards. A reading that fails has no events and
leaves the registry alone. -/
def attempt (r : MountRegistry) (x : Reading) : List Event × MountRegistry :=
  match r.refresh x.tree x.now with
  | .ok out => out
  | .error _ => ([], r)

def run (r : MountRegistry) : List Reading → List (List Event) × MountRegistry
  | [] => ([], r)
  | x :: xs =>
    let first := r.attempt x
    let rest := run first.2 xs
    (first.1 :: rest.1, rest.2)

/-- The registry that a new one has become after a history. -/
def after (config : Config) (xs : List Reading) : MountRegistry :=
  (run (new config) xs).2

/-- The events that each reading of the history of a new registry returns. -/
def batches (config : Config) (xs : List Reading) : List (List Event) :=
  (run (new config) xs).1

/-- The last tree of a history whose table could be read. -/
def lastRead (config : Config) (xs : List Reading) : Option FileTree :=
  ((xs.map (·.tree)).filter fun t => (t.readText config.mountsPath).toBool).getLast?

theorem run_concat (r : MountRegistry) (xs : List Reading) (x : Reading) :
    run r (xs ++ [x]) =
      ((run r xs).1 ++ [((run r xs).2.attempt x).1], ((run r xs).2.attempt x).2) := by
  induction xs generalizing r with
  | nil => rfl
  | cons y ys ih => simp only [List.cons_append, run, ih]

theorem after_concat (config : Config) (xs : List Reading) (x : Reading) :
    after config (xs ++ [x]) = ((after config xs).attempt x).2 := by
  rw [after, run_concat, after]

theorem batches_concat (config : Config) (xs : List Reading) (x : Reading) :
    batches config (xs ++ [x]) = batches config xs ++ [((after config xs).attempt x).1] := by
  rw [batches, run_concat, batches, after]

theorem events_attempt (r : MountRegistry) (x : Reading) :
    (r.attempt x).2.events = r.events.sendAll (r.attempt x).1 := by
  rw [attempt]
  split
  next out hout =>
    obtain ⟨-, hevents, hafter⟩ := refresh_eq_ok_iff.1 hout
    rw [hafter, hevents]
  next => rfl

/-- What a registry knows of the tree that was read last. -/
structure Tracks (config : Config) (last : Option FileTree) (r : MountRegistry) : Prop where
  config_eq : r.config = config
  points_eq : r.points = last.elim [] fun t => (table config t).map (·.point)
  ascending : Ascending r.devices
  uniqueId_eq : ∀ p, (recordAt? r.devices p).map (·.id.uniqueId) =
    last.bind (trackedId? config · p)

theorem tracks_new (config : Config) : Tracks config none (new config) where
  config_eq := rfl
  points_eq := rfl
  ascending := List.Pairwise.nil
  uniqueId_eq _ := rfl

theorem Tracks.refresh {config : Config} {last : Option FileTree} {r r' : MountRegistry}
    {t : FileTree} {now : Instant} {events : List Event} (h : Tracks config last r)
    (hr : r.refresh t now = .ok (events, r')) : Tracks config (some t) r' := by
  obtain ⟨-, -, rfl⟩ := refresh_eq_ok_iff.1 hr
  obtain ⟨rfl, -, -, -⟩ := h
  exact
    { config_eq := rfl
      points_eq := rfl
      ascending := ascending_survey _ _ _ _
      uniqueId_eq := fun p => uniqueId_recordAt?_survey _ _ _ _ p }

theorem lastRead_concat_of_ok {config : Config} {xs : List Reading} {x : Reading}
    {r : MountRegistry} {out : List Event × MountRegistry} (hconfig : r.config = config)
    (h : r.refresh x.tree x.now = .ok out) : lastRead config (xs ++ [x]) = some x.tree := by
  obtain ⟨⟨text, htext⟩, -⟩ := refresh_eq_ok_iff.1 h
  rw [hconfig] at htext
  simp [lastRead, htext, Except.toBool]

theorem lastRead_concat_of_error {config : Config} {xs : List Reading} {x : Reading}
    {r : MountRegistry} {e : Error} (hconfig : r.config = config)
    (h : r.refresh x.tree x.now = .error e) :
    lastRead config (xs ++ [x]) = lastRead config xs := by
  obtain ⟨cause, hread, -⟩ := refresh_eq_error_iff.1 h
  rw [hconfig] at hread
  simp [lastRead, hread, Except.toBool]

theorem tracks_after (config : Config) (xs : List Reading) :
    Tracks config (lastRead config xs) (after config xs) := by
  induction xs using List.reverseRecOn with
  | nil => exact tracks_new config
  | append_singleton xs x ih =>
    rw [after_concat, attempt]
    -- A reading that fails changes neither the registry nor the tree that was read last.
    split
    next out hout =>
      rw [lastRead_concat_of_ok ih.config_eq hout]
      exact ih.refresh hout
    next e he =>
      rw [lastRead_concat_of_error ih.config_eq he]
      exact ih

/-! ## A small system -/

def plainConfig : Config where
  mountsPath := .ofString "/mounts"
  sysfsPath := .ofString "/sys"
  diskByUuidPath := .ofString "/uuid"
  diskByLabelPath := .ofString "/label"
  pollIntervalSecs := 2
  eventChannelCapacity := 4

/-- A tree for this configuration: the text of the table, and for each disk what its `removable`
file says. -/
def plainTree (text : String) (disks : List (String × String)) : FileTree where
  workingDir := []
  entries :=
    let place (names : List String) : Place := names.map Utf8.ofString
    (place ["mounts"], .file (Utf8.ofString text)) :: (place ["sys"], .dir) ::
      (place ["sys", "class"], .dir) :: (place ["sys", "class", "block"], .dir) ::
      disks.flatMap fun d =>
        [(place ["sys", "class", "block", d.1], .dir),
          (place ["sys", "class", "block", d.1, "removable"], .file (Utf8.ofString d.2))]

def linkedTree (text : String) (disks links : List (String × String)) : FileTree :=
  links.foldl
    (fun t l => t.put [Utf8.ofString "uuid", Utf8.ofString l.1] (.link (.ofString l.2)))
    ((plainTree text disks).put [Utf8.ofString "uuid"] .dir)

end Hotplug.MountRegistry
