import Hotplug.CommandLine.Outcome
/-!
# Settings over the configuration file

What a setting of the invocation says counts more than the file, field by field. The file has to be
sound by itself all the same (`configuration_eq_ok_iff`): a setting does not make up for a field that
the file must not have (`zero_interval_is_not_overridden`), and only an interval of zero can spoil a
sound file (`exists_configuration_iff`).
-/

namespace Hotplug

instance exceptDecidableEq {ε α : Type} [DecidableEq ε] [DecidableEq α] :
    DecidableEq (Except ε α)
  | .ok a, .ok b => decidable_of_iff (a = b) (Except.ok.injEq a b ▸ Iff.rfl)
  | .error e, .error f => decidable_of_iff (e = f) (Except.error.injEq e f ▸ Iff.rfl)
  | .ok _, .error _ => isFalse nofun
  | .error _, .ok _ => isFalse nofun

theorem bind_eq_ok_iff {ε α β : Type} {x : Except ε α} {f : α → Except ε β} {b : β} :
    x >>= f = .ok b ↔ ∃ a, x = .ok a ∧ f a = .ok b := by
  cases x with
  | error e => simp [bind, Except.bind]
  | ok a => simp [bind, Except.bind]

namespace Config

theorem validate_eq_ok_iff {c : Config} :
    c.validate = .ok () ↔ c.pollIntervalSecs ≠ 0 ∧ c.eventChannelCapacity ≠ 0 := by
  unfold validate
  split
  next hsecs => simp [hsecs]
  next hsecs =>
    split
    next hcapacity => simp [hcapacity]
    next hcapacity => simp [hsecs, hcapacity]

theorem checked_eq_ok_iff {b c : Config} :
    (do b.validate; return b : Except Error Config) = .ok c ↔ b.validate = .ok () ∧ c = b := by
  rw [bind_eq_ok_iff]
  constructor
  · rintro ⟨_, hb, hc⟩
    exact ⟨hb, (Except.ok.inj hc).symm⟩
  · rintro ⟨hb, rfl⟩
    exact ⟨(), hb, rfl⟩

theorem load_eq_ok_iff {t : FileTree} {path : Path} {c : Config} :
    load t path = .ok c ↔
      (t.readText path).toOption.bind parse? = some c ∧ c.validate = .ok () := by
  unfold load
  cases t.readText path with
  | error e => simp [Except.toOption]
  | ok text =>
    change ofYaml text = .ok c ↔ parse? text = some c ∧ _
    unfold ofYaml
    cases parse? text with
    | none => simp
    | some b =>
      rw [checked_eq_ok_iff, Option.some.injEq]
      constructor
      · rintro ⟨hb, rfl⟩
        exact ⟨rfl, hb⟩
      · rintro ⟨rfl, hb⟩
        exact ⟨hb, rfl⟩

end Config

namespace CommandLine.Invocation

/-- The configuration that the settings are laid over, sound or not: what the file spells, or the
default if no file is named. -/
def base? (i : Invocation) (t : FileTree) : Option Config :=
  match i.config with
  | none => some .default
  | some path => (t.readText path).toOption.bind Config.parse?

def overlay (i : Invocation) (c : Config) : Config :=
  { c with
    mountsPath := i.mountsPath.getD c.mountsPath
    pollIntervalSecs := i.pollInterval.getD c.pollIntervalSecs }

def source (i : Invocation) (t : FileTree) : Except Error Config :=
  match i.config with
  | none => .ok .default
  | some path => Config.load t path

theorem source_eq_ok_iff {i : Invocation} {t : FileTree} {base : Config} :
    i.source t = .ok base ↔ i.base? t = some base ∧ base.validate = .ok () := by
  unfold source base?
  cases i.config with
  | some path => exact Config.load_eq_ok_iff
  | none =>
    constructor
    · intro hbase
      obtain rfl := Except.ok.inj hbase
      exact ⟨rfl, rfl⟩
    · rintro ⟨hbase, -⟩
      exact congrArg Except.ok (Option.some.inj hbase)

theorem configuration_eq (i : Invocation) (t : FileTree) :
    i.configuration t =
      i.source t >>= fun base => do (i.overlay base).validate; return i.overlay base := by
  unfold configuration source
  cases i.config <;> rfl

theorem overlay_validate_iff (i : Invocation) {base : Config} (h : base.validate = .ok ()) :
    (i.overlay base).validate = .ok () ↔ i.pollInterval ≠ some 0 := by
  rw [Config.validate_eq_ok_iff] at h ⊢
  cases hsecs : i.pollInterval with
  | none => simpa [overlay, hsecs] using h
  | some n => simp [overlay, hsecs, h.2]

/-- There is a configuration exactly if what the settings are laid over is sound, and stays sound
under them. It is then this one: what a setting says, and the rest as it was. -/
theorem configuration_eq_ok_iff (i : Invocation) (t : FileTree) (c : Config) :
    i.configuration t = .ok c ↔
      ∃ base, i.base? t = some base ∧ base.validate = .ok () ∧
        (i.overlay base).validate = .ok () ∧ c = i.overlay base := by
  rw [configuration_eq, bind_eq_ok_iff]
  simp only [source_eq_ok_iff, Config.checked_eq_ok_iff, and_assoc]

theorem exists_configuration_iff (i : Invocation) (t : FileTree) :
    (∃ c, i.configuration t = .ok c) ↔
      (∃ base, i.source t = .ok base) ∧ i.pollInterval ≠ some 0 := by
  constructor
  · rintro ⟨c, hc⟩
    rw [configuration_eq] at hc
    obtain ⟨base, hbase, hc⟩ := bind_eq_ok_iff.1 hc
    have hmerged := (Config.checked_eq_ok_iff.1 hc).1
    exact ⟨⟨base, hbase⟩, (i.overlay_validate_iff (source_eq_ok_iff.1 hbase).2).1 hmerged⟩
  · rintro ⟨⟨base, hbase⟩, hsecs⟩
    have hmerged := (i.overlay_validate_iff (source_eq_ok_iff.1 hbase).2).2 hsecs
    refine ⟨i.overlay base, ?_⟩
    rw [configuration_eq]
    exact bind_eq_ok_iff.2 ⟨base, hbase, Config.checked_eq_ok_iff.2 ⟨hmerged, rfl⟩⟩

/-- A file with an interval of zero is refused, though the setting would put another in its place. -/
theorem zero_interval_is_not_overridden :
    let t : FileTree := ⟨[([Utf8.ofString "c"], .file (Utf8.ofString "pollIntervalSecs: 0\n"))], []⟩
    let i : Invocation := ⟨some (.ofString "/c"), none, some 5, .list⟩
    let base : Config := { Config.default with pollIntervalSecs := 0 }
    Invocation.read [] ["--config=/c", "--poll-interval-secs=5", "list"] = .ok i ∧
      i.base? t = some base ∧ (i.overlay base).validate = .ok () ∧
      i.configuration t = .error (.configuration .zeroPollInterval) := by
  intro t i base
  refine ⟨?_, ?_, ?_, ?_⟩
  · decide +kernel
  · decide +kernel
  · decide +kernel
  · decide +kernel

end CommandLine.Invocation

end Hotplug
