import Hotplug.MountTable
import Hotplug.Proofs.Text.Escape
import Hotplug.Proofs.Text.Split
/-!
# Tables as a kernel writes them

A kernel writes one line for each mount. In the device and the mount point it escapes the blank, the
tab, the line feed and the backslash, and writes every other character as it is. A reader that cuts
lines at all white space gets the mounts back exactly if no other white space stands in their fields
(`parse_table_eq_iff`); a mount point with a no-break space is cut short
(`parse_table_noBreakSpace`).
-/

namespace Hotplug

open Escape (octalEscape writeOctal)

structure Mounted where
  device : String
  point : String
  fsType : String
  device_below : Mount.deviceRoot <+: device.toList
  point_ne : point.toList ≠ []
  fsType_ne : fsType.toList ≠ []
  fsType_solid : ∀ c ∈ fsType.toList, isBlank c = false

namespace Mounted

def escapedBlanks : List Char := [' ', '\t', '\n']

def pointEscapes : List Char := '\\' :: escapedBlanks

def deviceEscapes : List Char := '#' :: pointEscapes

def field (escaped s : List Char) : List Char :=
  writeOctal (s.map fun c => (c, escaped.contains c))

def line (m : Mounted) : List Char :=
  field deviceEscapes m.device.toList ++ ' ' :: (field pointEscapes m.point.toList ++
    ' ' :: (m.fsType.toList ++ [' ', 'r', 'w', ' ', '0', ' ', '0']))

def table (ms : List Mounted) : String :=
  String.ofList (ms.flatMap fun m => m.line ++ ['\n'])

/-- The mount that a line should be read as. -/
def mount (m : Mounted) : Mount :=
  ⟨.ofString m.device, .ofString m.point, m.fsType⟩

def isRawBlank (c : Char) : Bool :=
  isBlank c && !escapedBlanks.contains c

/-- A text whose white space is all escaped. -/
def Solid (s : List Char) : Prop :=
  ∀ c ∈ s, isRawBlank c = false

instance (s : List Char) : Decidable (Solid s) :=
  List.decidableBAll _ s

/-! ## Fields -/

/-- A set of characters to escape that makes fields readable. -/
structure Sufficient (escaped : List Char) : Prop where
  backslash : '\\' ∈ escaped
  blanks : escapedBlanks ⊆ escaped
  only : ∀ c ∈ escaped, isBlank c = true → c ∈ escapedBlanks

theorem sufficient_pointEscapes : Sufficient pointEscapes where
  backslash := List.mem_cons_self
  blanks := List.subset_cons_self _ _
  only c hc hblank := by
    rcases List.mem_cons.1 hc with rfl | hc
    · exact absurd hblank (by decide)
    · exact hc

theorem sufficient_deviceEscapes : Sufficient deviceEscapes where
  backslash := List.mem_cons_of_mem _ sufficient_pointEscapes.backslash
  blanks := List.subset_cons_of_subset _ sufficient_pointEscapes.blanks
  only c hc hblank := by
    rcases List.mem_cons.1 hc with rfl | hc
    · exact absurd hblank (by decide)
    · exact sufficient_pointEscapes.only c hc hblank

theorem not_isBlank_of_mem_octalEscape {b : UInt8} {c : Char} (h : c ∈ octalEscape b) :
    isBlank c = false := by
  have hdigit : ∀ n < 8, isBlank (Nat.digitChar n) = false := by decide
  have hb : b.toNat < 256 := b.toNat_lt
  simp only [octalEscape, List.mem_cons, List.not_mem_nil, or_false] at h
  rcases h with rfl | rfl | rfl | rfl
  · decide
  · exact hdigit _ (by omega)
  · exact hdigit _ (by omega)
  · exact hdigit _ (by omega)

section Field

variable {escaped : List Char}

theorem field_append (s t : List Char) :
    field escaped (s ++ t) = field escaped s ++ field escaped t := by
  rw [field, List.map_append, writeOctal, List.flatMap_append]
  rfl

theorem field_cons (c : Char) (s : List Char) :
    field escaped (c :: s) = field escaped [c] ++ field escaped s :=
  field_append [c] s

theorem field_singleton_of_mem {c : Char} (h : c ∈ escaped) :
    field escaped [c] = (String.utf8EncodeChar c).flatMap octalEscape := by
  simp [field, writeOctal, h]

theorem field_singleton_of_not_mem {c : Char} (h : c ∉ escaped) : field escaped [c] = [c] := by
  simp [field, writeOctal, h]

theorem field_of_forall_not_mem {s : List Char} (h : ∀ c ∈ s, c ∉ escaped) :
    field escaped s = s := by
  induction s with
  | nil => rfl
  | cons c s ih =>
    obtain ⟨hc, hs⟩ := List.forall_mem_cons.1 h
    rw [field_cons, field_singleton_of_not_mem hc, ih hs, List.singleton_append]

theorem octal_field (h : Sufficient escaped) (s : List Char) :
    Escape.octal (field escaped s) = s := by
  rw [Escape.octal, field]
  exact Escape.undoes_unescapeOctal.decodeLossy_read_of_mem h.backslash
    (Escape.writing_writeOctal _)

theorem field_eq_nil_iff {s : List Char} (h : Sufficient escaped) :
    field escaped s = [] ↔ s = [] := by
  constructor
  · intro hnil
    rw [← octal_field h s, hnil]
    rfl
  · rintro rfl
    rfl

theorem not_isBlank_of_mem_field {c : Char} (h : Sufficient escaped) (hc : isRawBlank c = false)
    {d : Char} (hd : d ∈ field escaped [c]) : isBlank d = false := by
  by_cases hmem : c ∈ escaped
  · rw [field_singleton_of_mem hmem, List.mem_flatMap] at hd
    obtain ⟨b, -, hd⟩ := hd
    exact not_isBlank_of_mem_octalEscape hd
  · rw [field_singleton_of_not_mem hmem, List.mem_singleton] at hd
    have hraw : c ∉ escapedBlanks := fun hblank => hmem (h.blanks hblank)
    simpa [isRawBlank, hraw, hd] using hc

theorem field_singleton_of_isRawBlank {c : Char} (h : Sufficient escaped)
    (hc : isRawBlank c = true) : field escaped [c] = [c] := by
  apply field_singleton_of_not_mem
  intro hmem
  rw [isRawBlank, Bool.and_eq_true, Bool.not_eq_true', List.contains_eq_mem,
    decide_eq_false_iff_not] at hc
  exact hc.2 (h.only c hmem hc.1)

end Field

/-! ## Lines -/

/-- A reader cuts a field at the raw white space and nowhere else. -/
theorem splitOnP_field {escaped : List Char} (h : Sufficient escaped) (s : List Char) :
    (field escaped s).splitOnP isBlank = (s.splitOnP isRawBlank).map (field escaped) := by
  induction s with
  | nil => rfl
  | cons c s ih =>
    rw [field_cons, List.splitOnP_cons_eq_if_modifyHead]
    cases hc : isRawBlank c with
    | true =>
      have hblank : isBlank c = true := by
        rw [isRawBlank, Bool.and_eq_true] at hc
        exact hc.1
      rw [field_singleton_of_isRawBlank h hc, List.singleton_append,
        List.splitOnP_cons_eq_if_modifyHead, hblank, ih]
      rfl
    | false =>
      rw [splitOnP_append fun d => not_isBlank_of_mem_field h hc, ih]
      cases s.splitOnP isRawBlank with
      | nil => rfl
      | cons w ws => simp [field_cons c w]

def runs (s : List Char) : List (List Char) :=
  (s.splitOnP isRawBlank).filter (!·.isEmpty)

theorem words_field {escaped : List Char} (h : Sufficient escaped) (s : List Char) :
    words (field escaped s) = (runs s).map (field escaped) := by
  rw [words, splitOnP_field h, runs, List.filter_map]
  congr 2
  funext w
  have hempty : (field escaped w).isEmpty = w.isEmpty := by
    rw [Bool.eq_iff_iff, List.isEmpty_iff, List.isEmpty_iff, field_eq_nil_iff h]
  rw [Function.comp, hempty]

theorem runs_of_solid {s : List Char} (hs : s ≠ []) (h : Solid s) : runs s = [s] := by
  simp [runs, List.splitOnP_eq_singleton h, hs]

theorem solid_of_mem_runs {s w : List Char} (h : w ∈ runs s) : Solid w :=
  forall_not_of_mem_splitOnP (List.mem_filter.1 h).1

theorem words_line (m : Mounted) :
    words m.line = (runs m.device.toList).map (field deviceEscapes) ++
      ((runs m.point.toList).map (field pointEscapes) ++
        m.fsType.toList :: [['r', 'w'], ['0'], ['0']]) := by
  have hblank : isBlank ' ' = true := by decide
  have hoptions : words ['r', 'w', ' ', '0', ' ', '0'] = [['r', 'w'], ['0'], ['0']] := by decide
  have htype : words m.fsType.toList = [m.fsType.toList] :=
    words_of_forall_not_blank m.fsType_ne m.fsType_solid
  rw [line, words_append hblank, words_append hblank, words_append hblank, htype, hoptions,
    words_field sufficient_deviceEscapes, words_field sufficient_pointEscapes]
  rfl

theorem linefeed_not_mem_field {escaped : List Char} (h : Sufficient escaped) (s : List Char) :
    '\n' ∉ field escaped s := by
  induction s with
  | nil => exact List.not_mem_nil
  | cons c s ih =>
    rw [field_cons, List.mem_append, not_or]
    refine ⟨fun hmem => ?_, ih⟩
    cases hc : isRawBlank c with
    | true =>
      rw [field_singleton_of_isRawBlank h hc, List.mem_singleton] at hmem
      rw [← hmem] at hc
      exact absurd hc (by decide)
    | false => exact absurd (not_isBlank_of_mem_field h hc hmem) (by decide)

theorem linefeed_not_mem_line (m : Mounted) : '\n' ∉ m.line := by
  have htype : '\n' ∉ m.fsType.toList := fun hmem =>
    absurd (m.fsType_solid _ hmem) (by decide)
  simp [line, htype, linefeed_not_mem_field sufficient_deviceEscapes,
    linefeed_not_mem_field sufficient_pointEscapes]

theorem exists_runs_device (m : Mounted) :
    ∃ w ws, runs m.device.toList = (Mount.deviceRoot ++ w) :: ws := by
  obtain ⟨rest, hrest⟩ := m.device_below
  have hroot : Solid Mount.deviceRoot := by decide
  rw [runs, ← hrest, splitOnP_append hroot]
  cases hsplit : rest.splitOnP isRawBlank with
  | nil => exact absurd hsplit (List.splitOnP_ne_nil _ _)
  | cons w ws => exact ⟨w, ws.filter (!·.isEmpty), by simp [Mount.deviceRoot]⟩

theorem field_deviceRoot_append (s : List Char) :
    field deviceEscapes (Mount.deviceRoot ++ s) =
      Mount.deviceRoot ++ field deviceEscapes s := by
  have hroot : ∀ c ∈ Mount.deviceRoot, c ∉ deviceEscapes := by
    simp [Mount.deviceRoot, deviceEscapes, pointEscapes, escapedBlanks]
  rw [field_append, field_of_forall_not_mem hroot]

theorem ofLine?_line (m : Mounted) {d p t : List Char} {ds rest : List (List Char)}
    (hd : runs m.device.toList = d :: ds)
    (hrest : ds.map (field deviceEscapes) ++ ((runs m.point.toList).map (field pointEscapes) ++
      m.fsType.toList :: [['r', 'w'], ['0'], ['0']]) = p :: t :: rest) :
    Mount.ofLine? m.line =
      some ⟨⟨Utf8.encode d⟩, ⟨Utf8.encode (Escape.octal p)⟩, String.ofList t⟩ := by
  obtain ⟨w, ws, hw⟩ := m.exists_runs_device
  obtain ⟨rfl, rfl⟩ := List.cons.inj (hd.symm.trans hw)
  have hroot : Mount.deviceRoot.isPrefixOf (field deviceEscapes (Mount.deviceRoot ++ w)) = true := by
    rw [field_deviceRoot_append, List.isPrefixOf_iff_prefix]
    exact List.prefix_append _ _
  rw [Mount.ofLine?, words_line, hd, List.map_cons, List.cons_append, hrest]
  simp only [hroot, if_true, octal_field sufficient_deviceEscapes]

theorem exists_words (m : Mounted) :
    ∃ d ds p t rest, runs m.device.toList = d :: ds ∧
      ds.map (field deviceEscapes) ++ ((runs m.point.toList).map (field pointEscapes) ++
        m.fsType.toList :: [['r', 'w'], ['0'], ['0']]) = p :: t :: rest := by
  have htwo (l : List (List Char)) (x y : List Char) (zs : List (List Char)) :
      ∃ a b rest, l ++ x :: y :: zs = a :: b :: rest := by
    match l with
    | [] => exact ⟨x, y, zs, rfl⟩
    | [a] => exact ⟨a, x, y :: zs, rfl⟩
    | a :: b :: l => exact ⟨a, b, l ++ x :: y :: zs, rfl⟩
  obtain ⟨w, ws, hw⟩ := m.exists_runs_device
  obtain ⟨p, t, rest, hrest⟩ := htwo
    (ws.map (field deviceEscapes) ++ (runs m.point.toList).map (field pointEscapes))
    m.fsType.toList ['r', 'w'] [['0'], ['0']]
  rw [List.append_assoc] at hrest
  exact ⟨_, ws, p, t, rest, hw, hrest⟩

theorem exists_ofLine?_line (m : Mounted) : ∃ out, Mount.ofLine? m.line = some out := by
  obtain ⟨d, ds, p, t, rest, hd, hrest⟩ := m.exists_words
  exact ⟨_, ofLine?_line m hd hrest⟩

theorem device_ne (m : Mounted) : m.device.toList ≠ [] := by
  have hroot := m.device_below
  intro hnil
  rw [hnil] at hroot
  exact absurd hroot (by decide)

theorem ofLine?_line_of_solid {m : Mounted} (hdevice : Solid m.device.toList)
    (hpoint : Solid m.point.toList) : Mount.ofLine? m.line = some m.mount := by
  have hline := ofLine?_line m (runs_of_solid m.device_ne hdevice)
    (by rw [runs_of_solid m.point_ne hpoint]; rfl)
  rw [octal_field sufficient_pointEscapes, String.ofList_toList] at hline
  exact hline

theorem solid_device_of_ofLine? {m : Mounted} (h : Mount.ofLine? m.line = some m.mount) :
    Solid m.device.toList := by
  obtain ⟨d, ds, p, t, rest, hd, hrest⟩ := m.exists_words
  rw [ofLine?_line m hd hrest, Option.some.injEq, mount, Mount.mk.injEq, Path.mk.injEq] at h
  have hdevice : d = m.device.toList := Utf8.encode_inj.1 h.1
  rw [← hdevice]
  exact solid_of_mem_runs (hd ▸ List.mem_cons_self)

theorem solid_point_of_ofLine? {m : Mounted} (h : Mount.ofLine? m.line = some m.mount) :
    Solid m.point.toList := by
  have hdevice := runs_of_solid m.device_ne (solid_device_of_ofLine? h)
  cases hp : runs m.point.toList with
  | nil =>
    -- The point is all white space, so the type was read in its place.
    rw [ofLine?_line m hdevice (by rw [hp]; rfl), Option.some.injEq, mount, Mount.mk.injEq,
      Path.mk.injEq, Path.mk.injEq] at h
    obtain ⟨-, hpoint, htype⟩ := h
    have htype : m.fsType.toList = ['r', 'w'] := by rw [← htype, String.toList_ofList]
    have hpoint : Escape.octal m.fsType.toList = m.point.toList := Utf8.encode_inj.1 hpoint
    rw [← hpoint, htype]
    decide
  | cons q qs =>
    obtain ⟨t, rest, hrest⟩ : ∃ t rest, qs.map (field pointEscapes) ++
        m.fsType.toList :: [['r', 'w'], ['0'], ['0']] = t :: rest := by
      cases qs <;> exact ⟨_, _, rfl⟩
    rw [ofLine?_line m hdevice (by rw [hp, List.map_cons, List.cons_append, hrest]; rfl),
      octal_field sufficient_pointEscapes, Option.some.injEq, mount, Mount.mk.injEq, Path.mk.injEq,
      Path.mk.injEq] at h
    have hpoint : q = m.point.toList := Utf8.encode_inj.1 h.2.1
    rw [← hpoint]
    exact solid_of_mem_runs (hp ▸ List.mem_cons_self)

/-! ## Tables -/

theorem lines_table (ms : List Mounted) :
    lines (table ms).toList = ms.map line ++ [[]] := by
  rw [table, String.toList_ofList]
  induction ms with
  | nil => rfl
  | cons m ms ih =>
    rw [List.flatMap_cons, List.append_assoc, List.singleton_append, lines_append, ih, lines,
      List.splitOn_eq_singleton m.linefeed_not_mem_line, List.map_cons]
    rfl

theorem parse_table (ms : List Mounted) :
    Mount.parse (table ms) = (ms.map line).filterMap Mount.ofLine? := by
  have hlast : Mount.ofLine? [] = none := rfl
  rw [Mount.parse, lines_table, List.filterMap_append, List.filterMap_cons_none hlast,
    List.filterMap_nil, List.append_nil]

/-- A written table is read as the mounts it was written for exactly if all white space in their
fields is escaped. -/
theorem parse_table_eq_iff (ms : List Mounted) :
    Mount.parse (table ms) = ms.map mount ↔
      ∀ m ∈ ms, Solid m.device.toList ∧ Solid m.point.toList := by
  rw [parse_table]
  induction ms with
  | nil => simp
  | cons m ms ih =>
    obtain ⟨out, hout⟩ := m.exists_ofLine?_line
    rw [List.map_cons, List.filterMap_cons_some hout, List.map_cons, List.cons_eq_cons, ih,
      List.forall_mem_cons]
    refine and_congr_left fun _ => ⟨fun heq => ?_, fun hsolid => ?_⟩
    · rw [heq] at hout
      exact ⟨solid_device_of_ofLine? hout, solid_point_of_ofLine? hout⟩
    · rw [ofLine?_line_of_solid hsolid.1 hsolid.2] at hout
      exact (Option.some.inj hout).symm

theorem vfat_solid : ∀ c ∈ "vfat".toList, isBlank c = false := by
  simp [isBlank]

/-- A mount point with a no-break space is cut short there, and the rest of it is taken for the type
of the file system. -/
theorem parse_table_noBreakSpace :
    let m : Mounted :=
      ⟨"/dev/sdb", "/mnt/a\u00A0b", "vfat", by decide, by decide, by decide, vfat_solid⟩
    Mount.parse (table [m]) = [⟨.ofString "/dev/sdb", .ofString "/mnt/a", "b"⟩] ∧
      Mount.parse (table [m]) ≠ [m.mount] := by
  decide +kernel

end Mounted

end Hotplug
