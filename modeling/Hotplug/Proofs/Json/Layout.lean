import Hotplug.Json.Read
import Hotplug.Proofs.Json.Number
import Hotplug.Proofs.Json.Text
/-!
# Written records are read back

A record is written with white space at some places of its layout: before a member, behind a colon,
before the closing brace. Whatever that white space is, reading passes it and takes the members in
order (`Spells.record`). A record on one line and a record spread over several are two layouts, so a
value is read back from either form of its record (`ReadsBack.record`).
-/

namespace Hotplug.Json

/-- The reader takes a text for a value, if no number could go on behind it. -/
def Spells {α : Type} (value : Reader α) (s : List Char) (a : α) : Prop :=
  ∀ rest, Number.Ends rest → value (s ++ rest) = .ok (a, rest)

section

variable {α β σ : Type}

theorem bind_of_ok {value : Reader α} {f : α → Reader β} {s rest : List Char} {a : α}
    (h : value s = .ok (a, rest)) : (value >>= f) s = f a rest := by
  change Except.bind (value s) _ = _
  rw [h]
  rfl

theorem dropSpaces_append {gap : List Char} (hgap : gap.all isSpace = true) (s : List Char) :
    dropSpaces (gap ++ s) = dropSpaces s :=
  List.dropWhile_append_of_pos (by simpa using hgap)

theorem look_append {gap : List Char} (hgap : gap.all isSpace = true) {c : Char}
    (hc : isSpace c = false) (s : List Char) : look (gap ++ c :: s) = .ok (some c, c :: s) := by
  have hdrop : dropSpaces (c :: s) = c :: s := List.dropWhile_cons_of_neg (by simp [hc])
  rw [look, dropSpaces_append hgap, hdrop]
  rfl

theorem look_cons {c : Char} (hc : isSpace c = false) (s : List Char) :
    look (c :: s) = .ok (some c, c :: s) :=
  @look_append [] rfl c hc s

theorem advance_cons (c : Char) (s : List Char) : advance (c :: s) = .ok ((), s) :=
  rfl

theorem run_eq_ok_iff {value : Reader α} {text : String} {a : α} :
    run value text = .ok a ↔
      ∃ rest, value text.toList = .ok (a, rest) ∧ dropSpaces rest = [] := by
  unfold run
  cases hvalue : value text.toList with
  | error f => simp [bind, Except.bind]
  | ok p =>
    change (if dropSpaces p.2 = [] then Except.ok p.1 else Except.error Fault.malformed) = _ ↔ _
    obtain ⟨b, rest⟩ := p
    split
    next hrest =>
      constructor
      · rintro ⟨rfl⟩
        exact ⟨rest, rfl, hrest⟩
      · rintro ⟨_, ⟨rfl, rfl⟩, -⟩
        rfl
    next hrest =>
      constructor
      · nofun
      · rintro ⟨_, ⟨rfl, rfl⟩, h⟩
        exact absurd h hrest

theorem run_stringAs {of? : String → Option α} {text s : String} (h : run string text = .ok s) :
    run (stringAs of?) text =
      match of? s with
      | some a => .ok a
      | none => .error .mismatch := by
  obtain ⟨rest, hs, hrest⟩ := run_eq_ok_iff.1 h
  have hvalue : stringAs of? text.toList =
      match of? s with
      | some a => .ok (a, rest)
      | none => .error .mismatch := by
    rw [stringAs, bind_of_ok hs]
    cases of? s <;> rfl
  cases ha : of? s with
  | some a => exact run_eq_ok_iff.2 ⟨rest, by rw [hvalue, ha], hrest⟩
  | none =>
    rw [run, hvalue, ha]
    rfl

theorem run_of_spells {value : Reader α} {s : List Char} {a : α} (h : Spells value s a) :
    run value (String.ofList s) = .ok a := by
  have hs := h [] rfl
  rw [List.append_nil] at hs
  exact run_eq_ok_iff.2 ⟨[], by rw [String.toList_ofList, hs], rfl⟩

/-! ## Scalars -/

theorem quote_append (s : String) (rest : List Char) :
    quote s ++ rest = '"' :: (s.toList.flatMap escape ++ '"' :: rest) := by
  simp [quote]

theorem readString_quoted (s : String) (rest : List Char) :
    (readString : Reader (List Char)) (s.toList.flatMap escape ++ '"' :: rest) =
      .ok (s.toList, rest) :=
  readString_escapes s.toList rest

theorem Spells.string {gap : List Char} (hgap : gap.all isSpace = true) (s : String) :
    Spells string (gap ++ quote s) s := by
  intro rest _
  rw [List.append_assoc, quote_append, Json.string, bind_of_ok (look_append hgap (by decide) _)]
  simp only
  rw [bind_of_ok (advance_cons _ _), bind_of_ok (readString_quoted s rest), String.ofList_toList]
  rfl

theorem Spells.quoted (s : String) : Spells Json.string (quote s) s :=
  @Spells.string [] rfl s

theorem Spells.stringAs {gap : List Char} (hgap : gap.all isSpace = true)
    {of? : String → Option α} {s : String} {a : α} (h : of? s = some a) :
    Spells (stringAs of?) (gap ++ quote s) a := by
  intro rest hrest
  rw [Json.stringAs, bind_of_ok (Spells.string hgap s rest hrest), h]
  rfl

theorem Spells.natural {gap : List Char} (hgap : gap.all isSpace = true) {n : Nat}
    (hn : n ≤ maxWord) : Spells natural (gap ++ Nat.toDigits 10 n) n := by
  intro rest hrest
  obtain ⟨d, hd, ds, hds, -⟩ := Number.exists_toDigits n
  have hdigit := Number.isDigit_digitChar hd
  have hspace : isSpace d.digitChar = false := by
    have hall : ∀ d < 10, isSpace d.digitChar = false := by decide
    exact hall d hd
  have hread := Number.read_toDigits hn hrest
  rw [hds, List.cons_append] at hread
  rw [hds, List.append_assoc, List.cons_append, Json.natural,
    bind_of_ok (look_append hgap hspace _)]
  simp only [hdigit, Bool.or_true, if_true]
  rw [bind_of_ok hread]
  rfl

theorem colon_cons (s : List Char) : colon (':' :: s) = .ok ((), s) := by
  rw [colon, bind_of_ok (look_cons (by decide) _)]
  rfl

theorem Spells.once {value : Reader α} {s : List Char} {a : α} (h : Spells value s a) :
    Spells (once none value) (':' :: s) (some a) := by
  intro rest hrest
  change (colon >>= fun _ => value >>= fun a => pure (some a)) (':' :: (s ++ rest)) = _
  rw [bind_of_ok (colon_cons _), bind_of_ok (h rest hrest)]
  rfl

theorem Spells.map {value : Reader α} {s : List Char} {a : α} (h : Spells value s a) (f : α → β) :
    Spells (do return f (← value)) s (f a) := by
  intro rest hrest
  rw [bind_of_ok (h rest hrest)]
  rfl

theorem Spells.field {value : Reader α} {s : List Char} {a : α} {set : Option α → σ}
    (h : Spells value s a) :
    Spells (do return set (← Json.once none value)) (':' :: s) (set (some a)) :=
  h.once.map set

end

/-! ## Records -/

structure Layout where
  /-- Before a member. -/
  lead : List Char
  /-- Between a colon and its value. -/
  gap : List Char
  /-- Before the closing brace. -/
  tail : List Char
  lead_blank : lead.all isSpace = true
  gap_blank : gap.all isSpace = true
  tail_blank : tail.all isSpace = true

namespace Layout

def dense : Layout := ⟨[], [], [], rfl, rfl, rfl⟩

def lines : Layout := ⟨indent 1, [' '], indent 0, rfl, rfl, rfl⟩

variable (l : Layout)

def value (v : Scalar) : List Char :=
  ':' :: (l.gap ++ v.chars)

def member (f : String × Scalar) : List Char :=
  l.lead ++ quote f.1 ++ l.value f.2

def others (r : Record) : List Char :=
  r.flatMap (fun f => ',' :: l.member f) ++ l.tail ++ ['\x7d']

def write : Record → List Char
  | [] => '\x7b' :: (l.tail ++ ['\x7d'])
  | f :: r => '\x7b' :: (l.member f ++ l.others r)

end Layout

theorem intercalate_comma_cons {α : Type} (f : α → List Char) (a : α) (as : List α) :
    [','].intercalate ((a :: as).map f) = f a ++ as.flatMap fun b => ',' :: f b := by
  induction as generalizing a with
  | nil => simp
  | cons b as ih =>
    rw [List.map_cons, List.map_cons, List.intercalate_cons_cons, ← List.map_cons, ih,
      List.flatMap_cons]
    simp

theorem compact_eq (r : Record) : compact r = String.ofList (Layout.dense.write r) := by
  rw [compact]
  cases r with
  | nil => rfl
  | cons f r =>
    rw [intercalate_comma_cons (fun f : String × Scalar => quote f.1 ++ ':' :: f.2.chars)]
    simp [Layout.write, Layout.others, Layout.member, Layout.value, Layout.dense]

theorem pretty_eq {r : Record} (h : r ≠ []) : pretty r = String.ofList (Layout.lines.write r) := by
  cases r with
  | nil => contradiction
  | cons f r =>
    have hitems : (f :: r).map (fun f => quote f.1 ++ ':' :: ' ' :: f.2.chars) ≠ [] := by simp
    rw [pretty, prettyRecord, spread, if_neg hitems, List.map_map,
      intercalate_comma_cons (_ ∘ fun f : String × Scalar => _)]
    simp [Layout.write, Layout.others, Layout.member, Layout.value, Layout.lines]

section Members

variable {σ α : Type} {read : σ → String → Reader σ} {l : Layout}

/-- Reading the values of the members in order leads from one state to another. -/
inductive Gathers (read : σ → String → Reader σ) (l : Layout) : σ → Record → σ → Prop where
  | nil (acc : σ) : Gathers read l acc [] acc
  | cons {acc next final : σ} {f : String × Scalar} {r : Record}
    (hf : Spells (read acc f.1) (l.value f.2) next) (hr : Gathers read l next r final) :
    Gathers read l acc (f :: r) final

theorem ends_of_blank_append {gap : List Char} (hgap : gap.all isSpace = true) {s : List Char}
    (hs : Number.Ends s) : Number.Ends (gap ++ s) := by
  cases gap with
  | nil => exact hs
  | cons c gap =>
    have hc : c = ' ' ∨ c = '\n' ∨ c = '\t' ∨ c = '\r' := by
      simp only [List.all_cons, Bool.and_eq_true, isSpace, Bool.or_eq_true, decide_eq_true_eq,
        or_assoc] at hgap
      exact hgap.1
    rw [List.cons_append]
    rcases hc with rfl | rfl | rfl | rfl <;> rfl

theorem ends_others (l : Layout) (r : Record) (rest : List Char) :
    Number.Ends (l.others r ++ rest) := by
  cases r with
  | nil =>
    rw [Layout.others, List.flatMap_nil, List.nil_append, List.append_assoc]
    exact ends_of_blank_append l.tail_blank rfl
  | cons f r => rfl

theorem members_close (acc : σ) (first : Bool) (fuel : Nat) (rest : List Char) :
    members read (fuel + 1) first acc (l.tail ++ '\x7d' :: rest) = .ok (acc, rest) := by
  rw [members, bind_of_ok (look_append l.tail_blank (by decide) _)]
  rfl

def membersFromKey (read : σ → String → Reader σ) (fuel : Nat) (acc : σ) : Reader σ := do
  let key := String.ofList (← readString)
  members read fuel false (← read acc key)

def membersFromLead (read : σ → String → Reader σ) (fuel : Nat) (acc : σ) : Reader σ := do
  match (← look) with
  | none => fail .truncated
  | some '"' => advance; membersFromKey read fuel acc
  | some _ => fail .malformed

theorem membersFromLead_eq (acc : σ) (fuel : Nat) (s : List Char) :
    membersFromLead read fuel acc (l.lead ++ '"' :: s) = membersFromKey read fuel acc s := by
  rw [membersFromLead, bind_of_ok (look_append l.lead_blank (by decide) s)]
  rfl

theorem members_first (acc : σ) (fuel : Nat) (s : List Char) :
    members read (fuel + 1) true acc (l.lead ++ '"' :: s) = membersFromKey read fuel acc s := by
  rw [members, bind_of_ok (look_append l.lead_blank (by decide) s)]
  rfl

theorem members_comma (acc : σ) (fuel : Nat) (s : List Char) :
    members read (fuel + 1) false acc (',' :: s) = membersFromLead read fuel acc s := by
  rw [members, bind_of_ok (look_cons (by decide) s)]
  rfl

theorem member_append (l : Layout) (f : String × Scalar) (s : List Char) :
    l.member f ++ s = l.lead ++ '"' :: (f.1.toList.flatMap escape ++ '"' :: (l.value f.2 ++ s)) := by
  rw [Layout.member, List.append_assoc, List.append_assoc, quote_append]

theorem membersFromKey_eq {acc next : σ} {f : String × Scalar} {s : List Char} (fuel : Nat)
    (hf : read acc f.1 (l.value f.2 ++ s) = .ok (next, s)) :
    membersFromKey read fuel acc (f.1.toList.flatMap escape ++ '"' :: (l.value f.2 ++ s)) =
      members read fuel false next s := by
  rw [membersFromKey, bind_of_ok (readString_quoted f.1 _), String.ofList_toList, bind_of_ok hf]

theorem members_others {acc final : σ} {r : Record} (h : Gathers read l acc r final) {fuel : Nat}
    (hfuel : r.length < fuel) (rest : List Char) :
    members read fuel false acc (l.others r ++ rest) = .ok (final, rest) := by
  -- A step is spent on each member, and the last one on the brace.
  induction h generalizing fuel with
  | nil acc =>
    obtain ⟨fuel, rfl⟩ := Nat.exists_eq_add_one_of_ne_zero (Nat.ne_of_gt hfuel)
    rw [Layout.others, List.flatMap_nil, List.nil_append, List.append_assoc]
    exact members_close acc false fuel rest
  | @cons acc next final f r hf _ ih =>
    obtain ⟨fuel, rfl⟩ := Nat.exists_eq_add_one_of_ne_zero (Nat.ne_zero_of_lt hfuel)
    have hothers : l.others (f :: r) ++ rest = ',' :: (l.member f ++ (l.others r ++ rest)) := by
      simp [Layout.others]
    rw [hothers, members_comma, member_append, membersFromLead_eq,
      membersFromKey_eq fuel (hf _ (ends_others l r rest)), ih (by simpa using hfuel)]

theorem length_le_others (l : Layout) (r : Record) : r.length < (l.others r).length := by
  induction r with
  | nil => simp [Layout.others]
  | cons f r ih =>
    simp only [Layout.others, List.flatMap_cons, List.length_append, List.length_cons] at ih ⊢
    omega

theorem members_write {acc final : σ} {r : Record} (h : Gathers read l acc r final) {s : List Char}
    (hs : l.write r = '\x7b' :: s) (rest : List Char) :
    members read ((s ++ rest).length + 1) true acc (s ++ rest) = .ok (final, rest) := by
  cases h with
  | nil acc =>
    obtain rfl := (List.cons.inj hs).2
    rw [List.append_assoc]
    exact members_close acc true _ rest
  | @cons _ next _ f r hf hr =>
    obtain rfl := (List.cons.inj hs).2
    have hfuel : r.length < (l.member f ++ l.others r ++ rest).length := by
      have := length_le_others l r
      simp only [List.length_append]
      omega
    generalize (l.member f ++ l.others r ++ rest).length = fuel at hfuel
    rw [List.append_assoc, member_append, members_first,
      membersFromKey_eq fuel (hf _ (ends_others l r rest)), members_others hr hfuel]

theorem Spells.record {start final : σ} {finish : σ → Option α} {elements : Reader α} {r : Record}
    {a : α} (h : Gathers read l start r final) (ha : finish final = some a) :
    Spells (record start read finish elements) (l.write r) a := by
  intro rest _
  obtain ⟨s, hs⟩ : ∃ s, l.write r = '\x7b' :: s := by
    cases r <;> exact ⟨_, rfl⟩
  have hbrace : Json.record start read finish elements ('\x7b' :: (s ++ rest)) =
      (members read ((s ++ rest).length + 1) true start >>= fun acc =>
        match finish acc with
        | some a => pure a
        | none => fail .mismatch) (s ++ rest) := by
    rw [Json.record, bind_of_ok (look_cons (by decide) _)]
    rfl
  rw [hs, List.cons_append, hbrace, bind_of_ok (members_write h hs rest), ha]
  rfl

end Members

/-! ## There and back -/

section ReadsBack

variable {α : Type} {value : Reader α}

/-- A value can be written, and all its forms are read as that value, which is then written in the
same forms again. -/
def ReadsBack (value : Reader α) (forms? : α → Option (List String)) (a : α) : Prop :=
  ∃ texts, forms? a = some texts ∧ ∀ text ∈ texts,
    run value text = .ok a ∧ (run value text).map forms? = .ok (some texts)

theorem ReadsBack.of_run {forms? : α → Option (List String)} {a : α} {texts : List String}
    (hforms : forms? a = some texts) (h : ∀ text ∈ texts, run value text = .ok a) :
    ReadsBack value forms? a := by
  refine ⟨texts, hforms, fun text htext => ⟨h text htext, ?_⟩⟩
  rw [h text htext, Except.map, hforms]

def recordForms? (toRecord? : α → Option Record) (a : α) : Option (List String) :=
  (toRecord? a).map fun r => [compact r, pretty r]

theorem ReadsBack.record {toRecord? : α → Option Record} {a : α} {r : Record}
    (hr : toRecord? a = some r) (hnil : r ≠ []) (h : ∀ l : Layout, Spells value (l.write r) a) :
    ReadsBack value (recordForms? toRecord?) a := by
  have hforms : recordForms? toRecord? a = some [compact r, pretty r] := by
    rw [recordForms?, hr, Option.map_some]
  refine .of_run hforms fun text htext => ?_
  rcases List.mem_cons.1 htext with rfl | htext
  · rw [compact_eq]
    exact run_of_spells (h .dense)
  · rw [List.mem_singleton.1 htext, pretty_eq hnil]
    exact run_of_spells (h .lines)

end ReadsBack

end Hotplug.Json
