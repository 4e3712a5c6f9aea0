import Cryptoki.Proofs.Toml.Keys
import Cryptoki.Settings.File
import Mathlib.Data.Option.Basic
import Mathlib.Tactic

/-!
What a table of settings gives.

The entries of a table are taken one after the other, and each of them changes a whole record. We
say what comes of it for each key alone: under the key of a field stands a value that means what
is given, or nothing stands there and nothing is given. That determines the record, because no
key occurs twice.
-/

namespace Cryptoki.Settings

open Toml (Value Entries)

/-! ### What values mean -/

def IsString (v : Value) (s : String) : Prop := v = .string s

def IsBoolean (v : Value) (b : Bool) : Prop := v = .boolean b

/-- A slot is selected by its number or by a label. -/
def Selects (v : Value) : SlotSelector → Prop
  | .id slot => v = .integer slot.toNat
  | .label s => v = .string s

def NamesVerbosity (v : Value) (x : Log.Verbosity) : Prop :=
  ∃ s, v = .string s ∧ Log.Verbosity.ofName? s = some x

def NamesLog (v : Value) (k : LogKind) : Prop := v = .string k.name

/-- Just what the table says is given. -/
structure Given.Stands (g : Given) (es : Entries) : Prop where
  libraryPath : Option.Rel IsString (es.lookup "lib_path") g.libraryPath
  slot : Option.Rel Selects (es.lookup "slot") g.slot
  userPin : Option.Rel IsString (es.lookup "user_pin") g.userPin
  login : Option.Rel IsBoolean (es.lookup "login") g.login
  readWrite : Option.Rel IsBoolean (es.lookup "read_write") g.readWrite
  verbosity : Option.Rel NamesVerbosity (es.lookup "log_level") g.verbosity
  logKind : Option.Rel NamesLog (es.lookup "log_type") g.logKind
  logFile : Option.Rel IsString (es.lookup "log_file") g.logFile
  syslogFacility : Option.Rel IsString (es.lookup "syslog_facility") g.syslogFacility

/-! ### Reading a value -/

lemma bind_eq_ok {ε α β : Type} {x : Except ε α} {f : α → Except ε β} {b : β} :
    x >>= f = .ok b ↔ ∃ a, x = .ok a ∧ f a = .ok b := by
  cases x with
  | error e =>
    constructor
    · intro h
      cases h
    · rintro ⟨a, ha, -⟩
      cases ha
  | ok a =>
    constructor
    · intro h
      exact ⟨a, rfl, h⟩
    · rintro ⟨a', ha, h⟩
      cases ha
      exact h

lemma mapError_eq_ok {ε δ α : Type} {x : Except ε α} {f : ε → δ} {a : α} :
    x.mapError f = .ok a ↔ x = .ok a := by
  cases x <;> simp [Except.mapError]

lemma stringOf_eq_ok {expected : String} {v : Value} {s : String} :
    stringOf expected v = .ok s ↔ IsString v s := by
  cases v <;> simp [stringOf, IsString]

lemma booleanOf_eq_ok {v : Value} {b : Bool} : booleanOf v = .ok b ↔ IsBoolean v b := by
  cases v <;> simp [booleanOf, IsBoolean]

lemma selectorOf_eq_ok {v : Value} {c : SlotSelector} : selectorOf v = .ok c ↔ Selects v c := by
  cases v with
  | integer n =>
    rw [selectorOf]
    constructor
    · intro h
      split_ifs at h with hn
      cases h
      have hword : n.toNat < UInt64.size := by omega
      rw [Selects, UInt64.toNat_ofNat_of_lt' hword, Int.toNat_of_nonneg hn.1]
    · intro h
      cases c with
      | id slot =>
        obtain rfl : n = slot.toNat := Value.integer.inj h
        have hslot : slot.toNat < UInt64.size := slot.toNat_lt
        rw [if_pos ⟨by omega, by omega⟩, Int.toNat_natCast, UInt64.ofNat_toNat]
      | label s => cases h
  | _ => cases c <;> simp [selectorOf, Selects]

lemma verbosityOf_eq_ok {s : String} {x : Log.Verbosity} :
    verbosityOf s = .ok x ↔ Log.Verbosity.ofName? s = some x := by
  rw [verbosityOf]
  cases Log.Verbosity.ofName? s <;> simp

lemma logKind_ofName_eq_ok {s : String} {k : LogKind} : LogKind.ofName s = .ok k ↔ s = k.name := by
  constructor
  · intro h
    rw [LogKind.ofName] at h
    split_ifs at h with h₁ h₂ h₃ <;> cases h <;> assumption
  · rintro rfl
    exact LogKind.ofName_name k

/-! ### One entry -/

/-- No field changes but that of the key. -/
structure Keeps (key : String) (g g' : Given) : Prop where
  libraryPath : key ≠ "lib_path" → g'.libraryPath = g.libraryPath
  slot : key ≠ "slot" → g'.slot = g.slot
  userPin : key ≠ "user_pin" → g'.userPin = g.userPin
  login : key ≠ "login" → g'.login = g.login
  readWrite : key ≠ "read_write" → g'.readWrite = g.readWrite
  verbosity : key ≠ "log_level" → g'.verbosity = g.verbosity
  logKind : key ≠ "log_type" → g'.logKind = g.logKind
  logFile : key ≠ "log_file" → g'.logFile = g.logFile
  syslogFacility : key ≠ "syslog_facility" → g'.syslogFacility = g.syslogFacility

variable {g g' : Given} {key : String} {v : Value}

lemma Keeps.refl (key : String) (g : Given) : Keeps key g g := by
  constructor <;> exact fun _ => rfl

lemma keeps_of_take (h : take g key v = .ok g') : Keeps key g g' := by
  unfold take at h
  split at h
  case h_6 =>
    -- Two steps may fail here: the value is no string, or the string names no verbosity.
    obtain ⟨s, -, h⟩ := bind_eq_ok.mp h
    obtain ⟨x, -, hg⟩ := bind_eq_ok.mp h
    cases hg
    constructor <;> simp
  case h_7 =>
    obtain ⟨s, -, h⟩ := bind_eq_ok.mp h
    obtain ⟨k, -, hg⟩ := bind_eq_ok.mp h
    cases hg
    constructor <;> simp
  case h_10 =>
    cases h
    exact .refl _ g
  all_goals
    obtain ⟨x, -, hg⟩ := bind_eq_ok.mp h
    cases hg
    constructor <;> simp

/-- The keys that mean something. -/
def keys : List String :=
  ["lib_path", "slot", "user_pin", "login", "read_write", "log_level", "log_type", "log_file",
   "syslog_facility"]

lemma take_of_notMem_keys (h : key ∉ keys) : take g key v = .ok g := by
  unfold take
  split
  case h_10 => rfl
  all_goals exact absurd (by decide) h

/-- How one entry bears on one field: under its own key a value is taken for the one thing
that it means, and no other key matters. -/
structure Field {α : Type} (key : String) (field : Given → Option α) (Means : Value → α → Prop) :
    Prop where
  own {g g' : Given} {v : Value} : take g key v = .ok g' → ∃ x, Means v x ∧ field g' = some x
  taken {v : Value} {x : α} : Means v x → ∀ g, ∃ g', take g key v = .ok g'
  other {g g' : Given} {k : String} {v : Value} :
    k ≠ key → take g k v = .ok g' → field g' = field g
  unique {v : Value} {x y : α} : Means v x → Means v y → x = y

/-- An entry is read by some function, and what it reads is put into the record. -/
lemma field_of_read {α : Type} {key : String} {field : Given → Option α}
    {Means : Value → α → Prop} (read : Value → Except String α) (put : Given → α → Given)
    (hread : ∀ v x, read v = .ok x ↔ Means v x)
    (htake : ∀ g v, take g key v = read v >>= fun x => .ok (put g x))
    (hput : ∀ g x, field (put g x) = some x)
    (hother : ∀ g g' k, Keeps k g g' → k ≠ key → field g' = field g) :
    Field key field Means where
  own {g g' v} h := by
    rw [htake] at h
    obtain ⟨x, hx, hg⟩ := bind_eq_ok.mp h
    cases hg
    exact ⟨x, (hread v x).mp hx, hput g x⟩
  taken {v x} hx g := ⟨put g x, by rw [htake, (hread v x).mpr hx]; rfl⟩
  other {g g' k v} hk h := hother g g' k (keeps_of_take h) hk
  unique {v x y} hx hy := Except.ok.inj (((hread v x).mpr hx).symm.trans ((hread v y).mpr hy))

lemma libraryPath_field : Field "lib_path" Given.libraryPath IsString :=
  field_of_read (stringOf "path string") (fun g s => { g with libraryPath := some s })
    (fun _ _ => stringOf_eq_ok) (fun _ _ => rfl) (fun _ _ => rfl) fun _ _ _ h => h.libraryPath

lemma slot_field : Field "slot" Given.slot Selects :=
  field_of_read selectorOf (fun g c => { g with slot := some c })
    (fun _ _ => selectorOf_eq_ok) (fun _ _ => rfl) (fun _ _ => rfl) fun _ _ _ h => h.slot

lemma userPin_field : Field "user_pin" Given.userPin IsString :=
  field_of_read (stringOf "a string") (fun g s => { g with userPin := some s })
    (fun _ _ => stringOf_eq_ok) (fun _ _ => rfl) (fun _ _ => rfl) fun _ _ _ h => h.userPin

lemma login_field : Field "login" Given.login IsBoolean :=
  field_of_read booleanOf (fun g b => { g with login := some b })
    (fun _ _ => booleanOf_eq_ok) (fun _ _ => rfl) (fun _ _ => rfl) fun _ _ _ h => h.login

lemma readWrite_field : Field "read_write" Given.readWrite IsBoolean :=
  field_of_read booleanOf (fun g b => { g with readWrite := some b })
    (fun _ _ => booleanOf_eq_ok) (fun _ _ => rfl) (fun _ _ => rfl) fun _ _ _ h => h.readWrite

lemma verbosity_field : Field "log_level" Given.verbosity NamesVerbosity :=
  field_of_read (fun v => stringOf "a string" v >>= verbosityOf)
    (fun g x => { g with verbosity := some x })
    (fun _ _ => by
      simp only [bind_eq_ok, stringOf_eq_ok, verbosityOf_eq_ok]
      rfl)
    (fun _ v => by cases v <;> rfl) (fun _ _ => rfl) fun _ _ _ h => h.verbosity

lemma logKind_field : Field "log_type" Given.logKind NamesLog :=
  field_of_read (fun v => stringOf "a string" v >>= LogKind.ofName)
    (fun g k => { g with logKind := some k })
    (fun _ _ => by
      simp only [bind_eq_ok, stringOf_eq_ok, logKind_ofName_eq_ok, exists_eq_right]
      rfl)
    (fun _ v => by cases v <;> rfl) (fun _ _ => rfl) fun _ _ _ h => h.logKind

lemma logFile_field : Field "log_file" Given.logFile IsString :=
  field_of_read (stringOf "path string") (fun g s => { g with logFile := some s })
    (fun _ _ => stringOf_eq_ok) (fun _ _ => rfl) (fun _ _ => rfl) fun _ _ _ h => h.logFile

lemma syslogFacility_field : Field "syslog_facility" Given.syslogFacility IsString :=
  field_of_read (stringOf "a string") (fun g s => { g with syslogFacility := some s })
    (fun _ _ => stringOf_eq_ok) (fun _ _ => rfl) (fun _ _ => rfl) fun _ _ _ h => h.syslogFacility

/-! ### All entries -/

/-- Takes the entries of a table one after the other. -/
abbrev takeAll (g : Given) (es : Entries) : Except Misfit Given :=
  es.foldlM (fun g e => (take g e.1 e.2).mapError (Misfit.mk e.1)) g

lemma takeAll_cons {e : String × Value} {es : Entries} :
    takeAll g (e :: es) = .ok g' ↔ ∃ mid, take g e.1 e.2 = .ok mid ∧ takeAll mid es = .ok g' := by
  rw [takeAll, List.foldlM_cons, bind_eq_ok]
  simp only [mapError_eq_ok]

namespace Field

variable {α : Type} {field : Given → Option α} {Means : Value → α → Prop} {es : Entries}

/-- Entries without the key of a field leave it alone. -/
lemma takeAll_other (hf : Field key field Means) (hkey : es.lookup key = none)
    (h : takeAll g es = .ok g') : field g' = field g := by
  induction es generalizing g with
  | nil =>
    cases h
    rfl
  | cons e es ih =>
    obtain ⟨mid, hmid, hrest⟩ := takeAll_cons.mp h
    rw [Entries.lookup_eq_none_iff, List.map_cons, List.mem_cons, not_or] at hkey
    rw [ih (Entries.lookup_eq_none_iff.mpr hkey.2) hrest, hf.other (Ne.symm hkey.1) hmid]

/-- A field has in the end what stands under its key. -/
lemma takeAll_own (hf : Field key field Means) (hes : es.Distinct) (hg : field g = none)
    (h : takeAll g es = .ok g') : Option.Rel Means (es.lookup key) (field g') := by
  induction es generalizing g with
  | nil =>
    cases h
    rw [hg]
    exact .none
  | cons e es ih =>
    obtain ⟨mid, hmid, hrest⟩ := takeAll_cons.mp h
    obtain ⟨hnew, hdistinct⟩ := List.nodup_cons.mp hes
    by_cases hkey : e.1 = key
    · subst hkey
      obtain ⟨x, hx, hfield⟩ := hf.own hmid
      rw [hf.takeAll_other (Entries.lookup_eq_none_iff.mpr hnew) hrest, hfield,
        List.lookup_cons_self]
      exact .some hx
    · rw [List.lookup_cons, beq_false_of_ne (Ne.symm hkey)]
      exact ih hdistinct ((hf.other hkey hmid).trans hg) hrest

lemma rel_unique (hf : Field key field Means) {v : Option Value} {x y : Option α}
    (hx : Option.Rel Means v x) (hy : Option.Rel Means v y) : x = y := by
  cases hx with
  | none =>
    cases hy
    rfl
  | some hx =>
    cases hy with
    | some hy => rw [hf.unique hx hy]

end Field

/-- A table whose entries can all be taken gives something. -/
lemma takeAll_of_taken {es : Entries} (h : ∀ e ∈ es, ∀ g, ∃ g', take g e.1 e.2 = .ok g')
    (g : Given) : ∃ g', takeAll g es = .ok g' := by
  induction es generalizing g with
  | nil => exact ⟨g, rfl⟩
  | cons e es ih =>
    obtain ⟨mid, hmid⟩ := h e List.mem_cons_self g
    obtain ⟨g', hg'⟩ := ih (fun e he => h e (List.mem_cons_of_mem _ he)) mid
    exact ⟨g', takeAll_cons.mpr ⟨mid, hmid, hg'⟩⟩

/-! ### What is given -/

lemma stands_of_given {es : Entries} (hes : es.Distinct) (h : given es = .ok g) : g.Stands es where
  libraryPath := libraryPath_field.takeAll_own hes rfl h
  slot := slot_field.takeAll_own hes rfl h
  userPin := userPin_field.takeAll_own hes rfl h
  login := login_field.takeAll_own hes rfl h
  readWrite := readWrite_field.takeAll_own hes rfl h
  verbosity := verbosity_field.takeAll_own hes rfl h
  logKind := logKind_field.takeAll_own hes rfl h
  logFile := logFile_field.takeAll_own hes rfl h
  syslogFacility := syslogFacility_field.takeAll_own hes rfl h

/-- What stands in a table that says what is given is taken. -/
lemma Given.Stands.taken {es : Entries} (hes : es.Distinct) (h : g.Stands es) {e : String × Value}
    (he : e ∈ es) (g₀ : Given) : ∃ g', take g₀ e.1 e.2 = .ok g' := by
  have hfield {α : Type} {key : String} {field : Given → Option α} {Means : Value → α → Prop}
      (hf : Field key field Means) (hrel : Option.Rel Means (es.lookup key) (field g))
      (hkey : e.1 = key) : ∃ g', take g₀ e.1 e.2 = .ok g' := by
    subst hkey
    rw [hes.lookup_of_mem he] at hrel
    generalize field g = x at hrel
    cases hrel with
    | some hx => exact hf.taken hx g₀
  by_cases hkey : e.1 ∈ keys
  · simp only [keys, List.mem_cons, List.not_mem_nil, or_false] at hkey
    rcases hkey with hk | hk | hk | hk | hk | hk | hk | hk | hk
    · exact hfield libraryPath_field h.libraryPath hk
    · exact hfield slot_field h.slot hk
    · exact hfield userPin_field h.userPin hk
    · exact hfield login_field h.login hk
    · exact hfield readWrite_field h.readWrite hk
    · exact hfield verbosity_field h.verbosity hk
    · exact hfield logKind_field h.logKind hk
    · exact hfield logFile_field h.logFile hk
    · exact hfield syslogFacility_field h.syslogFacility hk
  · exact ⟨g₀, take_of_notMem_keys hkey⟩

/-- A table says one thing only. -/
lemma Given.Stands.unique {es : Entries} (h : g.Stands es) (h' : g'.Stands es) : g = g' := by
  cases g
  cases g'
  rw [Given.mk.injEq]
  exact ⟨libraryPath_field.rel_unique h.libraryPath h'.libraryPath,
    slot_field.rel_unique h.slot h'.slot, userPin_field.rel_unique h.userPin h'.userPin,
    login_field.rel_unique h.login h'.login, readWrite_field.rel_unique h.readWrite h'.readWrite,
    verbosity_field.rel_unique h.verbosity h'.verbosity,
    logKind_field.rel_unique h.logKind h'.logKind, logFile_field.rel_unique h.logFile h'.logFile,
    syslogFacility_field.rel_unique h.syslogFacility h'.syslogFacility⟩

/-- **A table gives just what it says.** -/
theorem given_eq_ok_iff {es : Entries} (hes : es.Distinct) : given es = .ok g ↔ g.Stands es := by
  constructor
  · exact stands_of_given hes
  · intro h
    obtain ⟨g', hg'⟩ := takeAll_of_taken (fun _ he => h.taken hes he) .nothing
    rw [h.unique (stands_of_given hes hg')]
    exact hg'

end Cryptoki.Settings
