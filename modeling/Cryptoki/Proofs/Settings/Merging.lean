import Cryptoki.CommandLine.Options
import Cryptoki.Proofs.Settings.Given

/-!
Where every setting comes from.

There are four sources: the options, a file, the environment and what holds where nothing is set.
Settings from a file are complete and checked before the options have their way, and checked once
more afterwards. Here it is said for each setting alone in which order its sources are asked: the
first one that has it decides.
-/

namespace Cryptoki

namespace Settings

/-! ### The check -/

/-- There is a path, and a label is not empty and fits into its field. -/
def Usable (path : String) (slot : Option SlotSelector) : Prop :=
  path ≠ "" ∧
    ∀ label, slot = some (.label label) →
      1 ≤ (Text.utf8 label).length ∧ (Text.utf8 label).length ≤ 32

lemma length_utf8_eq_zero {s : String} : (Text.utf8 s).length = 0 ↔ s = "" := by
  rw [Text.utf8, List.length_eq_zero_iff, List.flatMap_eq_nil_iff]
  constructor
  · intro h
    rw [← String.toList_eq_nil_iff, List.eq_nil_iff_forall_not_mem]
    intro c hc
    have hlen := String.length_utf8EncodeChar c
    rw [h c hc] at hlen
    exact absurd hlen.symm c.utf8Size_pos.ne'
  · rintro rfl c hc
    cases hc

lemma verifySlot_label_eq_ok {label : String} :
    verifySlot (some (.label label)) = .ok () ↔
      1 ≤ (Text.utf8 label).length ∧ (Text.utf8 label).length ≤ 32 := by
  have hempty : label.isEmpty = true ↔ (Text.utf8 label).length = 0 := by
    rw [length_utf8_eq_zero, String.isEmpty_iff]
  rw [verifySlot, labelLimit]
  split_ifs with h₁ h₂
  · simp [hempty.mp h₁]
  · simp only [false_iff]
    omega
  · have hne : (Text.utf8 label).length ≠ 0 := fun h => h₁ (hempty.mpr h)
    simp only [true_iff]
    omega

lemma verifySlot_eq_ok {slot : Option SlotSelector} :
    verifySlot slot = .ok () ↔
      ∀ label, slot = some (.label label) →
        1 ≤ (Text.utf8 label).length ∧ (Text.utf8 label).length ≤ 32 := by
  rcases slot with _ | id | label
  · simp [verifySlot]
  · simp [verifySlot]
  · rw [verifySlot_label_eq_ok]
    simp

lemma verify_eq_ok {s : Settings} : s.verify = .ok () ↔ Usable s.libraryPath s.slot := by
  rw [verify, Usable, ← verifySlot_eq_ok]
  by_cases h : s.libraryPath = "" <;> simp [h]

/-- Settings that are handed on once they are checked. -/
lemma checked_eq_ok {s s' : Settings} :
    (do s.verify; return s : Except Problem Settings) = .ok s' ↔
      Usable s.libraryPath s.slot ∧ s' = s := by
  simp only [bind_eq_ok, ← verify_eq_ok]
  constructor
  · rintro ⟨⟨⟩, hs, h⟩
    cases h
    exact ⟨hs, rfl⟩
  · rintro ⟨hs, rfl⟩
    exact ⟨(), hs, rfl⟩

/-! ### Files -/

/-- A file can be read, its text is a document, and what the known keys mean there is given. -/
def Tells (parse : String → Option Toml.Document) (content : Except String Bytes) (t : Given) :
    Prop :=
  ∃ bytes text d, content = .ok bytes ∧ decode bytes = .ok text ∧ parse text = some d ∧
    t.Stands d.entries

/-- What a file gives can be used without any option. -/
def Suffices (parse : String → Option Toml.Document) (content : Except String Bytes) (t : Given) :
    Prop :=
  Tells parse content t ∧ ∃ path, t.libraryPath = some path ∧ Usable path t.slot

variable {v : Variables} {s : Settings} {parse : String → Option Toml.Document}

lemma ofGiven_eq_ok {t : Given} {path : String} :
    (ofGiven v t path).result = .ok s ↔ Usable path t.slot ∧ s = complete v t path :=
  checked_eq_ok

lemma ofDocument_eq_ok {d : Toml.Document} (hd : d.entries.Distinct) :
    (ofDocument v d).result = .ok s ↔
      ∃ t path, t.Stands d.entries ∧ t.libraryPath = some path ∧ Usable path t.slot ∧
        s = complete v t path := by
  rw [ofDocument]
  split
  · next hgiven =>
    constructor
    · intro h
      cases h
    · rintro ⟨t, path, ht, -⟩
      rw [(given_eq_ok_iff hd).mpr ht] at hgiven
      cases hgiven
  · next t hgiven =>
    have ht : t.Stands d.entries := (given_eq_ok_iff hd).mp hgiven
    split
    · next hnone =>
      constructor
      · intro h
        cases h
      · rintro ⟨t', path, ht', hpath, -⟩
        rw [ht'.unique ht, hnone] at hpath
        cases hpath
    · next path hpath =>
      rw [ofGiven_eq_ok]
      constructor
      · rintro ⟨husable, rfl⟩
        exact ⟨t, path, ht, hpath, husable, rfl⟩
      · rintro ⟨t', path', ht', hpath', husable, rfl⟩
        obtain rfl := ht'.unique ht
        obtain rfl : path' = path := Option.some.inj (hpath'.symm.trans hpath)
        exact ⟨husable, rfl⟩

lemma ofText_eq_ok {text : String} :
    (ofText v text parse).result = .ok s ↔
      ∃ d, parse text = some d ∧ (ofDocument v d).result = .ok s := by
  rw [ofText]
  cases parse text <;> simp

lemma ofFile_eq_ok (hkeys : Toml.KeysDistinct parse) {file : String}
    {content : Except String Bytes} :
    (ofFile v file content parse).result = .ok s ↔
      ∃ t path, Tells parse content t ∧ t.libraryPath = some path ∧ Usable path t.slot ∧
        s = complete v t path := by
  have hread : (ofFile v file content parse).result = .ok s ↔
      ∃ text, content >>= decode = .ok text ∧ (ofText v text parse).result = .ok s := by
    rw [ofFile]
    cases content >>= decode <;> simp
  simp only [hread, bind_eq_ok, ofText_eq_ok]
  constructor
  · rintro ⟨text, ⟨bytes, hbytes, htext⟩, d, hd, h⟩
    obtain ⟨t, path, ht, hrest⟩ := (ofDocument_eq_ok (hkeys _ _ hd)).mp h
    exact ⟨t, path, ⟨bytes, text, d, hbytes, htext, hd, ht⟩, hrest⟩
  · rintro ⟨t, path, ⟨bytes, text, d, hbytes, htext, hd, ht⟩, hrest⟩
    exact ⟨text, ⟨bytes, hbytes, htext⟩, d, hd,
      (ofDocument_eq_ok (hkeys _ _ hd)).mpr ⟨t, path, ht, hrest⟩⟩

end Settings

namespace CommandLine.General

open Settings (Given Variables Suffices Usable complete)

/-- The first that there is. -/
def first {α : Type} (sources : List (Option α)) : Option α := sources.findSome? id

variable (g : General)

/-- The file that is asked for, or the default file where neither a file nor a library is. -/
inductive Reads : String → Prop
  | named {file : String} (h : g.configFile = some file) : Reads file
  | standard (hfile : g.configFile = none) (hpath : g.libraryPath = none) :
      Reads Settings.defaultFile

/-- What the file gives, if one is read. -/
inductive Source (parse : String → Option Toml.Document) (read : String → Except String Bytes) :
    Given → Prop
  | file {file : String} {t : Given} (h : g.Reads file) (ht : Suffices parse (read file) t) :
      Source parse read t
  | unread {path : String} (hfile : g.configFile = none) (hpath : g.libraryPath = some path) :
      Source parse read .nothing

/-- Where each setting is from. -/
structure Merged (t : Given) (v : Variables) (s : Settings) : Prop where
  libraryPath : some s.libraryPath = first [g.libraryPath, t.libraryPath]
  slot : s.slot = first [g.slot, t.slot]
  verbosity : some s.verbosity =
    first [g.verbosity, if g.verbose then some (.upTo .debug) else none, t.verbosity,
      v.logLevel.map fun name => (Log.Verbosity.ofName? name).getD (.upTo .info),
      some (.upTo .info)]
  logKind : some s.logKind = first [g.logKind, t.logKind, some .stderr]
  userPin : s.userPin = first [t.userPin, v.userPin]
  login : some s.login = first [t.login, some true]
  readWrite : some s.readWrite = first [t.readWrite, some false]
  logFile : some s.logFile = first [t.logFile, some "./p11bridge.log"]
  syslogFacility : some s.syslogFacility = first [t.syslogFacility, some "user"]

variable {g : General} {read : String → Except String Bytes} {v : Variables} {s : Settings}
  {parse : String → Option Toml.Document} {t : Given} {path : String}

/-- Just the file that is to be read is asked for. -/
lemma settingsFile_eq_some_iff {file : String} : g.settingsFile = some file ↔ g.Reads file := by
  constructor
  · intro h
    rw [settingsFile] at h
    split at h
    · next hfile => exact .named (hfile.trans h)
    · cases h
    · next hfile hpath =>
      cases h
      exact .standard hfile hpath
  · rintro (h | ⟨hfile, hpath⟩)
    · rw [settingsFile, h]
    · rw [settingsFile, hfile, hpath]

lemma settingsFile_eq_none_iff :
    g.settingsFile = none ↔ g.configFile = none ∧ ∃ path, g.libraryPath = some path := by
  rw [settingsFile]
  cases g.configFile <;> cases g.libraryPath <;> simp

lemma base_of_reads {file : String} (h : g.Reads file) :
    g.base v read parse = Settings.ofFile v file (read file) parse := by
  cases h with
  | named h => rw [base, h]
  | standard hfile hpath => rw [base, hfile, hpath]

lemma source_iff_of_reads {file : String} (h : g.Reads file) :
    g.Source parse read t ↔ Suffices parse (read file) t := by
  have hfile : g.settingsFile = some file := settingsFile_eq_some_iff.mpr h
  constructor
  · rintro (⟨h', ht⟩ | ⟨hnone, hpath⟩)
    · rw [settingsFile_eq_some_iff.mpr h', Option.some.injEq] at hfile
      rwa [hfile] at ht
    · rw [settingsFile_eq_none_iff.mpr ⟨hnone, _, hpath⟩] at hfile
      cases hfile
  · exact .file h

/-- Settings before any option changes them. A file must name a library itself. -/
lemma base_eq_ok (hkeys : Toml.KeysDistinct parse) :
    (g.base v read parse).result = .ok s ↔
      ∃ t path, g.Source parse read t ∧ (t.libraryPath <|> g.libraryPath) = some path ∧
        s = complete v t path := by
  cases hfile : g.settingsFile with
  | some file =>
    have hreads : g.Reads file := settingsFile_eq_some_iff.mp hfile
    simp only [base_of_reads hreads, Settings.ofFile_eq_ok hkeys, source_iff_of_reads hreads]
    constructor
    · rintro ⟨t, path, htells, hpath, husable, rfl⟩
      exact ⟨t, path, ⟨htells, path, hpath, husable⟩, by rw [hpath]; rfl, rfl⟩
    · rintro ⟨t, path', ⟨htells, path, hpath, husable⟩, hpath', rfl⟩
      rw [hpath] at hpath'
      obtain rfl : path = path' := Option.some.inj hpath'
      exact ⟨t, path, htells, hpath, husable, rfl⟩
  | none =>
    obtain ⟨hnone, path, hpath⟩ := settingsFile_eq_none_iff.mp hfile
    rw [base, hnone, hpath]
    constructor
    · intro h
      cases h
      exact ⟨.nothing, path, .unread hnone hpath, rfl, rfl⟩
    · rintro ⟨t, path', hsource, hpath', rfl⟩
      cases hsource with
      | file hreads =>
        rw [settingsFile_eq_some_iff.mpr hreads] at hfile
        cases hfile
      | unread _ hpath'' =>
        obtain rfl : path = path' := Option.some.inj hpath'
        rfl

@[simp] lemma first_nil {α : Type} : first ([] : List (Option α)) = none := rfl

@[simp] lemma first_some {α : Type} (x : α) (sources : List (Option α)) :
    first (some x :: sources) = some x := rfl

@[simp] lemma first_none {α : Type} (sources : List (Option α)) :
    first (none :: sources) = first sources := rfl

lemma first_pair {α : Type} (x y : Option α) : first [x, y] = (x <|> y) := by
  cases x <;> cases y <;> rfl

/-- What the options leave of completed settings comes from the first source of each. -/
lemma merged_override (hpath : (t.libraryPath <|> g.libraryPath) = some path) :
    g.Merged t v (g.override (complete v t path)) where
  libraryPath := by
    rw [override, complete]
    cases hg : g.libraryPath <;> simp_all
  slot := (first_pair _ _).symm
  verbosity := by
    rw [override, complete, chosenVerbosity, Variables.verbosity]
    cases g.verbosity <;> cases g.verbose <;> cases t.verbosity <;> cases v.logLevel <;> simp
  logKind := by
    rw [override, complete]
    cases g.logKind <;> cases t.logKind <;> rfl
  userPin := (first_pair _ _).symm
  login := by
    rw [override, complete]
    cases t.login <;> rfl
  readWrite := by
    rw [override, complete]
    cases t.readWrite <;> rfl
  logFile := by
    rw [override, complete]
    cases t.logFile <;> rfl
  syslogFacility := by
    rw [override, complete]
    cases t.syslogFacility <;> rfl

/-- The sources determine all settings. -/
lemma Merged.unique {s' : Settings} (h : g.Merged t v s) (h' : g.Merged t v s') : s = s' := by
  cases s
  cases s'
  rw [Settings.mk.injEq]
  exact ⟨Option.some.inj (h.libraryPath.trans h'.libraryPath.symm), h.slot.trans h'.slot.symm,
    h.userPin.trans h'.userPin.symm, Option.some.inj (h.login.trans h'.login.symm),
    Option.some.inj (h.readWrite.trans h'.readWrite.symm),
    Option.some.inj (h.verbosity.trans h'.verbosity.symm),
    Option.some.inj (h.logKind.trans h'.logKind.symm),
    Option.some.inj (h.logFile.trans h'.logFile.symm),
    Option.some.inj (h.syslogFacility.trans h'.syslogFacility.symm)⟩

/-- Whatever the settings are from, a library is named. -/
lemma Source.exists_path (h : g.Source parse read t) :
    ∃ path, (t.libraryPath <|> g.libraryPath) = some path := by
  cases h with
  | file hreads ht =>
    obtain ⟨-, path, hpath, -⟩ := ht
    exact ⟨path, by rw [hpath]; rfl⟩
  | unread _ hpath => exact ⟨_, hpath⟩

lemma settings_eq_ok (hkeys : Toml.KeysDistinct parse) :
    (g.settings v read parse).result = .ok s ↔
      ∃ t, g.Source parse read t ∧ g.Merged t v s ∧ Usable s.libraryPath s.slot := by
  have hrun : (g.settings v read parse).result = .ok s ↔
      ∃ b, (g.base v read parse).result = .ok b ∧
        Usable (g.override b).libraryPath (g.override b).slot ∧ s = g.override b := by
    rw [settings]
    exact Settings.bind_eq_ok.trans
      (exists_congr fun b => and_congr_right fun _ => Settings.checked_eq_ok)
  rw [hrun]
  constructor
  · rintro ⟨b, hb, husable, rfl⟩
    obtain ⟨t, path, hsource, hpath, rfl⟩ := (base_eq_ok hkeys).mp hb
    exact ⟨t, hsource, merged_override hpath, husable⟩
  · rintro ⟨t, hsource, hmerged, husable⟩
    obtain ⟨path, hpath⟩ := hsource.exists_path
    obtain rfl : s = _ := hmerged.unique (merged_override hpath)
    exact ⟨_, (base_eq_ok hkeys).mpr ⟨t, path, hsource, hpath, rfl⟩, husable, rfl⟩

/-- The settings depend on one file at most. -/
lemma settings_congr {other : String → Except String Bytes}
    (h : ∀ file, g.Reads file → other file = read file) :
    g.settings v other parse = g.settings v read parse := by
  have hbase : g.base v other parse = g.base v read parse := by
    cases hfile : g.settingsFile with
    | some file =>
      have hreads : g.Reads file := settingsFile_eq_some_iff.mp hfile
      rw [base_of_reads hreads, base_of_reads hreads, h file hreads]
    | none =>
      obtain ⟨hnone, path, hpath⟩ := settingsFile_eq_none_iff.mp hfile
      rw [base, base, hnone, hpath]
  rw [settings, settings, hbase]

lemma exists_merged (h : g.Source parse read t) (v : Variables) : ∃ s, g.Merged t v s := by
  obtain ⟨path, hpath⟩ := h.exists_path
  exact ⟨_, merged_override hpath⟩

lemma exists_settings (hkeys : Toml.KeysDistinct parse) :
    (∃ s, (g.settings v read parse).result = .ok s) ↔
      ∃ t path, g.Source parse read t ∧ first [g.libraryPath, t.libraryPath] = some path ∧
        Usable path (first [g.slot, t.slot]) := by
  simp only [settings_eq_ok hkeys]
  constructor
  · rintro ⟨s, t, hsource, hmerged, husable⟩
    exact ⟨t, s.libraryPath, hsource, hmerged.libraryPath.symm, hmerged.slot ▸ husable⟩
  · rintro ⟨t, path, hsource, hpath, husable⟩
    obtain ⟨s, hs⟩ := exists_merged hsource v
    have hlib : s.libraryPath = path := Option.some.inj (hs.libraryPath.trans hpath)
    exact ⟨s, t, hsource, hs, by rw [hlib, hs.slot]; exact husable⟩

/-- **Each setting is the first one that its sources have.** At most one file is read: the one
that is asked for, or the default file if no library is named either. There are settings just if
that file, if any, would do by itself, and if what the options make of it still does. Each setting
then comes from the first of its own sources that has it, whatever the others are. That is so for
every reader of documents in which no key occurs twice. -/
theorem settings_from_sources (parse : String → Option Toml.Document)
    (hkeys : Toml.KeysDistinct parse) (g : General) (v : Variables)
    (read : String → Except String Bytes) :
    (∀ file, g.settingsFile = some file ↔ g.Reads file) ∧
    (∀ other : String → Except String Bytes, (∀ file, g.Reads file → other file = read file) →
      g.settings v other parse = g.settings v read parse) ∧
    ((∃ s, (g.settings v read parse).result = .ok s) ↔
      ∃ t path, g.Source parse read t ∧ first [g.libraryPath, t.libraryPath] = some path ∧
        Usable path (first [g.slot, t.slot])) ∧
    ∀ s, (g.settings v read parse).result = .ok s ↔
      ∃ t, g.Source parse read t ∧ g.Merged t v s ∧ Usable s.libraryPath s.slot :=
  ⟨fun _ => settingsFile_eq_some_iff, fun _ => settings_congr, exists_settings hkeys,
    fun _ => settings_eq_ok hkeys⟩

/-- The hypothesis holds of the reader that is used. The slot is from the options, the log target
from the file, the PIN from the environment, whose verbosity is not asked for. -/
theorem settings_from_sources_of_each :
    let g : General := ⟨some "a.conf", none, some (.id 3), none, none, true⟩
    let v : Variables := ⟨some "warn", some "1234"⟩
    let read (file : String) : Except String Bytes :=
      if file = "a.conf" then
        .ok (Text.utf8 "lib_path = '/lib.so'\nslot = 'key'\nlog_type = 'file'")
      else .error "missing"
    let s : Settings :=
      ⟨"/lib.so", some (.id 3), some "1234", true, false, .upTo .debug, .file, "./p11bridge.log",
        "user"⟩
    Toml.KeysDistinct Toml.parse ∧ g.Reads "a.conf" ∧
      g.settings v (fun _ => read "a.conf") = g.settings v read ∧
      (g.settings v read).result = .ok s ∧
      ∃ t, g.Source Toml.parse read t ∧ g.Merged t v s ∧ Usable s.libraryPath s.slot := by
  intro g v read s
  obtain ⟨hfile, hsame, -, hsettings⟩ :=
    settings_from_sources Toml.parse Toml.keysDistinct_parse g v read
  have hreads : g.Reads "a.conf" := (hfile "a.conf").mp rfl
  have hresult : (g.settings v read).result = .ok s := by decide +kernel
  refine ⟨Toml.keysDistinct_parse, hreads, hsame _ fun file hread => ?_, hresult,
    (hsettings s).mp hresult⟩
  obtain rfl : "a.conf" = file := Option.some.inj ((hfile file).mpr hread)
  rfl

end CommandLine.General

end Cryptoki
