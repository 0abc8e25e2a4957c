import Composer.Proofs.Config.Outcomes
import Composer.Proofs.Disk.Writing
import Composer.Proofs.Toml.Bounds
import Composer.Proofs.Toml.Tables
set_option autoImplicit false

/-!
# A saved configuration is loaded again

The document of a configuration has three tables and a list of prompts, and what is read back from
it are the fields that were written. A number is written only if it fits, and one that was read
always does, so every configuration that comes from a file can be saved, and what is saved is what
is loaded.
-/

namespace Composer

namespace Config

/-! ## The document of a configuration -/

/-- The table for how the backend is reached. -/
def apiSection (c : Config) : Toml.Section :=
  { name := "api", settings :=
      [("base_url", .text c.api.baseUrl), ("timeout_secs", .number c.api.timeoutSeconds.toNat)] }

/-- The table for the thresholds of large pastes. -/
def pasteSection (c : Config) : Toml.Section :=
  { name := "paste", settings :=
      [("char_threshold", .number c.paste.charThreshold),
        ("line_threshold", .number c.paste.lineThreshold)] }

/-- The table for what is logged. -/
def logSection (c : Config) : Toml.Section :=
  { name := "log", settings := [("filter", .text c.logFilter)] }

/-- The tables of a configuration's document. -/
def tableSections (c : Config) : List Toml.Section := [apiSection c, pasteSection c, logSection c]

theorem sections_eq (c : Config) :
    c.sections = c.tableSections ++ c.prompts.map promptSection := rfl

/-- The keys of a prompt, of which the last is missing if the prompt has no description. -/
theorem keys_promptSection (g : PromptGroup) :
    (promptSection g).settings.map Prod.fst = ["id", "name", "text"] ∨
      (promptSection g).settings.map Prod.fst = ["id", "name", "text", "description"] := by
  unfold promptSection
  cases g.description with
  | none => exact .inl rfl
  | some d => exact .inr rfl

theorem layout (c : Config) :
    Toml.Layout c.tableSections (c.prompts.map promptSection) "prompt" := by
  refine ⟨?_, ?_, ?_, ?_⟩
  · simp [tableSections, apiSection, pasteSection, logSection]
  · intro s hs
    obtain ⟨g, -, rfl⟩ := List.mem_map.mp hs
    exact ⟨rfl, rfl⟩
  · change ["prompt", "api", "paste", "log"].Nodup
    decide
  · intro s hs
    rcases List.mem_append.mp hs with htable | hprompt
    · simp only [tableSections, List.mem_cons, List.not_mem_nil, or_false] at htable
      rcases htable with rfl | rfl | rfl <;> simp [apiSection, pasteSection, logSection]
    · obtain ⟨g, -, rfl⟩ := List.mem_map.mp hprompt
      rcases keys_promptSection g with hkeys | hkeys
      · rw [hkeys]
        decide
      · rw [hkeys]
        decide

/-- The names and keys of a configuration's document. -/
def documentKeys : List String :=
  ["api", "base_url", "timeout_secs", "paste", "char_threshold", "line_threshold", "log", "filter",
    "prompt", "id", "name", "text", "description"]

theorem isBareKey_of_mem : ∀ key ∈ documentKeys, Toml.IsBareKey key := by
  decide

/-- A section with these keys can be written if its numbers fit. -/
theorem isWritable_of_keys {s : Toml.Section}
    (hkeys : ∀ key ∈ s.name :: s.settings.map Prod.fst, key ∈ documentKeys)
    (hfits : ∀ setting ∈ s.settings, setting.2.Fits) : s.IsWritable := by
  rw [List.forall_mem_cons] at hkeys
  refine ⟨isBareKey_of_mem _ hkeys.1, ?_, hfits⟩
  intro setting hsetting
  exact isBareKey_of_mem _ (hkeys.2 _ (List.mem_map_of_mem hsetting))

theorem isWritable_promptSection (g : PromptGroup) : (promptSection g).IsWritable := by
  apply isWritable_of_keys
  · rcases keys_promptSection g with hkeys | hkeys
    · rw [hkeys]
      simp [promptSection, documentKeys]
    · rw [hkeys]
      simp [promptSection, documentKeys]
  · unfold promptSection
    cases g.description <;> simp [Toml.Setting.Fits]

theorem fits_iff {c : Config} :
    c.fits = true ↔ c.api.timeoutSeconds.toNat ≤ Numeral.maxSigned ∧
      c.paste.charThreshold ≤ Numeral.maxSigned ∧ c.paste.lineThreshold ≤ Numeral.maxSigned := by
  simp [fits, and_assoc]

/-- If its numbers fit, all of a configuration's document can be written. -/
theorem isWritable_sections {c : Config} (h : c.fits = true) :
    ∀ s ∈ c.tableSections ++ c.prompts.map promptSection, s.IsWritable := by
  obtain ⟨htimeout, hchars, hlines⟩ := fits_iff.mp h
  intro s hs
  rcases List.mem_append.mp hs with htable | hprompt
  · simp only [tableSections, List.mem_cons, List.not_mem_nil, or_false] at htable
    rcases htable with rfl | rfl | rfl
    · exact isWritable_of_keys (by simp [apiSection, documentKeys])
        (by simp [apiSection, Toml.Setting.Fits, htimeout])
    · exact isWritable_of_keys (by simp [pasteSection, documentKeys])
        (by simp [pasteSection, Toml.Setting.Fits, hchars, hlines])
    · exact isWritable_of_keys (by simp [logSection, documentKeys])
        (by simp [logSection, Toml.Setting.Fits])
  · obtain ⟨g, -, rfl⟩ := List.mem_map.mp hprompt
    exact isWritable_promptSection g

/-! ## Reading it back -/

section Field

variable {α : Type} {decode : Toml → Option α} {missing : Option α} {key : String} {t : Toml}
  {members : List (String × Toml)}

theorem field_cons_self : field decode missing key ((key, t) :: members) = decode t := by
  rw [field, List.lookup_cons_self]

theorem field_cons_of_ne {other : String} (h : key ≠ other) :
    field decode missing key ((other, t) :: members) = field decode missing key members := by
  have hother : (key == other) = false := by simpa using h
  rw [field, field, List.lookup_cons, hother]

end Field

theorem apiOfToml_apiSection (c : Config) : apiOfToml (apiSection c).table = some c.api := by
  simp [apiSection, Toml.Section.table, Toml.Setting.value, apiOfToml, Toml.asRecord,
    field_cons_self, field_cons_of_ne, Toml.asText, Toml.asCount]

theorem pasteOfToml_pasteSection (c : Config) :
    pasteOfToml (pasteSection c).table = some c.paste := by
  simp [pasteSection, Toml.Section.table, Toml.Setting.value, pasteOfToml, Toml.asRecord,
    field_cons_self, field_cons_of_ne, Toml.asCount]

theorem logOfToml_logSection (c : Config) : logOfToml (logSection c).table = some c.logFilter := by
  simp [logSection, Toml.Section.table, Toml.Setting.value, logOfToml, Toml.asRecord,
    field_cons_self, Toml.asText]

theorem promptOfToml_promptSection (g : PromptGroup) :
    promptOfToml (promptSection g).table = some g := by
  obtain ⟨id, name, text, description⟩ := g
  cases description <;> rfl

theorem promptsOfToml_promptSections (prompts : List PromptGroup) :
    promptsOfToml (.array ((prompts.map promptSection).map Toml.Section.table)) = some prompts := by
  have hall : ((prompts.map promptSection).map Toml.Section.table).mapM promptOfToml
      = some prompts := by
    induction prompts with
    | nil => rfl
    | cons g prompts ih =>
      rw [List.map_cons, List.map_cons, List.mapM_cons, promptOfToml_promptSection, ih]
      rfl
  exact hall

/-- The fields that are read from a configuration's document are the ones that were written. -/
theorem ofToml_document (c : Config) :
    ofToml (.table (Toml.membersOfSections c.tableSections (c.prompts.map promptSection) "prompt"))
      = some c := by
  have hprompts : field promptsOfToml (some []) "prompt"
      (if (c.prompts.map promptSection).isEmpty then []
        else [("prompt", .array ((c.prompts.map promptSection).map Toml.Section.table))])
      = some c.prompts := by
    cases hc : c.prompts with
    | nil => rfl
    | cons g prompts => exact promptsOfToml_promptSections (g :: prompts)
  have hmembers : Toml.membersOfSections c.tableSections (c.prompts.map promptSection) "prompt"
      = ("api", (apiSection c).table) :: ("paste", (pasteSection c).table)
        :: ("log", (logSection c).table)
        :: (if (c.prompts.map promptSection).isEmpty then []
          else [("prompt", .array ((c.prompts.map promptSection).map Toml.Section.table))]) := rfl
  rw [hmembers]
  generalize (if (c.prompts.map promptSection).isEmpty then [] else _) = prompts at hprompts ⊢
  simp [ofToml, Toml.asRecord, field_cons_self, field_cons_of_ne, apiOfToml_apiSection,
    pasteOfToml_pasteSection, logOfToml_logSection, hprompts]

/-- What is written of a usable configuration is read back as the configuration. -/
theorem parse_write {c : Config} (husable : c.fault? = none) (hfits : c.fits = true) :
    c.write = .ok (Toml.print c.sections) ∧ parse (Toml.print c.sections) = .ok c := by
  refine ⟨by rw [write, if_pos hfits], ?_⟩
  obtain ⟨cs, hcs⟩ := Toml.exists_print_eq_cons (apiSection c)
    ([pasteSection c, logSection c] ++ c.prompts.map promptSection)
  have hnotBlank : Text.isBlank (Toml.print c.sections) = false := by
    change Chars.isBlank (Toml.print c.sections).toList = false
    rw [show (Toml.print c.sections).toList = '[' :: cs from hcs, Chars.isBlank, List.all_cons]
    rfl
  have hread := Toml.parse?_print c.layout (isWritable_sections hfits)
  rw [← sections_eq] at hread
  rw [parse, if_neg (by simp [hnotBlank]), hread]
  dsimp only
  rw [ofToml_document]
  dsimp only
  rw [checked, husable]

/-! ## What is read fits -/

theorem eq_of_checked {c c' : Config} (h : c.checked = .ok c') : c = c' := by
  unfold checked at h
  split at h
  · exact absurd h (by simp)
  · exact Except.ok.inj h

/-- The members that a value has as a record are bounded if the value is. -/
theorem bounded_of_asRecord {t : Toml} (h : t.Bounded) {fields : List String}
    {members : List (String × Toml)} (hmembers : t.asRecord fields = some members) :
    ∀ m ∈ members, m.2.Bounded := by
  cases h with
  | table hall =>
    rw [← Option.some.inj hmembers]
    exact hall
  | array hall =>
    rw [← Option.some.inj hmembers]
    intro m hm
    exact hall m.2 (List.of_mem_zip hm).2
  | dateTime written =>
    rw [← Option.some.inj hmembers]
    exact fun m hm => absurd hm List.not_mem_nil
  | _ => exact absurd hmembers (by simp [Toml.asRecord])

/-- What a field is read as satisfies what its default and every decoded member satisfy. -/
theorem field_satisfies {α : Type} {decode : Toml → Option α} {missing : α} {key : String}
    {members : List (String × Toml)} {x : α} {p : α → Prop} (hmissing : p missing)
    (hmembers : ∀ m ∈ members, m.2.Bounded)
    (hdecode : ∀ {t x}, t.Bounded → decode t = some x → p x)
    (h : field decode (some missing) key members = some x) : p x := by
  unfold field at h
  split at h
  · rename_i t hfound
    exact hdecode (hmembers _ (Toml.mem_of_lookup hfound)) h
  · rw [← Option.some.inj h]
    exact hmissing

theorem le_of_asCount {t : Toml} {n : Nat} (ht : t.Bounded) (h : t.asCount = some n) :
    n ≤ Numeral.maxSigned := by
  cases ht with
  | @integer m hle =>
    simp only [Toml.asCount] at h
    split at h
    · rw [← Option.some.inj h]
      omega
    · exact absurd h (by simp)
  | _ => exact absurd h (by simp [Toml.asCount])

theorem le_of_apiOfToml {t : Toml} {api : ApiConfig} (ht : t.Bounded)
    (h : apiOfToml t = some api) : api.timeoutSeconds.toNat ≤ Numeral.maxSigned := by
  simp only [apiOfToml, Option.bind_eq_bind, Option.bind_eq_some_iff, Option.pure_def,
    Option.some.injEq] at h
  obtain ⟨members, hmembers, baseUrl, -, timeout, htimeout, rfl⟩ := h
  have hle : timeout ≤ Numeral.maxSigned :=
    field_satisfies (p := (· ≤ Numeral.maxSigned)) (by decide) (bounded_of_asRecord ht hmembers)
      le_of_asCount htimeout
  calc (UInt64.ofNat timeout).toNat
      ≤ timeout := by rw [UInt64.toNat_ofNat']; exact Nat.mod_le _ _
    _ ≤ Numeral.maxSigned := hle

theorem le_of_pasteOfToml {t : Toml} {paste : PasteClassifier} (ht : t.Bounded)
    (h : pasteOfToml t = some paste) :
    paste.charThreshold ≤ Numeral.maxSigned ∧ paste.lineThreshold ≤ Numeral.maxSigned := by
  simp only [pasteOfToml, Option.bind_eq_bind, Option.bind_eq_some_iff, Option.pure_def,
    Option.some.injEq] at h
  obtain ⟨members, hmembers, chars, hchars, lines, hlines, rfl⟩ := h
  have hbounded := bounded_of_asRecord ht hmembers
  exact ⟨field_satisfies (p := (· ≤ Numeral.maxSigned)) (by decide) hbounded le_of_asCount hchars,
    field_satisfies (p := (· ≤ Numeral.maxSigned)) (by decide) hbounded le_of_asCount hlines⟩

theorem fits_of_ofToml {t : Toml} {c : Config} (ht : t.Bounded) (h : ofToml t = some c) :
    c.fits = true := by
  simp only [ofToml, Option.bind_eq_bind, Option.bind_eq_some_iff, Option.pure_def,
    Option.some.injEq] at h
  obtain ⟨members, hmembers, api, hapi, paste, hpaste, logFilter, -, prompts, -, rfl⟩ := h
  have hbounded := bounded_of_asRecord ht hmembers
  have htimeout := field_satisfies (p := fun api => api.timeoutSeconds.toNat ≤ Numeral.maxSigned)
    (by decide) hbounded le_of_apiOfToml hapi
  have hthresholds := field_satisfies
    (p := fun paste => paste.charThreshold ≤ Numeral.maxSigned ∧
      paste.lineThreshold ≤ Numeral.maxSigned)
    (by decide) hbounded le_of_pasteOfToml hpaste
  exact fits_iff.mpr ⟨htimeout, hthresholds⟩

/-- All numbers of a configuration that was read can be written. -/
theorem fits_of_parse {text : String} {c : Config} (h : parse text = .ok c) : c.fits = true := by
  unfold parse at h
  split at h
  · rw [← Except.ok.inj h]
    decide
  · split at h
    · exact absurd h (by simp)
    · rename_i t ht
      split at h
      · exact absurd h (by simp)
      · rename_i read hread
        rw [← eq_of_checked h]
        exact fits_of_ofToml (Toml.bounded_of_parse? ht) hread

/-! ## Saving and loading -/

/-- A configuration is saved as a text: the text is what is written of it and what it is read from.
-/
structure IsSavedAs (c : Config) (text : String) : Prop where
  written : c.write = .ok text
  read : parse text = .ok c
  /-- Only the disk can keep a store from saving it. -/
  refused : ∀ (s : ConfigStore) (e : Environment) (d : Disk) (now : Int) (path : String)
    (fault : Fault), s.file e = .ok path → (s.save e d c now).1 = .error fault →
      ∃ o : Obstacle, fault = o.fault ∧ ((d.makeParents path).1 = .error o ∨
        ((d.makeParents path).2.write path (Utf8.encode text) now).1 = .error o)
  /-- After a store has saved it, it is loaded from the file; only what was written to a device is
  gone. -/
  loaded : ∀ (s : ConfigStore) (e : Environment) (d d' : Disk) (now : Int) (path : String)
    (s' : ConfigStore), s.file e = .ok path → s.save e d c now = (.ok (), s', d') →
      ConfigStore.load d' path = .ok c ∨ ∃ bytes, d'.find path = .ok (.device bytes)

end Config

namespace ConfigStore

/-- From a file that was written the configuration is loaded that its text describes. -/
theorem load_of_write {d d' : Disk} {path text : String} {now : Int}
    (h : d.write path (Utf8.encode text) now = (.ok (), d')) :
    load d' path = Config.parse text ∨ ∃ bytes, d'.find path = .ok (.device bytes) := by
  rcases Disk.find_of_write h with hfound | hdevice
  · rw [load, hfound, Disk.readText_of_find hfound]
    exact .inl rfl
  · exact .inr hdevice

end ConfigStore

namespace Config

/-- A usable configuration whose numbers fit is saved as the text of its document. -/
theorem isSavedAs_print {c : Config} (husable : c.fault? = none) (hfits : c.fits = true) :
    c.IsSavedAs (Toml.print c.sections) := by
  obtain ⟨hwritten, hread⟩ := parse_write husable hfits
  refine ⟨hwritten, hread, ?_, ?_⟩
  · intro s e d now path fault hfile hfault
    rcases ConfigStore.save_of_usable husable hfile hwritten d now with
      ⟨o, d', hsave, -, hdisk⟩ | ⟨d', hsave, -⟩
    · rw [hsave] at hfault
      exact ⟨o, (Except.error.inj hfault).symm, hdisk⟩
    · rw [hsave] at hfault
      exact absurd hfault (by simp)
  · intro s e d d' now path s' hfile hsaved
    rcases ConfigStore.save_of_usable husable hfile hwritten d now with
      ⟨o, made, hsave, -⟩ | ⟨written, hsave, hwrite⟩
    · rw [hsaved] at hsave
      exact absurd hsave (by simp)
    · rw [hsaved, Prod.mk.injEq, Prod.mk.injEq] at hsave
      rw [hsave.2.2, ← hread]
      exact ConfigStore.load_of_write hwrite

/-- A usable configuration whose numbers fit into signed 64-bit numbers is loaded again as it was
saved, whatever its texts are made of; and so is every configuration that was read from a text. -/
theorem saved_config_reloaded :
    (∀ c : Config, c.fault? = none → c.api.timeoutSeconds.toNat ≤ Numeral.maxSigned →
      c.paste.charThreshold ≤ Numeral.maxSigned → c.paste.lineThreshold ≤ Numeral.maxSigned →
      ∃ text, c.IsSavedAs text) ∧
    (∀ (text : String) (c : Config), parse text = .ok c → ∃ saved, c.IsSavedAs saved) := by
  refine ⟨?_, ?_⟩
  · intro c husable htimeout hchars hlines
    exact ⟨_, isSavedAs_print husable (fits_iff.mpr ⟨htimeout, hchars, hlines⟩)⟩
  · intro text c hread
    exact ⟨_, isSavedAs_print (fault?_of_parse hread) (fits_of_parse hread)⟩

/-- A configuration with texts that need every kind of marks. -/
def manyMarks : Config :=
  { api := { baseUrl := " https://h/\t", timeoutSeconds := 9223372036854775807 }
    paste := { charThreshold := 1, lineThreshold := 2 }
    logFilter := "warn,\"it's\""
    prompts :=
      [{ id := "", name := "C:\\temp", text := "a\n\"\"\"\"b'''\\\x7F\r" },
        { id := "é", name := "😀", text := "'''\n\"\"", description := some "" }] }

theorem manyMarks_reloaded :
    (∃ text, manyMarks.IsSavedAs text) ∧
      parse "paste = [5]\n" = .ok { paste := { charThreshold := 5 } } ∧
      ∃ saved, IsSavedAs { paste := { charThreshold := 5 } } saved := by
  have hread : parse "paste = [5]\n" = .ok { paste := { charThreshold := 5 } } := by
    have hoption : (parse "paste = [5]\n").toOption
        = some { paste := { charThreshold := 5 } } := by
      decide +kernel
    cases hparse : parse "paste = [5]\n" with
    | ok c =>
      rw [hparse] at hoption
      rw [Option.some.inj hoption]
    | error fault =>
      rw [hparse] at hoption
      exact absurd hoption (by simp [Except.toOption])
  have husable : manyMarks.fault? = none := by decide +kernel
  exact ⟨saved_config_reloaded.1 manyMarks husable (by decide) (by decide) (by decide), hread,
    saved_config_reloaded.2 _ _ hread⟩

end Config
end Composer
