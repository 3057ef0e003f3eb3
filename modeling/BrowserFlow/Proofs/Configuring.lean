import BrowserFlow.Settings.Configuration

/-!
# Configuration and what happens to it

What a request for the configuration or for the settings comes to, by what is kept of earlier
requests, and what is kept after a history of edits and requests. A kept document is what the
document was read as at some moment before; kept settings stay until they are built again. All of
this is so whatever the texts of documents are read by.
-/
namespace BrowserFlow

def Outcome.ofExcept {α : Type} : Except Raised α → Outcome α
  | .ok a => .done a
  | .error e => .raised e

theorem Proc.ofExcept_apply {s α : Type} (x : Except Raised α) (st : s) :
    Proc.ofExcept x st = (.ofExcept x, st) := by
  cases x <;> rfl

namespace Configuration

/-- What the text of a document is read as. -/
def entriesOf (reader : String → Except Config.DocumentError Value) (text : Option String) :
    Except Raised (List (Value × Value)) :=
  match text with
  | none => .ok []
  | some text =>
    match reader text with
    | .error e => .error (e.toRaised documentName)
    | .ok (.dict entries) => .ok entries
    | .ok _ => .ok []

/-- What the document is read as now. -/
def current (c : Configuration) : Except Raised (List (Value × Value)) :=
  entriesOf c.reader c.document >>= withLevel c.environment

/-- The document as it is kept, or as it is read now if it is not kept. -/
def known (c : Configuration) : Except Raised (List (Value × Value)) :=
  match c.loaded with
  | some entries => .ok entries
  | none => c.current

/-- What the file of variables defines. -/
def fileVariables (c : Configuration) : Config.Variables :=
  (c.variableFile.map (Config.VariableFile.read c.environment)).getD .empty

/-- The settings that a document and what is said elsewhere now add up to. -/
def assembled (c : Configuration) (entries : List (Value × Value)) : Except Raised Settings :=
  Settings.sectionOf ((lookup entries "flow").getD .none) >>=
    Settings.ofSources c.environment c.fileVariables

/-! ### Requests -/

theorem readDocument_apply (c : Configuration) :
    ∃ records,
      readDocument c = (.ofExcept (entriesOf c.reader c.document), { c with records }) := by
  obtain ⟨reader, document, variableFile, environment, loaded, built, records⟩ := c
  simp only [readDocument, Proc.bind_apply, Proc.read, entriesOf]
  cases document with
  | none => exact ⟨records, rfl⟩
  | some text =>
    dsimp only
    cases reader text with
    | error e => exact ⟨records, rfl⟩
    | ok v =>
      cases v
      case dict entries => exact ⟨records, rfl⟩
      all_goals
        dsimp only
        split <;> exact ⟨_, rfl⟩

theorem config_of_loaded {c : Configuration} {entries : List (Value × Value)}
    (h : c.loaded = some entries) : config c = (.done entries, c) := by
  simp only [config, Proc.bind_apply, Proc.read, h]
  rfl

theorem config_of_not_loaded {c : Configuration} (h : c.loaded = none) :
    ∃ records, config c =
      (.ofExcept c.current, { c with records, loaded := c.current.toOption }) := by
  obtain ⟨records, hread⟩ := readDocument_apply c
  rw [h] at hread
  refine ⟨records, ?_⟩
  simp only [config, Proc.bind_apply, Proc.read, h, hread, current]
  cases entriesOf c.reader c.document with
  | error e => rfl
  | ok entries =>
    dsimp only [Outcome.ofExcept, bind, Except.bind]
    cases withLevel c.environment entries <;> rfl

theorem config_apply (c : Configuration) :
    ∃ records, config c =
      (.ofExcept c.known, { c with records, loaded := c.known.toOption }) := by
  rw [known]
  cases h : c.loaded with
  | none => exact config_of_not_loaded h
  | some entries =>
    have hc : c = { c with loaded := some entries } := by rw [← h]
    exact ⟨c.records, (config_of_loaded h).trans (congrArg (Prod.mk _) hc)⟩

theorem settings_of_built {c : Configuration} {s : Settings} (h : c.built = some s) :
    settings c = (.done s, c) := by
  simp only [settings, Proc.bind_apply, Proc.read, h]
  rfl

/-- Settings that are not kept are built of the document and of what is said elsewhere now. -/
theorem settings_of_not_built {c : Configuration} (h : c.built = none) :
    ∃ records, settings c = (.ofExcept (c.known >>= c.assembled), { c with
      records
      loaded := c.known.toOption
      built := (c.known >>= c.assembled).toOption }) := by
  obtain ⟨records, hconfig⟩ := config_apply c
  rw [h] at hconfig
  refine ⟨records, ?_⟩
  simp only [settings, Proc.bind_apply, Proc.read, h, hconfig]
  cases c.known with
  | error e => rfl
  | ok entries =>
    dsimp only [Outcome.ofExcept, bind, Except.bind, assembled]
    cases Settings.sectionOf ((lookup entries "flow").getD .none) with
    | error e => rfl
    | ok flow =>
      simp only [Proc.ofExcept_apply, Outcome.ofExcept, fileVariables]
      cases Settings.ofSources c.environment _ flow <;> rfl

/-! ### Histories -/

/-- What can happen to a configuration: an edit of one of the sources, or a request. -/
inductive Happening
  | document (text : Option String)
  | variableFile (text : Option String)
  | setVariable (name value : String)
  | unsetVariable (name : String)
  | config
  | reloadConfig
  | settings
  | reloadSettings

/-- What is there after something has happened. -/
def after (c : Configuration) : Happening → Configuration
  | .document text => { c with document := text }
  | .variableFile text => { c with variableFile := text }
  | .setVariable name value => { c with environment := c.environment.set name value }
  | .unsetVariable name => { c with environment := c.environment.erase name }
  | .config => (config c).2
  | .reloadConfig => (reloadConfig c).2
  | .settings => (settings c).2
  | .reloadSettings => (reloadSettings c).2

def afterAll (c : Configuration) (hs : List Happening) : Configuration := hs.foldl after c

theorem reader_config (c : Configuration) : (config c).2.reader = c.reader := by
  obtain ⟨records, h⟩ := config_apply c
  rw [h]

theorem reader_settings (c : Configuration) : (settings c).2.reader = c.reader := by
  cases hbuilt : c.built with
  | some s => rw [settings_of_built hbuilt]
  | none =>
    obtain ⟨records, h⟩ := settings_of_not_built hbuilt
    rw [h]

/-- Whatever happens, documents are read the same way. -/
theorem reader_after (c : Configuration) (h : Happening) : (c.after h).reader = c.reader := by
  cases h with
  | config => exact reader_config c
  | reloadConfig => exact reader_config { c with loaded := none }
  | settings => exact reader_settings c
  | reloadSettings => exact reader_settings { c with built := none }
  | _ => rfl

theorem reader_afterAll (c : Configuration) (happenings : List Happening) :
    (c.afterAll happenings).reader = c.reader := by
  induction happenings generalizing c with
  | nil => rfl
  | cons h rest ih => exact (ih (c.after h)).trans (reader_after c h)

theorem built_config (c : Configuration) : (config c).2.built = c.built := by
  obtain ⟨records, h⟩ := config_apply c
  rw [h]

/-- Settings that are kept stay, whatever happens but a request to build them again. -/
theorem built_after {c : Configuration} {s : Settings} (hs : c.built = some s) {h : Happening}
    (hreload : h ≠ .reloadSettings) : (c.after h).built = some s := by
  cases h with
  | config => exact (built_config c).trans hs
  | reloadConfig => exact (built_config { c with loaded := none }).trans hs
  | settings => rw [after, settings_of_built hs, hs]
  | reloadSettings => exact absurd rfl hreload
  | _ => exact hs

theorem built_afterAll {c : Configuration} {s : Settings} (hs : c.built = some s)
    {happenings : List Happening} (hreload : ∀ h ∈ happenings, h ≠ .reloadSettings) :
    (c.afterAll happenings).built = some s := by
  induction happenings generalizing c with
  | nil => exact hs
  | cons h rest ih =>
    obtain ⟨hh, hrest⟩ := List.forall_mem_cons.1 hreload
    exact ih (built_after hs hh) hrest

/-- Is the document read at a happening, whatever was kept of it? -/
def reads (c : Configuration) : Happening → Bool
  | .config | .reloadSettings => c.loaded.isNone
  | .reloadConfig => true
  | .settings => c.built.isNone && c.loaded.isNone
  | _ => false

theorem known_toOption (c : Configuration) :
    c.known.toOption = if c.loaded.isNone then c.current.toOption else c.loaded := by
  rw [known]
  cases c.loaded <;> rfl

theorem loaded_config (c : Configuration) :
    (config c).2.loaded = if c.loaded.isNone then c.current.toOption else c.loaded := by
  obtain ⟨records, h⟩ := config_apply c
  rw [h, known_toOption]

theorem loaded_settings (c : Configuration) :
    (settings c).2.loaded =
      if c.built.isNone && c.loaded.isNone then c.current.toOption else c.loaded := by
  cases hbuilt : c.built with
  | some s =>
    rw [settings_of_built hbuilt]
    rfl
  | none =>
    obtain ⟨records, h⟩ := settings_of_not_built hbuilt
    rw [h, known_toOption]
    rfl

/-- A document that is read is kept unless it cannot be read. -/
theorem loaded_after (c : Configuration) (h : Happening) :
    (c.after h).loaded = if c.reads h then c.current.toOption else c.loaded := by
  cases h with
  | config => exact loaded_config c
  | reloadConfig => exact loaded_config { c with loaded := none }
  | settings => exact loaded_settings c
  | reloadSettings => exact loaded_settings { c with built := none }
  | _ => rfl

/-- The text that the document had when it was read last, after this one if it is not read again. -/
def lastRead (c : Configuration) (text : Option String) : List Happening → Option String
  | [] => text
  | h :: rest => lastRead (c.after h) (if c.reads h then c.document else text) rest

/-- What is kept of the document was read from the text, in some environment. -/
def KeptFrom (c : Configuration) (text : Option String) : Prop :=
  ∀ kept, c.loaded = some kept →
    ∃ environment, (entriesOf c.reader text >>= withLevel environment) = .ok kept

theorem keptFrom_after {c : Configuration} {text : Option String} (hc : c.KeptFrom text)
    (h : Happening) : (c.after h).KeptFrom (if c.reads h then c.document else text) := by
  intro kept hkept
  rw [loaded_after] at hkept
  rw [reader_after]
  cases hreads : c.reads h with
  | true =>
    rw [hreads] at hkept
    refine ⟨c.environment, ?_⟩
    change c.current.toOption = some kept at hkept
    change c.current = .ok kept
    cases hcurrent : c.current with
    | error e => simp [hcurrent, Except.toOption] at hkept
    | ok read => simpa [hcurrent, Except.toOption] using hkept
  | false =>
    rw [hreads] at hkept
    exact hc kept hkept

theorem keptFrom_afterAll {c : Configuration} {text : Option String} (hc : c.KeptFrom text)
    (happenings : List Happening) :
    (c.afterAll happenings).KeptFrom (c.lastRead text happenings) := by
  induction happenings generalizing c text with
  | nil => exact hc
  | cons h rest ih => exact ih (keptFrom_after hc h)

/-! ### The level in the environment -/

theorem lookup_putEntry {name other : String} (h : name ≠ other) (v : Value)
    (entries : List (Value × Value)) :
    lookup (Config.Node.putEntry (.str other) v entries) name = lookup entries name := by
  have hother : (Value.str other).sameKey (.str name) = false := by
    rw [Bool.eq_false_iff, ne_eq, Value.sameKey_str, Value.str.injEq]
    exact fun heq => h heq.symm
  induction entries with
  | nil => simp [Config.Node.putEntry, lookup, hother]
  | cons entry rest ih =>
    obtain ⟨key, old⟩ := entry
    rw [Config.Node.putEntry]
    split
    · next hsame =>
      obtain rfl := Value.sameKey_str.1 hsame
      simp [lookup, hother]
    · cases hkey : key.sameKey (.str name) with
      | true => simp [lookup, hkey]
      | false => simpa [lookup, List.find?_cons, hkey] using ih

/-- Merging the level leaves all other sections as they are. -/
theorem lookup_withLevel {name : String} (h : name ≠ "logging") {environment : Config.Variables}
    {entries merged : List (Value × Value)}
    (hmerged : withLevel environment entries = .ok merged) :
    lookup merged name = lookup entries name := by
  rw [withLevel] at hmerged
  split at hmerged
  · cases hmerged
    rfl
  · split at hmerged
    · cases hmerged
      rfl
    · cases hlogging : mappingOf ((lookup entries "logging").getD .none) with
      | error e =>
        rw [hlogging] at hmerged
        cases hmerged
      | ok logging =>
        rw [hlogging] at hmerged
        cases hmerged
        exact lookup_putEntry h _ _

end Configuration

end BrowserFlow
