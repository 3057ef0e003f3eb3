import BrowserFlow.Log.Stream
import BrowserFlow.Proofs.Configuring

/-!
# Setting the log stream up

What the first set-up of the log stream comes to, for any document and any environment of which
nothing has been read yet. The word for the level is taken from the environment, else from the
document, else it is the usual one; a word that names no level means the default. The set-up goes
wrong for four reasons and no others: the document cannot be read for another reason than its shape,
the level in the environment cannot be merged into the section on logging, that section is no
mapping, or the word is one of two names that are known and name no level. A set-up that goes wrong
leaves the stream as it was; one that succeeds attaches one handler, and there is none after it.
-/
namespace BrowserFlow

namespace Configuration

/-- The level that the environment names; an empty variable names none. -/
def saidLevel (c : Configuration) : Option String :=
  (c.environment.get? levelVariable).filter (!·.isEmpty)

/-- The section on logging, if the document can be read and has one. -/
def loggingSection (c : Configuration) : Option Value :=
  match entriesOf c.reader c.document with
  | .ok entries => lookup entries "logging"
  | .error _ => none

/-- The level that the section on logging names. -/
def writtenLevel (c : Configuration) : Option Value :=
  match c.loggingSection with
  | some (.dict entries) => lookup entries "level"
  | _ => none

/-- The word for the level: the environment wins over the document. -/
def levelWord (c : Configuration) : String :=
  c.saidLevel.getD ((c.writtenLevel.map Value.text).getD LogStream.defaultLevel)

/-- The threshold that the word for the level means, in any letter case. -/
def levelThreshold (c : Configuration) : Threshold :=
  (Threshold.ofName? (Text.upper c.levelWord)).getD .default

/-- What keeps the word for the level from being found out. -/
inductive WordTrouble (c : Configuration) : Raised → Prop
  | unreadable {e : Raised} (h : entriesOf c.reader c.document = .error e)
    (he : e.cls ≠ .configuration) :
    WordTrouble c e
  | unmergeable {v : Value} {word : String} {e : Raised} (hv : c.loggingSection = some v)
    (hword : c.saidLevel = some word) (he : mappingOf v = .error e) : WordTrouble c e
  | shapeless {v : Value} (hv : c.loggingSection = some v) (hword : c.saidLevel = none)
    (hshape : ∀ entries, v ≠ .dict entries) : WordTrouble c (.noAttribute v.fullTypeName "get")

/-- What keeps a threshold from being found out: trouble with the word for the level, or a word that
is a known name and names no level. -/
inductive LevelTrouble (c : Configuration) : Raised → Prop
  | word {e : Raised} (h : c.WordTrouble e) : LevelTrouble c e
  | pattern (hword : ∀ e, ¬ c.WordTrouble e) (hname : Text.upper c.levelWord = "BASIC_FORMAT") :
    LevelTrouble c (.valueError ("Unknown level: " ++ Text.quoted Threshold.messagePattern))
  | patterns (hword : ∀ e, ¬ c.WordTrouble e) (hname : Text.upper c.levelWord = "_STYLES") :
    LevelTrouble c
      (.typeError ("Level not an integer or a valid string: " ++ Threshold.patternTable))

/-- The word for the level as it is found out. -/
def readWord (c : Configuration) : Except Raised String :=
  match c.current with
  | .ok entries => LogStream.levelIn entries
  | .error e =>
    if e.cls = .configuration then
      .ok ((c.environment.get? levelVariable).getD LogStream.defaultLevel)
    else .error e

variable {c : Configuration} {e : Raised} {entries : List (Value × Value)} {word : String}

theorem withLevel_of_not_said (h : c.saidLevel = none) :
    withLevel c.environment entries = .ok entries := by
  rw [withLevel]
  cases hvar : c.environment.get? levelVariable with
  | none => rfl
  | some level =>
    have hempty : level.isEmpty = true := by simpa [saidLevel, hvar] using h
    simp [hempty]

theorem withLevel_of_said (h : c.saidLevel = some word) :
    withLevel c.environment entries =
      (mappingOf ((lookup entries "logging").getD .none)).map fun logging =>
        Config.Node.putEntry (.str "logging")
          (.dict (Config.Node.putEntry (.str "level") (.str word) logging)) entries := by
  obtain ⟨hvar, hempty⟩ := Option.filter_eq_some_iff.1 h
  rw [withLevel, hvar]
  simp only [Bool.not_eq_true'] at hempty
  simp only [hempty, Bool.false_eq_true, if_false]
  cases mappingOf ((lookup entries "logging").getD .none) <;> rfl

theorem lookup_putEntry_self (name : String) (v : Value) (entries : List (Value × Value)) :
    lookup (Config.Node.putEntry (.str name) v entries) name = some v := by
  induction entries with
  | nil => simp [Config.Node.putEntry, lookup, Value.sameKey_str]
  | cons entry rest ih =>
    obtain ⟨key, old⟩ := entry
    rw [Config.Node.putEntry]
    cases hkey : key.sameKey (.str name) with
    | true => simp [lookup, hkey]
    | false => simpa [lookup, hkey] using ih

/-! ### Merging the level -/

/-- What goes on without an error gets its error from what comes first. -/
theorem error_of_bind {α β : Type} {x : Except Raised α} {f : α → β}
    (h : (x >>= fun a => .ok (f a)) = .error e) : x = .error e := by
  cases x with
  | error e' =>
    cases h
    rfl
  | ok a => cases h

/-- An error that goes through a list is one that an element of the list gave. -/
theorem error_of_mapM {α β : Type} {f : α → Except Raised β} {l : List α}
    (h : l.mapM f = .error e) : ∃ a ∈ l, f a = .error e := by
  induction l with
  | nil => cases h
  | cons a rest ih =>
    rw [List.mapM_cons] at h
    cases ha : f a with
    | error e' =>
      rw [ha] at h
      cases h
      exact ⟨a, List.mem_cons_self, ha⟩
    | ok b =>
      rw [ha] at h
      obtain ⟨a', hmem, ha'⟩ := ih (error_of_bind h)
      exact ⟨a', List.mem_cons_of_mem a hmem, ha'⟩

mutual

theorem checkKey_error {key : Value} (h : ItemStore.checkKey key = .error e) :
    e.cls ≠ .configuration := by
  unfold ItemStore.checkKey at h
  split at h
  · cases h
    exact nofun
  · cases h
    exact nofun
  · exact checkKeys_error h
  · cases h

theorem checkKeys_error {keys : List Value} (h : ItemStore.checkKeys keys = .error e) :
    e.cls ≠ .configuration := by
  unfold ItemStore.checkKeys at h
  split at h
  · cases h
  · next key rest =>
    cases hkey : ItemStore.checkKey key with
    | error e' =>
      rw [hkey] at h
      cases h
      exact checkKey_error hkey
    | ok =>
      rw [hkey] at h
      exact checkKeys_error h

end

theorem pairOf_error {place : Nat} {element : Value} (h : pairOf place element = .error e) :
    e.cls ≠ .configuration := by
  rw [pairOf] at h
  split at h
  · cases h
    exact nofun
  · exact checkKey_error (error_of_bind h)
  · cases h
    exact nofun

/-- What a section cannot be merged with is no fault in the shape of the document. -/
theorem mappingOf_error {v : Value} (h : mappingOf v = .error e) : e.cls ≠ .configuration := by
  unfold mappingOf at h
  split at h
  · cases h
  · split at h
    · cases h
    · split at h
      · cases h
        exact nofun
      · obtain ⟨⟨element, place⟩, -, helement⟩ := error_of_mapM (error_of_bind h)
        exact pairOf_error helement

/-! ### Finding the word out -/

theorem readWord_of_unreadable (h : entriesOf c.reader c.document = .error e) :
    c.readWord = if e.cls = .configuration then
      .ok ((c.environment.get? levelVariable).getD LogStream.defaultLevel) else .error e := by
  rw [readWord, current, h]
  rfl

theorem readWord_of_not_said (h : entriesOf c.reader c.document = .ok entries)
    (hsaid : c.saidLevel = none) : c.readWord = LogStream.levelIn entries := by
  rw [readWord, current, h]
  change (match withLevel c.environment entries with
    | .ok entries => LogStream.levelIn entries
    | .error e => _) = _
  rw [withLevel_of_not_said hsaid]

theorem readWord_of_said (h : entriesOf c.reader c.document = .ok entries)
    (hsaid : c.saidLevel = some word) :
    c.readWord = (mappingOf ((lookup entries "logging").getD .none)).map fun _ => word := by
  rw [readWord, current, h]
  change (match withLevel c.environment entries with
    | .ok entries => LogStream.levelIn entries
    | .error e => _) = _
  rw [withLevel_of_said hsaid]
  cases hmapping : mappingOf ((lookup entries "logging").getD .none) with
  | error e => exact if_neg (mappingOf_error hmapping)
  | ok logging =>
    change LogStream.levelIn _ = .ok word
    rw [LogStream.levelIn, lookup_putEntry_self]
    dsimp only
    rw [lookup_putEntry_self]
    rfl

theorem loggingSection_of_read (h : entriesOf c.reader c.document = .ok entries) :
    c.loggingSection = lookup entries "logging" := by
  rw [loggingSection, h]

theorem readWord_error_iff : c.readWord = .error e ↔ c.WordTrouble e := by
  cases hentries : entriesOf c.reader c.document with
  | error e' =>
    have hsection : c.loggingSection = none := by rw [loggingSection, hentries]
    rw [readWord_of_unreadable hentries]
    constructor
    · intro h
      split at h
      · cases h
      · next hcls =>
        cases h
        exact .unreadable hentries hcls
    · intro h
      cases h with
      | unreadable h he =>
        obtain rfl : e' = e := Except.error.inj (hentries.symm.trans h)
        exact if_neg he
      | unmergeable hv => cases hsection.symm.trans hv
      | shapeless hv => cases hsection.symm.trans hv
  | ok entries =>
    have hsection := loggingSection_of_read hentries
    cases hsaid : c.saidLevel with
    | none =>
      rw [readWord_of_not_said hentries hsaid]
      constructor
      · intro h
        rw [LogStream.levelIn] at h
        split at h
        · cases h
        · cases h
        · next v hshape hv =>
          cases h
          exact .shapeless (hsection.trans hv) hsaid hshape
      · intro h
        cases h with
        | unreadable h => cases hentries.symm.trans h
        | unmergeable hv hword => cases hsaid.symm.trans hword
        | shapeless hv _ hshape =>
          rw [hsection] at hv
          rw [LogStream.levelIn, hv]
          split
          · next hnone => cases hnone
          · next logging hsome => exact absurd (Option.some.inj hsome) (hshape logging)
          · next hsome =>
            cases hsome
            rfl
    | some word =>
      rw [readWord_of_said hentries hsaid]
      constructor
      · intro h
        cases hv : lookup entries "logging" with
        | none =>
          rw [hv] at h
          cases h
        | some v =>
          rw [hv] at h
          cases hmapping : mappingOf v with
          | ok logging =>
            rw [Option.getD_some, hmapping] at h
            cases h
          | error e' =>
            rw [Option.getD_some, hmapping] at h
            cases h
            exact .unmergeable (hsection.trans hv) hsaid hmapping
      · intro h
        cases h with
        | unreadable h => cases hentries.symm.trans h
        | unmergeable hv _ he =>
          rw [← hsection, hv, Option.getD_some, he]
          rfl
        | shapeless _ hword => cases hsaid.symm.trans hword

/-- A word that is found out means what the level's word means. They differ only where the document
cannot be read and the variable is empty, where neither names a level but the default. -/
theorem configured_of_readWord (h : c.readWord = .ok word) :
    Threshold.configured (Text.upper word) = Threshold.configured (Text.upper c.levelWord) := by
  cases hentries : entriesOf c.reader c.document with
  | error e =>
    have hwritten : c.writtenLevel = none := by rw [writtenLevel, loggingSection, hentries]
    rw [readWord_of_unreadable hentries] at h
    split at h
    · cases h
      rw [levelWord, saidLevel, hwritten]
      cases hvar : c.environment.get? levelVariable with
      | none => rfl
      | some level =>
        by_cases hempty : level.isEmpty = true
        · obtain rfl := String.isEmpty_iff.1 hempty
          rfl
        · simp [Option.filter_some, hempty]
    · cases h
  | ok entries =>
    have hsection := loggingSection_of_read hentries
    cases hsaid : c.saidLevel with
    | none =>
      rw [readWord_of_not_said hentries hsaid, LogStream.levelIn] at h
      rw [levelWord, hsaid, writtenLevel, hsection]
      split at h
      · next hnone =>
        cases h
        rw [hnone]
        rfl
      · next logging hsome =>
        cases h
        rw [hsome]
        dsimp only
        cases lookup logging "level" <;> rfl
      · cases h
    | some said =>
      rw [readWord_of_said hentries hsaid] at h
      cases hmapping : mappingOf ((lookup entries "logging").getD .none) with
      | error e =>
        rw [hmapping] at h
        cases h
      | ok logging =>
        rw [hmapping] at h
        cases h
        rw [levelWord, hsaid]
        rfl

/-- A threshold is found out as the one that the level's word means, unless something keeps it from
being found out. -/
theorem configured_error_iff (hword : ∀ e, ¬ c.WordTrouble e) :
    Threshold.configured (Text.upper c.levelWord) = .error e ↔ c.LevelTrouble e := by
  constructor
  · intro h
    rw [Threshold.configured] at h
    split at h
    · next hname =>
      cases h
      exact .pattern hword hname
    · split at h
      · next hname =>
        cases h
        exact .patterns hword hname
      · cases h
  · intro h
    cases h with
    | word h => exact absurd h (hword e)
    | pattern _ hname =>
      rw [hname]
      rfl
    | patterns _ hname =>
      rw [hname]
      rfl

theorem configured_eq_ok {threshold : Threshold}
    (h : Threshold.configured (Text.upper c.levelWord) = .ok threshold) :
    threshold = c.levelThreshold := by
  rw [Threshold.configured] at h
  split at h
  · cases h
  · split at h
    · cases h
    · exact (Except.ok.inj h).symm

end Configuration

namespace LogStream

variable {c : Configuration}

theorem read_apply {α : Type} {p : Configuration.Reading α} {outcome : Outcome α}
    {c' : Configuration} (h : p c = (outcome, c')) (session : Option String) :
    read p (start c session) = (outcome, start c' session) := by
  simp only [read, start, h]

theorem configuredLevel_apply (hc : c.loaded = none) (session : Option String) :
    ∃ c', configuredLevel (start c session) =
      (.ofExcept (c.readWord.map Text.upper), start c' session) := by
  obtain ⟨records, hconfig⟩ := Configuration.config_of_not_loaded hc
  have hread := read_apply hconfig session
  refine ⟨{ c with records, loaded := c.current.toOption }, ?_⟩
  simp only [configuredLevel, Proc.bind_apply, Proc.attempt, hread, Configuration.readWord]
  cases c.current with
  | ok entries =>
    dsimp only [Outcome.ofExcept]
    cases levelIn entries <;> rfl
  | error e =>
    dsimp only [Outcome.ofExcept]
    split <;> rfl

theorem setUp_of_isSetUp {s : LogStream} (h : s.isSetUp = true) : setUp s = (.done (), s) := by
  simp [setUp, Proc.bind_apply, Proc.read, h]

theorem setUp_of_not_isSetUp {s : LogStream} (h : s.isSetUp = false) :
    setUp s = (configuredLevel >>= fun name =>
      Proc.ofExcept (Threshold.configured name) >>= fun threshold => do
        Proc.update fun s => { s with threshold, handlers := s.handlers + 1 }
        write .debug "root" ("Root logger configured with JSON stdout handler. Level: " ++ name)
        Proc.update fun s => { s with isSetUp := true }) s := by
  rw [setUp, Proc.bind_apply]
  simp only [Proc.read, h]
  rfl

/-- What the threshold is found out as. -/
def foundThreshold (c : Configuration) : Except Raised Threshold :=
  c.readWord >>= fun word => Threshold.configured (Text.upper word)

/-- The set-up goes on only if a threshold is found out. -/
theorem setUp_start (hc : c.loaded = none) (session : Option String) :
    ∃ c' lines, setUp (start c session) = match foundThreshold c with
      | .ok threshold => (.done (), ⟨c', threshold, 1, true, session, lines⟩)
      | .error e => (.raised e, start c' session) := by
  obtain ⟨c', hlevel⟩ := configuredLevel_apply hc session
  have hstart : (start c session).isSetUp = false := rfl
  rw [setUp_of_not_isSetUp hstart, Proc.bind_apply, hlevel, foundThreshold]
  cases c.readWord with
  | error e => exact ⟨c', [], rfl⟩
  | ok word =>
    dsimp only [Except.map, Outcome.ofExcept, bind, Except.bind]
    cases Threshold.configured (Text.upper word) with
    | error e => exact ⟨c', [], rfl⟩
    | ok threshold => exact ⟨c', _, rfl⟩

theorem foundThreshold_error_iff {e : Raised} :
    foundThreshold c = .error e ↔ c.LevelTrouble e := by
  rw [foundThreshold]
  cases hword : c.readWord with
  | error e' =>
    have htrouble := Configuration.readWord_error_iff.1 hword
    constructor
    · intro h
      cases h
      exact .word htrouble
    · intro h
      cases h with
      | word h =>
        rw [← hword, Configuration.readWord_error_iff.2 h]
        rfl
      | pattern hnone => exact absurd htrouble (hnone e')
      | patterns hnone => exact absurd htrouble (hnone e')
  | ok word =>
    have hnone : ∀ e, ¬ c.WordTrouble e := fun e he => by
      cases hword.symm.trans (Configuration.readWord_error_iff.2 he)
    change Threshold.configured (Text.upper word) = .error e ↔ _
    rw [Configuration.configured_of_readWord hword, Configuration.configured_error_iff hnone]

theorem foundThreshold_eq_ok {threshold : Threshold} (h : foundThreshold c = .ok threshold) :
    threshold = c.levelThreshold := by
  rw [foundThreshold] at h
  cases hword : c.readWord with
  | error e =>
    rw [hword] at h
    cases h
  | ok word =>
    rw [hword] at h
    exact Configuration.configured_eq_ok ((Configuration.configured_of_readWord hword).symm.trans h)

theorem no_levelTrouble {threshold : Threshold} (h : foundThreshold c = .ok threshold)
    (e : Raised) : ¬ c.LevelTrouble e := fun he => by
  cases h.symm.trans (foundThreshold_error_iff.2 he)

/-- The first set-up of the log stream fails exactly if something keeps the threshold from being
found out, and then leaves the stream as it was. Otherwise it attaches one handler and puts the
threshold in force that the word for the level means; a later set-up changes nothing. -/
theorem setUp_first (hc : c.loaded = none) (session : Option String) :
    ∃ outcome s, setUp (start c session) = (outcome, s) ∧
      (∀ e, outcome = .raised e ↔ c.LevelTrouble e) ∧
      ((∃ e, c.LevelTrouble e) → s = start s.configuration session) ∧
      ((∀ e, ¬ c.LevelTrouble e) → outcome = .done () ∧ s.handlers = 1 ∧
        s.threshold = c.levelThreshold ∧ s.session = session ∧ setUp s = (.done (), s)) := by
  obtain ⟨c', lines, hset⟩ := setUp_start hc session
  cases hfound : foundThreshold c with
  | error e =>
    have htrouble := foundThreshold_error_iff.1 hfound
    rw [hfound] at hset
    refine ⟨_, _, hset, fun e' => ?_, fun _ => rfl, fun hnone => absurd htrouble (hnone e)⟩
    rw [← foundThreshold_error_iff, hfound, Outcome.raised.injEq, Except.error.injEq]
  | ok threshold =>
    have hnone := no_levelTrouble hfound
    rw [hfound] at hset
    exact ⟨_, _, hset, fun e => ⟨nofun, fun he => absurd he (hnone e)⟩,
      fun ⟨e, he⟩ => absurd he (hnone e),
      fun _ => ⟨rfl, rfl, foundThreshold_eq_ok hfound, rfl, setUp_of_isSetUp rfl⟩⟩

/-- The environment wins over the document, in any letter case. -/
theorem setUp_first_overridden :
    let c : Configuration := { Configuration.start with
      document := some "logging:\n  level: debug\n"
      environment := Config.Variables.empty.set Configuration.levelVariable "Warn" }
    c.loaded = none ∧ (∀ e, ¬ c.LevelTrouble e) ∧
      ∃ s, setUp (start c none) = (.done (), s) ∧
        s.handlers = 1 ∧ s.threshold = .atLeast .warning := by
  intro c
  have hfound : foundThreshold c = .ok (.atLeast .warning) := by
    have hsome : (foundThreshold c).toOption = some (.atLeast .warning) := by decide +kernel
    cases hx : foundThreshold c with
    | error e => simp [hx, Except.toOption] at hsome
    | ok threshold => simpa [hx, Except.toOption] using hsome
  have hloaded : c.loaded = none := rfl
  clear_value c
  have hnone := no_levelTrouble hfound
  obtain ⟨outcome, s, hset, -, -, hready⟩ := setUp_first hloaded none
  obtain ⟨rfl, hhandlers, hthreshold, -⟩ := hready hnone
  exact ⟨hloaded, hnone, s, hset, hhandlers,
    hthreshold.trans (foundThreshold_eq_ok hfound).symm⟩

/-- A section on logging that is there and empty is no mapping, and the set-up fails on it. -/
theorem setUp_empty_section :
    let c : Configuration := { Configuration.start with document := some "logging:\n" }
    (setUp (start c none)).1.raised?.map (fun e => (e.cls, e.text)) =
        some (.foreign "AttributeError", "'NoneType' object has no attribute 'get'") ∧
      (setUp (start c none)).2.handlers = 0 := by
  decide +kernel

end LogStream

end BrowserFlow
