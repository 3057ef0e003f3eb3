import BrowserFlow.Proofs.Configuring

/-!
# Which source of a setting wins

With nothing kept from before, each field of the settings is given by the first source that defines
it, of the environment, the file of variables, the section of the document and the default. No field
depends on another one, and no source on a later one; what is wrong with the fields is raised all at
once. Settings that were built stay the same until they are asked to be built again. One thing comes
in between that has nothing to do with the fields: a level in the environment that cannot be merged
into the document.
-/
namespace BrowserFlow

namespace Settings

namespace Field

/-- What a field holds. -/
@[reducible] def Kind : Field → Type
  | actionTimeout | existsTimeout | findTimeout | loadTimeout => Float
  | headless | traceSteps => Bool
  | retryBackoff => BackoffPolicy
  | retryBaseDelayMs => Int

/-- All fields in the order of their names. -/
def all : List Field :=
  [actionTimeout, existsTimeout, findTimeout, headless, loadTimeout, retryBackoff, retryBaseDelayMs,
    traceSteps]

theorem mem_all (f : Field) : f ∈ all := by
  cases f <;> decide

/-- What a field of settings is. -/
def of (s : Settings) : (f : Field) → f.Kind
  | actionTimeout => s.actionTimeout
  | existsTimeout => s.existsTimeout
  | findTimeout => s.findTimeout
  | headless => s.headless
  | loadTimeout => s.loadTimeout
  | retryBackoff => s.retryBackoff
  | retryBaseDelayMs => s.retryBaseDelayMs
  | traceSteps => s.traceSteps

/-- What a raw value of a field is taken for. -/
def check : (f : Field) → Value → Except String f.Kind
  | actionTimeout | findTimeout | loadTimeout => fun v => Coercion.float v >>= Coercion.positive
  | existsTimeout => fun v => Coercion.float v >>= Coercion.notNegative
  | headless | traceSteps => Coercion.bool
  | retryBackoff => Coercion.policy
  | retryBaseDelayMs => fun v => Coercion.int v >>= Coercion.notNegativeInt

/-- The bound that the values of a field keep to. -/
def Within : (f : Field) → f.Kind → Prop
  | actionTimeout | findTimeout | loadTimeout => fun x => 0 < x
  | existsTimeout => fun x => 0 ≤ x
  | retryBaseDelayMs => fun n => 0 ≤ n
  | headless | traceSteps | retryBackoff => fun _ => True

theorem holds_of_guarded {α : Type} {p : α → Prop} [DecidablePred p] {what : String}
    {x : Except String α} {a : α}
    (h : (x >>= fun b => if p b then .ok b else .error what) = .ok a) : p a := by
  cases x with
  | error what => cases h
  | ok b =>
    by_cases hb : p b
    · have hab : Except.ok b = Except.ok a := (if_pos hb).symm.trans h
      cases hab
      exact hb
    · cases (if_neg hb).symm.trans h

/-- A value that is taken keeps to the bound of its field. -/
theorem within_of_check {f : Field} {v : Value} {x : f.Kind} (h : f.check v = .ok x) :
    f.Within x := by
  cases f
  case actionTimeout | findTimeout | loadTimeout =>
    exact holds_of_guarded (p := fun x : Float => 0 < x) h
  case existsTimeout => exact holds_of_guarded (p := fun x : Float => 0 ≤ x) h
  case retryBaseDelayMs => exact holds_of_guarded (p := fun n : Int => 0 ≤ n) h
  all_goals trivial

end Field

/-- The value of a field: what its raw value is taken for, or its default. -/
def Raw.value (raw : Raw) (f : Field) : Except String f.Kind := raw.read f (f.of defaults) f.check

/-- What is wrong with the fields, in the order of their names. -/
def Raw.problems (raw : Raw) : List String := Field.all.flatMap fun f => problem f (raw.value f)

/-- The field of the settings is what its raw value is taken for, and keeps to its bound; or it is
the default. -/
def Raw.Gives (raw : Raw) (s : Settings) (f : Field) : Prop :=
  match raw f with
  | none => f.of s = f.of defaults
  | some v => f.check v = .ok (f.of s) ∧ f.Within (f.of s)

theorem Raw.gives_of_value {raw : Raw} {s : Settings} {f : Field}
    (h : raw.value f = .ok (f.of s)) : raw.Gives s f := by
  rw [value, read] at h
  rw [Gives]
  cases hraw : raw f with
  | none =>
    rw [hraw] at h
    exact (Except.ok.inj h).symm
  | some v =>
    rw [hraw] at h
    exact ⟨h, Field.within_of_check h⟩

theorem problem_eq_nil {α : Type} {f : Field} {checked : Except String α}
    (h : problem f checked = []) : ∃ a, checked = .ok a := by
  cases checked with
  | ok a => exact ⟨a, rfl⟩
  | error what => cases h

/-- Settings are made of raw values exactly if nothing is wrong with any field. -/
theorem ofRaw_cases (raw : Raw) :
    (raw.problems = [] ∧ ∃ s, ofRaw raw = .ok s ∧ ∀ f, raw.value f = .ok (f.of s)) ∨
      (raw.problems ≠ [] ∧ ofRaw raw = .error (.validation raw.problems)) := by
  rw [ofRaw]
  split
  · next action probe find headless load policy delay trace ha he hf hh hl hp hd ht =>
    have hvalue : ∀ f, raw.value f =
        .ok (f.of ⟨find, probe, action, load, delay, policy, headless, trace⟩) := by
      intro f
      cases f <;> assumption
    refine .inl ⟨List.flatMap_eq_nil_iff.2 fun f _ => ?_, _, rfl, hvalue⟩
    rw [hvalue f]
    rfl
  · next hfaulty =>
    refine .inr ⟨fun hnone => ?_, ?_⟩
    · have hvalue : ∀ f, ∃ x, raw.value f = .ok x := fun f =>
        problem_eq_nil (List.flatMap_eq_nil_iff.1 hnone f f.mem_all)
      obtain ⟨action, ha⟩ := hvalue .actionTimeout
      obtain ⟨probe, he⟩ := hvalue .existsTimeout
      obtain ⟨find, hf⟩ := hvalue .findTimeout
      obtain ⟨headless, hh⟩ := hvalue .headless
      obtain ⟨load, hl⟩ := hvalue .loadTimeout
      obtain ⟨policy, hp⟩ := hvalue .retryBackoff
      obtain ⟨delay, hd⟩ := hvalue .retryBaseDelayMs
      obtain ⟨trace, ht⟩ := hvalue .traceSteps
      exact hfaulty action probe find headless load policy delay trace ha he hf hh hl hp hd ht
    · simp only [Raw.problems, Field.all, List.flatMap_cons, List.flatMap_nil, List.append_nil,
        List.append_assoc]
      rfl

/-! ### Where raw values come from -/

/-- The name of a field's variable in lower case. -/
def Field.variable (f : Field) : String := "uiflow_" ++ f.name

theorem lower_variableName (f : Field) :
    Text.lower (Terms.variableName {} f) = f.variable := by
  cases f <;> decide +kernel

theorem fromVariables_standard (vars : Config.Variables) (f : Field) :
    fromVariables {} vars f = (vars.getFolded? f.variable).map .str := by
  rw [← lower_variableName]
  rfl

/-- No name of the section starts with an underscore. -/
def Plain (entries : List (String × Value)) : Prop :=
  ∀ entry ∈ entries, entry.1.toList.head? ≠ some '_'

instance (entries : List (String × Value)) : Decidable (Plain entries) :=
  inferInstanceAs (Decidable (∀ entry ∈ entries, entry.1.toList.head? ≠ some '_'))

theorem Plain.lookup {entries : List (String × Value)} (h : Plain entries) {name : String}
    (hname : name.toList.head? = some '_') : entries.lookup name = none := by
  refine List.lookup_eq_none_iff.2 fun entry hentry => ?_
  rw [bne_iff_ne]
  rintro rfl
  exact h entry hentry hname

/-- A plain section leaves it at the standard terms. -/
theorem Plain.terms {entries : List (String × Value)} (h : Plain entries) :
    Terms.ofSection entries = .ok {} := by
  have hfile : entries.lookup "_env_file" = none := h.lookup (by decide)
  have hstart : entries.lookup "_env_prefix" = none := h.lookup (by decide)
  have hnothing : entries.lookup "_env_parse_none_str" = none := h.lookup (by decide)
  have hexact : entries.lookup "_case_sensitive" = none := h.lookup (by decide)
  have hempty : entries.lookup "_env_ignore_empty" = none := h.lookup (by decide)
  simp only [Terms.ofSection, hfile, hstart, hnothing, hexact, hempty, Option.filter_none,
    Option.any_none]
  rfl

/-- The raw value of a field: the first of its variable in the environment, its variable in the
file, and its entry in the section. -/
def winning (environment file : Config.Variables) (entries : List (String × Value)) : Raw :=
  fun f =>
    (environment.getFolded? f.variable).map .str <|>
      ((file.getFolded? f.variable).map .str <|> entries.lookup f.name)

theorem Plain.ofSources {entries : List (String × Value)} (h : Plain entries)
    (environment file : Config.Variables) :
    ofSources environment file entries = ofRaw (winning environment file entries) := by
  rw [Settings.ofSources, h.terms]
  refine congrArg ofRaw (funext fun f => ?_)
  simp only [Raw.orElse, fromVariables_standard]
  rfl

/-- Names and their values are read by anything that reads each of them. -/
theorem mapM_named {read : Value × Value → Except Raised (String × Value)}
    (hread : ∀ entry : String × Value, read (.str entry.1, entry.2) = .ok entry)
    (entries : List (String × Value)) :
    (entries.map fun entry => ((.str entry.1 : Value), entry.2)).mapM read = .ok entries := by
  induction entries with
  | nil => rfl
  | cons entry rest ih =>
    rw [List.map_cons, List.mapM_cons, hread, ih]
    rfl

/-- A mapping of names is a section. -/
theorem sectionOf_dict (entries : List (String × Value)) :
    sectionOf (.dict (entries.map fun entry => (.str entry.1, entry.2))) = .ok entries := by
  cases entries with
  | nil => rfl
  | cons entry rest =>
    rw [sectionOf, if_neg (by simp [Value.isTrue])]
    exact mapM_named (fun _ => rfl) (entry :: rest)

end Settings

namespace Configuration

open Settings (Raw Field Plain)

/-- What the document holds, and what its section of settings does: names, none of them with an
underscore in front, and their values. -/
structure Written (c : Configuration) (entries : List (Value × Value))
    (flow : List (String × Value)) : Prop where
  document : entriesOf c.reader c.document = .ok entries
  settings : Settings.sectionOf ((lookup entries "flow").getD .none) = .ok flow
  plain : Plain flow

theorem Written.of_mapping {c : Configuration} {entries : List (Value × Value)}
    {flow : List (String × Value)} (hdocument : entriesOf c.reader c.document = .ok entries)
    (hflow : lookup entries "flow" = some (.dict (flow.map fun entry => (.str entry.1, entry.2))))
    (hplain : Plain flow) : c.Written entries flow := by
  refine ⟨hdocument, ?_, hplain⟩
  rw [hflow]
  exact Settings.sectionOf_dict flow

/-- The raw values of the fields: of the environment, the file of variables and the section the
first that has one. -/
def winning (c : Configuration) (flow : List (String × Value)) : Raw :=
  Settings.winning c.environment c.fileVariables flow

theorem Written.assembled {c : Configuration} {entries : List (Value × Value)}
    {flow : List (String × Value)} (h : c.Written entries flow) {merged : List (Value × Value)}
    (hmerged : withLevel c.environment entries = .ok merged) :
    c.assembled merged = Settings.ofRaw (c.winning flow) := by
  have hlookup : lookup merged "flow" = lookup entries "flow" :=
    lookup_withLevel (by decide) hmerged
  rw [Configuration.assembled, hlookup, h.settings]
  exact h.plain.ofSources _ _

theorem eq_ok_getD {ε α : Type} {x : Except ε α} {a : α} (h : x.toOption.isSome = true) :
    x = .ok (x.toOption.getD a) := by
  cases x with
  | ok b => rfl
  | error e => cases h

/-- The entries of a document. -/
def entriesIn (text : String) : List (Value × Value) :=
  (entriesOf Config.Document.read (some text)).toOption.getD []

/-- The settings in a document. -/
def flowIn (text : String) : List (String × Value) :=
  (Settings.sectionOf ((lookup (entriesIn text) "flow").getD .none)).toOption.getD []

/-- With nothing kept, each field is given by the first source that has it, whatever the others say
and whatever is the matter with other fields; all fields whose first value is no good are named
together; and the settings stay the same until they are built again. Only a level in the environment
that cannot be merged into the document keeps the settings from being built. -/
theorem settings_precedence {c : Configuration} (hloaded : c.loaded = none)
    (hbuilt : c.built = none) {entries : List (Value × Value)} {flow : List (String × Value)}
    (h : c.Written entries flow) :
    (∀ e, withLevel c.environment entries = .error e → (settings c).1 = .raised e) ∧
      ∀ merged, withLevel c.environment entries = .ok merged →
        ((c.winning flow).problems ≠ [] →
          (settings c).1 = .raised (.validation (c.winning flow).problems)) ∧
        ((c.winning flow).problems = [] → ∃ s, (settings c).1 = .done s ∧
          (∀ f, (c.winning flow).Gives s f) ∧
          ∀ happenings, (∀ later ∈ happenings, later ≠ .reloadSettings) →
            (settings ((c.after .settings).afterAll happenings)).1 = .done s) := by
  obtain ⟨records, happly⟩ := settings_of_not_built hbuilt
  have hcurrent : c.known = withLevel c.environment entries := by
    rw [known, hloaded]
    simp only [current, h.document]
    rfl
  constructor
  · intro e he
    rw [happly, hcurrent, he]
    rfl
  · intro merged hmerged
    have hassembled : (c.known >>= c.assembled) = Settings.ofRaw (c.winning flow) := by
      rw [hcurrent, hmerged]
      exact h.assembled hmerged
    rw [happly, hassembled]
    obtain ⟨hnone, s, hs, hvalue⟩ | ⟨hsome, herror⟩ := Settings.ofRaw_cases (c.winning flow)
    · refine ⟨fun hsome => absurd hnone hsome, fun _ => ⟨s, by rw [hs]; rfl,
        fun f => Settings.Raw.gives_of_value (hvalue f), fun happenings hreload => ?_⟩⟩
      have hkept : (c.after .settings).built = some s := by
        rw [after, happly, hassembled, hs]
        rfl
      rw [settings_of_built (built_afterAll hkept hreload)]
    · exact ⟨fun _ => by rw [herror]; rfl, fun hnone => absurd hnone hsome⟩

/-- A value that would be no good does not matter where another one wins. -/
theorem settings_precedence_shadowed :
    let c : Configuration := { start with
      document := some "flow:\n  retry_backoff: sometimes\n"
      variableFile := some "UIFLOW_RETRY_BACKOFF=always\n" }
    ∃ s, (settings c).1 = .done s ∧ s.retryBackoff = .always := by
  intro c
  let text := "flow:\n  retry_backoff: sometimes\n"
  have hwritten : c.Written (entriesIn text) (flowIn text) :=
    ⟨eq_ok_getD (by decide +kernel), eq_ok_getD (by decide +kernel), by decide +kernel⟩
  obtain ⟨-, hmerges⟩ := settings_precedence rfl rfl hwritten
  obtain ⟨-, hgood⟩ := hmerges (entriesIn text) rfl
  obtain ⟨s, hs, hgives, -⟩ := hgood (by decide +kernel)
  have hnone : c.environment.getFolded? (Field.variable .retryBackoff) = none := by decide +kernel
  have hfile : c.fileVariables.getFolded? (Field.variable .retryBackoff) = some "always" := by
    decide +kernel
  have hwins : c.winning (flowIn text) .retryBackoff = some (.str "always") := by
    simp only [winning, Settings.winning, hnone, hfile]
    rfl
  have hpolicy := hgives .retryBackoff
  rw [Raw.Gives, hwins] at hpolicy
  exact ⟨s, hs, (Except.ok.inj hpolicy.1).symm⟩

/-- A section on logging that is a number, with a level in the environment, keeps the settings from
being built, although nothing is wrong with any of them. -/
theorem settings_misled_by_level :
    let text := "logging: 5\nflow:\n  headless: false\n"
    let c : Configuration := { start with
      document := some text
      environment := Config.Variables.empty.set levelVariable "debug" }
    c.Written (entriesIn text) (flowIn text) ∧ (c.winning (flowIn text)).problems = [] ∧
      (settings c).1.raised?.map (fun e => (e.cls, e.text)) =
        some (.foreign "TypeError", "'int' object is not iterable") := by
  intro text c
  refine ⟨⟨eq_ok_getD ?_, eq_ok_getD ?_, ?_⟩, ?_, ?_⟩ <;> decide +kernel

end Configuration

end BrowserFlow
