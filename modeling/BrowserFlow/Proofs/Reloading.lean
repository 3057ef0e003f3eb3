import BrowserFlow.Proofs.Configuring

/-!
# Building the settings again

A request to build the settings again is meant to come to what a new process would come to from the
sources as they are now. The environment and the file of variables are read anew; the document is
not if it is kept, so an edit of the document since it was read is missed. What is built is exactly
what the document was when it was read and the variables are now, and that is what a new process
comes to if the document is the same as then, if it is not kept, or if the configuration is read
again first.
-/
namespace BrowserFlow.Configuration

/-- What a new process comes to from the sources as they are. -/
def afresh (c : Configuration) : Outcome Settings :=
  (settings { c with loaded := none, built := none }).1

theorem afresh_eq (c : Configuration) : c.afresh = .ofExcept (c.current >>= c.assembled) := by
  obtain ⟨records, h⟩ :=
    settings_of_not_built (c := { c with loaded := none, built := none }) rfl
  exact congrArg Prod.fst h

theorem reloadSettings_eq (c : Configuration) :
    (reloadSettings c).1 = .ofExcept (c.known >>= c.assembled) := by
  obtain ⟨records, h⟩ := settings_of_not_built (c := { c with built := none }) rfl
  exact congrArg Prod.fst h

/-- Reading the document again keeps what it is now, or nothing if it cannot be read. -/
theorem after_reloadConfig (c : Configuration) :
    ∃ records, c.after .reloadConfig = { c with records, loaded := c.current.toOption } := by
  obtain ⟨records, h⟩ := config_apply { c with loaded := none }
  exact ⟨records, congrArg Prod.snd h⟩

theorem known_of_reread {c : Configuration} (h : c.loaded = c.current.toOption) :
    c.known = c.current := by
  rw [known, h]
  cases c.current <;> rfl

/-- Two readings of the same document, in whatever environments, add up to the same settings. -/
theorem assembled_of_document (c : Configuration) {text : Option String}
    {environment environment' : Config.Variables} {entries entries' : List (Value × Value)}
    (h : (entriesOf c.reader text >>= withLevel environment) = .ok entries)
    (h' : (entriesOf c.reader text >>= withLevel environment') = .ok entries') :
    c.assembled entries = c.assembled entries' := by
  cases hread : entriesOf c.reader text with
  | error e =>
    rw [hread] at h
    cases h
  | ok read =>
    rw [hread] at h h'
    have hflow : "flow" ≠ "logging" := by decide
    have h : lookup entries "flow" = lookup read "flow" := lookup_withLevel hflow h
    have h' : lookup entries' "flow" = lookup read "flow" := lookup_withLevel hflow h'
    rw [assembled, assembled, h, h']

/-- After any history from a start with nothing kept, settings are built again of the document as it
was when it was read last and of the variables as they are. A new process comes to the same if the
document is the same as then, if none is kept, and if the configuration is read again first. -/
theorem reloadSettings_afterAll {c₀ : Configuration} (hempty : c₀.loaded = none)
    (happenings : List Happening) :
    let c := c₀.afterAll happenings
    let text := c₀.lastRead none happenings
    (c.loaded = none → (reloadSettings c).1 = c.afresh) ∧
      (∀ kept, c.loaded = some kept → (reloadSettings c).1 = .ofExcept (c.assembled kept) ∧
        (∃ environment, (entriesOf c₀.reader text >>= withLevel environment) = .ok kept) ∧
        (text = c.document → ∀ entries, c.current = .ok entries →
          (reloadSettings c).1 = c.afresh)) ∧
      (reloadSettings (c.after .reloadConfig)).1 = c.afresh := by
  intro c text
  have hkeptFrom : c.KeptFrom text :=
    keptFrom_afterAll (fun kept hkept => by rw [hempty] at hkept; cases hkept) happenings
  refine ⟨fun hnone => ?_, fun kept hkept => ?_, ?_⟩
  · rw [reloadSettings_eq, afresh_eq, known, hnone]
  · have hreload : (reloadSettings c).1 = .ofExcept (c.assembled kept) := by
      rw [reloadSettings_eq, known, hkept]
      rfl
    obtain ⟨environment, hread⟩ := hkeptFrom kept hkept
    have hsame : c.reader = c₀.reader := reader_afterAll c₀ happenings
    refine ⟨hreload, ⟨environment, hsame ▸ hread⟩, fun hdocument entries hentries => ?_⟩
    rw [hdocument] at hread
    rw [hreload, afresh_eq, hentries, assembled_of_document c hread hentries]
    rfl
  · obtain ⟨records, hafter⟩ := after_reloadConfig c
    rw [hafter, reloadSettings_eq, afresh_eq, known_of_reread rfl]
    rfl

/-- A document that says whether there is to be a window. -/
def headlessDocument (word : String) : Happening :=
  .document (some ("flow:\n  headless: " ++ word ++ "\n"))

/-- An edit of the document since it was read is seen once the configuration is read again. -/
theorem reloadSettings_sees_reread_edit :
    let c := start.afterAll [headlessDocument "false", .settings, headlessDocument "true"]
    start.loaded = none ∧ (reloadSettings (c.after .reloadConfig)).1 = c.afresh ∧
      c.afresh.result?.map (·.headless) = some true :=
  ⟨rfl, (reloadSettings_afterAll rfl _).2.2, by decide +kernel⟩

/-- An edit of the document since it was read is missed otherwise. -/
theorem reloadSettings_misses_edit :
    let c := start.afterAll [headlessDocument "false", .settings, headlessDocument "true"]
    (reloadSettings c).1.result?.map (·.headless) = some false ∧
      c.afresh.result?.map (·.headless) = some true := by
  decide +kernel

end BrowserFlow.Configuration
