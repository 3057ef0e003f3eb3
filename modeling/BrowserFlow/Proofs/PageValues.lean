import BrowserFlow.Proofs.Exchanges
import BrowserFlow.Proofs.RemoteWork
import BrowserFlow.Rehearsal.PageDriver

/-!
# Values on a rehearsed page

What the answers of a rehearsed page tell of the values of its elements. Asking for a tag and
clicking leave every value as it is, filling gives the element the text as its value, and choosing
gives it the text if that is one of its options; if it is not, nothing is chosen, which the answer
tells, and nothing is changed. What is raised by filling and choosing is raised by the element, and
has nothing to do with the text.
-/
namespace BrowserFlow.Rehearsal

namespace Page

/-- The element that a locator leads to. -/
def elementAt (page : Page) (l : Locator) : Except Raised Element :=
  (page.located l).bind (pick (lastLookup l).1 (lastLookup l).2)

theorem element_apply (l : Locator) (page : Page) :
    element l page = (Proc.ofExcept (page.elementAt l) page) := rfl

theorem lookup_changeIn (label label' : String) (f : Condition → Condition)
    (conditions : List (String × Condition)) :
    ((changeIn label f conditions).lookup label').getD {} =
      if label' = label then f ((conditions.lookup label).getD {})
      else (conditions.lookup label').getD {} := by
  induction conditions with
  | nil =>
    by_cases h : label' = label
    · simp [changeIn, h]
    · simp [changeIn, List.lookup_cons, h, beq_false_of_ne h]
  | cons entry rest ih =>
    obtain ⟨l, c⟩ := entry
    rw [changeIn]
    by_cases hl : l = label
    · subst hl
      by_cases h : label' = l
      · simp [h]
      · simp [List.lookup_cons, h, beq_false_of_ne h]
    · have hne : (label == l) = false := beq_false_of_ne fun h => hl h.symm
      rw [if_neg hl, List.lookup_cons, List.lookup_cons, List.lookup_cons, hne]
      by_cases h : label' = l
      · subst h
        simp [hl]
      · simpa [beq_false_of_ne h] using ih

theorem condition_changeCondition (page : Page) (label label' : String)
    (f : Condition → Condition) :
    (page.changeCondition label f).condition label' =
      if label' = label then f (page.condition label) else page.condition label' :=
  lookup_changeIn label label' f page.conditions

/-- A page with the same elements, whose values are the same. -/
structure SameValues (page page' : Page) : Prop where
  root : page'.root = page.root
  value : ∀ label, (page'.condition label).value = (page.condition label).value

theorem located_of_root {page page' : Page} (h : page'.root = page.root) (l : Locator) :
    page'.located l = page.located l := by
  have hbase : ∀ scope, page'.base scope = page.base scope := by
    intro scope
    rcases scope with _ | frame
    · exact congrArg some h
    · simp [base, frameFor, h]
  induction l with
  | root scope selector index => simp only [located, hbase]
  | child parent selector index ih => simp only [located, ih]

theorem SameValues.trans {page page' page'' : Page} (h : page.SameValues page')
    (h' : page'.SameValues page'') : page.SameValues page'' :=
  ⟨h'.root.trans h.root, fun label => (h'.value label).trans (h.value label)⟩

theorem SameValues.elementAt {page page' : Page} (h : page.SameValues page') (l : Locator) :
    page'.elementAt l = page.elementAt l := by
  rw [Page.elementAt, Page.elementAt, located_of_root h.root]

/-- What goes wrong with an element is not among its values. -/
theorem SameValues.turnOf (e : Element) (operation : String) (page : Page) :
    page.SameValues (Page.turnOf e operation page).2 := by
  have hchanged : (Page.turnOf e operation page).2 = page.changeCondition e.label fun c =>
      { c with faults := ((page.condition e.label).faults.take operation).2 } := by
    rw [Page.turnOf]
    rcases (page.condition e.label).faults.take operation with ⟨_ | fault, faults⟩ <;> rfl
  rw [hchanged]
  refine ⟨rfl, fun label => ?_⟩
  rw [condition_changeCondition]
  split
  · rw [‹label = _›]
  · rfl

theorem operate_done {l : Locator} {operation : String} {page page' : Page} {e : Element}
    (h : operate l operation page = (.done e, page')) :
    page.elementAt l = .ok e ∧ page.SameValues page' := by
  obtain ⟨e', page₁, hfound, hrest⟩ := Proc.bind_eq_done_iff.1 h
  obtain ⟨_, page₂, hturn, hlast⟩ := Proc.bind_eq_done_iff.1 hrest
  cases hlast
  have hsame := SameValues.turnOf e operation page₁
  rw [hturn] at hsame
  rw [element_apply] at hfound
  rcases hat : page.elementAt l with _ | e' <;> rw [hat] at hfound <;> cases hfound
  exact ⟨rfl, hsame⟩

/-- Where nothing is raised in the end, what is raised is raised by the element itself. -/
theorem operate_raised {β : Type} {l : Locator} {operation : String}
    {rest : Element → Proc Page β} (hrest : ∀ e page e', (rest e page).1 ≠ .raised e')
    {page : Page} {e : Raised} (h : ((operate l operation >>= rest) page).1 = .raised e) :
    (operate l operation page).1 = .raised e := by
  rcases Proc.bind_raises_iff.1 h with h | ⟨found, page', -, h⟩
  · exact h
  · exact absurd h (hrest found page' e)

/-- A click can only change the title. -/
theorem SameValues.clicked (e : Element) (page : Page) :
    page.SameValues (Page.clicked e page).2 := by
  simp only [Page.clicked, Proc.update]
  split <;> exact ⟨rfl, fun _ => rfl⟩

/-- The element takes a value. -/
theorem setValue_run (e : Element) (value : Value) (page : Page) :
    ((setValue e value page).2.condition e.label).value = value := by
  have hchanged : (setValue e value page).2 =
      page.changeCondition e.label fun c => { c with value } := rfl
  rw [hchanged, condition_changeCondition, if_pos rfl]

end Page

variable {page : Page} {l : Locator} {text : Value}

/-- A call that is answered is one that the page answers. -/
theorem answer_of_reply {k : Call} {a : k.Reply} (h : pageDriver.reply k page = .done a) :
    ∃ last, Page.answer k page = (.done a, last) ∧ pageDriver.worldAfter k page = last := by
  refine ⟨_, Prod.ext ?_ rfl, rfl⟩
  have hreply : (Page.answer k page).1.leaving = .done a := h
  rcases hanswer : (Page.answer k page).1 with a' | e | _ <;> rw [hanswer] at hreply <;>
    cases hreply
  rfl

/-- An error of the driver is one of the page on its way out. -/
theorem answer_of_raised {k : Call} {e : Raised} (h : pageDriver.reply k page = .raised e) :
    ∃ e', (Page.answer k page).1 = .raised e' ∧ e = e'.leaving := by
  have hreply : (Page.answer k page).1.leaving = .raised e := h
  rcases hanswer : (Page.answer k page).1 with a | e' | _ <;> rw [hanswer] at hreply <;>
    cases hreply
  exact ⟨e', rfl, rfl⟩

/-- Filling raises nothing but what the element raises, whatever the text is. -/
theorem fill_raised {e : Raised} (h : pageDriver.reply (.fill l text) page = .raised e) :
    ∃ e', (Page.operate l "fill" page).1 = .raised e' ∧ e = e'.leaving := by
  obtain ⟨e', hanswer, he⟩ := answer_of_raised h
  exact ⟨e', Page.operate_raised (fun _ _ _ hset => by cases hset) hanswer, he⟩

/-- So it is with asking for an option. -/
theorem selectOption_raised {e : Raised}
    (h : pageDriver.reply (.selectOption l text) page = .raised e) :
    ∃ e', (Page.operate l "select_option" page).1 = .raised e' ∧ e = e'.leaving := by
  obtain ⟨e', hanswer, he⟩ := answer_of_raised h
  refine ⟨e', Page.operate_raised (fun _ _ _ => ?_) hanswer, he⟩
  split <;> exact fun hset => by cases hset

theorem tagName_done {tag : String} (h : pageDriver.reply (.tagName l) page = .done tag) :
    ∃ e, page.elementAt l = .ok e ∧ e.tag = tag ∧
      page.SameValues (pageDriver.worldAfter (.tagName l) page) := by
  obtain ⟨last, hanswer, hafter⟩ := answer_of_reply h
  obtain ⟨e, page', hrun, hlast⟩ := Proc.bind_eq_done_iff.1 hanswer
  obtain ⟨hat, hsame⟩ := Page.operate_done hrun
  cases hlast
  exact ⟨e, hat, rfl, hafter ▸ hsame⟩

theorem click_done {timeout : Value} (h : pageDriver.reply (.click l timeout) page = .done ()) :
    page.SameValues (pageDriver.worldAfter (.click l timeout) page) := by
  obtain ⟨last, hanswer, hafter⟩ := answer_of_reply h
  obtain ⟨e, page', hrun, hlast⟩ := Proc.bind_eq_done_iff.1 hanswer
  have hclicked := Page.SameValues.clicked e page'
  rw [hlast] at hclicked
  exact hafter ▸ (Page.operate_done hrun).2.trans hclicked

theorem fill_done (h : pageDriver.reply (.fill l text) page = .done ()) :
    ∃ e, page.elementAt l = .ok e ∧
      ((pageDriver.worldAfter (.fill l text) page).condition e.label).value = text := by
  obtain ⟨last, hanswer, hafter⟩ := answer_of_reply h
  obtain ⟨e, page', hrun, hlast⟩ := Proc.bind_eq_done_iff.1 hanswer
  have hset := Page.setValue_run e text page'
  rw [hlast] at hset
  exact ⟨e, (Page.operate_done hrun).1, hafter ▸ hset⟩

/-- The answer to a choice tells whether there is such an option. -/
theorem selectOption_done {chosen : List Value}
    (h : pageDriver.reply (.selectOption l text) page = .done chosen) :
    ∃ e, page.elementAt l = .ok e ∧ chosen.isEmpty = !Page.isOption e text ∧
      ((pageDriver.worldAfter (.selectOption l text) page).condition e.label).value =
        if Page.isOption e text then text else (page.condition e.label).value := by
  obtain ⟨last, hanswer, hafter⟩ := answer_of_reply h
  obtain ⟨e, page', hrun, hlast⟩ := Proc.bind_eq_done_iff.1 hanswer
  obtain ⟨hat, hsame⟩ := Page.operate_done hrun
  refine ⟨e, hat, ?_⟩
  rw [hafter]
  by_cases hoption : Page.isOption e text
  · rw [if_pos hoption] at hlast ⊢
    have hset := Page.setValue_run e text page'
    cases hlast
    exact ⟨by rw [hoption]; rfl, hset⟩
  · rw [if_neg hoption] at hlast ⊢
    cases hlast
    exact ⟨by rw [Bool.eq_false_iff.mpr hoption]; rfl, hsame.value e.label⟩

end BrowserFlow.Rehearsal
