import BrowserFlow.Rehearsal.Given
import BrowserFlow.Rehearsal.Signature
import BrowserFlow.Steps.Branch
import BrowserFlow.Steps.Filter
import BrowserFlow.Steps.Handover
import BrowserFlow.Steps.Probe
import BrowserFlow.Steps.Retry

/-!
# Steps by name

The steps of the library by their names, with their arguments by name. An argument that is left out
has its default, if it has one.
-/
namespace BrowserFlow.Rehearsal

variable {σ : Type}

def signatures : List (String × Signature) :=
  let finder := fun needed => Signature.takes [needed] ["index", "timeout"]
  let collector := fun needed => Signature.takes [needed] ["timeout"]
  [("find", finder "selector"), ("find_last", collector "selector"),
    ("find_all", collector "selector"), ("find_xpath", finder "xpath"),
    ("find_all_xpath", collector "xpath"), ("relative_find", finder "selector"),
    ("relative_find_all", collector "selector"), ("relative_find_xpath", finder "xpath"),
    ("relative_find_all_xpath", collector "xpath"),
    ("if_exists", .takes ["selector"] ["on_true", "on_false", "timeout"]),
    ("collection_filter", .takes ["pick"] ["name"]), ("first_containing_text", .takes ["text"]),
    ("last_containing_text", .takes ["text"]), ("first_containing_item", .takes ["key"]),
    ("last_containing_item", .takes ["key"]), ("goto", .takes ["url"]),
    ("click", .takes [] ["selector", "index", "timeout"]), ("dbl_click", .takes [] ["selector"]),
    ("set_text", .takes ["text"] ["selector"]), ("press", .takes ["key"]), ("press_enter", {}),
    ("select_combo_text", .takes ["value"] ["selector"]),
    ("switch_to_frame", .takes ["iframe_selector"]), ("switch_to_default", {}),
    ("follow_link", .takes ["selector", "target_title"] ["timeout"]),
    ("store_text", .takes ["key"]), ("store_value", .takes ["key"]),
    ("set_item", .takes ["key", "value"]), ("clear_item", .takes [] ["key"]),
    ("assert_attribute_value", .takes ["attribute_name", "expected"]),
    ("assertion", .takes ["predicate", "message"]), ("assert_title", .takes ["expected"]),
    ("assert_text", .takes ["expected"] ["contains"]), ("create_failure", .takes ["problem"]),
    ("when", .takes ["predicate", "step"] ["otherwise"]),
    ("repeat_while", .takes ["predicate", "step"] ["max_iterations"]),
    ("retry_step", .takes ["step"] ["max_attempts", "backoff", "base_delay_ms"]),
    ("use", .takes ["action"] ["step"]), ("use_element", .takes ["action"] ["step"])]

/-- The step of the library with a name. -/
def stepNamed (function : String) (args : Arguments σ) : Except Raised (Step σ) := do
  match signatures.lookup function with
  | some s => s.checkNames function (args.entries.map (·.1))
  | none => pure ()
  let selector := args.value "selector"
  let path := args.value "xpath"
  let index := args.value "index" (.int 0)
  let timeout := args.value "timeout"
  match function with
  | "find" => .ok (.find selector index timeout)
  | "find_last" => .ok (.findLast selector timeout)
  | "find_all" => .ok (.findAll selector timeout)
  | "find_xpath" => .ok (.findPath path index timeout)
  | "find_all_xpath" => .ok (.findAllPath path timeout)
  | "relative_find" => .ok (.findUnder selector index timeout)
  | "relative_find_all" => .ok (.findAllUnder selector timeout)
  | "relative_find_xpath" => .ok (.findPathUnder path index timeout)
  | "relative_find_all_xpath" => .ok (.findAllPathUnder path timeout)
  | "if_exists" => do
    return .ifExists selector (← args.step? "on_true") (← args.step? "on_false")
      (args.value "timeout" (.int 0))
  | "collection_filter" =>
    .ok (.collectionFilter ((args.actor? "pick").map Actor.asPick)
      (if (args.get? "name").isSome then args.text? "name" else some "collection_filter"))
  | "first_containing_text" => .ok (.firstContainingText (args.value "text"))
  | "last_containing_text" => .ok (.lastContainingText (args.value "text"))
  | "first_containing_item" => .ok (.firstContainingItem (args.value "key"))
  | "last_containing_item" => .ok (.lastContainingItem (args.value "key"))
  | "goto" => .ok (.goto (args.value "url"))
  | "click" => .ok (.click selector index timeout)
  | "dbl_click" => .ok (.doubleClick selector)
  | "set_text" => Step.setText (args.value "text") selector
  | "press" => .ok (.press (args.value "key"))
  | "press_enter" => .ok .pressEnter
  | "select_combo_text" => .ok (.selectComboText (args.value "value") selector)
  | "script" => .ok (.script (args.value "source") (args.list "args"))
  | "switch_to_frame" => .ok (.switchToFrame (args.value "iframe_selector"))
  | "switch_to_default" => .ok .switchToDefault
  | "follow_link" => .ok (.followLink selector (args.value "target_title") timeout)
  | "store_text" => .ok (.storeText (args.value "key"))
  | "store_value" => .ok (.storeValue (args.value "key"))
  | "set_item" => Step.storing (args.value "key") (args.value "value")
  | "clear_item" => .ok (.clearItem (args.value "key"))
  | "assert_attribute_value" =>
    Step.assertAttribute (args.value "attribute_name") (args.value "expected")
  | "assertion" =>
    .ok (.assertion ((args.actor? "predicate").map Actor.asPredicate) (args.message "message"))
  | "assert_title" => .ok (.assertTitle (args.value "expected"))
  | "assert_text" => .ok (.assertText (args.value "expected") (args.value "contains" (.bool false)))
  | "create_failure" => .ok (.createFailure (args.problem "problem"))
  | "when" => do
    return .when ((args.actor? "predicate").map Actor.asPredicate) (← args.step? "step")
      (← args.step? "otherwise")
  | "repeat_while" => do
    return .repeatWhile ((args.actor? "predicate").map Actor.asPredicate) (← args.step? "step")
      (args.value "max_iterations")
  | "retry_step" => do
    return .retrying (← args.step "step") (args.value "max_attempts" (.int 3))
      (args.value "backoff")
      (args.value "base_delay_ms")
  | "use" => do return .use ((args.actor? "action").map Actor.asValue) (← args.step? "step")
  | "use_element" => do
    return .useElement ((args.actor? "action").map Actor.asElementAction) (← args.step? "step")
  | name => .error (.ofText (.foreign "AttributeError")
      ("module has no attribute " ++ Text.quoted name))

end BrowserFlow.Rehearsal
